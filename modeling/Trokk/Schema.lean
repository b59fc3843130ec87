import Mathlib.Algebra.Group.Int.Defs
import Mathlib.Algebra.Group.Nat.Defs
import Mathlib.Algebra.GroupWithZero.Nat
import Mathlib.Data.List.Nodup
import Mathlib.Order.Fin.Basic
import Mathlib.Order.WithBot
import Trokk.Library.Json

-- The tables of migrations/, one row type each. A table is the list of its
-- committed rows in physical order; a query may not rely on that order.
namespace Trokk

abbrev Uuid := Fin (2^128)

instance uuidNeZero : NeZero (2^128) := ⟨by decide⟩

-- timestamptz keeps microseconds; zero is the Unix epoch.
abbrev Timestamptz := Int

-- The columns of agents without NOT NULL that the program scans into Go values are
-- options. The created_at of the other tables, which every INSERT leaves to its default,
-- is taken as present.
structure AgentRow where
  id : Uuid
  username : String
  displayName : String
  description : Option String
  personality : Option Json
  apiKey : String
  createdAt : Option Timestamptz
  active : Option Bool
  deriving DecidableEq, Repr, Inhabited

-- ORDER BY takes NULL for later than every instant.
def AgentRow.created (a : AgentRow) : WithTop Timestamptz := a.createdAt

structure MessageRow where
  id : Uuid
  agentId : Uuid
  content : String
  parentMsgId : Option Uuid
  createdAt : Timestamptz
  deriving DecidableEq, Repr

-- One row of endorsements or of propagations. Nothing reads their created_at.
structure ToggleRow where
  agentId : Uuid
  messageId : Uuid
  deriving DecidableEq, Repr

structure SignalRow where
  id : Uuid
  signalType : String
  agentId : Option Uuid
  createdAt : Timestamptz
  processed : Bool
  deriving DecidableEq, Repr

-- The statuses that the comment beside the column lists.
inductive InvestigationStatus where
  | pending | inProgress | consensus | complete | failed
  deriving DecidableEq, Repr

inductive TaskStatus where
  | pending | running | complete | failed
  deriving DecidableEq, Repr

structure InvestigationRow where
  id : Uuid
  question : String
  status : InvestigationStatus
  report : Option Json
  createdAt : Timestamptz
  completedAt : Option Timestamptz
  deriving DecidableEq, Repr

structure TaskRow where
  id : Uuid
  investigationId : Uuid
  agentId : Uuid
  taskType : String
  taskPrompt : String
  status : TaskStatus
  result : Option Json
  createdAt : Timestamptz
  completedAt : Option Timestamptz
  deriving DecidableEq, Repr

structure Database where
  agents : List AgentRow := []
  messages : List MessageRow := []
  endorsements : List ToggleRow := []
  propagations : List ToggleRow := []
  controlSignals : List SignalRow := []
  investigations : List InvestigationRow := []
  investigationTasks : List TaskRow := []
  deriving DecidableEq, Repr

-- The primary keys, unique columns and references that Postgres enforces.
structure Database.Valid (db : Database) : Prop where
  agentIds : (db.agents.map AgentRow.id).Nodup
  usernames : (db.agents.map AgentRow.username).Nodup
  apiKeys : (db.agents.map AgentRow.apiKey).Nodup
  messageIds : (db.messages.map MessageRow.id).Nodup
  authors : ∀ m ∈ db.messages, ∃ a ∈ db.agents, a.id = m.agentId
  parents : ∀ m ∈ db.messages, ∀ parent ∈ m.parentMsgId, ∃ p ∈ db.messages, p.id = parent
  endorsementKeys : db.endorsements.Nodup
  endorsementRefs : ∀ e ∈ db.endorsements,
    (∃ a ∈ db.agents, a.id = e.agentId) ∧ ∃ m ∈ db.messages, m.id = e.messageId
  propagationKeys : db.propagations.Nodup
  propagationRefs : ∀ p ∈ db.propagations,
    (∃ a ∈ db.agents, a.id = p.agentId) ∧ ∃ m ∈ db.messages, m.id = p.messageId
  signalIds : (db.controlSignals.map SignalRow.id).Nodup
  signalAgents : ∀ s ∈ db.controlSignals, ∀ agent ∈ s.agentId, ∃ a ∈ db.agents, a.id = agent
  investigationIds : (db.investigations.map InvestigationRow.id).Nodup
  taskIds : (db.investigationTasks.map TaskRow.id).Nodup
  taskInvestigations : ∀ t ∈ db.investigationTasks, ∃ i ∈ db.investigations, i.id = t.investigationId
  taskAgents : ∀ t ∈ db.investigationTasks, ∃ a ∈ db.agents, a.id = t.agentId

-- A small populated state for runs on fixed inputs: two authors and three
-- messages, two of them stamped with the same instant.
def Database.sample : Database where
  agents := [⟨1,"ada","Ada",some "",none,"tk_agent_ada",some 10,some true⟩,⟨2,"bob","Bob",some "",none,"tk_agent_bob",some 20,some true⟩]
  messages := [⟨11,1,"first",none,100⟩,⟨12,2,"second",none,200⟩,⟨13,1,"third",some 12,200⟩]
  endorsements := [⟨1,12⟩]

theorem Database.sample_valid : Database.sample.Valid := by
  constructor
  case parents => simp [Database.sample]
  case signalAgents => simp [Database.sample]
  all_goals decide

-- What a statement can report instead of a result.
inductive PgError where
  | badParameters        -- placeholders and arguments do not line up
  | uniqueViolation
  | foreignKeyViolation
  | invalidText          -- text and jsonb refuse NUL
  | noRows               -- pgx.ErrNoRows of a QueryRow
  | failed               -- connection, timeout, cancelled; a NULL that does not scan
  deriving DecidableEq, Repr

end Trokk
