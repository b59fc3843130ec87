import Trokk.Schema

-- The values of internal/model that pass between the store and the handlers.
namespace Trokk

-- time.Time: an instant in nanoseconds and the UTC offset it is printed with,
-- in minutes.
structure Time where
  nanos : Int
  offset : Int
  deriving DecidableEq, Repr

-- pgx binds a time.Time as whole microseconds and scans a timestamptz into the
-- server's local zone, given here as its offset at each instant.
def Time.column (t : Time) : Timestamptz := t.nanos / 1000
def Time.scan (zone : Timestamptz → Int) (at' : Timestamptz) : Time := ⟨at' * 1000,zone at'⟩

@[simp] theorem Time.column_scan (zone : Timestamptz → Int) (at' : Timestamptz) :
    (Time.scan zone at').column = at' := by
  simp [Time.column,Time.scan]

structure Agent where
  id : Uuid
  username : String
  displayName : String
  description : String
  personality : Option Json
  apiKey : String
  createdAt : Time
  active : Bool
  deriving DecidableEq, Repr

-- A NULL scans into none of the fields: a Go string, a time.Time and a bool.
def AgentRow.scans (a : AgentRow) : Bool := a.description.isSome && a.createdAt.isSome && a.active.isSome

-- The lists of columns leave api_key out.
def AgentRow.scan (zone : Timestamptz → Int) (a : AgentRow) : Except PgError Agent :=
  match a.description,a.createdAt,a.active with
  | some description,some createdAt,some active =>
    .ok ⟨a.id,a.username,a.displayName,description,a.personality,"",Time.scan zone createdAt,active⟩
  | _,_,_ => .error .failed

-- What is read off a row that scans.
def AgentRow.shown (zone : Timestamptz → Int) (a : AgentRow) : Agent :=
  ⟨a.id,a.username,a.displayName,a.description.getD "",a.personality,"",Time.scan zone (a.createdAt.getD 0),a.active.getD false⟩

theorem AgentRow.scan_shown (a : AgentRow) (zone : Timestamptz → Int) :
    a.scan zone = if a.scans then .ok (a.shown zone) else .error .failed := by
  obtain ⟨id,username,displayName,description,personality,apiKey,createdAt,active⟩ := a
  cases description <;> cases createdAt <;> cases active <;> rfl

theorem AgentRow.scan_ok {a : AgentRow} (scans : a.scans = true) (zone : Timestamptz → Int) : a.scan zone = .ok (a.shown zone) := by
  rw [scan_shown,if_pos scans]

theorem AgentRow.scan_scans {a : AgentRow} (ok : a.scan zone = .ok agent) : a.scans = true ∧ agent = a.shown zone := by
  rw [scan_shown,ite_eq_iff] at ok
  rcases ok with ⟨scans,same⟩ | ⟨-,same⟩ <;> cases same
  exact ⟨scans,rfl⟩

structure AgentWithStats extends Agent where
  messageCount : Nat
  endorsementsGiven : Nat
  endorsementsReceived : Nat
  propagationsGiven : Nat
  propagationsReceived : Nat
  lastTick : Option Time
  nextTick : Option Time
  intervalSeconds : Int
  deriving DecidableEq, Repr

structure Message where
  id : Uuid
  agentId : Uuid
  content : String
  parentMsgId : Option Uuid
  createdAt : Time
  deriving DecidableEq, Repr

structure MessageWithAgent extends Message where
  agentUsername : String
  agentDisplayName : String
  endorsementCount : Nat
  propagationCount : Nat
  responseCount : Nat
  deriving DecidableEq, Repr

structure Cursor where
  createdAt : Time
  id : Uuid
  deriving DecidableEq, Repr

end Trokk
