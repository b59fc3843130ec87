import Trokk.Library.Placeholder
import Trokk.AgentStats
import Trokk.Statements

-- UpdateAgent of internal/store/pg/agents.go: the UPDATE that it assembles from the
-- fields present in the request, and what the statement does to the table.
namespace Trokk
open Placeholder Relational

inductive AgentColumn where
  | displayName | description | personality | active
  deriving DecidableEq

inductive AgentArg where
  | text (s : String)
  | json (value : Json)
  | bool (b : Bool)
  | uuid (id : Uuid)
  deriving DecidableEq

-- UPDATE agents SET ... WHERE id = $n RETURNING ...
structure AgentUpdate where
  sets : List (AgentColumn × Nat)
  id : Nat
  args : List AgentArg

-- One of the four ifs.
def setPresent (column : AgentColumn) : Option AgentArg → Assembly AgentColumn AgentArg → Assembly AgentColumn AgentArg
  | none,a => a
  | some value,a => a.set column value

def updateSets (req : UpdateAgentRequest) : Assembly AgentColumn AgentArg :=
  setPresent .active (req.active.map .bool) (setPresent .personality (req.personality.map .json)
    (setPresent .description (req.description.map .text) (setPresent .displayName (req.displayName.map .text) .start)))

def updateStatement (id : Uuid) (req : UpdateAgentRequest) : AgentUpdate :=
  let a := updateSets req
  ⟨a.sets,a.args.length + 1,a.args ++ [.uuid id]⟩

def AgentArg.storable : AgentArg → Bool
  | .text s => storableText s
  | .json value => storableJson value
  | _ => true

-- An argument has to be of its column's type.
def AgentColumn.assign (a : AgentRow) : AgentColumn → Option AgentArg → Option AgentRow
  | .displayName,some (.text s) => some {a with displayName := s}
  | .description,some (.text s) => some {a with description := some s}
  | .personality,some (.json value) => some {a with personality := some value}
  | .active,some (.bool b) => some {a with active := some b}
  | _,_ => none

def AgentUpdate.edit (u : AgentUpdate) (a : AgentRow) : Option AgentRow :=
  u.sets.foldlM (fun a (column,i) => column.assign a (argument u.args i)) a

def AgentUpdate.run (u : AgentUpdate) (agents : List AgentRow) : Except PgError (AgentRow × List AgentRow) :=
  if ¬ LinesUp (u.sets.map Prod.snd ++ [u.id]) u.args then .error .badParameters
  else if !u.args.all AgentArg.storable then .error .invalidText
  else match argument u.args u.id with
  | some (.uuid id) => match agents.find? (·.id = id) with
    | none => .error .noRows
    | some a => match u.edit a with
      | none => .error .badParameters
      | some row => .ok (row,agents.map fun b => if b.id = id then (u.edit b).getD b else b)
  | _ => .error .badParameters

namespace Store

def GetAgent (zone : Timestamptz → Int) (db : Database) (id : Uuid) : Except PgError Agent :=
  match db.agents.find? (·.id = id) with
  | none => .error .noRows
  | some a => a.scan zone

-- The statement has run when its row does not scan.
def UpdateAgent (zone : Timestamptz → Int) (db : Database) (id : Uuid) (req : UpdateAgentRequest) : Except PgError Agent × Database :=
  if (updateSets req).sets.length = 0 then (GetAgent zone db id,db)
  else match (updateStatement id req).run db.agents with
  | .error e => (.error e,db)
  | .ok (row,agents) => (row.scan zone,{db with agents := agents})

end Store

-- The fields present, each with its column.
def UpdateAgentRequest.fields (req : UpdateAgentRequest) : List (AgentColumn × AgentArg) :=
  (req.displayName.map fun s => (.displayName,.text s)).toList ++ (req.description.map fun s => (.description,.text s)).toList ++
    (req.personality.map fun value => (.personality,.json value)).toList ++ (req.active.map fun b => (.active,.bool b)).toList

-- A field that is present replaces the old value.
def Replaced (given : Option A) (before after : A) : Prop := (∀ value, given = some value → after = value) ∧ (given = none → after = before)

structure FieldsSet (req : UpdateAgentRequest) (before after : AgentRow) : Prop where
  displayName : Replaced req.displayName before.displayName after.displayName
  description : Replaced (req.description.map some) before.description after.description
  personality : Replaced (req.personality.map some) before.personality after.personality
  active : Replaced (req.active.map some) before.active after.active
  id : after.id = before.id
  username : after.username = before.username
  apiKey : after.apiKey = before.apiKey
  createdAt : after.createdAt = before.createdAt

structure Apart (req other : UpdateAgentRequest) : Prop where
  displayName : req.displayName = none ∨ other.displayName = none
  description : req.description = none ∨ other.description = none
  personality : req.personality = none ∨ other.personality = none
  active : req.active = none ∨ other.active = none

-- What an update owes its caller; `answered` are the stored rows that it has to return.
structure UpdatedExactly (answered : AgentRow → Prop) (zone : Timestamptz → Int) (db : Database) (id : Uuid)
    (req : UpdateAgentRequest) : Prop where
  bound : (updateSets req).bound [.uuid id] = req.fields.map fun (column,value) => (column,some value)
  present : ∀ a ∈ db.agents, a.id = id → ∃ row, FieldsSet req a row ∧
    (Store.UpdateAgent zone db id req).2 = {db with agents := db.agents.map fun b => if b.id = id then row else b} ∧
    (answered row → ∃ agent, (Store.UpdateAgent zone db id req).1 = .ok agent ∧ row.scan zone = .ok agent)
  missing : (∀ a ∈ db.agents, a.id ≠ id) → (∃ e, (Store.UpdateAgent zone db id req).1 = .error e) ∧
    (Store.UpdateAgent zone db id req).2 = db
  commute : ∀ id' other, other.storable = true → Apart req other →
    (Store.UpdateAgent zone (Store.UpdateAgent zone db id req).2 id' other).2 =
      (Store.UpdateAgent zone (Store.UpdateAgent zone db id' other).2 id req).2

theorem updateSets_fields (req : UpdateAgentRequest) : updateSets req = Assembly.start.setEach req.fields := by
  obtain ⟨displayName,description,personality,active⟩ := req
  cases displayName <;> cases description <;> cases personality <;> cases active <;> rfl

theorem updateSets_numbered (req : UpdateAgentRequest) : (updateSets req).Numbered := by
  rw [updateSets_fields]
  exact Assembly.setEach_numbered Assembly.start_numbered _

theorem updateSets_bound (req : UpdateAgentRequest) (id : Uuid) :
    (updateSets req).bound [.uuid id] = req.fields.map fun (column,value) => (column,some value) := by
  rw [Assembly.bound_more (updateSets_numbered req),updateSets_fields,Assembly.setEach_bound Assembly.start_numbered]
  rfl

theorem updateStatement_linesUp (id : Uuid) (req : UpdateAgentRequest) :
    LinesUp ((updateStatement id req).sets.map Prod.snd ++ [(updateStatement id req).id]) (updateStatement id req).args :=
  Assembly.linesUp_last (updateSets_numbered req) _

theorem updateStatement_storable (id : Uuid) (req : UpdateAgentRequest) :
    (updateStatement id req).args.all AgentArg.storable = req.storable := by
  have args : (updateStatement id req).args = req.fields.map Prod.snd ++ [.uuid id] := by
    have own : (updateSets req).args = req.fields.map Prod.snd := by
      rw [updateSets_fields,Assembly.setEach_args]
      rfl
    rw [← own]
    rfl
  rw [args]
  obtain ⟨displayName,description,personality,active⟩ := req
  cases displayName <;> cases description <;> cases personality <;> cases active <;>
    simp [UpdateAgentRequest.fields,UpdateAgentRequest.storable,AgentArg.storable,Bool.and_assoc]

-- Each assignment reaches its own column.
theorem updateStatement_edit (id : Uuid) (req : UpdateAgentRequest) (a : AgentRow) :
    (updateStatement id req).edit a = some (a.update req) := by
  have assigned : (updateStatement id req).edit a =
      ((updateSets req).bound [.uuid id]).foldlM (fun a entry => entry.1.assign a entry.2) a := by
    unfold AgentUpdate.edit Assembly.bound
    rw [List.foldlM_map]
    rfl
  rw [assigned,updateSets_bound]
  obtain ⟨displayName,description,personality,active⟩ := req
  cases displayName <;> cases description <;> cases personality <;> cases active <;> rfl

theorem updateStatement_run (id : Uuid) (req : UpdateAgentRequest) (agents : List AgentRow) :
    (updateStatement id req).run agents = if !req.storable then .error .invalidText else match agents.find? (·.id = id) with
      | none => .error .noRows
      | some a => .ok (a.update req,agents.map fun b => if b.id = id then b.update req else b) := by
  have found : argument (updateStatement id req).args (updateStatement id req).id = some (.uuid id) := Assembly.argument_last _ _
  unfold AgentUpdate.run
  rw [if_neg (not_not_intro (updateStatement_linesUp id req)),updateStatement_storable,found]
  simp only [updateStatement_edit,Option.getD_some]

-- The statement of the server's model is the one that is assembled.
theorem perform_updateAgent (c : Choice) (db : Database) (session : Session) (id : Uuid) (req : UpdateAgentRequest) :
    perform c db session (.updateAgent id req) =
      ((updateStatement id req).run db.agents).map fun (row,agents) => (row,{db with agents := agents},session) := by
  rw [updateStatement_run]
  unfold perform
  dsimp only
  split
  · rfl
  · cases db.agents.find? (·.id = id) <;> rfl

theorem update_id (a : AgentRow) (req : UpdateAgentRequest) : (a.update req).id = a.id := rfl

theorem update_empty (a : AgentRow) : a.update ⟨none,none,none,none⟩ = a := rfl

theorem updateSets_empty (req : UpdateAgentRequest) : (updateSets req).sets.length = 0 ↔ req = ⟨none,none,none,none⟩ := by
  obtain ⟨displayName,description,personality,active⟩ := req
  cases displayName <;> cases description <;> cases personality <;> cases active <;> simp [updateSets,setPresent,Assembly.set,Assembly.start]

theorem updated_agents (zone : Timestamptz → Int) (db : Database) (id : Uuid) (storable : req.storable = true) :
    (Store.UpdateAgent zone db id req).2 = {db with agents := db.agents.map fun b => if b.id = id then b.update req else b} := by
  have untouched (same : ∀ b ∈ db.agents, (if b.id = id then b.update req else b) = b) :
      db = {db with agents := db.agents.map fun b => if b.id = id then b.update req else b} := by
    rw [List.map_congr_left same,List.map_id']
  unfold Store.UpdateAgent
  split
  · rename_i empty
    obtain rfl := (updateSets_empty req).mp empty
    exact untouched fun b _ => by rw [update_empty,ite_self]
  · rw [updateStatement_run,if_neg (by simp [storable])]
    cases found : db.agents.find? (·.id = id) with
    | some a => rfl
    | none =>
      refine untouched fun b member => if_neg ?_
      have := List.find?_eq_none.mp found b member
      simpa using this

theorem replaced_getD (given : Option A) (before : A) : Replaced given before (given.getD before) := by
  cases given <;> simp [Replaced]

theorem replaced_orElse (given before : Option A) : Replaced (given.map some) before (given.orElse fun _ => before) := by
  cases given <;> simp [Replaced]

theorem update_fields (a : AgentRow) (req : UpdateAgentRequest) : FieldsSet req a (a.update req) :=
  ⟨replaced_getD _ _,replaced_orElse _ _,replaced_orElse _ _,replaced_orElse _ _,rfl,rfl,rfl,rfl⟩

theorem getD_apart (given other : Option A) (apart : given = none ∨ other = none) (before : A) :
    other.getD (given.getD before) = given.getD (other.getD before) := by
  rcases apart with rfl | rfl <;> rfl

theorem orElse_apart (given other : Option A) (apart : given = none ∨ other = none) (before : Option A) :
    (other.orElse fun _ => given.orElse fun _ => before) = given.orElse fun _ => other.orElse fun _ => before := by
  rcases apart with rfl | rfl <;> rfl

theorem update_apart (a : AgentRow) (apart : Apart req other) : (a.update req).update other = (a.update other).update req := by
  unfold AgentRow.update
  dsimp only
  rw [getD_apart _ _ apart.displayName,orElse_apart _ _ apart.description,orElse_apart _ _ apart.personality,
    orElse_apart _ _ apart.active]

theorem updated_commute (zone : Timestamptz → Int) (db : Database) (id id' : Uuid) (storable : req.storable = true)
    (other : req'.storable = true) (apart : Apart req req') :
    (Store.UpdateAgent zone (Store.UpdateAgent zone db id req).2 id' req').2 =
      (Store.UpdateAgent zone (Store.UpdateAgent zone db id' req').2 id req).2 := by
  rw [updated_agents zone _ id' other,updated_agents zone _ id storable,updated_agents zone _ id storable,updated_agents zone _ id' other]
  dsimp only
  rw [List.map_map,List.map_map]
  congr 1
  refine List.map_congr_left fun b _ => ?_
  simp only [Function.comp_apply]
  by_cases own : b.id = id
  · by_cases own' : b.id = id'
    · rw [if_pos own,if_pos own',if_pos ((update_id b req).trans own'),if_pos ((update_id b req').trans own)]
      exact update_apart b apart
    · rw [if_pos own,if_neg own',if_pos own,if_neg (fun same => own' ((update_id b req).symm.trans same))]
  · by_cases own' : b.id = id'
    · rw [if_neg own,if_pos own',if_neg (fun same => own ((update_id b req').symm.trans same))]
    · rw [if_neg own,if_neg own',if_neg own]

-- What comes back is the row that is stored, as it scans.
theorem updated_answer (zone : Timestamptz → Int) (keys : (db.agents.map AgentRow.id).Nodup) (storable : req.storable = true)
    (member : a ∈ db.agents) : (Store.UpdateAgent zone db a.id req).1 = (a.update req).scan zone := by
  have found : db.agents.find? (·.id = a.id) = some a := find_row keys member
  unfold Store.UpdateAgent
  split
  · rename_i empty
    obtain rfl := (updateSets_empty req).mp empty
    unfold Store.GetAgent
    rw [found]
    rfl
  · rw [updateStatement_run,if_neg (by simp [storable]),found]

theorem absent_answer (zone : Timestamptz → Int) {db : Database} {id : Uuid} (storable : req.storable = true) (missing : ∀ a ∈ db.agents, a.id ≠ id) :
    Store.UpdateAgent zone db id req = (.error .noRows,db) := by
  have absent : db.agents.find? (·.id = id) = none := List.find?_eq_none.mpr fun a member => by simpa using missing a member
  unfold Store.UpdateAgent
  split
  · rw [Store.GetAgent,absent]
  · rw [updateStatement_run,if_neg (by simp [storable]),absent]

-- The row is updated, and its NULL description does not scan.
theorem undescribed_update_fails : ¬ ∀ (zone : Timestamptz → Int) (db : Database) (id : Uuid) (req : UpdateAgentRequest),
    (db.agents.map AgentRow.id).Nodup → req.storable = true → UpdatedExactly (fun _ => True) zone db id req := by
  intro always
  let ada : AgentRow := ⟨1,"ada","Ada",none,none,"tk_agent_ada",some 10,some true⟩
  have updated := always (fun _ => 0) {agents := [ada]} 1 ⟨none,none,none,some false⟩ (by simp) rfl
  obtain ⟨row,_,_,answered⟩ := updated.present ada List.mem_cons_self rfl
  obtain ⟨agent,ok,_⟩ := answered trivial
  cases ok

-- A row that the program stored scans.
theorem partial_updates (zone : Timestamptz → Int) (db : Database) (id : Uuid) (req : UpdateAgentRequest)
    (keys : (db.agents.map AgentRow.id).Nodup) (storable : req.storable = true) :
    UpdatedExactly (fun row => row.scans = true) zone db id req where
  bound := updateSets_bound req id
  present a member own := by
    subst own
    refine ⟨a.update req,update_fields a req,?_,fun scans => ?_⟩
    · rw [updated_agents zone db a.id storable]
      congr 1
      refine List.map_congr_left fun b there => ?_
      by_cases same : b.id = a.id
      · rw [if_pos same,if_pos same,List.inj_on_of_nodup_map keys there member same]
      · rw [if_neg same,if_neg same]
    · rw [updated_answer zone keys storable member]
      exact ⟨_,AgentRow.scan_ok scans zone,AgentRow.scan_ok scans zone⟩
  missing missing := by
    rw [absent_answer zone storable missing]
    exact ⟨⟨_,rfl⟩,rfl⟩
  commute id' other storable' apart := updated_commute zone db id id' storable storable' apart

theorem partial_updates_sample : UpdatedExactly (fun row => row.scans = true) (fun _ => 0) .sample 2
    ⟨none,some "writes",none,some false⟩ := partial_updates _ _ _ _ (by decide) (by decide)

end Trokk
