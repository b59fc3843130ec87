import Trokk.StreamWalk
import Trokk.System

-- The keys and references that Postgres enforces hold after every statement of
-- every session, whatever the programs are.
namespace Trokk
open Program

def HasId (rows : List A) (key : A → Uuid) (target : Uuid) : Prop := ∃ row ∈ rows, key row = target

-- No statement removes an agent or an investigation.
structure Grows (db db' : Database) : Prop where
  agents : ∀ target, HasId db.agents AgentRow.id target → HasId db'.agents AgentRow.id target
  investigations : ∀ target, HasId db.investigations InvestigationRow.id target → HasId db'.investigations InvestigationRow.id target

-- What an open transaction has inserted, against the committed rows.
structure TxOk (db : Database) (tx : Transaction) : Prop where
  investigationIds : (tx.investigations.map InvestigationRow.id).Nodup
  taskIds : (tx.tasks.map TaskRow.id).Nodup
  taskInvestigations : ∀ t ∈ tx.tasks, HasId (db.investigations ++ tx.investigations) InvestigationRow.id t.investigationId
  taskAgents : ∀ t ∈ tx.tasks, HasId db.agents AgentRow.id t.agentId

def Session.Sound (db : Database) (session : Session) : Prop := ∀ tx ∈ session.tx, TxOk db tx

variable {db db' : Database} {session session' : Session}

section
variable {A B : Type} {rows more : List A} {key : A → Uuid} {target : Uuid}

theorem hasId_append (found : HasId rows key target) : HasId (rows ++ more) key target := by
  obtain ⟨row,member,same⟩ := found
  exact ⟨row,List.mem_append_left _ member,same⟩

theorem hasId_map {f : A → A} (keeps : ∀ row, key (f row) = key row) (found : HasId rows key target) :
    HasId (rows.map f) key target := by
  obtain ⟨row,member,same⟩ := found
  exact ⟨f row,List.mem_map_of_mem member,(keeps row).trans same⟩

theorem hasId_appended (found : HasId (rows ++ more) key target) : HasId rows key target ∨ HasId more key target := by
  obtain ⟨row,member,same⟩ := found
  exact (List.mem_append.mp member).imp (⟨row,·,same⟩) (⟨row,·,same⟩)

theorem nodup_append {column : A → B} (distinct : (rows.map column).Nodup) (others : (more.map column).Nodup)
    (fresh : ∀ row ∈ more, ∀ old ∈ rows, column old ≠ column row) : ((rows ++ more).map column).Nodup := by
  rw [List.map_append]
  refine distinct.append others ?_
  intro value left right
  obtain ⟨old,present,rfl⟩ := List.mem_map.mp left
  obtain ⟨row,added,same⟩ := List.mem_map.mp right
  exact fresh row added old present same.symm

theorem nodup_snoc {column : A → B} (distinct : (rows.map column).Nodup) (fresh : ∀ old ∈ rows, column old ≠ column row) :
    ((rows ++ [row]).map column).Nodup := by
  apply nodup_append distinct (by simp)
  intro added member
  rwa [List.mem_singleton.mp member]

theorem map_kept {column : A → B} {f : A → A} (keeps : ∀ row, column (f row) = column row) :
    (rows.map f).map column = rows.map column := by
  rw [List.map_map]
  exact List.map_congr_left fun row _ => keeps row

-- The rows of one id are edited.
theorem edit_kept {column : A → B} {edit : A → A} (keeps : ∀ row, column (edit row) = column row) (row : A) :
    column (if key row = target then edit row else row) = column row := by
  split
  · exact keeps row
  · rfl

theorem edits_kept {column : A → B} {edit : A → A} (keeps : ∀ row, column (edit row) = column row) :
    (rows.map fun row => if key row = target then edit row else row).map column = rows.map column :=
  map_kept (edit_kept keeps)

end

-- A new version of a table that keeps its keys, of the rows that others refer to
-- and of the references it holds.
theorem Database.Valid.agents (valid : db.Valid) (ids : (rows.map AgentRow.id).Nodup)
    (names : (rows.map AgentRow.username).Nodup) (keys : (rows.map AgentRow.apiKey).Nodup)
    (kept : ∀ target, HasId db.agents AgentRow.id target → HasId rows AgentRow.id target) : {db with agents := rows}.Valid :=
  { valid with
    agentIds := ids
    usernames := names
    apiKeys := keys
    authors := fun m member => kept _ (valid.authors m member)
    endorsementRefs := fun e member => ⟨kept _ (valid.endorsementRefs e member).1,(valid.endorsementRefs e member).2⟩
    propagationRefs := fun p member => ⟨kept _ (valid.propagationRefs p member).1,(valid.propagationRefs p member).2⟩
    signalAgents := fun s member agent isAgent => kept _ (valid.signalAgents s member agent isAgent)
    taskAgents := fun t member => kept _ (valid.taskAgents t member) }

theorem Database.Valid.editAgents (valid : db.Valid) {f : AgentRow → AgentRow}
    (keeps : ∀ a, (f a).id = a.id ∧ (f a).username = a.username ∧ (f a).apiKey = a.apiKey) :
    {db with agents := db.agents.map f}.Valid := by
  apply valid.agents
  · rw [map_kept fun a => (keeps a).1]
    exact valid.agentIds
  · rw [map_kept fun a => (keeps a).2.1]
    exact valid.usernames
  · rw [map_kept fun a => (keeps a).2.2]
    exact valid.apiKeys
  · exact fun _ => hasId_map fun a => (keeps a).1

theorem Database.Valid.editInvestigation (valid : db.Valid) {edit : InvestigationRow → InvestigationRow}
    (keeps : ∀ i, (edit i).id = i.id) : (db.editInvestigation target edit).Valid :=
  { valid with
    investigationIds := by
      rw [Database.editInvestigation,edits_kept keeps]
      exact valid.investigationIds
    taskInvestigations := fun t member => hasId_map (edit_kept keeps) (valid.taskInvestigations t member) }

structure KeepsTask (edit : TaskRow → TaskRow) : Prop where
  id : ∀ t, (edit t).id = t.id
  investigationId : ∀ t, (edit t).investigationId = t.investigationId
  agentId : ∀ t, (edit t).agentId = t.agentId

theorem Database.Valid.editTask (valid : db.Valid) {edit : TaskRow → TaskRow} (keeps : KeepsTask edit) :
    (db.editTask target edit).Valid :=
  { valid with
    taskIds := by
      rw [Database.editTask,edits_kept keeps.id]
      exact valid.taskIds
    taskInvestigations := by
      intro t member
      obtain ⟨old,present,rfl⟩ := List.mem_map.mp member
      rw [edit_kept keeps.investigationId]
      exact valid.taskInvestigations old present
    taskAgents := by
      intro t member
      obtain ⟨old,present,rfl⟩ := List.mem_map.mp member
      rw [edit_kept keeps.agentId]
      exact valid.taskAgents old present }

theorem Database.Valid.insertSignal (valid : db.Valid) (fresh : ∀ s ∈ db.controlSignals, s.id ≠ row.id)
    (agents : ∀ agent ∈ row.agentId, HasId db.agents AgentRow.id agent) :
    {db with controlSignals := db.controlSignals ++ [row]}.Valid :=
  { valid with
    signalIds := nodup_snoc valid.signalIds fresh
    signalAgents := by
      intro s member agent isAgent
      cases List.mem_append.mp member with
      | inl old => exact valid.signalAgents s old agent isAgent
      | inr isNew => exact agents agent (List.mem_singleton.mp isNew ▸ isAgent) }

theorem Database.Valid.editSignal (valid : db.Valid) {edit : SignalRow → SignalRow} (ids : ∀ s, (edit s).id = s.id)
    (agents : ∀ s, (edit s).agentId = s.agentId) : (db.editSignal target edit).Valid :=
  { valid with
    signalIds := by
      rw [Database.editSignal,edits_kept ids]
      exact valid.signalIds
    signalAgents := by
      intro s member
      obtain ⟨old,present,rfl⟩ := List.mem_map.mp member
      rw [edit_kept agents]
      exact valid.signalAgents old present }

theorem Database.Valid.commit (valid : db.Valid) (ok : TxOk db tx)
    (investigations : ∀ i ∈ tx.investigations, ∀ old ∈ db.investigations, old.id ≠ i.id)
    (tasks : ∀ t ∈ tx.tasks, ∀ old ∈ db.investigationTasks, old.id ≠ t.id) :
    {db with investigations := db.investigations ++ tx.investigations
             investigationTasks := db.investigationTasks ++ tx.tasks}.Valid :=
  { valid with
    investigationIds := nodup_append valid.investigationIds ok.investigationIds investigations
    taskIds := nodup_append valid.taskIds ok.taskIds tasks
    taskInvestigations := by
      intro t member
      cases List.mem_append.mp member with
      | inl old => exact hasId_append (valid.taskInvestigations t old)
      | inr added => exact ok.taskInvestigations t added
    taskAgents := by
      intro t member
      cases List.mem_append.mp member with
      | inl old => exact valid.taskAgents t old
      | inr added => exact ok.taskAgents t added }

theorem effect_valid (effect : Effect c db session s db') (valid : db.Valid) (sound : session.Sound db) : db'.Valid := by
  cases effect with
  | none => exact valid
  | insertAgent fresh =>
    apply valid.agents
    · exact nodup_snoc valid.agentIds fun a member => (fresh a member).1
    · exact nodup_snoc valid.usernames fun a member => (fresh a member).2.1
    · exact nodup_snoc valid.apiKeys fun a member => (fresh a member).2.2
    · exact fun _ => hasId_append
  | updateAgent =>
    apply valid.editAgents
    intro a
    split <;> exact ⟨rfl,rfl,rfl⟩
  | setAllActive => exact valid.editAgents fun _ => ⟨rfl,rfl,rfl⟩
  | insertMessage fresh author parents => exact insertMessage_valid valid ⟨fresh,author,parents⟩
  | @toggle key known =>
    apply toggled_valid valid
    cases known with
    | inr refs => exact refs
    | inl present =>
      obtain ⟨table,row⟩ := key
      cases table with
      | endorsements => exact ⟨(valid.endorsementRefs _ present).1,(valid.endorsementRefs _ present).2⟩
      | propagations => exact ⟨(valid.propagationRefs _ present).1,(valid.propagationRefs _ present).2⟩
  | insertSignal fresh agent =>
    apply valid.insertSignal fresh
    intro id isAgent
    cases isAgent
    exact agent
  | commit opened investigations tasks => exact valid.commit (sound _ opened) investigations tasks
  | updateInvestigationStatus => exact valid.editInvestigation fun _ => rfl
  | setInvestigationStatus => exact valid.editInvestigation fun _ => rfl
  | setInvestigationReport => exact valid.editInvestigation fun _ => rfl
  | markProcessed => exact valid.editSignal (fun _ => rfl) fun _ => rfl
  | pendingTask => exact valid.editTask ⟨fun _ => rfl,fun _ => rfl,fun _ => rfl⟩
  | completeTask => exact valid.editTask ⟨fun _ => rfl,fun _ => rfl,fun _ => rfl⟩
  | failTask => exact valid.editTask ⟨fun _ => rfl,fun _ => rfl,fun _ => rfl⟩

theorem Grows.refl (db : Database) : Grows db db := ⟨fun _ found => found,fun _ found => found⟩

theorem effect_grows (effect : Effect c db session s db') : Grows db db' := by
  cases effect with
  | insertAgent => exact ⟨fun _ => hasId_append,fun _ found => found⟩
  | updateAgent =>
    refine ⟨fun _ => hasId_map fun a => ?_,fun _ found => found⟩
    split <;> rfl
  | setAllActive => exact ⟨fun _ => hasId_map fun _ => rfl,fun _ found => found⟩
  | commit => exact ⟨fun _ found => found,fun _ => hasId_append⟩
  | updateInvestigationStatus => exact ⟨fun _ found => found,fun _ => hasId_map (edit_kept fun _ => rfl)⟩
  | setInvestigationStatus => exact ⟨fun _ found => found,fun _ => hasId_map (edit_kept fun _ => rfl)⟩
  | setInvestigationReport => exact ⟨fun _ found => found,fun _ => hasId_map (edit_kept fun _ => rfl)⟩
  | toggle =>
    rw [toggled_eq]
    exact ⟨fun _ found => found,fun _ found => found⟩
  | _ => exact ⟨fun _ found => found,fun _ found => found⟩

theorem Session.Sound.grows (sound : session.Sound db) (grows : Grows db db') : session.Sound db' := by
  intro tx opened
  have ok := sound tx opened
  refine ⟨ok.investigationIds,ok.taskIds,?_,fun t member => grows.agents _ (ok.taskAgents t member)⟩
  intro t member
  cases hasId_appended (ok.taskInvestigations t member) with
  | inl old =>
    obtain ⟨i,present,same⟩ := grows.investigations _ old
    exact ⟨i,List.mem_append_left _ present,same⟩
  | inr added =>
    obtain ⟨i,present,same⟩ := added
    exact ⟨i,List.mem_append_right _ present,same⟩

theorem fresh_sound (db : Database) : Session.fresh.Sound db := nofun
theorem rollback_sound (db : Database) (session : Session) : session.rollback.Sound db := nofun

theorem TxOk.insertInvestigation (ok : TxOk db tx) (fresh : ∀ old ∈ tx.investigations, old.id ≠ row.id) :
    TxOk db {tx with investigations := tx.investigations ++ [row]} := by
  refine ⟨nodup_snoc ok.investigationIds fresh,ok.taskIds,?_,ok.taskAgents⟩
  intro t member
  change HasId (db.investigations ++ (tx.investigations ++ [row])) _ _
  rw [← List.append_assoc]
  exact hasId_append (ok.taskInvestigations t member)

theorem TxOk.insertTask (ok : TxOk db tx) (fresh : ∀ old ∈ tx.tasks, old.id ≠ row.id)
    (investigation : HasId (db.investigations ++ tx.investigations) InvestigationRow.id row.investigationId)
    (agent : HasId db.agents AgentRow.id row.agentId) : TxOk db {tx with tasks := tx.tasks ++ [row]} := by
  refine ⟨ok.investigationIds,nodup_snoc ok.taskIds fresh,?_,?_⟩
  · intro t member
    cases List.mem_append.mp member with
    | inl old => exact ok.taskInvestigations t old
    | inr added => exact List.mem_singleton.mp added ▸ investigation
  · intro t member
    cases List.mem_append.mp member with
    | inl old => exact ok.taskAgents t old
    | inr added => exact List.mem_singleton.mp added ▸ agent

theorem perform_sound (sound : session.Sound db) (done : perform c db session s = .ok (r,db',session')) :
    session'.Sound db' := by
  have grows := effect_grows (perform_effect done)
  cases s
  case insertInvestigation =>
    obtain ⟨tx,opened,rfl,rfl,rfl,fresh⟩ := insertInvestigation_done done
    rintro _ ⟨⟩
    exact (sound tx opened).insertInvestigation fresh
  case insertTask =>
    obtain ⟨tx,opened,rfl,rfl,rfl,fresh,agent,investigation⟩ := insertTask_done done
    rintro _ ⟨⟩
    exact (sound tx opened).insertTask fresh investigation agent
  case commit =>
    obtain ⟨_,-,-,rfl,-⟩ := commit_done done
    exact rollback_sound _ _
  all_goals simp only [perform] at done
  case begin =>
    cases done
    intro tx opened
    cases opened
    exact ⟨List.nodup_nil,List.nodup_nil,List.forall_mem_nil _,List.forall_mem_nil _⟩
  all_goals (repeat' split at done) <;> cases done <;> exact sound.grows grows

theorem exec_valid (c : Choice) (s : Statement) (valid : db.Valid) (sound : session.Sound db) :
    (exec s c db session).2.1.Valid := effect_valid (exec_effect c db session s) valid sound

theorem exec_grows (s : Statement) (c : Choice) (db : Database) (session : Session) : Grows db (exec s c db session).2.1 :=
  effect_grows (exec_effect c db session s)

theorem exec_sound (c : Choice) (s : Statement) (sound : session.Sound db) :
    (exec s c db session).2.2.Sound (exec s c db session).2.1 := by
  unfold exec
  split
  · exact rollback_sound _ _
  · cases done : perform c db session s with
    | error e => exact rollback_sound _ _
    | ok result => exact perform_sound sound done
  · cases done : perform c db session s with
    | error e => exact rollback_sound _ _
    | ok result => exact rollback_sound _ _

theorem exec_keeps_valid (P : Statement → Prop) : Keeps exec P Database.Valid (fun db session => session.Sound db) Session.fresh where
  shared := fun s c _ _ _ valid sound => exec_valid c s valid sound
  session := fun s c _ _ _ _ sound => exec_sound c s sound
  others := fun s c db l _ _ _ _ other => other.grows (exec_grows s c db l)
  fresh := fun db _ => fresh_sound db

end Trokk
