import Trokk.InterruptedTicks
import Trokk.Permanence
import Trokk.TickRules

-- What the row of a task holds in each status, in every state of the system, and
-- that its status only goes forward.
namespace Trokk
open Program Evolution

def TaskRow.Recorded (t : TaskRow) : Prop :=
  match t.status with
  | .pending | .running => t.result = none ∧ t.completedAt = none
  | .complete => (∃ finding, t.result = some (findingResult finding)) ∧ t.completedAt.isSome
  | .failed => (∃ error, t.result = some (.obj [("error",.str error)])) ∧ t.completedAt.isSome

def TaskStatus.rank : TaskStatus → Nat
  | .pending => 0
  | .running => 1
  | .complete | .failed => 2

structure TaskRow.Advances (t u : TaskRow) : Prop where
  id : u.id = t.id
  rank : t.status.rank ≤ u.status.rank

theorem TaskRow.Advances.refl (t : TaskRow) : t.Advances t := ⟨rfl,Nat.le_refl _⟩
theorem TaskRow.Advances.trans (a b c : TaskRow) (one : a.Advances b) (two : b.Advances c) : a.Advances c :=
  ⟨two.id.trans one.id,Nat.le_trans one.rank two.rank⟩

def TasksAdvance (db db' : Database) : Prop := Evolves TaskRow.Advances db.investigationTasks db'.investigationTasks

theorem TasksAdvance.refl (db : Database) : TasksAdvance db db := evolves_refl TaskRow.Advances.refl _
theorem TasksAdvance.trans (a b c : Database) (one : TasksAdvance a b) (two : TasksAdvance b c) : TasksAdvance a c :=
  Evolves.trans TaskRow.Advances.trans one two

theorem rank_le (status : TaskStatus) : status.rank ≤ 2 := by
  cases status <;> decide

structure Ledgered (tasks : List TaskRow) : Prop where
  ids : (tasks.map TaskRow.id).Nodup
  recorded : ∀ t ∈ tasks, t.Recorded

def Session.Ledgered (l : Session) : Prop := ∀ tx ∈ l.tx, Trokk.Ledgered tx.tasks

-- complete_task comes with the result that the orchestrator builds.
def Statement.records : Statement → Prop
  | .completeTask _ result => ∃ finding, result = findingResult finding
  | _ => True

variable {db db' : Database} {l : Session}

theorem editTask_ledgered (ledgered : Ledgered db.investigationTasks) {edit : TaskRow → TaskRow} (keeps : ∀ t, (edit t).id = t.id)
    (records : ∀ t ∈ db.investigationTasks, t.id = target → t.Recorded → (edit t).Recorded) :
    Ledgered (db.editTask target edit).investigationTasks := by
  refine ⟨?_,fun t member => ?_⟩
  · rw [Database.editTask,edits_kept keeps]
    exact ledgered.ids
  · obtain ⟨old,present,rfl⟩ := List.mem_map.mp member
    split
    · rename_i same
      exact records old present same (ledgered.recorded old present)
    · exact ledgered.recorded old present

-- A claim finds a pending row, and no other row has its id.
theorem claimed_pending (ledgered : Ledgered db.investigationTasks) (found : oldestPending db agent type = some task)
    (present : t ∈ db.investigationTasks) (same : t.id = task.id) : t.status = .pending := by
  obtain ⟨there,-,pending,-⟩ := oldestPending_mem found
  cases List.inj_on_of_nodup_map ledgered.ids present there same
  exact pending

theorem commit_ledgered {tx : Transaction} (ledgered : Ledgered db.investigationTasks) (drafted : Ledgered tx.tasks)
    (fresh : ∀ t ∈ tx.tasks, ∀ old ∈ db.investigationTasks, old.id ≠ t.id) :
    Ledgered (db.investigationTasks ++ tx.tasks) := by
  refine ⟨nodup_append ledgered.ids drafted.ids fresh,fun t member => ?_⟩
  cases List.mem_append.mp member with
  | inl old => exact ledgered.recorded t old
  | inr added => exact drafted.recorded t added

theorem effect_ledgered (effect : Effect c db l s db') (records : s.records) (ledgered : Ledgered db.investigationTasks)
    (mine : l.Ledgered) : Ledgered db'.investigationTasks := by
  cases effect with
  | commit opened _ fresh => exact commit_ledgered ledgered (mine _ opened) fresh
  | pendingTask found =>
    refine editTask_ledgered ledgered (fun _ => rfl) fun t present same recorded => ?_
    rw [TaskRow.Recorded,claimed_pending ledgered found present same] at recorded
    exact recorded
  | completeTask =>
    obtain ⟨finding,rfl⟩ := records
    exact editTask_ledgered ledgered (fun _ => rfl) fun _ _ _ _ => ⟨⟨finding,rfl⟩,rfl⟩
  | failTask => exact editTask_ledgered ledgered (fun _ => rfl) fun _ _ _ _ => ⟨⟨_,rfl⟩,rfl⟩
  | toggle =>
    rw [toggled_eq]
    exact ledgered
  | _ => exact ledgered

theorem editTask_advances {edit : TaskRow → TaskRow} (keeps : ∀ t, (edit t).id = t.id)
    (forward : ∀ t ∈ db.investigationTasks, t.id = target → t.status.rank ≤ (edit t).status.rank) :
    TasksAdvance db (db.editTask target edit) := by
  refine evolves_map fun t present => ?_
  split
  · rename_i same
    exact ⟨keeps t,forward t present same⟩
  · exact .refl t

theorem effect_advances (effect : Effect c db l s db') (ledgered : Ledgered db.investigationTasks) : TasksAdvance db db' := by
  cases effect with
  | commit => exact evolves_append TaskRow.Advances.refl _ _
  | pendingTask found =>
    refine editTask_advances (fun _ => rfl) fun t present same => ?_
    rw [claimed_pending ledgered found present same]
    exact Nat.zero_le _
  | completeTask => exact editTask_advances (fun _ => rfl) fun t _ _ => rank_le t.status
  | failTask => exact editTask_advances (fun _ => rfl) fun t _ _ => rank_le t.status
  | toggle =>
    rw [toggled_eq]
    exact TasksAdvance.refl db
  | _ => exact TasksAdvance.refl db

-- What holds of an empty transaction and lasts while rows are drafted in it.
structure Drafting (J : Transaction → Prop) : Prop where
  empty : ∀ now, J ⟨now,[],[]⟩
  investigation : ∀ tx i, i.status = .inProgress → i.report = none → i.completedAt = none → J tx →
    J {tx with investigations := tx.investigations ++ [i]}
  task : ∀ tx t, t.status = .pending → t.result = none → t.completedAt = none → (∀ old ∈ tx.tasks, old.id ≠ t.id) → J tx →
    J {tx with tasks := tx.tasks ++ [t]}

theorem perform_drafting {J : Transaction → Prop} (drafting : Drafting J) (mine : ∀ tx ∈ l.tx, J tx)
    (done : perform c db l s = .ok (r,db',l')) : ∀ tx ∈ l'.tx, J tx := by
  cases s
  case insertInvestigation =>
    obtain ⟨tx,opened,rfl,-,rfl,-⟩ := insertInvestigation_done done
    intro grown same
    cases same
    exact drafting.investigation tx _ rfl rfl rfl (mine tx opened)
  case insertTask =>
    obtain ⟨tx,opened,rfl,-,rfl,fresh,-⟩ := insertTask_done done
    intro grown same
    cases same
    exact drafting.task tx _ rfl rfl rfl fresh (mine tx opened)
  case commit =>
    obtain ⟨_,-,-,rfl,-⟩ := commit_done done
    exact nofun
  all_goals simp only [perform] at done
  case begin =>
    cases done
    intro tx opened
    cases opened
    exact drafting.empty _
  all_goals (repeat' split at done) <;> cases done <;> exact mine

theorem exec_drafting {J : Transaction → Prop} (drafting : Drafting J) (s : Statement) (c : Choice) (db : Database)
    (mine : ∀ tx ∈ l.tx, J tx) : ∀ tx ∈ (exec s c db l).2.2.tx, J tx := by
  unfold exec
  split
  · exact nofun
  · cases done : perform c db l s with
    | error e => exact nofun
    | ok result => exact perform_drafting drafting mine done
  · cases done : perform c db l s with
    | error e => exact nofun
    | ok result => exact nofun

theorem ledgered_drafting : Drafting fun tx => Ledgered tx.tasks where
  empty := fun _ => ⟨List.nodup_nil,List.forall_mem_nil _⟩
  investigation := fun _ _ _ _ _ ledgered => ledgered
  task := fun tx t pending result completed fresh ledgered => by
    refine ⟨nodup_snoc ledgered.ids fresh,fun row member => ?_⟩
    cases List.mem_append.mp member with
    | inl old => exact ledgered.recorded row old
    | inr added =>
      rw [List.mem_singleton.mp added,TaskRow.Recorded,pending]
      exact ⟨result,completed⟩

theorem exec_keeps_ledgered : Keeps exec Statement.records (fun db => Ledgered db.investigationTasks) (fun _ l => l.Ledgered)
    Session.fresh where
  shared := fun s c db l records ledgered mine => effect_ledgered (exec_effect c db l s) records ledgered mine
  session := fun s c db _ _ _ mine => exec_drafting ledgered_drafting s c db mine
  others := fun _ _ _ _ _ _ _ _ theirs => theirs
  fresh := fun _ _ => nofun

theorem requested_records (requested : Statement.requested route s) : s.records := by
  cases s with
  | completeTask => exact requested.elim
  | _ => trivial

theorem workTask_records (agent : Specialist) (task : TaskRow) : (workTask agent task).Only Statement.records := by
  have published (s : Statement) (publishes : s.publishes) : s.records := by
    cases s with
    | completeTask => exact publishes.elim
    | _ => trivial
  refine Method.Only.attempt ?_ fun _ => fetch_only trivial
  refine Method.Only.bind (Method.Only.lift (only_imp (agent.publishes _ _ _) published)) fun result => ?_
  split
  · exact fetch_only trivial
  · exact fetch_only ⟨_,rfl⟩

theorem handle_agent_tick_records (agent_id : Uuid) (registry : List (String × AgentClass)) :
    (handle_agent_tick agent_id registry).Only Statement.records := by
  induction registry with
  | nil => exact Method.Only.pure _
  | cons entry rest ih =>
    refine Method.Only.bind ?_ fun _ => ih
    refine Method.Only.bind (fetch_only trivial) fun found => ?_
    cases found with
    | none => exact Method.Only.pure _
    | some task => exact Method.Only.bind (agentFor_only _ _) fun agent => workTask_records agent task

theorem tick_records (runtime : Runtime) : (tick runtime).Only Statement.records := by
  refine (only_rules Statement.records).tick (fun s routine => ?_) (fun id question findings => Method.Only.lift ?_) fun agent_id =>
    handle_agent_tick_records agent_id runtime.registry
  · cases s with
    | completeTask => exact routine.elim
    | _ => trivial
  · refine only_imp (runtime.chats id question findings) fun s chats => ?_
    cases s with
    | completeTask => exact chats.elim
    | _ => trivial

theorem starts_records (starts : Starts adminKey runtime t x) : x.Only Statement.records := by
  cases starts with
  | request => exact serving_only (fun _ => requested_records) adminKey
  | tick => exact ticking_only (tick_records runtime) _

theorem tasks_recorded (ledgered : Ledgered db.investigationTasks) (run : SystemRuns adminKey runtime (Pool.idle db) p)
    (later : SystemRuns adminKey runtime p q) :
    (∀ t ∈ q.shared.investigationTasks, t.Recorded) ∧ TasksAdvance p.shared q.shared := by
  have begins (worker : Worker) (x : Api Answer) (starts : Starts adminKey runtime worker x) := starts_records starts
  have kept : p.Kept Statement.records (fun db => Ledgered db.investigationTasks) fun _ l => l.Ledgered :=
    Pool.runs_kept exec_keeps_ledgered begins (Pool.idle_kept ledgered) run
  obtain ⟨still,advanced⟩ := Pool.runs_moved TasksAdvance.refl TasksAdvance.trans exec_keeps_ledgered
    (fun s c d l _ ledgered _ => effect_advances (exec_effect c d l s) ledgered) begins kept later
  exact ⟨still.holds.recorded,advanced⟩

-- A tick claims the one task, asks the model and completes the task.
def Runtime.begun : System := ⟨.forcedAsked,Function.update (fun _ => none) (.orchestrator 0) (some (ticking .chatting [],.fresh))⟩
def Runtime.claimed : System := Runtime.begun.acts exec (List.replicate 3 (.orchestrator 0,.sample))
def Runtime.worked : System := Runtime.claimed.acts exec (List.replicate 2 (.orchestrator 0,.sample))

theorem forcedAsked_ledgered : Ledgered Database.forcedAsked.investigationTasks := by
  refine ⟨by decide,fun t member => ?_⟩
  rw [List.mem_singleton.mp member]
  exact ⟨rfl,rfl⟩

theorem claimed_runs : SystemRuns "rp_admin" .chatting (Pool.idle .forcedAsked) Runtime.claimed :=
  Pool.acts_runs (.step .start (.begin rfl .tick)) _

theorem tasks_recorded_sample : Runtime.worked.shared.investigationTasks.map TaskRow.status = [.complete] ∧
    (∀ t ∈ Runtime.worked.shared.investigationTasks, t.Recorded) ∧ TasksAdvance Runtime.claimed.shared Runtime.worked.shared :=
  ⟨by decide +kernel,tasks_recorded forcedAsked_ledgered claimed_runs (Pool.acts_runs .start _)⟩

end Trokk
