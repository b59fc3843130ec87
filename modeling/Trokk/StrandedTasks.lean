import Trokk.ClaimedTasks
import Trokk.Integrity
import Trokk.Library.Transcript

-- The tasks that a call of _handle_agent_tick claims and does not end: building an
-- agent stands between the claim and the try.
namespace Trokk
open Program

abbrev Record := Entry Statement Statement.Result PgError Database Choice

def Database.taskStatus (db : Database) (task : Uuid) : Option TaskStatus :=
  (db.investigationTasks.find? (·.id = task)).map TaskRow.status

def Over (db : Database) (task : Uuid) : Prop := db.taskStatus task = some .complete ∨ db.taskStatus task = some .failed

-- The statement set the task to running.
def Claims (e : Record) (task : Uuid) : Prop := ∃ agent type t, e.statement = .pendingTask agent type ∧
  oldestPending e.before agent type = some t ∧ t.id = task ∧ e.after = e.before.editTask t.id fun t => {t with status := .running}

def Tidy (log : List Record) (db : Database) : Prop := ∀ e ∈ log, ∀ task, Claims e task → Over db task

-- The tick's own statements on tasks.
def Statement.works : Statement → Prop
  | .pendingTask .. | .completeTask .. | .failTask .. => True
  | _ => False

def Succeeded (e : Record) : Prop := e.statement.works → ∃ r, e.answer = .ok r

-- Some task of the type waits for the agent.
def Waits (db : Database) (agent : Uuid) (type : String) : Prop :=
  ∃ t ∈ db.investigationTasks, t.agentId = agent ∧ t.taskType = type ∧ t.status = .pending

def agentKey (agent : Uuid) (type : String) : String := type ++ "-" ++ String.ofList agent.text

-- An agent of the type is there, or can be built.
def Ready (agents : Agents) (agent : Uuid) (type : String) (cls : AgentClass) : Prop :=
  (agents.lookup (agentKey agent type)).isSome ∨ ∃ specialist, cls.create = .ok specialist

def Buildable (db : Database) (agents : Agents) (agent : Uuid) (registry : List (String × AgentClass)) : Prop :=
  ∀ entry ∈ registry, Waits db agent entry.1 → Ready agents agent entry.1 entry.2

section
variable {db db' : Database} {log : List Record} {agents : Agents} {l : Session}

theorem edited_status {edit : TaskRow → TaskRow} (keeps : ∀ t, (edit t).id = t.id)
    (edited : db'.investigationTasks = db.investigationTasks.map fun t => if t.id = target then edit t else t) (task : Uuid) :
    db'.taskStatus task = (db.investigationTasks.find? (·.id = task)).map fun t => (if t.id = target then edit t else t).status := by
  have same (t : TaskRow) : (if t.id = target then edit t else t).id = t.id := edit_kept keeps t
  simp only [Database.taskStatus,edited,List.find?_map,Function.comp_def,same,Option.map_map]

theorem status_other {edit : TaskRow → TaskRow} (keeps : ∀ t, (edit t).id = t.id)
    (edited : db'.investigationTasks = db.investigationTasks.map fun t => if t.id = target then edit t else t)
    (other : task ≠ target) : db'.taskStatus task = db.taskStatus task := by
  rw [edited_status keeps edited,Database.taskStatus]
  cases found : db.investigationTasks.find? (·.id = task) with
  | none => rfl
  | some t =>
    have own := (Relational.find_own found).2
    simp [own,other]

theorem status_own {edit : TaskRow → TaskRow} (keeps : ∀ t, (edit t).id = t.id)
    (edited : db'.investigationTasks = db.investigationTasks.map fun t => if t.id = target then edit t else t)
    (present : t ∈ db.investigationTasks) (own : t.id = target) : ∃ t, db'.taskStatus target = some (edit t).status := by
  obtain ⟨u,-,found,isTarget⟩ := Relational.find_present present own
  rw [edited_status keeps edited,found]
  exact ⟨u,by simp [isTarget]⟩

theorem closed_over {t : TaskRow} (closed : t.open = false) (status : db.taskStatus task = some t.status) : Over db task := by
  rw [Over,status]
  cases same : t.status with
  | complete => exact .inl rfl
  | failed => exact .inr rfl
  | pending => simp [TaskRow.open,same] at closed
  | running => simp [TaskRow.open,same] at closed

theorem running_not_over (running : db.taskStatus task = some .running) : ¬ Over db task := by
  rw [Over,running]
  intro finished
  cases finished with
  | inl same => cases same
  | inr same => cases same

theorem ended_over (ended : Ended task db.investigationTasks db'.investigationTasks) (present : t ∈ db.investigationTasks)
    (own : t.id = task) : Over db' task := by
  obtain ⟨edit,edited,keeps⟩ := ended
  obtain ⟨u,status⟩ := status_own (fun t => (keeps t).1.id) edited present own
  exact closed_over (keeps u).2 status

theorem ended_other (ended : Ended target db.investigationTasks db'.investigationTasks) (other : task ≠ target) :
    db'.taskStatus task = db.taskStatus task := by
  obtain ⟨edit,edited,keeps⟩ := ended
  exact status_other (fun t => (keeps t).1.id) edited other

theorem claimed_status (present : t ∈ db.investigationTasks) :
    (db.editTask t.id fun t => {t with status := .running}).taskStatus t.id = some .running := by
  have edited : (db.editTask t.id fun t => {t with status := .running}).investigationTasks =
    db.investigationTasks.map fun u => if u.id = t.id then {u with status := .running} else u := rfl
  obtain ⟨_,status⟩ := status_own (fun _ => by rfl) edited present rfl
  exact status

-- A statement that is answered in every good record.
theorem fetch_answers {good : Record → Prop} (s : Statement) (heard : ∀ e : Record, good e → e.statement = s → ∃ r, e.answer = .ok r) :
    (fetch s).Within exec good (fun result agents' db' l' log' => ∃ c r, result = .ok r ∧ agents' = agents ∧
      perform c db l s = .ok (r,db',l') ∧ log' = log ++ [⟨s,c,.ok r,db,db'⟩]) agents db l log := by
  apply Method.Within.lift
  refine Within.issue fun c => ?_
  cases answer : (exec s c db l).1 with
  | ok r =>
    have told : entry exec s c db l = ⟨s,c,.ok r,db,(exec s c db l).2.1⟩ := by rw [entry,answer]
    exact fun _ => ⟨c,r,rfl,rfl,exec_ok answer,by rw [told]⟩
  | error e =>
    intro all
    obtain ⟨r,ok⟩ := heard (entry exec s c db l) (all _ (List.mem_append_right _ (List.mem_singleton_self _))) rfl
    cases answer.symm.trans ok

theorem fetch_then {good : Record → Prop} {next : s.Result → Py B}
    {post : Except PyError B → Agents → Database → Session → List Record → Prop}
    (heard : ∀ e : Record, good e → e.statement = s → ∃ r, e.answer = .ok r)
    (then' : ∀ c r db' l', perform c db l s = .ok (r,db',l') →
      (next r).Within exec good post agents db' l' (log ++ [⟨s,c,.ok r,db,db'⟩])) :
    (fetch s >>= next).Within exec good post agents db l log := by
  apply Method.Within.bind (fetch_answers s heard)
  · intro r agents' db' l' log' told
    obtain ⟨c,_,same,rfl,done,rfl⟩ := told
    cases same
    exact then' c r db' l' done
  · intro e agents' db' l' log' told
    obtain ⟨_,_,same,-⟩ := told
    cases same

-- One of the tick's own statements, answered.
theorem fetch_works (s : Statement) (works : s.works) {post : Except PyError s.Result → Agents → Database → Session → List Record → Prop}
    (answered : ∀ c r db' l', perform c db l s = .ok (r,db',l') → post (.ok r) agents db' l' (log ++ [⟨s,c,.ok r,db,db'⟩])) :
    (fetch s).Within exec Succeeded post agents db l log := by
  apply (fetch_answers s fun _ succeeded same => succeeded (same ▸ works)).imp
  intro result agents' db' l' log' told
  obtain ⟨c,r,rfl,rfl,done,rfl⟩ := told
  exact answered c r db' l' done

-- What the body of the try leaves behind.
structure Attempted (task : Uuid) (before after : List TaskRow) (result : Except PyError Unit) : Prop where
  ok : ∀ u, result = .ok u → Ended task before after
  raised : ∀ e, result = .error e → after = before

theorem run_keeps (agent : Specialist) (taskId investigationId : Uuid) (taskPrompt : String) :
    (Method.lift (agent.run taskId investigationId taskPrompt) : Py AgentState).Within exec Succeeded
      (fun _ agents' db' _ _ => agents' = agents ∧ db'.investigationTasks = db.investigationTasks) agents db l log := by
  apply Method.Within.lift
  have keeps : (agent.run taskId investigationId taskPrompt).Ensures (recorded exec) (fun _ => True)
      (fun _ db' _ => db'.investigationTasks = db.investigationTasks) db (l,log) :=
    (agent.publishes taskId investigationId taskPrompt).ensures (fun db' _ => db'.investigationTasks = db.investigationTasks)
      (fun s c d l publishes same => publishes_tasks s c d l.1 publishes same) rfl
  exact keeps.imp fun _ _ _ same _ => ⟨rfl,same⟩

theorem tryTask_attempts (agent : Specialist) (task : TaskRow) :
    (tryTask agent task).Within exec Succeeded (fun result agents' db' _ _ => agents' = agents ∧
      Attempted task.id db.investigationTasks db'.investigationTasks result) agents db l log := by
  apply Method.Within.bind (run_keeps agent _ _ _)
  · intro state agents' db' l' log' holds
    obtain ⟨rfl,same⟩ := holds
    rw [← same]
    split
    · exact fetch_works (.failTask task.id state.error) trivial fun _ _ _ _ done => ⟨rfl,fun _ _ => failed_ended done,fun _ => nofun⟩
    · exact fetch_works (.completeTask task.id _) trivial fun _ _ _ _ done => ⟨rfl,fun _ _ => completed_ended done,fun _ => nofun⟩
  · exact fun e agents' db' l' log' holds => ⟨holds.1,fun _ => nofun,fun _ _ => holds.2⟩

-- Whatever the specialist's run does, the task ends: the except clause fails it.
theorem workTask_over (agent : Specialist) (task : TaskRow) :
    (workTask agent task).Within exec Succeeded (fun result agents' db' _ _ => result = .ok () ∧ agents' = agents ∧
      Ended task.id db.investigationTasks db'.investigationTasks) agents db l log := by
  apply Method.Within.attempt (tryTask_attempts agent task)
  · exact fun u agents' db' l' log' tried => ⟨rfl,tried.1,tried.2.ok u rfl⟩
  · intro e agents' db' l' log' tried
    obtain ⟨rfl,tried⟩ := tried
    rw [← tried.raised e rfl]
    exact fetch_works (.failTask task.id e.text) trivial fun _ _ _ _ done => ⟨rfl,rfl,failed_ended done⟩

def Statement.claimless (s : Statement) : Prop := ∀ agent type, s ≠ .pendingTask agent type

theorem publishes_claimless {s : Statement} (publishes : s.publishes) : s.claimless := by
  intro agent type same
  rw [same] at publishes
  exact publishes

theorem workTask_claimless (agent : Specialist) (task : TaskRow) : (workTask agent task).Only Statement.claimless :=
  workTask_only (fun _ => publishes_claimless) (fun _ => nofun) (fun _ => nofun) agent

theorem claimless_claims {e : Record} (claimless : e.statement.claimless) : ¬ Claims e task := by
  intro claims
  obtain ⟨agent,type,_,same,-⟩ := claims
  exact claimless agent type same

-- A get_pending_task claims the oldest pending task that it saw, and no other.
theorem claims_oldest {e : Record} (asks : e.statement = .pendingTask agent type) (found : oldestPending e.before agent type = some t)
    (claims : Claims e task) : task = t.id ∧ e.after = e.before.editTask t.id fun t => {t with status := .running} := by
  obtain ⟨_,_,u,same,found',rfl,after⟩ := claims
  cases asks.symm.trans same
  cases found.symm.trans found'
  exact ⟨rfl,after⟩

theorem claims_nothing {e : Record} (asks : e.statement = .pendingTask agent type) (none' : oldestPending e.before agent type = none) :
    ¬ Claims e task := by
  rintro ⟨_,_,u,same,found,-⟩
  cases asks.symm.trans same
  cases none'.symm.trans found

theorem agentFor_builds (agent : Uuid) (type : String) (cls : AgentClass) :
    (agentFor (agentKey agent type) cls).Within exec Succeeded (fun result agents' db' _ log' => db' = db ∧ log' = log ∧
      (∀ other ≠ agentKey agent type, agents'.lookup other = agents.lookup other) ∧
      ((∃ specialist, result = .ok specialist) ↔ Ready agents agent type cls)) agents db l log := by
  unfold agentFor Method.Within
  simp only [Method.bind_def,Method.attributes,done_bind]
  cases found : agents.lookup (agentKey agent type) with
  | some specialist => exact fun _ => ⟨rfl,rfl,fun _ _ => rfl,fun _ => .inl (by rw [found]; rfl),fun _ => ⟨_,rfl⟩⟩
  | none =>
    cases created : cls.create with
    | ok specialist =>
      refine fun _ => ⟨rfl,rfl,?_,fun _ => .inr ⟨_,created⟩,fun _ => ⟨_,rfl⟩⟩
      intro other apart
      have differs : (other == agentKey agent type) = false := beq_false_of_ne apart
      simp only [List.lookup_cons,differs]
    | error raised =>
      refine fun _ => ⟨rfl,rfl,fun _ _ => rfl,fun built => ?_,fun ready => ?_⟩
      · obtain ⟨_,same⟩ := built
        cases same
      · cases ready with
        | inl cached => rw [found] at cached; cases cached
        | inr built =>
          obtain ⟨_,same⟩ := built
          cases created.symm.trans same

-- What one round of the loop leaves to the next ones.
structure Moved (agent : Uuid) (type : String) (db db' : Database) (agents agents' : Agents) : Prop where
  taskIds : (db'.investigationTasks.map TaskRow.id).Nodup
  waits : ∀ other ≠ type, Waits db' agent other ↔ Waits db agent other
  cached : ∀ other ≠ agentKey agent type, agents'.lookup other = agents.lookup other

inductive Handled (agent : Uuid) (type : String) (cls : AgentClass) (db : Database) (agents : Agents) :
    Except PyError Unit → Agents → Database → List Record → Prop where
  | passed : (Waits db agent type → Ready agents agent type cls) → Moved agent type db after agents agents' → Tidy told after →
      Handled agent type cls db agents (.ok ()) agents' after told
  | stranded : Waits db agent type → ¬ Ready agents agent type cls → ¬ Tidy told after →
      Handled agent type cls db agents (.error e) agents' after told

theorem tidy_worked (tidy : Tidy log db) (present : t ∈ db.investigationTasks)
    (ended : Ended t.id (db.editTask t.id fun t => {t with status := .running}).investigationTasks db'.investigationTasks)
    (told : ∀ e ∈ log', e ∈ log ∨ ∀ task, Claims e task → task = t.id) : Tidy log' db' := by
  have finished : Over db' t.id := ended_over ended (List.mem_map_of_mem present) (by rw [if_pos rfl])
  intro e member task claims
  by_cases same : task = t.id
  · rwa [same]
  · cases told e member with
    | inr only => exact absurd (only task claims) same
    | inl old =>
      have kept : (db.editTask t.id fun t => {t with status := .running}).taskStatus task = db.taskStatus task :=
        status_other (fun _ => by rfl) rfl same
      rw [Over,ended_other ended same,kept]
      exact tidy e old task claims

theorem worked_moved (taskIds : (db.investigationTasks.map TaskRow.id).Nodup) (found : oldestPending db agent (some type) = some t)
    (ended : Ended t.id (db.editTask t.id fun t => {t with status := .running}).investigationTasks db'.investigationTasks)
    (cached : ∀ other ≠ agentKey agent type, agents'.lookup other = agents.lookup other) :
    Moved agent type db db' agents agents' := by
  obtain ⟨f,round,same⟩ := ended_round found ended
  have keeps := round.finishes.keeps
  refine ⟨?_,?_,cached⟩
  · rw [same,map_kept fun t => (keeps t).id]
    exact taskIds
  · intro other apart
    constructor
    · intro waits
      obtain ⟨u,present,own,isType,pending⟩ := waits
      rw [same] at present
      obtain ⟨u,before,rfl⟩ := List.mem_map.mp present
      rw [round.finishes.untouched pending] at own isType pending
      exact ⟨u,before,own,isType,pending⟩
    · intro waits
      obtain ⟨u,present,own,isType,pending⟩ := waits
      refine ⟨u,?_,own,isType,pending⟩
      rw [same]
      refine List.mem_map.mpr ⟨u,present,?_⟩
      cases round.finishes.ends u with
      | inl untouched => exact untouched
      | inr ends =>
        obtain ⟨⟨v,there,same,isOther⟩,-⟩ := ends
        cases List.inj_on_of_nodup_map taskIds there present same
        exact absurd (isType.symm.trans (List.mem_singleton.mp isOther)) apart

theorem workType_handles (taskIds : (db.investigationTasks.map TaskRow.id).Nodup) (tidy : Tidy log db) (agent : Uuid)
    (type : String) (cls : AgentClass) : (workType agent type cls).Within exec Succeeded (fun result agents' db' _ log' =>
      Handled agent type cls db agents result agents' db' log') agents db l log := by
  have claimed : (get_pending_task_row agent (some type)).Within exec Succeeded (fun result agents' db' _ log' =>
      agents' = agents ∧ ∃ found c, result = .ok found ∧ Claim db agent type found db' ∧
        log' = log ++ [⟨.pendingTask agent (some type),c,.ok found,db,db'⟩]) agents db l log :=
    fetch_works (.pendingTask agent (some type)) trivial fun c found _ _ done => ⟨rfl,found,c,rfl,perform_claims done,rfl⟩
  apply Method.Within.bind claimed
  · intro found agents' db' l' log' holds
    obtain ⟨rfl,_,c,same,claim,rfl⟩ := holds
    cases same
    cases claim with
    | nothing none' =>
      refine fun _ => .passed ?_ ⟨taskIds,fun _ _ => .rfl,fun _ _ => rfl⟩ ?_
      · intro waits
        obtain ⟨t,present,own,isType,pending⟩ := waits
        exact absurd isType (oldestPending_none none' present own pending)
      · intro e member task claims
        cases List.mem_append.mp member with
        | inl old => exact tidy e old task claims
        | inr added =>
          rw [List.mem_singleton.mp added] at claims
          exact absurd claims (claims_nothing rfl none')
    | @claimed t found =>
      obtain ⟨present,own,pending,isType⟩ := oldestPending_some found
      let claim : Record := ⟨.pendingTask agent (some type),c,.ok (some {t with status := .running}),db,
        db.editTask t.id fun t => {t with status := .running}⟩
      have own' (task : Uuid) : Claims claim task ↔ task = t.id := by
        constructor
        · exact fun claims => (claims_oldest rfl found claims).1
        · rintro rfl
          exact ⟨agent,some type,t,rfl,found,rfl,rfl⟩
      apply Method.Within.bind (agentFor_builds agent type cls)
      · intro specialist agents'' db'' l'' log'' built
        obtain ⟨rfl,rfl,cached,ready⟩ := built
        apply ((workTask_over specialist _).added (workTask_claimless specialist _)).imp
        intro result agents3 db3 l3 log3 holds
        obtain ⟨⟨rfl,rfl,ended⟩,told⟩ := holds
        refine .passed (fun _ => ready.mp ⟨_,rfl⟩) (worked_moved taskIds found ended cached) (tidy_worked tidy present ended ?_)
        intro e member
        cases told e member with
        | inr claimless => exact .inr fun task claims => absurd claims (claimless_claims claimless)
        | inl before =>
          apply (List.mem_append.mp before).imp_right
          intro added task claims
          rw [List.mem_singleton.mp added] at claims
          exact (own' task).mp claims
      · intro e agents'' db'' l'' log'' built
        obtain ⟨rfl,rfl,-,ready⟩ := built
        refine .stranded ⟨t,present,own,isType,pending⟩ ?_ fun tidy' => ?_
        · intro isReady
          obtain ⟨_,same⟩ := ready.mpr isReady
          cases same
        · have finished := tidy' _ (List.mem_append_right _ (List.mem_singleton_self _)) t.id ((own' _).mpr rfl)
          exact running_not_over (claimed_status present) finished
  · intro e agents' db' l' log' holds
    obtain ⟨_,_,_,same,-⟩ := holds
    cases same

theorem agentKey_injective (same : agentKey agent one = agentKey agent two) : one = two := by
  have lists := congrArg String.toList same
  simp only [agentKey,String.toList_append,List.append_assoc] at lists
  exact String.toList_inj.mp (List.append_cancel_right lists)

theorem Moved.buildable (moved : Moved agent type db db' agents agents') (later : ∀ entry ∈ registry, entry.1 ≠ type) :
    Buildable db' agents' agent registry ↔ Buildable db agents agent registry := by
  apply forall₂_congr
  intro entry member
  have apart : agentKey agent entry.1 ≠ agentKey agent type := fun same => later entry member (agentKey_injective same)
  rw [moved.waits _ (later entry member),Ready,Ready,moved.cached _ apart]

theorem handle_agent_tick_tidy (agent : Uuid) (registry : List (String × AgentClass)) (distinct : (registry.map Prod.fst).Nodup)
    (taskIds : (db.investigationTasks.map TaskRow.id).Nodup) (tidy : Tidy log db) :
    (handle_agent_tick agent registry).Within exec Succeeded
      (fun _ _ db' _ log' => Tidy log' db' ↔ Buildable db agents agent registry) agents db l log := by
  induction registry generalizing db agents l log with
  | nil => exact fun _ => iff_of_true tidy nofun
  | cons entry rest ih =>
    rw [List.map_cons,List.nodup_cons] at distinct
    have later (other : String × AgentClass) (member : other ∈ rest) : other.1 ≠ entry.1 := fun same =>
      distinct.1 (same ▸ List.mem_map_of_mem member)
    have split' : Buildable db agents agent (entry :: rest) ↔
        (Waits db agent entry.1 → Ready agents agent entry.1 entry.2) ∧ Buildable db agents agent rest := List.forall_mem_cons
    apply Method.Within.bind (workType_handles taskIds tidy agent entry.1 entry.2)
    · intro _ agents' db' l' log' handled
      cases handled with
      | passed ready moved tidy' =>
        apply (ih distinct.2 moved.taskIds tidy').imp
        intro result agents'' db'' l'' log'' rest
        rw [rest,moved.buildable later,split',and_iff_right ready]
    · intro e agents' db' l' log' handled
      cases handled with
      | stranded waits unready untidy => exact iff_of_false untidy fun buildable => unready ((split'.mp buildable).1 waits)

theorem registry_distinct (cls : SpecialistClass → AgentClass) : ((AGENT_REGISTRY cls).map Prod.fst).Nodup := by
  change ["research","news","reddit","github","financial","crypto","osint","fact_check"].Nodup
  decide

-- The claimed tasks are all over exactly when an agent is there, or can be built,
-- for every type that waits.
theorem agent_tick_strands_none_iff (valid : db.Valid) (cls : SpecialistClass → AgentClass) (agent_id : Uuid) (agents : Agents)
    (l : Session) : (handle_agent_tick agent_id (AGENT_REGISTRY cls)).Ensures (recorded exec) (fun _ => True)
      (fun _ _ after session => (∀ e ∈ session.2, Succeeded e) →
        (Tidy session.2 after ↔ Buildable db agents agent_id (AGENT_REGISTRY cls))) agents db (l,[]) := by
  have untouched : Tidy [] db := fun _ member => absurd member List.not_mem_nil
  exact handle_agent_tick_tidy agent_id _ (registry_distinct cls) valid.taskIds untouched

-- A tick under the classes of runtime/agents, recorded.
def strandedTick : Option ((Except PyError Unit × Agents) × Database × Session × List Record) :=
  (handle_agent_tick 1 realRegistry []).play (recorded exec) [.sample] .asked (.fresh,[])

theorem agent_tick_strands_none_iff_sample : (handle_agent_tick 1 realRegistry).Ensures (recorded exec) (fun _ => True)
    (fun _ _ after session => (∀ e ∈ session.2, Succeeded e) → (Tidy session.2 after ↔ Buildable .asked [] 1 realRegistry))
    [] .asked (.fresh,[]) := agent_tick_strands_none_iff Database.asked_valid _ 1 [] .fresh

theorem agent_tick_strands_task : ¬ ∀ result after session, strandedTick = some (result,after,session) →
    (∀ e ∈ session.2, Succeeded e) → Tidy session.2 after := by
  intro tidy
  have finished := tidy _ _ _ rfl ?_ _ (List.mem_singleton_self _) 51 ⟨1,some "research",_,rfl,rfl,rfl,rfl⟩
  · exact running_not_over rfl finished
  · intro e member _
    rw [List.mem_singleton.mp member]
    exact ⟨_,rfl⟩

end
end Trokk
