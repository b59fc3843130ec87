import Trokk.SignalDelivery

-- What a restart recovers of a handling that was killed: the tasks it had claimed are
-- running, and get_pending_task takes pending ones.
namespace Trokk
open Program

-- The transcript ends within a handling of the signal.
def Interrupted (signal : SignalRow) (log handled : List Record) : Prop := ∃ before first, log = before ++ first :: handled ∧
  first.statement = .processing signal ∧ ∀ e ∈ handled, ∀ target, e.statement ≠ .markProcessed target

-- The transcript has a handling of the signal, however far it got.
def Repeated (signal : SignalRow) (log handled : List Record) : Prop := ∃ before first after row,
  log = before ++ first :: (handled ++ after) ∧ first.statement = .processing row ∧ row.id = signal.id

-- Claimed and not finished.
def Left (handled : List Record) (db : Database) (task : Uuid) : Prop := (∃ e ∈ handled, Claims e task) ∧ ¬ Over db task

def Started (db : Database) (task : Uuid) : Prop := ∃ status, db.taskStatus task = some status ∧ status ≠ .pending

def StaysStarted (task : Uuid) (db db' : Database) : Prop := Started db task → Started db' task

structure Busy (task : Uuid) (db : Database) : Prop where
  present : ∃ t ∈ db.investigationTasks, t.id = task
  running : ∀ t ∈ db.investigationTasks, t.id = task → t.status = .running

def Statement.spares (task : Uuid) : Statement → Prop
  | .completeTask target _ | .failTask target _ => target ≠ task
  | _ => True

section
variable {db db' : Database} {task : Uuid}

theorem StaysStarted.refl (task : Uuid) (db : Database) : StaysStarted task db db := fun started => started

theorem StaysStarted.trans (task : Uuid) (a b c : Database) (one : StaysStarted task a b) (two : StaysStarted task b c) :
    StaysStarted task a c := two ∘ one

theorem edit_started {edit : TaskRow → TaskRow} (keeps : ∀ t, (edit t).id = t.id) (starts : ∀ t, (edit t).status ≠ .pending)
    (started : Started db task) : Started (db.editTask target edit) task := by
  obtain ⟨status,found,isStarted⟩ := started
  obtain ⟨t,row,rfl⟩ := Option.map_eq_some_iff.mp found
  refine ⟨_,by rw [edited_status keeps rfl,row]; rfl,?_⟩
  dsimp only
  split
  · exact starts t
  · exact isStarted

theorem effect_started (effect : Effect c db session s db') (started : Started db task) : Started db' task := by
  cases effect with
  | commit =>
    obtain ⟨status,found,isStarted⟩ := started
    obtain ⟨t,row,rfl⟩ := Option.map_eq_some_iff.mp found
    exact ⟨_,by simp only [Database.taskStatus,List.find?_append,row]; rfl,isStarted⟩
  | pendingTask => exact edit_started (fun _ => rfl) (fun _ same => by cases same) started
  | completeTask => exact edit_started (fun _ => rfl) (fun _ same => by cases same) started
  | failTask => exact edit_started (fun _ => rfl) (fun _ same => by cases same) started
  | toggle =>
    rw [toggled_eq]
    exact started
  | _ => exact started

theorem claims_started (claims : Claims e task) : Started e.after task := by
  obtain ⟨agent,type,t,-,found,rfl,after⟩ := claims
  rw [after]
  exact ⟨.running,claimed_status (oldestPending_mem found).1,nofun⟩

theorem claim_elsewhere (busy : Busy task db) (found : oldestPending db agent type = some t) : t.id ≠ task := by
  obtain ⟨present,-,pending,-⟩ := oldestPending_mem found
  intro own
  cases pending.symm.trans (busy.running t present own)

theorem edit_busy {edit : TaskRow → TaskRow} (keeps : ∀ t, (edit t).id = t.id) (apart : target ≠ task) (busy : Busy task db) :
    Busy task (db.editTask target edit) := by
  have kept (t : TaskRow) (own : t.id = task) : (if t.id = target then edit t else t) = t :=
    if_neg fun same => apart (same.symm.trans own)
  constructor
  · obtain ⟨t,present,own⟩ := busy.present
    exact ⟨t,List.mem_map.mpr ⟨t,present,kept t own⟩,own⟩
  · intro t member own
    obtain ⟨old,present,rfl⟩ := List.mem_map.mp member
    rw [edit_kept keeps] at own
    rw [kept old own]
    exact busy.running old present own

theorem effect_busy (effect : Effect c db session s db') (spares : s.spares task) (busy : Busy task db) : Busy task db' := by
  cases effect with
  | commit _ _ freshTasks =>
    obtain ⟨t,present,own⟩ := busy.present
    refine ⟨⟨t,List.mem_append_left _ present,own⟩,?_⟩
    intro u member own'
    cases List.mem_append.mp member with
    | inl old => exact busy.running u old own'
    | inr added => exact absurd (own.trans own'.symm) (freshTasks u added t present)
  | pendingTask found => exact edit_busy (fun _ => rfl) (claim_elsewhere busy found) busy
  | completeTask => exact edit_busy (fun _ => rfl) spares busy
  | failTask => exact edit_busy (fun _ => rfl) spares busy
  | toggle =>
    rw [toggled_eq]
    exact ⟨busy.present,busy.running⟩
  | _ => exact ⟨busy.present,busy.running⟩

theorem busy_status (busy : Busy task db) : db.taskStatus task = some .running := by
  obtain ⟨t,present,own⟩ := busy.present
  obtain ⟨u,member,found,isTask⟩ := Relational.find_present present own
  rw [Database.taskStatus,found,Option.map_some,busy.running u member isTask]

theorem started_busy (valid : db.Valid) (started : Started db task) (unfinished : ¬ Over db task) : Busy task db := by
  obtain ⟨status,found,isStarted⟩ := started
  have running : status = .running := by
    rw [Over,found] at unfinished
    cases status with
    | running => rfl
    | pending => exact absurd rfl isStarted
    | complete => exact absurd (.inl rfl) unfinished
    | failed => exact absurd (.inr rfl) unfinished
  obtain ⟨t,row,same⟩ := Option.map_eq_some_iff.mp found
  obtain ⟨present,own⟩ := Relational.find_own row
  refine ⟨⟨t,present,own⟩,?_⟩
  intro u member own'
  rw [List.inj_on_of_nodup_map valid.taskIds member present (own'.trans own.symm),same,running]

-- Nobody else claims or ends the task.
def Unclaimed (task : Uuid) (l : Session × List Record) : Prop := ∀ e ∈ l.2, ¬ Claims e task

abbrev Sparing (task : Uuid) (x : Api A) : Database → Session × List Record → Prop :=
  x.Secure (recorded exec) (Busy task) (Unclaimed task) (fun _ _ => True) fun _ _ _ => True

theorem exec_sparing {l : Session × List Record} (s : Statement) (c : Choice) (spares : s.spares task) (busy : Busy task db)
    (mine : Unclaimed task l) : Busy task (recorded exec s c db l).2.1 ∧ Unclaimed task (recorded exec s c db l).2.2 ∧ True := by
  refine ⟨effect_busy (exec_effect c db l.1 s) spares busy,?_,trivial⟩
  intro e member claims
  cases List.mem_append.mp member with
  | inl old => exact mine e old claims
  | inr added =>
    rw [List.mem_singleton.mp added] at claims
    obtain ⟨agent,type,t,-,found,own,-⟩ := claims
    exact claim_elsewhere busy found own

theorem only_sparing {x : Api A} (only : x.Only (Statement.spares task)) (mine : Unclaimed task l) : Sparing task x db l :=
  only.secure (yields_true x) (fun s c _ _ spares busy mine => exec_sparing s c spares busy mine) mine

def Spares (task : Uuid) (x : Py A) : Prop := ∀ db l, Busy task db → Unclaimed task l →
  x.Secure (recorded exec) (Busy task) (Unclaimed task) (fun _ _ => True) (fun _ _ _ => True) db l

theorem Spares.bind {x : Py A} {f : A → Py B} (first : Spares task x) (then' : ∀ a, Spares task (f a)) : Spares task (x >>= f) := by
  intro db l busy mine
  exact Method.Secure.bind (fun _ => trivial) busy mine (first db l busy mine) fun a db l busy mine _ => then' a db l busy mine

theorem Spares.only {x : Py A} (only : x.Only (Statement.spares task)) : Spares task x := by
  intro db l _ mine
  exact only.secure (fun s c _ _ spares busy mine => exec_sparing s c spares busy mine) mine

theorem Spares.fetch (s : Statement) (spares : s.spares task) : Spares task (Trokk.fetch s) := Spares.only (fetch_only spares)

theorem pending_answered (ok : (exec (.pendingTask agent type) c db l).1 = .ok (some t)) :
    ∃ u, oldestPending db agent type = some u ∧ t.id = u.id := by
  have done := exec_ok ok
  generalize (exec (.pendingTask agent type) c db l).2 = after at done
  rcases pendingTask_done done with ⟨-,⟨⟩,-⟩ | ⟨u,oldest,⟨⟩,-⟩
  exact ⟨u,oldest,rfl⟩

-- The task that get_pending_task hands out is another one.
theorem get_pending_task_row_spares (agent : Uuid) (type : Option String) (busy : Busy task db) (mine : Unclaimed task l) :
    (get_pending_task_row agent type).Secure (recorded exec) (Busy task) (Unclaimed task) (fun _ _ => True)
      (fun found _ _ => ∀ t, found = some t → t.id ≠ task) db l := by
  apply Method.Secure.lift (fun _ => trivial) busy mine
  · exact fun _ _ _ _ _ told => told
  · intro db busy _ c
    obtain ⟨busy',mine',-⟩ := exec_sparing (.pendingTask agent type) c trivial busy mine
    refine ⟨busy',mine',trivial,?_⟩
    cases answer : (recorded exec (.pendingTask agent type) c db l).1 with
    | error e => exact fun _ _ _ _ => nofun
    | ok found =>
      intro _ _ _ _ same t isFound
      cases same
      subst isFound
      obtain ⟨u,oldest,own⟩ := pending_answered answer
      rw [own]
      exact claim_elsewhere busy oldest

theorem workType_spares (agent : Uuid) (type : String) (cls : AgentClass) : Spares task (workType agent type cls) := by
  intro db l busy mine
  refine Method.Secure.bind (fun _ => trivial) busy mine (get_pending_task_row_spares agent (some type) busy mine) ?_
  intro found db l busy mine told
  cases found with
  | none => exact Spares.only (Method.Only.pure ()) db l busy mine
  | some t =>
    have apart := told t rfl
    refine Spares.only (Method.Only.bind (agentFor_only _ _) fun agent => ?_) db l busy mine
    apply workTask_only
    · intro s publishes
      cases s <;> trivial
    · exact fun _ => apart
    · exact fun _ => apart

theorem handle_agent_tick_spares (agent : Uuid) (registry : List (String × AgentClass)) :
    Spares task (handle_agent_tick agent registry) := by
  induction registry with
  | nil => exact .only (Method.Only.pure ())
  | cons entry rest ih => exact (workType_spares agent entry.1 entry.2).bind fun _ => ih

theorem handles_spares {s : Statement} (other : type ≠ "force_tick") (handles : s.handles type) : s.spares task := by
  cases s with
  | completeTask => exact absurd handles other
  | failTask => exact absurd handles other
  | _ => trivial

theorem handleSignal_spares (runtime : Runtime) (signal : SignalRow) : Spares task (handleSignal runtime signal) := by
  by_cases forces : signal.signalType = "force_tick"
  · unfold handleSignal
    rw [if_pos forces]
    split
    · exact handle_agent_tick_spares _ _
    · exact .only (Method.Only.pure ())
  · exact .only (handleSignal_only (fun _ => handles_spares forces) runtime)

theorem processEach_spares (runtime : Runtime) (signals : List SignalRow) : Spares task (processEach runtime signals) := by
  induction signals with
  | nil => exact .only (Method.Only.pure ())
  | cons signal rest ih =>
    apply (Spares.fetch (.processing signal) trivial).bind
    intro _
    apply (handleSignal_spares runtime signal).bind
    intro _
    exact (Spares.fetch (.markProcessed signal.id) trivial).bind fun _ => ih

theorem ticking_sparing (runtime : Runtime) (agents : Agents) (busy : Busy task db) :
    Sparing task (ticking runtime agents) db (.fresh,[]) := by
  have mine : Unclaimed task (.fresh,[]) := fun _ member => absurd member List.not_mem_nil
  have ticks : Spares task (tick runtime) := (Spares.fetch .poll trivial).bind fun signals => processEach_spares runtime signals
  refine Secure.bind (fun _ => trivial) busy mine (ticks db _ busy mine agents) ?_
  intro answer db l busy mine _
  obtain ⟨result,agents⟩ := answer
  cases result <;> exact fun _ _ _ => trivial

theorem requested_spares {s : Statement} (requested : s.requested route) : s.spares task := by
  cases s with
  | completeTask => exact requested.elim
  | failTask => exact requested.elim
  | _ => trivial

theorem requested_claimless {s : Statement} (requested : s.requested route) : s.claimless := by
  intro agent type same
  rw [same] at requested
  exact requested

-- The pool that a killed tick leaves behind, with a task of it running.
theorem stopped_secured {p stopped : Watched} (run : WatchedRuns adminKey runtime (Pool.idle db) p)
    (kill : WatchedStep adminKey runtime p (.kill (.orchestrator 0)) stopped) (busy : Busy task p.shared) :
    stopped.Secured (recorded exec) (Busy task) (Unclaimed task) (fun _ _ => True) fun _ _ _ _ => True := by
  cases kill with
  | kill =>
    refine ⟨busy,?_⟩
    intro t x l present
    by_cases same : t = .orchestrator 0
    · subst same
      simp only [Function.update_self] at present
      cases present
    · simp only [Function.update_of_ne same] at present
      cases t with
      | orchestrator n =>
        obtain ⟨rfl,-⟩ := orchestrator_follows run present
        exact absurd rfl same
      | request n =>
        obtain ⟨route,only,told⟩ := request_only run present
        have mine : Unclaimed task l := fun e member => claimless_claims (requested_claimless (told e member))
        exact ⟨mine,only_sparing (only_imp only fun _ => requested_spares) mine⟩

theorem never_recovered {p stopped q : Watched} (run : WatchedRuns adminKey runtime (Pool.idle db) p)
    (kill : WatchedStep adminKey runtime p (.kill (.orchestrator 0)) stopped) (later : WatchedRuns adminKey runtime stopped q)
    (busy : Busy task p.shared) : Busy task q.shared ∧ ∀ t x l, q.sessions t = some (x,l) → Unclaimed task l := by
  have begins (t : Worker) (x : Api Answer) (db : Database) (begun : OneOrchestrator adminKey runtime t x) (busy : Busy task db) :
      Sparing task x db (.fresh,[]) := by
    cases begun with
    | tick => exact ticking_sparing runtime _ busy
    | request =>
      exact only_sparing (serving_only (fun _ => requested_spares) adminKey) fun _ member => absurd member List.not_mem_nil
  have secured := (Pool.runs_secured (fun _ => trivial) (fun _ _ _ _ _ => trivial) begins
    (fun _ member => absurd member List.not_mem_nil) (stopped_secured run kill busy) later).1
  exact ⟨secured.holds,fun t x l present => (secured.sessions t x l present).1⟩

theorem interrupted_work_recovered_iff {p stopped q : Watched} (valid : db.Valid)
    (run : WatchedRuns adminKey runtime (Pool.idle db) p) (working : p.sessions (.orchestrator 0) = some (x,l))
    (interrupted : Interrupted signal l.2 handled) (kill : WatchedStep adminKey runtime p (.kill (.orchestrator 0)) stopped)
    (later : WatchedRuns adminKey runtime stopped q) (again : q.sessions (.orchestrator 0) = some (y,l'))
    (repeated : Repeated signal l'.2 rehandled) :
    (∀ task, Left handled p.shared task → (∃ e ∈ rehandled, Claims e task) ∨ Over q.shared task) ↔
      ∀ task, ¬ Left handled p.shared task := by
  refine ⟨?_,fun none' task left => absurd left (none' task)⟩
  intro recovered task left
  obtain ⟨⟨e,member,claims⟩,unfinished⟩ := left
  have logged : e ∈ l.2 := by
    obtain ⟨before,first,log,-⟩ := interrupted
    rw [log]
    exact List.mem_append_right _ (List.mem_cons_of_mem _ member)
  have busy : Busy task p.shared := by
    apply started_busy (watched_valid valid run) ?_ unfinished
    have moves (s : Statement) (c : Choice) (d : Database) (l : Session) : StaysStarted task d (exec s c d l).2.1 :=
      effect_started (exec_effect c d l s)
    have way := (Pool.runs_on_way (StaysStarted.refl task) (StaysStarted.trans task) moves run).entries
    cases way _ _ _ working e logged with
    | inl old =>
      obtain ⟨_,_,same,-⟩ := old
      cases same
    | inr way => exact way.2 (claims_started claims)
  obtain ⟨busy',unclaimed⟩ := never_recovered run kill later busy
  cases recovered task ⟨⟨e,member,claims⟩,unfinished⟩ with
  | inl reclaimed =>
    obtain ⟨e',member',claims'⟩ := reclaimed
    obtain ⟨before,first,after,row,log,-⟩ := repeated
    refine unclaimed _ _ _ again e' ?_ claims'
    rw [log]
    exact List.mem_append_right _ (List.mem_cons_of_mem _ (List.mem_append_left _ member'))
  | inr finished => exact running_not_over (busy_status busy') finished

end

-- A tick is killed while its specialist waits for the model; the next one handles the
-- signal again, to its mark.
def Watched.begun (p : Watched) : Watched :=
  ⟨p.shared,Function.update p.sessions (.orchestrator 0) (some (ticking .chatting [],(.fresh,[])))⟩
def Watched.killed (p : Watched) : Watched := ⟨p.shared,Function.update p.sessions (.orchestrator 0) none⟩
def Watched.record (p : Watched) : List Record := ((p.sessions (.orchestrator 0)).map fun session => session.2.2).getD []

def cutShort : Watched := (Watched.begun (Pool.idle .forcedAsked)).acts (recorded exec) (List.replicate 3 (.orchestrator 0,.sample))
def redone : Watched := cutShort.killed.begun.acts (recorded exec) (List.replicate 11 (.orchestrator 0,.sample))

theorem cutShort_runs : WatchedRuns "rp_admin" .chatting (Pool.idle .forcedAsked) cutShort :=
  Pool.acts_runs (.step .start (.begin rfl .tick)) _

theorem redone_runs : WatchedRuns "rp_admin" .chatting cutShort.killed redone :=
  Pool.acts_runs (.step .start (.begin rfl .tick)) _

theorem cutShort_interrupted : Interrupted forcedSignal cutShort.record (cutShort.record.drop 2) := by
  refine ⟨cutShort.record.take 1,_,rfl,rfl,?_⟩
  intro e member
  rw [show cutShort.record.drop 2 = [_] from rfl,List.mem_singleton] at member
  subst member
  exact fun _ => nofun

theorem redone_repeated : Repeated forcedSignal redone.record ((redone.record.drop 2).take 8) :=
  ⟨redone.record.take 1,_,redone.record.drop 10,forcedSignal,rfl,rfl,rfl⟩

theorem cutShort_left : Left (cutShort.record.drop 2) cutShort.shared 51 := by
  have running : cutShort.shared.taskStatus 51 = some .running := by decide +kernel
  exact ⟨⟨_,List.mem_singleton_self _,1,some "research",_,rfl,rfl,rfl,rfl⟩,running_not_over running⟩

theorem interrupted_work_recovered_iff_sample : (∀ task, Left (cutShort.record.drop 2) cutShort.shared task →
    (∃ e ∈ (redone.record.drop 2).take 8, Claims e task) ∨ Over redone.shared task) ↔
      ∀ task, ¬ Left (cutShort.record.drop 2) cutShort.shared task :=
  interrupted_work_recovered_iff Database.forcedAsked_valid cutShort_runs rfl cutShort_interrupted (.kill rfl) redone_runs rfl
    redone_repeated

theorem interrupted_work_lost : ¬ ∀ p x l handled stopped q y l' rehandled, WatchedRuns "rp_admin" .chatting (Pool.idle .forcedAsked) p →
    p.sessions (.orchestrator 0) = some (x,l) → Interrupted forcedSignal l.2 handled →
    WatchedStep "rp_admin" .chatting p (.kill (.orchestrator 0)) stopped → WatchedRuns "rp_admin" .chatting stopped q →
    q.sessions (.orchestrator 0) = some (y,l') → Repeated forcedSignal l'.2 rehandled →
    (∀ s ∈ q.shared.controlSignals, s.processed = true) → ∀ task, Left handled p.shared task →
    (∃ e ∈ rehandled, Claims e task) ∨ Over q.shared task := by
  intro recovered
  have kill : WatchedStep "rp_admin" .chatting cutShort (.kill (.orchestrator 0)) cutShort.killed := .kill rfl
  have busy : Busy 51 cutShort.shared := by
    refine ⟨⟨_,List.mem_singleton_self _,rfl⟩,fun t member _ => ?_⟩
    rw [List.mem_singleton.mp member]
    rfl
  obtain ⟨busy',unclaimed⟩ := never_recovered cutShort_runs kill redone_runs busy
  cases recovered _ _ _ _ _ _ _ _ _ cutShort_runs rfl cutShort_interrupted kill redone_runs rfl redone_repeated (by decide +kernel)
      51 cutShort_left with
  | inl reclaimed =>
    obtain ⟨e,member,claims⟩ := reclaimed
    exact unclaimed (.orchestrator 0) _ _ rfl e (List.mem_of_mem_drop (List.mem_of_mem_take member)) claims
  | inr finished => exact running_not_over (busy_status busy') finished

end Trokk
