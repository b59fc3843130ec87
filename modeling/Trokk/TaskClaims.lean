import Mathlib.Data.List.Basic
import Trokk.Library.ReadCommitted
import Trokk.Schema

-- ClaimPendingTask, CompleteTask and FailTask of internal/store/pg/investigations.go
-- and their counterparts in runtime/scheduler.py, competing on investigation_tasks.
namespace Trokk
open ReadCommitted

structure ClaimQuery where
  agentId : Uuid
  ofType : String → Bool

def ClaimQuery.Matches (q : ClaimQuery) (row : TaskRow) : Prop :=
  row.agentId = q.agentId ∧ row.status = .pending ∧ q.ofType row.taskType = true

structure TaskEnd where
  taskId : Uuid
  status : TaskStatus
  result : Json
  ended : status = .complete ∨ status = .failed := by decide

-- The tasks of a create are those one CreateInvestigation inserts.
inductive TaskCall where
  | claim (query : ClaimQuery)
  | finish (outcome : TaskEnd)
  | create (tasks : List TaskRow)
  | refused

theorem TaskEnd.completes : TaskStatus.complete = .complete ∨ TaskStatus.complete = .failed := .inl rfl
theorem TaskEnd.fails : TaskStatus.failed = .complete ∨ TaskStatus.failed = .failed := .inr rfl

def ClaimPendingTask (agentID : Uuid) (taskType : String) : TaskCall :=
  .claim ⟨agentID,fun type => taskType = "" ∨ type = taskType⟩
def get_pending_task (agent_id : Uuid) (task_type : Option String) : TaskCall :=
  .claim ⟨agent_id,fun type => task_type = none ∨ task_type = some type⟩

-- Postgres reads the text as jsonb; a text it refuses is a failed statement.
def CompleteTask (jsonb : String → Option Json) (taskID : Uuid) (resultJSON : String) : Option TaskCall :=
  (jsonb resultJSON).map fun result => .finish {taskId := taskID,status := .complete,result := result}
def complete_task (task_id : Uuid) (result : Json) : TaskCall := .finish {taskId := task_id,status := .complete,result := result}
def FailTask (jsonb : String → Option Json) (taskID : Uuid) (errorMsg : String) : Option TaskCall :=
  (jsonb ("\x7b\"error\":\"" ++ errorMsg ++ "\"\x7d")).map fun result => .finish {taskId := taskID,status := .failed,result := result}
def fail_task (task_id : Uuid) (error : String) : TaskCall :=
  .finish {taskId := task_id,status := .failed,result := .obj [("error",.str error)]}

inductive TaskMethod where
  | ClaimPendingTask (agentID : Uuid) (taskType : String)
  | get_pending_task (agent_id : Uuid) (task_type : Option String)
  | CompleteTask (taskID : Uuid) (resultJSON : String)
  | complete_task (task_id : Uuid) (result : Json)
  | FailTask (taskID : Uuid) (errorMsg : String)
  | fail_task (task_id : Uuid) (error : String)
  | CreateInvestigation (tasks : List TaskRow)

namespace TaskMethod

def call (jsonb : String → Option Json) : TaskMethod → TaskCall
  | ClaimPendingTask agentID taskType => Trokk.ClaimPendingTask agentID taskType
  | get_pending_task agent_id task_type => Trokk.get_pending_task agent_id task_type
  | CompleteTask taskID resultJSON => (Trokk.CompleteTask jsonb taskID resultJSON).getD .refused
  | complete_task task_id result => Trokk.complete_task task_id result
  | FailTask taskID errorMsg => (Trokk.FailTask jsonb taskID errorMsg).getD .refused
  | fail_task task_id error => Trokk.fail_task task_id error
  | CreateInvestigation tasks => .create tasks

-- The tasks that a claim is for: of that agent, and of that type if one was given.
def Asks : TaskMethod → TaskRow → Prop
  | ClaimPendingTask agentID taskType,row => row.agentId = agentID ∧ (taskType ≠ "" → row.taskType = taskType)
  | get_pending_task agent_id task_type,row => row.agentId = agent_id ∧ ∀ type, task_type = some type → row.taskType = type
  | _,_ => False

-- What an end makes of which task.
def Ends (jsonb : String → Option Json) : TaskMethod → Uuid → TaskStatus → Json → Prop
  | CompleteTask taskID resultJSON,task,status,result => task = taskID ∧ status = .complete ∧ jsonb resultJSON = some result
  | complete_task task_id document,task,status,result => task = task_id ∧ status = .complete ∧ result = document
  | FailTask taskID errorMsg,task,status,result =>
      task = taskID ∧ status = .failed ∧ jsonb ("\x7b\"error\":\"" ++ errorMsg ++ "\"\x7d") = some result
  | fail_task task_id error,task,status,result => task = task_id ∧ status = .failed ∧ result = .obj [("error",.str error)]
  | _,_,_,_ => False

end TaskMethod

inductive TaskSession where
  | unstarted
  | scanning (offered : List Uuid)
  | claimed (row : TaskRow)
  | returned (row : Option TaskRow)
  | finishing
  | finished
  | failed

def TaskSession.ended : TaskSession → Prop
  | .returned _ | .finished | .failed => True
  | _ => False

structure TaskState where
  rows : Rows Uuid Nat TaskRow
  sessions : Nat → TaskSession

namespace TaskState

def start (db : Database) : TaskState :=
  ⟨fun id => ⟨db.investigationTasks.find? (·.id = id),0,none⟩,fun _ => .unstarted⟩
def goto (s : TaskState) (t : Nat) (session : TaskSession) : TaskState :=
  {s with sessions := Function.update s.sessions t session}
def write (s : TaskState) (id : Uuid) (t : Nat) (row : TaskRow) : TaskState :=
  {s with rows := s.rows.write id t (some row)}
def commit (s : TaskState) (t : Nat) (session : TaskSession) : TaskState :=
  {s.goto t session with rows := s.rows.commit t}
def rollback (s : TaskState) (t : Nat) : TaskState := {s.goto t .failed with rows := s.rows.abort t}

end TaskState

def TaskRow.claim (row : TaskRow) : TaskRow := {row with status := .running}
def TaskRow.finish (row : TaskRow) (outcome : TaskEnd) (now : Timestamptz) : TaskRow :=
  {row with status := outcome.status,result := some outcome.result,completedAt := some now}

-- What the subselect's snapshot offers, oldest first; ties come in any order.
structure Offers (rows : Rows Uuid Nat TaskRow) (q : ClaimQuery) (offered : List Uuid) : Prop where
  distinct : offered.Nodup
  exact : ∀ id, id ∈ offered ↔ ∃ row, (rows id).committed = some row ∧ q.Matches row
  oldest : offered.Pairwise fun a b => ∀ x y, (rows a).committed = some x → (rows b).committed = some y →
    x.createdAt ≤ y.createdAt

structure Adds (rows next : Rows Uuid Nat TaskRow) (tasks : List TaskRow) : Prop where
  pending : ∀ row ∈ tasks, row.status = .pending
  fresh : ∀ row ∈ tasks, (rows row.id).committed = none ∧ (rows row.id).writer = none
  added : ∀ row ∈ tasks, next row.id = ⟨some row,(rows row.id).incarnation + 1,none⟩
  kept : ∀ task, (∀ row ∈ tasks, row.id ≠ task) → next task = rows task

-- FOR UPDATE SKIP LOCKED passes over a row that another transaction holds. A free
-- row is locked and its newest version checked again; one that no longer matches
-- stays locked until the end. The lock is kept up to the outer UPDATE, so the two
-- are one step here. A client may lose the answer of a commit that took effect.
inductive TaskStep (calls : Nat → TaskCall) (t : Nat) : TaskState → TaskState → Prop where
  | snapshot : calls t = .claim q → s.sessions t = .unstarted → Offers s.rows q offered →
      TaskStep calls t s (s.goto t (.scanning offered))
  | skip : s.sessions t = .scanning (task :: rest) → (s.rows task).holds u → u ≠ t →
      TaskStep calls t s (s.goto t (.scanning rest))
  | recheck : calls t = .claim q → s.sessions t = .scanning (task :: rest) → (s.rows task).writer = none →
      (s.rows task).committed = some row → ¬ q.Matches row →
      TaskStep calls t s ((s.write task t row).goto t (.scanning rest))
  | take : calls t = .claim q → s.sessions t = .scanning (task :: rest) → (s.rows task).writer = none →
      (s.rows task).committed = some row → q.Matches row →
      TaskStep calls t s ((s.write task t row.claim).goto t (.claimed row.claim))
  | exhausted : s.sessions t = .scanning [] → TaskStep calls t s (s.commit t (.returned none))
  | commit : s.sessions t = .claimed row → TaskStep calls t s (s.commit t (.returned (some row)))
  | commitLost : s.sessions t = .claimed row → TaskStep calls t s (s.commit t .failed)
  | finish : calls t = .finish outcome → s.sessions t = .unstarted →
      (s.rows outcome.taskId).writer = none → (s.rows outcome.taskId).committed = some row →
      TaskStep calls t s ((s.write outcome.taskId t (row.finish outcome now)).goto t .finishing)
  | finishNothing : calls t = .finish outcome → s.sessions t = .unstarted →
      (s.rows outcome.taskId).committed = none → TaskStep calls t s (s.goto t .finished)
  | finishCommit : s.sessions t = .finishing → TaskStep calls t s (s.commit t .finished)
  | create : calls t = .create tasks → s.sessions t = .unstarted → Adds s.rows next tasks →
      TaskStep calls t s {s.goto t .finished with rows := next}
  | fail : ¬ (s.sessions t).ended → TaskStep calls t s (s.rollback t)

variable {calls : Nat → TaskCall} {s next : TaskState} {t u : Nat}

theorem TaskState.goto_other (apart : u ≠ t) : (s.goto t session).sessions u = s.sessions u :=
  Function.update_of_ne apart _ _
@[simp] theorem TaskState.goto_self : (s.goto t session).sessions t = session := Function.update_self t _ _

-- What one step does to the table. Only a commit or a create shows to others.
inductive RowChange (t : Nat) (rows : Rows Uuid Nat TaskRow) : Rows Uuid Nat TaskRow → Prop where
  | same : RowChange t rows rows
  | write : (rows task).writer = none → (rows task).committed = some old →
      (row = old ∨ row.status ≠ .pending ∧ row.id = old.id) → RowChange t rows (rows.write task t (some row))
  | commit : RowChange t rows (rows.commit t)
  | abort : RowChange t rows (rows.abort t)
  | add : Adds rows after tasks → RowChange t rows after

theorem step_rows (step : TaskStep calls t s next) : RowChange t s.rows next.rows := by
  cases step with
  | snapshot => exact .same
  | skip => exact .same
  | recheck _ _ free old => exact .write free old (.inl rfl)
  | take _ _ free old => exact .write free old (.inr ⟨by simp [TaskRow.claim],rfl⟩)
  | exhausted => exact .commit
  | commit => exact .commit
  | commitLost => exact .commit
  | @finish outcome s row now _ _ free old =>
    refine .write free old (.inr ⟨?_,rfl⟩)
    rcases outcome.ended with complete | failed
    · simp [TaskRow.finish,complete]
    · simp [TaskRow.finish,failed]
  | finishNothing => exact .same
  | finishCommit => exact .commit
  | create _ _ adds => exact .add adds
  | fail => exact .abort

theorem step_session (step : TaskStep calls t s next) (apart : u ≠ t) : next.sessions u = s.sessions u := by
  cases step <;> exact TaskState.goto_other apart

theorem change_undisturbed (change : RowChange t rows after) (apart : u ≠ t) : Rows.Undisturbed u rows after := by
  cases change with
  | same => exact Rows.undisturbed_refl u rows
  | write free => exact Rows.write_undisturbed free apart
  | commit => exact Rows.commit_undisturbed rows apart
  | abort => exact Rows.abort_undisturbed rows apart
  | @add _ tasks adds =>
    have free : ∀ row ∈ tasks, ¬ (rows row.id).holds u := by
      intro row member held
      obtain ⟨v,writer⟩ := held
      rw [(adds.fresh row member).2] at writer
      cases writer
    constructor
    · intro task held
      apply adds.kept
      intro row member same
      rw [← same] at held
      exact free row member held
    · intro task held
      by_cases new : ∃ row ∈ tasks, row.id = task
      · obtain ⟨row,member,rfl⟩ := new
        obtain ⟨v,writer⟩ := held
        rw [adds.added row member] at writer
        cases writer
      · push Not at new
        rwa [adds.kept task new] at held

-- A version, committed or not, is stored under its own id, and nothing puts a
-- task back to pending.
structure TableOk (rows : Rows Uuid Nat TaskRow) : Prop where
  keyed : ∀ task row, (rows task).committed = some row → row.id = task
  versions : ∀ task t v, (rows task).writer = some (t,v) → ∃ old row, (rows task).committed = some old ∧ v = some row ∧
    (row = old ∨ row.status ≠ .pending ∧ row.id = old.id)

def Follows (old new : Option TaskRow) : Prop := ∃ before after, old = some before ∧ new = some after ∧
  (after = before ∨ after.status ≠ .pending ∧ after.id = before.id)

theorem TableOk.follows (ok : TableOk rows) : Rows.Versioned (fun _ _ => Follows) rows := ok.versions

theorem TableOk.write (ok : TableOk rows) (present : (rows task).committed = some old)
    (version : row = old ∨ row.status ≠ .pending ∧ row.id = old.id) : TableOk (rows.write task t (some row)) := by
  constructor
  · intro other row found
    rw [Rows.write_committed] at found
    exact ok.keyed other row found
  · exact ok.follows.write ⟨old,row,present,rfl,version⟩

theorem TableOk.commit (ok : TableOk rows) (t : Nat) : TableOk (rows.commit t) := by
  constructor
  · intro task row found
    cases ok.follows.committed t task with
    | inl version =>
      obtain ⟨old,new,present,after,version⟩ := version
      rw [found] at after
      cases after
      have place := ok.keyed task old present
      cases version with
      | inl same => exact same ▸ place
      | inr changed => exact changed.2.trans place
    | inr same =>
      rw [same] at found
      exact ok.keyed task row found
  · exact ok.follows.commit t

theorem TableOk.abort (ok : TableOk rows) (t : Nat) : TableOk (rows.abort t) := by
  constructor
  · intro task row found
    rw [Rows.abort,Slot.abort_committed] at found
    exact ok.keyed task row found
  · exact ok.follows.abort t

-- A row that is added has no version under way.
theorem Adds.versioned {allows : Uuid → Nat → Option TaskRow → Option TaskRow → Prop} {rows after : Rows Uuid Nat TaskRow}
    (versioned : Rows.Versioned allows rows) (adds : Adds rows after tasks) : Rows.Versioned allows after := by
  intro task u v found
  by_cases new : ∃ row ∈ tasks, row.id = task
  · obtain ⟨added,member,rfl⟩ := new
    rw [adds.added added member] at found
    cases found
  · push Not at new
    rw [adds.kept task new] at found ⊢
    exact versioned task u v found

theorem TableOk.add (ok : TableOk rows) (adds : Adds rows after tasks) : TableOk after := by
  refine ⟨fun task row found => ?_,Adds.versioned ok.follows adds⟩
  by_cases new : ∃ row ∈ tasks, row.id = task
  · obtain ⟨added,member,rfl⟩ := new
    rw [adds.added added member] at found
    cases found
    rfl
  · push Not at new
    rw [adds.kept task new] at found
    exact ok.keyed task row found

theorem change_ok (ok : TableOk rows) (change : RowChange t rows after) : TableOk after := by
  cases change with
  | same => exact ok
  | write _ present version => exact ok.write present version
  | commit => exact ok.commit t
  | abort => exact ok.abort t
  | add adds => exact ok.add adds

-- A committed version stays unless the transaction that holds the row commits.
theorem change_committed (change : RowChange t rows after) (found : (rows task).committed = some row) :
    (after task).committed = some row ∨ (rows task).holds t ∧ after = rows.commit t := by
  cases change with
  | same => exact .inl found
  | write => exact .inl (by simpa using found)
  | commit =>
    by_cases held : (rows task).holds t
    · exact .inr ⟨held,rfl⟩
    · refine .inl ?_
      rwa [Rows.commit,Slot.commit_other held]
  | abort => exact .inl (by simpa [Rows.abort] using found)
  | add adds =>
    refine .inl ?_
    rw [adds.kept task]
    · exact found
    · intro added member same
      rw [← same,(adds.fresh added member).1] at found
      cases found

theorem change_settled (ok : TableOk rows) (change : RowChange t rows after)
    (found : (rows task).committed = some row) (settled : row.status ≠ .pending) :
    ∃ later, (after task).committed = some later ∧ later.status ≠ .pending := by
  rcases change_committed change found with same | ⟨⟨v,writer⟩,rfl⟩
  · exact ⟨row,same,settled⟩
  · obtain ⟨old,new,present,rfl,version⟩ := ok.versions task t v writer
    refine ⟨new,by rw [Rows.commit,(Slot.commit_own writer).1],?_⟩
    rw [found] at present
    cases present
    rcases version with rfl | ⟨moved,_⟩
    · exact settled
    · exact moved

structure ClaimedRow (calls : Nat → TaskCall) (t : Nat) (rows : Rows Uuid Nat TaskRow) (row : TaskRow) : Prop where
  writer : (rows row.id).writer = some (t,some row)
  pending : ∃ q old, calls t = .claim q ∧ (rows row.id).committed = some old ∧ q.Matches old ∧ row = old.claim

structure TasksOk (calls : Nat → TaskCall) (s : TaskState) : Prop where
  table : TableOk s.rows
  claimed : ∀ t row, s.sessions t = .claimed row → ClaimedRow calls t s.rows row
  returned : ∀ t row, s.sessions t = .returned (some row) →
    ∃ later, (s.rows row.id).committed = some later ∧ later.status ≠ .pending
  once : ∀ t u row other, s.sessions t = .returned (some row) → s.sessions u = .returned (some other) →
    row.id = other.id → t = u

theorem start_tasks_ok (db : Database) : TasksOk calls (.start db) := by
  refine ⟨⟨?_,?_⟩,?_,?_,?_⟩
  · intro task row found
    simpa using List.find?_some found
  all_goals intros; simp_all [TaskState.start]

-- The only way to a claimed or a returned row.
theorem step_claimed (ok : TableOk s.rows) (step : TaskStep calls t s next) (after : next.sessions t = .claimed row) :
    ClaimedRow calls t next.rows row := by
  cases step with
  | @take q old s task rest call _ free present matching =>
    rw [TaskState.goto_self] at after
    cases after
    have place : old.claim.id = task := ok.keyed task old present
    constructor
    · rw [place]
      simp [TaskState.goto,TaskState.write,Rows.write]
    · refine ⟨q,old,call,?_,matching,rfl⟩
      rw [place]
      simpa [TaskState.goto,TaskState.write] using present
  | _ => simp_all [TaskState.commit,TaskState.rollback,TaskState.goto]

theorem step_returned (step : TaskStep calls t s next) (_ : s.sessions t ≠ .returned (some row))
    (after : next.sessions t = .returned (some row)) : s.sessions t = .claimed row ∧ next.rows = s.rows.commit t := by
  cases step with
  | @commit s claimed ready =>
    rw [TaskState.commit,TaskState.goto_self] at after
    cases after
    exact ⟨ready,rfl⟩
  | _ => simp_all [TaskState.commit,TaskState.rollback,TaskState.goto]

theorem step_ended (step : TaskStep calls t s next) : ¬ (s.sessions t).ended := by
  cases step with
  | fail running => exact running
  | _ => simp_all [TaskSession.ended]

theorem step_now_returned (step : TaskStep calls t s next) (after : next.sessions t = .returned (some row)) :
    s.sessions t = .claimed row ∧ next.rows = s.rows.commit t := by
  apply step_returned step ?_ after
  intro before
  exact step_ended step (before ▸ trivial)

-- What one transaction holds to return it, no other has returned.
theorem claimed_apart (ok : TasksOk calls s) (claimed : s.sessions t = .claimed row)
    (returned : s.sessions u = .returned (some other)) : row.id ≠ other.id := by
  intro same
  obtain ⟨q,old,_,present,matching,_⟩ := (ok.claimed t row claimed).pending
  obtain ⟨later,committed,settled⟩ := ok.returned u other returned
  rw [← same,present] at committed
  cases committed
  exact settled matching.2.1

theorem step_tasks_ok (ok : TasksOk calls s) (step : TaskStep calls t s next) : TasksOk calls next := by
  have change := step_rows step
  refine ⟨change_ok ok.table change,?_,?_,?_⟩
  · intro u row after
    by_cases same : u = t
    · subst same
      exact step_claimed ok.table step after
    · rw [step_session step same] at after
      have row := ok.claimed u row after
      have kept := (change_undisturbed change same).kept _ ⟨_,row.writer⟩
      exact ⟨by rw [kept]; exact row.writer,by rw [kept]; exact row.pending⟩
  · intro u row after
    by_cases same : u = t
    · subst same
      obtain ⟨before,rows⟩ := step_now_returned step after
      have own := ok.claimed u row before
      obtain ⟨q,old,_,_,_,claim⟩ := own.pending
      rw [rows]
      refine ⟨row,by rw [Rows.commit,(Slot.commit_own own.writer).1],?_⟩
      simp [claim,TaskRow.claim]
    · rw [step_session step same] at after
      obtain ⟨later,committed,settled⟩ := ok.returned u row after
      exact change_settled ok.table change committed settled
  · intro u w row other first second sameId
    by_cases left : u = t
    · by_cases right : w = t
      · exact left.trans right.symm
      · subst left
        rw [step_session step right] at second
        exact absurd sameId (claimed_apart ok (step_now_returned step first).1 second)
    · rw [step_session step left] at first
      by_cases right : w = t
      · subst right
        exact absurd sameId.symm (claimed_apart ok (step_now_returned step second).1 first)
      · rw [step_session step right] at second
        exact ok.once u w row other first second sameId

-- A whole run, at each instant the state it is in; nothing need happen between two.
structure TaskRun (calls : Nat → TaskCall) (db : Database) (run : Nat → TaskState) : Prop where
  first : run 0 = .start db
  steps : ∀ i, run (i+1) = run i ∨ ∃ t, TaskStep calls t (run i) (run (i+1))

variable {db : Database} {run : Nat → TaskState}

theorem run_tasks_ok (path : TaskRun calls db run) (i : Nat) : TasksOk calls (run i) := by
  induction i with
  | zero =>
    rw [path.first]
    exact start_tasks_ok db
  | succ i ih =>
    rcases path.steps i with same | ⟨t,step⟩
    · rwa [same]
    · exact step_tasks_ok ih step

theorem run_ended (path : TaskRun calls db run) (ended : ((run i).sessions t).ended) (k : Nat) :
    (run (i+k)).sessions t = (run i).sessions t := by
  induction k with
  | zero => rfl
  | succ k ih =>
    rcases path.steps (i+k) with same | ⟨u,step⟩
    · rw [← Nat.add_assoc,same]
      exact ih
    · by_cases own : t = u
      · subst own
        exact absurd (ih ▸ ended) (step_ended step)
      · rw [← Nat.add_assoc,step_session step own]
        exact ih

def LockedByOther (run : Nat → TaskState) (t : Nat) (task : Uuid) (first last : Nat) : Prop :=
  ∃ i, first ≤ i ∧ i ≤ last ∧ ∃ u ≠ t, ((run i).rows task).holds u

theorem LockedByOther.later (locked : LockedByOther run t task first last) (more : last ≤ last') :
    LockedByOther run t task first last' := by
  obtain ⟨i,low,high,held⟩ := locked
  exact ⟨i,low,high.trans more,held⟩

-- While a statement scans: a row it was offered at its beginning has kept its
-- version, and is still before it, unless another transaction held it meanwhile.
structure Scanning (run : Nat → TaskState) (t : Nat) (q : ClaimQuery) (first now : Nat) (rest : List Uuid) : Prop where
  kept : ∀ task row, ((run first).rows task).committed = some row →
    ((run now).rows task).committed = some row ∨ LockedByOther run t task first now
  offered : ∀ task row, ((run first).rows task).committed = some row → q.Matches row →
    task ∈ rest ∨ LockedByOther run t task first now

def ScanOk (run : Nat → TaskState) (t : Nat) (q : ClaimQuery) (first now : Nat) : TaskSession → Prop
  | .scanning rest => Scanning run t q first now rest
  | .returned none => ∀ task row, ((run first).rows task).committed = some row → q.Matches row →
      LockedByOther run t task first now
  | .claimed _ | .returned (some _) | .failed => True
  | .unstarted | .finishing | .finished => False

theorem scan_later (kept : ∀ task row, ((run now).rows task).committed = some row →
      ((run (now+1)).rows task).committed = some row ∨ ∃ u ≠ t, ((run now).rows task).holds u)
    (ok : ScanOk run t q first now session) (began : first ≤ now) : ScanOk run t q first (now+1) session := by
  cases session with
  | scanning rest =>
    constructor
    · intro task row found
      rcases ok.kept task row found with same | locked
      · rcases kept task row same with still | held
        · exact .inl still
        · exact .inr ⟨now,began,Nat.le_succ now,held⟩
      · exact .inr (locked.later (Nat.le_succ now))
    · intro task row found matching
      exact (ok.offered task row found matching).imp_right (·.later (Nat.le_succ now))
  | returned row =>
    cases row with
    | none => exact fun task row found matching => (ok task row found matching).later (Nat.le_succ now)
    | some => trivial
  | claimed => trivial
  | failed => trivial
  | unstarted => exact ok
  | finishing => exact ok
  | finished => exact ok

-- The scan goes on over a table whose versions are the same.
theorem Scanning.on (ok : Scanning run t q first now rest) (kept : ∀ task row, ((run now).rows task).committed = some row →
      ((run (now+1)).rows task).committed = some row)
    (passed : ∀ task row, ((run first).rows task).committed = some row → q.Matches row → task ∈ rest →
      task ∈ rest' ∨ LockedByOther run t task first now) : Scanning run t q first (now+1) rest' := by
  constructor
  · intro task row found
    cases ok.kept task row found with
    | inl same => exact .inl (kept task row same)
    | inr locked => exact .inr (locked.later (Nat.le_succ now))
  · intro task row found matching
    cases ok.offered task row found matching with
    | inl member => exact (passed task row found matching member).imp_right (·.later (Nat.le_succ now))
    | inr locked => exact .inr (locked.later (Nat.le_succ now))

-- One step of the claim itself. A row that fails the recheck is no longer the one
-- it was at the beginning, so another transaction held it in between.
theorem scan_step (call : calls t = .claim q) (step : TaskStep calls t (run now) (run (now+1)))
    (ok : ScanOk run t q first now ((run now).sessions t)) (began : first ≤ now) :
    ScanOk run t q first (now+1) ((run (now+1)).sessions t) := by
  generalize before : run now = s at step
  generalize after : run (now+1) = next at step
  rw [before] at ok
  cases step with
  | snapshot _ unstarted =>
    rw [unstarted] at ok
    cases ok
  | @skip u s task rest scanning held apart =>
    rw [TaskState.goto_self]
    rw [scanning] at ok
    apply Scanning.on ok
    · intro other row found
      rw [before] at found
      rwa [after]
    · intro other row _ _ member
      cases List.mem_cons.mp member with
      | inl same => exact .inr ⟨now,began,le_rfl,u,apart,before ▸ same ▸ held⟩
      | inr later => exact .inl later
  | @recheck q' row s task rest sameCall scanning free present unmatched =>
    rw [call] at sameCall
    cases sameCall
    rw [TaskState.goto_self]
    rw [scanning] at ok
    apply Scanning.on ok
    · intro other row found
      rw [before] at found
      rw [after]
      simpa [TaskState.goto,TaskState.write] using found
    · intro other old found matching member
      cases List.mem_cons.mp member with
      | inl same =>
        subst same
        refine .inr ((ok.kept other old found).resolve_left fun same => ?_)
        rw [before,present] at same
        cases same
        exact unmatched matching
      | inr later => exact .inl later
  | take => rw [TaskState.goto_self]; trivial
  | exhausted scanning =>
    rw [TaskState.commit,TaskState.goto_self]
    rw [scanning] at ok
    intro task row found matching
    cases ok.offered task row found matching with
    | inl member => cases member
    | inr locked => exact locked.later (Nat.le_succ now)
  | commit => rw [TaskState.commit,TaskState.goto_self]; trivial
  | commitLost => rw [TaskState.commit,TaskState.goto_self]; trivial
  | finish _ unstarted =>
    rw [unstarted] at ok
    cases ok
  | finishNothing _ unstarted =>
    rw [unstarted] at ok
    cases ok
  | finishCommit finishing =>
    rw [finishing] at ok
    cases ok
  | create _ unstarted =>
    rw [unstarted] at ok
    cases ok
  | fail => rw [TaskState.rollback,TaskState.goto_self]; trivial

theorem run_scan (path : TaskRun calls db run) (call : calls t = .claim q)
    (unstarted : (run first).sessions t = .unstarted) (begins : (run (first+1)).sessions t ≠ .unstarted) (k : Nat) :
    ScanOk run t q first (first+1+k) ((run (first+1+k)).sessions t) := by
  induction k with
  | zero =>
    rcases path.steps first with same | ⟨u,step⟩
    · exact absurd (same ▸ unstarted) begins
    · by_cases own : t = u
      · subst own
        generalize after : run (first+1) = next at step begins
        cases step with
        | snapshot sameCall _ offers =>
          rw [call] at sameCall
          cases sameCall
          rw [Nat.add_zero,TaskState.goto_self]
          constructor
          · intro task row found
            rw [after]
            exact .inl found
          · intro task row found matching
            exact .inl ((offers.exact task).mpr ⟨row,found,matching⟩)
        | finish sameCall => rw [call] at sameCall; cases sameCall
        | finishNothing sameCall => rw [call] at sameCall; cases sameCall
        | create sameCall => rw [call] at sameCall; cases sameCall
        | fail => rw [Nat.add_zero,TaskState.rollback,TaskState.goto_self]; trivial
        | _ => simp_all
      · rw [step_session step own] at begins
        exact absurd unstarted begins
  | succ k ih =>
    have began : first ≤ first+1+k := by omega
    rw [← Nat.add_assoc]
    rcases path.steps (first+1+k) with same | ⟨u,step⟩
    · rw [same]
      refine scan_later (fun task row found => .inl ?_) ih began
      rwa [same]
    · by_cases own : t = u
      · subst own
        exact scan_step call step ih began
      · rw [step_session step own]
        refine scan_later (fun task row found => ?_) ih began
        exact (change_committed (step_rows step) found).imp_right fun held => ⟨u,Ne.symm own,held.1⟩

theorem run_once (path : TaskRun calls db run) (first : (run i).sessions t = .returned (some row))
    (second : (run j).sessions u = .returned (some other)) (sameId : row.id = other.id) : t = u := by
  have left := run_ended path (i := i) (t := t) (by rw [first]; trivial) j
  have right := run_ended path (i := j) (t := u) (by rw [second]; trivial) i
  rw [Nat.add_comm] at right
  exact (run_tasks_ok path (i+j)).once t u row other (left.trans first) (right.trans second) sameId

theorem run_returned (path : TaskRun calls db run) (before : (run i).sessions t ≠ .returned (some row))
    (after : (run (i+1)).sessions t = .returned (some row)) :
    (run i).sessions t = .claimed row ∧ (run (i+1)).rows = (run i).rows.commit t := by
  rcases path.steps i with same | ⟨u,step⟩
  · rw [same] at after
    exact absurd after before
  · by_cases own : t = u
    · subst own
      exact step_returned step before after
    · rw [step_session step own] at after
      exact absurd after before

theorem run_offered (path : TaskRun calls db run) (call : calls t = .claim q) (unstarted : (run first).sessions t = .unstarted)
    (begins : (run (first+1)).sessions t ≠ .unstarted) (later : first ≤ last) (nothing : (run last).sessions t = .returned none)
    (found : ((run first).rows task).committed = some row) (matching : q.Matches row) : LockedByOther run t task first last := by
  obtain ⟨k,rfl⟩ : ∃ k, last = first+1+k := by
    refine ⟨last-(first+1),?_⟩
    have : last ≠ first := by
      intro same
      rw [same,unstarted] at nothing
      cases nothing
    omega
  have ok := run_scan path call unstarted begins k
  rw [nothing] at ok
  exact ok task row found matching

-- An end holds the row that it has changed, and no other.
structure Finishing (calls : Nat → TaskCall) (t : Nat) (rows : Rows Uuid Nat TaskRow) (outcome : TaskEnd) (old : TaskRow)
    (now : Timestamptz) : Prop where
  call : calls t = .finish outcome
  present : (rows outcome.taskId).committed = some old
  changed : (rows outcome.taskId).writer = some (t,some (old.finish outcome now))
  alone : ∀ task, (rows task).holds t → task = outcome.taskId

structure EndsOk (calls : Nat → TaskCall) (s : TaskState) : Prop where
  idle : ∀ t, s.sessions t = .unstarted → ∀ task, ¬ (s.rows task).holds t
  finishing : ∀ t, s.sessions t = .finishing → ∃ outcome old now, Finishing calls t s.rows outcome old now

theorem start_ends_ok (db : Database) : EndsOk calls (.start db) := by
  refine ⟨fun t unstarted task held => ?_,nofun⟩
  obtain ⟨v,writer⟩ := held
  cases writer

theorem step_started (step : TaskStep calls t s next) : next.sessions t ≠ .unstarted := by
  cases step <;> simp [TaskState.commit,TaskState.rollback,TaskState.goto]

theorem step_finishing (ok : EndsOk calls s) (step : TaskStep calls t s next) (after : next.sessions t = .finishing) :
    ∃ outcome old now, Finishing calls t next.rows outcome old now := by
  cases step with
  | @finish outcome old s now call unstarted _ present =>
    refine ⟨outcome,old,now,call,by simpa [TaskState.goto,TaskState.write] using present,?_,fun task held => ?_⟩
    · simp [TaskState.goto,TaskState.write,Rows.write]
    · by_contra other
      refine ok.idle t unstarted task ?_
      simpa [TaskState.goto,TaskState.write,Rows.write,Function.update_of_ne other] using held
  | _ => simp_all [TaskState.commit,TaskState.rollback,TaskState.goto]

theorem step_ends_ok (ok : EndsOk calls s) (step : TaskStep calls t s next) : EndsOk calls next := by
  have change := step_rows step
  constructor
  · intro u unstarted task held
    by_cases own : u = t
    · exact step_started step (own ▸ unstarted)
    · rw [step_session step own] at unstarted
      exact ok.idle u unstarted task ((change_undisturbed change own).gained task held)
  · intro u after
    by_cases own : u = t
    · subst own
      exact step_finishing ok step after
    · rw [step_session step own] at after
      obtain ⟨outcome,old,now,holding⟩ := ok.finishing u after
      have undisturbed := change_undisturbed change own
      have kept := undisturbed.kept outcome.taskId ⟨_,holding.changed⟩
      exact ⟨outcome,old,now,holding.call,by rw [kept]; exact holding.present,by rw [kept]; exact holding.changed,
        fun task held => holding.alone task (undisturbed.gained task held)⟩

theorem run_ends_ok (path : TaskRun calls db run) (i : Nat) : EndsOk calls (run i) := by
  induction i with
  | zero =>
    rw [path.first]
    exact start_ends_ok db
  | succ i ih =>
    rcases path.steps i with same | ⟨t,step⟩
    · rwa [same]
    · exact step_ends_ok ih step

theorem step_finished (step : TaskStep calls t s next) (before : s.sessions t = .finishing) (after : next.sessions t = .finished) :
    next.rows = s.rows.commit t := by
  cases step with
  | finishCommit => rfl
  | _ => simp_all [TaskState.rollback,TaskState.goto]

-- A commit of an end changes its task, and no other.
theorem run_finished (path : TaskRun calls db run) (before : (run i).sessions t = .finishing) (after : (run (i+1)).sessions t = .finished) :
    ∃ outcome old now, calls t = .finish outcome ∧ ((run i).rows outcome.taskId).committed = some old ∧
      ((run (i+1)).rows outcome.taskId).committed = some (old.finish outcome now) ∧
      ∀ task, task ≠ outcome.taskId → (run (i+1)).rows task = (run i).rows task := by
  obtain ⟨outcome,old,now,holding⟩ := (run_ends_ok path i).finishing t before
  have rows : (run (i+1)).rows = (run i).rows.commit t := by
    rcases path.steps i with same | ⟨u,step⟩
    · rw [same,before] at after
      cases after
    · by_cases own : t = u
      · subst own
        exact step_finished step before after
      · rw [step_session step own,before] at after
        cases after
  rw [rows]
  exact ⟨outcome,old,now,holding.call,holding.present,(Slot.commit_own holding.changed).1,
    fun task other => Slot.commit_other fun held => other (holding.alone task held)⟩

theorem TaskMethod.asks_matches {m : TaskMethod} (call : m.call jsonb = .claim q) : q.Matches row ↔ row.status = .pending ∧ m.Asks row := by
  cases m with
  | ClaimPendingTask agentID taskType =>
    cases call
    simp only [ClaimQuery.Matches,Asks,decide_eq_true_eq]
    tauto
  | get_pending_task agent_id task_type =>
    cases call
    cases task_type <;> simp only [ClaimQuery.Matches,Asks,decide_eq_true_eq] <;> simp <;> tauto
  | CompleteTask taskID resultJSON =>
    simp only [TaskMethod.call,Trokk.CompleteTask] at call
    cases read : jsonb resultJSON <;> simp [read] at call
  | FailTask taskID errorMsg =>
    simp only [TaskMethod.call,Trokk.FailTask] at call
    cases read : jsonb ("\x7b\"error\":\"" ++ errorMsg ++ "\"\x7d") <;> simp [read] at call
  | _ => cases call

theorem TaskMethod.asks_claims {m : TaskMethod} (asks : m.Asks row) (jsonb : String → Option Json) : ∃ q, m.call jsonb = .claim q := by
  cases m with
  | ClaimPendingTask => exact ⟨_,rfl⟩
  | get_pending_task => exact ⟨_,rfl⟩
  | _ => cases asks

theorem TaskMethod.call_ends {m : TaskMethod} (call : m.call jsonb = .finish outcome) :
    m.Ends jsonb outcome.taskId outcome.status outcome.result := by
  cases m with
  | CompleteTask taskID resultJSON =>
    simp only [TaskMethod.call,Trokk.CompleteTask] at call
    cases read : jsonb resultJSON with
    | none => simp [read] at call
    | some result =>
      rw [read] at call
      cases call
      exact ⟨rfl,rfl,read⟩
  | FailTask taskID errorMsg =>
    simp only [TaskMethod.call,Trokk.FailTask] at call
    cases read : jsonb ("\x7b\"error\":\"" ++ errorMsg ++ "\"\x7d") with
    | none => simp [read] at call
    | some result =>
      rw [read] at call
      cases call
      exact ⟨rfl,rfl,read⟩
  | complete_task =>
    cases call
    exact ⟨rfl,rfl,rfl⟩
  | fail_task =>
    cases call
    exact ⟨rfl,rfl,rfl⟩
  | _ => cases call

structure ClaimsSound (jsonb : String → Option Json) (methods : Nat → TaskMethod) (run : Nat → TaskState) : Prop where
  once : ∀ i j t u row other, (run i).sessions t = .returned (some row) → (run j).sessions u = .returned (some other) →
    row.id = other.id → t = u
  exact : ∀ i t row, (run i).sessions t ≠ .returned (some row) → (run (i+1)).sessions t = .returned (some row) →
    ∃ old, ((run i).rows row.id).committed = some old ∧ old.status = .pending ∧ (methods t).Asks old ∧ row = old.claim ∧
      ((run (i+1)).rows row.id).committed = some row
  offered : ∀ first last t, (run first).sessions t = .unstarted → (run (first+1)).sessions t ≠ .unstarted → first ≤ last →
    (run last).sessions t = .returned none → ∀ task row, ((run first).rows task).committed = some row → row.status = .pending →
      (methods t).Asks row → LockedByOther run t task first last
  ended : ∀ i t, (run i).sessions t = .finishing → (run (i+1)).sessions t = .finished →
    ∃ task status result old now, (methods t).Ends jsonb task status result ∧ ((run i).rows task).committed = some old ∧
      ((run (i+1)).rows task).committed = some {old with status := status,result := some result,completedAt := some now} ∧
      ∀ other, other ≠ task → (run (i+1)).rows other = (run i).rows other

theorem task_claims_sound {methods : Nat → TaskMethod} (path : TaskRun (fun t => (methods t).call jsonb) db run) :
    ClaimsSound jsonb methods run := by
  constructor
  · exact fun i j t u row other first second sameId => run_once path first second sameId
  · intro i t row before after
    obtain ⟨claimed,rows⟩ := run_returned path before after
    have own := (run_tasks_ok path i).claimed t row claimed
    obtain ⟨q,old,call,present,matching,same⟩ := own.pending
    obtain ⟨pending,asks⟩ := (TaskMethod.asks_matches call).mp matching
    exact ⟨old,present,pending,asks,same,by rw [rows]; exact (Slot.commit_own own.writer).1⟩
  · intro first last t unstarted begins later nothing task row found pending asks
    obtain ⟨q,call⟩ := TaskMethod.asks_claims asks jsonb
    exact run_offered path call unstarted begins later nothing found ((TaskMethod.asks_matches call).mpr ⟨pending,asks⟩)
  · intro i t before after
    obtain ⟨outcome,old,now,call,present,stored,others⟩ := run_finished path before after
    exact ⟨outcome.taskId,outcome.status,outcome.result,old,now,TaskMethod.call_ends call,present,stored,others⟩

def Database.oneTask : Database := {Database.sample with
  investigations := [⟨21,"why",.inProgress,none,300,none⟩]
  investigationTasks := [⟨31,21,1,"research","look",.pending,none,300,none⟩]}

def onlyTask : TaskRow := ⟨31,21,1,"research","look",.pending,none,300,none⟩

theorem oneTask_offers (agent : q.agentId = 1) (type : q.ofType "research" = true) :
    Offers (TaskState.start .oneTask).rows q [31] := by
  refine ⟨by simp,?_,by simp⟩
  intro id
  have rows : ((TaskState.start .oneTask).rows id).committed = if id = 31 then some onlyTask else none := by
    simp [TaskState.start,Database.oneTask,List.find?_singleton,onlyTask,eq_comm]
  by_cases same : id = 31
  · subst same
    exact iff_of_true (by simp) ⟨onlyTask,rfl,agent.symm,rfl,type⟩
  · refine iff_of_false (by simpa using same) ?_
    intro offered
    obtain ⟨row,found,_⟩ := offered
    simp [rows,same] at found

-- Three claims of the only task begin together: one takes it, one passes over its lock,
-- and one looks at it again after the commit. Then the task is completed.
def competing : Nat → TaskMethod
  | 0 => .ClaimPendingTask 1 ""
  | 1 => .get_pending_task 1 (some "research")
  | 2 => .ClaimPendingTask 1 "research"
  | _ => .complete_task 31 (.obj [])

def competingEnd : TaskEnd := {taskId := 31,status := .complete,result := .obj []}

def competed : Nat → TaskState :=
  let begun := (((TaskState.start .oneTask).goto 0 (.scanning [31])).goto 1 (.scanning [31])).goto 2 (.scanning [31])
  let taken := (begun.write 31 0 onlyTask.claim).goto 0 (.claimed onlyTask.claim)
  let passed := (taken.goto 1 (.scanning [])).commit 1 (.returned none)
  let committed := passed.commit 0 (.returned (some onlyTask.claim))
  let rechecked := (committed.write 31 2 onlyTask.claim).goto 2 (.scanning [])
  let ending := ((rechecked.commit 2 (.returned none)).write 31 3 (onlyTask.claim.finish competingEnd 400)).goto 3 .finishing
  fun
    | 0 => .start .oneTask
    | 1 => (TaskState.start .oneTask).goto 0 (.scanning [31])
    | 2 => ((TaskState.start .oneTask).goto 0 (.scanning [31])).goto 1 (.scanning [31])
    | 3 => begun
    | 4 => taken
    | 5 => taken.goto 1 (.scanning [])
    | 6 => passed
    | 7 => committed
    | 8 => rechecked
    | 9 => rechecked.commit 2 (.returned none)
    | 10 => ending
    | _ => ending.commit 3 .finished

theorem competed_path (jsonb : String → Option Json) : TaskRun (fun t => (competing t).call jsonb) .oneTask competed := by
  refine ⟨rfl,?_⟩
  intro i
  match i with
  | 0 => exact .inr ⟨0,.snapshot rfl rfl (oneTask_offers rfl rfl)⟩
  | 1 => exact .inr ⟨1,.snapshot rfl rfl (oneTask_offers rfl rfl)⟩
  | 2 => exact .inr ⟨2,.snapshot rfl rfl (oneTask_offers rfl rfl)⟩
  | 3 => exact .inr ⟨0,.take rfl rfl rfl rfl ⟨rfl,rfl,by decide⟩⟩
  | 4 => exact .inr ⟨1,.skip (u := 0) rfl ⟨_,rfl⟩ (by decide)⟩
  | 5 => exact .inr ⟨1,.exhausted rfl⟩
  | 6 => exact .inr ⟨0,.commit rfl⟩
  | 7 => exact .inr ⟨2,.recheck rfl rfl rfl rfl fun matching => by cases matching.2.1⟩
  | 8 => exact .inr ⟨2,.exhausted rfl⟩
  | 9 => exact .inr ⟨3,@TaskStep.finish _ _ competingEnd onlyTask.claim _ 400 rfl rfl rfl rfl⟩
  | 10 => exact .inr ⟨3,.finishCommit rfl⟩
  | n+11 => exact .inl rfl

theorem task_claims_sound_sample : (competed 11).sessions 0 = .returned (some onlyTask.claim) ∧ (competed 11).sessions 1 = .returned none ∧
    (competed 11).sessions 2 = .returned none ∧ ClaimsSound (fun _ => none) competing competed :=
  ⟨rfl,rfl,rfl,task_claims_sound (competed_path _)⟩

end Trokk
