import Trokk.TaskClaims

-- What becomes of a task over any number of claims, completions and failures.
-- The updates of complete_task and fail_task look at the id alone.
namespace Trokk
open ReadCommitted

-- The one way of a task: pending, running, complete or failed.
inductive Advances : TaskRow → TaskRow → Prop where
  | stays : Advances row row
  | claimed : row.status = .pending → Advances row row.claim
  | ended : row.status = .running → Advances row (row.finish outcome now)

def TaskRow.settled (row : TaskRow) : Prop := row.status = .complete ∨ row.status = .failed

theorem Advances.final (advances : Advances row later) (settled : row.settled) : later = row := by
  cases advances with
  | stays => rfl
  | claimed pending => simp [TaskRow.settled,pending] at settled
  | ended running => simp [TaskRow.settled,running] at settled

theorem Advances.claimed_first (advances : Advances row later) (pending : row.status = .pending) : ¬ later.settled := by
  intro settled
  cases advances with
  | stays => simp [TaskRow.settled,pending] at settled
  | claimed => simp [TaskRow.settled,TaskRow.claim] at settled
  | ended running => simp [pending] at running

-- The version that a call has under way for a task.
inductive Drafts (task : Uuid) : TaskCall → TaskRow → TaskRow → Prop where
  | stays : Drafts task call row row
  | claimed : q.Matches row → Drafts task (.claim q) row row.claim
  | ended : outcome.taskId = task → Drafts task (.finish outcome) row (row.finish outcome now)

def UnderWay (calls : Nat → TaskCall) (task : Uuid) (t : Nat) (old new : Option TaskRow) : Prop :=
  ∃ row later, old = some row ∧ new = some later ∧ Drafts task (calls t) row later

def TaskSession.claiming : TaskSession → Prop
  | .scanning _ | .claimed _ => True
  | _ => False

structure DraftsOk (calls : Nat → TaskCall) (s : TaskState) : Prop where
  drafts : Rows.Versioned (UnderWay calls) s.rows
  claiming : ∀ t, (s.sessions t).claiming → ∃ q, calls t = .claim q

variable {calls : Nat → TaskCall} {s next : TaskState} {db : Database} {run : Nat → TaskState}

theorem start_drafts (db : Database) : DraftsOk calls (.start db) := ⟨nofun,nofun⟩

theorem step_versions (ok : DraftsOk calls s) (step : TaskStep calls t s next) : Rows.Versioned (UnderWay calls) next.rows := by
  cases step with
  | snapshot => exact ok.drafts
  | skip => exact ok.drafts
  | recheck _ _ _ present => exact ok.drafts.write ⟨_,_,present,rfl,.stays⟩
  | take call _ _ present matching => exact ok.drafts.write ⟨_,_,present,rfl,call ▸ .claimed matching⟩
  | exhausted => exact ok.drafts.commit t
  | commit => exact ok.drafts.commit t
  | commitLost => exact ok.drafts.commit t
  | finish call _ _ present => exact ok.drafts.write ⟨_,_,present,rfl,call ▸ .ended rfl⟩
  | finishNothing => exact ok.drafts
  | finishCommit => exact ok.drafts.commit t
  | create _ _ adds => exact Adds.versioned ok.drafts adds
  | fail => exact ok.drafts.abort t

theorem step_drafts (ok : DraftsOk calls s) (step : TaskStep calls t s next) : DraftsOk calls next := by
  refine ⟨step_versions ok step,?_⟩
  intro u claiming
  by_cases own : u = t
  · subst own
    have before := ok.claiming u
    cases step with
    | snapshot call => exact ⟨_,call⟩
    | skip scanning => exact before (by rw [scanning]; trivial)
    | recheck call => exact ⟨_,call⟩
    | take call => exact ⟨_,call⟩
    | _ => simp_all [TaskState.commit,TaskState.rollback,TaskState.goto,TaskSession.claiming]
  · rw [step_session step own] at claiming
    exact ok.claiming u claiming

-- A complete or fail that commits finds its task running.
def Timely (calls : Nat → TaskCall) (s next : TaskState) : Prop := ∀ t outcome row, calls t = .finish outcome →
  s.sessions t = .finishing → next.sessions t = .finished → (s.rows outcome.taskId).committed = some row →
  row.status = .running

theorem commit_advances (ok : DraftsOk calls s) (found : (s.rows task).committed = some row)
    (running : ∀ outcome, calls t = .finish outcome → outcome.taskId = task → row.status = .running) :
    ∃ later, ((s.rows.commit t) task).committed = some later ∧ Advances row later := by
  cases ok.drafts.committed t task with
  | inl drafted =>
    obtain ⟨before,later,old,new,drafts⟩ := drafted
    cases found.symm.trans old
    refine ⟨later,new,?_⟩
    generalize call : calls t = c at drafts
    cases drafts with
    | stays => exact .stays
    | claimed matching => exact .claimed matching.2.1
    | ended target => exact .ended (running _ call target)
  | inr same => exact ⟨row,by rw [same,found],.stays⟩

theorem claim_advances (ok : DraftsOk calls s) (claiming : (s.sessions t).claiming)
    (found : (s.rows task).committed = some row) :
    ∃ later, ((s.rows.commit t) task).committed = some later ∧ Advances row later := by
  apply commit_advances ok found
  intro outcome finish
  obtain ⟨q,claim⟩ := ok.claiming t claiming
  cases claim.symm.trans finish

theorem step_advances (ok : DraftsOk calls s) (step : TaskStep calls t s next) (timely : Timely calls s next)
    (found : (s.rows task).committed = some row) :
    ∃ later, (next.rows task).committed = some later ∧ Advances row later := by
  cases step with
  | exhausted scanning => exact claim_advances ok (by rw [scanning]; trivial) found
  | commit claimed => exact claim_advances ok (by rw [claimed]; trivial) found
  | commitLost claimed => exact claim_advances ok (by rw [claimed]; trivial) found
  | finishCommit finishing =>
    apply commit_advances ok found
    intro outcome call target
    exact timely t outcome row call finishing TaskState.goto_self (target ▸ found)
  | @create tasks rows s call unstarted adds =>
    refine ⟨row,?_,.stays⟩
    change (rows task).committed = some row
    rw [adds.kept task]
    · exact found
    · intro added member same
      rw [← same,(adds.fresh added member).1] at found
      cases found
  | fail => exact ⟨row,by simpa [TaskState.rollback,Rows.abort] using found,.stays⟩
  | recheck => exact ⟨row,by simpa [TaskState.goto,TaskState.write] using found,.stays⟩
  | take => exact ⟨row,by simpa [TaskState.goto,TaskState.write] using found,.stays⟩
  | finish => exact ⟨row,by simpa [TaskState.goto,TaskState.write] using found,.stays⟩
  | _ => exact ⟨row,found,.stays⟩

theorem run_drafts (path : TaskRun calls db run) (i : Nat) : DraftsOk calls (run i) := by
  induction i with
  | zero =>
    rw [path.first]
    exact start_drafts db
  | succ i ih =>
    cases path.steps i with
    | inl same => rwa [same]
    | inr stepped =>
      obtain ⟨t,step⟩ := stepped
      exact step_drafts ih step

structure OutcomesFinal (run : Nat → TaskState) : Prop where
  moves : ∀ i task row, ((run i).rows task).committed = some row →
    ∃ later, ((run (i+1)).rows task).committed = some later ∧ Advances row later
  final : ∀ i j task row, i ≤ j → ((run i).rows task).committed = some row → row.settled →
    ((run j).rows task).committed = some row
  claimed : ∀ i j task row later, i ≤ j → ((run i).rows task).committed = some row → row.status = .pending →
    ((run j).rows task).committed = some later → later.settled →
    ∃ k mid, i ≤ k ∧ k ≤ j ∧ ((run k).rows task).committed = some mid ∧ mid.status = .running

def Moves (run : Nat → TaskState) : Prop := ∀ i task row, ((run i).rows task).committed = some row →
  ∃ later, ((run (i+1)).rows task).committed = some later ∧ Advances row later

theorem moves_final (moves : Moves run) (found : ((run i).rows task).committed = some row) (settled : row.settled) (n : Nat) :
    ((run (i+n)).rows task).committed = some row := by
  induction n with
  | zero => exact found
  | succ n ih =>
    obtain ⟨later,after,advances⟩ := moves (i+n) task row ih
    rw [← Nat.add_assoc,after,advances.final settled]

theorem moves_persist (moves : Moves run) (found : ((run i).rows task).committed = some row) (n : Nat) :
    ∃ later, ((run (i+n)).rows task).committed = some later := by
  induction n with
  | zero => exact ⟨row,found⟩
  | succ n ih =>
    obtain ⟨mid,present⟩ := ih
    obtain ⟨later,after,-⟩ := moves (i+n) task mid present
    exact ⟨later,after⟩

-- The last state before the outcome is the one of a running task, or the outcome was there.
theorem moves_claimed (moves : Moves run) (found : ((run i).rows task).committed = some row) (pending : row.status = .pending)
    (n : Nat) (after : ((run (i+n)).rows task).committed = some later) (settled : later.settled) :
    ∃ k mid, i ≤ k ∧ k ≤ i+n ∧ ((run k).rows task).committed = some mid ∧ mid.status = .running := by
  induction n generalizing later with
  | zero =>
    cases found.symm.trans after
    simp [TaskRow.settled,pending] at settled
  | succ n ih =>
    obtain ⟨mid,present⟩ := moves_persist moves found n
    obtain ⟨last,isLast,advances⟩ := moves (i+n) task mid present
    rw [← Nat.add_assoc] at after ⊢
    cases isLast.symm.trans after
    have up : i+n ≤ i+n+1 := Nat.le_succ _
    cases status : mid.status with
    | running => exact ⟨i+n,mid,Nat.le_add_right i n,up,present,status⟩
    | pending => exact absurd settled (advances.claimed_first status)
    | complete =>
      obtain ⟨k,claimed,low,high,found⟩ := ih present (.inl status)
      exact ⟨k,claimed,low,high.trans up,found⟩
    | failed =>
      obtain ⟨k,claimed,low,high,found⟩ := ih present (.inr status)
      exact ⟨k,claimed,low,high.trans up,found⟩

theorem task_outcomes_final (path : TaskRun calls db run) (timely : ∀ i, Timely calls (run i) (run (i+1))) :
    OutcomesFinal run := by
  have moves : Moves run := by
    intro i task row found
    cases path.steps i with
    | inl same => exact ⟨row,by rw [same,found],.stays⟩
    | inr stepped =>
      obtain ⟨t,step⟩ := stepped
      exact step_advances (run_drafts path i) step (timely i) found
  refine ⟨moves,?_,?_⟩
  · intro i j task row le found settled
    obtain ⟨n,rfl⟩ := Nat.exists_eq_add_of_le le
    exact moves_final moves found settled n
  · intro i j task row later le found pending after settled
    obtain ⟨n,rfl⟩ := Nat.exists_eq_add_of_le le
    exact moves_claimed moves found pending n after settled

-- The research of the only task is claimed and completed; the answer of its
-- completion is lost, so that fail_task follows.
def lostAnswer : Nat → TaskCall
  | 0 => get_pending_task 1 none
  | 1 => complete_task 31 (.obj [])
  | _ => fail_task 31 "timed out"

def completion : TaskEnd := {taskId := 31,status := .complete,result := .obj [],ended := TaskEnd.completes}
def timeout : TaskEnd := {taskId := 31,status := .failed,result := .obj [("error",.str "timed out")],ended := TaskEnd.fails}

def completing : Nat → TaskState :=
  let begun := (TaskState.start .oneTask).goto 0 (.scanning [31])
  let taken := (begun.write 31 0 onlyTask.claim).goto 0 (.claimed onlyTask.claim)
  let claimed := taken.commit 0 (.returned (some onlyTask.claim))
  let ending := (claimed.write 31 1 (onlyTask.claim.finish completion 400)).goto 1 .finishing
  fun
    | 0 => .start .oneTask
    | 1 => begun
    | 2 => taken
    | 3 => claimed
    | 4 => ending
    | _ => ending.commit 1 .finished

theorem completing_path : TaskRun lostAnswer .oneTask completing := by
  refine ⟨rfl,?_⟩
  intro i
  match i with
  | 0 => exact .inr ⟨0,.snapshot rfl rfl (oneTask_offers rfl rfl)⟩
  | 1 => exact .inr ⟨0,.take rfl TaskState.goto_self rfl rfl ⟨rfl,rfl,rfl⟩⟩
  | 2 => exact .inr ⟨0,.commit TaskState.goto_self⟩
  | 3 => exact .inr ⟨1,@TaskStep.finish _ _ completion onlyTask.claim _ 400 rfl rfl rfl rfl⟩
  | 4 => exact .inr ⟨1,.finishCommit TaskState.goto_self⟩
  | n+5 => exact .inl rfl

theorem completing_finishes (finishing : (completing i).sessions t = .finishing) : i = 4 ∧ t = 1 := by
  match i with
  | 4 =>
    refine ⟨rfl,?_⟩
    by_contra other
    simp [completing,TaskState.goto,TaskState.commit,TaskState.start,Function.update_apply,other,TaskState.write] at finishing
    split at finishing <;> cases finishing
  | 0 | 1 | 2 | 3 | n+5 =>
    simp only [completing,TaskState.goto,TaskState.commit,TaskState.start,TaskState.write,Function.update_apply] at finishing
    (repeat' split at finishing) <;> cases finishing

theorem task_outcomes_final_sample :
    ((completing 5).rows 31).committed = some (onlyTask.claim.finish completion 400) ∧ OutcomesFinal completing := by
  refine ⟨rfl,task_outcomes_final completing_path ?_⟩
  intro i t outcome row call finishing _ found
  obtain ⟨rfl,rfl⟩ := completing_finishes finishing
  cases call
  cases found
  rfl

theorem task_outcomes_not_final : ∃ run, TaskRun lostAnswer .oneTask run ∧ ¬ OutcomesFinal run := by
  let failing := ((completing 5).write 31 2 ((onlyTask.claim.finish completion 400).finish timeout 500)).goto 2 .finishing
  let run : Nat → TaskState
    | 6 => failing
    | n+7 => failing.commit 2 .finished
    | i => completing i
  refine ⟨run,⟨rfl,?_⟩,?_⟩
  · intro i
    match i with
    | 0 | 1 | 2 | 3 | 4 => exact completing_path.steps _
    | 5 => exact .inr ⟨2,@TaskStep.finish _ _ timeout (onlyTask.claim.finish completion 400) _ 500 rfl rfl rfl rfl⟩
    | 6 => exact .inr ⟨2,.finishCommit TaskState.goto_self⟩
    | n+7 => exact .inl rfl
  · intro outcomes
    have kept := outcomes.final 5 7 31 _ (by decide) rfl (.inl rfl)
    cases kept

end Trokk
