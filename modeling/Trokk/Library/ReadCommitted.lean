import Mathlib.Logic.Function.Basic
import Mathlib.Data.List.Nodup

-- Rows under READ COMMITTED. Every key has one committed version and at most one
-- transaction that holds its lock with a version nobody else sees.
namespace ReadCommitted
variable {K V T R : Type}

-- A row that is deleted and inserted again is another incarnation: a statement
-- that waited for the old one does not find the new one.
structure Slot (T V : Type) where
  committed : Option V
  incarnation : Nat
  writer : Option (T × Option V)

namespace Slot

def holds (slot : Slot T V) (t : T) : Prop := ∃ v, slot.writer = some (t,v)

def write (slot : Slot T V) (t : T) (v : Option V) : Slot T V := {slot with writer := some (t,v)}

def commit [DecidableEq T] (slot : Slot T V) (t : T) : Slot T V :=
  match slot.writer with
  | none => slot
  | some (holder,v) =>
    if holder = t then
      ⟨v,if v.isSome = slot.committed.isSome then slot.incarnation else slot.incarnation + 1,none⟩
    else slot

def abort [DecidableEq T] (slot : Slot T V) (t : T) : Slot T V :=
  match slot.writer with
  | none => slot
  | some (holder,_) => if holder = t then {slot with writer := none} else slot

@[simp] theorem write_committed (slot : Slot T V) : (slot.write t v).committed = slot.committed := rfl
@[simp] theorem write_writer (slot : Slot T V) : (slot.write t v).writer = some (t,v) := rfl

theorem holds_once {slot : Slot T V} (held : slot.holds t) (holds : slot.holds other) : other = t := by
  obtain ⟨v,writer⟩ := holds
  obtain ⟨w,same⟩ := held
  rw [writer] at same
  exact (Prod.mk.inj (Option.some.inj same)).1

variable [DecidableEq T]

theorem commit_own {slot : Slot T V} (held : slot.writer = some (t,v)) :
    (slot.commit t).committed = v ∧ (slot.commit t).writer = none := by
  simp [commit,held]

theorem commit_other {slot : Slot T V} (other : ¬ slot.holds t) : slot.commit t = slot := by
  unfold commit
  cases writer : slot.writer with
  | none => rfl
  | some pair =>
    obtain ⟨holder,v⟩ := pair
    have apart : holder ≠ t := by
      intro same
      exact other ⟨v,same ▸ writer⟩
    simp [apart]

theorem abort_own {slot : Slot T V} (held : slot.writer = some (t,v)) : (slot.abort t).writer = none := by
  simp [abort,held]

theorem abort_other {slot : Slot T V} (other : ¬ slot.holds t) : slot.abort t = slot := by
  unfold abort
  cases writer : slot.writer with
  | none => rfl
  | some pair =>
    obtain ⟨holder,v⟩ := pair
    have apart : holder ≠ t := by
      intro same
      exact other ⟨v,same ▸ writer⟩
    simp [apart]

@[simp] theorem abort_committed (slot : Slot T V) (t : T) : (slot.abort t).committed = slot.committed := by
  unfold abort
  split
  · rfl
  · split <;> rfl

theorem commit_released (slot : Slot T V) (t : T) : ¬ (slot.commit t).holds t := by
  by_cases held : slot.holds t
  · obtain ⟨v,writer⟩ := held
    simp [holds,(commit_own writer).2]
  · rwa [commit_other held]

theorem abort_released (slot : Slot T V) (t : T) : ¬ (slot.abort t).holds t := by
  by_cases held : slot.holds t
  · obtain ⟨v,writer⟩ := held
    simp [holds,abort_own writer]
  · rwa [abort_other held]

-- Ending another transaction changes nothing on a row that one holds.
theorem commit_kept {slot : Slot T V} (held : slot.holds t) (apart : other ≠ t) : slot.commit other = slot :=
  commit_other fun holds => apart (holds_once held holds)

theorem abort_kept {slot : Slot T V} (held : slot.holds t) (apart : other ≠ t) : slot.abort other = slot :=
  abort_other fun holds => apart (holds_once held holds)

end Slot

abbrev Rows (K T V : Type) := K → Slot T V

namespace Rows

def write [DecidableEq K] (rows : Rows K T V) (key : K) (t : T) (v : Option V) : Rows K T V :=
  Function.update rows key ((rows key).write t v)
def commit [DecidableEq T] (rows : Rows K T V) (t : T) : Rows K T V := fun key => (rows key).commit t
def abort [DecidableEq T] (rows : Rows K T V) (t : T) : Rows K T V := fun key => (rows key).abort t

@[simp] theorem write_committed [DecidableEq K] (rows : Rows K T V) (key other : K) (t : T) (v : Option V) :
    ((rows.write key t v) other).committed = (rows other).committed := by
  by_cases same : other = key
  · subst same
    simp [write]
  · simp [write,same]

-- What a transaction can rely on while others act: the rows it holds stay as
-- they are, and it comes to hold no other.
structure Undisturbed (t : T) (rows next : Rows K T V) : Prop where
  kept : ∀ key, (rows key).holds t → next key = rows key
  gained : ∀ key, (next key).holds t → (rows key).holds t

theorem undisturbed_refl (t : T) (rows : Rows K T V) : Undisturbed t rows rows := ⟨fun _ _ => rfl,fun _ held => held⟩

theorem write_undisturbed [DecidableEq K] {rows : Rows K T V} (free : (rows key).writer = none) (apart : t ≠ actor) :
    Undisturbed t rows (rows.write key actor v) := by
  constructor
  · intro other held
    by_cases same : other = key
    · subst same
      obtain ⟨w,writer⟩ := held
      rw [free] at writer
      cases writer
    · exact Function.update_of_ne same _ _
  · intro other held
    by_cases same : other = key
    · subst same
      obtain ⟨w,writer⟩ := held
      simp only [write,Function.update_self,Slot.write_writer,Option.some.injEq,Prod.mk.injEq] at writer
      exact absurd writer.1.symm apart
    · simpa only [write,Function.update_of_ne same] using held

theorem commit_undisturbed [DecidableEq T] (rows : Rows K T V) (apart : t ≠ actor) : Undisturbed t rows (rows.commit actor) := by
  constructor
  · intro key held
    exact Slot.commit_kept held apart.symm
  · intro key held
    by_cases own : (rows key).holds actor
    · obtain ⟨v,writer⟩ := own
      obtain ⟨w,later⟩ := held
      rw [commit,(Slot.commit_own writer).2] at later
      cases later
    · rwa [commit,Slot.commit_other own] at held

theorem abort_undisturbed [DecidableEq T] (rows : Rows K T V) (apart : t ≠ actor) : Undisturbed t rows (rows.abort actor) := by
  constructor
  · intro key held
    exact Slot.abort_kept held apart.symm
  · intro key held
    by_cases own : (rows key).holds actor
    · obtain ⟨v,writer⟩ := own
      obtain ⟨w,later⟩ := held
      rw [abort,Slot.abort_own writer] at later
      cases later
    · rwa [abort,Slot.abort_other own] at held

-- Every version under way is one that `rel` lets its transaction put in the place of
-- the committed one.
def Versioned (rel : K → T → Option V → Option V → Prop) (rows : Rows K T V) : Prop :=
  ∀ key t v, (rows key).writer = some (t,v) → rel key t (rows key).committed v

section
variable {rel : K → T → Option V → Option V → Prop} {rows : Rows K T V}

theorem Versioned.write [DecidableEq K] (versioned : Versioned rel rows) (allowed : rel key t (rows key).committed v) :
    Versioned rel (rows.write key t v) := by
  intro other u w found
  rw [write_committed]
  by_cases same : other = key
  · subst same
    simp only [Rows.write,Function.update_self,Slot.write_writer,Option.some.injEq,Prod.mk.injEq] at found
    obtain ⟨rfl,rfl⟩ := found
    exact allowed
  · rw [Rows.write,Function.update_of_ne same] at found
    exact versioned other u w found

theorem Versioned.commit [DecidableEq T] (versioned : Versioned rel rows) (t : T) : Versioned rel (rows.commit t) := by
  intro key u w found
  by_cases held : (rows key).holds t
  · obtain ⟨v,writer⟩ := held
    rw [Rows.commit,(Slot.commit_own writer).2] at found
    cases found
  · rw [Rows.commit,Slot.commit_other held] at found ⊢
    exact versioned key u w found

theorem Versioned.abort [DecidableEq T] (versioned : Versioned rel rows) (t : T) : Versioned rel (rows.abort t) := by
  intro key u w found
  by_cases held : (rows key).holds t
  · obtain ⟨v,writer⟩ := held
    rw [Rows.abort,Slot.abort_own writer] at found
    cases found
  · rw [Rows.abort,Slot.abort_other held] at found ⊢
    exact versioned key u w found

-- A commit takes a key where `rel` allows, or leaves it.
theorem Versioned.committed [DecidableEq T] (versioned : Versioned rel rows) (t : T) (key : K) :
    rel key t (rows key).committed ((rows.commit t) key).committed ∨ (rows.commit t) key = rows key := by
  by_cases held : (rows key).holds t
  · obtain ⟨v,writer⟩ := held
    rw [Rows.commit,(Slot.commit_own writer).1]
    exact .inl (versioned key t v writer)
  · exact .inr (Slot.commit_other held)

end

end Rows

-- A client transaction: statements one after another, each continued by its
-- number of affected rows, and a commit. An error at any of them rolls back.
inductive Transaction (K V R : Type) where
  | delete (key : K) (next : Nat → Transaction K V R)
  | insert (key : K) (row : V) (next : Nat → Transaction K V R)
  | commit (result : R)

inductive Session (K V R : Type) where
  | unstarted
  | running (rest : Transaction K V R)
  | deleting (key : K) (seen : Nat) (next : Nat → Transaction K V R)
  | checking (key : K) (next : Nat → Transaction K V R)
  | finished (result : R)
  | failed

-- `referenced` are the keys whose references exist; referenced rows may appear
-- and never go away. `log` lists the committed transactions in commit order.
structure State (K V R T : Type) where
  rows : Rows K T V
  sessions : T → Session K V R
  referenced : K → Prop
  log : List (T × R)

section
variable [DecidableEq T] {s : State K V R T} {t u : T}

def State.goto (s : State K V R T) (t : T) (session : Session K V R) : State K V R T :=
  {s with sessions := Function.update s.sessions t session}

theorem goto_other (apart : u ≠ t) : (s.goto t session).sessions u = s.sessions u := Function.update_of_ne apart _ _
@[simp] theorem goto_self : (s.goto t session).sessions t = session := Function.update_self t _ _
@[simp] theorem goto_rows : (s.goto t session).rows = s.rows := rfl

end

variable [DecidableEq K] [DecidableEq T]

namespace State

def write (s : State K V R T) (key : K) (t : T) (v : Option V) : State K V R T :=
  {s with rows := s.rows.write key t v}
def commit (s : State K V R T) (t : T) (result : R) : State K V R T :=
  {s.goto t (.finished result) with rows := s.rows.commit t,log := s.log ++ [(t,result)]}
def rollback (s : State K V R T) (t : T) : State K V R T :=
  {s.goto t .failed with rows := s.rows.abort t}

end State

def Session.active : Session K V R → Prop
  | .running _ | .deleting .. | .checking .. => True
  | _ => False

-- A DELETE looks for its row in the snapshot of the statement, waits for the lock
-- and takes the row only if it is still the one it saw. An INSERT waits for the
-- lock of its key and then finds it vacant or violates the key. A transaction
-- never comes back to a key that it wrote itself. Deadlocks, cancelled statements
-- and commits that report an error are `fail`.
inductive Step (programs : T → Transaction K V R) (t : T) : State K V R T → State K V R T → Prop where
  | start : s.sessions t = .unstarted → Step programs t s (s.goto t (.running (programs t)))
  | deleteSeen : s.sessions t = .running (.delete key next) → (s.rows key).committed.isSome →
      Step programs t s (s.goto t (.deleting key (s.rows key).incarnation next))
  | deleteNothing : s.sessions t = .running (.delete key next) → (s.rows key).committed = none →
      Step programs t s (s.goto t (.running (next 0)))
  | deleteLocked : s.sessions t = .deleting key seen next → (s.rows key).writer = none →
      (s.rows key).committed.isSome → (s.rows key).incarnation = seen →
      Step programs t s ((s.write key t none).goto t (.running (next 1)))
  | deleteGone : s.sessions t = .deleting key seen next → (s.rows key).writer = none →
      (s.rows key).committed = none ∨ (s.rows key).incarnation ≠ seen →
      Step programs t s (s.goto t (.running (next 0)))
  | insertVacant : s.sessions t = .running (.insert key row next) → (s.rows key).writer = none →
      (s.rows key).committed = none → Step programs t s ((s.write key t (some row)).goto t (.checking key next))
  | insertDuplicate : s.sessions t = .running (.insert key row next) → (s.rows key).writer = none →
      (s.rows key).committed.isSome → Step programs t s (s.rollback t)
  | checkPassed : s.sessions t = .checking key next → s.referenced key →
      Step programs t s (s.goto t (.running (next 1)))
  | checkFailed : s.sessions t = .checking key next → ¬ s.referenced key → Step programs t s (s.rollback t)
  | commit : s.sessions t = .running (.commit result) → Step programs t s (s.commit t result)
  | fail : (s.sessions t).active → Step programs t s (s.rollback t)

inductive Runs (programs : T → Transaction K V R) (initial : State K V R T) : State K V R T → Prop where
  | start : Runs programs initial initial
  | step : Runs programs initial s → Step programs t s next → Runs programs initial next
  | refer : Runs programs initial s → (∀ key, s.referenced key → more key) →
      Runs programs initial {s with referenced := more}

-- Nothing has begun and nothing is locked.
structure State.Quiet (s : State K V R T) : Prop where
  unlocked : ∀ key, (s.rows key).writer = none
  unstarted : ∀ t, s.sessions t = .unstarted
  unlogged : s.log = []

variable {s next initial : State K V R T} {programs : T → Transaction K V R} {t u : T}

theorem step_others (step : Step programs t s next) (apart : u ≠ t) :
    next.sessions u = s.sessions u ∧ Rows.Undisturbed u s.rows next.rows := by
  cases step
  case deleteLocked free _ _ => exact ⟨goto_other apart,Rows.write_undisturbed free apart⟩
  case insertVacant free _ => exact ⟨goto_other apart,Rows.write_undisturbed free apart⟩
  case commit => exact ⟨goto_other apart,Rows.commit_undisturbed _ apart⟩
  case insertDuplicate => exact ⟨goto_other apart,Rows.abort_undisturbed _ apart⟩
  case checkFailed => exact ⟨goto_other apart,Rows.abort_undisturbed _ apart⟩
  case fail => exact ⟨goto_other apart,Rows.abort_undisturbed _ apart⟩
  all_goals exact ⟨goto_other apart,Rows.undisturbed_refl u _⟩

-- Only a commit adds to the log, and only a commit changes committed rows.
theorem step_committed (step : Step programs t s next) :
    (next.log = s.log ∧ (∀ key, (next.rows key).committed = (s.rows key).committed) ∧
      (∀ result, s.sessions t ≠ .finished result) ∧ ∀ result, next.sessions t ≠ .finished result) ∨
    ∃ result, s.sessions t = .running (.commit result) ∧ next = s.commit t result := by
  cases step
  case commit result ready => exact .inr ⟨result,ready,rfl⟩
  all_goals refine .inl ⟨rfl,?_,?_,?_⟩
  case fail.refine_2 active =>
    intro result finished
    rw [finished] at active
    exact active
  all_goals simp_all [State.rollback,State.write,Rows.abort,Rows.write,Function.update_apply]
  all_goals intro key; split <;> simp_all

theorem runs_logged (quiet : initial.Quiet) (run : Runs programs initial s) :
    (∀ t result, (t,result) ∈ s.log ↔ s.sessions t = .finished result) ∧ (s.log.map Prod.fst).Nodup := by
  induction run with
  | start =>
    rw [quiet.unlogged]
    simp [quiet.unstarted]
  | refer _ _ ih => exact ih
  | @step s t next _ step ih =>
    obtain ⟨logged,once⟩ := ih
    rcases step_committed step with ⟨log,_,before,after⟩ | ⟨result,ready,rfl⟩
    · rw [log]
      refine ⟨?_,once⟩
      intro u answer
      by_cases same : u = t
      · subst same
        simp [logged,before,after]
      · rw [(step_others step same).1]
        exact logged u answer
    · have unlogged (answer : R) : (t,answer) ∉ s.log := by
        rw [logged,ready]
        simp
      constructor
      · intro u answer
        by_cases same : u = t
        · subst same
          simp [State.commit,unlogged,eq_comm]
        · rw [(step_others step same).1]
          simp [State.commit,same,logged]
      · simp only [State.commit,List.map_append,List.map_cons,List.map_nil]
        refine List.nodup_append.mpr ⟨once,by simp,?_⟩
        intro u member v isNew
        obtain ⟨⟨w,answer⟩,inLog,rfl⟩ := List.mem_map.mp member
        rw [List.mem_singleton.mp isNew]
        intro same
        subst same
        exact unlogged answer inLog

end ReadCommitted
