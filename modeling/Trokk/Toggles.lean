import Mathlib.Algebra.Ring.Parity
import Mathlib.Data.List.Induction
import Trokk.Library.ReadCommitted
import Trokk.Schema

-- ToggleEndorsement and TogglePropagation of internal/store/pg/interactions.go,
-- any number of them at once.
namespace Trokk
open ReadCommitted

inductive ToggleTable where
  | endorsements | propagations
  deriving DecidableEq, Repr

abbrev ToggleKey := ToggleTable × ToggleRow

def afterDelete (key : ToggleKey) (rowsAffected : Nat) : Transaction ToggleKey Unit Bool :=
  if rowsAffected = 0 then .insert key () fun _ => .commit true else .commit false

def toggle (table : ToggleTable) (agentID messageID : Uuid) : Transaction ToggleKey Unit Bool :=
  .delete (table,⟨agentID,messageID⟩) (afterDelete (table,⟨agentID,messageID⟩))

def ToggleEndorsement : Uuid → Uuid → Transaction ToggleKey Unit Bool := toggle .endorsements
def TogglePropagation : Uuid → Uuid → Transaction ToggleKey Unit Bool := toggle .propagations

-- A call is named by the table it works on and the pair it was given.
def ToggleCall (key : ToggleKey) : Transaction ToggleKey Unit Bool :=
  match key.1 with
  | .endorsements => ToggleEndorsement key.2.agentId key.2.messageId
  | .propagations => TogglePropagation key.2.agentId key.2.messageId

theorem ToggleCall_delete (key : ToggleKey) : ToggleCall key = .delete key (afterDelete key) := by
  obtain ⟨table,row⟩ := key
  cases table <;> rfl

def Database.toggles (db : Database) : ToggleTable → List ToggleRow
  | .endorsements => db.endorsements
  | .propagations => db.propagations

def flipRow (rows : List ToggleRow) (row : ToggleRow) : List ToggleRow :=
  if row ∈ rows then rows.erase row else rows ++ [row]

-- One call by itself.
def Database.toggled (db : Database) (key : ToggleKey) : Database :=
  match key.1 with
  | .endorsements => {db with endorsements := flipRow db.endorsements key.2}
  | .propagations => {db with propagations := flipRow db.propagations key.2}

structure Referenced (db : Database) (row : ToggleRow) : Prop where
  agent : ∃ a ∈ db.agents, a.id = row.agentId
  message : ∃ m ∈ db.messages, m.id = row.messageId

theorem flipRow_nodup (distinct : rows.Nodup) : (flipRow rows row).Nodup := by
  unfold flipRow
  split
  · exact distinct.erase row
  · rename_i absent
    apply distinct.append (List.nodup_singleton row)
    rwa [List.disjoint_singleton]

theorem mem_flipRow (distinct : rows.Nodup) : e ∈ flipRow rows row ↔ (if e = row then row ∉ rows else e ∈ rows) := by
  unfold flipRow
  by_cases present : row ∈ rows
  · rw [if_pos present,distinct.mem_erase_iff]
    split <;> simp_all
  · rw [if_neg present,List.mem_append,List.mem_singleton]
    split <;> simp_all

theorem toggles_toggled (db : Database) (key : ToggleKey) (table : ToggleTable) :
    (db.toggled key).toggles table = if table = key.1 then flipRow (db.toggles table) key.2 else db.toggles table := by
  obtain ⟨kind,row⟩ := key
  cases kind <;> cases table <;> rfl

-- A toggle leaves the other tables as they were.
theorem toggled_eq (db : Database) (key : ToggleKey) : db.toggled key =
    {db with endorsements := (db.toggled key).endorsements, propagations := (db.toggled key).propagations} := by
  obtain ⟨table,row⟩ := key
  cases table <;> rfl

theorem toggled_messages (db : Database) (key : ToggleKey) : (db.toggled key).messages = db.messages := by
  rw [toggled_eq]

theorem toggled_valid {db : Database} (valid : db.Valid) (refs : Referenced db key.2) : (db.toggled key).Valid := by
  have referenced (rows : List ToggleRow) (distinct : rows.Nodup) (old : ∀ e ∈ rows, (∃ a ∈ db.agents, a.id = e.agentId) ∧
      ∃ m ∈ db.messages, m.id = e.messageId) : ∀ e ∈ flipRow rows key.2, (∃ a ∈ db.agents, a.id = e.agentId) ∧
      ∃ m ∈ db.messages, m.id = e.messageId := by
    intro e member
    rw [mem_flipRow distinct] at member
    split at member
    · rename_i same
      rw [same]
      exact ⟨refs.agent,refs.message⟩
    · exact old e member
  obtain ⟨table,row⟩ := key
  cases table with
  | endorsements => exact
    { valid with
      endorsementKeys := flipRow_nodup valid.endorsementKeys
      endorsementRefs := referenced _ valid.endorsementKeys valid.endorsementRefs }
  | propagations => exact
    { valid with
      propagationKeys := flipRow_nodup valid.propagationKeys
      propagationRefs := referenced _ valid.propagationKeys valid.propagationRefs }

-- A table holds a pair at most once.
structure TogglesDistinct (db : Database) : Prop where
  distinct : ∀ table, (db.toggles table).Nodup

theorem Database.Valid.toggles {db : Database} (valid : db.Valid) : TogglesDistinct db := by
  constructor
  intro table
  cases table with
  | endorsements => exact valid.endorsementKeys
  | propagations => exact valid.propagationKeys

theorem TogglesDistinct.toggled (apart : TogglesDistinct db) (key : ToggleKey) : TogglesDistinct (db.toggled key) := by
  constructor
  intro table
  rw [toggles_toggled]
  split
  · exact flipRow_nodup (apart.distinct table)
  · exact apart.distinct table

theorem mem_toggled (apart : TogglesDistinct db) (key call : ToggleKey) :
    key.2 ∈ (db.toggled call).toggles key.1 ↔
      if key = call then call.2 ∉ db.toggles call.1 else key.2 ∈ db.toggles key.1 := by
  obtain ⟨table,row⟩ := key
  obtain ⟨kind,other⟩ := call
  rw [toggles_toggled]
  by_cases same : table = kind
  · subst same
    simp only [if_true,mem_flipRow (apart.distinct table),Prod.mk.injEq,true_and]
  · simp [same]

variable {calls : Nat → ToggleKey} {initial : Database}

def toggleStart (db : Database) : State ToggleKey Unit Bool Nat where
  rows key := ⟨if key.2 ∈ db.toggles key.1 then some () else none,0,none⟩
  sessions _ := .unstarted
  referenced key := Referenced db key.2
  log := []

theorem start_quiet (db : Database) : (toggleStart db).Quiet := ⟨fun _ => rfl,fun _ => rfl,rfl⟩

abbrev Idle (t : Nat) (rows : Rows ToggleKey Nat Unit) : Prop := ∀ key, ¬ (rows key).holds t

structure Owns (t : Nat) (rows : Rows ToggleKey Nat Unit) (key : ToggleKey) (new old : Option Unit) : Prop where
  writer : (rows key).writer = some (t,new)
  committed : (rows key).committed = old
  only : ∀ other ≠ key, ¬ (rows other).holds t

-- Where a call can be, and what it has locked there.
def Fits (key : ToggleKey) (t : Nat) (rows : Rows ToggleKey Nat Unit) : Session ToggleKey Unit Bool → Prop
  | .unstarted | .finished _ | .failed => Idle t rows
  | .running rest => (rest = .delete key (afterDelete key) ∨ rest = afterDelete key 0) ∧ Idle t rows ∨
      rest = .commit true ∧ Owns t rows key (some ()) none ∨ rest = .commit false ∧ Owns t rows key none (some ())
  | .deleting waited _ next => waited = key ∧ next = afterDelete key ∧ Idle t rows
  | .checking waited next => waited = key ∧ next = (fun _ => .commit true) ∧ Owns t rows key (some ()) none

theorem Idle.kept (idle : Idle t rows) (still : Rows.Undisturbed t rows next) : Idle t next :=
  fun key held => idle key (still.gained key held)

theorem Owns.kept (owns : Owns t rows key new old) (still : Rows.Undisturbed t rows next) : Owns t next key new old := by
  have same := still.kept key ⟨new,owns.writer⟩
  refine ⟨?_,?_,fun other apart held => owns.only other apart (still.gained other held)⟩
  · rw [same]; exact owns.writer
  · rw [same]; exact owns.committed

theorem Fits.kept (fits : Fits key t rows session) (still : Rows.Undisturbed t rows next) : Fits key t next session := by
  cases session with
  | unstarted => exact Idle.kept fits still
  | finished => exact Idle.kept fits still
  | failed => exact Idle.kept fits still
  | running rest =>
    rcases fits with ⟨place,idle⟩ | ⟨place,owns⟩ | ⟨place,owns⟩
    · exact .inl ⟨place,Idle.kept idle still⟩
    · exact .inr (.inl ⟨place,owns.kept still⟩)
    · exact .inr (.inr ⟨place,owns.kept still⟩)
  | deleting waited seen next =>
    obtain ⟨same,continues,idle⟩ := fits
    exact ⟨same,continues,Idle.kept idle still⟩
  | checking waited next =>
    obtain ⟨same,continues,owns⟩ := fits
    exact ⟨same,continues,owns.kept still⟩

theorem owns_write (idle : Idle t rows) (old : (rows key).committed = before) :
    Owns t (rows.write key t new) key new before := by
  refine ⟨by simp [Rows.write],by simpa [Rows.write] using old,?_⟩
  intro other apart
  simpa [Rows.write,Function.update_of_ne apart] using idle other

theorem running_delete (fits : Fits key t rows (.running (.delete at' next))) :
    at' = key ∧ next = afterDelete key ∧ Idle t rows := by
  simp only [Fits,afterDelete] at fits
  simp_all

theorem running_insert (fits : Fits key t rows (.running (.insert at' row next))) :
    at' = key ∧ next = (fun _ => .commit true) ∧ Idle t rows := by
  simp only [Fits,afterDelete] at fits
  simp_all

theorem running_commit (fits : Fits key t rows (.running (.commit result))) :
    result = true ∧ Owns t rows key (some ()) none ∨ result = false ∧ Owns t rows key none (some ()) := by
  simp only [Fits,afterDelete] at fits
  simp_all

theorem step_fits (fits : Fits (calls t) t s.rows (s.sessions t)) (step : Step (ToggleCall <| calls ·) t s next) :
    Fits (calls t) t next.rows (next.sessions t) := by
  cases step with
  | start unstarted =>
    rw [unstarted] at fits
    rw [goto_self]
    exact .inl ⟨.inl (ToggleCall_delete _),fits⟩
  | deleteSeen ready =>
    rw [ready] at fits
    rw [goto_self]
    exact running_delete fits
  | deleteNothing ready =>
    rw [ready] at fits
    obtain ⟨_,rfl,idle⟩ := running_delete fits
    rw [goto_self]
    exact .inl ⟨.inr rfl,idle⟩
  | deleteLocked waiting free present =>
    rw [waiting] at fits
    obtain ⟨rfl,rfl,idle⟩ := fits
    obtain ⟨_,row⟩ := Option.isSome_iff_exists.mp present
    rw [goto_self]
    exact .inr (.inr ⟨rfl,owns_write idle row⟩)
  | deleteGone waiting =>
    rw [waiting] at fits
    obtain ⟨rfl,rfl,idle⟩ := fits
    rw [goto_self]
    exact .inl ⟨.inr rfl,idle⟩
  | insertVacant ready free vacant =>
    rw [ready] at fits
    obtain ⟨rfl,rfl,idle⟩ := running_insert fits
    rw [goto_self]
    exact ⟨rfl,rfl,owns_write idle vacant⟩
  | checkPassed waiting =>
    rw [waiting] at fits
    obtain ⟨rfl,rfl,owns⟩ := fits
    rw [goto_self]
    exact .inr (.inl ⟨rfl,owns⟩)
  | commit =>
    rw [State.commit,goto_self]
    exact fun key => Slot.commit_released _ t
  | insertDuplicate =>
    rw [State.rollback,goto_self]
    exact fun key => Slot.abort_released _ t
  | checkFailed =>
    rw [State.rollback,goto_self]
    exact fun key => Slot.abort_released _ t
  | fail =>
    rw [State.rollback,goto_self]
    exact fun key => Slot.abort_released _ t

theorem runs_fits (run : Runs (ToggleCall <| calls ·) (toggleStart initial) s) :
    ∀ t, Fits (calls t) t s.rows (s.sessions t) := by
  induction run with
  | start =>
    intro t key held
    obtain ⟨v,writer⟩ := held
    cases writer
  | refer _ _ ih => exact ih
  | @step s t next _ step ih =>
    intro u
    by_cases same : u = t
    · subst same
      exact step_fits (ih u) step
    · obtain ⟨session,still⟩ := step_others step same
      rw [session]
      exact (ih u).kept still

-- The calls of a log, one after another.
def replay (calls : Nat → ToggleKey) (db : Database) (log : List (Nat × Bool)) : Database :=
  log.foldl (fun db entry => db.toggled (calls entry.1)) db

theorem replay_snoc (db : Database) (log : List (Nat × Bool)) (entry : Nat × Bool) :
    replay calls db (log ++ [entry]) = (replay calls db log).toggled (calls entry.1) := by
  simp [replay]

theorem replay_distinct (apart : TogglesDistinct initial) (log : List (Nat × Bool)) :
    TogglesDistinct (replay calls initial log) := by
  induction log using List.reverseRecOn with
  | nil => exact apart
  | append_singleton log entry ih =>
    rw [replay_snoc]
    exact ih.toggled _

-- Each pair has been flipped once per call on it.
theorem replay_parity (apart : TogglesDistinct initial) (log : List (Nat × Bool)) (key : ToggleKey) :
    key.2 ∈ (replay calls initial log).toggles key.1 ↔
      Xor (key.2 ∈ initial.toggles key.1) (Odd (log.countP fun entry => calls entry.1 = key)) := by
  induction log using List.reverseRecOn with
  | nil => simp [replay,xor_def]
  | append_singleton log entry ih =>
    rw [replay_snoc,mem_toggled (replay_distinct apart log),List.countP_append,List.countP_singleton]
    by_cases same : key = calls entry.1
    · rw [if_pos same,if_pos (by simp [same]),← same,ih,Nat.odd_add_one]
      by_cases before : key.2 ∈ initial.toggles key.1 <;> simp [before]
    · rw [if_neg same,if_neg (by simpa using Ne.symm same),Nat.add_zero]
      exact ih

-- The committed tables against the serial calls, and every answer against the
-- table right after its call.
structure Serial (calls : Nat → ToggleKey) (initial : Database) (s : State ToggleKey Unit Bool Nat) : Prop where
  committed : ∀ key, (s.rows key).committed.isSome ↔ key.2 ∈ (replay calls initial s.log).toggles key.1
  answers : ∀ earlier entry later, s.log = earlier ++ entry :: later →
    (entry.2 = true ↔ (calls entry.1).2 ∈ (replay calls initial (earlier ++ [entry])).toggles (calls entry.1).1)

theorem commit_flips (owns : Owns t s.rows (calls t) new old) (apart : TogglesDistinct initial)
    (flips : new.isSome = !old.isSome) (serial : Serial calls initial s) :
    ∀ key, ((s.rows.commit t) key).committed.isSome ↔
      key.2 ∈ (replay calls initial (s.log ++ [(t,new.isSome)])).toggles key.1 := by
  intro key
  rw [replay_snoc,mem_toggled (replay_distinct apart _)]
  by_cases same : key = calls t
  · rw [if_pos same,same,Rows.commit,(Slot.commit_own owns.writer).1,← serial.committed,owns.committed,flips]
    simp
  · rw [if_neg same,Rows.commit,Slot.commit_other (owns.only key same)]
    exact serial.committed key

theorem step_serial (apart : TogglesDistinct initial) (fits : Fits (calls t) t s.rows (s.sessions t))
    (serial : Serial calls initial s) (step : Step (ToggleCall <| calls ·) t s next) : Serial calls initial next := by
  rcases step_committed step with ⟨log,rows,_⟩ | ⟨result,ready,rfl⟩
  · refine ⟨?_,?_⟩
    · intro key
      rw [rows,log]
      exact serial.committed key
    · rw [log]
      exact serial.answers
  · rw [ready] at fits
    have flipped : ∀ key, ((s.rows.commit t) key).committed.isSome ↔
        key.2 ∈ (replay calls initial (s.log ++ [(t,result)])).toggles key.1 := by
      rcases running_commit fits with ⟨rfl,owns⟩ | ⟨rfl,owns⟩
      · exact commit_flips owns apart rfl serial
      · exact commit_flips owns apart rfl serial
    refine ⟨flipped,?_⟩
    intro earlier entry later split
    rcases List.eq_nil_or_concat later with rfl | ⟨front,last,rfl⟩
    · obtain ⟨rfl,isLast⟩ := List.append_inj' split rfl
      cases isLast
      rw [← flipped]
      rcases running_commit fits with ⟨rfl,owns⟩ | ⟨rfl,owns⟩
      · simp [Rows.commit,(Slot.commit_own owns.writer).1]
      · simp [Rows.commit,(Slot.commit_own owns.writer).1]
    · apply serial.answers earlier entry front
      rw [List.concat_eq_append,← List.cons_append,← List.append_assoc] at split
      exact (List.append_inj' split rfl).1

theorem runs_serial (apart : TogglesDistinct initial) (run : Runs (ToggleCall <| calls ·) (toggleStart initial) s) :
    Serial calls initial s := by
  induction run with
  | start =>
    refine ⟨?_,by simp [toggleStart]⟩
    intro key
    simp only [toggleStart,replay,List.foldl_nil]
    split <;> simp_all
  | refer _ _ ih => exact ⟨ih.committed,ih.answers⟩
  | step run step ih => exact step_serial apart (runs_fits run _) ih step

theorem fits_holds (fits : Fits key t rows session) (held : (rows other).holds t) : other = key := by
  by_contra apart
  cases session with
  | unstarted => exact fits other held
  | finished => exact fits other held
  | failed => exact fits other held
  | running rest =>
    rcases fits with ⟨_,idle⟩ | ⟨_,owns⟩ | ⟨_,owns⟩
    · exact idle other held
    · exact owns.only other apart held
    · exact owns.only other apart held
  | deleting => exact fits.2.2 other held
  | checking => exact fits.2.2.only other apart held

theorem step_elsewhere (fits : Fits (calls t) t s.rows (s.sessions t)) (step : Step (ToggleCall <| calls ·) t s next)
    (elsewhere : key ≠ calls t) : next.rows key = s.rows key := by
  have unheld : ¬ (s.rows key).holds t := fun held => elsewhere (fits_holds fits held)
  cases step with
  | deleteLocked waiting =>
    rw [waiting] at fits
    obtain ⟨rfl,_⟩ := fits
    exact Function.update_of_ne elsewhere _ _
  | insertVacant ready =>
    rw [ready] at fits
    obtain ⟨rfl,_⟩ := running_insert fits
    exact Function.update_of_ne elsewhere _ _
  | commit => exact Slot.commit_other unheld
  | insertDuplicate => exact Slot.abort_other unheld
  | checkFailed => exact Slot.abort_other unheld
  | fail => exact Slot.abort_other unheld
  | _ => rfl

theorem runs_elsewhere (run : Runs (ToggleCall <| calls ·) (toggleStart initial) s) (elsewhere : ∀ t, key ≠ calls t) :
    s.rows key = (toggleStart initial).rows key := by
  induction run with
  | start => rfl
  | refer _ _ ih => exact ih
  | @step s t next run step ih => exact (step_elsewhere (runs_fits run t) step (elsewhere t)).trans ih

structure Linearized (calls : Nat → ToggleKey) (initial : Database) (s : State ToggleKey Unit Bool Nat) : Prop
    extends Serial calls initial s where
  flips : ∀ key, (s.rows key).committed.isSome ↔
    Xor (key.2 ∈ initial.toggles key.1) (Odd (s.log.countP fun entry => calls entry.1 = key))
  succeeded : ∀ t state, (t,state) ∈ s.log ↔ s.sessions t = .finished state
  once : (s.log.map Prod.fst).Nodup
  failed : ∀ t, s.sessions t = .failed → ∀ key, ¬ (s.rows key).holds t
  untouched : ∀ table, (∀ t, (calls t).1 ≠ table) → ∀ row, s.rows (table,row) = (toggleStart initial).rows (table,row)

-- The order of the commits is the serial order.
theorem toggles_linearizable (valid : initial.Valid) (run : Runs (ToggleCall <| calls ·) (toggleStart initial) s) :
    Linearized calls initial s := by
  have serial := runs_serial valid.toggles run
  obtain ⟨succeeded,once⟩ := runs_logged (start_quiet initial) run
  refine ⟨serial,?_,succeeded,once,?_,?_⟩
  · intro key
    rw [serial.committed]
    exact replay_parity valid.toggles s.log key
  · intro t failed
    have fits := runs_fits run t
    rw [failed] at fits
    exact fits
  · intro table elsewhere row
    apply runs_elsewhere run
    intro t same
    exact elsewhere t (congrArg Prod.fst same).symm

-- Ada endorses the third message of the sample twice at once: neither call finds a row
-- to delete, and the one that inserts second violates the key.
theorem toggles_linearizable_sample : ∃ s, s.log = [(0,true)] ∧ s.sessions 1 = .failed ∧
    Linearized (fun _ => (.endorsements,⟨1,13⟩)) Database.sample s := by
  let call : ToggleKey := (.endorsements,⟨1,13⟩)
  let programs : Nat → Transaction ToggleKey Unit Bool := (ToggleCall <| (fun _ => call) ·)
  have begun : Runs programs (toggleStart Database.sample) _ := .step .start (.start (t := 0) rfl)
  have both := Runs.step begun (.start (t := 1) rfl)
  have deleted := Runs.step both (.deleteNothing (t := 0) rfl (by decide))
  have neither := Runs.step deleted (.deleteNothing (t := 1) rfl (by decide))
  have inserted := Runs.step neither (.insertVacant (t := 0) rfl rfl (by decide))
  have checked := Runs.step inserted (.checkPassed (t := 0) rfl ⟨by decide,by decide⟩)
  have committed := Runs.step checked (.commit (t := 0) rfl)
  have refused := Runs.step committed (.insertDuplicate (t := 1) rfl rfl rfl)
  exact ⟨_,rfl,rfl,toggles_linearizable Database.sample_valid refused⟩

end Trokk
