import Trokk.SignalDelivery

-- One tick over a batch of signals some of whose handlers raise: the exception leaves
-- the loop of tick() and is caught by start().
namespace Trokk
open Program

-- A run of the loop, signal by signal, with what became of each handler that ran.
inductive Batch (runtime : Runtime) : Agents → List SignalRow → List Record → List (SignalRow × Except PyError Unit) → Prop where
  | done : Batch runtime agents [] [] []
  | raised {first : Record} {signal : SignalRow} {rest : List SignalRow} {raised : PyError} : first.statement = .processing signal →
      (handleSignal runtime signal agents).Follows handled (.done (.error raised,later)) →
      Batch runtime agents (signal :: rest) (first :: handled) [(signal,.error raised)]
  | returned {first mark : Record} {signal : SignalRow} {rest : List SignalRow} : first.statement = .processing signal →
      (handleSignal runtime signal agents).Follows handled (.done (.ok (),later)) → mark.statement = .markProcessed signal.id →
      Batch runtime later rest more outcomes →
      Batch runtime agents (signal :: rest) (first :: handled ++ mark :: more) ((signal,.ok ()) :: outcomes)

-- The signals that were taken up, in order.
def attempts (log : List Record) : List SignalRow := log.filterMap fun e => match e.statement with
  | .processing signal => some signal
  | _ => none

def marks (log : List Record) (id : Uuid) : Bool := log.any (·.statement = .markProcessed id)

def Genuine (log : List Record) : Prop := ∀ e ∈ log, ∃ own, e = entry exec e.statement e.choice e.before own

-- The marking succeeds.
def MarksSucceed (log : List Record) : Prop := ∀ e ∈ log, ∀ id, e.statement = .markProcessed id → ∃ r, e.answer = .ok r

section
variable {runtime : Runtime} {agents : Agents} {log : List Record}

theorem fetch_raised (follows : (fetch s agents).Follows log (.done (.error exc,later))) :
    ∃ c err d d', log = [⟨s,c,.error err,d,d'⟩] := by
  obtain ⟨c,d,d',⟨_,⟨⟩,-⟩ | ⟨_,err,-,rfl⟩⟩ := fetch_finished follows
  exact ⟨c,err,d,d',rfl⟩

theorem processEach_batch (genuine : Genuine log) (marked : MarksSucceed log)
    (follows : (processEach runtime polled agents).Follows log (.done (result,later))) :
    ∃ outcomes, Batch runtime agents polled log outcomes := by
  induction polled generalizing agents log with
  | nil =>
    obtain ⟨rfl,-⟩ := Follows.ended follows
    exact ⟨[],.done⟩
  | cons signal rest ih =>
    rcases Method.follows_through follows with ⟨_,rfl,raised⟩ | ⟨_,_,_,_,rfl,logged,work⟩
    · obtain ⟨c,err,d,d',rfl⟩ := fetch_raised raised
      obtain ⟨own,same⟩ := genuine _ List.mem_cons_self
      injection same with _ _ answer
      cases answer
    · obtain ⟨c,d,d',rfl,rfl⟩ := fetch_returned logged
      rcases Method.follows_through work with ⟨_,rfl,raised⟩ | ⟨_,_,handled,_,rfl,returned,marks⟩
      · exact ⟨_,.raised rfl raised⟩
      · rcases Method.follows_through marks with ⟨_,rfl,raised⟩ | ⟨_,_,_,_,rfl,ended,others⟩
        · obtain ⟨c,err,d,d',rfl⟩ := fetch_raised raised
          obtain ⟨r,answer⟩ := marked _ (List.mem_append_right _ (List.mem_append_right _ List.mem_cons_self)) signal.id rfl
          cases answer
        · obtain ⟨c',e,e',rfl,rfl⟩ := fetch_returned ended
          have suffix {x : Record} {a b c d : List Record} (member : x ∈ d) : x ∈ a ++ (b ++ (c ++ d)) :=
            List.mem_append_right _ (List.mem_append_right _ (List.mem_append_right _ member))
          obtain ⟨outcomes,batch⟩ := ih (fun x member => genuine x (suffix member)) (fun x member => marked x (suffix member)) others
          exact ⟨_,.returned rfl returned rfl batch⟩

-- The handling of a signal takes up no other one and marks none.
def Statement.idle : Statement → Prop
  | .processing _ | .markProcessed _ => False
  | _ => True

theorem handled_statements (follows : (handleSignal runtime signal agents).Follows handled (.done a)) :
    ∀ e ∈ handled, e.statement.idle := by
  have only : (handleSignal runtime signal).Only Statement.idle :=
    handleSignal_only (fun s handles => by cases s <;> trivial) runtime
  exact ((only agents).follows follows).2

theorem handled_idle (follows : (handleSignal runtime signal agents).Follows handled (.done a)) :
    attempts handled = [] ∧ ∀ id, marks handled id = false := by
  have told := handled_statements follows
  constructor
  · refine List.filterMap_eq_nil_iff.mpr fun e member => ?_
    have quiet := told e member
    split
    · rename_i processing
      rw [processing] at quiet
      exact quiet.elim
    · rfl
  · intro id
    refine List.any_eq_false.mpr fun e member marking => ?_
    have quiet := told e member
    rw [of_decide_eq_true marking] at quiet
    exact quiet

theorem batch_attempts (batch : Batch runtime agents polled log outcomes) : attempts log = outcomes.map Prod.fst := by
  induction batch with
  | done => rfl
  | raised logged handling =>
    rw [attempts,List.filterMap_cons,logged]
    exact congrArg _ (handled_idle handling).1
  | returned logged handling marked _ ih =>
    have none' := (handled_idle handling).1
    unfold attempts at none' ih ⊢
    rw [List.cons_append,List.filterMap_cons,logged,List.filterMap_append,none',List.filterMap_cons,marked,ih]
    rfl

theorem batch_marks (batch : Batch runtime agents polled log outcomes) (id : Uuid) :
    marks log id = true ↔ ∃ signal, (signal,.ok ()) ∈ outcomes ∧ signal.id = id := by
  induction batch with
  | done => simp [marks]
  | raised logged handling =>
    have none' := (handled_idle handling).2 id
    unfold marks at none' ⊢
    rw [List.any_cons,none',logged]
    simp
  | returned logged handling marked _ ih =>
    have none' := (handled_idle handling).2 id
    unfold marks at none' ih ⊢
    rw [List.cons_append,List.any_cons,List.any_append,none',List.any_cons,logged,marked]
    simp only [Bool.or_eq_true,decide_eq_true_eq,reduceCtorEq,decide_false,Bool.false_or,Statement.markProcessed.injEq,ih]
    constructor
    · rintro (same | ⟨s,member,same⟩)
      · exact ⟨_,List.mem_cons_self,same⟩
      · exact ⟨s,List.mem_cons_of_mem _ member,same⟩
    · rintro ⟨s,member,same⟩
      cases List.mem_cons.mp member with
      | inl first =>
        cases first
        exact .inl same
      | inr later => exact .inr ⟨s,later,same⟩

theorem batch_front (batch : Batch runtime agents polled log outcomes) : outcomes.map Prod.fst <+: polled := by
  induction batch with
  | done => exact List.prefix_rfl
  | raised => exact List.prefix_cons_inj _ |>.mpr List.nil_prefix
  | returned _ _ _ _ ih => exact (List.prefix_cons_inj _).mpr ih

-- An assignment of failures that the run bears out.
def Bears (fails : SignalRow → Bool) (outcomes : List (SignalRow × Except PyError Unit)) : Prop :=
  ∀ o ∈ outcomes, fails o.1 = true ↔ ∃ raised, o.2 = .error raised

-- The loop comes to the end when none but the last handler raises.
theorem batch_complete (batch : Batch runtime agents polled log outcomes) (bears : Bears fails outcomes) :
    outcomes.map Prod.fst = polled ↔ ∀ signal ∈ polled.dropLast, fails signal = false := by
  induction batch with
  | done => simp
  | @raised _ _ _ _ signal rest raised _ _ =>
    have failed : fails signal = true := (bears _ (List.mem_singleton_self _)).mpr ⟨raised,rfl⟩
    cases rest with
    | nil => simp
    | cons other more => simp [failed]
  | @returned _ _ _ _ _ _ _ signal rest _ _ _ _ ih =>
    have kept : fails signal = false := by
      rw [← Bool.not_eq_true]
      intro failed
      obtain ⟨raised,same⟩ := (bears _ List.mem_cons_self).mp failed
      cases same
    have others := ih fun o member => bears o (List.mem_cons_of_mem _ member)
    rw [List.map_cons,List.cons.injEq,others]
    cases rest with
    | nil => simp
    | cons other more => simp [kept]

def flagged (log : List Record) (row : SignalRow) : SignalRow := if marks log row.id then {row with processed := true} else row

theorem effect_flags {db db' : Database} (effect : Effect c db session s db') (other : ∀ id, s ≠ .markProcessed id)
    (created : ∀ type agent, s ≠ .insertSignal type agent) : db'.controlSignals = db.controlSignals := by
  cases effect with
  | markProcessed => exact absurd rfl (other _)
  | insertSignal => exact absurd rfl (created _ _)
  | toggle => rw [toggled_eq]
  | _ => rfl

theorem exec_flags (s : Statement) (c : Choice) (d : Database) (l : Session) (created : ∀ type agent, s ≠ .insertSignal type agent)
    (answered : ∀ id, s = .markProcessed id → ∃ r, (exec s c d l).1 = .ok r) :
    (exec s c d l).2.1.controlSignals = d.controlSignals.map fun row =>
      if s = .markProcessed row.id then {row with processed := true} else row := by
  by_cases marking : ∃ id, s = .markProcessed id
  · obtain ⟨id,rfl⟩ := marking
    obtain ⟨r,answer⟩ := answered id rfl
    have done := exec_ok answer
    simp only [perform,Except.ok.injEq,Prod.mk.injEq] at done
    rw [← congrArg Prod.fst done.2]
    refine List.map_congr_left fun row _ => ?_
    simp only [Statement.markProcessed.injEq,eq_comm]
  · have other : ∀ id, s ≠ .markProcessed id := fun id same => marking ⟨id,same⟩
    rw [effect_flags (exec_effect c d l s) other created]
    simp [other]

-- Alone, a tick flags the rows that its record marks, and no others.
theorem tick_flags (runtime : Runtime) (agents : Agents) (db : Database) :
    ((tick runtime) agents).Ensures (recorded exec) (fun _ => True) (fun _ db' l => MarksSucceed l.2 →
      db'.controlSignals = db.controlSignals.map (flagged l.2)) db (.fresh,[]) := by
  have only : ((tick runtime) agents).Only fun s => ∀ type agent, s ≠ .insertSignal type agent :=
    tick_only (fun _ _ => nofun) (fun _ _ _ => nofun) (fun _ => ⟨fun _ _ => nofun,fun s handles type agent same => by
      subst same
      exact handles.elim⟩) runtime agents
  refine only.ensures (fun (db' : Database) (l : Session × List Record) => MarksSucceed l.2 →
    db'.controlSignals = db.controlSignals.map (flagged l.2)) ?_ ?_
  · intro s c d l created kept succeed
    have before := kept fun e member => succeed e (List.mem_append_left _ member)
    have answered : ∀ id, s = .markProcessed id → ∃ r, (exec s c d l.1).1 = .ok r := by
      intro id marking
      exact succeed (entry exec s c d l.1) (List.mem_append_right _ (List.mem_singleton_self _)) id marking
    refine (exec_flags s c d l.1 created answered).trans ?_
    rw [before,List.map_map]
    refine List.map_congr_left fun row _ => ?_
    have more : marks (l.2 ++ [entry exec s c d l.1]) row.id = (marks l.2 row.id || decide (s = .markProcessed row.id)) := by
      unfold marks
      rw [List.any_append,List.any_cons,List.any_nil,Bool.or_false]
      rfl
    change _ = flagged (l.2 ++ [entry exec s c d l.1]) row
    have same : (flagged l.2 row).id = row.id := by
      unfold flagged
      split <;> rfl
    rw [Function.comp_apply,same]
    unfold flagged
    rw [more]
    cases marks l.2 row.id <;> by_cases now : s = .markProcessed row.id <;> simp [now]
  · intro _
    have same : flagged [] = fun row => row := funext fun row => if_neg (by simp [marks])
    rw [same,List.map_id']

-- Every polled signal was taken up once, in creation order, and the flags set are
-- those of the signals whose handlers returned.
structure BatchHandled (fails : SignalRow → Bool) (polled : List SignalRow) (log : List Record) (db db' : Database) : Prop where
  attempted : attempts log = polled
  ordered : polled.Pairwise fun a b => a.createdAt ≤ b.createdAt
  flags : db'.controlSignals = db.controlSignals.map fun row =>
    if polled.any (fun signal => signal.id = row.id && !fails signal) then {row with processed := true} else row

theorem batch_handled_iff {db db' : Database} (batch : Batch runtime agents polled log outcomes) (bears : Bears fails outcomes)
    (ordered : polled.Pairwise fun a b => a.createdAt ≤ b.createdAt)
    (flags : db'.controlSignals = db.controlSignals.map (flagged log)) :
    BatchHandled fails polled log db db' ↔ ∀ signal ∈ polled.dropLast, fails signal = false := by
  rw [← batch_complete batch bears]
  constructor
  · intro handled
    rw [← batch_attempts batch]
    exact handled.attempted
  · intro complete
    refine ⟨(batch_attempts batch).trans complete,ordered,?_⟩
    rw [flags]
    refine List.map_congr_left fun row _ => ?_
    have same : marks log row.id = polled.any fun signal => signal.id = row.id && !fails signal := by
      rw [Bool.eq_iff_iff,batch_marks batch,List.any_eq_true,← complete]
      constructor
      · rintro ⟨signal,member,same⟩
        refine ⟨signal,List.mem_map_of_mem member,?_⟩
        have kept : fails signal = false := by
          rw [← Bool.not_eq_true]
          intro failed
          obtain ⟨raised,error⟩ := (bears _ member).mp failed
          cases error
        simp [same,kept]
      · rintro ⟨signal,member,own⟩
        simp only [Bool.and_eq_true,decide_eq_true_eq,Bool.not_eq_true'] at own
        obtain ⟨⟨signal,outcome⟩,present,rfl⟩ := List.mem_map.mp member
        cases outcome with
        | ok _ => exact ⟨signal,present,own.1⟩
        | error raised => cases own.2.symm.trans ((bears _ present).mpr ⟨raised,rfl⟩)
    unfold flagged
    rw [same]

theorem polled_ordered (genuine : Genuine (⟨.poll,c,.ok polled,d,d'⟩ :: more)) :
    polled.Pairwise fun a b => a.createdAt ≤ b.createdAt := by
  obtain ⟨own,same⟩ := genuine _ List.mem_cons_self
  injection same with _ _ answer
  have answered : (exec .poll c d own).1 = .ok polled := answer.symm
  rw [← (Prod.mk.inj (Except.ok.inj (exec_ok answered))).1]
  exact List.pairwise_insertionSort (fun a b : SignalRow => a.createdAt ≤ b.createdAt) _

end

-- start_investigation comes after a force_tick whose task cannot be worked.
def Runtime.actual : Runtime := {Runtime.sample with registry := realRegistry}
def Database.batched : Database :=
  {Database.asked with controlSignals := [⟨31,"force_tick",some 1,60,false⟩,⟨32,"start_investigation",none,70,false⟩]}

theorem bad_signal_blocks : ¬ ∀ runtime db, ((tick runtime) []).Ensures (recorded exec) Healthy (fun _ _ l =>
    ∀ c polled d d' more, l.2 = ⟨.poll,c,.ok polled,d,d'⟩ :: more → attempts more = polled) db (.fresh,[]) := by
  intro always
  have healthy : ∀ c ∈ List.replicate 3 Choice.sample, Healthy c := by simp [Healthy,Choice.sample]
  have attempted := (always .actual .batched).played healthy rfl _ _ _ _ _ rfl
  exact absurd attempted (by decide)

-- Whatever the handlers do and whatever fails in them, if the poll is answered and
-- the marks succeed.
theorem batch_handled (runtime : Runtime) (agents : Agents) (db : Database) :
    ((tick runtime) agents).Ensures (recorded exec) (fun _ => True) (fun _ db' l => ∀ c polled d d' more,
      l.2 = ⟨.poll,c,.ok polled,d,d'⟩ :: more → MarksSucceed l.2 → ∃ outcomes, Batch runtime agents polled more outcomes ∧
        ∀ fails, Bears fails outcomes →
          (BatchHandled fails polled more db db' ↔ ∀ signal ∈ polled.dropLast, fails signal = false)) db (.fresh,[]) := by
  refine ((Ensures.followed ((tick runtime) agents)).both (tick_flags runtime agents db)).imp ?_
  intro answer db' l both c polled d d' more log succeed
  obtain ⟨⟨added,same,follows,genuine⟩,flags⟩ := both
  obtain ⟨result,later⟩ := answer
  have whole : added = ⟨.poll,c,.ok polled,d,d'⟩ :: more := by rw [← log,same,List.nil_append]
  subst whole
  rcases Method.follows_through follows with ⟨_,_,raised⟩ | ⟨_,_,_,_,parts,answered,works⟩
  · obtain ⟨_,_,_,_,single⟩ := fetch_raised raised
    cases (List.cons.inj single).1
  · obtain ⟨_,_,_,rfl,rfl⟩ := fetch_returned answered
    obtain ⟨first,rfl⟩ := List.cons.inj parts
    cases first
    obtain ⟨outcomes,batch⟩ := processEach_batch (fun e member => genuine e (List.mem_cons_of_mem _ member))
      (fun e member => succeed e (log ▸ List.mem_cons_of_mem _ member)) works
    refine ⟨outcomes,batch,fun fails bears => batch_handled_iff batch bears (polled_ordered genuine) ?_⟩
    rw [flags succeed,log]
    refine List.map_congr_left fun row _ => ?_
    simp [flagged,marks]

end Trokk
