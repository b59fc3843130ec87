import Mathlib.Logic.Relation
import Trokk.ConsensusRace
import Trokk.Integrity

-- status, report and completed_at of an investigation, which UpdateInvestigationStatus
-- of the API and set_investigation_status of the orchestrator both write.
namespace Trokk
open Program

structure Recorded (i : InvestigationRow) : Prop where
  complete : i.status = .complete → i.report.isSome ∧ i.completedAt.isSome
  other : i.status ≠ .complete → i.completedAt = none

def Consistent (db : Database) : Prop := ∀ i ∈ db.investigations, Recorded i

structure Unfinished (i : InvestigationRow) : Prop where
  status : i.status ≠ .complete
  completedAt : i.completedAt = none

-- Requests, ticks and runs of _run_consensus, in sessions of their own.
inductive Recording (adminKey : String) (runtime : Runtime) : Nat → Api Unit → Prop where
  | request : Recording adminKey runtime n (serve adminKey req >>= fun _ => .done ())
  | tick : Recording adminKey runtime n (tick runtime agents >>= fun _ => .done ())
  | consensus : Recording adminKey runtime n (run_consensus runtime inv agents >>= fun _ => .done ())

abbrev Recorders := Pool Statement Statement.Result PgError Unit Database Session Nat
abbrev RecordStep (adminKey : String) (runtime : Runtime) : Recorders → Event Nat Unit → Recorders → Prop :=
  Pool.Step exec (Recording adminKey runtime) Session.fresh
abbrev RecordRuns (adminKey : String) (runtime : Runtime) : Recorders → Recorders → Prop :=
  Pool.Runs exec (Recording adminKey runtime) Session.fresh

-- A set_investigation_status(id, "complete") that takes effect on a row.
def Completes (p : Recorders) (event : Event Nat Unit) (next : Recorders) : Prop := ∃ t inv rest l, event = .act t ∧
  p.sessions t = some (.call (.setInvestigationStatus inv .complete) rest,l) ∧
  ∃ i ∈ next.shared.investigations, i.id = inv ∧ i.status = .complete

def Uncompleting (adminKey : String) (runtime : Runtime) (p next : Recorders) : Prop :=
  ∃ event, RecordStep adminKey runtime p event next ∧ ¬ Completes p event next

-- completed_at is written by UpdateInvestigationStatus to complete alone.
def Statement.undated : Statement → Prop
  | .updateInvestigationStatus _ status => status ≠ .complete
  | _ => True

theorem requested_undated {s : Statement} (requested : s.requested route) : s.undated := by
  cases s with
  | updateInvestigationStatus target status =>
    intro complete
    cases requested.1.symm.trans complete
  | _ => trivial

theorem handles_undated {s : Statement} (handles : s.handles type) : s.undated := by
  cases s with
  | updateInvestigationStatus => exact handles.elim
  | _ => trivial

theorem recording_undated (recording : Recording adminKey runtime n x) : x.Only Statement.undated := by
  cases recording with
  | request => exact Only.bind (serve_only (fun _ => requested_undated) adminKey) fun _ => trivial
  | tick => exact Only.bind (tick_only trivial (fun _ => trivial) (fun _ => ⟨trivial,fun _ => handles_undated⟩) runtime _) fun _ => trivial
  | consensus => exact Only.bind (run_consensus_only (fun _ => handles_undated) runtime _ _) fun _ => trivial

variable {adminKey : String} {runtime : Runtime} {db db' : Database} {p q next : Recorders} {P : InvestigationRow → Prop}

-- What new rows have, and what the statement leaves to those it touches.
theorem effect_every (effect : Effect c db session s db') (every : ∀ i ∈ db.investigations, P i) (opens : session.Opens P)
    (touched : ∀ i, P i → ∀ j ∈ db'.investigations, Touched c i s j → P j) : ∀ j ∈ db'.investigations, P j := by
  have edited (target : Uuid) (edit : InvestigationRow → InvestigationRow)
      (same : db' = db.editInvestigation target edit) (edits : ∀ i, i.id = target → Touched c i s (edit i)) :
      ∀ j ∈ db'.investigations, P j := by
    intro j member
    have present := member
    rw [same] at member
    obtain ⟨i,old,rfl⟩ := List.mem_map.mp member
    refine touched i (every i old) _ present ?_
    split
    · rename_i target
      exact edits i target
    · exact .untouched
  cases effect with
  | commit opened =>
    intro j member
    cases List.mem_append.mp member with
    | inl old => exact every j old
    | inr added => exact opens _ opened j added
  | updateInvestigationStatus => exact edited _ _ rfl fun _ => .updateStatus
  | setInvestigationStatus => exact edited _ _ rfl fun _ => .setStatus
  | setInvestigationReport => exact edited _ _ rfl fun _ => .setReport
  | toggle =>
    rw [toggled_eq]
    exact every
  | _ => exact every

def Undated (i : InvestigationRow) : Prop := i.completedAt = none

theorem touched_undated (undated : s.undated) (before : Undated i) (touched : Touched c i s j) : Undated j := by
  cases touched with
  | updateStatus => rwa [Undated,if_neg undated]
  | _ => exact before

theorem exec_keeps_undated : Keeps exec Statement.undated (fun db => ∀ i ∈ db.investigations, Undated i)
    (fun _ session => session.Opens Unfinished) Session.fresh where
  shared := by
    intro s c db l undated every opens
    apply effect_every (exec_effect c db l s) every fun tx opened i member => (opens tx opened i member).completedAt
    exact fun i before j _ => touched_undated undated before
  session := fun s c db l _ _ opens => exec_opens (fun _ _ _ => ⟨nofun,rfl⟩) c db s opens
  others := fun _ _ _ _ _ _ _ _ opens => opens
  fresh := fun _ _ => fresh_opens _

theorem runs_undated (unfinished : ∀ i ∈ db.investigations, Unfinished i) (run : RecordRuns adminKey runtime (Pool.idle db) p) :
    p.Kept Statement.undated (fun db => ∀ i ∈ db.investigations, Undated i) fun _ session => session.Opens Unfinished :=
  Pool.runs_kept exec_keeps_undated (fun _ _ => recording_undated)
    (Pool.idle_kept fun i member => (unfinished i member).completedAt) run

theorem uncompleting_run (path : Relation.ReflTransGen (Uncompleting adminKey runtime) p q) : RecordRuns adminKey runtime p q := by
  induction path with
  | refl => exact .start
  | tail _ step ih =>
    obtain ⟨event,step,-⟩ := step
    exact .step ih step

theorem step_unfinished (kept : p.Kept Statement.undated (fun db => ∀ i ∈ db.investigations, Undated i) fun _ session =>
      session.Opens Unfinished) (unfinished : ∀ i ∈ p.shared.investigations, Unfinished i)
    (step : RecordStep adminKey runtime p event next) (other : ¬ Completes p event next) :
    ∀ i ∈ next.shared.investigations, Unfinished i := by
  cases step with
  | begin => exact unfinished
  | answer => exact unfinished
  | kill => exact unfinished
  | @act l _ t s c rest present =>
    obtain ⟨only,opens⟩ := kept.sessions _ _ _ present
    refine effect_every (exec_effect c p.shared l s) unfinished opens fun i before j member touched => ?_
    refine ⟨?_,touched_undated only.1 before.completedAt touched⟩
    cases touched with
    | untouched => exact before.status
    | updateStatus => exact only.1
    | setStatus target =>
      intro complete
      subst complete
      exact other ⟨t,_,rest,l,rfl,present,_,member,target,rfl⟩
    | setReport => exact before.status

theorem run_unfinished (unfinished : ∀ i ∈ db.investigations, Unfinished i)
    (path : Relation.ReflTransGen (Uncompleting adminKey runtime) (Pool.idle db) p) :
    ∀ i ∈ p.shared.investigations, Unfinished i := by
  induction path with
  | refl => exact unfinished
  | tail before step ih =>
    obtain ⟨event,step,other⟩ := step
    exact step_unfinished (runs_undated unfinished (uncompleting_run before)) ih step other

structure CompletionsRecorded (adminKey : String) (runtime : Runtime) (db : Database) : Prop where
  consistent : ∀ p, Relation.ReflTransGen (Uncompleting adminKey runtime) (Pool.idle db) p → Consistent p.shared
  inconsistent : ∀ p event next, RecordRuns adminKey runtime (Pool.idle db) p → RecordStep adminKey runtime p event next →
    Completes p event next → ¬ Consistent next.shared

theorem completions_recorded (adminKey : String) (runtime : Runtime) (unfinished : ∀ i ∈ db.investigations, Unfinished i) :
    CompletionsRecorded adminKey runtime db := by
  constructor
  · intro p path i member
    have row := run_unfinished unfinished path i member
    exact ⟨fun complete => absurd complete row.status,fun _ => row.completedAt⟩
  · intro p event next run step completes consistent
    have undated := (runs_undated unfinished (.step run step)).holds
    obtain ⟨_,_,_,_,-,-,i,member,-,complete⟩ := completes
    have dated := ((consistent i member).complete complete).2
    rw [undated i member] at dated
    cases dated

theorem due_unfinished : ∀ i ∈ Database.due.investigations, Unfinished i := by
  intro i member
  cases List.mem_singleton.mp member
  exact ⟨nofun,rfl⟩

theorem completions_recorded_sample : CompletionsRecorded "rp_admin" .sample .due :=
  completions_recorded "rp_admin" .sample due_unfinished

-- One run of _run_consensus: two reads, the model, the two writes.
def concluding : Recorders :=
  ⟨.due,Function.update (fun _ => none) 0 (some (run_consensus .sample 21 [] >>= fun _ => .done (),.fresh))⟩
def concluded : Recorders := concluding.acts exec (List.replicate 5 (0,.sample))

theorem completed_undated : ¬ ∀ p, RecordRuns "rp_admin" .sample (Pool.idle .due) p → Consistent p.shared := by
  intro consistent
  have runs : RecordRuns "rp_admin" .sample (Pool.idle .due) concluding := .step .start (.begin rfl .consensus)
  have rows : concluded.shared.investigations = [⟨21,"why",.complete,some (.obj []),30,none⟩] := by decide +kernel
  have member : ⟨21,"why",.complete,some (.obj []),30,none⟩ ∈ concluded.shared.investigations := by
    rw [rows]
    exact List.mem_singleton_self _
  cases ((consistent concluded (Pool.acts_runs runs _) _ member).complete rfl).2

end Trokk
