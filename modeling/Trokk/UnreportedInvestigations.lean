import Trokk.ConsensusRequest
import Trokk.Library.Guarded
import Trokk.ListPages
import Trokk.TaskRecords

-- No handler inserts a trigger_consensus signal. Where none waits, no investigation
-- gets a report, completes or fails.
namespace Trokk
open Program Method

structure InvestigationRow.Unreported (i : InvestigationRow) : Prop where
  report : i.report = none
  completedAt : i.completedAt = none
  status : i.status = .inProgress ∨ i.status = .consensus

-- An old row is as it was, but for a status that TriggerConsensus wrote.
inductive LeftOver (start : Database) (i : InvestigationRow) : Prop where
  | untouched : i ∈ start.investigations → LeftOver start i
  | consensus : old ∈ start.investigations → i = {old with status := .consensus} → LeftOver start i
  | added : i.Unreported → LeftOver start i

structure Unended (start db : Database) : Prop where
  untriggered : Untriggered db
  rows : ∀ i ∈ db.investigations, LeftOver start i

def Session.unreported (l : Session) : Prop := ∀ tx ∈ l.tx, ∀ i ∈ tx.investigations, i.Unreported

variable {db db' start : Database} {l : Session}

theorem LeftOver.asked (left : LeftOver start i) : LeftOver start {i with status := .consensus} := by
  cases left with
  | untouched member => exact .consensus member rfl
  | consensus member same =>
    rw [same]
    exact .consensus member rfl
  | added unreported => exact .added ⟨unreported.report,unreported.completedAt,.inr rfl⟩

theorem effect_unended (effect : Effect c db l s db') (quiet : s.quiet) (unfinished : Unended start db) (mine : l.unreported) :
    Unended start db' := by
  refine ⟨quiet_untriggered effect quiet unfinished.untriggered,?_⟩
  cases effect with
  | commit opened =>
    intro i member
    cases List.mem_append.mp member with
    | inl old => exact unfinished.rows i old
    | inr added => exact .added (mine _ opened i added)
  | updateInvestigationStatus =>
    intro i member
    obtain ⟨old,there,rfl⟩ := List.mem_map.mp member
    have consensus := quiet
    change _ = InvestigationStatus.consensus at consensus
    subst consensus
    split
    · exact (unfinished.rows old there).asked
    · exact unfinished.rows old there
  | setInvestigationStatus => exact quiet.elim
  | setInvestigationReport => exact quiet.elim
  | toggle =>
    rw [toggled_eq]
    exact unfinished.rows
  | _ => exact unfinished.rows

theorem unreported_drafting : Drafting fun tx => ∀ i ∈ tx.investigations, i.Unreported where
  empty := fun _ => List.forall_mem_nil _
  investigation := fun tx i status report completed drafted row member => by
    cases List.mem_append.mp member with
    | inl old => exact drafted row old
    | inr added =>
      rw [List.mem_singleton.mp added]
      exact ⟨report,completed,.inl status⟩
  task := fun _ _ _ _ _ _ drafted => drafted

theorem exec_unended (s : Statement) (c : Choice) (db : Database) (l : Session) (quiet : s.quiet) (unfinished : Unended start db)
    (mine : l.unreported) : Unended start (exec s c db l).2.1 ∧ (exec s c db l).2.2.unreported ∧ True :=
  ⟨effect_unended (exec_effect c db l s) quiet unfinished mine,exec_drafting unreported_drafting s c db mine,trivial⟩

abbrev Unfinishing (start : Database) (learned : A → Database → Prop) (x : Py A) : Prop :=
  x.Guarded exec (Unended start) Session.unreported (fun _ _ => True) (fun _ => True) learned

theorem tick_unfinishing (start : Database) (runtime : Runtime) : Unfinishing start (fun _ _ => True) (tick runtime) := by
  have polls : Unfinishing start (fun signals _ => ∀ s ∈ signals, s.signalType ≠ "trigger_consensus") (fetch .poll) := by
    rw [fetch_orRaise]
    refine Guarded.ask (outliving_true _) (fun _ _ _ _ known => known) (fun c db l unfinished mine _ => exec_unended .poll c db l trivial unfinished mine)
      fun c db l signals unfinished _ ok => ?_
    exact poll_untriggered unfinished.untriggered (orRaise_ok ok)
  refine Guarded.bind (fun _ => trivial) polls fun signals d l unfinished mine others => ?_
  have rest : (processEach runtime signals).Only Statement.quiet := processEach_only runtime signals (fun _ => trivial)
    fun signal present => ⟨others signal present,fun _ => handles_quiet (others signal present)⟩
  exact rest.secure exec_unended mine

theorem starts_unfinishing (starts : Starts adminKey runtime t x) (unfinished : Unended start db) :
    x.Secure exec (Unended start) Session.unreported (fun _ _ => True) (fun _ _ _ => True) db .fresh := by
  have fresh : Session.fresh.unreported := nofun
  cases starts with
  | request => exact (serving_only (fun _ => requested_quiet) adminKey).secure (yields_true _) exec_unended fresh
  | tick =>
    refine Secure.bind (fun _ => trivial) unfinished fresh (tick_unfinishing start runtime db .fresh unfinished fresh trivial _) ?_
    intro (result,agents) db l _ _ _
    cases result <;> exact fun _ _ _ => trivial

-- The statuses in which rows are listed are those that were there, in_progress and
-- consensus.
theorem never_reported {p : System} (untriggered : Untriggered start) (run : SystemRuns adminKey runtime (Pool.idle start) p) :
    (∀ i ∈ p.shared.investigations, LeftOver start i) ∧
      ∀ status, status ∉ ["","in_progress","consensus"] → matchingStatus p.shared status ⊆ matchingStatus start status := by
  have unfinished : Unended start start := ⟨untriggered,fun i member => .untouched member⟩
  have begins (worker : Worker) (x : Api Answer) (db : Database) (starts : Starts adminKey runtime worker x) (unfinished : Unended start db) :=
    starts_unfinishing starts unfinished
  have rows := (Pool.runs_secured (fun _ => trivial) (fun _ _ _ _ _ => trivial) begins (fun _ => nofun) (Pool.idle_secured unfinished) run).1.holds.rows
  refine ⟨rows,fun status other i member => ?_⟩
  obtain ⟨present,matches'⟩ := List.mem_filter.mp member
  have named : i.status.text = status := by
    have nonempty : status ≠ "" := fun empty => other (by simp [empty])
    simpa [nonempty] using matches'
  cases rows i present with
  | untouched old => exact List.mem_filter.mpr ⟨old,matches'⟩
  | consensus old same =>
    rw [same] at named
    exact absurd (by simp [← named,InvestigationStatus.text]) other
  | added unreported =>
    cases unreported.status with
    | inl status => exact absurd (by simp [← named,status,InvestigationStatus.text]) other
    | inr status => exact absurd (by simp [← named,status,InvestigationStatus.text]) other

theorem never_reported_sample : updated.shared.investigations.map InvestigationRow.status = [.consensus] ∧
    matchingStatus updated.shared "complete" ⊆ matchingStatus .asked "complete" :=
  ⟨by decide +kernel,(never_reported asked_untriggered updated_runs).2 _ (by decide)⟩

end Trokk
