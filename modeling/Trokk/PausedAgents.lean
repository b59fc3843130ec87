import Trokk.InterruptedTicks

-- Pausing clears the active flag of agents. GetAgentByAPIKey and the agents that
-- CreateInvestigation assigns go by the flag, get_pending_task does not.
namespace Trokk
open Program

def Paused (db : Database) (agent : Uuid) : Prop := ∃ a ∈ db.agents, a.id = agent ∧ a.active = some false

-- No pending task of a paused agent starts to run.
def PauseRespected (before after : Database) : Prop := ∀ t ∈ before.investigationTasks, t.status = .pending →
  Paused before t.agentId → ∀ u ∈ after.investigationTasks, u.id = t.id → u.status ≠ .running

-- Where the step is a get_pending_task that is carried out and finds a task, its agent
-- is not paused.
def ClaimsActive (p : System) (event : Event Worker Answer) (next : System) : Prop := ∀ w agent type rest l c,
  event = .act w → p.sessions w = some (.call (.pendingTask agent type) rest,l) → c.fate ≠ .refused →
  next.shared = (exec (.pendingTask agent type) c p.shared l).2.1 → (oldestPending p.shared agent type).isSome →
  ¬ Paused p.shared agent

abbrev SystemTrace (adminKey : String) (runtime : Runtime) := Pool.Traced exec (Starts adminKey runtime) Session.fresh

variable {db db' : Database}

theorem claim_carried_out (carried : c.fate ≠ .refused) (found : oldestPending db agent type = some t) :
    (exec (.pendingTask agent type) c db l).2.1 = db.editTask t.id fun t => {t with status := .running} := by
  have done : perform c db l (.pendingTask agent type) =
      .ok (some {t with status := .running},db.editTask t.id fun t => {t with status := .running},l) := by
    simp only [perform,found]
  unfold exec
  rw [done]
  split
  · rename_i refused
    exact absurd refused carried
  · rfl
  · rfl

theorem refused_unchanged (refused : c.fate = .refused) (uncertain : s.certain = false) : (exec s c db l).2.1 = db := by
  have fate : (if s.certain then Fate.answered else c.fate) = .refused := by simp [uncertain,refused]
  unfold exec
  rw [fate]

theorem pending_kept (taskIds : (db.investigationTasks.map TaskRow.id).Nodup) (present : t ∈ db.investigationTasks)
    (pending : t.status = .pending) : ∀ u ∈ db.investigationTasks, u.id = t.id → u.status ≠ .running := by
  intro u member same
  rw [List.inj_on_of_nodup_map taskIds member present same,pending]
  nofun

theorem ended_not_running {edit : TaskRow → TaskRow} (member : u ∈ (db.editTask target edit).investigationTasks) (same : u.id = task)
    (keeps : ∀ t, (edit t).id = t.id) (ends : ∀ t, (edit t).status ≠ .running)
    (kept : ∀ u ∈ db.investigationTasks, u.id = task → u.status ≠ .running) : u.status ≠ .running := by
  obtain ⟨v,before,rfl⟩ := List.mem_map.mp member
  rw [edit_kept keeps] at same
  split
  · exact ends v
  · exact kept v before same

-- A pending task runs only by a claim that finds it.
theorem starts_by_claim (effect : Effect c db session s db') (taskIds : (db.investigationTasks.map TaskRow.id).Nodup)
    (present : t ∈ db.investigationTasks) (pending : t.status = .pending) (after : u ∈ db'.investigationTasks)
    (same : u.id = t.id) (running : u.status = .running) :
    ∃ type, s = .pendingTask t.agentId type ∧ oldestPending db t.agentId type = some t := by
  have kept := pending_kept taskIds present pending
  cases effect with
  | commit _ _ freshTasks =>
    cases List.mem_append.mp after with
    | inl old => exact absurd running (kept u old same)
    | inr added => exact absurd same.symm (freshTasks u added t present)
  | @pendingTask agent type claimed found =>
    obtain ⟨there,own,-,-⟩ := oldestPending_mem found
    obtain ⟨v,before,rfl⟩ := List.mem_map.mp after
    by_cases isClaimed : v.id = claimed.id
    · rw [if_pos isClaimed] at same
      cases List.inj_on_of_nodup_map taskIds there present (isClaimed.symm.trans same)
      subst own
      exact ⟨type,rfl,found⟩
    · rw [if_neg isClaimed] at same running
      exact absurd running (kept v before same)
  | completeTask => exact absurd running (ended_not_running after same (fun _ => rfl) (fun _ => nofun) kept)
  | failTask => exact absurd running (ended_not_running after same (fun _ => rfl) (fun _ => nofun) kept)
  | toggle =>
    rw [toggled_eq] at after
    exact absurd running (kept u after same)
  | _ => exact absurd running (kept u after same)

theorem step_respects_iff {p : System} (valid : db.Valid) (run : SystemRuns adminKey runtime (Pool.idle db) p)
    (step : SystemStep adminKey runtime p event next) : PauseRespected p.shared next.shared ↔ ClaimsActive p event next := by
  have reached := (Pool.runs_kept (exec_keeps_valid fun _ => True) (fun _ x _ => only_true x) (Pool.idle_kept valid) run).holds
  constructor
  · intro respected w agent type rest l c _ _ carried after found paused
    obtain ⟨t,found⟩ := Option.isSome_iff_exists.mp found
    obtain ⟨present,own,pending,-⟩ := oldestPending_mem found
    refine respected t present pending (own ▸ paused) {t with status := .running} ?_ rfl rfl
    rw [after,claim_carried_out carried found]
    exact List.mem_map.mpr ⟨t,present,if_pos rfl⟩
  · intro active t present pending paused u after same running
    have kept := pending_kept reached.taskIds present pending
    cases step with
    | begin => exact kept u after same running
    | answer => exact kept u after same running
    | kill => exact kept u after same running
    | @act l _ w s c rest working =>
      obtain ⟨type,rfl,found⟩ := starts_by_claim (exec_effect c p.shared l s) reached.taskIds present pending after same running
      have carried : c.fate ≠ .refused := by
        intro refused
        change u ∈ (exec _ c p.shared l).2.1.investigationTasks at after
        rw [refused_unchanged refused rfl] at after
        exact kept u after same running
      exact active w _ type rest l c rfl working carried rfl (by rw [found]; rfl) paused

-- A run respects every pause exactly when all its claims are of active agents.
theorem pause_respected_iff {steps : List (System × Event Worker Answer × System)} (valid : db.Valid)
    (run : SystemTrace adminKey runtime (Pool.idle db) steps p) :
    (∀ step ∈ steps, PauseRespected step.1.shared step.2.2.shared) ↔ ∀ step ∈ steps, ClaimsActive step.1 step.2.1 step.2.2 := by
  apply forall₂_congr
  intro step member
  obtain ⟨reached,taken⟩ := run.taken step member
  exact step_respects_iff valid reached taken

-- A signal waits, all agents are paused, and the tick claims nevertheless.
def pausing : System :=
  ⟨.forcedAsked,Function.update (fun _ => none) (.request 0) (some (serving "rp_admin" ⟨"Bearer rp_admin",.pauseAll⟩,.fresh))⟩
def pausingTicking : System :=
  ⟨.forcedAsked,Function.update pausing.sessions (.orchestrator 0) (some (ticking .chatting [],.fresh))⟩
def pausedBefore : System :=
  pausingTicking.acts exec ((.request 0,.sample) :: List.replicate 2 (.orchestrator 0,.sample))
def pausedAfter : System := pausedBefore.acts exec [(.orchestrator 0,.sample)]

theorem pausedBefore_runs : SystemRuns "rp_admin" .chatting (Pool.idle .forcedAsked) pausedBefore := by
  have begun : SystemRuns "rp_admin" .chatting (Pool.idle .forcedAsked) pausing := .step .start (.begin rfl .request)
  exact Pool.acts_runs (.step begun (.begin rfl .tick)) _

theorem pausedBefore_step : SystemStep "rp_admin" .chatting pausedBefore (.act (.orchestrator 0)) pausedAfter :=
  Pool.acts_step rfl

theorem pause_respected_iff_sample : ∃ steps : List (System × Event Worker Answer × System),
    (pausedBefore,.act (.orchestrator 0),pausedAfter) ∈ steps ∧
    ((∀ step ∈ steps, PauseRespected step.1.shared step.2.2.shared) ↔ ∀ step ∈ steps, ClaimsActive step.1 step.2.1 step.2.2) := by
  obtain ⟨steps,before⟩ := pausedBefore_runs.traced
  have run : SystemTrace "rp_admin" .chatting (Pool.idle .forcedAsked) _ pausedAfter := .step before pausedBefore_step
  exact ⟨_,List.mem_append_right _ (List.mem_singleton_self _),pause_respected_iff Database.forcedAsked_valid run⟩

theorem paused_agent_works : ¬ ∀ p event next, SystemRuns "rp_admin" .chatting (Pool.idle .forcedAsked) p →
    SystemStep "rp_admin" .chatting p event next → PauseRespected p.shared next.shared := by
  intro respected
  exact respected _ _ _ pausedBefore_runs pausedBefore_step _ (List.mem_singleton_self _) rfl
    ⟨_,List.mem_singleton_self _,rfl,rfl⟩ _ (List.mem_singleton_self _) rfl rfl

end Trokk
