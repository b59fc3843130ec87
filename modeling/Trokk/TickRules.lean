import Trokk.Orchestrator

-- A tick, statement by statement.
namespace Trokk
open Program

def orRaise : Except PgError A → Except PyError A
  | .ok result => .ok result
  | .error _ => .error .database

theorem fetch_orRaise (s : Statement) : fetch s = Method.lift (issue s >>= fun answer => .done (orRaise answer)) := by
  refine congrArg Method.lift (congrArg (Program.bind (issue s)) (funext fun answer => ?_))
  cases answer <;> rfl

theorem orRaise_ok {answer : Except PgError A} (ok : orRaise answer = .ok a) : answer = .ok a := by
  cases answer with
  | error e => cases ok
  | ok result =>
    cases ok
    rfl

-- What a property of methods needs in order to hold of a tick, apart from the work
-- that a force_tick sets off.
structure TickRules (allowed : Statement → Prop) (K : (A : Type) → Py A → Prop) : Prop where
  pure : ∀ {A : Type} (a : A), K A (Pure.pure a)
  bind : ∀ {A B : Type} (x : Py A) (f : A → Py B), K A x → (∀ a, K B (f a)) → K B (x >>= f)
  attempt : ∀ (x : Py Unit) (handler : PyError → Py Unit), K Unit x → (∀ e, K Unit (handler e)) → K Unit (Method.attempt x handler)
  fetch : ∀ s : Statement, allowed s → K s.Result (Trokk.fetch s)

-- A statement that the tick issues itself, in whatever state.
def Statement.routine : Statement → Prop
  | .poll | .markProcessed _ | .processing _ | .activeInvestigations | .countPendingTasks _ | .investigationQuestion _
  | .investigationFindings _ | .setInvestigationReport .. => True
  | .setInvestigationStatus _ status => status = .complete
  | _ => False

variable {allowed : Statement → Prop} {K : (A : Type) → Py A → Prop} {runtime : Runtime}

theorem TickRules.countEach (rules : TickRules allowed K) (routine : ∀ s : Statement, s.routine → allowed s) (inv_ids : List Uuid) :
    K Unit (countEach inv_ids) := by
  induction inv_ids with
  | nil => exact rules.pure _
  | cons inv_id rest ih => exact rules.bind _ _ (rules.fetch _ (routine _ trivial)) fun _ => ih

theorem TickRules.run_consensus (rules : TickRules allowed K) (routine : ∀ s : Statement, s.routine → allowed s)
    (reports : ∀ id question findings, K Json (Method.lift (runtime.generateReport id question findings))) (inv_id : Uuid) :
    K Unit (run_consensus runtime inv_id) := by
  refine rules.bind _ _ (rules.fetch _ (routine _ trivial)) fun question => ?_
  refine rules.bind _ _ (rules.fetch _ (routine _ trivial)) fun findings => ?_
  split
  · exact rules.pure _
  · refine rules.attempt _ _ ?_ fun _ => rules.pure _
    refine rules.bind _ _ (reports _ _ _) fun report => ?_
    exact rules.bind _ _ (rules.fetch (.setInvestigationReport inv_id report) (routine _ trivial)) fun _ =>
      rules.fetch (.setInvestigationStatus inv_id .complete) (routine _ rfl)

theorem TickRules.consensusEach (rules : TickRules allowed K) (routine : ∀ s : Statement, s.routine → allowed s)
    (reports : ∀ id question findings, K Json (Method.lift (runtime.generateReport id question findings))) (inv_ids : List Uuid) :
    K Unit (consensusEach runtime inv_ids) := by
  induction inv_ids with
  | nil => exact rules.pure _
  | cons inv_id rest ih =>
    refine rules.bind _ _ (rules.bind _ _ (rules.fetch _ (routine _ trivial)) fun pending => ?_) fun _ => ih
    split
    · exact rules.run_consensus routine reports inv_id
    · exact rules.pure _

theorem TickRules.handleSignal (rules : TickRules allowed K) (routine : ∀ s : Statement, s.routine → allowed s)
    (reports : ∀ id question findings, K Json (Method.lift (runtime.generateReport id question findings))) (signal : SignalRow)
    (works : signal.signalType = "force_tick" → ∀ agent_id ∈ signal.agentId, K Unit (handle_agent_tick agent_id runtime.registry)) :
    K Unit (handleSignal runtime signal) := by
  unfold Trokk.handleSignal
  split
  · rename_i forces
    split
    · exact works forces _ ‹_›
    · exact rules.pure _
  · split
    · exact rules.bind _ _ (rules.fetch _ (routine _ trivial)) fun _ => rules.countEach routine _
    · split
      · exact rules.bind _ _ (rules.fetch _ (routine _ trivial)) fun _ => rules.consensusEach routine reports _
      · exact rules.pure _

theorem TickRules.processEach (rules : TickRules allowed K) (routine : ∀ s : Statement, s.routine → allowed s)
    (reports : ∀ id question findings, K Json (Method.lift (runtime.generateReport id question findings))) (signals : List SignalRow)
    (works : ∀ signal ∈ signals, signal.signalType = "force_tick" → ∀ agent_id ∈ signal.agentId,
      K Unit (handle_agent_tick agent_id runtime.registry)) : K Unit (processEach runtime signals) := by
  induction signals with
  | nil => exact rules.pure _
  | cons signal rest ih =>
    refine rules.bind _ _ (rules.fetch (.processing signal) (routine _ trivial)) fun _ => ?_
    refine rules.bind _ _ (rules.handleSignal routine reports signal (works signal List.mem_cons_self)) fun _ => ?_
    refine rules.bind _ _ (rules.fetch (.markProcessed signal.id) (routine _ trivial)) fun _ => ?_
    exact ih fun later present => works later (List.mem_cons_of_mem _ present)

theorem TickRules.tick (rules : TickRules allowed K) (routine : ∀ s : Statement, s.routine → allowed s)
    (reports : ∀ id question findings, K Json (Method.lift (runtime.generateReport id question findings)))
    (works : ∀ agent_id, K Unit (handle_agent_tick agent_id runtime.registry)) : K Unit (tick runtime) :=
  rules.bind _ _ (rules.fetch _ (routine _ trivial)) fun signals =>
    rules.processEach routine reports signals fun _ _ _ agent_id _ => works agent_id

theorem only_rules (P : Statement → Prop) : TickRules P fun _ x => x.Only P where
  pure := Method.Only.pure
  bind := fun _ _ first then' => first.bind then'
  attempt := fun _ _ first caught => first.attempt caught
  fetch := fun _ allowed => Method.Only.lift ⟨allowed,fun answer => by cases answer <;> trivial⟩

end Trokk
