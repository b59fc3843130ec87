import Trokk.System

-- TriggerConsensus writes a status; the orchestrator looks at investigations when
-- a trigger_consensus signal waits. Nothing in the system inserts such a signal.
namespace Trokk
open Program

def Database.reportOf (db : Database) (inv : Uuid) : Option Json := (db.investigationRow inv).bind InvestigationRow.report

-- A trigger_consensus signal waits or is in hand.
def Awaited (p : System) : Prop :=
  (∃ s ∈ p.shared.controlSignals, s.signalType = "trigger_consensus" ∧ s.processed = false) ∨
    ∃ t x l, p.sessions t = some (x,l) ∧ ∃ s ∈ l.handling, s.signalType = "trigger_consensus"

def Reaches (inv : Uuid) (p : System) : Prop :=
  p.shared.statusOf inv = some .consensus → p.shared.reportOf inv = none → Awaited p

def Untriggered (db : Database) : Prop := ∀ s ∈ db.controlSignals, s.signalType = "trigger_consensus" → s.processed = true

def Session.untriggered (l : Session) : Prop := ∀ s ∈ l.handling, s.signalType ≠ "trigger_consensus"

-- What becomes of a row while no consensus run comes: it keeps its report, and
-- consensus stays consensus.
def Lingers (db db' : Database) : Prop := ∀ inv i, db.investigationRow inv = some i →
  ∃ j, db'.investigationRow inv = some j ∧ j.report = i.report ∧ (i.status = .consensus → j.status = .consensus)

theorem Lingers.refl (db : Database) : Lingers db db := fun _ i found => ⟨i,found,rfl,fun status => status⟩

theorem Lingers.trans (a b c : Database) (one : Lingers a b) (two : Lingers b c) : Lingers a c := by
  intro inv i found
  obtain ⟨j,found,report,status⟩ := one inv i found
  obtain ⟨k,found,report',status'⟩ := two inv j found
  exact ⟨k,found,report'.trans report,status' ∘ status⟩

-- A statement of no consensus run.
def Statement.quiet : Statement → Prop
  | .insertSignal type _ => type ≠ "trigger_consensus"
  | .updateInvestigationStatus _ status => status = .consensus
  | .setInvestigationStatus .. | .setInvestigationReport .. => False
  | .processing signal => signal.signalType ≠ "trigger_consensus"
  | _ => True

theorem requested_quiet {s : Statement} (requested : s.requested route) : s.quiet := by
  cases s with
  | insertSignal type =>
    change type = "force_tick" at requested
    subst requested
    exact (by decide : "force_tick" ≠ "trigger_consensus")
  | updateInvestigationStatus => exact requested.1
  | setInvestigationStatus => exact requested
  | setInvestigationReport => exact requested
  | processing => exact requested.elim
  | _ => trivial

theorem handles_quiet {s : Statement} (other : type ≠ "trigger_consensus") (handles : s.handles type) : s.quiet := by
  cases s with
  | insertSignal => exact handles.elim
  | updateInvestigationStatus => exact handles.elim
  | setInvestigationStatus => exact other handles.1
  | setInvestigationReport => exact other handles
  | processing => exact handles.elim
  | _ => trivial

theorem quiet_untriggered (effect : Effect c db session s db') (quiet : s.quiet) (untriggered : Untriggered db) :
    Untriggered db' := by
  cases effect with
  | insertSignal =>
    intro signal present isTrigger
    rcases List.mem_append.mp present with before | added
    · exact untriggered signal before isTrigger
    · rw [List.mem_singleton.mp added] at isTrigger
      exact absurd isTrigger quiet
  | markProcessed =>
    intro signal present isTrigger
    obtain ⟨old,before,rfl⟩ := List.mem_map.mp present
    split at isTrigger
    · rename_i target
      simp [target]
    · rename_i target
      simp only [target,if_false]
      exact untriggered old before isTrigger
  | toggle =>
    rw [toggled_eq]
    exact untriggered
  | _ => exact untriggered

theorem quiet_lingers (effect : Effect c db session s db') (quiet : s.quiet) : Lingers db db' := by
  intro inv i found
  obtain ⟨j,found',touched⟩ := row_kept effect found
  refine ⟨j,found',?_⟩
  cases touched with
  | untouched => exact ⟨rfl,fun status => status⟩
  | updateStatus => exact ⟨rfl,fun _ => quiet⟩
  | setStatus => exact quiet.elim
  | setReport => exact quiet.elim

theorem exec_quiet (s : Statement) (c : Choice) (db : Database) (l : Session) (quiet : s.quiet) (untriggered : Untriggered db)
    (mine : l.untriggered) :
    Untriggered (exec s c db l).2.1 ∧ (exec s c db l).2.2.untriggered ∧ Lingers db (exec s c db l).2.1 := by
  refine ⟨quiet_untriggered (exec_effect c db l s) quiet untriggered,?_,quiet_lingers (exec_effect c db l s) quiet⟩
  intro signal inHand
  rcases exec_handling c db l s with same | none | ⟨handled,rfl,same⟩
  · exact mine signal (same ▸ inHand)
  · rw [none] at inHand
    cases inHand
  · rw [same] at inHand
    cases inHand
    exact quiet

theorem Lingers.present (lingers : Lingers db db') (found : ∃ i, db.investigationRow inv = some i) :
    ∃ j, db'.investigationRow inv = some j := by
  obtain ⟨i,found⟩ := found
  obtain ⟨j,found,-⟩ := lingers inv i found
  exact ⟨j,found⟩

theorem Lingers.consensus (lingers : Lingers db db') (status : db.statusOf inv = some .consensus) :
    db'.statusOf inv = some .consensus := by
  obtain ⟨i,found,status⟩ := Option.map_eq_some_iff.mp status
  obtain ⟨j,found,-,still⟩ := lingers inv i found
  exact Option.map_eq_some_iff.mpr ⟨j,found,still status⟩

abbrev Quietly (post : A → Database → Session → Prop) (x : Api A) : Database → Session → Prop :=
  x.Secure exec Untriggered Session.untriggered Lingers post

theorem only_quietly {x : Api A} {post : A → Prop} (only : x.Only Statement.quiet) (yields : x.Yields post)
    (mine : l.untriggered) : Quietly (fun a _ _ => post a) x db l := only.secure yields exec_quiet mine

theorem getInvestigation_quietly (target : Uuid) (mine : l.untriggered) :
    Quietly (fun result db _ => ∀ found, result = .ok (some found) → ∃ i, db.investigationRow target = some i)
      (GetInvestigation target) db l := by
  intro db holds _ c
  obtain ⟨holds',mine',moved⟩ := exec_quiet (.investigation target) c db l trivial holds mine
  refine ⟨holds',mine',moved,?_⟩
  cases answer : (exec (.investigation target) c db l).1 with
  | error => exact fun _ _ _ _ => nofun
  | ok row => cases row with
    | none => exact fun _ _ _ _ => nofun
    | some row =>
      have read : db.investigationRow target = some row := (Prod.mk.inj (Except.ok.inj (exec_ok answer))).1
      intro later holds move c'
      obtain ⟨holds',mine',moved'⟩ := exec_quiet (.investigationTasks target) c' later _ trivial holds mine'
      refine ⟨holds',mine',moved',?_⟩
      have there := moved'.present (move.present (moved.present ⟨row,read⟩))
      cases (exec (.investigationTasks target) c' later _).1 with
      | error => exact fun _ _ _ _ => nofun
      | ok tasks => exact fun _ _ last _ _ => last.present there

theorem update_consensus {db : Database} (found : ∃ i, db.investigationRow inv = some i)
    (ok : (exec (.updateInvestigationStatus inv .consensus) c db l).1 = .ok r) :
    (exec (.updateInvestigationStatus inv .consensus) c db l).2.1.statusOf inv = some .consensus := by
  obtain ⟨i,found⟩ := found
  have done := congrArg Prod.fst (Prod.mk.inj (Except.ok.inj (exec_ok ok))).2
  rw [← done]
  simp [Database.statusOf,edited_row,found,investigationRow_id found]

theorem triggerConsensus_quietly (parsed : Uuid.Parse text.toList = some inv) (holds : Untriggered db) (mine : l.untriggered) :
    Quietly (fun response db _ => response.status = 200 → db.statusOf inv = some .consensus) (TriggerConsensus text) db l := by
  unfold TriggerConsensus
  rw [parsed]
  refine Secure.bind Lingers.refl holds mine (getInvestigation_quietly inv mine) fun result db l holds mine found => ?_
  split
  · exact fun _ _ _ => nofun
  · exact fun _ _ _ => nofun
  · rename_i row
    split
    · exact fun _ _ _ => nofun
    · intro later holds move c
      obtain ⟨holds',mine',moved⟩ := exec_quiet (.updateInvestigationStatus inv .consensus) c later l rfl holds mine
      refine ⟨holds',mine',moved,?_⟩
      cases answer : (exec (.updateInvestigationStatus inv .consensus) c later l).1 with
      | error => exact fun _ _ _ => nofun
      | ok done => exact fun _ _ last _ => last.consensus (update_consensus (move.present (found row rfl)) answer)

-- What is known when a request is answered.
def Accepted (request : Request) (response : Response) (db : Database) : Prop :=
  ∀ text inv, request.route = .triggerConsensus text → Uuid.Parse text.toList = some inv → response.status = 200 →
    db.statusOf inv = some .consensus

theorem fresh_untriggered : Session.fresh.untriggered := nofun

theorem dispatch_quietly (route : request.route = .triggerConsensus text) (info : Option AuthInfo) (holds : Untriggered db)
    (mine : l.untriggered) :
    Quietly (fun response db _ => Accepted request response db) (dispatch info (.triggerConsensus text)) db l := by
  have refused (status : Nat) (body : Body) (db : Database) (other : status ≠ 200) : Accepted request ⟨status,body⟩ db :=
    fun _ _ _ _ ok => absurd ok other
  cases info with
  | none => exact fun _ _ _ => refused 403 _ _ (by decide)
  | some info =>
    unfold dispatch RequireAdmin
    dsimp only
    split
    · cases parsed : Uuid.Parse text.toList with
      | none =>
        unfold TriggerConsensus
        rw [parsed]
        exact fun _ _ _ => refused 400 _ _ (by decide)
      | some target =>
        refine (triggerConsensus_quietly parsed holds mine).imp fun response db _ _ waiting => ?_
        intro text' inv route' parsed' ok
        cases route.symm.trans route'
        cases parsed.symm.trans parsed'
        exact waiting ok
    · exact fun _ _ _ => refused 403 _ _ (by decide)

theorem serve_quietly (adminKey : String) (request : Request) (holds : Untriggered db) :
    Quietly (fun response db _ => Accepted request response db) (serve adminKey request) db .fresh := by
  by_cases triggers : ∃ text, request.route = .triggerConsensus text
  · obtain ⟨text,route⟩ := triggers
    refine Secure.bind Lingers.refl holds fresh_untriggered
      (only_quietly (authenticate_only (fun _ => trivial) _ _) (authenticate_refuses _ _) fresh_untriggered)
      fun result db l holds mine refused => ?_
    cases result with
    | error response =>
      intro db _ _ _ _ _ _ ok
      rw [refused response rfl] at ok
      cases ok
    | ok info =>
      have dispatched := dispatch_quietly route info holds mine
      rwa [← route] at dispatched
  · refine (only_quietly (serve_only (fun _ => requested_quiet) adminKey) (yields_true _) fresh_untriggered).imp ?_
    exact fun _ _ _ _ _ text _ route => absurd ⟨text,route⟩ triggers

def Told (answer : Answer) (db : Database) : Prop := ∀ request response, answer = .response request response →
  Accepted request response db

theorem serving_quietly (adminKey : String) (request : Request) (holds : Untriggered db) :
    Quietly (fun answer db _ => Told answer db) (serving adminKey request) db .fresh := by
  refine Secure.bind Lingers.refl holds fresh_untriggered (serve_quietly adminKey request holds) fun response db l _ _ accepted => ?_
  intro later _ move request' response' same text inv route parsed ok
  cases same
  exact move.consensus (accepted text inv route parsed ok)

theorem poll_untriggered {db : Database} (untriggered : Untriggered db) (ok : (exec .poll c db l).1 = .ok signals) :
    ∀ signal ∈ signals, signal.signalType ≠ "trigger_consensus" := by
  intro signal present isTrigger
  have polled := (Prod.mk.inj (Except.ok.inj (exec_ok ok))).1
  rw [← polled,oldestFirst,List.mem_insertionSort,List.mem_filter] at present
  rw [untriggered signal present.1 isTrigger] at present
  exact absurd present.2 (by decide)

theorem ticking_quietly (runtime : Runtime) (agents : Agents) (holds : Untriggered db) :
    Quietly (fun answer db _ => Told answer db) (ticking runtime agents) db .fresh := by
  have ticks : Quietly (fun _ _ _ => True) (tick runtime agents) db .fresh := by
    intro db holds _ c
    obtain ⟨holds',mine',moved⟩ := exec_quiet .poll c db .fresh trivial holds fresh_untriggered
    refine ⟨holds',mine',moved,?_⟩
    cases answer : (exec .poll c db .fresh).1 with
    | error => exact fun _ _ _ => trivial
    | ok signals =>
      have polled := poll_untriggered holds answer
      have rest : (processEach runtime signals).Only Statement.quiet := processEach_only runtime signals (fun _ => trivial)
        fun signal present => ⟨polled signal present,fun _ => handles_quiet (polled signal present)⟩
      exact only_quietly (rest agents) (yields_true _) mine'
  refine Secure.bind Lingers.refl holds fresh_untriggered ticks fun (result,agents) db l _ _ _ => ?_
  cases result with
  | ok => exact fun _ _ _ _ _ => nofun
  | error => exact fun _ _ _ _ _ => nofun

theorem starts_quietly (starts : Starts adminKey runtime t x) (holds : Untriggered db) :
    Quietly (fun answer db _ => Told answer db) x db .fresh := by
  cases starts with
  | request => exact serving_quietly adminKey _ holds
  | tick => exact ticking_quietly runtime _ holds

abbrev Quiet (p : System) : Prop :=
  p.Secured exec Untriggered Session.untriggered Lingers fun _ answer db _ => Told answer db

theorem runs_quiet (quiet : Quiet p) (run : SystemRuns adminKey runtime p q) : Quiet q ∧ Lingers p.shared q.shared :=
  Pool.runs_secured Lingers.refl Lingers.trans (fun _ _ _ starts holds => starts_quietly starts holds)
    fresh_untriggered quiet run

theorem quiet_unawaited {p : System} (quiet : Quiet p) : ¬ Awaited p := by
  intro awaited
  cases awaited with
  | inl waits =>
    obtain ⟨s,present,isTrigger,waiting⟩ := waits
    rw [quiet.holds s present isTrigger] at waiting
    cases waiting
  | inr handled =>
    obtain ⟨t,x,l,session,s,inHand,isTrigger⟩ := handled
    exact (quiet.sessions t x l session).1 s inHand isTrigger

theorem Lingers.report (lingers : Lingers db db') (reported : (db.reportOf inv).isSome) : (db'.reportOf inv).isSome := by
  cases found : db.investigationRow inv with
  | none => simp [Database.reportOf,found] at reported
  | some i =>
    obtain ⟨j,found',same,-⟩ := lingers inv i found
    simpa [Database.reportOf,found,found',same] using reported

-- A request that is answered 200 waits for good unless a report is there already:
-- without one, already the answer leaves nothing that the orchestrator acts on.
theorem consensus_request_unseen (untriggered : Untriggered db) (run : SystemRuns adminKey runtime (Pool.idle db) p)
    (answered : SystemStep adminKey runtime p (.answer t (.response request response)) next) (ok : response.status = 200)
    (route : request.route = .triggerConsensus text) (parsed : Uuid.Parse text.toList = some inv) :
    (∀ q, SystemRuns adminKey runtime next q → Reaches inv q) ↔ (p.shared.reportOf inv).isSome := by
  have quiet : Quiet p := (runs_quiet (Pool.idle_secured untriggered) run).1
  have quietNext : Quiet next := (runs_quiet quiet (.step .start answered)).1
  obtain ⟨same,_,told⟩ := Pool.answered Lingers.refl quiet answered
  have waiting : next.shared.statusOf inv = some .consensus := by
    rw [same]
    exact told request response rfl text inv route parsed ok
  constructor
  · intro reaches
    by_contra unreported
    rw [Option.not_isSome_iff_eq_none,← same] at unreported
    exact quiet_unawaited quietNext (reaches next .start waiting unreported)
  · intro reported q later _ unreported
    have still := (runs_quiet quietNext later).2.report (same ▸ reported)
    rw [unreported] at still
    cases still

def asking : System :=
  ⟨.asked,Function.update (fun _ => none) (.request 0) (some (serving "rp_admin" (.trigger 21),.fresh))⟩
def updated : System := asking.acts exec (List.replicate 3 (.request 0,.sample))
def left : System := {updated with sessions := Function.update updated.sessions (.request 0) none}

theorem asked_untriggered : Untriggered .asked := by simp [Untriggered,Database.asked]

theorem updated_runs : SystemRuns "rp_admin" .sample (Pool.idle .asked) updated :=
  Pool.acts_runs (.step .start (.begin rfl .request)) _

theorem consensus_request_unseen_sample :
    (∀ q, SystemRuns "rp_admin" .sample left q → Reaches 21 q) ↔ (updated.shared.reportOf 21).isSome :=
  consensus_request_unseen asked_untriggered updated_runs (.answer rfl) rfl rfl (by decide +kernel)

theorem request_left_unseen : ¬ ∀ p t request response next text inv, SystemRuns "rp_admin" .sample (Pool.idle .asked) p →
    SystemStep "rp_admin" .sample p (.answer t (.response request response)) next →
    request.route = .triggerConsensus text → Uuid.Parse text.toList = some inv → response.status = 200 →
    ∀ q, SystemRuns "rp_admin" .sample next q → Reaches inv q := by
  intro reaches
  have awaited := reaches updated (.request 0) (.trigger 21) _ left _ 21 updated_runs (.answer rfl) rfl (by decide +kernel) rfl
    left .start (by decide +kernel) (by decide +kernel)
  have leftRuns : SystemRuns "rp_admin" .sample (Pool.idle .asked) left := .step updated_runs (.answer rfl)
  exact quiet_unawaited (runs_quiet (Pool.idle_secured asked_untriggered) leftRuns).1 awaited

end Trokk
