import Trokk.System

-- TriggerConsensus reads an investigation, rejects a complete one and updates the
-- status with statements of their own. A consensus run may complete the
-- investigation after the read; the update then takes the completion back.
namespace Trokk
open Program

-- The read that passes the guard of TriggerConsensus.
def Passes (inv : Uuid) : (s : Statement) → Except PgError s.Result → Prop
  | .investigation target,.ok (some row) => target = inv ∧ row.status ≠ .complete
  | _,_ => False

-- Unless it passes the guard from here on, the program does not update the
-- investigation: it does not stand between its read and its update.
def Unarmed (inv : Uuid) : Api A → Prop
  | .done _ => True
  | .call s next => s ≠ .updateInvestigationStatus inv .consensus ∧
      ∀ answer, ¬ Passes inv s answer → Unarmed inv (next answer)

-- The constants of all status updates, whoever issues them.
def Statement.issued : Statement → Prop
  | .updateInvestigationStatus _ status => status = .consensus
  | .setInvestigationStatus _ status => status = .complete
  | _ => True

theorem requested_issued {s : Statement} (requested : s.requested route) : s.issued := by
  cases s with
  | updateInvestigationStatus => exact requested.1
  | setInvestigationStatus => exact requested.elim
  | _ => trivial

theorem handles_issued {s : Statement} (handles : s.handles type) : s.issued := by
  cases s with
  | updateInvestigationStatus => exact handles.elim
  | setInvestigationStatus => exact handles.2
  | _ => trivial

theorem starts_issued (starts : Starts adminKey runtime t x) : x.Only Statement.issued := by
  cases starts with
  | request => exact serving_only (fun _ => requested_issued) adminKey
  | tick => exact ticking_only (tick_only trivial (fun _ => trivial) (fun _ => ⟨trivial,fun _ => handles_issued⟩) runtime) _

theorem only_unarmed {x : Api A} (only : x.Only fun s => s ≠ .updateInvestigationStatus inv .consensus) : Unarmed inv x := by
  induction x with
  | done a => trivial
  | call s next ih => exact ⟨only.1,fun answer _ => ih answer (only.2 answer)⟩

theorem Unarmed.bind {x : Api A} {f : A → Api B} (first : Unarmed inv x) (then' : ∀ a, Unarmed inv (f a)) :
    Unarmed inv (x >>= f) := by
  induction x with
  | done a => exact then' a
  | call s next ih => exact ⟨first.1,fun answer closed => ih answer (first.2 answer closed)⟩

theorem triggerConsensus_unarmed (inv : Uuid) (text : String) : Unarmed inv (TriggerConsensus text) := by
  unfold TriggerConsensus
  split
  · trivial
  · rename_i target parsed
    refine ⟨nofun,fun answer closed => ?_⟩
    match answer with
    | .error _ => trivial
    | .ok none => trivial
    | .ok (some row) =>
      refine ⟨nofun,fun answer _ => ?_⟩
      cases answer with
      | error => trivial
      | ok tasks =>
        change Unarmed inv (if row.status = .complete then _ else _)
        split
        · trivial
        · rename_i notComplete
          refine ⟨?_,fun answer _ => by cases answer <;> trivial⟩
          intro same
          cases same
          exact closed ⟨rfl,notComplete⟩

theorem dispatch_unarmed (inv : Uuid) (info : Option AuthInfo) (route : Route) : Unarmed inv (dispatch info route) := by
  by_cases triggers : ∃ text, route = .triggerConsensus text
  · obtain ⟨text,rfl⟩ := triggers
    cases info with
    | none => trivial
    | some info =>
      unfold dispatch RequireAdmin
      dsimp only
      split
      · exact triggerConsensus_unarmed inv text
      · trivial
  · refine only_unarmed (handler_only (fun s requested same => ?_) info)
    subst same
    obtain ⟨-,text,isTrigger,-⟩ := requested
    exact triggers ⟨text,isTrigger⟩

theorem starts_unarmed (inv : Uuid) (starts : Starts adminKey runtime t x) : Unarmed inv x := by
  cases starts with
  | request =>
    refine Unarmed.bind (Unarmed.bind (only_unarmed (authenticate_only (fun _ => nofun) _ _)) fun result => ?_) fun _ => trivial
    cases result with
    | error => trivial
    | ok info => exact dispatch_unarmed inv info _
  | tick =>
    refine only_unarmed (ticking_only (tick_only nofun (fun _ => nofun) (fun _ => ⟨nofun,fun s handles same => ?_⟩) runtime) _)
    subst same
    exact handles.elim

-- Only the update that passed the guard takes a completion back,
theorem exec_complete {db : Database} (issued : s.issued) (unarmed : s ≠ .updateInvestigationStatus inv .consensus)
    (complete : db.statusOf inv = some .complete) : (exec s c db l).2.1.statusOf inv = some .complete := by
  obtain ⟨i,found,done⟩ := Option.map_eq_some_iff.mp complete
  obtain ⟨j,after,touched⟩ := row_kept (exec_effect c db l s) found
  have same := investigationRow_id found
  unfold Database.statusOf
  rw [after]
  cases touched with
  | untouched => exact congrArg some done
  | updateStatus target =>
    change _ = InvestigationStatus.consensus at issued
    exact absurd (by rw [issued,← target,same]) unarmed
  | setStatus => exact congrArg some issued
  | setReport => exact congrArg some done

-- and only a consensus run completes an investigation.
theorem exec_completes {db : Database} (issued : s.issued) (opening : l.Opening) (before : db.statusOf inv ≠ some .complete)
    (complete : (exec s c db l).2.1.statusOf inv = some .complete) : s = .setInvestigationStatus inv .complete := by
  obtain ⟨j,after,done⟩ := Option.map_eq_some_iff.mp complete
  cases found : db.investigationRow inv with
  | none =>
    obtain ⟨tx,opened,inserted⟩ := row_new (exec_effect c db l s) found after
    have started := opening tx opened j inserted
    rw [done] at started
    cases started
  | some i =>
    have open' : i.status ≠ .complete := fun status => before (by simp [Database.statusOf,found,status])
    obtain ⟨k,later,touched⟩ := row_kept (exec_effect c db l s) found
    cases after.symm.trans later
    cases touched with
    | untouched => exact absurd done open'
    | updateStatus =>
      change _ = InvestigationStatus.consensus at issued
      change _ = InvestigationStatus.complete at done
      rw [issued] at done
      cases done
    | setStatus target =>
      change _ = InvestigationStatus.complete at issued
      rw [issued,← target,investigationRow_id found]
    | setReport => exact absurd done open'

theorem complete_not_passed {db : Database} (complete : db.statusOf inv = some .complete) :
    ¬ Passes inv s (exec s c db l).1 := by
  intro passes
  cases s with
  | investigation target =>
    cases answer : (exec (.investigation target) c db l).1 with
    | error e => rw [answer] at passes; exact passes
    | ok found =>
      rw [answer] at passes
      cases found with
      | none => exact passes
      | some row =>
        obtain ⟨rfl,notComplete⟩ := passes
        have read : db.investigationRow target = some row := (Prod.mk.inj (Except.ok.inj (exec_ok answer))).1
        rw [Database.statusOf,read] at complete
        exact notComplete (Option.some.inj complete)
  | _ => exact passes.elim

-- At the write that completes an investigation no request stands between its read
-- of it and its update.
def Clear (p : System) : Event Worker Answer → Prop
  | .act t => ∀ inv next l, p.sessions t = some (.call (.setInvestigationStatus inv .complete) next,l) →
      ∀ u x m, p.sessions u = some (x,m) → Unarmed inv x
  | _ => True

inductive ClearRuns (adminKey : String) (runtime : Runtime) (initial : System) : System → Prop where
  | start : ClearRuns adminKey runtime initial initial
  | step : ClearRuns adminKey runtime initial p → SystemStep adminKey runtime p event next → Clear p event →
      ClearRuns adminKey runtime initial next

structure Guarded (db : Database) (x : Api Answer) (l : Session) : Prop where
  issued : x.Only Statement.issued
  opening : l.Opening
  unarmed : ∀ inv, db.statusOf inv = some .complete → Unarmed inv x

def Steady (p : System) : Prop := ∀ t x l, p.sessions t = some (x,l) → Guarded p.shared x l

theorem idle_steady (db : Database) : Steady (Pool.idle db) := nofun

theorem step_steady (steady : Steady p) (step : SystemStep adminKey runtime p event next) (clear : Clear p event) :
    Steady next ∧ ∀ inv, p.shared.statusOf inv = some .complete → next.shared.statusOf inv = some .complete := by
  cases step with
  | begin _ starts =>
    refine ⟨Pool.update_sessions steady _ _ ?_,fun _ => id⟩
    intro x l same
    cases same
    exact ⟨starts_issued starts,fresh_opening,fun inv _ => starts_unarmed inv starts⟩
  | @act l _ t s c rest present =>
    obtain ⟨⟨issued,_⟩,opening,unarmed⟩ := steady _ _ _ present
    have keeps (inv : Uuid) (complete : p.shared.statusOf inv = some .complete) :
        (exec s c p.shared l).2.1.statusOf inv = some .complete :=
      exec_complete issued (unarmed inv complete).1 complete
    -- an investigation complete after the step was so before, or the step is the write
    have all (inv : Uuid) (complete : (exec s c p.shared l).2.1.statusOf inv = some .complete) :
        ∀ u x m, p.sessions u = some (x,m) → Unarmed inv x := by
      by_cases before : p.shared.statusOf inv = some .complete
      · exact fun u x m other => (steady u x m other).unarmed inv before
      · have writes := exec_completes issued opening before complete
        subst writes
        exact clear inv rest l present
    refine ⟨Pool.update_sessions ?_ _ _ ?_,keeps⟩
    · intro u x m other
      exact ⟨(steady u x m other).issued,(steady u x m other).opening,fun inv complete => all inv complete u x m other⟩
    · intro x m same
      cases same
      refine ⟨(steady _ _ _ present).issued.2 _,exec_opening c _ s opening,fun inv complete => ?_⟩
      refine (all inv complete _ _ _ present).2 _ fun passes => ?_
      by_cases before : p.shared.statusOf inv = some .complete
      · exact complete_not_passed before passes
      · have writes := exec_completes issued opening before complete
        subst writes
        exact passes
  | answer => exact ⟨Pool.update_sessions steady _ none nofun,fun _ => id⟩
  | kill => exact ⟨Pool.update_sessions steady _ none nofun,fun _ => id⟩

theorem clearRuns_steady (steady : Steady p) (run : ClearRuns adminKey runtime p q) :
    Steady q ∧ ∀ inv, p.shared.statusOf inv = some .complete → q.shared.statusOf inv = some .complete := by
  induction run with
  | start => exact ⟨steady,fun _ => id⟩
  | step _ step clear ih =>
    obtain ⟨still,kept⟩ := step_steady ih.1 step clear
    exact ⟨still,fun inv complete => kept inv (ih.2 inv complete)⟩

theorem completed_stays (run : ClearRuns adminKey runtime (Pool.idle db) p)
    (complete : p.shared.statusOf inv = some .complete) (later : ClearRuns adminKey runtime p q) :
    q.shared.statusOf inv = some .complete :=
  (clearRuns_steady (clearRuns_steady (idle_steady db) run).1 later).2 inv complete

theorem clear_act {p : System} (present : p.sessions t = some (.call s next,l))
    (other : ∀ inv, s ≠ .setInvestigationStatus inv .complete) : Clear p (.act t) := by
  intro inv next l same
  cases present.symm.trans same
  exact absurd rfl (other inv)

-- One finding of an investigation that is due: a trigger_consensus signal waits.
def Database.due : Database where
  agents := [⟨1,"ada","Ada",some "",none,"tk_agent_ada",some 10,some true⟩]
  messages := [⟨21,1,"note",none,40⟩,⟨22,1,"finding",some 21,50⟩]
  controlSignals := [⟨31,"trigger_consensus",none,60,false⟩]
  investigations := [⟨21,"why",.inProgress,none,30,none⟩]

def Database.completed : Database := {Database.due with investigations := [⟨21,"why",.complete,some .null,30,none⟩]}
def rejecting : System :=
  ⟨.completed,Function.update (fun _ => none) (.request 0) (some (serving "rp_admin" (.trigger 21),.fresh))⟩
def rejected : System := rejecting.acts exec [(.request 0,.sample),(.request 0,.sample)]

theorem completed_stays_sample : rejected.shared.statusOf 21 = some .complete := by
  have begun : ClearRuns "rp_admin" .sample (Pool.idle .completed) rejecting := .step .start (.begin rfl .request) trivial
  have reads : ClearRuns "rp_admin" .sample (Pool.idle .completed) (rejecting.acts exec [(.request 0,.sample)]) :=
    .step begun (Pool.acts_step rfl) (clear_act rfl nofun)
  have lists : ClearRuns "rp_admin" .sample (Pool.idle .completed) rejected :=
    .step reads (Pool.acts_step (t := Worker.request 0) (c := Choice.sample) rfl) (clear_act rfl nofun)
  exact completed_stays .start rfl lists

def racing : System :=
  ⟨Database.due,Function.update (Function.update (fun _ => none)
    (.request 0) (some (serving "rp_admin" (.trigger 21),.fresh)))
    (.orchestrator 0) (some (ticking .sample [],.fresh))⟩

-- The request reads, the consensus run completes, the request updates.
def beforeUpdate : System :=
  racing.acts exec ((List.replicate 2 (Worker.request 0) ++ List.replicate 9 (Worker.orchestrator 0)).map fun t => (t,.sample))
def afterUpdate : System := beforeUpdate.acts exec [(.request 0,.sample)]

theorem update_takes_completion_back : ¬ ∀ p q, SystemRuns "rp_admin" .sample (Pool.idle .due) p →
    p.shared.statusOf 21 = some .complete → SystemRuns "rp_admin" .sample p q → q.shared.statusOf 21 = some .complete := by
  intro stays
  have runs : SystemRuns "rp_admin" .sample (Pool.idle .due) racing := .step (.step .start (.begin rfl .request)) (.begin rfl .tick)
  have back := stays beforeUpdate afterUpdate (Pool.acts_runs runs _) (by decide +kernel) (Pool.acts_runs .start _)
  exact absurd back (by decide +kernel)

end Trokk