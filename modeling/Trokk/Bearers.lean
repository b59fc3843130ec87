import Trokk.AccessControl
import Trokk.Permanence
import Trokk.PublishedFindings

-- What requests can do, by the key that they carry.
namespace Trokk
open Program

-- Requests of one kind beside any ticks, and without any.
inductive Serves (adminKey : String) (runtime : Runtime) (admits : Request → Prop) : Worker → Api Answer → Prop where
  | request : admits req → Serves adminKey runtime admits (.request n) (serving adminKey req)
  | tick : Serves adminKey runtime admits (.orchestrator n) (ticking runtime agents)

inductive Visits (adminKey : String) (admits : Request → Prop) : Worker → Api Answer → Prop where
  | request : admits req → Visits adminKey admits (.request n) (serving adminKey req)

abbrev ServesRuns (adminKey : String) (runtime : Runtime) (admits : Request → Prop) : System → System → Prop :=
  Pool.Runs exec (Serves adminKey runtime admits) Session.fresh
abbrev VisitsRuns (adminKey : String) (admits : Request → Prop) : System → System → Prop :=
  Pool.Runs exec (Visits adminKey admits) Session.fresh

-- The tables that only an administrator writes: agents as they are, of the others
-- which rows there are.
structure Administered (db db' : Database) : Prop where
  agents : db'.agents = db.agents
  controlSignals : db'.controlSignals.map SignalRow.id = db.controlSignals.map SignalRow.id
  investigations : db'.investigations.map InvestigationRow.id = db.investigations.map InvestigationRow.id
  investigationTasks : db'.investigationTasks.map TaskRow.id = db.investigationTasks.map TaskRow.id

theorem Administered.refl (db : Database) : Administered db db := ⟨rfl,rfl,rfl,rfl⟩

theorem Administered.trans (a b c : Database) (one : Administered a b) (two : Administered b c) : Administered a c where
  agents := two.agents.trans one.agents
  controlSignals := two.controlSignals.trans one.controlSignals
  investigations := two.investigations.trans one.investigations
  investigationTasks := two.investigationTasks.trans one.investigationTasks

def Statement.unprivileged : Statement → Prop
  | .insertAgent .. | .updateAgent .. | .setAllActive _ | .insertSignal .. | .commit => False
  | _ => True

variable {db db' : Database} {l : Session} {adminKey header : String}

theorem editTask_administered (keeps : ∀ t, (edit t).id = t.id) (target : Uuid) : Administered db (db.editTask target edit) :=
  ⟨rfl,rfl,rfl,by rw [Database.editTask,edits_kept keeps]⟩

theorem editInvestigation_administered (keeps : ∀ i, (edit i).id = i.id) (target : Uuid) :
    Administered db (db.editInvestigation target edit) :=
  ⟨rfl,rfl,by rw [Database.editInvestigation,edits_kept keeps],rfl⟩

theorem effect_administered (effect : Effect c db l s db') (unprivileged : s.unprivileged) : Administered db db' := by
  cases effect with
  | insertAgent => exact unprivileged.elim
  | updateAgent => exact unprivileged.elim
  | setAllActive => exact unprivileged.elim
  | insertSignal => exact unprivileged.elim
  | commit => exact unprivileged.elim
  | updateInvestigationStatus =>
    apply editInvestigation_administered
    exact fun _ => rfl
  | setInvestigationStatus =>
    apply editInvestigation_administered
    exact fun _ => rfl
  | setInvestigationReport =>
    apply editInvestigation_administered
    exact fun _ => rfl
  | markProcessed =>
    refine ⟨rfl,edits_kept fun s => ?_,rfl,rfl⟩
    rfl
  | pendingTask =>
    apply editTask_administered
    exact fun _ => rfl
  | completeTask =>
    apply editTask_administered
    exact fun _ => rfl
  | failTask =>
    apply editTask_administered
    exact fun _ => rfl
  | toggle =>
    rw [toggled_eq]
    exact ⟨rfl,rfl,rfl,rfl⟩
  | _ => exact ⟨rfl,rfl,rfl,rfl⟩

theorem authenticate_not_admin (other : header ≠ "Bearer " ++ adminKey) :
    (Authenticate adminKey header).Yields fun result => ∀ info, result = .ok (some info) → info.isAdmin = false := by
  by_cases bearer : ∃ token, header = "Bearer " ++ token
  · obtain ⟨token,rfl⟩ := bearer
    rw [authenticate_bearer,if_neg fun same => other (congrArg _ same)]
    intro answer info same
    match answer with
    | .error _ => cases same
    | .ok none => cases same; rfl
    | .ok (some _) => cases authInfo_some same; rfl
  · rw [authenticate_other adminKey fun token same => bearer ⟨token,same⟩]
    exact fun _ => nofun

theorem refused_only {next : AuthInfo → Api Response} (plain : ∀ i, info = some i → i.isAdmin = false) :
    (RequireAdmin info next).Only P := by
  cases info with
  | none => trivial
  | some i =>
    unfold RequireAdmin
    dsimp only
    rw [plain i rfl]
    trivial

theorem dispatch_unprivileged (plain : ∀ i, info = some i → i.isAdmin = false) (route : Route) :
    (dispatch info route).Only Statement.unprivileged := by
  cases route with
  | createMessage body => exact requireAgent_only (fun info => createMessage_only (fun _ _ => trivial) (fun _ => trivial) body) info
  | respond text body => exact requireAgent_only (fun info => respond_only (fun _ _ => trivial) (fun _ => trivial) text body) info
  | endorse text => exact requireAgent_only (fun info => toggle_only (fun _ _ => trivial) _ _ text) info
  | propagate text => exact requireAgent_only (fun info => toggle_only (fun _ _ => trivial) _ _ text) info
  | _ => exact refused_only plain

theorem serving_unprivileged (other : request.authorization ≠ "Bearer " ++ adminKey) :
    (serving adminKey request).Only Statement.unprivileged := by
  refine Program.Only.bind ?_ fun _ => trivial
  refine Only.bind_yields (authenticate_only (fun _ => trivial) _ _) (authenticate_not_admin other) fun result plain => ?_
  cases result with
  | error response => trivial
  | ok info => exact dispatch_unprivileged (fun i same => plain i (congrArg _ same)) request.route

theorem handles_unprivileged (handles : Statement.handles type s) : s.unprivileged := by
  cases s with
  | insertAgent => exact handles.elim
  | updateAgent => exact handles.elim
  | setAllActive => exact handles.elim
  | insertSignal => exact handles.elim
  | commit => exact handles.elim
  | _ => trivial

theorem serves_unprivileged (plain : ∀ r, admits r → r.authorization ≠ "Bearer " ++ adminKey)
    (serves : Serves adminKey runtime admits t x) : x.Only Statement.unprivileged := by
  cases serves with
  | request admitted => exact serving_unprivileged (plain _ admitted)
  | tick =>
    exact ticking_only (tick_only trivial (fun _ => trivial) (fun _ => ⟨trivial,fun _ => handles_unprivileged⟩) runtime) _

-- While no request carries the admin key, nothing of the administrator's changes,
-- whatever agents post and the orchestrator works off.
theorem without_admin_key {p : System} (plain : ∀ r, admits r → r.authorization ≠ "Bearer " ++ adminKey)
    (run : ServesRuns adminKey runtime admits (Pool.idle db) p) : Administered db p.shared := by
  have keeps : Keeps exec Statement.unprivileged (fun _ => True) (fun _ _ => True) Session.fresh :=
    ⟨fun _ _ _ _ _ _ _ => trivial,fun _ _ _ _ _ _ _ => trivial,fun _ _ _ _ _ _ _ _ _ => trivial,fun _ _ => trivial⟩
  exact (Pool.runs_moved Administered.refl Administered.trans keeps
    (fun s c d l unprivileged _ _ => effect_administered (exec_effect c d l s) unprivileged)
    (fun _ _ => serves_unprivileged plain) (Pool.idle_kept trivial) run).2

def Request.adas : Request := publishRequest ⟨"tk_agent_ada"⟩ "finding" (some 21)

theorem without_admin_key_sample : stored.shared.messages.length = 1 ∧ Administered .staffed stored.shared := by
  have run : ServesRuns "rp_admin" .sample (· = Request.adas) (Pool.idle .staffed) stored :=
    Pool.acts_runs (.step .start (.begin rfl (.request rfl))) _
  refine ⟨by decide +kernel,without_admin_key (fun r same => ?_) run⟩
  subst same
  decide

-- A header that is neither the administrator's nor an active agent's.
def Strange (adminKey : String) (db : Database) (header : String) : Prop :=
  header ≠ "Bearer " ++ adminKey ∧ ∀ a ∈ db.agents, a.active = some true → header ≠ "Bearer " ++ a.apiKey

theorem dispatch_refuses (unknown : ∀ i, info = some i → i = ⟨false,0⟩) (route : Route) :
    ∃ response, dispatch info route = .done response := by
  cases info with
  | none => cases route <;> exact ⟨_,rfl⟩
  | some i =>
    cases unknown i rfl
    cases route <;> exact ⟨_,rfl⟩

abbrev Untouched (db : Database) (post : A → Database → Session → Prop) (x : Api A) : Database → Session → Prop :=
  x.Secure exec (· = db) (fun _ => True) (fun _ _ => True) post

theorem authenticate_strange (strange : Strange adminKey db header) (l : Session) :
    Untouched db (fun result _ _ => ∀ i, result = .ok (some i) → i = ⟨false,0⟩) (Authenticate adminKey header) db l := by
  by_cases bearer : ∃ token, header = "Bearer " ++ token
  · obtain ⟨token,rfl⟩ := bearer
    rw [authenticate_bearer,if_neg fun same => strange.1 (congrArg _ same)]
    intro now same _ c
    subst same
    have effect := exec_effect c now l (.agentByAPIKey token)
    have unknown : ∀ a, (exec (.agentByAPIKey token) c now l).1 = .ok (some a) → False := by
      intro a ok
      obtain ⟨listed,key,active⟩ := byAPIKey_found (Prod.mk.inj (Except.ok.inj (exec_ok ok))).1
      exact strange.2 a listed active (by rw [key])
    have unchanged : (exec (.agentByAPIKey token) c now l).2.1 = now := by
      generalize (exec (.agentByAPIKey token) c now l).2.1 = after at effect
      cases effect
      rfl
    refine ⟨unchanged,trivial,trivial,fun _ _ _ i same => ?_⟩
    cases answer : (exec (.agentByAPIKey token) c now l).1 with
    | error e =>
      rw [answer] at same
      cases same
    | ok found =>
      cases found with
      | none =>
        rw [answer] at same
        cases same
        rfl
      | some a => exact absurd answer (unknown a)
  · rw [authenticate_other adminKey fun token same => bearer ⟨token,same⟩]
    exact fun _ _ _ _ => nofun

theorem serve_untouched (strange : Strange adminKey db request.authorization) :
    Untouched db (fun _ _ _ => True) (serve adminKey request) db .fresh := by
  refine Secure.bind (fun _ => trivial) rfl trivial (authenticate_strange strange .fresh) fun result now l _ _ unknown => ?_
  cases result with
  | error response => exact fun _ _ _ => trivial
  | ok info =>
    obtain ⟨response,refused⟩ := dispatch_refuses (fun i same => unknown i (congrArg _ same)) request.route
    change Untouched _ _ (dispatch info request.route) _ _
    rw [refused]
    exact fun _ _ _ => trivial

theorem visits_untouched (strange : ∀ r, admits r → Strange adminKey db r.authorization) (visits : Visits adminKey admits t x)
    (here : now = db) : Untouched db (fun _ _ _ => True) x now .fresh := by
  subst here
  cases visits with
  | request admitted =>
    refine Secure.bind (fun _ => trivial) rfl trivial (serve_untouched (strange _ admitted)) fun _ _ _ _ _ _ => ?_
    exact fun _ _ _ => trivial

-- Requests of strangers, as many at a time as there may be, change nothing at all.
theorem strangers_change_nothing {p : System} (strange : ∀ r, admits r → Strange adminKey db r.authorization)
    (run : VisitsRuns adminKey admits (Pool.idle db) p) : p.shared = db := by
  have begins (worker : Worker) (x : Api Answer) (now : Database) (visits : Visits adminKey admits worker x) (here : now = db) :=
    visits_untouched strange visits here
  exact (Pool.runs_secured (fun _ => trivial) (fun _ _ _ _ _ => trivial) begins trivial (Pool.idle_secured rfl) run).1.holds

-- Ada is paused, so her key is a stranger's.
def Database.halted : Database where
  agents := [⟨1,"ada","Ada",some "",none,"tk_agent_ada",some 10,some false⟩]
def refusing : System :=
  ⟨.halted,Function.update (fun _ => none) (.request 0) (some (serving "rp_admin" .adas,.fresh))⟩
def refused : System := refusing.acts exec [(.request 0,.sample)]

theorem strangers_change_nothing_sample : refused.shared = .halted := by
  have run : VisitsRuns "rp_admin" (· = Request.adas) (Pool.idle .halted) refused :=
    Pool.acts_runs (.step .start (.begin rfl (.request rfl))) _
  refine strangers_change_nothing (fun r same => ?_) run
  subst same
  exact ⟨by decide,by decide⟩

end Trokk
