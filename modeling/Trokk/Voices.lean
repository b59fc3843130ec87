import Trokk.Bearers
import Trokk.TaskFindings
import Trokk.TickRules

-- What stands under an agent's name: its messages, endorsements and propagations.
-- Without its key nobody adds to it or takes from it.
namespace Trokk
open Program

def Database.voice (db : Database) (id : Uuid) : List MessageRow × List ToggleRow × List ToggleRow :=
  (db.messages.filter (·.agentId = id),db.endorsements.filter (·.agentId = id),db.propagations.filter (·.agentId = id))

structure OwnKey (id : Uuid) (key : String) (db : Database) : Prop where
  ids : (db.agents.map AgentRow.id).Nodup
  row : ∃ a ∈ db.agents, a.id = id ∧ a.apiKey = key

def Statement.silentFor (id : Uuid) (s : Statement) : Prop := ∀ author ∈ s.author, author ≠ id

variable {db db' : Database} {l : Session} {id : Uuid} {key adminKey header : String}

theorem ownKey_map (own : OwnKey id key db) {f : AgentRow → AgentRow} (keeps : ∀ a, (f a).id = a.id ∧ (f a).apiKey = a.apiKey) :
    OwnKey id key {db with agents := db.agents.map f} := by
  refine ⟨?_,?_⟩
  · rw [map_kept fun a => (keeps a).1]
    exact own.ids
  · obtain ⟨a,member,same,held⟩ := own.row
    exact ⟨f a,List.mem_map_of_mem member,(keeps a).1.trans same,(keeps a).2.trans held⟩

theorem effect_ownKey (effect : Effect c db l s db') (own : OwnKey id key db) : OwnKey id key db' := by
  cases effect with
  | insertAgent fresh =>
    refine ⟨nodup_snoc own.ids fun a member => (fresh a member).1,?_⟩
    obtain ⟨a,member,held⟩ := own.row
    exact ⟨a,List.mem_append_left _ member,held⟩
  | updateAgent =>
    apply ownKey_map own
    intro a
    split <;> exact ⟨rfl,rfl⟩
  | setAllActive => exact ownKey_map own fun _ => ⟨rfl,rfl⟩
  | toggle =>
    rw [toggled_eq]
    exact ⟨own.ids,own.row⟩
  | _ => exact ⟨own.ids,own.row⟩

theorem flipRow_other {rows : List ToggleRow} (other : row.agentId ≠ id) :
    (flipRow rows row).filter (·.agentId = id) = rows.filter (·.agentId = id) := by
  unfold flipRow
  split
  · clear * - other
    induction rows with
    | nil => rfl
    | cons first rest ih =>
      rw [List.erase_cons]
      split
      · rename_i same
        rw [eq_of_beq same,List.filter_cons_of_neg (by simpa using other)]
      · rw [List.filter_cons,List.filter_cons,ih]
  · rw [List.filter_append,List.filter_cons_of_neg (by simpa using other),List.filter_nil,List.append_nil]

theorem effect_voice (effect : Effect c db l s db') (silent : s.silentFor id) : db'.voice id = db.voice id := by
  cases effect with
  | insertMessage =>
    have other := silent _ rfl
    rw [Database.voice,List.filter_append,List.filter_cons_of_neg (by simpa using other),List.filter_nil,List.append_nil]
    rfl
  | @toggle key =>
    have other := silent _ rfl
    obtain ⟨table,row⟩ := key
    cases table with
    | endorsements => exact congrArg (fun rows => (_,rows,_)) (flipRow_other other)
    | propagations => exact congrArg (fun rows => (_,_,rows)) (flipRow_other other)
  | _ => rfl

-- A statement that sets agents' flags, or might.
def Statement.switches : Statement → Prop
  | .updateAgent .. | .setAllActive _ => True
  | _ => False

-- What keeps an agent mute: no statement of `P` is in its name, and no header that
-- fits identifies it, where the invariant holds.
structure Mute (id : Uuid) (inv : Database → Prop) (P : Statement → Prop) (fits : String → Prop) : Prop where
  silent : ∀ s, P s → s.silentFor id
  allows : ∀ s : Statement, s.silentFor id → ¬ s.switches → P s
  keeps : ∀ s c db db' l, P s → Effect c db l s db' → inv db → inv db'
  others : ∀ token db, fits ("Bearer " ++ token) → inv db → ∀ a ∈ db.agents, a.apiKey = token → a.active = some true → a.id ≠ id

variable {inv : Database → Prop} {P : Statement → Prop} {fits : String → Prop}

abbrev Unvoiced (id : Uuid) (inv : Database → Prop) (post : A → Database → Session → Prop) (x : Api A) : Database → Session → Prop :=
  x.Secure exec inv (fun _ => True) (fun db db' => db'.voice id = db.voice id) post

theorem exec_unvoiced (mute : Mute id inv P fits) (allowed : P s) (holds : inv db) (c : Choice) (l : Session) :
    inv (exec s c db l).2.1 ∧ True ∧ (exec s c db l).2.1.voice id = db.voice id :=
  have effect := exec_effect c db l s
  ⟨mute.keeps s c db _ l allowed effect holds,trivial,effect_voice effect (mute.silent s allowed)⟩

theorem only_unvoiced (mute : Mute id inv P fits) {x : Api A} {post : A → Prop} (only : x.Only P) (yields : x.Yields post) (db : Database)
    (l : Session) : Unvoiced id inv (fun a _ _ => post a) x db l :=
  only.secure yields (fun _ c _ l allowed holds _ => exec_unvoiced mute allowed holds c l) trivial

theorem voice_refl (d : Database) : d.voice id = d.voice id := rfl
theorem voice_trans (a b c : Database) (one : b.voice id = a.voice id) (two : c.voice id = b.voice id) : c.voice id = a.voice id :=
  two.trans one

theorem bind_unvoiced {x : Api A} {f : A → Api B} {middle : A → Database → Session → Prop} {post : B → Database → Session → Prop}
    (holds : inv db) (first : Unvoiced id inv middle x db l)
    (then' : ∀ a db l, inv db → middle a db l → Unvoiced id inv post (f a) db l) : Unvoiced id inv post (x >>= f) db l :=
  Secure.bind voice_refl holds trivial first fun a db l holds _ told => then' a db l holds told

theorem authenticate_unvoiced (mute : Mute id inv P fits) (fit : fits header) (adminKey : String) (db : Database) (l : Session) :
    Unvoiced id inv (fun result _ _ => ∀ i, result = .ok (some i) → i.agentID ≠ 0 → i.agentID ≠ id) (Authenticate adminKey header) db l := by
  by_cases bearer : ∃ token, header = "Bearer " ++ token
  · obtain ⟨token,rfl⟩ := bearer
    rw [authenticate_bearer]
    split
    · intro _ _ _ i same named
      cases same
      exact absurd rfl named
    · intro now holds _ c
      obtain ⟨holds',-,moved⟩ := exec_unvoiced mute (mute.allows (.agentByAPIKey token) nofun nofun) holds c l
      refine ⟨holds',trivial,moved,?_⟩
      cases answer : (exec (.agentByAPIKey token) c now l).1 with
      | error => exact fun _ _ _ _ => nofun
      | ok found =>
        cases found with
        | none =>
          intro _ _ _ i same named
          cases same
          exact absurd rfl named
        | some a =>
          intro _ _ _ i same _
          cases authInfo_some same
          obtain ⟨listed,key,active⟩ := byAPIKey_found (Prod.mk.inj (Except.ok.inj (exec_ok answer))).1
          exact mute.others token now fit holds a listed key active
  · rw [authenticate_other adminKey fun token same => bearer ⟨token,same⟩]
    exact fun _ _ _ _ => nofun

-- A route whose statements are among `P`, whoever but the agent asks.
def Discreet (id : Uuid) (P : Statement → Prop) (route : Route) : Prop :=
  ∀ info : Option AuthInfo, (∀ i, info = some i → i.agentID ≠ 0 → i.agentID ≠ id) → (dispatch info route).Only P

theorem requireAgent_other {next : AuthInfo → Api Response} (named : ∀ i, info = some i → i.agentID ≠ 0 → i.agentID ≠ id)
    (served : ∀ i, i.agentID ≠ id → (next i).Only P) : (RequireAgent info next).Only P := by
  cases info with
  | none => trivial
  | some i =>
    unfold RequireAgent
    dsimp only
    split
    · trivial
    · rename_i known
      exact served i (named i rfl known)

theorem author_silent (other : agent ≠ id) : ∀ author ∈ some agent, author ≠ id := by
  intro author same
  cases same
  exact other

theorem createMessage_discreet (mute : Mute id inv P fits) (body : Option Json) : Discreet id P (.createMessage body) := fun _ named =>
  requireAgent_other named fun _ other =>
    createMessage_only (fun _ _ => mute.allows _ (author_silent other) nofun) (fun _ => mute.allows _ nofun nofun) body

-- Apart from the routes that set agents' flags.
theorem route_discreet (mute : Mute id inv P fits) (updates : ∀ text body, route = .updateAgent text body → (UpdateAgent text body).Only P)
    (pauses : route = .pauseAll → P (.setAllActive false)) (resumes : route = .resumeAll → P (.setAllActive true)) : Discreet id P route := by
  have plain (s : Statement) (silent : s.silentFor id) (unswitched : ¬ s.switches) := mute.allows s silent unswitched
  intro info named
  cases route with
  | createAgent body => exact requireAdmin_only (fun _ => createAgent_only (plain _ nofun nofun) (fun _ _ => plain _ nofun nofun) body) info
  | updateAgent text body => exact requireAdmin_only (fun _ => updates text body rfl) info
  | createInvestigation body =>
    exact requireAdmin_only (fun _ => createInvestigation_only (plain _ nofun nofun) (fun _ => plain _ nofun nofun) (plain _ nofun nofun)
      (fun _ _ _ _ => plain _ nofun nofun) (plain _ nofun nofun) body) info
  | triggerConsensus text =>
    exact requireAdmin_only (fun _ => triggerConsensus_only (fun _ => ⟨plain _ nofun nofun,plain _ nofun nofun⟩)
      (fun _ _ => plain _ nofun nofun)) info
  | controlTick text => exact requireAdmin_only (fun _ => controlTick_only (fun _ => plain _ nofun nofun) text) info
  | pauseAll =>
    apply requireAdmin_only
    exact fun _ => only_then (pauses rfl) (fun _ => trivial) fun _ => trivial
  | resumeAll =>
    apply requireAdmin_only
    exact fun _ => only_then (resumes rfl) (fun _ => trivial) fun _ => trivial
  | createMessage body => exact createMessage_discreet mute body info named
  | respond text body =>
    exact requireAgent_other named fun _ other =>
      respond_only (fun _ _ => plain _ (author_silent other) nofun) (fun _ => plain _ nofun nofun) text body
  | endorse text => exact requireAgent_other named fun _ other => toggle_only (fun _ _ => plain _ (author_silent other) nofun) _ _ text
  | propagate text => exact requireAgent_other named fun _ other => toggle_only (fun _ _ => plain _ (author_silent other) nofun) _ _ text

theorem serve_unvoiced (mute : Mute id inv P fits) (holds : inv db) (fit : fits request.authorization) (discreet : Discreet id P request.route)
    (adminKey : String) (l : Session) : Unvoiced id inv (fun _ _ _ => True) (serve adminKey request) db l := by
  refine bind_unvoiced holds (authenticate_unvoiced mute fit adminKey db l) fun result db l _ named => ?_
  cases result with
  | error response => exact fun _ _ _ => trivial
  | ok info => exact only_unvoiced mute (discreet info fun i same => named i (congrArg _ same)) (yields_true _) db l

theorem query_unvoiced (mute : Mute id inv P fits) {f : Except PgError s.Result → Api A} {post : A → Database → Session → Prop}
    (silent : s.silentFor id) (unswitched : ¬ s.switches) (next : ∀ r db l, inv db → Unvoiced id inv post (f r) db l) :
    Unvoiced id inv post (query s >>= f) db l :=
  have allowed := mute.allows s silent unswitched
  Secure.ask (fun c _ holds => exec_unvoiced mute allowed holds c l) fun c _ holds => next _ _ _ (exec_unvoiced mute allowed holds c l).1

-- A specialist that does not post as the agent.
def Specialist.Unvoiced (id : Uuid) (inv : Database → Prop) (agent : Specialist) : Prop := ∀ taskId investigationId taskPrompt db l,
  inv db → Trokk.Unvoiced id inv (fun _ _ _ => True) (agent.run taskId investigationId taskPrompt) db l

theorem post_unvoiced (mute : Mute id inv P fits) (fit : fits request.authorization) (discreet : Discreet id P request.route) (adminKey : String)
    (db : Database) (l : Session) : Unvoiced id inv (fun _ _ _ => True) (post adminKey request) db l := by
  refine query_unvoiced mute (s := .send) nofun nofun fun r db l holds => ?_
  cases r with
  | error => exact fun _ _ _ => trivial
  | ok =>
    refine bind_unvoiced holds (serve_unvoiced mute holds fit discreet adminKey l) fun response db l _ _ => ?_
    refine query_unvoiced mute (s := .receive) nofun nofun fun r db l _ => ?_
    cases r <;> exact fun _ _ _ => trivial

theorem publish_unvoiced (mute : Mute id inv P fits) {self : BaseAgent} (holds : inv db) (fit : fits ("Bearer " ++ self.cfg.adminApiKey))
    (adminKey : String) (state : AgentState) (l : Session) : Unvoiced id inv (fun _ _ _ => True) (self.publish adminKey state) db l := by
  unfold BaseAgent.publish
  split
  · exact fun _ _ _ => trivial
  · refine bind_unvoiced holds (post_unvoiced mute fit (createMessage_discreet mute _) adminKey db l) fun result db l _ _ => ?_
    split <;> exact fun _ _ _ => trivial

theorem research_silent (mute : Mute id inv P fits) (self : BaseAgent) (state : AgentState) : (self.research state).Only P := by
  refine Program.Only.bind ?_ fun state => ?_
  · unfold BaseAgent.askModel
    split
    · trivial
    · exact only_then (mute.allows _ nofun nofun) (fun _ => trivial) fun _ => trivial
  · split <;> trivial

theorem specialist_unvoiced (mute : Mute id inv P fits) {self : BaseAgent} (fit : fits ("Bearer " ++ self.cfg.adminApiKey)) (adminKey : String) :
    (self.specialist adminKey).Unvoiced id inv := by
  intro taskId investigationId taskPrompt db l holds
  refine bind_unvoiced holds (only_unvoiced mute (research_silent mute self _) (yields_true _) db l) fun state db l holds _ => ?_
  exact bind_unvoiced holds (publish_unvoiced mute holds fit adminKey state l) fun _ _ _ _ _ _ _ _ => trivial

-- A method that keeps to such specialists; `learned` tells of what it returns.
def AllUnvoiced (id : Uuid) (inv : Database → Prop) (agents : Agents) : Prop := ∀ entry ∈ agents, entry.2.Unvoiced id inv

def Keeping (id : Uuid) (inv : Database → Prop) (learned : A → Prop) (x : Py A) : Prop := ∀ agents db l, AllUnvoiced id inv agents → inv db →
  Unvoiced id inv (fun (result,agents') _ _ => AllUnvoiced id inv agents' ∧ ∀ a, result = .ok a → learned a) (x agents) db l

theorem Keeping.bind {x : Py A} {f : A → Py B} (first : Keeping id inv learned x) (then' : ∀ a, learned a → Keeping id inv later (f a)) :
    Keeping id inv later (x >>= f) := by
  intro agents db l all holds
  refine bind_unvoiced holds (first agents db l all holds) fun (result,agents') db l holds told => ?_
  cases result with
  | ok a => exact then' a (told.2 a rfl) agents' db l told.1 holds
  | error => exact fun _ _ _ => ⟨told.1,fun _ => nofun⟩

theorem Keeping.lift {x : Api (Except PyError A)} (unvoiced : ∀ db l, inv db → Unvoiced id inv (fun _ _ _ => True) x db l) :
    Keeping id inv (fun _ => True) (Method.lift x : Py A) := by
  intro agents db l all holds
  exact bind_unvoiced holds (unvoiced db l holds) fun _ _ _ _ _ _ _ _ => ⟨all,fun _ _ => trivial⟩

theorem Keeping.attempt {body : Py Unit} {handler : PyError → Py Unit} (first : Keeping id inv (fun _ => True) body)
    (caught : ∀ e, Keeping id inv (fun _ => True) (handler e)) : Keeping id inv (fun _ => True) (Method.attempt body handler) := by
  intro agents db l all holds
  refine bind_unvoiced holds (first agents db l all holds) fun (result,agents') db l holds told => ?_
  cases result with
  | ok a => exact fun _ _ _ => told
  | error e => exact caught e agents' db l told.1 holds

theorem keeping_rules (mute : Mute id inv P fits) :
    TickRules (fun s => s.silentFor id ∧ ¬ s.switches) fun _ x => Keeping id inv (fun _ => True) x where
  pure := fun _ _ _ _ all _ => fun _ _ _ => ⟨all,fun _ _ => trivial⟩
  bind := fun _ _ first then' => first.bind fun a _ => then' a
  attempt := fun _ _ first caught => first.attempt caught
  fetch := fun s plain => Keeping.lift fun _ _ _ => query_unvoiced mute (s := s) plain.1 plain.2 fun r _ _ _ => by
    cases r <;> exact fun _ _ _ => trivial

theorem agentFor_keeping {cls : AgentClass} (builds : ∀ agent, cls.create = .ok agent → agent.Unvoiced id inv) (name : String) :
    Keeping id inv (·.Unvoiced id inv) (agentFor name cls) := by
  intro agents db l all _
  unfold agentFor
  simp only [Method.bind_def,Method.attributes,done_bind]
  cases found : agents.lookup name with
  | some agent =>
    obtain ⟨entry,member,same⟩ := lookup_mem found
    intro _ _ _
    refine ⟨all,fun a isAgent => ?_⟩
    cases isAgent
    exact same ▸ all entry member
  | none =>
    cases created : cls.create with
    | error raised => exact fun _ _ _ => ⟨all,fun a isAgent => by cases isAgent⟩
    | ok agent =>
      intro _ _ _
      refine ⟨List.forall_mem_cons.mpr ⟨builds agent created,all⟩,fun a isAgent => ?_⟩
      cases isAgent
      exact builds agent created

theorem workTask_keeping (mute : Mute id inv P fits) {agent : Specialist} (unvoiced : agent.Unvoiced id inv) (task : TaskRow) :
    Keeping id inv (fun _ => True) (workTask agent task) := by
  have rules := keeping_rules mute
  refine rules.attempt _ _ ?_ fun _ => rules.fetch (.failTask _ _) ⟨nofun,nofun⟩
  refine rules.bind _ _ (Keeping.lift fun db l holds => unvoiced _ _ _ db l holds) fun result => ?_
  split
  · exact rules.fetch (.failTask _ _) ⟨nofun,nofun⟩
  · exact rules.fetch (.completeTask _ _) ⟨nofun,nofun⟩

theorem handle_agent_tick_keeping (mute : Mute id inv P fits) {registry : List (String × AgentClass)}
    (builds : ∀ entry ∈ registry, ∀ agent, entry.2.create = .ok agent → agent.Unvoiced id inv) (agent_id : Uuid) :
    Keeping id inv (fun _ => True) (handle_agent_tick agent_id registry) := by
  have rules := keeping_rules mute
  induction registry with
  | nil => exact rules.pure _
  | cons entry rest ih =>
    refine rules.bind _ _ ?_ fun _ => ih fun other member => builds other (List.mem_cons_of_mem _ member)
    refine rules.bind _ _ (rules.fetch (.pendingTask _ _) ⟨nofun,nofun⟩) fun found => ?_
    cases found with
    | none => exact rules.pure _
    | some task =>
      exact (agentFor_keeping (builds entry List.mem_cons_self) _).bind fun agent unvoiced => workTask_keeping mute unvoiced task

theorem tick_keeping (mute : Mute id inv P fits) {runtime : Runtime}
    (builds : ∀ entry ∈ runtime.registry, ∀ agent, entry.2.create = .ok agent → agent.Unvoiced id inv) :
    Keeping id inv (fun _ => True) (tick runtime) := by
  refine (keeping_rules mute).tick (fun s routine => ?_) (fun inv' question findings => Keeping.lift fun db l _ => ?_)
    fun agent_id => handle_agent_tick_keeping mute builds agent_id
  · cases s with
    | insertMessage => exact routine.elim
    | toggle => exact routine.elim
    | updateAgent => exact routine.elim
    | setAllActive => exact routine.elim
    | _ => exact ⟨nofun,nofun⟩
  · refine only_unvoiced mute (only_imp (runtime.chats inv' question findings) fun s chats => ?_) (yields_true _) db l
    cases s with
    | chat => exact mute.allows _ nofun nofun
    | _ => exact chats.elim

-- An orchestrator whose specialists, those it has and those it builds, post with keys
-- that fit.
theorem ticking_unvoiced (mute : Mute id inv P fits) {classes : List (String × Except PyError BaseAgent)} {known : List (String × BaseAgent)}
    (registry : runtime.registry = registryOf adminKey classes)
    (fit : ∀ entry ∈ classes, ∀ self, entry.2 = .ok self → fits ("Bearer " ++ self.cfg.adminApiKey))
    (kept : ∀ entry ∈ known, fits ("Bearer " ++ entry.2.cfg.adminApiKey)) (holds : inv db) :
    Unvoiced id inv (fun _ _ _ => True) (ticking runtime (knownAgents adminKey known)) db .fresh := by
  have builds : ∀ entry ∈ runtime.registry, ∀ agent, entry.2.create = .ok agent → agent.Unvoiced id inv := by
    intro entry member agent created
    rw [registry] at member
    obtain ⟨⟨type,create⟩,listed,rfl⟩ := List.mem_map.mp member
    cases create with
    | error => cases created
    | ok self =>
      cases created
      exact specialist_unvoiced mute (fit _ listed self rfl) adminKey
  have all : AllUnvoiced id inv (knownAgents adminKey known) := by
    intro entry member
    obtain ⟨own,listed,rfl⟩ := List.mem_map.mp member
    exact specialist_unvoiced mute (kept own listed) adminKey
  refine bind_unvoiced holds (tick_keeping mute builds _ db .fresh all holds) fun (result,agents') db l _ _ => ?_
  cases result <;> exact fun _ _ _ => trivial

theorem serving_unvoiced (mute : Mute id inv P fits) (fit : fits request.authorization) (discreet : Discreet id P request.route) (holds : inv db) :
    Unvoiced id inv (fun _ _ _ => True) (serving adminKey request) db .fresh :=
  bind_unvoiced holds (serve_unvoiced mute holds fit discreet adminKey .fresh) fun _ _ _ _ _ _ _ _ => trivial

-- A lookup by another key finds another agent.
theorem ownKey_mute (id : Uuid) (key : String) : Mute id (OwnKey id key) (Statement.silentFor id) (· ≠ "Bearer " ++ key) where
  silent := fun _ silent => silent
  allows := fun _ silent _ => silent
  keeps := fun _ _ _ _ _ _ effect own => effect_ownKey effect own
  others := by
    intro token db other own a member held _ isOwn
    obtain ⟨b,there,id',key'⟩ := own.row
    rw [List.inj_on_of_nodup_map own.ids member there (isOwn.trans id'.symm),key'] at held
    exact other (by rw [held])

-- Requests without the key, and ticks of an orchestrator whose specialists post with
-- other keys.
inductive Speaks (adminKey key : String) (runtime : Runtime) : Worker → Api Answer → Prop where
  | request : req.authorization ≠ "Bearer " ++ key → Speaks adminKey key runtime (.request n) (serving adminKey req)
  | tick : (∀ entry ∈ known, entry.2.cfg.adminApiKey ≠ key) →
      Speaks adminKey key runtime (.orchestrator n) (ticking runtime (knownAgents adminKey known))

theorem bearer_apart {key other : String} (apart : other ≠ key) : "Bearer " ++ other ≠ "Bearer " ++ key := fun same => apart (bearer_inj same)

theorem speaks_unvoiced {classes : List (String × Except PyError BaseAgent)} (registry : runtime.registry = registryOf adminKey classes)
    (others : ∀ entry ∈ classes, ∀ self, entry.2 = .ok self → self.cfg.adminApiKey ≠ key)
    (speaks : Speaks adminKey key runtime t x) (own : OwnKey id key db) : Unvoiced id (OwnKey id key) (fun _ _ _ => True) x db .fresh := by
  have mute := ownKey_mute id key
  cases speaks with
  | request other =>
    refine serving_unvoiced mute other ?_ own
    exact route_discreet mute (fun text body _ => updateAgent_only (fun _ => nofun) (fun _ _ => nofun) text body) (fun _ => nofun) fun _ => nofun
  | tick differs =>
    exact ticking_unvoiced mute registry (fun entry member self isSelf => bearer_apart (others entry member self isSelf))
      (fun entry member => bearer_apart (differs entry member)) own

-- Without an agent's key, nothing is said, endorsed, passed on or withdrawn in its name.
theorem voice_kept {p : System} {a : AgentRow} {classes : List (String × Except PyError BaseAgent)} (valid : db.Valid) (member : a ∈ db.agents)
    (registry : runtime.registry = registryOf adminKey classes)
    (others : ∀ entry ∈ classes, ∀ self, entry.2 = .ok self → self.cfg.adminApiKey ≠ a.apiKey)
    (run : Pool.Runs exec (Speaks adminKey a.apiKey runtime) Session.fresh (Pool.idle db) p) : p.shared.voice a.id = db.voice a.id := by
  have begins (worker : Worker) (x : Api Answer) (db : Database) (speaks : Speaks adminKey a.apiKey runtime worker x)
      (own : OwnKey a.id a.apiKey db) := speaks_unvoiced registry others speaks own
  exact (Pool.runs_secured voice_refl voice_trans begins trivial (Pool.idle_secured ⟨valid.agentIds,a,member,rfl,rfl⟩) run).2

-- Ada's specialist posts the finding of her task, and then she posts herself; the other
-- agent is Bob.
def Runtime.adas : Runtime := {Runtime.sample with registry := registryOf "rp_admin" [("research",.ok .poster)]}
def Database.assigned : Database := {Database.sample with
  controlSignals := [⟨31,"force_tick",some 1,60,false⟩]
  investigations := [⟨21,"why",.inProgress,none,30,none⟩]
  investigationTasks := [⟨51,21,1,"research","Investigate: why",.pending,none,30,none⟩]}
def speaking : System := ⟨.assigned,Function.update (fun _ => none) (.request 0) (some (serving "rp_admin" .adas,.fresh))⟩
def speakers : System := {speaking with sessions := Function.update speaking.sessions (.orchestrator 0) (some (ticking .adas (knownAgents "rp_admin" []),.fresh))}
def spoken : System :=
  speakers.acts exec (List.replicate 11 (.orchestrator 0,⟨.answered,310,8,"summary"⟩) ++ List.replicate 3 (.request 0,⟨.answered,320,7,""⟩))

theorem Database.assigned_valid : Database.assigned.Valid := by
  constructor
  case parents => simp [Database.assigned,Database.sample]
  case signalAgents => simp [Database.assigned,Database.sample]
  all_goals decide

theorem voice_kept_sample : (spoken.shared.voice 1).1.length = 4 ∧ spoken.shared.voice 2 = Database.assigned.voice 2 := by
  have run : Pool.Runs exec (Speaks "rp_admin" "tk_agent_bob" .adas) Session.fresh (Pool.idle .assigned) spoken := by
    refine Pool.acts_runs (.step (.step .start (.begin rfl (.request (by decide)))) (.begin rfl (.tick ?_))) _
    exact List.forall_mem_nil _
  refine ⟨by decide +kernel,voice_kept Database.assigned_valid (List.mem_cons_of_mem _ (List.mem_singleton_self _)) rfl ?_ run⟩
  intro entry member self isSelf
  cases List.mem_singleton.mp member
  cases isSelf
  decide

end Trokk
