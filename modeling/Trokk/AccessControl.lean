import Trokk.System

-- The router of cmd/server/main.go behind the guards of internal/middleware/auth.go:
-- who gets through to which handler, and as whom.
namespace Trokk
open Program

def GetAuthInfo (ctx : Option AuthInfo) : AuthInfo × Bool :=
  match ctx with
  | none => (⟨false,0⟩,false)
  | some info => (info,info.isAdmin || info.agentID ≠ 0)

def RequireAuth (info : Option AuthInfo) (next : AuthInfo → Api Response) : Api Response :=
  match info with
  | some info =>
    if !info.isAdmin ∧ info.agentID = 0 then writeError 401 "authentication_required" else next info
  | none => writeError 401 "authentication_required"

inductive Verb where
  | get | post | patch
  deriving DecidableEq

-- The methods of handler.Handler.
inductive HandlerMethod where
  | health
  | createAgent | listAgents | getAgent | updateAgent | getMessage
  | createInvestigation | listInvestigations | getInvestigation | triggerConsensus
  | controlStatus | controlTick | controlPauseAll | controlResumeAll | controlConfigs
  | createMessage | respondToMessage | toggleEndorse | togglePropagate
  | listMessages
  deriving DecidableEq

-- The middleware that a group of routes uses.
inductive Guard where
  | unguarded | requireAdmin | requireAgent | requireAuth
  deriving DecidableEq

structure Endpoint where
  verb : Verb
  pattern : String
  guard : Guard
  handler : HandlerMethod
  deriving DecidableEq

-- r.Route("/api/v1", ...)
def router : List Endpoint := [
  ⟨.get,"/health",.unguarded,.health⟩,
  ⟨.post,"/agents",.requireAdmin,.createAgent⟩,
  ⟨.get,"/agents",.requireAdmin,.listAgents⟩,
  ⟨.get,"/agents/{id}",.requireAdmin,.getAgent⟩,
  ⟨.patch,"/agents/{id}",.requireAdmin,.updateAgent⟩,
  ⟨.get,"/messages/{id}",.requireAdmin,.getMessage⟩,
  ⟨.post,"/investigations",.requireAdmin,.createInvestigation⟩,
  ⟨.get,"/investigations",.requireAdmin,.listInvestigations⟩,
  ⟨.get,"/investigations/{id}",.requireAdmin,.getInvestigation⟩,
  ⟨.post,"/investigations/{id}/consensus",.requireAdmin,.triggerConsensus⟩,
  ⟨.get,"/control/status",.requireAdmin,.controlStatus⟩,
  ⟨.post,"/control/tick/{agentId}",.requireAdmin,.controlTick⟩,
  ⟨.post,"/control/pause-all",.requireAdmin,.controlPauseAll⟩,
  ⟨.post,"/control/resume-all",.requireAdmin,.controlResumeAll⟩,
  ⟨.get,"/control/configs",.requireAdmin,.controlConfigs⟩,
  ⟨.post,"/messages",.requireAgent,.createMessage⟩,
  ⟨.post,"/messages/{id}/respond",.requireAgent,.respondToMessage⟩,
  ⟨.post,"/messages/{id}/endorse",.requireAgent,.toggleEndorse⟩,
  ⟨.post,"/messages/{id}/propagate",.requireAgent,.togglePropagate⟩,
  ⟨.get,"/messages",.requireAuth,.listMessages⟩]

-- A handler reads the authentication back from the request's context.
abbrev RequestHandler := Option AuthInfo → Api Response

def Guard.wrap (next : RequestHandler) (info : Option AuthInfo) : Guard → Api Response
  | .unguarded => next info
  | .requireAdmin => RequireAdmin info fun info => next (some info)
  | .requireAgent => RequireAgent info fun info => next (some info)
  | .requireAuth => RequireAuth info fun info => next (some info)

def handle (adminKey header : String) (e : Endpoint) (handler : RequestHandler) : Api Response := do
  match ← Authenticate adminKey header with
  | .error response => return response
  | .ok info => e.guard.wrap handler info

def Route.handler : Route → HandlerMethod
  | .createAgent _ => .createAgent
  | .updateAgent .. => .updateAgent
  | .createMessage _ => .createMessage
  | .respond .. => .respondToMessage
  | .endorse _ => .toggleEndorse
  | .propagate _ => .togglePropagate
  | .createInvestigation _ => .createInvestigation
  | .triggerConsensus _ => .triggerConsensus
  | .controlTick _ => .controlTick
  | .pauseAll => .controlPauseAll
  | .resumeAll => .controlResumeAll

-- The handler of a writing route, for the rest of its request.
def Route.call : Route → RequestHandler
  | .createAgent body => fun _ => CreateAgent body
  | .updateAgent id body => fun _ => UpdateAgent id body
  | .createMessage body => fun ctx => CreateMessage (GetAuthInfo ctx).1 body
  | .respond id body => fun ctx => RespondToMessage (GetAuthInfo ctx).1 id body
  | .endorse id => fun ctx => ToggleEndorse (GetAuthInfo ctx).1 id
  | .propagate id => fun ctx => TogglePropagate (GetAuthInfo ctx).1 id
  | .createInvestigation body => fun _ => CreateInvestigation body
  | .triggerConsensus id => fun _ => TriggerConsensus id
  | .controlTick agentId => fun _ => ControlTick agentId
  | .pauseAll => fun _ => ControlPauseAll
  | .resumeAll => fun _ => ControlResumeAll

-- The agent that a write is attributed to.
def Statement.author : Statement → Option Uuid
  | .insertMessage agentId .. => some agentId
  | .toggle key => some key.2.agentId
  | _ => none

-- What the guards decide before any handler: its context, or the answer instead.
def Guard.check (info : Option AuthInfo) : Guard → Except Response (Option AuthInfo)
  | .unguarded => .ok info
  | .requireAdmin => if info.any (·.isAdmin) then .ok info else .error ⟨403,.error "admin_required"⟩
  | .requireAgent => if info.any (·.agentID ≠ 0) then .ok info else .error ⟨403,.error "agent_key_required"⟩
  | .requireAuth =>
    if info.any fun info => info.isAdmin || info.agentID ≠ 0 then .ok info else .error ⟨401,.error "authentication_required"⟩

def admission (adminKey header : String) (guard : Guard) : Api (Except Response (Option AuthInfo)) := do
  match ← Authenticate adminKey header with
  | .error response => return .error response
  | .ok info => return guard.check info

def proceed (handler : RequestHandler) : Except Response (Option AuthInfo) → Api Response
  | .error response => pure response
  | .ok info => handler info

theorem wrap_check (guard : Guard) (handler : RequestHandler) (info : Option AuthInfo) :
    guard.wrap handler info = proceed handler (guard.check info) := by
  cases guard with
  | unguarded => rfl
  | requireAdmin =>
    cases info with
    | none => rfl
    | some info =>
      by_cases admin : info.isAdmin = true
      · simp [Guard.wrap,Guard.check,RequireAdmin,proceed,admin]
      · simp [Guard.wrap,Guard.check,RequireAdmin,proceed,writeError,admin]
  | requireAgent =>
    cases info with
    | none => rfl
    | some info =>
      by_cases nil : info.agentID = 0
      · simp [Guard.wrap,Guard.check,RequireAgent,proceed,writeError,nil]
      · simp [Guard.wrap,Guard.check,RequireAgent,proceed,nil]
  | requireAuth =>
    cases info with
    | none => rfl
    | some info =>
      cases admin : info.isAdmin with
      | true => simp [Guard.wrap,Guard.check,RequireAuth,proceed,admin]
      | false =>
        by_cases nil : info.agentID = 0
        · simp [Guard.wrap,Guard.check,RequireAuth,proceed,writeError,admin,nil]
        · simp [Guard.wrap,Guard.check,RequireAuth,proceed,admin,nil]

theorem handle_admission (adminKey header : String) (e : Endpoint) (handler : RequestHandler) :
    handle adminKey header e handler = (admission adminKey header e.guard >>= proceed handler) := by
  unfold handle admission
  rw [bind_regroup]
  refine congrArg (Authenticate adminKey header >>= ·) (funext fun result => ?_)
  cases result with
  | error response => rfl
  | ok info => exact wrap_check e.guard handler info

section
variable {db : Database} {adminKey header : String}

-- The header carries the key of an agent that is active now.
def Bearer (db : Database) (adminKey header : String) (a : AgentRow) : Prop :=
  a ∈ db.agents ∧ a.active = some true ∧ a.apiKey ≠ adminKey ∧ header = "Bearer " ++ a.apiKey

-- The row that the key's lookup is answered with scans.
def LookupSucceeds (db : Database) (adminKey header : String) : Prop := ∀ a, Bearer db adminKey header a → a.scans = true

def Guard.Admits (db : Database) (adminKey header : String) : Guard → Prop
  | .unguarded => True
  | .requireAdmin => header = "Bearer " ++ adminKey
  | .requireAgent => ∃ a, Bearer db adminKey header a
  | .requireAuth => header = "Bearer " ++ adminKey ∨ ∃ a, Bearer db adminKey header a

structure Decided (db : Database) (adminKey header : String) (guard : Guard)
    (outcome : Except Response (Option AuthInfo)) : Prop where
  runs : (∃ info, outcome = .ok info) ↔ guard.Admits db adminKey header
  refused : ∀ response, outcome = .error response → response.status = 401 ∨ response.status = 403
  writer : guard = .requireAgent → ∀ info a, outcome = .ok info → Bearer db adminKey header a → info = some ⟨false,a.id⟩

-- What authentication makes of the header.
structure Identified (db : Database) (adminKey header : String) (info : Option AuthInfo) : Prop where
  admin : info.any (·.isAdmin) = true ↔ header = "Bearer " ++ adminKey
  agent : info.any (·.agentID ≠ 0) = true ↔ ∃ a, Bearer db adminKey header a
  own : ∀ a, Bearer db adminKey header a → info = some ⟨false,a.id⟩

theorem bearer_inj (same : "Bearer " ++ token = "Bearer " ++ other) : token = other := by
  have trimmed := congrArg (trimPrefix · "Bearer ") same
  rwa [trimPrefix_append,trimPrefix_append] at trimmed

theorem unknown_identified (other : ∀ token, header ≠ "Bearer " ++ token) : Identified db adminKey header none where
  admin := ⟨nofun,fun same => absurd same (other adminKey)⟩
  agent := ⟨nofun,fun ⟨a,bearer⟩ => absurd bearer.2.2.2 (other a.apiKey)⟩
  own := fun a bearer => absurd bearer.2.2.2 (other a.apiKey)

theorem admin_identified : Identified db adminKey ("Bearer " ++ adminKey) (some ⟨true,0⟩) := by
  have stranger (a : AgentRow) : ¬ Bearer db adminKey ("Bearer " ++ adminKey) a := fun bearer =>
    bearer.2.2.1 (bearer_inj bearer.2.2.2).symm
  exact ⟨by simp,by simp [stranger],fun a bearer => absurd bearer (stranger a)⟩

-- The lookup finds the one active agent with this key, or none.
theorem lookup_identified (keys : (db.agents.map AgentRow.apiKey).Nodup) (ids : ∀ a ∈ db.agents, a.id ≠ 0)
    (succeeds : LookupSucceeds db adminKey ("Bearer " ++ token)) (notAdmin : token ≠ adminKey) : ∃ info,
      authInfo (.ok (db.agents.find? fun a => a.apiKey = token && a.active = some true)) = .ok (some info) ∧
        Identified db adminKey ("Bearer " ++ token) (some info) := by
  have carries (a : AgentRow) (bearer : Bearer db adminKey ("Bearer " ++ token) a) : a.apiKey = token :=
    (bearer_inj bearer.2.2.2).symm
  have notBearer : "Bearer " ++ token ≠ "Bearer " ++ adminKey := fun same => notAdmin (bearer_inj same)
  cases found : db.agents.find? fun a => a.apiKey = token && a.active = some true with
  | none =>
    have stranger (a : AgentRow) : ¬ Bearer db adminKey ("Bearer " ++ token) a := fun bearer =>
      List.find?_eq_none.mp found a bearer.1 (by simp [carries a bearer,bearer.2.1])
    refine ⟨⟨false,0⟩,rfl,?_,?_,fun a bearer => absurd bearer (stranger a)⟩
    · simpa using notBearer
    · simp [stranger]
  | some agent =>
    obtain ⟨listed,key,active⟩ := byAPIKey_found found
    have bearer : Bearer db adminKey ("Bearer " ++ token) agent :=
      ⟨listed,active,key ▸ notAdmin,key ▸ rfl⟩
    refine ⟨⟨false,agent.id⟩,if_pos (succeeds agent bearer),?_,?_,fun a other => ?_⟩
    · simpa using notBearer
    · exact ⟨fun _ => ⟨agent,bearer⟩,fun _ => by simpa using ids agent listed⟩
    · rw [List.inj_on_of_nodup_map keys listed other.1 (key.trans (carries a other).symm)]

-- Alone, with the lookup answered.
theorem authenticate_identifies (keys : (db.agents.map AgentRow.apiKey).Nodup) (ids : ∀ a ∈ db.agents, a.id ≠ 0)
    (succeeds : LookupSucceeds db adminKey header) (l : Session) :
    (Authenticate adminKey header).Ensures exec (fun c => c.fate = .answered) (fun result db' l' => db' = db ∧ l' = l ∧
      ∃ info, result = .ok info ∧ Identified db adminKey header info) db l := by
  by_cases bearer : ∃ token, header = "Bearer " ++ token
  · obtain ⟨token,rfl⟩ := bearer
    rw [authenticate_bearer]
    split
    · rename_i admin
      subst admin
      exact ⟨rfl,rfl,_,rfl,admin_identified⟩
    · rename_i notAdmin
      intro c answered
      have told : exec (.agentByAPIKey token) c db l = (.ok (db.agents.find? fun a => a.apiKey = token && a.active = some true),db,l) := by
        simp [exec,Statement.certain,answered,perform]
      rw [told]
      obtain ⟨info,same,identified⟩ := lookup_identified keys ids succeeds notAdmin
      exact ⟨rfl,rfl,_,same,identified⟩
  · rw [authenticate_other adminKey fun token same => bearer ⟨token,same⟩]
    exact ⟨rfl,rfl,none,rfl,unknown_identified fun token same => bearer ⟨token,same⟩⟩

theorem gate_decides {guard : Guard} {passes : Bool} {response : Response}
    (exact' : passes = true ↔ guard.Admits db adminKey header) (status : response.status = 401 ∨ response.status = 403)
    (writer : guard = .requireAgent → ∀ a, Bearer db adminKey header a → info = some ⟨false,a.id⟩) :
    Decided db adminKey header guard (if passes then .ok info else .error response) := by
  cases passes with
  | true =>
    refine ⟨⟨fun _ => exact'.mp rfl,fun _ => ⟨info,rfl⟩⟩,nofun,fun agents info' a same bearer => ?_⟩
    cases same
    exact writer agents a bearer
  | false =>
    refine ⟨⟨nofun,fun admits => absurd (exact'.mpr admits) Bool.false_ne_true⟩,fun other same => ?_,fun _ _ _ => nofun⟩
    cases same
    exact status

theorem check_decides (identified : Identified db adminKey header info) (guard : Guard) :
    Decided db adminKey header guard (guard.check info) := by
  cases guard with
  | unguarded => exact ⟨⟨fun _ => trivial,fun _ => ⟨info,rfl⟩⟩,nofun,nofun⟩
  | requireAdmin => exact gate_decides identified.admin (.inr rfl) nofun
  | requireAgent => exact gate_decides identified.agent (.inr rfl) fun _ => identified.own
  | requireAuth =>
    have either : (info.any fun info => info.isAdmin || info.agentID ≠ 0) = true ↔
        header = "Bearer " ++ adminKey ∨ ∃ a, Bearer db adminKey header a := by
      rw [← identified.admin,← identified.agent]
      cases info <;> simp
    exact gate_decides either (.inl rfl) nofun

end

-- The existing handlers behind the guards of their routes.
theorem dispatch_wrap (listed : e ∈ router) (own : route.handler = e.handler) (info : Option AuthInfo) :
    dispatch info route = e.guard.wrap route.call info := by
  have admins : ∀ e ∈ router, e.handler ∈ [.createAgent,.updateAgent,.createInvestigation,.triggerConsensus,.controlTick,
      .controlPauseAll,.controlResumeAll] → e.guard = .requireAdmin := by decide
  have agents : ∀ e ∈ router, e.handler ∈ [.createMessage,.respondToMessage,.toggleEndorse,.togglePropagate] →
      e.guard = .requireAgent := by decide
  cases route
  case createMessage | respond | endorse | propagate =>
    rw [agents e listed (by rw [← own]; simp [Route.handler])]
    rfl
  all_goals
    rw [admins e listed (by rw [← own]; simp [Route.handler])]
    rfl

theorem call_attributes {route : Route} (listed : e ∈ router) (own : route.handler = e.handler) (agents : e.guard = .requireAgent)
    (info : AuthInfo) : (route.call (some info)).Only fun s => ∀ id ∈ s.author, id = info.agentID := by
  have writers : ∀ e ∈ router, e.guard = .requireAgent →
      e.handler ∈ [.createMessage,.respondToMessage,.toggleEndorse,.togglePropagate] := by decide
  have writes := writers e listed agents
  rw [← own] at writes
  have mine {id : Uuid} (same : id ∈ some info.agentID) : id = info.agentID := (Option.some.inj same).symm
  cases route
  case createMessage body => exact createMessage_only (fun _ _ _ => mine) (fun _ => nofun) body
  case respond text body => exact respond_only (fun _ _ _ => mine) (fun _ => nofun) text body
  case endorse text => exact toggle_only (fun _ _ _ => mine) _ _ text
  case propagate text => exact toggle_only (fun _ _ _ => mine) _ _ text
  all_goals exact absurd writes (by simp [Route.handler])

-- Whatever a handler does, it runs only behind the decision, and a write on a
-- route for agents carries the id that the decision gave.
theorem access_control {db : Database} (keys : (db.agents.map AgentRow.apiKey).Nodup) (ids : ∀ a ∈ db.agents, a.id ≠ 0)
    (adminKey header : String) (listed : e ∈ router) (handler : RequestHandler) (l : Session) :
    handle adminKey header e handler = (admission adminKey header e.guard >>= proceed handler) ∧
      (LookupSucceeds db adminKey header →
        (admission adminKey header e.guard).Ensures exec (fun c => c.fate = .answered) (fun outcome db' l' =>
          db' = db ∧ l' = l ∧ Decided db adminKey header e.guard outcome) db l) ∧
      ∀ route : Route, route.handler = e.handler →
        (∀ request : Request, request.route = route →
          serve adminKey request = handle adminKey request.authorization e route.call) ∧
        (e.guard = .requireAgent → ∀ info : AuthInfo,
          (route.call (some info)).Only fun s => ∀ id ∈ s.author, id = info.agentID) := by
  refine ⟨handle_admission adminKey header e handler,fun succeeds => ?_,fun route own => ⟨?_,fun agents => ?_⟩⟩
  · apply Ensures.bind
    apply (authenticate_identifies keys ids succeeds l).imp
    intro result db' l' both
    obtain ⟨rfl,rfl,info,rfl,identified⟩ := both
    exact ⟨rfl,rfl,check_decides identified e.guard⟩
  · intro request same
    subst same
    refine congrArg (Authenticate adminKey request.authorization >>= ·) (funext fun result => ?_)
    cases result with
    | error response => rfl
    | ok info => exact dispatch_wrap listed own info
  · exact call_attributes listed own agents

theorem access_control_sample :
    (admission "rp_admin" "Bearer tk_agent_ada" .requireAgent).Ensures exec (fun c => c.fate = .answered)
      (fun outcome db' l' => db' = .sample ∧ l' = .fresh ∧
        Decided .sample "rp_admin" "Bearer tk_agent_ada" .requireAgent outcome) .sample .fresh :=
  let posting : Endpoint := ⟨.post,"/messages",.requireAgent,.createMessage⟩
  (access_control (by decide) (by decide) "rp_admin" "Bearer tk_agent_ada" (by decide : posting ∈ router)
    (fun _ => writeError 500 "") .fresh).2.1 fun a bearer =>
    List.all_eq_true.mp (by decide : Database.sample.agents.all AgentRow.scans = true) a bearer.1

end Trokk
