import Trokk.AccessControl
import Trokk.Library.Middleware

-- internal/middleware/requestid.go, logging.go and auth.go in the order in which
-- cmd/server/main.go installs them: what the record of a request says of its caller.
namespace Trokk
open Program Middleware

-- The values that middleware keeps in a context, each under a key of its own type.
structure Context where
  requestID : Option String
  authInfo : Option AuthInfo
  deriving DecidableEq

def Context.background : Context := ⟨none,none⟩

structure HttpRequest where
  method : String
  path : String
  rawQuery : String
  header : List (String × String)
  remoteAddr : String
  deriving DecidableEq

-- Header.Get: the first value under a key, "" without one.
def HttpRequest.Get (request : HttpRequest) (key : String) : String := (request.header.lookup key).getD ""

-- An *http.Request as a layer sees it; WithContext makes another one.
structure Call where
  request : HttpRequest
  context : Context
  deriving DecidableEq

def Call.received (request : HttpRequest) : Call := ⟨request,.background⟩

def GetRequestID (context : Context) : String := context.requestID.getD ""

-- What GetAuthInfo tells a handler of the caller.
def Call.identity (call : Call) : Option AuthInfo :=
  if (GetAuthInfo call.context.authInfo).2 then some (GetAuthInfo call.context.authInfo).1 else none

-- The calls made on an http.ResponseWriter; of a text written, the bytes taken.
inductive WriterCall where
  | setHeader (key value : String)
  | delHeader (key : String)
  | writeHeader (code : Int)
  | write (taken : Nat)
  deriving DecidableEq

-- A handler returns or panics; http.ErrAbortHandler is the panic that is let through.
inductive Ending where
  | returned | panicked | aborted
  deriving DecidableEq

def Ending.recovered : Ending → Ending
  | .aborted => .aborted
  | _ => .returned

structure Behaviour where
  calls : List WriterCall
  ending : Ending
  deriving DecidableEq

inductive LogLevel where
  | info | warn | error
  deriving DecidableEq

-- slog's kinds of values; a float64 here is the quotient of a count by 1000.
inductive AttrValue where
  | string (text : String)
  | int (value : Int)
  | bool (value : Bool)
  | thousandths (count : Int)
  deriving DecidableEq

structure Attr where
  key : String
  value : AttrValue
  deriving DecidableEq

structure LogRecord where
  level : LogLevel
  message : String
  attrs : List Attr
  deriving DecidableEq

-- What serving a request did, with the records that Logging wrote on the way.
structure Serving extends Behaviour where
  records : List LogRecord
  deriving DecidableEq

def Behaviour.unlogged (behaviour : Behaviour) : Serving := ⟨behaviour,[]⟩

-- What the server does not choose: a new UUID, how long a request takes, how much
-- of a text the connection takes, and what the database answers.
structure Surroundings where
  adminKey : String
  newID : Uuid
  microseconds : Int
  taken : String → Nat
  answers : (s : Statement) → Except PgError s.Result

def Surroundings.sample : Surroundings :=
  ⟨"rp_admin",7,1500,String.utf8ByteSize,fun s => (exec s ⟨.answered,100,0,""⟩ .sample .fresh).1⟩

structure ResponseWriter where
  status : Int
  size : Nat
  deriving DecidableEq

def ResponseWriter.after (rw : ResponseWriter) : WriterCall → ResponseWriter
  | .writeHeader code => {rw with status := code}
  | .write taken => ⟨if rw.status = 0 then 200 else rw.status,rw.size + taken⟩
  | _ => rw

def responseWriter (calls : List WriterCall) : ResponseWriter := calls.foldl .after ⟨0,0⟩

def httpError (taken : String → Nat) (code : Int) (error : String) : Behaviour :=
  ⟨[.delHeader "Content-Length",.setHeader "Content-Type" "text/plain; charset=utf-8",
    .setHeader "X-Content-Type-Options" "nosniff",.writeHeader code,.write (taken (error ++ "\n"))],.returned⟩

def identityAttrs (auth : AuthInfo × Bool) : List Attr :=
  if auth.2 then
    ⟨"is_admin",.bool auth.1.isAdmin⟩ ::
      if auth.1.isAdmin then [] else [⟨"agent_id",.string (String.ofList auth.1.agentID.text)⟩]
  else []

def requestLevel (status : Int) : LogLevel :=
  if status ≥ 500 then .error else if status ≥ 400 then .warn else .info

-- The record is of the request that Logging was called with.
def requestRecord (around : Surroundings) (call : Call) (calls : List WriterCall) : LogRecord :=
  let rw := responseWriter calls
  ⟨requestLevel rw.status,"request",[
    ⟨"method",.string call.request.method⟩,
    ⟨"path",.string call.request.path⟩,
    ⟨"query",.string call.request.rawQuery⟩,
    ⟨"status",.int rw.status⟩,
    ⟨"size",.int rw.size⟩,
    ⟨"duration_ms",.thousandths around.microseconds⟩,
    ⟨"request_id",.string (GetRequestID call.context)⟩] ++ identityAttrs (GetAuthInfo call.context.authInfo)⟩

namespace Mux

def requestID (around : Surroundings) (request : HttpRequest) : String :=
  if request.Get "X-Request-Id" = "" then String.ofList around.newID.text else request.Get "X-Request-Id"

def RequestID (around : Surroundings) : Layer Call Serving where
  pass call := .ok {call with context := {call.context with requestID := some (requestID around call.request)}}
  finish call served :=
    {served with calls := .setHeader "X-Request-Id" (requestID around call.request) :: served.calls}

-- Nothing runs after a panic that comes through.
def Logging (around : Surroundings) : Layer Call Serving where
  pass call := .ok call
  finish call served :=
    if served.ending = .returned then
      {served with records := served.records ++ [requestRecord around call served.calls]}
    else served

def Authenticate (around : Surroundings) : Layer Call Serving where
  pass call :=
    match (Trokk.Authenticate around.adminKey (call.request.Get "Authorization")).answeredBy around.answers with
    | .error response =>
      .error (httpError around.taken response.status "\x7b\"error\":\"internal_server_error\"\x7d").unlogged
    | .ok none => .ok call
    | .ok (some info) => .ok {call with context := {call.context with authInfo := some info}}
  finish _ served := served

-- A layer of another package: it hands on the request it got with at most another
-- remote address, and ends a request as `ends` says.
structure Foreign (ends : Ending → Ending) extends Layer Call Serving where
  hands : ∀ call handed, pass call = .ok handed →
    handed = {call with request := {call.request with remoteAddr := handed.request.remoteAddr}}
  unlogged : ∀ call answer, pass call = .error answer → answer.records = []
  keeps : ∀ call served, (finish call served).records = served.records
  ending : ∀ call served, (finish call served).ending = ends served.ending

-- chi's RealIP and Recoverer, and the handler that cors makes of its options.
structure Outside where
  RealIP : Foreign id
  Recoverer : Foreign Ending.recovered
  cors : Foreign id

def behindLogging (around : Surroundings) (outside : Outside) : List (Layer Call Serving) :=
  [outside.RealIP.toLayer,outside.Recoverer.toLayer,outside.cors.toLayer,Authenticate around]

-- In the order of the router's Use calls.
def chain (around : Surroundings) (outside : Outside) : List (Layer Call Serving) :=
  RequestID around :: Logging around :: behindLogging around outside

-- The handler is what the router chooses behind the middleware, guards included.
def ServeHTTP (around : Surroundings) (outside : Outside) (handler : Call → Behaviour) (request : HttpRequest) : Serving :=
  stack (chain around outside) (fun call => (handler call).unlogged) (.received request)

def delivered (around : Surroundings) (outside : Outside) (request : HttpRequest) : Option Call :=
  reached (chain around outside) (.received request)

-- What Authenticate makes of a request: the admin, an agent or nobody.
def resolved (around : Surroundings) (request : HttpRequest) : Option AuthInfo :=
  match (Trokk.Authenticate around.adminKey (request.Get "Authorization")).answeredBy around.answers with
  | .ok (some info) => if info.isAdmin || info.agentID ≠ 0 then some info else none
  | _ => none

-- The admin key or the key of an agent whose lookup succeeds, as a bearer token.
def Credential (around : Surroundings) (request : HttpRequest) : Prop := ∃ token,
  request.Get "Authorization" = "Bearer " ++ token ∧ (token = around.adminKey ∨
    ∃ agent, around.answers (.agentByAPIKey token) = .ok (some agent) ∧ agent.scans = true ∧ agent.id ≠ 0)

-- Exactly the attributes of one identity, none without one.
structure CarriesIdentity (who : Option AuthInfo) (record : LogRecord) : Prop where
  isAdmin : ∀ value, ⟨"is_admin",value⟩ ∈ record.attrs ↔ ∃ info ∈ who, value = .bool info.isAdmin
  agentID : ∀ value, ⟨"agent_id",value⟩ ∈ record.attrs ↔
    ∃ info ∈ who, info.isAdmin = false ∧ value = .string (String.ofList info.agentID.text)

-- The handler learns whom Authenticate made out, and so does the log.
structure LogsIdentity (around : Surroundings) (outside : Outside) (handler : Call → Behaviour) (request : HttpRequest) :
    Prop where
  obtained : ∀ call ∈ delivered around outside request, call.identity = resolved around request
  recorded : ∀ record ∈ (ServeHTTP around outside handler request).records,
    CarriesIdentity ((delivered around outside request).bind Call.identity) record

section
variable {around : Surroundings} {outside : Outside} {handler : Call → Behaviour} {request : HttpRequest}
  {call handed : Call} {ends : Ending → Ending}

theorem resolved_iff : (resolved around request).isSome ↔ Credential around request := by
  by_cases bearer : ∃ token, request.Get "Authorization" = "Bearer " ++ token
  · obtain ⟨token,header⟩ := bearer
    have own : Credential around request ↔ token = around.adminKey ∨
        ∃ agent, around.answers (.agentByAPIKey token) = .ok (some agent) ∧ agent.scans = true ∧ agent.id ≠ 0 := by
      constructor
      · intro ⟨other,same,known⟩
        rwa [bearer_inj (header.symm.trans same)]
      · exact fun known => ⟨token,header,known⟩
    rw [own]
    unfold resolved
    rw [header,authenticate_bearer]
    by_cases admin : token = around.adminKey
    · simp [admin,answeredBy]
    · cases found : around.answers (.agentByAPIKey token) with
      | error e => simp [admin,answeredBy,found,authInfo]
      | ok agent => cases agent with
        | none => simp [admin,answeredBy,found,authInfo]
        | some agent => cases scans : agent.scans <;> simp [admin,answeredBy,found,authInfo,scans]
  · have other (token : String) : request.Get "Authorization" ≠ "Bearer " ++ token := fun same => bearer ⟨token,same⟩
    constructor
    · intro isSome
      simp [resolved,authenticate_other _ other,answeredBy] at isSome
    · exact fun ⟨token,same,_⟩ => absurd same (other token)

-- What Authenticate goes by, and what it replaces.
def credentials (call : Call) : String × Option AuthInfo := (call.request.Get "Authorization",call.context.authInfo)

theorem Foreign.hands_credentials (layer : Foreign ends) (passed : layer.pass call = .ok handed) :
    credentials handed = credentials call := by
  rw [layer.hands call handed passed]
  rfl

theorem authenticate_identity (unknown : call.context.authInfo = none) (passed : (Authenticate around).pass call = .ok handed) :
    handed.identity = resolved around call.request := by
  simp only [Authenticate] at passed
  unfold resolved
  split at passed
  · cases passed
  · rename_i answer
    cases passed
    simp [answer,Call.identity,GetAuthInfo,unknown]
  · rename_i info answer
    cases passed
    simp [answer,Call.identity,GetAuthInfo]

theorem resolved_header {other : HttpRequest} (same : other.Get "Authorization" = request.Get "Authorization") :
    resolved around other = resolved around request := by
  unfold resolved
  rw [same]

-- The layers around Authenticate bring it the header and a context without a caller.
theorem delivered_identity (arrives : delivered around outside request = some call) :
    call.identity = resolved around request := by
  let outer : List (Layer Call Serving) := [RequestID around,Logging around,outside.RealIP.toLayer,
    outside.Recoverer.toLayer,outside.cors.toLayer]
  have parts : reached (outer ++ [Authenticate around]) (.received request) = some call := arrives
  rw [reached_append] at parts
  obtain ⟨before,first,last⟩ := Option.bind_eq_some_iff.mp parts
  have kept : credentials before = credentials (.received request) := by
    refine reached_keeps credentials (fun layer member r handed passed => ?_) first
    simp only [outer,List.mem_cons,List.not_mem_nil,or_false] at member
    rcases member with rfl | rfl | rfl | rfl | rfl
    · cases passed
      rfl
    · cases passed
      rfl
    · exact outside.RealIP.hands_credentials passed
    · exact outside.Recoverer.hands_credentials passed
    · exact outside.cors.hands_credentials passed
  simp only [reached] at last
  cases passed : (Authenticate around).pass before with
  | error answer => simp [passed] at last
  | ok handed =>
    simp only [passed,Option.some.injEq] at last
    subst last
    rw [authenticate_identity (congrArg Prod.snd kept) passed]
    exact resolved_header (congrArg Prod.fst kept)

-- Only Logging writes records.
theorem behindLogging_unlogged (call : Call) :
    (stack (behindLogging around outside) (fun call => (handler call).unlogged) call).records = [] := by
  refine stack_keeps (fun served : Serving => served.records = []) ?_ ?_ (fun _ _ => rfl)
  · intro layer member r answer refused
    simp only [behindLogging,List.mem_cons,List.not_mem_nil,or_false] at member
    rcases member with rfl | rfl | rfl | rfl
    · exact outside.RealIP.unlogged r answer refused
    · exact outside.Recoverer.unlogged r answer refused
    · exact outside.cors.unlogged r answer refused
    · simp only [Authenticate] at refused
      split at refused <;> cases refused
      rfl
  · intro layer member r served none
    simp only [behindLogging,List.mem_cons,List.not_mem_nil,or_false] at member
    rcases member with rfl | rfl | rfl | rfl
    · exact (outside.RealIP.keeps r served).trans none
    · exact (outside.Recoverer.keeps r served).trans none
    · exact (outside.cors.keeps r served).trans none
    · exact none

theorem recovered_returned (ending : Ending) : ending.recovered = .returned ↔ ending ≠ .aborted := by
  cases ending <;> simp [Ending.recovered]

-- A panic is recovered on the way out; what the handler aborts stays aborted.
theorem behindLogging_ending (arrives : reached (behindLogging around outside) call = some handed) :
    (stack (behindLogging around outside) (fun call => (handler call).unlogged) call).ending =
      (handler handed).ending.recovered := by
  have finishes : List.Forall₂ (fun (layer : Layer Call Serving) after => ∀ r b, (layer.finish r b).ending = after b.ending)
      (behindLogging around outside) [id,Ending.recovered,id,id] :=
    .cons outside.RealIP.ending (.cons outside.Recoverer.ending (.cons outside.cors.ending (.cons (fun _ _ => rfl) .nil)))
  exact stack_view (fun served : Serving => served.ending) finishes arrives

-- Logging's own request: the context above Authenticate.
def logged (around : Surroundings) (request : HttpRequest) : Call :=
  ⟨request,{Context.background with requestID := some (requestID around request)}⟩

theorem ServeHTTP_records : (ServeHTTP around outside handler request).records =
    let inner := stack (behindLogging around outside) (fun call => (handler call).unlogged) (logged around request)
    if inner.ending = .returned then [requestRecord around (logged around request) inner.calls] else [] := by
  have none : (stack (behindLogging around outside) (fun call => (handler call).unlogged) (logged around request)).records = [] :=
    behindLogging_unlogged _
  have layers : ServeHTTP around outside handler request = (RequestID around).finish (.received request)
      ((Logging around).finish (logged around request)
        (stack (behindLogging around outside) (fun call => (handler call).unlogged) (logged around request))) := rfl
  rw [layers]
  simp only [RequestID,Logging]
  split
  · rw [none,List.nil_append]
  · exact none

theorem requestRecord_carries (calls : List WriterCall) :
    CarriesIdentity who (requestRecord around (logged around request) calls) ↔ who = none := by
  constructor
  · intro carries
    cases who with
    | none => rfl
    | some info =>
      have present := (carries.isAdmin (.bool info.isAdmin)).mpr ⟨info,rfl,rfl⟩
      simp [requestRecord,logged,Context.background,GetAuthInfo,identityAttrs] at present
  · rintro rfl
    constructor <;> intro value <;> simp [requestRecord,logged,Context.background,GetAuthInfo,identityAttrs]

theorem delivered_behind : delivered around outside request =
    reached (behindLogging around outside) (logged around request) := rfl

-- Logging asks its own request for the caller, and the layers below tell theirs.
theorem logs_identity_iff (around : Surroundings) (outside : Outside) (handler : Call → Behaviour) (request : HttpRequest) :
    LogsIdentity around outside handler request ↔
      ¬ Credential around request ∨ ∀ call ∈ delivered around outside request, (handler call).ending = .aborted := by
  constructor
  · intro logs
    by_cases known : Credential around request
    · refine .inr fun call arrives => ?_
      by_contra finished
      have ending : (stack (behindLogging around outside) (fun call => (handler call).unlogged) (logged around request)).ending =
          (handler call).ending.recovered := behindLogging_ending (delivered_behind.symm.trans arrives)
      rw [(recovered_returned _).mpr finished] at ending
      have recorded := logs.recorded
      simp only [ServeHTTP_records,ending,if_true,List.mem_singleton,forall_eq] at recorded
      have nobody := (requestRecord_carries _).mp recorded
      rw [arrives,Option.bind_some,delivered_identity arrives] at nobody
      have someone := resolved_iff.mpr known
      simp [nobody] at someone
    · exact .inl known
  · intro silent
    refine ⟨fun call arrives => delivered_identity arrives,fun record written => ?_⟩
    rw [ServeHTTP_records] at written
    dsimp only at written
    split at written
    · rename_i ending
      rw [List.mem_singleton.mp written,requestRecord_carries]
      cases arrives : delivered around outside request with
      | none => rfl
      | some call =>
        rw [Option.bind_some,delivered_identity arrives]
        rcases silent with unknown | aborts
        · simpa using mt resolved_iff.mp unknown
        · rw [behindLogging_ending (delivered_behind.symm.trans arrives),aborts call arrives] at ending
          cases ending
    · cases written

end

-- No forwarding headers, no Origin, and a WriteHeader after a panic.
def Outside.sample : Outside where
  RealIP := ⟨⟨.ok,fun _ served => served⟩,fun _ _ same => by cases same; rfl,nofun,fun _ _ => rfl,fun _ _ => rfl⟩
  Recoverer := {
    pass := .ok
    finish _ served := if served.ending = .panicked
      then {served with calls := served.calls ++ [.writeHeader 500],ending := .returned} else served
    hands _ _ same := by cases same; rfl
    unlogged := nofun
    keeps _ served := by split <;> rfl
    ending _ served := by cases h : served.ending <;> simp [h,Ending.recovered] }
  cors := {
    pass call := if call.request.method = "OPTIONS" ∧ call.request.Get "Access-Control-Request-Method" ≠ ""
      then .error ⟨⟨[.writeHeader 200],.returned⟩,[]⟩ else .ok call
    finish _ served := {served with calls := .setHeader "Vary" "Origin" :: served.calls}
    hands _ _ same := by split at same <;> cases same; rfl
    unlogged _ _ same := by split at same <;> cases same; rfl
    keeps _ _ := rfl
    ending _ _ := rfl }

def listing (authorization : String) : HttpRequest :=
  ⟨"GET","/api/v1/messages","limit=20",[("Authorization",authorization)],"10.0.0.9:4711"⟩

def listed (_ : Call) : Behaviour := ⟨[.setHeader "Content-Type" "application/json",.writeHeader 200,.write 512],.returned⟩

theorem unnamed_fails (info : AuthInfo) (record : LogRecord)
    (known : (delivered around outside request).bind Call.identity = some info)
    (written : record ∈ (ServeHTTP around outside handler request).records)
    (missing : record.attrs.all (·.key ≠ "is_admin") = true) : ¬ LogsIdentity around outside handler request := by
  intro logs
  have present := ((logs.recorded record written).isAdmin (.bool info.isAdmin)).mpr ⟨info,known,rfl⟩
  have other := List.all_eq_true.mp missing _ present
  simp at other

def listingRecord : LogRecord := ⟨.info,"request",[⟨"method",.string "GET"⟩,⟨"path",.string "/api/v1/messages"⟩,
  ⟨"query",.string "limit=20"⟩,⟨"status",.int 200⟩,⟨"size",.int 512⟩,⟨"duration_ms",.thousandths 1500⟩,
  ⟨"request_id",.string "00000000-0000-0000-0000-000000000007"⟩]⟩

-- The admin and an agent get to the handler under their names, and the same record
-- is written of both.
theorem callers_unnamed : ¬ LogsIdentity .sample .sample listed (listing "Bearer rp_admin") ∧
    ¬ LogsIdentity .sample .sample listed (listing "Bearer tk_agent_ada") := by
  constructor
  · refine unnamed_fails ⟨true,0⟩ listingRecord ?_ ?_ ?_ <;> decide +kernel
  · refine unnamed_fails ⟨false,1⟩ listingRecord ?_ ?_ ?_ <;> decide +kernel

end Mux
end Trokk
