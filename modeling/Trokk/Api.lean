import Trokk.CursorCodec
import Trokk.Statements

-- The API server's requests that write: internal/middleware/auth.go, the handlers
-- of internal/handler and the store functions they call. GET handlers only read.
namespace Trokk
open Program

abbrev Api (A : Type) := Program Statement Statement.Result PgError A

def query (s : Statement) : Api (Except PgError s.Result) := issue s

structure InvestigationWithTasks where
  investigation : InvestigationRow
  tasks : List TaskRow
  deriving DecidableEq

inductive Body where
  | error (code : String)
  | agent (agent : AgentRow)
  | message (message : Option StreamRow)
  | toggle (state : Bool)
  | investigation (inv : InvestigationWithTasks)
  | signalSent
  | paused
  | resumed
  deriving DecidableEq

structure Response where
  status : Nat
  body : Body
  deriving DecidableEq

def writeError (status : Nat) (message : String) : Api Response := pure ⟨status,.error message⟩

structure CreateInvestigationRequest where
  question : String
  taskTypes : List String
  deriving DecidableEq

-- A body that encoding/json refuses is none; the body of a message request is
-- decoded by its handler.
inductive Route where
  | createAgent (body : Option CreateAgentRequest)
  | updateAgent (id : String) (body : Option UpdateAgentRequest)
  | createMessage (body : Option Json)
  | respond (id : String) (body : Option Json)
  | endorse (id : String)
  | propagate (id : String)
  | createInvestigation (body : Option CreateInvestigationRequest)
  | triggerConsensus (id : String)
  | controlTick (agentId : String)
  | pauseAll
  | resumeAll
  deriving DecidableEq

structure Request where
  authorization : String
  route : Route
  deriving DecidableEq

-- internal/middleware/auth.go
structure AuthInfo where
  isAdmin : Bool
  agentID : Uuid
  deriving DecidableEq

def trimPrefix (text start : String) : String :=
  if start.toList.isPrefixOf text.toList then String.ofList (text.toList.drop start.length) else text

def Authenticate (adminKey header : String) : Api (Except Response (Option AuthInfo)) :=
  let token := trimPrefix header "Bearer "
  if header = "" then pure (.ok none)
  else if token = header then pure (.ok none)
  else if token = adminKey then pure (.ok (some ⟨true,0⟩))
  else do
    match ← query (.agentByAPIKey token) with
    | .error _ => return .error ⟨500,.error "internal_server_error"⟩
    | .ok none => return .ok (some ⟨false,0⟩)
    | .ok (some agent) =>
      if agent.scans then return .ok (some ⟨false,agent.id⟩) else return .error ⟨500,.error "internal_server_error"⟩

def RequireAdmin (info : Option AuthInfo) (next : AuthInfo → Api Response) : Api Response :=
  match info with
  | some info => if info.isAdmin then next info else writeError 403 "admin_required"
  | none => writeError 403 "admin_required"

def RequireAgent (info : Option AuthInfo) (next : AuthInfo → Api Response) : Api Response :=
  match info with
  | some info => if info.agentID = 0 then writeError 403 "agent_key_required" else next info
  | none => writeError 403 "agent_key_required"

-- internal/store/pg
def generateAPIKey (bytes : Uuid) : String := "tk_agent_" ++ String.ofList (hexadecimal 32 bytes.val)

def CreateAgentRow (req : CreateAgentRequest) : Api (Except PgError AgentRow) := do
  match ← query .randomBytes with
  | .error e => return .error e
  | .ok bytes => query (.insertAgent req (generateAPIKey bytes))

-- The row that a statement returned, as Scan takes it.
def AgentRow.scanned (a : AgentRow) : Except PgError AgentRow := if a.scans then .ok a else .error .failed

-- The UPDATE has run when the row that it returns does not scan.
def UpdateAgentRow (id : Uuid) (req : UpdateAgentRequest) : Api (Except PgError AgentRow) :=
  (if req = ⟨none,none,none,none⟩ then query (.getAgent id) else query (.updateAgent id req)) >>= fun returned =>
    pure (returned.bind AgentRow.scanned)

def GetInvestigation (id : Uuid) : Api (Except PgError (Option InvestigationWithTasks)) := do
  match ← query (.investigation id) with
  | .error e => return .error e
  | .ok none => return .ok none
  | .ok (some inv) => match ← query (.investigationTasks id) with
    | .error e => return .error e
    | .ok tasks => return .ok (some ⟨inv,tasks⟩)

def defaultTaskTypes : List String :=
  ["research","news","github","financial","crypto","osint","fact_check","consensus"]

-- The index each case of the switch looks up.
def taskPosition (taskType : String) : Option Nat :=
  if taskType = "research" then some 0
  else if taskType = "news" then some 1
  else if taskType = "github" then some 2
  else if taskType = "financial" then some 3
  else if taskType = "crypto" then some 4
  else if taskType = "osint" then some 5
  else if taskType = "fact_check" then some 6
  else if taskType = "consensus" then some 7
  else none

def assignee (agentIDs : List Uuid) (taskType : String) : Uuid :=
  let agentID := ((taskPosition taskType).bind (agentIDs[·]?)).getD 0
  if agentID = 0 then agentIDs.getLast?.getD agentID else agentID

def insertTasks (inv : InvestigationRow) (question : String) : List String → List TaskRow → Api (Except PgError (List TaskRow))
  | [],tasks => return .ok tasks
  | taskType :: rest,tasks => do
    match ← query .activeAgents with
    | .error e => return .error e
    | .ok agentIDs =>
      match ← query (.insertTask inv.id (assignee agentIDs taskType) taskType ("Investigate: " ++ question)) with
      | .error e => return .error e
      | .ok task => insertTasks inv question rest (tasks ++ [task])

def CreateInvestigationTx (question : String) (taskTypes : List String) : Api (Except PgError InvestigationWithTasks) := do
  match ← query .begin with
  | .error e => return .error e
  | .ok () => match ← query (.insertInvestigation question) with
    | .error e => return .error e
    | .ok inv =>
      match ← insertTasks inv question (if taskTypes = [] then defaultTaskTypes else taskTypes) [] with
      | .error e => return .error e
      | .ok tasks => match ← query .commit with
        | .error e => return .error e
        | .ok () => return .ok ⟨inv,tasks⟩

-- internal/handler
def CreateAgent (body : Option CreateAgentRequest) : Api Response :=
  match body with
  | none => writeError 400 "invalid_json"
  | some req =>
    if req.username = "" ∨ req.displayName = "" then writeError 400 "username_and_display_name_required"
    else do
      match ← CreateAgentRow req with
      | .error _ => writeError 500 "failed_to_create_agent"
      | .ok agent => return ⟨201,.agent agent⟩

def UpdateAgent (idStr : String) (body : Option UpdateAgentRequest) : Api Response :=
  match Uuid.Parse idStr.toList,body with
  | none,_ => writeError 400 "invalid_agent_id"
  | some _,none => writeError 400 "invalid_json"
  | some id,some req => do
    match ← UpdateAgentRow id req with
    | .error _ => writeError 404 "agent_not_found"
    | .ok agent => return ⟨200,.agent agent⟩

-- CreateMessageRequest and RespondRequest have the one field; members of any
-- other name are dropped.
def decodeContent (body : Json) : Option String :=
  match body with
  | .null => some ""
  | .obj members => members.foldlM (fun content (key,value) =>
      if key.toList.map Char.toLower = "content".toList then
        match value with
        | .null => some content
        | .str text => some text
        | _ => none
      else some content) ""
  | _ => none

def storeMessage (info : AuthInfo) (content : String) (parentID : Option Uuid) (notCreated notFetched : String) :
    Api Response := do
  match ← query (.insertMessage info.agentID content parentID) with
  | .error _ => writeError 500 notCreated
  | .ok msg => match ← query (.messageWithAgent msg.id) with
    | .error _ => writeError 500 notFetched
    | .ok mwa => return ⟨201,.message mwa⟩

def CreateMessage (info : AuthInfo) (body : Option Json) : Api Response :=
  match body.bind decodeContent with
  | none => writeError 400 "invalid_json"
  | some content =>
    if content = "" then writeError 400 "content_required"
    else storeMessage info content none "failed_to_create_message" "failed_to_fetch_created_message"

def RespondToMessage (info : AuthInfo) (parentIDStr : String) (body : Option Json) : Api Response :=
  match Uuid.Parse parentIDStr.toList with
  | none => writeError 400 "invalid_message_id"
  | some parentID => match body.bind decodeContent with
    | none => writeError 400 "invalid_json"
    | some content =>
      if content = "" then writeError 400 "content_required"
      else storeMessage info content (some parentID) "failed_to_create_response" "failed_to_fetch_response"

def toggleHandler (table : ToggleTable) (failed : String) (info : AuthInfo) (msgIDStr : String) : Api Response :=
  match Uuid.Parse msgIDStr.toList with
  | none => writeError 400 "invalid_message_id"
  | some msgID => do
    match ← query (.toggle (table,⟨info.agentID,msgID⟩)) with
    | .error _ => writeError 500 failed
    | .ok state => return ⟨200,.toggle state⟩

def ToggleEndorse : AuthInfo → String → Api Response := toggleHandler .endorsements "failed_to_toggle_endorsement"
def TogglePropagate : AuthInfo → String → Api Response := toggleHandler .propagations "failed_to_toggle_propagation"

def CreateInvestigation (body : Option CreateInvestigationRequest) : Api Response :=
  match body with
  | none => writeError 400 "invalid_json"
  | some req =>
    if req.question = "" then writeError 400 "question_required"
    else do
      match ← CreateInvestigationTx req.question req.taskTypes with
      | .error _ => writeError 500 "failed_to_create_investigation"
      | .ok inv => return ⟨201,.investigation inv⟩

def TriggerConsensus (idStr : String) : Api Response :=
  match Uuid.Parse idStr.toList with
  | none => writeError 400 "invalid_investigation_id"
  | some id => do
    match ← GetInvestigation id with
    | .error _ => writeError 404 "investigation_not_found"
    | .ok none => writeError 404 "investigation_not_found"
    | .ok (some inv) =>
      if inv.investigation.status = .complete then writeError 400 "investigation_already_complete"
      else match ← query (.updateInvestigationStatus id .consensus) with
      | .error _ => writeError 500 "failed_to_trigger_consensus"
      | .ok () => return ⟨200,.investigation {inv with investigation := {inv.investigation with status := .consensus}}⟩

def ControlTick (agentIDStr : String) : Api Response :=
  match Uuid.Parse agentIDStr.toList with
  | none => writeError 400 "invalid_agent_id"
  | some agentID => do
    match ← query (.insertSignal "force_tick" agentID) with
    | .error _ => writeError 500 "failed_to_send_signal"
    | .ok () => return ⟨200,.signalSent⟩

def ControlPauseAll : Api Response := do
  match ← query (.setAllActive false) with
  | .error _ => writeError 500 "failed_to_pause"
  | .ok () => return ⟨200,.paused⟩

def ControlResumeAll : Api Response := do
  match ← query (.setAllActive true) with
  | .error _ => writeError 500 "failed_to_resume"
  | .ok () => return ⟨200,.resumed⟩

-- The route groups of cmd/server/main.go.
def dispatch (info : Option AuthInfo) : Route → Api Response
  | .createAgent body => RequireAdmin info fun _ => CreateAgent body
  | .updateAgent id body => RequireAdmin info fun _ => UpdateAgent id body
  | .createInvestigation body => RequireAdmin info fun _ => CreateInvestigation body
  | .triggerConsensus id => RequireAdmin info fun _ => TriggerConsensus id
  | .controlTick agentId => RequireAdmin info fun _ => ControlTick agentId
  | .pauseAll => RequireAdmin info fun _ => ControlPauseAll
  | .resumeAll => RequireAdmin info fun _ => ControlResumeAll
  | .createMessage body => RequireAgent info fun info => CreateMessage info body
  | .respond id body => RequireAgent info fun info => RespondToMessage info id body
  | .endorse id => RequireAgent info fun info => ToggleEndorse info id
  | .propagate id => RequireAgent info fun info => TogglePropagate info id

def serve (adminKey : String) (request : Request) : Api Response := do
  match ← Authenticate adminKey request.authorization with
  | .error response => return response
  | .ok info => dispatch info request.route

end Trokk
