import Trokk.Api

-- runtime/orchestrator.py over runtime/signals.py and runtime/scheduler.py.
namespace Trokk
open Program

inductive PyError where
  | database
  | nameError (name : String)
  | attributeError (owner name : String)
  | httpStatus (status : Nat)
  | other (text : String)
  deriving DecidableEq

-- str(exc)
def PyError.text : PyError → String
  | .database => "database error"
  | .nameError name => "name '" ++ name ++ "' is not defined"
  | .attributeError owner name => "'" ++ owner ++ "' object has no attribute '" ++ name ++ "'"
  | .httpStatus status => "HTTP status " ++ toString status
  | .other text => text

structure AgentState where
  taskId : Option Uuid
  investigationId : Option Uuid
  taskType : String
  taskPrompt : String
  systemPrompt : String
  researchOutput : String
  findingId : Option Uuid
  error : String
  deriving DecidableEq

-- A specialist has no database of its own: it talks to the model and to the API's
-- POST /messages. The consensus agent talks to the model alone.
def Statement.publishes : Statement → Prop
  | .chat .. | .send | .receive | .agentByAPIKey _ | .insertMessage .. | .messageWithAgent _ => True
  | _ => False

def Statement.chats : Statement → Prop
  | .chat .. => True
  | _ => False

structure Specialist where
  run : (taskId investigationId : Uuid) → (taskPrompt : String) → Api (Except PyError AgentState)
  publishes : ∀ taskId investigationId taskPrompt, (run taskId investigationId taskPrompt).Only Statement.publishes

structure AgentClass where
  create : Except PyError Specialist

inductive SpecialistClass where
  | ResearchAgent | NewsAgent | RedditAgent | GitHubAgent | FinancialAgent | CryptoAgent | OsintAgent | FactCheckerAgent
  deriving DecidableEq

def AGENT_REGISTRY (cls : SpecialistClass → AgentClass) : List (String × AgentClass) :=
  [("research",cls .ResearchAgent),("news",cls .NewsAgent),("reddit",cls .RedditAgent),("github",cls .GitHubAgent),
   ("financial",cls .FinancialAgent),("crypto",cls .CryptoAgent),("osint",cls .OsintAgent),
   ("fact_check",cls .FactCheckerAgent)]

structure Runtime where
  registry : List (String × AgentClass)
  generateReport : Uuid → String → List Finding → Api (Except PyError Json)
  chats : ∀ id question findings, (generateReport id question findings).Only Statement.chats

-- self.agents
abbrev Agents := List (String × Specialist)
abbrev Py (A : Type) := Method Statement Statement.Result PgError Agents PyError A

def fetch (s : Statement) : Py s.Result := Method.lift do
  match ← query s with
  | .ok result => return .ok result
  | .error _ => return .error .database

def get_pending_task_row (agent_id : Uuid) (task_type : Option String) : Py (Option TaskRow) := fetch (.pendingTask agent_id task_type)

def findingResult (finding_id : Option Uuid) : Json :=
  .obj [("finding_id",match finding_id with
    | some id => .str (String.ofList id.text)
    | none => .null)]

def tryTask (agent : Specialist) (task : TaskRow) : Py Unit := do
  let result ← Method.lift (agent.run task.id task.investigationId task.taskPrompt)
  if result.error ≠ "" then fetch (.failTask task.id result.error)
  else fetch (.completeTask task.id (findingResult result.findingId))

def workTask (agent : Specialist) (task : TaskRow) : Py Unit :=
  Method.attempt (tryTask agent task) fun exc => fetch (.failTask task.id exc.text)

-- self.agents[agent_key], built on first use.
def agentFor (agent_key : String) (agent_cls : AgentClass) : Py Specialist := do
  let agents ← Method.attributes
  match agents.lookup agent_key with
  | some agent => return agent
  | none => match agent_cls.create with
    | .error raised => Method.raise raised
    | .ok agent => do
      Method.assign ((agent_key,agent) :: agents)
      return agent

-- One round of the loop over AGENT_REGISTRY.
def workType (agent_id : Uuid) (task_type : String) (agent_cls : AgentClass) : Py Unit := do
  match ← get_pending_task_row agent_id (some task_type) with
  | none => return ()
  | some task =>
    let agent ← agentFor (task_type ++ "-" ++ String.ofList agent_id.text) agent_cls
    workTask agent task

def handle_agent_tick (agent_id : Uuid) : List (String × AgentClass) → Py Unit
  | [] => pure ()
  | (task_type,agent_cls) :: rest => do
    workType agent_id task_type agent_cls
    handle_agent_tick agent_id rest

def countEach : List Uuid → Py Unit
  | [] => pure ()
  | inv_id :: rest => do
    let _ ← fetch (.countPendingTasks inv_id)
    countEach rest

def handle_investigation_start : Py Unit := do
  let inv_ids ← fetch .activeInvestigations
  countEach inv_ids

def publishReport (runtime : Runtime) (investigation_id : Uuid) (question : String) (findings : List Finding) : Py Unit := do
  let report ← Method.lift (runtime.generateReport investigation_id question findings)
  fetch (.setInvestigationReport investigation_id report)
  fetch (.setInvestigationStatus investigation_id .complete)

def run_consensus (runtime : Runtime) (investigation_id : Uuid) : Py Unit := do
  let question ← fetch (.investigationQuestion investigation_id)
  let findings ← fetch (.investigationFindings investigation_id)
  if findings = [] then pure ()
  else Method.attempt (publishReport runtime investigation_id question findings) fun _ => pure ()

def consensusOf (runtime : Runtime) (inv_id : Uuid) : Py Unit := do
  let pending ← fetch (.countPendingTasks inv_id)
  if pending = 0 then run_consensus runtime inv_id else pure ()

def consensusEach (runtime : Runtime) : List Uuid → Py Unit
  | [] => pure ()
  | inv_id :: rest => do
    consensusOf runtime inv_id
    consensusEach runtime rest

def handle_consensus_check (runtime : Runtime) : Py Unit := do
  let inv_ids ← fetch .activeInvestigations
  consensusEach runtime inv_ids

def handleSignal (runtime : Runtime) (signal : SignalRow) : Py Unit :=
  if signal.signalType = "force_tick" then
    match signal.agentId with
    | some agent_id => handle_agent_tick agent_id runtime.registry
    | none => pure ()
  else if signal.signalType = "start_investigation" then handle_investigation_start
  else if signal.signalType = "trigger_consensus" then handle_consensus_check runtime
  else pure ()

def processEach (runtime : Runtime) : List SignalRow → Py Unit
  | [] => pure ()
  | signal :: rest => do
    fetch (.processing signal)
    handleSignal runtime signal
    fetch (.markProcessed signal.id)
    processEach runtime rest

def tick (runtime : Runtime) : Py Unit := do
  let signals ← fetch .poll
  processEach runtime signals

end Trokk
