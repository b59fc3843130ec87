import Trokk.System

-- runtime/agents: base.py and the eight classes of AGENT_REGISTRY, with the posts
-- that they make to the API. base.py is read without its stray last line.
namespace Trokk
open Program

-- runtime/config.py; the addresses are not modelled.
structure Config where
  adminApiKey : String

def SpecialistClass.pyName : SpecialistClass → String
  | .ResearchAgent => "ResearchAgent"
  | .NewsAgent => "NewsAgent"
  | .RedditAgent => "RedditAgent"
  | .GitHubAgent => "GitHubAgent"
  | .FinancialAgent => "FinancialAgent"
  | .CryptoAgent => "CryptoAgent"
  | .OsintAgent => "OsintAgent"
  | .FactCheckerAgent => "FactCheckerAgent"

def SpecialistClass.systemPrompt : SpecialistClass → String
  | .ResearchAgent =>
    "You are a research specialist agent in the Trokk intelligence operating system. " ++
    "Your role is to investigate questions using web search, official documentation, " ++
    "and primary sources. Always cite your sources. Provide structured, factual findings. " ++
    "Format output as markdown with clear sections: Summary, Key Findings, Sources, Confidence."
  | .NewsAgent =>
    "You are a news analyst agent in the Trokk intelligence operating system. " ++
    "Your role is to gather and analyze news articles, press releases, and media coverage. " ++
    "Track sentiment, identify key narratives, and report on media framing. " ++
    "Format output with: Headlines, Sentiment Analysis, Key Narratives, Sources."
  | .RedditAgent =>
    "You are a community intelligence agent in the Trokk intelligence operating system. " ++
    "Your role is to analyze community discussions, sentiment, FAQs, and user perspectives. " ++
    "Report on prevailing opinions, controversies, and community consensus. " ++
    "Format output with: Community Sentiment, Top Discussions, Common Questions, Red Flags."
  | .GitHubAgent =>
    "You are a repository analyst agent in the Trokk intelligence operating system. " ++
    "Your role is to analyze GitHub repositories: commit patterns, contributor activity, " ++
    "issue velocity, code quality signals, and community health. " ++
    "Report on: Activity Level, Contributor Diversity, Issue Health, Code Quality Indicators, Release Cadence."
  | .FinancialAgent =>
    "You are a financial analyst agent in the Trokk intelligence operating system. " ++
    "Your role is to analyze company financials: revenue trends, funding history, " ++
    "valuation metrics, market position, and competitive landscape. " ++
    "Report with: Revenue Analysis, Funding History, Valuation, Market Position, Risk Factors."
  | .CryptoAgent =>
    "You are a cryptocurrency analyst agent in the Trokk intelligence operating system. " ++
    "Your role is to analyze crypto projects: tokenomics, on-chain metrics, " ++
    "liquidity depth, protocol security, and ecosystem health. " ++
    "Report with: Tokenomics, On-Chain Metrics, Liquidity Analysis, Protocol Security, Ecosystem Health."
  | .OsintAgent =>
    "You are an OSINT agent in the Trokk intelligence operating system. " ++
    "Your role is to investigate technical infrastructure: WHOIS records, " ++
    "DNS configurations, SSL certificates, domain history, and hosting information. " ++
    "Report with: Domain Analysis, DNS Records, SSL/TLS Status, Infrastructure Details, Security Findings."
  | .FactCheckerAgent =>
    "You are a fact-checker agent in the Trokk intelligence operating system. " ++
    "Your role is to verify claims made by other agents. For each finding you review, " ++
    "classify it as: VERIFIED, UNVERIFIED, or CONTRADICTED. " ++
    "Always explain your reasoning. Never make unsupported claims. " ++
    "If you cannot verify something, explicitly state that."

def SpecialistClass.heading : SpecialistClass → String
  | .ResearchAgent => "## Research Finding"
  | .NewsAgent => "## News Analysis"
  | .RedditAgent => "## Community Intelligence"
  | .GitHubAgent => "## Repository Analysis"
  | .FinancialAgent => "## Financial Analysis"
  | .CryptoAgent => "## Crypto Analysis"
  | .OsintAgent => "## OSINT Analysis"
  | .FactCheckerAgent => "## Fact Check"

-- All eight pass the same model.
def specialistModel : String := "llama3.2:3b"

structure BaseAgent where
  cls : SpecialistClass
  cfg : Config
  attributes : List String

-- What the imports and definitions of base.py bind.
def baseGlobals : List String :=
  ["annotations","json","uuid","dataclass","field","Any","httpx","StateGraph","PostgresSaver","Config",
   "OpenRouterClient","LLMMessage","AgentState","BaseAgent"]

def loadGlobal (name : String) : Except PyError Unit :=
  if name ∈ baseGlobals then .ok () else .error (.nameError name)

-- BaseAgent.__init__
def BaseAgent.init (cfg : Config) (cls : SpecialistClass) : Except PyError BaseAgent := do
  loadGlobal "LLMClient"
  loadGlobal "httpx"
  return ⟨cls,cfg,["cfg","name","model","system_prompt","llm","_http","graph"]⟩

def BaseAgent.attribute (self : BaseAgent) (name : String) : Except PyError Unit :=
  if name ∈ self.attributes then .ok () else .error (.attributeError self.cls.pyName name)

def BaseAgent.messages (self : BaseAgent) (state : AgentState) : List (String × String) :=
  [("system",self.cls.systemPrompt),
   ("user","Task: " ++ state.taskPrompt ++
      "\n\nInvestigation context: you are contributing findings to investigation " ++
      ((state.investigationId.map fun id => String.ofList id.text).getD "None") ++
      ". Provide detailed, well-sourced research output.")]

-- BaseAgent._research: resp = self.mesh.chat(..)
def BaseAgent.askModel (self : BaseAgent) (state : AgentState) : Api AgentState :=
  match (do loadGlobal "LLMMessage"; self.attribute "mesh") with
  | .error exc => return {state with error := exc.text}
  | .ok () => do
    match ← query (.chat specialistModel (self.messages state)) with
    | .error _ => return {state with error := (PyError.other "request failed").text}
    | .ok content => return {state with researchOutput := content}

-- _research of the subclasses
def BaseAgent.research (self : BaseAgent) (state : AgentState) : Api AgentState := do
  let state ← self.askModel state
  if state.error = "" ∧ state.researchOutput ≠ "" then
    return {state with researchOutput := self.cls.heading ++ "\n\n" ++ state.researchOutput}
  else return state

def publishBody (content : String) (investigationId : Option Uuid) : Json :=
  .obj (("content",.str content) :: (investigationId.map fun id => ("parent_msg_id",Json.str (String.ofList id.text))).toList)

-- The POST /api/v1/messages of BaseAgent._publish.
def publishRequest (cfg : Config) (content : String) (investigationId : Option Uuid) : Request :=
  ⟨"Bearer " ++ cfg.adminApiKey,.createMessage (some (publishBody content investigationId))⟩

-- The server works on the request between the sending and the receipt.
def post (adminKey : String) (request : Request) : Api (Except PyError Response) := do
  match ← query .send with
  | .error _ => return .error (.other "request failed")
  | .ok () =>
    let response ← serve adminKey request
    match ← query .receive with
    | .error _ => return .error (.other "request failed")
    | .ok () => return .ok response

def raise_for_status (response : Response) : Except PyError Response :=
  if 200 ≤ response.status ∧ response.status < 300 then .ok response else .error (.httpStatus response.status)

-- uuid.UUID(data["id"])
def receivedId (response : Response) : Except PyError Uuid :=
  match response.body with
  | .message (some m) => .ok m.message.id
  | _ => .error (.other "'NoneType' object is not subscriptable")

-- BaseAgent._publish
def BaseAgent.publish (adminKey : String) (self : BaseAgent) (state : AgentState) : Api AgentState :=
  if state.error ≠ "" then return state
  else do
    match (← post adminKey (publishRequest self.cfg state.researchOutput state.investigationId)) >>=
        raise_for_status >>= receivedId with
    | .error exc => return {state with error := "publish_failed: " ++ exc.text}
    | .ok id => return {state with findingId := some id}

-- The graph runs plan, research and publish; plan returns its state.
def BaseAgent.run (adminKey : String) (self : BaseAgent) (taskId investigationId : Uuid) (taskPrompt : String) :
    Api (Except PyError AgentState) := do
  let researched ← self.research
    ⟨some taskId,some investigationId,"",taskPrompt,self.cls.systemPrompt,"",none,""⟩
  let published ← self.publish adminKey researched
  return .ok published

theorem createMessage_publishes (adminKey header : String) (body : Option Json) :
    (serve adminKey ⟨header,.createMessage body⟩).Only Statement.publishes := by
  apply Only.bind (authenticate_only (fun _ => trivial) _ _)
  intro result
  cases result with
  | error response => trivial
  | ok info =>
    apply requireAgent_only
    exact fun info => createMessage_only (fun _ _ => trivial) (fun _ => trivial) body

theorem post_publishes (adminKey header : String) (body : Option Json) :
    (post adminKey ⟨header,.createMessage body⟩).Only Statement.publishes := by
  refine only_then trivial (fun _ => trivial) fun _ => ?_
  refine Only.bind (createMessage_publishes adminKey header body) fun response => ?_
  exact only_then trivial (fun _ => trivial) fun _ => trivial

theorem askModel_publishes (self : BaseAgent) (state : AgentState) : (self.askModel state).Only Statement.publishes := by
  unfold BaseAgent.askModel
  split
  · trivial
  · exact only_then trivial (fun _ => trivial) fun _ => trivial

theorem run_publishes (adminKey : String) (self : BaseAgent) (taskId investigationId : Uuid) (taskPrompt : String) :
    (self.run adminKey taskId investigationId taskPrompt).Only Statement.publishes := by
  refine Only.bind (Only.bind (askModel_publishes self _) fun state => ?_) fun state => Only.bind ?_ fun _ => trivial
  · split <;> trivial
  · unfold BaseAgent.publish
    split
    · trivial
    · refine Only.bind (post_publishes _ _ _) fun result => ?_
      split <;> trivial

def BaseAgent.specialist (adminKey : String) (self : BaseAgent) : Specialist := ⟨self.run adminKey,run_publishes adminKey self⟩

def SpecialistClass.agentClass (adminKey : String) (cfg : Config) (cls : SpecialistClass) : AgentClass :=
  ⟨(BaseAgent.init cfg cls).map (BaseAgent.specialist adminKey)⟩

end Trokk
