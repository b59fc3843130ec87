import Trokk.Library.Python
import Trokk.Specialists
import Trokk.TaskDrain

-- runtime/agents/consensus.py under _run_consensus. The openrouter module, which is
-- not here, provides a client whose chat returns the reply's text.
namespace Trokk
open Program

structure ConsensusReport where
  investigationId : Uuid
  question : String
  executiveSummary : Json
  keyFindings : Json := .arr []
  contradictions : Json := .arr []
  confidenceScore : Json := .num "0.0"
  openQuestions : Json := .arr []
  recommendations : Json := .arr []

def ConsensusReport.to_dict (report : ConsensusReport) : Json := .obj
  [("investigation_id",.str (String.ofList report.investigationId.text)),
   ("question",.str report.question),
   ("executive_summary",report.executiveSummary),
   ("key_findings",report.keyFindings),
   ("contradictions",report.contradictions),
   ("confidence_score",report.confidenceScore),
   ("open_questions",report.openQuestions),
   ("recommendations",report.recommendations)]

-- The fields of the dataclass in config.py.
def configFields : List String :=
  ["database_url","admin_api_key","api_base_url","llm_url","llm_api_key","poll_interval_seconds","config_dir"]

def Config.attribute (_ : Config) (name : String) : Except PyError Unit :=
  if name ∈ configFields then .ok () else .error (.attributeError "Config" name)

-- An object of the class, with the attributes that it has, in an interpreter that lets
-- json.loads open as many brackets inside each other as `nesting` says.
structure ConsensusAgent where
  cfg : Config
  attributes : List String
  nesting : Nat

-- What the statements of __init__ assign, in order.
def ConsensusAgent.assigned : List String := ["cfg","mesh"]

def ConsensusAgent.init (cfg : Config) (nesting : Nat) : Except PyError ConsensusAgent := do
  cfg.attribute "openrouter_url"
  cfg.attribute "openrouter_api_key"
  return ⟨cfg,assigned,nesting⟩

def ConsensusAgent.attribute (self : ConsensusAgent) (name : String) : Except PyError Unit :=
  if name ∈ self.attributes then .ok () else .error (.attributeError "ConsensusAgent" name)

-- The constructor of Orchestrator builds the agent, so no orchestrator starts.
theorem consensus_init_raises (cfg : Config) (nesting : Nat) :
    ConsensusAgent.init cfg nesting = .error (.attributeError "Config" "openrouter_url") := rfl

def findingText (f : Finding) : String :=
  "Agent: " ++ f.username ++ " (" ++ f.displayName ++ ")\n" ++
  "Content: " ++ f.content ++ "\n" ++
  "Endorsements: " ++ toString f.endorsements

def consensusPrompt (question : String) (findings : List Finding) : String :=
  "You are the consensus agent in the Trokk intelligence operating system. " ++
  "Your role is to synthesize all findings from specialist agents into a single " ++
  "comprehensive report. Be objective, highlight contradictions, and assign a " ++
  "confidence score (0.0 to 1.0) based on source quality and cross-verification.\n\n" ++
  "## Investigation Question\n" ++ question ++ "\n\n" ++
  "## Agent Findings\n" ++ String.intercalate "\n\n---\n\n" (findings.map findingText) ++ "\n\n" ++
  "Produce a JSON report with these fields:\n" ++
  "- executive_summary: string\n" ++
  "- key_findings: array of \x7bfinding, agent, verified, confidence\x7d\n" ++
  "- contradictions: array of \x7bclaim_a, claim_b, resolution\x7d\n" ++
  "- confidence_score: float 0-1\n" ++
  "- open_questions: array of strings\n" ++
  "- recommendations: array of strings\n\n" ++
  "Respond with ONLY valid JSON. No markdown, no code fences."

def consensusMessages (question : String) (findings : List Finding) : List (String × String) :=
  [("system","You are a consensus synthesis engine. Output valid JSON only."),
   ("user",consensusPrompt question findings)]

def fence : List Char := "```".toList

def extract_json (text : List Char) : List Char :=
  Python.strip (Python.dropEnd fence (Python.dropStart fence (Python.dropStart (fence ++ "json".toList) (Python.strip text))))

def raised : Python.Failure → PyError
  | .decode => .other "JSONDecodeError"
  | .digits => .other "Exceeds the limit (4300 digits) for integer string conversion"
  | .recursion => .other "maximum recursion depth exceeded"

-- Only a JSONDecodeError of the bare reply leads to the second reading.
def replyData (nesting : Nat) (content : String) : Except PyError Json :=
  match Python.loads nesting (Python.strip content.toList) with
  | .ok data => .ok data
  | .error .decode => (Python.loads nesting (extract_json content.toList)).mapError raised
  | .error failure => .error (raised failure)

def member (members : List (String × Json)) (key : String) (default : Json) : Json := (members.lookup key).getD default

def reportOn (investigationId : Uuid) (question : String) (members : List (String × Json)) : ConsensusReport :=
  ⟨investigationId,question,member members "executive_summary" (.str ""),member members "key_findings" (.arr []),
   member members "contradictions" (.arr []),member members "confidence_score" (.num "0.5"),
   member members "open_questions" (.arr []),member members "recommendations" (.arr [])⟩

-- data.get of what is no dict.
def reportOf (investigationId : Uuid) (question : String) : Json → Except PyError ConsensusReport
  | .obj members => .ok (reportOn investigationId question members)
  | data => .error (.attributeError (Python.typeName data) "get")

-- resp = self.llm.chat(..)
def ConsensusAgent.generate_report (self : ConsensusAgent) (investigationId : Uuid) (question : String)
    (findings : List Finding) : Api (Except PyError ConsensusReport) :=
  match self.attribute "llm" with
  | .error exc => return .error exc
  | .ok () => do
    match ← query (.chat "llama3.2:3b" (consensusMessages question findings)) with
    | .error _ => return .error (.other "request failed")
    | .ok content => return (replyData self.nesting content >>= reportOf investigationId question)

theorem generate_report_chats (self : ConsensusAgent) (investigationId : Uuid) (question : String) (findings : List Finding) :
    (self.generate_report investigationId question findings).Only Statement.chats := by
  unfold ConsensusAgent.generate_report
  split
  · trivial
  · exact only_then trivial (fun _ => trivial) fun _ => trivial

-- report.to_dict() of what generate_report returns.
def ConsensusAgent.runtime (self : ConsensusAgent) (registry : List (String × AgentClass)) : Runtime where
  registry := registry
  generateReport := fun id question findings => self.generate_report id question findings >>= fun report =>
    .done (report.map ConsensusReport.to_dict)
  chats := fun id question findings => Only.bind (generate_report_chats self id question findings) fun _ => trivial

-- Status complete with that report.
def Concluded (db : Database) (inv : Uuid) (report : ConsensusReport) : Prop :=
  ∃ i, db.investigationRow inv = some i ∧ i.status = .complete ∧ i.report = some report.to_dict

def Database.questionOf (db : Database) (inv : Uuid) : String := ((db.investigationRow inv).map InvestigationRow.question).getD ""

section
variable {self : ConsensusAgent} {db : Database} {l : Session} {inv : Uuid} {may : Choice → Prop}

theorem question_returns (db : Database) (inv : Uuid) (l : Session) :
    (fetch (.investigationQuestion inv)).Returns exec Healthy
      (fun question agents' db' l' => question = db.questionOf inv ∧ agents' = agents ∧ db' = db ∧ l' = l) agents db l := by
  apply fetch_returns (.investigationQuestion inv)
  · intro c question db' l' done
    cases done
    exact ⟨rfl,rfl,rfl,rfl⟩
  · exact fun c e => nofun

theorem findings_returns (db : Database) (inv : Uuid) (l : Session) :
    (fetch (.investigationFindings inv)).Returns exec Healthy
      (fun found agents' db' l' => found = findings db inv ∧ agents' = agents ∧ db' = db ∧ l' = l) agents db l := by
  apply fetch_returns (.investigationFindings inv)
  · intro c found db' l' done
    cases done
    exact ⟨rfl,rfl,rfl,rfl⟩
  · exact fun c e => nofun

-- What follows the two reads, of a run that finds something.
theorem run_consensus_ensures {runtime : Runtime} {post : Except PyError Unit → Agents → Database → Session → Prop}
    (healthy : ∀ c, may c → Healthy c) (found : findings db inv ≠ [])
    (publishes : (Method.attempt (publishReport runtime inv (db.questionOf inv) (findings db inv)) fun _ => pure ()).Ensures
      exec may post agents db l) : (run_consensus runtime inv).Ensures exec may post agents db l := by
  apply Method.Returns.bind ((question_returns db inv l).narrow healthy)
  intro question agents' db' l' read
  obtain ⟨rfl,rfl,rfl,rfl⟩ := read
  apply Method.Returns.bind ((findings_returns db' inv l').narrow healthy)
  intro listed agents'' db'' l'' read
  obtain ⟨rfl,rfl,rfl,rfl⟩ := read
  rw [if_neg found]
  exact publishes

theorem lacking_raises (lacks : "llm" ∉ self.attributes) (question : String) (found : List Finding) :
    (self.runtime registry).generateReport inv question found = .done (.error (.attributeError "ConsensusAgent" "llm")) := by
  have none' : self.generate_report inv question found = .done (.error (.attributeError "ConsensusAgent" "llm")) := by
    simp only [ConsensusAgent.generate_report,ConsensusAgent.attribute,if_neg lacks]
    rfl
  simp only [ConsensusAgent.runtime,none']
  rfl

theorem run_consensus_lacking (lacks : "llm" ∉ self.attributes) (found : findings db inv ≠ []) :
    (run_consensus (self.runtime registry) inv).Returns exec Healthy (fun _ _ db' _ => db' = db) agents db l := by
  apply run_consensus_ensures (fun _ healthy => healthy) found
  rw [publishReport,lacking_raises lacks]
  exact ⟨(),rfl,rfl⟩

-- Every statement succeeds and the model gives one reply.
def Replies (content : String) (c : Choice) : Prop := Healthy c ∧ c.reply = content

theorem generate_report_answers (has : "llm" ∈ self.attributes) (read : replyData self.nesting content = .ok (.obj members))
    (question : String) (found : List Finding) : (self.generate_report inv question found).Ensures exec (Replies content)
      (fun result db' l' => result = .ok (reportOn inv question members) ∧ db' = db ∧ l' = l) db l := by
  have asks : self.attribute "llm" = .ok () := by rw [ConsensusAgent.attribute,if_pos has]
  simp only [ConsensusAgent.generate_report,asks]
  intro c replies
  rw [exec_healthy replies.1]
  simp only [perform,replies.2]
  refine ⟨?_,rfl,rfl⟩
  rw [read]
  rfl

theorem generate_report_replies (has : "llm" ∈ self.attributes) (read : replyData self.nesting content = .ok (.obj members))
    (question : String) (found : List Finding) : ((self.runtime registry).generateReport inv question found).Ensures exec
      (Replies content) (fun result db' l' => result = .ok (reportOn inv question members).to_dict ∧ db' = db ∧ l' = l) db l := by
  apply Program.Ensures.bind
  apply (generate_report_answers has read question found).imp
  rintro _ _ _ ⟨rfl,rfl,rfl⟩
  exact ⟨rfl,rfl,rfl⟩

theorem edited_own {edit : InvestigationRow → InvestigationRow} (found : db.investigationRow inv = some i)
    (keeps : ∀ i, (edit i).id = i.id) : (db.editInvestigation inv edit).investigationRow inv = some (edit i) := by
  rw [investigationRow_edit keeps,found,Option.map_some]

theorem setInvestigationReport_returns (storable : storableJson report = true) :
    (fetch (.setInvestigationReport inv report)).Returns exec Healthy (fun _ _ db' _ =>
      db' = db.editInvestigation inv fun i => {i with report := some report}) agents db l := by
  apply fetch_returns (.setInvestigationReport inv report)
  · intro c r db' l' done
    simp only [perform,storable,if_true] at done
    cases done
    rfl
  · intro c e done
    simp only [perform,storable,if_true] at done
    cases done

theorem setInvestigationStatus_returns (status : InvestigationStatus) :
    (fetch (.setInvestigationStatus inv status)).Returns exec Healthy (fun _ _ db' _ =>
      db' = db.editInvestigation inv fun i => {i with status := status}) agents db l := by
  apply fetch_returns (.setInvestigationStatus inv status)
  · intro c r db' l' done
    cases done
    rfl
  · exact fun c e => nofun

theorem publishReport_publishes (has : "llm" ∈ self.attributes) (present : db.investigationRow inv = some i)
    (read : replyData self.nesting content = .ok (.obj members)) (question : String) (listed : List Finding)
    (storable : storableJson (reportOn inv question members).to_dict = true) :
    (publishReport (self.runtime registry) inv question listed).Returns exec (Replies content)
      (fun _ _ db' _ => Concluded db' inv (reportOn inv question members)) agents db l := by
  have replied : (Method.lift ((self.runtime registry).generateReport inv question listed) : Py Json).Returns exec (Replies content)
      (fun report agents' db' l' => report = (reportOn inv question members).to_dict ∧ agents' = agents ∧ db' = db ∧ l' = l)
      agents db l := by
    apply Method.Ensures.lift
    apply Program.Ensures.imp (generate_report_replies has read question listed)
    intro result db' l' holds
    exact ⟨_,holds.1,rfl,rfl,holds.2⟩
  apply Method.Returns.bind replied
  intro report agents' db' l' holds
  obtain ⟨rfl,rfl,rfl,rfl⟩ := holds
  apply Method.Returns.bind ((setInvestigationReport_returns storable).narrow fun _ replies => replies.1)
  intro _ agents' db' l' stored
  subst stored
  apply ((setInvestigationStatus_returns .complete).narrow fun _ replies => replies.1).imp
  intro _ _ db' _ completed
  subst completed
  exact ⟨_,edited_own (edited_own present fun _ => by rfl) fun _ => by rfl,rfl,rfl⟩

-- The way from the reply to the stored report works; only the attribute is missing.
theorem run_consensus_publishes (has : "llm" ∈ self.attributes) (found : findings db inv ≠ [])
    (present : db.investigationRow inv = some i) (read : replyData self.nesting content = .ok (.obj members))
    (storable : storableJson (reportOn inv (db.questionOf inv) members).to_dict = true) :
    (run_consensus (self.runtime registry) inv).Returns exec (Replies content)
      (fun _ _ db' _ => Concluded db' inv (reportOn inv (db.questionOf inv) members)) agents db l := by
  apply run_consensus_ensures (fun _ replies => replies.1) found
  apply Method.Ensures.attempt (publishReport_publishes has present read _ _ storable)
  · exact fun _ _ _ _ published => published
  · intro e _ _ _ failed
    obtain ⟨_,same,-⟩ := failed
    cases same

theorem consensus_published_iff (built : self.attributes ⊆ ConsensusAgent.assigned) (found : findings db inv ≠ [])
    (members : List (String × Json)) : (run_consensus (self.runtime registry) inv).Returns exec Healthy
      (fun _ _ db' _ => Concluded db' inv (reportOn inv (db.questionOf inv) members) ↔
        Concluded db inv (reportOn inv (db.questionOf inv) members)) agents db l := by
  have lacks : "llm" ∉ self.attributes := fun present => absurd (built present) (by decide)
  apply Method.Returns.imp (run_consensus_lacking lacks found)
  intro _ _ db' _ same
  rw [same]

end

-- An investigation in consensus whose one finding waits.
def Database.concluding : Database := {Database.staffed with
  messages := [⟨21,1,"why",none,30⟩,⟨22,1,"it rains",some 21,40⟩]
  investigations := [⟨21,"why",.consensus,none,30,none⟩]}

theorem Database.concluding_valid : Database.concluding.Valid := by
  constructor
  case parents => simp [Database.concluding]
  case signalAgents => simp [Database.concluding,Database.staffed]
  all_goals decide

def ConsensusAgent.sample : ConsensusAgent := ⟨⟨"rp_admin"⟩,ConsensusAgent.assigned,900⟩

theorem concluding_found : findings .concluding 21 ≠ [] := by decide

theorem consensus_published_iff_sample : (run_consensus (ConsensusAgent.sample.runtime []) 21).Returns exec Healthy
    (fun _ _ db' _ => Concluded db' 21 (reportOn 21 "why" []) ↔ Concluded .concluding 21 (reportOn 21 "why" []))
    [] .concluding .fresh := consensus_published_iff (List.Subset.refl _) concluding_found []

theorem finding_without_report : Database.concluding.Valid ∧ findings .concluding 21 ≠ [] ∧ replyData 900 "{}" = .ok (.obj []) ∧
    ¬ (run_consensus (ConsensusAgent.sample.runtime []) 21).Returns exec (Replies "{}")
      (fun _ _ db' _ => Concluded db' 21 (reportOn 21 "why" [])) [] .concluding .fresh := by
  refine ⟨Database.concluding_valid,concluding_found,rfl,?_⟩
  intro returns
  have lacks : "llm" ∉ ConsensusAgent.sample.attributes := by decide
  have kept : (run_consensus (ConsensusAgent.sample.runtime []) 21).Returns exec (Replies "{}")
      (fun _ _ db' _ => db' = .concluding) [] .concluding .fresh :=
    (run_consensus_lacking lacks concluding_found).narrow fun _ replies => replies.1
  have reply : Replies "{}" ⟨.answered,100,0,"{}"⟩ := ⟨rfl,rfl⟩
  obtain ⟨_,db,_,⟨_,_,concluded⟩,⟨_,_,same⟩⟩ := Program.Ensures.meet reply returns kept
  subst same
  obtain ⟨i,found,complete,-⟩ := concluded
  cases found
  cases complete

end Trokk
