import Trokk.Orchestrator

-- API requests and orchestrator ticks in one pool, statement by statement.
namespace Trokk
open Program

inductive Worker where
  | request (n : Nat)
  | orchestrator (n : Nat)
  deriving DecidableEq

inductive Answer where
  | response (request : Request) (response : Response)
  | tick (raised : Option PyError)
  deriving DecidableEq

def serving (adminKey : String) (request : Request) : Api Answer :=
  serve adminKey request >>= fun response => .done (.response request response)

-- The loop of start() logs what a tick raises.
def ticking (runtime : Runtime) (agents : Agents) : Api Answer :=
  tick runtime agents >>= fun (result,_) => match result with
    | .ok () => .done (.tick none)
    | .error raised => .done (.tick (some raised))

inductive Starts (adminKey : String) (runtime : Runtime) : Worker → Api Answer → Prop where
  | request : Starts adminKey runtime (.request n) (serving adminKey req)
  | tick : Starts adminKey runtime (.orchestrator n) (ticking runtime agents)

abbrev System := Pool Statement Statement.Result PgError Answer Database Session Worker
abbrev SystemStep (adminKey : String) (runtime : Runtime) : System → Event Worker Answer → System → Prop :=
  Pool.Step exec (Starts adminKey runtime) Session.fresh
abbrev SystemRuns (adminKey : String) (runtime : Runtime) : System → System → Prop :=
  Pool.Runs exec (Starts adminKey runtime) Session.fresh

def Route.storesMessage : Route → Bool
  | .createMessage _ | .respond .. => true
  | _ => false

def Route.updatesAgent : Route → Bool
  | .updateAgent .. => true
  | _ => false

def Route.createsInvestigation : Route → Bool
  | .createInvestigation _ => true
  | _ => false

-- What the handler of a route may issue, and with which constants.
def Statement.requested (route : Route) : Statement → Prop
  | .insertSignal type _ => type = "force_tick"
  | .updateInvestigationStatus id status =>
    status = .consensus ∧ ∃ text, route = .triggerConsensus text ∧ Uuid.Parse text.toList = some id
  | .insertMessage .. | .messageWithAgent _ => route.storesMessage = true
  | .updateAgent .. => route.updatesAgent = true
  | .begin | .insertInvestigation _ | .insertTask .. | .commit => route.createsInvestigation = true
  | .agentByAPIKey _ | .insertAgent .. | .getAgent _ | .setAllActive _ | .toggle _ | .activeAgents
  | .investigation _ | .investigationTasks _ | .randomBytes => True
  | _ => False

-- What the handling of a signal of a type may issue.
def Statement.handles (type : String) : Statement → Prop
  | .setInvestigationStatus _ status => type = "trigger_consensus" ∧ status = .complete
  | .setInvestigationReport .. => type = "trigger_consensus"
  | .pendingTask .. | .completeTask .. | .failTask .. => type = "force_tick"
  | .agentByAPIKey _ | .insertMessage .. | .messageWithAgent _ | .activeInvestigations | .countPendingTasks _
  | .investigationQuestion _ | .investigationFindings _ | .send | .receive | .chat .. => True
  | _ => False

variable {P : Statement → Prop}

theorem only_imp {x : Api A} (only : x.Only P) (implies : ∀ s, P s → Q s) : x.Only Q := by
  induction x with
  | done a => trivial
  | call s next ih => exact ⟨implies s only.1,fun answer => ih answer (only.2 answer)⟩

-- One statement, then a continuation for its failure and one for its result.
theorem only_then {f : Except PgError s.Result → Api A} (allowed : P s) (failed : ∀ e, (f (.error e)).Only P)
    (answered : ∀ r, (f (.ok r)).Only P) : (query s >>= f).Only P := by
  refine ⟨allowed,fun answer => ?_⟩
  cases answer with
  | error e => exact failed e
  | ok r => exact answered r

theorem trimPrefix_append (start rest : String) : trimPrefix (start ++ rest) start = rest := by
  have starts : start.toList.isPrefixOf (start ++ rest).toList := by simp
  rw [trimPrefix,if_pos starts,String.toList_append,← String.length_toList,List.drop_left,String.ofList_toList]

theorem trimPrefix_other (other : ∀ rest, text ≠ start ++ rest) : trimPrefix text start = text := by
  rw [trimPrefix,if_neg]
  intro starts
  obtain ⟨rest,same⟩ := List.isPrefixOf_iff_prefix.mp starts
  refine other (String.ofList rest) (String.toList_inj.mp ?_)
  rw [String.toList_append,String.toList_ofList,same]

theorem bearer_longer (token text : String) (short : text.length ≤ token.length) : text ≠ "Bearer " ++ token := by
  intro same
  rw [same,String.length_append] at short
  have seven : "Bearer ".length = 7 := rfl
  omega

-- What a lookup of the key makes of the request.
def authInfo : Except PgError (Option AgentRow) → Except Response (Option AuthInfo)
  | .error _ => .error ⟨500,.error "internal_server_error"⟩
  | .ok none => .ok (some ⟨false,0⟩)
  | .ok (some agent) => if agent.scans then .ok (some ⟨false,agent.id⟩) else .error ⟨500,.error "internal_server_error"⟩

-- An id is that of the agent that was found.
theorem authInfo_some (told : authInfo (.ok (some agent)) = .ok (some info)) : info = ⟨false,agent.id⟩ := by
  rw [authInfo,ite_eq_iff] at told
  rcases told with ⟨-,same⟩ | ⟨-,same⟩ <;> cases same
  rfl

theorem authenticate_bearer (adminKey token : String) : Authenticate adminKey ("Bearer " ++ token) =
    if token = adminKey then .done (.ok (some ⟨true,0⟩)) else .call (.agentByAPIKey token) fun answer => .done (authInfo answer) := by
  unfold Authenticate
  rw [trimPrefix_append]
  dsimp only
  rw [if_neg (bearer_longer token "" (Nat.zero_le _)).symm,if_neg (bearer_longer token token (Nat.le_refl _))]
  split
  · rfl
  · refine congrArg (Program.call _) (funext fun answer => ?_)
    match answer with
    | .error _ => rfl
    | .ok none => rfl
    | .ok (some agent) => exact (apply_ite Program.done _ _ _).symm

theorem authenticate_other (adminKey : String) (other : ∀ token, header ≠ "Bearer " ++ token) :
    Authenticate adminKey header = .done (.ok none) := by
  unfold Authenticate
  rw [trimPrefix_other other]
  dsimp only
  split
  · rfl
  · rw [if_pos rfl]
    rfl

theorem authenticate_only (allowed : ∀ key, P (.agentByAPIKey key)) (adminKey header : String) :
    (Authenticate adminKey header).Only P := by
  unfold Authenticate
  dsimp only
  split
  · trivial
  · split
    · trivial
    · split
      · trivial
      · refine only_then (allowed _) (fun _ => trivial) fun agent => ?_
        cases agent with
        | none => trivial
        | some agent => dsimp only; split <;> trivial

theorem authenticate_refuses (adminKey header : String) :
    (Authenticate adminKey header).Yields fun result => ∀ response, result = .error response → response.status = 500 := by
  unfold Authenticate
  dsimp only
  split
  · exact fun _ => nofun
  · split
    · exact fun _ => nofun
    · split
      · exact fun _ => nofun
      · intro answer
        cases answer with
        | error e => exact fun _ same => by cases same; rfl
        | ok agent => cases agent with
          | none => exact fun _ => nofun
          | some agent =>
            change Yields _ (if agent.scans then _ else _)
            split
            · exact fun _ => nofun
            · exact fun _ same => by cases same; rfl

theorem requireAdmin_only {next : AuthInfo → Api Response} (only : ∀ info, (next info).Only P) (info : Option AuthInfo) :
    (RequireAdmin info next).Only P := by
  cases info with
  | none => trivial
  | some info =>
    unfold RequireAdmin
    dsimp only
    split
    · exact only info
    · trivial

theorem requireAgent_only {next : AuthInfo → Api Response} (only : ∀ info, (next info).Only P) (info : Option AuthInfo) :
    (RequireAgent info next).Only P := by
  cases info with
  | none => trivial
  | some info =>
    unfold RequireAgent
    dsimp only
    split
    · trivial
    · exact only info

theorem getInvestigation_only (allowed : ∀ id, P (.investigation id) ∧ P (.investigationTasks id)) (target : Uuid) :
    (GetInvestigation target).Only P := by
  refine only_then (allowed target).1 (fun _ => trivial) fun inv => ?_
  cases inv with
  | none => trivial
  | some inv => exact only_then (allowed target).2 (fun _ => trivial) fun _ => trivial

theorem insertTasks_only (allowed : P .activeAgents) (inserts : ∀ inv agent type prompt, P (.insertTask inv agent type prompt))
    (inv : InvestigationRow) (question : String) (types : List String) (tasks : List TaskRow) :
    (insertTasks inv question types tasks).Only P := by
  induction types generalizing tasks with
  | nil => trivial
  | cons type rest ih =>
    refine only_then allowed (fun _ => trivial) fun agentIDs => ?_
    exact only_then (inserts _ _ _ _) (fun _ => trivial) fun task => ih _

theorem storeMessage_only (inserts : ∀ content parent, P (.insertMessage info.agentID content parent))
    (reads : ∀ id, P (.messageWithAgent id)) : (storeMessage info content parent notCreated notFetched).Only P :=
  only_then (inserts _ _) (fun _ => trivial) fun _ => only_then (reads _) (fun _ => trivial) fun _ => trivial

theorem createAgent_only (draws : P .randomBytes) (inserts : ∀ req key, P (.insertAgent req key))
    (body : Option CreateAgentRequest) : (CreateAgent body).Only P := by
  cases body with
  | none => trivial
  | some req =>
    unfold CreateAgent
    dsimp only
    split
    · trivial
    · apply Only.bind
      · exact only_then draws (fun _ => trivial) fun _ => Only.issue (inserts _ _)
      · intro result
        cases result <;> trivial

theorem updateAgent_only (reads : ∀ id, P (.getAgent id)) (updates : ∀ id req, P (.updateAgent id req)) (text : String)
    (body : Option UpdateAgentRequest) : (UpdateAgent text body).Only P := by
  unfold UpdateAgent
  split
  · trivial
  · trivial
  · apply Only.bind
    · apply Only.bind
      · split
        · exact Only.issue (reads _)
        · exact Only.issue (updates _ _)
      · exact fun _ => trivial
    · intro result
      cases result <;> trivial

theorem createMessage_only {info : AuthInfo} (inserts : ∀ content parent, P (.insertMessage info.agentID content parent))
    (reads : ∀ id, P (.messageWithAgent id)) (body : Option Json) : (CreateMessage info body).Only P := by
  unfold CreateMessage
  split
  · trivial
  · split
    · trivial
    · exact storeMessage_only inserts reads

theorem respond_only {info : AuthInfo} (inserts : ∀ content parent, P (.insertMessage info.agentID content parent))
    (reads : ∀ id, P (.messageWithAgent id)) (text : String) (body : Option Json) :
    (RespondToMessage info text body).Only P := by
  unfold RespondToMessage
  split
  · trivial
  · split
    · trivial
    · split
      · trivial
      · exact storeMessage_only inserts reads

theorem toggle_only {info : AuthInfo} (toggles : ∀ table id, P (.toggle (table,⟨info.agentID,id⟩))) (table : ToggleTable)
    (failed text : String) :
    (toggleHandler table failed info text).Only P := by
  unfold toggleHandler
  split
  · trivial
  · exact only_then (toggles _ _) (fun _ => trivial) fun _ => trivial

theorem createInvestigationTx_only (begins : P .begin) (asks : ∀ question, P (.insertInvestigation question))
    (lists : P .activeAgents) (inserts : ∀ inv agent type prompt, P (.insertTask inv agent type prompt)) (commits : P .commit)
    (question : String) (taskTypes : List String) : (CreateInvestigationTx question taskTypes).Only P := by
  refine only_then begins (fun _ => trivial) fun _ => ?_
  refine only_then (asks _) (fun _ => trivial) fun inv => ?_
  apply Only.bind (insertTasks_only lists inserts _ _ _ _)
  intro inserted
  cases inserted with
  | error => trivial
  | ok tasks => exact only_then commits (fun _ => trivial) fun _ => trivial

theorem createInvestigation_only (begins : P .begin) (asks : ∀ question, P (.insertInvestigation question))
    (lists : P .activeAgents) (inserts : ∀ inv agent type prompt, P (.insertTask inv agent type prompt)) (commits : P .commit)
    (body : Option CreateInvestigationRequest) : (CreateInvestigation body).Only P := by
  cases body with
  | none => trivial
  | some req =>
    unfold CreateInvestigation
    dsimp only
    split
    · trivial
    · apply Only.bind (createInvestigationTx_only begins asks lists inserts commits _ _)
      intro result
      cases result <;> trivial

theorem triggerConsensus_only (reads : ∀ id, P (.investigation id) ∧ P (.investigationTasks id))
    (updates : ∀ id, Uuid.Parse text.toList = some id → P (.updateInvestigationStatus id .consensus)) :
    (TriggerConsensus text).Only P := by
  unfold TriggerConsensus
  split
  · trivial
  · rename_i id parsed
    apply Only.bind (getInvestigation_only reads _)
    intro result
    split
    · trivial
    · trivial
    · split
      · trivial
      · exact only_then (updates _ parsed) (fun _ => trivial) fun _ => trivial

theorem controlTick_only (signals : ∀ agent, P (.insertSignal "force_tick" agent)) (text : String) :
    (ControlTick text).Only P := by
  unfold ControlTick
  split
  · trivial
  · exact only_then (signals _) (fun _ => trivial) fun _ => trivial

theorem handler_only (may : ∀ s : Statement, s.requested route → P s) (info : Option AuthInfo) :
    (dispatch info route).Only P := by
  cases route with
  | createAgent body => exact requireAdmin_only (fun _ => createAgent_only (may _ trivial) (fun _ _ => may _ trivial) body) info
  | updateAgent text body =>
    exact requireAdmin_only (fun _ => updateAgent_only (fun _ => may _ trivial) (fun _ _ => may _ rfl) text body) info
  | createMessage body =>
    exact requireAgent_only (fun info => createMessage_only (fun _ _ => may _ rfl) (fun _ => may _ rfl) body) info
  | respond text body =>
    exact requireAgent_only (fun info => respond_only (fun _ _ => may _ rfl) (fun _ => may _ rfl) text body) info
  | endorse text => exact requireAgent_only (fun info => toggle_only (fun _ _ => may _ trivial) _ _ text) info
  | propagate text => exact requireAgent_only (fun info => toggle_only (fun _ _ => may _ trivial) _ _ text) info
  | createInvestigation body =>
    exact requireAdmin_only (fun _ => createInvestigation_only (may _ rfl) (fun _ => may _ rfl) (may _ trivial)
      (fun _ _ _ _ => may _ rfl) (may _ rfl) body) info
  | triggerConsensus text =>
    exact requireAdmin_only (fun _ => triggerConsensus_only (fun _ => ⟨may _ trivial,may _ trivial⟩)
      fun _ parsed => may _ ⟨rfl,text,rfl,parsed⟩) info
  | controlTick text => exact requireAdmin_only (fun _ => controlTick_only (fun _ => may _ rfl) text) info
  | pauseAll =>
    apply requireAdmin_only
    exact fun _ => only_then (may _ trivial) (fun _ => trivial) fun _ => trivial
  | resumeAll =>
    apply requireAdmin_only
    exact fun _ => only_then (may _ trivial) (fun _ => trivial) fun _ => trivial

theorem serve_only (may : ∀ s : Statement, s.requested request.route → P s) (adminKey : String) :
    (serve adminKey request).Only P := by
  refine Only.bind (authenticate_only (fun _ => may _ trivial) _ _) fun result => ?_
  cases result with
  | error response => trivial
  | ok info => exact handler_only may info

theorem serving_only (may : ∀ s : Statement, s.requested request.route → P s) (adminKey : String) :
    (serving adminKey request).Only P := Only.bind (serve_only may adminKey) fun _ => trivial

theorem fetch_only (allowed : P s) : (fetch s).Only P :=
  Method.Only.lift (only_then allowed (fun _ => trivial) fun _ => trivial)

theorem workTask_only (published : ∀ s : Statement, s.publishes → P s) (completes : ∀ result, P (.completeTask task.id result))
    (fails : ∀ error, P (.failTask task.id error)) (agent : Specialist) : (workTask agent task).Only P := by
  refine Method.Only.attempt ?_ fun _ => fetch_only (fails _)
  refine Method.Only.bind (Method.Only.lift (only_imp (agent.publishes _ _ _) published)) fun result => ?_
  split
  · exact fetch_only (fails _)
  · exact fetch_only (completes _)

theorem agentFor_only (agent_key : String) (agent_cls : AgentClass) : (agentFor agent_key agent_cls).Only P := by
  refine Method.Only.bind (fun _ => trivial) fun agents => ?_
  split
  · exact Method.Only.pure _
  · split
    · exact fun _ => trivial
    · exact fun _ => trivial

theorem workType_only (may : ∀ s : Statement, s.handles "force_tick" → P s) (agent_id : Uuid) (task_type : String)
    (agent_cls : AgentClass) : (workType agent_id task_type agent_cls).Only P := by
  have published (s : Statement) (publishes : s.publishes) : P s := by
    apply may
    cases s <;> trivial
  refine Method.Only.bind (fetch_only (may _ rfl)) fun found => ?_
  cases found with
  | none => exact Method.Only.pure _
  | some task =>
    exact Method.Only.bind (agentFor_only _ _) fun agent => workTask_only published (fun _ => may _ rfl) (fun _ => may _ rfl) agent

theorem handle_agent_tick_only (may : ∀ s : Statement, s.handles "force_tick" → P s) (agent_id : Uuid)
    (registry : List (String × AgentClass)) : (handle_agent_tick agent_id registry).Only P := by
  induction registry with
  | nil => exact Method.Only.pure _
  | cons entry rest ih => exact Method.Only.bind (workType_only may _ _ _) fun _ => ih

theorem countEach_only (may : ∀ s : Statement, s.handles type → P s) (inv_ids : List Uuid) : (countEach inv_ids).Only P := by
  induction inv_ids with
  | nil => exact Method.Only.pure _
  | cons inv_id rest ih => exact Method.Only.bind (fetch_only (may _ trivial)) fun _ => ih

theorem run_consensus_only (may : ∀ s : Statement, s.handles "trigger_consensus" → P s) (runtime : Runtime) (inv_id : Uuid) :
    (run_consensus runtime inv_id).Only P := by
  have chatted (s : Statement) (chats : s.chats) : P s := by
    apply may
    cases s <;> trivial
  refine Method.Only.bind (fetch_only (may _ trivial)) fun question => ?_
  refine Method.Only.bind (fetch_only (may _ trivial)) fun findings => ?_
  split
  · exact Method.Only.pure _
  · refine Method.Only.attempt ?_ fun _ => Method.Only.pure _
    refine Method.Only.bind (Method.Only.lift (only_imp (runtime.chats _ _ _) chatted)) fun report => ?_
    exact Method.Only.bind (fetch_only (may _ rfl)) fun _ => fetch_only (may _ ⟨rfl,rfl⟩)

theorem consensusEach_only (may : ∀ s : Statement, s.handles "trigger_consensus" → P s) (runtime : Runtime)
    (inv_ids : List Uuid) : (consensusEach runtime inv_ids).Only P := by
  induction inv_ids with
  | nil => exact Method.Only.pure _
  | cons inv_id rest ih =>
    refine Method.Only.bind (Method.Only.bind (fetch_only (may _ trivial)) fun pending => ?_) fun _ => ih
    split
    · exact run_consensus_only may runtime inv_id
    · exact Method.Only.pure _

theorem handleSignal_only (may : ∀ s : Statement, s.handles signal.signalType → P s) (runtime : Runtime) :
    (handleSignal runtime signal).Only P := by
  unfold handleSignal
  split
  · rename_i forces
    rw [forces] at may
    split
    · exact handle_agent_tick_only may _ _
    · exact Method.Only.pure _
  · split
    · exact Method.Only.bind (fetch_only (may _ trivial)) fun _ => countEach_only may _
    · split
      · rename_i triggers
        rw [triggers] at may
        exact Method.Only.bind (fetch_only (may _ trivial)) fun _ => consensusEach_only may runtime _
      · exact Method.Only.pure _

theorem processEach_only (runtime : Runtime) (signals : List SignalRow) (marks : ∀ id, P (.markProcessed id))
    (may : ∀ signal ∈ signals, P (.processing signal) ∧ ∀ s : Statement, s.handles signal.signalType → P s) :
    (processEach runtime signals).Only P := by
  induction signals with
  | nil => exact Method.Only.pure _
  | cons signal rest ih =>
    obtain ⟨logged,handled⟩ := may signal List.mem_cons_self
    refine Method.Only.bind (fetch_only logged) fun _ => ?_
    refine Method.Only.bind (handleSignal_only handled runtime) fun _ => ?_
    refine Method.Only.bind (fetch_only (marks _)) fun _ => ?_
    exact ih fun later present => may later (List.mem_cons_of_mem _ present)

theorem tick_only (poll : P .poll) (marks : ∀ id, P (.markProcessed id))
    (may : ∀ signal, P (.processing signal) ∧ ∀ s : Statement, s.handles signal.signalType → P s) (runtime : Runtime) :
    (tick runtime).Only P :=
  Method.Only.bind (fetch_only poll) fun signals => processEach_only runtime signals marks fun signal _ => may signal

theorem ticking_only (only : (tick runtime).Only P) (agents : Agents) : (ticking runtime agents).Only P := by
  apply Only.bind (only agents)
  intro answer
  obtain ⟨result,agents⟩ := answer
  cases result <;> trivial

-- The row that a SELECT by id reads.
def Database.investigationRow (db : Database) (id : Uuid) : Option InvestigationRow := db.investigations.find? (·.id = id)

def Database.statusOf (db : Database) (inv : Uuid) : Option InvestigationStatus :=
  (db.investigationRow inv).map InvestigationRow.status

inductive Touched (c : Choice) (i : InvestigationRow) : Statement → InvestigationRow → Prop where
  | untouched : Touched c i s i
  | updateStatus : i.id = target → Touched c i (.updateInvestigationStatus target status)
      {i with status := status,completedAt := if status = .complete then some c.now else i.completedAt}
  | setStatus : i.id = target → Touched c i (.setInvestigationStatus target status) {i with status := status}
  | setReport : i.id = target → Touched c i (.setInvestigationReport target report) {i with report := some report}

theorem investigationRow_id {db : Database} (found : db.investigationRow inv = some i) : i.id = inv := by
  simpa using List.find?_some found

theorem edited_row {db : Database} {edit : InvestigationRow → InvestigationRow} (keeps : ∀ i, (edit i).id = i.id) :
    (db.editInvestigation target edit).investigationRow inv =
      (db.investigationRow inv).map fun i => if i.id = target then edit i else i := by
  have same (i : InvestigationRow) : (if i.id = target then edit i else i).id = i.id := by
    split
    · exact keeps i
    · rfl
  simp only [Database.investigationRow,Database.editInvestigation,List.find?_map,Function.comp_def,same]

theorem investigationRow_edit {db : Database} {edit : InvestigationRow → InvestigationRow} (keeps : ∀ i, (edit i).id = i.id) :
    (db.editInvestigation inv edit).investigationRow inv = (db.investigationRow inv).map edit := by
  rw [edited_row keeps]
  cases found : db.investigationRow inv with
  | none => rfl
  | some i => exact congrArg some (if_pos (investigationRow_id found))

theorem touched_row {db : Database} {edit : InvestigationRow → InvestigationRow} (found : db.investigationRow inv = some i)
    (keeps : ∀ i, (edit i).id = i.id) (touched : i.id = target → Touched c i s (edit i)) :
    ∃ j, (db.editInvestigation target edit).investigationRow inv = some j ∧ Touched c i s j := by
  refine ⟨_,by rw [edited_row keeps,found]; rfl,?_⟩
  dsimp only
  split
  · rename_i same
    exact touched same
  · exact .untouched

theorem edit_adds_none {db : Database} {edit : InvestigationRow → InvestigationRow}
    (absent : db.investigationRow inv = none) (keeps : ∀ i, (edit i).id = i.id) :
    (db.editInvestigation target edit).investigationRow inv ≠ some j := by
  rw [edited_row keeps,absent]
  nofun

-- A row that is there stays there.
theorem row_kept (effect : Effect c db session s db') (found : db.investigationRow inv = some i) :
    ∃ j, db'.investigationRow inv = some j ∧ Touched c i s j := by
  cases effect with
  | commit opened fresh =>
    refine ⟨i,?_,.untouched⟩
    simp only [Database.investigationRow,List.find?_append] at found ⊢
    rw [found]
    rfl
  | updateInvestigationStatus => exact touched_row found (fun _ => rfl) .updateStatus
  | setInvestigationStatus => exact touched_row found (fun _ => rfl) .setStatus
  | setInvestigationReport => exact touched_row found (fun _ => rfl) .setReport
  | toggle =>
    rw [toggled_eq]
    exact ⟨i,found,.untouched⟩
  | _ => exact ⟨i,found,.untouched⟩

-- A row that was not there is one of a transaction that commits.
theorem row_new (effect : Effect c db session s db') (absent : db.investigationRow inv = none)
    (found : db'.investigationRow inv = some j) : ∃ tx, session.tx = some tx ∧ j ∈ tx.investigations := by
  cases effect with
  | @commit tx opened fresh =>
    refine ⟨tx,opened,?_⟩
    simp only [Database.investigationRow,List.find?_append] at found absent
    rw [absent] at found
    exact List.mem_of_find?_eq_some found
  | updateInvestigationStatus => exact absurd found (edit_adds_none absent fun _ => by rfl)
  | setInvestigationStatus => exact absurd found (edit_adds_none absent fun _ => by rfl)
  | setInvestigationReport => exact absurd found (edit_adds_none absent fun _ => by rfl)
  | toggle =>
    rw [toggled_eq] at found
    exact absurd (absent.symm.trans found) nofun
  | _ => exact absurd (absent.symm.trans found) nofun

-- What CreateInvestigation has inserted and not yet committed.
def Session.Opens (session : Session) (P : InvestigationRow → Prop) : Prop := ∀ tx ∈ session.tx, ∀ i ∈ tx.investigations, P i
def Session.Opening (session : Session) : Prop := ∀ tx ∈ session.tx, ∀ i ∈ tx.investigations, i.status = .inProgress

theorem fresh_opens (P : InvestigationRow → Prop) : Session.fresh.Opens P := nofun
theorem rollback_opens (session : Session) (P : InvestigationRow → Prop) : session.rollback.Opens P := nofun

theorem fresh_opening : Session.fresh.Opening := nofun

-- What is true of every new row is true of the rows that wait.
theorem perform_opens {P : InvestigationRow → Prop} (new : ∀ id question now, P ⟨id,question,.inProgress,none,now,none⟩)
    (opens : session.Opens P) (done : perform c db session s = .ok (r,db',session')) : session'.Opens P := by
  cases s
  case insertInvestigation =>
    obtain ⟨tx,opened,rfl,-,rfl,-⟩ := insertInvestigation_done done
    rintro _ ⟨⟩ i present
    rcases List.mem_append.mp present with before | added
    · exact opens tx opened i before
    · rw [List.mem_singleton.mp added]
      exact new _ _ _
  case insertTask =>
    obtain ⟨tx,opened,-,-,rfl,-⟩ := insertTask_done done
    rintro _ ⟨⟩
    exact opens tx opened
  case commit =>
    obtain ⟨_,-,-,rfl,-⟩ := commit_done done
    exact rollback_opens _ _
  all_goals simp only [perform] at done
  case begin =>
    cases done
    intro tx opened
    cases opened
    exact fun _ present => absurd present List.not_mem_nil
  all_goals (repeat' split at done) <;> cases done <;> exact opens

theorem exec_opens {P : InvestigationRow → Prop} (new : ∀ id question now, P ⟨id,question,.inProgress,none,now,none⟩)
    (c : Choice) (db : Database) (s : Statement) (opens : session.Opens P) : (exec s c db session).2.2.Opens P := by
  unfold exec
  split
  · exact rollback_opens _ _
  · cases done : perform c db session s with
    | error e => exact rollback_opens _ _
    | ok result => exact perform_opens new opens done
  · cases done : perform c db session s with
    | error e => exact rollback_opens _ _
    | ok result => exact rollback_opens _ _

theorem exec_opening (c : Choice) (db : Database) (s : Statement) (opening : session.Opening) :
    (exec s c db session).2.2.Opening := exec_opens (fun _ _ _ => rfl) c db s opening

-- The signal in hand changes with its log line and when it is marked.
theorem perform_handling (done : perform c db session s = .ok (r,db',session')) :
    session'.handling = session.handling ∨ session'.handling = none ∨
      ∃ signal, s = .processing signal ∧ session'.handling = some signal := by
  cases s
  all_goals simp only [perform] at done
  case processing => cases done; exact .inr (.inr ⟨_,rfl,rfl⟩)
  case markProcessed => cases done; exact .inr (.inl rfl)
  all_goals (repeat' split at done) <;> cases done <;> exact .inl rfl

theorem exec_handling (c : Choice) (db : Database) (session : Session) (s : Statement) :
    (exec s c db session).2.2.handling = session.handling ∨ (exec s c db session).2.2.handling = none ∨
      ∃ signal, s = .processing signal ∧ (exec s c db session).2.2.handling = some signal := by
  unfold exec
  split
  · exact .inl rfl
  · cases done : perform c db session s with
    | error e => exact .inl rfl
    | ok result => exact perform_handling done
  · cases done : perform c db session s with
    | error e => exact .inl rfl
    | ok result =>
      have kept := perform_handling done
      exact kept

-- For runs on fixed inputs.
def Database.staffed : Database where
  agents := [⟨1,"ada","Ada",some "",none,"tk_agent_ada",some 10,some true⟩]

def Database.asked : Database where
  agents := [⟨1,"ada","Ada",some "",none,"tk_agent_ada",some 10,some true⟩]
  investigations := [⟨21,"why",.inProgress,none,30,none⟩]
  investigationTasks := [⟨51,21,1,"research","Investigate: why",.pending,none,30,none⟩]

def Runtime.sample : Runtime where
  registry := []
  generateReport := fun _ _ _ => query (.chat "llama3.2:3b" []) >>= fun _ => .done (.ok (.obj []))
  chats := fun _ _ _ => ⟨trivial,fun _ => trivial⟩

def Request.trigger (inv : Uuid) : Request := ⟨"Bearer rp_admin",.triggerConsensus (String.ofList inv.text)⟩

def Choice.sample : Choice := ⟨.answered,200,0,"summary"⟩

end Trokk
