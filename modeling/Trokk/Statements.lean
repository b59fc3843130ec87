import Trokk.Library.Program
import Trokk.MessageQueries
import Trokk.Toggles

-- The SQL statements of internal/store/pg, runtime/signals.py and
-- runtime/scheduler.py, and the runtime's exchanges with the world outside.
namespace Trokk

structure CreateAgentRequest where
  username : String
  displayName : String
  description : String
  personality : Option Json
  deriving DecidableEq

structure UpdateAgentRequest where
  displayName : Option String
  description : Option String
  personality : Option Json
  active : Option Bool
  deriving DecidableEq

def storableText (text : String) : Bool := !text.toList.contains (Char.ofNat 0)
-- json.dumps writes these three, and jsonb refuses them.
def storableNumber (literal : String) : Bool := !(["NaN","Infinity","-Infinity"].contains literal)
def storableJson (value : Json) : Bool := value.EveryText storableText && value.EveryNumber storableNumber

def UpdateAgentRequest.storable (req : UpdateAgentRequest) : Bool :=
  req.displayName.all storableText && req.description.all storableText && req.personality.all storableJson

-- One element of get_investigation_findings.
structure Finding where
  id : Uuid
  content : String
  createdAt : Timestamptz
  username : String
  displayName : String
  endorsements : Nat
  deriving DecidableEq, Repr

inductive Statement where
  -- agents.go
  | insertAgent (req : CreateAgentRequest) (apiKey : String)
  | getAgent (id : Uuid)
  | updateAgent (id : Uuid) (req : UpdateAgentRequest)
  | agentByAPIKey (key : String)
  | setAllActive (active : Bool)
  -- messages.go and interactions.go; a toggle is one statement by its linearization
  | insertMessage (agentId : Uuid) (content : String) (parentMsgId : Option Uuid)
  | messageWithAgent (id : Uuid)
  | toggle (key : ToggleKey)
  | insertSignal (signalType : String) (agentId : Uuid)
  -- investigations.go
  | begin
  | insertInvestigation (question : String)
  | activeAgents
  | insertTask (investigationId agentId : Uuid) (taskType taskPrompt : String)
  | commit
  | investigation (id : Uuid)
  | investigationTasks (id : Uuid)
  | updateInvestigationStatus (id : Uuid) (status : InvestigationStatus)
  -- signals.py
  | poll
  | markProcessed (id : Uuid)
  -- scheduler.py
  | pendingTask (agentId : Uuid) (taskType : Option String)
  | completeTask (id : Uuid) (result : Json)
  | failTask (id : Uuid) (error : String)
  | activeInvestigations
  | countPendingTasks (id : Uuid)
  | investigationQuestion (id : Uuid)
  | investigationFindings (id : Uuid)
  | setInvestigationStatus (id : Uuid) (status : InvestigationStatus)
  | setInvestigationReport (id : Uuid) (report : Json)
  -- no statement of the database
  | randomBytes
  | processing (signal : SignalRow)
  | send
  | receive
  | chat (model : String) (messages : List (String × String))
  deriving DecidableEq

@[reducible] def Statement.Result : Statement → Type
  | .insertAgent .. | .getAgent _ | .updateAgent .. => AgentRow
  | .agentByAPIKey _ => Option AgentRow
  | .insertMessage .. => MessageRow
  | .messageWithAgent _ => Option StreamRow
  | .toggle _ => Bool
  | .insertInvestigation _ => InvestigationRow
  | .activeAgents | .activeInvestigations => List Uuid
  | .insertTask .. => TaskRow
  | .investigation _ => Option InvestigationRow
  | .investigationTasks _ => List TaskRow
  | .poll => List SignalRow
  | .pendingTask .. => Option TaskRow
  | .countPendingTasks _ => Nat
  | .investigationQuestion _ | .chat .. => String
  | .investigationFindings _ => List Finding
  | .randomBytes => Uuid
  | _ => Unit

-- What is open on one connection: the rows a transaction has inserted so far and
-- its start, and the signal whose handling the orchestrator has logged.
structure Transaction where
  now : Timestamptz
  investigations : List InvestigationRow
  tasks : List TaskRow

structure Session where
  tx : Option Transaction
  handling : Option SignalRow

def Session.fresh : Session := ⟨none,none⟩
def Session.rollback (session : Session) : Session := {session with tx := none}

-- A statement takes effect and is answered, fails without effect, or takes effect
-- while its answer is lost.
inductive Fate where
  | answered | refused | lost
  deriving DecidableEq

-- What the outside decides about one statement: its fate, the clock, the random
-- bits that it draws and the text that a model replies.
structure Choice where
  fate : Fate
  now : Timestamptz
  random : Uuid
  reply : String

def oldestFirst [LinearOrder T] (created : A → T) (rows : List A) : List A :=
  rows.insertionSort fun a b => created a ≤ created b

def finding (db : Database) (m : MessageRow) (a : AgentRow) : Finding :=
  ⟨m.id,m.content,m.createdAt,a.username,a.displayName,
   (db.endorsements.map (some ·.messageId)).count (some m.id)⟩

-- FROM messages m JOIN agents a LEFT JOIN e WHERE m.parent_msg_id = $1.
def findings (db : Database) (investigationId : Uuid) : List Finding :=
  (oldestFirst MessageRow.createdAt (db.messages.filter fun m => m.parentMsgId = some investigationId)).flatMap fun m =>
    (db.agents.filter fun a => a.id = m.agentId).map (finding db m)

def AgentRow.update (a : AgentRow) (req : UpdateAgentRequest) : AgentRow :=
  {a with
    displayName := req.displayName.getD a.displayName
    description := req.description.orElse fun _ => a.description
    personality := req.personality.orElse fun _ => a.personality
    active := req.active.orElse fun _ => a.active}

def TaskRow.open (t : TaskRow) : Bool := t.status = .pending || t.status = .running

def oldestPending (db : Database) (agentId : Uuid) (taskType : Option String) : Option TaskRow :=
  (oldestFirst TaskRow.createdAt (db.investigationTasks.filter fun t =>
    t.agentId = agentId && t.status = .pending && (taskType = none || taskType = some t.taskType))).head?

def openTasks (db : Database) (investigationId : Uuid) : List TaskRow :=
  db.investigationTasks.filter fun t => t.investigationId = investigationId && t.open

def Database.editTask (db : Database) (id : Uuid) (edit : TaskRow → TaskRow) : Database :=
  {db with investigationTasks := db.investigationTasks.map fun t => if t.id = id then edit t else t}

def Database.editInvestigation (db : Database) (id : Uuid) (edit : InvestigationRow → InvestigationRow) : Database :=
  {db with investigations := db.investigations.map fun i => if i.id = id then edit i else i}

def Database.editSignal (db : Database) (id : Uuid) (edit : SignalRow → SignalRow) : Database :=
  {db with controlSignals := db.controlSignals.map fun s => if s.id = id then edit s else s}

def hasAgent (db : Database) (id : Uuid) : Bool := db.agents.any (·.id = id)
def hasMessage (db : Database) (id : Uuid) : Bool := db.messages.any (·.id = id)

-- A statement that is carried out, or what the database refuses it for.
def perform (c : Choice) (db : Database) (session : Session) :
    (s : Statement) → Except PgError (s.Result × Database × Session)
  | .insertAgent req apiKey =>
    let row : AgentRow :=
      ⟨c.random,req.username,req.displayName,some req.description,req.personality,apiKey,some c.now,some true⟩
    if !(storableText req.username && storableText req.displayName && storableText req.description &&
        req.personality.all storableJson) then .error .invalidText
    else if db.agents.any fun a => a.id = row.id || a.username = row.username || a.apiKey = row.apiKey then
      .error .uniqueViolation
    else .ok (row,{db with agents := db.agents ++ [row]},session)
  | .getAgent id => match db.agents.find? (·.id = id) with
    | some a => .ok (a,db,session)
    | none => .error .noRows
  | .updateAgent id req =>
    if !req.storable then .error .invalidText
    else match db.agents.find? (·.id = id) with
    | some a => .ok (a.update req,{db with agents := db.agents.map fun b => if b.id = id then b.update req else b},session)
    | none => .error .noRows
  | .agentByAPIKey key => .ok (db.agents.find? fun a => a.apiKey = key && a.active = some true,db,session)
  | .setAllActive active => .ok ((),{db with agents := db.agents.map fun a => {a with active := some active}},session)
  | .insertMessage agentId content parentMsgId =>
    let row : MessageRow := ⟨c.random,agentId,content,parentMsgId,c.now⟩
    if !storableText content then .error .invalidText
    else if hasMessage db row.id then .error .uniqueViolation
    else if !(hasAgent db agentId && parentMsgId.all (hasMessage db)) then .error .foreignKeyViolation
    else .ok (row,{db with messages := db.messages ++ [row]},session)
  | .messageWithAgent id => .ok ((streamRows db).find? (·.message.id = id),db,session)
  | .toggle key =>
    if key.2 ∈ db.toggles key.1 then .ok (false,db.toggled key,session)
    else if !(hasAgent db key.2.agentId && hasMessage db key.2.messageId) then .error .foreignKeyViolation
    else .ok (true,db.toggled key,session)
  | .insertSignal signalType agentId =>
    if db.controlSignals.any (·.id = c.random) then .error .uniqueViolation
    else if !hasAgent db agentId then .error .foreignKeyViolation
    else .ok ((),{db with controlSignals := db.controlSignals ++ [⟨c.random,signalType,some agentId,c.now,false⟩]},session)
  | .begin => .ok ((),db,{session with tx := some ⟨c.now,[],[]⟩})
  | .insertInvestigation question => match session.tx with
    | none => .error .failed
    | some tx =>
      let row : InvestigationRow := ⟨c.random,question,.inProgress,none,tx.now,none⟩
      if !storableText question then .error .invalidText
      else if (db.investigations ++ tx.investigations).any (·.id = row.id) then .error .uniqueViolation
      else .ok (row,db,{session with tx := some {tx with investigations := tx.investigations ++ [row]}})
  | .activeAgents => .ok ((oldestFirst AgentRow.created (db.agents.filter (·.active = some true))).map AgentRow.id,db,session)
  | .insertTask investigationId agentId taskType taskPrompt => match session.tx with
    | none => .error .failed
    | some tx =>
      let row : TaskRow := ⟨c.random,investigationId,agentId,taskType,taskPrompt,.pending,none,tx.now,none⟩
      if !(storableText taskType && storableText taskPrompt) then .error .invalidText
      else if (db.investigationTasks ++ tx.tasks).any (·.id = row.id) then .error .uniqueViolation
      else if !(hasAgent db agentId && (db.investigations ++ tx.investigations).any (·.id = investigationId)) then
        .error .foreignKeyViolation
      else .ok (row,db,{session with tx := some {tx with tasks := tx.tasks ++ [row]}})
  | .commit => match session.tx with
    | none => .error .failed
    | some tx =>
      if tx.investigations.any (fun i => db.investigations.any (·.id = i.id)) ||
          tx.tasks.any (fun t => db.investigationTasks.any (·.id = t.id)) then .error .uniqueViolation
      else .ok ((),{db with
        investigations := db.investigations ++ tx.investigations
        investigationTasks := db.investigationTasks ++ tx.tasks},session.rollback)
  | .investigation id => .ok (db.investigations.find? (·.id = id),db,session)
  | .investigationTasks id =>
    .ok (oldestFirst TaskRow.createdAt (db.investigationTasks.filter (·.investigationId = id)),db,session)
  | .updateInvestigationStatus id status => .ok ((),db.editInvestigation id fun i =>
      {i with status := status,completedAt := if status = .complete then some c.now else i.completedAt},session)
  | .poll => .ok (oldestFirst SignalRow.createdAt (db.controlSignals.filter (!·.processed)),db,session)
  | .markProcessed id =>
    .ok ((),db.editSignal id fun s => {s with processed := true},{session with handling := none})
  | .pendingTask agentId taskType => match oldestPending db agentId taskType with
    | none => .ok (none,db,session)
    | some t => .ok (some {t with status := .running},db.editTask t.id fun t => {t with status := .running},session)
  | .completeTask id result =>
    if storableJson result then .ok ((),db.editTask id fun t =>
      {t with status := .complete,result := some result,completedAt := some c.now},session)
    else .error .invalidText
  | .failTask id error =>
    if storableText error then .ok ((),db.editTask id fun t =>
      {t with status := .failed,result := some (.obj [("error",.str error)]),completedAt := some c.now},session)
    else .error .invalidText
  | .activeInvestigations => .ok ((oldestFirst InvestigationRow.createdAt (db.investigations.filter fun i =>
      i.status = .inProgress || i.status = .consensus)).map InvestigationRow.id,db,session)
  | .countPendingTasks id => .ok ((openTasks db id).length,db,session)
  | .investigationQuestion id => .ok (((db.investigations.find? (·.id = id)).map InvestigationRow.question).getD "",db,session)
  | .investigationFindings id => .ok (findings db id,db,session)
  | .setInvestigationStatus id status => .ok ((),db.editInvestigation id fun i => {i with status := status},session)
  | .setInvestigationReport id report =>
    if storableJson report then .ok ((),db.editInvestigation id fun i => {i with report := some report},session)
    else .error .invalidText
  | .randomBytes => .ok (c.random,db,session)
  | .processing signal => .ok ((),db,{session with handling := some signal})
  | .send => .ok ((),db,session)
  | .receive => .ok ((),db,session)
  | .chat _ _ => .ok (c.reply,db,session)

-- Neither can fail.
def Statement.certain : Statement → Bool
  | .randomBytes | .processing _ => true
  | _ => false

-- An error ends the transaction it occurs in: every caller rolls back.
def exec : Program.Execution Statement Statement.Result PgError Database Session Choice :=
  fun s c db session =>
    match (if s.certain then .answered else c.fate : Fate) with
    | .refused => (.error .failed,db,session.rollback)
    | .answered => match perform c db session s with
      | .ok (r,db,session) => (.ok r,db,session)
      | .error e => (.error e,db,session.rollback)
    | .lost => match perform c db session s with
      | .ok (_,db,session) => (.error .failed,db,session.rollback)
      | .error e => (.error e,db,session.rollback)

theorem oldestPending_mem (found : oldestPending db agent type = some t) : t ∈ db.investigationTasks ∧ t.agentId = agent ∧
    t.status = .pending ∧ (type = none ∨ type = some t.taskType) := by
  have sorted := List.mem_of_mem_head? found
  rw [oldestFirst,List.mem_insertionSort,List.mem_filter] at sorted
  simpa [and_assoc] using sorted

theorem byAPIKey_found {db : Database} (found : db.agents.find? (fun a => a.apiKey = key && a.active = some true) = some a) :
    a ∈ db.agents ∧ a.apiKey = key ∧ a.active = some true := by
  have hit := List.find?_some found
  simp only [Bool.and_eq_true,decide_eq_true_eq] at hit
  exact ⟨List.mem_of_find?_eq_some found,hit⟩

-- What a statement can do to the tables, with what was checked before.
inductive Effect (c : Choice) (db : Database) (session : Session) : Statement → Database → Prop where
  | none : Effect c db session s db
  | insertAgent : (∀ a ∈ db.agents, a.id ≠ row.id ∧ a.username ≠ row.username ∧ a.apiKey ≠ row.apiKey) →
      Effect c db session (.insertAgent req apiKey) {db with agents := db.agents ++ [row]}
  | updateAgent : Effect c db session (.updateAgent target req)
      {db with agents := db.agents.map fun a => if a.id = target then a.update req else a}
  | setAllActive : Effect c db session (.setAllActive active) {db with agents := db.agents.map fun a => {a with active := some active}}
  | insertMessage : (∀ m ∈ db.messages, m.id ≠ c.random) → (∃ a ∈ db.agents, a.id = agentId) →
      (∀ p ∈ parent, ∃ m ∈ db.messages, m.id = p) → Effect c db session (.insertMessage agentId content parent)
        {db with messages := db.messages ++ [⟨c.random,agentId,content,parent,c.now⟩]}
  | toggle : key.2 ∈ db.toggles key.1 ∨ Referenced db key.2 → Effect c db session (.toggle key) (db.toggled key)
  | insertSignal : (∀ s ∈ db.controlSignals, s.id ≠ c.random) → (∃ a ∈ db.agents, a.id = agentId) →
      Effect c db session (.insertSignal type agentId)
        {db with controlSignals := db.controlSignals ++ [⟨c.random,type,some agentId,c.now,false⟩]}
  | commit : session.tx = some tx → (∀ i ∈ tx.investigations, ∀ old ∈ db.investigations, old.id ≠ i.id) →
      (∀ t ∈ tx.tasks, ∀ old ∈ db.investigationTasks, old.id ≠ t.id) → Effect c db session .commit {db with
        investigations := db.investigations ++ tx.investigations
        investigationTasks := db.investigationTasks ++ tx.tasks}
  | updateInvestigationStatus : Effect c db session (.updateInvestigationStatus target status) (db.editInvestigation target fun i =>
      {i with status := status,completedAt := if status = .complete then some c.now else i.completedAt})
  | setInvestigationStatus : Effect c db session (.setInvestigationStatus target status)
      (db.editInvestigation target fun i => {i with status := status})
  | setInvestigationReport : Effect c db session (.setInvestigationReport target report)
      (db.editInvestigation target fun i => {i with report := some report})
  | markProcessed : Effect c db session (.markProcessed target) (db.editSignal target fun s => {s with processed := true})
  | pendingTask : oldestPending db agentId taskType = some t →
      Effect c db session (.pendingTask agentId taskType) (db.editTask t.id fun t => {t with status := .running})
  | completeTask : Effect c db session (.completeTask target result) (db.editTask target fun t =>
      {t with status := .complete,result := some result,completedAt := some c.now})
  | failTask : Effect c db session (.failTask target error) (db.editTask target fun t =>
      {t with status := .failed,result := some (.obj [("error",.str error)]),completedAt := some c.now})

-- What a statement that returns rows did, with what was checked before.
theorem insertAgent_done (done : perform c db session (.insertAgent req apiKey) = .ok (a,db',session')) :
    a = ⟨c.random,req.username,req.displayName,some req.description,req.personality,apiKey,some c.now,some true⟩ ∧
      db' = {db with agents := db.agents ++ [a]} ∧ session' = session ∧
      ∀ b ∈ db.agents, b.id ≠ c.random ∧ b.username ≠ req.username ∧ b.apiKey ≠ apiKey := by
  simp only [perform] at done
  split at done
  · cases done
  · split at done <;> cases done
    rename_i fresh
    exact ⟨rfl,rfl,rfl,by simpa [not_or,and_assoc] using fresh⟩

theorem updateAgent_done (done : perform c db session (.updateAgent target req) = .ok (row,db',session')) :
    req.storable = true ∧ ∃ a, db.agents.find? (·.id = target) = some a ∧ row = a.update req ∧
      db' = {db with agents := db.agents.map fun b => if b.id = target then b.update req else b} ∧ session' = session := by
  simp only [perform] at done
  split at done
  · cases done
  · rename_i storable
    split at done <;> cases done
    rename_i a found
    exact ⟨by simpa using storable,a,found,rfl,rfl,rfl⟩

theorem insertMessage_done (done : perform c db session (.insertMessage agentId content parent) = .ok (m,db',session')) :
    m = ⟨c.random,agentId,content,parent,c.now⟩ ∧ db' = {db with messages := db.messages ++ [m]} ∧ session' = session ∧
      (∀ old ∈ db.messages, old.id ≠ c.random) ∧ (∃ a ∈ db.agents, a.id = agentId) ∧ ∀ p ∈ parent, ∃ old ∈ db.messages, old.id = p := by
  simp only [perform] at done
  split at done
  · cases done
  · split at done
    · cases done
    · split at done <;> cases done
      rename_i fresh refs
      simp only [hasMessage,List.any_eq_true,decide_eq_true_eq,not_exists,not_and] at fresh
      simp only [hasAgent,Bool.not_eq_true,Bool.not_eq_false',Bool.and_eq_true,List.any_eq_true,decide_eq_true_eq] at refs
      refine ⟨rfl,rfl,rfl,fresh,refs.1,?_⟩
      rintro p ⟨⟩
      simpa [hasMessage] using refs.2

theorem insertInvestigation_done (done : perform c db session (.insertInvestigation question) = .ok (i,db',session')) :
    ∃ tx, session.tx = some tx ∧ i = ⟨c.random,question,.inProgress,none,tx.now,none⟩ ∧ db' = db ∧
      session' = {session with tx := some {tx with investigations := tx.investigations ++ [i]}} ∧
      ∀ old ∈ tx.investigations, old.id ≠ c.random := by
  simp only [perform] at done
  split at done
  · cases done
  · rename_i tx opened
    split at done
    · cases done
    · split at done <;> cases done
      rename_i fresh
      simp only [List.any_append,Bool.or_eq_true,List.any_eq_true,decide_eq_true_eq,not_or,not_exists,not_and] at fresh
      exact ⟨tx,opened,rfl,rfl,rfl,fresh.2⟩

theorem insertTask_done (done : perform c db session (.insertTask inv agent type prompt) = .ok (t,db',session')) :
    ∃ tx, session.tx = some tx ∧ t = ⟨c.random,inv,agent,type,prompt,.pending,none,tx.now,none⟩ ∧ db' = db ∧
      session' = {session with tx := some {tx with tasks := tx.tasks ++ [t]}} ∧ (∀ old ∈ tx.tasks, old.id ≠ c.random) ∧
      (∃ a ∈ db.agents, a.id = agent) ∧ ∃ i ∈ db.investigations ++ tx.investigations, i.id = inv := by
  simp only [perform] at done
  split at done
  · cases done
  · rename_i tx opened
    split at done
    · cases done
    · split at done
      · cases done
      · rename_i fresh
        split at done <;> cases done
        rename_i refs
        simp only [List.any_append,Bool.or_eq_true,List.any_eq_true,decide_eq_true_eq,not_or,not_exists,not_and] at fresh
        simp only [hasAgent,Bool.not_eq_true,Bool.not_eq_false',Bool.and_eq_true,List.any_eq_true,decide_eq_true_eq] at refs
        exact ⟨tx,opened,rfl,rfl,rfl,fresh.2,refs.1,refs.2⟩

theorem commit_done (done : perform c db session .commit = .ok (r,db',session')) :
    ∃ tx, session.tx = some tx ∧ db' = {db with
        investigations := db.investigations ++ tx.investigations
        investigationTasks := db.investigationTasks ++ tx.tasks} ∧ session' = session.rollback ∧
      (∀ i ∈ tx.investigations, ∀ old ∈ db.investigations, old.id ≠ i.id) ∧
      ∀ t ∈ tx.tasks, ∀ old ∈ db.investigationTasks, old.id ≠ t.id := by
  simp only [perform] at done
  split at done
  · cases done
  · rename_i tx opened
    split at done <;> cases done
    rename_i fresh
    simp only [Bool.or_eq_true,List.any_eq_true,decide_eq_true_eq,not_or,not_exists,not_and] at fresh
    exact ⟨tx,opened,rfl,rfl,fresh⟩

theorem pendingTask_done (done : perform c db session (.pendingTask agent type) = .ok (found,db',session')) :
    (oldestPending db agent type = none ∧ found = none ∧ db' = db) ∨ ∃ t, oldestPending db agent type = some t ∧
      found = some {t with status := .running} ∧ db' = db.editTask t.id fun t => {t with status := .running} := by
  simp only [perform] at done
  split at done <;> cases done
  · exact .inl ⟨‹_›,rfl,rfl⟩
  · exact .inr ⟨_,‹_›,rfl,rfl⟩

theorem perform_effect (done : perform c db session s = .ok (r,db',session')) : Effect c db session s db' := by
  cases s
  case insertAgent =>
    obtain ⟨rfl,rfl,-,fresh⟩ := insertAgent_done done
    exact .insertAgent fresh
  case insertMessage =>
    obtain ⟨rfl,rfl,-,fresh,author,parents⟩ := insertMessage_done done
    exact .insertMessage fresh author parents
  case commit =>
    obtain ⟨tx,opened,rfl,-,freshIds,freshTasks⟩ := commit_done done
    exact .commit opened freshIds freshTasks
  case insertInvestigation =>
    obtain ⟨_,-,-,rfl,-⟩ := insertInvestigation_done done
    exact .none
  case insertTask =>
    obtain ⟨_,-,-,rfl,-⟩ := insertTask_done done
    exact .none
  case updateAgent =>
    obtain ⟨-,_,-,-,rfl,-⟩ := updateAgent_done done
    exact .updateAgent
  case pendingTask =>
    rcases pendingTask_done done with ⟨-,-,rfl⟩ | ⟨t,found,-,rfl⟩
    · exact .none
    · exact .pendingTask found
  all_goals simp only [perform] at done
  case setAllActive => cases done; exact .setAllActive
  case toggle =>
    split at done
    · rename_i present
      cases done
      exact .toggle (.inl present)
    · split at done
      · cases done
      · rename_i refs
        cases done
        simp only [hasAgent,hasMessage,Bool.not_eq_true,Bool.not_eq_false',Bool.and_eq_true,List.any_eq_true,decide_eq_true_eq] at refs
        exact .toggle (.inr ⟨refs.1,refs.2⟩)
  case insertSignal =>
    split at done
    · cases done
    · split at done
      · cases done
      · cases done
        apply Effect.insertSignal
        · simp_all
        · simp_all [hasAgent]
  case updateInvestigationStatus => cases done; exact .updateInvestigationStatus
  case setInvestigationStatus => cases done; exact .setInvestigationStatus
  case markProcessed => cases done; exact .markProcessed
  case completeTask => split at done <;> cases done; exact .completeTask
  case failTask => split at done <;> cases done; exact .failTask
  case setInvestigationReport => split at done <;> cases done; exact .setInvestigationReport
  case getAgent => split at done <;> cases done; exact .none
  all_goals cases done; exact .none

theorem exec_effect (c : Choice) (db : Database) (session : Session) (s : Statement) :
    Effect c db session s (exec s c db session).2.1 := by
  unfold exec
  split
  · exact .none
  · cases done : perform c db session s with
    | error e => exact .none
    | ok result => exact perform_effect done
  · cases done : perform c db session s with
    | error e => exact .none
    | ok result => exact perform_effect done

-- A statement that is answered with a result was carried out.
theorem exec_ok (ok : (exec s c db session).1 = .ok r) :
    perform c db session s = .ok (r,(exec s c db session).2) := by
  unfold exec at ok ⊢
  split at ok
  · cases ok
  · cases done : perform c db session s with
    | error e => rw [done] at ok; cases ok
    | ok result => rw [done] at ok; cases ok; simp_all
  · cases done : perform c db session s with
    | error e => rw [done] at ok; cases ok
    | ok result => rw [done] at ok; cases ok

end Trokk
