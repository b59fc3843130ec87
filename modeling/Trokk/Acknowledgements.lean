import Trokk.AccessControl
import Trokk.Permanence
import Trokk.PublishedFindings
import Trokk.TaskOrder

-- What an answer in the 2xx range promises is in the tables when it is given, and
-- stays there. An answer that failed after its statement promises nothing.
namespace Trokk
open Program Evolution

-- The header carries the key of the agent with this id.
def Holds (db : Database) (header : String) (id : Uuid) : Prop := ∃ a ∈ db.agents, a.id = id ∧ header = "Bearer " ++ a.apiKey

structure Posted (header : String) (content : Option String) (parent : Option Uuid) (row : Option StreamRow) (db : Database) : Prop where
  stored : ∃ m ∈ db.messages, content = some m.content ∧ m.parentMsgId = parent ∧ Holds db header m.agentId ∧
    ∀ shown ∈ row, shown.message.id = m.id

structure Opened (req : CreateInvestigationRequest) (inv : InvestigationWithTasks) (db : Database) : Prop where
  question : inv.investigation.question = req.question
  investigation : ∃ i ∈ db.investigations, inv.investigation.Becomes i
  types : inv.tasks.map TaskRow.taskType = requestedTypes req.taskTypes
  tasks : ∀ t ∈ inv.tasks, t.investigationId = inv.investigation.id ∧ ∃ u ∈ db.investigationTasks, t.Becomes u

def Acknowledged (header : String) (route : Route) (body : Body) (db : Database) : Prop :=
  match route,body with
  | .createAgent (some req),.agent a => (a.username = req.username ∧ a.scans = true) ∧ ∃ b ∈ db.agents, a.Becomes b
  | .updateAgent text _,.agent a => (Uuid.Parse text.toList = some a.id ∧ a.scans = true) ∧ ∃ b ∈ db.agents, a.Becomes b
  | .createMessage body,.message row => Posted header (body.bind decodeContent) none row db
  | .respond text body,.message row => Posted header (body.bind decodeContent) (Uuid.Parse text.toList) row db
  | .createInvestigation (some req),.investigation inv => Opened req inv db
  | .triggerConsensus text,.investigation inv =>
    Uuid.Parse text.toList = some inv.investigation.id ∧ Known db inv.investigation.id
  | .controlTick text,.signalSent =>
    ∃ s ∈ db.controlSignals, s.signalType = "force_tick" ∧ s.agentId = Uuid.Parse text.toList ∧ s.agentId.isSome
  | _,_ => True

variable {db db' : Database} {l : Session} {header : String}

theorem Holds.later {id : Uuid} (holds : Holds db header id) (later : Later db db') : Holds db' header id := by
  obtain ⟨a,member,same,key⟩ := holds
  obtain ⟨b,there,becomes⟩ := later.agents.mem member
  exact ⟨b,there,becomes.id.trans same,by rw [becomes.apiKey,key]⟩

theorem Posted.later {row : Option StreamRow} (posted : Posted header content parent row db) (later : Later db db') : Posted header content parent row db' := by
  obtain ⟨m,member,text,parent,holds,shown⟩ := posted.stored
  exact ⟨m,later.messages.subset member,text,parent,holds.later later,shown⟩

theorem agent_later {a : AgentRow} (there : ∃ b ∈ db.agents, a.Becomes b) (later : Later db db') : ∃ b ∈ db'.agents, a.Becomes b := by
  obtain ⟨b,member,becomes⟩ := there
  obtain ⟨c,still,more⟩ := later.agents.mem member
  exact ⟨c,still,becomes.trans _ _ _ more⟩

theorem Opened.later (opened : Opened req inv db) (later : Later db db') : Opened req inv db' := by
  refine ⟨opened.question,?_,opened.types,fun t member => ⟨(opened.tasks t member).1,?_⟩⟩
  · obtain ⟨i,there,becomes⟩ := opened.investigation
    obtain ⟨j,still,more⟩ := later.investigations.mem there
    exact ⟨j,still,becomes.trans _ _ _ more⟩
  · obtain ⟨u,there,becomes⟩ := (opened.tasks t member).2
    obtain ⟨v,still,more⟩ := later.investigationTasks.mem there
    exact ⟨v,still,becomes.trans _ _ _ more⟩

theorem known_later (known : Known db inv) (later : Later db db') : Known db' inv := by
  obtain ⟨i,there,same⟩ := known
  obtain ⟨j,still,becomes⟩ := later.investigations.mem there
  exact ⟨j,still,becomes.id.trans same⟩

theorem Acknowledged.later (acknowledged : Acknowledged header route body db) (later : Later db db') :
    Acknowledged header route body db' := by
  unfold Acknowledged at acknowledged ⊢
  split
  · exact ⟨acknowledged.1,agent_later acknowledged.2 later⟩
  · exact ⟨acknowledged.1,agent_later acknowledged.2 later⟩
  · exact Posted.later acknowledged later
  · exact Posted.later acknowledged later
  · exact Opened.later acknowledged later
  · exact ⟨acknowledged.1,known_later acknowledged.2 later⟩
  · obtain ⟨s,there,type,agent,named⟩ := acknowledged
    obtain ⟨s',still,becomes⟩ := later.controlSignals.mem there
    exact ⟨s',still,becomes.signalType.trans type,becomes.agentId.trans agent,by rw [becomes.agentId]; exact named⟩
  · trivial

abbrev Durably (post : A → Database → Session → Prop) (x : Api A) : Database → Session → Prop :=
  x.Secure exec (fun _ => True) (fun _ => True) Later post

theorem any_durably (x : Api A) (db : Database) (l : Session) : Durably (fun _ _ _ => True) x db l :=
  (only_true x).secure (yields_true x) (fun s c db l _ _ _ => ⟨trivial,trivial,exec_later s c db l⟩) trivial

theorem query_durably {f : Except PgError s.Result → Api A} {post : A → Database → Session → Prop}
    (next : ∀ c db, Durably post (f (exec s c db l).1) (exec s c db l).2.1 (exec s c db l).2.2) :
    Durably post (query s >>= f) db l :=
  Secure.ask (fun c db _ => ⟨trivial,trivial,exec_later s c db l⟩) fun c db _ => next c db

theorem bind_durably {x : Api A} {f : A → Api B} {middle : A → Database → Session → Prop} {post : B → Database → Session → Prop}
    (first : Durably middle x db l) (then' : ∀ a db l, middle a db l → Durably post (f a) db l) : Durably post (x >>= f) db l :=
  Secure.bind Later.refl trivial trivial first fun a db l _ _ told => then' a db l told

-- What is known of an answer, in the state that it is given in and in every later one.
def Due (header : String) (route : Route) (response : Response) (db : Database) : Prop := Acknowledged header route response.body db

theorem refused_due (header : String) (route : Route) (status : Nat) (code : String) (db : Database) :
    Due header route ⟨status,.error code⟩ db := by
  unfold Due Acknowledged
  split <;> trivial

theorem writeError_durably (status : Nat) (code : String) (db : Database) (l : Session) :
    Durably (fun response db _ => Due header route response db) (writeError status code) db l :=
  fun _ _ _ => refused_due _ _ _ _ _

theorem due_durably (response : Response) (due : Due header route response db) :
    Durably (fun response db _ => Due header route response db) (Program.done response) db l :=
  fun _ _ later => Acknowledged.later due later

theorem agentByAPIKey_holds (ok : (exec (.agentByAPIKey token) c db l).1 = .ok (some a)) : Holds db ("Bearer " ++ token) a.id := by
  obtain ⟨listed,key,-⟩ := byAPIKey_found (Prod.mk.inj (Except.ok.inj (exec_ok ok))).1
  exact ⟨a,listed,rfl,by rw [key]⟩

-- What a lookup of the key tells.
def Authenticated (header : String) (result : Except Response (Option AuthInfo)) (db : Database) : Prop :=
  match result with
  | .error response => ∃ status code, response = ⟨status,.error code⟩
  | .ok none => True
  | .ok (some info) => info.agentID ≠ 0 → Holds db header info.agentID

theorem authenticate_durably (adminKey header : String) (db : Database) (l : Session) :
    Durably (fun result db _ => Authenticated header result db) (Authenticate adminKey header) db l := by
  by_cases bearer : ∃ token, header = "Bearer " ++ token
  · obtain ⟨token,rfl⟩ := bearer
    rw [authenticate_bearer]
    split
    · exact fun _ _ _ named => absurd rfl named
    · refine query_durably (s := .agentByAPIKey token) fun c db => ?_
      cases answer : (exec (.agentByAPIKey token) c db l).1 with
      | error => exact fun _ _ _ => ⟨_,_,rfl⟩
      | ok found =>
        cases found with
        | none => exact fun _ _ _ named => absurd rfl named
        | some a =>
          intro _ _ later
          dsimp only [authInfo]
          split
          · exact fun _ => ((agentByAPIKey_holds answer).later (exec_later _ c db l)).later later
          · exact ⟨_,_,rfl⟩
  · rw [authenticate_other adminKey fun token same => bearer ⟨token,same⟩]
    exact fun _ _ _ => trivial

theorem createAgentRow_durably (req : CreateAgentRequest) (db : Database) (l : Session) :
    Durably (fun result db _ => ∀ a, result = .ok a → (a.username = req.username ∧ a.scans = true) ∧ ∃ b ∈ db.agents, a.Becomes b)
      (CreateAgentRow req) db l := by
  refine query_durably (s := .randomBytes) fun c db => ?_
  cases (exec .randomBytes c db l).1 with
  | error => exact fun _ _ _ _ => nofun
  | ok bytes =>
    intro db _ _ c
    refine ⟨trivial,trivial,exec_later _ c db _,fun last _ later a ok => ?_⟩
    have done := exec_ok ok
    generalize (exec (.insertAgent req (generateAPIKey bytes)) c db _).2 = after at done later
    obtain ⟨own,grown,-⟩ := insertAgent_done done
    refine ⟨by rw [own]; exact ⟨rfl,rfl⟩,agent_later ⟨a,?_,.refl a⟩ later⟩
    rw [grown]
    exact List.mem_append_right _ (List.mem_singleton_self a)

theorem createAgent_durably (body : Option CreateAgentRequest) (db : Database) (l : Session) :
    Durably (fun response db _ => Due header (.createAgent body) response db) (CreateAgent body) db l := by
  cases body with
  | none => exact writeError_durably _ _ db l
  | some req =>
    unfold CreateAgent
    dsimp only
    split
    · exact writeError_durably _ _ db l
    · refine bind_durably (createAgentRow_durably req db l) fun result db l told => ?_
      cases result with
      | error => exact writeError_durably _ _ db l
      | ok a => exact due_durably ⟨201,.agent a⟩ (told a rfl)

theorem getAgent_there (ok : (exec (.getAgent target) c db l).1 = .ok a) :
    a.id = target ∧ a ∈ (exec (.getAgent target) c db l).2.1.agents := by
  have done := exec_ok ok
  generalize (exec (.getAgent target) c db l).2 = after at done ⊢
  simp only [perform] at done
  split at done <;> cases done
  rename_i found
  exact ⟨by simpa using List.find?_some found,List.mem_of_find?_eq_some found⟩

theorem updateAgent_there (ok : (exec (.updateAgent target req) c db l).1 = .ok a) :
    a.id = target ∧ a ∈ (exec (.updateAgent target req) c db l).2.1.agents := by
  have done := exec_ok ok
  generalize (exec (.updateAgent target req) c db l).2 = after at done ⊢
  obtain ⟨-,old,found,rfl,now,-⟩ := updateAgent_done done
  have same : old.id = target := by simpa using List.find?_some found
  rw [now]
  exact ⟨same,List.mem_map.mpr ⟨old,List.mem_of_find?_eq_some found,if_pos same⟩⟩

theorem scanned_ok {returned : Except PgError AgentRow} (ok : returned.bind AgentRow.scanned = .ok a) :
    returned = .ok a ∧ a.scans = true := by
  cases returned with
  | error => cases ok
  | ok row =>
    change row.scanned = .ok a at ok
    rw [AgentRow.scanned,ite_eq_iff] at ok
    rcases ok with ⟨scans,same⟩ | ⟨-,same⟩ <;> cases same
    exact ⟨rfl,scans⟩

theorem updateAgentRow_durably (target : Uuid) (req : UpdateAgentRequest) (db : Database) (l : Session) :
    Durably (fun result db _ => ∀ a, result = .ok a → (a.id = target ∧ a.scans = true) ∧ ∃ b ∈ db.agents, a.Becomes b)
      (UpdateAgentRow target req) db l := by
  unfold UpdateAgentRow
  split
  · intro db _ _ c
    refine ⟨trivial,trivial,exec_later _ c db _,fun last _ later a ok => ?_⟩
    obtain ⟨answered,scans⟩ := scanned_ok ok
    obtain ⟨own,there⟩ := getAgent_there answered
    exact ⟨⟨own,scans⟩,agent_later ⟨a,there,.refl a⟩ later⟩
  · intro db _ _ c
    refine ⟨trivial,trivial,exec_later _ c db _,fun last _ later a ok => ?_⟩
    obtain ⟨answered,scans⟩ := scanned_ok ok
    obtain ⟨own,there⟩ := updateAgent_there answered
    exact ⟨⟨own,scans⟩,agent_later ⟨a,there,.refl a⟩ later⟩

theorem updateAgent_durably (text : String) (body : Option UpdateAgentRequest) (db : Database) (l : Session) :
    Durably (fun response db _ => Due header (.updateAgent text body) response db) (UpdateAgent text body) db l := by
  unfold UpdateAgent
  split
  · exact writeError_durably _ _ db l
  · exact writeError_durably _ _ db l
  · rename_i id req parsed
    refine bind_durably (updateAgentRow_durably id req db l) fun result db l told => ?_
    cases result with
    | error => exact writeError_durably _ _ db l
    | ok a =>
      obtain ⟨⟨own,scans⟩,there⟩ := told a rfl
      exact due_durably ⟨200,.agent a⟩ ⟨⟨by rw [parsed,own],scans⟩,there⟩

-- The INSERT, then the read-back.
theorem storeMessage_durably {info : AuthInfo} (holds : Holds db header info.agentID) (content : String) (parent : Option Uuid)
    (notCreated notFetched : String) (l : Session) :
    Durably (fun response db _ => (∃ status code, response = ⟨status,.error code⟩) ∨
        ∃ row, response = ⟨201,.message row⟩ ∧ Posted header (some content) parent row db)
      (storeMessage info content parent notCreated notFetched) db l := by
  intro db _ moved c
  refine ⟨trivial,trivial,exec_later _ c db _,?_⟩
  cases answer : (exec (.insertMessage info.agentID content parent) c db l).1 with
  | error => exact fun _ _ _ => .inl ⟨_,_,rfl⟩
  | ok m =>
    have stored : m.content = content ∧ m.parentMsgId = parent ∧ m.agentId = info.agentID ∧
        m ∈ (exec (.insertMessage info.agentID content parent) c db l).2.1.messages := by
      have done := exec_ok answer
      generalize (exec (.insertMessage info.agentID content parent) c db l).2 = after at done ⊢
      obtain ⟨rfl,grown,-⟩ := insertMessage_done done
      exact ⟨rfl,rfl,rfl,by rw [grown]; exact List.mem_append_right _ (List.mem_singleton_self _)⟩
    have author := (holds.later moved).later (exec_later (.insertMessage info.agentID content parent) c db l)
    generalize (exec (.insertMessage info.agentID content parent) c db l).2 = after at stored author ⊢
    intro db _ moved c
    refine ⟨trivial,trivial,exec_later _ c db _,?_⟩
    cases fetched : (exec (.messageWithAgent m.id) c db after.2).1 with
    | error => exact fun _ _ _ => .inl ⟨_,_,rfl⟩
    | ok row =>
      obtain ⟨text,above,by',member⟩ := stored
      have posted : Posted header (some content) parent row db := by
        refine ⟨m,moved.messages.subset member,by rw [text],above,by rw [by']; exact author.later moved,fun shown same => ?_⟩
        cases same
        exact messageWithAgent_id fetched
      exact fun _ _ later => .inr ⟨row,rfl,(posted.later (exec_later _ c db _)).later later⟩

theorem createMessage_durably {info : AuthInfo} (holds : Holds db header info.agentID) (body : Option Json) (l : Session) :
    Durably (fun response db _ => Due header (.createMessage body) response db) (CreateMessage info body) db l := by
  unfold CreateMessage
  split
  · exact writeError_durably _ _ db l
  · rename_i content decoded
    split
    · exact writeError_durably _ _ db l
    · refine (storeMessage_durably holds content none _ _ l).imp fun response db l _ told => ?_
      obtain ⟨status,code,rfl⟩ | ⟨row,rfl,posted⟩ := told
      · exact refused_due _ _ _ _ _
      · change Posted header (body.bind decodeContent) none row db
        rw [decoded]
        exact posted

theorem respond_durably {info : AuthInfo} (holds : Holds db header info.agentID) (text : String) (body : Option Json) (l : Session) :
    Durably (fun response db _ => Due header (.respond text body) response db) (RespondToMessage info text body) db l := by
  unfold RespondToMessage
  split
  · exact writeError_durably _ _ db l
  · rename_i parent parsed
    split
    · exact writeError_durably _ _ db l
    · rename_i content decoded
      split
      · exact writeError_durably _ _ db l
      · refine (storeMessage_durably holds content (some parent) _ _ l).imp fun response db l _ told => ?_
        obtain ⟨status,code,rfl⟩ | ⟨row,rfl,posted⟩ := told
        · exact refused_due _ _ _ _ _
        · change Posted header (body.bind decodeContent) (Uuid.Parse text.toList) row db
          rw [decoded,parsed]
          exact posted

theorem commit_durably {f : Except PgError Unit → Api (Except PgError InvestigationWithTasks)} (stamped : Stamped row types tasks l)
    (failed : ∀ e, f (.error e) = .done (.error e)) (ok : f (.ok ()) = .done (.ok ⟨row,tasks⟩))
    (asked : row.question = req.question) (requested : types = requestedTypes req.taskTypes) :
    Durably (fun result db _ => ∀ inv, result = .ok inv → Opened req inv db) (query .commit >>= f) db l := by
  obtain ⟨now,opened,drafted,-⟩ := stamped
  refine query_durably (s := .commit) fun c db => ?_
  cases answer : (exec .commit c db l).1 with
  | error e =>
    rw [failed]
    exact fun _ _ _ _ => nofun
  | ok =>
    have done := exec_ok answer
    generalize (exec .commit c db l).2 = after at done ⊢
    obtain ⟨tx,opened',grown,-⟩ := commit_done done
    cases opened.symm.trans opened'
    have there : Opened req ⟨row,tasks⟩ after.1 := by
      refine ⟨asked,⟨row,?_,.refl row⟩,by rw [← requested]; exact drafted.types,fun t member => ⟨(drafted.rows t member).1,t,?_,.refl t⟩⟩
      · rw [grown]
        exact List.mem_append_right _ (List.mem_singleton_self row)
      · rw [grown]
        exact List.mem_append_right _ member
    rw [ok]
    intro last _ later inv same
    cases same
    exact there.later later

theorem createInvestigationTx_durably (req : CreateInvestigationRequest) (db : Database) (l : Session) :
    Durably (fun result db _ => ∀ inv, result = .ok inv → Opened req inv db) (CreateInvestigationTx req.question req.taskTypes) db l := by
  refine query_durably (s := .begin) fun c db => ?_
  cases answer : (exec .begin c db l).1 with
  | error => exact fun _ _ _ _ => nofun
  | ok =>
    have opened := begun answer
    generalize (exec .begin c db l).2.2 = l at opened
    refine query_durably (s := .insertInvestigation req.question) fun c db => ?_
    cases answer : (exec (.insertInvestigation req.question) c db l).1 with
    | error => exact fun _ _ _ _ => nofun
    | ok row =>
      have asked : row.question = req.question := by rw [(investigation_inserted answer opened).1]
      refine bind_durably (insertTasks_secure (fun _ => True) (Stamped row) trivial (fun _ _ _ _ => trivial)
        (fun s c db l _ _ => ⟨trivial,trivial,exec_later s c db l⟩) (fun _ _ _ _ _ _ _ _ _ => task_stamped) _
        (investigation_stamped answer opened)) fun result db l stamped => ?_
      cases result with
      | error => exact fun _ _ _ _ => nofun
      | ok tasks => exact commit_durably (stamped tasks rfl) (fun _ => rfl) rfl asked rfl

theorem createInvestigation_durably (body : Option CreateInvestigationRequest) (db : Database) (l : Session) :
    Durably (fun response db _ => Due header (.createInvestigation body) response db) (CreateInvestigation body) db l := by
  cases body with
  | none => exact writeError_durably _ _ db l
  | some req =>
    unfold CreateInvestigation
    dsimp only
    split
    · exact writeError_durably _ _ db l
    · refine bind_durably (createInvestigationTx_durably req db l) fun result db l told => ?_
      cases result with
      | error => exact writeError_durably _ _ db l
      | ok inv => exact due_durably ⟨201,.investigation inv⟩ (told inv rfl)

theorem getInvestigation_durably (target : Uuid) (db : Database) (l : Session) :
    Durably (fun result db _ => ∀ inv, result = .ok (some inv) → inv.investigation.id = target ∧ Known db target)
      (GetInvestigation target) db l := by
  refine query_durably (s := .investigation target) fun c db => ?_
  cases answer : (exec (.investigation target) c db l).1 with
  | error => exact fun _ _ _ _ => nofun
  | ok row => cases row with
    | none => exact fun _ _ _ _ => nofun
    | some row =>
      have read : db.investigationRow target = some row := (Prod.mk.inj (Except.ok.inj (exec_ok answer))).1
      have same := investigationRow_id read
      have known : Known db target := ⟨row,List.mem_of_find?_eq_some read,same⟩
      intro later _ moved c'
      refine ⟨trivial,trivial,exec_later _ c' later _,?_⟩
      cases (exec (.investigationTasks target) c' later _).1 with
      | error => exact fun _ _ _ _ => nofun
      | ok tasks =>
        intro last _ moved' inv found
        cases found
        exact ⟨same,known_later (known_later (known_later (known_later known (exec_later _ c db l)) moved) (exec_later _ c' later _)) moved'⟩

theorem triggerConsensus_durably (text : String) (db : Database) (l : Session) :
    Durably (fun response db _ => Due header (.triggerConsensus text) response db) (TriggerConsensus text) db l := by
  unfold TriggerConsensus
  cases parsed : Uuid.Parse text.toList with
  | none => exact writeError_durably _ _ db l
  | some target =>
    refine bind_durably (getInvestigation_durably target db l) fun result db l found => ?_
    split
    · exact writeError_durably _ _ db l
    · exact writeError_durably _ _ db l
    · rename_i inv
      obtain ⟨same,known⟩ := found inv rfl
      subst same
      split
      · exact writeError_durably _ _ db l
      · intro later _ moved c
        refine ⟨trivial,trivial,exec_later _ c later l,?_⟩
        have still := known_later (known_later known moved) (exec_later (.updateInvestigationStatus inv.investigation.id .consensus) c later l)
        cases (exec (.updateInvestigationStatus inv.investigation.id .consensus) c later l).1 with
        | error => exact writeError_durably _ _ _ _
        | ok => exact due_durably ⟨200,.investigation _⟩ ⟨parsed,still⟩

theorem controlTick_durably (text : String) (db : Database) (l : Session) :
    Durably (fun response db _ => Due header (.controlTick text) response db) (ControlTick text) db l := by
  unfold ControlTick
  cases parsed : Uuid.Parse text.toList with
  | none => exact writeError_durably _ _ db l
  | some agent =>
    refine query_durably (s := .insertSignal "force_tick" agent) fun c db => ?_
    cases answer : (exec (.insertSignal "force_tick" agent) c db l).1 with
    | error => exact writeError_durably _ _ _ _
    | ok =>
      have sent : ∃ s ∈ (exec (.insertSignal "force_tick" agent) c db l).2.1.controlSignals, s.signalType = "force_tick" ∧
          s.agentId = some agent := by
        have done := exec_ok answer
        generalize (exec (.insertSignal "force_tick" agent) c db l).2 = after at done ⊢
        simp only [perform] at done
        split at done
        · cases done
        · split at done <;> cases done
          exact ⟨_,List.mem_append_right _ (List.mem_singleton_self _),rfl,rfl⟩
      obtain ⟨s,member,type,named⟩ := sent
      exact due_durably ⟨200,.signalSent⟩ ⟨s,member,type,by rw [parsed,named],by rw [named]; rfl⟩

-- The routes that promise nothing that lasts.
theorem other_durably (route : Route) (none' : ∀ body db, Acknowledged header route body db) (x : Api Response) (db : Database)
    (l : Session) : Durably (fun response db _ => Due header route response db) x db l :=
  (any_durably x db l).imp fun _ _ _ _ _ => none' _ _

theorem requireAgent_durably {next : AuthInfo → Api Response} (told : ∀ i, info = some i → i.agentID ≠ 0 → Holds db header i.agentID)
    (served : ∀ i, Holds db header i.agentID → Durably (fun response db _ => Due header route response db) (next i) db l) :
    Durably (fun response db _ => Due header route response db) (RequireAgent info next) db l := by
  cases info with
  | none => exact writeError_durably _ _ db l
  | some i =>
    unfold RequireAgent
    dsimp only
    split
    · exact writeError_durably _ _ db l
    · rename_i named
      exact served i (told i rfl named)

theorem requireAdmin_durably {next : AuthInfo → Api Response}
    (served : ∀ i, Durably (fun response db _ => Due header route response db) (next i) db l) (info : Option AuthInfo) :
    Durably (fun response db _ => Due header route response db) (RequireAdmin info next) db l := by
  cases info with
  | none => exact writeError_durably _ _ db l
  | some i =>
    unfold RequireAdmin
    dsimp only
    split
    · exact served i
    · exact writeError_durably _ _ db l

theorem dispatch_durably (told : ∀ i, info = some i → i.agentID ≠ 0 → Holds db header i.agentID) (route : Route) (l : Session) :
    Durably (fun response db _ => Due header route response db) (dispatch info route) db l := by
  cases route with
  | createAgent body => exact requireAdmin_durably (fun _ => createAgent_durably body db l) info
  | updateAgent text body => exact requireAdmin_durably (fun _ => updateAgent_durably text body db l) info
  | createInvestigation body => exact requireAdmin_durably (fun _ => createInvestigation_durably body db l) info
  | triggerConsensus text => exact requireAdmin_durably (fun _ => triggerConsensus_durably text db l) info
  | controlTick text => exact requireAdmin_durably (fun _ => controlTick_durably text db l) info
  | createMessage body => exact requireAgent_durably told fun _ holds => createMessage_durably holds body l
  | respond text body => exact requireAgent_durably told fun _ holds => respond_durably holds text body l
  | endorse => exact other_durably _ (fun _ _ => by unfold Acknowledged; split <;> simp_all) _ db l
  | propagate => exact other_durably _ (fun _ _ => by unfold Acknowledged; split <;> simp_all) _ db l
  | pauseAll => exact other_durably _ (fun _ _ => by unfold Acknowledged; split <;> simp_all) _ db l
  | resumeAll => exact other_durably _ (fun _ _ => by unfold Acknowledged; split <;> simp_all) _ db l

theorem serve_durably (adminKey : String) (request : Request) (db : Database) (l : Session) :
    Durably (fun response db _ => Due request.authorization request.route response db) (serve adminKey request) db l := by
  refine bind_durably (authenticate_durably adminKey request.authorization db l) fun result db l authenticated => ?_
  cases result with
  | error response =>
    obtain ⟨status,code,rfl⟩ := authenticated
    exact writeError_durably status code db l
  | ok info =>
    refine dispatch_durably (fun i same named => ?_) request.route l
    subst same
    exact authenticated named

def AnswerDue (answer : Answer) (db : Database) : Prop := ∀ request response, answer = .response request response →
  Due request.authorization request.route response db

theorem starts_durably (starts : Starts adminKey runtime t x) (db : Database) :
    Durably (fun answer db _ => AnswerDue answer db) x db Session.fresh := by
  cases starts with
  | @request _ req =>
    refine bind_durably (serve_durably adminKey req db .fresh) fun response db l due => ?_
    intro last _ later request' response' same
    cases same
    exact Acknowledged.later due later
  | tick =>
    refine bind_durably (any_durably _ db .fresh) fun (result,agents) db l _ => ?_
    cases result with
    | ok => exact fun _ _ _ _ _ => nofun
    | error => exact fun _ _ _ _ _ => nofun

theorem answered_due (run : SystemRuns adminKey runtime (Pool.idle db) p)
    (answered : SystemStep adminKey runtime p (.answer t (.response request response)) next) : next.shared = p.shared ∧
      Acknowledged request.authorization request.route response.body p.shared := by
  have secured : (Pool.idle db : System).Secured exec (fun _ => True) (fun _ => True) Later fun _ answer db _ => AnswerDue answer db :=
    Pool.idle_secured trivial
  have begins (worker : Worker) (x : Api Answer) (db : Database) (starts : Starts adminKey runtime worker x) (_ : True) :=
    starts_durably starts db
  have before := (Pool.runs_secured Later.refl Later.trans begins trivial secured run).1
  obtain ⟨same,_,due⟩ := Pool.answered Later.refl before answered
  exact ⟨same,due request response rfl⟩

-- What is acknowledged is there when the answer is given, and in every later state.
theorem acknowledged_kept (run : SystemRuns adminKey runtime (Pool.idle db) p)
    (answered : SystemStep adminKey runtime p (.answer t (.response request response)) next)
    (later : SystemRuns adminKey runtime next q) :
    Acknowledged request.authorization request.route response.body p.shared ∧
      Acknowledged request.authorization request.route response.body q.shared := by
  obtain ⟨same,now⟩ := answered_due run answered
  refine ⟨now,now.later ?_⟩
  have moved := Pool.runs_along Later.refl Later.trans exec_later later
  rwa [same] at moved

-- A post is stored and answered.
theorem acknowledged_kept_sample : ∃ row : StreamRow, row.message.id = 7 ∧
    Posted "Bearer tk_agent_ada" (some "finding") none (some row) posted.shared := by
  obtain ⟨row,id,answered⟩ := stored_answer
  exact ⟨row,id,(acknowledged_kept stored_runs answered .start).2⟩

end Trokk
