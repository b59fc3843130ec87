import Trokk.Library.JsonType
import Trokk.AgentStats
import Trokk.PageQueries
import Trokk.StreamCache

-- What the GET handlers write, as encoding/json renders the structs of
-- internal/model/models.go, against the types under which ferr/src/lib/api/service.ts
-- hands it on.
namespace Trokk

-- encoding/json: a pointer or slice that is nil, an empty string and a zero number
-- are left out where the tag says omitempty.
def omitempty (name : String) (isEmpty : Bool) (value : Json) : List (String × Json) := if isEmpty then [] else [(name,value)]

def Uuid.json (id : Uuid) : Json := .str (String.ofList id.text)
def Time.json (t : Time) : Option Json := t.text.map fun text => .str (String.ofList text)
def intJson (n : Int) : Json := .num (toString n)

-- *time.Time with omitempty. A time that does not marshal fails the whole value.
def omitTime (name : String) : Option Time → Option (List (String × Json))
  | none => some []
  | some t => t.json.map fun value => [(name,value)]

def Agent.members (a : Agent) : Option (List (String × Json)) := do
  let created ← a.createdAt.json
  return [("id",a.id.json),("username",.str a.username),("display_name",.str a.displayName)] ++
    omitempty "description" (a.description = "") (.str a.description) ++
    a.personality.elim [] (fun personality => [("personality",personality)]) ++
    omitempty "api_key" (a.apiKey = "") (.str a.apiKey) ++ [("created_at",created),("active",.bool a.active)]

-- An embedded struct's members stand beside the outer struct's own.
def AgentWithStats.members (a : AgentWithStats) : Option (List (String × Json)) := do
  let agent ← a.toAgent.members
  let lastTick ← omitTime "last_tick" a.lastTick
  let nextTick ← omitTime "next_tick" a.nextTick
  return agent ++ [("message_count",intJson a.messageCount),("endorsements_given",intJson a.endorsementsGiven),
    ("endorsements_received",intJson a.endorsementsReceived),("propagations_given",intJson a.propagationsGiven),
    ("propagations_received",intJson a.propagationsReceived)] ++ lastTick ++ nextTick ++
    omitempty "interval_seconds" (a.intervalSeconds = 0) (intJson a.intervalSeconds)

def Message.members (m : Message) : Option (List (String × Json)) := do
  let created ← m.createdAt.json
  return [("id",m.id.json),("agent_id",m.agentId.json),("content",.str m.content)] ++
    m.parentMsgId.elim [] (fun parent => [("parent_msg_id",parent.json)]) ++ [("created_at",created)]

def MessageWithAgent.members (m : MessageWithAgent) : Option (List (String × Json)) := do
  let message ← m.toMessage.members
  return message ++ [("agent_username",.str m.agentUsername),("agent_display_name",.str m.agentDisplayName),
    ("endorsement_count",intJson m.endorsementCount),("propagation_count",intJson m.propagationCount),
    ("response_count",intJson m.responseCount)]

structure MessageWithThread extends MessageWithAgent where
  responses : List MessageWithAgent

def MessageWithThread.members (m : MessageWithThread) : Option (List (String × Json)) := do
  let message ← m.toMessageWithAgent.members
  let responses ← m.responses.mapM MessageWithAgent.members
  return message ++ omitempty "responses" m.responses.isEmpty (.arr (responses.map .obj))

structure ControlAgentStatus where
  agentId : Uuid
  username : String
  active : Bool
  lastTick : Option Time
  nextTick : Option Time
  intervalSeconds : Int

def ControlAgentStatus.members (s : ControlAgentStatus) : Option (List (String × Json)) := do
  let lastTick ← omitTime "last_tick" s.lastTick
  let nextTick ← omitTime "next_tick" s.nextTick
  return [("agent_id",s.agentId.json),("username",.str s.username),("active",.bool s.active)] ++ lastTick ++ nextTick ++
    [("interval_seconds",intJson s.intervalSeconds)]

structure ConfigFile where
  filename : String
  content : String

def ConfigFile.members (c : ConfigFile) : List (String × Json) := [("filename",.str c.filename),("content",.str c.content)]

-- One entry of the config directory; a file that cannot be read has no content.
structure DirEntry where
  name : String
  isDir : Bool
  content : Option String

-- All that the GET handlers read: the tables, the pages Redis would answer with,
-- the config directory, if it can be read, and the order of texts in the database.
structure ServerState where
  db : Database
  ticks : List TickRow
  redis : String → Option (List MessageWithAgent)
  configDir : Option (List DirEntry)
  collation : String → String → Bool

-- internal/store/pg/agents.go
def ListAgents (zone : Timestamptz → Int) (db : Database) (active : Option Bool) (page limit : Int) :
    Except PgError (List Agent × Nat) := do
  let rows ← (agentsQuery active page limit).run (fun a : AgentRow => a.active.map SqlArg.bool) AgentRow.created db.agents
  let agents ← rows.mapM (AgentRow.scan zone)
  return (agents,(db.agents.filter fun a => ∀ b ∈ active, a.active = some b).length)

-- internal/store/pg/interactions.go
def statusRows (s : ServerState) : List (AgentRow × Option TickRow) :=
  (s.db.agents.insertionSort fun a b => s.collation a.username b.username).flatMap fun a =>
    (Relational.leftJoin (fun t => decide (t.agentId = a.id)) s.ticks).map fun t => (a,t)

def scanStatus (zone : Timestamptz → Int) (row : AgentRow × Option TickRow) : Except PgError ControlAgentStatus :=
  match row.1.active with
  | none => .error .failed
  | some active => .ok ⟨row.1.id,row.1.username,active,(row.2.bind TickRow.lastTick).map (Time.scan zone),
      (row.2.bind TickRow.nextTick).map (Time.scan zone),(row.2.map TickRow.intervalSeconds).getD 600⟩

def GetControlStatus (zone : Timestamptz → Int) (s : ServerState) : Except PgError (List ControlAgentStatus) :=
  (statusRows s).mapM (scanStatus zone)

-- internal/stream/cache.go
def GetPage (zone : Timestamptz → Int) (s : ServerState) (r : PageRequest) : Except PgError PageReply :=
  match s.redis r.key with
  | some cached => .ok (hitReply cached)
  | none => (ListMessages zone s.db r.decoded r.filter r.pageLimit).map Page.reply

-- A value that does not marshal leaves the body empty after the status went out.
structure Written where
  status : Nat
  body : Option Json

namespace Handler

def writeError (status : Nat) (message : String) : Written := ⟨status,some (.obj [("error",.str message)])⟩

-- `page` and `limit` as strconv.Atoi returns them, with an error or without.
def ListAgents (zone : Timestamptz → Int) (s : ServerState) (page limit : Int) (active : String) : Written :=
  let page := if page < 1 then 1 else page
  let limit := if limit < 1 ∨ limit > 100 then 20 else limit
  match Trokk.ListAgents zone s.db (if active = "" then none else some (active = "true")) page limit with
  | .error _ => writeError 500 "failed_to_list_agents"
  | .ok (agents,total) => ⟨200,(agents.mapM Agent.members).map fun agents => .obj [("agents",.arr (agents.map .obj)),
      ("pagination",.obj [("limit",intJson limit),("page",intJson page),("total",intJson total)])]⟩

def GetAgent (zone : Timestamptz → Int) (s : ServerState) (idStr : String) : Written :=
  match Uuid.Parse idStr.toList with
  | none => writeError 400 "invalid_agent_id"
  | some id => match GetAgentWithStats zone s.db s.ticks id with
    | .error _ => writeError 404 "agent_not_found"
    | .ok agent => ⟨200,agent.members.map .obj⟩

def ListMessages (zone : Timestamptz → Int) (s : ServerState) (cursor : String) (limit : Int) (agentID : String) : Written :=
  match GetPage zone s ⟨cursor,if limit < 1 ∨ limit > 100 then 20 else limit,agentID⟩ with
  | .error _ => writeError 500 "failed_to_fetch_messages"
  | .ok reply => ⟨200,(reply.messages.mapM MessageWithAgent.members).map fun messages =>
      .obj [("has_more",.bool reply.hasMore),("messages",.arr (messages.map .obj)),("next_cursor",.str reply.nextCursor)]⟩

def GetMessage (zone : Timestamptz → Int) (s : ServerState) (idStr : String) : Written :=
  match Uuid.Parse idStr.toList with
  | none => writeError 400 "invalid_message_id"
  | some id => match GetMessageWithAgent zone s.db id with
    | none => writeError 404 "message_not_found"
    | some msg => ⟨200,(MessageWithThread.mk msg (GetResponses zone s.db id)).members.map .obj⟩

def ControlStatus (zone : Timestamptz → Int) (s : ServerState) : Written :=
  match GetControlStatus zone s with
  | .error _ => writeError 500 "failed_to_get_status"
  | .ok statuses => ⟨200,(statuses.mapM ControlAgentStatus.members).map fun statuses => .arr (statuses.map .obj)⟩

-- filepath.Ext: the suffix from the last dot of the name on.
def ext (name : String) : String := String.ofList ((name.toList.reverse.span (· ≠ '.')).2.head?.elim []
  fun dot => dot :: (name.toList.reverse.takeWhile (· ≠ '.')).reverse)

def ControlConfigs (s : ServerState) : Written :=
  match s.configDir with
  | none => writeError 500 "failed_to_read_config_dir"
  | some entries => ⟨200,some (.arr ((entries.filterMap fun entry =>
      if entry.isDir then none
      else if ext entry.name ≠ ".yaml" ∧ ext entry.name ≠ ".yml" then none
      else entry.content.map fun data => ConfigFile.mk entry.name data).map fun config => .obj config.members))⟩

end Handler

-- ferr/src/lib/api/types.ts; true marks a field declared with a question mark.
namespace Types

def AgentPersonality : JsonType := .record [("domain",false,.string),("temperament",false,.string),
  ("communication_style",false,.string),("knowledge_datasets",false,.array .string)]

def agentFields : List (String × Bool × JsonType) := [("id",false,.string),("username",false,.string),
  ("display_name",false,.string),("description",false,.string),("personality",false,AgentPersonality),
  ("api_key",true,.string),("created_at",false,.string),("active",false,.boolean)]

def statsFields : List (String × Bool × JsonType) := [("message_count",false,.number),
  ("endorsements_received",false,.number),("propagations_received",false,.number),("response_count",false,.number)]

def Agent : JsonType := .record agentFields
def AgentWithStats : JsonType := .record (agentFields ++ [("stats",false,.record statsFields)])

def messageFields : List (String × Bool × JsonType) := [("id",false,.string),("agent_id",false,.string),
  ("agent_username",false,.string),("agent_display_name",false,.string),("content",false,.string),
  ("parent_msg_id",false,.nullable .string),("endorsement_count",false,.number),("propagation_count",false,.number),
  ("response_count",false,.number),("created_at",false,.string)]

def MessageResponse : JsonType := .record messageFields
def MessageDetail : JsonType := .record (messageFields ++ [("responses",false,.array MessageResponse)])

def CursorPaginatedMessages : JsonType := .record [("messages",false,.array MessageResponse),
  ("next_cursor",false,.nullable .string),("has_more",false,.boolean)]

def SchedulerStatus : JsonType := .record [("agent_id",false,.string),("agent_username",false,.string),
  ("agent_display_name",false,.string),("active",false,.boolean),("next_tick",false,.nullable .string),
  ("last_tick",false,.nullable .string),("interval_seconds",false,.number)]

def CronConfig : JsonType := .record [("filename",false,.string),("content",false,.string)]

end Types

-- ferr/src/lib/api/service.ts, as far as it reads. An id, a cursor and an agent id are
-- what the handler makes of the URL; one left out is empty.
inductive ServiceCall where
  | getAgents
  | getAgent (id : String)
  | getMessages (cursor agentId : String)
  | getMessage (id : String)
  | getSchedulerStatus
  | getCronConfigs

namespace ServiceCall

def written (zone : Timestamptz → Int) (s : ServerState) : ServiceCall → Written
  | getAgents => Handler.ListAgents zone s 0 0 ""
  | getAgent id => Handler.GetAgent zone s id
  | getMessages cursor agentId => Handler.ListMessages zone s cursor 0 agentId
  | getMessage id => Handler.GetMessage zone s id
  | getSchedulerStatus => Handler.ControlStatus zone s
  | getCronConfigs => Handler.ControlConfigs s

-- client.ts throws unless the status is one of success, and where the body does not parse.
def received (zone : Timestamptz → Int) (s : ServerState) (call : ServiceCall) : Option Json :=
  let res := call.written zone s
  if 200 ≤ res.status ∧ res.status < 300 then res.body else none

-- res.data.agents, res.data.configs, else res.data.
def read : ServiceCall → Json → Option Json
  | getAgents,data => data.field "agents"
  | getCronConfigs,data => data.field "configs"
  | _,data => some data

def type : ServiceCall → JsonType
  | getAgents => .array Types.Agent
  | getAgent _ => Types.AgentWithStats
  | getMessages _ _ => Types.CursorPaginatedMessages
  | getMessage _ => Types.MessageDetail
  | getSchedulerStatus => .array Types.SchedulerStatus
  | getCronConfigs => .array Types.CronConfig

-- The object has what the call's type promises, where the call looks for it.
def Reads (call : ServiceCall) (data : Json) : Prop := ∃ value, call.read data = some value ∧ Json.HasType call.type value = true

end ServiceCall

-- A personality as the dashboard's own form fills it in.
def Profile (personality : Json) : Prop := ∃ (members : List (String × Json)) (domain temperament style : String) (datasets : List String),
  personality = .obj members ∧
  Json.member "domain" members = some (.str domain) ∧ Json.member "temperament" members = some (.str temperament) ∧
  Json.member "communication_style" members = some (.str style) ∧
  Json.member "knowledge_datasets" members = some (.arr (datasets.map .str))

def Described (a : AgentRow) : Prop := a.description ≠ some "" ∧ ∃ personality, a.personality = some personality ∧ Profile personality

-- The rows that a first page of agents shows.
def newestAgents (db : Database) : List AgentRow := (Keyset.newestFirst AgentRow.created db.agents).take 20

-- Which states let the call have what it declares.
def ServiceCall.Decodable (s : ServerState) : ServiceCall → Prop
  | getAgents => ∀ a ∈ newestAgents s.db, Described a
  | getAgent _ => False
  | getMessages cursor agentId =>
    let r : PageRequest := ⟨cursor,20,agentId⟩
    match s.redis r.key with
    | some cached => ∀ m ∈ cached, m.parentMsgId.isSome
    | none => ∀ m ∈ (fetched s.db r.decoded r.filter 20).take 20, m.parentMsgId.isSome
  | getMessage id => ∃ m ∈ s.db.messages, Uuid.Parse id.toList = some m.id ∧ m.parentMsgId.isSome ∧
      ∃ r ∈ s.db.messages, r.parentMsgId = some m.id
  | getSchedulerStatus => s.db.agents = []
  | getCronConfigs => False

section
variable {zone : Timestamptz → Int} {s : ServerState} {data : Json}

theorem time_json {t : Time} (marshals : t.json = some value) : ∃ text, value = .str text := by
  obtain ⟨text,-,rfl⟩ := Option.map_eq_some_iff.mp marshals
  exact ⟨_,rfl⟩

theorem text_item {item : Json} : Json.HasType .string item = true ↔ ∃ text, item = .str text := by
  cases item <;> simp [Json.HasType]

theorem texts {items : List Json} : Json.HasType (.array .string) (.arr items) = true ↔ ∃ texts : List String, items = texts.map .str := by
  rw [Json.array_items]
  constructor
  · intro all
    induction items with
    | nil => exact ⟨[],rfl⟩
    | cons head rest ih =>
      obtain ⟨text,rfl⟩ := text_item.mp (all _ List.mem_cons_self)
      obtain ⟨more,rfl⟩ := ih fun value member => all value (List.mem_cons_of_mem _ member)
      exact ⟨text :: more,rfl⟩
  · rintro ⟨texts,rfl⟩ value member
    obtain ⟨text,-,rfl⟩ := List.mem_map.mp member
    rfl

theorem text_array {value : Json} : Json.HasType (.array .string) value = true ↔ ∃ texts : List String, value = .arr (texts.map .str) := by
  cases value with
  | arr items => rw [texts]; simp
  | _ => simp [Json.HasType]

theorem personality_type {p : Json} : Json.HasType Types.AgentPersonality p = true ↔ Profile p := by
  rw [Types.AgentPersonality,Json.record_fields]
  constructor
  · rintro ⟨members,rfl,fields⟩
    simp only [Json.hasFields_iff,List.forall_mem_cons,Bool.false_eq_true,and_false,false_or,text_item,text_array] at fields
    obtain ⟨⟨_,domain,text,rfl⟩,⟨_,temperament,text',rfl⟩,⟨_,style,text'',rfl⟩,⟨_,datasets,texts,rfl⟩,-⟩ := fields
    exact ⟨members,text,text',text'',texts,rfl,domain,temperament,style,datasets⟩
  · rintro ⟨members,text,text',text'',texts,rfl,domain,temperament,style,datasets⟩
    refine ⟨members,rfl,?_⟩
    simp only [Json.hasFields_iff,List.forall_mem_cons,Bool.false_eq_true,and_false,false_or,text_item,text_array]
    exact ⟨⟨_,domain,text,rfl⟩,⟨_,temperament,text',rfl⟩,⟨_,style,text'',rfl⟩,⟨_,datasets,texts,rfl⟩,nofun⟩

-- The members that omitempty and nil leave out are the ones that can be missed.
theorem agent_fields {a : Agent} (encoded : a.members = some members) : Json.HasFields Types.agentFields members = true ↔
    a.description ≠ "" ∧ ∃ personality, a.personality = some personality ∧ Profile personality := by
  obtain ⟨created,time,same⟩ := Option.bind_eq_some_iff.mp encoded
  cases same
  obtain ⟨text,rfl⟩ := time_json time
  by_cases silent : a.description = "" <;> by_cases keyless : a.apiKey = "" <;> cases profile : a.personality <;>
    simp [silent,keyless,omitempty,Uuid.json,Types.agentFields,Json.HasFields,Json.HasType,Json.member,personality_type]

theorem message_fields {m : MessageWithAgent} (encoded : m.members = some members) :
    Json.HasFields Types.messageFields members = true ↔ m.parentMsgId.isSome := by
  obtain ⟨message,inner,same⟩ := Option.bind_eq_some_iff.mp encoded
  cases same
  obtain ⟨created,time,same⟩ := Option.bind_eq_some_iff.mp inner
  cases same
  obtain ⟨text,rfl⟩ := time_json time
  cases parent : m.parentMsgId <;>
    simp [Uuid.json,intJson,Types.messageFields,Json.HasFields,Json.HasType,Json.member]

theorem messages_type {messages : List MessageWithAgent} (encoded : messages.mapM MessageWithAgent.members = some items) :
    Json.HasType (.array Types.MessageResponse) (.arr (items.map .obj)) = true ↔ ∀ m ∈ messages, m.parentMsgId.isSome := by
  rw [Json.array_items,List.forall_mem_map,Types.MessageResponse]
  refine Json.forall_told (Json.mapM_option encoded) fun m members own => ?_
  rw [Json.HasType]
  exact message_fields own

theorem agents_type {agents : List Agent} (encoded : agents.mapM Agent.members = some items) :
    Json.HasType (.array Types.Agent) (.arr (items.map .obj)) = true ↔
      ∀ a ∈ agents, a.description ≠ "" ∧ ∃ personality, a.personality = some personality ∧ Profile personality := by
  rw [Json.array_items,List.forall_mem_map,Types.Agent]
  refine Json.forall_told (Json.mapM_option encoded) fun a members own => ?_
  rw [Json.HasType]
  exact agent_fields own

theorem answered_body {call : ServiceCall} (answered : call.received zone s = some data) :
    ∃ status < 300, call.written zone s = ⟨status,some data⟩ := by
  simp only [ServiceCall.received,Option.ite_none_right_eq_some] at answered
  exact ⟨_,answered.1.2,congrArg (Written.mk _) answered.2⟩

theorem error_unsuccessful (written : Handler.writeError code message = ⟨status,body⟩) (failure : 400 ≤ code) : ¬ status < 300 := by
  cases written
  omega

theorem scanned {a : AgentRow} {agent : Agent} (read : a.scan zone = .ok agent) :
    (agent.description ≠ "" ∧ ∃ personality, agent.personality = some personality ∧ Profile personality) ↔ Described a := by
  obtain ⟨scans,rfl⟩ := AgentRow.scan_scans read
  obtain ⟨description,text⟩ : ∃ description, a.description = some description := by
    rw [← Option.isSome_iff_exists]
    simp only [AgentRow.scans,Bool.and_eq_true] at scans
    exact scans.1.1
  simp [Described,AgentRow.shown,text]

theorem newest_listed (listed : ListAgents zone db none 1 20 = .ok (agents,total)) :
    List.Forall₂ (fun row agent => row.scan zone = .ok agent) (newestAgents db) agents := by
  have everyone : db.agents.filter (fun a => decide (∀ b ∈ (none : Option Bool), a.active = some b)) = db.agents := by simp
  have rows : (agentsQuery none 1 20).run (fun a : AgentRow => a.active.map SqlArg.bool) AgentRow.created db.agents =
      .ok (newestAgents db) := by
    refine (@agents_read db none 1 20 (by decide)).trans ?_
    rw [everyone]
    rfl
  rw [ListAgents,rows,everyone] at listed
  change ((newestAgents db).mapM (AgentRow.scan zone) >>= fun agents => pure (agents,db.agents.length)) = .ok (agents,total) at listed
  cases scans : (newestAgents db).mapM (AgentRow.scan zone) with
  | error => rw [scans] at listed; cases listed
  | ok more =>
    rw [scans] at listed
    cases listed
    exact Json.mapM_except scans

theorem getAgents_decoded (answered : ServiceCall.getAgents.received zone s = some data) :
    ServiceCall.getAgents.Reads data ↔ ServiceCall.getAgents.Decodable s := by
  obtain ⟨status,success,written⟩ := answered_body answered
  have asked : ServiceCall.getAgents.written zone s = match ListAgents zone s.db none 1 20 with
      | .error _ => Handler.writeError 500 "failed_to_list_agents"
      | .ok (agents,total) => ⟨200,(agents.mapM Agent.members).map fun agents => .obj [("agents",.arr (agents.map .obj)),
        ("pagination",.obj [("limit",intJson 20),("page",intJson 1),("total",intJson total)])]⟩ := rfl
  rw [asked] at written
  cases listed : ListAgents zone s.db none 1 20 with
  | error =>
    rw [listed] at written
    exact absurd success (error_unsuccessful written (by decide))
  | ok answer =>
    obtain ⟨agents,total⟩ := answer
    rw [listed] at written
    obtain ⟨items,encoded,rfl⟩ := Option.map_eq_some_iff.mp (congrArg Written.body written)
    have found : ServiceCall.getAgents.Reads (.obj [("agents",.arr (items.map .obj)),
        ("pagination",.obj [("limit",intJson 20),("page",intJson 1),("total",intJson total)])]) ↔
          Json.HasType (.array Types.Agent) (.arr (items.map .obj)) = true := by
      simp [ServiceCall.Reads,ServiceCall.read,ServiceCall.type,Json.field,Json.member]
    rw [found,agents_type encoded]
    exact Json.forall_told (newest_listed listed) fun _ _ read => scanned read

theorem omitTime_member {t : Option Time} (encoded : omitTime name t = some members) (other : name ≠ key) :
    Json.member key members = none := by
  cases t with
  | none => cases encoded; rfl
  | some t =>
    obtain ⟨value,-,rfl⟩ := Option.map_eq_some_iff.mp encoded
    simp [Json.member,other]

-- The statistics stand beside the agent's own members, never under a name of their own.
theorem stats_absent {a : AgentWithStats} (encoded : a.members = some members) : Json.member "stats" members = none := by
  obtain ⟨agent,inner,rest⟩ := Option.bind_eq_some_iff.mp encoded
  obtain ⟨lastTick,last,rest⟩ := Option.bind_eq_some_iff.mp rest
  obtain ⟨nextTick,next,same⟩ := Option.bind_eq_some_iff.mp rest
  cases same
  obtain ⟨created,-,same⟩ := Option.bind_eq_some_iff.mp inner
  cases same
  have noLast := omitTime_member last (by decide : "last_tick" ≠ "stats")
  have noNext := omitTime_member next (by decide : "next_tick" ≠ "stats")
  by_cases silent : a.description = "" <;> by_cases keyless : a.apiKey = "" <;> by_cases still : a.intervalSeconds = 0 <;>
    cases a.personality <;> simp [silent,keyless,still,omitempty,Json.member,noLast,noNext]

theorem getAgent_decoded (answered : (ServiceCall.getAgent idStr).received zone s = some data) :
    ¬ (ServiceCall.getAgent idStr).Reads data := by
  obtain ⟨status,success,written⟩ := answered_body answered
  rw [ServiceCall.written,Handler.GetAgent] at written
  split at written
  · exact absurd success (error_unsuccessful written (by decide))
  · split at written
    · exact absurd success (error_unsuccessful written (by decide))
    · obtain ⟨members,encoded,rfl⟩ := Option.map_eq_some_iff.mp (congrArg Written.body written)
      rintro ⟨value,found,fits⟩
      cases found
      have required : ("stats",false,.record Types.statsFields) ∈ Types.agentFields ++ [("stats",false,.record Types.statsFields)] :=
        List.mem_append_right _ (List.mem_singleton_self _)
      rw [ServiceCall.type,Types.AgentWithStats,Json.HasType,Json.field_missing required (stats_absent encoded)] at fits
      cases fits

theorem GetPage_parents (valid : s.db.Valid) {r : PageRequest} (served : GetPage zone s r = .ok reply) :
    (∀ m ∈ reply.messages, m.parentMsgId.isSome) ↔ match s.redis r.key with
      | some cached => ∀ m ∈ cached, m.parentMsgId.isSome
      | none => ∀ m ∈ (fetched s.db r.decoded r.filter r.pageLimit).take r.pageLimit, m.parentMsgId.isSome := by
  unfold GetPage at served
  cases hit : s.redis r.key with
  | some cached =>
    rw [hit] at served
    cases served
    exact Iff.rfl
  | none =>
    rw [hit] at served
    simp only [ListMessages_spec valid] at served
    cases served
    exact List.forall_mem_map

theorem getMessages_decoded (valid : s.db.Valid) (answered : (ServiceCall.getMessages cursor agentId).received zone s = some data) :
    (ServiceCall.getMessages cursor agentId).Reads data ↔ (ServiceCall.getMessages cursor agentId).Decodable s := by
  obtain ⟨status,success,written⟩ := answered_body answered
  rw [ServiceCall.written,Handler.ListMessages] at written
  split at written
  · exact absurd success (error_unsuccessful written (by decide))
  · rename_i reply served
    obtain ⟨items,encoded,rfl⟩ := Option.map_eq_some_iff.mp (congrArg Written.body written)
    have found : (ServiceCall.getMessages cursor agentId).Reads (.obj [("has_more",.bool reply.hasMore),
        ("messages",.arr (items.map .obj)),("next_cursor",.str reply.nextCursor)]) ↔
          Json.HasType (.array Types.MessageResponse) (.arr (items.map .obj)) = true := by
      simp [ServiceCall.Reads,ServiceCall.read,ServiceCall.type,Types.CursorPaginatedMessages,Json.HasFields,Json.member,
        Json.HasType]
    rw [found,messages_type encoded]
    exact GetPage_parents valid served

-- A response has its parent, so only the message itself can lack one.
theorem thread_fields {m : MessageWithThread} (encoded : m.members = some members)
    (responses : ∀ r ∈ m.responses, r.parentMsgId.isSome) :
    Json.HasType Types.MessageDetail (.obj members) = true ↔ m.parentMsgId.isSome ∧ m.responses ≠ [] := by
  obtain ⟨message,inner,rest⟩ := Option.bind_eq_some_iff.mp encoded
  obtain ⟨items,listed,same⟩ := Option.bind_eq_some_iff.mp rest
  cases same
  have own := message_fields inner
  have typed := (messages_type listed).mpr responses
  have unthreaded : Json.member "responses" message = none := by
    obtain ⟨bare,core,same⟩ := Option.bind_eq_some_iff.mp inner
    cases same
    obtain ⟨created,-,same⟩ := Option.bind_eq_some_iff.mp core
    cases same
    cases m.parentMsgId <;> simp [Json.member]
  rw [Types.MessageDetail,Json.HasType,Json.hasFields_append,Bool.and_eq_true]
  cases some' : m.responses with
  | nil => simp [omitempty,Json.HasFields,unthreaded]
  | cons first others =>
    rw [omitempty,List.isEmpty_cons,if_neg Bool.false_ne_true,Json.hasFields_beside (by decide),own]
    simp [Json.HasFields,Json.member,typed]

theorem got_row (valid : db.Valid) (got : GetMessageWithAgent zone db target = some msg) :
    ∃ m ∈ db.messages, m.id = target ∧ msg.parentMsgId = m.parentMsgId := by
  rw [GetMessageWithAgent,streamRows_map valid,List.head?_map] at got
  obtain ⟨row,first,rfl⟩ := Option.map_eq_some_iff.mp got
  obtain ⟨member,own⟩ := List.mem_filter.mp (List.mem_of_head? first)
  obtain ⟨m,present,rfl⟩ := List.mem_map.mp member
  exact ⟨m,present,of_decide_eq_true own,rfl⟩

theorem mem_responses (valid : db.Valid) {r : MessageWithAgent} : r ∈ GetResponses zone db target ↔
    ∃ m ∈ db.messages, m.parentMsgId = some target ∧ (messageRow db m).scan zone = r := by
  simp only [GetResponses,streamRows_map valid,List.mem_map,List.mem_insertionSort,List.mem_filter,decide_eq_true_eq]
  constructor
  · rintro ⟨_,⟨⟨m,present,rfl⟩,own⟩,rfl⟩
    exact ⟨m,present,own,rfl⟩
  · rintro ⟨m,present,own,rfl⟩
    exact ⟨_,⟨⟨m,present,rfl⟩,own⟩,rfl⟩

theorem getMessage_decoded (valid : s.db.Valid) (answered : (ServiceCall.getMessage idStr).received zone s = some data) :
    (ServiceCall.getMessage idStr).Reads data ↔ (ServiceCall.getMessage idStr).Decodable s := by
  obtain ⟨status,success,written⟩ := answered_body answered
  rw [ServiceCall.written,Handler.GetMessage] at written
  split at written
  · exact absurd success (error_unsuccessful written (by decide))
  · rename_i target parsed
    split at written
    · exact absurd success (error_unsuccessful written (by decide))
    · rename_i msg got
      obtain ⟨members,encoded,rfl⟩ := Option.map_eq_some_iff.mp (congrArg Written.body written)
      have found : (ServiceCall.getMessage idStr).Reads (.obj members) ↔ Json.HasType Types.MessageDetail (.obj members) = true := by
        simp [ServiceCall.Reads,ServiceCall.read,ServiceCall.type]
      have parented : ∀ r ∈ GetResponses zone s.db target, r.parentMsgId.isSome := by
        intro r member
        obtain ⟨m,-,own,rfl⟩ := (mem_responses valid).mp member
        exact Option.isSome_of_mem own
      obtain ⟨m,present,rfl,same⟩ := got_row valid got
      rw [found,thread_fields encoded parented]
      constructor
      · rintro ⟨child,nonempty⟩
        obtain ⟨r,member⟩ := List.exists_mem_of_ne_nil _ nonempty
        obtain ⟨row,there,own,-⟩ := (mem_responses valid).mp member
        exact ⟨m,present,parsed,same ▸ child,row,there,own⟩
      · rintro ⟨other,present',parsed',child,row,there,own⟩
        cases List.inj_on_of_nodup_map valid.messageIds present' present (Option.some.inj (parsed'.symm.trans parsed))
        exact ⟨same ▸ child,List.ne_nil_of_mem ((mem_responses valid).mpr ⟨row,there,own,rfl⟩)⟩

theorem status_untyped {status : ControlAgentStatus} (encoded : status.members = some members) :
    Json.HasType Types.SchedulerStatus (.obj members) = false := by
  obtain ⟨lastTick,last,rest⟩ := Option.bind_eq_some_iff.mp encoded
  obtain ⟨nextTick,next,same⟩ := Option.bind_eq_some_iff.mp rest
  cases same
  have noLast := omitTime_member last (by decide : "last_tick" ≠ "agent_username")
  have noNext := omitTime_member next (by decide : "next_tick" ≠ "agent_username")
  have required : ("agent_username",false,.string) ∈ [("agent_id",false,.string),("agent_username",false,.string),
      ("agent_display_name",false,.string),("active",false,.boolean),("next_tick",false,.nullable .string),
      ("last_tick",false,.nullable .string),("interval_seconds",false,JsonType.number)] := List.mem_cons_of_mem _ List.mem_cons_self
  rw [Types.SchedulerStatus,Json.HasType,Json.field_missing required]
  simp [Json.member,noLast,noNext]

theorem getSchedulerStatus_decoded (answered : ServiceCall.getSchedulerStatus.received zone s = some data) :
    ServiceCall.getSchedulerStatus.Reads data ↔ ServiceCall.getSchedulerStatus.Decodable s := by
  obtain ⟨status,success,written⟩ := answered_body answered
  rw [ServiceCall.written,Handler.ControlStatus] at written
  split at written
  · exact absurd success (error_unsuccessful written (by decide))
  rename_i statuses listed
  obtain ⟨items,encoded,rfl⟩ := Option.map_eq_some_iff.mp (congrArg Written.body written)
  have found : ServiceCall.getSchedulerStatus.Reads (.arr (items.map .obj)) ↔
      ∀ members ∈ items, Json.HasType Types.SchedulerStatus (.obj members) = true := by
    simp [ServiceCall.Reads,ServiceCall.read,ServiceCall.type,Json.array_items]
  have none' : (∀ members ∈ items, Json.HasType Types.SchedulerStatus (.obj members) = true) ↔
      ∀ status ∈ statuses, False :=
    Json.forall_told (Json.mapM_option encoded) fun status members own => by simp [status_untyped own]
  have rows : (∀ status ∈ statuses, False) ↔ ∀ row ∈ statusRows s, False :=
    Json.forall_told (Json.mapM_except listed) fun _ _ _ => Iff.rfl
  rw [found,none',rows]
  constructor
  · intro silent
    refine List.eq_nil_iff_forall_not_mem.mpr fun a member => ?_
    obtain ⟨tick,joined⟩ := Relational.leftJoin_nonempty (fun t : TickRow => decide (t.agentId = a.id)) s.ticks
    exact silent _ (List.mem_flatMap.mpr ⟨a,(List.mem_insertionSort _).mpr member,List.mem_map_of_mem joined⟩)
  · intro empty row member
    simp [statusRows,show s.db.agents = [] from empty] at member

theorem getCronConfigs_decoded (answered : ServiceCall.getCronConfigs.received zone s = some data) :
    ¬ ServiceCall.getCronConfigs.Reads data := by
  obtain ⟨status,success,written⟩ := answered_body answered
  rw [ServiceCall.written,Handler.ControlConfigs] at written
  split at written
  · exact absurd success (error_unsuccessful written (by decide))
  · cases written
    rintro ⟨value,found,-⟩
    cases found

-- Whatever object a handler writes, what the client's types ask of it is there just
-- where the state happens to fill in the members that the server may leave out.
theorem service_decodes_iff (valid : s.db.Valid) (call : ServiceCall) (answered : call.received zone s = some data) :
    call.Reads data ↔ call.Decodable s := by
  cases call with
  | getAgents => exact getAgents_decoded answered
  | getAgent id => exact iff_false_intro (getAgent_decoded answered)
  | getMessages cursor agentId => exact getMessages_decoded valid answered
  | getMessage id => exact getMessage_decoded valid answered
  | getSchedulerStatus => exact getSchedulerStatus_decoded answered
  | getCronConfigs => exact iff_false_intro (getCronConfigs_decoded answered)

def ServerState.sample : ServerState := ⟨.sample,[],fun _ => none,some [],fun _ _ => true⟩

def statusSample (id : Uuid) (username : String) : Json :=
  .obj [("agent_id",id.json),("username",.str username),("active",.bool true),("interval_seconds",.num "600")]

theorem service_decodes_iff_sample :
    ServiceCall.getSchedulerStatus.received (fun _ => 0) .sample = some (.arr [statusSample 1 "ada",statusSample 2 "bob"]) ∧
      (ServiceCall.getSchedulerStatus.Reads (.arr [statusSample 1 "ada",statusSample 2 "bob"]) ↔
        ServiceCall.getSchedulerStatus.Decodable .sample) := by
  have answered : ServiceCall.getSchedulerStatus.received (fun _ => 0) .sample =
      some (.arr [statusSample 1 "ada",statusSample 2 "bob"]) := by decide +kernel
  exact ⟨answered,service_decodes_iff Database.sample_valid .getSchedulerStatus answered⟩

-- The newest page of a stream that begins with messages of no parent.
theorem message_without_parent : ¬ ∀ (s : ServerState) (call : ServiceCall) (data : Json), s.db.Valid →
    call.received (fun _ => 0) s = some data → call.Reads data := by
  intro decodes
  have answers : ((ServiceCall.getMessages "" "").received (fun _ => 0) .sample).isSome := by decide +kernel
  obtain ⟨data,answered⟩ := Option.isSome_iff_exists.mp answers
  have parents : ∀ m ∈ (fetched .sample none none 20).take 20, m.parentMsgId.isSome :=
    (getMessages_decoded Database.sample_valid answered).mp (decodes .sample _ data Database.sample_valid answered)
  exact absurd parents (by decide)

end
end Trokk
