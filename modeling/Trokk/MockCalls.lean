import Trokk.ClientTypes
import Trokk.MockRuns

-- The functions of ferr/src/lib/api/service.ts over client.ts in mock mode, where what
-- the store answers is cast to the type that the function declares.
namespace Trokk.Mock
open Relational

inductive Call where
  | getHealth | getAgents | getAgent (id : String) | createAgent (data : AgentCreateRequest) | updateAgent (id : String) (data : Body)
  | getMessages (cursor agentId : Option String) | getMessage (id : String) | endorseMessage (id : String) | propagateMessage (id : String)
  | getSchedulerStatus | triggerAgentTick (agentId : String) | pauseAllAgents | resumeAllAgents | getCronConfigs

def get (path : String) : Request := ⟨.GET,path,none⟩
def post (path : String) (body : Option Body) : Request := ⟨.POST,path,body⟩
def patch (path : String) (body : Option Body) : Request := ⟨.PATCH,path,body⟩

namespace Call

def request : Call → Request
  | getHealth => get "/health"
  | getAgents => get "/agents"
  | getAgent id => get ("/agents/" ++ id)
  | createAgent data => post "/agents" (some (.create data))
  | updateAgent id data => patch ("/agents/" ++ id) (some data)
  | getMessages cursor agentId => get (getMessagesPath cursor agentId)
  | getMessage id => get ("/messages/" ++ id)
  | endorseMessage id => post ("/messages/" ++ id ++ "/endorse") none
  | propagateMessage id => post ("/messages/" ++ id ++ "/propagate") none
  | getSchedulerStatus => get "/control/status"
  | triggerAgentTick agentId => post ("/control/tick/" ++ agentId) none
  | pauseAllAgents => post "/control/pause-all" none
  | resumeAllAgents => post "/control/resume-all" none
  | getCronConfigs => get "/control/configs"

-- res.data, or a member of it.
def read : Call → Json → Option Json
  | getAgents,data => data.field "agents"
  | getCronConfigs,data => data.field "configs"
  | _,data => some data

end Call

-- The types that ClientTypes has no call for.
def connection : JsonType := .oneOf ["connected","disconnected"]
def HealthStatus : JsonType := .record [("status",false,.oneOf ["ok","degraded","down"]),("postgres",false,connection),
  ("redis",false,connection),("ollama",true,connection)]
def EndorseResponse : JsonType := .record [("endorsed",false,.boolean),("endorsement_count",false,.number)]
def PropagateResponse : JsonType := .record [("propagated",false,.boolean),("propagation_count",false,.number)]

def Call.type : Call → JsonType
  | getHealth => HealthStatus
  | getAgents => .array Types.Agent
  | getAgent _ => Types.AgentWithStats
  | createAgent _ | updateAgent .. => Types.Agent
  | getMessages .. => Types.CursorPaginatedMessages
  | getMessage _ => Types.MessageDetail
  | endorseMessage _ => EndorseResponse
  | propagateMessage _ => PropagateResponse
  | getSchedulerStatus => .array Types.SchedulerStatus
  | triggerAgentTick _ => .record [("triggered",false,.boolean),("agent_id",false,.string)]
  | pauseAllAgents => .record [("paused",false,.number)]
  | resumeAllAgents => .record [("resumed",false,.number)]
  | getCronConfigs => .array Types.CronConfig

-- What the store knows of the call's arguments.
def Call.Known (store : Store) : Call → Prop
  | getAgent id | updateAgent id _ | triggerAgentTick id => ∃ a ∈ store.agents, a.id = id
  | getMessage id | endorseMessage id | propagateMessage id => ∃ m ∈ store.messages, m.id = id
  | getMessages cursor agentId => cursor.getD "" = "" ∧ agentId.getD "" = ""
  | _ => True

def Answered (call : Call) (answer : Except Thrown Json) : Prop :=
  ∃ data value, answer = .ok data ∧ call.read data = some value ∧ Json.HasType call.type value = true

def Refused (answer : Except Thrown Json) : Prop := ∃ message, answer = .error ⟨message,some 404⟩

-- An agent that was created from the whole form.
structure Agent.Whole (a : Agent) : Prop where
  username : a.username.isSome
  display_name : a.display_name.isSome
  description : a.description.isSome
  personality : a.personality.isSome

@[simp] theorem member_optional (name key : String) (value : Option Json) :
    Json.member name (optional key value) = if key = name then value else none := by
  cases value <;> simp [optional,Json.member]

theorem agent_typed {a : Agent} (whole : a.Whole) : Json.HasType Types.Agent (.obj a.members) = true := by
  obtain ⟨username,named⟩ := Option.isSome_iff_exists.mp whole.username
  obtain ⟨display_name,displayed⟩ := Option.isSome_iff_exists.mp whole.display_name
  obtain ⟨description,described⟩ := Option.isSome_iff_exists.mp whole.description
  obtain ⟨personality,given⟩ := Option.isSome_iff_exists.mp whole.personality
  simp [Types.Agent,Types.agentFields,Types.AgentPersonality,Agent.members,AgentPersonality.json,named,displayed,described,given,
    Json.HasType,Json.HasFields,Json.member]

theorem message_typed (m : MessageResponse) : Json.HasType Types.MessageResponse (.obj m.members) = true := by
  cases parent : m.parent_msg_id <;>
    simp [Types.MessageResponse,Types.messageFields,MessageResponse.members,parent,orNull,numeral,Json.HasType,Json.HasFields,Json.member]

theorem stats_typed (store : Store) (id : String) : Json.HasType (.record Types.statsFields) (getAgentStats store id) = true := by
  simp [Types.statsFields,getAgentStats,numeral,Json.HasType,Json.HasFields,Json.member]

theorem messages_typed (messages : List MessageResponse) :
    Json.HasType (.array Types.MessageResponse) (.arr (messages.map fun m => .obj m.members)) = true := by
  rw [Json.array_items]
  exact List.forall_mem_map.mpr fun m _ => message_typed m

theorem page_typed (store : Store) : Json.HasType Types.CursorPaginatedMessages (page store) = true := by
  have cursor : Json.HasType (.nullable .string)
      (if (sorted store).length > 20 then orNull ((sorted store)[19]?.map MessageResponse.id) else .null) = true := by
    split
    · cases (sorted store)[19]?.map MessageResponse.id <;> rfl
    · rfl
  have flag : Json.HasType .boolean (.bool (decide ((sorted store).length > 20))) = true := rfl
  have shown := messages_typed ((sorted store).take 20)
  rw [page]
  generalize Json.arr (((sorted store).take 20).map fun m => .obj m.members) = messages at shown
  generalize (if (sorted store).length > 20 then orNull ((sorted store)[19]?.map MessageResponse.id) else .null) = next at cursor
  generalize Json.bool (decide ((sorted store).length > 20)) = more at flag
  simpa [Types.CursorPaginatedMessages,Json.HasType,Json.HasFields,Json.member,shown,flag] using cursor

theorem status_typed (env : Env) {a : Agent} (whole : a.Whole) (i : Nat) : Json.HasType Types.SchedulerStatus (status env a i) = true := by
  obtain ⟨username,named⟩ := Option.isSome_iff_exists.mp whole.username
  obtain ⟨display_name,displayed⟩ := Option.isSome_iff_exists.mp whole.display_name
  cases active : a.active <;>
    simp [Types.SchedulerStatus,status,active,named,displayed,numeral,Json.HasType,Json.HasFields,Json.member]

theorem config_typed (env : Env) {a : Agent} (whole : a.Whole) (i : Nat) :
    ∃ file, config env a i = .ok file ∧ Json.HasType Types.CronConfig file = true := by
  obtain ⟨personality,given⟩ := Option.isSome_iff_exists.mp whole.personality
  refine ⟨_,by rw [config,given],?_⟩
  simp [Types.CronConfig,Json.HasType,Json.HasFields,Json.member]

theorem configs_typed (env : Env) {agents : List Agent} (whole : ∀ a ∈ agents, a.Whole) (n : Nat) :
    ∃ files, ((agents.zipIdx n).mapM fun entry => config env entry.1 entry.2) = .ok files ∧
      ∀ file ∈ files, Json.HasType Types.CronConfig file = true := by
  induction agents generalizing n with
  | nil => exact ⟨[],rfl,nofun⟩
  | cons a rest ih =>
    obtain ⟨file,made,typed⟩ := config_typed env (whole a List.mem_cons_self) n
    obtain ⟨files,rest',others⟩ := ih (fun b member => whole b (List.mem_cons_of_mem _ member)) (n+1)
    refine ⟨file :: files,?_,List.forall_mem_cons.mpr ⟨typed,others⟩⟩
    rw [List.zipIdx_cons,List.mapM_cons,made,rest']
    rfl

-- A typed object with one member more.
theorem extended_typed {fields : List (String × Bool × JsonType)} {members : List (String × Json)}
    (typed : Json.HasType (.record fields) (.obj members) = true) (unnamed : ∀ f ∈ fields, f.1 ≠ name)
    (value : Json.HasType type json = true) :
    Json.HasType (.record (fields ++ [(name,false,type)])) (.obj (members ++ [(name,json)])) = true := by
  rw [Json.HasType] at typed ⊢
  rw [Json.hasFields_append,Json.hasFields_beside unnamed,typed]
  simp [Json.HasFields,Json.member,value]

theorem detail_typed (m : MessageResponse) (responses : List MessageResponse) : Json.HasType Types.MessageDetail
    (.obj (m.members ++ [("responses",.arr (responses.map fun r => .obj r.members))])) = true :=
  extended_typed (message_typed m) (by decide) (messages_typed responses)

theorem with_stats_typed (store : Store) {a : Agent} (whole : a.Whole) : Json.HasType Types.AgentWithStats
    (.obj (a.members ++ [("stats",getAgentStats store a.id)])) = true :=
  extended_typed (agent_typed whole) (by decide) (stats_typed store a.id)

theorem update_whole {a : Agent} (whole : a.Whole) (req : AgentUpdateRequest) : (a.update req).Whole := by
  have kept {text old : Option String} (some' : old.isSome) : (given text old).isSome := by
    unfold given
    split
    · exact some'
    · cases text with
      | none => rename_i filled; exact absurd rfl filled
      | some _ => rfl
  exact ⟨whole.username,kept whole.display_name,kept whole.description,by simp [Agent.update,whole.personality]⟩

theorem newAgent_whole (env : Env) (store : Store) (req : AgentCreateRequest) : (newAgent env store (.create req)).Whole :=
  ⟨rfl,rfl,rfl,rfl⟩

theorem edit_member {rows : List A} {key : A → String} {id : String} {change : A → A} (member : b ∈ edit key id change rows) :
    ∃ a ∈ rows, b = a ∨ b = change a := by
  induction rows with
  | nil => cases member
  | cons first rest ih =>
    rw [edit] at member
    split at member
    · rcases List.mem_cons.mp member with rfl | old
      · exact ⟨first,List.mem_cons_self,.inr rfl⟩
      · exact ⟨b,List.mem_cons_of_mem _ old,.inl rfl⟩
    · rcases List.mem_cons.mp member with rfl | old
      · exact ⟨b,List.mem_cons_self,.inl rfl⟩
      · obtain ⟨a,there,same⟩ := ih old
        exact ⟨a,List.mem_cons_of_mem _ there,same⟩

-- A request that creates no agent from less than the whole form.
theorem request_whole {store : Store} (whole : ∀ a ∈ store.agents, a.Whole) (env : Env) {r : Request}
    (form : route r.path r.method = .createAgent → ∀ req, r.body ≠ some (.update req)) :
    ∀ a ∈ (handleRequest env store r).2.agents, a.Whole := by
  unfold handleRequest
  generalize route r.path r.method = way at form
  intro b member
  cases way with
  | createAgent =>
    simp only [handle] at member
    split at member
    · exact whole b member
    · rename_i body given
      rcases List.mem_append.mp member with old | new
      · exact whole b old
      · rw [List.mem_singleton.mp new]
        cases body with
        | create req => exact newAgent_whole env store req
        | update req => exact absurd given (form rfl req)
  | updateAgent id =>
    simp only [handle] at member
    split at member
    · exact whole b member
    · split at member
      · exact whole b member
      · obtain ⟨a,there,rfl | rfl⟩ := edit_member member
        · exact whole b there
        · exact update_whole (whole a there) _
  | pauseAll =>
    obtain ⟨a,there,rfl⟩ := List.mem_map.mp member
    exact ⟨(whole a there).username,(whole a there).display_name,(whole a there).description,(whole a there).personality⟩
  | resumeAll =>
    obtain ⟨a,there,rfl⟩ := List.mem_map.mp member
    exact ⟨(whole a there).username,(whole a there).display_name,(whole a there).description,(whole a there).personality⟩
  | _ =>
    simp only [handle] at member
    repeat' split at member
    all_goals exact whole b member

theorem call_form (call : Call) : route call.request.path call.request.method = .createAgent →
    ∀ req, call.request.body ≠ some (.update req) := by
  cases call with
  | updateAgent id data =>
    intro routed
    simp only [Call.request,patch,route_update] at routed
    split at routed <;> cases routed
  | _ =>
    intro _ req given
    cases given

def Call.requests (calls : List (Env × Call)) : List (Env × Request) := calls.map fun made => (made.1,made.2.request)

theorem seed_whole (env : Env) : ∀ a ∈ (seed env).agents, a.Whole := by
  have all : ∀ a ∈ seedAgents, a.username.isSome ∧ a.display_name.isSome ∧ a.description.isSome ∧ a.personality.isSome := by decide
  exact fun a member => ⟨(all a member).1,(all a member).2.1,(all a member).2.2.1,(all a member).2.2.2⟩

theorem calls_whole {store : Store} (whole : ∀ a ∈ store.agents, a.Whole) (calls : List (Env × Call)) :
    ∀ a ∈ (run store (Call.requests calls)).agents, a.Whole := by
  induction calls generalizing store with
  | nil => exact whole
  | cons first rest ih => exact ih (request_whole whole first.1 (call_form first.2))

theorem find_none {rows : List A} {key : A → String} {id : String} (unknown : ¬ ∃ a ∈ rows, key a = id) : rows.find? (key · = id) = none :=
  List.find?_eq_none.mpr fun a member => by simpa using fun same => unknown ⟨a,member,same⟩

-- What every state of the mock has.
structure Kept (store : Store) : Prop where
  agents : Numbered store.agents
  messages : Listed store

theorem run_kept (env : Env) (requests : List (Env × Request)) : Kept (run (seed env) requests) :=
  ⟨(run_agents requests (seed env)).2 (seed_numbered env),(run_messages (seed_listed env) requests).1⟩

section
variable {store : Store} {id : String} (kept : Kept store)
include kept

theorem find_agent (known : ∃ a ∈ store.agents, a.id = id) : ∃ a, store.agents.find? (·.id = id) = some a ∧ a.id = id ∧ Named id := by
  obtain ⟨a,member,rfl⟩ := known
  exact ⟨a,find_row (numbered_distinct kept.agents) member,rfl,numbered_named kept.agents member⟩

theorem find_message (known : ∃ m ∈ store.messages, m.id = id) : ∃ m, store.messages.find? (·.id = id) = some m ∧ Named id := by
  obtain ⟨m,member,rfl⟩ := known
  exact ⟨m,find_row kept.messages.ids member,kept.messages.named m member⟩

end

theorem known_answered {store : Store} (kept : Kept store) (whole : ∀ a ∈ store.agents, a.Whole) (env : Env) (call : Call)
    (known : call.Known store) :
    Answered call (handleRequest env store call.request).1 := by
  cases call with
  | getHealth => exact ⟨_,_,rfl,rfl,rfl⟩
  | getAgents =>
    refine ⟨_,_,rfl,rfl,Json.array_items.mpr ?_⟩
    exact List.forall_mem_map.mpr fun a member => agent_typed (whole a member)
  | getAgent id =>
    obtain ⟨a,found,-,named⟩ := find_agent kept known
    refine ⟨_,_,?_,rfl,with_stats_typed store (whole a (List.mem_of_find?_eq_some found))⟩
    simp only [handleRequest,Call.request,get,route_agent,if_pos named,handle,found]
  | createAgent data => exact ⟨_,_,rfl,rfl,agent_typed (newAgent_whole env store data)⟩
  | updateAgent id data =>
    obtain ⟨a,found,-,named⟩ := find_agent kept known
    refine ⟨_,_,?_,rfl,agent_typed (update_whole (whole a (List.mem_of_find?_eq_some found)) data.asUpdate)⟩
    simp only [handleRequest,Call.request,patch,route_update,if_pos named,handle,found]
  | getMessages cursor agentId =>
    have path : getMessagesPath cursor agentId = "/messages" := by
      obtain ⟨none₁,none₂⟩ := known
      cases cursor <;> cases agentId <;> simp_all [getMessagesPath]
    refine ⟨_,_,?_,rfl,page_typed store⟩
    simp only [handleRequest,Call.request,get,path]
    rfl
  | getMessage id =>
    obtain ⟨m,found,named⟩ := find_message kept known
    refine ⟨_,_,?_,rfl,detail_typed m (store.messages.filter (·.parent_msg_id = some m.id))⟩
    simp only [handleRequest,Call.request,get,route_message,if_pos named,handle,found]
  | endorseMessage id =>
    obtain ⟨m,found,named⟩ := find_message kept known
    refine ⟨_,.obj [("endorsed",.bool true),("endorsement_count",numeral (m.endorsement_count + 1))],?_,rfl,rfl⟩
    simp only [handleRequest,Call.request,post,route_endorse.mpr ⟨rfl,named⟩,handle,found]
  | propagateMessage id =>
    obtain ⟨m,found,named⟩ := find_message kept known
    refine ⟨_,.obj [("propagated",.bool true),("propagation_count",numeral (m.propagation_count + 1))],?_,rfl,rfl⟩
    simp only [handleRequest,Call.request,post,route_propagate.mpr ⟨rfl,named⟩,handle,found]
  | getSchedulerStatus =>
    refine ⟨_,_,rfl,rfl,Json.array_items.mpr ?_⟩
    exact List.forall_mem_map.mpr fun entry member => status_typed env (whole entry.1 (List.fst_mem_of_mem_zipIdx member)) entry.2
  | triggerAgentTick id =>
    obtain ⟨a,found,-,named⟩ := find_agent kept known
    refine ⟨_,.obj [("triggered",.bool true),("agent_id",.str a.id)],?_,rfl,rfl⟩
    simp only [handleRequest,Call.request,post,route_tick,if_pos named,handle,found]
  | pauseAllAgents => exact ⟨_,_,rfl,rfl,rfl⟩
  | resumeAllAgents => exact ⟨_,_,rfl,rfl,rfl⟩
  | getCronConfigs =>
    obtain ⟨files,made,typed⟩ := configs_typed env whole 0
    exact ⟨.obj [("configs",.arr files)],.arr files,congrArg (Except.map _) made,rfl,Json.array_items.mpr typed⟩

theorem unknown_refused {store : Store} (env : Env) (call : Call) (unknown : ¬ call.Known store) :
    Refused (handleRequest env store call.request).1 := by
  cases call with
  | getAgent id =>
    simp only [handleRequest,Call.request,get,route_agent]
    split
    · simp only [handle,find_none unknown]
      exact ⟨_,rfl⟩
    · exact ⟨_,rfl⟩
  | updateAgent id data =>
    simp only [handleRequest,Call.request,patch,route_update]
    split
    · simp only [handle,find_none unknown]
      exact ⟨_,rfl⟩
    · exact ⟨_,rfl⟩
  | getMessages cursor agentId =>
    obtain ⟨rest,path⟩ : ∃ rest, getMessagesPath cursor agentId = "/messages?" ++ rest := by
      simp only [getMessagesPath]
      split
      · rename_i empty
        refine absurd ⟨?_,?_⟩ unknown
        · cases cursor <;> simp_all
        · cases agentId <;> simp_all
      · exact ⟨_,rfl⟩
    have away : route ("/messages?" ++ rest) .GET = .unknown := by
      simp only [route]
      rw [if_neg (starts_ne (by decide) rest),if_neg (starts_ne (by decide) rest),capture_apart (by decide) (by decide)]
      dsimp only
      rw [if_neg (starts_ne (by decide) rest),capture_apart (by decide) (by decide)]
      dsimp only
      rw [if_neg (starts_ne (by decide) rest),if_neg (starts_ne (by decide) rest)]
    simp only [handleRequest,Call.request,get,path,away]
    exact ⟨_,rfl⟩
  | getMessage id =>
    simp only [handleRequest,Call.request,get,route_message]
    split
    · simp only [handle,find_none unknown]
      exact ⟨_,rfl⟩
    · exact ⟨_,rfl⟩
  | endorseMessage id =>
    simp only [handleRequest,Call.request,post]
    by_cases named : Named id
    · rw [route_endorse.mpr ⟨rfl,named⟩]
      simp only [handle,find_none unknown]
      exact ⟨_,rfl⟩
    · rw [route_nameless named (.inl rfl)]
      exact ⟨_,rfl⟩
  | propagateMessage id =>
    simp only [handleRequest,Call.request,post]
    by_cases named : Named id
    · rw [route_propagate.mpr ⟨rfl,named⟩]
      simp only [handle,find_none unknown]
      exact ⟨_,rfl⟩
    · rw [route_nameless named (.inr rfl)]
      exact ⟨_,rfl⟩
  | triggerAgentTick id =>
    simp only [handleRequest,Call.request,post,route_tick]
    split
    · simp only [handle,find_none unknown]
      exact ⟨_,rfl⟩
    · exact ⟨_,rfl⟩
  | _ => exact absurd trivial unknown

-- After whatever calls each call has what it declares, or a 404, by whether the mock
-- knows what it asks about. No cursor is known, and no filter.
theorem calls_typed (env : Env) (calls : List (Env × Call)) (env' : Env) (call : Call) :
    (call.Known (run (seed env) (Call.requests calls)) →
      Answered call (handleRequest env' (run (seed env) (Call.requests calls)) call.request).1) ∧
    (¬ call.Known (run (seed env) (Call.requests calls)) →
      Refused (handleRequest env' (run (seed env) (Call.requests calls)) call.request).1) :=
  ⟨known_answered (run_kept env _) (calls_whole (seed_whole env) calls) env' call,unknown_refused env' call⟩

theorem sorted_ordered (store : Store) : (sorted store).Pairwise fun a b => b.created_at ≤ a.created_at :=
  List.pairwise_insertionSort (fun a b : MessageResponse => b.created_at ≤ a.created_at) store.messages

-- In every state the first page shows all messages but the oldest, promises more, and
-- hands out a cursor that no call is answered with.
theorem first_page_only (env : Env) (requests : List (Env × Request)) (env' : Env) : ∃ shown oldest cursor,
    (handleRequest env' (run (seed env) requests) (Call.getMessages none none).request).1 = .ok (.obj [
      ("messages",.arr (shown.map fun m => .obj (MessageResponse.members m))),("next_cursor",.str cursor),("has_more",.bool true)]) ∧
    shown.length = 20 ∧ (shown ++ [oldest]).Perm (run (seed env) requests).messages ∧
    shown.Pairwise (fun newer older => older.created_at ≤ newer.created_at) ∧ (∀ m ∈ shown, oldest.created_at ≤ m.created_at) ∧ ∀ env'' agentId,
      Refused (handleRequest env'' (run (seed env) requests) (Call.getMessages (some cursor) agentId).request).1 := by
  have kept := run_kept env requests
  have length : (run (seed env) requests).messages.length = 21 := by
    rw [(run_messages (seed_listed env) requests).2,List.length_map,← List.length_map (f := MessageResponse.id),seed_ids]
    rfl
  generalize run (seed env) requests = store at kept length
  have perm : (sorted store).Perm store.messages := List.perm_insertionSort _ _
  have count : (sorted store).length = 21 := perm.length_eq.trans length
  obtain ⟨oldest,rest⟩ := List.length_eq_one_iff.mp (show ((sorted store).drop 20).length = 1 by rw [List.length_drop,count])
  have whole : (sorted store).take 20 ++ [oldest] = sorted store := by rw [← rest,List.take_append_drop]
  have ordered := sorted_ordered store
  rw [← whole,List.pairwise_append] at ordered
  have last : (sorted store)[19]? = some (sorted store)[19] := List.getElem?_eq_getElem (by omega)
  refine ⟨(sorted store).take 20,oldest,(sorted store)[19].id,?_,?_,by rw [whole]; exact perm,ordered.1,
    fun m member => ordered.2.2 m member oldest (List.mem_singleton_self oldest),fun env'' agentId => ?_⟩
  · change Except.ok (page store) = _
    rw [page,if_pos (by omega),decide_eq_true (by omega),last]
    rfl
  · rw [List.length_take,count]
    rfl
  · refine unknown_refused env'' _ fun known => ?_
    have named := kept.messages.named _ (perm.mem_iff.mp (List.getElem_mem (by omega : 19 < (sorted store).length)))
    exact named.1 known.1

end Trokk.Mock
