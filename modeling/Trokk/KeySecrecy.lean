import Trokk.ClientTypes
import Trokk.ListPages
import Trokk.PartialUpdates

-- What the API tells of the agents' keys after CreateAgent handed them out: nothing. Two
-- states that differ in the keys alone answer every request of the dashboard alike.
namespace Trokk

variable (key : Uuid → String)

def AgentRow.rekeyed (a : AgentRow) : AgentRow := {a with apiKey := key a.id}
def Database.rekeyed (db : Database) : Database := {db with agents := db.agents.map (AgentRow.rekeyed key)}
def ServerState.rekeyed (s : ServerState) : ServerState := {s with db := s.db.rekeyed key}
def StatsRow.rekeyed (row : StatsRow) : StatsRow := {row with agent := row.agent.rekeyed key}

-- A request that is answered, or what else happens to the server: an agent is created,
-- tables other than the agents change, pages are cached or expire.
inductive ServerEvent where
  | reads (call : ServiceCall)
  | investigations (page limit status : String)
  | updates (id : Uuid) (req : UpdateAgentRequest)
  | setsAll (active : Bool)
  | creates (a : AgentRow)
  | elsewhere (next : ServerState)

-- The new agent's key is another one too.
def ServerEvent.rekeyed : ServerEvent → ServerEvent
  | .creates a => .creates (a.rekeyed key)
  | event => event

inductive Observation where
  | written (w : Written)
  | investigations (status : Nat) (list : Except String InvestigationList)
  | agent (a : Except PgError Agent)
  | nothing

def ServerState.withAgents (s : ServerState) (agents : List AgentRow) : ServerState := {s with db := {s.db with agents := agents}}

def ServerEvent.happens (zone : Timestamptz → Int) (s : ServerState) : ServerEvent → Observation × ServerState
  | .reads call => (.written (call.written zone s),s)
  | .investigations page limit status =>
    let (code,list) := Handler.ListInvestigations zone s.db page limit status
    (.investigations code list,s)
  | .updates id req =>
    let (a,db) := Store.UpdateAgent zone s.db id req
    (.agent a,{s with db := db})
  | .setsAll active => (.nothing,s.withAgents (s.db.agents.map fun a => {a with active := active}))
  | .creates a => (.nothing,s.withAgents (s.db.agents ++ [a]))
  | .elsewhere next => (.nothing,next.withAgents s.db.agents)

def observed (zone : Timestamptz → Int) (s : ServerState) : List ServerEvent → List Observation
  | [] => []
  | event :: rest =>
    let (answer,next) := event.happens zone s
    answer :: observed zone next rest

variable (db : Database) (zone : Timestamptz → Int)

theorem scan_rekeyed : AgentRow.scan zone ∘ AgentRow.rekeyed key = AgentRow.scan zone := rfl

theorem streamRows_rekeyed : streamRows (db.rekeyed key) = streamRows db := by
  refine List.flatMap_congr fun m _ => ?_
  simp only [joinMessage,Database.rekeyed,List.filter_map,List.flatMap_map]
  rfl

theorem ListMessages_rekeyed (cursor : Option Cursor) (agentID : Option Uuid) (limit : Nat) :
    ListMessages zone (db.rekeyed key) cursor agentID limit = ListMessages zone db cursor agentID limit := by
  simp only [ListMessages,ListQuery.run,streamRows_rekeyed]

theorem sorted_rekeyed (le : AgentRow → AgentRow → Prop) [DecidableRel le] (blind : ∀ a b, le (a.rekeyed key) (b.rekeyed key) ↔ le a b)
    (rows : List AgentRow) : (rows.map (AgentRow.rekeyed key)).insertionSort le = (rows.insertionSort le).map (AgentRow.rekeyed key) :=
  (List.map_insertionSort le le (AgentRow.rekeyed key) rows fun a _ b _ => (blind a b).symm).symm

theorem page_rekeyed (q : PageQuery) (rows : List AgentRow) :
    q.run (fun a : AgentRow => a.active.map SqlArg.bool) AgentRow.created (rows.map (AgentRow.rekeyed key)) =
      (q.run (fun a : AgentRow => a.active.map SqlArg.bool) AgentRow.created rows).map (List.map (AgentRow.rekeyed key)) := by
  have sorted (rows : List AgentRow) : Keyset.newestFirst AgentRow.created (rows.map (AgentRow.rekeyed key)) =
      (Keyset.newestFirst AgentRow.created rows).map (AgentRow.rekeyed key) := sorted_rekeyed key _ (fun _ _ => Iff.rfl) rows
  unfold PageQuery.run
  split
  · rfl
  · split
    · rfl
    · split
      · split
        · rfl
        · simp only [List.filter_map,sorted,Relational.window,← List.map_drop,← List.map_take]
          rfl
      · rfl

theorem ListAgents_rekeyed (active : Option Bool) (page limit : Int) :
    ListAgents zone (db.rekeyed key) active page limit = ListAgents zone db active page limit := by
  simp only [ListAgents,Database.rekeyed,page_rekeyed,List.filter_map,List.length_map]
  cases (agentsQuery active page limit).run (fun a : AgentRow => a.active.map SqlArg.bool) AgentRow.created db.agents with
  | error => rfl
  | ok rows =>
    change (List.mapM (AgentRow.scan zone) (rows.map (AgentRow.rekeyed key)) >>= _) = (List.mapM (AgentRow.scan zone) rows >>= _)
    rw [List.mapM_map,scan_rekeyed]
    rfl

theorem GetControlStatus_rekeyed (s : ServerState) : GetControlStatus zone (s.rekeyed key) = GetControlStatus zone s := by
  have rows : statusRows (s.rekeyed key) = (statusRows s).map (Prod.map (AgentRow.rekeyed key) id) := by
    have sorted := sorted_rekeyed key (fun a b => s.collation a.username b.username) (fun _ _ => Iff.rfl) s.db.agents
    refine (congrArg (List.flatMap _) sorted).trans ?_
    simp only [statusRows,List.flatMap_map,List.map_flatMap,List.map_map]
    rfl
  rw [GetControlStatus,rows,List.mapM_map]
  rfl

theorem joinAgent_rekeyed (ticks : List TickRow) (a : AgentRow) :
    joinAgent (db.rekeyed key) ticks (a.rekeyed key) = (joinAgent db ticks a).map (StatsRow.rekeyed key) := by
  simp only [joinAgent,List.map_flatMap,List.map_map]
  rfl

theorem GetAgentWithStats_rekeyed (ticks : List TickRow) (id : Uuid) :
    GetAgentWithStats zone (db.rekeyed key) ticks id = GetAgentWithStats zone db ticks id := by
  have rows : (db.rekeyed key).agents.flatMap (joinAgent (db.rekeyed key) ticks) =
      (db.agents.flatMap (joinAgent db ticks)).map (StatsRow.rekeyed key) := by
    simp only [Database.rekeyed,List.flatMap_map,List.map_flatMap]
    exact List.flatMap_congr fun a _ => joinAgent_rekeyed key db ticks a
  have chosen : ((fun row : StatsRow => decide (row.agent.id = id)) ∘ StatsRow.rekeyed key) = fun row => decide (row.agent.id = id) := rfl
  simp only [GetAgentWithStats,rows,List.filter_map,List.head?_map,chosen]
  cases ((db.agents.flatMap (joinAgent db ticks)).filter fun row => decide (row.agent.id = id)).head? <;> rfl

theorem written_rekeyed (s : ServerState) (call : ServiceCall) : call.written zone (s.rekeyed key) = call.written zone s := by
  cases call with
  | getAgents => simp only [ServiceCall.written,Handler.ListAgents,ServerState.rekeyed,ListAgents_rekeyed]
  | getAgent id => simp only [ServiceCall.written,Handler.GetAgent,ServerState.rekeyed,GetAgentWithStats_rekeyed]
  | getMessages cursor agentId =>
    simp only [ServiceCall.written,Handler.ListMessages,GetPage,ServerState.rekeyed,ListMessages_rekeyed]
  | getMessage id =>
    simp only [ServiceCall.written,Handler.GetMessage,GetMessageWithAgent,GetResponses,ServerState.rekeyed,streamRows_rekeyed]
  | getSchedulerStatus => simp only [ServiceCall.written,Handler.ControlStatus,GetControlStatus_rekeyed]
  | getCronConfigs => rfl

theorem find_rekeyed (rows : List AgentRow) (id : Uuid) : (rows.map (AgentRow.rekeyed key)).find? (·.id = id) =
    (rows.find? (·.id = id)).map (AgentRow.rekeyed key) := List.find?_map ..

theorem UpdateAgent_rekeyed (id : Uuid) (req : UpdateAgentRequest) : Store.UpdateAgent zone (db.rekeyed key) id req =
    ((Store.UpdateAgent zone db id req).1,(Store.UpdateAgent zone db id req).2.rekeyed key) := by
  have edited : (db.rekeyed key).agents.map (fun b => if b.id = id then b.update req else b) =
      (db.agents.map fun b => if b.id = id then b.update req else b).map (AgentRow.rekeyed key) := by
    simp only [Database.rekeyed,List.map_map]
    refine List.map_congr_left fun b _ => ?_
    simp only [Function.comp_apply,apply_ite (AgentRow.rekeyed key)]
    rfl
  unfold Store.UpdateAgent
  split
  · simp only [Store.GetAgent,Database.rekeyed,find_rekeyed]
    cases db.agents.find? (·.id = id) <;> rfl
  · simp only [updateStatement_run,edited]
    cases req.storable with
    | false => rfl
    | true =>
      simp only [Database.rekeyed,find_rekeyed]
      cases db.agents.find? (·.id = id) <;> rfl

theorem happens_rekeyed (s : ServerState) (event : ServerEvent) : (event.rekeyed key).happens zone (s.rekeyed key) =
    ((event.happens zone s).1,(event.happens zone s).2.rekeyed key) := by
  cases event with
  | reads call => simp only [ServerEvent.rekeyed,ServerEvent.happens,written_rekeyed]
  | investigations page limit status => rfl
  | updates id req => simp only [ServerEvent.rekeyed,ServerEvent.happens,ServerState.rekeyed,UpdateAgent_rekeyed]
  | setsAll active => simp [ServerEvent.rekeyed,ServerEvent.happens,ServerState.rekeyed,ServerState.withAgents,Database.rekeyed,AgentRow.rekeyed]
  | creates a => simp [ServerEvent.rekeyed,ServerEvent.happens,ServerState.rekeyed,ServerState.withAgents,Database.rekeyed]
  | elsewhere next => rfl

-- Whatever is asked and whatever happens in between, what is told does not depend on
-- the keys.
theorem keys_untold (s : ServerState) (events : List ServerEvent) :
    observed zone (s.rekeyed key) (events.map (ServerEvent.rekeyed key)) = observed zone s events := by
  induction events generalizing s with
  | nil => rfl
  | cons event rest ih =>
    simp only [List.map_cons,observed,happens_rekeyed,ih]

end Trokk
