import Trokk.MessageCounts

-- The statistics query of internal/store/pg/agents.go, and what its counts add
-- up to.
namespace Trokk
open Relational

-- agent_ticks of migrations/002. No statement of the program writes it.
structure TickRow where
  agentId : Uuid
  lastTick : Option Timestamptz
  nextTick : Option Timestamptz
  intervalSeconds : Int
  deriving DecidableEq, Repr

structure TicksValid (db : Database) (ticks : List TickRow) : Prop where
  keys : (ticks.map TickRow.agentId).Nodup
  agents : ∀ t ∈ ticks, ∃ a ∈ db.agents, a.id = t.agentId

-- One row of the SELECT list of GetAgentWithStats.
structure StatsRow where
  agent : AgentRow
  messageCount : Nat
  endorsementsGiven : Nat
  endorsementsReceived : Nat
  propagationsGiven : Nat
  propagationsReceived : Nat
  lastTick : Option Timestamptz
  nextTick : Option Timestamptz
  intervalSeconds : Int
  deriving DecidableEq, Repr

-- SELECT m.agent_id ... FROM endorsements e JOIN messages m ON m.id = e.message_id;
-- the same over propagations.
def receivers (db : Database) (toggles : List ToggleRow) : List (Option Uuid) :=
  (innerJoin (fun e m => decide (m.id = e.messageId)) toggles db.messages).map fun pair => some pair.2.agentId

-- FROM agents a and its six LEFT JOINs, for one a.
def joinAgent (db : Database) (ticks : List TickRow) (a : AgentRow) : List StatsRow :=
  let on := fun group : Option Uuid × Nat => decide (group.1 = some a.id)
  (leftJoin on (groupCount (db.messages.map (some ·.agentId)))).flatMap fun mc =>
  (leftJoin on (groupCount (db.endorsements.map (some ·.agentId)))).flatMap fun eg =>
  (leftJoin on (groupCount (receivers db db.endorsements))).flatMap fun er =>
  (leftJoin on (groupCount (db.propagations.map (some ·.agentId)))).flatMap fun pg =>
  (leftJoin on (groupCount (receivers db db.propagations))).flatMap fun pr =>
  (leftJoin (fun t => decide (t.agentId = a.id)) ticks).map fun t =>
    ⟨a,coalesce mc,coalesce eg,coalesce er,coalesce pg,coalesce pr,
     t.bind TickRow.lastTick,t.bind TickRow.nextTick,(t.map TickRow.intervalSeconds).getD 600⟩

def StatsRow.scan (zone : Timestamptz → Int) (row : StatsRow) : Except PgError AgentWithStats := do
  let a ← row.agent.scan zone
  return { a with
    messageCount := row.messageCount
    endorsementsGiven := row.endorsementsGiven
    endorsementsReceived := row.endorsementsReceived
    propagationsGiven := row.propagationsGiven
    propagationsReceived := row.propagationsReceived
    lastTick := row.lastTick.map (Time.scan zone)
    nextTick := row.nextTick.map (Time.scan zone)
    intervalSeconds := row.intervalSeconds }

-- WHERE a.id = $1
def GetAgentWithStats (zone : Timestamptz → Int) (db : Database) (ticks : List TickRow) (id : Uuid) :
    Except PgError AgentWithStats :=
  match ((db.agents.flatMap (joinAgent db ticks)).filter (·.agent.id = id)).head? with
  | none => .error .noRows
  | some row => row.scan zone

-- One answer for each agent, and what the answers add up to.
structure Balanced (zone : Timestamptz → Int) (db : Database) (ticks : List TickRow) (stats : List AgentWithStats) : Prop where
  answers : db.agents.map (fun a => GetAgentWithStats zone db ticks a.id) = stats.map .ok
  messages : (stats.map (·.messageCount)).sum = db.messages.length
  endorsementsGiven : (stats.map (·.endorsementsGiven)).sum = db.endorsements.length
  endorsementsReceived : (stats.map (·.endorsementsReceived)).sum = db.endorsements.length
  propagationsGiven : (stats.map (·.propagationsGiven)).sum = db.propagations.length
  propagationsReceived : (stats.map (·.propagationsReceived)).sum = db.propagations.length
  read : ∀ m ∈ db.messages, (GetMessageWithAgent zone db m.id).isSome
  endorsementsOwn : ∀ s ∈ stats, s.endorsementsReceived = ((db.messages.filter (·.agentId = s.id)).map fun m =>
    (GetMessageWithAgent zone db m.id).elim 0 (·.endorsementCount)).sum
  propagationsOwn : ∀ s ∈ stats, s.propagationsReceived = ((db.messages.filter (·.agentId = s.id)).map fun m =>
    (GetMessageWithAgent zone db m.id).elim 0 (·.propagationCount)).sum

-- The row that the joins give for an agent, read off the tables.
def statsRow (db : Database) (ticks : List TickRow) (a : AgentRow) : StatsRow where
  agent := a
  messageCount := db.messages.countP fun m => m.agentId = a.id
  endorsementsGiven := db.endorsements.countP fun e => e.agentId = a.id
  endorsementsReceived := (receivers db db.endorsements).count (some a.id)
  propagationsGiven := db.propagations.countP fun p => p.agentId = a.id
  propagationsReceived := (receivers db db.propagations).count (some a.id)
  lastTick := (ticks.find? (·.agentId = a.id)).bind TickRow.lastTick
  nextTick := (ticks.find? (·.agentId = a.id)).bind TickRow.nextTick
  intervalSeconds := ((ticks.find? (·.agentId = a.id)).map TickRow.intervalSeconds).getD 600

-- At most one row of agent_ticks refers to an agent.
theorem leftJoin_ticks (keys : TicksValid db ticks) (id : Uuid) :
    leftJoin (fun t => decide (t.agentId = id)) ticks = [ticks.find? (·.agentId = id)] := by
  unfold leftJoin
  rw [← List.head?_filter]
  have short : (ticks.filter (·.agentId = id)).length ≤ 1 := by
    rw [← List.countP_eq_length_filter]
    have once := List.nodup_iff_count_le_one.mp keys.keys id
    rw [List.count_eq_countP,List.countP_map] at once
    refine le_trans (le_of_eq (List.countP_congr fun t _ => ?_)) once
    simp
  cases found : ticks.filter (·.agentId = id) with
  | nil => rfl
  | cons t rest =>
    rw [found,List.length_cons] at short
    rw [List.eq_nil_of_length_eq_zero (by omega : rest.length = 0)]
    rfl

theorem joinAgent_one (keys : TicksValid db ticks) (a : AgentRow) :
    joinAgent db ticks a = [statsRow db ticks a] := by
  obtain ⟨mc,joinMc,countMc⟩ := leftJoin_count (db.messages.map (some ·.agentId)) a.id
  obtain ⟨eg,joinEg,countEg⟩ := leftJoin_count (db.endorsements.map (some ·.agentId)) a.id
  obtain ⟨er,joinEr,countEr⟩ := leftJoin_count (receivers db db.endorsements) a.id
  obtain ⟨pg,joinPg,countPg⟩ := leftJoin_count (db.propagations.map (some ·.agentId)) a.id
  obtain ⟨pr,joinPr,countPr⟩ := leftJoin_count (receivers db db.propagations) a.id
  rw [count_key] at countMc countEg countPg
  simp only [joinAgent,joinMc,joinEg,joinEr,joinPg,joinPr,leftJoin_ticks keys,List.flatMap_singleton,
    List.map_cons,List.map_nil,countMc,countEg,countEr,countPg,countPr]
  rfl

theorem GetAgentWithStats_row (valid : db.Valid) (keys : TicksValid db ticks) (zone : Timestamptz → Int)
    (member : a ∈ db.agents) : GetAgentWithStats zone db ticks a.id = (statsRow db ticks a).scan zone := by
  have rows : db.agents.flatMap (joinAgent db ticks) = db.agents.map (statsRow db ticks) := by
    rw [List.map_eq_flatMap]
    exact List.flatMap_congr fun b _ => joinAgent_one keys b
  have alone : ((db.agents.map (statsRow db ticks)).filter (·.agent.id = a.id)).head? =
      some (statsRow db ticks a) := by
    rw [List.head?_filter,List.find?_map]
    exact congrArg (Option.map (statsRow db ticks)) (find_row valid.agentIds member)
  unfold GetAgentWithStats
  rw [rows,alone]

-- The answer for a row whose agent scans.
def StatsRow.answer (zone : Timestamptz → Int) (row : StatsRow) : AgentWithStats :=
  ⟨row.agent.shown zone,row.messageCount,row.endorsementsGiven,row.endorsementsReceived,row.propagationsGiven,row.propagationsReceived,
   row.lastTick.map (Time.scan zone),row.nextTick.map (Time.scan zone),row.intervalSeconds⟩

theorem scan_stats (zone : Timestamptz → Int) (row : StatsRow) (scans : row.agent.scans = true) :
    row.scan zone = .ok (row.answer zone) := by
  rw [StatsRow.scan,AgentRow.scan_ok scans]
  rfl

-- An agent receives what its messages receive.
theorem receivers_by_message (db : Database) (toggles : List ToggleRow) (id : Uuid) :
    (receivers db toggles).count (some id) =
      ((db.messages.filter (·.agentId = id)).map fun m => (toggles.map (some ·.messageId)).count (some m.id)).sum := by
  unfold receivers
  rw [count_key]
  refine (countP_innerJoin _ toggles db.messages fun m => decide (m.agentId = id)).trans ?_
  congr 1
  refine List.map_congr_left fun m _ => ?_
  rw [count_key]
  refine List.countP_congr fun e _ => ?_
  simp only [decide_eq_true_eq]
  exact eq_comm

-- The message that a toggle refers to is there once.
theorem one_receiver {db : Database} (valid : db.Valid) {toggles : List ToggleRow}
    (refs : ∀ e ∈ toggles, ∃ m ∈ db.messages, m.id = e.messageId) :
    (receivers db toggles).length = toggles.length := by
  unfold receivers
  rw [List.length_map]
  refine length_innerJoin fun e member => ?_
  obtain ⟨m,present,same⟩ := refs e member
  have listed : e.messageId ∈ db.messages.map MessageRow.id := same ▸ List.mem_map_of_mem present
  rw [← List.count_eq_one_of_mem valid.messageIds listed,List.count_eq_countP,List.countP_map]
  refine List.countP_congr fun m _ => ?_
  simp

theorem given_total {db : Database} (valid : db.Valid) {toggles : List ToggleRow}
    (refs : ∀ e ∈ toggles, ∃ a ∈ db.agents, a.id = e.agentId) :
    (db.agents.map fun a => toggles.countP fun e => e.agentId = a.id).sum = toggles.length :=
  sum_counts_owners valid.agentIds refs

theorem received_total {db : Database} (valid : db.Valid) {toggles : List ToggleRow}
    (refs : ∀ e ∈ toggles, ∃ m ∈ db.messages, m.id = e.messageId) :
    (db.agents.map fun a => (receivers db toggles).count (some a.id)).sum = toggles.length := by
  rw [← one_receiver valid refs]
  have owned : ∀ key ∈ receivers db toggles, ∃ a ∈ db.agents, some a.id = key := by
    intro key member
    obtain ⟨⟨e,m⟩,joined,rfl⟩ := List.mem_map.mp member
    obtain ⟨e',_,inner⟩ := List.mem_flatMap.mp joined
    obtain ⟨m',hit,same⟩ := List.mem_map.mp inner
    cases same
    obtain ⟨a,present,author⟩ := valid.authors m (List.mem_of_mem_filter hit)
    exact ⟨a,present,congrArg some author⟩
  have distinct : (db.agents.map fun a => some a.id).Nodup := by
    have := valid.agentIds.map (Option.some_injective _)
    rwa [List.map_map] at this
  have total := sum_counts_owners (f := fun key : Option Uuid => key) distinct owned
  rw [← total]
  congr 1
  refine List.map_congr_left fun a _ => ?_
  rw [List.count_eq_countP]
  refine List.countP_congr fun key _ => ?_
  simp

-- The count that a single read reports, over the toggles of one table.
theorem own_received (valid : db.Valid) (zone : Timestamptz → Int) (toggles : List ToggleRow)
    (counted : MessageWithAgent → Nat)
    (reported : ∀ m, counted (view zone db m) = (toggles.map (some ·.messageId)).count (some m.id)) (id : Uuid) :
    (receivers db toggles).count (some id) = ((db.messages.filter (·.agentId = id)).map fun m =>
      (GetMessageWithAgent zone db m.id).elim 0 counted).sum := by
  rw [receivers_by_message]
  congr 1
  refine List.map_congr_left fun m own => ?_
  rw [single_view valid,find_row valid.messageIds (List.mem_of_mem_filter own)]
  exact (reported m).symm

-- A state with a NULL description satisfies every key and every reference, and
-- its agent cannot be read.
theorem undescribed_agent_unread : ¬ ∀ (zone : Timestamptz → Int) (db : Database) (ticks : List TickRow),
    db.Valid → TicksValid db ticks → ∃ stats, Balanced zone db ticks stats := by
  intro always
  let ada : AgentRow := ⟨1,"ada","Ada",none,none,"tk_agent_ada",some 10,some true⟩
  have valid : Database.Valid {agents := [ada]} := by
    constructor
    all_goals simp
  have keys : TicksValid {agents := [ada]} [] := ⟨by simp,by simp⟩
  obtain ⟨stats,balanced⟩ := always (fun _ => 0) _ _ valid keys
  have unread : [GetAgentWithStats (fun _ => 0) {agents := [ada]} [] 1] = stats.map .ok := balanced.answers
  cases stats with
  | nil => cases unread
  | cons s rest => cases (List.cons.inj unread).1

-- CreateAgent stores a row that scans, with an empty description when none was sent,
-- and no statement puts a NULL there.
theorem agent_statistics_balance (valid : db.Valid) (keys : TicksValid db ticks)
    (scans : ∀ a ∈ db.agents, a.scans = true) (zone : Timestamptz → Int) :
    ∃ stats, Balanced zone db ticks stats := by
  refine ⟨db.agents.map fun a => (statsRow db ticks a).answer zone,?_,?_,?_,?_,?_,?_,?_,?_,?_⟩
  · rw [List.map_map]
    refine List.map_congr_left fun a member => ?_
    rw [GetAgentWithStats_row valid keys zone member]
    exact scan_stats zone _ (scans a member)
  · rw [List.map_map]
    exact sum_counts_owners valid.agentIds valid.authors
  · rw [List.map_map]
    exact given_total valid fun e member => (valid.endorsementRefs e member).1
  · rw [List.map_map]
    exact received_total valid fun e member => (valid.endorsementRefs e member).2
  · rw [List.map_map]
    exact given_total valid fun p member => (valid.propagationRefs p member).1
  · rw [List.map_map]
    exact received_total valid fun p member => (valid.propagationRefs p member).2
  · intro m member
    rw [single_view valid,find_row valid.messageIds member]
    rfl
  · intro s member
    obtain ⟨a,_,rfl⟩ := List.mem_map.mp member
    exact own_received valid zone db.endorsements _ (fun _ => rfl) a.id
  · intro s member
    obtain ⟨a,_,rfl⟩ := List.mem_map.mp member
    exact own_received valid zone db.propagations _ (fun _ => rfl) a.id

theorem agent_statistics_balance_sample : ∃ stats, Balanced (fun _ => 0) .sample [⟨2,some 5,none,900⟩] stats :=
  agent_statistics_balance Database.sample_valid ⟨by decide,by decide⟩ (by decide) _

end Trokk
