import Trokk.Integrity

-- Agents are created, messages are written and answered, endorsements and
-- propagations are toggled: what the three reads of messages then return.
namespace Trokk
open Relational

inductive Done where
  | agent (a : AgentRow)
  | message (m : MessageRow)
  | toggle (key : ToggleKey)
  deriving DecidableEq

-- The requests that were carried out, from the empty database on.
inductive History : List Done → Database → Prop where
  | start : History [] {}
  | createAgent : History log db → perform c db .fresh (.insertAgent req apiKey) = .ok (a,db',session) →
      History (log ++ [.agent a]) db'
  | createMessage : History log db → perform c db .fresh (.insertMessage agentId content parent) = .ok (m,db',session) →
      History (log ++ [.message m]) db'
  | toggle : History log db → perform c db .fresh (.toggle key) = .ok (present,db',session) →
      History (log ++ [.toggle key]) db'

def agentsOf (log : List Done) : List AgentRow := log.filterMap fun | .agent a => some a | _ => none
def messagesOf (log : List Done) : List MessageRow := log.filterMap fun | .message m => some m | _ => none

-- The agents that toggled the message an odd number of times.
def togglers (log : List Done) (table : ToggleTable) (m : MessageRow) : List AgentRow :=
  (agentsOf log).filter fun a => Odd (log.count (.toggle (table,⟨a.id,m.id⟩)))

-- A returned row against the history: `m` is the message it is about.
structure Counted (zone : Timestamptz → Int) (log : List Done) (m : MessageRow) (r : MessageWithAgent) : Prop where
  message : r.toMessage = m.scan zone
  written : ∃ a ∈ agentsOf log, a.id = m.agentId
  author : ∀ a ∈ agentsOf log, a.id = m.agentId → r.agentUsername = a.username ∧ r.agentDisplayName = a.displayName
  endorsements : r.endorsementCount = (togglers log .endorsements m).length
  propagations : r.propagationCount = (togglers log .propagations m).length
  responses : r.responseCount = (messagesOf log).countP fun q => q.parentMsgId = some m.id

-- All three reads show one view of each message, and every message that matches
-- once.
structure CountsExact (zone : Timestamptz → Int) (log : List Done) (db : Database) (view : MessageRow → MessageWithAgent) : Prop where
  counted : ∀ m ∈ messagesOf log, Counted zone log m (view m)
  distinct : ((messagesOf log).map MessageRow.id).Nodup
  listed : ∀ agentID limit w, 1 ≤ limit → Walking zone agentID limit db (db,w) → w.more = false →
    w.messages.Perm (((messagesOf log).filter (MatchesAgent agentID ·)).map view)
  listable : ∀ agentID limit, 1 ≤ limit → ∃ w, Walking zone agentID limit db (db,w) ∧ w.more = false
  responses : ∀ parent, (GetResponses zone db parent).Perm (((messagesOf log).filter (·.parentMsgId = some parent)).map view)
  single : ∀ id, GetMessageWithAgent zone db id = ((messagesOf log).find? (·.id = id)).map view
  alone : ∀ m ∈ messagesOf log, (streamRows db).countP (·.message.id = m.id) = 1

-- The tables against the history.
structure Replays (log : List Done) (db : Database) : Prop where
  valid : db.Valid
  agents : db.agents = agentsOf log
  messages : db.messages = messagesOf log
  toggles : ∀ key, key.2 ∈ db.toggles key.1 ↔ Odd (log.count (.toggle key))

section
variable {db db' : Database} {c : Choice} {session session' : Session}

theorem toggle_table (done : perform c db session (.toggle key) = .ok (present,db',session')) : db' = db.toggled key := by
  simp only [perform] at done
  split at done
  · cases done
    rfl
  · split at done <;> cases done
    rfl

theorem toggled_agents (db : Database) (key : ToggleKey) : (db.toggled key).agents = db.agents := by
  rw [toggled_eq]

end

theorem empty_valid : ({} : Database).Valid := by
  constructor
  all_goals simp

-- A step that leaves the toggles as they were, and is no toggle.
theorem Replays.untoggled (replays : Replays log db) (valid : db'.Valid) (still : db'.toggles = db.toggles)
    (step : ∀ key, .toggle key ≠ done) (agents : db'.agents = agentsOf (log ++ [done]))
    (messages : db'.messages = messagesOf (log ++ [done])) : Replays (log ++ [done]) db' := by
  refine ⟨valid,agents,messages,?_⟩
  intro key
  rw [still,replays.toggles,List.count_append,List.count_singleton,if_neg (by simpa using (step key).symm),Nat.add_zero]

theorem history_replays (history : History log db) : Replays log db := by
  induction history with
  | start =>
    refine ⟨empty_valid,rfl,rfl,?_⟩
    intro key
    obtain ⟨table,row⟩ := key
    cases table <;> simp [Database.toggles]
  | createAgent _ done ih =>
    have valid := effect_valid (perform_effect done) ih.valid (fresh_sound _)
    obtain ⟨-,rfl,-⟩ := insertAgent_done done
    apply ih.untoggled valid rfl (fun _ => by simp)
    · simp [agentsOf,ih.agents]
    · simp [messagesOf,ih.messages]
  | createMessage _ done ih =>
    have valid := effect_valid (perform_effect done) ih.valid (fresh_sound _)
    obtain ⟨-,rfl,-⟩ := insertMessage_done done
    apply ih.untoggled valid rfl (fun _ => by simp)
    · simp [agentsOf,ih.agents]
    · simp [messagesOf,ih.messages]
  | @toggle log db c call present db' session _ done ih =>
    have valid := effect_valid (perform_effect done) ih.valid (fresh_sound _)
    obtain rfl := toggle_table done
    refine ⟨valid,?_,?_,?_⟩
    · simp [toggled_agents,agentsOf,ih.agents]
    · simp [toggled_messages,messagesOf,ih.messages]
    · intro key
      rw [mem_toggled ih.valid.toggles,List.count_append,List.count_singleton]
      by_cases same : key = call
      · subst same
        rw [if_pos rfl,if_pos (by simp),ih.toggles,Nat.odd_add_one]
      · rw [if_neg same,if_neg (by simpa using Ne.symm same),Nat.add_zero]
        exact ih.toggles key

-- One column of the tables that record toggles, counted by agents.
theorem toggles_count (replays : Replays log db) (table : ToggleTable) (m : MessageRow)
    (refs : ∀ e ∈ db.toggles table, ∃ a ∈ db.agents, a.id = e.agentId) :
    ((db.toggles table).map (some ·.messageId)).count (some m.id) = (togglers log table m).length := by
  have links : (db.agents.map fun a => (⟨a.id,m.id⟩ : ToggleRow)).Nodup := by
    apply List.Nodup.of_map ToggleRow.agentId
    rw [List.map_map]
    exact replays.valid.agentIds
  have owned : ∀ e ∈ db.toggles table, decide (e.messageId = m.id) = true → ∃ a ∈ db.agents, (⟨a.id,m.id⟩ : ToggleRow) = e := by
    intro e member about
    obtain ⟨a,present,same⟩ := refs e member
    exact ⟨a,present,by rw [same,← of_decide_eq_true about]⟩
  rw [count_key,countP_owners (replays.valid.toggles.distinct table) links (fun _ => by simp) owned,
    togglers,← replays.agents,← List.countP_eq_length_filter]
  refine List.countP_congr fun a _ => ?_
  simp only [decide_eq_true_eq]
  exact replays.toggles (table,⟨a.id,m.id⟩)

variable {log : List Done} {db : Database} {zone : Timestamptz → Int}

def view (zone : Timestamptz → Int) (db : Database) (m : MessageRow) : MessageWithAgent := (messageRow db m).scan zone

-- What the walk promises about its rows fixes them, once each is some row's view.
theorem views_of {R : Type} {shown : List MessageWithAgent} {rows : List R} {scan : R → Message} {view : R → MessageWithAgent}
    (same : shown.map MessageWithAgent.toMessage = rows.map scan) (apart : Function.Injective scan)
    (scanned : ∀ m, (view m).toMessage = scan m) (views : ∀ r ∈ shown, ∃ m, r = view m) : shown = rows.map view := by
  induction shown generalizing rows with
  | nil =>
    cases rows with
    | nil => rfl
    | cons => cases same
  | cons r rest ih =>
    cases rows with
    | nil => cases same
    | cons m others =>
      simp only [List.map_cons,List.cons.injEq] at same ⊢
      obtain ⟨q,rfl⟩ := views r List.mem_cons_self
      have about : q = m := apart ((scanned q).symm.trans same.1)
      exact ⟨by rw [about],ih same.2 fun r member => views r (List.mem_cons_of_mem _ member)⟩

theorem view_counted (replays : Replays log db) (member : m ∈ db.messages) : Counted zone log m (view zone db m) := by
  obtain ⟨present,same,_⟩ := author_unique replays.valid member
  refine ⟨rfl,⟨author db m,replays.agents ▸ present,same⟩,?_,?_,?_,?_⟩
  · intro a isAgent isAuthor
    rw [← replays.agents] at isAgent
    obtain rfl := List.inj_on_of_nodup_map replays.valid.agentIds isAgent present (isAuthor.trans same.symm)
    exact ⟨rfl,rfl⟩
  · exact toggles_count replays .endorsements m fun e member => (replays.valid.endorsementRefs e member).1
  · exact toggles_count replays .propagations m fun p member => (replays.valid.propagationRefs p member).1
  · rw [← replays.messages]
    change (db.messages.map MessageRow.parentMsgId).count (some m.id) = _
    rw [List.count_eq_countP,List.countP_map]
    exact List.countP_congr fun q _ => by simp

section
variable {initial : Database} {agentID : Option Uuid} {limit : Nat}

-- A walk into which nothing was inserted has read every page from one state.
theorem walking_views (valid : initial.Valid) (run : Walking zone agentID limit initial s) :
    initial.messages.length ≤ s.1.messages.length ∧ (s.1.messages.length = initial.messages.length →
      s.1 = initial ∧ ∀ r ∈ s.2.messages, ∃ m, r = view zone initial m) := by
  induction run with
  | start => exact ⟨Nat.le_refl _,fun _ => ⟨rfl,fun r member => absurd member List.not_mem_nil⟩⟩
  | step _ step ih =>
    obtain ⟨longer,before⟩ := ih
    cases step with
    | insert =>
      simp only [insertMessage,List.length_append,List.length_singleton] at longer ⊢
      exact ⟨by omega,fun same => by omega⟩
    | call _ answer =>
      refine ⟨longer,fun quiet => ?_⟩
      obtain ⟨rfl,views⟩ := before quiet
      refine ⟨rfl,?_⟩
      rw [ListMessages_spec valid] at answer
      cases answer
      intro r member
      rw [Walk.turn_messages] at member
      cases List.mem_append.mp member with
      | inl old => exact views r old
      | inr isNew =>
        obtain ⟨m,_,same⟩ := List.mem_map.mp isNew
        exact ⟨m,same.symm⟩

theorem full_walk (valid : db.Valid) (positive : 1 ≤ limit) (run : Walking zone agentID limit db (db,w)) (ended : w.more = false) :
    w.messages.Perm ((candidates db agentID).map (view zone db)) := by
  obtain ⟨seen,tracks⟩ := walking_tracks valid positive run
  have views := ((walking_views valid run).2 rfl).2
  rw [views_of tracks.shown scan_injective (fun _ => rfl) views]
  have walked := tracks.walked
  rw [ended] at walked
  have distinct : (candidates db agentID).Nodup := List.Nodup.of_map _ (candidates_distinct valid)
  apply List.Perm.map
  rw [List.perm_ext_iff_of_nodup walked.descending.nodup distinct]
  exact fun m => ⟨walked.sound m,fun member => walked.finished member⟩

-- Every call is answered, and the pages run out.
theorem walk_ends (valid : db.Valid) (positive : 1 ≤ limit) : ∃ w, Walking zone agentID limit db (db,w) ∧ w.more = false := by
  by_contra never
  push Not at never
  have endless : ∀ n, ∃ w, Walking zone agentID limit db (db,w) ∧ w.pages.length = n := by
    intro n
    induction n with
    | zero => exact ⟨_,.start,rfl⟩
    | succ n ih =>
      obtain ⟨w,run,pages⟩ := ih
      have answered := ListMessages_spec valid zone w.cursor agentID limit
      refine ⟨_,.step run (.call (by simpa using never w run) answered),?_⟩
      simp [Walk.turn,pages]
  obtain ⟨w,run,many⟩ := endless (db.messages.length + 2)
  obtain ⟨seen,tracks⟩ := walking_tracks valid positive run
  have few := tracks.bounded
  simp only at few
  omega

end

theorem responses_views (valid : db.Valid) (parent : Uuid) :
    (GetResponses zone db parent).Perm ((db.messages.filter (·.parentMsgId = some parent)).map (view zone db)) := by
  unfold GetResponses
  rw [streamRows_map valid,List.filter_map]
  have sorted := List.perm_insertionSort (fun a b : StreamRow => b.message.createdAt ≤ a.message.createdAt)
    ((db.messages.filter ((fun row : StreamRow => decide (row.message.parentMsgId = some parent)) ∘ messageRow db)).map (messageRow db))
  have shown := sorted.map (StreamRow.scan zone)
  rw [List.map_map] at shown
  exact shown

theorem single_view (valid : db.Valid) (id : Uuid) :
    GetMessageWithAgent zone db id = (db.messages.find? (·.id = id)).map (view zone db) := by
  unfold GetMessageWithAgent
  rw [streamRows_map valid,List.filter_map,List.map_map,List.head?_map,List.head?_filter]
  rfl

theorem joins_once (valid : db.Valid) (member : m ∈ db.messages) : (streamRows db).countP (·.message.id = m.id) = 1 := by
  rw [streamRows_map valid,List.countP_map]
  have ids : db.messages.countP ((fun row : StreamRow => decide (row.message.id = m.id)) ∘ messageRow db) =
      (db.messages.map MessageRow.id).count m.id := by
    rw [List.count_eq_countP,List.countP_map]
    refine List.countP_congr fun q _ => ?_
    simp only [Function.comp,beq_iff_eq]
    exact decide_eq_true_iff
  rw [ids]
  exact List.count_eq_one_of_mem valid.messageIds (List.mem_map_of_mem member)

-- Whatever the zone of the server, the reads see the history and nothing else.
theorem message_counts_exact (zone : Timestamptz → Int) (history : History log db) : ∃ view, CountsExact zone log db view := by
  have replays := history_replays history
  have valid := replays.valid
  have messages := replays.messages
  refine ⟨view zone db,?_,?_,?_,?_,?_,?_,?_⟩
  · rw [← messages]
    exact fun m => view_counted replays
  · rw [← messages]
    exact valid.messageIds
  · rw [← messages]
    exact fun agentID limit w positive run ended => full_walk valid positive run ended
  · exact fun agentID limit positive => walk_ends valid positive
  · rw [← messages]
    exact responses_views valid
  · rw [← messages]
    exact single_view valid
  · rw [← messages]
    exact fun m => joins_once valid

-- Ada writes, answers herself and endorses what she wrote.
theorem message_counts_exact_sample :
    let ada : AgentRow := ⟨1,"ada","Ada",some "",none,"tk_agent_ada",some 10,some true⟩
    let first : MessageRow := ⟨11,1,"first",none,100⟩
    let second : MessageRow := ⟨12,1,"second",some 11,200⟩
    ∃ view, CountsExact (fun _ => 0) [.agent ada,.message first,.message second,.toggle (.endorsements,⟨1,11⟩)]
      {agents := [ada],messages := [first,second],endorsements := [⟨1,11⟩]} view := by
  intro ada first second
  have registered : perform ⟨.answered,10,1,""⟩ {} .fresh (.insertAgent ⟨"ada","Ada","",none⟩ "tk_agent_ada") =
      .ok (ada,{agents := [ada]},.fresh) := rfl
  have wrote : perform ⟨.answered,100,11,""⟩ {agents := [ada]} .fresh (.insertMessage 1 "first" none) =
      .ok (first,{agents := [ada],messages := [first]},.fresh) := rfl
  have answered : perform ⟨.answered,200,12,""⟩ {agents := [ada],messages := [first]} .fresh (.insertMessage 1 "second" (some 11)) =
      .ok (second,{agents := [ada],messages := [first,second]},.fresh) := rfl
  have endorsed : perform ⟨.answered,300,0,""⟩ {agents := [ada],messages := [first,second]} .fresh (.toggle (.endorsements,⟨1,11⟩)) =
      .ok (true,{agents := [ada],messages := [first,second],endorsements := [⟨1,11⟩]},.fresh) := rfl
  exact message_counts_exact (fun _ => 0) (.toggle (.createMessage (.createMessage (.createAgent .start registered) wrote) answered) endorsed)

end Trokk
