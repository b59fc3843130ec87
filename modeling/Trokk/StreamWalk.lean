import Trokk.MessageQueries

-- A client follows next_cursor through ListMessages while messages keep coming
-- in. Rows are only ever inserted; nothing updates or deletes a message.
namespace Trokk

def insertMessage (db : Database) (m : MessageRow) : Database := {db with messages := db.messages ++ [m]}

-- What the primary key and the two references demand of a new row.
structure Insertable (db : Database) (m : MessageRow) : Prop where
  fresh : ∀ old ∈ db.messages, old.id ≠ m.id
  author : ∃ a ∈ db.agents, a.id = m.agentId
  parent : ∀ p ∈ m.parentMsgId, ∃ q ∈ db.messages, q.id = p

theorem insertMessage_valid (valid : db.Valid) (new : Insertable db m) : (insertMessage db m).Valid :=
  { valid with
    messageIds := by
      simp only [insertMessage,List.map_append,List.map_cons,List.map_nil]
      refine List.nodup_append.mpr ⟨valid.messageIds,by simp,?_⟩
      intro a inOld b isNew
      obtain ⟨old,member,rfl⟩ := List.mem_map.mp inOld
      rw [List.mem_singleton.mp isNew]
      exact new.fresh old member
    authors := by
      intro q member
      rcases List.mem_append.mp member with old | isNew
      · exact valid.authors q old
      · rw [List.mem_singleton.mp isNew]
        exact new.author
    parents := by
      intro q member p isParent
      have found : ∃ r ∈ db.messages, r.id = p := by
        rcases List.mem_append.mp member with old | isNew
        · exact valid.parents q old p isParent
        · rw [List.mem_singleton.mp isNew] at isParent
          exact new.parent p isParent
      obtain ⟨r,inOld,same⟩ := found
      exact ⟨r,List.mem_append_left _ inOld,same⟩
    endorsementRefs := by
      intro e member
      obtain ⟨agent,r,inOld,same⟩ := valid.endorsementRefs e member
      exact ⟨agent,r,List.mem_append_left _ inOld,same⟩
    propagationRefs := by
      intro p member
      obtain ⟨agent,r,inOld,same⟩ := valid.propagationRefs p member
      exact ⟨agent,r,List.mem_append_left _ inOld,same⟩ }

-- Pages are kept oldest call first. `more` is the last answer's flag, or true
-- before the first call.
structure Walk where
  cursor : Option Cursor
  pages : List Page
  more : Bool

def Walk.start : Walk := ⟨none,[],true⟩
def Walk.messages (w : Walk) : List MessageWithAgent := w.pages.flatMap Page.messages
def Walk.turn (w : Walk) (page : Page) : Walk := ⟨page.nextCursor,w.pages ++ [page],page.hasMore⟩

theorem Walk.turn_messages (w : Walk) (page : Page) :
    (w.turn page).messages = w.messages ++ page.messages := by
  simp [Walk.turn,Walk.messages]

inductive WalkStep (zone : Timestamptz → Int) (agentID : Option Uuid) (limit : Nat) :
    Database × Walk → Database × Walk → Prop where
  | insert : Insertable db m → WalkStep zone agentID limit (db,w) (insertMessage db m,w)
  | call : w.more = true → ListMessages zone db w.cursor agentID limit = .ok page →
      WalkStep zone agentID limit (db,w) (db,w.turn page)

inductive Walking (zone : Timestamptz → Int) (agentID : Option Uuid) (limit : Nat) (initial : Database) :
    Database × Walk → Prop where
  | start : Walking zone agentID limit initial (initial,Walk.start)
  | step : Walking zone agentID limit initial s → WalkStep zone agentID limit s next →
      Walking zone agentID limit initial next

section
variable {zone : Timestamptz → Int} {agentID : Option Uuid} {limit : Nat} {initial : Database}

def candidates (db : Database) (agentID : Option Uuid) : List MessageRow :=
  db.messages.filter (MatchesAgent agentID ·)

theorem candidates_distinct {db : Database} (valid : db.Valid) :
    ((candidates db agentID).map MessageRow.key).Nodup :=
  (keys_distinct valid).sublist (List.filter_sublist.map _)

-- The walk against the table alone: `seen` are the rows whose views were handed
-- out, at whatever state each page was read.
structure Tracks (zone : Timestamptz → Int) (agentID : Option Uuid) (initial db : Database) (w : Walk)
    (seen : List MessageRow) : Prop where
  valid : db.Valid
  walked : Keyset.Walked MessageRow.key (candidates initial agentID) (candidates db agentID) seen w.more
  shown : w.messages.map MessageWithAgent.toMessage = seen.map (MessageRow.scan zone)
  resumes : w.more = true → w.cursor.map Cursor.key = seen.getLast?.map MessageRow.key
  short : w.pages.length ≤ seen.length + 1
  full : w.more = true → w.pages.length ≤ seen.length

theorem start_tracks (valid : initial.Valid) : Tracks zone agentID initial initial Walk.start [] :=
  ⟨valid,Keyset.walk_starts _ _,rfl,fun _ => rfl,Nat.zero_le _,fun _ => Nat.zero_le _⟩

-- One answered call is one page over the rows present at that moment.
theorem call_page {db : Database} (valid : db.Valid) (positive : 0 < limit)
    (answer : ListMessages zone db cursor agentID limit = .ok page) :
    ∃ rows : List MessageRow, Keyset.PageOf MessageRow.key (candidates db agentID) (cursor.map Cursor.key) rows page.hasMore ∧
      page.messages.map MessageWithAgent.toMessage = rows.map (MessageRow.scan zone) ∧
      page.nextCursor.map Cursor.key = rows.getLast?.map MessageRow.key := by
  rw [ListMessages_spec valid] at answer
  cases answer
  refine ⟨(fetched db cursor agentID limit).take limit,?_,?_,?_⟩
  · exact Keyset.truncated_page positive (candidates_distinct valid)
  · simp only [List.map_map]
    rfl
  · simp only [Option.map_map]
    congr 1
    funext m
    simp [Cursor.key,MessageRow.key]

theorem insert_tracks (tracks : Tracks zone agentID initial db w seen) (new : Insertable db m) :
    Tracks zone agentID initial (insertMessage db m) w seen := by
  refine ⟨insertMessage_valid tracks.valid new,tracks.walked.grows ?_,tracks.shown,tracks.resumes,tracks.short,tracks.full⟩
  intro r member
  simp only [candidates,List.mem_filter] at member ⊢
  exact ⟨List.mem_append_left _ member.1,member.2⟩

theorem call_tracks (tracks : Tracks zone agentID initial db w seen) (positive : 0 < limit)
    (going : w.more = true) (answer : ListMessages zone db w.cursor agentID limit = .ok page) :
    ∃ rows, Keyset.PageOf MessageRow.key (candidates db agentID) (seen.getLast?.map MessageRow.key) rows page.hasMore ∧
      Tracks zone agentID initial db (w.turn page) (seen ++ rows) := by
  obtain ⟨rows,pageOf,shown,next⟩ := call_page tracks.valid positive answer
  rw [tracks.resumes going] at pageOf
  have walked := tracks.walked
  rw [going] at walked
  have before := tracks.full going
  refine ⟨rows,pageOf,tracks.valid,walked.turns pageOf,?_,?_,?_,?_⟩
  · rw [Walk.turn_messages,List.map_append,List.map_append,tracks.shown,shown]
  · intro again
    obtain ⟨last,isLast,_⟩ := pageOf.remaining again
    rw [Keyset.getLast?_append_page,isLast,Option.some_or,← isLast]
    exact next
  · simp only [Walk.turn,List.length_append,List.length_singleton]
    omega
  · intro again
    obtain ⟨last,isLast,_⟩ := pageOf.remaining again
    have := List.length_pos_of_mem (List.mem_of_getLast? isLast)
    simp only [Walk.turn,List.length_append,List.length_singleton]
    omega

theorem walking_tracks (valid : initial.Valid) (positive : 0 < limit)
    (run : Walking zone agentID limit initial s) : ∃ seen, Tracks zone agentID initial s.1 s.2 seen := by
  induction run with
  | start => exact ⟨[],start_tracks valid⟩
  | step prior step ih =>
    obtain ⟨seen,tracks⟩ := ih
    cases step with
    | insert new => exact ⟨seen,insert_tracks tracks new⟩
    | call going answer =>
      obtain ⟨rows,_,next⟩ := call_tracks tracks positive going answer
      exact ⟨seen ++ rows,next⟩

theorem key_of_shown {r : MessageWithAgent} {m : MessageRow} (shown : r.toMessage = m.scan zone) : r.key = m.key := by
  have created : r.createdAt = Time.scan zone m.createdAt := congrArg Message.createdAt shown
  have id : r.id = m.id := congrArg Message.id shown
  simp [MessageWithAgent.key,MessageRow.key,created,id]

theorem shown_keys {messages : List MessageWithAgent} {rows : List MessageRow}
    (shown : messages.map MessageWithAgent.toMessage = rows.map (MessageRow.scan zone)) :
    messages.map MessageWithAgent.key = rows.map MessageRow.key := by
  induction messages generalizing rows with
  | nil =>
    cases rows with
    | nil => rfl
    | cons => cases shown
  | cons head rest ih =>
    cases rows with
    | nil => cases shown
    | cons row others =>
      simp only [List.map_cons,List.cons.injEq] at shown ⊢
      exact ⟨key_of_shown shown.1,ih shown.2⟩

theorem scan_injective : Function.Injective (MessageRow.scan zone) := by
  intro a b same
  have created := congrArg (fun m : Message => m.createdAt.column) same
  simp only [MessageRow.scan,Time.column_scan] at created
  simp only [MessageRow.scan,Message.mk.injEq] at same
  cases a; cases b
  simp_all

-- What a client can rely on after any number of calls.
structure WalkFacts (zone : Timestamptz → Int) (agentID : Option Uuid) (limit : Nat) (initial db : Database)
    (w : Walk) : Prop where
  descending : w.messages.Pairwise (fun a b => b.key < a.key)
  distinct : (w.messages.map (·.id)).Nodup
  onlyAgent : ∀ r ∈ w.messages, ∀ id ∈ agentID, r.agentId = id
  stored : ∀ r ∈ w.messages, ∃ m ∈ db.messages, r.toMessage = m.scan zone
  complete : w.more = false → ∀ m ∈ initial.messages, MatchesAgent agentID m →
    (w.messages.map MessageWithAgent.toMessage).count (m.scan zone) = 1
  answered : ∃ page, ListMessages zone db w.cursor agentID limit = .ok page
  hasMore : w.more = true → ∀ page, ListMessages zone db w.cursor agentID limit = .ok page →
    (page.hasMore = true ↔ ∃ last, (w.messages ++ page.messages).getLast? = some last ∧
      ∃ m ∈ db.messages, MatchesAgent agentID m ∧ m.key < last.key)
  bounded : w.pages.length ≤ db.messages.length + 1

section
variable {db : Database} {w : Walk}

theorem Tracks.selected (tracks : Tracks zone agentID initial db w seen) (member : m ∈ seen) :
    m ∈ db.messages ∧ MatchesAgent agentID m := by
  simpa [candidates] using tracks.walked.sound m member

theorem Tracks.row_of (tracks : Tracks zone agentID initial db w seen) (member : r ∈ w.messages) :
    ∃ m, m ∈ seen ∧ r.toMessage = m.scan zone := by
  have present := List.mem_map_of_mem (f := MessageWithAgent.toMessage) member
  rw [tracks.shown] at present
  obtain ⟨m,inSeen,same⟩ := List.mem_map.mp present
  exact ⟨m,inSeen,same.symm⟩

theorem Tracks.descending (tracks : Tracks zone agentID initial db w seen) :
    w.messages.Pairwise fun a b => b.key < a.key := by
  apply (List.pairwise_map (f := MessageWithAgent.key) (R := fun a b => b < a)).mp
  rw [shown_keys tracks.shown]
  exact List.pairwise_map.mpr tracks.walked.descending

theorem Tracks.distinct (tracks : Tracks zone agentID initial db w seen) : (w.messages.map (·.id)).Nodup := by
  have ids : w.messages.map (·.id) = seen.map MessageRow.id := by
    have := congrArg (List.map Message.id) tracks.shown
    simpa [List.map_map,Function.comp_def,MessageRow.scan] using this
  rw [ids]
  have sub : seen.Subperm db.messages :=
    tracks.walked.descending.nodup.subperm fun m member => (tracks.selected member).1
  obtain ⟨sorted,perm,sublist⟩ := sub
  exact (perm.map _).nodup_iff.mp (tracks.valid.messageIds.sublist (sublist.map _))

theorem Tracks.once (tracks : Tracks zone agentID initial db w seen) (ended : w.more = false)
    (member : m ∈ initial.messages) (matching : MatchesAgent agentID m) :
    (w.messages.map MessageWithAgent.toMessage).count (m.scan zone) = 1 := by
  have walked := tracks.walked
  rw [ended] at walked
  have inSeen : m ∈ seen := walked.finished (by simpa [candidates] using And.intro member matching)
  rw [tracks.shown]
  have distinct := List.Nodup.map (@scan_injective zone) walked.descending.nodup
  exact List.count_eq_one_of_mem distinct (List.mem_map_of_mem inSeen)

theorem Tracks.hasMore (positive : 0 < limit) (tracks : Tracks zone agentID initial db w seen) (going : w.more = true)
    (answer : ListMessages zone db w.cursor agentID limit = .ok page) :
    page.hasMore = true ↔ ∃ last, (w.messages ++ page.messages).getLast? = some last ∧
      ∃ m ∈ db.messages, MatchesAgent agentID m ∧ m.key < last.key := by
  obtain ⟨rows,pageOf,next⟩ := call_tracks tracks positive going answer
  have lasts : (w.messages ++ page.messages).getLast?.map MessageWithAgent.key = (seen ++ rows).getLast?.map MessageRow.key := by
    have keys := shown_keys next.shown
    rw [Walk.turn_messages] at keys
    rw [← List.getLast?_map,← List.getLast?_map,keys]
  rw [Keyset.page_more_iff pageOf]
  simp only [candidates,List.mem_filter,decide_eq_true_eq,and_assoc]
  constructor
  · intro exists'
    obtain ⟨row,isLast,m,found⟩ := exists'
    rw [isLast,Option.map_some] at lasts
    obtain ⟨last,atEnd,same⟩ := Option.map_eq_some_iff.mp lasts
    exact ⟨last,atEnd,m,by rwa [same]⟩
  · intro exists'
    obtain ⟨last,atEnd,m,found⟩ := exists'
    rw [atEnd,Option.map_some] at lasts
    obtain ⟨row,isLast,same⟩ := Option.map_eq_some_iff.mp lasts.symm
    exact ⟨row,isLast,m,by rwa [same]⟩

theorem Tracks.bounded (tracks : Tracks zone agentID initial db w seen) : w.pages.length ≤ db.messages.length + 1 := by
  have pages := tracks.short
  have rows := tracks.walked.bounded
  have all : (candidates db agentID).length ≤ db.messages.length := List.length_filter_le _ _
  omega

theorem tracks_facts (positive : 0 < limit) (tracks : Tracks zone agentID initial db w seen) :
    WalkFacts zone agentID limit initial db w := by
  refine ⟨tracks.descending,tracks.distinct,?_,?_,fun ended _ => tracks.once ended,?_,
    fun going _ => tracks.hasMore positive going,tracks.bounded⟩
  · intro r member id isAgent
    obtain ⟨m,inSeen,same⟩ := tracks.row_of member
    have agent : r.agentId = m.agentId := congrArg Message.agentId same
    rw [agent]
    exact (tracks.selected inSeen).2 id isAgent
  · intro r member
    obtain ⟨m,inSeen,same⟩ := tracks.row_of member
    exact ⟨m,(tracks.selected inSeen).1,same⟩
  · exact ⟨_,ListMessages_spec tracks.valid zone w.cursor agentID limit⟩

end

theorem quiet_step (step : WalkStep zone agentID limit s next) (quiet : next.1 = s.1) :
    next.2.pages.length = s.2.pages.length + 1 := by
  cases step with
  | @insert db m w new =>
    have longer := congrArg (fun db : Database => db.messages.length) quiet
    simp [insertMessage] at longer
  | call => simp [Walk.turn]

theorem walking_run (run : Nat → Database × Walk) (first : run 0 = (initial,Walk.start))
    (steps : ∀ k, WalkStep zone agentID limit (run k) (run (k+1))) (k : Nat) :
    Walking zone agentID limit initial (run k) := by
  induction k with
  | zero => exact first ▸ .start
  | succ k ih => exact .step ih (steps k)

-- Every prefix of a walk keeps its promises, and a walk that goes on forever is
-- one into which rows are inserted again and again.
theorem ListMessages_walk (valid : initial.Valid) (positive : 1 ≤ limit) :
    (∀ db w, Walking zone agentID limit initial (db,w) → WalkFacts zone agentID limit initial db w) ∧
    ∀ run : Nat → Database × Walk, run 0 = (initial,Walk.start) →
      (∀ k, WalkStep zone agentID limit (run k) (run (k+1))) → ∀ k, ∃ later ≥ k, (run (later+1)).1 ≠ (run later).1 := by
  have facts : ∀ s, Walking zone agentID limit initial s → WalkFacts zone agentID limit initial s.1 s.2 := by
    intro s path
    obtain ⟨seen,tracks⟩ := walking_tracks valid positive path
    exact tracks_facts positive tracks
  refine ⟨fun db w => facts (db,w),?_⟩
  intro run first steps k
  by_contra never
  push Not at never
  have still : ∀ n, (run (k+n)).1 = (run k).1 ∧ n ≤ (run (k+n)).2.pages.length := by
    intro n
    induction n with
    | zero => exact ⟨rfl,Nat.zero_le _⟩
    | succ n ih =>
      have quiet := never (k+n) (Nat.le_add_right k n)
      have counted := quiet_step (steps (k+n)) quiet
      rw [← Nat.add_assoc]
      exact ⟨quiet.trans ih.1,by omega⟩
  obtain ⟨same,many⟩ := still ((run k).1.messages.length + 2)
  have few := (facts _ (walking_run run first steps (k + ((run k).1.messages.length + 2)))).bounded
  rw [same] at few
  omega

theorem ListMessages_walk_sample :
    (∀ db w, Walking (fun _ => 0) (some 1) 1 Database.sample (db,w) → WalkFacts (fun _ => 0) (some 1) 1 Database.sample db w) ∧
    ∀ run : Nat → Database × Walk, run 0 = (Database.sample,Walk.start) →
      (∀ k, WalkStep (fun _ => 0) (some 1) 1 (run k) (run (k+1))) → ∀ k, ∃ later ≥ k, (run (later+1)).1 ≠ (run later).1 :=
  ListMessages_walk Database.sample_valid (by decide)

end
end Trokk
