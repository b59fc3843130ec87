import Trokk.StreamCache

-- useMessages of ferr/src/lib/api/hooks.ts, the list behind the stream page. Requests
-- are answered and their responses arrive at any time and in any order.
namespace Trokk

structure UseMessages where
  messages : List MessageWithAgent
  nextCursor : Option Cursor
  hasMore : Bool

def UseMessages.initial : UseMessages := ⟨[],none,true⟩

-- getMessages(undefined, agentId), or getMessages(nextCursor, agentId). Neither names
-- a limit, so the handler's own applies.
inductive Fetch where
  | latest
  | older (cursor : Cursor)

def Fetch.cursor : Fetch → Option Cursor
  | .latest => none
  | .older cursor => some cursor

-- What a loadMore created with these two values requests when it is called.
def UseMessages.loadMore : Option Cursor → Bool → Option Fetch
  | some cursor,true => some (.older cursor)
  | _,_ => none

def UseMessages.respond (view : UseMessages) (page : Page) : Fetch → UseMessages
  | .latest => ⟨page.messages,page.nextCursor,page.hasMore⟩
  | .older _ => ⟨view.messages ++ page.messages,page.nextCursor,page.hasMore⟩

-- A page with the state of the tables it was read from.
structure Reading where
  db : Database
  page : Page

structure Flight where
  fetch : Fetch
  answer : Option Reading

-- The browser beside the server. `closures` are the values that some loadMore still
-- within reach was created with; `shown` are the pages that make up the list and
-- `loaded` the messages that loadMore has ever appended, neither kept by the hook.
structure StreamPage where
  db : Database
  view : UseMessages
  closures : List (Option Cursor × Bool)
  flights : List Flight
  shown : List Reading
  loaded : List MessageWithAgent

namespace StreamPage

def mounted (db : Database) : StreamPage := ⟨db,.initial,[(none,true)],[],[],[]⟩

def arrive (s : StreamPage) (reading : Reading) (flights : List Flight) : Fetch → StreamPage
  | .latest => {s with view := s.view.respond reading.page .latest, flights, shown := [reading]}
  | .older cursor => {s with
      view := s.view.respond reading.page (.older cursor)
      flights
      shown := s.shown ++ [reading]
      loaded := s.loaded ++ reading.page.messages}

-- A first page arrives before any older one was loaded; an older page continues the
-- list on display and was read after all of it.
def InTurn (s : StreamPage) (reading : Reading) : Fetch → Prop
  | .latest => s.loaded = []
  | .older cursor => s.view.nextCursor = some cursor ∧ ∀ earlier ∈ s.shown, earlier.db.messages ⊆ reading.db.messages

-- fetchLatest is the mount, the poll and the refresh alike.
inductive Step (zone : Timestamptz → Int) (agentID : Option Uuid) (may : StreamPage → Reading → Fetch → Prop) :
    StreamPage → StreamPage → Prop where
  | grow {s : StreamPage} {db : Database} : db.Valid → s.db.messages ⊆ db.messages →
      Step zone agentID may s {s with db}
  | render {s : StreamPage} :
      Step zone agentID may s {s with closures := s.closures ++ [(s.view.nextCursor,s.view.hasMore)]}
  | fetchLatest {s : StreamPage} : Step zone agentID may s {s with flights := s.flights ++ [⟨.latest,none⟩]}
  | loadMore {s : StreamPage} {cursor : Option Cursor} {more : Bool} {fetch : Fetch} : (cursor,more) ∈ s.closures →
      UseMessages.loadMore cursor more = some fetch →
      Step zone agentID may s {s with flights := s.flights ++ [⟨fetch,none⟩]}
  | answer {s : StreamPage} {before after : List Flight} {fetch : Fetch} {page : Page} :
      s.flights = before ++ ⟨fetch,none⟩ :: after →
      ListMessages zone s.db fetch.cursor agentID defaultLimit = .ok page →
      Step zone agentID may s {s with flights := before ++ ⟨fetch,some ⟨s.db,page⟩⟩ :: after}
  | arrive {s : StreamPage} {before after : List Flight} {fetch : Fetch} {reading : Reading} :
      s.flights = before ++ ⟨fetch,some reading⟩ :: after → may s reading fetch →
      Step zone agentID may s (s.arrive reading (before ++ after) fetch)
  | fail {s : StreamPage} {before after : List Flight} {flight : Flight} : s.flights = before ++ flight :: after →
      Step zone agentID may s {s with flights := before ++ after}

inductive Reached (zone : Timestamptz → Int) (agentID : Option Uuid) (may : StreamPage → Reading → Fetch → Prop)
    (initial : Database) : StreamPage → Prop where
  | mounted : Reached zone agentID may initial (mounted initial)
  | step : Reached zone agentID may initial s → Step zone agentID may s next → Reached zone agentID may initial next

-- The list on display is an unbroken run of the stream from its top down.
structure Unbroken (agentID : Option Uuid) (s : StreamPage) : Prop where
  pages : s.view.messages = s.shown.flatMap (·.page.messages)
  descending : s.view.messages.Pairwise fun a b => b.key < a.key
  distinct : (s.view.messages.map (·.id)).Nodup
  gapless : ∀ f ∈ s.shown, ∀ g ∈ s.shown, ∀ a ∈ f.page.messages, ∀ b ∈ g.page.messages,
    ∀ m ∈ f.db.messages, m ∈ g.db.messages → MatchesAgent agentID m → b.key < m.key → m.key < a.key →
      ∃ r ∈ s.view.messages, r.id = m.id
  kept : ∀ m ∈ s.loaded, m ∈ s.view.messages
  nextCursor : s.view.nextCursor = s.view.messages.getLast?.map fun last => ⟨last.createdAt,last.id⟩

end StreamPage

section
variable {zone : Timestamptz → Int} {agentID : Option Uuid} {db db' : Database} {s next : StreamPage}

def keysOf (messages : List MessageWithAgent) : List (Timestamptz ×ₗ Uuid) := messages.map MessageWithAgent.key
def rowKeys (db : Database) (agentID : Option Uuid) : List (Timestamptz ×ₗ Uuid) := (candidates db agentID).map MessageRow.key

theorem rowKeys_grow (grown : db.messages ⊆ db'.messages) (member : k ∈ rowKeys db agentID) : k ∈ rowKeys db' agentID := by
  obtain ⟨m,present,rfl⟩ := List.mem_map.mp member
  obtain ⟨inTable,matching⟩ := List.mem_filter.mp present
  exact List.mem_map_of_mem (List.mem_filter.mpr ⟨grown inTable,matching⟩)

theorem cursor_last (messages : List MessageWithAgent) :
    (messages.getLast?.map fun last => (⟨last.createdAt,last.id⟩ : Cursor)).map Cursor.key = (keysOf messages).getLast? := by
  rw [keysOf,List.getLast?_map,Option.map_map]
  rfl

-- An answer as a page of keys, with the cursor of its last message.
theorem answer_page (valid : db.Valid) (answer : ListMessages zone db cursor agentID defaultLimit = .ok page) :
    Keyset.PageOf (fun k => k) (rowKeys db agentID) (cursor.map Cursor.key) (keysOf page.messages) page.hasMore ∧
      page.nextCursor = page.messages.getLast?.map fun last => ⟨last.createdAt,last.id⟩ := by
  constructor
  · obtain ⟨rows,pageOf,shown,-⟩ := call_page valid (by decide) answer
    rw [keysOf,shown_keys shown]
    exact pageOf.keys
  · rw [ListMessages_spec valid] at answer
    cases answer
    simp only [List.getLast?_map,Option.map_map]
    rfl

-- Below this cursor the table still has rows to hand out.
def Continues (db : Database) (agentID : Option Uuid) (cursor : Cursor) : Prop := ∃ k ∈ rowKeys db agentID, k < cursor.key

theorem Continues.grow (grown : db.messages ⊆ db'.messages) (continues : Continues db agentID cursor) :
    Continues db' agentID cursor := by
  obtain ⟨k,member,below⟩ := continues
  exact ⟨k,rowKeys_grow grown member,below⟩

theorem more_continues (page : Keyset.PageOf (fun k => k) (rowKeys db agentID) cursor (keysOf messages) more)
    (again : more = true) (last : c ∈ messages.getLast?.map fun last => (⟨last.createdAt,last.id⟩ : Cursor)) :
    Continues db agentID c := by
  obtain ⟨k,isLast,other,member,below⟩ := page.remaining again
  refine ⟨other,member,?_⟩
  have same := cursor_last messages
  rw [isLast,Option.mem_def.mp last] at same
  rwa [Option.some.inj same]

-- A request for older messages is only made where there are some.
theorem continues_nonempty (continues : Continues db agentID cursor)
    (page : Keyset.PageOf (fun k => k) (rowKeys db agentID) (some cursor.key) (keysOf messages) more) : messages ≠ [] := by
  rintro rfl
  obtain ⟨k,member,below⟩ := continues
  rcases page.complete k member (by simpa [Keyset.Older] using below) with inPage | ⟨again,-⟩
  · cases inPage
  · obtain ⟨_,last,-⟩ := page.remaining again
    cases last

structure Reading.Sound (zone : Timestamptz → Int) (agentID : Option Uuid) (db : Database) (fetch : Fetch) (reading : Reading) :
    Prop where
  valid : reading.db.Valid
  earlier : reading.db.messages ⊆ db.messages
  page : ListMessages zone reading.db fetch.cursor agentID defaultLimit = .ok reading.page
  continues : ∀ c ∈ fetch.cursor, Continues reading.db agentID c

def Flight.Sound (zone : Timestamptz → Int) (agentID : Option Uuid) (db : Database) (flight : Flight) : Prop :=
  (∀ c ∈ flight.fetch.cursor, Continues db agentID c) ∧ ∀ reading ∈ flight.answer, reading.Sound zone agentID db flight.fetch

theorem Flight.Sound.grow (grown : db.messages ⊆ db'.messages) (sound : Flight.Sound zone agentID db flight) :
    Flight.Sound zone agentID db' flight :=
  ⟨fun c isCursor => (sound.1 c isCursor).grow grown,fun reading answered =>
    {sound.2 reading answered with earlier := fun _ member => grown ((sound.2 reading answered).earlier member)}⟩

-- What the list on display owes to the tables its pages were read from.
structure Displayed (agentID : Option Uuid) (db : Database) (view : UseMessages) (shown : List Reading) : Prop where
  pages : view.messages = shown.flatMap (·.page.messages)
  descending : Keyset.Descending (fun k => k) (keysOf view.messages)
  stored : ∀ k ∈ keysOf view.messages, k ∈ rowKeys db agentID
  covered : ∀ f ∈ shown, ∀ a ∈ f.page.messages, ∀ k ∈ rowKeys f.db agentID, k < a.key →
    k ∈ keysOf view.messages ∨ ∀ last, (keysOf view.messages).getLast? = some last → k < last
  nextCursor : view.nextCursor = view.messages.getLast?.map fun last => ⟨last.createdAt,last.id⟩
  more : view.hasMore = true → ∀ c ∈ view.nextCursor, Continues db agentID c

theorem Displayed.grow (displayed : Displayed agentID db view shown) (grown : db.messages ⊆ db'.messages) :
    Displayed agentID db' view shown :=
  {displayed with
    stored := fun k member => rowKeys_grow grown (displayed.stored k member)
    more := fun again c isCursor => (displayed.more again c isCursor).grow grown}

-- A row of one page's table that the page passes by is in it or below its end.
theorem page_covers {page : List MessageWithAgent} {rest : List (Timestamptz ×ₗ Uuid)}
    (pageOf : Keyset.PageOf (fun k => k) (rowKeys db agentID) (rest.getLast?.map fun k => k) (keysOf page) more) (inPage : a ∈ page)
    (member : k ∈ rowKeys db agentID) (below : k < a.key) :
    k ∈ rest ++ keysOf page ∨ ∀ last, (rest ++ keysOf page).getLast? = some last → k < last := by
  refine (Keyset.reach_continued pageOf member (.inr fun last isLast => ?_)).imp_right And.right
  have above := (pageOf.sound a.key (List.mem_map_of_mem inPage)).2 last (by rw [isLast]; rfl)
  exact below.trans above

theorem latest_displayed (sound : Reading.Sound zone agentID db .latest reading) (view : UseMessages) :
    Displayed agentID db (view.respond reading.page .latest) [reading] := by
  obtain ⟨pageOf,last⟩ := answer_page sound.valid sound.page
  refine ⟨(List.flatMap_singleton _ _).symm,pageOf.descending,?_,?_,last,?_⟩
  · intro k member
    exact rowKeys_grow sound.earlier (pageOf.sound k member).1
  · intro f isReading a inPage k member below
    cases List.mem_singleton.mp isReading
    have fresh : Keyset.PageOf (fun k => k) (rowKeys reading.db agentID)
        (([] : List (Timestamptz ×ₗ Uuid)).getLast?.map fun k => k) (keysOf reading.page.messages) reading.page.hasMore := pageOf
    exact page_covers fresh inPage member below
  · intro again c isCursor
    rw [UseMessages.respond,last] at isCursor
    exact (more_continues pageOf again isCursor).grow sound.earlier

theorem older_displayed {view : UseMessages} (displayed : Displayed agentID db view shown)
    (sound : Reading.Sound zone agentID db (.older cursor) reading) (current : view.nextCursor = some cursor)
    (later : ∀ earlier ∈ shown, earlier.db.messages ⊆ reading.db.messages) :
    Displayed agentID db (view.respond reading.page (.older cursor)) (shown ++ [reading]) := by
  obtain ⟨pageOf,last⟩ := answer_page sound.valid sound.page
  have nonempty := continues_nonempty (sound.continues cursor rfl) pageOf
  have resumed : (keysOf view.messages).getLast?.map (fun k => k) = some cursor.key := by
    rw [Option.map_id',← cursor_last,← displayed.nextCursor,current,Option.map_some]
  have lasts : (view.messages ++ reading.page.messages).getLast? = reading.page.messages.getLast? := by
    rw [List.getLast?_append,List.getLast?_eq_some_getLast nonempty,Option.some_or]
  have follows : Keyset.PageOf (fun k => k) (rowKeys reading.db agentID) ((keysOf view.messages).getLast?.map fun k => k)
      (keysOf reading.page.messages) reading.page.hasMore := by
    rw [resumed]
    exact pageOf
  have whole : keysOf (view.messages ++ reading.page.messages) = keysOf view.messages ++ keysOf reading.page.messages :=
    List.map_append
  refine ⟨?_,?_,?_,?_,last.trans (by rw [← lasts]; rfl),?_⟩
  · rw [List.flatMap_append,List.flatMap_singleton,← displayed.pages]
    rfl
  · rw [UseMessages.respond,whole]
    exact displayed.descending.continued follows
  · intro k member
    rw [UseMessages.respond,whole] at member
    rcases List.mem_append.mp member with old | new
    · exact displayed.stored k old
    · exact rowKeys_grow sound.earlier (pageOf.sound k new).1
  · intro f isShown a inPage k member below
    rw [UseMessages.respond,whole]
    rcases List.mem_append.mp isShown with old | new
    · have reach := displayed.covered f old a inPage k member below
      exact (Keyset.reach_continued follows (rowKeys_grow (later f old) member) reach).imp_right And.right
    · cases List.mem_singleton.mp new
      exact page_covers follows inPage member below
  · intro again c isCursor
    rw [UseMessages.respond,last] at isCursor
    exact (more_continues pageOf again isCursor).grow sound.earlier

-- Two messages of one id would be one row, whose key the list has once.
theorem displayed_distinct (valid : db.Valid) (displayed : Displayed agentID db view shown) :
    (view.messages.map (·.id)).Nodup := by
  refine List.pairwise_map.mpr ((List.pairwise_map.mp displayed.descending).imp_of_mem ?_)
  intro a b inList inList' below same
  obtain ⟨m,present,isA⟩ := List.mem_map.mp (displayed.stored _ (List.mem_map_of_mem inList))
  obtain ⟨n,present',isB⟩ := List.mem_map.mp (displayed.stored _ (List.mem_map_of_mem inList'))
  have ids : m.id = n.id := (congrArg (fun k => (ofLex k).2) isA).trans (same.trans (congrArg (fun k => (ofLex k).2) isB).symm)
  cases List.inj_on_of_nodup_map valid.messageIds (List.mem_of_mem_filter present) (List.mem_of_mem_filter present') ids
  exact absurd (isA.symm.trans isB) (ne_of_gt below)

theorem displayed_gapless (displayed : Displayed agentID db view shown) (shownF : f ∈ shown) (shownG : g ∈ shown)
    (inF : a ∈ f.page.messages) (inG : b ∈ g.page.messages) (present : m ∈ f.db.messages) (matching : MatchesAgent agentID m)
    (above : b.key < m.key) (below : m.key < a.key) : ∃ r ∈ view.messages, r.id = m.id := by
  have isRow : m.key ∈ rowKeys f.db agentID :=
    List.mem_map_of_mem (List.mem_filter.mpr ⟨present,decide_eq_true matching⟩)
  rcases displayed.covered f shownF a inF m.key isRow below with isShown | beyond
  · obtain ⟨r,member,same⟩ := List.mem_map.mp isShown
    exact ⟨r,member,congrArg (fun k => (ofLex k).2) same⟩
  · have inList : b.key ∈ keysOf view.messages := by
      rw [displayed.pages]
      exact List.mem_map_of_mem (List.mem_flatMap.mpr ⟨g,shownG,inG⟩)
    have least := beyond _ (List.getLast?_eq_some_getLast (List.ne_nil_of_mem inList))
    rcases displayed.descending.last_least (List.getLast?_eq_some_getLast (List.ne_nil_of_mem inList)) inList with last | over'
    · rw [← last] at least
      exact absurd above least.asymm
    · exact absurd (above.trans least) over'.asymm

namespace StreamPage

structure Held (zone : Timestamptz → Int) (agentID : Option Uuid) (s : StreamPage) : Prop where
  valid : s.db.Valid
  displayed : Displayed agentID s.db s.view s.shown
  closures : ∀ p ∈ s.closures, p.2 = true → ∀ c ∈ p.1, Continues s.db agentID c
  flights : ∀ flight ∈ s.flights, flight.Sound zone agentID s.db
  kept : ∀ m ∈ s.loaded, m ∈ s.view.messages

theorem mounted_held (valid : db.Valid) : (mounted db).Held zone agentID := by
  refine ⟨valid,⟨rfl,.nil,by simp [mounted,UseMessages.initial,keysOf],by simp [mounted],rfl,?_⟩,?_,by simp [mounted],by simp [mounted]⟩
  · exact fun _ _ => nofun
  · intro p member _ c isCursor
    cases List.mem_singleton.mp member
    cases isCursor

theorem loadMore_continues (held : ∀ p ∈ s.closures, p.2 = true → ∀ c ∈ p.1, Continues s.db agentID c)
    (created : (cursor,more) ∈ s.closures)
    (requests : UseMessages.loadMore cursor more = some wanted) : ∀ c ∈ wanted.cursor, Continues s.db agentID c := by
  unfold UseMessages.loadMore at requests
  split at requests
  · cases requests
    exact held _ created rfl
  · cases requests

theorem step_held (held : s.Held zone agentID) (step : Step zone agentID InTurn s next) : next.Held zone agentID := by
  cases step with
  | grow valid grown =>
    exact ⟨valid,held.displayed.grow grown,fun p member again c isCursor => (held.closures p member again c isCursor).grow grown,
      fun flight member => (held.flights flight member).grow grown,held.kept⟩
  | render =>
    refine {held with closures := fun p member => ?_}
    rcases List.mem_append.mp member with old | new
    · exact held.closures p old
    · cases List.mem_singleton.mp new
      exact held.displayed.more
  | fetchLatest =>
    have asked : Flight.Sound zone agentID s.db ⟨.latest,none⟩ := ⟨fun _ => nofun,fun _ => nofun⟩
    exact {held with flights := List.forall_mem_append.mpr ⟨held.flights,List.forall_mem_singleton.mpr asked⟩}
  | @loadMore cursor more wanted created requests =>
    have asked : Flight.Sound zone agentID s.db ⟨wanted,none⟩ := ⟨loadMore_continues held.closures created requests,fun _ => nofun⟩
    exact {held with flights := List.forall_mem_append.mpr ⟨held.flights,List.forall_mem_singleton.mpr asked⟩}
  | @answer before after fetch page asked answer =>
    have asking := held.flights ⟨fetch,none⟩ (by simp [asked])
    refine {held with flights := fun flight member => ?_}
    rcases List.mem_append.mp member with old | rest
    · exact held.flights flight (by simp [asked,old])
    · rcases List.mem_cons.mp rest with rfl | old
      · refine ⟨asking.1,fun reading answered => ?_⟩
        cases answered
        exact ⟨held.valid,fun _ member => member,answer,asking.1⟩
      · exact held.flights flight (by simp [asked,old])
  | @arrive before after fetch reading answered inTurn =>
    have sound := (held.flights ⟨fetch,some reading⟩ (by simp [answered])).2 reading rfl
    have others : ∀ flight ∈ before ++ after, flight.Sound zone agentID s.db := by
      intro flight member
      refine held.flights flight ?_
      rw [answered]
      exact List.mem_append.mpr ((List.mem_append.mp member).imp_right (List.mem_cons_of_mem _))
    cases fetch with
    | latest =>
      refine ⟨held.valid,latest_displayed sound s.view,held.closures,others,fun m member => ?_⟩
      rw [show (s.arrive reading (before ++ after) .latest).loaded = [] from inTurn] at member
      cases member
    | older cursor =>
      refine ⟨held.valid,older_displayed held.displayed sound inTurn.1 inTurn.2,held.closures,others,fun m member => ?_⟩
      rcases List.mem_append.mp member with old | new
      · exact List.mem_append_left _ (held.kept m old)
      · exact List.mem_append_right _ new
  | @fail before after flight gone =>
    refine {held with flights := fun other member => held.flights other ?_}
    rw [gone]
    exact List.mem_append.mpr ((List.mem_append.mp member).imp_right (List.mem_cons_of_mem _))

theorem reached_held (valid : db.Valid) (run : Reached zone agentID InTurn db s) : s.Held zone agentID := by
  induction run with
  | mounted => exact mounted_held valid
  | step _ step ih => exact step_held ih step

theorem held_unbroken (held : s.Held zone agentID) : s.Unbroken agentID :=
  ⟨held.displayed.pages,List.pairwise_map.mp held.displayed.descending,displayed_distinct held.valid held.displayed,
    fun _ shownF _ shownG _ inF _ inG _ present _ => displayed_gapless held.displayed shownF shownG inF inG present,
    held.kept,held.displayed.nextCursor⟩

end StreamPage

-- The only request under way, answered at once.
theorem served {may : StreamPage → Reading → Fetch → Prop} (run : StreamPage.Reached zone agentID may initial s)
    (single : s.flights = [⟨wanted,none⟩]) (answer : ListMessages zone s.db wanted.cursor agentID defaultLimit = .ok page)
    (allowed : may {s with flights := [⟨wanted,some ⟨s.db,page⟩⟩]} ⟨s.db,page⟩ wanted) :
    StreamPage.Reached zone agentID may initial (s.arrive ⟨s.db,page⟩ [] wanted) := by
  have answered := run.step (.answer (single.trans (List.nil_append _).symm) answer)
  have arrived := answered.step (.arrive rfl allowed)
  cases wanted <;> exact arrived

-- One message more than a page holds.
def Database.paged : Database where
  agents := [⟨1,"ada","Ada",some "",none,"tk_agent_ada",some 10,some true⟩]
  messages := (List.range 21).map fun i => ⟨.ofNat _ i,1,"note",none,i⟩

theorem paged_valid : Database.paged.Valid := by
  constructor
  case parents => simp [Database.paged]
  case signalAgents => simp [Database.paged]
  all_goals decide

def MessageWithAgent.note (i : Nat) : MessageWithAgent := ⟨⟨.ofNat _ i,1,"note",none,⟨i*1000,0⟩⟩,"ada","Ada",0,0,0⟩

def Page.newest : Page := ⟨(List.range 20).map fun i => .note (20-i),some ⟨⟨1000,0⟩,1⟩,true⟩
def Page.oldest : Page := ⟨[.note 0],some ⟨⟨0,0⟩,0⟩,false⟩

theorem newest_read : ListMessages (fun _ => 0) .paged none none defaultLimit = .ok .newest := by decide +kernel
theorem oldest_read : ListMessages (fun _ => 0) .paged (some ⟨⟨1000,0⟩,1⟩) none defaultLimit = .ok .oldest := by decide +kernel

-- Mounted and scrolled to the end.
def StreamPage.scrolled : StreamPage where
  db := .paged
  view := ⟨Page.newest.messages ++ Page.oldest.messages,Page.oldest.nextCursor,false⟩
  closures := [(none,true),(Page.newest.nextCursor,true)]
  flights := []
  shown := [⟨.paged,.newest⟩,⟨.paged,.oldest⟩]
  loaded := Page.oldest.messages

theorem scrolled_reached {may : StreamPage → Reading → Fetch → Prop} (first : ∀ s reading, s.loaded = [] → may s reading .latest)
    (next : ∀ s reading cursor, s.view.nextCursor = some cursor → (∀ earlier ∈ s.shown, earlier.db.messages ⊆ reading.db.messages) →
      may s reading (.older cursor)) : StreamPage.Reached (fun _ => 0) none may .paged .scrolled := by
  have newest := served (StreamPage.Reached.mounted.step .fetchLatest) rfl newest_read (first _ _ rfl)
  have created := newest.step .render
  have older := created.step (.loadMore (List.mem_cons_of_mem _ List.mem_cons_self) rfl)
  exact served older rfl oldest_read (next _ _ _ rfl (List.forall_mem_singleton.mpr fun _ member => member))

-- As long as no first page arrives over older ones, and each older page where the
-- list ends, the list stays unbroken.
theorem stream_unbroken (zone : Timestamptz → Int) (agentID : Option Uuid) (valid : initial.Valid) :
    ∀ s, StreamPage.Reached zone agentID StreamPage.InTurn initial s → s.Unbroken agentID :=
  fun _ run => StreamPage.held_unbroken (StreamPage.reached_held valid run)

theorem stream_unbroken_sample : StreamPage.scrolled.Unbroken none :=
  stream_unbroken (fun _ => 0) none paged_valid _
    (scrolled_reached (fun _ _ none' => none') fun _ _ _ current later => ⟨current,later⟩)

-- The poll after it: the message that scrolling had loaded is gone.
theorem poll_removes_loaded : ¬ ∀ initial s, initial.Valid →
    StreamPage.Reached (fun _ => 0) none (fun _ _ _ => True) initial s → s.Unbroken none := by
  intro unbroken
  have scrolled : StreamPage.Reached (fun _ => 0) none (fun _ _ _ => True) .paged .scrolled :=
    scrolled_reached (fun _ _ _ => trivial) fun _ _ _ _ _ => trivial
  have polled := served (scrolled.step .fetchLatest) rfl newest_read trivial
  have kept := (unbroken _ _ paged_valid polled).kept (.note 0) (List.mem_singleton_self _)
  exact absurd kept (by decide)

end
end Trokk
