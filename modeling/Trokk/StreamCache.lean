import Mathlib.Logic.Function.Basic
import Trokk.CursorCodec
import Trokk.StreamWalk
import Trokk.Toggles

-- internal/stream/cache.go over internal/store/redis/stream.go: the stream read
-- through Redis. A cached page is the rows that its JSON decodes to.
namespace Trokk

def defaultLimit : Nat := 20
def streamKeyPrefix : String := "stream:page"

def pageKey (cursor : String) (limit : Nat) : String :=
  if cursor = "" then streamKeyPrefix ++ ":latest:" ++ toString limit
  else streamKeyPrefix ++ ":" ++ cursor ++ ":" ++ toString limit

theorem toString_injective {m n : Nat} (same : toString m = toString n) : m = n := by
  have digits : Nat.toDigits 10 m = Nat.toDigits 10 n := by
    have texts := congrArg String.toList same
    simpa [toString,Nat.repr] using texts
  have read (k : Nat) : Nat.ofDigitChars 10 (Nat.toDigits 10 k) 0 = k :=
    Nat.ofDigitChars_toDigits (by decide) (by decide)
  rw [← read m,digits,read n]

-- The part of a key between the prefix and the limit.
def keyBody (cursor : String) : String := if cursor = "" then "latest" else cursor

theorem keyBody_no_colon (accepted : DecodeCursor cursor = .ok c) : ':' ∉ (keyBody cursor).toList := by
  unfold keyBody
  split
  · decide
  · rename_i nonempty
    obtain ⟨_,base,_⟩ := decoded_base64 accepted nonempty
    exact Base64.decode_no_colon base

theorem keyBody_injective (accepted : DecodeCursor a = .ok c) (other : DecodeCursor b = .ok d)
    (same : keyBody a = keyBody b) : a = b := by
  unfold keyBody at same
  split at same <;> split at same
  case isTrue.isTrue first second => exact first.trans second.symm
  case isTrue.isFalse =>
    rw [← same,latest_rejected] at other
    cases other
  case isFalse.isTrue =>
    rw [same,latest_rejected] at accepted
    cases accepted
  case isFalse.isFalse => exact same

theorem split_at_colon {x y u v : List Char} (left : ':' ∉ x) (right : ':' ∉ u)
    (same : x ++ ':' :: y = u ++ ':' :: v) : x = u ∧ y = v := by
  induction x generalizing u with
  | nil =>
    cases u with
    | nil => exact ⟨rfl,by simpa using same⟩
    | cons c rest =>
      rw [List.nil_append,List.cons_append,List.cons.injEq] at same
      exact absurd (same.1 ▸ List.mem_cons_self) right
  | cons c rest ih =>
    cases u with
    | nil =>
      rw [List.nil_append,List.cons_append,List.cons.injEq] at same
      exact absurd (same.1 ▸ List.mem_cons_self) left
    | cons d others =>
      rw [List.cons_append,List.cons_append,List.cons.injEq] at same
      obtain ⟨first,second⟩ := ih (fun member => left (List.mem_cons_of_mem _ member))
        (fun member => right (List.mem_cons_of_mem _ member)) same.2
      exact ⟨by rw [same.1,first],second⟩

theorem limit_no_colon (limit : Nat) : ':' ∉ (toString limit).toList := by
  intro member
  have digit := Nat.isDigit_of_mem_toDigits (b := 10) (by decide) (by decide)
    (show ':' ∈ Nat.toDigits 10 limit by simpa [toString,Nat.repr] using member)
  revert digit
  decide

theorem pageKey_body (cursor : String) (limit : Nat) : (pageKey cursor limit).toList =
    "stream:page:".toList ++ ((keyBody cursor).toList ++ ':' :: (toString limit).toList) := by
  unfold pageKey keyBody streamKeyPrefix
  split <;> simp

-- Cursors that decode never share a key, and a cursor spelled like the reserved
-- word of the newest page does not decode.
theorem pageKey_injective (accepted : DecodeCursor a = .ok c) (other : DecodeCursor b = .ok d)
    (same : pageKey a m = pageKey b n) : a = b ∧ m = n := by
  have texts := congrArg String.toList same
  rw [pageKey_body,pageKey_body] at texts
  obtain ⟨body,limit⟩ := split_at_colon (keyBody_no_colon accepted) (keyBody_no_colon other)
    (List.append_cancel_left texts)
  exact ⟨keyBody_injective accepted other (String.toList_inj.mp body),
    toString_injective (String.toList_inj.mp limit)⟩

structure PageRequest where
  cursor : String
  limit : Int
  agentID : String
  deriving DecidableEq, Repr

namespace PageRequest

def pageLimit (r : PageRequest) : Nat := if r.limit ≤ 0 ∨ r.limit > 100 then defaultLimit else r.limit.toNat

-- A cursor that does not decode is dropped, its text with it.
def decoded (r : PageRequest) : Option Cursor :=
  match DecodeCursor r.cursor with
  | .ok cursor => cursor
  | .error _ => none

def cursorStr (r : PageRequest) : String :=
  match DecodeCursor r.cursor with
  | .ok _ => r.cursor
  | .error _ => ""

-- An agent id that does not parse filters nothing.
def filter (r : PageRequest) : Option Uuid :=
  if r.agentID = "" then none else Uuid.Parse r.agentID.toList

def key (r : PageRequest) : String := pageKey r.cursorStr r.pageLimit

theorem cursorStr_decodes (r : PageRequest) : DecodeCursor r.cursorStr = .ok r.decoded := by
  unfold cursorStr decoded
  split
  · assumption
  · rfl

theorem pageLimit_bounds (r : PageRequest) : 1 ≤ r.pageLimit ∧ r.pageLimit ≤ 100 := by
  unfold pageLimit
  split
  · decide
  · omega

theorem key_injective {r other : PageRequest} (same : r.key = other.key) :
    r.decoded = other.decoded ∧ r.pageLimit = other.pageLimit := by
  obtain ⟨text,limit⟩ := pageKey_injective r.cursorStr_decodes other.cursorStr_decodes same
  have decodes := r.cursorStr_decodes
  rw [text,other.cursorStr_decodes] at decodes
  exact ⟨by simpa using decodes.symm,limit⟩

end PageRequest

-- The cursor text and the limit that some GetPage call hands to the Redis layer.
def Passed (cursor : String) (limit : Nat) : Prop := ∃ r : PageRequest, r.cursorStr = cursor ∧ r.pageLimit = limit

theorem passed_iff : Passed cursor limit ↔
    (cursor = "" ∨ ∃ c, DecodeCursor cursor = .ok c) ∧ 1 ≤ limit ∧ limit ≤ 100 := by
  constructor
  · rintro ⟨r,rfl,rfl⟩
    exact ⟨.inr ⟨_,r.cursorStr_decodes⟩,r.pageLimit_bounds⟩
  · intro ⟨accepted,low,high⟩
    have decodes : ∃ c, DecodeCursor cursor = .ok c := by
      rcases accepted with rfl | decodes
      · exact ⟨none,rfl⟩
      · exact decodes
    obtain ⟨c,decodes⟩ := decodes
    refine ⟨⟨cursor,limit,""⟩,by simp [PageRequest.cursorStr,decodes],?_⟩
    simp [PageRequest.pageLimit]
    omega

theorem Passed.decodes (passed : Passed cursor limit) : ∃ c, DecodeCursor cursor = .ok c := by
  obtain ⟨r,rfl,_⟩ := passed
  exact ⟨_,r.cursorStr_decodes⟩

-- A list without the separator ends where the first separator stands, and a list
-- without it begins after the last.
theorem split_unique {x y front back : List Char} (left : ':' ∉ x) (right : ':' ∉ y)
    (same : front ++ ':' :: back = x ++ ':' :: y) : front = x ∧ back = y := by
  have count := congrArg (List.count ':') same
  simp only [List.count_append,List.count_cons_self,List.count_eq_zero.mpr left,List.count_eq_zero.mpr right] at count
  have none : ':' ∉ front := List.count_eq_zero.mp (by omega)
  exact split_at_colon none left same

-- Two calls that share an entry pass the same pair, only the empty cursor is kept
-- under the reserved word, and a key has one reading as a cursor and a limit.
theorem cache_keys_distinct (first : Passed a m) (second : Passed b n) :
    (pageKey a m = pageKey b n → a = b ∧ m = n) ∧
    (a ≠ "" → ∀ limit, pageKey a m ≠ pageKey "" limit) ∧
    ∀ front back, (pageKey a m).toList = (streamKeyPrefix ++ ":").toList ++ (front ++ ':' :: back) →
      front = (keyBody a).toList ∧ back = (toString m).toList := by
  obtain ⟨c,decodes⟩ := first.decodes
  obtain ⟨d,also⟩ := second.decodes
  refine ⟨pageKey_injective decodes also,?_,?_⟩
  · intro nonempty limit same
    exact nonempty (pageKey_injective (b := "") (d := none) decodes rfl same).1
  · intro front back reading
    rw [pageKey_body] at reading
    exact split_unique (keyBody_no_colon decodes) (limit_no_colon m) (List.append_cancel_left reading).symm

-- The cursor of null after the newest page.
theorem cache_keys_distinct_sample : pageKey "bnVsbA" 20 ≠ pageKey "" 20 := by
  have later : Passed "bnVsbA" 20 := passed_iff.mpr ⟨.inr ⟨_,rfl⟩,by decide⟩
  have newest : Passed "" 20 := passed_iff.mpr ⟨.inl rfl,by decide⟩
  exact (cache_keys_distinct later newest).2.1 (by decide) 20

structure PageReply where
  messages : List MessageWithAgent
  nextCursor : String
  hasMore : Bool
  deriving DecidableEq, Repr

def hitReply (cached : List MessageWithAgent) : PageReply :=
  ⟨cached,(cached.getLast?).elim "" fun last => EncodeCursor (some ⟨last.createdAt,last.id⟩),false⟩

def Page.reply (page : Page) : PageReply := ⟨page.messages,EncodeCursor page.nextCursor,page.hasMore⟩

-- json.Marshal of a page fails when one of its times has no JSON text.
def Marshals (messages : List MessageWithAgent) : Prop := ∀ m ∈ messages, m.createdAt.text.isSome

-- A Redis entry. Which request put it there and the state its query read are
-- kept for the statements below; no step looks at them.
structure CachedPage where
  messages : List MessageWithAgent
  request : PageRequest
  read : Database

-- A GetPage call between its exchanges: past GET, or past the query with SET to come.
inductive PageCall where
  | missed (request : PageRequest)
  | fetched (request : PageRequest) (read : Database) (page : Page)

structure StreamState where
  db : Database
  redis : String → Option CachedPage
  calls : Nat → Option PageCall

def StreamState.start (db : Database) : StreamState := ⟨db,fun _ => none,fun _ => none⟩

-- What a finished call handed back, the state its rows were read from and the
-- entry it was served from, if it was.
structure PageAnswer where
  request : PageRequest
  reply : PageReply
  read : Database
  source : Option CachedPage

-- GET may fail at any time, and so may SET; a failed GET goes on like a miss.
inductive StreamStep (zone : Timestamptz → Int) (allowed : PageRequest → Prop) :
    StreamState → Option PageAnswer → StreamState → Prop where
  | insert : Insertable s.db m → StreamStep zone allowed s none {s with db := insertMessage s.db m}
  | toggle : Referenced s.db pair.2 → StreamStep zone allowed s none {s with db := s.db.toggled pair}
  | expire (key : String) : StreamStep zone allowed s none {s with redis := Function.update s.redis key none}
  | hit : allowed r → s.redis r.key = some entry →
      StreamStep zone allowed s (some ⟨r,hitReply entry.messages,entry.read,some entry⟩) s
  | miss : allowed r → s.calls call = none →
      StreamStep zone allowed s none {s with calls := Function.update s.calls call (some (.missed r))}
  | query : s.calls call = some (.missed r) →
      ListMessages zone s.db r.decoded r.filter r.pageLimit = .ok page →
      StreamStep zone allowed s none {s with calls := Function.update s.calls call (some (.fetched r s.db page))}
  | queryFailed : s.calls call = some (.missed r) →
      StreamStep zone allowed s none {s with calls := Function.update s.calls call none}
  | set : s.calls call = some (.fetched r db page) → Marshals page.messages →
      StreamStep zone allowed s (some ⟨r,page.reply,db,none⟩)
        {s with redis := Function.update s.redis r.key (some ⟨page.messages,r,db⟩)
                calls := Function.update s.calls call none}
  | setFailed : s.calls call = some (.fetched r db page) →
      StreamStep zone allowed s (some ⟨r,page.reply,db,none⟩) {s with calls := Function.update s.calls call none}

inductive StreamRun (zone : Timestamptz → Int) (allowed : PageRequest → Prop) (initial : Database) :
    StreamState → Prop where
  | start : StreamRun zone allowed initial (.start initial)
  | step : StreamRun zone allowed initial s → StreamStep zone allowed s answer next →
      StreamRun zone allowed initial next

section
variable {zone : Timestamptz → Int} {allowed : PageRequest → Prop} {initial : Database}

-- A page still stands for the request and the state it was read for, and the
-- messages of that state are still there.
structure ReadFor (zone : Timestamptz → Int) (db : Database) (r : PageRequest) (read : Database) (page : Page) : Prop where
  valid : read.Valid
  answer : ListMessages zone read r.decoded r.filter r.pageLimit = .ok page
  kept : read.messages ⊆ db.messages

structure StreamOk (zone : Timestamptz → Int) (allowed : PageRequest → Prop) (s : StreamState) : Prop where
  valid : s.db.Valid
  cached : ∀ key entry, s.redis key = some entry → entry.request.key = key ∧ allowed entry.request ∧
    ∃ page, ReadFor zone s.db entry.request entry.read page ∧ page.messages = entry.messages
  missed : ∀ call r, s.calls call = some (.missed r) → allowed r
  fetched : ∀ call r read page, s.calls call = some (.fetched r read page) →
    allowed r ∧ ReadFor zone s.db r read page

theorem ReadFor.grows {read : Database} (readFor : ReadFor zone db r read page) (more : db.messages ⊆ later.messages) :
    ReadFor zone later r read page :=
  ⟨readFor.valid,readFor.answer,List.Subset.trans readFor.kept more⟩

theorem StreamOk.grows (ok : StreamOk zone allowed s) (valid : Database.Valid db)
    (more : s.db.messages ⊆ db.messages) : StreamOk zone allowed {s with db := db} := by
  refine ⟨valid,?_,ok.missed,?_⟩
  · intro key entry present
    obtain ⟨same,may,page,readFor,messages⟩ := ok.cached key entry present
    exact ⟨same,may,page,readFor.grows more,messages⟩
  · intro call r read page waiting
    obtain ⟨may,readFor⟩ := ok.fetched call r read page waiting
    exact ⟨may,readFor.grows more⟩

theorem StreamOk.withCall (ok : StreamOk zone allowed s) (call : Nat) (phase : Option PageCall)
    (missed : ∀ r, phase = some (.missed r) → allowed r)
    (fetched : ∀ r read page, phase = some (.fetched r read page) → allowed r ∧ ReadFor zone s.db r read page) :
    StreamOk zone allowed {s with calls := Function.update s.calls call phase} := by
  refine ⟨ok.valid,ok.cached,?_,?_⟩
  · intro other r waiting
    by_cases same : other = call
    · subst same
      exact missed r (by simpa using waiting)
    · exact ok.missed other r (by simpa [Function.update_of_ne same] using waiting)
  · intro other r read page waiting
    by_cases same : other = call
    · subst same
      exact fetched r read page (by simpa using waiting)
    · exact ok.fetched other r read page (by simpa [Function.update_of_ne same] using waiting)

theorem StreamOk.withEntry (ok : StreamOk zone allowed s) (key : String) (slot : Option CachedPage)
    (sound : ∀ entry, slot = some entry → entry.request.key = key ∧ allowed entry.request ∧
      ∃ page, ReadFor zone s.db entry.request entry.read page ∧ page.messages = entry.messages) :
    StreamOk zone allowed {s with redis := Function.update s.redis key slot} := by
  refine ⟨ok.valid,?_,ok.missed,ok.fetched⟩
  intro other entry present
  by_cases same : other = key
  · subst same
    exact sound entry (by simpa using present)
  · exact ok.cached other entry (by simpa [Function.update_of_ne same] using present)

theorem start_ok (valid : initial.Valid) : StreamOk zone allowed (.start initial) := by
  constructor <;> simp [StreamState.start,valid]

theorem step_ok (ok : StreamOk zone allowed s) (step : StreamStep zone allowed s answer next) :
    StreamOk zone allowed next := by
  cases step with
  | insert new => exact ok.grows (insertMessage_valid ok.valid new) (List.subset_append_left _ _)
  | @toggle s pair refs =>
    apply ok.grows (toggled_valid ok.valid refs)
    rw [toggled_messages]
    exact fun _ member => member
  | expire key => exact ok.withEntry key none (by simp)
  | hit => exact ok
  | miss may => exact ok.withCall _ _ (by simp_all) (by simp)
  | query waiting answer =>
    refine ok.withCall _ _ (by simp) ?_
    intro r read page isFetched
    cases isFetched
    exact ⟨ok.missed _ _ waiting,ok.valid,answer,fun _ member => member⟩
  | queryFailed => exact ok.withCall _ none (by simp) (by simp)
  | set waiting =>
    obtain ⟨may,readFor⟩ := ok.fetched _ _ _ _ waiting
    refine (ok.withCall _ none (by simp) (by simp)).withEntry _ _ ?_
    intro entry isNew
    cases isNew
    exact ⟨rfl,may,_,readFor,rfl⟩
  | setFailed => exact ok.withCall _ none (by simp) (by simp)

theorem run_ok (valid : initial.Valid) (run : StreamRun zone allowed initial s) : StreamOk zone allowed s := by
  induction run with
  | start => exact start_ok valid
  | step _ step ih => exact step_ok ih step

-- What one page owes the filter, and when a page says that more follow.
theorem page_agents {db : Database} (valid : db.Valid) (answer : ListMessages zone db cursor agentID limit = .ok page) :
    ∀ m ∈ page.messages, ∀ id ∈ agentID, m.agentId = id := by
  rw [ListMessages_spec valid] at answer
  cases answer
  intro view member id isAgent
  obtain ⟨m,inPage,rfl⟩ := List.mem_map.mp member
  have selected := Keyset.mem_newestFirst.mp (List.mem_of_mem_take (List.mem_of_mem_take inPage))
  have matching : MatchesAgent agentID m := by simpa using List.of_mem_filter (List.mem_of_mem_filter selected)
  exact matching id isAgent

-- The messages a cursor still has before it, with no filter.
def olderThan (db : Database) (cursor : Option Cursor) : List MessageRow :=
  db.messages.filter (Keyset.Older MessageRow.key (cursor.map Cursor.key) ·)

theorem page_hasMore {db : Database} (valid : db.Valid) (answer : ListMessages zone db cursor none limit = .ok page) :
    page.hasMore = decide (limit < (olderThan db cursor).length) := by
  rw [ListMessages_spec valid] at answer
  cases answer
  have all : db.messages.filter (MatchesAgent none ·) = db.messages :=
    List.filter_eq_self.mpr fun m _ => by simp [MatchesAgent]
  simp only [fetched,all,List.length_take,(Keyset.newestFirst_perm _ _).length_eq,olderThan]
  exact decide_eq_decide.mpr (by omega)

theorem olderThan_grows {db later : Database} (valid : db.Valid) (more : db.messages ⊆ later.messages) :
    (olderThan db cursor).length ≤ (olderThan later cursor).length := by
  have distinct : (olderThan db cursor).Nodup := (List.Nodup.of_map _ valid.messageIds).filter _
  refine (distinct.subperm ?_).length_le
  intro m member
  simp only [olderThan,List.mem_filter] at member ⊢
  exact ⟨more member.1,member.2⟩

-- A hit repeats the rows and the cursor of the call that filled the entry; its
-- flag is always false.
theorem hit_repeats {db : Database} (valid : db.Valid) (answer : ListMessages zone db cursor agentID limit = .ok page) :
    hitReply page.messages = {page.reply with hasMore := false} := by
  rw [ListMessages_spec valid] at answer
  cases answer
  simp only [hitReply,Page.reply,List.getLast?_map]
  cases ((fetched db cursor agentID limit).take limit).getLast? <;> rfl

-- Where an answer comes from: its own query, or an entry of the same cursor and
-- limit that another query filled.
theorem answer_cases (ok : StreamOk zone allowed s) (step : StreamStep zone allowed s (some a) next) :
    allowed a.request ∧
    ((a.source = none ∧ ∃ page, ReadFor zone s.db a.request a.read page ∧ a.reply = page.reply) ∨
    ∃ entry page, a.source = some entry ∧ a.read = entry.read ∧ allowed entry.request ∧
      entry.request.decoded = a.request.decoded ∧ entry.request.pageLimit = a.request.pageLimit ∧
      ReadFor zone s.db entry.request entry.read page ∧ a.reply = {page.reply with hasMore := false}) := by
  cases step with
  | hit may present =>
    obtain ⟨same,mayFill,page,readFor,messages⟩ := ok.cached _ _ present
    obtain ⟨cursor,limit⟩ := PageRequest.key_injective same
    refine ⟨may,.inr ⟨_,page,rfl,rfl,mayFill,cursor,limit,readFor,?_⟩⟩
    rw [← messages]
    exact hit_repeats readFor.valid readFor.answer
  | set waiting =>
    obtain ⟨may,readFor⟩ := ok.fetched _ _ _ _ waiting
    exact ⟨may,.inl ⟨rfl,_,readFor,rfl⟩⟩
  | setFailed waiting =>
    obtain ⟨may,readFor⟩ := ok.fetched _ _ _ _ waiting
    exact ⟨may,.inl ⟨rfl,_,readFor,rfl⟩⟩

-- What the agent filter of one answered call promises its caller.
structure KeepsFilter (zone : Timestamptz → Int) (s : StreamState) (a : PageAnswer) : Prop where
  filtered : ∀ id ∈ a.request.filter, ∀ m ∈ a.reply.messages, m.agentId = id
  unfiltered : a.request.filter = none → ∃ db, (db = s.db ∨ db = a.read) ∧
    ∃ page, ListMessages zone db a.request.decoded none a.request.pageLimit = .ok page ∧
      a.reply.messages = page.messages ∧ a.reply.nextCursor = EncodeCursor page.nextCursor
  shared : a.request.filter = none → ∀ entry ∈ a.source, entry.request.filter = none

-- A key names no agent, so the filter is kept as long as a call that is served
-- from Redis finds what a call with its own filter put there.
theorem GetPage_keeps_filter (valid : initial.Valid) (run : StreamRun zone allowed initial s)
    (step : StreamStep zone allowed s (some a) next)
    (apart : ∀ entry ∈ a.source, entry.request.filter = a.request.filter) : KeepsFilter zone s a := by
  obtain ⟨_,⟨_,page,readFor,reply⟩ | ⟨entry,page,source,read,_,cursor,limit,readFor,reply⟩⟩ :=
    answer_cases (run_ok valid run) step
  · refine ⟨?_,?_,fun none entry inSource => (apart entry inSource).trans none⟩
    · rw [reply]
      exact fun id isAgent m member => page_agents readFor.valid readFor.answer m member id isAgent
    · intro none
      have answer := readFor.answer
      rw [none] at answer
      exact ⟨a.read,.inr rfl,page,answer,by rw [reply]; rfl,by rw [reply]; rfl⟩
  · have same := apart entry source
    have answer := readFor.answer
    rw [same,cursor,limit,← read] at answer
    refine ⟨?_,?_,fun none entry inSource => (apart entry inSource).trans none⟩
    · rw [reply]
      exact fun id isAgent m member => page_agents (read ▸ readFor.valid) answer m member id isAgent
    · intro none
      rw [none] at answer
      exact ⟨a.read,.inr rfl,page,answer,by rw [reply]; rfl,by rw [reply]; rfl⟩

-- One call fills the entry and the next is served from it.
theorem fill_then_hit (allowed : PageRequest → Prop) (first second : PageRequest) (may : allowed first) (also : allowed second)
    (shared : second.key = first.key)
    (answer : ListMessages zone initial first.decoded first.filter first.pageLimit = .ok page)
    (marshals : Marshals page.messages) :
    ∃ s, StreamRun zone allowed initial s ∧ s.db = initial ∧
      StreamStep zone allowed s (some ⟨second,hitReply page.messages,initial,some ⟨page.messages,first,initial⟩⟩) s := by
  let calling (call : PageCall) : StreamState := ⟨initial,fun _ => none,Function.update (fun _ => none) 0 (some call)⟩
  have waiting (call : PageCall) : (calling call).calls 0 = some call := by simp [calling]
  have missed : StreamRun zone allowed initial (calling (.missed first)) := .step .start (.miss may rfl)
  have queried : StreamRun zone allowed initial (calling (.fetched first initial page)) := by
    simpa [calling] using StreamRun.step missed (.query (waiting _) answer)
  have stored := StreamRun.step queried (.set (waiting _) marshals)
  refine ⟨_,stored,rfl,StreamStep.hit also (show _ = some (CachedPage.mk page.messages first initial) from ?_)⟩
  rw [shared]
  exact Function.update_self first.key _ _

def adasStream : PageRequest := ⟨"",20,"00000000-0000-0000-0000-000000000001"⟩
def wholeStream : PageRequest := ⟨"",20,""⟩

theorem GetPage_keeps_filter_sample : ∃ s a, StreamRun (fun _ => 0) (fun _ => True) Database.sample s ∧
    a.source.isSome ∧ KeepsFilter (fun _ => 0) s a := by
  obtain ⟨page,answer⟩ : ∃ page, ListMessages (fun _ => 0) Database.sample adasStream.decoded adasStream.filter
      adasStream.pageLimit = .ok page := ⟨_,rfl⟩
  have marshals : Marshals page.messages := by cases answer; unfold Marshals; decide
  obtain ⟨s,run,_,step⟩ := fill_then_hit (fun _ => True) adasStream adasStream trivial trivial rfl
    answer marshals
  refine ⟨s,_,run,rfl,GetPage_keeps_filter Database.sample_valid run step ?_⟩
  intro entry source
  cases source
  rfl

-- One agent's page answers the call for the whole stream after it.
theorem GetPage_leaks_filter : ¬ ∀ s a next, StreamRun (fun _ => 0) (fun _ => True) Database.sample s →
    StreamStep (fun _ => 0) (fun _ => True) s (some a) next → KeepsFilter (fun _ => 0) s a := by
  intro always
  obtain ⟨page,answer⟩ : ∃ page, ListMessages (fun _ => 0) Database.sample adasStream.decoded adasStream.filter
      adasStream.pageLimit = .ok page := ⟨_,rfl⟩
  have marshals : Marshals page.messages := by cases answer; unfold Marshals; decide
  obtain ⟨s,run,same,step⟩ := fill_then_hit (fun _ => True) adasStream wholeStream trivial trivial (by decide)
    answer marshals
  obtain ⟨db,from_,whole,wholeAnswer,served,_⟩ :=
    (always _ _ _ run step).unfiltered (show wholeStream.filter = none by decide)
  have current : db = Database.sample := from_.elim (·.trans same) id
  subst current
  have two : page.messages.length = 2 := by cases answer; decide
  have three : whole.messages.length = 3 := by
    have plain : ListMessages (fun _ => 0) Database.sample none none 20 = .ok whole := wholeAnswer
    cases plain
    decide
  have lengths : page.messages.length = whole.messages.length := congrArg List.length served
  omega

-- What a call without a filter owes its caller: the triple of the uncached path,
-- and from Redis the triple that the call before it was given.
structure RefinesUncached (zone : Timestamptz → Int) (s : StreamState) (a : PageAnswer) (cursor : Option Cursor) : Prop where
  uncached : ∃ db, (db = s.db ∨ db = a.read) ∧
    ∃ page, ListMessages zone db cursor none a.request.limit.toNat = .ok page ∧ a.reply = page.reply
  repeated : ∀ entry ∈ a.source, ∀ page, ListMessages zone entry.read entry.request.decoded entry.request.filter
    entry.request.pageLimit = .ok page → a.reply = page.reply

def Unfiltered (r : PageRequest) : Prop := r.agentID = ""

theorem Unfiltered.filter (unfiltered : Unfiltered r) : r.filter = none := by
  unfold PageRequest.filter
  exact if_pos unfiltered

-- A page from Redis is right exactly when it was the last one at the time it was
-- cached: nothing else makes its flag false.
theorem GetPage_refines_iff (valid : initial.Valid) (run : StreamRun zone Unfiltered initial s)
    (step : StreamStep zone Unfiltered s (some a) next) (decodes : DecodeCursor a.request.cursor = .ok cursor)
    (low : 1 ≤ a.request.limit) (high : a.request.limit ≤ 100) :
    RefinesUncached zone s a cursor ↔
      ∀ entry ∈ a.source, (olderThan entry.read cursor).length ≤ a.request.limit.toNat := by
  have ok := run_ok valid run
  have decoded : a.request.decoded = cursor := by simp [PageRequest.decoded,decodes]
  have pageLimit : a.request.pageLimit = a.request.limit.toNat := by
    unfold PageRequest.pageLimit
    rw [if_neg (by omega)]
  obtain ⟨may,⟨source,page,readFor,reply⟩ | ⟨entry,page,source,read,mayFill,sameCursor,sameLimit,readFor,reply⟩⟩ :=
    answer_cases ok step
  · have answer := readFor.answer
    rw [may.filter,decoded,pageLimit] at answer
    exact ⟨fun _ => by simp [source],fun _ => ⟨⟨_,.inr rfl,page,answer,reply⟩,by simp [source]⟩⟩
  · have answer := readFor.answer
    rw [mayFill.filter,sameCursor,sameLimit,decoded,pageLimit] at answer
    have flag := page_hasMore readFor.valid answer
    simp only [source,Option.mem_some_iff,forall_eq']
    constructor
    · intro refines
      obtain ⟨⟨db,from_,other,otherAnswer,same⟩,_⟩ := refines
      have otherFlag : other.hasMore = false := by
        rw [reply] at same
        exact (congrArg PageReply.hasMore same).symm
      rcases from_ with rfl | rfl
      · rw [page_hasMore ok.valid otherAnswer] at otherFlag
        have grown : (olderThan entry.read cursor).length ≤ (olderThan s.db cursor).length :=
          olderThan_grows readFor.valid readFor.kept
        exact grown.trans (by simpa using otherFlag)
      · rw [read,answer] at otherAnswer
        cases otherAnswer
        rw [flag] at otherFlag
        simpa using otherFlag
    · intro short
      have last : page.hasMore = false := by rw [flag]; simpa using short
      have whole : a.reply = page.reply := by rw [reply,← last]; rfl
      refine ⟨⟨_,.inr rfl,page,read ▸ answer,whole⟩,?_⟩
      intro found isEntry other otherAnswer
      rw [source,Option.mem_some_iff] at isEntry
      subst isEntry
      rw [readFor.answer] at otherAnswer
      cases otherAnswer
      exact whole

def firstMessage : PageRequest := ⟨"",1,""⟩

-- Reading the newest of three messages again answers that no more follow.
theorem GetPage_hides_more : ¬ ∀ s a next cursor, StreamRun (fun _ => 0) Unfiltered Database.sample s →
    StreamStep (fun _ => 0) Unfiltered s (some a) next → DecodeCursor a.request.cursor = .ok cursor →
    1 ≤ a.request.limit → a.request.limit ≤ 100 → RefinesUncached (fun _ => 0) s a cursor := by
  intro always
  obtain ⟨page,answer,more⟩ : ∃ page, ListMessages (fun _ => 0) Database.sample firstMessage.decoded firstMessage.filter
      firstMessage.pageLimit = .ok page ∧ page.hasMore = true := ⟨_,rfl,by decide⟩
  have marshals : Marshals page.messages := by cases answer; unfold Marshals; decide
  obtain ⟨s,run,_,step⟩ := fill_then_hit Unfiltered firstMessage firstMessage rfl rfl rfl answer marshals
  have same := (always _ _ _ none run step rfl (show 1 ≤ firstMessage.limit by decide)
    (show firstMessage.limit ≤ 100 by decide)).repeated _ rfl page answer
  have flags : false = page.hasMore := congrArg PageReply.hasMore same
  rw [more] at flags
  cases flags

theorem GetPage_refines_iff_sample : ∃ s a, StreamRun (fun _ => 0) Unfiltered Database.sample s ∧ a.source.isSome ∧
    (RefinesUncached (fun _ => 0) s a none ↔
      ∀ entry ∈ a.source, (olderThan entry.read none).length ≤ a.request.limit.toNat) := by
  obtain ⟨page,answer⟩ : ∃ page, ListMessages (fun _ => 0) Database.sample wholeStream.decoded wholeStream.filter
      wholeStream.pageLimit = .ok page := ⟨_,rfl⟩
  have marshals : Marshals page.messages := by cases answer; unfold Marshals; decide
  obtain ⟨s,run,_,step⟩ := fill_then_hit Unfiltered wholeStream wholeStream rfl rfl rfl answer marshals
  exact ⟨s,_,run,rfl,GetPage_refines_iff Database.sample_valid run step rfl (show 1 ≤ wholeStream.limit by decide)
    (show wholeStream.limit ≤ 100 by decide)⟩

end
end Trokk
