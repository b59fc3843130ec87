import Mathlib.Data.List.Sort
import Mathlib.Data.List.Nodup
import Mathlib.Data.List.Perm.Subperm

-- Keyset pagination over a linearly ordered key, newest key first. Nothing here
-- is about one table: rows are arbitrary and only their keys are compared.
namespace Keyset
variable {R K : Type} [LinearOrder K]

-- A cursor is the key of the last row handed out; no cursor means no bound.
def Older (key : R → K) (cursor : Option K) (r : R) : Prop := ∀ bound ∈ cursor, key r < bound

instance (key : R → K) (cursor : Option K) : DecidablePred (Older key cursor) :=
  fun r => match cursor with
    | none => .isTrue (by simp [Older])
    | some bound => decidable_of_iff (key r < bound) (by simp [Older])

def newestFirst (key : R → K) (rows : List R) : List R :=
  rows.insertionSort (fun a b => key b ≤ key a)

theorem newestFirst_perm (key : R → K) (rows : List R) : (newestFirst key rows).Perm rows :=
  List.perm_insertionSort _ _

theorem mem_newestFirst {key : R → K} : r ∈ newestFirst key rows ↔ r ∈ rows :=
  (newestFirst_perm key rows).mem_iff

def Descending (key : R → K) (rows : List R) : Prop := rows.Pairwise (fun a b => key b < key a)

theorem newestFirst_descending {key : R → K} (distinct : (rows.map key).Nodup) :
    Descending key (newestFirst key rows) := by
  have total : Std.Total (fun a b : R => key b ≤ key a) := ⟨fun a b => le_total (key b) (key a)⟩
  have trans : IsTrans R (fun a b => key b ≤ key a) := ⟨fun _ _ _ ab bc => le_trans bc ab⟩
  have sorted : (newestFirst key rows).Pairwise (fun a b => key b ≤ key a) :=
    List.pairwise_insertionSort (fun a b => key b ≤ key a) rows
  have apart : (newestFirst key rows).Pairwise (fun a b => key a ≠ key b) :=
    List.pairwise_map.mp (((newestFirst_perm key rows).map key).nodup_iff.mpr distinct)
  exact (sorted.and apart).imp fun both => lt_of_le_of_ne both.1 (Ne.symm both.2)

theorem Descending.nodup {key : R → K} (sorted : Descending key rows) : rows.Nodup :=
  sorted.imp fun less equal => absurd (equal ▸ less) (lt_irrefl _)

theorem Descending.last_least {key : R → K} (sorted : Descending key rows)
    (last : rows.getLast? = some l) (member : r ∈ rows) : r = l ∨ key l < key r := by
  obtain ⟨front,rfl⟩ := List.getLast?_eq_some_iff.mp last
  rcases List.mem_append.mp member with inFront | isLast
  · exact .inr ((List.pairwise_append.mp sorted).2.2 r inFront l (by simp))
  · exact .inl (List.mem_singleton.mp isLast)

-- What one answered page owes its caller: `rows` are the rows the query may
-- return, `more` the answer's flag.
structure PageOf (key : R → K) (rows : List R) (cursor : Option K) (page : List R) (more : Bool) : Prop where
  descending : Descending key page
  sound : ∀ r ∈ page, r ∈ rows ∧ Older key cursor r
  complete : ∀ r ∈ rows, Older key cursor r →
    r ∈ page ∨ more = true ∧ ∀ last, page.getLast? = some last → key r < key last
  remaining : more = true → ∃ last, page.getLast? = some last ∧ ∃ r ∈ rows, key r < key last

-- The front of all the rows the query may return is a page of them.
theorem front_page {key : R → K} {all rows : List R} {limit : Nat} (positive : 0 < limit) (sorted : Descending key all)
    (members : ∀ r, r ∈ all ↔ r ∈ rows ∧ Older key cursor r) :
    PageOf key rows cursor (all.take limit) (decide (limit < all.length)) := by
  have cross : ∀ a ∈ all.take limit, ∀ b ∈ all.drop limit, key b < key a := by
    have both : Descending key (all.take limit ++ all.drop limit) := by rwa [List.take_append_drop]
    exact (List.pairwise_append.mp both).2.2
  refine ⟨sorted.sublist (List.take_sublist _ _),?_,?_,?_⟩
  · intro r member
    exact (members r).mp (List.mem_of_mem_take member)
  · intro r member older
    have present := (members r).mpr ⟨member,older⟩
    rw [← List.take_append_drop limit all] at present
    cases List.mem_append.mp present with
    | inl inPage => exact .inl inPage
    | inr dropped =>
      refine .inr ⟨?_,fun last isLast => cross last (List.mem_of_getLast? isLast) r dropped⟩
      have := List.length_pos_of_mem dropped
      rw [List.length_drop] at this
      simp only [decide_eq_true_eq]
      omega
  · intro more
    have long : limit < all.length := of_decide_eq_true more
    have front : all.take limit ≠ [] := by
      intro empty
      have := congrArg List.length empty
      rw [List.length_take,List.length_nil] at this
      omega
    have beyond : all[limit] ∈ all.drop limit := List.mem_drop_iff_getElem.mpr ⟨0,by simpa using long,by simp⟩
    refine ⟨_,List.getLast?_eq_some_getLast front,all[limit],?_,?_⟩
    · exact ((members _).mp (List.getElem_mem long)).1
    · exact cross _ (List.getLast_mem front) _ beyond

-- Fetch one row beyond the limit, keep the limit, and answer whether the
-- surplus row existed.
theorem truncated_page {key : R → K} {rows : List R} {limit : Nat} (positive : 0 < limit)
    (distinct : (rows.map key).Nodup) :
    let fetched := (newestFirst key (rows.filter (Older key cursor))).take (limit+1)
    PageOf key rows cursor (fetched.take limit) (decide (limit < fetched.length)) := by
  intro fetched
  have kept : fetched.take limit = (newestFirst key (rows.filter (Older key cursor))).take limit := by
    simp only [fetched,List.take_take]
    rw [Nat.min_eq_left (Nat.le_succ _)]
  have surplus : limit < fetched.length ↔
      limit < (newestFirst key (rows.filter (Older key cursor))).length := by
    simp only [fetched,List.length_take]
    omega
  rw [kept]
  simp only [surplus]
  apply front_page positive
  · exact newestFirst_descending (distinct.sublist (List.filter_sublist.map key))
  · intro r
    simp [mem_newestFirst]

-- The walk of a client: `seen` are the rows of all pages so far, `initial` the
-- rows present before the first call and `rows` the rows present now.
structure Walked (key : R → K) (initial rows seen : List R) (more : Bool) : Prop where
  descending : Descending key seen
  sound : ∀ r ∈ seen, r ∈ rows
  kept : ∀ r ∈ initial, r ∈ rows
  pending : ∀ r ∈ initial, r ∈ seen ∨ more = true ∧ ∀ last, seen.getLast? = some last → key r < key last

theorem walk_starts (key : R → K) (initial : List R) : Walked key initial initial [] true :=
  ⟨.nil,by simp,fun _ member => member,fun _ _ => .inr ⟨rfl,by simp⟩⟩

theorem Walked.grows {key : R → K} (walk : Walked key initial rows seen more)
    (grown : ∀ r ∈ rows, r ∈ later) : Walked key initial later seen more :=
  ⟨walk.descending,fun r member => grown r (walk.sound r member),
    fun r member => grown r (walk.kept r member),walk.pending⟩

theorem getLast?_append_page (seen page : List R) :
    (seen ++ page).getLast? = page.getLast?.or seen.getLast? := by
  rw [List.getLast?_append]

-- A page that starts below the rows already handed out continues them.
theorem Descending.continued {key : R → K} (sorted : Descending key seen)
    (page : PageOf key rows (seen.getLast?.map key) fresh more) : Descending key (seen ++ fresh) := by
  refine List.pairwise_append.mpr ⟨sorted,page.descending,?_⟩
  intro a inSeen b inFresh
  cases tail : seen.getLast? with
  | none => simp [List.getLast?_eq_none_iff.mp tail] at inSeen
  | some last =>
    have less : key b < key last := (page.sound b inFresh).2 (key last) (by simp [tail])
    rcases sorted.last_least tail inSeen with rfl | greater
    · exact less
    · exact less.trans greater

-- A row of the table that is handed out, or still below all that is, stays so.
theorem reach_continued {key : R → K} (page : PageOf key rows (seen.getLast?.map key) fresh more) (member : r ∈ rows)
    (reach : r ∈ seen ∨ ∀ last, seen.getLast? = some last → key r < key last) :
    r ∈ seen ++ fresh ∨ more = true ∧ ∀ last, (seen ++ fresh).getLast? = some last → key r < key last := by
  rcases reach with old | waiting
  · exact .inl (List.mem_append_left _ old)
  · have open' : Older key (seen.getLast?.map key) r := by
      intro bound isBound
      obtain ⟨last,isLast,rfl⟩ := Option.map_eq_some_iff.mp isBound
      exact waiting last isLast
    rcases page.complete r member open' with new | ⟨again,beyond⟩
    · exact .inl (List.mem_append_right _ new)
    · refine .inr ⟨again,?_⟩
      intro last isLast
      obtain ⟨end',isEnd,_⟩ := page.remaining again
      rw [getLast?_append_page,isEnd,Option.some_or] at isLast
      cases isLast
      exact beyond _ isEnd

-- Rows are only compared by their keys, so a page of rows is a page of keys.
theorem PageOf.keys {key : R → K} (page : PageOf key rows cursor fresh more) :
    PageOf (fun k => k) (rows.map key) cursor (fresh.map key) more := by
  refine ⟨List.pairwise_map.mpr page.descending,?_,?_,?_⟩
  · intro k member
    obtain ⟨r,inPage,rfl⟩ := List.mem_map.mp member
    exact ⟨List.mem_map_of_mem (page.sound r inPage).1,(page.sound r inPage).2⟩
  · intro k member older
    obtain ⟨r,inRows,rfl⟩ := List.mem_map.mp member
    rw [List.getLast?_map]
    refine (page.complete r inRows older).imp List.mem_map_of_mem fun beyond => ⟨beyond.1,?_⟩
    intro last isLast
    obtain ⟨row,isRow,rfl⟩ := Option.map_eq_some_iff.mp isLast
    exact beyond.2 row isRow
  · intro again
    obtain ⟨last,isLast,r,inRows,less⟩ := page.remaining again
    exact ⟨key last,by rw [List.getLast?_map,isLast,Option.map_some],key r,List.mem_map_of_mem inRows,less⟩

theorem Walked.turns {key : R → K} (walk : Walked key initial rows seen true)
    (page : PageOf key rows (seen.getLast?.map key) fresh more) :
    Walked key initial rows (seen ++ fresh) more := by
  refine ⟨walk.descending.continued page,?_,walk.kept,?_⟩
  · intro r member
    rcases List.mem_append.mp member with old | new
    · exact walk.sound r old
    · exact (page.sound r new).1
  · intro r member
    exact reach_continued page (walk.kept r member) ((walk.pending r member).imp_right And.right)

theorem Walked.finished {key : R → K} (walk : Walked key initial rows seen false)
    (member : r ∈ initial) : r ∈ seen := by
  rcases walk.pending r member with found | ⟨impossible,_⟩
  · exact found
  · cases impossible

theorem Walked.bounded {key : R → K} (walk : Walked key initial rows seen more) :
    seen.length ≤ rows.length :=
  (walk.descending.nodup.subperm walk.sound).length_le

-- The flag of an answer looks past everything handed out so far, also when the
-- answer itself is empty.
theorem page_more_iff {key : R → K} (page : PageOf key rows (seen.getLast?.map key) fresh more) :
    more = true ↔
      ∃ last, (seen ++ fresh).getLast? = some last ∧ ∃ r ∈ rows, key r < key last := by
  rw [getLast?_append_page]
  constructor
  · intro flag
    obtain ⟨last,isLast,rest⟩ := page.remaining flag
    exact ⟨last,by rw [isLast,Option.some_or],rest⟩
  · intro remains
    obtain ⟨last,isLast,r,member,less⟩ := remains
    have open' : Older key (seen.getLast?.map key) r := by
      intro bound isBound
      obtain ⟨old,isOld,rfl⟩ := Option.map_eq_some_iff.mp isBound
      cases tail : fresh.getLast? with
      | none =>
        rw [tail,Option.none_or,isOld] at isLast
        cases isLast
        exact less
      | some new =>
        rw [tail,Option.some_or] at isLast
        cases isLast
        exact less.trans ((page.sound _ (List.mem_of_getLast? tail)).2 (key old) (by simp [isOld]))
    rcases page.complete r member open' with inPage | ⟨flag,_⟩
    · cases tail : fresh.getLast? with
      | none => simp [List.getLast?_eq_none_iff.mp tail] at inPage
      | some new =>
        rw [tail,Option.some_or] at isLast
        cases isLast
        rcases page.descending.last_least tail inPage with rfl | greater
        · exact absurd less (lt_irrefl _)
        · exact absurd (less.trans greater) (lt_irrefl _)
    · exact flag

end Keyset
