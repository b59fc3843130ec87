import Trokk.ClientTypes

-- The page arithmetic of GET /agents and GET /investigations: the two handlers and
-- ListAgents and ListInvestigations of internal/store/pg, from the query strings to
-- the statements that Postgres receives.
namespace Trokk
open Keyset Placeholder Relational Strconv

-- Both handlers drop what Atoi reports.
def pageParam (page : String) : Int :=
  let page := (Atoi page.toList).1
  if page < 1 then 1 else page

def limitParam (limit : String) : Int :=
  let limit := (Atoi limit.toList).1
  if limit < 1 ∨ limit > 100 then 20 else limit

-- internal/store/pg/investigations.go
def investigationsQuery (status : String) (limit offset : Int) : PageQuery :=
  let args := if status = "" then [] else [SqlArg.text status]
  ⟨status ≠ "",2,3,args ++ [.int limit,.int offset]⟩

-- The two lists with the rest of their query string.
inductive Listing where
  | agents (active : String)
  | investigations (status : String)

def Listing.query (page limit : String) : Listing → PageQuery
  | agents active => agentsQuery (if active = "" then none else some (active = "true")) (pageParam page) (limitParam limit)
  | investigations status =>
    investigationsQuery status (limitParam limit) (pageOffset (pageParam page) (limitParam limit))

theorem pageParam_positive (page : String) : 1 ≤ pageParam page := by
  unfold pageParam
  dsimp only
  split <;> omega

theorem limitParam_bounds (limit : String) : 1 ≤ limitParam limit ∧ limitParam limit ≤ 100 := by
  unfold limitParam
  dsimp only
  split <;> omega

theorem Listing.offset_sent (listing : Listing) (page limit : String) :
    (listing.query page limit).args.getLast? = some (.int (pageOffset (pageParam page) (limitParam limit))) := by
  cases listing <;> simp [Listing.query,agentsQuery,investigationsQuery]

-- The OFFSET that is sent, against the page and the limit.
def OffsetExact (listing : Listing) (page limit : String) : Prop := ∃ offset,
  (listing.query page limit).args.getLast? = some (.int offset) ∧ offset = (pageParam page - 1) * limitParam limit ∧ 0 ≤ offset

theorem pageOffset_exact {page limit : Int} (low : 1 ≤ page) (high : page < 2^63) (positive : 0 < limit) :
    pageOffset page limit = (page - 1) * limit ↔ (page - 1) * limit < 2^63 := by
  have nonneg : 0 ≤ (page - 1) * limit := Int.mul_nonneg (by omega) (Int.le_of_lt positive)
  have first : int64 (page - 1) = page - 1 := (int64_exact (by omega)).mpr (by omega)
  rw [pageOffset,first,int64_exact nonneg]

theorem pageParam_high (page : String) : pageParam page < 2^63 := by
  have range := Atoi_range page.toList
  unfold pageParam
  dsimp only
  split <;> omega

theorem page_offset_wraps : ¬ ∀ listing page limit, OffsetExact listing page limit := by
  intro always
  obtain ⟨offset,sent,exact,-⟩ := always (.investigations "") "9223372036854775807" "20"
  rw [Listing.offset_sent] at sent
  have own : pageOffset (pageParam "9223372036854775807") (limitParam "20") = -40 := by decide
  have meant : (pageParam "9223372036854775807" - 1) * limitParam "20" = 184467440737095516120 := by decide
  rw [own] at sent
  rw [meant] at exact
  subst exact
  cases sent

-- From the page on whose offset no longer fits, every page is sent a wrong one.
theorem page_offset_exact (listing : Listing) (page limit : String) : OffsetExact listing page limit ↔
    (Atoi page.toList).1 ≤ 1 + (2^63 - 1) /
      (if 1 ≤ (Atoi limit.toList).1 ∧ (Atoi limit.toList).1 ≤ 100 then (Atoi limit.toList).1 else 20) := by
  have limits : (if 1 ≤ (Atoi limit.toList).1 ∧ (Atoi limit.toList).1 ≤ 100 then (Atoi limit.toList).1 else 20) =
      limitParam limit := by
    unfold limitParam
    dsimp only
    split <;> split <;> omega
  have positive : 0 < limitParam limit := by
    have := (limitParam_bounds limit).1
    omega
  have pages : pageParam page ≤ 1 + (2^63 - 1) / limitParam limit ↔ (Atoi page.toList).1 ≤ 1 + (2^63 - 1) / limitParam limit := by
    have most : 0 ≤ (2^63 - 1) / limitParam limit := Int.ediv_nonneg (by decide) (Int.le_of_lt positive)
    unfold pageParam
    dsimp only
    split <;> omega
  have room : pageParam page - 1 ≤ (2^63 - 1) / limitParam limit ↔ (pageParam page - 1) * limitParam limit ≤ 2^63 - 1 :=
    Int.le_ediv_iff_mul_le positive
  have fits : pageParam page ≤ 1 + (2^63 - 1) / limitParam limit ↔ (pageParam page - 1) * limitParam limit < 2^63 := by omega
  rw [limits,← pages,fits,← pageOffset_exact (pageParam_positive page) (pageParam_high page) positive]
  constructor
  · rintro ⟨offset,sent,exact,-⟩
    rw [Listing.offset_sent] at sent
    cases sent
    exact exact
  · intro exact
    refine ⟨_,listing.offset_sent page limit,exact,?_⟩
    have := pageParam_positive page
    rw [exact]
    exact Int.mul_nonneg (by omega) (Int.le_of_lt positive)

def InvestigationStatus.text : InvestigationStatus → String
  | .pending => "pending"
  | .inProgress => "in_progress"
  | .consensus => "consensus"
  | .complete => "complete"
  | .failed => "failed"

structure Investigation where
  id : Uuid
  question : String
  status : String
  report : Option Json
  createdAt : Time
  completedAt : Option Time

def InvestigationRow.scan (zone : Timestamptz → Int) (i : InvestigationRow) : Investigation :=
  ⟨i.id,i.question,i.status.text,i.report,Time.scan zone i.createdAt,i.completedAt.map (Time.scan zone)⟩

-- WHERE status = $1, where a status is given.
def matchingStatus (db : Database) (status : String) : List InvestigationRow :=
  db.investigations.filter fun i => status = "" ∨ i.status.text = status

-- SELECT COUNT(*); a bigint does not count further.
def countInvestigations (db : Database) (status : String) : Except PgError Nat :=
  if !storableText status then .error .invalidText
  else if 2^63 ≤ (matchingStatus db status).length then .error .failed
  else .ok (matchingStatus db status).length

def ListInvestigations (zone : Timestamptz → Int) (db : Database) (status : String) (limit offset : Int) :
    Except PgError (List Investigation × Nat) := do
  let total ← countInvestigations db status
  let rows ← (investigationsQuery status limit offset).run (fun i : InvestigationRow => some (.text i.status.text))
    InvestigationRow.createdAt db.investigations
  return (rows.map (InvestigationRow.scan zone),total)

-- What the handler writes: the status, and an error's code or the list with its pagination.
structure InvestigationList where
  investigations : List Investigation
  page : Int
  limit : Int
  total : Nat

def Handler.ListInvestigations (zone : Timestamptz → Int) (db : Database) (pageText limitText status : String) :
    Nat × Except String InvestigationList :=
  let page := pageParam pageText
  let limit := limitParam limitText
  match Trokk.ListInvestigations zone db status limit (pageOffset page limit) with
  | .error _ => (500,.error "failed_to_list_investigations")
  | .ok (investigations,total) => (200,.ok ⟨investigations,page,limit,total⟩)

-- ceil(total/limit)
def pageCount (total limit : Nat) : Nat := (total + limit - 1) / limit

structure PagesAll (zone : Timestamptz → Int) (db : Database) (status : String) (limit : Nat) (pages : Nat → List Investigation) : Prop where
  answers : ∀ p, 1 ≤ p → p ≤ pageCount (matchingStatus db status).length limit →
    Handler.ListInvestigations zone db (toString p) (toString limit) status = (200,.ok ⟨pages p,p,limit,(matchingStatus db status).length⟩)
  once : ∃ rows, rows.Perm (matchingStatus db status) ∧ Descending InvestigationRow.createdAt rows ∧
    (List.range' 1 (pageCount (matchingStatus db status).length limit)).flatMap pages = rows.map (InvestigationRow.scan zone)

-- The numbers of the page query are those of a list with a status.
theorem unfiltered_refused (zone : Timestamptz → Int) (db : Database) (limit offset : Int) :
    ∃ e, Trokk.ListInvestigations zone db "" limit offset = .error e := by
  have apart : ¬ LinesUp (investigationsQuery "" limit offset).used (investigationsQuery "" limit offset).args := by
    change ¬ ((∀ i ∈ [2,3], i ∈ List.range' 1 2) ∧ ∀ i ∈ List.range' 1 2, i ∈ [2,3])
    decide
  unfold Trokk.ListInvestigations PageQuery.run
  rw [if_pos apart]
  cases countInvestigations db "" with
  | error e => exact ⟨e,rfl⟩
  | ok total => exact ⟨.badParameters,rfl⟩

theorem filtered_listed (zone : Timestamptz → Int) (db : Database) {status : String} (given : status ≠ "") (storable : storableText status = true)
    (counted : (matchingStatus db status).length < 2^63) {limit offset : Nat} :
    Trokk.ListInvestigations zone db status limit offset = .ok ((window limit offset
      (newestFirst InvestigationRow.createdAt (matchingStatus db status))).map (InvestigationRow.scan zone),(matchingStatus db status).length) := by
  have query : investigationsQuery status limit offset = ⟨true,2,3,[.text status,.int limit,.int offset]⟩ := by
    simp [investigationsQuery,given]
  have rows : db.investigations.filter (fun i => !true || decide (some (SqlArg.text status) = some (.text i.status.text))) =
      matchingStatus db status := by
    refine List.filter_congr fun i _ => ?_
    simp [given,eq_comm]
  have read : (investigationsQuery status limit offset).run (fun i : InvestigationRow => some (.text i.status.text))
      InvestigationRow.createdAt db.investigations =
      .ok (window limit offset (newestFirst InvestigationRow.createdAt (matchingStatus db status))) := by
    rw [query,← rows]
    exact run_window (by exact three_lineUp _ rfl) (by simp [SqlArg.storable,storable]) rfl rfl _ _ _
  unfold Trokk.ListInvestigations countInvestigations
  rw [read,if_neg (by simp [storable]),if_neg (Nat.not_le.mpr counted)]
  rfl

theorem pageParam_toString {p : Nat} (first : 1 ≤ p) (small : p < 2^63) : pageParam (toString p) = p := by
  unfold pageParam
  rw [Atoi_toString small]
  exact if_neg (by omega)

theorem limitParam_toString {limit : Nat} (low : 1 ≤ limit) (high : limit ≤ 100) : limitParam (toString limit) = limit := by
  unfold limitParam
  rw [Atoi_toString (by omega)]
  exact if_neg (by omega)

theorem pageCount_before {q : Nat} (counts : q + 1 ≤ pageCount total limit) (positive : 0 < limit) : q * limit < total := by
  have whole := (Nat.le_div_iff_mul_le positive).mp counts
  rw [Nat.succ_mul] at whole
  omega

theorem pageCount_covers (total : Nat) (positive : 0 < limit) : total ≤ pageCount total limit * limit := by
  have rest := Nat.div_add_mod (total + limit - 1) limit
  have less := Nat.mod_lt (total + limit - 1) positive
  rw [pageCount,Nat.mul_comm]
  omega

theorem page_listed (zone : Timestamptz → Int) (db : Database) {status : String} (given : status ≠ "")
    (storable : storableText status = true) (counted : (matchingStatus db status).length < 2^63) {limit q : Nat}
    (low : 1 ≤ limit) (high : limit ≤ 100) (counts : q + 1 ≤ pageCount (matchingStatus db status).length limit) :
    Handler.ListInvestigations zone db (toString (q + 1)) (toString limit) status = (200,.ok ⟨(window limit (q * limit)
      (newestFirst InvestigationRow.createdAt (matchingStatus db status))).map (InvestigationRow.scan zone),
      (q + 1 : Nat),limit,(matchingStatus db status).length⟩) := by
  have before := pageCount_before counts low
  have smaller : q ≤ q * limit := Nat.le_mul_of_pos_right q low
  have page := pageParam_toString (Nat.le_add_left 1 q) (by omega)
  have offset : pageOffset (q + 1 : Nat) limit = (q * limit : Nat) := by
    have exact := @pageOffset_exact (q + 1 : Nat) limit (by omega) (by omega) (by omega)
    have same : (((q + 1 : Nat) : Int) - 1) * limit = (q * limit : Nat) := by
      rw [Int.natCast_add,Int.natCast_mul]
      simp
    rw [same] at exact
    exact exact.mpr (by omega)
  unfold Handler.ListInvestigations
  rw [page,limitParam_toString low high]
  dsimp only
  rw [offset,filtered_listed zone db given storable counted]

theorem pages_join (zone : Timestamptz → Int) (rows : List InvestigationRow) (positive : 0 < limit) :
    (List.range' 1 (pageCount rows.length limit)).flatMap (fun p =>
      (window limit ((p - 1) * limit) rows).map (InvestigationRow.scan zone)) = rows.map (InvestigationRow.scan zone) := by
  rw [List.range'_eq_map_range,List.flatMap_map]
  have tiles := windows_tile limit (pageCount rows.length limit) rows
  rw [List.take_of_length_le (pageCount_covers _ positive)] at tiles
  simp only [Nat.add_sub_cancel_left]
  rw [← List.map_flatMap,tiles]

theorem text_storable (status : InvestigationStatus) : storableText status.text = true := by
  cases status <;> decide

theorem matching_sorted {db : Database} (distinct : (db.investigations.map InvestigationRow.createdAt).Nodup) (status : String) :
    Descending InvestigationRow.createdAt (newestFirst InvestigationRow.createdAt (matchingStatus db status)) :=
  newestFirst_descending (distinct.sublist (List.filter_sublist.map _))

-- Where something matches, the first page is due and fails unless a status is given.
theorem first_page_due {db : Database} {status : String} {limit : Nat} (positive : 0 < limit)
    (some' : matchingStatus db status ≠ []) : 1 ≤ pageCount (matchingStatus db status).length limit := by
  have := List.length_pos_of_ne_nil some'
  exact (Nat.le_div_iff_mul_le positive).mpr (by omega)

theorem listed_given (answered : Handler.ListInvestigations zone db page limit status = (200,.ok list)) :
    status ≠ "" ∧ (matchingStatus db status).length < 2^63 := by
  unfold Handler.ListInvestigations at answered
  dsimp only at answered
  split at answered
  · cases answered
  · rename_i investigations total ok
    constructor
    · rintro rfl
      obtain ⟨e,refused⟩ := unfiltered_refused zone db (limitParam limit) (pageOffset (pageParam page) (limitParam limit))
      rw [refused] at ok
      cases ok
    · by_contra many
      unfold Trokk.ListInvestigations countInvestigations at ok
      split at ok
      · cases ok
      · rw [if_pos (Nat.not_lt.mp many)] at ok
        cases ok

theorem unfiltered_page_fails : ¬ ∀ (zone : Timestamptz → Int) (db : Database) (status : String) (limit : Nat),
    (db.investigations.map InvestigationRow.createdAt).Nodup → 1 ≤ limit → limit ≤ 100 →
    ∃ pages, PagesAll zone db status limit pages := by
  intro always
  let asked : InvestigationRow := ⟨21,"why",.inProgress,none,30,none⟩
  obtain ⟨pages,listed⟩ := always (fun _ => 0) {investigations := [asked]} "" 20 (by simp) (by decide) (by decide)
  exact (listed_given (listed.answers 1 (by decide) (by decide))).1 rfl

-- Every list with a status comes page by page; without one only an empty table does.
theorem investigations_paged (zone : Timestamptz → Int) (db : Database)
    (distinct : (db.investigations.map InvestigationRow.createdAt).Nodup) (status : String) {limit : Nat} (low : 1 ≤ limit)
    (high : limit ≤ 100) : (∃ pages, PagesAll zone db status limit pages) ↔
      matchingStatus db status = [] ∨ status ≠ "" ∧ (matchingStatus db status).length < 2^63 := by
  constructor
  · rintro ⟨pages,listed⟩
    by_cases empty : matchingStatus db status = []
    · exact .inl empty
    · exact .inr (listed_given (listed.answers 1 (by decide) (first_page_due low empty)))
  · intro condition
    have sorted := matching_sorted distinct status
    have same := newestFirst_perm InvestigationRow.createdAt (matchingStatus db status)
    refine ⟨fun p => (window limit ((p - 1) * limit) (newestFirst InvestigationRow.createdAt (matchingStatus db status))).map
      (InvestigationRow.scan zone),?_,_,same,sorted,?_⟩
    · intro p first counts
      by_cases empty : matchingStatus db status = []
      · rw [empty] at counts
        have none' : pageCount 0 limit = 0 := Nat.div_eq_of_lt (by omega)
        rw [List.length_nil,none'] at counts
        omega
      · obtain ⟨given,counted⟩ := condition.resolve_left empty
        obtain ⟨i,member⟩ := List.exists_mem_of_ne_nil _ empty
        have own : i.status.text = status := by
          have := List.of_mem_filter member
          simpa [given] using this
        obtain ⟨q,rfl⟩ := Nat.exists_eq_add_of_le' first
        exact page_listed zone db given (own ▸ text_storable i.status) counted low high counts
    · rw [← same.length_eq]
      exact pages_join zone _ low

-- Four rows wait and one does not: two pages of two.
def Database.waiting : Database := {investigations := [⟨21,"why",.pending,none,30,none⟩,⟨22,"who",.pending,none,50,none⟩,
  ⟨23,"when",.inProgress,none,40,none⟩,⟨24,"where",.pending,none,10,none⟩,⟨25,"how",.pending,none,20,none⟩]}

theorem investigations_paged_pending : (matchingStatus .waiting "pending").length = 4 ∧
    ((∃ pages, PagesAll (fun _ => 0) .waiting "pending" 2 pages) ↔
      matchingStatus .waiting "pending" = [] ∨ "pending" ≠ "" ∧ (matchingStatus .waiting "pending").length < 2^63) :=
  ⟨rfl,investigations_paged _ _ (by decide) _ (by decide) (by decide)⟩

end Trokk
