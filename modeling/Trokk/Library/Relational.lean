import Mathlib.Algebra.GroupWithZero.Nat
import Mathlib.Data.List.Count
import Mathlib.Data.List.Dedup
import Mathlib.Data.List.Nodup
import Mathlib.Order.Defs.PartialOrder

-- The fragment of relational algebra behind counted joins. Tables are lists, so
-- a row may repeat; keys are nullable and NULL matches nothing in a join.
namespace Relational
variable {A K : Type} [DecidableEq K]

def leftJoin (on : A → Bool) (right : List A) : List (Option A) :=
  match right.filter on with
  | [] => [none]
  | hits => hits.map some

theorem leftJoin_nonempty (on : A → Bool) (right : List A) : ∃ joined, joined ∈ leftJoin on right := by
  unfold leftJoin
  split
  · exact ⟨none,List.mem_singleton_self _⟩
  · rename_i nonempty
    obtain ⟨hit,member⟩ := List.exists_mem_of_ne_nil _ nonempty
    exact ⟨some hit,List.mem_map_of_mem member⟩

-- SELECT key, COUNT(*) ... GROUP BY key. Rows with a NULL key form one group.
def groupCount (keys : List (Option K)) : List (Option K × Nat) :=
  keys.dedup.map fun key => (key,keys.count key)

def coalesce (joined : Option (Option K × Nat)) : Nat := (joined.map Prod.snd).getD 0

theorem filter_group (keys : List (Option K)) (key : Option K) :
    (groupCount keys).filter (fun group => group.1 = key) =
      if key ∈ keys then [(key,keys.count key)] else [] := by
  unfold groupCount
  rw [List.filter_map]
  have alone : keys.dedup.filter ((fun group : Option K × Nat => decide (group.1 = key)) ∘
      fun k => (k,keys.count k)) = if key ∈ keys then [key] else [] := by
    change keys.dedup.filter (fun k => decide (k = key)) = _
    rw [List.filter_eq]
    split
    · rw [List.count_eq_one_of_mem (List.nodup_dedup keys) (List.mem_dedup.mpr ‹_›)]
      rfl
    · rw [List.count_eq_zero_of_not_mem (by simpa using ‹_›)]
      rfl
  rw [alone]
  split <;> rfl

-- A left join with a grouped count neither drops nor repeats the left row.
theorem leftJoin_count (keys : List (Option K)) (key : K) :
    ∃ joined, leftJoin (fun group => group.1 = some key) (groupCount keys) = [joined] ∧
      coalesce joined = keys.count (some key) := by
  unfold leftJoin
  rw [filter_group]
  split
  · rename_i empty
    have absent : some key ∉ keys := by
      intro present
      simp [present] at empty
    exact ⟨none,rfl,by simp [coalesce,List.count_eq_zero_of_not_mem absent]⟩
  · rename_i hits _
    by_cases present : some key ∈ keys
    · exact ⟨some (some key,keys.count (some key)),by simp [present],rfl⟩
    · simp_all

theorem count_key (rows : List A) (f : A → K) (key : K) :
    (rows.map fun r => some (f r)).count (some key) = rows.countP fun r => f r = key := by
  rw [List.count_eq_countP,List.countP_map]
  refine List.countP_congr fun r _ => ?_
  simp

-- A table that holds at most one row for each owner, counted by its owners.
theorem countP_owners {O : Type} [DecidableEq A] {rows : List A} {owners : List O} {p : A → Bool} {link : O → A}
    (distinct : rows.Nodup) (links : (owners.map link).Nodup) (counted : ∀ o, p (link o))
    (owned : ∀ r ∈ rows, p r → ∃ o ∈ owners, link o = r) :
    rows.countP p = owners.countP fun o => link o ∈ rows := by
  have same : (rows.filter p).Perm ((owners.map link).filter (· ∈ rows)) := by
    rw [List.perm_ext_iff_of_nodup (distinct.filter _) (links.filter _)]
    intro r
    simp only [List.mem_filter,List.mem_map,decide_eq_true_eq]
    constructor
    · intro both
      exact ⟨owned r both.1 both.2,both.1⟩
    · intro both
      obtain ⟨⟨o,_,rfl⟩,member⟩ := both
      exact ⟨member,counted o⟩
  rw [List.countP_eq_length_filter,same.length_eq,← List.countP_eq_length_filter,List.countP_map]
  rfl

-- Counting the pairs of a relation by their left rows or by their right rows
-- gives the same number.
theorem counts_swap {B : Type} (on : A → B → Bool) (left : List A) (right : List B) :
    (left.map fun a => right.countP (on a)).sum = (right.map fun b => left.countP fun a => on a b).sum := by
  induction left with
  | nil => simp
  | cons a rest ih =>
    have spread : ∀ right : List B, (right.map fun b => (a :: rest).countP fun a => on a b).sum =
        right.countP (on a) + (right.map fun b => rest.countP fun a => on a b).sum := by
      intro right
      induction right with
      | nil => simp
      | cons b others both =>
        rw [List.map_cons,List.sum_cons,both,List.countP_cons,List.countP_cons,List.map_cons,List.sum_cons]
        omega
    rw [List.map_cons,List.sum_cons,ih,spread]

-- Rows that belong to exactly one owner each, counted owner by owner.
theorem sum_counts_owners {O : Type} {owners : List O} {key : O → K} {rows : List A} {f : A → K}
    (distinct : (owners.map key).Nodup) (owned : ∀ r ∈ rows, ∃ o ∈ owners, key o = f r) :
    (owners.map fun o => rows.countP fun r => f r = key o).sum = rows.length := by
  rw [counts_swap fun o r => decide (f r = key o)]
  have once : ∀ r ∈ rows, (owners.countP fun o => decide (f r = key o)) = 1 := by
    intro r member
    obtain ⟨o,present,same⟩ := owned r member
    have listed : f r ∈ owners.map key := same ▸ List.mem_map_of_mem present
    rw [← List.count_eq_one_of_mem distinct listed,List.count_eq_countP,List.countP_map]
    refine List.countP_congr fun o _ => ?_
    simp only [decide_eq_true_eq,Function.comp_apply,beq_iff_eq]
    exact eq_comm
  rw [List.map_congr_left once]
  simp

-- WHERE key = target
section
variable {rows : List A} {key : A → K} {row : A} {target : K}

theorem find_own (found : rows.find? (key · = target) = some row) : row ∈ rows ∧ key row = target :=
  ⟨List.mem_of_find?_eq_some found,by simpa using List.find?_some found⟩

theorem find_present (present : row ∈ rows) (own : key row = target) :
    ∃ other ∈ rows, rows.find? (key · = target) = some other ∧ key other = target := by
  cases found : rows.find? (key · = target) with
  | none => exact absurd own (by simpa using List.find?_eq_none.mp found row present)
  | some other => exact ⟨other,(find_own found).1,rfl,(find_own found).2⟩

-- A key finds its own row, and selects no other.
theorem find_row (distinct : (rows.map key).Nodup) (present : row ∈ rows) : rows.find? (key · = key row) = some row := by
  have own : key row = key row := rfl
  obtain ⟨other,there,found,same⟩ := find_present present own
  rw [found,List.inj_on_of_nodup_map distinct there present same]

theorem filter_row (distinct : (rows.map key).Nodup) (present : row ∈ rows) : rows.filter (key · = key row) = [row] := by
  induction rows with
  | nil => cases present
  | cons head rest ih =>
    obtain ⟨apart,others⟩ := List.nodup_cons.mp distinct
    rcases List.mem_cons.mp present with rfl | inRest
    · rw [List.filter_cons_of_pos (by simp),List.filter_eq_nil_iff.mpr]
      intro other there same
      exact apart (of_decide_eq_true same ▸ List.mem_map_of_mem there)
    · rw [List.filter_cons_of_neg,ih others inRest]
      intro same
      exact apart (of_decide_eq_true same ▸ List.mem_map_of_mem inRest)

end

-- FROM left JOIN right ON ...
def innerJoin {B : Type} (on : A → B → Bool) (left : List A) (right : List B) : List (A × B) :=
  left.flatMap fun a => (right.filter (on a)).map fun b => (a,b)

theorem length_innerJoin {B : Type} {on : A → B → Bool} {left : List A} {right : List B}
    (one : ∀ a ∈ left, right.countP (on a) = 1) : (innerJoin on left right).length = left.length := by
  unfold innerJoin
  rw [List.length_flatMap]
  have each : ∀ a ∈ left, ((right.filter (on a)).map fun b => (a,b)).length = 1 := by
    intro a member
    rw [List.length_map,← List.countP_eq_length_filter]
    exact one a member
  rw [List.map_congr_left each]
  simp

-- The joined rows whose right part counts, read off the right table: each such
-- right row once for every left row that refers to it.
theorem countP_innerJoin {B : Type} (on : A → B → Bool) (left : List A) (right : List B) (p : B → Bool) :
    (innerJoin on left right).countP (fun pair => p pair.2) =
      ((right.filter p).map fun b => left.countP fun a => on a b).sum := by
  rw [← counts_swap on left (right.filter p)]
  unfold innerJoin
  rw [List.countP_flatMap]
  congr 1
  refine List.map_congr_left fun a _ => ?_
  simp only [Function.comp_apply]
  rw [List.countP_map,List.countP_filter,List.countP_filter]
  refine List.countP_congr fun b _ => ?_
  simp [and_comm]

-- An UPDATE that makes no new row count.
theorem update_counts_le {rows : List A} {p : A → Bool} {f : A → A} (back : ∀ x ∈ rows, p (f x) → p x) :
    (rows.map f).countP p ≤ rows.countP p := by
  rw [List.countP_map]
  exact List.countP_mono_left back

theorem update_counts_fewer {rows : List A} {p : A → Bool} {f : A → A} (back : ∀ x ∈ rows, p (f x) → p x)
    (present : x ∈ rows) (before : p x) (after : p (f x) = false) : (rows.map f).countP p < rows.countP p := by
  induction rows with
  | nil => cases present
  | cons y rest ih =>
    have backRest : ∀ x ∈ rest, p (f x) → p x := fun z there => back z (List.mem_cons_of_mem _ there)
    have le := update_counts_le backRest
    rw [List.map_cons,List.countP_cons,List.countP_cons]
    rcases List.mem_cons.mp present with rfl | there
    · rw [if_neg (by simp [after]),if_pos before]
      omega
    · have lt := ih backRest there
      by_cases counted : p (f y) = true
      · rw [if_pos counted,if_pos (back y List.mem_cons_self counted)]
        omega
      · rw [if_neg counted]
        omega

-- ORDER BY key. Rows of one key come in any order.
structure OrderBy {O : Type} [LE O] (key : A → O) (rows answer : List A) : Prop where
  perm : answer.Perm rows
  sorted : answer.Pairwise fun a b => key a ≤ key b

-- One order alone is possible of rows that share their key when there is one row.
theorem orderBy_fixed {O I : Type} [Preorder O] {key : A → O} {id : A → I} {rows : List A} {at' : O} (same : ∀ a ∈ rows, key a = at')
    (distinct : (rows.map id).Nodup) : (∀ answer, OrderBy key rows answer → answer.map id = rows.map id) ↔ rows.length ≤ 1 := by
  constructor
  · intro fixed
    have backwards : OrderBy key rows rows.reverse := by
      refine ⟨rows.reverse_perm,List.pairwise_of_forall_mem_list fun a left b right => ?_⟩
      rw [same a (List.mem_reverse.mp left),same b (List.mem_reverse.mp right)]
    have palindrome := fixed _ backwards
    match rows,distinct,palindrome with
    | [],_,_ => exact Nat.zero_le 1
    | [_],_,_ => exact Nat.le_refl 1
    | first :: second :: rest,distinct,palindrome =>
      rw [List.map_reverse,List.map_cons] at palindrome
      have last := congrArg List.getLast? palindrome
      rw [List.getLast?_reverse,List.head?_cons,List.map_cons,List.getLast?_cons_cons] at last
      exact absurd (List.mem_of_getLast? last.symm) (List.nodup_cons.mp distinct).1
  · intro short answer ordered
    match rows,short,ordered.perm with
    | [],_,perm => rw [List.perm_nil.mp perm]
    | [row],_,perm => rw [List.perm_singleton.mp perm]

-- LIMIT and OFFSET
def window (limit offset : Nat) (rows : List A) : List A := (rows.drop offset).take limit

-- Windows of one size that follow each other make up the front of the rows.
theorem windows_tile (limit count : Nat) (rows : List A) :
    (List.range count).flatMap (fun page => window limit (page * limit) rows) = rows.take (count * limit) := by
  induction count with
  | zero => simp
  | succ count ih =>
    rw [List.range_succ,List.flatMap_append,ih,List.flatMap_singleton,window,Nat.succ_mul,List.take_add]

end Relational
