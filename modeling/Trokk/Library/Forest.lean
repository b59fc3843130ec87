import Mathlib.Data.List.Count
import Mathlib.Data.List.Nodup
import Mathlib.Algebra.BigOperators.Group.List.Basic
import Mathlib.Algebra.GroupWithZero.Nat
import Mathlib.Logic.Relation

-- Rows that arrive one by one, each under an earlier one or under none.
namespace Forest
variable {A K : Type} {key : A → K} {parent : A → Option K}

inductive Grown (key : A → K) (parent : A → Option K) : List A → Prop where
  | nil : Grown key parent []
  | snoc {rows : List A} {a : A} : Grown key parent rows → (∀ k ∈ parent a, ∃ b ∈ rows, key b = k) → Grown key parent (rows ++ [a])

structure Under (key : A → K) (parent : A → Option K) (rows : List A) (a b : A) : Prop where
  above : a ∈ rows
  below : b ∈ rows
  parent : parent b = some (key a)

variable {rows : List A}

theorem Under.mono (under : Under key parent rows a b) (more : List A) : Under key parent (rows ++ more) a b :=
  ⟨List.mem_append_left _ under.above,List.mem_append_left _ under.below,under.parent⟩

theorem snoc_distinct (distinct : ((rows ++ [a]).map key).Nodup) : (rows.map key).Nodup ∧ ∀ b ∈ rows, key b ≠ key a := by
  rw [List.map_append,List.nodup_append] at distinct
  exact ⟨distinct.1,fun b member => distinct.2.2 _ (List.mem_map_of_mem member) _ (List.mem_singleton_self _)⟩

theorem Grown.attached (grown : Grown key parent rows) (member : a ∈ rows) : ∀ k ∈ parent a, ∃ b ∈ rows, key b = k := by
  induction grown with
  | nil => cases member
  | snoc _ attached ih =>
    intro k named
    cases List.mem_append.mp member with
    | inl old =>
      obtain ⟨b,there,same⟩ := ih old k named
      exact ⟨b,List.mem_append_left _ there,same⟩
    | inr last =>
      cases List.mem_singleton.mp last
      obtain ⟨b,there,same⟩ := attached k named
      exact ⟨b,List.mem_append_left _ there,same⟩

-- Nothing is under the row that came last.
theorem under_snoc (grown : Grown key parent rows) (attached : ∀ k ∈ parent a, ∃ b ∈ rows, key b = k)
    (distinct : ((rows ++ [a]).map key).Nodup) (under : Under key parent (rows ++ [a]) x y) :
    Under key parent rows x y ∨ (x ∈ rows ∧ y = a) := by
  have above (attached : ∀ k ∈ parent y, ∃ b ∈ rows, key b = k) : x ∈ rows := by
    obtain ⟨b,there,same⟩ := attached _ under.parent
    cases List.inj_on_of_nodup_map distinct (List.mem_append_left _ there) under.above same
    exact there
  cases List.mem_append.mp under.below with
  | inr last =>
    cases List.mem_singleton.mp last
    exact .inr ⟨above attached,rfl⟩
  | inl old => exact .inl ⟨above (grown.attached old),old,under.parent⟩

theorem below_mono (path : Relation.ReflTransGen (Under key parent rows) a b) (more : List A) :
    Relation.ReflTransGen (Under key parent (rows ++ more)) a b :=
  Relation.ReflTransGen.mono (fun _ _ under => under.mono more) _ _ path

-- Every row is below one that is under none.
theorem Grown.rooted (grown : Grown key parent rows) (member : a ∈ rows) :
    ∃ r ∈ rows, parent r = none ∧ Relation.ReflTransGen (Under key parent rows) r a := by
  induction grown generalizing a with
  | nil => cases member
  | @snoc rows last grown attached ih =>
    have earlier (member : a ∈ rows) : ∃ r ∈ rows ++ [last], parent r = none ∧
        Relation.ReflTransGen (Under key parent (rows ++ [last])) r a := by
      obtain ⟨r,there,top,path⟩ := ih member
      exact ⟨r,List.mem_append_left _ there,top,below_mono path _⟩
    cases List.mem_append.mp member with
    | inl old => exact earlier old
    | inr added =>
      rw [List.mem_singleton.mp added] at member ⊢
      cases attaches : parent last with
      | none => exact ⟨last,member,attaches,.refl⟩
      | some k =>
        obtain ⟨b,there,same⟩ := attached k attaches
        obtain ⟨r,present,top,path⟩ := ih there
        refine ⟨r,List.mem_append_left _ present,top,.tail (below_mono path _) ?_⟩
        exact ⟨List.mem_append_left _ there,member,by rw [attaches,same]⟩

-- The rows can be numbered so that what is under another has the higher number.
theorem Grown.ranked (grown : Grown key parent rows) (distinct : (rows.map key).Nodup) :
    ∃ rank : A → Nat, (∀ a ∈ rows, rank a < rows.length) ∧ ∀ a b, Under key parent rows a b → rank a < rank b := by
  classical
  induction grown with
  | nil => exact ⟨fun _ => 0,List.forall_mem_nil _,fun _ _ under => absurd under.above List.not_mem_nil⟩
  | @snoc rows last grown attached ih =>
    obtain ⟨before,fresh⟩ := snoc_distinct distinct
    obtain ⟨rank,bounded,rises⟩ := ih before
    have apart (a : A) (member : a ∈ rows) : a ≠ last := fun same => fresh a member (congrArg key same)
    refine ⟨fun a => if a = last then rows.length else rank a,fun a member => ?_,fun a b under => ?_⟩
    · rw [List.length_append,List.length_singleton]
      dsimp only
      split
      · exact Nat.lt_succ_self _
      · rename_i other
        exact Nat.lt_succ_of_lt (bounded a ((List.mem_append.mp member).resolve_right fun added => other (List.mem_singleton.mp added)))
    · rcases under_snoc grown attached distinct under with old | ⟨above,rfl⟩
      · dsimp only
        rw [if_neg (apart a old.above),if_neg (apart b old.below)]
        exact rises a b old
      · dsimp only
        rw [if_neg (apart a above),if_pos rfl]
        exact bounded a above

theorem Grown.acyclic (grown : Grown key parent rows) (distinct : (rows.map key).Nodup) (a : A) :
    ¬ Relation.TransGen (Under key parent rows) a a := by
  obtain ⟨rank,-,rises⟩ := grown.ranked distinct
  intro cycle
  have rose (b : A) (path : Relation.TransGen (Under key parent rows) a b) : rank a < rank b := by
    induction path with
    | single under => exact rises _ _ under
    | tail _ under ih => exact Nat.lt_trans ih (rises _ _ under)
  exact Nat.lt_irrefl _ (rose a cycle)

-- Two rows above a third are one above the other.
theorem above_chain (distinct : (rows.map key).Nodup) (one : Relation.ReflTransGen (Under key parent rows) x a)
    (two : Relation.ReflTransGen (Under key parent rows) y a) :
    Relation.ReflTransGen (Under key parent rows) x y ∨ Relation.ReflTransGen (Under key parent rows) y x := by
  induction one with
  | refl => exact .inr two
  | @tail b c path under ih =>
    cases two with
    | refl => exact .inl (path.tail under)
    | @tail b' _ path' under' =>
      have same : key b' = key b := Option.some.inj (under'.parent.symm.trans under.parent)
      cases List.inj_on_of_nodup_map distinct under'.above under.above same
      exact ih path'

theorem root_unique (distinct : (rows.map key).Nodup) (one : Relation.ReflTransGen (Under key parent rows) r a)
    (two : Relation.ReflTransGen (Under key parent rows) r' a) (top : parent r = none) (top' : parent r' = none) : r = r' := by
  have only {x y : A} (path : Relation.ReflTransGen (Under key parent rows) x y) (top : parent y = none) : x = y := by
    cases path with
    | refl => rfl
    | tail _ under => cases top.symm.trans under.parent
  cases above_chain distinct one two with
  | inl path => exact only path top'
  | inr path => exact (only path top).symm

theorem counted_cons [DecidableEq K] (first : A) (rest : List A) :
    (rows.map fun a => ((first :: rest).filter (parent · = some (key a))).length).sum =
      (rows.countP fun a => parent first = some (key a)) + (rows.map fun a => (rest.filter (parent · = some (key a))).length).sum := by
  induction rows with
  | nil => rfl
  | cons a rows ih =>
    rw [List.map_cons,List.sum_cons,ih,List.map_cons,List.sum_cons,List.filter_cons,List.countP_cons]
    split
    · rw [List.length_cons]
      omega
    · omega

-- Every row that is under another is counted once, by the row it is under.
theorem under_counted [DecidableEq K] (distinct : (rows.map key).Nodup) (more : List A)
    (attached : ∀ a ∈ more, ∀ k ∈ parent a, ∃ b ∈ rows, key b = k) :
    (rows.map fun a => (more.filter (parent · = some (key a))).length).sum = (more.filter (parent · ≠ none)).length := by
  induction more with
  | nil => simp
  | cons first rest ih =>
    rw [counted_cons,ih fun a member => attached a (List.mem_cons_of_mem _ member),List.filter_cons]
    cases under : parent first with
    | none => simp
    | some k =>
      obtain ⟨b,there,same⟩ := attached first List.mem_cons_self k under
      have once : (rows.map key).count k = 1 := List.count_eq_one_of_mem distinct (List.mem_map.mpr ⟨b,there,same⟩)
      rw [List.count_eq_countP,List.countP_map] at once
      have counts : (rows.countP fun a => some k = some (key a)) = 1 := by
        rw [← once]
        exact List.countP_congr fun a _ => by simpa [Function.comp] using eq_comm
      rw [counts,if_pos (by simp),List.length_cons]
      omega

end Forest
