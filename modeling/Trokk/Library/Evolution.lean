import Mathlib.Data.List.Nodup

-- Tables whose rows are edited in place and added at the end, never removed: the
-- row at an index stays there, changed as R allows.
namespace Evolution
variable {A B : Type} {R : A → A → Prop} {rows rows' rows'' : List A}

def Evolves (R : A → A → Prop) (rows rows' : List A) : Prop :=
  ∀ (n : Nat) a, rows[n]? = some a → ∃ b, rows'[n]? = some b ∧ R a b

theorem evolves_append (refl : ∀ a, R a a) (rows more : List A) : Evolves R rows (rows ++ more) := by
  intro n a found
  obtain ⟨bound,_⟩ := List.getElem?_eq_some_iff.mp found
  exact ⟨a,by rw [List.getElem?_append_left bound]; exact found,refl a⟩

theorem evolves_refl (refl : ∀ a, R a a) (rows : List A) : Evolves R rows rows := fun _ a found => ⟨a,found,refl a⟩

theorem evolves_map {f : A → A} (edits : ∀ a ∈ rows, R a (f a)) : Evolves R rows (rows.map f) := by
  intro n a found
  exact ⟨f a,by rw [List.getElem?_map,found]; rfl,edits a (List.mem_of_getElem? found)⟩

theorem Evolves.trans (trans : ∀ a b c, R a b → R b c → R a c) (one : Evolves R rows rows') (two : Evolves R rows' rows'') :
    Evolves R rows rows'' := by
  intro n a found
  obtain ⟨b,found',first⟩ := one n a found
  obtain ⟨c,found'',second⟩ := two n b found'
  exact ⟨c,found'',trans a b c first second⟩

theorem Evolves.mem (evolves : Evolves R rows rows') (member : a ∈ rows) : ∃ b ∈ rows', R a b := by
  obtain ⟨n,found⟩ := List.mem_iff_getElem?.mp member
  obtain ⟨b,found',related⟩ := evolves n a found
  exact ⟨b,List.mem_of_getElem? found',related⟩

-- A column that no edit changes only grows.
theorem Evolves.column {column : A → B} (same : ∀ a b, R a b → column b = column a) (evolves : Evolves R rows rows') :
    rows.map column <+: rows'.map column := by
  rw [List.prefix_iff_getElem?]
  intro n bound
  rw [List.length_map] at bound
  obtain ⟨b,found,related⟩ := evolves n _ (List.getElem?_eq_getElem bound)
  rw [List.getElem?_map,found,List.getElem_map]
  exact congrArg some (same _ b related)

-- By a key that tells the rows apart, and that no edit changes, a row is found again.
theorem Evolves.again {key : A → B} (same : ∀ a b, R a b → key b = key a) (evolves : Evolves R rows rows')
    (distinct : (rows'.map key).Nodup) (before : a ∈ rows) (after : b ∈ rows') (keys : key b = key a) : R a b := by
  obtain ⟨c,there,related⟩ := evolves.mem before
  cases List.inj_on_of_nodup_map distinct after there (keys.trans (same a c related).symm)
  exact related

end Evolution
