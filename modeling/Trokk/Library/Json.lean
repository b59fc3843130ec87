import Mathlib.Logic.Basic

-- JSON values, without the whitespace and escapes of a concrete text. Numbers
-- keep their literal: neither writer nor reader below computes with them.
inductive Json where
  | null
  | bool (value : Bool)
  | num (literal : String)
  | str (text : String)
  | arr (items : List Json)
  | obj (members : List (String × Json))
  deriving Repr, Inhabited

namespace Json

mutual
def same : Json → Json → Bool
  | .null,.null => true
  | .bool a,.bool b => a == b
  | .num a,.num b => a == b
  | .str a,.str b => a == b
  | .arr a,.arr b => sameItems a b
  | .obj a,.obj b => sameMembers a b
  | _,_ => false
def sameItems : List Json → List Json → Bool
  | [],[] => true
  | a::as,b::bs => same a b && sameItems as bs
  | _,_ => false
def sameMembers : List (String × Json) → List (String × Json) → Bool
  | [],[] => true
  | (k,a)::as,(l,b)::bs => k == l && same a b && sameMembers as bs
  | _,_ => false
end

mutual
theorem same_exact (a b : Json) : same a b = true ↔ a = b := by
  cases a with
  | null => cases b <;> simp [same]
  | bool => cases b <;> simp [same]
  | num => cases b <;> simp [same]
  | str => cases b <;> simp [same]
  | arr items =>
    cases b with
    | arr others => simp [same,sameItems_exact items others]
    | _ => simp [same]
  | obj members =>
    cases b with
    | obj others => simp [same,sameMembers_exact members others]
    | _ => simp [same]
theorem sameItems_exact (a b : List Json) : sameItems a b = true ↔ a = b := by
  cases a with
  | nil => cases b <;> simp [sameItems]
  | cons head rest =>
    cases b with
    | nil => simp [sameItems]
    | cons other others => simp [sameItems,same_exact head other,sameItems_exact rest others]
theorem sameMembers_exact (a b : List (String × Json)) : sameMembers a b = true ↔ a = b := by
  cases a with
  | nil => cases b <;> simp [sameMembers]
  | cons head rest =>
    cases b with
    | nil => simp [sameMembers]
    | cons other others =>
      obtain ⟨key,value⟩ := head
      obtain ⟨otherKey,otherValue⟩ := other
      simp [sameMembers,same_exact value otherValue,sameMembers_exact rest others,and_assoc]
end

-- Every text in the value, member names included.
mutual
def EveryText (ok : String → Bool) : Json → Bool
  | .str text => ok text
  | .arr items => EveryItem ok items
  | .obj members => EveryMember ok members
  | _ => true
def EveryItem (ok : String → Bool) : List Json → Bool
  | [] => true
  | item :: rest => EveryText ok item && EveryItem ok rest
def EveryMember (ok : String → Bool) : List (String × Json) → Bool
  | [] => true
  | (key,value) :: rest => ok key && EveryText ok value && EveryMember ok rest
end

mutual
def EveryNumber (ok : String → Bool) : Json → Bool
  | .num literal => ok literal
  | .arr items => NumberItem ok items
  | .obj members => NumberMember ok members
  | _ => true
def NumberItem (ok : String → Bool) : List Json → Bool
  | [] => true
  | item :: rest => EveryNumber ok item && NumberItem ok rest
def NumberMember (ok : String → Bool) : List (String × Json) → Bool
  | [] => true
  | (_,value) :: rest => EveryNumber ok value && NumberMember ok rest
end

theorem everyMember_all (ok : String → Bool) (members : List (String × Json)) :
    EveryMember ok members = members.all fun m => ok m.1 && m.2.EveryText ok := by
  induction members with
  | nil => rfl
  | cons member rest ih => rw [EveryMember,ih]; rfl

theorem numberMember_all (ok : String → Bool) (members : List (String × Json)) :
    NumberMember ok members = members.all fun m => m.2.EveryNumber ok := by
  induction members with
  | nil => rfl
  | cons member rest ih => rw [NumberMember,ih]; rfl

instance : DecidableEq Json := fun a b => decidable_of_iff _ (same_exact a b)

end Json
