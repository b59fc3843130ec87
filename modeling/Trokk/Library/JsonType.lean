import Mathlib.Data.List.Forall2
import Trokk.Library.Json

-- The shapes a typed reader declares for the JSON it is handed. A record may hold
-- members that its type does not name.
inductive JsonType where
  | string
  | oneOf (texts : List String)
  | number
  | boolean
  | nullable (type : JsonType)
  | array (item : JsonType)
  | record (fields : List (String × Bool × JsonType))  -- name, optional, type

namespace Json

-- Of two members of one name a reader keeps the last.
def member (name : String) : List (String × Json) → Option Json
  | [] => none
  | (key,value) :: rest => (member name rest).or (if key = name then some value else none)

def field (name : String) : Json → Option Json
  | .obj members => member name members
  | _ => none

@[simp] theorem member_append (name : String) (members more : List (String × Json)) :
    member name (members ++ more) = (member name more).or (member name members) := by
  induction members with
  | nil => simp [member]
  | cons head rest ih => simp [member,ih,Option.or_assoc]

mutual
def HasType : JsonType → Json → Bool
  | .string,.str _ => true
  | .oneOf texts,.str text => text ∈ texts
  | .number,.num _ => true
  | .boolean,.bool _ => true
  | .nullable type,value => value = .null || HasType type value
  | .array item,.arr items => items.all (HasType item ·)
  | .record fields,.obj members => HasFields fields members
  | _,_ => false
def HasFields : List (String × Bool × JsonType) → List (String × Json) → Bool
  | [],_ => true
  | (name,isOptional,type) :: rest,members =>
      (match member name members with
        | none => isOptional
        | some value => HasType type value) && HasFields rest members
end

theorem array_items {item : JsonType} {items : List Json} :
    HasType (.array item) (.arr items) = true ↔ ∀ value ∈ items, HasType item value = true := by
  simp [HasType]

theorem hasFields_iff {fields : List (String × Bool × JsonType)} {members : List (String × Json)} :
    HasFields fields members = true ↔ ∀ f ∈ fields,
      (member f.1 members = none ∧ f.2.1 = true) ∨ ∃ value, member f.1 members = some value ∧ HasType f.2.2 value = true := by
  induction fields with
  | nil => simp [HasFields]
  | cons head rest ih =>
    obtain ⟨name,isOptional,type⟩ := head
    rw [HasFields,Bool.and_eq_true,ih,List.forall_mem_cons]
    refine and_congr_left fun _ => ?_
    cases member name members <;> simp

theorem hasFields_append (fields more : List (String × Bool × JsonType)) (members : List (String × Json)) :
    HasFields (fields ++ more) members = (HasFields fields members && HasFields more members) := by
  rw [Bool.eq_iff_iff,Bool.and_eq_true]
  simp only [hasFields_iff,List.forall_mem_append]

-- A member under a name that the type does not mention changes nothing.
theorem hasFields_beside {fields : List (String × Bool × JsonType)} {members : List (String × Json)}
    (unnamed : ∀ f ∈ fields, f.1 ≠ name) : HasFields fields (members ++ [(name,value)]) = HasFields fields members := by
  rw [Bool.eq_iff_iff,hasFields_iff,hasFields_iff]
  refine forall₂_congr fun f named => ?_
  rw [member_append,member,member,Option.none_or,if_neg (unnamed f named).symm,Option.none_or]

theorem record_fields {fields : List (String × Bool × JsonType)} {value : Json} :
    HasType (.record fields) value = true ↔ ∃ members, value = .obj members ∧ HasFields fields members = true := by
  cases value <;> simp [HasType]

-- A record's type requires a member that is not there.
theorem field_missing {fields : List (String × Bool × JsonType)} {members : List (String × Json)}
    (required : (name,false,type) ∈ fields) (missing : member name members = none) : HasFields fields members = false := by
  rw [← Bool.not_eq_true,hasFields_iff]
  intro all
  rcases all _ required with ⟨-,impossible⟩ | ⟨value,found,-⟩
  · cases impossible
  · rw [missing] at found
    cases found

section
variable {A B E : Type} {xs : List A} {ys : List B}

theorem mapM_option {f : A → Option B} (mapped : xs.mapM f = some ys) : List.Forall₂ (fun x y => f x = some y) xs ys := by
  induction xs generalizing ys with
  | nil =>
    cases mapped
    exact .nil
  | cons head rest ih =>
    rw [List.mapM_cons] at mapped
    obtain ⟨y,first,later⟩ := Option.bind_eq_some_iff.mp mapped
    obtain ⟨more,others,same⟩ := Option.bind_eq_some_iff.mp later
    cases same
    exact .cons first (ih others)

theorem mapM_except {f : A → Except E B} (mapped : xs.mapM f = .ok ys) : List.Forall₂ (fun x y => f x = .ok y) xs ys := by
  induction xs generalizing ys with
  | nil =>
    cases mapped
    exact .nil
  | cons head rest ih =>
    rw [List.mapM_cons] at mapped
    cases first : f head with
    | error => rw [first] at mapped; cases mapped
    | ok y =>
      cases others : rest.mapM f with
      | error => rw [first,others] at mapped; cases mapped
      | ok more =>
        rw [first,others] at mapped
        cases mapped
        exact .cons first (ih others)

-- What holds of every encoded item, told of the items that were encoded.
theorem forall_told {R : A → B → Prop} {P : B → Prop} {Q : A → Prop} (related : List.Forall₂ R xs ys)
    (told : ∀ x y, R x y → (P y ↔ Q x)) : (∀ y ∈ ys, P y) ↔ ∀ x ∈ xs, Q x := by
  induction related with
  | nil => simp
  | cons first _ ih => rw [List.forall_mem_cons,List.forall_mem_cons,told _ _ first,ih]

end
end Json
