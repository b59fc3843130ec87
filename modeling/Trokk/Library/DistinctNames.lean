import Mathlib.Data.List.Nodup
import Trokk.Library.JsonDump

-- Values whose objects name no member twice: what Python holds, and what jsonb reads
-- again of a dump of it, in its own order.
namespace Python

mutual
def distinct : Json → Bool
  | .arr items => distinctItems items
  | .obj members => decide (members.map Prod.fst).Nodup && distinctMembers members
  | _ => true
def distinctItems : List Json → Bool
  | [] => true
  | item :: rest => distinct item && distinctItems rest
def distinctMembers : List (String × Json) → Bool
  | [] => true
  | (_,value) :: rest => distinct value && distinctMembers rest
end

-- jsonb has no NUL.
def zeroless (text : String) : Bool := !text.toList.contains (Char.ofNat 0)

theorem text_read (text : String) :
    Jsonb.unescape (text.toList.flatMap Jsonb.escape) = bif zeroless text then some text.toList else none := by
  cases zero : zeroless text with
  | true =>
    refine Jsonb.unescape_escaped fun c member isZero => ?_
    obtain rfl : c = Char.ofNat 0 := by rw [← isZero,Char.ofNat_toNat]
    simp [zeroless,member] at zero
  | false => exact Jsonb.unescape_zero ⟨Char.ofNat 0,by simpa [zeroless] using zero,rfl⟩

theorem lastOfEach_distinct {members : List (String × Json)} (names : (members.map Prod.fst).Nodup) :
    Jsonb.lastOfEach members = members := by
  induction members with
  | nil => rfl
  | cons member rest ih =>
    obtain ⟨apart,later⟩ := List.nodup_cons.mp names
    have alone : rest.any (·.1 = member.1) = false := by
      simp only [List.any_eq_false,decide_eq_true_eq]
      exact fun other there same => apart (same ▸ List.mem_map_of_mem there)
    rw [Jsonb.lastOfEach,alone,ih later]
    rfl

mutual
theorem ofTree_tree (v : Json) (named : distinct v = true) : Jsonb.ofTree (tree v) = bif v.EveryText zeroless then some (Jsonb.ordered v) else none := by
  cases v with
  | null => rfl
  | bool b => rfl
  | num literal => simp [tree,Jsonb.ofTree,Jsonb.ordered,Json.EveryText]
  | str text =>
    rw [tree,Jsonb.ofTree,text_read,Json.EveryText]
    cases zeroless text <;> simp [Jsonb.ordered]
  | arr items =>
    rw [tree,Jsonb.ofTree,ofItems_trees items named,Json.EveryText]
    cases Json.EveryItem zeroless items <;> rfl
  | obj members =>
    obtain ⟨names,inner⟩ := Bool.and_eq_true_iff.mp named
    rw [tree,Jsonb.ofTree,ofMembers_trees members inner,Json.EveryText]
    cases Json.EveryMember zeroless members with
    | false => rfl
    | true =>
      have named' := of_decide_eq_true names
      rw [← Jsonb.orderedMembers_names] at named'
      simp [lastOfEach_distinct named',Jsonb.ordered]
theorem ofItems_trees (items : List Json) (named : distinctItems items = true) :
    Jsonb.ofItems (trees items) = bif Json.EveryItem zeroless items then some (Jsonb.orderedItems items) else none := by
  cases items with
  | nil => rfl
  | cons item rest =>
    obtain ⟨own,others⟩ := Bool.and_eq_true_iff.mp named
    rw [trees,Jsonb.ofItems,ofTree_tree item own,ofItems_trees rest others,Json.EveryItem]
    cases item.EveryText zeroless <;> cases Json.EveryItem zeroless rest <;> rfl
theorem ofMembers_trees (members : List (String × Json)) (named : distinctMembers members = true) :
    Jsonb.ofMembers (memberTrees members) = bif Json.EveryMember zeroless members then some (Jsonb.orderedMembers members) else none := by
  cases members with
  | nil => rfl
  | cons member rest =>
    obtain ⟨own,others⟩ := Bool.and_eq_true_iff.mp named
    rw [memberTrees,Jsonb.ofMembers,text_read,ofTree_tree member.2 own,ofMembers_trees rest others,Json.EveryMember]
    cases zeroless member.1 <;> cases member.2.EveryText zeroless <;> cases Json.EveryMember zeroless rest <;>
      simp [Jsonb.orderedMembers]
end

-- What Postgres reads of a dump is the value in its order, or nothing.
theorem read_dumps {v : Json} (named : distinct v = true) (isSpelled : v.EveryNumber spelled = true) :
    Jsonb.read (dumps v) = bif v.EveryNumber finite && v.EveryText zeroless then some (Jsonb.ordered v) else none := by
  rw [Jsonb.read,parse_dumps isSpelled]
  cases v.EveryNumber finite with
  | false => rfl
  | true => exact ofTree_tree v named

-- Python writes a number in its own spelling, whatever it read.
mutual
def respell (spell : String → String) : Json → Json
  | .num literal => .num (spell literal)
  | .arr items => .arr (respellItems spell items)
  | .obj members => .obj (respellMembers spell members)
  | .null => .null
  | .bool b => .bool b
  | .str text => .str text
def respellItems (spell : String → String) : List Json → List Json
  | [] => []
  | item :: rest => respell spell item :: respellItems spell rest
def respellMembers (spell : String → String) : List (String × Json) → List (String × Json)
  | [] => []
  | (key,value) :: rest => (key,respell spell value) :: respellMembers spell rest
end

section
variable (spell : String → String)

theorem respellMembers_names (members : List (String × Json)) : (respellMembers spell members).map Prod.fst = members.map Prod.fst := by
  induction members with
  | nil => rfl
  | cons member rest ih => rw [respellMembers,List.map_cons,ih]; rfl

mutual
theorem respell_distinct (v : Json) : distinct (respell spell v) = distinct v := by
  cases v with
  | arr items => simp only [respell,distinct,respellItems_distinct items]
  | obj members => simp only [respell,distinct,respellMembers_names,respellMembers_distinct members]
  | _ => rfl
theorem respellItems_distinct (items : List Json) : distinctItems (respellItems spell items) = distinctItems items := by
  cases items with
  | nil => rfl
  | cons item rest => simp only [respellItems,distinctItems,respell_distinct item,respellItems_distinct rest]
theorem respellMembers_distinct (members : List (String × Json)) :
    distinctMembers (respellMembers spell members) = distinctMembers members := by
  cases members with
  | nil => rfl
  | cons member rest => simp only [respellMembers,distinctMembers,respell_distinct member.2,respellMembers_distinct rest]
end

mutual
theorem respell_numbers (ok : String → Bool) (v : Json) : (respell spell v).EveryNumber ok = v.EveryNumber (ok ∘ spell) := by
  cases v with
  | arr items => exact respellItems_numbers ok items
  | obj members => exact respellMembers_numbers ok members
  | _ => rfl
theorem respellItems_numbers (ok : String → Bool) (items : List Json) :
    Json.NumberItem ok (respellItems spell items) = Json.NumberItem (ok ∘ spell) items := by
  cases items with
  | nil => rfl
  | cons item rest => simp only [respellItems,Json.NumberItem,respell_numbers ok item,respellItems_numbers ok rest]
theorem respellMembers_numbers (ok : String → Bool) (members : List (String × Json)) :
    Json.NumberMember ok (respellMembers spell members) = Json.NumberMember (ok ∘ spell) members := by
  cases members with
  | nil => rfl
  | cons member rest => simp only [respellMembers,Json.NumberMember,respell_numbers ok member.2,respellMembers_numbers ok rest]
end

mutual
theorem respell_same (v : Json) (same : v.EveryNumber (fun literal => spell literal = literal) = true) : respell spell v = v := by
  cases v with
  | num literal => exact congrArg Json.num (of_decide_eq_true same)
  | arr items => exact congrArg Json.arr (respellItems_same items same)
  | obj members => exact congrArg Json.obj (respellMembers_same members same)
  | _ => rfl
theorem respellItems_same (items : List Json) (same : Json.NumberItem (fun literal => spell literal = literal) items = true) :
    respellItems spell items = items := by
  cases items with
  | nil => rfl
  | cons item rest =>
    obtain ⟨own,others⟩ := Bool.and_eq_true_iff.mp same
    rw [respellItems,respell_same item own,respellItems_same rest others]
theorem respellMembers_same (members : List (String × Json))
    (same : Json.NumberMember (fun literal => spell literal = literal) members = true) : respellMembers spell members = members := by
  cases members with
  | nil => rfl
  | cons member rest =>
    obtain ⟨own,others⟩ := Bool.and_eq_true_iff.mp same
    rw [respellMembers,respell_same member.2 own,respellMembers_same rest others]
end

mutual
theorem every_number (all : ∀ literal, ok literal = true) (v : Json) : v.EveryNumber ok = true := by
  cases v with
  | num literal => exact all literal
  | arr items => exact every_item all items
  | obj members => exact every_member all members
  | _ => rfl
theorem every_item (all : ∀ literal, ok literal = true) (items : List Json) : Json.NumberItem ok items = true := by
  cases items with
  | nil => rfl
  | cons item rest => exact Bool.and_eq_true_iff.mpr ⟨every_number all item,every_item all rest⟩
theorem every_member (all : ∀ literal, ok literal = true) (members : List (String × Json)) : Json.NumberMember ok members = true := by
  cases members with
  | nil => rfl
  | cons member rest => exact Bool.and_eq_true_iff.mpr ⟨every_number all member.2,every_member all rest⟩
end

theorem read_respelled (spells : ∀ literal, spelled (spell literal) = true) {v : Json} (named : distinct v = true) :
    Jsonb.read (dumps (respell spell v)) =
      bif (respell spell v).EveryNumber finite && (respell spell v).EveryText zeroless then
        some (Jsonb.ordered (respell spell v)) else none := by
  refine read_dumps ((respell_distinct spell v).trans named) ?_
  rw [respell_numbers]
  exact every_number spells v

end

-- A dict under a new value.
theorem store_names (key : String) (value : Json) (members : List (String × Json)) :
    (store key value members).map Prod.fst =
      if key ∈ members.map Prod.fst then members.map Prod.fst else members.map Prod.fst ++ [key] := by
  induction members with
  | nil => rfl
  | cons member rest ih =>
    obtain ⟨other,old⟩ := member
    rw [store]
    by_cases same : other = key
    · simp [same]
    · simp only [same,if_false,List.map_cons,ih,List.mem_cons,Ne.symm same,false_or]
      split <;> rfl

theorem store_distinct (key : String) {value : Json} (named : distinct value = true) {members : List (String × Json)}
    (inner : distinctMembers members = true) : distinctMembers (store key value members) = true := by
  induction members with
  | nil => exact Bool.and_eq_true_iff.mpr ⟨named,rfl⟩
  | cons member rest ih =>
    obtain ⟨other,old⟩ := member
    obtain ⟨own,others⟩ := Bool.and_eq_true_iff.mp inner
    rw [store]
    split
    · exact Bool.and_eq_true_iff.mpr ⟨named,others⟩
    · exact Bool.and_eq_true_iff.mpr ⟨own,ih others⟩

theorem store_nodup (key : String) (value : Json) {members : List (String × Json)} (names : (members.map Prod.fst).Nodup) :
    ((store key value members).map Prod.fst).Nodup := by
  rw [store_names]
  split
  · exact names
  · rename_i new
    refine List.nodup_append.mpr ⟨names,List.nodup_singleton _,fun held old other single => ?_⟩
    rw [List.mem_singleton.mp single]
    exact fun same => new (same ▸ old)

theorem stores_distinct {pairs members : List (String × Json)} (inner : distinctMembers pairs = true)
    (held : distinct (.obj members) = true) : distinct (.obj (pairs.foldl (fun members pair => store pair.1 pair.2 members) members)) = true := by
  induction pairs generalizing members with
  | nil => exact held
  | cons pair rest ih =>
    obtain ⟨own,others⟩ := Bool.and_eq_true_iff.mp inner
    obtain ⟨names,values⟩ := Bool.and_eq_true_iff.mp held
    have kept := store_nodup pair.1 pair.2 (of_decide_eq_true names)
    exact ih others (Bool.and_eq_true_iff.mpr ⟨decide_eq_true kept,store_distinct pair.1 own values⟩)

theorem dict_distinct {pairs : List (String × Json)} (inner : distinctMembers pairs = true) : distinct (.obj (dict pairs)) = true :=
  stores_distinct inner rfl

theorem word_means (read : word letters meant text = .ok (v,tail)) : v = meant := by
  unfold word at read
  split at read
  · cases read
    rfl
  · cases read

theorem numeral_num (read : numeral text = .ok (v,tail)) : ∃ literal, v = .num literal := by
  unfold numeral at read
  split at read
  · cases read
  · split at read
    · cases read
    · cases read
      exact ⟨_,rfl⟩

-- What the readers read names no member of an object twice.
structure ReadersName (fuel : Nat) : Prop where
  value : ∀ depth text v tail, value fuel depth text = .ok (v,tail) → distinct v = true
  elements : ∀ depth text items tail, elements fuel depth text = .ok (items,tail) → distinctItems items = true
  members : ∀ depth text pairs tail, members fuel depth text = .ok (pairs,tail) → distinctMembers pairs = true

theorem value_distinct (inner : ReadersName fuel) (read : value (fuel+1) depth text = .ok (v,tail)) : distinct v = true := by
  cases text with
  | nil => cases read
  | cons c rest =>
    unfold value at read
    rw [ite_eq_iff] at read
    rcases read with ⟨-,own⟩ | ⟨-,read⟩
    · obtain ⟨_,-,same⟩ := map_ok own
      cases same
      rfl
    rw [ite_eq_iff] at read
    rcases read with ⟨-,own⟩ | ⟨-,read⟩
    · split at own
      · cases own
      · cases own
        rfl
      · obtain ⟨_,items,same⟩ := map_ok own
        cases same
        exact inner.elements _ _ _ _ items
    rw [ite_eq_iff] at read
    rcases read with ⟨-,own⟩ | ⟨-,read⟩
    · split at own
      · cases own
      · cases own
        rfl
      · obtain ⟨_,pairs,same⟩ := map_ok own
        cases same
        exact dict_distinct (inner.members _ _ _ _ pairs)
    iterate 5
      rw [ite_eq_iff] at read
      rcases read with ⟨-,own⟩ | ⟨-,read⟩
      · rw [word_means own]
        rfl
    rw [ite_eq_iff] at read
    rcases read with ⟨-,own⟩ | ⟨-,read⟩
    · cases own
      rfl
    · obtain ⟨literal,rfl⟩ := numeral_num read
      rfl

theorem elements_distinct (inner : ReadersName fuel) (read : elements (fuel+1) depth text = .ok (items,tail)) : distinctItems items = true := by
  unfold elements at read
  obtain ⟨⟨item,after⟩,first,read⟩ := bind_ok read
  have own := inner.value _ _ _ _ first
  dsimp only at read
  split at read
  · cases read
    exact Bool.and_eq_true_iff.mpr ⟨own,rfl⟩
  · obtain ⟨_,later,same⟩ := bind_ok read
    cases same
    exact Bool.and_eq_true_iff.mpr ⟨own,inner.elements _ _ _ _ later⟩
  · cases read

theorem members_distinct (inner : ReadersName fuel) (read : members (fuel+1) depth text = .ok (pairs,tail)) : distinctMembers pairs = true := by
  unfold members at read
  split at read
  · obtain ⟨⟨key,after⟩,-,read⟩ := bind_ok read
    dsimp only at read
    split at read
    · obtain ⟨⟨item,last⟩,first,read⟩ := bind_ok read
      have own := inner.value _ _ _ _ first
      dsimp only at read
      split at read
      · cases read
        exact Bool.and_eq_true_iff.mpr ⟨own,rfl⟩
      · obtain ⟨_,later,same⟩ := bind_ok read
        cases same
        exact Bool.and_eq_true_iff.mpr ⟨own,inner.members _ _ _ _ later⟩
      · cases read
    · cases read
  · cases read

theorem readers_name (fuel : Nat) : ReadersName fuel := by
  induction fuel with
  | zero => exact ⟨fun _ _ _ _ read => (by cases read),fun _ _ _ _ read => (by cases read),fun _ _ _ _ read => (by cases read)⟩
  | succ fuel ih =>
    exact ⟨fun _ _ _ _ read => value_distinct ih read,fun _ _ _ _ read => elements_distinct ih read,
      fun _ _ _ _ read => members_distinct ih read⟩

theorem lookup_distinct {members : List (String × Json)} (inner : distinctMembers members = true) (found : members.lookup key = some v) :
    distinct v = true := by
  induction members with
  | nil => cases found
  | cons member rest ih =>
    obtain ⟨own,others⟩ := Bool.and_eq_true_iff.mp inner
    rw [List.lookup_cons] at found
    split at found
    · cases found
      exact own
    · exact ih others found

theorem loads_distinct (loaded : loads depth text = .ok v) : distinct v = true := by
  obtain ⟨⟨found,tail⟩,read,ended⟩ := bind_ok loaded
  dsimp only at ended
  split at ended
  · cases ended
    exact (readers_name _).value _ _ _ _ read
  · cases ended

end Python
