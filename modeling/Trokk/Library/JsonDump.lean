import Trokk.Library.Jsonb
import Trokk.Library.PythonText

-- Python's json.dumps, and what jsonb reads of its texts.
namespace Python

mutual
def dumps : Json → List Char
  | .null => ['n','u','l','l']
  | .bool true => ['t','r','u','e']
  | .bool false => ['f','a','l','s','e']
  | .num literal => literal.toList
  | .str text => '"' :: (text.toList.flatMap Jsonb.escape ++ ['"'])
  | .arr items => '[' :: dumpItems [] items
  | .obj members => '{' :: dumpMembers [] members
-- With what parts the next one from those before, up to the closing bracket.
def dumpItems (between : List Char) : List Json → List Char
  | [] => [']']
  | item :: rest => between ++ (dumps item ++ dumpItems [',',' '] rest)
def dumpMembers (between : List Char) : List (String × Json) → List Char
  | [] => ['}']
  | (key,value) :: rest =>
    between ++ ('"' :: (key.toList.flatMap Jsonb.escape ++ '"' :: ':' :: ' ' :: (dumps value ++ dumpMembers [',',' '] rest)))
end

-- What a text of dumps means in the grammar.
mutual
def tree : Json → JsonText.Tree
  | .null => .null
  | .bool b => .bool b
  | .num literal => .num literal.toList
  | .str text => .str (text.toList.flatMap Jsonb.escape)
  | .arr items => .arr (trees items)
  | .obj members => .obj (memberTrees members)
def trees : List Json → List JsonText.Tree
  | [] => []
  | item :: rest => tree item :: trees rest
def memberTrees : List (String × Json) → List (List Char × JsonText.Tree)
  | [] => []
  | (key,value) :: rest => (key.toList.flatMap Jsonb.escape,tree value) :: memberTrees rest
end

-- A number of the grammar, and the three that Python has beyond it.
def finite (literal : String) : Bool := JsonText.number literal.toList = some (literal.toList,[])
def spelled (literal : String) : Bool := finite literal || ["NaN","Infinity","-Infinity"].contains literal

-- What may stand behind a number.
def Ends (text : List Char) : Prop := ∀ c ∈ text.head?, c = ',' ∨ c = ']' ∨ c = '}'

section
open JsonText (takeDigits takeMinus fraction exponent)

theorem ends_other {text : List Char} (ends : Ends text) (other : c ≠ ',' ∧ c ≠ ']' ∧ c ≠ '}') : text.head? ≠ some c := by
  intro head
  rcases ends c head with rfl | rfl | rfl
  · exact other.1 rfl
  · exact other.2.1 rfl
  · exact other.2.2 rfl

theorem takeDigits_append {digits rest : List Char} (all : ∀ c ∈ digits, c.isDigit = true) (ends : ∀ c ∈ rest.head?, c.isDigit = false) :
    takeDigits (digits ++ rest) = (digits,rest) := by
  have stops : rest.takeWhile Char.isDigit = [] ∧ rest.dropWhile Char.isDigit = rest := by
    cases rest with
    | nil => exact ⟨rfl,rfl⟩
    | cons c more => simp [ends c rfl]
  rw [takeDigits,List.takeWhile_append_of_pos all,List.dropWhile_append_of_pos all,stops.1,stops.2,List.append_nil]

theorem takeDigits_all (text : List Char) : ∀ c ∈ (takeDigits text).1, c.isDigit = true := fun _ => List.mem_takeWhile_imp

-- A fraction and an exponent are read again in front of anything that ends them.
theorem fraction_again (read : fraction text = some (frac,more)) (ends : ∀ c ∈ rest.head?, c.isDigit = false ∧ c ≠ '.') :
    fraction (frac ++ rest) = some (frac,rest) ∧ ∀ c ∈ (frac ++ rest).head?, c.isDigit = false := by
  have digitless : ∀ c ∈ rest.head?, c.isDigit = false := fun c head => (ends c head).1
  unfold fraction at read
  split at read
  · rename_i digits
    dsimp only at read
    split at read
    · cases read
    · rename_i some'
      cases read
      refine ⟨?_,fun c head => by cases head; rfl⟩
      rw [List.cons_append,fraction,takeDigits_append (takeDigits_all digits) digitless]
      exact if_neg some'
  · cases read
    refine ⟨?_,digitless⟩
    rw [List.nil_append]
    unfold fraction
    split
    · exact absurd rfl (ends '.' rfl).2
    · rfl

theorem isDigit_other {c d : Char} (digit : c.isDigit = true) (other : d.isDigit = false) : c ≠ d := by
  rintro rfl
  rw [digit] at other
  cases other

theorem exponent_signed {digits rest : List Char} (letter : (e = 'e' || e = 'E') = true) (some' : digits ≠ [])
    (all : ∀ c ∈ digits, c.isDigit = true) (ends : ∀ c ∈ rest.head?, c.isDigit = false)
    (signed : sign = [] ∨ sign = ['+'] ∨ sign = ['-']) :
    exponent (e :: (sign ++ (digits ++ rest))) = some (e :: sign ++ digits,rest) := by
  unfold exponent
  dsimp only
  rw [if_pos letter]
  rcases signed with rfl | rfl | rfl
  · obtain ⟨d,more,rfl⟩ := List.exists_cons_of_ne_nil some'
    have digit := all d List.mem_cons_self
    have unsigned : ¬ (d = '+' || d = '-') = true := by
      simp [isDigit_other digit (by decide : '+'.isDigit = false),isDigit_other digit (by decide : '-'.isDigit = false)]
    simp only [List.nil_append,List.cons_append]
    rw [if_neg unsigned]
    simp only [← List.cons_append,takeDigits_append all ends,if_neg some']
    rfl
  · simp only [List.cons_append,List.nil_append,takeDigits_append all ends,if_neg some',Bool.or_eq_true,decide_eq_true_eq,true_or,if_true]
  · simp only [List.cons_append,List.nil_append,takeDigits_append all ends,if_neg some',Bool.or_eq_true,decide_eq_true_eq,or_true,if_true]

theorem exponent_again (read : exponent text = some (exp,more)) (ends : Ends rest) :
    exponent (exp ++ rest) = some (exp,rest) ∧ ∀ c ∈ (exp ++ rest).head?, c.isDigit = false ∧ c ≠ '.' := by
  have digitless : ∀ c ∈ rest.head?, c.isDigit = false := fun c head => by rcases ends c head with rfl | rfl | rfl <;> rfl
  have bare : exponent rest = some ([],rest) ∧ ∀ c ∈ rest.head?, c.isDigit = false ∧ c ≠ '.' := by
    refine ⟨?_,fun c head => ⟨digitless c head,fun point => ends_other ends (by decide) (point ▸ head)⟩⟩
    cases rest with
    | nil => rfl
    | cons c more => rcases ends c rfl with rfl | rfl | rfl <;> rfl
  have letters {e : Char} (letter : (e = 'e' || e = 'E') = true) : e.isDigit = false ∧ e ≠ '.' := by
    rcases Bool.or_eq_true_iff.mp letter with one | one <;> cases of_decide_eq_true one <;> decide
  cases text with
  | nil =>
    cases read
    exact bare
  | cons e tail =>
    unfold exponent at read
    dsimp only at read
    by_cases letter : (e = 'e' || e = 'E') = true
    · rw [if_pos letter] at read
      have finish (sign digits : List Char) (signed : sign = [] ∨ sign = ['+'] ∨ sign = ['-'])
          (read : (if (takeDigits digits).1 = [] then none else some (e :: sign ++ (takeDigits digits).1,(takeDigits digits).2)) = some (exp,more)) :
          exponent (exp ++ rest) = some (exp,rest) ∧ ∀ c ∈ (exp ++ rest).head?, c.isDigit = false ∧ c ≠ '.' := by
        split at read
        · cases read
        · rename_i some'
          cases read
          refine ⟨?_,fun c same => by cases same; exact letters letter⟩
          simpa using exponent_signed letter some' (takeDigits_all digits) digitless signed
      cases tail with
      | nil => exact finish [] [] (.inl rfl) read
      | cons c others =>
        dsimp only at read
        split at read
        · rename_i sign
          refine finish [c] others (.inr ?_) read
          simpa using sign
        · exact finish [] (c :: others) (.inl rfl) read
    · rw [if_neg letter] at read
      cases read
      exact bare

theorem takeMinus_again (text : List Char) {digits : List Char} (rest : List Char) (some' : digits ≠ [])
    (all : ∀ c ∈ digits, c.isDigit = true) : takeMinus ((takeMinus text).1 ++ (digits ++ rest)) = ((takeMinus text).1,digits ++ rest) := by
  obtain ⟨d,more,rfl⟩ := List.exists_cons_of_ne_nil some'
  have unsigned : takeMinus (d :: more ++ rest) = ([],d :: more ++ rest) :=
    if_neg (isDigit_other (all d List.mem_cons_self) (by decide))
  cases text with
  | nil => exact unsigned
  | cons c tail =>
    by_cases minus : c = '-'
    · simp [takeMinus,minus]
    · simpa [takeMinus,minus] using unsigned

-- A number is read again in front of anything that may stand behind one.
theorem number_again (read : JsonText.number text = some (lexeme,more)) (ends : Ends rest) :
    JsonText.number (lexeme ++ rest) = some (lexeme,rest) := by
  unfold JsonText.number at read
  dsimp only at read
  split at read
  · cases read
  · rename_i proper
    obtain ⟨⟨frac,after⟩,fractional,read⟩ := Option.bind_eq_some_iff.mp read
    obtain ⟨⟨exp,last⟩,exponential,read⟩ := Option.bind_eq_some_iff.mp read
    cases read
    obtain ⟨exp',tailEnds⟩ := exponent_again exponential ends
    obtain ⟨frac',digitless⟩ := fraction_again fractional tailEnds
    have some' : (takeDigits (takeMinus text).2).1 ≠ [] := fun none => proper (by simp [none])
    have all := takeDigits_all (takeMinus text).2
    simp only [List.append_assoc]
    unfold JsonText.number
    dsimp only
    rw [takeMinus_again text _ some' all,takeDigits_append all digitless,if_neg proper]
    simp only [frac',exp',Option.bind_eq_bind,Option.bind_some]
    simp [List.append_assoc]

end

-- A text of dumps begins with something that is neither a blank nor a closing bracket.
theorem opener_solid {c : Char} (opens : JsonText.opener c = true) : JsonText.blank c = false ∧ c ≠ ']' := by
  simp only [JsonText.opener,Bool.or_eq_true,decide_eq_true_eq] at opens
  rcases opens with ((((((rfl | rfl) | rfl) | rfl) | rfl) | rfl) | rfl) | digit
  all_goals first
    | decide
    | skip
  refine ⟨?_,isDigit_other digit (by decide)⟩
  simp only [JsonText.blank,Bool.or_eq_false_iff,decide_eq_false_iff_not]
  exact ⟨⟨⟨isDigit_other digit (by decide),isDigit_other digit (by decide)⟩,isDigit_other digit (by decide)⟩,isDigit_other digit (by decide)⟩

theorem finite_front {literal : String} (isFinite : finite literal = true) :
    ∃ c more, literal.toList = c :: more ∧ JsonText.opener c = true := by
  have read : JsonText.number literal.toList = some (literal.toList,[]) := by simpa [finite] using isFinite
  cases text : literal.toList with
  | nil => rw [text] at read; cases read
  | cons c more =>
    refine ⟨c,more,rfl,?_⟩
    by_contra closed
    rw [text,JsonText.number_start (Bool.eq_false_iff.mpr closed)] at read
    cases read

theorem spelled_cases {literal : String} (isSpelled : spelled literal = true) :
    finite literal = true ∨ (finite literal = false ∧ (literal = "NaN" ∨ literal = "Infinity" ∨ literal = "-Infinity")) := by
  simp only [spelled,Bool.or_eq_true,List.contains_eq_mem,decide_eq_true_eq,List.mem_cons,List.not_mem_nil,or_false] at isSpelled
  rcases isSpelled with isFinite | rfl | rfl | rfl
  · exact .inl isFinite
  all_goals exact .inr ⟨by decide,by simp⟩

theorem dumps_front {v : Json} (isSpelled : v.EveryNumber spelled = true) :
    ∃ c more, dumps v = c :: more ∧ JsonText.blank c = false ∧ c ≠ ']' := by
  cases v with
  | null => exact ⟨_,_,rfl,by decide,by decide⟩
  | bool b => cases b <;> exact ⟨_,_,rfl,by decide,by decide⟩
  | num literal =>
    rcases spelled_cases isSpelled with isFinite | ⟨-,rfl | rfl | rfl⟩
    · obtain ⟨c,more,text,opens⟩ := finite_front isFinite
      exact ⟨c,more,text,opener_solid opens⟩
    all_goals exact ⟨_,_,rfl,by decide,by decide⟩
  | str text => exact ⟨_,_,rfl,by decide,by decide⟩
  | arr items => exact ⟨_,_,rfl,by decide,by decide⟩
  | obj members => exact ⟨_,_,rfl,by decide,by decide⟩

theorem value_num {literal : String} (isSpelled : spelled literal = true) (ends : Ends tail) :
    JsonText.value (fuel+1) depth (literal.toList ++ tail) = bif finite literal then some (.num literal.toList,tail) else none := by
  rcases spelled_cases isSpelled with isFinite | ⟨infinite,other⟩
  · rw [isFinite,cond_true]
    obtain ⟨c,more,text,-⟩ := finite_front isFinite
    have read : JsonText.number (literal.toList ++ tail) = some (literal.toList,tail) :=
      number_again (by simpa [finite] using isFinite) ends
    rw [text] at read ⊢
    rw [List.cons_append] at read ⊢
    have others := number_front read
    simp only [List.mem_cons,List.not_mem_nil,or_false,not_or] at others
    obtain ⟨quote,bracket,brace,null,true',false',-,-⟩ := others
    simp only [JsonText.value,quote,bracket,brace,null,true',false',if_false,read,Option.map_some]
  · rw [infinite,cond_false]
    rcases other with rfl | rfl | rfl
    · exact JsonText.value_start (by decide)
    · exact JsonText.value_start (by decide)
    · rfl

-- The readers of the grammar on what dumps writes.
structure ReadersDump (fuel : Nat) : Prop where
  value : ∀ v depth tail, v.EveryNumber spelled = true → 2 * (dumps v).length ≤ fuel → (dumps v).length ≤ depth → Ends tail →
    JsonText.value fuel depth (dumps v ++ tail) = bif v.EveryNumber finite then some (tree v,tail) else none
  elements : ∀ item rest depth tail, Json.NumberItem spelled (item :: rest) = true →
    2 * (dumpItems [] (item :: rest)).length ≤ fuel → (dumpItems [] (item :: rest)).length ≤ depth →
    JsonText.elements fuel depth (dumpItems [] (item :: rest) ++ tail) =
      bif Json.NumberItem finite (item :: rest) then some (trees (item :: rest),tail) else none
  members : ∀ member rest depth tail, Json.NumberMember spelled (member :: rest) = true →
    2 * (dumpMembers [] (member :: rest)).length ≤ fuel → (dumpMembers [] (member :: rest)).length ≤ depth →
    JsonText.members fuel depth (dumpMembers [] (member :: rest) ++ tail) =
      bif Json.NumberMember finite (member :: rest) then some (memberTrees (member :: rest),tail) else none

theorem skip_dumps {v : Json} (isSpelled : v.EveryNumber spelled = true) (tail : List Char) :
    JsonText.skip (dumps v ++ tail) = dumps v ++ tail := by
  obtain ⟨c,more,text,solid,-⟩ := dumps_front isSpelled
  rw [text]
  exact JsonText.skip_solid solid _

theorem value_dumps (inner : ReadersDump fuel) (v : Json) (isSpelled : v.EveryNumber spelled = true)
    (enough : 2 * (dumps v).length ≤ fuel + 1) (deep : (dumps v).length ≤ depth) (ends : Ends tail) :
    JsonText.value (fuel+1) depth (dumps v ++ tail) = bif v.EveryNumber finite then some (tree v,tail) else none := by
  cases v with
  | null => simp [dumps,tree,JsonText.value,JsonText.literal,Json.EveryNumber]
  | bool b => cases b <;> simp [dumps,tree,JsonText.value,JsonText.literal,Json.EveryNumber]
  | num literal => exact value_num isSpelled ends
  | str text =>
    have body := Jsonb.escaped_quoted text.toList tail
    simp [dumps,tree,JsonText.value,Json.EveryNumber,body]
  | arr items =>
    obtain ⟨depth,rfl⟩ : ∃ less, depth = less + 1 := ⟨depth-1,by simp only [dumps,List.length_cons] at deep; omega⟩
    cases items with
    | nil => simp [dumps,dumpItems,tree,trees,JsonText.value,JsonText.skip_solid,JsonText.blank,Json.EveryNumber,Json.NumberItem]
    | cons item rest =>
      simp only [dumps,List.length_cons] at enough deep
      have read := inner.elements item rest depth tail isSpelled (by omega) (by omega)
      obtain ⟨c,more,text,solid,open'⟩ := dumps_front (Bool.and_eq_true_iff.mp isSpelled).1
      have opened : dumpItems [] (item :: rest) ++ tail = c :: (more ++ (dumpItems [',',' '] rest ++ tail)) := by
        simp [dumpItems,text]
      rw [dumps,List.cons_append]
      rw [opened] at read ⊢
      simp only [JsonText.value,JsonText.skip_solid solid,tree,Json.EveryNumber]
      simp [open',read]
      cases Json.NumberItem finite (item :: rest) <;> rfl
  | obj members =>
    obtain ⟨depth,rfl⟩ : ∃ less, depth = less + 1 := ⟨depth-1,by simp only [dumps,List.length_cons] at deep; omega⟩
    cases members with
    | nil => simp [dumps,dumpMembers,tree,memberTrees,JsonText.value,JsonText.skip_solid,JsonText.blank,Json.EveryNumber,Json.NumberMember]
    | cons member rest =>
      simp only [dumps,List.length_cons] at enough deep
      have read := inner.members member rest depth tail isSpelled (by omega) (by omega)
      obtain ⟨more,text⟩ : ∃ more, dumpMembers [] (member :: rest) ++ tail = '"' :: more := ⟨_,rfl⟩
      rw [dumps,List.cons_append]
      rw [text] at read ⊢
      simp only [JsonText.value,JsonText.skip_solid (by decide : JsonText.blank '"' = false),tree,Json.EveryNumber]
      simp [read]
      cases Json.NumberMember finite (member :: rest) <;> rfl

theorem elements_dumps (inner : ReadersDump fuel) (item : Json) (rest : List Json) (isSpelled : Json.NumberItem spelled (item :: rest) = true)
    (enough : 2 * (dumpItems [] (item :: rest)).length ≤ fuel + 1) (deep : (dumpItems [] (item :: rest)).length ≤ depth) (tail : List Char) :
    JsonText.elements (fuel+1) depth (dumpItems [] (item :: rest) ++ tail) =
      bif Json.NumberItem finite (item :: rest) then some (trees (item :: rest),tail) else none := by
  obtain ⟨own,others⟩ := Bool.and_eq_true_iff.mp isSpelled
  simp only [dumpItems,List.nil_append,List.length_append] at enough deep
  cases rest with
  | nil =>
    have first := inner.value item depth (']' :: tail) own (by simp only [dumpItems,List.length_singleton] at enough; omega) (by omega)
      fun c head => by cases head; exact .inr (.inl rfl)
    have whole : dumpItems [] [item] ++ tail = dumps item ++ ']' :: tail := by simp [dumpItems]
    rw [whole,JsonText.elements,first]
    cases isFinite : item.EveryNumber finite <;>
      simp [Json.NumberItem,isFinite,trees,JsonText.skip_solid (by decide : JsonText.blank ']' = false)]
  | cons next more =>
    simp only [dumpItems,List.length_append,List.length_cons] at enough deep
    have first := inner.value item depth (',' :: ' ' :: (dumpItems [] (next :: more) ++ tail)) own (by omega) (by omega)
      fun c head => by cases head; exact .inl rfl
    have later := inner.elements next more depth tail others (by simp only [dumpItems,List.length_append]; simp; omega)
      (by simp only [dumpItems,List.length_append]; simp; omega)
    have whole : dumpItems [] (item :: next :: more) ++ tail = dumps item ++ ',' :: ' ' :: (dumpItems [] (next :: more) ++ tail) := by
      simp [dumpItems]
    have skipped : JsonText.skip (' ' :: (dumpItems [] (next :: more) ++ tail)) = dumpItems [] (next :: more) ++ tail := by
      have front := skip_dumps (Bool.and_eq_true_iff.mp others).1 (dumpItems [',',' '] more ++ tail)
      simpa [dumpItems,JsonText.skip,JsonText.blank] using front
    rw [whole,JsonText.elements,first]
    cases isFinite : item.EveryNumber finite with
    | false => simp [Json.NumberItem,isFinite]
    | true =>
      simp only [cond_true,Option.bind_eq_bind,Option.bind_some,JsonText.skip_solid (by decide : JsonText.blank ',' = false),skipped,later]
      simp only [Json.NumberItem,isFinite,Bool.true_and,trees]
      cases next.EveryNumber finite && Json.NumberItem finite more <;> rfl

theorem members_dumps (inner : ReadersDump fuel) (member : String × Json) (rest : List (String × Json))
    (isSpelled : Json.NumberMember spelled (member :: rest) = true) (enough : 2 * (dumpMembers [] (member :: rest)).length ≤ fuel + 1)
    (deep : (dumpMembers [] (member :: rest)).length ≤ depth) (tail : List Char) :
    JsonText.members (fuel+1) depth (dumpMembers [] (member :: rest) ++ tail) =
      bif Json.NumberMember finite (member :: rest) then some (memberTrees (member :: rest),tail) else none := by
  obtain ⟨key,item⟩ := member
  obtain ⟨own,others⟩ := Bool.and_eq_true_iff.mp isSpelled
  have colon := JsonText.skip_solid (by decide : JsonText.blank ':' = false)
  have keyed (rest : List Char) := Jsonb.escaped_quoted key.toList rest
  have gap {v : Json} (isSpelled : v.EveryNumber spelled = true) (rest : List Char) :
      JsonText.skip (' ' :: (dumps v ++ rest)) = dumps v ++ rest := by
    simpa [JsonText.skip,JsonText.blank] using skip_dumps isSpelled rest
  simp only [dumpMembers,List.nil_append,List.length_cons,List.length_append] at enough deep
  cases rest with
  | nil =>
    simp only [dumpMembers,List.length_singleton] at enough deep
    have first := inner.value item depth ('}' :: tail) own (by omega) (by omega) fun c head => by cases head; exact .inr (.inr rfl)
    have whole : dumpMembers [] [(key,item)] ++ tail =
        '"' :: (key.toList.flatMap Jsonb.escape ++ '"' :: ':' :: ' ' :: (dumps item ++ '}' :: tail)) := by simp [dumpMembers]
    rw [whole,JsonText.members,keyed]
    simp only [Option.bind_eq_bind,Option.bind_some,colon,gap own,first]
    cases isFinite : item.EveryNumber finite <;>
      simp [Json.NumberMember,isFinite,memberTrees,JsonText.skip_solid (by decide : JsonText.blank '}' = false)]
  | cons next more =>
    simp only [dumpMembers,List.length_append,List.length_cons] at enough deep
    have first := inner.value item depth (',' :: ' ' :: (dumpMembers [] (next :: more) ++ tail)) own (by omega) (by omega)
      fun c head => by cases head; exact .inl rfl
    have later := inner.members next more depth tail others
      (by simp only [dumpMembers,List.nil_append,List.length_append,List.length_cons]; omega)
      (by simp only [dumpMembers,List.nil_append,List.length_append,List.length_cons]; omega)
    have whole : dumpMembers [] ((key,item) :: next :: more) ++ tail =
        '"' :: (key.toList.flatMap Jsonb.escape ++ '"' :: ':' :: ' ' :: (dumps item ++ ',' :: ' ' :: (dumpMembers [] (next :: more) ++ tail))) := by
      simp [dumpMembers]
    have skipped : JsonText.skip (' ' :: (dumpMembers [] (next :: more) ++ tail)) = dumpMembers [] (next :: more) ++ tail := by
      simp [dumpMembers,JsonText.skip,JsonText.blank]
    rw [whole,JsonText.members,keyed]
    simp only [Option.bind_eq_bind,Option.bind_some,colon,gap own,first]
    cases isFinite : item.EveryNumber finite with
    | false => simp [Json.NumberMember,isFinite]
    | true =>
      simp only [cond_true,Option.bind_some,JsonText.skip_solid (by decide : JsonText.blank ',' = false),skipped,later]
      have both : Json.NumberMember finite ((key,item) :: next :: more) = Json.NumberMember finite (next :: more) := by
        rw [Json.NumberMember,isFinite,Bool.true_and]
      rw [both]
      cases Json.NumberMember finite (next :: more) <;> rfl

theorem readers_dump (fuel : Nat) : ReadersDump fuel := by
  induction fuel with
  | zero =>
    refine ⟨fun v depth tail isSpelled enough => ?_,fun item rest depth tail isSpelled enough => ?_,fun member rest depth tail isSpelled enough => ?_⟩
    · obtain ⟨c,more,text,-⟩ := dumps_front isSpelled
      rw [text,List.length_cons] at enough
      omega
    · obtain ⟨c,more,text,-⟩ := dumps_front (Bool.and_eq_true_iff.mp isSpelled).1
      rw [dumpItems,text] at enough
      simp at enough
    · simp [dumpMembers] at enough
  | succ fuel ih =>
    exact ⟨fun v depth tail isSpelled enough deep ends => value_dumps ih v isSpelled enough deep ends,
      fun item rest depth tail isSpelled enough deep => elements_dumps ih item rest isSpelled enough deep tail,
      fun member rest depth tail isSpelled enough deep => members_dumps ih member rest isSpelled enough deep tail⟩

-- The grammar takes what dumps writes unless it names one of the three other numbers.
theorem parse_dumps {v : Json} (isSpelled : v.EveryNumber spelled = true) :
    JsonText.parse ((dumps v).length + 1) (dumps v) = bif v.EveryNumber finite then some (tree v) else none := by
  have read := (readers_dump (2 * (dumps v).length + 1)).value v ((dumps v).length + 1) [] isSpelled (by omega) (by omega) nofun
  have solid := skip_dumps isSpelled []
  rw [List.append_nil] at read solid
  rw [JsonText.parse,solid,read]
  cases v.EveryNumber finite <;> rfl

end Python
