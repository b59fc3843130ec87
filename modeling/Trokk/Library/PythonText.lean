import Trokk.Library.Python

-- What json.loads takes of a text, that it reads every document of the grammar, and
-- what str.strip leaves of a text between blanks.
namespace Python
open JsonText (Tree skip skip_front unquote DigitLast)

-- The character that can stand last in a value.
def closer (c : Char) : Bool := c = '"' || c = ']' || c = '}' || c.isAlphanum

-- A reader took something of the text, up to a closer.
def Takes (text tail : List Char) : Prop := ∃ front last, text = front ++ last :: tail ∧ closer last = true

theorem Takes.behind (front : List Char) (takes : Takes text tail) : Takes (front ++ text) tail := by
  obtain ⟨start,last,rfl,closes⟩ := takes
  exact ⟨front ++ start,last,(List.append_assoc _ _ _).symm,closes⟩

theorem Takes.one (closes : closer c = true) (front : List Char) : Takes (front ++ c :: tail) tail := ⟨front,c,rfl,closes⟩

theorem Takes.skipped (takes : Takes (skip text) tail) : Takes text tail := by
  obtain ⟨blanks,same⟩ := skip_front text
  rw [same]
  exact takes.behind blanks

theorem Takes.trans (first : Takes text after) (then' : Takes after tail) : Takes text tail := by
  obtain ⟨front,last,rfl,_⟩ := first
  simpa using then'.behind (front ++ [last])

theorem map_ok {f : A → B} {x : Except Failure A} (mapped : x.map f = .ok b) : ∃ a, x = .ok a ∧ f a = b := by
  cases x with
  | error e => cases mapped
  | ok a => exact ⟨a,rfl,Except.ok.inj mapped⟩

theorem bind_ok {f : A → Except Failure B} {x : Except Failure A} (bound : (x >>= f) = .ok b) : ∃ a, x = .ok a ∧ f a = .ok b := by
  cases x with
  | error e => cases bound
  | ok a => exact ⟨a,rfl,bound⟩

theorem quoted_takes (read : quoted text = .ok (key,tail)) : Takes text tail := by
  unfold quoted at read
  split at read
  · cases read
  · rename_i body
    cases read
    rw [JsonText.stringBody_text body]
    exact .one (by decide) _

theorem word_takes (ends : Takes spelled []) (read : word spelled meaning text = .ok (v,tail)) : Takes text tail := by
  unfold word at read
  split at read
  · rename_i starts
    cases read
    obtain ⟨rest,rfl⟩ := starts
    obtain ⟨front,last,rfl,closes⟩ := ends
    simpa using Takes.one closes front
  · cases read

theorem wholeDigits_text (text : List Char) :
    (wholeDigits text).1 ++ (wholeDigits text).2 = text ∧ ((wholeDigits text).1 ≠ [] → DigitLast (wholeDigits text).1) := by
  unfold wholeDigits
  split
  · exact ⟨rfl,fun _ => ⟨[],'0',rfl,by decide⟩⟩
  · exact ⟨JsonText.takeDigits_text _,JsonText.takeDigits_last⟩

-- A fraction or an exponent, where there is one.
theorem piece_text (text : List Char) {piece : List Char → Option (List Char × List Char)}
    (reads : ∀ taken tail, piece text = some (taken,tail) → text = taken ++ tail ∧ (taken = [] ∨ DigitLast taken)) :
    text = ((piece text).getD ([],text)).1 ++ ((piece text).getD ([],text)).2 ∧
      (((piece text).getD ([],text)).1 = [] ∨ DigitLast ((piece text).getD ([],text)).1) := by
  cases found : piece text with
  | none => exact ⟨rfl,.inl rfl⟩
  | some read => exact reads read.1 read.2 found

theorem number_text (read : number text = some (lexeme,tail)) : text = lexeme ++ tail ∧ DigitLast lexeme := by
  unfold number at read
  dsimp only at read
  split at read
  · cases read
  · rename_i some'
    obtain ⟨same,own⟩ := wholeDigits_text (JsonText.takeMinus text).2
    obtain ⟨fracText,fracEnds⟩ := piece_text (wholeDigits (JsonText.takeMinus text).2).2 fun _ _ => JsonText.fraction_text
    obtain ⟨expText,expEnds⟩ := piece_text ((JsonText.fraction (wholeDigits (JsonText.takeMinus text).2).2).getD
      ([],(wholeDigits (JsonText.takeMinus text).2).2)).2 fun _ _ => JsonText.exponent_text
    cases read
    have digits := own some'
    constructor
    · have whole := JsonText.takeMinus_text text
      rw [← same,fracText,expText] at whole
      refine whole.symm.trans ?_
      simp only [List.append_assoc]
    · rcases expEnds with none | ends
      · rw [none,List.append_nil]
        rcases fracEnds with none | ends
        · rw [none,List.append_nil]
          exact digits.append _
        · exact ends.append _
      · exact ends.append _

theorem numeral_takes (read : numeral text = .ok (v,tail)) : Takes text tail := by
  unfold numeral at read
  split at read
  · cases read
  · rename_i number
    split at read
    · cases read
    · cases read
      obtain ⟨same,front,last,ends,digit⟩ := number_text number
      refine ⟨front,last,by rw [same,ends]; simp,?_⟩
      simp [closer,Char.isAlphanum,digit]

structure ReadersTake (fuel : Nat) : Prop where
  value : ∀ depth text v tail, value fuel depth text = .ok (v,tail) → Takes text tail
  elements : ∀ depth text items tail, elements fuel depth text = .ok (items,tail) → Takes text tail
  members : ∀ depth text pairs tail, members fuel depth text = .ok (pairs,tail) → Takes text tail

theorem value_takes (inner : ReadersTake fuel) (read : value (fuel+1) depth text = .ok (v,tail)) : Takes text tail := by
  cases text with
  | nil => cases read
  | cons c rest =>
    unfold value at read
    rw [ite_eq_iff] at read
    rcases read with ⟨rfl,own⟩ | ⟨_,read⟩
    · obtain ⟨_,body,same⟩ := map_ok own
      cases same
      exact (quoted_takes body).behind ['"']
    rw [ite_eq_iff] at read
    rcases read with ⟨rfl,own⟩ | ⟨_,read⟩
    · refine Takes.behind ['['] (Takes.skipped ?_)
      split at own
      · cases own
      · rename_i closed
        cases own
        rw [closed]
        exact .one (by decide) []
      · obtain ⟨_,items,same⟩ := map_ok own
        cases same
        exact inner.elements _ _ _ _ items
    rw [ite_eq_iff] at read
    rcases read with ⟨rfl,own⟩ | ⟨_,read⟩
    · refine Takes.behind ['{'] (Takes.skipped ?_)
      split at own
      · cases own
      · rename_i closed
        cases own
        rw [closed]
        exact .one (by decide) []
      · obtain ⟨_,pairs,same⟩ := map_ok own
        cases same
        exact inner.members _ _ _ _ pairs
    rw [ite_eq_iff] at read
    rcases read with ⟨-,own⟩ | ⟨_,read⟩
    · exact word_takes ⟨['n','u','l'],'l',rfl,by decide⟩ own
    rw [ite_eq_iff] at read
    rcases read with ⟨-,own⟩ | ⟨_,read⟩
    · exact word_takes ⟨['t','r','u'],'e',rfl,by decide⟩ own
    rw [ite_eq_iff] at read
    rcases read with ⟨-,own⟩ | ⟨_,read⟩
    · exact word_takes ⟨['f','a','l','s'],'e',rfl,by decide⟩ own
    rw [ite_eq_iff] at read
    rcases read with ⟨-,own⟩ | ⟨_,read⟩
    · exact word_takes ⟨['N','a'],'N',rfl,by decide⟩ own
    rw [ite_eq_iff] at read
    rcases read with ⟨-,own⟩ | ⟨_,read⟩
    · exact word_takes ⟨"Infinit".toList,'y',rfl,by decide⟩ own
    rw [ite_eq_iff] at read
    rcases read with ⟨negative,own⟩ | ⟨_,read⟩
    · cases own
      obtain ⟨more,same⟩ := negative
      rw [← same]
      exact .one (by decide) "-Infinit".toList
    · exact numeral_takes read

theorem elements_takes (inner : ReadersTake fuel) (read : elements (fuel+1) depth text = .ok (found,tail)) : Takes text tail := by
  unfold elements at read
  obtain ⟨⟨item,after⟩,first,read⟩ := bind_ok read
  refine (inner.value _ _ _ _ first).trans (Takes.skipped ?_)
  dsimp only at read
  split at read
  · rename_i closed
    cases read
    rw [closed]
    exact .one (by decide) []
  · rename_i more comma
    obtain ⟨_,later,same⟩ := bind_ok read
    cases same
    rw [comma]
    exact (inner.elements _ _ _ _ later).skipped.behind [',']
  · cases read

theorem members_takes (inner : ReadersTake fuel) (read : members (fuel+1) depth text = .ok (found,tail)) : Takes text tail := by
  unfold members at read
  split at read
  · obtain ⟨⟨key,after⟩,name,read⟩ := bind_ok read
    refine ((quoted_takes name).behind ['"']).trans (Takes.skipped ?_)
    dsimp only at read
    split at read
    · rename_i opening colon
      rw [colon]
      refine Takes.behind [':'] (Takes.skipped ?_)
      obtain ⟨⟨item,last⟩,first,read⟩ := bind_ok read
      refine (inner.value _ _ _ _ first).trans (Takes.skipped ?_)
      dsimp only at read
      split at read
      · rename_i closed
        cases read
        rw [closed]
        exact .one (by decide) []
      · rename_i more comma
        obtain ⟨_,later,same⟩ := bind_ok read
        cases same
        rw [comma]
        exact (inner.members _ _ _ _ later).skipped.behind [',']
      · cases read
    · cases read
  · cases read

theorem readers_take (fuel : Nat) : ReadersTake fuel := by
  induction fuel with
  | zero => exact ⟨fun _ _ _ _ read => (by cases read),fun _ _ _ _ read => (by cases read),fun _ _ _ _ read => (by cases read)⟩
  | succ fuel ih =>
    exact ⟨fun _ _ _ _ read => value_takes ih read,fun _ _ _ _ read => elements_takes ih read,fun _ _ _ _ read => members_takes ih read⟩

-- The value of a tree of the grammar: texts unescaped, the last of a repeated member.
mutual
def meaning : Tree → Json
  | .null => .null
  | .bool value => .bool value
  | .num lexeme => .num (spelling lexeme)
  | .str raw => .str (String.ofList (unquote raw))
  | .arr items => .arr (meanings items)
  | .obj members => .obj (dict (memberMeanings members))
def meanings : List Tree → List Json
  | [] => []
  | item :: rest => meaning item :: meanings rest
def memberMeanings : List (List Char × Tree) → List (String × Json)
  | [] => []
  | (key,item) :: rest => (String.ofList (unquote key),meaning item) :: memberMeanings rest
end

-- No more digits than int() takes, in any integer of the tree.
mutual
def short : Tree → Bool
  | .num lexeme => !long lexeme
  | .arr items => allShort items
  | .obj members => membersShort members
  | _ => true
def allShort : List Tree → Bool
  | [] => true
  | item :: rest => short item && allShort rest
def membersShort : List (List Char × Tree) → Bool
  | [] => true
  | (_,item) :: rest => short item && membersShort rest
end

-- How many brackets are open at once.
mutual
def nesting : Tree → Nat
  | .arr items => nestingItems items + 1
  | .obj members => nestingMembers members + 1
  | _ => 0
def nestingItems : List Tree → Nat
  | [] => 0
  | item :: rest => max (nesting item) (nestingItems rest)
def nestingMembers : List (List Char × Tree) → Nat
  | [] => 0
  | (_,item) :: rest => max (nesting item) (nestingMembers rest)
end

-- What stops the scanner first.
mutual
def trouble : Nat → Tree → Option Failure
  | _,.num lexeme => if long lexeme then some .digits else none
  | 0,.arr _ => some .recursion
  | depth+1,.arr items => troubleItems depth items
  | 0,.obj _ => some .recursion
  | depth+1,.obj members => troubleMembers depth members
  | _,_ => none
def troubleItems (depth : Nat) : List Tree → Option Failure
  | [] => none
  | item :: rest => (trouble depth item).or (troubleItems depth rest)
def troubleMembers (depth : Nat) : List (List Char × Tree) → Option Failure
  | [] => none
  | (_,item) :: rest => (trouble depth item).or (troubleMembers depth rest)
end

mutual
theorem trouble_none (depth : Nat) (tree : Tree) : trouble depth tree = none ↔ short tree = true ∧ nesting tree ≤ depth := by
  cases tree with
  | num lexeme => simp [trouble,short,nesting]
  | arr items =>
    cases depth with
    | zero => simp [trouble,nesting]
    | succ depth => simp [trouble,short,nesting,troubleItems_none depth items]
  | obj members =>
    cases depth with
    | zero => simp [trouble,nesting]
    | succ depth => simp [trouble,short,nesting,troubleMembers_none depth members]
  | _ => simp [trouble,short,nesting]
theorem troubleItems_none (depth : Nat) (items : List Tree) :
    troubleItems depth items = none ↔ allShort items = true ∧ nestingItems items ≤ depth := by
  cases items with
  | nil => simp [troubleItems,allShort,nestingItems]
  | cons item rest =>
    rw [troubleItems,Option.or_eq_none_iff,trouble_none depth item,troubleItems_none depth rest,allShort,nestingItems,Bool.and_eq_true,
      Nat.max_le,and_and_and_comm]
theorem troubleMembers_none (depth : Nat) (members : List (List Char × Tree)) :
    troubleMembers depth members = none ↔ membersShort members = true ∧ nestingMembers members ≤ depth := by
  cases members with
  | nil => simp [troubleMembers,membersShort,nestingMembers]
  | cons member rest =>
    rw [troubleMembers,Option.or_eq_none_iff,trouble_none depth member.2,troubleMembers_none depth rest,membersShort,nestingMembers,
      Bool.and_eq_true,Nat.max_le,and_and_and_comm]
end

-- Neither is a JSONDecodeError.
mutual
theorem trouble_fatal (depth : Nat) (tree : Tree) : trouble depth tree ≠ some .decode := by
  cases tree with
  | num lexeme =>
    rw [trouble]
    split <;> nofun
  | arr items =>
    cases depth with
    | zero => nofun
    | succ depth => exact troubleItems_fatal depth items
  | obj members =>
    cases depth with
    | zero => nofun
    | succ depth => exact troubleMembers_fatal depth members
  | _ => nofun
theorem troubleItems_fatal (depth : Nat) (items : List Tree) : troubleItems depth items ≠ some .decode := by
  cases items with
  | nil => nofun
  | cons item rest =>
    rw [troubleItems,Ne,Option.or_eq_some_iff]
    rintro (own | ⟨-,others⟩)
    · exact trouble_fatal depth item own
    · exact troubleItems_fatal depth rest others
theorem troubleMembers_fatal (depth : Nat) (members : List (List Char × Tree)) : troubleMembers depth members ≠ some .decode := by
  cases members with
  | nil => nofun
  | cons member rest =>
    rw [troubleMembers,Ne,Option.or_eq_some_iff]
    rintro (own | ⟨-,others⟩)
    · exact trouble_fatal depth member.2 own
    · exact troubleMembers_fatal depth rest others
end

-- What a reader comes to on a text of the grammar.
def outcome (trouble : Option Failure) (v : A) : Except Failure A := match trouble with
  | none => .ok v
  | some failure => .error failure

theorem outcome_map (trouble : Option Failure) (v : A) (f : A → B) : (outcome trouble v).map f = outcome trouble (f v) := by
  cases trouble <;> rfl

theorem outcome_bind (trouble : Option Failure) (v : A) (f : A → Except Failure B) (more : Option Failure) (w : B)
    (then' : f v = outcome more w) : (outcome trouble v >>= f) = outcome (trouble.or more) w := by
  cases trouble with
  | none => exact then'
  | some failure => rfl

theorem outcome_pure (trouble : Option Failure) (v : A) (f : A → B) : (outcome trouble v >>= fun a => pure (f a)) = outcome trouble (f v) := by
  cases trouble <;> rfl

theorem ok_bind (v : A) (f : A → Except Failure B) : (Except.ok v >>= f) = f v := rfl

theorem quoted_reads (body : JsonText.stringBody text = some (raw,tail)) : quoted text = .ok (String.ofList (unquote raw),tail) := by
  simp [quoted,body]

-- Every number of the grammar is one of Python's.
theorem number_reads (read : JsonText.number text = some (lexeme,tail)) : number text = some (lexeme,tail) := by
  unfold JsonText.number at read
  dsimp only at read
  split at read
  · cases read
  · rename_i proper
    obtain ⟨⟨frac,after⟩,fractional,read⟩ := Option.bind_eq_some_iff.mp read
    obtain ⟨⟨exp,last⟩,exponential,read⟩ := Option.bind_eq_some_iff.mp read
    cases read
    have digits : wholeDigits (JsonText.takeMinus text).2 = JsonText.takeDigits (JsonText.takeMinus text).2 := by
      unfold wholeDigits
      split
      · rename_i rest zero
        rw [zero] at proper ⊢
        cases more : rest.takeWhile Char.isDigit with
        | nil =>
          have none : rest.dropWhile Char.isDigit = rest := by
            have whole := List.takeWhile_append_dropWhile (p := Char.isDigit) (l := rest)
            rwa [more] at whole
          simp [JsonText.takeDigits,more,none]
        | cons d others => simp [JsonText.takeDigits,more] at proper
      · rfl
    have some' : (JsonText.takeDigits (JsonText.takeMinus text).2).1 ≠ [] := fun none => proper (by simp [none])
    simp only [number,digits,if_neg some',fractional,Option.getD_some]
    dsimp only at exponential
    rw [exponential]
    rfl

theorem numeral_reads (depth : Nat) (read : JsonText.number text = some (lexeme,tail)) :
    numeral text = outcome (trouble depth (.num lexeme)) (meaning (.num lexeme),tail) := by
  simp only [numeral,number_reads read,trouble,meaning]
  split <;> rfl

-- A minus sign has a digit behind it.
theorem number_finite (read : JsonText.number text = some (lexeme,tail)) : ¬ "-Infinity".toList <+: text := by
  rintro ⟨rest,rfl⟩
  simp [JsonText.number,JsonText.takeMinus,JsonText.takeDigits] at read

-- A number begins with a minus sign or a digit.
theorem number_front (read : JsonText.number (c :: rest) = some (lexeme,tail)) : c ∉ ['"','[','{','n','t','f','N','I'] := by
  intro among
  have apart : ['"','[','{','n','t','f','N','I'].all (fun d => d ≠ '-' && !d.isDigit) = true := by decide
  obtain ⟨minus,digit⟩ : c ≠ '-' ∧ c.isDigit = false := by simpa using List.all_eq_true.mp apart c among
  have noDigits : JsonText.takeDigits (c :: rest) = ([],c :: rest) := by simp [JsonText.takeDigits,digit]
  simp [JsonText.number,JsonText.takeMinus,minus,noDigits] at read

-- What the readers of the grammar read, these read to its value.
structure ReadersRead (fuel : Nat) : Prop where
  value : ∀ most depth text tree tail, JsonText.value fuel most text = some (tree,tail) →
    value fuel depth text = outcome (trouble depth tree) (meaning tree,tail)
  elements : ∀ most depth text items tail, JsonText.elements fuel most text = some (items,tail) →
    elements fuel depth text = outcome (troubleItems depth items) (meanings items,tail)
  members : ∀ most depth text pairs tail, JsonText.members fuel most text = some (pairs,tail) →
    members fuel depth text = outcome (troubleMembers depth pairs) (memberMeanings pairs,tail)

theorem value_reads (inner : ReadersRead fuel) (depth : Nat) (read : JsonText.ValueRead fuel most text tree tail) :
    value (fuel+1) depth text = outcome (trouble depth tree) (meaning tree,tail) := by
  cases read with
  | str body => cases depth <;> exact congrArg (Except.map _) (quoted_reads body)
  | noItems closed => cases depth <;> simp [value,closed,meaning,meanings,trouble,troubleItems,outcome]
  | arr opens items =>
    cases depth with
    | zero => simp [value,trouble,outcome]
    | succ depth => simp [value,inner.elements _ depth _ _ _ items,outcome_map,trouble,meaning]
  | noMembers closed => cases depth <;> simp [value,closed,meaning,memberMeanings,dict,trouble,troubleMembers,outcome]
  | obj opens pairs =>
    cases depth with
    | zero => simp [value,trouble,outcome]
    | succ depth => simp [value,inner.members _ depth _ _ _ pairs,outcome_map,trouble,meaning]
  | null => rfl
  | true => rfl
  | false => rfl
  | num number =>
    cases text with
    | nil => cases number
    | cons c rest =>
      have others := number_front number
      simp only [List.mem_cons,List.not_mem_nil,or_false,not_or] at others
      obtain ⟨quote,bracket,brace,null,true',false',nan,infinity⟩ := others
      simp only [value,quote,bracket,brace,null,true',false',nan,infinity,number_finite number,if_false]
      exact numeral_reads depth number

theorem elements_reads (inner : ReadersRead fuel) (depth : Nat) (read : JsonText.ElementsRead fuel most text items tail) :
    elements (fuel+1) depth text = outcome (troubleItems depth items) (meanings items,tail) := by
  unfold elements
  cases read with
  | last first closed =>
    rw [inner.value _ depth _ _ _ first]
    refine outcome_bind _ _ _ none _ ?_
    simp [closed,meanings,outcome,pure,Except.pure]
  | more first comma later =>
    rw [inner.value _ depth _ _ _ first]
    refine outcome_bind _ _ _ (troubleItems depth _) _ ?_
    simp only [comma,inner.elements _ depth _ _ _ later]
    exact outcome_pure _ _ _

theorem members_reads (inner : ReadersRead fuel) (depth : Nat) (read : JsonText.MembersRead fuel most text pairs tail) :
    members (fuel+1) depth text = outcome (troubleMembers depth pairs) (memberMeanings pairs,tail) := by
  cases read with
  | last name colon first closed =>
    simp only [members,quoted_reads name,ok_bind,colon]
    rw [inner.value _ depth _ _ _ first]
    refine outcome_bind _ _ _ none _ ?_
    simp [closed,memberMeanings,outcome,pure,Except.pure]
  | more name colon first comma later =>
    simp only [members,quoted_reads name,ok_bind,colon]
    rw [inner.value _ depth _ _ _ first]
    refine outcome_bind _ _ _ (troubleMembers depth _) _ ?_
    simp only [comma,inner.members _ depth _ _ _ later]
    exact outcome_pure _ _ _

theorem readers_read (fuel : Nat) : ReadersRead fuel := by
  induction fuel with
  | zero => exact ⟨fun _ _ _ _ _ read => (by cases read),fun _ _ _ _ _ read => (by cases read),fun _ _ _ _ _ read => (by cases read)⟩
  | succ fuel ih =>
    exact ⟨fun _ depth _ _ _ read => value_reads ih depth (JsonText.value_cases read),
      fun _ depth _ _ _ read => elements_reads ih depth (JsonText.elements_cases read),
      fun _ depth _ _ _ read => members_reads ih depth (JsonText.members_cases read)⟩

-- json.loads reads the documents of the grammar to their value, unless int() refuses
-- one of their integers or they nest too deep.
theorem loads_document (depth : Nat) (document : JsonText.parse most text = some tree) :
    loads depth text = outcome (trouble depth tree) (meaning tree) := by
  obtain ⟨⟨found,tail⟩,read,ended⟩ := Option.bind_eq_some_iff.mp document
  dsimp only at ended
  split at ended
  · rename_i blankTail
    cases ended
    rw [loads,(readers_read _).value _ depth _ _ _ read]
    cases trouble depth tree with
    | some => rfl
    | none => exact if_pos blankTail
  · cases ended

-- The character that can stand first in a value.
def starter (c : Char) : Bool := JsonText.opener c || c = 'N' || c = 'I'

theorem number_start (closed : JsonText.opener c = false) : number (c :: rest) = none := by
  simp only [JsonText.opener,Bool.or_eq_false_iff,decide_eq_false_iff_not] at closed
  have zero : c ≠ '0' := by
    rintro rfl
    exact absurd closed.2 (by decide)
  have noDigits : wholeDigits (c :: rest) = ([],c :: rest) := by
    unfold wholeDigits
    split
    · rename_i same
      exact absurd (List.cons.inj same).1 zero
    · simp [JsonText.takeDigits,closed.2]
  simp [number,JsonText.takeMinus,closed.1.2,noDigits]

theorem value_start (closed : starter c = false) : value (fuel+1) depth (c :: rest) = .error .decode := by
  simp only [starter,Bool.or_eq_false_iff,decide_eq_false_iff_not] at closed
  obtain ⟨⟨opens,nan⟩,infinity⟩ := closed
  have noNumber := @number_start c rest opens
  simp only [JsonText.opener,Bool.or_eq_false_iff,decide_eq_false_iff_not] at opens
  have finite : ¬ "-Infinity".toList <+: c :: rest := by
    rintro ⟨more,same⟩
    exact opens.1.2 (List.cons.inj same).1.symm
  simp only [value,opens,nan,infinity,finite,if_false,numeral,noNumber]

theorem loads_start (closed : starter c = false) (solid : JsonText.blank c = false) : loads depth (c :: rest) = .error .decode := by
  simp only [loads,JsonText.skip_solid solid,value_start closed]
  rfl

theorem blank_space (isBlank : JsonText.blank c = true) : space c = true := by
  simp only [JsonText.blank,Bool.or_eq_true,decide_eq_true_eq] at isBlank
  rcases isBlank with ((rfl | rfl) | rfl) | rfl <;> decide

-- A text that strip leaves alone begins and ends with no space.
theorem strip_ends (solid : strip text = text) : text.dropWhile space = text ∧ text.rdropWhile space = text := by
  have kept : text.length ≤ (text.dropWhile space).length := by
    calc text.length = (strip text).length := by rw [solid]
      _ ≤ (text.dropWhile space).length := (List.rdropWhile_prefix space _).length_le
  have front : text.dropWhile space = text := (List.dropWhile_sublist _).eq_of_length_le kept
  refine ⟨front,?_⟩
  rwa [strip,front] at solid

theorem strip_padded (left : ∀ c ∈ front, space c = true) (right : ∀ c ∈ back, space c = true) (solid : strip text = text) :
    strip (front ++ text ++ back) = text := by
  obtain ⟨starts,ends⟩ := strip_ends solid
  have behind : (text ++ back).rdropWhile space = text := by
    rw [List.rdropWhile,List.reverse_append,List.dropWhile_append_of_pos (by simpa using right)]
    exact ends
  rw [strip,List.append_assoc,List.dropWhile_append_of_pos left]
  cases text with
  | nil => simp [List.dropWhile_eq_nil_iff.mpr right]
  | cons c rest =>
    have own : space c = false := by
      have first := List.dropWhile_eq_self_iff.mp starts (by simp)
      simpa using first
    rwa [List.cons_append,List.dropWhile_cons_of_neg (by simp [own])]

theorem strip_between (first : space a = false) (last : space b = false) (middle : List Char) :
    strip (a :: middle ++ [b]) = a :: middle ++ [b] := by
  rw [strip,List.cons_append,List.dropWhile_cons_of_neg (by simp [first]),← List.cons_append]
  exact List.rdropWhile_concat_neg _ _ _ (by simp [last])

-- What json.loads reads and strip leaves alone begins and ends as a value does.
theorem loads_ends (loaded : loads depth text = .ok v) (solid : strip text = text) :
    (∃ c rest, text = c :: rest ∧ starter c = true) ∧ ∃ front last, text = front ++ [last] ∧ closer last = true := by
  obtain ⟨starts,ends⟩ := strip_ends solid
  obtain ⟨⟨found,tail⟩,read,ended⟩ := bind_ok loaded
  cases text with
  | nil => simp [skip,value] at read
  | cons c rest =>
    have own : space c = false := by
      have first := List.dropWhile_eq_self_iff.mp starts (by simp)
      simpa using first
    have whole : skip (c :: rest) = c :: rest :=
      JsonText.skip_solid (Bool.eq_false_iff.mpr fun isBlank => by simp [blank_space isBlank] at own) rest
    rw [whole] at read
    constructor
    · refine ⟨c,rest,rfl,?_⟩
      by_contra closed
      rw [value_start (by simpa using closed)] at read
      cases read
    · obtain ⟨front,last,same,closes⟩ := (readers_take _).value _ _ _ _ read
      have blankTail : skip tail = [] := by
        by_contra more
        simp [more] at ended
      have none : tail = [] := by
        by_contra some'
        have lastBlank := List.dropWhile_eq_nil_iff.mp blankTail _ (List.getLast_mem some')
        have lastOwn := List.rdropWhile_eq_self_iff.mp ends (by simp)
        simp only [same] at lastOwn
        rw [List.getLast_append_of_ne_nil _ (List.cons_ne_nil _ _),List.getLast_cons some'] at lastOwn
        exact lastOwn (blank_space lastBlank)
      subst none
      exact ⟨front,last,same,closes⟩

theorem dropStart_own (start rest : List Char) : dropStart start (start ++ rest) = rest := by
  simp [dropStart]

theorem dropStart_other (other : ¬ start <+: text) : dropStart start text = text := if_neg other

theorem dropEnd_other (other : ¬ ending <:+ text) : dropEnd ending text = text := if_neg other

theorem dropEnd_own (front ending : List Char) : dropEnd ending (front ++ ending) = front := by
  simp [dropEnd,List.rdrop]

end Python
