import Mathlib.Data.List.Basic
import Mathlib.Data.List.TakeWhile

-- The RFC 8259 grammar as a recursive-descent reader. Strings and numbers keep
-- their source text, because readers of one grammar disagree about what a lone
-- surrogate, a repeated member or a large number means.
namespace JsonText

inductive Tree where
  | null
  | bool (value : Bool)
  | num (lexeme : List Char)
  | str (raw : List Char)
  | arr (items : List Tree)
  | obj (members : List (List Char × Tree))
  deriving Repr, Inhabited

def blank (c : Char) : Bool := c = ' ' || c = '\t' || c = '\n' || c = '\r'
def skip (text : List Char) : List Char := text.dropWhile blank

def hexValue (c : Char) : Option Nat :=
  if '0' ≤ c ∧ c ≤ '9' then some (c.toNat - '0'.toNat)
  else if 'a' ≤ c ∧ c ≤ 'f' then some (c.toNat - 'a'.toNat + 10)
  else if 'A' ≤ c ∧ c ≤ 'F' then some (c.toNat - 'A'.toNat + 10)
  else none

def simpleEscape (c : Char) : Option Char :=
  if c = '"' then some '"' else if c = '\\' then some '\\' else if c = '/' then some '/'
  else if c = 'b' then some '\x08' else if c = 'f' then some '\x0c' else if c = 'n' then some '\n'
  else if c = 'r' then some '\r' else if c = 't' then some '\t' else none

-- The text up to the closing quote, and what follows it.
def stringBody : List Char → Option (List Char × List Char)
  | [] => none
  | '\\' :: 'u' :: h1 :: h2 :: h3 :: h4 :: rest =>
    if (hexValue h1).isSome && (hexValue h2).isSome && (hexValue h3).isSome && (hexValue h4).isSome then
      (stringBody rest).map fun (raw,tail) => ('\\' :: 'u' :: h1 :: h2 :: h3 :: h4 :: raw,tail)
    else none
  | '\\' :: c :: rest =>
    if (simpleEscape c).isSome then (stringBody rest).map fun (raw,tail) => ('\\' :: c :: raw,tail) else none
  | c :: rest =>
    if c = '"' then some ([],rest)
    else if c = '\\' || c < ' ' then none
    else (stringBody rest).map fun (raw,tail) => (c::raw,tail)

def hexQuad (h1 h2 h3 h4 : Char) : Nat :=
  (((hexValue h1).getD 0 * 16 + (hexValue h2).getD 0) * 16 + (hexValue h3).getD 0) * 16 + (hexValue h4).getD 0

-- Surrogate pairs join; a lone surrogate becomes U+FFFD.
def unquote : List Char → List Char
  | [] => []
  | '\\' :: 'u' :: h1 :: h2 :: h3 :: h4 :: '\\' :: 'u' :: l1 :: l2 :: l3 :: l4 :: rest =>
    let high := hexQuad h1 h2 h3 h4
    let low := hexQuad l1 l2 l3 l4
    if 0xD800 ≤ high ∧ high < 0xDC00 ∧ 0xDC00 ≤ low ∧ low < 0xE000 then
      Char.ofNat ((high - 0xD800) * 0x400 + (low - 0xDC00) + 0x10000) :: unquote rest
    else if 0xD800 ≤ high ∧ high < 0xE000 then '\uFFFD' :: unquote ('\\' :: 'u' :: l1 :: l2 :: l3 :: l4 :: rest)
    else Char.ofNat high :: unquote ('\\' :: 'u' :: l1 :: l2 :: l3 :: l4 :: rest)
  | '\\' :: 'u' :: h1 :: h2 :: h3 :: h4 :: rest =>
    let unit := hexQuad h1 h2 h3 h4
    (if 0xD800 ≤ unit ∧ unit < 0xE000 then '\uFFFD' else Char.ofNat unit) :: unquote rest
  | '\\' :: c :: rest => (simpleEscape c).getD c :: unquote rest
  | c :: rest => c :: unquote rest

def takeDigits (text : List Char) : List Char × List Char :=
  (text.takeWhile Char.isDigit,text.dropWhile Char.isDigit)

def takeMinus : List Char → List Char × List Char
  | [] => ([],[])
  | c :: rest => if c = '-' then ([c],rest) else ([],c :: rest)

def fraction (text : List Char) : Option (List Char × List Char) :=
  match text with
  | '.' :: rest =>
    let (digits,tail) := takeDigits rest
    if digits = [] then none else some ('.' :: digits,tail)
  | _ => some ([],text)

def exponent (text : List Char) : Option (List Char × List Char) :=
  match text with
  | e :: rest =>
    if e = 'e' || e = 'E' then
      let (sign,rest) := match rest with
        | s :: tail => if s = '+' || s = '-' then ([s],tail) else ([],rest)
        | [] => ([],rest)
      let (digits,tail) := takeDigits rest
      if digits = [] then none else some (e :: sign ++ digits,tail)
    else some ([],text)
  | [] => some ([],text)

def number (text : List Char) : Option (List Char × List Char) := do
  let (sign,text) := takeMinus text
  let (digits,text) := takeDigits text
  -- A leading zero stands alone.
  if digits = [] || digits.head? = some '0' && digits.length ≠ 1 then none
  let (frac,text) ← fraction text
  let (exp,text) ← exponent text
  return (sign ++ digits ++ frac ++ exp,text)

def literal (word : List Char) (meaning : Tree) (text : List Char) : Option (Tree × List Char) :=
  if word <+: text then some (meaning,text.drop word.length) else none

-- `depth` counts the brackets that may still be opened; `fuel` bounds the
-- recursion and twice the length of the text is always enough.
mutual
def value : Nat → Nat → List Char → Option (Tree × List Char)
  | 0,_,_ => none
  | _,_,[] => none
  | fuel+1,depth,c :: rest =>
    if c = '"' then (stringBody rest).map fun (raw,tail) => (.str raw,tail)
    else if c = '[' then
      match depth,skip rest with
      | 0,_ => none
      | _+1,']' :: tail => some (.arr [],tail)
      | depth+1,text => (elements fuel depth text).map fun (items,tail) => (.arr items,tail)
    else if c = '{' then
      match depth,skip rest with
      | 0,_ => none
      | _+1,'}' :: tail => some (.obj [],tail)
      | depth+1,text => (members fuel depth text).map fun (pairs,tail) => (.obj pairs,tail)
    else if c = 'n' then literal ['n','u','l','l'] .null (c :: rest)
    else if c = 't' then literal ['t','r','u','e'] (.bool true) (c :: rest)
    else if c = 'f' then literal ['f','a','l','s','e'] (.bool false) (c :: rest)
    else (number (c :: rest)).map fun (lexeme,tail) => (.num lexeme,tail)
def elements : Nat → Nat → List Char → Option (List Tree × List Char)
  | 0,_,_ => none
  | fuel+1,depth,text => do
    let (item,text) ← value fuel depth text
    match skip text with
    | ']' :: tail => return ([item],tail)
    | ',' :: more => do
      let (items,tail) ← elements fuel depth (skip more)
      return (item :: items,tail)
    | _ => none
def members : Nat → Nat → List Char → Option (List (List Char × Tree) × List Char)
  | 0,_,_ => none
  | fuel+1,depth,text =>
    match text with
    | '"' :: rest => do
      let (key,text) ← stringBody rest
      match skip text with
      | ':' :: rest => do
        let (item,text) ← value fuel depth (skip rest)
        match skip text with
        | '}' :: tail => return ([(key,item)],tail)
        | ',' :: more => do
          let (pairs,tail) ← members fuel depth (skip more)
          return ((key,item) :: pairs,tail)
        | _ => none
      | _ => none
    | _ => none
end

def parse (maxDepth : Nat) (text : List Char) : Option Tree := do
  let (tree,tail) ← value (2 * text.length + 1) maxDepth (skip text)
  if skip tail = [] then some tree else none

-- A text can only begin with one of these.
def opener (c : Char) : Bool :=
  c = '"' || c = '[' || c = '{' || c = 'n' || c = 't' || c = 'f' || c = '-' || c.isDigit

theorem number_start (closed : opener c = false) : number (c :: rest) = none := by
  simp only [opener,Bool.or_eq_false_iff,decide_eq_false_iff_not] at closed
  have noDigits : takeDigits (c :: rest) = ([],c :: rest) := by
    simp [takeDigits,closed.2]
  simp [number,takeMinus,closed.1.2,noDigits]

theorem value_start (closed : opener c = false) : value fuel depth (c :: rest) = none := by
  cases fuel with
  | zero => simp [value]
  | succ fuel =>
    have started := @number_start c rest closed
    simp only [opener,Bool.or_eq_false_iff,decide_eq_false_iff_not] at closed
    simp [value,closed,started]

theorem parse_start (closed : opener c = false) (solid : blank c = false) :
    parse maxDepth (c :: rest) = none := by
  have skipped : skip (c :: rest) = c :: rest := by simp [skip,solid]
  simp [parse,skipped,value_start closed]

-- A character that stands for itself between quotes.
def selfSame (c : Char) : Bool := c ≠ '"' && c ≠ '\\' && !(c < ' ')

theorem stringBody_self (own : selfSame c = true) (rest : List Char) :
    stringBody (c :: rest) = (stringBody rest).map fun (raw,tail) => (c :: raw,tail) := by
  simp only [selfSame,Bool.and_eq_true,decide_eq_true_eq,Bool.not_eq_true',decide_eq_false_iff_not] at own
  rw [stringBody.eq_def]
  split
  · contradiction
  · simp_all
  · simp_all
  · rename_i same
    cases same
    rw [if_neg own.1.1,if_neg (by simp [own])]

theorem stringBody_plain {raw : List Char} (itself : ∀ c ∈ raw, selfSame c = true) (tail : List Char) :
    stringBody (raw ++ '"' :: tail) = some (raw,tail) := by
  induction raw with
  | nil => simp [stringBody]
  | cons c rest ih =>
    rw [List.cons_append,stringBody_self (itself c List.mem_cons_self),ih fun d member => itself d (List.mem_cons_of_mem _ member)]
    rfl

theorem unquote_plain {raw : List Char} (itself : ∀ c ∈ raw, selfSame c = true) : unquote raw = raw := by
  induction raw with
  | nil => rfl
  | cons c rest ih =>
    have own := itself c List.mem_cons_self
    simp only [selfSame,Bool.and_eq_true,decide_eq_true_eq,Bool.not_eq_true',decide_eq_false_iff_not] at own
    rw [unquote.eq_def]
    split
    · contradiction
    · simp_all
    · simp_all
    · simp_all
    · rename_i same
      cases same
      rw [ih fun d member => itself d (List.mem_cons_of_mem _ member)]

-- An object all of whose members are texts that need no escape, written without blanks.
def textMembers : List (List Char × List Char) → List Char
  | [] => []
  | [(key,text)] => '"' :: (key ++ '"' :: ':' :: '"' :: (text ++ ['"']))
  | (key,text) :: rest => '"' :: (key ++ '"' :: ':' :: '"' :: (text ++ '"' :: ',' :: textMembers rest))

def SelfSame (pairs : List (List Char × List Char)) : Prop :=
  ∀ p ∈ pairs, (∀ c ∈ p.1, selfSame c = true) ∧ ∀ c ∈ p.2, selfSame c = true

theorem value_text {raw : List Char} (itself : ∀ c ∈ raw, selfSame c = true) (tail : List Char) :
    value (fuel+1) depth ('"' :: (raw ++ '"' :: tail)) = some (.str raw,tail) := by
  simp [value,stringBody_plain itself]

theorem skip_solid (solid : blank c = false) (rest : List Char) : skip (c :: rest) = c :: rest := by
  simp [skip,solid]

theorem members_texts {pairs : List (List Char × List Char)} (some' : pairs ≠ []) (itself : SelfSame pairs)
    (enough : pairs.length < fuel) (tail : List Char) :
    members fuel depth (textMembers pairs ++ '}' :: tail) = some (pairs.map fun p => (p.1,.str p.2),tail) := by
  induction pairs generalizing fuel with
  | nil => exact absurd rfl some'
  | cons p rest ih =>
    obtain ⟨key,text⟩ := p
    obtain ⟨⟨keyItself,textItself⟩,others⟩ := List.forall_mem_cons.mp itself
    obtain ⟨less,rfl⟩ : ∃ less, fuel = less + 2 := ⟨fuel-2,by simp at enough; omega⟩
    have short : rest.length < less + 1 := by simpa using enough
    have colon := skip_solid (by decide : blank ':' = false)
    have quote := skip_solid (by decide : blank '"' = false)
    cases rest with
    | nil =>
      have close := skip_solid (by decide : blank '}' = false)
      simp [textMembers,members,stringBody_plain keyItself,colon,quote,value_text textItself,close]
    | cons q more =>
      have comma := skip_solid (by decide : blank ',' = false)
      have later := ih (List.cons_ne_nil _ _) others short
      have opens : skip (textMembers (q :: more) ++ '}' :: tail) = textMembers (q :: more) ++ '}' :: tail := by
        cases more <;> exact quote _
      have whole : textMembers ((key,text) :: q :: more) ++ '}' :: tail =
          '"' :: (key ++ '"' :: ':' :: '"' :: (text ++ '"' :: ',' :: (textMembers (q :: more) ++ '}' :: tail))) := by
        simp [textMembers]
      rw [whole,members]
      simp [stringBody_plain keyItself,colon,quote,value_text textItself,comma,opens,later]

theorem textMembers_length (pairs : List (List Char × List Char)) : pairs.length ≤ (textMembers pairs).length := by
  induction pairs using textMembers.induct with
  | case1 => exact Nat.le_refl _
  | case2 key text => simp [textMembers]
  | case3 key text rest _ ih =>
    simp [textMembers]
    omega

theorem parse_texts {pairs : List (List Char × List Char)} (some' : pairs ≠ []) (itself : SelfSame pairs) (positive : 0 < maxDepth) :
    parse maxDepth ('{' :: (textMembers pairs ++ ['}'])) = some (.obj (pairs.map fun p => (p.1,.str p.2))) := by
  obtain ⟨depth,rfl⟩ : ∃ depth, maxDepth = depth + 1 := ⟨maxDepth-1,by omega⟩
  have long := textMembers_length pairs
  have object : ∀ fuel, pairs.length < fuel → value (fuel+1) (depth+1) ('{' :: (textMembers pairs ++ ['}'])) =
      some (.obj (pairs.map fun p => (p.1,.str p.2)),[]) := by
    intro fuel enough
    have inner : members fuel depth (textMembers pairs ++ ['}']) = some (pairs.map fun p => (p.1,.str p.2),[]) :=
      members_texts some' itself enough []
    obtain ⟨text,quoted⟩ : ∃ text, textMembers pairs ++ ['}'] = '"' :: text := by
      cases pairs with
      | nil => exact absurd rfl some'
      | cons p rest => cases rest <;> exact ⟨_,rfl⟩
    rw [quoted] at inner ⊢
    simp [value,skip_solid (by decide : blank '"' = false),inner]
  rw [parse,skip_solid (by decide)]
  rw [object _ (by simp; omega)]
  rfl

theorem skip_front (text : List Char) : ∃ blanks, text = blanks ++ skip text :=
  ⟨text.takeWhile blank,(List.takeWhile_append_dropWhile).symm⟩

theorem stringBody_text (body : stringBody text = some (raw,tail)) : text = raw ++ '"' :: tail := by
  fun_induction stringBody text generalizing raw tail with
  | case1 => cases body
  | case2 h1 h2 h3 h4 rest _ ih =>
    obtain ⟨⟨inner,more⟩,found,same⟩ := Option.map_eq_some_iff.mp body
    cases same
    rw [ih found]
    rfl
  | case3 => cases body
  | case4 c rest _ _ ih =>
    obtain ⟨⟨inner,more⟩,found,same⟩ := Option.map_eq_some_iff.mp body
    cases same
    rw [ih found]
    rfl
  | case5 => cases body
  | case6 => cases body; rfl
  | case7 => cases body
  | case8 c rest _ _ quote plain ih =>
    obtain ⟨⟨inner,more⟩,found,same⟩ := Option.map_eq_some_iff.mp body
    cases same
    rw [ih found]
    rfl

-- A piece of a number: empty, or one that ends with a digit.
def DigitLast (piece : List Char) : Prop := ∃ front last, piece = front ++ [last] ∧ last.isDigit = true

theorem DigitLast.append (front : List Char) (ends : DigitLast piece) : DigitLast (front ++ piece) := by
  obtain ⟨start,last,rfl,digit⟩ := ends
  exact ⟨front ++ start,last,(List.append_assoc _ _ _).symm,digit⟩

theorem takeDigits_text (text : List Char) : (takeDigits text).1 ++ (takeDigits text).2 = text :=
  List.takeWhile_append_dropWhile

theorem takeDigits_last (some' : (takeDigits text).1 ≠ []) : DigitLast (takeDigits text).1 := by
  refine ⟨(takeDigits text).1.dropLast,(takeDigits text).1.getLast some',(List.dropLast_append_getLast some').symm,?_⟩
  exact List.mem_takeWhile_imp (List.getLast_mem some')

theorem takeMinus_text (text : List Char) : (takeMinus text).1 ++ (takeMinus text).2 = text := by
  cases text with
  | nil => rfl
  | cons c rest =>
    dsimp only [takeMinus]
    split <;> rfl

theorem digits_text (front : List Char) (read : (if (takeDigits text).1 = [] then none
    else some (front ++ (takeDigits text).1,(takeDigits text).2)) = some (piece,tail)) :
    front ++ text = piece ++ tail ∧ DigitLast piece := by
  split at read
  · cases read
  · rename_i some'
    cases read
    exact ⟨by rw [List.append_assoc,takeDigits_text],(takeDigits_last some').append front⟩

theorem fraction_text (read : fraction text = some (frac,tail)) : text = frac ++ tail ∧ (frac = [] ∨ DigitLast frac) := by
  unfold fraction at read
  split at read
  · rename_i rest
    obtain ⟨same,ends⟩ := digits_text ['.'] read
    exact ⟨same,.inr ends⟩
  · cases read
    exact ⟨rfl,.inl rfl⟩

theorem exponent_text (read : exponent text = some (exp,tail)) : text = exp ++ tail ∧ (exp = [] ∨ DigitLast exp) := by
  cases text with
  | nil =>
    cases read
    exact ⟨rfl,.inl rfl⟩
  | cons e rest =>
    unfold exponent at read
    dsimp only at read
    by_cases letter : (decide (e = 'e') || decide (e = 'E')) = true
    · rw [if_pos letter] at read
      cases rest with
      | nil => simp [takeDigits] at read
      | cons s more =>
        dsimp only at read
        split at read
        · obtain ⟨same,ends⟩ := digits_text [e,s] read
          exact ⟨same,.inr ends⟩
        · obtain ⟨same,ends⟩ := digits_text [e] read
          exact ⟨same,.inr ends⟩
    · rw [if_neg letter] at read
      cases read
      exact ⟨rfl,.inl rfl⟩

-- A number is read off the front of a text, and ends with a digit.
theorem number_text (read : number text = some (lexeme,tail)) : text = lexeme ++ tail ∧ DigitLast lexeme := by
  unfold number at read
  dsimp only at read
  split at read
  · cases read
  · rename_i some'
    obtain ⟨⟨frac,more⟩,fractional,read⟩ := Option.bind_eq_some_iff.mp read
    obtain ⟨⟨exp,last⟩,exponential,read⟩ := Option.bind_eq_some_iff.mp read
    cases read
    obtain ⟨fracText,fracEnds⟩ := fraction_text fractional
    dsimp only at exponential
    obtain ⟨expText,expEnds⟩ := exponent_text exponential
    have digits : DigitLast (takeDigits (takeMinus text).2).1 := by
      refine takeDigits_last fun none => some' ?_
      simp [none]
    constructor
    · have whole := takeMinus_text text
      rw [← takeDigits_text (takeMinus text).2,fracText,expText] at whole
      refine whole.symm.trans ?_
      simp only [List.append_assoc]
    · rcases expEnds with rfl | expEnds
      · rcases fracEnds with rfl | fracEnds
        · simpa using digits.append (takeMinus text).1
        · simpa using fracEnds.append ((takeMinus text).1 ++ (takeDigits (takeMinus text).2).1)
      · exact expEnds.append _

theorem literal_text (read : literal word meaning text = some (tree,tail)) : text = word ++ tail ∧ tree = meaning := by
  unfold literal at read
  split at read
  · rename_i starts
    obtain ⟨rest,rfl⟩ := starts
    cases read
    simp
  · cases read

-- The ways in which a value is read.
inductive ValueRead (fuel : Nat) : Nat → List Char → Tree → List Char → Prop where
  | str : stringBody rest = some (raw,tail) → ValueRead fuel depth ('"' :: rest) (.str raw) tail
  | noItems : skip rest = ']' :: tail → ValueRead fuel (depth+1) ('[' :: rest) (.arr []) tail
  | arr : (∀ more, skip rest ≠ ']' :: more) → elements fuel depth (skip rest) = some (items,tail) →
      ValueRead fuel (depth+1) ('[' :: rest) (.arr items) tail
  | noMembers : skip rest = '}' :: tail → ValueRead fuel (depth+1) ('{' :: rest) (.obj []) tail
  | obj : (∀ more, skip rest ≠ '}' :: more) → members fuel depth (skip rest) = some (pairs,tail) →
      ValueRead fuel (depth+1) ('{' :: rest) (.obj pairs) tail
  | null : ValueRead fuel depth (['n','u','l','l'] ++ tail) .null tail
  | true : ValueRead fuel depth (['t','r','u','e'] ++ tail) (.bool true) tail
  | false : ValueRead fuel depth (['f','a','l','s','e'] ++ tail) (.bool false) tail
  | num : number text = some (lexeme,tail) → ValueRead fuel depth text (.num lexeme) tail

inductive ElementsRead (fuel depth : Nat) : List Char → List Tree → List Char → Prop where
  | last : value fuel depth text = some (item,after) → skip after = ']' :: tail → ElementsRead fuel depth text [item] tail
  | more : value fuel depth text = some (item,after) → skip after = ',' :: more →
      elements fuel depth (skip more) = some (items,tail) → ElementsRead fuel depth text (item :: items) tail

inductive MembersRead (fuel depth : Nat) : List Char → List (List Char × Tree) → List Char → Prop where
  | last : stringBody rest = some (key,colon) → skip colon = ':' :: text → value fuel depth (skip text) = some (item,after) →
      skip after = '}' :: tail → MembersRead fuel depth ('"' :: rest) [(key,item)] tail
  | more : stringBody rest = some (key,colon) → skip colon = ':' :: text → value fuel depth (skip text) = some (item,after) →
      skip after = ',' :: more → members fuel depth (skip more) = some (pairs,tail) →
      MembersRead fuel depth ('"' :: rest) ((key,item) :: pairs) tail

theorem value_cases (read : value (fuel+1) depth text = some (tree,tail)) : ValueRead fuel depth text tree tail := by
  cases text with
  | nil => cases read
  | cons c rest =>
    unfold value at read
    rw [ite_eq_iff] at read
    rcases read with ⟨rfl,own⟩ | ⟨_,read⟩
    · obtain ⟨⟨raw,more⟩,body,same⟩ := Option.map_eq_some_iff.mp own
      cases same
      exact .str body
    rw [ite_eq_iff] at read
    rcases read with ⟨rfl,own⟩ | ⟨_,read⟩
    · split at own
      · cases own
      · rename_i closed
        cases own
        exact .noItems closed
      · rename_i opens
        obtain ⟨⟨items,more⟩,inner,same⟩ := Option.map_eq_some_iff.mp own
        cases same
        exact .arr (fun more => opens more) inner
    rw [ite_eq_iff] at read
    rcases read with ⟨rfl,own⟩ | ⟨_,read⟩
    · split at own
      · cases own
      · rename_i closed
        cases own
        exact .noMembers closed
      · rename_i opens
        obtain ⟨⟨pairs,more⟩,inner,same⟩ := Option.map_eq_some_iff.mp own
        cases same
        exact .obj (fun more => opens more) inner
    rw [ite_eq_iff] at read
    rcases read with ⟨rfl,own⟩ | ⟨_,read⟩
    · obtain ⟨same,rfl⟩ := literal_text own
      rw [same]
      exact .null
    rw [ite_eq_iff] at read
    rcases read with ⟨rfl,own⟩ | ⟨_,read⟩
    · obtain ⟨same,rfl⟩ := literal_text own
      rw [same]
      exact .true
    rw [ite_eq_iff] at read
    rcases read with ⟨rfl,own⟩ | ⟨_,read⟩
    · obtain ⟨same,rfl⟩ := literal_text own
      rw [same]
      exact .false
    · obtain ⟨⟨lexeme,more⟩,numeral,same⟩ := Option.map_eq_some_iff.mp read
      cases same
      exact .num numeral

theorem elements_cases (read : elements (fuel+1) depth text = some (items,tail)) : ElementsRead fuel depth text items tail := by
  unfold elements at read
  obtain ⟨⟨item,after⟩,first,read⟩ := Option.bind_eq_some_iff.mp read
  dsimp only at read
  split at read
  · rename_i closed
    cases read
    exact .last first closed
  · rename_i comma
    obtain ⟨⟨others,last⟩,later,same⟩ := Option.bind_eq_some_iff.mp read
    cases same
    exact .more first comma later
  · cases read

theorem members_cases (read : members (fuel+1) depth text = some (pairs,tail)) : MembersRead fuel depth text pairs tail := by
  unfold members at read
  split at read
  · obtain ⟨⟨key,after⟩,name,read⟩ := Option.bind_eq_some_iff.mp read
    dsimp only at read
    split at read
    · rename_i colon
      obtain ⟨⟨item,rest⟩,first,read⟩ := Option.bind_eq_some_iff.mp read
      dsimp only at read
      split at read
      · rename_i closed
        cases read
        exact .last name colon first closed
      · rename_i comma
        obtain ⟨⟨others,last⟩,later,same⟩ := Option.bind_eq_some_iff.mp read
        cases same
        exact .more name colon first comma later
      · cases read
    · cases read
  · cases read

end JsonText
