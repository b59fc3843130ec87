import Mathlib.Data.List.Sort
import Mathlib.Data.Prod.Lex
import Mathlib.Data.String.Basic
import Trokk.Library.Json
import Trokk.Library.JsonText

-- JSON texts as Postgres reads them into jsonb, and the strings of a writer that
-- keeps to printable ASCII.
namespace Jsonb
open JsonText

-- Postgres refuses an escape of NUL and a surrogate that is not one of a pair.
def unescape : List Char → Option (List Char)
  | [] => some []
  | '\\' :: 'u' :: h1 :: h2 :: h3 :: h4 :: rest =>
    let unit := hexQuad h1 h2 h3 h4
    if unit = 0 then none
    else if 0xD800 ≤ unit ∧ unit < 0xE000 then
      match rest with
      | '\\' :: 'u' :: l1 :: l2 :: l3 :: l4 :: rest =>
        let low := hexQuad l1 l2 l3 l4
        if unit < 0xDC00 ∧ 0xDC00 ≤ low ∧ low < 0xE000 then
          (unescape rest).map (Char.ofNat ((unit - 0xD800) * 0x400 + (low - 0xDC00) + 0x10000) :: ·)
        else none
      | _ => none
    else (unescape rest).map (Char.ofNat unit :: ·)
  | '\\' :: c :: rest => (unescape rest).map ((simpleEscape c).getD c :: ·)
  | c :: rest => if c = '\\' then none else (unescape rest).map (c :: ·)

-- Of several members with one name the last counts.
def lastOfEach : List (String × Json) → List (String × Json)
  | [] => []
  | (key,value) :: rest => if rest.any (·.1 = key) then lastOfEach rest else (key,value) :: lastOfEach rest

-- Names stand by their length in bytes, those of one length by their bytes, which in
-- UTF-8 is by code points.
def rank (name : String) : Nat ×ₗ String := toLex (name.utf8ByteSize,name)

def Before (a b : String × Json) : Prop := rank a.1 ≤ rank b.1

instance : DecidableRel Before := fun a b => inferInstanceAs (Decidable (rank a.1 ≤ rank b.1))

instance : Std.Total Before := ⟨fun a b => le_total (rank a.1) (rank b.1)⟩

instance : IsTrans (String × Json) Before := ⟨fun _ _ _ => le_trans⟩

def sorted (members : List (String × Json)) : List (String × Json) := members.insertionSort Before

-- A number stays with the literal that it was read from.
mutual
def ofTree : Tree → Option Json
  | .null => some .null
  | .bool b => some (.bool b)
  | .num lexeme => some (.num (String.ofList lexeme))
  | .str raw => (unescape raw).map fun text => .str (String.ofList text)
  | .arr items => (ofItems items).map .arr
  | .obj members => (ofMembers members).map fun members => .obj (sorted (lastOfEach members))
def ofItems : List Tree → Option (List Json)
  | [] => some []
  | item :: rest => do
    let item ← ofTree item
    let rest ← ofItems rest
    return item :: rest
def ofMembers : List (List Char × Tree) → Option (List (String × Json))
  | [] => some []
  | (key,value) :: rest => do
    let key ← unescape key
    let value ← ofTree value
    let rest ← ofMembers rest
    return (String.ofList key,value) :: rest
end

-- jsonb_in. Nesting is bounded by the server's stack alone.
def read (text : List Char) : Option Json := (parse (text.length + 1) text).bind ofTree

-- The four digits after \u.
def hexDigits (n : Nat) : List Char :=
  [Nat.digitChar (n / 4096 % 16),Nat.digitChar (n / 256 % 16),Nat.digitChar (n / 16 % 16),Nat.digitChar (n % 16)]

def unicode (n : Nat) : List Char := '\\' :: 'u' :: hexDigits n

-- Python's json.dumps.
def escape (c : Char) : List Char :=
  if c = '"' then ['\\','"'] else if c = '\\' then ['\\','\\'] else if c = '\n' then ['\\','n']
  else if c = '\r' then ['\\','r'] else if c = '\t' then ['\\','t'] else if c = '\x0c' then ['\\','f']
  else if c = '\x08' then ['\\','b'] else if ' ' ≤ c ∧ c ≤ '~' then [c]
  else if c.toNat < 0x10000 then unicode c.toNat
  else unicode (0xD800 + (c.toNat - 0x10000) / 0x400) ++ unicode (0xDC00 + (c.toNat - 0x10000) % 0x400)

theorem hexValue_digitChar : ∀ d < 16, hexValue (Nat.digitChar d) = some d := by decide

theorem hexQuad_hexDigits (small : n < 0x10000) : hexQuad (Nat.digitChar (n / 4096 % 16)) (Nat.digitChar (n / 256 % 16))
    (Nat.digitChar (n / 16 % 16)) (Nat.digitChar (n % 16)) = n := by
  have digit (k : Nat) := hexValue_digitChar (k % 16) (Nat.mod_lt _ (by decide))
  simp only [hexQuad,digit,Option.getD_some]
  omega

theorem stringBody_unicode (n : Nat) (rest : List Char) :
    stringBody (unicode n ++ rest) = (stringBody rest).map fun (raw,tail) => (unicode n ++ raw,tail) := by
  have digit (k : Nat) := hexValue_digitChar (k % 16) (Nat.mod_lt _ (by decide))
  simp [unicode,hexDigits,stringBody,digit]

theorem unescape_unicode (small : n < 0x10000) (nonzero : n ≠ 0) (own : n < 0xD800 ∨ 0xE000 ≤ n) (rest : List Char) :
    unescape (unicode n ++ rest) = (unescape rest).map (Char.ofNat n :: ·) := by
  have between : ¬ (0xD800 ≤ n ∧ n < 0xE000) := by omega
  simp only [unicode,hexDigits,List.cons_append,List.nil_append]
  by_cases pair : ∃ l1 l2 l3 l4 more, rest = '\\' :: 'u' :: l1 :: l2 :: l3 :: l4 :: more
  · obtain ⟨l1,l2,l3,l4,more,rfl⟩ := pair
    rw [unescape.eq_2,hexQuad_hexDigits small,if_neg nonzero,if_neg between]
  · rw [unescape.eq_3 _ _ _ _ _ fun l1 l2 l3 l4 more same => pair ⟨l1,l2,l3,l4,more,same⟩,hexQuad_hexDigits small,
      if_neg nonzero,if_neg between]

theorem unescape_pair (isHigh : 0xD800 ≤ high ∧ high < 0xDC00) (isLow : 0xDC00 ≤ low ∧ low < 0xE000) (rest : List Char) :
    unescape (unicode high ++ (unicode low ++ rest)) =
      (unescape rest).map (Char.ofNat ((high - 0xD800) * 0x400 + (low - 0xDC00) + 0x10000) :: ·) := by
  have surrogate : 0xD800 ≤ high ∧ high < 0xE000 := by omega
  have nonzero : high ≠ 0 := by omega
  have paired : high < 0xDC00 ∧ 0xDC00 ≤ low ∧ low < 0xE000 := ⟨isHigh.2,isLow⟩
  simp only [unicode,hexDigits,List.cons_append,List.nil_append,unescape.eq_2,hexQuad_hexDigits (by omega : high < 0x10000),
    hexQuad_hexDigits (by omega : low < 0x10000),if_neg nonzero,if_pos surrogate,if_pos paired]

theorem escape_cases (c : Char) : (∃ e, simpleEscape e = some c ∧ e ≠ 'u' ∧ escape c = ['\\',e]) ∨
    (selfSame c = true ∧ escape c = [c]) ∨ (c.toNat < 0x10000 ∧ escape c = unicode c.toNat) ∨
    (0x10000 ≤ c.toNat ∧ escape c = unicode (0xD800 + (c.toNat - 0x10000) / 0x400) ++ unicode (0xDC00 + (c.toNat - 0x10000) % 0x400)) := by
  generalize written : escape c = text
  unfold escape at written
  rcases ite_eq_iff.mp written with ⟨rfl,rfl⟩ | ⟨quote,written⟩
  · exact .inl ⟨'"',by decide,by decide,rfl⟩
  rcases ite_eq_iff.mp written with ⟨rfl,rfl⟩ | ⟨backslash,written⟩
  · exact .inl ⟨'\\',by decide,by decide,rfl⟩
  rcases ite_eq_iff.mp written with ⟨rfl,rfl⟩ | ⟨_,written⟩
  · exact .inl ⟨'n',by decide,by decide,rfl⟩
  rcases ite_eq_iff.mp written with ⟨rfl,rfl⟩ | ⟨_,written⟩
  · exact .inl ⟨'r',by decide,by decide,rfl⟩
  rcases ite_eq_iff.mp written with ⟨rfl,rfl⟩ | ⟨_,written⟩
  · exact .inl ⟨'t',by decide,by decide,rfl⟩
  rcases ite_eq_iff.mp written with ⟨rfl,rfl⟩ | ⟨_,written⟩
  · exact .inl ⟨'f',by decide,by decide,rfl⟩
  rcases ite_eq_iff.mp written with ⟨rfl,rfl⟩ | ⟨_,written⟩
  · exact .inl ⟨'b',by decide,by decide,rfl⟩
  rcases ite_eq_iff.mp written with ⟨plain,rfl⟩ | ⟨_,written⟩
  · exact .inr (.inl ⟨by simp [selfSame,quote,backslash,plain.1],rfl⟩)
  rcases ite_eq_iff.mp written with ⟨small,rfl⟩ | ⟨large,rfl⟩
  · exact .inr (.inr (.inl ⟨small,rfl⟩))
  · exact .inr (.inr (.inr ⟨Nat.not_lt.mp large,rfl⟩))

theorem stringBody_escaped {e : Char} (simple : simpleEscape e = some c) (other : e ≠ 'u') (rest : List Char) :
    stringBody ('\\' :: e :: rest) = (stringBody rest).map fun (raw,tail) => ('\\' :: e :: raw,tail) := by
  rw [stringBody.eq_def]
  split
  · contradiction
  · rename_i same
    cases same
    exact absurd rfl other
  · rename_i same
    cases same
    rw [if_pos (by rw [simple,Option.isSome_some])]
  · rename_i apart same
    cases same
    exact (apart e rest rfl rfl).elim

theorem stringBody_escape (c : Char) (rest : List Char) :
    stringBody (escape c ++ rest) = (stringBody rest).map fun (raw,tail) => (escape c ++ raw,tail) := by
  rcases escape_cases c with ⟨e,simple,other,text⟩ | ⟨own,text⟩ | ⟨-,text⟩ | ⟨-,text⟩ <;> rw [text]
  · exact stringBody_escaped simple other rest
  · exact stringBody_self own rest
  · exact stringBody_unicode _ rest
  · rw [List.append_assoc,stringBody_unicode,stringBody_unicode,Option.map_map]
    simp [Function.comp_def]

theorem unescape_simple {e : Char} (simple : simpleEscape e = some c) (other : e ≠ 'u') (rest : List Char) :
    unescape ('\\' :: e :: rest) = (unescape rest).map (c :: ·) := by
  rw [unescape.eq_def]
  split
  · contradiction
  · rename_i same
    cases same
    exact absurd rfl other
  · rename_i same
    cases same
    rw [simple,Option.getD_some]
  · rename_i apart same
    cases same
    exact (apart e rest rfl rfl).elim

theorem unescape_self (own : selfSame c = true) (rest : List Char) : unescape (c :: rest) = (unescape rest).map (c :: ·) := by
  simp only [selfSame,Bool.and_eq_true,decide_eq_true_eq,Bool.not_eq_true',decide_eq_false_iff_not] at own
  rw [unescape.eq_def]
  split
  · contradiction
  · simp_all
  · simp_all
  · rename_i same
    cases same
    rw [if_neg own.1.2]

theorem scalar_bounds (c : Char) : (c.toNat < 0xD800 ∨ 0xE000 ≤ c.toNat) ∧ c.toNat < 0x110000 := by
  have valid : c.toNat < 0xD800 ∨ 0xDFFF < c.toNat ∧ c.toNat < 0x110000 := c.valid
  omega

theorem unescape_escape (nonzero : c.toNat ≠ 0) (rest : List Char) : unescape (escape c ++ rest) = (unescape rest).map (c :: ·) := by
  obtain ⟨own,less⟩ := scalar_bounds c
  rcases escape_cases c with ⟨e,simple,other,text⟩ | ⟨plain,text⟩ | ⟨small,text⟩ | ⟨large,text⟩ <;> rw [text]
  · exact unescape_simple simple other rest
  · exact unescape_self plain rest
  · rw [unescape_unicode small nonzero own,Char.ofNat_toNat]
  · rw [List.append_assoc,unescape_pair (by omega) (by omega)]
    have code : (0xD800 + (c.toNat - 0x10000) / 0x400 - 0xD800) * 0x400 +
        (0xDC00 + (c.toNat - 0x10000) % 0x400 - 0xDC00) + 0x10000 = c.toNat := by omega
    rw [code,Char.ofNat_toNat]

-- A text between quotes, up to the quote that ends it.
def Quoted (raw : List Char) : Prop := ∀ tail, stringBody (raw ++ '"' :: tail) = some (raw,tail)

theorem escaped_quoted (text : List Char) : Quoted (text.flatMap escape) := by
  intro tail
  induction text with
  | nil => simp [stringBody]
  | cons c rest ih => rw [List.flatMap_cons,List.append_assoc,stringBody_escape,ih,Option.map_some]

theorem unescape_escaped {text : List Char} (nonzero : ∀ c ∈ text, c.toNat ≠ 0) : unescape (text.flatMap escape) = some text := by
  induction text with
  | nil => rfl
  | cons c rest ih =>
    rw [List.flatMap_cons,unescape_escape (nonzero c List.mem_cons_self),ih fun d member => nonzero d (List.mem_cons_of_mem _ member)]
    rfl

theorem unescape_zero {text : List Char} (zero : ∃ c ∈ text, c.toNat = 0) : unescape (text.flatMap escape) = none := by
  induction text with
  | nil => simp at zero
  | cons c rest ih =>
    rw [List.flatMap_cons]
    by_cases own : c.toNat = 0
    · obtain rfl : c = Char.ofNat 0 := by rw [← own,Char.ofNat_toNat]
      have written : escape (Char.ofNat 0) = unicode 0 := by decide
      rw [written]
      by_cases pair : ∃ l1 l2 l3 l4 more, rest.flatMap escape = '\\' :: 'u' :: l1 :: l2 :: l3 :: l4 :: more
      · obtain ⟨l1,l2,l3,l4,more,same⟩ := pair
        rw [same]
        exact (unescape.eq_2 ..).trans (if_pos (by decide))
      · exact (unescape.eq_3 _ _ _ _ _ fun l1 l2 l3 l4 more same => pair ⟨l1,l2,l3,l4,more,same⟩).trans (if_pos (by decide))
    · obtain ⟨d,member,isZero⟩ := zero
      have later : ∃ d ∈ rest, d.toNat = 0 := by
        rcases List.mem_cons.mp member with rfl | there
        · exact absurd isZero own
        · exact ⟨d,there,isZero⟩
      rw [unescape_escape own,ih later]
      rfl

theorem unescape_plain {raw : List Char} (itself : ∀ c ∈ raw, selfSame c = true) : unescape raw = some raw := by
  induction raw with
  | nil => rfl
  | cons c rest ih =>
    rw [unescape_self (itself c List.mem_cons_self),ih fun d member => itself d (List.mem_cons_of_mem _ member)]
    rfl

-- An object of one member that is a text.
def textMember (key gap text : List Char) : List Char := '{' :: '"' :: (key ++ '"' :: ':' :: (gap ++ '"' :: (text ++ ['"','}'])))

theorem parse_member {key gap text : List Char} (keyed : Quoted key) (blanks : ∀ c ∈ gap, blank c = true) (quoted : Quoted text)
    (positive : 0 < maxDepth) : parse maxDepth (textMember key gap text) = some (.obj [(key,.str text)]) := by
  obtain ⟨depth,rfl⟩ : ∃ depth, maxDepth = depth + 1 := ⟨maxDepth-1,by omega⟩
  obtain ⟨fuel,enough⟩ : ∃ fuel, 2 * (textMember key gap text).length + 1 = fuel + 3 := by
    refine ⟨2 * (textMember key gap text).length - 2,?_⟩
    simp only [textMember,List.length_cons]
    omega
  have quote := skip_solid (by decide : blank '"' = false)
  have colon := skip_solid (by decide : blank ':' = false)
  have close := skip_solid (by decide : blank '}' = false)
  have gapped : skip (gap ++ '"' :: (text ++ ['"','}'])) = '"' :: (text ++ ['"','}']) := by
    rw [skip,List.dropWhile_append_of_pos blanks]
    exact quote _
  have opened : skip (textMember key gap text) = textMember key gap text := skip_solid (by decide) _
  have inner : members (fuel+2) depth ('"' :: (key ++ '"' :: ':' :: (gap ++ '"' :: (text ++ ['"','}'])))) = some ([(key,.str text)],[]) := by
    have item : value (fuel+1) depth ('"' :: (text ++ ['"','}'])) = some (.str text,['}']) := by
      simp [value,quoted ['}']]
    simp [members,keyed _,colon,gapped,item,close]
  have object : value (fuel+3) (depth+1) (textMember key gap text) = some (.obj [(key,.str text)],[]) := by
    simp [textMember,value,quote,inner]
  rw [parse,enough,opened,object]
  rfl

theorem read_member {key gap text : List Char} (keyed : Quoted key) (blanks : ∀ c ∈ gap, blank c = true) (quoted : Quoted text)
    (name : unescape key = some k) (meant : unescape text = some v) :
    read (textMember key gap text) = some (.obj [(String.ofList k,.str (String.ofList v))]) := by
  rw [read,parse_member keyed blanks quoted (Nat.succ_pos _)]
  simp [ofTree,ofMembers,name,meant,lastOfEach,sorted]

theorem read_none {key gap text : List Char} (keyed : Quoted key) (blanks : ∀ c ∈ gap, blank c = true) (quoted : Quoted text)
    (name : unescape key = some k) (meant : unescape text = none) : read (textMember key gap text) = none := by
  rw [read,parse_member keyed blanks quoted (Nat.succ_pos _)]
  simp [ofTree,ofMembers,name,meant]

theorem plain_quoted {text : List Char} (itself : ∀ c ∈ text, selfSame c = true) : Quoted text := stringBody_plain itself

-- What a string takes of a text; without a backslash all of it stands for itself.
structure Body (raw tail text : List Char) : Prop where
  length : raw.length + 1 + tail.length = text.length
  plain : '\\' ∉ raw → ∀ c ∈ raw, selfSame c = true

theorem stringBody_itself (body : stringBody text = some (raw,tail)) (bare : '\\' ∉ raw) : ∀ c ∈ raw, selfSame c = true := by
  fun_induction stringBody text generalizing raw tail with
  | case1 => cases body
  | case2 h1 h2 h3 h4 rest _ ih =>
    obtain ⟨⟨inner,more⟩,found,same⟩ := Option.map_eq_some_iff.mp body
    cases same
    exact absurd List.mem_cons_self bare
  | case3 => cases body
  | case4 c rest _ _ ih =>
    obtain ⟨⟨inner,more⟩,found,same⟩ := Option.map_eq_some_iff.mp body
    cases same
    exact absurd List.mem_cons_self bare
  | case5 => cases body
  | case6 => cases body; simp
  | case7 => cases body
  | case8 c rest _ _ quote plain ih =>
    obtain ⟨⟨inner,more⟩,found,same⟩ := Option.map_eq_some_iff.mp body
    cases same
    refine List.forall_mem_cons.mpr ⟨?_,ih found fun there => bare (List.mem_cons_of_mem _ there)⟩
    simpa [selfSame,quote] using plain

theorem stringBody_taken (body : stringBody text = some (raw,tail)) : Body raw tail text where
  length := by
    rw [stringBody_text body,List.length_append,List.length_cons]
    omega
  plain := stringBody_itself body

theorem skip_length (text : List Char) : (skip text).length ≤ text.length := (List.dropWhile_sublist _).length_le

theorem skip_found (found : skip text = c :: tail) : tail.length + 1 ≤ text.length := by
  have rest := skip_length text
  rwa [found,List.length_cons] at rest

-- The least that a value takes of a text.
def least : Tree → Nat
  | .str raw => raw.length + 2
  | _ => 0

-- A value that is a string is one of the text's.
structure Taken (tree : Tree) (tail text : List Char) : Prop where
  length : least tree + tail.length ≤ text.length
  plain : ∀ raw, tree = .str raw → '\\' ∉ raw → ∀ c ∈ raw, selfSame c = true

structure MembersTaken (pairs : List (List Char × Tree)) (tail text : List Char) : Prop where
  shorter : tail.length ≤ text.length
  length : ∀ p ∈ pairs, p.1.length + 4 + least p.2 + tail.length ≤ text.length
  plain : ∀ p ∈ pairs, ∀ raw, p.2 = .str raw → '\\' ∉ raw → ∀ c ∈ raw, selfSame c = true

structure ReadersTake (fuel : Nat) : Prop where
  value : ∀ depth text tree tail, value fuel depth text = some (tree,tail) → Taken tree tail text
  elements : ∀ depth text items tail, elements fuel depth text = some (items,tail) → tail.length ≤ text.length
  members : ∀ depth text pairs tail, members fuel depth text = some (pairs,tail) → MembersTaken pairs tail text

theorem taken_other (shorter : tail.length ≤ text.length) (other : ∀ raw, tree ≠ .str raw) : Taken tree tail text := by
  refine ⟨?_,fun raw same => absurd same (other raw)⟩
  cases tree with
  | str raw => exact absurd rfl (other raw)
  | _ => simpa [least] using shorter

-- What a bracket opens takes less than the text with the bracket.
theorem taken_opened (shorter : tail.length ≤ (skip rest).length) (other : ∀ raw, tree ≠ .str raw) : Taken tree tail (c :: rest) := by
  refine taken_other ?_ other
  have rests := skip_length rest
  rw [List.length_cons]
  omega

theorem value_taken (inner : ReadersTake fuel) (read : ValueRead fuel depth text tree tail) : Taken tree tail text := by
  cases read with
  | str body =>
    have taken := stringBody_taken body
    have length := taken.length
    refine ⟨?_,fun own same => ?_⟩
    · simp only [least,List.length_cons]
      omega
    · cases same
      exact taken.plain
  | noItems closed => exact taken_opened (by rw [closed]; exact Nat.le_succ _) fun _ same => by cases same
  | arr _ items => exact taken_opened (inner.elements _ _ _ _ items) fun _ same => by cases same
  | noMembers closed => exact taken_opened (by rw [closed]; exact Nat.le_succ _) fun _ same => by cases same
  | obj _ pairs => exact taken_opened (inner.members _ _ _ _ pairs).shorter fun _ same => by cases same
  | null | true | false => exact taken_other (List.suffix_append _ _).length_le fun _ same => by cases same
  | num numeral =>
    rw [(number_text numeral).1]
    exact taken_other (List.suffix_append _ _).length_le fun _ same => by cases same

theorem elements_taken (inner : ReadersTake fuel) (read : ElementsRead fuel depth text items tail) : tail.length ≤ text.length := by
  cases read with
  | last first closed =>
    have own := (inner.value _ _ _ _ first).length
    have rest := skip_found closed
    omega
  | more first comma later =>
    have own := (inner.value _ _ _ _ first).length
    have rest := skip_found comma
    have others := (inner.elements _ _ _ _ later).trans (skip_length _)
    omega

theorem members_taken (inner : ReadersTake fuel) (read : MembersRead fuel depth text pairs tail) : MembersTaken pairs tail text := by
  cases read with
  | last name colon first closed =>
    have keyed := (stringBody_taken name).length
    have keyRest := skip_found colon
    have taken := inner.value _ _ _ _ first
    have own := taken.length.trans (skip_length _)
    have rest := skip_found closed
    refine ⟨by simp only [List.length_cons]; omega,fun p one => ?_,fun p one => ?_⟩
    · cases List.mem_singleton.mp one
      simp only [List.length_cons]
      omega
    · cases List.mem_singleton.mp one
      exact taken.plain
  | more name colon first comma later =>
    have keyed := (stringBody_taken name).length
    have keyRest := skip_found colon
    have taken := inner.value _ _ _ _ first
    have own := taken.length.trans (skip_length _)
    have rest := skip_found comma
    have others := inner.members _ _ _ _ later
    have shorter := others.shorter.trans (skip_length _)
    refine ⟨by simp only [List.length_cons]; omega,fun p one => ?_,fun p one => ?_⟩
    · rcases List.mem_cons.mp one with rfl | there
      · simp only [List.length_cons]
        omega
      · have fits := (others.length p there).trans (skip_length _)
        simp only [List.length_cons]
        omega
    · rcases List.mem_cons.mp one with rfl | there
      · exact taken.plain
      · exact others.plain p there

theorem readers_take (fuel : Nat) : ReadersTake fuel := by
  induction fuel with
  | zero => exact ⟨fun _ _ _ _ read => (by cases read),fun _ _ _ _ read => (by cases read),fun _ _ _ _ read => (by cases read)⟩
  | succ fuel ih =>
    exact ⟨fun _ _ _ _ read => value_taken ih (value_cases read),fun _ _ _ _ read => elements_taken ih (elements_cases read),
      fun _ _ _ _ read => members_taken ih (members_cases read)⟩

-- An object's members leave room for its braces.
theorem object_members (read : value fuel depth text = some (.obj pairs,tail)) (member : p ∈ pairs) :
    p.1.length + 5 + least p.2 ≤ text.length ∧ ∀ raw, p.2 = .str raw → '\\' ∉ raw → ∀ c ∈ raw, selfSame c = true := by
  cases fuel with
  | zero => cases read
  | succ fuel =>
    cases value_cases read with
    | noMembers => cases member
    | obj _ found =>
      have taken := (readers_take fuel).members _ _ _ _ found
      have own := (taken.length p member).trans (skip_length _)
      exact ⟨by simp only [List.length_cons]; omega,taken.plain p member⟩

theorem parse_members (parsed : parse maxDepth text = some (.obj pairs)) (member : p ∈ pairs) :
    p.1.length + 5 + least p.2 ≤ text.length ∧ ∀ raw, p.2 = .str raw → '\\' ∉ raw → ∀ c ∈ raw, selfSame c = true := by
  unfold parse at parsed
  obtain ⟨⟨tree,tail⟩,read,parsed⟩ := Option.bind_eq_some_iff.mp parsed
  dsimp only at parsed
  split at parsed
  · cases parsed
    have found := object_members read member
    exact ⟨Nat.le_trans found.1 (skip_length text),found.2⟩
  · cases parsed

theorem sorted_mem : p ∈ sorted pairs ↔ p ∈ pairs := List.mem_insertionSort _

theorem lastOfEach_mem (member : p ∈ lastOfEach pairs) : p ∈ pairs := by
  induction pairs with
  | nil => exact member
  | cons head rest ih =>
    unfold lastOfEach at member
    split at member
    · exact List.mem_cons_of_mem _ (ih member)
    · rcases List.mem_cons.mp member with rfl | later
      · exact List.mem_cons_self
      · exact List.mem_cons_of_mem _ (ih later)

theorem ofMembers_mem {trees : List (List Char × Tree)} (read : ofMembers trees = some pairs) (member : pair ∈ pairs) :
    ∃ p ∈ trees, (unescape p.1).map String.ofList = some pair.1 ∧ ofTree p.2 = some pair.2 := by
  induction trees generalizing pairs with
  | nil => cases read; cases member
  | cons head rest ih =>
    obtain ⟨name,tree⟩ := head
    unfold ofMembers at read
    obtain ⟨own,named,read⟩ := Option.bind_eq_some_iff.mp read
    obtain ⟨item,meant,read⟩ := Option.bind_eq_some_iff.mp read
    obtain ⟨others,later,same⟩ := Option.bind_eq_some_iff.mp read
    cases same
    rcases List.mem_cons.mp member with first | there
    · cases first
      exact ⟨_,List.mem_cons_self,by rw [named]; rfl,meant⟩
    · obtain ⟨p,present,found⟩ := ih later there
      exact ⟨p,List.mem_cons_of_mem _ present,found⟩

theorem escape_longer {inner rest raw : List Char} (shorter : inner.length ≤ rest.length) (longer : rest.length + 2 ≤ raw.length) :
    (c :: inner).length ≤ raw.length ∧ ('\\' ∈ raw → (c :: inner).length < raw.length) := by
  rw [List.length_cons]
  exact ⟨by omega,fun _ => by omega⟩

-- Escapes are longer than what they stand for.
theorem unescape_length (meant : unescape raw = some text) : text.length ≤ raw.length ∧ ('\\' ∈ raw → text.length < raw.length) := by
  fun_induction unescape raw generalizing text with
  | case1 => cases meant; simp
  | case2 => cases meant
  | case3 =>
    rename_i ih
    obtain ⟨inner,found,rfl⟩ := Option.map_eq_some_iff.mp meant
    exact escape_longer (ih found).1 (by simp)
  | case4 => cases meant
  | case5 => cases meant
  | case6 =>
    rename_i ih
    obtain ⟨inner,found,rfl⟩ := Option.map_eq_some_iff.mp meant
    exact escape_longer (ih found).1 (by simp)
  | case7 c rest _ ih =>
    obtain ⟨inner,found,rfl⟩ := Option.map_eq_some_iff.mp meant
    exact escape_longer (ih found).1 (by simp)
  | case8 => cases meant
  | case9 c rest _ _ bare ih =>
    obtain ⟨inner,found,rfl⟩ := Option.map_eq_some_iff.mp meant
    have shorter := ih found
    simp only [List.length_cons]
    refine ⟨by omega,fun escaped => ?_⟩
    have := shorter.2 ((List.mem_cons.mp escaped).resolve_left (Ne.symm bare))
    omega

-- A member that stands for as long a text as the whole object has room for is written
-- out in full.
theorem unescape_full (meant : unescape raw = some text) (short : raw.length ≤ text.length)
    (plain : '\\' ∉ raw → ∀ c ∈ raw, selfSame c = true) : raw = text ∧ ∀ c ∈ text, selfSame c = true := by
  have lengths := unescape_length meant
  have bare : '\\' ∉ raw := fun escaped => by
    have := lengths.2 escaped
    omega
  have itself := plain bare
  obtain rfl : raw = text := Option.some.inj ((unescape_plain itself).symm.trans meant)
  exact ⟨rfl,itself⟩

theorem ofTree_str (meant : ofTree tree = some (.str text)) : ∃ raw, tree = .str raw ∧ unescape raw = some text.toList := by
  cases tree with
  | str raw =>
    obtain ⟨inner,found,same⟩ := Option.map_eq_some_iff.mp meant
    cases same
    exact ⟨raw,rfl,by rw [found,String.toList_ofList]⟩
  | null | bool | num => cases meant
  | arr | obj =>
    obtain ⟨_,-,same⟩ := Option.map_eq_some_iff.mp meant
    cases same

theorem ofTree_obj (meant : ofTree tree = some (.obj pairs)) :
    ∃ trees others, tree = .obj trees ∧ ofMembers trees = some others ∧ sorted (lastOfEach others) = pairs := by
  cases tree with
  | obj trees =>
    obtain ⟨others,found,same⟩ := Option.map_eq_some_iff.mp meant
    cases same
    exact ⟨trees,others,rfl,found,rfl⟩
  | null | bool | num => cases meant
  | arr | str =>
    obtain ⟨_,-,same⟩ := Option.map_eq_some_iff.mp meant
    cases same

-- A text that is put between the quotes as it is comes back when nothing in it needs an
-- escape, and then only.
theorem read_verbatim {key : List Char} (keyed : ∀ c ∈ key, selfSame c = true) (text : List Char) :
    read (textMember key [] text) = some (.obj [(String.ofList key,.str (String.ofList text))]) ↔ ∀ c ∈ text, selfSame c = true := by
  constructor
  · intro back
    obtain ⟨tree,parsed,meant⟩ := Option.bind_eq_some_iff.mp back
    obtain ⟨trees,others,rfl,each,last⟩ := ofTree_obj meant
    have first := sorted_mem.mp (by rw [last]; exact List.mem_cons_self)
    obtain ⟨p,present,named,own⟩ := ofMembers_mem each (lastOfEach_mem first)
    obtain ⟨raw,isText,escaped⟩ := ofTree_str own
    obtain ⟨name,unquoted,same⟩ := Option.map_eq_some_iff.mp named
    obtain rfl : name = key := by simpa using congrArg String.toList same
    have room := parse_members parsed present
    have nameLength := (unescape_length unquoted).1
    rw [String.toList_ofList] at escaped
    have short : raw.length ≤ text.length := by
      have := room.1
      simp only [isText,least,textMember,List.length_cons,List.length_append,List.length_nil] at this
      omega
    exact (unescape_full escaped short (room.2 raw isText)).2
  · intro itself
    exact read_member (plain_quoted keyed) (by simp) (plain_quoted itself) (unescape_plain keyed) (unescape_plain itself)

-- What the ASCII writer wrote always comes back.
theorem read_escaped {key gap : List Char} (keyed : ∀ c ∈ key, selfSame c = true) (blanks : ∀ c ∈ gap, blank c = true)
    {text : List Char} (nonzero : ∀ c ∈ text, c.toNat ≠ 0) :
    read (textMember key gap (text.flatMap escape)) = some (.obj [(String.ofList key,.str (String.ofList text))]) :=
  read_member (plain_quoted keyed) blanks (escaped_quoted text) (unescape_plain keyed) (unescape_escaped nonzero)

theorem read_zero {key gap : List Char} (keyed : ∀ c ∈ key, selfSame c = true) (blanks : ∀ c ∈ gap, blank c = true)
    {text : List Char} (zero : ∃ c ∈ text, c.toNat = 0) : read (textMember key gap (text.flatMap escape)) = none :=
  read_none (plain_quoted keyed) blanks (escaped_quoted text) (unescape_plain keyed) (unescape_zero zero)

-- A value as jsonb keeps it, with the members of every object in its order.
mutual
def ordered : Json → Json
  | .arr items => .arr (orderedItems items)
  | .obj members => .obj (sorted (orderedMembers members))
  | .null => .null
  | .bool b => .bool b
  | .num literal => .num literal
  | .str text => .str text
def orderedItems : List Json → List Json
  | [] => []
  | item :: rest => ordered item :: orderedItems rest
def orderedMembers : List (String × Json) → List (String × Json)
  | [] => []
  | (key,value) :: rest => (key,ordered value) :: orderedMembers rest
end

theorem orderedMembers_names (members : List (String × Json)) : (orderedMembers members).map Prod.fst = members.map Prod.fst := by
  induction members with
  | nil => rfl
  | cons member rest ih => rw [orderedMembers,List.map_cons,ih]; rfl

theorem sorted_twice (members : List (String × Json)) : sorted (sorted members) = sorted members :=
  (List.pairwise_insertionSort Before members).insertionSort_eq

theorem orderedMembers_kept (all : ∀ m ∈ pairs, ordered m.2 = m.2) : orderedMembers pairs = pairs := by
  induction pairs with
  | nil => rfl
  | cons member rest ih =>
    obtain ⟨own,others⟩ := List.forall_mem_cons.mp all
    rw [orderedMembers,own,ih others]

mutual
theorem ordered_twice (v : Json) : ordered (ordered v) = ordered v := by
  cases v with
  | arr items => simp only [ordered,orderedItems_twice items]
  | obj members =>
    have kept : orderedMembers (sorted (orderedMembers members)) = sorted (orderedMembers members) :=
      orderedMembers_kept fun m member => orderedMembers_twice members m (sorted_mem.mp member)
    simp only [ordered,kept,sorted_twice]
  | _ => rfl
theorem orderedItems_twice (items : List Json) : orderedItems (orderedItems items) = orderedItems items := by
  cases items with
  | nil => rfl
  | cons item rest => simp only [orderedItems,ordered_twice item,orderedItems_twice rest]
theorem orderedMembers_twice (members : List (String × Json)) : ∀ m ∈ orderedMembers members, ordered m.2 = m.2 := by
  cases members with
  | nil => nofun
  | cons member rest => exact List.forall_mem_cons.mpr ⟨ordered_twice member.2,orderedMembers_twice rest⟩
end

theorem sorted_all (ok : String × Json → Bool) (members : List (String × Json)) : (sorted members).all ok = members.all ok := by
  rw [Bool.eq_iff_iff,List.all_eq_true,List.all_eq_true]
  simp only [sorted_mem]

mutual
theorem ordered_texts (ok : String → Bool) (v : Json) : (ordered v).EveryText ok = v.EveryText ok := by
  cases v with
  | arr items => exact orderedItems_texts ok items
  | obj members =>
    rw [ordered,Json.EveryText,Json.everyMember_all,sorted_all,← Json.everyMember_all]
    exact orderedMembers_texts ok members
  | _ => rfl
theorem orderedItems_texts (ok : String → Bool) (items : List Json) : Json.EveryItem ok (orderedItems items) = Json.EveryItem ok items := by
  cases items with
  | nil => rfl
  | cons item rest => simp only [orderedItems,Json.EveryItem,ordered_texts ok item,orderedItems_texts ok rest]
theorem orderedMembers_texts (ok : String → Bool) (members : List (String × Json)) :
    Json.EveryMember ok (orderedMembers members) = Json.EveryMember ok members := by
  cases members with
  | nil => rfl
  | cons member rest => simp only [orderedMembers,Json.EveryMember,ordered_texts ok member.2,orderedMembers_texts ok rest]
end

mutual
theorem ordered_numbers (ok : String → Bool) (v : Json) : (ordered v).EveryNumber ok = v.EveryNumber ok := by
  cases v with
  | arr items => exact orderedItems_numbers ok items
  | obj members =>
    rw [ordered,Json.EveryNumber,Json.numberMember_all,sorted_all,← Json.numberMember_all]
    exact orderedMembers_numbers ok members
  | _ => rfl
theorem orderedItems_numbers (ok : String → Bool) (items : List Json) :
    Json.NumberItem ok (orderedItems items) = Json.NumberItem ok items := by
  cases items with
  | nil => rfl
  | cons item rest => simp only [orderedItems,Json.NumberItem,ordered_numbers ok item,orderedItems_numbers ok rest]
theorem orderedMembers_numbers (ok : String → Bool) (members : List (String × Json)) :
    Json.NumberMember ok (orderedMembers members) = Json.NumberMember ok members := by
  cases members with
  | nil => rfl
  | cons member rest => simp only [orderedMembers,Json.NumberMember,ordered_numbers ok member.2,orderedMembers_numbers ok rest]
end

end Jsonb
