import Mathlib.Data.List.DropRight

-- A URL's query: what a browser sends of it, and how a server reads a value back out.
-- A received byte is written as the character of its number.
namespace UrlQuery

def hexDigit (n : Nat) : Char := if n < 10 then Char.ofNat ('0'.toNat + n) else Char.ofNat ('A'.toNat + (n - 10))

def percent (byte : UInt8) : List Char := ['%',hexDigit (byte.toNat / 16),hexDigit (byte.toNat % 16)]

-- The special-query percent-encode set.
def encoded (c : Char) : Bool := c ≤ ' ' || c = '"' || c = '#' || c = '<' || c = '>' || c = '\'' || '~' < c

def encodeChar (c : Char) : List Char :=
  if encoded c then (String.singleton c).toUTF8.toList.flatMap percent else [c]

def lineBreak (c : Char) : Bool := c = '\t' || c = '\n' || c = '\r'

-- A URL ends before its trailing blanks, loses its tabs and line breaks wherever they
-- stand, and is sent without its fragment.
def sent (query : List Char) : List Char :=
  (((query.rdropWhile (· ≤ ' ')).filter (!lineBreak ·)).takeWhile (· ≠ '#')).flatMap encodeChar

def cut (separator : Char) (text : List Char) : List Char × List Char :=
  (text.takeWhile (· ≠ separator),(text.dropWhile (· ≠ separator)).drop 1)

def unhex (c : Char) : Option Nat :=
  if '0' ≤ c ∧ c ≤ '9' then some (c.toNat - '0'.toNat)
  else if 'a' ≤ c ∧ c ≤ 'f' then some (c.toNat - 'a'.toNat + 10)
  else if 'A' ≤ c ∧ c ≤ 'F' then some (c.toNat - 'A'.toNat + 10)
  else none

def unescape : List Char → Option (List Char)
  | [] => some []
  | '%' :: high :: low :: rest => do
    let h ← unhex high
    let l ← unhex low
    return Char.ofNat (h*16 + l) :: (← unescape rest)
  | '%' :: _ => none
  | '+' :: rest => (unescape rest).map (' ' :: ·)
  | c :: rest => (unescape rest).map (c :: ·)

-- One name=value piece. A piece with a semicolon or a broken escape is passed over.
def piece (text : List Char) : Option (List Char × List Char) :=
  if text = [] ∨ ';' ∈ text then none
  else do
    let name ← unescape (cut '=' text).1
    let value ← unescape (cut '=' text).2
    return (name,value)

-- The first value under the name.
def get (name query : List Char) : Option (List Char) :=
  (((query.splitOn '&').filterMap piece).find? (·.1 = name)).map Prod.snd

-- The characters that both ends leave as they are wherever they stand.
def unreserved : List Char := "ABCDEFGHIJKLMNOPQRSTUVWXYZabcdefghijklmnopqrstuvwxyz0123456789-._~".toList

theorem unreserved_kept : ∀ c ∈ '=' :: '&' :: unreserved, encodeChar c = [c] ∧ lineBreak c = false ∧ c ≠ '#' ∧ ¬ c ≤ ' ' := by
  have all : ('=' :: '&' :: unreserved).all (fun c =>
      encodeChar c = [c] && (lineBreak c = false) && c ≠ '#' && decide (¬ c ≤ ' ')) = true := by decide
  intro c member
  simpa only [Bool.and_eq_true,decide_eq_true_eq,and_assoc] using List.all_eq_true.mp all c member

theorem unreserved_apart : ∀ c ∈ unreserved, c ≠ '%' ∧ c ≠ '+' ∧ c ≠ '=' ∧ c ≠ '&' ∧ c ≠ ';' := by
  have all : unreserved.all (fun c => c ≠ '%' && c ≠ '+' && c ≠ '=' && c ≠ '&' && c ≠ ';') = true := by decide
  intro c member
  simpa only [Bool.and_eq_true,decide_eq_true_eq,and_assoc] using List.all_eq_true.mp all c member

-- What comes after them does not touch them either.
theorem sent_front {front : List Char} (kept : ∀ c ∈ front, c ∈ '=' :: '&' :: unreserved)
    (rest : List Char) : ∃ more, sent (front ++ rest) = front ++ more ∧ (rest = [] → more = []) := by
  have ended : (front ++ rest).rdropWhile (· ≤ ' ') = front ++ rest.rdropWhile (· ≤ ' ') := by
    have stays : front.rdropWhile (· ≤ ' ') = front := by
      rw [List.rdropWhile_eq_self_iff]
      intro some'
      have last := (unreserved_kept _ (kept _ (List.getLast_mem some'))).2.2.2
      simpa using last
    unfold List.rdropWhile at stays ⊢
    rw [List.reverse_append,List.dropWhile_append]
    split
    · rename_i blank
      rw [stays,List.isEmpty_iff.mp blank,List.reverse_nil,List.append_nil]
    · rw [List.reverse_append,List.reverse_reverse]
  have solid : front.filter (!lineBreak ·) = front :=
    List.filter_eq_self.mpr fun c member => by rw [(unreserved_kept c (kept c member)).2.1,Bool.not_false]
  have whole : ∀ c ∈ front, decide (c ≠ '#') = true := fun c member => decide_eq_true (unreserved_kept c (kept c member)).2.2.1
  have same : front.flatMap encodeChar = front := by
    rw [List.flatMap_congr fun c member => (unreserved_kept c (kept c member)).1,List.flatMap_singleton']
  refine ⟨(((rest.rdropWhile (· ≤ ' ')).filter (!lineBreak ·)).takeWhile (· ≠ '#')).flatMap encodeChar,?_,?_⟩
  · rw [sent,ended,List.filter_append,solid,List.takeWhile_append_of_pos whole,List.flatMap_append,same]
  · intro empty
    rw [empty]
    rfl

theorem unescape_plain {text : List Char} (plain : ∀ c ∈ text, c ∈ unreserved) : unescape text = some text := by
  induction text with
  | nil => rfl
  | cons c rest ih =>
    have apart := unreserved_apart c (plain c List.mem_cons_self)
    have later := ih fun d member => plain d (List.mem_cons_of_mem _ member)
    rw [unescape.eq_def]
    split
    · contradiction
    · simp_all
    · simp_all
    · simp_all
    · rename_i same
      cases same
      rw [later,Option.map_some]

theorem cut_plain {name : List Char} (plain : ∀ c ∈ name, c ∈ unreserved) (value : List Char) :
    cut '=' (name ++ '=' :: value) = (name,value) := by
  have before : ∀ c ∈ name, decide (c ≠ '=') = true := fun c member => decide_eq_true (unreserved_apart c (plain c member)).2.2.1
  rw [cut,List.takeWhile_append_of_pos before,List.dropWhile_append_of_pos before]
  simp

theorem piece_plain {name value : List Char} (plain : ∀ c ∈ name, c ∈ unreserved) (plain' : ∀ c ∈ value, c ∈ unreserved) :
    piece (name ++ '=' :: value) = some (name,value) := by
  have well : ¬ (name ++ '=' :: value = [] ∨ ';' ∈ name ++ '=' :: value) := by
    rintro (empty | semicolon)
    · simp at empty
    · rcases List.mem_append.mp semicolon with inName | inRest
      · exact absurd rfl (unreserved_apart _ (plain _ inName)).2.2.2.2
      · rcases List.mem_cons.mp inRest with impossible | inValue
        · exact absurd impossible (by decide)
        · exact absurd rfl (unreserved_apart _ (plain' _ inValue)).2.2.2.2
  rw [piece,if_neg well,cut_plain plain,unescape_plain plain,unescape_plain plain']
  rfl

-- A value written into the query as it is, first under its name, is read as it was.
theorem get_first {name value : List Char} (plain : ∀ c ∈ name, c ∈ unreserved) (plain' : ∀ c ∈ value, c ∈ unreserved)
    (rest : List Char) (more : rest = [] ∨ ∃ others, rest = '&' :: others) :
    get name (sent (name ++ '=' :: value ++ rest)) = some value := by
  have kept : ∀ c ∈ name ++ '=' :: value, c ∈ '=' :: '&' :: unreserved := by
    intro c member
    rcases List.mem_append.mp member with inName | inRest
    · exact List.mem_cons_of_mem _ (List.mem_cons_of_mem _ (plain c inName))
    · rcases List.mem_cons.mp inRest with rfl | inValue
      · exact List.mem_cons_self
      · exact List.mem_cons_of_mem _ (List.mem_cons_of_mem _ (plain' c inValue))
  have unsplit : '&' ∉ name ++ '=' :: value := by
    intro member
    rcases List.mem_append.mp member with inName | inRest
    · exact absurd rfl (unreserved_apart _ (plain _ inName)).2.2.2.1
    · rcases List.mem_cons.mp inRest with impossible | inValue
      · exact absurd impossible (by decide)
      · exact absurd rfl (unreserved_apart _ (plain' _ inValue)).2.2.2.1
  have read (pieces : List (List Char)) :
      (((name ++ '=' :: value) :: pieces).filterMap piece).find? (·.1 = name) = some (name,value) := by
    rw [List.filterMap_cons_some (piece_plain plain plain'),List.find?_cons_of_pos (by simp)]
  rcases more with rfl | ⟨others,rfl⟩
  · obtain ⟨more,whole,nothing⟩ := sent_front kept []
    rw [get,whole,nothing rfl,List.append_nil,List.splitOn_eq_singleton unsplit,read]
    rfl
  · have kept' : ∀ c ∈ name ++ '=' :: value ++ ['&'], c ∈ '=' :: '&' :: unreserved := by
      intro c member
      rcases List.mem_append.mp member with inPiece | amp
      · exact kept c inPiece
      · rw [List.mem_singleton.mp amp]
        exact List.mem_cons_of_mem _ List.mem_cons_self
    obtain ⟨more,whole,-⟩ := sent_front kept' others
    rw [get,List.append_cons,whole,← List.append_cons,List.splitOn_append_cons_self_of_not_mem unsplit,read]
    rfl

end UrlQuery
