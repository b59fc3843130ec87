import Mathlib.Data.List.DropRight
import Trokk.Library.Base64
import Trokk.Library.JsonText
import Trokk.Model

-- EncodeCursor and DecodeCursor of internal/model/models.go, down to the bytes:
-- an RFC 3339 timestamp and a hyphenated UUID in a JSON object, in unpadded
-- URL-safe base64.
namespace Trokk

def decimalDigit (n : Nat) : Char := Char.ofNat ('0'.toNat + n % 10)
def nibbleDigit (n : Nat) : Char := if n % 16 < 10 then decimalDigit (n % 16) else Char.ofNat ('a'.toNat + (n % 16 - 10))

-- The lowest `width` digits, zero-padded.
def decimal : Nat → Nat → List Char
  | 0,_ => []
  | width+1,n => decimal width (n / 10) ++ [decimalDigit n]
def hexadecimal : Nat → Nat → List Char
  | 0,_ => []
  | width+1,n => hexadecimal width (n / 16) ++ [nibbleDigit n]

theorem mem_hexadecimal (member : c ∈ hexadecimal width n) : ∃ k < 16, c = nibbleDigit k := by
  induction width generalizing n with
  | zero => exact absurd member List.not_mem_nil
  | succ width ih =>
    cases List.mem_append.mp member with
    | inl higher => exact ih higher
    | inr lowest =>
      rw [List.mem_singleton.mp lowest]
      exact ⟨n % 16,Nat.mod_lt _ (by decide),by simp only [nibbleDigit,Nat.mod_mod]⟩

namespace Uuid

def text (id : Uuid) : List Char :=
  let hex := hexadecimal 32 id.val
  hex.take 8 ++ ['-'] ++ (hex.drop 8).take 4 ++ ['-'] ++ (hex.drop 12).take 4 ++ ['-'] ++
    (hex.drop 16).take 4 ++ ['-'] ++ hex.drop 20

theorem mem_text {id : Uuid} (member : c ∈ id.text) : c = '-' ∨ ∃ k < 16, c = nibbleDigit k := by
  simp only [text,List.mem_append,List.mem_singleton] at member
  rcases member with (((((((a | dash) | b) | dash) | d) | dash) | e) | dash) | f
  · exact .inr (mem_hexadecimal (List.mem_of_mem_take a))
  · exact .inl dash
  · exact .inr (mem_hexadecimal (List.mem_of_mem_drop (List.mem_of_mem_take b)))
  · exact .inl dash
  · exact .inr (mem_hexadecimal (List.mem_of_mem_drop (List.mem_of_mem_take d)))
  · exact .inl dash
  · exact .inr (mem_hexadecimal (List.mem_of_mem_drop (List.mem_of_mem_take e)))
  · exact .inl dash
  · exact .inr (mem_hexadecimal (List.mem_of_mem_drop f))

def readHex (acc : Nat) : List Char → Option Nat
  | [] => some acc
  | c :: rest => (JsonText.hexValue c).bind fun d => readHex (acc*16 + d) rest

def ofHex (hex : List Char) : Option Uuid := (readHex 0 hex).bind fun n =>
  if bound : n < 2^128 then some ⟨n,bound⟩ else none

-- The 36 characters of the standard form; the rest of uuid.Parse reduces to it.
def ofStandard (s : List Char) : Option Uuid :=
  if s.length = 36 ∧ s[8]? = some '-' ∧ s[13]? = some '-' ∧ s[18]? = some '-' ∧ s[23]? = some '-' then
    ofHex (s.take 8 ++ (s.drop 9).take 4 ++ (s.drop 14).take 4 ++ (s.drop 19).take 4 ++ s.drop 24)
  else none

def ascii (c : Char) : Bool := c.toNat < 128

-- uuid.Parse: standard form, urn:uuid: prefix, any one character around the
-- standard form, or 32 bare hex digits.
def Parse (s : List Char) : Option Uuid :=
  if s.length = 36 then ofStandard s
  else if s.length = 45 then
    if (s.take 9).map Char.toLower = ['u','r','n',':','u','u','i','d',':'] then ofStandard (s.drop 9) else none
  else if s.length = 38 then
    if (s.head?.all ascii) && (s.getLast?.all ascii) then ofStandard ((s.drop 1).take 36) else none
  else if s.length = 32 then ofHex s
  else none

end Uuid

-- Days since 1970-01-01 of a proleptic Gregorian date. Years are counted from
-- March, so that the leap day is the last of its year.
def daysOfDate (year : Int) (month day : Nat) : Int :=
  let y := if month ≤ 2 then year - 1 else year
  let yearOfEra := y % 400
  let dayOfYear := (153 * ((month + 9) % 12 : Nat) + 2) / 5 + day - 1
  y / 400 * 146097 + (yearOfEra * 365 + yearOfEra / 4 - yearOfEra / 100 + dayOfYear) - 719468

def dateOfDays (days : Int) : Int × Nat × Nat :=
  let shifted := days + 719468
  let dayOfEra := (shifted % 146097).toNat
  let yearOfEra := (dayOfEra - dayOfEra / 1460 + dayOfEra / 36524 - dayOfEra / 146096) / 365
  let dayOfYear := dayOfEra - (365 * yearOfEra + yearOfEra / 4 - yearOfEra / 100)
  let shiftedMonth := (5 * dayOfYear + 2) / 153
  let day := dayOfYear - (153 * shiftedMonth + 2) / 5 + 1
  let month := if shiftedMonth < 10 then shiftedMonth + 3 else shiftedMonth - 9
  let year := shifted / 146097 * 400 + yearOfEra
  (if month ≤ 2 then year + 1 else year,month,day)

def leapYear (year : Nat) : Bool := year % 4 = 0 && (year % 100 ≠ 0 || year % 400 = 0)

def daysIn (month year : Nat) : Nat :=
  if month = 2 then (if leapYear year then 29 else 28)
  else if month = 4 || month = 6 || month = 9 || month = 11 then 30 else 31

-- The fraction of RFC3339Nano: none for a whole second, else nine digits less
-- the zeros they end in.
def fractionText (nanos : Nat) : List Char :=
  if nanos = 0 then [] else '.' :: (decimal 9 nanos).rdropWhile (· = '0')

def zoneText (offset : Int) : List Char :=
  if offset = 0 then ['Z']
  else (if offset < 0 then '-' else '+') :: decimal 2 (offset.natAbs / 60) ++ [':'] ++ decimal 2 (offset.natAbs % 60)

-- time.Time.MarshalJSON refuses a year beyond four digits and a zone of a day or more.
def Time.text (t : Time) : Option (List Char) :=
  let seconds := t.nanos / 1000000000 + t.offset * 60
  let (year,month,day) := dateOfDays (seconds / 86400)
  let second := (seconds % 86400).toNat
  if 0 ≤ year ∧ year ≤ 9999 ∧ t.offset.natAbs < 24*60 then
    some (decimal 4 year.toNat ++ ['-'] ++ decimal 2 month ++ ['-'] ++ decimal 2 day ++ ['T'] ++
      decimal 2 (second / 3600) ++ [':'] ++ decimal 2 (second / 60 % 60) ++ [':'] ++ decimal 2 (second % 60) ++
      fractionText (t.nanos % 1000000000).toNat ++ zoneText t.offset)
  else none

def digitValue (c : Char) : Option Nat := if c.isDigit then some (c.toNat - '0'.toNat) else none

-- Exactly `width` digits, then the rest.
def readDecimal : Nat → Nat → List Char → Option (Nat × List Char)
  | 0,acc,rest => some (acc,rest)
  | width+1,acc,c :: rest => (digitValue c).bind fun d => readDecimal width (acc*10 + d) rest
  | _+1,_,[] => none

def readBetween (width low high : Nat) (text : List Char) : Option (Nat × List Char) := do
  let (n,rest) ← readDecimal width 0 text
  if low ≤ n ∧ n ≤ high then some (n,rest) else none

def readChar (c : Char) : List Char → Option (List Char)
  | [] => none
  | d :: rest => if d = c then some rest else none

-- Digits beyond the ninth are read and dropped.
def readFraction (text : List Char) : Nat × List Char :=
  match text with
  | '.' :: rest =>
    let (digits,tail) := JsonText.takeDigits rest
    if digits = [] then (0,text)
    else (((digits ++ List.replicate 9 '0').take 9).foldl (fun n c => n*10 + (c.toNat - '0'.toNat)) 0,tail)
  | _ => (0,text)

-- Minutes east of UTC; nothing may follow.
def readZone : List Char → Option Int
  | ['Z'] => some 0
  | sign :: rest => do
    let (hour,rest) ← readBetween 2 0 23 rest
    let rest ← readChar ':' rest
    let (minute,rest) ← readBetween 2 0 59 rest
    if rest ≠ [] then none
    if sign = '+' then some (hour*60 + minute : Nat)
    else if sign = '-' then some (-(hour*60 + minute : Nat))
    else none
  | [] => none

-- time.Time.UnmarshalJSON on what stands between the quotes.
def Time.read (text : List Char) : Option Time := do
  let (year,text) ← readBetween 4 0 9999 text
  let text ← readChar '-' text
  let (month,text) ← readBetween 2 1 12 text
  let text ← readChar '-' text
  let (day,text) ← readBetween 2 1 (daysIn month year) text
  let text ← readChar 'T' text
  let (hour,text) ← readBetween 2 0 23 text
  let text ← readChar ':' text
  let (minute,text) ← readBetween 2 0 59 text
  let text ← readChar ':' text
  let (second,text) ← readBetween 2 0 59 text
  let (fraction,text) := readFraction text
  let offset ← readZone text
  let seconds := daysOfDate year month day * 86400 + (hour*3600 + minute*60 + second : Nat) - offset * 60
  return ⟨seconds * 1000000000 + fraction,offset⟩

-- January 1 of year 1, UTC.
def Time.zero : Time := ⟨-62135596800 * 1000000000,0⟩

def cursorJson (c : Cursor) : Option (List Char) := c.createdAt.text.map fun t =>
  ['{','"','t','"',':','"'] ++ t ++ ['"',',','"','i','d','"',':','"'] ++ c.id.text ++ ['"','}']

-- A cursor that json.Marshal refuses leaves no bytes, and no error is reported.
def EncodeCursor (c : Option Cursor) : String :=
  match c with
  | none => ""
  | some c => String.ofList (Base64.encode (((cursorJson c).getD []).map fun d => d.toNat.toUInt8))

-- One member of the decoded object. Field names match without regard to case,
-- null leaves a field as it is and unknown members are skipped.
def storeMember (c : Cursor) (key : List Char) (v : JsonText.Tree) : Option Cursor :=
  let field := (JsonText.unquote key).map Char.toLower
  if field = ['t'] then
    match v with
    | .null => some c
    | .str raw => (Time.read raw).map fun t => {c with createdAt := t}
    | _ => none
  else if field = ['i','d'] then
    match v with
    | .null => some c
    | .str raw => (Uuid.Parse (JsonText.unquote raw)).map fun id => {c with id := id}
    | _ => none
  else some c

-- encoding/json stops below 10000 open brackets.
def maxNestingDepth : Nat := 10000

-- Bytes above ASCII can only stand inside a string, and no field name, timestamp
-- or UUID contains one: which character such a byte becomes does not matter.
def unmarshalCursor (bytes : List UInt8) : Option Cursor :=
  (JsonText.parse maxNestingDepth (bytes.map fun b => Char.ofNat b.toNat)).bind fun tree =>
    match tree with
    | .null => some ⟨Time.zero,0⟩
    | .obj members => members.foldlM (fun c (key,v) => storeMember c key v) ⟨Time.zero,0⟩
    | _ => none

inductive DecodeError where
  | malformed
  deriving DecidableEq, Repr

def DecodeCursor (s : String) : Except DecodeError (Option Cursor) :=
  if s = "" then .ok none
  else match (Base64.decode s.toList).bind unmarshalCursor with
    | some c => .ok (some c)
    | none => .error .malformed

theorem decoded_base64 (decoded : DecodeCursor s = .ok c) (nonempty : s ≠ "") :
    ∃ bytes, Base64.decode s.toList = some bytes ∧ (unmarshalCursor bytes).isSome := by
  unfold DecodeCursor at decoded
  rw [if_neg nonempty] at decoded
  split at decoded
  · rename_i cursor found
    obtain ⟨bytes,base,json⟩ := Option.bind_eq_some_iff.mp found
    exact ⟨bytes,base,by simp [json]⟩
  · cases decoded

-- The reserved word of the newest page is base64, but of a byte no JSON text
-- can start with.
theorem latest_rejected : DecodeCursor "latest" = .error .malformed := by
  have bytes : Base64.decode "latest".toList = some [0x95,0xab,0x5e,0xb2] := by decide
  have text : unmarshalCursor [0x95,0xab,0x5e,0xb2] = none := by
    simp only [unmarshalCursor,List.map_cons]
    rw [JsonText.parse_start (by decide) (by decide)]
    rfl
  unfold DecodeCursor
  rw [if_neg (by decide),bytes,Option.bind_some,text]

end Trokk
