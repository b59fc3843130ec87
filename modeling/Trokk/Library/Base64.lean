import Mathlib.Data.List.Basic

-- Unpadded URL-safe base64, read the lenient way: line breaks anywhere are
-- skipped and the unused low bits of a short last group are ignored.
namespace Base64

def digit (c : Char) : Option Nat :=
  if 'A' ≤ c ∧ c ≤ 'Z' then some (c.toNat - 'A'.toNat)
  else if 'a' ≤ c ∧ c ≤ 'z' then some (c.toNat - 'a'.toNat + 26)
  else if '0' ≤ c ∧ c ≤ '9' then some (c.toNat - '0'.toNat + 52)
  else if c = '-' then some 62
  else if c = '_' then some 63
  else none

def letter (n : Nat) : Char :=
  if n < 26 then Char.ofNat ('A'.toNat + n)
  else if n < 52 then Char.ofNat ('a'.toNat + (n - 26))
  else if n < 62 then Char.ofNat ('0'.toNat + (n - 52))
  else if n = 62 then '-' else '_'

def lineBreak (c : Char) : Bool := c = '\r' || c = '\n'

def joinDigits : List Nat → Option (List UInt8)
  | [] => some []
  | [_] => none
  | [a,b] => some [(a*4 + b/16).toUInt8]
  | [a,b,c] => some [(a*4 + b/16).toUInt8,(b%16*16 + c/4).toUInt8]
  | a::b::c::d::rest => (joinDigits rest).map fun bytes =>
      (a*4 + b/16).toUInt8 :: (b%16*16 + c/4).toUInt8 :: (c%4*64 + d).toUInt8 :: bytes

def decode (text : List Char) : Option (List UInt8) :=
  ((text.filter (!lineBreak ·)).mapM digit).bind joinDigits

def encode : List UInt8 → List Char
  | [] => []
  | [a] => [letter (a.toNat/4),letter (a.toNat%4*16)]
  | [a,b] => [letter (a.toNat/4),letter (a.toNat%4*16 + b.toNat/16),letter (b.toNat%16*4)]
  | a::b::c::rest =>
      letter (a.toNat/4) :: letter (a.toNat%4*16 + b.toNat/16) ::
        letter (b.toNat%16*4 + c.toNat/64) :: letter (c.toNat%64) :: encode rest

theorem mapM_some {f : A → Option B} {xs : List A} {ys : List B} (mapped : xs.mapM f = some ys) :
    ∀ x ∈ xs, (f x).isSome := by
  induction xs generalizing ys with
  | nil => simp
  | cons head rest ih =>
    rw [List.mapM_cons] at mapped
    obtain ⟨y,first,later⟩ := Option.bind_eq_some_iff.mp mapped
    obtain ⟨more,others,_⟩ := Option.bind_eq_some_iff.mp later
    intro x member
    rcases List.mem_cons.mp member with rfl | inRest
    · exact Option.isSome_iff_exists.mpr ⟨y,first⟩
    · exact ih others x inRest

-- Only the alphabet and line breaks are ever accepted.
theorem decode_alphabet (decoded : decode text = some bytes) (member : c ∈ text) :
    (digit c).isSome ∨ c = '\r' ∨ c = '\n' := by
  obtain ⟨digits,mapped,_⟩ := Option.bind_eq_some_iff.mp decoded
  by_cases skipped : lineBreak c = true
  · exact .inr (by simpa [lineBreak] using skipped)
  · exact .inl (mapM_some mapped c (List.mem_filter.mpr ⟨member,by simpa using skipped⟩))

theorem decode_no_colon (decoded : decode text = some bytes) : ':' ∉ text := by
  intro member
  rcases decode_alphabet decoded member with found | isReturn | isNewline
  · exact absurd found (by decide)
  · exact absurd isReturn (by decide)
  · exact absurd isNewline (by decide)

-- Sixty-four letters, each read back as its own number.
theorem digit_letter (small : n < 64) : digit (letter n) = some n := by
  have all : ∀ n < 64, digit (letter n) = some n := by decide
  exact all n small

theorem letter_solid (small : n < 64) : lineBreak (letter n) = false := by
  have all : ∀ n < 64, lineBreak (letter n) = false := by decide
  exact all n small

-- The six-bit groups that the letters stand for.
def groups : List UInt8 → List Nat
  | [] => []
  | [a] => [a.toNat/4,a.toNat%4*16]
  | [a,b] => [a.toNat/4,a.toNat%4*16 + b.toNat/16,b.toNat%16*4]
  | a::b::c::rest =>
      a.toNat/4 :: (a.toNat%4*16 + b.toNat/16) :: (b.toNat%16*4 + c.toNat/64) :: (c.toNat%64) :: groups rest

theorem encode_groups (bytes : List UInt8) : encode bytes = (groups bytes).map letter := by
  induction bytes using encode.induct with
  | case1 => rfl
  | case2 => rfl
  | case3 => rfl
  | case4 a b c rest ih => simp [encode,groups,ih]

theorem groups_small (bytes : List UInt8) : ∀ n ∈ groups bytes, n < 64 := by
  induction bytes using groups.induct with
  | case1 => exact fun _ => nofun
  | case2 a =>
    have := a.toNat_lt
    simp only [groups,List.forall_mem_cons]
    exact ⟨by omega,by omega,fun _ => nofun⟩
  | case3 a b =>
    have := a.toNat_lt
    have := b.toNat_lt
    simp only [groups,List.forall_mem_cons]
    exact ⟨by omega,by omega,by omega,fun _ => nofun⟩
  | case4 a b c rest ih =>
    have := a.toNat_lt
    have := b.toNat_lt
    have := c.toNat_lt
    simp only [groups,List.forall_mem_cons]
    exact ⟨by omega,by omega,by omega,by omega,ih⟩

theorem mem_encode {c : Char} (member : c ∈ encode bytes) : ∃ n < 64, c = letter n := by
  rw [encode_groups] at member
  obtain ⟨n,inGroups,rfl⟩ := List.mem_map.mp member
  exact ⟨n,groups_small bytes n inGroups,rfl⟩

theorem byte_of {a : UInt8} (same : n = a.toNat) : n.toUInt8 = a := by
  rw [same]
  exact UInt8.ofNat_toNat

theorem joinDigits_groups (bytes : List UInt8) : joinDigits (groups bytes) = some bytes := by
  induction bytes using groups.induct with
  | case1 => rfl
  | case2 a =>
    have := a.toNat_lt
    simp only [groups,joinDigits]
    rw [byte_of (by omega : a.toNat/4*4 + a.toNat%4*16/16 = a.toNat)]
  | case3 a b =>
    have := a.toNat_lt
    have := b.toNat_lt
    simp only [groups,joinDigits]
    rw [byte_of (by omega : a.toNat/4*4 + (a.toNat%4*16 + b.toNat/16)/16 = a.toNat),
      byte_of (by omega : (a.toNat%4*16 + b.toNat/16)%16*16 + b.toNat%16*4/4 = b.toNat)]
  | case4 a b c rest ih =>
    have := a.toNat_lt
    have := b.toNat_lt
    have := c.toNat_lt
    simp only [groups,joinDigits,ih,Option.map_some]
    rw [byte_of (by omega : a.toNat/4*4 + (a.toNat%4*16 + b.toNat/16)/16 = a.toNat),
      byte_of (by omega : (a.toNat%4*16 + b.toNat/16)%16*16 + (b.toNat%16*4 + c.toNat/64)/4 = b.toNat),
      byte_of (by omega : (b.toNat%16*4 + c.toNat/64)%4*64 + c.toNat%64 = c.toNat)]

theorem mapM_digits {ns : List Nat} (small : ∀ n ∈ ns, n < 64) : (ns.map letter).mapM digit = some ns := by
  induction ns with
  | nil => rfl
  | cons n rest ih =>
    rw [List.map_cons,List.mapM_cons,digit_letter (small n List.mem_cons_self),
      ih fun m member => small m (List.mem_cons_of_mem _ member)]
    rfl

-- Every length: a last group of one byte or of two leaves unused bits that are zero.
theorem decode_encode (bytes : List UInt8) : decode (encode bytes) = some bytes := by
  have solid : (encode bytes).filter (!lineBreak ·) = encode bytes := by
    refine List.filter_eq_self.mpr fun c member => ?_
    obtain ⟨n,small,rfl⟩ := mem_encode member
    rw [letter_solid small,Bool.not_false]
  rw [decode,solid,encode_groups,mapM_digits (groups_small bytes),Option.bind_some,joinDigits_groups]

example : (decode (encode [0,255,17,3])) = some [0,255,17,3] := by decide

end Base64
