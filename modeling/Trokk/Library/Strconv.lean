import Mathlib.Algebra.Group.Int.Defs
import Mathlib.Algebra.Group.Nat.Defs
import Mathlib.Data.Int.Order.Basic

-- strconv.Atoi of Go's standard library and the arithmetic of a 64-bit int.
namespace Strconv

-- An int that is too large or too small comes back at the other end.
def int64 (n : Int) : Int := n.bmod (2^64)

def maxUint64 : Nat := 2^64 - 1

inductive Failure where
  | malformed
  | range
  deriving DecidableEq

def digit (c : Char) : Nat := c.toNat - '0'.toNat

-- The loop of ParseUint. It ends where the number no longer fits, whatever follows.
def digits : Nat → List Char → Nat × Option Failure
  | n,[] => (n,none)
  | n,c :: rest =>
    if !c.isDigit then (0,some .malformed)
    else if maxUint64 < n*10 + digit c then (maxUint64,some .range)
    else digits (n*10 + digit c) rest

def ParseUint (text : List Char) : Nat × Option Failure :=
  if text = [] then (0,some .malformed) else digits 0 text

-- A number out of range comes with the nearest int that there is.
def signed (negative : Bool) (text : List Char) : Int × Option Failure :=
  match ParseUint text with
  | (_,some .malformed) => (0,some .malformed)
  | (un,_) =>
    if !negative && un ≥ 2^63 then (2^63 - 1,some .range)
    else if negative && un > 2^63 then (-2^63,some .range)
    else (if negative then -un else un,none)

def Atoi : List Char → Int × Option Failure
  | '+' :: text => signed false text
  | '-' :: text => signed true text
  | text => signed false text

theorem int64_exact (nonneg : 0 ≤ n) : int64 n = n ↔ n < 2^63 := by
  unfold int64
  constructor
  · intro same
    have bound := @Int.bmod_lt n (2^64) (by decide)
    rw [same] at bound
    simpa using bound
  · intro small
    exact Int.bmod_eq_of_le_mul_two (by simp; omega) (by simp; omega)

theorem signed_range (negative : Bool) (text : List Char) : -2^63 ≤ (signed negative text).1 ∧ (signed negative text).1 < 2^63 := by
  unfold signed
  split
  · decide
  · rename_i un failure _ _
    split
    · decide
    · rename_i above
      split
      · decide
      · rename_i below
        cases negative with
        | false =>
          have less : un < 2^63 := by simpa using above
          simp only [Bool.false_eq_true,if_false]
          omega
        | true =>
          have most : un ≤ 2^63 := by simpa using below
          simp only [if_true]
          omega

theorem Atoi_range (text : List Char) : -2^63 ≤ (Atoi text).1 ∧ (Atoi text).1 < 2^63 := by
  unfold Atoi
  split <;> exact signed_range _ _

theorem ofDigitChars_le (text : List Char) (n : Nat) : n ≤ Nat.ofDigitChars 10 text n := by
  induction text generalizing n with
  | nil => exact Nat.le_refl _
  | cons c rest ih =>
    rw [Nat.ofDigitChars_cons]
    have := ih (10 * n + (c.toNat - '0'.toNat))
    omega

-- The loop computes the number that the digits stand for.
theorem digits_value {text : List Char} (numeral : ∀ c ∈ text, c.isDigit = true) (fits : Nat.ofDigitChars 10 text n ≤ maxUint64) :
    digits n text = (Nat.ofDigitChars 10 text n,none) := by
  induction text generalizing n with
  | nil => rfl
  | cons c rest ih =>
    have own := numeral c List.mem_cons_self
    rw [Nat.ofDigitChars_cons,Nat.mul_comm] at fits ⊢
    have below := ofDigitChars_le rest (n * 10 + (c.toNat - '0'.toNat))
    have small : ¬ maxUint64 < n*10 + digit c := by
      unfold digit
      omega
    rw [digits,own,if_neg (by decide),if_neg small]
    exact ih (fun d member => numeral d (List.mem_cons_of_mem _ member)) fits

-- What strconv.Itoa wrote is read back.
theorem Atoi_toString {n : Nat} (small : n < 2^63) : Atoi (toString n).toList = ((n : Int),none) := by
  have text : (toString n).toList = Nat.toDigits 10 n := Nat.toList_repr
  have numeral : ∀ c ∈ Nat.toDigits 10 n, c.isDigit = true := fun c member =>
    Nat.isDigit_of_mem_toDigits (by decide) (by decide) member
  have value : ParseUint (Nat.toDigits 10 n) = (n,none) := by
    have fits : Nat.ofDigitChars 10 (Nat.toDigits 10 n) 0 ≤ maxUint64 := by
      rw [Nat.ofDigitChars_ten_toDigits]
      exact Nat.le_trans (Nat.le_of_lt small) (by decide)
    rw [ParseUint,if_neg Nat.toDigits_ne_nil,digits_value numeral fits,Nat.ofDigitChars_ten_toDigits]
  have unsigned : Atoi (Nat.toDigits 10 n) = signed false (Nat.toDigits 10 n) := by
    unfold Atoi
    split
    · rename_i same
      exact absurd (numeral '+' (same ▸ List.mem_cons_self)) (by decide)
    · rename_i same
      exact absurd (numeral '-' (same ▸ List.mem_cons_self)) (by decide)
    · rfl
  rw [text,unsigned,signed,value]
  simp only [Bool.not_false,Bool.true_and,ge_iff_le,decide_eq_true_eq,if_neg (Nat.not_le.mpr small)]
  rfl

end Strconv
