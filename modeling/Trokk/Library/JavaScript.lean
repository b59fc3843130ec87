import Mathlib.Algebra.Field.Rat
import Mathlib.Algebra.Order.Ring.Rat
import Mathlib.Algebra.Order.Field.Basic
import Trokk.Library.Json

-- What pages of React do with values that JSON.parse made: only whether it throws.
-- undefined is read as null: neither is shown, and `?.` and `!= null` treat them alike.
namespace JavaScript

def digits (text : List Char) : Nat := Nat.ofDigitChars 10 text 0

def exponent : List Char → Option Int
  | [] => some 0
  | e :: text => if e = 'e' ∨ e = 'E' then
      match text with
      | '-' :: power => some (-digits power)
      | '+' :: power => some (digits power)
      | power => some (digits power)
    else none

-- The exact value of a numeral of JSON.
def decimal (literal : String) : Option Rat :=
  let (sign,text) : Rat × List Char := match literal.toList with
    | '-' :: text => (-1,text)
    | text => (1,text)
  let (whole,text) := text.span Char.isDigit
  let (part,text) := match text with
    | '.' :: text => text.span Char.isDigit
    | text => ([],text)
  if whole = [] then none
  else (exponent text).map fun power => sign * digits (whole ++ part) * (10 : Rat) ^ (power - (part.length : Int))

-- The double nearest to the value is one from 0 to 1; a tie goes to the even one.
def unitNumber (literal : String) : Bool := match decimal literal with
  | none => false
  | some v => -(1 / 2 ^ 1075) ≤ v && v ≤ 1 + 1 / 2 ^ 53

def nonzero (literal : String) : Bool := match decimal literal with
  | none => literal ≠ "NaN"
  | some v => v < -(1 / 2 ^ 1075) || 1 / 2 ^ 1075 < v

def truthy : Json → Bool
  | .null => false
  | .bool value => value
  | .num literal => nonzero literal
  | .str text => text ≠ ""
  | .arr _ => true
  | .obj _ => true

def get (v : Json) (key : String) : Json := match v with
  | .obj members => (members.lookup key).getD .null
  | _ => .null

-- The conversion of objects to numbers and texts ends at their toString, which no
-- function of JSON can be; that of arrays joins their items.
mutual
def convertible : Json → Bool
  | .arr items => convertibles items
  | .obj members => !(members.map Prod.fst).contains "toString"
  | _ => true
def convertibles : List Json → Bool
  | [] => true
  | item :: rest => convertible item && convertibles rest
end

-- `v?.length > 0 && v.map(..)`: the items, nothing, or an exception. `positive` tells
-- what the comparison says of an object's own length.
def listed (positive : Json → Bool) : Json → Option (List Json)
  | .arr items => some items
  | .str text => if text = "" then some [] else none
  | .obj members => match members.lookup "length" with
    | none => some []
    | some length => if convertible length && !positive length then some [] else none
  | _ => some []

-- A child of an element: objects are refused.
mutual
def child : Json → Bool
  | .arr items => children items
  | .obj _ => false
  | _ => true
def children : List Json → Bool
  | [] => true
  | item :: rest => child item && children rest
end

end JavaScript
