import Mathlib.Data.List.DropRight
import Trokk.Library.Json
import Trokk.Library.JsonText

-- str.strip, the affix slices and json.loads of Python's standard library. A lone
-- surrogate, which no text here can hold, is read as U+FFFD.
namespace Python
open JsonText (skip hexQuad stringBody unquote takeMinus takeDigits fraction exponent)

-- str.isspace
def space (c : Char) : Bool :=
  ('\x09' ≤ c && c ≤ '\x0d') || ('\x1c' ≤ c && c ≤ ' ') || c = '\u0085' || c = '\u00a0' || c = '\u1680' ||
    ('\u2000' ≤ c && c ≤ '\u200a') || c = '\u2028' || c = '\u2029' || c = '\u202f' || c = '\u205f' || c = '\u3000'

def strip (text : List Char) : List Char := (text.dropWhile space).rdropWhile space

-- if text.startswith(start): text = text[len(start):]
def dropStart (start text : List Char) : List Char := if start <+: text then text.drop start.length else text
-- if text.endswith(end): text = text[:-len(end)]
def dropEnd (ending text : List Char) : List Char := if ending <:+ text then text.rdrop ending.length else text

-- int() refuses more digits than this.
def maxDigits : Nat := 4300

-- What json.loads raises: JSONDecodeError, the ValueError of int(), or RecursionError.
inductive Failure where
  | decode
  | digits
  | recursion
  deriving DecidableEq

-- A dict keeps the place of a repeated key and its last value.
def store (key : String) (value : Json) : List (String × Json) → List (String × Json)
  | [] => [(key,value)]
  | (other,old) :: rest => if other = key then (key,value) :: rest else (other,old) :: store key value rest

def dict (pairs : List (String × Json)) : List (String × Json) := pairs.foldl (fun members (key,value) => store key value members) []

def word (word : List Char) (meaning : Json) (text : List Char) : Except Failure (Json × List Char) :=
  if word <+: text then .ok (meaning,text.drop word.length) else .error .decode

-- A leading zero stands alone, and a bare point or exponent is left to what follows.
def wholeDigits : List Char → List Char × List Char
  | '0' :: rest => (['0'],rest)
  | text => takeDigits text

def number (text : List Char) : Option (List Char × List Char) :=
  let (sign,text) := takeMinus text
  let (digits,text) := wholeDigits text
  if digits = [] then none
  else
    let (frac,text) := (fraction text).getD ([],text)
    let (exp,text) := (exponent text).getD ([],text)
    some (sign ++ digits ++ frac ++ exp,text)

def integer (lexeme : List Char) : Bool := lexeme.all fun c => c = '-' || c.isDigit

-- Half a unit above the greatest double: from here on float() rounds to infinity.
def overflow : Nat := Nat.pow 2 1024 - Nat.pow 2 970

def natural (digits : List Char) : Nat := digits.foldl (fun n c => 10 * n + (c.toNat - '0'.toNat)) 0

def float (lexeme : List Char) : String :=
  let mantissa := lexeme.takeWhile fun c => c ≠ 'e' && c ≠ 'E'
  let power := lexeme.drop mantissa.length
  let magnitude : Int := natural (power.filter Char.isDigit)
  let scale : Int := (if '-' ∈ power then -magnitude else magnitude) - (mantissa.dropWhile (· ≠ '.')).tail.length
  if overflow * Nat.pow 10 (-scale).toNat ≤ natural (mantissa.filter Char.isDigit) * Nat.pow 10 scale.toNat then
    if lexeme.head? = some '-' then "-Infinity" else "Infinity"
  else String.ofList lexeme

-- The literal of the number that int() or float() makes of the text.
def spelling (lexeme : List Char) : String := if integer lexeme then String.ofList lexeme else float lexeme

def long (lexeme : List Char) : Bool := integer lexeme && (lexeme.filter Char.isDigit).length > maxDigits

def numeral (text : List Char) : Except Failure (Json × List Char) :=
  match number text with
  | none => .error .decode
  | some (lexeme,tail) => if long lexeme then .error .digits else .ok (.num (spelling lexeme),tail)

def surrogate (unit : Nat) : Bool := 0xD800 ≤ unit && unit < 0xE000

-- Every escape of a surrogate is one of a pair.
def paired : List Char → Bool
  | [] => true
  | '\\' :: 'u' :: h1 :: h2 :: h3 :: h4 :: '\\' :: 'u' :: l1 :: l2 :: l3 :: l4 :: rest =>
    let high := hexQuad h1 h2 h3 h4
    let low := hexQuad l1 l2 l3 l4
    if surrogate high && high < 0xDC00 && 0xDC00 ≤ low && low < 0xE000 then paired rest
    else !surrogate high && paired ('\\' :: 'u' :: l1 :: l2 :: l3 :: l4 :: rest)
  | '\\' :: 'u' :: h1 :: h2 :: h3 :: h4 :: rest => !surrogate (hexQuad h1 h2 h3 h4) && paired rest
  | '\\' :: _ :: rest => paired rest
  | _ :: rest => paired rest

def quoted (text : List Char) : Except Failure (String × List Char) :=
  match stringBody text with
  | none => .error .decode
  | some (raw,tail) => .ok (String.ofList (unquote raw),tail)

-- `depth` counts the brackets that the interpreter still lets the scanner open. Twice
-- the length of the text is always enough fuel.
mutual
def value : Nat → Nat → List Char → Except Failure (Json × List Char)
  | 0,_,_ => .error .decode
  | _,_,[] => .error .decode
  | fuel+1,depth,c :: rest =>
    if c = '"' then (quoted rest).map fun (text,tail) => (.str text,tail)
    else if c = '[' then
      match depth,skip rest with
      | 0,_ => .error .recursion
      | _+1,']' :: tail => .ok (.arr [],tail)
      | depth+1,text => (elements fuel depth text).map fun (items,tail) => (.arr items,tail)
    else if c = '{' then
      match depth,skip rest with
      | 0,_ => .error .recursion
      | _+1,'}' :: tail => .ok (.obj [],tail)
      | depth+1,text => (members fuel depth text).map fun (pairs,tail) => (.obj (dict pairs),tail)
    else if c = 'n' then word ['n','u','l','l'] .null (c :: rest)
    else if c = 't' then word ['t','r','u','e'] (.bool true) (c :: rest)
    else if c = 'f' then word ['f','a','l','s','e'] (.bool false) (c :: rest)
    else if c = 'N' then word "NaN".toList (.num "NaN") (c :: rest)
    else if c = 'I' then word "Infinity".toList (.num "Infinity") (c :: rest)
    else if "-Infinity".toList <+: c :: rest then .ok (.num "-Infinity",(c :: rest).drop 9)
    else numeral (c :: rest)
def elements : Nat → Nat → List Char → Except Failure (List Json × List Char)
  | 0,_,_ => .error .decode
  | fuel+1,depth,text => do
    let (item,text) ← value fuel depth text
    match skip text with
    | ']' :: tail => return ([item],tail)
    | ',' :: more => do
      let (items,tail) ← elements fuel depth (skip more)
      return (item :: items,tail)
    | _ => .error .decode
def members : Nat → Nat → List Char → Except Failure (List (String × Json) × List Char)
  | 0,_,_ => .error .decode
  | fuel+1,depth,text =>
    match text with
    | '"' :: rest => do
      let (key,text) ← quoted rest
      match skip text with
      | ':' :: rest => do
        let (item,text) ← value fuel depth (skip rest)
        match skip text with
        | '}' :: tail => return ([(key,item)],tail)
        | ',' :: more => do
          let (pairs,tail) ← members fuel depth (skip more)
          return ((key,item) :: pairs,tail)
        | _ => .error .decode
      | _ => .error .decode
    | _ => .error .decode
end

def loads (depth : Nat) (text : List Char) : Except Failure Json := do
  let (value,tail) ← value (2 * text.length + 1) depth (skip text)
  if skip tail = [] then return value else .error .decode

-- The type's name, as an error message prints it.
def typeName : Json → String
  | .null => "NoneType"
  | .bool _ => "bool"
  | .num literal => if integer literal.toList then "int" else "float"
  | .str _ => "str"
  | .arr _ => "list"
  | .obj _ => "dict"

end Python
