import SalesDesk.Number.Decimal
import SalesDesk.Text.CharClass
import SalesDesk.Text.Quoted

/-!
# Integers in free text

People write integers with blanks around them, a sign, digits of any script and single underscores
between digits. At most 4300 digits are read.
-/

namespace SalesDesk.Text

inductive IntegerError where
  | notInteger (text : String)
  | tooManyDigits (count : Nat)
  deriving DecidableEq, Repr

namespace IntegerError

def message : IntegerError → String
  | notInteger text =>
    "invalid literal for int() with base 10: " ++ String.ofList ((quotedChars text.toList).take 200)
  | tooManyDigits count =>
    "Exceeds the limit (4300 digits) for integer string conversion: value has " ++
      toString count ++ " digits; use sys.set_int_max_str_digits() to increase the limit"

end IntegerError

/-- Does every underscore stand alone between two other characters, where it does not stand first? -/
def separatesWell : List Char → Bool
  | [] => true
  | ['_'] => false
  | '_' :: '_' :: _ => false
  | _ :: rest => separatesWell rest

/-- Does every underscore stand alone between two other characters? -/
def isSeparated (cs : List Char) : Bool := cs.head? != some '_' && separatesWell cs

def isRunChar (c : Char) : Bool := c == '_' || (digitValue? c).isSome

def sign : List Char → Bool × List Char
  | '-' :: rest => (true, rest)
  | '+' :: rest => (false, rest)
  | cs => (false, cs)

/-- Reads an integer. The digits are looked at before their number is counted, and what follows them
after that. -/
def readInteger (s : String) : Except IntegerError Int :=
  let (negative, body) := sign (trim isWhiteSpace s.toList)
  let run := body.takeWhile isRunChar
  let ds := run.filterMap digitValue?
  if run = [] ∨ !isSeparated run then .error (.notInteger s)
  else if 4300 < ds.length then .error (.tooManyDigits ds.length)
  else if body.dropWhile isRunChar ≠ [] then .error (.notInteger s)
  else
    let n : Nat := ds.foldl (fun n d => 10 * n + d) 0
    .ok (if negative then -(n : Int) else n)

end SalesDesk.Text
