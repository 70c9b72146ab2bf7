import SalesDesk.Number.Word
import SalesDesk.Text.Integer

/-!
# Whole numbers in data

Where data asks for a whole number, a text will do that holds one in ASCII digits, with blanks around
it, a sign, zeros in front, single underscores between digits, and a point that only zeros follow. A
number of one word is read with any sign and any zeros; a longer one needs its shortest form.
-/

namespace SalesDesk.Text

inductive WholeNumberError where
  | malformed
  /-- There are more digits than are accepted. -/
  | tooLong
  deriving DecidableEq, Repr

namespace WholeNumber

/-- The most characters of a number, its sign included. -/
def maxLength : Nat := 4300

/-- The number of a word that is written with digits and perhaps a sign. -/
def word? (cs : List Char) : Option Int :=
  let (negative, body) := sign cs
  if body ≠ [] ∧ body.all Char.isDigit then
    let n : Int := Decimal.ofDigits body
    let n := if negative then -n else n
    if Word.fits 64 n then some n else none
  else none

def isNonzeroDigit (c : Char) : Bool := c.isDigit && c != '0'

/-- What is left of a text when zeros and underscores are dropped that follow a first zero. A zero
stays in front of a point, and so does the last character of a text that holds nothing else. -/
def afterZeros (last : Char) : List Char → Option (List Char)
  | [] => some [last]
  | c :: rest =>
    if c = '0' ∨ c = '_' then afterZeros c rest
    else if c = '.' then some (last :: c :: rest)
    else if isNonzeroDigit c ∨ c = '-' then some (c :: rest)
    else none

/-- A text without the zeros at its front. -/
def withoutZeros? : List Char → Option (List Char)
  | [] => none
  | c :: rest =>
    if c = '0' then afterZeros c rest
    else if isNonzeroDigit c ∨ c = '-' ∨ c = '+' then some (c :: rest)
    else none

/-- A text without a point and the zeros after it, of which there must be one. -/
def withoutPlaces? (cs : List Char) : Option (List Char) :=
  match cs.dropWhile (· ≠ '.') with
  | [] => some cs
  | _ :: places =>
    if places ≠ [] ∧ places.all (· = '0') then some (cs.takeWhile (· ≠ '.')) else none

/-- A text without underscores, if they stand as they should. -/
def withoutUnderscores (cs : List Char) : List Char :=
  if isSeparated cs then cs.filter (· ≠ '_') else cs

def plain (cs : List Char) : Except WholeNumberError Int :=
  let (negative, body) := match cs with
    | '-' :: body => (true, body)
    | body => (false, body)
  let ds := body.takeWhile Char.isDigit
  if ds = [] ∨ ds.head? = some '0' then .error .malformed
  else if maxLength < ds.length + (if negative then 1 else 0) then .error .tooLong
  else if ds.length < body.length then .error .malformed
  else
    let n : Int := Decimal.ofDigits ds
    .ok (if negative then -n else n)

def cleaned (cs : List Char) : Except WholeNumberError Int :=
  match (withoutZeros? cs).bind withoutPlaces? with
  | none => .error .malformed
  | some cs =>
    let cs := withoutUnderscores cs
    match word? cs with
    | some n => .ok n
    | none => plain cs

end WholeNumber

def readWholeNumber (s : String) : Except WholeNumberError Int :=
  let cs := trim isWhiteSpace s.toList
  match WholeNumber.word? cs with
  | some n => .ok n
  | none => WholeNumber.cleaned cs

end SalesDesk.Text
