import SalesDesk.Number.Binary64
import SalesDesk.Text.Integer

/-!
# Numbers in free text

People write numbers with blanks around them, a sign, a point, an exponent and single underscores,
or as the words for infinity and for no number at all.
-/

namespace SalesDesk.Text

/-- The digits at the front and the text after them. -/
def spanDigits (cs : List Char) : List Char × List Char :=
  (cs.takeWhile Char.isDigit, cs.dropWhile Char.isDigit)

/-- An exponent that ends the text; no exponent is zero. -/
def endingExponent : List Char → Option Int
  | [] => some 0
  | mark :: rest =>
    if mark = 'e' ∨ mark = 'E' then
      let (negative, body) := sign rest
      let (ds, after) := spanDigits body
      if ds = [] ∨ after ≠ [] then none
      else some (if negative then -(Decimal.ofDigits ds : Int) else Decimal.ofDigits ds)
    else none

/-- Reads digits with a point among or beside them, and an exponent. -/
def readDecimal (negative : Bool) (cs : List Char) : Option Binary64 :=
  let (whole, rest) := spanDigits cs
  let (places, rest) := match rest with
    | '.' :: rest => spanDigits rest
    | rest => ([], rest)
  if whole = [] ∧ places = [] then none
  else (endingExponent rest).map fun e =>
    .ofDecimal negative (Decimal.ofDigits (whole ++ places)) (e - places.length)

/-- Reads a number that has no blanks and no underscores. -/
def readPlainReal (cs : List Char) : Option Binary64 :=
  let (negative, body) := sign cs
  let word := String.ofList (body.map Char.toLower)
  if word = "inf" ∨ word = "infinity" then some (.infinite negative)
  else if word = "nan" then some .nan
  else readDecimal negative body

def readReal (s : String) : Option Binary64 :=
  match readPlainReal (trim isWhiteSpace s.toList) with
  | some x => some x
  | none =>
    if isSeparated s.toList then readPlainReal (s.toList.filter (· ≠ '_'))
    else none

end SalesDesk.Text
