import SalesDesk.Number.Binary64

/-!
# Decimal text of numbers

A binary64 number is written with the fewest decimal digits that read back as that number, and of
the decimals with so few digits the nearest one is taken. The search goes from coarse to fine
powers of ten; if a multiple of a power reads back, so does one of the two multiples around the
value, so only these are tried.
-/

namespace SalesDesk.Decimal

open Binary64

/-- The decimal digits of a natural number, without leading zeros. -/
def digits (n : Nat) : List Char := Nat.toDigits 10 n

/-- The number that a list of decimal digits denotes. -/
def ofDigits (cs : List Char) : Nat :=
  cs.foldl (fun n c => 10 * n + (c.toNat - '0'.toNat)) 0

/-- The decimal digits of an integer, after its sign. -/
def intText (n : Int) : List Char :=
  if n < 0 then '-' :: digits n.natAbs else digits n.natAbs

/-- The number written in at least `width` digits. -/
def padded (width n : Nat) : List Char :=
  let ds := digits n
  List.replicate (width - ds.length) '0' ++ ds

/-- The greatest exponent whose power of ten is at most a positive quotient. -/
def leadingExponent (num den : Nat) : Int :=
  let low := ((num.log2 : Int) - den.log2 - 1) * 30103 / 100000
  let reaches (e : Int) : Bool := decide (tenTo e.toNat * den ≤ num * tenTo (-e).toNat)
  if reaches (low + 2) then low + 2 else if reaches (low + 1) then low + 1 else low

/-- The two multiples of `10 ^ exponent` around a value, the nearer one first, and the even one
first where the value lies in the middle. -/
def neighbours (x : Magnitude) (exponent : Int) : List Nat :=
  let num := x.num * tenTo (-exponent).toNat
  let den := x.den * tenTo exponent.toNat
  let below := num / den
  if roundQuotient num den = below then [below, below + 1] else [below + 1, below]

/-- Does the decimal `digits * 10 ^ exponent` read back as the value? -/
def readsBack (x : Magnitude) (candidate : Nat × Int) : Bool :=
  ofDecimal false candidate.1 candidate.2 == finite false x

def exact (x : Magnitude) : Nat × Int :=
  if x.exponent < 0 then (x.significand * Nat.pow 5 (-x.exponent).toNat, x.exponent) else (x.num, 0)

/-- The decimals tried for a value, from one digit to seventeen. -/
def candidates (x : Magnitude) : List (Nat × Int) :=
  let top := leadingExponent x.num x.den + 1
  (List.range 18).flatMap fun (i : Nat) =>
    (neighbours x (top - (i : Int))).map fun d => (d, top - (i : Int))

/-- The shortest decimal `digits * 10 ^ exponent` that reads back as a positive value. -/
def shortest (x : Magnitude) : Nat × Int :=
  ((candidates x).find? (readsBack x)).getD (exact x)

/-- Digits with the decimal point after the first `point` of them, in positional notation. -/
def positional (ds : List Char) (point : Int) : List Char :=
  if point ≤ 0 then '0' :: '.' :: List.replicate (-point).toNat '0' ++ ds
  else if ds.length ≤ point.toNat then
    ds ++ List.replicate (point.toNat - ds.length) '0' ++ ['.', '0']
  else ds.take point.toNat ++ '.' :: ds.drop point.toNat

/-- Digits with the decimal point after the first one, and a signed exponent of two digits at
least. -/
def scientific (ds : List Char) (exponent : Int) : List Char :=
  let mantissa := match ds with
    | d :: rest@(_ :: _) => d :: '.' :: rest
    | ds => ds
  mantissa ++ 'e' :: (if exponent < 0 then '-' else '+') :: padded 2 exponent.natAbs

/-- The text of a finite magnitude: positional from `0.0001` up to below `10 ^ 16`, scientific
outside that range. -/
def magnitudeText (x : Magnitude) : List Char :=
  if x.significand = 0 then ['0', '.', '0']
  else
    let (d, e) := shortest x
    let ds := digits d
    let point := ds.length + e
    if -4 < point ∧ point ≤ 16 then positional ds point else scientific ds (point - 1)

def finiteText (negative : Bool) (x : Magnitude) : List Char :=
  if negative then '-' :: magnitudeText x else magnitudeText x

def text : Binary64 → List Char
  | finite negative x => finiteText negative x
  | infinite false => "inf".toList
  | infinite true => "-inf".toList
  | nan => "nan".toList

end SalesDesk.Decimal
