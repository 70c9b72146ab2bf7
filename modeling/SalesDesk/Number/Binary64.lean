/-!
# Binary64 numbers

The 64-bit binary floating-point numbers as exact values: a sign and a magnitude in canonical
form, two infinities, and one value that is not a number. Every operation computes its exact
result as a quotient of natural numbers and rounds it once, to nearest with ties to even.
-/

namespace SalesDesk

namespace Binary64

def twoTo (n : Nat) : Nat := Nat.pow 2 n

def tenTo (n : Nat) : Nat := Nat.pow 10 n

/-- A significand and an exponent are canonical when the significand has at most 53 bits and is
either full or stands at the least exponent. -/
def Canonical (significand : Nat) (exponent : Int) : Prop :=
  significand < twoTo 53 ∧ -1074 ≤ exponent ∧ exponent ≤ 971 ∧
    (twoTo 52 ≤ significand ∨ exponent = -1074)

instance (significand : Nat) (exponent : Int) : Decidable (Canonical significand exponent) := by
  unfold Canonical
  infer_instance

/-- The non-negative finite values `significand * 2 ^ exponent`, each in its one canonical form. -/
structure Magnitude where
  significand : Nat
  exponent : Int
  canonical : Canonical significand exponent
  deriving DecidableEq, Repr

end Binary64

/-- A binary64 number. -/
inductive Binary64 where
  | finite (negative : Bool) (magnitude : Binary64.Magnitude)
  | infinite (negative : Bool)
  | nan
  deriving DecidableEq, Repr

namespace Binary64

/-- The quotient rounded to the nearest natural number, a half to the even neighbour. -/
def roundQuotient (num den : Nat) : Nat :=
  let below := num / den
  let rest := num % den
  if 2 * rest < den then below
  else if den < 2 * rest then below + 1
  else below + below % 2

/-- The numerator and denominator of `num / den / 2 ^ exponent`. -/
def scale (num den : Nat) (exponent : Int) : Nat × Nat :=
  (num * twoTo (-exponent).toNat, den * twoTo exponent.toNat)

/-- The exponent at which a positive quotient has exactly 53 bits before its binary point, or the
least exponent of the format when the quotient is smaller. -/
def exponentOf (num den : Nat) : Int :=
  let guess := max (-1074) ((num.log2 : Int) - den.log2 - 53)
  let (n, d) := scale num den guess
  if twoTo 53 ≤ n / d then guess + 1 else guess

namespace Magnitude

def zero : Magnitude := ⟨0, -1074, by decide⟩

/-- The nearest magnitude to a quotient, and nothing when the quotient is beyond the range. -/
def ofQuotient? (num den : Nat) : Option Magnitude :=
  if num = 0 then some zero
  else
    let exponent := exponentOf num den
    let (n, d) := scale num den exponent
    let significand := roundQuotient n d
    if h : Canonical significand exponent then some ⟨significand, exponent, h⟩
    else if h : significand = twoTo 53 ∧ Canonical (twoTo 52) (exponent + 1) then
      some ⟨twoTo 52, exponent + 1, h.2⟩
    else none

/-- The value as a quotient whose denominator is a power of two. -/
def num (x : Magnitude) : Nat := x.significand * twoTo x.exponent.toNat

def den (x : Magnitude) : Nat := twoTo (-x.exponent).toNat

end Magnitude

/-- The nearest number to a signed quotient; infinite beyond the range. -/
def ofQuotient (negative : Bool) (num den : Nat) : Binary64 :=
  match Magnitude.ofQuotient? num den with
  | some magnitude => finite negative magnitude
  | none => infinite negative

def zero : Binary64 := finite false Magnitude.zero

def ofInt (n : Int) : Binary64 := ofQuotient (decide (n < 0)) n.natAbs 1

/-- The nearest number to `±digits * 10 ^ exponent`. The two early answers are those of quotients
far beyond the range, which are not written out. -/
def ofDecimal (negative : Bool) (digits : Nat) (exponent : Int) : Binary64 :=
  if digits = 0 then finite negative Magnitude.zero
  else if 400 < exponent then infinite negative
  else if (digits.log2 : Int) + 1100 < -exponent then finite negative Magnitude.zero
  else ofQuotient negative (digits * tenTo exponent.toNat) (tenTo (-exponent).toNat)

/-- A finite value as a signed numerator and a positive denominator. -/
def toQuotient (negative : Bool) (x : Magnitude) : Int × Nat :=
  (if negative then -(x.num : Int) else x.num, x.den)

/-- The integer a number is equal to, if it is one. -/
def toInt? : Binary64 → Option Int
  | finite negative x =>
    let (n, d) := toQuotient negative x
    if n % d = 0 then some (n / d) else none
  | _ => none

def isZero : Binary64 → Bool
  | finite _ x => x.significand == 0
  | _ => false

/-- The order of the values; nothing is below or above `nan`. -/
def lt : Binary64 → Binary64 → Bool
  | finite s x, finite t y =>
    let (n, d) := toQuotient s x
    let (m, e) := toQuotient t y
    decide (n * e < m * d)
  | infinite true, infinite true => false
  | infinite true, finite _ _ => true
  | infinite true, infinite false => true
  | finite _ _, infinite false => true
  | _, _ => false

/-- The rounded difference. Equal finite values differ by positive zero, except that negative zero
less positive zero stays negative. -/
def sub : Binary64 → Binary64 → Binary64
  | finite s x, finite t y =>
    let (n, d) := toQuotient s x
    let (m, e) := toQuotient t y
    let difference := n * e - m * d
    if difference = 0 then finite (s && !t && x.significand == 0) Magnitude.zero
    else ofQuotient (decide (difference < 0)) difference.natAbs (d * e)
  | finite _ _, infinite t => infinite !t
  | infinite s, finite _ _ => infinite s
  | infinite s, infinite t => if s = t then nan else infinite s
  | _, _ => nan

def mul : Binary64 → Binary64 → Binary64
  | finite s x, finite t y => ofQuotient (s != t) (x.num * y.num) (x.den * y.den)
  | finite s x, infinite t => if x.significand = 0 then nan else infinite (s != t)
  | infinite s, finite t y => if y.significand = 0 then nan else infinite (s != t)
  | infinite s, infinite t => infinite (s != t)
  | _, _ => nan

/-- The value rounded to the given number of decimal places, a half to the even neighbour, and then
to the nearest number. -/
def roundPlaces (places : Nat) : Binary64 → Binary64
  | finite negative x =>
    ofQuotient negative (roundQuotient (x.num * tenTo places) x.den) (tenTo places)
  | x => x

end Binary64

end SalesDesk
