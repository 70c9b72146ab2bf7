/-!
# UTF-8

Characters as bytes and back. Bytes that are no characters are read as replacement characters, one
for the longest beginning of a character, or for one byte where none begins.
-/

namespace SalesDesk.Text.Utf8

def encodeChar (c : Char) : List Nat :=
  let n := c.toNat
  if n < 0x80 then [n]
  else if n < 0x800 then [0xC0 + n / 0x40, 0x80 + n % 0x40]
  else if n < 0x10000 then [0xE0 + n / 0x1000, 0x80 + n / 0x40 % 0x40, 0x80 + n % 0x40]
  else [0xF0 + n / 0x40000, 0x80 + n / 0x1000 % 0x40, 0x80 + n / 0x40 % 0x40, 0x80 + n % 0x40]

def encode (cs : List Char) : List Nat := cs.flatMap encodeChar

/-- What the first byte says of a character: how many bytes follow, in which range the first of them
lies, and what the byte contributes to the code point. -/
structure Lead where
  follow : Nat
  low : Nat := 0x80
  high : Nat := 0xBF
  base : Nat
  deriving DecidableEq, Repr

/-- The first byte of a character. -/
def lead? (b : Nat) : Option Lead :=
  if b < 0x80 then some { follow := 0, base := b }
  else if b < 0xC2 then none
  else if b < 0xE0 then some { follow := 1, base := b - 0xC0 }
  else if b < 0xF0 then
    some { follow := 2, low := if b = 0xE0 then 0xA0 else 0x80
           high := if b = 0xED then 0x9F else 0xBF, base := b - 0xE0 }
  else if b < 0xF5 then
    some { follow := 3, low := if b = 0xF0 then 0x90 else 0x80
           high := if b = 0xF4 then 0x8F else 0xBF, base := b - 0xF0 }
  else none

/-- The bytes at the front that continue a character, at most `count`; the first of them lies in the
given range. -/
def tail (count low high : Nat) : List Nat → List Nat
  | [] => []
  | b :: rest =>
    match count with
    | 0 => []
    | count + 1 => if low ≤ b ∧ b ≤ high then b :: tail count 0x80 0xBF rest else []

def point (base : Nat) (bytes : List Nat) : Nat := bytes.foldl (fun n b => n * 0x40 + (b - 0x80)) base

def replacement : Char := '\uFFFD'

def decode : List Nat → List Char
  | [] => []
  | b :: rest =>
    match lead? b with
    | none => replacement :: decode rest
    | some l =>
      let bytes := tail l.follow l.low l.high rest
      (if bytes.length = l.follow then Char.ofNat (point l.base bytes) else replacement) ::
        decode (rest.drop bytes.length)
termination_by bytes => bytes.length
decreasing_by
  · simp
  · simp only [List.length_drop, List.length_cons]
    omega

end SalesDesk.Text.Utf8
