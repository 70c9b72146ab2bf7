import SalesDesk.Text.Utf8

/-!
# Encodings of a text

A text that begins with two characters of ASCII shows by the zeros among its first bytes in which
units it is written, and in which order the bytes of a unit come. Without such zeros it is UTF-8.
-/

namespace SalesDesk.Text

inductive Encoding where
  | utf8
  | utf16 (bigEndian : Bool)
  | utf32 (bigEndian : Bool)
  deriving DecidableEq, Repr

namespace Encoding

def ofBytes : List Nat → Encoding
  | a :: b :: c :: d :: _ =>
    if a = 0 then if b = 0 then utf32 true else utf16 true
    else if b = 0 then if c = 0 ∧ d = 0 then utf32 false else utf16 false
    else utf8
  | [a, b] => if a = 0 then utf16 true else if b = 0 then utf16 false else utf8
  | _ => utf8

def unit (bigEndian : Bool) (bytes : List Nat) : Nat :=
  (if bigEndian then bytes else bytes.reverse).foldl (fun n b => 256 * n + b) 0

/-- Bytes as units of two; a single byte at the end is none. -/
def units16 (bigEndian : Bool) : List Nat → Option (List Nat)
  | [] => some []
  | a :: b :: rest => (units16 bigEndian rest).map fun us => unit bigEndian [a, b] :: us
  | _ => none

/-- Bytes as units of four; fewer bytes at the end are none. -/
def units32 (bigEndian : Bool) : List Nat → Option (List Nat)
  | [] => some []
  | a :: b :: c :: d :: rest =>
    (units32 bigEndian rest).map fun us => unit bigEndian [a, b, c, d] :: us
  | _ => none

def isHighSurrogate (n : Nat) : Bool := 0xD800 ≤ n && n ≤ 0xDBFF

def isLowSurrogate (n : Nat) : Bool := 0xDC00 ≤ n && n ≤ 0xDFFF

/-- The character of a code point; a surrogate becomes the replacement character. -/
def character (n : Nat) : Char :=
  if isHighSurrogate n || isLowSurrogate n then Utf8.replacement else Char.ofNat n

/-- Units of UTF-16 as characters. -/
def ofUnits16 : List Nat → List Char
  | [] => []
  | [a] => [character a]
  | a :: b :: rest =>
    if isHighSurrogate a && isLowSurrogate b then
      Char.ofNat (0x10000 + (a - 0xD800) * 0x400 + (b - 0xDC00)) :: ofUnits16 rest
    else character a :: ofUnits16 (b :: rest)

/-- The characters of some bytes, if they can be read. -/
def decode? (bytes : List Nat) : Encoding → Option (List Char)
  | utf8 => some (Utf8.decode bytes)
  | utf16 bigEndian => (units16 bigEndian bytes).map ofUnits16
  | utf32 bigEndian =>
    (units32 bigEndian bytes).bind fun us =>
      if us.all (· < 0x110000) then some (us.map character) else none

end Encoding

/-- A text that was taken for UTF-8, read again in the encoding that its first bytes show. -/
def reread? (cs : List Char) : Option (List Char) :=
  match Encoding.ofBytes (Utf8.encode (cs.take 4)) with
  | .utf8 => some cs
  | encoding => Encoding.decode? (Utf8.encode cs) encoding

end SalesDesk.Text
