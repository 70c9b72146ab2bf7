import SalesDesk.Json.Value
import SalesDesk.Number.Decimal

/-!
# JSON on one line

Values are written on one line, with a space after each colon and comma. Characters outside ASCII
stand as themselves; quotes, backslashes and control characters are escaped, so a written value
holds no line break.
-/

namespace SalesDesk.Json

/-- A hexadecimal digit, in lower case. -/
def hexDigit (n : Nat) : Char :=
  if n < 10 then Char.ofNat ('0'.toNat + n) else Char.ofNat ('a'.toNat + n - 10)

/-- One character of a string as it is written between quotes. -/
def escape (c : Char) : List Char :=
  if c = '"' then ['\\', '"']
  else if c = '\\' then ['\\', '\\']
  else if c = '\n' then ['\\', 'n']
  else if c = '\r' then ['\\', 'r']
  else if c = '\t' then ['\\', 't']
  else if c = '\x0c' then ['\\', 'f']
  else if c = '\x08' then ['\\', 'b']
  else if c.toNat < 0x20 then
    ['\\', 'u', '0', '0', hexDigit (c.toNat / 16), hexDigit (c.toNat % 16)]
  else [c]

def quoteChars (cs : List Char) : List Char := '"' :: cs.flatMap escape ++ ['"']

def floatChars : Binary64 → List Char
  | .finite negative x => Decimal.finiteText negative x
  | .infinite false => "Infinity".toList
  | .infinite true => "-Infinity".toList
  | .nan => "NaN".toList

mutual

def chars : Json → List Char
  | null => "null".toList
  | bool true => "true".toList
  | bool false => "false".toList
  | int n => Decimal.intText n
  | float x => floatChars x
  | str s => quoteChars s.toList
  | arr items => '[' :: itemChars items ++ [']']
  | obj members => '{' :: memberChars members ++ ['}']

def itemChars : List Json → List Char
  | [] => []
  | [v] => chars v
  | v :: rest => chars v ++ ',' :: ' ' :: itemChars rest

def memberChars : List (String × Json) → List Char
  | [] => []
  | [(name, v)] => quoteChars name.toList ++ ':' :: ' ' :: chars v
  | (name, v) :: rest =>
    quoteChars name.toList ++ ':' :: ' ' :: (chars v ++ ',' :: ' ' :: memberChars rest)

end

def line (v : Json) : String := String.ofList (chars v)

end SalesDesk.Json
