import SalesDesk.Json.Value
import SalesDesk.Number.Decimal

/-!
# Reading JSON

A reader of JSON texts that says where a malformed text goes wrong. Besides the standard it takes
the words `NaN`, `Infinity` and `-Infinity`. A position is counted from the end of the text while
reading and turned into an offset at the end, so no function carries a counter. The fuel is the
nesting and member budget, and the length of the text is always enough. Integers may have only so
many digits, and arrays and objects may be nested only so deeply; where no such limit is given, the
length of the text is the limit, which no text can reach beyond. Two escapes may stand for the halves
of one character. A half that stands alone is no character, so no text holds it: a text in which it is
escaped is not malformed, but there is no value for it here.
-/

namespace SalesDesk.Json

inductive ReadError where
  /-- The text cannot continue at this offset. -/
  | malformed (offset : Nat)
  /-- An integer has more digits than are accepted. -/
  | tooManyDigits
  /-- Arrays and objects are nested too deeply. -/
  | tooDeep
  /-- Half of a character is escaped without the other half. -/
  | halfCharacter
  deriving DecidableEq, Repr

namespace Reader

/-- A failure while reading, with the text that was left where it was found. -/
inductive Failure where
  | malformed (left : List Char)
  | tooManyDigits
  | tooDeep
  | halfCharacter

abbrev Step (α : Type) := Except Failure (α × List Char)

def isBlank (c : Char) : Bool := c = ' ' || c = '\t' || c = '\n' || c = '\r'

def skipBlanks (cs : List Char) : List Char := cs.dropWhile isBlank

def hexValue? (c : Char) : Option Nat :=
  if '0' ≤ c ∧ c ≤ '9' then some (c.toNat - '0'.toNat)
  else if 'a' ≤ c ∧ c ≤ 'f' then some (c.toNat - 'a'.toNat + 10)
  else if 'A' ≤ c ∧ c ≤ 'F' then some (c.toNat - 'A'.toNat + 10)
  else none

/-- The code unit written by four hexadecimal digits. -/
def codeUnit? : List Char → Option Nat
  | [a, b, c, d] => do
    let a ← hexValue? a
    let b ← hexValue? b
    let c ← hexValue? c
    let d ← hexValue? d
    return ((a * 16 + b) * 16 + c) * 16 + d
  | _ => none

def isHighSurrogate (n : Nat) : Bool := 0xD800 ≤ n && n ≤ 0xDBFF

def isLowSurrogate (n : Nat) : Bool := 0xDC00 ≤ n && n ≤ 0xDFFF

/-- The character of a code unit, if it is not half of one. -/
def unitChar? (n : Nat) : Option Char :=
  if isHighSurrogate n || isLowSurrogate n then none else some (Char.ofNat n)

def pairChar (high low : Nat) : Char :=
  Char.ofNat (0x10000 + (high - 0xD800) * 0x400 + (low - 0xDC00))

/-- The character behind a backslash and a letter. -/
def simpleEscape? (c : Char) : Option Char :=
  if c = '"' then some '"'
  else if c = '\\' then some '\\'
  else if c = '/' then some '/'
  else if c = 'b' then some '\x08'
  else if c = 'f' then some '\x0c'
  else if c = 'n' then some '\n'
  else if c = 'r' then some '\r'
  else if c = 't' then some '\t'
  else none

/-- Reads an escape of four hexadecimal digits, of which at least one more character must follow,
and with it the second half of a surrogate pair. `mark` is the text from the letter `u` on. -/
def unicodeEscape (mark : List Char) : Step Char :=
  let hex := mark.drop 1
  let rest := hex.drop 4
  let alone (unit : Nat) : Step Char :=
    match unitChar? unit with
    | some c => .ok (c, rest)
    | none => .error .halfCharacter
  if rest = [] then .error (.malformed mark)
  else match codeUnit? (hex.take 4) with
    | none => .error (.malformed mark)
    | some high =>
      if isHighSurrogate high && 6 < rest.length && rest.take 2 = ['\\', 'u'] then
        match codeUnit? ((rest.drop 2).take 4) with
        | none => .error (.malformed (rest.drop 1))
        | some low =>
          if isLowSurrogate low then .ok (pairChar high low, rest.drop 6) else alone high
      else alone high

/-- Reads the rest of a string. `start` is the text from its opening quote on. -/
def string (start : List Char) : Nat → List Char → List Char → Step String
  | 0, _, _ => .error (.malformed start)
  | _ + 1, _, [] => .error (.malformed start)
  | fuel + 1, seen, c :: rest =>
    if c = '"' then .ok (String.ofList seen.reverse, rest)
    else if c = '\\' then
      match rest with
      | [] => .error (.malformed start)
      | e :: after =>
        if e = 'u' then
          match unicodeEscape rest with
          | .error f => .error f
          | .ok (ch, after) => string start fuel (ch :: seen) after
        else match simpleEscape? e with
          | some ch => string start fuel (ch :: seen) after
          | none => .error (.malformed (c :: rest))
    else if c.toNat < 0x20 then .error (.malformed (c :: rest))
    else string start fuel (c :: seen) rest

/-- The longest run of decimal digits at the front. -/
def takeDigits (cs : List Char) : List Char × List Char :=
  (cs.takeWhile Char.isDigit, cs.dropWhile Char.isDigit)

/-- Is there a minus sign at the front, and what follows it? -/
def takeSign : List Char → Bool × List Char
  | '-' :: body => (true, body)
  | body => (false, body)

/-- The digits of a whole number at the front. A zero stands alone. -/
def takeWhole : List Char → List Char × List Char
  | '0' :: rest => (['0'], rest)
  | body => takeDigits body

/-- A point and the digits after it, if there are any. -/
def fraction (cs : List Char) : List Char × List Char :=
  match cs with
  | '.' :: rest => let (ds, after) := takeDigits rest; if ds = [] then ([], cs) else (ds, after)
  | _ => ([], cs)

/-- An exponent mark, a sign and the digits after it, if there are any. -/
def exponent (cs : List Char) : Option Int × List Char :=
  match cs with
  | e :: rest =>
    if e = 'e' ∨ e = 'E' then
      let (negative, body) := match rest with
        | '-' :: body => (true, body)
        | '+' :: body => (false, body)
        | body => (false, body)
      let (ds, after) := takeDigits body
      if ds = [] then (none, cs)
      else (some (if negative then -(Decimal.ofDigits ds : Int) else Decimal.ofDigits ds), after)
    else (none, cs)
  | [] => (none, cs)

/-- Reads a number, of at most so many digits if it is an integer; `start` is the text from its first
character on. -/
def number (digits : Nat) (start : List Char) : Step Json :=
  let (negative, body) := takeSign start
  let (whole, rest) := takeWhole body
  if whole = [] then .error (.malformed start)
  else
    let (places, rest) := fraction rest
    let (power, rest) := exponent rest
    if places = [] ∧ power = none then
      if digits < whole.length then .error .tooManyDigits
      else
        let n : Int := Decimal.ofDigits whole
        .ok (.int (if negative then -n else n), rest)
    else
      let value := Decimal.ofDigits (whole ++ places)
      .ok (.float (.ofDecimal negative value (power.getD 0 - places.length)), rest)

def words : List (String × Json) :=
  [("null", .null), ("true", .bool true), ("false", .bool false), ("NaN", .float .nan),
    ("Infinity", .float (.infinite false)), ("-Infinity", .float (.infinite true))]

def scalar (digits : Nat) (start : List Char) : Step Json :=
  match words.find? fun w => w.1.toList.isPrefixOf start with
  | some (w, v) => .ok (v, start.drop w.length)
  | none => number digits start

mutual

/-- Reads a value that starts at the first character. Its integers may have so many `digits`, and its
arrays and objects may be nested `depth` deep. -/
def value (digits depth : Nat) : Nat → List Char → Step Json
  | 0, cs => .error (.malformed cs)
  | fuel + 1, cs =>
    match cs with
    | '"' :: rest =>
      match string cs (rest.length + 1) [] rest with
      | .error f => .error f
      | .ok (s, after) => .ok (.str s, after)
    | '[' :: rest =>
      if depth = 0 then .error .tooDeep
      else
        let rest := skipBlanks rest
        match rest with
        | ']' :: after => .ok (.arr [], after)
        | _ =>
          match items digits (depth - 1) fuel rest with
          | .error f => .error f
          | .ok (vs, after) => .ok (.arr vs, after)
    | '{' :: rest =>
      if depth = 0 then .error .tooDeep
      else
        let rest := skipBlanks rest
        match rest with
        | '}' :: after => .ok (.obj [], after)
        | _ =>
          match members digits (depth - 1) fuel rest with
          | .error f => .error f
          | .ok (ms, after) => .ok (.obj (Table.ofEntries ms), after)
    | _ => scalar digits cs

/-- Reads the items of an array up to and with its closing bracket. -/
def items (digits depth : Nat) : Nat → List Char → Step (List Json)
  | 0, cs => .error (.malformed cs)
  | fuel + 1, cs =>
    match value digits depth fuel cs with
    | .error f => .error f
    | .ok (v, after) =>
      match skipBlanks after with
      | ']' :: after => .ok ([v], after)
      | ',' :: after =>
        match items digits depth fuel (skipBlanks after) with
        | .error f => .error f
        | .ok (vs, after) => .ok (v :: vs, after)
      | after => .error (.malformed after)

/-- Reads the members of an object up to and with its closing brace. -/
def members (digits depth : Nat) : Nat → List Char → Step (List (String × Json))
  | 0, cs => .error (.malformed cs)
  | fuel + 1, cs =>
    match cs with
    | '"' :: rest =>
      match string cs (rest.length + 1) [] rest with
      | .error f => .error f
      | .ok (name, after) =>
        match skipBlanks after with
        | ':' :: after =>
          match value digits depth fuel (skipBlanks after) with
          | .error f => .error f
          | .ok (v, after) =>
            match skipBlanks after with
            | '}' :: after => .ok ([(name, v)], after)
            | ',' :: after =>
              match members digits depth fuel (skipBlanks after) with
              | .error f => .error f
              | .ok (ms, after) => .ok ((name, v) :: ms, after)
            | after => .error (.malformed after)
        | after => .error (.malformed after)
    | _ => .error (.malformed cs)

end

end Reader

/-- Reads a whole text as one value, whose integers may have so many `digits` and whose arrays and
objects may be nested `depth` deep. -/
def readWithin (digits depth : Nat) (cs : List Char) : Except ReadError Json :=
  let place (left : List Char) : ReadError := .malformed (cs.length - left.length)
  match Reader.value digits depth (cs.length + 1) (Reader.skipBlanks cs) with
  | .error (.malformed left) => .error (place left)
  | .error .tooManyDigits => .error .tooManyDigits
  | .error .tooDeep => .error .tooDeep
  | .error .halfCharacter => .error .halfCharacter
  | .ok (v, after) =>
    match Reader.skipBlanks after with
    | [] => .ok v
    | left => .error (place left)

/-- The most digits of an integer that is accepted. -/
def maxDigits : Nat := 4300

/-- The depth to which texts from outside may be nested. -/
def maxDepth : Nat := 960

/-- Reads a whole text from outside. -/
def readBounded (cs : List Char) : Except ReadError Json := readWithin maxDigits maxDepth cs

def read (text : String) : Except ReadError Json :=
  let cs := text.toList
  readWithin maxDigits cs.length cs

end SalesDesk.Json
