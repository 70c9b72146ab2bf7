import SalesDesk.Table
import SalesDesk.Text.Utf8

/-!
# Targets of requests

A request is sent to a path with a query. Both are written with percent signs for bytes of UTF-8; in
a query a plus sign stands for a space. Of a parameter that is given several times the last one
counts.
-/

namespace SalesDesk.Http

namespace Url

def hexValue? (c : Char) : Option Nat :=
  if '0' ≤ c ∧ c ≤ '9' then some (c.toNat - '0'.toNat)
  else if 'a' ≤ c ∧ c ≤ 'f' then some (c.toNat - 'a'.toNat + 10)
  else if 'A' ≤ c ∧ c ≤ 'F' then some (c.toNat - 'A'.toNat + 10)
  else none

/-- The byte that is written at the front as a percent sign and two digits. -/
def escaped? : List Char → Option (Nat × List Char)
  | '%' :: a :: b :: rest =>
    match hexValue? a, hexValue? b with
    | some x, some y => some (16 * x + y, rest)
    | _, _ => none
  | _ => none

theorem length_escaped? {cs rest : List Char} {n : Nat} (h : escaped? cs = some (n, rest)) :
    rest.length < cs.length := by
  unfold escaped? at h
  split at h
  · split at h
    · simp only [Option.some.injEq, Prod.mk.injEq] at h
      simp [← h.2]
      omega
    · cases h
  · cases h

/-- The bytes of a text that is written with percent signs; all that is not is taken as it is. -/
def bytes (cs : List Char) : List Nat :=
  match _ : escaped? cs with
  | some (n, rest) => n :: bytes rest
  | none =>
    match cs with
    | [] => []
    | c :: rest => Text.Utf8.encodeChar c ++ bytes rest
termination_by cs.length
decreasing_by
  · exact length_escaped? (by assumption)
  · simp

def decode (cs : List Char) : List Char := Text.Utf8.decode (bytes cs)

def split (mark : Char) : List Char → List (List Char)
  | [] => [[]]
  | c :: rest =>
    if c = mark then [] :: split mark rest
    else match split mark rest with
      | [] => [[c]]
      | part :: parts => (c :: part) :: parts

/-- The text before the first mark, and the text after it, if there is a mark. -/
def cut (mark : Char) (cs : List Char) : List Char × Option (List Char) :=
  match cs.dropWhile (· ≠ mark) with
  | [] => (cs, none)
  | _ :: after => (cs.takeWhile (· ≠ mark), some after)

/-- The segments of a path, after the first slash. The path is decoded before it is split. -/
def segments (path : List Char) : List String :=
  ((split '/' (decode path)).drop 1).map String.ofList

def decodeQuery (cs : List Char) : String :=
  String.ofList (decode (cs.map fun c => if c = '+' then ' ' else c))

def parameters (query : List Char) : Table String :=
  let parts := (split '&' query).filter (· ≠ [])
  Table.ofEntries (parts.map fun part =>
    let (name, value) := cut '=' part
    (decodeQuery name, decodeQuery (value.getD [])))

end Url

structure Target where
  segments : List String
  query : Table String
  deriving DecidableEq, Repr

/-- Reads the target of a request: a path, and after a question mark a query. -/
def Target.read (target : String) : Target :=
  let (path, query) := Url.cut '?' target.toList
  { segments := Url.segments path, query := Url.parameters (query.getD []) }

end SalesDesk.Http
