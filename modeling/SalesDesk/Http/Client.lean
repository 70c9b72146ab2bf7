import SalesDesk.Http.Url
import SalesDesk.Text.Quoted

/-!
# Clients

A client turns an address into the target of a request. It leaves out the host and what follows a
number sign, takes out the segments of dots, and decodes the path once; the server that the request
reaches decodes it again. An address that is too long or holds a control character is not sent at all.
-/

namespace SalesDesk.Http

inductive AddressError where
  | tooLong
  | control (c : Char) (position : Nat)
  deriving DecidableEq, Repr

namespace AddressError

def message : AddressError → String
  | tooLong => "URL too long"
  | control c position =>
    "Invalid non-printable ASCII character in URL, " ++ Text.quoted (String.singleton c) ++
      " at position " ++ toString position ++ "."

end AddressError

namespace Client

/-- The segments that are left when one dot stands for the place itself and two dots for the place
above it. The last segment that was kept comes first. -/
def withoutDots (kept : List (List Char)) : List (List Char) → List (List Char)
  | [] => kept
  | segment :: rest =>
    if segment = ['.'] then withoutDots kept rest
    else if segment = ['.', '.'] then withoutDots (if kept = [[]] then kept else kept.drop 1) rest
    else withoutDots (segment :: kept) rest

/-- A path without the name of a host in front of it. -/
def withoutHost : List Char → List Char
  | '/' :: '/' :: rest => rest.dropWhile (· ≠ '/')
  | path => path

/-- A path as it is sent, with exactly one slash in front. A question mark that is in the path itself
is written with a percent sign, for otherwise a query would begin there. -/
def path (written : List Char) : List Char :=
  let segments := Url.split '/' ('/' :: (withoutHost written).dropWhile (· = '/'))
  let decoded := Url.decode (['/'].intercalate (withoutDots [] segments).reverse)
  decoded.flatMap fun c => if c = '?' then "%3F".toList else [c]

def maxLength : Nat := 65536

def isControl (c : Char) : Bool := c.toNat < 0x20 || c.toNat == 0x7f

/-- The target of a request to an address. -/
def target (address : String) : Except AddressError String :=
  let cs := address.toList
  if maxLength < cs.length then .error .tooLong
  else
    match cs.dropWhile fun c => !isControl c with
    | c :: _ => .error (.control c (cs.takeWhile fun c => !isControl c).length)
    | [] =>
      let (written, query) := Url.cut '?' (Url.cut '#' cs).1
      .ok (String.ofList (path written ++ query.elim [] fun q => '?' :: q))

end Client

end SalesDesk.Http
