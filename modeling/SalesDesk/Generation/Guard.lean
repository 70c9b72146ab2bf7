import SalesDesk.Catalogue
import SalesDesk.Log
import SalesDesk.Text.Alphanumeric
import SalesDesk.Text.CaseClass
import SalesDesk.Words

/-!
# Guard of generated texts

Generation is locked twice. Before it, only allowed actions on products of the catalogue may be
asked for. After it, a text may only be sent if it is short enough and holds no forbidden term. A
rejected text is replaced by a fallback and never tried again.
-/

namespace SalesDesk.Generation

/-- The text that is sent when no generated text may be. -/
def defaultFallback : String :=
  "Désolé, je n'ai pas bien compris votre demande. Pouvez-vous préciser ?"

def defaultForbidden : List String :=
  ["AI", "intelligence artificielle", "robot", "humain", "transférer", "escalade"]

def defaultActions : List String := ["RespondText", "RespondWithMedia"]

def defaultMaxLength : Int := 500

/-- Why generation is refused or its text rejected. -/
inductive Rejection where
  | actionNotAllowed (action : String)
  | unknownProduct (id : Option String)
  | tooLong (length : Nat) (maxLength : Int)
  | forbiddenWord (word : String)
  deriving DecidableEq, Repr

/-- A text that may be missing, as it is shown. -/
def shownText (s : Option String) : String := (Detail.text? s).text

namespace Rejection

def message : Rejection → String
  | actionNotAllowed action => "Action not allowed for generation: " ++ action
  | unknownProduct id => "Unknown product: " ++ shownText id
  | tooLong length maxLength =>
    "Generated text exceeds max length (" ++ toString length ++ " > " ++ toString maxLength ++ ")"
  | forbiddenWord word => "Generated text contains forbidden word: " ++ word

def code : Rejection → String
  | actionNotAllowed _ => "action_not_allowed"
  | unknownProduct _ => "unknown_product"
  | tooLong _ _ => "too_long"
  | forbiddenWord _ => "forbidden_word"

def notice? : Rejection → Option Log.Notice
  | actionNotAllowed action => some
    { level := .info, part := "generation_guard",
      message := "Pre-generation check rejected action " ++ action }
  | unknownProduct id => some
    { level := .info, part := "generation_guard",
      message := "Pre-generation check rejected unknown product " ++ shownText id }
  | _ => none

end Rejection

/-- The longest terms that only count as whole words; longer ones count inside of words too. -/
def wholeWordMaxLength : Nat := 3

/-- Does a character continue a word? Apostrophes do, so that `j'ai` is not `ai`. -/
def isWordChar (c : Char) : Bool :=
  Text.isAlphanumeric c || c == '_' || c == '\'' || c == '’'

/-- The text after a term at its front, compared without regard to case. -/
def dropTerm : List Char → List Char → Option (List Char)
  | [], text => some text
  | _ :: _, [] => none
  | w :: ws, c :: cs => if Text.alike w c then dropTerm ws cs else none

/-- Does a term occur at the front of a text, where a short one must not touch a word character?
`before` is the character in front of the text. -/
def occursHere (term : List Char) (before : Option Char) (text : List Char) : Bool :=
  match dropTerm term text with
  | none => false
  | some after =>
    wholeWordMaxLength < term.length ||
      (!before.any isWordChar && !after.head?.any isWordChar)

/-- Does a term occur anywhere in a text? -/
def occursFrom (term : List Char) (before : Option Char) (text : List Char) : Bool :=
  occursHere term before text || match text with
    | [] => false
    | c :: rest => occursFrom term (some c) rest

/-- A completion came back whose content is no text. -/
structure NotText where
  content : Json
  deriving Repr

/-- What may be asked of the generator and what may be sent of its texts. -/
structure Guard where
  forbidden : List String := defaultForbidden
  maxLength : Int := defaultMaxLength
  actions : List String := defaultActions
  fallback : String := defaultFallback
  deriving Repr

namespace Guard

def before (g : Guard) (c : Catalogue) (product : Option String) (action : String) :
    Except Rejection Unit :=
  if !g.actions.contains action then .error (.actionNotAllowed action)
  else if !c.isValid product then .error (.unknownProduct product)
  else .ok ()

/-- The first forbidden term that occurs in a text; the empty term is none. -/
def forbiddenIn? (g : Guard) (text : String) : Option String :=
  g.forbidden.find? fun term => term ≠ "" && occursFrom term.toList none text.toList

def after (g : Guard) (text : String) : Except Rejection String :=
  if g.maxLength < text.length then .error (.tooLong text.length g.maxLength)
  else match g.forbiddenIn? text with
    | some word => .error (.forbiddenWord word)
    | none => .ok text

/-- What speaks against words that were generated. Where they are no text, no term can be looked for
in them, so where there is one they cannot be judged. -/
def judge (g : Guard) : Words → Except NotText (Option Rejection)
  | .text s =>
    match g.after s with
    | .error r => .ok (some r)
    | .ok _ => .ok none
  | words =>
    if g.maxLength < words.length then .ok (some (.tooLong words.length g.maxLength))
    else if g.forbidden.any (· ≠ "") then .error { content := words.toJson }
    else .ok none

end Guard

end SalesDesk.Generation
