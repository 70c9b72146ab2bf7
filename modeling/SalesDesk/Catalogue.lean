import SalesDesk.Json.Value
import SalesDesk.Text.LowerCase

/-!
# Catalogue

The products that generated texts may be about. Loading a catalogue replaces all of it.
-/

namespace SalesDesk

/-- An objection that clients raise, and the answer to it. -/
structure Objection where
  trigger : String
  answer : String
  deriving DecidableEq, Repr

structure MediaItem where
  id : String
  mediaType : String
  url : String
  deriving DecidableEq, Repr

structure Product where
  id : String
  name : String
  shortDescription : String := ""
  longDescription : String := ""
  price : Binary64 := .zero
  keywords : List String := []
  objections : List Objection := []
  media : List MediaItem := []
  deriving DecidableEq, Repr

namespace Product

def objectionJson (o : Objection) : Json :=
  .obj [("trigger", .str o.trigger), ("answer", .str o.answer)]

def mediaJson (m : MediaItem) : Json :=
  .obj [("id", .str m.id), ("media_type", .str m.mediaType), ("url", .str m.url)]

/-- The product as a JSON object, with its price written as asked. -/
def toJson (number : Binary64 → Json) (p : Product) : Json :=
  .obj [("id", .str p.id), ("name", .str p.name), ("short_description", .str p.shortDescription),
    ("long_description", .str p.longDescription), ("price", number p.price),
    ("keywords", .arr (p.keywords.map .str)), ("objections", .arr (p.objections.map objectionJson)),
    ("media", .arr (p.media.map mediaJson))]

end Product

abbrev Catalogue := Table Product

namespace Catalogue

/-- A catalogue of some products, in which the last product of an id stands at the first place. -/
def load (products : List Product) : Catalogue := Table.ofEntries (products.map fun p => (p.id, p))

def product? (c : Catalogue) (id : Option String) : Option Product := id.bind fun i => c.find? i

/-- Is there a product with this id? The empty id names none. -/
def isValid (c : Catalogue) : Option String → Bool
  | none => false
  | some id => id ≠ "" && c.has id

def contains (text part : List Char) : Bool :=
  part.isPrefixOf text || match text with
    | [] => false
    | _ :: rest => contains rest part

/-- The products with a keyword that contains the given one, whatever the case. -/
def search (c : Catalogue) (keyword : String) : List Product :=
  let needle := Text.lowerChars keyword.toList
  c.values.filter fun p => p.keywords.any fun k => contains (Text.lowerChars k.toList) needle

end Catalogue

end SalesDesk
