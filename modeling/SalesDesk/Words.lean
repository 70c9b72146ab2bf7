import SalesDesk.Json.Value

/-!
# Words

What is said to a client is a text. A generator that does not keep to its contract may give a list or
an object in its place: these have a length as a text has, so they are told from a text only where
characters are looked for.
-/

namespace SalesDesk

inductive Words where
  | text (s : String)
  | list (items : List Json)
  | object (members : List (String × Json))
  deriving DecidableEq, Repr, Inhabited

namespace Words

instance : Coe String Words := ⟨text⟩

/-- The words in a value; a value without a length holds none. -/
def ofJson? : Json → Option Words
  | .str s => some (text s)
  | .arr items => some (list items)
  | .obj members => some (object members)
  | _ => none

def toJson : Words → Json
  | text s => .str s
  | list items => .arr items
  | object members => .obj members

def length : Words → Nat
  | text s => s.length
  | list items => items.length
  | object members => members.length

def text? : Words → Option String
  | text s => some s
  | _ => none

theorem map_text_bind_text? {words : Option Words} (h : ∀ w ∈ words, w.text?.isSome = true) :
    (words.bind text?).map text = words := by
  cases words with
  | none => rfl
  | some w =>
    cases w with
    | text s => rfl
    | _ => exact absurd (h _ rfl) (by simp [text?])

end Words

end SalesDesk
