import SalesDesk.Number.Binary64
import SalesDesk.Table

/-!
# JSON values

A value keeps its integers exact, its other numbers as binary64 numbers, and the members of an
object in the order in which their names first appeared.
-/

namespace SalesDesk

inductive Json where
  | null
  | bool (b : Bool)
  | int (n : Int)
  | float (x : Binary64)
  | str (s : String)
  | arr (items : List Json)
  | obj (members : List (String × Json))
  deriving Repr, Inhabited

namespace Json

/-- A member of an object; other values have none. -/
def get? (name : String) : Json → Option Json
  | obj members => Table.find? members name
  | _ => none

/-- Does a value count as true in a condition? Empty, zero and null values do not. -/
def truthy : Json → Bool
  | null => false
  | bool b => b
  | int n => n != 0
  | float x => !x.isZero
  | str s => !s.isEmpty
  | arr items => !items.isEmpty
  | obj members => !members.isEmpty

/-- The kind of a value, as it is named in failures. -/
def kindName : Json → String
  | null => "NoneType"
  | bool _ => "bool"
  | int _ => "int"
  | float _ => "float"
  | str _ => "str"
  | arr _ => "list"
  | obj _ => "dict"

mutual

/-- Are all numbers in a value finite, so that strict JSON can hold it? -/
def isStrict : Json → Bool
  | float (.finite _ _) => true
  | float _ => false
  | arr items => areStrict items
  | obj members => areStrictMembers members
  | _ => true

def areStrict : List Json → Bool
  | [] => true
  | v :: rest => isStrict v && areStrict rest

def areStrictMembers : List (String × Json) → Bool
  | [] => true
  | (_, v) :: rest => isStrict v && areStrictMembers rest

end

/-- A number as strict JSON writes it, which has only null for one that is not finite. -/
def strictNumber : Binary64 → Json
  | .finite s x => float (.finite s x)
  | _ => null

def ofOption {α : Type} (f : α → Json) : Option α → Json
  | none => null
  | some a => f a

mutual

/-- Are two values the same, the members of objects being in the same order? -/
def same : Json → Json → Bool
  | null, null => true
  | bool a, bool b => a == b
  | int m, int n => m == n
  | float x, float y => decide (x = y)
  | str s, str t => s == t
  | arr xs, arr ys => areSame xs ys
  | obj xs, obj ys => areSameMembers xs ys
  | _, _ => false

def areSame : List Json → List Json → Bool
  | [], [] => true
  | v :: vs, w :: ws => same v w && areSame vs ws
  | _, _ => false

def areSameMembers : List (String × Json) → List (String × Json) → Bool
  | [], [] => true
  | (a, v) :: ms, (b, w) :: ns => a == b && same v w && areSameMembers ms ns
  | _, _ => false

end

mutual

theorem same_iff (v w : Json) : same v w = true ↔ v = w := by
  cases v with
  | arr vs => cases w <;> simp [same, areSame_iff vs]
  | obj ms => cases w <;> simp [same, areSameMembers_iff ms]
  | _ => cases w <;> simp [same]

theorem areSame_iff (vs ws : List Json) : areSame vs ws = true ↔ vs = ws := by
  cases vs with
  | nil => cases ws <;> simp [areSame]
  | cons v vs => cases ws <;> simp [areSame, same_iff v, areSame_iff vs]

theorem areSameMembers_iff (ms ns : List (String × Json)) :
    areSameMembers ms ns = true ↔ ms = ns := by
  cases ms with
  | nil => cases ns <;> simp [areSameMembers]
  | cons m ms =>
    obtain ⟨a, v⟩ := m
    cases ns with
    | nil => simp [areSameMembers]
    | cons n ns =>
      obtain ⟨b, w⟩ := n
      simp [areSameMembers, same_iff v, areSameMembers_iff ms]

end

instance : DecidableEq Json := fun v w => decidable_of_iff _ (same_iff v w)

end Json

end SalesDesk
