/-!
# Tables

A table keeps named entries in the order in which their names first appeared. Putting an entry
under a name that is already there changes its value and not its place.
-/

namespace SalesDesk

/-- Entries by name, in the order of first appearance. -/
abbrev Table (α : Type) := List (String × α)

namespace Table

variable {α : Type}

def find? (t : Table α) (name : String) : Option α :=
  match t with
  | [] => none
  | (n, v) :: rest => if n = name then some v else find? rest name

def put (t : Table α) (name : String) (value : α) : Table α :=
  match t with
  | [] => [(name, value)]
  | (n, v) :: rest => if n = name then (n, value) :: rest else (n, v) :: put rest name value

/-- The table of some entries, in which the last value of a name stands. -/
def ofEntries (entries : List (String × α)) : Table α :=
  entries.foldl (fun t e => put t e.1 e.2) []

def merge (t extra : Table α) : Table α := extra.foldl (fun t e => put t e.1 e.2) t

def names (t : Table α) : List String := t.map (·.1)

def values (t : Table α) : List α := t.map (·.2)

def has (t : Table α) (name : String) : Bool := (find? t name).isSome

theorem find?_put_self (t : Table α) (name : String) (value : α) :
    find? (put t name value) name = some value := by
  induction t with
  | nil => simp [put, find?]
  | cons e rest ih =>
    obtain ⟨n, v⟩ := e
    by_cases h : n = name
    · simp [put, find?, h]
    · simp [put, find?, h, ih]

theorem put_put (t : Table α) (name : String) (first second : α) :
    put (put t name first) name second = put t name second := by
  induction t with
  | nil => simp [put]
  | cons e rest ih =>
    obtain ⟨n, v⟩ := e
    by_cases h : n = name
    · simp [put, h]
    · simp [put, h, ih]

theorem put_of_find? {t : Table α} {name : String} {value : α} (h : find? t name = some value) :
    put t name value = t := by
  induction t with
  | nil => simp [find?] at h
  | cons e rest ih =>
    obtain ⟨n, v⟩ := e
    by_cases hn : n = name
    · simp only [find?, hn, if_pos, Option.some.injEq] at h
      simp [put, hn, h]
    · simp only [find?, hn, if_false] at h
      simp [put, hn, ih h]

theorem find?_put_of_ne (t : Table α) {name other : String} (value : α) (h : name ≠ other) :
    find? (put t name value) other = find? t other := by
  induction t with
  | nil => simp [put, find?, h]
  | cons e rest ih =>
    obtain ⟨n, v⟩ := e
    by_cases hn : n = name
    · subst hn
      simp [put, find?, h]
    · by_cases ho : n = other
      · subst ho
        simp [put, find?, hn]
      · simp [put, find?, hn, ho, ih]

end Table

end SalesDesk
