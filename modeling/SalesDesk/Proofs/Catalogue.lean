import SalesDesk.Catalogue
import SalesDesk.Proofs.Table
import Mathlib.Data.List.Induction

/-!
# Products of a loaded catalogue

A catalogue is loaded from a list of products. Under an id it has the last product of the list with
this id, so what is found under an id is a product of that id.
-/

namespace SalesDesk.Catalogue

variable {products : List Product} {id : String} {p : Product}

theorem load_concat (products : List Product) (p : Product) :
    load (products ++ [p]) = Table.put (load products) p.id p := by
  simp only [load, Table.ofEntries, List.map_append, List.map_cons, List.map_nil, List.foldl_append,
    List.foldl_cons, List.foldl_nil]

theorem find?_load (products : List Product) (id : String) :
    Table.find? (load products) id = products.reverse.find? fun p => p.id = id := by
  induction products using List.reverseRecOn with
  | nil => rfl
  | append_singleton products p ih =>
    rw [load_concat, List.reverse_append, List.reverse_singleton, List.singleton_append]
    by_cases hid : p.id = id
    · subst hid
      rw [Table.find?_put_self]
      simp
    · rw [Table.find?_put_of_ne _ _ hid, ih]
      simp [hid]

theorem id_of_find?_load (h : Table.find? (load products) id = some p) :
    p ∈ products ∧ p.id = id := by
  rw [find?_load] at h
  have hmem := List.mem_of_find?_eq_some h
  have hid := List.find?_some h
  exact ⟨List.mem_reverse.mp hmem, by simpa using hid⟩

theorem exists_find?_load (h : p ∈ products) :
    ∃ last, Table.find? (load products) p.id = some last := by
  rw [find?_load, ← Option.isSome_iff_exists, List.find?_isSome]
  exact ⟨p, List.mem_reverse.mpr h, by simp⟩

theorem isValid_load_iff (products : List Product) (given : Option String) :
    (load products).isValid given = true ↔
      ∃ id p, given = some id ∧ id ≠ "" ∧ Table.find? (load products) id = some p := by
  cases given with
  | none => simp [isValid]
  | some id =>
    simp only [isValid, Table.has, Bool.and_eq_true, decide_eq_true_eq, Option.isSome_iff_exists]
    constructor
    · rintro ⟨hne, p, hp⟩
      exact ⟨id, p, rfl, hne, hp⟩
    · rintro ⟨_, p, h, hne, hp⟩
      cases h
      exact ⟨hne, p, hp⟩

/-! ## The listing of a catalogue -/

/-- Ids come in the order in which they first occur in the list, each of them once. -/
theorem names_load (products : List Product) :
    (load products).names = (products.map (·.id)).eraseDups := by
  rw [load, Table.names_ofEntries, Table.names, List.map_map]
  rfl

theorem nodup_names_load (products : List Product) : (load products).names.Nodup :=
  Table.nodup_names_ofEntries _

theorem find?_load_of_mem {e : String × Product} (h : e ∈ load products) :
    Table.find? (load products) e.1 = some e.2 :=
  (Table.find?_eq_some_iff (nodup_names_load products)).mpr h

/-- Every product stands under its id. -/
theorem id_of_mem_load {e : String × Product} (h : e ∈ load products) : e.2.id = e.1 :=
  (id_of_find?_load (find?_load_of_mem h)).2

theorem ids_values_load (products : List Product) :
    (load products).values.map (·.id) = (load products).names := by
  rw [Table.values, Table.names, List.map_map]
  exact List.map_congr_left fun e he => id_of_mem_load he

/-- What a catalogue holds of the products from which it was loaded: of each id the last product, and
the products in the order in which their ids first occur. -/
structure Holds (c : Catalogue) (products : List Product) : Prop where
  last : ∀ id, c.product? (some id) = products.reverse.find? fun p => p.id = id
  valid : ∀ given, c.isValid given = true ↔
    ∃ id, given = some id ∧ id ≠ "" ∧ ∃ p ∈ products, p.id = id
  order : c.values.map (·.id) = (products.map (·.id)).eraseDups
  once : (c.values.map (·.id)).Nodup
  listed : ∀ p ∈ c.values, products.reverse.find? (fun q => q.id = p.id) = some p

theorem holds_load (products : List Product) : (load products).Holds products where
  last := find?_load products
  valid given := by
    rw [isValid_load_iff]
    constructor
    · rintro ⟨id, p, rfl, hne, hp⟩
      exact ⟨id, rfl, hne, p, id_of_find?_load hp⟩
    · rintro ⟨id, rfl, hne, p, hp, rfl⟩
      obtain ⟨last, hlast⟩ := exists_find?_load hp
      exact ⟨p.id, last, rfl, hne, hlast⟩
  order := by rw [ids_values_load, names_load]
  once := by
    rw [ids_values_load]
    exact nodup_names_load products
  listed p hp := by
    obtain ⟨e, he, rfl⟩ := List.mem_map.mp hp
    rw [← find?_load, id_of_mem_load he]
    exact find?_load_of_mem he

end SalesDesk.Catalogue
