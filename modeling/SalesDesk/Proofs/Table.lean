import SalesDesk.Table
import Mathlib.Data.List.Induction
import Mathlib.Data.List.Nodup

/-!
# Names of a table

A name has an entry just when it is one of the names of the table. Putting an entry adds its name at
the end, if it is new, so names that differ go on to differ.
-/

namespace SalesDesk.Table

variable {α : Type} {t : Table α} {name : String} {value : α}

@[simp] theorem names_nil : names ([] : Table α) = [] := rfl

@[simp] theorem names_cons (e : String × α) (rest : Table α) :
    names (e :: rest) = e.1 :: names rest := rfl

theorem find?_eq_none_iff : find? t name = none ↔ name ∉ t.names := by
  induction t with
  | nil => simp [find?]
  | cons e rest ih =>
    obtain ⟨n, v⟩ := e
    by_cases hn : n = name
    · simp [find?, hn]
    · simp [find?, hn, ih, Ne.symm hn]

theorem mem_names_of_find? (h : find? t name = some value) : name ∈ t.names := by
  by_contra hnot
  simp [find?_eq_none_iff.mpr hnot] at h

theorem exists_find?_of_mem_names (h : name ∈ t.names) : ∃ v, find? t name = some v := by
  cases hfound : find? t name with
  | none => exact absurd h (find?_eq_none_iff.mp hfound)
  | some v => exact ⟨v, rfl⟩

theorem find?_eq_some_iff (h : t.names.Nodup) : find? t name = some value ↔ (name, value) ∈ t := by
  induction t with
  | nil => simp [find?]
  | cons e rest ih =>
    obtain ⟨n, v⟩ := e
    obtain ⟨hnew, hrest⟩ := List.nodup_cons.mp h
    by_cases hn : n = name
    · subst hn
      have hnot : (n, value) ∉ rest := fun hmem =>
        hnew (List.mem_map.mpr ⟨_, hmem, rfl⟩)
      simp [find?, hnot, eq_comm]
    · simp [find?, hn, Ne.symm hn, ih hrest]

/-! The entry of a name that does not stand before it. -/

theorem find?_append_self {before : Table α} (rest : Table α) (h : name ∉ before.names) :
    find? (before ++ (name, value) :: rest) name = some value := by
  induction before with
  | nil => simp [find?]
  | cons e before ih =>
    obtain ⟨n, v⟩ := e
    obtain ⟨hne, hnot⟩ := not_or.mp (List.mem_cons.not.mp h)
    simp [find?, Ne.symm hne, ih hnot]

theorem put_append_self {before : Table α} (old : α) (rest : Table α) (h : name ∉ before.names) :
    put (before ++ (name, old) :: rest) name value = before ++ (name, value) :: rest := by
  induction before with
  | nil => simp [put]
  | cons e before ih =>
    obtain ⟨n, v⟩ := e
    obtain ⟨hne, hnot⟩ := not_or.mp (List.mem_cons.not.mp h)
    simp [put, Ne.symm hne, ih hnot]

theorem names_put : (put t name value).names =
    if name ∈ t.names then t.names else t.names ++ [name] := by
  induction t with
  | nil => simp [put]
  | cons e rest ih =>
    obtain ⟨n, v⟩ := e
    by_cases hn : n = name
    · simp [put, hn]
    · by_cases hmem : name ∈ names rest
      · simp [put, hn, ih, hmem]
      · simp [put, hn, ih, hmem, Ne.symm hn]

theorem put_of_notMem (h : name ∉ t.names) : put t name value = t ++ [(name, value)] := by
  induction t with
  | nil => rfl
  | cons e rest ih =>
    obtain ⟨n, v⟩ := e
    obtain ⟨hne, hnot⟩ := not_or.mp (List.mem_cons.not.mp h)
    rw [put, if_neg (Ne.symm hne), ih hnot, List.cons_append]

/-- Entries with names that differ are a table as they are. -/
theorem ofEntries_of_nodup (h : t.names.Nodup) : ofEntries t = t := by
  have hall (front rest : Table α) (h : (names (front ++ rest)).Nodup) :
      rest.foldl (fun t e => put t e.1 e.2) front = front ++ rest := by
    induction rest generalizing front with
    | nil => simp
    | cons e rest ih =>
      have hnew : e.1 ∉ front.names := by
        simp only [names, List.map_append, List.map_cons, List.nodup_append] at h
        exact fun hmem => h.2.2 e.1 hmem e.1 List.mem_cons_self rfl
      rw [List.foldl_cons, put_of_notMem hnew, ih, List.append_assoc, List.singleton_append]
      rwa [List.append_assoc]
  exact hall [] t h

theorem nodup_names_put (h : t.names.Nodup) : (put t name value).names.Nodup := by
  rw [names_put]
  by_cases hmem : name ∈ t.names
  · rwa [if_pos hmem]
  · rw [if_neg hmem, ← List.concat_eq_append]
    exact h.concat hmem

theorem ofEntries_concat (entries : List (String × α)) (e : String × α) :
    ofEntries (entries ++ [e]) = put (ofEntries entries) e.1 e.2 := by
  rw [ofEntries, List.foldl_append]
  rfl

theorem nodup_names_ofEntries (entries : List (String × α)) : (ofEntries entries).names.Nodup := by
  induction entries using List.reverseRecOn with
  | nil => exact List.nodup_nil
  | append_singleton entries e ih =>
    rw [ofEntries_concat]
    exact nodup_names_put ih

/-- Names come in the order in which they first occur among the entries. -/
theorem names_ofEntries (entries : List (String × α)) :
    (ofEntries entries).names = (names entries).eraseDups := by
  induction entries using List.reverseRecOn with
  | nil => rfl
  | append_singleton entries e ih =>
    have hlast : names (entries ++ [e]) = names entries ++ [e.1] := List.map_append
    rw [ofEntries_concat, names_put, ih, hlast, List.eraseDups_append]
    by_cases hmem : e.1 ∈ names entries
    · rw [if_pos (List.mem_eraseDups.mpr hmem), List.removeAll,
        List.filter_cons_of_neg (by simpa using hmem), List.filter_nil, List.eraseDups_nil,
        List.append_nil]
    · rw [if_neg (List.mem_eraseDups.not.mpr hmem), List.removeAll,
        List.filter_cons_of_pos (by simpa using hmem), List.filter_nil]
      rfl

/-! Rows of entries, and entries picked by name. -/

theorem names_append (t extra : Table α) : names (t ++ extra) = t.names ++ extra.names :=
  List.map_append

theorem find?_append (t extra : Table α) (name : String) :
    find? (t ++ extra) name = (find? t name).or (find? extra name) := by
  induction t with
  | nil => simp [find?]
  | cons e rest ih =>
    obtain ⟨n, v⟩ := e
    by_cases hn : n = name
    · simp [find?, hn]
    · simp [find?, hn, ih]

theorem find?_map {β : Type} (f : α → β) (t : Table α) (name : String) :
    find? (t.map fun e => (e.1, f e.2)) name = (find? t name).map f := by
  induction t with
  | nil => rfl
  | cons e rest ih =>
    obtain ⟨n, v⟩ := e
    by_cases hn : n = name
    · simp [find?, hn]
    · simp [find?, hn, ih]

/-- The entries of some names, in the order of the names. -/
theorem find?_filterMap (keys : List String) (f : String → Option α) (name : String) :
    find? (keys.filterMap fun key => (f key).map fun v => (key, v)) name =
      if name ∈ keys then f name else none := by
  induction keys with
  | nil => rfl
  | cons key keys ih =>
    cases hf : f key with
    | none =>
      rw [List.filterMap_cons_none (by rw [hf]; rfl), ih]
      by_cases hn : name = key
      · simp [hn, hf]
      · simp [hn]
    | some v =>
      rw [List.filterMap_cons_some (by rw [hf]; rfl)]
      by_cases hn : key = name
      · subst hn
        simp [find?, hf]
      · simp [find?, hn, ih, Ne.symm hn]

theorem names_filterMap (keys : List String) (f : String → Option α) :
    names (keys.filterMap fun key => (f key).map fun v => (key, v)) =
      keys.filter fun key => (f key).isSome := by
  induction keys with
  | nil => rfl
  | cons key keys ih =>
    cases hf : f key with
    | none =>
      rw [List.filterMap_cons_none (by rw [hf]; rfl), ih, List.filter_cons_of_neg (by simp [hf])]
    | some v =>
      rw [List.filterMap_cons_some (by rw [hf]; rfl), names_cons, ih,
        List.filter_cons_of_pos (by simp [hf])]

end SalesDesk.Table
