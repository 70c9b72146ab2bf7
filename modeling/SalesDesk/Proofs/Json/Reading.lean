import SalesDesk.Proofs.Json.Numbers
import SalesDesk.Proofs.Json.Strings
import SalesDesk.Proofs.Table

/-!
# Reading written values

A value whose objects have different names is read back from its line, whatever it holds, by every
reader that takes integers as long and nestings as deep as there are in the value. A line holds no
control character, so it is one line.
-/

namespace SalesDesk.Json

/-- What holds of a value if it holds of all values in it holds of every value. -/
@[elab_as_elim]
theorem induction {P : Json → Prop} (null : P .null) (bool : ∀ b, P (.bool b)) (int : ∀ n, P (.int n))
    (float : ∀ x, P (.float x)) (str : ∀ s, P (.str s))
    (arr : ∀ items, (∀ v ∈ items, P v) → P (.arr items))
    (obj : ∀ members, (∀ m ∈ members, P m.2) → P (.obj members)) (v : Json) : P v :=
  @Json.rec P (fun items => ∀ v ∈ items, P v) (fun members => ∀ m ∈ members, P m.2)
    (fun m => P m.2) null bool int float str arr obj (fun _ h => nomatch h)
    (fun _ _ hv hrest _ hmem => by
      rcases List.mem_cons.mp hmem with rfl | hmem
      · exact hv
      · exact hrest _ hmem)
    (fun _ h => nomatch h)
    (fun _ _ hm hrest _ hmem => by
      rcases List.mem_cons.mp hmem with rfl | hmem
      · exact hm
      · exact hrest _ hmem)
    (fun _ _ hv => hv) v

/-! ## What arrays and objects are written as -/

theorem itemChars_singleton (v : Json) : itemChars [v] = chars v := by rw [itemChars]

theorem itemChars_cons_cons (v w : Json) (vs : List Json) :
    itemChars (v :: w :: vs) = chars v ++ ',' :: ' ' :: itemChars (w :: vs) := by
  rw [itemChars]
  exact nofun

theorem exists_itemChars_cons (v : Json) (vs : List Json) :
    ∃ more, itemChars (v :: vs) = chars v ++ more := by
  cases vs with
  | nil => exact ⟨[], by rw [itemChars_singleton, List.append_nil]⟩
  | cons w vs => exact ⟨_, itemChars_cons_cons v w vs⟩

theorem memberChars_singleton (m : String × Json) :
    memberChars [m] = quoteChars m.1.toList ++ ':' :: ' ' :: chars m.2 := by
  rw [memberChars]

theorem memberChars_cons_cons (m n : String × Json) (ms : List (String × Json)) :
    memberChars (m :: n :: ms) = quoteChars m.1.toList ++ ':' :: ' ' ::
      (chars m.2 ++ ',' :: ' ' :: memberChars (n :: ms)) := by
  rw [memberChars]
  exact nofun

/-- A member as it is written between the commas. -/
def memberText (m : String × Json) : List Char := quoteChars m.1.toList ++ ':' :: ' ' :: chars m.2

theorem itemChars_eq (vs : List Json) : itemChars vs = [',', ' '].intercalate (vs.map chars) := by
  induction vs with
  | nil => rfl
  | cons v vs ih =>
    cases vs with
    | nil => rw [itemChars_singleton, List.map_singleton, List.intercalate_singleton]
    | cons w vs =>
      simp only [itemChars_cons_cons, ih, List.map_cons, List.intercalate_cons_cons,
        List.append_assoc, List.cons_append, List.nil_append]

theorem memberChars_eq (ms : List (String × Json)) :
    memberChars ms = [',', ' '].intercalate (ms.map memberText) := by
  induction ms with
  | nil => rfl
  | cons m ms ih =>
    cases ms with
    | nil => rw [memberChars_singleton, List.map_singleton, List.intercalate_singleton, memberText]
    | cons n ms =>
      simp only [memberChars_cons_cons, ih, List.map_cons, List.intercalate_cons_cons, memberText,
        List.append_assoc, List.cons_append, List.nil_append]

section Pieces

variable {α : Type} {sep : List α} {pieces : List (List α)} {a : α}

theorem mem_intercalate (h : a ∈ sep.intercalate pieces) : a ∈ sep ∨ ∃ piece ∈ pieces, a ∈ piece := by
  induction pieces with
  | nil => exact nomatch h
  | cons first pieces ih =>
    cases pieces with
    | nil =>
      rw [List.intercalate_singleton] at h
      exact .inr ⟨first, List.mem_singleton_self first, h⟩
    | cons second pieces =>
      rw [List.intercalate_cons_cons, List.mem_append, List.mem_append] at h
      rcases h with (h | h) | h
      · exact .inr ⟨first, List.mem_cons_self, h⟩
      · exact .inl h
      · exact (ih h).imp_right fun ⟨piece, hpiece, ha⟩ => ⟨piece, List.mem_cons_of_mem first hpiece, ha⟩

end Pieces

/-! ## What a reader asks of a value -/

/-- In each object of a value the names differ. -/
inductive Distinct : Json → Prop
  | null : Distinct .null
  | bool (b : Bool) : Distinct (.bool b)
  | int (n : Int) : Distinct (.int n)
  | float (x : Binary64) : Distinct (.float x)
  | str (s : String) : Distinct (.str s)
  | arr {items : List Json} (h : ∀ v ∈ items, Distinct v) : Distinct (.arr items)
  | obj {members : List (String × Json)} (names : (Table.names members).Nodup)
    (h : ∀ m ∈ members, Distinct m.2) : Distinct (.obj members)

/-- The integers of a value have at most `digits` digits, and its arrays and objects are nested at most
`depth` deep. -/
inductive Within (digits : Nat) : Nat → Json → Prop
  | null {depth : Nat} : Within digits depth .null
  | bool {depth : Nat} (b : Bool) : Within digits depth (.bool b)
  | int {depth : Nat} (n : Int) (h : (Decimal.digits n.natAbs).length ≤ digits) :
    Within digits depth (.int n)
  | float {depth : Nat} (x : Binary64) : Within digits depth (.float x)
  | str {depth : Nat} (s : String) : Within digits depth (.str s)
  | arr {depth : Nat} {items : List Json} (h : ∀ v ∈ items, Within digits depth v) :
    Within digits (depth + 1) (.arr items)
  | obj {depth : Nat} {members : List (String × Json)} (h : ∀ m ∈ members, Within digits depth m.2) :
    Within digits (depth + 1) (.obj members)

namespace Reader

variable {limit depth fuel : Nat} {cs rest : List Char} {v : Json} {vs : List Json}
  {ms : List (String × Json)}

/-! ## What values begin with -/

/-- A character that a value may begin with: it is no blank and closes no array. -/
def Begins (c : Char) : Prop := isBlank c = false ∧ c ≠ ']'

instance (c : Char) : Decidable (Begins c) := inferInstanceAs (Decidable (_ ∧ _))

theorem begins_of_isDigit {c : Char} (h : c.isDigit = true) : Begins c := by
  have hne (x : Char) (hx : x.isDigit = false) : c ≠ x := by
    rintro rfl
    simp [hx] at h
  refine ⟨?_, hne ']' rfl⟩
  simp only [isBlank, hne ' ' rfl, hne '\t' rfl, hne '\n' rfl, hne '\r' rfl, decide_false,
    Bool.or_self]

theorem exists_begins_of_number {r : Json} (h : number limit cs = .ok (r, rest)) :
    ∃ c more, cs = c :: more ∧ Begins c := by
  obtain ⟨negative, c, more, rfl, hc⟩ := exists_signed_of_number h
  cases negative with
  | true => exact ⟨'-', c :: more, rfl, by decide⟩
  | false => exact ⟨c, more, rfl, begins_of_isDigit hc⟩

theorem exists_begins_chars (v : Json) : ∃ c more, chars v = c :: more ∧ Begins c := by
  cases v with
  | null => exact ⟨'n', _, rfl, by decide⟩
  | bool b => cases b <;> exact ⟨_, _, rfl, by decide⟩
  | int n =>
    have hread := number_intText n le_rfl endsNumber_nil
    rw [List.append_nil] at hread
    exact exists_begins_of_number hread
  | float x =>
    cases x with
    | finite negative x =>
      have hread := number_finiteText 0 negative x endsNumber_nil
      rw [List.append_nil] at hread
      exact exists_begins_of_number hread
    | infinite negative => cases negative <;> exact ⟨_, _, rfl, by decide⟩
    | nan => exact ⟨_, _, rfl, by decide⟩
  | str s => exact ⟨'"', _, rfl, by decide⟩
  | arr items => exact ⟨'[', _, rfl, by decide⟩
  | obj members => exact ⟨'\x7b', _, rfl, by decide⟩

theorem skipBlanks_cons {c : Char} (h : isBlank c = false) (rest : List Char) :
    skipBlanks (c :: rest) = c :: rest :=
  List.dropWhile_cons_of_neg (by simp [h])

theorem skipBlanks_chars (v : Json) (rest : List Char) :
    skipBlanks (chars v ++ rest) = chars v ++ rest := by
  obtain ⟨c, more, hchars, hc, -⟩ := exists_begins_chars v
  rw [hchars, List.cons_append, skipBlanks_cons hc]

/-! ## Values -/

/-- A value is read from its characters where it is not part of a longer number. -/
def Reads (limit depth : Nat) (v : Json) : Prop :=
  ∀ fuel rest, (chars v).length ≤ fuel → EndsNumber rest →
    value limit depth fuel (chars v ++ rest) = .ok (v, rest)

theorem value_of_number (h : number limit cs = .ok (v, rest)) :
    value limit depth (fuel + 1) cs = .ok (v, rest) := by
  rw [← scalar_of_number h]
  obtain ⟨negative, c, more, rfl, hc⟩ := exists_signed_of_number h
  have hne (x : Char) (hx : x.isDigit = false) (more' : List Char) (hminus : x ≠ '-')
      (heq : signed negative (c :: more) = x :: more') : False := by
    cases negative with
    | true =>
      cases heq
      exact hminus rfl
    | false =>
      cases heq
      simp [hx] at hc
  exact value.eq_5 _ _ _ _ (fun _ => hne '"' rfl _ (by decide)) (fun _ => hne '[' rfl _ (by decide))
    fun _ => hne '\x7b' rfl _ (by decide)

theorem value_word {w : String} (hw : (w, v) ∈ words) (rest : List Char) :
    value limit depth (fuel + 1) (w.toList ++ rest) = .ok (v, rest) := by
  simp only [words, List.mem_cons, Prod.mk.injEq, List.not_mem_nil, or_false] at hw
  rcases hw with ⟨rfl, rfl⟩ | ⟨rfl, rfl⟩ | ⟨rfl, rfl⟩ | ⟨rfl, rfl⟩ | ⟨rfl, rfl⟩ | ⟨rfl, rfl⟩ <;>
    rfl

theorem quoteChars_append (cs rest : List Char) :
    quoteChars cs ++ rest = '"' :: (cs.flatMap escape ++ '"' :: rest) := by
  simp [quoteChars]

theorem string_quoteChars (s : String) (rest : List Char) {start : List Char} :
    string start ((s.toList.flatMap escape ++ '"' :: rest).length + 1) []
      (s.toList.flatMap escape ++ '"' :: rest) = .ok (s, rest) := by
  have hfuel : s.toList.length < (s.toList.flatMap escape ++ '"' :: rest).length + 1 := by
    have hlength := length_le_flatMap_escape s.toList
    rw [List.length_append]
    omega
  rw [string_quoted _ hfuel, List.reverse_nil, List.nil_append, String.ofList_toList]

theorem value_quoteChars (s : String) (rest : List Char) :
    value limit depth (fuel + 1) (quoteChars s.toList ++ rest) = .ok (.str s, rest) := by
  rw [quoteChars_append, value.eq_2, string_quoteChars]

/-! ## Arrays and objects -/

theorem exists_begins_itemChars (v : Json) (vs : List Json) :
    ∃ c more, itemChars (v :: vs) = c :: more ∧ Begins c := by
  obtain ⟨c, more, hchars, hc⟩ := exists_begins_chars v
  obtain ⟨rest, hitems⟩ := exists_itemChars_cons v vs
  exact ⟨c, more ++ rest, by rw [hitems, hchars, List.cons_append], hc⟩

theorem items_itemChars (hvs : ∀ v ∈ vs, Reads limit depth v) (hne : vs ≠ [])
    (hfuel : (itemChars vs).length < fuel) (rest : List Char) :
    items limit depth fuel (itemChars vs ++ ']' :: rest) = .ok (vs, rest) := by
  induction vs generalizing fuel with
  | nil => exact absurd rfl hne
  | cons v vs ih =>
    obtain ⟨more, rfl⟩ : ∃ more, fuel = more + 1 := ⟨fuel - 1, by omega⟩
    have hv := hvs v List.mem_cons_self more
    cases vs with
    | nil =>
      have hlength : (chars v).length ≤ more := Nat.lt_succ_iff.mp hfuel
      have hread := hv (']' :: rest) hlength
        (endsNumber_cons rfl (by decide) (by decide) (by decide) _)
      rw [itemChars_singleton, items, hread]
      rfl
    | cons w vs =>
      have hlength : (chars v).length + (itemChars (w :: vs)).length + 2 ≤ more := by
        simp only [itemChars_cons_cons, List.length_append, List.length_cons] at hfuel
        omega
      have hread := hv (',' :: ' ' :: (itemChars (w :: vs) ++ ']' :: rest)) (by omega)
        (endsNumber_cons rfl (by decide) (by decide) (by decide) _)
      have hless : (itemChars (w :: vs)).length < more := by omega
      have hrest := ih (fun x hx => hvs x (List.mem_cons_of_mem v hx)) (List.cons_ne_nil w vs) hless
      obtain ⟨c, tail, hchars, hc, -⟩ := exists_begins_itemChars w vs
      have hskip : skipBlanks (' ' :: (itemChars (w :: vs) ++ ']' :: rest)) =
          itemChars (w :: vs) ++ ']' :: rest := by
        rw [hchars]
        exact skipBlanks_cons hc _
      rw [itemChars_cons_cons, List.append_assoc, List.cons_append, List.cons_append, items, hread]
      simp only [skipBlanks_cons (c := ',') rfl, hskip, hrest]

theorem exists_quote_memberChars (m : String × Json) (ms : List (String × Json)) :
    ∃ more, memberChars (m :: ms) = '"' :: more := by
  cases ms with
  | nil => exact ⟨_, by rw [memberChars_singleton, quoteChars_append]⟩
  | cons n ms => exact ⟨_, by rw [memberChars_cons_cons, quoteChars_append]⟩

theorem members_memberChars (hms : ∀ m ∈ ms, Reads limit depth m.2) (hne : ms ≠ [])
    (hfuel : (memberChars ms).length < fuel) (rest : List Char) :
    members limit depth fuel (memberChars ms ++ '\x7d' :: rest) = .ok (ms, rest) := by
  induction ms generalizing fuel with
  | nil => exact absurd rfl hne
  | cons m ms ih =>
    obtain ⟨more, rfl⟩ : ∃ more, fuel = more + 1 := ⟨fuel - 1, by omega⟩
    have hm := hms m List.mem_cons_self more
    cases ms with
    | nil =>
      have hlength : (chars m.2).length ≤ more := by
        simp only [memberChars_singleton, List.length_append, List.length_cons] at hfuel
        omega
      have hread := hm ('\x7d' :: rest) hlength
        (endsNumber_cons rfl (by decide) (by decide) (by decide) _)
      have hskip : skipBlanks (' ' :: (chars m.2 ++ '\x7d' :: rest)) = chars m.2 ++ '\x7d' :: rest :=
        skipBlanks_chars m.2 _
      rw [memberChars_singleton, List.append_assoc, quoteChars_append, members.eq_2,
        string_quoteChars]
      simp only [List.cons_append, skipBlanks_cons (c := ':') rfl, hskip, hread,
        skipBlanks_cons (c := '\x7d') rfl]
    | cons n ms =>
      have hlength : (chars m.2).length + (memberChars (n :: ms)).length + 2 ≤ more := by
        simp only [memberChars_cons_cons, List.length_append, List.length_cons] at hfuel
        omega
      have hread := hm (',' :: ' ' :: (memberChars (n :: ms) ++ '\x7d' :: rest)) (by omega)
        (endsNumber_cons rfl (by decide) (by decide) (by decide) _)
      have hless : (memberChars (n :: ms)).length < more := by omega
      have hrest := ih (fun x hx => hms x (List.mem_cons_of_mem m hx)) (List.cons_ne_nil n ms) hless
      have hskip : skipBlanks (' ' :: (chars m.2 ++ ',' :: ' ' :: (memberChars (n :: ms) ++
          '\x7d' :: rest))) = chars m.2 ++ ',' :: ' ' :: (memberChars (n :: ms) ++ '\x7d' :: rest) :=
        skipBlanks_chars m.2 _
      have hquote : skipBlanks (' ' :: (memberChars (n :: ms) ++ '\x7d' :: rest)) =
          memberChars (n :: ms) ++ '\x7d' :: rest := by
        obtain ⟨tail, htail⟩ := exists_quote_memberChars n ms
        rw [htail]
        rfl
      rw [memberChars_cons_cons, List.append_assoc, quoteChars_append, members.eq_2,
        string_quoteChars]
      simp only [List.cons_append, List.append_assoc, skipBlanks_cons (c := ':') rfl, hskip, hread,
        skipBlanks_cons (c := ',') rfl, hquote, hrest]

theorem value_items (hvs : ∀ v ∈ vs, Reads limit depth v) (hfuel : (itemChars vs).length < fuel)
    (rest : List Char) :
    value limit (depth + 1) (fuel + 1) ('[' :: (itemChars vs ++ ']' :: rest)) =
      .ok (.arr vs, rest) := by
  cases vs with
  | nil => rfl
  | cons v vs =>
    have hread := items_itemChars hvs (List.cons_ne_nil v vs) hfuel rest
    obtain ⟨c, more, hchars, hblank, hclose⟩ := exists_begins_itemChars v vs
    rw [hchars, List.cons_append] at hread ⊢
    have hskip := skipBlanks_cons hblank (more ++ ']' :: rest)
    rw [value.eq_3, if_neg (Nat.succ_ne_zero depth), Nat.add_sub_cancel]
    dsimp only
    rw [hskip]
    split
    · rename_i heq
      exact absurd (List.cons.inj heq).1 hclose
    · rw [hread]

theorem value_members (hms : ∀ m ∈ ms, Reads limit depth m.2) (hnames : (Table.names ms).Nodup)
    (hfuel : (memberChars ms).length < fuel) (rest : List Char) :
    value limit (depth + 1) (fuel + 1) ('\x7b' :: (memberChars ms ++ '\x7d' :: rest)) =
      .ok (.obj ms, rest) := by
  cases ms with
  | nil => rfl
  | cons m ms =>
    have hread := members_memberChars hms (List.cons_ne_nil m ms) hfuel rest
    obtain ⟨more, hchars⟩ := exists_quote_memberChars m ms
    rw [hchars, List.cons_append] at hread ⊢
    have hskip := skipBlanks_cons (c := '"') rfl (more ++ '\x7d' :: rest)
    rw [value.eq_4, if_neg (Nat.succ_ne_zero depth), Nat.add_sub_cancel]
    dsimp only
    rw [hskip, hread]
    dsimp only
    rw [Table.ofEntries_of_nodup hnames]
    rfl

theorem reads_of_value (h : ∀ fuel rest, EndsNumber rest → (chars v).length ≤ fuel + 1 →
    value limit depth (fuel + 1) (chars v ++ rest) = .ok (v, rest)) : Reads limit depth v := by
  intro fuel rest hfuel hrest
  obtain ⟨c, more, hchars, -⟩ := exists_begins_chars v
  have hlength : (chars v).length = more.length + 1 := by rw [hchars, List.length_cons]
  obtain ⟨less, rfl⟩ : ∃ less, fuel = less + 1 := ⟨fuel - 1, by omega⟩
  exact h less rest hrest hfuel

/-- A value is read where its names differ and the limits allow for it. -/
theorem reads_of_within (hnames : Distinct v) (h : Within limit depth v) : Reads limit depth v := by
  induction v using Json.induction generalizing depth with
  | null => exact reads_of_value fun _ rest _ _ => value_word (w := "null") (by simp [words]) rest
  | bool b =>
    cases b with
    | true => exact reads_of_value fun _ rest _ _ => value_word (w := "true") (by simp [words]) rest
    | false =>
      exact reads_of_value fun _ rest _ _ => value_word (w := "false") (by simp [words]) rest
  | int n =>
    cases h with
    | int _ hdigits =>
      exact reads_of_value fun _ _ hrest _ => value_of_number (number_intText n hdigits hrest)
  | float x =>
    refine reads_of_value fun fuel rest hrest _ => ?_
    cases x with
    | finite negative x => exact value_of_number (number_finiteText limit negative x hrest)
    | infinite negative =>
      cases negative with
      | true => exact value_word (w := "-Infinity") (by simp [words]) rest
      | false => exact value_word (w := "Infinity") (by simp [words]) rest
    | nan => exact value_word (w := "NaN") (by simp [words]) rest
  | str s => exact reads_of_value fun _ rest _ _ => value_quoteChars s rest
  | arr vs ih =>
    cases hnames with
    | arr hnames =>
      cases h with
      | arr hvs =>
        refine reads_of_value fun fuel rest _ hfuel => ?_
        have hlength : (itemChars vs).length < fuel := by
          simp only [chars, List.length_append, List.length_cons, List.length_nil] at hfuel
          omega
        have hread := value_items (fun v hv => ih v hv (hnames v hv) (hvs v hv)) hlength rest
        simpa only [chars, List.cons_append, List.append_assoc, List.nil_append] using hread
  | obj ms ih =>
    cases hnames with
    | obj hnodup hnames =>
      cases h with
      | obj hms =>
        refine reads_of_value fun fuel rest _ hfuel => ?_
        have hlength : (memberChars ms).length < fuel := by
          simp only [chars, List.length_append, List.length_cons, List.length_nil] at hfuel
          omega
        have hread := value_members (fun m hm => ih m hm (hnames m hm) (hms m hm)) hnodup hlength rest
        simpa only [chars, List.cons_append, List.append_assoc, List.nil_append] using hread

end Reader

/-! ## Whole texts -/

section Texts

variable {digits depth : Nat} {v : Json} {c : Char}

theorem readWithin_chars (hnames : Distinct v) (h : Within digits depth v) :
    readWithin digits depth (chars v) = .ok v := by
  have hread := Reader.reads_of_within hnames h ((chars v).length + 1) [] (Nat.le_succ _)
    Reader.endsNumber_nil
  have hskip := Reader.skipBlanks_chars v []
  rw [List.append_nil] at hread hskip
  rw [readWithin, hskip, hread]
  rfl

theorem within_arr_iff {vs : List Json} :
    Within digits (depth + 1) (.arr vs) ↔ ∀ v ∈ vs, Within digits depth v :=
  ⟨fun | .arr h => h, .arr⟩

theorem within_obj_iff {ms : List (String × Json)} :
    Within digits (depth + 1) (.obj ms) ↔ ∀ m ∈ ms, Within digits depth m.2 :=
  ⟨fun | .obj h => h, .obj⟩

theorem Within.mono {digits' depth' : Nat} (h : Within digits depth v) (hdigits : digits ≤ digits')
    (hdepth : depth ≤ depth') : Within digits' depth' v := by
  induction h generalizing depth' with
  | null => exact .null
  | bool b => exact .bool b
  | int n hn => exact .int n (hn.trans hdigits)
  | float x => exact .float x
  | str s => exact .str s
  | arr _ ih =>
    obtain ⟨more, rfl⟩ := Nat.exists_eq_add_of_lt hdepth
    exact .arr fun v hv => ih v hv (Nat.le_add_right _ _)
  | obj _ ih =>
    obtain ⟨more, rfl⟩ := Nat.exists_eq_add_of_lt hdepth
    exact .obj fun m hm => ih m hm (Nat.le_add_right _ _)

theorem mark_printable (h : c ∈ [',', ' ']) : 0x20 ≤ c.toNat := by
  simp only [List.mem_cons, List.not_mem_nil, or_false] at h
  rcases h with rfl | rfl <;> decide

/-- No written value holds a control character. -/
theorem chars_printable (h : c ∈ chars v) : 0x20 ≤ c.toNat := by
  have hword {w : String} {d : Char} (hw : ∀ c ∈ w.toList, 0x20 ≤ c.toNat) (h : d ∈ w.toList) :
      0x20 ≤ d.toNat := hw d h
  induction v using Json.induction generalizing c with
  | null => exact hword (by simp) h
  | bool b => cases b <;> exact hword (by simp) h
  | int n => exact intText_printable h
  | float x =>
    cases x with
    | finite negative x => exact finiteText_printable h
    | infinite negative => cases negative <;> exact hword (by simp) h
    | nan => exact hword (by simp) h
  | str s => exact quoteChars_printable h
  | arr vs ih =>
    simp only [chars, List.cons_append, List.mem_cons, List.mem_append, List.not_mem_nil,
      or_false] at h
    rcases h with rfl | h | rfl
    · decide
    · rw [itemChars_eq] at h
      rcases mem_intercalate h with hmark | ⟨_, hpiece, hc⟩
      · exact mark_printable hmark
      · obtain ⟨v, hv, rfl⟩ := List.mem_map.mp hpiece
        exact ih v hv hc
    · decide
  | obj ms ih =>
    simp only [chars, List.cons_append, List.mem_cons, List.mem_append, List.not_mem_nil,
      or_false] at h
    rcases h with rfl | h | rfl
    · decide
    · rw [memberChars_eq] at h
      rcases mem_intercalate h with hmark | ⟨_, hpiece, hc⟩
      · exact mark_printable hmark
      · obtain ⟨m, hm, rfl⟩ := List.mem_map.mp hpiece
        rcases List.mem_append.mp hc with hc | hc
        · exact quoteChars_printable hc
        · simp only [List.mem_cons] at hc
          rcases hc with rfl | rfl | hc
          · decide
          · decide
          · exact ih m hm hc
    · decide

end Texts

end SalesDesk.Json
