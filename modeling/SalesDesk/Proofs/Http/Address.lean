import SalesDesk.Http.Url
import SalesDesk.Proofs.Text.Utf8
import Mathlib.Data.List.TakeWhile

/-!
# Writing targets

A segment of a path may be written with a percent sign and two digits for each byte of a character. A
target that is written so is read as the segments that it was written for, whatever they are, as long
as none of them holds a slash.
-/

namespace SalesDesk.Http

namespace Url

open Text

variable {cs rest front written : List Char} {n : Nat} {mark : Char}

/-! ## Percent signs -/

def hexDigit (n : Nat) : Char := Char.ofNat (if n < 10 then 0x30 + n else 0x37 + n)

def escapeByte (b : Nat) : List Char := ['%', hexDigit (b / 16), hexDigit (b % 16)]

/-- A character with each of its bytes written as a percent sign and two digits. -/
def escapeChar (c : Char) : List Char := (Utf8.encodeChar c).flatMap escapeByte

/-- A character that means itself in a segment of a path. -/
def IsPlain (c : Char) : Prop := c ≠ '%' ∧ c ≠ '/' ∧ c ≠ '?'

instance (c : Char) : Decidable (IsPlain c) := inferInstanceAs (Decidable (_ ∧ _))

/-- How a text may be written in a path: every character is escaped, or means itself. -/
inductive Escapes : List Char → List Char → Prop
  | nil : Escapes [] []
  | plain {c : Char} {cs written : List Char} (hc : IsPlain c) (h : Escapes cs written) :
      Escapes (c :: cs) (c :: written)
  | escaped (c : Char) {cs written : List Char} (h : Escapes cs written) :
      Escapes (c :: cs) (escapeChar c ++ written)

theorem hexValue?_hexDigit : ∀ n < 16, hexValue? (hexDigit n) = some n := by decide

theorem escaped?_escapeByte (h : n < 256) (rest : List Char) :
    escaped? (escapeByte n ++ rest) = some (n, rest) := by
  have hhigh := hexValue?_hexDigit (n / 16) (by omega)
  have hlow := hexValue?_hexDigit (n % 16) (by omega)
  have hsplit : 16 * (n / 16) + n % 16 = n := Nat.div_add_mod n 16
  simp only [escapeByte, List.cons_append, List.nil_append, escaped?, hhigh, hlow, hsplit]

theorem bytes_of_escaped? (h : escaped? cs = some (n, rest)) : bytes cs = n :: bytes rest := by
  rw [bytes]
  split
  · rename_i hsome
    rw [h] at hsome
    cases hsome
    rfl
  · rename_i hnone
    rw [h] at hnone
    cases hnone

theorem bytes_cons {c : Char} (h : c ≠ '%') (rest : List Char) :
    bytes (c :: rest) = Utf8.encodeChar c ++ bytes rest := by
  have hnone : escaped? (c :: rest) = none := by
    unfold escaped?
    split
    · rename_i hcs
      exact absurd (List.cons.inj hcs).1 h
    · rfl
  rw [bytes]
  split
  · rename_i hsome
    rw [hnone] at hsome
    cases hsome
  · rfl

theorem bytes_nil : bytes [] = [] := by
  rw [bytes]
  rfl

theorem bytes_escapeChar_append (c : Char) (rest : List Char) :
    bytes (escapeChar c ++ rest) = Utf8.encodeChar c ++ bytes rest := by
  have hall (bs : List Nat) (h : ∀ b ∈ bs, b < 256) :
      bytes (bs.flatMap escapeByte ++ rest) = bs ++ bytes rest := by
    induction bs with
    | nil => rfl
    | cons b bs ih =>
      rw [List.flatMap_cons, List.append_assoc,
        bytes_of_escaped? (escaped?_escapeByte (h b List.mem_cons_self) _),
        ih fun x hx => h x (List.mem_cons_of_mem _ hx)]
      rfl
  exact hall _ fun b hb => Utf8.lt_of_mem_encodeChar hb

/-- The bytes of a text are read, however it is written. -/
theorem Escapes.bytes_eq (h : Escapes cs written) : bytes written = Utf8.encode cs := by
  induction h with
  | nil => exact bytes_nil
  | plain hc _ ih => rw [bytes_cons hc.1, ih]; rfl
  | escaped c _ ih => rw [bytes_escapeChar_append, ih]; rfl

theorem bytes_append (h : '%' ∉ front) (rest : List Char) :
    bytes (front ++ rest) = Utf8.encode front ++ bytes rest := by
  induction front with
  | nil => rfl
  | cons c front ih =>
    obtain ⟨hc, hfront⟩ := not_or.mp (mt List.mem_cons.mpr h)
    rw [List.cons_append, bytes_cons (Ne.symm hc), ih hfront, ← List.append_assoc]
    rfl

/-- Behind a text in which nothing is escaped stands the text that was escaped. -/
theorem Escapes.decode_append (h : Escapes cs written) (hfront : '%' ∉ front) :
    decode (front ++ written) = front ++ cs := by
  rw [decode, bytes_append hfront, h.bytes_eq, ← Utf8.encode_append, Utf8.decode_encode]

/-- Every text can be written with all its characters escaped. -/
theorem escapes_flatMap (cs : List Char) : Escapes cs (cs.flatMap escapeChar) := by
  induction cs with
  | nil => exact .nil
  | cons c cs ih => exact .escaped c ih

theorem ne_of_mem_escapeChar {c d : Char} (h : d ∈ escapeChar c) : d ≠ '/' ∧ d ≠ '?' := by
  have hdigit : ∀ n < 16, hexDigit n ≠ '/' ∧ hexDigit n ≠ '?' := by decide
  obtain ⟨b, hb, hd⟩ := List.mem_flatMap.mp h
  have hbyte := Utf8.lt_of_mem_encodeChar hb
  simp only [escapeByte, List.mem_cons, List.not_mem_nil, or_false] at hd
  rcases hd with rfl | rfl | rfl
  · decide
  · exact hdigit _ (by omega)
  · exact hdigit _ (by omega)

/-- A written text ends neither the segment nor the path. -/
theorem Escapes.ne_of_mem (h : Escapes cs written) : ∀ d ∈ written, d ≠ '/' ∧ d ≠ '?' := by
  induction h with
  | nil => exact nofun
  | plain hc _ ih => exact List.forall_mem_cons.mpr ⟨hc.2, ih⟩
  | escaped c _ ih => exact List.forall_mem_append.mpr ⟨fun _ hd => ne_of_mem_escapeChar hd, ih⟩

/-! ## Slashes -/

/-- A path of some segments. -/
def join (segments : List (List Char)) : List Char := segments.flatMap fun s => '/' :: s

theorem split_of_notMem (h : mark ∉ cs) : split mark cs = [cs] := by
  induction cs with
  | nil => rfl
  | cons c cs ih =>
    obtain ⟨hc, hrest⟩ := not_or.mp (mt List.mem_cons.mpr h)
    rw [split, if_neg (Ne.symm hc), ih hrest]

theorem split_append (h : mark ∉ front) (rest : List Char) :
    split mark (front ++ mark :: rest) = front :: split mark rest := by
  induction front with
  | nil => simp [split]
  | cons c front ih =>
    obtain ⟨hc, hfront⟩ := not_or.mp (mt List.mem_cons.mpr h)
    rw [List.cons_append, split, if_neg (Ne.symm hc), ih hfront]

variable {segments : List (List Char)}

theorem split_append_join (hfront : '/' ∉ front) (h : ∀ s ∈ segments, '/' ∉ s) :
    split '/' (front ++ join segments) = front :: segments := by
  induction segments generalizing front with
  | nil => rw [join, List.flatMap_nil, List.append_nil, split_of_notMem hfront]
  | cons s rest ih =>
    have hrest : ∀ s ∈ rest, '/' ∉ s := fun s hs => h s (List.mem_cons_of_mem _ hs)
    rw [join, List.flatMap_cons, List.cons_append, split_append hfront]
    exact congrArg _ (ih (h s List.mem_cons_self) hrest)

theorem split_join (h : ∀ s ∈ segments, '/' ∉ s) :
    split '/' (join segments) = [] :: segments :=
  split_append_join List.not_mem_nil h

theorem cut_of_notMem (h : mark ∉ cs) : cut mark cs = (cs, none) := by
  have hnone : cs.dropWhile (· ≠ mark) = [] := by
    rw [List.dropWhile_eq_nil_iff]
    intro c hc
    exact decide_eq_true fun hmark : c = mark => h (hmark ▸ hc)
  rw [cut, hnone]

end Url

/-! ## Targets -/

open Url

theorem mem_join {segments : List (List Char)} {c : Char} (h : c ∈ join segments) :
    c = '/' ∨ ∃ s ∈ segments, c ∈ s := by
  obtain ⟨s, hs, hc⟩ := List.mem_flatMap.mp h
  exact (List.mem_cons.mp hc).imp id fun hc => ⟨s, hs, hc⟩

theorem join_append (segments : List (List Char)) (last : List Char) :
    join (segments ++ [last]) = join segments ++ '/' :: last := by
  simp [join]

/-- A path of plain words with an escaped text behind them is read as the words and the text. -/
theorem Target.read_join {words : List (List Char)} {cs written : List Char}
    (hplain : ∀ w ∈ words, ∀ c ∈ w, IsPlain c) (hcs : '/' ∉ cs) (hwritten : Escapes cs written) :
    read (String.ofList (join (words ++ [written]))) =
      { segments := (words ++ [cs]).map String.ofList, query := Url.parameters [] } := by
  have hword {c : Char} (hslash : c ≠ '/') (hc : ¬ IsPlain c) : c ∉ join words := fun h =>
    (mem_join h).elim hslash fun ⟨w, hw, hmem⟩ => hc (hplain w hw c hmem)
  have hpercent : '%' ∉ join words ++ ['/'] := fun h =>
    (List.mem_append.mp h).elim (hword (by decide) (by decide)) (by decide)
  have hquery : '?' ∉ join (words ++ [written]) := by
    rw [join_append]
    intro h
    rcases List.mem_append.mp h with h | h
    · exact hword (by decide) (by decide) h
    · exact (List.mem_cons.mp h).elim (by decide) fun h => (hwritten.ne_of_mem _ h).2 rfl
  have hdecoded : decode (join (words ++ [written])) = join (words ++ [cs]) := by
    have hfront := hwritten.decode_append hpercent
    rwa [List.append_assoc, List.append_assoc, List.singleton_append, List.singleton_append,
      ← join_append, ← join_append] at hfront
  have hslash : ∀ s ∈ words ++ [cs], '/' ∉ s := by
    intro s hs
    rcases List.mem_append.mp hs with hw | hlast
    · exact fun h => absurd (hplain s hw _ h) (by decide)
    · exact List.mem_singleton.mp hlast ▸ hcs
  have hsegments : Url.segments (join (words ++ [written])) =
      (words ++ [cs]).map String.ofList := by
    rw [Url.segments, hdecoded, split_join hslash]
    rfl
  rw [read, String.toList_ofList, cut_of_notMem hquery]
  simp only [hsegments, Option.getD_none]

end SalesDesk.Http
