import SalesDesk.Json.Printer
import SalesDesk.Json.Reader
import Mathlib.Tactic.SplitIfs

/-!
# Reading written strings

A string is read back from its characters between quotes, whatever they are: quotes, backslashes and
control characters are written as escapes, from which they are read.
-/

namespace SalesDesk.Json

open Reader

variable {c letter : Char} {start rest : List Char}

theorem hexDigit_printable : ∀ n < 16, 0x20 ≤ (hexDigit n).toNat := by decide

/-- A character is written as it is, as a letter, or with its digits. -/
theorem escape_cases (c : Char) :
    escape c = [c] ∧ c ≠ '"' ∧ c ≠ '\\' ∧ 0x20 ≤ c.toNat ∨
      (∃ letter, escape c = ['\\', letter] ∧ simpleEscape? letter = some c ∧ letter ≠ 'u' ∧
        0x20 ≤ letter.toNat) ∨
      escape c = ['\\', 'u', '0', '0', hexDigit (c.toNat / 16), hexDigit (c.toNat % 16)] ∧
        c.toNat < 0x20 := by
  unfold escape
  split_ifs with hquote hbackslash hline hreturn htab hform hback hcontrol
  · exact .inr (.inl ⟨'"', rfl, congrArg some hquote.symm, by decide, by decide⟩)
  · exact .inr (.inl ⟨'\\', rfl, congrArg some hbackslash.symm, by decide, by decide⟩)
  · exact .inr (.inl ⟨'n', rfl, congrArg some hline.symm, by decide, by decide⟩)
  · exact .inr (.inl ⟨'r', rfl, congrArg some hreturn.symm, by decide, by decide⟩)
  · exact .inr (.inl ⟨'t', rfl, congrArg some htab.symm, by decide, by decide⟩)
  · exact .inr (.inl ⟨'f', rfl, congrArg some hform.symm, by decide, by decide⟩)
  · exact .inr (.inl ⟨'b', rfl, congrArg some hback.symm, by decide, by decide⟩)
  · exact .inr (.inr ⟨rfl, hcontrol⟩)
  · exact .inl ⟨rfl, hquote, hbackslash, Nat.not_lt.mp hcontrol⟩

theorem escape_printable {d : Char} (h : d ∈ escape c) : 0x20 ≤ d.toNat := by
  rcases escape_cases c with ⟨hc, -, -, hprint⟩ | ⟨letter, hc, -, -, hprint⟩ | ⟨hc, hcontrol⟩
  · rw [hc] at h
    rwa [List.mem_singleton.mp h]
  · rw [hc] at h
    simp only [List.mem_cons, List.not_mem_nil, or_false] at h
    rcases h with rfl | rfl
    · decide
    · exact hprint
  · have hhigh := hexDigit_printable (c.toNat / 16) (by omega)
    have hlow := hexDigit_printable (c.toNat % 16) (by omega)
    rw [hc] at h
    simp only [List.mem_cons, List.not_mem_nil, or_false] at h
    rcases h with rfl | rfl | rfl | rfl | rfl | rfl
    · decide
    · decide
    · decide
    · decide
    · exact hhigh
    · exact hlow

/-- No written string holds a control character. -/
theorem quoteChars_printable {cs : List Char} (h : c ∈ quoteChars cs) : 0x20 ≤ c.toNat := by
  rcases List.mem_append.mp h with h | h
  · rcases List.mem_cons.mp h with rfl | h
    · decide
    · obtain ⟨d, -, hc⟩ := List.mem_flatMap.mp h
      exact escape_printable hc
  · rw [List.mem_singleton.mp h]
    decide

theorem length_le_flatMap_escape (cs : List Char) : cs.length ≤ (cs.flatMap escape).length := by
  induction cs with
  | nil => exact Nat.le_refl _
  | cons c cs ih =>
    have hone : 0 < (escape c).length := by
      rcases escape_cases c with ⟨hc, -⟩ | ⟨letter, hc, -⟩ | ⟨hc, -⟩ <;> simp [hc]
    simp only [List.flatMap_cons, List.length_append, List.length_cons]
    omega

namespace Reader

variable {fuel : Nat} {seen : List Char}

theorem codeUnit?_hexDigit : ∀ n < 32, codeUnit? ['0', '0', hexDigit (n / 16), hexDigit (n % 16)] =
    some n := by decide

/-- Digits are read where one more character follows, as the closing quote does. -/
theorem unicodeEscape_control {n : Nat} (hn : n < 32) (hrest : rest ≠ []) :
    unicodeEscape ('u' :: '0' :: '0' :: hexDigit (n / 16) :: hexDigit (n % 16) :: rest) =
      .ok (Char.ofNat n, rest) := by
  have hhigh : isHighSurrogate n = false := by
    simp only [isHighSurrogate, Bool.and_eq_false_iff, decide_eq_false_iff_not]
    omega
  have hlow : isLowSurrogate n = false := by
    simp only [isLowSurrogate, Bool.and_eq_false_iff, decide_eq_false_iff_not]
    omega
  simp only [unicodeEscape, List.drop_succ_cons, List.drop_zero, List.take_succ_cons,
    List.take_zero, if_neg hrest, codeUnit?_hexDigit n hn, hhigh, Bool.false_and,
    Bool.false_eq_true, if_false, unitChar?, hlow, Bool.or_self]

theorem string_close :
    string start (fuel + 1) seen ('"' :: rest) = .ok (String.ofList seen.reverse, rest) := by
  cases rest <;> rfl

theorem string_plain (hquote : c ≠ '"') (hbackslash : c ≠ '\\') (hprint : 0x20 ≤ c.toNat) :
    string start (fuel + 1) seen (c :: rest) = string start fuel (c :: seen) rest := by
  cases rest <;> simp only [string, if_neg hquote, if_neg hbackslash, if_neg (Nat.not_lt.mpr hprint)]

theorem string_letter (h : simpleEscape? letter = some c) (hu : letter ≠ 'u') :
    string start (fuel + 1) seen ('\\' :: letter :: rest) = string start fuel (c :: seen) rest := by
  rw [string, if_neg (by decide), if_pos rfl, if_neg hu, h]

theorem string_control (h : c.toNat < 0x20) (hrest : rest ≠ []) :
    string start (fuel + 1) seen ('\\' :: 'u' :: '0' :: '0' :: hexDigit (c.toNat / 16) ::
      hexDigit (c.toNat % 16) :: rest) = string start fuel (c :: seen) rest := by
  rw [string, if_neg (by decide), if_pos rfl, if_pos rfl, unicodeEscape_control h hrest,
    Char.ofNat_toNat]

theorem string_escape (c : Char) (hrest : rest ≠ []) :
    string start (fuel + 1) seen (escape c ++ rest) = string start fuel (c :: seen) rest := by
  rcases escape_cases c with ⟨hc, hquote, hbackslash, hprint⟩ | ⟨letter, hc, hletter, hu, -⟩ |
    ⟨hc, hcontrol⟩
  · rw [hc]
    exact string_plain hquote hbackslash hprint
  · rw [hc]
    exact string_letter hletter hu
  · rw [hc]
    exact string_control hcontrol hrest

theorem string_quoted (cs : List Char) (h : cs.length < fuel) :
    string start fuel seen (cs.flatMap escape ++ '"' :: rest) =
      .ok (String.ofList (seen.reverse ++ cs), rest) := by
  induction cs generalizing fuel seen with
  | nil =>
    obtain ⟨more, rfl⟩ : ∃ more, fuel = more + 1 := ⟨fuel - 1, by omega⟩
    rw [List.flatMap_nil, List.nil_append, string_close, List.append_nil]
  | cons c cs ih =>
    obtain ⟨more, rfl⟩ : ∃ more, fuel = more + 1 := ⟨fuel - 1, by omega⟩
    have hlength : cs.length < more := by simpa using h
    rw [List.flatMap_cons, List.append_assoc, string_escape c (by simp), ih hlength,
      List.reverse_cons, List.append_assoc, List.singleton_append]

end Reader

end SalesDesk.Json
