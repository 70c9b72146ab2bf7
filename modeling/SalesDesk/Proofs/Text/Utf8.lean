import SalesDesk.Text.Utf8
import Mathlib.Tactic.SplitIfs

/-!
# Reading UTF-8 back

The bytes of a character are read back as this character, whatever bytes follow, so a text is read
back from its bytes.
-/

namespace SalesDesk.Text.Utf8

variable {b n : Nat} {l : Lead} {bytes rest : List Nat}

theorem encode_append (front cs : List Char) :
    encode (front ++ cs) = encode front ++ encode cs :=
  List.flatMap_append

theorem lt_of_mem_encodeChar {c : Char} (h : b ∈ encodeChar c) : b < 256 := by
  have hvalid : c.toNat < 0xD800 ∨ 0xDFFF < c.toNat ∧ c.toNat < 0x110000 := c.valid
  unfold encodeChar at h
  dsimp only at h
  split_ifs at h <;> simp only [List.mem_cons, List.not_mem_nil, or_false] at h <;> omega

/-! ## One character -/

theorem tail_zero (low high : Nat) (rest : List Nat) : tail 0 low high rest = [] := by
  cases rest <;> rfl

theorem tail_succ {count low high : Nat} (hlow : low ≤ b) (hhigh : b ≤ high) (rest : List Nat) :
    tail (count + 1) low high (b :: rest) = b :: tail count 0x80 0xBF rest := by
  rw [tail, if_pos ⟨hlow, hhigh⟩]

/-- A first byte with the bytes that it announces is one character. -/
theorem decode_of_lead (hlead : lead? b = some l)
    (htail : tail l.follow l.low l.high (bytes ++ rest) = bytes)
    (hlength : bytes.length = l.follow) (hpoint : point l.base bytes = n) :
    decode (b :: (bytes ++ rest)) = Char.ofNat n :: decode rest := by
  rw [decode, hlead]
  simp only [htail, hlength, hpoint, if_true]
  rw [← hlength, List.drop_left]

theorem decode_one (h : n < 0x80) (rest : List Nat) :
    decode ([n] ++ rest) = Char.ofNat n :: decode rest := by
  have hlead : lead? n = some { follow := 0, base := n } := if_pos h
  have htail : tail 0 0x80 0xBF ([] ++ rest) = [] := tail_zero ..
  exact decode_of_lead hlead htail rfl rfl

theorem decode_two (hlow : 0x80 ≤ n) (hhigh : n < 0x800) (rest : List Nat) :
    decode ([0xC0 + n / 0x40, 0x80 + n % 0x40] ++ rest) = Char.ofNat n :: decode rest := by
  have hlead : lead? (0xC0 + n / 0x40) = some { follow := 1, base := n / 0x40 } := by
    rw [lead?, if_neg (by omega), if_neg (by omega), if_pos (by omega), Nat.add_sub_cancel_left]
  have htail : tail 1 0x80 0xBF ([0x80 + n % 0x40] ++ rest) = [0x80 + n % 0x40] := by
    rw [List.singleton_append, tail_succ (by omega) (by omega), tail_zero]
  refine decode_of_lead hlead htail rfl ?_
  simp only [point, List.foldl_cons, List.foldl_nil]
  omega

/-- The first byte narrows the range of the second, so that no surrogate is read and no character
that has fewer bytes. -/
theorem decode_three (hlow : 0x800 ≤ n) (hhigh : n < 0x10000) (hvalid : n < 0xD800 ∨ 0xDFFF < n)
    (rest : List Nat) :
    decode ([0xE0 + n / 0x1000, 0x80 + n / 0x40 % 0x40, 0x80 + n % 0x40] ++ rest) =
      Char.ofNat n :: decode rest := by
  have hlead : lead? (0xE0 + n / 0x1000) = some
      { follow := 2, low := if n / 0x1000 = 0 then 0xA0 else 0x80
        high := if n / 0x1000 = 13 then 0x9F else 0xBF, base := n / 0x1000 } := by
    have hfirst : 0xE0 + n / 0x1000 = 0xE0 ↔ n / 0x1000 = 0 := by omega
    have hlast : 0xE0 + n / 0x1000 = 0xED ↔ n / 0x1000 = 13 := by omega
    rw [lead?, if_neg (by omega), if_neg (by omega), if_neg (by omega), if_pos (by omega),
      Nat.add_sub_cancel_left]
    simp only [hfirst, hlast]
  have htail : tail 2 (if n / 0x1000 = 0 then 0xA0 else 0x80)
      (if n / 0x1000 = 13 then 0x9F else 0xBF)
      ([0x80 + n / 0x40 % 0x40, 0x80 + n % 0x40] ++ rest) =
        [0x80 + n / 0x40 % 0x40, 0x80 + n % 0x40] := by
    rw [List.cons_append, List.singleton_append, tail_succ, tail_succ (by omega) (by omega),
      tail_zero]
    · split_ifs <;> omega
    · split_ifs <;> omega
  refine decode_of_lead hlead htail rfl ?_
  simp only [point, List.foldl_cons, List.foldl_nil]
  omega

theorem decode_four (hlow : 0x10000 ≤ n) (hhigh : n < 0x110000) (rest : List Nat) :
    decode ([0xF0 + n / 0x40000, 0x80 + n / 0x1000 % 0x40, 0x80 + n / 0x40 % 0x40,
      0x80 + n % 0x40] ++ rest) = Char.ofNat n :: decode rest := by
  have hlead : lead? (0xF0 + n / 0x40000) = some
      { follow := 3, low := if n / 0x40000 = 0 then 0x90 else 0x80
        high := if n / 0x40000 = 4 then 0x8F else 0xBF, base := n / 0x40000 } := by
    have hfirst : 0xF0 + n / 0x40000 = 0xF0 ↔ n / 0x40000 = 0 := by omega
    have hlast : 0xF0 + n / 0x40000 = 0xF4 ↔ n / 0x40000 = 4 := by omega
    rw [lead?, if_neg (by omega), if_neg (by omega), if_neg (by omega), if_neg (by omega),
      if_pos (by omega), Nat.add_sub_cancel_left]
    simp only [hfirst, hlast]
  have htail : tail 3 (if n / 0x40000 = 0 then 0x90 else 0x80)
      (if n / 0x40000 = 4 then 0x8F else 0xBF)
      ([0x80 + n / 0x1000 % 0x40, 0x80 + n / 0x40 % 0x40, 0x80 + n % 0x40] ++ rest) =
        [0x80 + n / 0x1000 % 0x40, 0x80 + n / 0x40 % 0x40, 0x80 + n % 0x40] := by
    rw [List.cons_append, List.cons_append, List.singleton_append, tail_succ,
      tail_succ (by omega) (by omega), tail_succ (by omega) (by omega), tail_zero]
    · split_ifs <;> omega
    · split_ifs <;> omega
  refine decode_of_lead hlead htail rfl ?_
  simp only [point, List.foldl_cons, List.foldl_nil]
  omega

theorem decode_encodeChar_append (c : Char) (rest : List Nat) :
    decode (encodeChar c ++ rest) = c :: decode rest := by
  have hvalid : c.toNat < 0xD800 ∨ 0xDFFF < c.toNat ∧ c.toNat < 0x110000 := c.valid
  rw [← congrArg (· :: decode rest) (Char.ofNat_toNat c)]
  unfold encodeChar
  dsimp only
  split_ifs with hone htwo hthree
  · exact decode_one hone rest
  · exact decode_two (by omega) htwo rest
  · exact decode_three (by omega) hthree (by omega) rest
  · exact decode_four (by omega) (by omega) rest

theorem decode_encode (cs : List Char) : decode (encode cs) = cs := by
  induction cs with
  | nil => simp [encode, decode]
  | cons c rest ih =>
    rw [encode, List.flatMap_cons, decode_encodeChar_append]
    exact congrArg (c :: ·) ih

end SalesDesk.Text.Utf8
