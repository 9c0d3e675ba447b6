import GuardedText.Text.Utf8
import Mathlib.Tactic.SplitIfs

/-! Text is read back from its bytes. The first byte of a character tells how many follow and between
what bounds the next of them lies, and each of the others adds six bits. -/

namespace GuardedText.Text.Utf8

theorem decodeFrom_cons (done : List Char) (p : Pending) {b : Nat} (hb : b < 0x100)
    (rest : List UInt8) :
    decodeFrom done p (UInt8.ofNat b :: rest) =
      decodeFrom ((advance p b).1.reverse ++ done) (advance p b).2 rest := by
  rw [decodeFrom, UInt8.toNat_ofNat_of_lt' hb]

/-- A byte between the bounds adds six bits, whether or not it is the last. -/
theorem decodeFrom_tail {more low high bits b : Nat} (hb : b < 0x40) (hlow : low ≤ b + 0x80)
    (hhigh : b + 0x80 ≤ high) (done : List Char) (rest : List UInt8) :
    decodeFrom done (.bytes (more + 1) low high bits) (UInt8.ofNat (b + 0x80) :: rest) =
      decodeFrom done (.bytes more 0x80 0xBF (bits * 0x40 + b)) rest := by
  rw [decodeFrom_cons _ _ (by omega), advance, if_pos ⟨hlow, hhigh⟩, Nat.add_sub_cancel]
  rfl

theorem decodeFrom_last {low high bits b : Nat} (hb : b < 0x40) (hlow : low ≤ b + 0x80)
    (hhigh : b + 0x80 ≤ high) (done : List Char) (rest : List UInt8) :
    decodeFrom done (.bytes 0 low high bits) (UInt8.ofNat (b + 0x80) :: rest) =
      decodeFrom (Char.ofNat (bits * 0x40 + b) :: done) .nothing rest := by
  rw [decodeFrom_cons _ _ (by omega), advance, if_pos ⟨hlow, hhigh⟩, Nat.add_sub_cancel]
  rfl

theorem begin_one {n : Nat} (h : n < 0x80) : begin n = ([Char.ofNat n], .nothing) := by
  rw [begin, if_pos h]

theorem begin_two {n : Nat} (hlow : 0x80 ≤ n) (hhigh : n < 0x800) :
    begin (n / 0x40 % 0x20 + 0xC0) = ([], .bytes 0 0x80 0xBF (n / 0x40)) := by
  rw [begin, if_neg (by omega), if_neg (by omega), if_pos (by omega),
    show n / 0x40 % 0x20 + 0xC0 - 0xC0 = n / 0x40 by omega]

/-- The bounds keep out what fewer bytes encode, and the surrogates. -/
theorem begin_three {n : Nat} (hlow : 0x800 ≤ n) (hhigh : n < 0x10000)
    (hvalid : n < 0xD800 ∨ 0xDFFF < n) :
    ∃ low high, begin (n / 0x1000 % 0x10 + 0xE0) = ([], .bytes 1 low high (n / 0x1000)) ∧
      low ≤ n / 0x40 % 0x40 + 0x80 ∧ n / 0x40 % 0x40 + 0x80 ≤ high := by
  rw [begin, if_neg (by omega), if_neg (by omega), if_neg (by omega)]
  split_ifs with h0 hD hrest
  · refine ⟨0xA0, 0xBF, ?_, by omega, by omega⟩
    rw [show n / 0x1000 = 0 by omega]
  · refine ⟨0x80, 0x9F, ?_, by omega, by omega⟩
    rw [show n / 0x1000 = 0xD by omega]
  · refine ⟨0x80, 0xBF, ?_, by omega, by omega⟩
    rw [show n / 0x1000 % 0x10 + 0xE0 - 0xE0 = n / 0x1000 by omega]
  all_goals omega

/-- The bounds keep out what fewer bytes encode, and what no character has for a number. -/
theorem begin_four {n : Nat} (hlow : 0x10000 ≤ n) (hhigh : n < 0x110000) :
    ∃ low high, begin (n / 0x40000 % 8 + 0xF0) = ([], .bytes 2 low high (n / 0x40000)) ∧
      low ≤ n / 0x1000 % 0x40 + 0x80 ∧ n / 0x1000 % 0x40 + 0x80 ≤ high := by
  rw [begin, if_neg (by omega), if_neg (by omega), if_neg (by omega), if_neg (by omega),
    if_neg (by omega), if_neg (by omega)]
  split_ifs with h0 hrest h4
  · refine ⟨0x90, 0xBF, ?_, by omega, by omega⟩
    rw [show n / 0x40000 = 0 by omega]
  · refine ⟨0x80, 0xBF, ?_, by omega, by omega⟩
    rw [show n / 0x40000 % 8 + 0xF0 - 0xF0 = n / 0x40000 by omega]
  · refine ⟨0x80, 0x8F, ?_, by omega, by omega⟩
    rw [show n / 0x40000 = 4 by omega]
  · omega

theorem decodeFrom_begin {b : Nat} {p : Pending} (hb : b < 0x100) (h : begin b = ([], p))
    (done : List Char) (rest : List UInt8) :
    decodeFrom done .nothing (UInt8.ofNat b :: rest) = decodeFrom done p rest := by
  rw [decodeFrom_cons _ _ hb, advance, h]
  rfl

/-- A character is read back from its bytes, whatever bytes come after them. -/
theorem decodeFrom_utf8EncodeChar (done : List Char) (c : Char) (rest : List UInt8) :
    decodeFrom done .nothing (String.utf8EncodeChar c ++ rest) =
      decodeFrom (c :: done) .nothing rest := by
  have hvalid : c.toNat < 0xD800 ∨ 0xDFFF < c.toNat ∧ c.toNat < 0x110000 := c.valid
  have hc : Char.ofNat c.toNat = c := c.ofNat_toNat
  rw [String.utf8EncodeChar.eq_1, show c.val.toNat = c.toNat from rfl]
  generalize c.toNat = n at hvalid hc
  split_ifs with h1 h2 h3 <;> simp only [List.cons_append, List.nil_append]
  · rw [decodeFrom_cons _ _ (by omega), advance, begin_one (by omega), hc]
    rfl
  · have hbits : n / 0x40 * 0x40 + n % 0x40 = n := by omega
    rw [decodeFrom_begin (by omega) (begin_two (by omega) (by omega)),
      decodeFrom_last (by omega) (by omega) (by omega), hbits, hc]
  · obtain ⟨low, high, hbegin, hlow, hhigh⟩ :=
      begin_three (n := n) (by omega) (by omega) (by omega)
    have hbits : (n / 0x1000 * 0x40 + n / 0x40 % 0x40) * 0x40 + n % 0x40 = n := by omega
    rw [decodeFrom_begin (by omega) hbegin, decodeFrom_tail (by omega) hlow hhigh,
      decodeFrom_last (by omega) (by omega) (by omega), hbits, hc]
  · obtain ⟨low, high, hbegin, hlow, hhigh⟩ := begin_four (n := n) (by omega) (by omega)
    have hbits : ((n / 0x40000 * 0x40 + n / 0x1000 % 0x40) * 0x40 + n / 0x40 % 0x40) * 0x40 +
        n % 0x40 = n := by omega
    rw [decodeFrom_begin (by omega) hbegin, decodeFrom_tail (by omega) hlow hhigh,
      decodeFrom_tail (by omega) (by omega) (by omega),
      decodeFrom_last (by omega) (by omega) (by omega), hbits, hc]

theorem decodeFrom_encode (done cs : List Char) :
    decodeFrom done .nothing (cs.flatMap String.utf8EncodeChar) = cs.reverse ++ done := by
  induction cs generalizing done with
  | nil => rfl
  | cons c cs ih =>
    rw [List.flatMap_cons, decodeFrom_utf8EncodeChar, ih, List.reverse_cons, List.append_assoc]
    rfl

theorem decode_encode (s : String) : decode (encode s) = s := by
  rw [decode, encode, decodeFrom_encode]
  simp

end GuardedText.Text.Utf8
