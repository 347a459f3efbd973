import Authorship.Text.Utf8

namespace Authorship.Text.Utf8

theorem toNat_ofNat_of_lt {n : Nat} (h : n < 256) : (UInt8.ofNat n).toNat = n := by
  rw [UInt8.toNat_ofNat', Nat.mod_eq_of_lt h]

theorem continuation_cons {low high : UInt8} {bits : Nat} (count code size : Nat)
    (rest : List UInt8) (hb : bits < 64) (hl : low.toNat ≤ bits + 128)
    (hh : bits + 128 ≤ high.toNat) :
    continuation low high (count + 1) code size (UInt8.ofNat (bits + 128) :: rest) =
      continuation 0x80 0xBF count (code * 64 + bits) (size + 1) rest := by
  have hn : (UInt8.ofNat (bits + 128)).toNat = bits + 128 := toNat_ofNat_of_lt (by omega)
  have hin : (low ≤ UInt8.ofNat (bits + 128) && UInt8.ofNat (bits + 128) ≤ high) = true := by
    simp only [Bool.and_eq_true, decide_eq_true_eq, UInt8.le_iff_toNat_le, hn]
    exact ⟨hl, hh⟩
  rw [continuation, if_pos hin, hn, Nat.add_sub_cancel]

theorem least_tail (bits : Nat) : (0x80 : UInt8).toNat ≤ bits + 128 :=
  Nat.le_add_left 128 bits

theorem greatest_tail {bits : Nat} (hb : bits < 64) : bits + 128 ≤ (0xBF : UInt8).toNat :=
  Nat.add_le_add_right (Nat.le_of_lt_succ hb) 128

theorem continuation_tail {bits : Nat} (count code size : Nat) (rest : List UInt8)
    (hb : bits < 64) :
    continuation 0x80 0xBF (count + 1) code size (UInt8.ofNat (bits + 128) :: rest) =
      continuation 0x80 0xBF count (code * 64 + bits) (size + 1) rest :=
  continuation_cons count code size rest hb (least_tail bits) (greatest_tail hb)

theorem sequenceAt_one {a : Nat} (rest : List UInt8) (ha : a < 128) :
    sequenceAt (UInt8.ofNat a) rest = .char (Char.ofNat a) 1 := by
  rw [sequenceAt, toNat_ofNat_of_lt (by omega), if_pos ha]

theorem sequenceAt_two {a b : Nat} (rest : List UInt8) (ha : 2 ≤ a ∧ a < 32) (hb : b < 64) :
    sequenceAt (UInt8.ofNat (a + 192)) (UInt8.ofNat (b + 128) :: rest) =
      .char (Char.ofNat (a * 64 + b)) 2 := by
  rw [sequenceAt, toNat_ofNat_of_lt (by omega), if_neg (by omega), if_neg (by omega),
    if_pos (by omega), continuation_tail _ _ _ _ hb, Nat.add_sub_cancel,
    continuation]

theorem sequenceAt_three {a b c : Nat} (rest : List UInt8) (ha : a < 16) (hb : b < 64) (hc : c < 64)
    (hlow : a = 0 → 32 ≤ b) (hhigh : a = 13 → b < 32) :
    sequenceAt (UInt8.ofNat (a + 224)) (UInt8.ofNat (b + 128) :: UInt8.ofNat (c + 128) :: rest) =
      .char (Char.ofNat ((a * 64 + b) * 64 + c)) 3 := by
  rw [sequenceAt, toNat_ofNat_of_lt (by omega)]
  simp only [beq_iff_eq]
  rw [if_neg (by omega), if_neg (by omega), if_neg (by omega), Nat.add_sub_cancel]
  by_cases hzero : a = 0
  · have hl : (0xA0 : UInt8).toNat ≤ b + 128 := Nat.add_le_add_right (hlow hzero) 128
    rw [if_pos (by omega), continuation_cons _ _ _ _ hb hl (greatest_tail hb),
      continuation_tail _ _ _ _ hc, continuation]
  rw [if_neg (by omega)]
  by_cases hsurrogate : a = 13
  · have hb' := hhigh hsurrogate
    have hh : b + 128 ≤ (0x9F : UInt8).toNat := Nat.add_le_add_right (Nat.le_of_lt_succ hb') 128
    rw [if_pos (by omega), continuation_cons _ _ _ _ hb (least_tail b) hh,
      continuation_tail _ _ _ _ hc, continuation]
  rw [if_neg (by omega), if_pos (by omega), continuation_tail _ _ _ _ hb,
    continuation_tail _ _ _ _ hc, continuation]

theorem sequenceAt_four {a b c d : Nat} (rest : List UInt8) (ha : a < 5) (hb : b < 64) (hc : c < 64)
    (hd : d < 64) (hlow : a = 0 → 16 ≤ b) (hhigh : a = 4 → b < 16) :
    sequenceAt (UInt8.ofNat (a + 240))
        (UInt8.ofNat (b + 128) :: UInt8.ofNat (c + 128) :: UInt8.ofNat (d + 128) :: rest) =
      .char (Char.ofNat (((a * 64 + b) * 64 + c) * 64 + d)) 4 := by
  rw [sequenceAt, toNat_ofNat_of_lt (by omega)]
  simp only [beq_iff_eq]
  rw [if_neg (by omega), if_neg (by omega), if_neg (by omega), if_neg (by omega),
    if_neg (by omega), if_neg (by omega), Nat.add_sub_cancel]
  by_cases hzero : a = 0
  · have hl : (0x90 : UInt8).toNat ≤ b + 128 := Nat.add_le_add_right (hlow hzero) 128
    rw [if_pos (by omega), continuation_cons _ _ _ _ hb hl (greatest_tail hb),
      continuation_tail _ _ _ _ hc, continuation_tail _ _ _ _ hd, continuation]
  rw [if_neg (by omega)]
  by_cases hlast : a = 4
  · have hb' := hhigh hlast
    have hh : b + 128 ≤ (0x8F : UInt8).toNat := Nat.add_le_add_right (Nat.le_of_lt_succ hb') 128
    rw [if_neg (by omega), if_pos (by omega),
      continuation_cons _ _ _ _ hb (least_tail b) hh, continuation_tail _ _ _ _ hc,
      continuation_tail _ _ _ _ hd, continuation]
  rw [if_pos (by omega), continuation_tail _ _ _ _ hb, continuation_tail _ _ _ _ hc,
    continuation_tail _ _ _ _ hd, continuation]

theorem ofNat_of_eq {c : Char} {n : Nat} (h : n = c.toNat) : Char.ofNat n = c := by
  rw [h, Char.ofNat_toNat]

theorem toNat_valid (c : Char) : c.toNat < 0xD800 ∨ (0xDFFF < c.toNat ∧ c.toNat < 0x110000) :=
  c.valid

theorem sequenceAt_encode (c : Char) (rest : List UInt8) :
    ∃ b tail, String.utf8EncodeChar c = b :: tail ∧
      sequenceAt b (tail ++ rest) = .char c (tail.length + 1) := by
  have hvalid := toNat_valid c
  rw [String.utf8EncodeChar.eq_1, show c.val.toNat = c.toNat from rfl]
  split
  · refine ⟨_, _, rfl, (sequenceAt_one _ (by omega)).trans ?_⟩
    rw [Char.ofNat_toNat]
    rfl
  split
  · refine ⟨_, _, rfl, (sequenceAt_two rest (by omega) (by omega)).trans ?_⟩
    rw [ofNat_of_eq (c := c) (by omega)]
    rfl
  split
  · refine ⟨_, _, rfl, (sequenceAt_three rest (by omega) (by omega) (by omega) (by omega)
      (by omega)).trans ?_⟩
    rw [ofNat_of_eq (c := c) (by omega)]
    rfl
  · refine ⟨_, _, rfl, (sequenceAt_four rest (by omega) (by omega) (by omega) (by omega) (by omega)
      (by omega)).trans ?_⟩
    rw [ofNat_of_eq (c := c) (by omega)]
    rfl

theorem decodeReplacing_encode (text : List Char) : decodeReplacing (encode text) = text := by
  induction text with
  | nil => rw [encode, List.flatMap_nil, decodeReplacing]
  | cons c text ih =>
    obtain ⟨b, tail, hc, hs⟩ := sequenceAt_encode c (encode text)
    rw [encode, List.flatMap_cons, hc, List.cons_append, decodeReplacing]
    rw [encode] at hs ih
    rw [hs]
    simp only [Nat.add_sub_cancel, List.drop_left, ih]

theorem decodeFrom_encode (position : Nat) (text : List Char) :
    decodeFrom position (encode text) = .ok text := by
  induction text generalizing position with
  | nil => rw [encode, List.flatMap_nil, decodeFrom]
  | cons c text ih =>
    obtain ⟨b, tail, hc, hs⟩ := sequenceAt_encode c (encode text)
    have hrest := ih (position + (tail.length + 1))
    rw [encode] at hs hrest
    rw [encode, List.flatMap_cons, hc, List.cons_append, decodeFrom, hs]
    simp only [Nat.add_sub_cancel, List.drop_left, hrest]
    rfl

theorem decode?_encode (text : List Char) : decode? (encode text) = .ok text :=
  decodeFrom_encode 0 text

end Authorship.Text.Utf8
