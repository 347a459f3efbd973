import Authorship.Proofs.Number.Integer
import Authorship.Proofs.Number.Order

namespace Authorship.Number

namespace Binary64

theorem exists_roundedMagnitude_eq {q : Rat} (h : 0 ≤ lastBit q) :
    ∃ n : Int, roundedMagnitude q = n := by
  obtain ⟨k, hk⟩ := Int.eq_ofNat_of_zero_le h
  refine ⟨roundHalfEven (q / 2 ^ lastBit q) * 2 ^ k, ?_⟩
  rw [roundedMagnitude, hk, zpow_natCast]
  push_cast
  rfl

theorem lastBit_nonneg {q : Rat} (h : 2 ^ 53 ≤ q) : 0 ≤ lastBit q := by
  have hpos : 0 < q := lt_of_lt_of_le (by norm_num) h
  have hlog : (53 : Int) ≤ Int.log 2 q := by
    rw [← Int.zpow_le_iff_le_log one_lt_two hpos]
    exact_mod_cast h
  rw [lastBit, leadingBit_eq_log hpos]
  omega

theorem exists_rounding_eq (n : Int) : ∃ m : Int, rounding n = m := by
  rcases le_or_gt n.natAbs (2 ^ 53) with hsmall | hlarge
  · exact ⟨n, rounding_intCast hsmall⟩
  · have hcast : (2 : Rat) ^ 53 ≤ |(n : Rat)| := by
      rw [← Int.cast_abs, Int.abs_eq_natAbs]
      exact_mod_cast hlarge.le
    obtain ⟨m, hm⟩ := exists_roundedMagnitude_eq (lastBit_nonneg hcast)
    rcases lt_or_ge (n : Rat) 0 with hneg | hpos
    · rw [abs_of_neg hneg] at hm
      exact ⟨-m, by rw [rounding_of_neg hneg, hm, Int.cast_neg]⟩
    · rw [abs_of_nonneg hpos] at hm
      exact ⟨m, by rw [rounding_of_nonneg hpos, hm]⟩

theorem rounding_neg_of_neg {n : Int} (h : n < 0) : rounding n < 0 := by
  have hone : rounding ((-1 : Int) : Rat) = ((-1 : Int) : Rat) := rounding_intCast (by decide)
  have hmono : rounding n ≤ rounding ((-1 : Int) : Rat) := rounding_mono (by exact_mod_cast by omega)
  rw [hone] at hmono
  exact hmono.trans_lt (by norm_num)

theorem exists_finite_of_ofInt? {n : Int} {number : Binary64} (h : ofInt? n = some number) :
    ∃ m : Int, number = .finite m := by
  obtain ⟨hsmall, rfl⟩ := ofInt?_eq_some_iff.mp h
  obtain ⟨m, hm⟩ := exists_rounding_eq n
  rw [ofRat_eq, if_neg (not_le.mpr hsmall)]
  split_ifs with hzero
  · have hpos : ¬ (n : Rat) < 0 := by
      intro hneg
      exact (rounding_neg_of_neg (Int.cast_lt_zero.mp hneg)).ne hzero
    exact ⟨0, by rw [decide_eq_false hpos]; rfl⟩
  · exact ⟨m, by rw [hm]⟩

theorem ofRat_of_nonneg {q : Rat} (hq : 0 ≤ q) (h : |rounding q| < 2 ^ (1024 : Int)) :
    ofRat q = .finite (rounding q) := by
  rw [ofRat_eq, if_neg (not_le.mpr h)]
  split_ifs with hzero
  · rw [decide_eq_false (not_lt.mpr hq), hzero]
    rfl
  · rfl

theorem div_finite {p q : Rat} (hp : 0 ≤ p) (hq : 0 < q) :
    (Binary64.finite p).div (.finite q) = ofRat (p / q) := by
  simp [div, isNegative, value?, not_lt.mpr hp, not_lt.mpr hq.le, hq.ne', ofRat]

theorem mul_finite {p q : Rat} (hp : 0 ≤ p) (hq : 0 ≤ q) :
    (Binary64.finite p).mul (.finite q) = ofRat (p * q) := by
  simp [mul, isNegative, value?, not_lt.mpr hp, not_lt.mpr hq, ofRat]

theorem lt_finite (p q : Rat) : (Binary64.finite p).lt (.finite q) = decide (p < q) :=
  rfl

theorem nonneg_of_le {q : Rat} (h : (Binary64.finite 0).le (.finite q) = true) : 0 ≤ q :=
  (le_iff rfl rfl).mp h

end Binary64

theorem filter_groupReversed (digits : List Char) :
    (groupReversed digits).filter (· != ',') = digits.filter (· != ',') := by
  fun_induction groupReversed digits with
  | case1 a b c d rest ih => simp only [List.filter_cons, ih]; rfl
  | case2 digits => rfl

theorem mem_of_mem_groupReversed {c : Char} {digits : List Char} (h : c ∈ groupReversed digits) :
    c = ',' ∨ c ∈ digits := by
  by_cases hc : c = ','
  · exact .inl hc
  · have hm : c ∈ (groupReversed digits).filter (· != ',') :=
      List.mem_filter.mpr ⟨h, by simpa using hc⟩
    rw [filter_groupReversed] at hm
    exact .inr (List.mem_of_mem_filter hm)

theorem toList_groupedNat (n : Nat) :
    (groupedNat n).toList = (groupReversed (Nat.toDigits 10 n).reverse).reverse := by
  rw [groupedNat, String.toList_ofList]

theorem mem_groupedNat {n : Nat} {c : Char} (h : c ∈ (groupedNat n).toList) :
    c = ',' ∨ c.isDigit = true := by
  rw [toList_groupedNat, List.mem_reverse] at h
  rcases mem_of_mem_groupReversed h with hc | hc
  · exact .inl hc
  · exact .inr (Nat.isDigit_of_mem_toDigits (by decide) (by decide) (List.mem_reverse.mp hc))

theorem printable_groupedNat {n : Nat} {c : Char} (h : c ∈ (groupedNat n).toList) :
    32 < c.toNat ∧ c.toNat < 127 := by
  rcases mem_groupedNat h with rfl | hc
  · decide
  · have hdigit := toNat_of_isDigit hc
    omega

theorem filter_groupedNat (n : Nat) :
    (groupedNat n).toList.filter (· != ',') = Nat.toDigits 10 n := by
  have hdigits : (Nat.toDigits 10 n).filter (· != ',') = Nat.toDigits 10 n := by
    rw [List.filter_eq_self]
    intro c hc
    have hdigit := Nat.isDigit_of_mem_toDigits (by decide) (by decide) hc
    rw [bne_iff_ne]
    rintro rfl
    exact absurd hdigit (by decide)
  rw [toList_groupedNat, List.filter_reverse, filter_groupReversed, List.filter_reverse,
    List.reverse_reverse, hdigits]

theorem groupedInt_natCast (n : Nat) : groupedInt n = groupedNat n := by
  rw [groupedInt, if_neg (Int.not_lt.mpr (Int.natCast_nonneg n)), Int.natAbs_natCast]

theorem truncate_natCast (n : Nat) : truncate (n : Rat) = n := by
  rw [truncate_of_nonneg (Nat.cast_nonneg n), Int.floor_natCast]

end Authorship.Number
