import Authorship.Number.Binary64
import Mathlib.Data.Nat.Log
import Mathlib.Data.Rat.Cast.Order
import Mathlib.Tactic.FieldSimp
import Mathlib.Tactic.Linarith
import Mathlib.Tactic.NormNum

namespace Authorship.Number

theorem divideHalfEven_one (n : Nat) : divideHalfEven n 1 = n := by
  simp [divideHalfEven, Nat.mod_one]

theorem roundHalfEven_natCast (n : Nat) : roundHalfEven (n : Rat) = n := by
  have hn : ¬ (n : Int) < 0 := by omega
  simp [roundHalfEven, divideHalfEven_one, hn]

theorem power_of_nonneg (base k : Nat) : power base k = (base : Rat) ^ k := by
  simp [power]

theorem power_neg (base k : Nat) : power base (-(k : Int)) = 1 / (base : Rat) ^ k := by
  unfold power
  split
  · have hk : k = 0 := by omega
    simp [hk]
  · simp

namespace Binary64

theorem leadingBit_natCast {m : Nat} (hm : m ≠ 0) : leadingBit (m : Rat) = Nat.log2 m := by
  have hle : ¬ (m : Rat) < power 2 (Nat.log2 m) := by
    rw [power_of_nonneg, not_lt]
    exact_mod_cast Nat.log2_self_le hm
  have hone : Nat.log2 1 = 0 := by decide
  simp only [leadingBit, Rat.num_natCast, Rat.den_natCast, Int.natAbs_natCast, hone,
    Nat.cast_zero, sub_zero, if_neg hle]

theorem exists_multiple {m : Nat} (hm : m ≠ 0) (h : m ≤ 2 ^ 53) :
    ∃ j : Nat, (m : Rat) = j * power 2 (lastBit (m : Rat)) ∧ power 2 (lastBit (m : Rat)) ≠ 0 := by
  have hlow := Nat.log2_self_le hm
  rw [lastBit, leadingBit_natCast hm]
  by_cases hl : Nat.log2 m ≤ 52
  · obtain ⟨k, hk⟩ : ∃ k : Nat, max ((Nat.log2 m : Int) - 52) (-1074) = -(k : Int) :=
      ⟨52 - Nat.log2 m, by omega⟩
    rw [hk, power_neg]
    refine ⟨m * 2 ^ k, ?_, one_div_ne_zero (pow_ne_zero k two_ne_zero)⟩
    push_cast
    field_simp
  · have hpow : 2 ^ 53 ≤ 2 ^ Nat.log2 m := Nat.pow_le_pow_right (by omega) (by omega)
    have he : m = 2 ^ 53 := by omega
    have hlog : Nat.log2 m = 53 := by rw [he, Nat.log2_two_pow]
    have hone : max (((53 : Nat) : Int) - 52) (-1074) = ((1 : Nat) : Int) := by omega
    rw [hlog, hone, power_of_nonneg, he]
    exact ⟨2 ^ 52, by norm_num, by norm_num⟩

theorem lt_two_pow {m k : Nat} (h : m ≤ 2 ^ 53) (hk : 53 < k) : m < 2 ^ k :=
  h.trans_lt (Nat.pow_lt_pow_right Nat.one_lt_two hk)

theorem ofInt?_of_natAbs_le {n : Int} (h : n.natAbs ≤ 2 ^ 53) :
    ofInt? n = some (.finite n) := by
  by_cases hn : n = 0
  · rw [hn]
    rfl
  have hm : n.natAbs ≠ 0 := Int.natAbs_ne_zero.mpr hn
  have hmag : (if (n : Rat) < 0 then -(n : Rat) else n) = (n.natAbs : Rat) := by
    rw [← Int.cast_natCast, Int.natCast_natAbs, Int.cast_abs]
    split
    · rename_i hneg
      exact (abs_of_neg hneg).symm
    · rename_i hpos
      exact (abs_of_nonneg (not_lt.mp hpos)).symm
  have hback : (if (n : Rat) < 0 then -(n.natAbs : Rat) else n.natAbs) = (n : Rat) := by
    rw [← hmag]
    split <;> simp
  obtain ⟨j, hj, hunit⟩ := exists_multiple hm h
  have hdiv : (n.natAbs : Rat) / power 2 (lastBit n.natAbs) = j := by
    rw [div_eq_iff hunit]
    exact hj
  have hbig : ¬ power 2 1024 ≤ (n.natAbs : Rat) := by
    rw [show (1024 : Int) = ((1024 : Nat) : Int) from rfl, power_of_nonneg, not_le,
      ← Nat.cast_pow, Nat.cast_lt]
    exact lt_two_pow h (by decide)
  have hround : ofRat n = .finite n := by
    unfold ofRat nearest
    simp only [hmag, hdiv, roundHalfEven_natCast, Int.cast_natCast, ← hj, if_neg hbig, hback,
      beq_iff_eq, Int.cast_eq_zero, hn, Nat.cast_eq_zero, hm, if_false]
  rw [ofInt?, hround]

end Binary64

end Authorship.Number
