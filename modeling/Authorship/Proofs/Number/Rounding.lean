import Authorship.Number.Rounding
import Authorship.Proofs.Number.Binary64
import Mathlib

namespace Authorship.Number

theorem divideHalfEven_bounds (n : Nat) {d : Nat} (hd : 0 < d) :
    2 * n ≤ 2 * (divideHalfEven n d * d) + d ∧ 2 * (divideHalfEven n d * d) ≤ 2 * n + d := by
  have hn : n / d * d + n % d = n := Nat.div_add_mod' n d
  have hr : n % d < d := Nat.mod_lt n hd
  have hs : (n / d + 1) * d = n / d * d + d := Nat.succ_mul _ _
  unfold divideHalfEven
  dsimp only
  split_ifs
  all_goals omega

theorem natAbs_num_div_den (q : Rat) : (q.num.natAbs : Rat) / q.den = |q| := by
  conv_rhs => rw [← Rat.num_div_den q]
  rw [abs_div, Nat.abs_cast, Nat.cast_natAbs, Int.cast_abs]

theorem abs_divideHalfEven_sub_le (n : Nat) {d : Nat} (hd : 0 < d) :
    |(divideHalfEven n d : Rat) - n / d| ≤ 1 / 2 := by
  obtain ⟨hlow, hhigh⟩ := divideHalfEven_bounds n hd
  have hpos : (0 : Rat) < d := Nat.cast_pos.mpr hd
  have hlow' : 2 * (n : Rat) ≤ 2 * (divideHalfEven n d * d) + d := by exact_mod_cast hlow
  have hhigh' : 2 * (divideHalfEven n d * d : Rat) ≤ 2 * n + d := by exact_mod_cast hhigh
  rw [sub_div' hpos.ne', abs_div, abs_of_pos hpos, div_le_iff₀ hpos, abs_le]
  constructor <;> linarith

theorem abs_roundHalfEven_sub_le (q : Rat) : |(roundHalfEven q : Rat) - q| ≤ 1 / 2 := by
  have hclose := abs_divideHalfEven_sub_le q.num.natAbs q.den_pos
  rw [natAbs_num_div_den] at hclose
  unfold roundHalfEven
  dsimp only
  split_ifs with hneg
  · rw [abs_of_neg (Rat.num_neg.mp hneg), sub_neg_eq_add] at hclose
    rw [Int.cast_neg, Int.cast_natCast, ← neg_add', abs_neg]
    exact hclose
  · rw [abs_of_nonneg (Rat.num_nonneg.mp (not_lt.mp hneg))] at hclose
    rw [Int.cast_natCast]
    exact hclose

theorem abs_roundHalfEven_sub_le_abs_sub (q : Rat) (n : Int) :
    |(roundHalfEven q : Rat) - q| ≤ |(n : Rat) - q| := by
  have hround := abs_roundHalfEven_sub_le q
  by_cases hn : roundHalfEven q = n
  · rw [hn]
  · have hone : (1 : Rat) ≤ |(roundHalfEven q : Rat) - n| := by
      rw [← Int.cast_sub, ← Int.cast_abs]
      exact_mod_cast Int.one_le_abs (sub_ne_zero.mpr hn)
    have htriangle := abs_sub_le (roundHalfEven q : Rat) q n
    rw [abs_sub_comm q n] at htriangle
    linarith

theorem roundHalfEven_mono {p q : Rat} (h : p ≤ q) : roundHalfEven p ≤ roundHalfEven q := by
  rcases h.eq_or_lt with rfl | hlt
  · exact le_rfl
  · by_contra hgt
    have hstep : (roundHalfEven q : Rat) + 1 ≤ roundHalfEven p := by
      exact_mod_cast not_le.mp hgt
    have hp := (abs_le.mp (abs_roundHalfEven_sub_le p)).2
    have hq := (abs_le.mp (abs_roundHalfEven_sub_le q)).1
    linarith

theorem roundHalfEven_intCast (n : Int) : roundHalfEven (n : Rat) = n := by
  have hclose := abs_roundHalfEven_sub_le (n : Rat)
  rw [← Int.cast_sub, ← Int.cast_abs] at hclose
  have hsmall : |roundHalfEven (n : Rat) - n| < 1 := by
    have hhalf : ((|roundHalfEven (n : Rat) - n| : Int) : Rat) < 1 := by linarith
    exact_mod_cast hhalf
  exact sub_eq_zero.mp (Int.abs_lt_one_iff.mp hsmall)

theorem le_roundHalfEven {n : Int} {q : Rat} (h : (n : Rat) ≤ q) : n ≤ roundHalfEven q := by
  have hround := roundHalfEven_mono h
  rwa [roundHalfEven_intCast] at hround

theorem roundHalfEven_le {n : Int} {q : Rat} (h : q ≤ n) : roundHalfEven q ≤ n := by
  have hround := roundHalfEven_mono h
  rwa [roundHalfEven_intCast] at hround

theorem truncate_of_nonneg {q : Rat} (h : 0 ≤ q) : truncate q = ⌊q⌋ := by
  rw [truncate, Int.tdiv_eq_ediv_of_nonneg (Rat.num_nonneg.mpr h), Rat.floor_def']

theorem truncate_neg (q : Rat) : truncate (-q) = -truncate q := by
  rw [truncate, truncate, Rat.num_neg_eq_neg_num, Rat.den_neg_eq_den, Int.neg_tdiv]

theorem truncate_of_nonpos {q : Rat} (h : q ≤ 0) : truncate q = ⌈q⌉ := by
  have hneg := truncate_of_nonneg (neg_nonneg.mpr h)
  rw [truncate_neg, Int.floor_neg] at hneg
  omega

theorem truncate_mono {p q : Rat} (h : p ≤ q) : truncate p ≤ truncate q := by
  rcases le_total 0 p with hp | hp
  · rw [truncate_of_nonneg hp, truncate_of_nonneg (hp.trans h)]
    exact Int.floor_le_floor h
  · rcases le_total q 0 with hq | hq
    · rw [truncate_of_nonpos (h.trans hq), truncate_of_nonpos hq]
      exact Int.ceil_le_ceil h
    · rw [truncate_of_nonpos hp, truncate_of_nonneg hq]
      exact (Int.ceil_nonpos.mpr hp).trans (Int.floor_nonneg.mpr hq)

theorem sub_truncate_of_nonneg {q : Rat} (h : 0 ≤ q) :
    0 ≤ q - truncate q ∧ q - truncate q ≤ 1 := by
  rw [truncate_of_nonneg h]
  have hlow := Int.floor_le q
  have hhigh := Int.lt_floor_add_one q
  constructor <;> linarith

theorem sub_truncate_of_nonpos {q : Rat} (h : q ≤ 0) :
    -1 ≤ q - truncate q ∧ q - truncate q ≤ 0 := by
  rw [truncate_of_nonpos h]
  have hlow := Int.le_ceil q
  have hhigh := Int.ceil_lt_add_one q
  constructor <;> linarith

theorem abs_sub_truncate_le (q : Rat) : |q - truncate q| ≤ 1 := by
  rw [abs_le]
  rcases le_total 0 q with h | h
  · obtain ⟨hlow, hhigh⟩ := sub_truncate_of_nonneg h
    constructor <;> linarith
  · obtain ⟨hlow, hhigh⟩ := sub_truncate_of_nonpos h
    constructor <;> linarith

end Authorship.Number
