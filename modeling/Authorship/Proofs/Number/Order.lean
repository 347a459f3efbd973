import Authorship.Proofs.Number.Binary64
import Authorship.Proofs.Number.Rounding
import Mathlib

namespace Authorship.Number.Binary64

theorem power_two (e : Int) : power 2 e = (2 : Rat) ^ e := by
  obtain ⟨k, rfl | rfl⟩ := e.eq_nat_or_neg
  · rw [power_of_nonneg, zpow_natCast, Nat.cast_ofNat]
  · rw [power_neg, zpow_neg, zpow_natCast, Nat.cast_ofNat, one_div]

theorem two_zpow_pos (e : Int) : (0 : Rat) < 2 ^ e :=
  zpow_pos two_pos e

theorem log2_bounds {n : Nat} (hn : n ≠ 0) :
    (2 : Rat) ^ (Nat.log2 n : Int) ≤ n ∧ (n : Rat) < 2 ^ ((Nat.log2 n : Int) + 1) := by
  constructor
  · rw [zpow_natCast]
    exact_mod_cast Nat.log2_self_le hn
  · rw [← Nat.cast_succ, zpow_natCast]
    exact_mod_cast Nat.lt_log2_self

theorem leadingBit_eq_log {q : Rat} (hq : 0 < q) : leadingBit q = Int.log 2 q := by
  have hnum : q.num.natAbs ≠ 0 := Int.natAbs_ne_zero.mpr (Rat.num_pos.mpr hq).ne'
  have hvalue : (q.num.natAbs : Rat) / q.den = q := by rw [natAbs_num_div_den, abs_of_pos hq]
  have hden : (0 : Rat) < q.den := Nat.cast_pos.mpr q.den_pos
  obtain ⟨hnlow, hnhigh⟩ := log2_bounds hnum
  obtain ⟨hdlow, hdhigh⟩ := log2_bounds q.den_ne_zero
  generalize hm : (Nat.log2 q.num.natAbs : Int) = m at hnlow hnhigh
  generalize hk : (Nat.log2 q.den : Int) = k at hdlow hdhigh
  have hhigh : q < 2 ^ (m - k + 1) := by
    rw [← hvalue, div_lt_iff₀ hden]
    calc (q.num.natAbs : Rat) < 2 ^ (m + 1) := hnhigh
      _ = 2 ^ (m - k + 1) * 2 ^ k := by rw [← zpow_add₀ two_ne_zero]; congr 1; omega
      _ ≤ 2 ^ (m - k + 1) * q.den := by gcongr
  have hlow : 2 ^ (m - k - 1) ≤ q := by
    rw [← hvalue, le_div_iff₀ hden]
    calc 2 ^ (m - k - 1) * (q.den : Rat) ≤ 2 ^ (m - k - 1) * 2 ^ (k + 1) := by gcongr
      _ = 2 ^ m := by rw [← zpow_add₀ two_ne_zero]; congr 1; omega
      _ ≤ q.num.natAbs := hnlow
  have hlog (e : Int) : (2 : Rat) ^ e ≤ q ↔ e ≤ Int.log 2 q :=
    Int.zpow_le_iff_le_log one_lt_two hq
  have hlog' (e : Int) : q < (2 : Rat) ^ e ↔ Int.log 2 q < e :=
    Int.lt_zpow_iff_log_lt one_lt_two hq
  unfold leadingBit
  dsimp only
  rw [hm, hk, power_two]
  rw [hlog] at hlow
  rw [hlog'] at hhigh
  split_ifs with hbelow
  · rw [hlog'] at hbelow
    omega
  · rw [not_lt, hlog] at hbelow
    omega

theorem lastBit_mono {p q : Rat} (hp : 0 < p) (h : p ≤ q) : lastBit p ≤ lastBit q := by
  have hlog := Int.log_mono_right (b := 2) hp h
  rw [lastBit, lastBit, leadingBit_eq_log hp, leadingBit_eq_log (hp.trans_le h)]
  omega

/-- A positive rational rounded to its last bit. -/
def roundedMagnitude (q : Rat) : Rat :=
  roundHalfEven (q / 2 ^ lastBit q) * 2 ^ lastBit q

theorem roundedMagnitude_nonneg {q : Rat} (hq : 0 ≤ q) : 0 ≤ roundedMagnitude q := by
  have hdiv : ((0 : Int) : Rat) ≤ q / 2 ^ lastBit q := by
    rw [Int.cast_zero]
    exact div_nonneg hq (two_zpow_pos _).le
  have hround : (0 : Rat) ≤ roundHalfEven (q / 2 ^ lastBit q) := by
    exact_mod_cast le_roundHalfEven hdiv
  exact mul_nonneg hround (two_zpow_pos _).le

theorem exists_two_zpow_eq {q : Rat} {e : Int} (h : lastBit q ≤ e) :
    ∃ n : Int, (2 : Rat) ^ e = n * 2 ^ lastBit q := by
  obtain ⟨k, rfl⟩ := Int.le.dest h
  refine ⟨2 ^ k, ?_⟩
  rw [zpow_add₀ two_ne_zero, zpow_natCast, mul_comm]
  push_cast
  rfl

theorem roundedMagnitude_le_two_zpow {q : Rat} {e : Int} (hbit : lastBit q ≤ e)
    (h : q ≤ 2 ^ e) : roundedMagnitude q ≤ 2 ^ e := by
  obtain ⟨n, hn⟩ := exists_two_zpow_eq hbit
  have hround : roundHalfEven (q / 2 ^ lastBit q) ≤ n := by
    apply roundHalfEven_le
    rw [div_le_iff₀ (two_zpow_pos _), ← hn]
    exact h
  rw [roundedMagnitude, hn]
  exact mul_le_mul_of_nonneg_right (Int.cast_le.mpr hround) (two_zpow_pos _).le

theorem two_zpow_le_roundedMagnitude {q : Rat} {e : Int} (hbit : lastBit q ≤ e)
    (h : 2 ^ e ≤ q) : 2 ^ e ≤ roundedMagnitude q := by
  obtain ⟨n, hn⟩ := exists_two_zpow_eq hbit
  have hround : n ≤ roundHalfEven (q / 2 ^ lastBit q) := by
    apply le_roundHalfEven
    rw [le_div_iff₀ (two_zpow_pos _), ← hn]
    exact h
  rw [roundedMagnitude, hn]
  exact mul_le_mul_of_nonneg_right (Int.cast_le.mpr hround) (two_zpow_pos _).le

theorem roundedMagnitude_mono {p q : Rat} (hp : 0 < p) (h : p ≤ q) :
    roundedMagnitude p ≤ roundedMagnitude q := by
  have hq : 0 < q := hp.trans_le h
  rcases (lastBit_mono hp h).eq_or_lt with he | hlt
  · rw [roundedMagnitude, roundedMagnitude, he]
    have hround : roundHalfEven (p / 2 ^ lastBit q) ≤ roundHalfEven (q / 2 ^ lastBit q) :=
      roundHalfEven_mono (div_le_div_of_nonneg_right h (two_zpow_pos _).le)
    exact mul_le_mul_of_nonneg_right (Int.cast_le.mpr hround) (two_zpow_pos _).le
  · -- The leading bit of `q` lies between the two.
    have hp' := leadingBit_eq_log hp
    have hq' := leadingBit_eq_log hq
    have hbits : lastBit p = max (Int.log 2 p - 52) (-1074) ∧
        lastBit q = max (Int.log 2 q - 52) (-1074) := by
      rw [lastBit, lastBit, hp', hq']
      exact ⟨rfl, rfl⟩
    have hpower : p ≤ 2 ^ Int.log 2 q := by
      apply le_of_lt
      rw [← Nat.cast_ofNat, Int.lt_zpow_iff_log_lt one_lt_two hp]
      omega
    calc roundedMagnitude p ≤ 2 ^ Int.log 2 q :=
          roundedMagnitude_le_two_zpow (by omega) hpower
      _ ≤ roundedMagnitude q :=
          two_zpow_le_roundedMagnitude (by omega) (Int.zpow_log_le_self one_lt_two hq)

/-- A rational rounded to its last bit, however large it is. -/
def rounding (q : Rat) : Rat :=
  if q < 0 then -roundedMagnitude (-q) else roundedMagnitude q

theorem rounding_of_neg {q : Rat} (h : q < 0) : rounding q = -roundedMagnitude (-q) :=
  if_pos h

theorem rounding_of_nonneg {q : Rat} (h : 0 ≤ q) : rounding q = roundedMagnitude q :=
  if_neg (not_lt.mpr h)

theorem rounding_zero : rounding 0 = 0 := by
  rw [rounding_of_nonneg le_rfl, roundedMagnitude, zero_div, ← Int.cast_zero, roundHalfEven_intCast,
    Int.cast_zero, zero_mul]

theorem rounding_mono {p q : Rat} (h : p ≤ q) : rounding p ≤ rounding q := by
  rcases lt_trichotomy p 0 with hp | rfl | hp
  · rw [rounding_of_neg hp]
    rcases lt_or_ge q 0 with hq | hq
    · rw [rounding_of_neg hq]
      exact neg_le_neg (roundedMagnitude_mono (neg_pos.mpr hq) (neg_le_neg h))
    · rw [rounding_of_nonneg hq]
      have hleft := roundedMagnitude_nonneg (neg_pos.mpr hp).le
      have hright := roundedMagnitude_nonneg hq
      linarith
  · rw [rounding_zero, rounding_of_nonneg h]
    exact roundedMagnitude_nonneg h
  · rw [rounding_of_nonneg hp.le, rounding_of_nonneg (hp.le.trans h)]
    exact roundedMagnitude_mono hp h

theorem abs_rounding (q : Rat) : |rounding q| = roundedMagnitude |q| := by
  rcases lt_or_ge q 0 with hq | hq
  · rw [rounding_of_neg hq, abs_neg, abs_of_neg hq,
      abs_of_nonneg (roundedMagnitude_nonneg (neg_pos.mpr hq).le)]
  · rw [rounding_of_nonneg hq, abs_of_nonneg hq, abs_of_nonneg (roundedMagnitude_nonneg hq)]

theorem abs_roundedMagnitude_sub_le {q : Rat} {e : Int} (hq : 0 < q) (h : q < 2 ^ e)
    (he : -1021 ≤ e) : |roundedMagnitude q - q| ≤ 2 ^ (e - 54) := by
  have hpos := two_zpow_pos (lastBit q)
  have hbit : lastBit q ≤ e - 53 := by
    have hlog := h
    rw [← Nat.cast_ofNat, Int.lt_zpow_iff_log_lt one_lt_two hq] at hlog
    rw [lastBit, leadingBit_eq_log hq]
    omega
  have hclose := abs_roundHalfEven_sub_le (q / 2 ^ lastBit q)
  have hscaled : roundedMagnitude q - q =
      (roundHalfEven (q / 2 ^ lastBit q) - q / 2 ^ lastBit q) * 2 ^ lastBit q := by
    rw [sub_mul, div_mul_cancel₀ q hpos.ne', roundedMagnitude]
  have hpower : (2 : Rat) ^ (e - 53) = 2 ^ (e - 54) * 2 := by
    rw [← zpow_add_one₀ two_ne_zero]
    congr 1
    omega
  calc |roundedMagnitude q - q|
      = |(roundHalfEven (q / 2 ^ lastBit q) : Rat) - q / 2 ^ lastBit q| * 2 ^ lastBit q := by
        rw [hscaled, abs_mul, abs_of_pos hpos]
    _ ≤ 1 / 2 * 2 ^ lastBit q := by gcongr
    _ ≤ 1 / 2 * 2 ^ (e - 53) := by gcongr; exact one_le_two
    _ = 2 ^ (e - 54) := by rw [hpower]; ring

theorem abs_rounding_sub_le {q : Rat} {e : Int} (h : |q| < 2 ^ e) (he : -1021 ≤ e) :
    |rounding q - q| ≤ 2 ^ (e - 54) := by
  rcases lt_trichotomy q 0 with hq | rfl | hq
  · rw [abs_of_neg hq] at h
    have hclose := abs_roundedMagnitude_sub_le (neg_pos.mpr hq) h he
    rwa [abs_sub_comm, sub_eq_add_neg, add_comm, ← sub_eq_add_neg, ← rounding_of_neg hq] at hclose
  · rw [rounding_zero, sub_zero, abs_zero]
    exact (two_zpow_pos _).le
  · rw [abs_of_pos hq] at h
    rw [rounding_of_nonneg hq.le]
    exact abs_roundedMagnitude_sub_le hq h he

/-- The number nearest to a rational: an infinity, a zero with the sign of the rational, or the
rational rounded to its last bit. -/
theorem ofRat_eq (q : Rat) :
    ofRat q = if 2 ^ (1024 : Int) ≤ |rounding q| then .infinite (q < 0)
      else if rounding q = 0 then zero (q < 0) else .finite (rounding q) := by
  have hmagnitude : |q| = if q < 0 then -q else q := by
    split_ifs with hq
    · exact abs_of_neg hq
    · exact abs_of_nonneg (not_lt.mp hq)
  by_cases hzero : q = 0
  · have hsmall : ¬ (2 : Rat) ^ (1024 : Int) ≤ 0 := not_le.mpr (two_zpow_pos _)
    rw [hzero, rounding_zero, abs_zero, if_neg hsmall, if_pos rfl]
    rfl
  have hrounding : rounding q = 0 ↔ roundedMagnitude |q| = 0 := by
    rw [← abs_rounding, abs_eq_zero]
  simp only [ofRat, nearest, beq_iff_eq, hzero, if_false, ← hmagnitude, power_two,
    abs_rounding, hrounding]
  rw [roundedMagnitude, rounding, hmagnitude]
  split_ifs <;> rfl

theorem value?_ofRat {q : Rat} (h : |rounding q| < 2 ^ (1024 : Int)) :
    (ofRat q).value? = some (rounding q) := by
  rw [ofRat_eq, if_neg (not_le.mpr h)]
  split_ifs with hzero
  · rw [hzero]
    cases decide (q < 0) <;> rfl
  · rfl

theorem le_iff {a b : Binary64} {x y : Rat} (ha : a.value? = some x) (hb : b.value? = some y) :
    a.le b = true ↔ x ≤ y := by
  cases a <;> cases b <;> simp_all [value?, le, lt, eq, le_iff_lt_or_eq]

theorem ofInt?_eq_some_iff {n : Int} {number : Binary64} :
    ofInt? n = some number ↔ |rounding n| < 2 ^ (1024 : Int) ∧ ofRat n = number := by
  unfold ofInt?
  rcases lt_or_ge |rounding n| (2 ^ (1024 : Int)) with h | h
  · have hvalue := value?_ofRat h
    cases hr : ofRat n <;> simp_all [value?]
  · rw [ofRat_eq, if_pos h]
    simp only [reduceCtorEq, not_lt.mpr h, false_and]

theorem value?_of_ofInt? {n : Int} {number : Binary64} (h : ofInt? n = some number) :
    number.value? = some (rounding n) := by
  obtain ⟨hsmall, rfl⟩ := ofInt?_eq_some_iff.mp h
  exact value?_ofRat hsmall

theorem le_of_ofInt? {m n : Int} {a b : Binary64} (h : m ≤ n) (ha : ofInt? m = some a)
    (hb : ofInt? n = some b) : a.le b = true :=
  (le_iff (value?_of_ofInt? ha) (value?_of_ofInt? hb)).mpr (rounding_mono (Int.cast_le.mpr h))

theorem rounding_intCast {n : Int} (h : n.natAbs ≤ 2 ^ 53) : rounding n = n := by
  have hvalue := value?_of_ofInt? (ofInt?_of_natAbs_le h)
  exact (Option.some.inj hvalue).symm

theorem one_le_iff_of_ofInt? {n : Int} {number : Binary64} (h : ofInt? n = some number) :
    (Binary64.finite 1).le number = true ↔ 1 ≤ n := by
  have hone : rounding ((1 : Int) : Rat) = ((1 : Int) : Rat) := rounding_intCast (by decide)
  rw [Int.cast_one] at hone
  rw [le_iff rfl (value?_of_ofInt? h)]
  constructor
  · intro hle
    by_contra hn
    have hmono : rounding n ≤ rounding 0 := rounding_mono (Int.cast_nonpos.mpr (by omega))
    rw [rounding_zero] at hmono
    linarith
  · intro hn
    rw [← hone]
    exact rounding_mono (Int.cast_one_le_of_pos hn)

theorem abs_rounding_lt {q : Rat} {n : Int} (h : |q| ≤ n) (hn : n.natAbs ≤ 2 ^ 53) :
    |rounding q| < 2 ^ (1024 : Int) := by
  obtain ⟨hlarge, -⟩ := ofInt?_eq_some_iff.mp (ofInt?_of_natAbs_le hn)
  calc |rounding q| = rounding |q| := by rw [abs_rounding, rounding_of_nonneg (abs_nonneg q)]
    _ ≤ rounding n := rounding_mono h
    _ ≤ |rounding n| := le_abs_self _
    _ < 2 ^ (1024 : Int) := hlarge

/-- The least natural number that is too large: it lies half a last bit below the power of two at
which the numbers end, and this half goes to the even neighbour. -/
def limit : Nat :=
  2 ^ 1024 - 2 ^ 970

theorem large_powers : (2 : Rat) ^ (971 : Int) = 2 * 2 ^ (970 : Int) ∧
    (2 : Rat) ^ (1023 : Int) = 2 ^ 52 * 2 ^ (971 : Int) ∧
    (2 : Rat) ^ (1024 : Int) = 2 ^ 53 * 2 ^ (971 : Int) := by
  have hsplit (k : Nat) (e : Int) : (2 : Rat) ^ (k + e) = 2 ^ k * 2 ^ e := by
    rw [zpow_add₀ two_ne_zero, zpow_natCast]
  refine ⟨?_, hsplit 52 971, hsplit 53 971⟩
  have hone := hsplit 1 970
  rwa [pow_one] at hone

theorem limit_eq : (limit : Rat) = (2 ^ 53 - 1 / 2) * 2 ^ (971 : Int) := by
  have hlimit : limit + 2 ^ 970 = 2 ^ 1024 := by decide +kernel
  have hcast : (limit : Rat) + 2 ^ (970 : Int) = 2 ^ (1024 : Int) := by
    have hsum := congrArg (Nat.cast : Nat → Rat) hlimit
    rwa [Nat.cast_add, Nat.cast_pow, Nat.cast_pow, ← zpow_natCast, ← zpow_natCast] at hsum
  obtain ⟨hhalf, -, hall⟩ := large_powers
  rw [hall] at hcast
  generalize (2 : Rat) ^ (971 : Int) = bit at hhalf hcast ⊢
  generalize (2 : Rat) ^ (970 : Int) = half at hhalf hcast
  linarith

theorem lastBit_eq {q : Rat} (hlow : 2 ^ (1023 : Int) ≤ q) (hhigh : q < 2 ^ (1024 : Int)) :
    lastBit q = 971 := by
  have hq : 0 < q := (two_zpow_pos _).trans_le hlow
  rw [← Nat.cast_ofNat, Int.zpow_le_iff_le_log one_lt_two hq] at hlow
  rw [← Nat.cast_ofNat, Int.lt_zpow_iff_log_lt one_lt_two hq] at hhigh
  rw [lastBit, leadingBit_eq_log hq]
  omega

theorem limit_bounds : (2 : Rat) ^ (1023 : Int) ≤ limit ∧ (limit : Rat) < 2 ^ (1024 : Int) := by
  obtain ⟨-, hlow, hhigh⟩ := large_powers
  have hpos := two_zpow_pos 971
  rw [limit_eq, hlow, hhigh]
  generalize (2 : Rat) ^ (971 : Int) = bit at hpos
  constructor <;> linarith

theorem le_roundedMagnitude_limit : 2 ^ (1024 : Int) ≤ roundedMagnitude limit := by
  have hround : roundHalfEven (2 ^ 53 - 1 / 2) = 2 ^ 53 := by decide +kernel
  rw [roundedMagnitude, lastBit_eq limit_bounds.1 limit_bounds.2, limit_eq,
    mul_div_cancel_right₀ _ (two_zpow_pos _).ne', hround, large_powers.2.2, Int.cast_pow,
    Int.cast_ofNat]

theorem roundedMagnitude_lt {q : Rat} (hq : 0 < q) (h : q < limit) :
    roundedMagnitude q < 2 ^ (1024 : Int) := by
  rcases lt_or_ge q (2 ^ (1023 : Int)) with hsmall | hlarge
  · have hbit : lastBit q ≤ 1023 := by
      have hlog := hsmall
      rw [← Nat.cast_ofNat, Int.lt_zpow_iff_log_lt one_lt_two hq] at hlog
      rw [lastBit, leadingBit_eq_log hq]
      omega
    calc roundedMagnitude q ≤ 2 ^ (1023 : Int) := roundedMagnitude_le_two_zpow hbit hsmall.le
      _ ≤ limit := limit_bounds.1
      _ < 2 ^ (1024 : Int) := limit_bounds.2
  · have hbit := lastBit_eq hlarge (h.trans limit_bounds.2)
    have hquotient : q / 2 ^ (971 : Int) < 2 ^ 53 - 1 / 2 := by
      rw [div_lt_iff₀ (two_zpow_pos _), ← limit_eq]
      exact h
    have hclose := (abs_le.mp (abs_roundHalfEven_sub_le (q / 2 ^ (971 : Int)))).2
    have hround : (roundHalfEven (q / 2 ^ (971 : Int)) : Rat) < 2 ^ 53 := by
      linarith
    rw [roundedMagnitude, hbit, large_powers.2.2]
    exact mul_lt_mul_of_pos_right hround (two_zpow_pos _)

theorem exists_ofInt?_iff {n : Int} : (∃ number, ofInt? n = some number) ↔ n.natAbs < limit := by
  have hcast : |(n : Rat)| = (n.natAbs : Rat) := by
    rw [Nat.cast_natAbs, Int.cast_abs]
  have hiff : (∃ number, ofInt? n = some number) ↔
      roundedMagnitude n.natAbs < 2 ^ (1024 : Int) := by
    simp only [ofInt?_eq_some_iff, exists_and_left, exists_eq', and_true, abs_rounding, hcast]
  rw [hiff]
  constructor
  · intro h
    by_contra hge
    have hmono : roundedMagnitude limit ≤ roundedMagnitude n.natAbs :=
      roundedMagnitude_mono (by decide +kernel) (Nat.cast_le.mpr (not_lt.mp hge))
    exact absurd h (not_lt.mpr (le_roundedMagnitude_limit.trans hmono))
  · intro h
    rcases n.natAbs.eq_zero_or_pos with hzero | hpos
    · rw [hzero, Nat.cast_zero, ← rounding_of_nonneg le_rfl, rounding_zero]
      exact two_zpow_pos _
    · exact roundedMagnitude_lt (Nat.cast_pos.mpr hpos) (Nat.cast_lt.mpr h)

end Authorship.Number.Binary64
