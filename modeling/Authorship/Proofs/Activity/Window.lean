import Authorship.Activity.Window
import Authorship.Proofs.Activity.Qualifying
import Authorship.Proofs.Number.Order

namespace Authorship.Number.Binary64

theorem le_cases {a b : Binary64} (h : a.le b = true) :
    (∃ x y, a.value? = some x ∧ b.value? = some y ∧ x ≤ y) ∨ a = .infinite true ∨
      b = .infinite false := by
  have hvalues {x y : Rat} (ha : a.value? = some x) (hb : b.value? = some y) :
      ∃ x y, a.value? = some x ∧ b.value? = some y ∧ x ≤ y :=
    ⟨x, y, ha, hb, (le_iff ha hb).mp h⟩
  cases a with
  | nan => cases b <;> cases h
  | infinite negative => cases b <;> cases negative <;> simp_all [le, lt, eq]
  | finite x => cases b <;> simp_all [le, lt, eq, value?]
  | negativeZero => cases b <;> simp_all [le, lt, eq, value?]

theorem ne_nan_of_le {a b : Binary64} (h : a.le b = true) : a ≠ .nan ∧ b ≠ .nan := by
  constructor
  · rintro rfl
    cases b <;> cases h
  · rintro rfl
    cases a <;> cases h

end Authorship.Number.Binary64

namespace Authorship.Activity

open Authorship.Calendar Authorship.Number

namespace Window

def partMicroseconds (fraction : Rat) : Int :=
  roundHalfEven (Binary64.rounding (fraction * microsecondsPerDay))

theorem partMicroseconds_mono {p q : Rat} (h : p ≤ q) :
    partMicroseconds p ≤ partMicroseconds q := by
  apply roundHalfEven_mono
  apply Binary64.rounding_mono
  exact mul_le_mul_of_nonneg_right h (Nat.cast_nonneg _)

theorem partMicroseconds_intCast {n : Int} (h : n.natAbs ≤ 1) :
    partMicroseconds n = n * microsecondsPerDay := by
  have hcast : (n : Rat) * microsecondsPerDay = ((n * microsecondsPerDay : Int) : Rat) := by
    push_cast
    rfl
  have hsmall : (n * microsecondsPerDay : Int).natAbs ≤ 2 ^ 53 := by
    rw [microsecondsPerDay]
    omega
  rw [partMicroseconds, hcast, Binary64.rounding_intCast hsmall, roundHalfEven_intCast]

theorem partMicroseconds_bounds {p : Rat} (low high : Int) (hlow : (low : Rat) ≤ p)
    (hhigh : p ≤ high) (hl : low.natAbs ≤ 1) (hh : high.natAbs ≤ 1) :
    low * microsecondsPerDay ≤ partMicroseconds p ∧
      partMicroseconds p ≤ high * microsecondsPerDay := by
  rw [← partMicroseconds_intCast hl, ← partMicroseconds_intCast hh]
  exact ⟨partMicroseconds_mono hlow, partMicroseconds_mono hhigh⟩

theorem microseconds_eq (days : Rat) :
    microseconds days =
      truncate days * microsecondsPerDay + partMicroseconds (days - truncate days) := by
  have hsmall : |(days - truncate days) * microsecondsPerDay| ≤ (microsecondsPerDay : Int) := by
    rw [abs_mul, Nat.abs_cast, Int.cast_natCast]
    exact mul_le_of_le_one_left (Nat.cast_nonneg _) (abs_sub_truncate_le days)
  have hvalue := Binary64.value?_ofRat (Binary64.abs_rounding_lt hsmall (by decide))
  rw [microseconds, hvalue]
  rfl

theorem microseconds_bounds (days : Rat) :
    (0 ≤ days → truncate days * microsecondsPerDay ≤ microseconds days ∧
      microseconds days ≤ (truncate days + 1) * microsecondsPerDay) ∧
    (days ≤ 0 → (truncate days - 1) * microsecondsPerDay ≤ microseconds days ∧
      microseconds days ≤ truncate days * microsecondsPerDay) := by
  rw [microseconds_eq]
  constructor
  · intro h
    obtain ⟨hlow, hhigh⟩ := sub_truncate_of_nonneg h
    have hbounds := partMicroseconds_bounds 0 1 (by exact_mod_cast hlow)
      (by exact_mod_cast hhigh) (by decide) (by decide)
    rw [add_mul]
    omega
  · intro h
    obtain ⟨hlow, hhigh⟩ := sub_truncate_of_nonpos h
    have hbounds := partMicroseconds_bounds (-1) 0 (by exact_mod_cast hlow)
      (by exact_mod_cast hhigh) (by decide) (by decide)
    rw [sub_mul]
    omega

theorem microseconds_mono {p q : Rat} (h : p ≤ q) : microseconds p ≤ microseconds q := by
  rcases (truncate_mono h).eq_or_lt with he | hlt
  · rw [microseconds_eq, microseconds_eq, he]
    have hpart : partMicroseconds (p - truncate q) ≤ partMicroseconds (q - truncate q) :=
      partMicroseconds_mono (sub_le_sub_right h _)
    omega
  · -- Whole days lie between the two.
    rcases le_total 0 p with hp | hp
    · have hhigh := ((microseconds_bounds p).1 hp).2
      have hlow := ((microseconds_bounds q).1 (hp.trans h)).1
      calc microseconds p ≤ (truncate p + 1) * microsecondsPerDay := hhigh
        _ ≤ truncate q * microsecondsPerDay := by gcongr; omega
        _ ≤ microseconds q := hlow
    · have hhigh := ((microseconds_bounds p).2 hp).2
      have hlow : (truncate q - 1) * microsecondsPerDay ≤ microseconds q := by
        rcases le_total 0 q with hq | hq
        · refine le_trans ?_ ((microseconds_bounds q).1 hq).1
          gcongr
          omega
        · exact ((microseconds_bounds q).2 hq).1
      calc microseconds p ≤ truncate p * microsecondsPerDay := hhigh
        _ ≤ (truncate q - 1) * microsecondsPerDay := by gcongr; omega
        _ ≤ microseconds q := hlow

theorem microseconds_zero : microseconds 0 = 0 := by
  decide +kernel

def least : Int :=
  -(longestDays * microsecondsPerDay : Nat)

/-- The least number of microseconds that is too large to be measured. -/
def beyond : Int :=
  ((longestDays + 1) * microsecondsPerDay : Nat)

theorem isMeasurable_iff {microseconds : Int} :
    isMeasurable microseconds = true ↔ least ≤ microseconds ∧ microseconds < beyond := by
  rw [isMeasurable, Int.fdiv_eq_ediv_of_nonneg _ (Int.natCast_nonneg _), decide_eq_true_iff,
    least, beyond, longestDays, microsecondsPerDay]
  omega

theorem ofDays?_of_value? {days : Binary64} {value : Rat} (h : days.value? = some value) :
    ofDays? days = .ok (if isMeasurable (microseconds value) then .bounded (microseconds value)
      else .immeasurable (0 < value)) := by
  cases days with
  | nan => cases h
  | infinite negative => cases h
  | finite value =>
    cases h
    rw [ofDays?]
    split_ifs <;> rfl
  | negativeZero =>
    cases h
    decide +kernel

theorem contains_ofDays? {days : Binary64} {value : Rat} {window : Window} {age : Int}
    (hv : days.value? = some value) (h : ofDays? days = .ok window) :
    window.Contains age ↔ beyond ≤ microseconds value ∨
      (least ≤ microseconds value ∧ microseconds value < beyond ∧ age < microseconds value) := by
  rw [ofDays?_of_value? hv] at h
  cases h
  split_ifs with hm
  · rw [isMeasurable_iff] at hm
    rw [Contains]
    omega
  · -- What cannot be measured is positive just when it lies beyond all that can be.
    rw [isMeasurable_iff] at hm
    have hpositive : 0 < value ↔ beyond ≤ microseconds value := by
      constructor
      · intro hpos
        have hnonneg := microseconds_mono hpos.le
        rw [microseconds_zero] at hnonneg
        rw [least, beyond, longestDays, microsecondsPerDay] at *
        omega
      · intro hbeyond
        by_contra hneg
        have hnonpos := microseconds_mono (not_lt.mp hneg)
        rw [microseconds_zero] at hnonpos
        rw [beyond, longestDays, microsecondsPerDay] at hbeyond
        omega
    rw [Contains, decide_eq_true_iff, hpositive]
    omega

theorem Contains.mono {few many : Binary64} {narrow wide : Window} {age : Int}
    (hc : narrow.Contains age) (h : few.le many = true) (hn : ofDays? few = .ok narrow)
    (hw : ofDays? many = .ok wide) : wide.Contains age := by
  rcases Binary64.le_cases h with ⟨x, y, hx, hy, hxy⟩ | rfl | rfl
  · rw [contains_ofDays? hx hn] at hc
    rw [contains_ofDays? hy hw]
    have hmono := microseconds_mono hxy
    omega
  · cases hn
    cases hc
  · cases hw
    rfl

theorem Contains.of_le {window : Window} {age smaller : Int} (hc : window.Contains age)
    (h : smaller ≤ age) : window.Contains smaller := by
  cases window with
  | bounded microseconds => exact h.trans_lt hc
  | immeasurable isPositive => exact hc

theorem exists_ofDays? {days : Binary64} (h : days ≠ .nan) : ∃ window, ofDays? days = .ok window := by
  cases days with
  | nan => exact absurd rfl h
  | infinite negative => exact ⟨_, rfl⟩
  | finite value => exact ⟨_, ofDays?_of_value? rfl⟩
  | negativeZero => exact ⟨_, rfl⟩

end Window

end Authorship.Activity
