import Authorship.Proofs.Activity.Window

namespace Authorship.Calendar

structure WallTime.InCalendar (wall : WallTime) : Prop where
  year : 1 ≤ wall.date.year ∧ wall.date.year ≤ 9999
  month : 1 ≤ wall.date.month ∧ wall.date.month ≤ 12
  day : 1 ≤ wall.date.day ∧ wall.date.day ≤ daysInMonth wall.date.year wall.date.month
  hour : wall.hour < 24
  minute : wall.minute < 60
  second : wall.second < 60
  microsecond : wall.microsecond < 1000000

instance (wall : WallTime) : Decidable wall.InCalendar :=
  decidable_of_iff
    ((1 ≤ wall.date.year ∧ wall.date.year ≤ 9999) ∧ (1 ≤ wall.date.month ∧ wall.date.month ≤ 12) ∧
      (1 ≤ wall.date.day ∧ wall.date.day ≤ daysInMonth wall.date.year wall.date.month) ∧
      wall.hour < 24 ∧ wall.minute < 60 ∧ wall.second < 60 ∧ wall.microsecond < 1000000)
    ⟨fun ⟨hy, hm, hd, hh, hmin, hs, hmicro⟩ => ⟨hy, hm, hd, hh, hmin, hs, hmicro⟩,
      fun ⟨hy, hm, hd, hh, hmin, hs, hmicro⟩ => ⟨hy, hm, hd, hh, hmin, hs, hmicro⟩⟩

/-- A timestamp whose instant can be told. -/
structure Timestamp.IsPlaced (timestamp : Timestamp) : Prop where
  wall : timestamp.wall.InCalendar
  zone : timestamp.isUsable = true

theorem daysInMonth_le (year month : Nat) : daysInMonth year month ≤ 31 := by
  have hfebruary : (if isLeapYear year then 29 else 28) ≤ 31 := by split <;> decide
  unfold daysInMonth
  split <;> omega

theorem Date.daysBeforeMonth_le (year month : Nat) :
    daysBeforeMonth year month ≤ (month - 1) * 31 := by
  have hsum := List.sum_le_card_nsmul ((List.range' 1 (month - 1)).map (daysInMonth year)) 31
    fun days hm => by
      obtain ⟨other, -, rfl⟩ := List.mem_map.mp hm
      exact daysInMonth_le year other
  rw [List.length_map, List.length_range', smul_eq_mul] at hsum
  exact hsum

theorem WallTime.InCalendar.ordinal_lt {wall : WallTime} (h : wall.InCalendar) :
    wall.date.ordinal < 4000000 := by
  have hyear := h.year.2
  have hmonth := h.month.2
  have hday := h.day.2.trans (daysInMonth_le _ _)
  have hbefore := Date.daysBeforeMonth_le wall.date.year wall.date.month
  rw [Date.ordinal, Date.daysBeforeYear]
  omega

theorem WallTime.InCalendar.ticks_bounds {wall : WallTime} (h : wall.InCalendar) :
    0 ≤ wall.ticks ∧ wall.ticks < 4000000 * 86400000000 := by
  have hordinal := h.ordinal_lt
  have hhour := h.hour
  have hminute := h.minute
  have hsecond := h.second
  have hmicro := h.microsecond
  rw [ticks]
  omega

theorem Timestamp.IsPlaced.offset_bounds {timestamp : Timestamp} (h : timestamp.IsPlaced) :
    -86400 < timestamp.actualZone.offset ∧ timestamp.actualZone.offset < 86400 := by
  have hzone := h.zone
  rw [isUsable, Zone.isUsable, Bool.and_eq_true, decide_eq_true_iff, decide_eq_true_iff] at hzone
  exact hzone

end Authorship.Calendar

namespace Authorship.Activity

open Authorship.Calendar Authorship.Number

/-- More microseconds than lie between any two timestamps. -/
def longestAge : Int :=
  5000000 * microsecondsPerDay

theorem abs_age_lt {timestamp now : Timestamp} (ht : timestamp.IsPlaced) (hn : now.IsPlaced) :
    |now.instant - timestamp.instant| < longestAge := by
  obtain ⟨hlow, hhigh⟩ := ht.wall.ticks_bounds
  obtain ⟨hlow', hhigh'⟩ := hn.wall.ticks_bounds
  obtain ⟨heast, hwest⟩ := ht.offset_bounds
  obtain ⟨heast', hwest'⟩ := hn.offset_bounds
  rw [longestAge, microsecondsPerDay, Timestamp.instant, Timestamp.instant, abs_lt]
  omega

namespace Window

def unrounded (days : Rat) : Rat :=
  truncate days * microsecondsPerDay +
    Binary64.rounding ((days - truncate days) * microsecondsPerDay)

theorem abs_unrounded_sub_le (days : Rat) :
    |unrounded days - days * microsecondsPerDay| ≤ 1 / 2 ^ 17 := by
  have hpart : |(days - truncate days) * microsecondsPerDay| < 2 ^ (37 : Int) := by
    have hday : ((microsecondsPerDay : Nat) : Rat) < 2 ^ (37 : Int) := by
      rw [microsecondsPerDay]
      norm_num
    rw [abs_mul, Nat.abs_cast]
    exact (mul_le_of_le_one_left (Nat.cast_nonneg _) (abs_sub_truncate_le days)).trans_lt hday
  have hclose := Binary64.abs_rounding_sub_le hpart (by decide)
  have hsame : unrounded days - days * microsecondsPerDay =
      Binary64.rounding ((days - truncate days) * microsecondsPerDay) -
        (days - truncate days) * microsecondsPerDay := by
    rw [unrounded, sub_mul]
    ring
  rw [hsame]
  exact hclose.trans (by norm_num)

theorem abs_microseconds_sub_le (days : Rat) (n : Int) :
    |(microseconds days : Rat) - unrounded days| ≤ |(n : Rat) - unrounded days| := by
  have hround := abs_roundHalfEven_sub_le_abs_sub
    (Binary64.rounding ((days - truncate days) * microsecondsPerDay))
    (n - truncate days * microsecondsPerDay)
  rw [microseconds_eq, partMicroseconds, unrounded]
  push_cast at hround ⊢
  rwa [add_sub_add_left_eq_sub, ← sub_sub]

/-- The rounded microseconds are the nearest ones, unless another whole number is as near up to the
last bit of the multiplication. -/
theorem abs_microseconds_sub_le_add (days : Rat) (n : Int) :
    |(microseconds days : Rat) - days * microsecondsPerDay| ≤
      |(n : Rat) - days * microsecondsPerDay| + 1 / 2 ^ 16 := by
  have hnear := abs_microseconds_sub_le days n
  have hclose := abs_unrounded_sub_le days
  have hleft := abs_sub_le (microseconds days : Rat) (unrounded days) (days * microsecondsPerDay)
  have hright := abs_sub_le (n : Rat) (days * microsecondsPerDay) (unrounded days)
  rw [abs_sub_comm (days * microsecondsPerDay)] at hright
  linarith

theorem abs_microseconds_sub_le_one (days : Rat) :
    |(microseconds days : Rat) - days * microsecondsPerDay| ≤ 1 := by
  have hnear := abs_microseconds_sub_le_add days (round (days * microsecondsPerDay))
  have hround := abs_sub_round (days * (microsecondsPerDay : Rat))
  rw [abs_sub_comm] at hround
  linarith

theorem pos_iff_of_not_isMeasurable {days : Rat} {age : Int} (ha : |age| < longestAge)
    (hm : ¬ isMeasurable (microseconds days) = true) :
    0 < days ↔ (age : Rat) < days * microsecondsPerDay := by
  have hday : (0 : Rat) < microsecondsPerDay := by
    rw [microsecondsPerDay]
    norm_num
  obtain ⟨hlow, hhigh⟩ := abs_le.mp (abs_microseconds_sub_le_one days)
  obtain ⟨hyoung, hold⟩ := abs_lt.mp ha
  have hyoung' : ((-longestAge : Int) : Rat) < age := Int.cast_lt.mpr hyoung
  have hold' : (age : Rat) < (longestAge : Int) := Int.cast_lt.mpr hold
  rw [isMeasurable_iff, not_and_or, not_le, not_lt] at hm
  rw [← mul_pos_iff_of_pos_right hday]
  rcases hm with hm | hm
  · have hleast : (microseconds days : Rat) < (least : Int) := Int.cast_lt.mpr hm
    rw [longestAge, microsecondsPerDay] at hyoung'
    rw [least, longestDays, microsecondsPerDay] at hleast
    push_cast at hyoung' hleast
    constructor <;> intro <;> linarith
  · have hbeyond : ((beyond : Int) : Rat) ≤ microseconds days := Int.cast_le.mpr hm
    rw [longestAge, microsecondsPerDay] at hold'
    rw [beyond, longestDays, microsecondsPerDay] at hbeyond
    push_cast at hold' hbeyond
    constructor <;> intro <;> linarith

end Window

/-- Whether an age in microseconds is less than a number of days. The days are rounded to
microseconds as long as these can be measured, and taken as they are otherwise. -/
def IsYounger (age : Int) (days : Binary64) : Prop :=
  match days.value? with
  | some value =>
    if Window.isMeasurable (Window.microseconds value) then age < Window.microseconds value
    else (age : Rat) < value * microsecondsPerDay
  | none => days = .infinite false

variable {timestamp now : Timestamp} {days : Binary64} {window : Window}

theorem contains_iff_isYounger {age : Int} (ha : |age| < longestAge)
    (hw : Window.ofDays? days = .ok window) : window.Contains age ↔ IsYounger age days := by
  unfold IsYounger
  cases hv : days.value? with
  | none =>
    cases days with
    | nan => cases hw
    | infinite negative =>
      cases hw
      cases negative <;> simp [Window.Contains]
    | finite value => cases hv
    | negativeZero => cases hv
  | some value =>
    rw [Window.ofDays?_of_value? hv] at hw
    cases hw
    dsimp only
    split_ifs with hm
    · exact Iff.rfl
    · rw [Window.Contains, decide_eq_true_iff]
      exact Window.pos_iff_of_not_isMeasurable ha hm

theorem within_eq_holds (hw : Window.ofDays? days = .ok window) (timestamp now : Timestamp) :
    within timestamp days now = window.holds timestamp now := by
  rw [within, hw]
  rfl

theorem exists_within (ht : timestamp.IsPlaced) (hn : now.IsPlaced)
    (hw : Window.ofDays? days = .ok window) :
    ∃ inside, within timestamp days now = .ok inside ∧
      (inside = true ↔ window.Contains (now.instant - timestamp.instant)) := by
  have hholds : ∃ inside, window.holds timestamp now = .ok inside := by
    cases window with
    | bounded microseconds =>
      rw [Window.holds, ht.zone, hn.zone]
      exact ⟨_, rfl⟩
    | immeasurable isPositive => exact ⟨_, rfl⟩
  obtain ⟨inside, hi⟩ := hholds
  rw [within_eq_holds hw]
  exact ⟨inside, hi, contains_of_holds hi⟩

theorem within_eq_true_iff (ht : timestamp.IsPlaced) (hn : now.IsPlaced)
    (hw : Window.ofDays? days = .ok window) :
    within timestamp days now = .ok true ↔ window.Contains (now.instant - timestamp.instant) := by
  obtain ⟨inside, hi, hcontains⟩ := exists_within ht hn hw
  rw [hi, ← hcontains, Except.ok.injEq]

/-- A timestamp is within some days just when it is younger than these; no whole number of
microseconds is nearer to the days than the one they are rounded to, up to the last bit. So only
the instants matter, more days hold more, and what is later is held as well. -/
theorem within_iff_isYounger (ht : timestamp.IsPlaced) (hn : now.IsPlaced) (hd : days ≠ .nan) :
    (∃ inside, within timestamp days now = .ok inside ∧
      (inside = true ↔ IsYounger (now.instant - timestamp.instant) days)) ∧
    (∀ value, days.value? = some value → ∀ n : Int,
      |(Window.microseconds value : Rat) - value * microsecondsPerDay| ≤
        |(n : Rat) - value * microsecondsPerDay| + 1 / 2 ^ 16) ∧
    (∀ other moment : Timestamp, other.IsPlaced → moment.IsPlaced →
      other.instant = timestamp.instant → moment.instant = now.instant →
        within other days moment = within timestamp days now) ∧
    (∀ more, days.le more = true → within timestamp days now = .ok true →
      within timestamp more now = .ok true) ∧
    ∀ later : Timestamp, later.IsPlaced → timestamp.instant ≤ later.instant →
      within timestamp days now = .ok true → within later days now = .ok true := by
  obtain ⟨window, hw⟩ := Window.exists_ofDays? hd
  obtain ⟨inside, hi, hcontains⟩ := exists_within ht hn hw
  refine ⟨⟨inside, hi, ?_⟩, ?_, ?_, ?_, ?_⟩
  · rw [hcontains]
    exact contains_iff_isYounger (abs_age_lt ht hn) hw
  · intro value _
    exact Window.abs_microseconds_sub_le_add value
  · intro other moment ho hm hsame hsame'
    obtain ⟨inside', hi', hcontains'⟩ := exists_within ho hm hw
    rw [hsame, hsame', ← hcontains, ← Bool.eq_iff_iff] at hcontains'
    rw [hi, hi', hcontains']
  · intro more hle hin
    obtain ⟨wide, hwide⟩ := Window.exists_ofDays? (Binary64.ne_nan_of_le hle).2
    rw [within_eq_true_iff ht hn hw] at hin
    rw [within_eq_true_iff ht hn hwide]
    exact hin.mono hle hw hwide
  · intro later hl hle hin
    rw [within_eq_true_iff ht hn hw] at hin
    rw [within_eq_true_iff hl hn hw]
    exact hin.of_le (by omega)

def firstMidnight : Timestamp :=
  ⟨⟨⟨1, 1, 1⟩, 0, 0, 0, 0⟩, some ⟨none, 86399⟩⟩

def lastSecond : Timestamp :=
  ⟨⟨⟨9999, 12, 31⟩, 23, 59, 59, 999999⟩, some ⟨none, -86399⟩⟩

theorem isPlaced_firstMidnight : firstMidnight.IsPlaced :=
  ⟨by decide, by decide⟩

theorem isPlaced_lastSecond : lastSecond.IsPlaced :=
  ⟨by decide, by decide⟩

theorem within_iff_isYounger_lastSecond :
    firstMidnight.IsPlaced ∧ lastSecond.IsPlaced ∧ Binary64.finite 1000000000000 ≠ .nan ∧
      ∃ inside, within firstMidnight (.finite 1000000000000) lastSecond = .ok inside ∧
        (inside = true ↔ IsYounger (lastSecond.instant - firstMidnight.instant)
          (.finite 1000000000000)) := by
  have hd : Binary64.finite 1000000000000 ≠ .nan := by decide
  obtain ⟨hin, -⟩ := within_iff_isYounger isPlaced_firstMidnight isPlaced_lastSecond hd
  exact ⟨isPlaced_firstMidnight, isPlaced_lastSecond, hd, hin⟩

/-- Days whose microseconds fall short of a half by the last bit of the multiplication. -/
def nearlyTied : Rat :=
  854186381 / 2 ^ 30

def midnight : Timestamp :=
  ⟨⟨⟨2026, 10, 18⟩, 0, 0, 0, 0⟩, none⟩

/-- As long after midnight as the whole number of microseconds nearest to these days. -/
def evening : Timestamp :=
  ⟨⟨⟨2026, 10, 18⟩, 19, 5, 33, 192345⟩, none⟩

/-- An age that is not below the nearest number of microseconds can be within the days: the
multiplication makes a half of what falls short of it, and the half goes up to the even number. -/
theorem within_nearlyTied :
    midnight.IsPlaced ∧ evening.IsPlaced ∧
      within midnight (.finite nearlyTied) evening = .ok true ∧
      Window.isMeasurable (roundHalfEven (nearlyTied * microsecondsPerDay)) = true ∧
      ¬ evening.instant - midnight.instant < roundHalfEven (nearlyTied * microsecondsPerDay) := by
  refine ⟨⟨by decide, by decide⟩, ⟨by decide, by decide⟩, ?_⟩
  decide +kernel

end Authorship.Activity
