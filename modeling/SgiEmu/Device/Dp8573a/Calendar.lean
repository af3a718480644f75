import SgiEmu.Device.Dp8573a
import Mathlib.Tactic.IntervalCases

namespace se_device.dp8573a

/-! ## The calendar

The leap counter counts four years, and the year counter a hundred; neither follows
the other, so that a date is a place in four years, the year these began in, and a
day of the week. -/

namespace CalendarDate

variable {date other : CalendarDate}

structure Valid (date : CalendarDate) : Prop where
  day_pos : 1 ≤ date.day_of_month
  day_le : date.day_of_month ≤ days_in_month date.month date.leap_year
  month_pos : 1 ≤ date.month
  month_le : date.month ≤ 12
  year_lt : date.year < 100
  week_pos : 1 ≤ date.day_of_week
  week_le : date.day_of_week ≤ 7
  leap_lt : date.leap_year < 4

theorem days_in_month_pos (month leap_year : Nat) : 28 ≤ days_in_month month leap_year := by
  unfold days_in_month
  split
  · split
    all_goals decide
  · split
    all_goals decide

theorem days_in_month_le (month leap_year : Nat) : days_in_month month leap_year ≤ 31 := by
  unfold days_in_month
  split
  · split
    all_goals decide
  · split
    all_goals decide

theorem Valid.advance (h : date.Valid) : date.advance.Valid := by
  obtain ⟨hday, hlast, hmonth, hyear_end, hyear, hweek, hweek_end, hleap⟩ := h
  unfold CalendarDate.advance
  dsimp only
  split
  case isTrue hinside => exact ⟨Nat.le_add_left 1 _, hinside, hmonth, hyear_end, hyear, by simp, by simp; omega, hleap⟩
  case isFalse =>
    have hfirst (month leap_year : Nat) : 1 ≤ days_in_month month leap_year :=
      Nat.le_trans (by decide) (days_in_month_pos month leap_year)
    split
    · exact ⟨Nat.le_refl 1, hfirst _ _, Nat.le_add_left 1 _, by simp; omega, hyear, by simp, by simp; omega, hleap⟩
    · exact ⟨Nat.le_refl 1, hfirst _ _, Nat.le_refl 1, by simp, Nat.mod_lt _ (by decide), by simp, by simp; omega,
        Nat.mod_lt _ (by decide)⟩

theorem advance_days_succ (count : Nat) : date.advance_days (count + 1) = (date.advance_days count).advance := by
  induction count generalizing date with
  | zero => rfl
  | succ count ih => exact ih

theorem advance_days_add (first second : Nat) : date.advance_days (first + second) = (date.advance_days first).advance_days second := by
  induction first generalizing date with
  | zero => simp [advance_days]
  | succ first ih =>
    rw [Nat.succ_add]
    exact ih

theorem Valid.advance_days (h : date.Valid) (count : Nat) : (date.advance_days count).Valid := by
  induction count generalizing date with
  | zero => exact h
  | succ count ih => exact ih h.advance

/-! ### Places in four years -/

/-- The days of the first months of a year. -/
def days_through (leap_year : Nat) : (months : Nat) → Nat
  | 0 => 0
  | months + 1 => days_through leap_year months + days_in_month (months + 1) leap_year

/-- The days of the years of the leap counter before this one. -/
def days_before_year (leap_year : Nat) : Nat := if leap_year = 0 then 0 else 366 + 365 * (leap_year - 1)

def place (date : CalendarDate) : Nat :=
  days_before_year date.leap_year + days_through date.leap_year (date.month - 1) + (date.day_of_month - 1)

/-- The year in which the leap counter was zero. -/
def leap_base (date : CalendarDate) : Nat := (date.year + 100 - date.leap_year) % 100

theorem days_through_mono (leap_year : Nat) {first last : Nat} (h : first ≤ last) :
    days_through leap_year first ≤ days_through leap_year last := by
  induction h with
  | refl => exact Nat.le_refl _
  | step _ ih => exact Nat.le_trans ih (Nat.le_add_right _ _)

theorem days_of_year {leap_year : Nat} (h : leap_year < 4) :
    days_before_year leap_year + days_through leap_year 12 = days_before_year (leap_year + 1) := by
  interval_cases leap_year
  all_goals decide

theorem days_of_month (h : 1 ≤ date.month) : days_through date.leap_year date.month =
    days_through date.leap_year (date.month - 1) + days_in_month date.month date.leap_year := by
  obtain ⟨months, hmonths⟩ : ∃ months, date.month = months + 1 := ⟨date.month - 1, by omega⟩
  rw [hmonths]
  rfl

theorem place_lt_year (h : date.Valid) : place date < days_before_year (date.leap_year + 1) := by
  have hyear := days_of_year h.leap_lt
  have hmonths := days_through_mono date.leap_year h.month_le
  have hmonth := days_of_month h.month_pos
  have hlast := h.day_le
  have hfirst := h.day_pos
  unfold place
  omega

theorem leap_year_eq_of_place (h : date.Valid) (hother : other.Valid) (hplace : place date = place other) :
    date.leap_year = other.leap_year := by
  have hlt := place_lt_year h
  have hlt_other := place_lt_year hother
  have hle : days_before_year date.leap_year ≤ place date := by
    unfold place
    omega
  have hle_other : days_before_year other.leap_year ≤ place other := by
    unfold place
    omega
  have hbound := h.leap_lt
  have hbound_other := hother.leap_lt
  simp only [days_before_year] at hlt hlt_other hle hle_other
  split at hle
  · split at hle_other
    · omega
    · simp at hlt
      omega
  · split at hle_other
    · simp at hlt_other
      omega
    · simp at hlt hlt_other
      omega

theorem month_le_of_place (hother : other.Valid) (hleap : date.leap_year = other.leap_year)
    (hplace : place date = place other) : date.month ≤ other.month := by
  by_contra hlater
  have hmonths := @days_through_mono date.leap_year other.month (date.month - 1) (by omega)
  have hmonth := days_of_month hother.month_pos
  have hlast := hother.day_le
  have hfirst := hother.day_pos
  simp only [place, hleap] at hplace hmonths
  omega

/-- A date is its place, its leap base and its day of the week. -/
theorem eq_of_place (h : date.Valid) (hother : other.Valid) (hplace : place date = place other)
    (hbase : leap_base date = leap_base other) (hweek : date.day_of_week = other.day_of_week) : date = other := by
  have hleap := leap_year_eq_of_place h hother hplace
  have hmonth : date.month = other.month := Nat.le_antisymm (month_le_of_place hother hleap hplace)
    (month_le_of_place h hleap.symm hplace.symm)
  have hday : date.day_of_month = other.day_of_month := by
    have hpos := h.day_pos
    have hpos_other := hother.day_pos
    simp only [place, hleap, hmonth] at hplace
    omega
  have hyear : date.year = other.year := by
    have hlt := h.year_lt
    have hlt_other := hother.year_lt
    have hbound := hother.leap_lt
    simp only [leap_base, hleap] at hbase
    omega
  obtain ⟨day, month, year, week, leap⟩ := date
  obtain ⟨day', month', year', week', leap'⟩ := other
  simp only at hday hmonth hyear hweek hleap
  subst hday hmonth hyear hweek hleap
  rfl

def LEAP_CYCLE_DAYS : Nat := 4 * 365 + 1

/-- One day later, a date is one place on, or starts the next four years. -/
theorem place_advance (h : date.Valid) : place date.advance = (place date + 1) % LEAP_CYCLE_DAYS ∧
    leap_base date.advance = (leap_base date + 4 * ((place date + 1) / LEAP_CYCLE_DAYS)) % 100 := by
  have hlt := place_lt_year h
  have hmonth := days_of_month h.month_pos
  have hbound := h.leap_lt
  have hyear := h.year_lt
  have hpos := h.day_pos
  have hlast := h.day_le
  have hcycle : days_before_year (date.leap_year + 1) ≤ LEAP_CYCLE_DAYS := by
    unfold days_before_year LEAP_CYCLE_DAYS
    rw [if_neg (by omega)]
    omega
  have hnext (hinside : place date + 1 < LEAP_CYCLE_DAYS) : (place date + 1) % LEAP_CYCLE_DAYS = place date + 1 ∧
      (place date + 1) / LEAP_CYCLE_DAYS = 0 := ⟨Nat.mod_eq_of_lt hinside, Nat.div_eq_of_lt hinside⟩
  unfold CalendarDate.advance
  dsimp only
  split
  case isTrue hinside =>
    have hplace : place { date with
        day_of_month := date.day_of_month + 1, day_of_week := date.day_of_week % 7 + 1 } = place date + 1 := by
      simp only [place]
      omega
    have hinside : place date + 1 < LEAP_CYCLE_DAYS := by
      have hyear_days := days_of_year h.leap_lt
      have hmonths := days_through_mono date.leap_year h.month_le
      unfold place
      omega
    obtain ⟨hmod, hdiv⟩ := hnext hinside
    rw [hplace, hmod, hdiv]
    refine ⟨rfl, ?_⟩
    simp [leap_base]
  case isFalse hend =>
    have hday : date.day_of_month = days_in_month date.month date.leap_year := by omega
    split
    case isTrue hmonth_end =>
      have hplace : place { date with
          day_of_month := 1, month := date.month + 1, day_of_week := date.day_of_week % 7 + 1 } = place date + 1 := by
        simp only [place, Nat.add_sub_cancel]
        omega
      have hinside : place date + 1 < LEAP_CYCLE_DAYS := by
        have hyear_days := days_of_year h.leap_lt
        have hmonths := @days_through_mono date.leap_year (date.month + 1) 12 (by omega)
        have hsucc : days_through date.leap_year (date.month + 1) =
            days_through date.leap_year date.month + days_in_month (date.month + 1) date.leap_year := rfl
        have hlong := days_in_month_pos (date.month + 1) date.leap_year
        unfold place
        omega
      obtain ⟨hmod, hdiv⟩ := hnext hinside
      rw [hplace, hmod, hdiv]
      refine ⟨rfl, ?_⟩
      simp [leap_base]
    case isFalse hyear_end =>
      have hdecember : date.month = 12 := by
        have hle := h.month_le
        omega
      have hplace : place date + 1 = days_before_year (date.leap_year + 1) := by
        rw [← days_of_year h.leap_lt]
        rw [hdecember] at hmonth hday
        simp only [place, hdecember]
        omega
      have hfirst : place { date with
          day_of_month := 1, month := 1, year := (date.year + 1) % 100, leap_year := (date.leap_year + 1) % 4
          day_of_week := date.day_of_week % 7 + 1 } = days_before_year ((date.leap_year + 1) % 4) := by
        simp [place, days_through]
      rw [hfirst, hplace]
      simp only [leap_base]
      generalize date.leap_year = leap at hbound
      interval_cases leap
      all_goals simp [days_before_year, LEAP_CYCLE_DAYS]
      all_goals omega

/-- What many days do to a date. -/
theorem place_advance_days (h : date.Valid) (count : Nat) :
    place (date.advance_days count) = (place date + count) % LEAP_CYCLE_DAYS ∧
      leap_base (date.advance_days count) = (leap_base date + 4 * ((place date + count) / LEAP_CYCLE_DAYS)) % 100 ∧
      (date.advance_days count).day_of_week = (date.day_of_week - 1 + count) % 7 + 1 := by
  have hplace_lt : place date < LEAP_CYCLE_DAYS := by
    refine Nat.lt_of_lt_of_le (place_lt_year h) ?_
    have hbound := h.leap_lt
    unfold days_before_year LEAP_CYCLE_DAYS
    rw [if_neg (by omega)]
    omega
  have hbase_lt : leap_base date < 100 := Nat.mod_lt _ (by decide)
  induction count with
  | zero =>
    have hpos := h.week_pos
    have hle := h.week_le
    refine ⟨(Nat.mod_eq_of_lt hplace_lt).symm, ?_, ?_⟩
    · rw [Nat.add_zero, Nat.div_eq_of_lt hplace_lt]
      exact (Nat.mod_eq_of_lt hbase_lt).symm
    · show date.day_of_week = (date.day_of_week - 1 + 0) % 7 + 1
      omega
  | succ count ih =>
    obtain ⟨hplace, hbase, hweek⟩ := ih
    obtain ⟨hplace_next, hbase_next⟩ := place_advance (h.advance_days count)
    rw [advance_days_succ]
    have hsum := Nat.mod_add_div (place date + count) LEAP_CYCLE_DAYS
    refine ⟨?_, ?_, ?_⟩
    · rw [hplace_next, hplace, Nat.mod_add_mod]
      rfl
    · rw [hbase_next, hbase, hplace]
      simp only [LEAP_CYCLE_DAYS] at *
      omega
    · have hadvanced : (date.advance_days count).advance.day_of_week = (date.advance_days count).day_of_week % 7 + 1 := by
        unfold CalendarDate.advance
        dsimp only
        split
        · rfl
        · split
          all_goals rfl
      rw [hadvanced, hweek]
      omega

/-- The calendar repeats after seven hundred years of days. -/
theorem advance_days_cycle (h : date.Valid) : date.advance_days CALENDAR_CYCLE_DAYS = date := by
  obtain ⟨hplace, hbase, hweek⟩ := place_advance_days h CALENDAR_CYCLE_DAYS
  obtain ⟨hplace_zero, hbase_zero, hweek_zero⟩ := place_advance_days h 0
  refine eq_of_place (h.advance_days _) h ?_ ?_ ?_
  · rw [hplace]
    refine Eq.trans ?_ hplace_zero.symm
    simp only [LEAP_CYCLE_DAYS, CALENDAR_CYCLE_DAYS]
    omega
  · rw [hbase]
    refine Eq.trans ?_ hbase_zero.symm
    simp only [LEAP_CYCLE_DAYS, CALENDAR_CYCLE_DAYS]
    omega
  · rw [hweek]
    refine Eq.trans ?_ hweek_zero.symm
    simp only [CALENDAR_CYCLE_DAYS]
    omega

theorem advance_days_mod (h : date.Valid) (count : Nat) :
    date.advance_days (count % CALENDAR_CYCLE_DAYS) = date.advance_days count := by
  have hcycles (cycles : Nat) : date.advance_days (CALENDAR_CYCLE_DAYS * cycles) = date := by
    induction cycles with
    | zero => rfl
    | succ cycles ih => rw [Nat.mul_succ, advance_days_add, ih, advance_days_cycle h]
  calc date.advance_days (count % CALENDAR_CYCLE_DAYS)
      = (date.advance_days (CALENDAR_CYCLE_DAYS * (count / CALENDAR_CYCLE_DAYS))).advance_days
          (count % CALENDAR_CYCLE_DAYS) := by rw [hcycles]
    _ = date.advance_days count := by rw [← advance_days_add, Nat.div_add_mod]

end CalendarDate

end se_device.dp8573a
