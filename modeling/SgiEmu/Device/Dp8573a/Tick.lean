import SgiEmu.Device.Dp8573a.Fields

open se_core

namespace se_device.dp8573a

/-! ## The days of the registers -/

namespace Counters

variable {base rtc counters : Counters} {clock clock' : ClockState}

/-- The leap counter counts on in the low bits of the mode. -/
theorem Moved.advance_leap (h : Moved base rtc clock counters) (hleap : clock.date.leap_year < 4)
    (hsame : ∀ g, clock'.code base.hour_mode_12 g = clock.code base.hour_mode_12 g)
    (hnext : clock'.date.leap_year = (clock.date.leap_year + 1) % 4) :
    Moved base rtc clock' (counters.set_control REAL_TIME_MODE
      (counters.control REAL_TIME_MODE &&& ~~~0x03 ||| ((counters.control REAL_TIME_MODE &&& 0x03) + 1) &&& 0x03)) := by
  refine ⟨⟨fun f => ?_, ?_, fun index hindex => ?_⟩,
    ⟨h.frame.register, h.frame.millisecond, h.frame.oscillator, h.frame.supply, h.frame.alarm⟩⟩
  · rw [hsame]
    exact h.shows.field f
  · have hall : ∀ leap_year < 4, ((BitVec.ofNat 8 leap_year &&& (0x03 : U8)) + 1) &&& 0x03 =
        BitVec.ofNat 8 ((leap_year + 1) % 4) &&& 0x03 := by decide
    rw [control_set_self (by decide), h.shows.mode, blend_and_not, blend_and, hall _ hleap, ← hnext]
    rfl
  · rw [control_set_other (Ne.symm hindex)]
    exact h.shows.control index hindex

theorem Shows.days_in_current_month (h : Shows base clock counters) (hvalid : clock.date.Valid) :
    counters.days_in_current_month = days_in_month clock.date.month clock.date.leap_year := by
  have hmonth : counters.register MONTH &&& 0x1f = encode_bcd clock.date.month := by
    have hfield := h.field .Month
    simp only [Field.index, Field.mask, ClockState.code] at hfield
    rw [hfield, blend_and, encode_bcd_fits_1f (Nat.lt_of_le_of_lt hvalid.month_le (by decide))]
  unfold Counters.days_in_current_month
  rw [hmonth, decode_encode_bcd (Nat.le_trans hvalid.month_le (by decide)), h.leap_year hvalid.leap_lt]

theorem Moved.advance_year (h : Moved base rtc clock counters) (hyear : clock.date.year < 100)
    (hleap : clock.date.leap_year < 4) : Moved base rtc
      { clock with date := { clock.date with
        year := (clock.date.year + 1) % 100, leap_year := (clock.date.leap_year + 1) % 4 } } counters.advance_year := by
  have hnext : (clock.date.year + 1) % 100 = if clock.date.year = 99 then 0 else clock.date.year + 1 := by
    split
    all_goals omega
  obtain ⟨next, heq, hmoved⟩ := @Moved.increment base rtc counters clock
    { clock with date := { clock.date with year := (clock.date.year + 1) % 100 } } h .Year 0xff clock.date.year 0 99
    rfl rfl (Nat.zero_le _) (by omega) (by decide) (encode_bcd_fits_ff _) (by rw [← hnext]; rfl)
    (fun g hg => by cases g <;> first | rfl | exact absurd rfl hg) rfl
  have hincrement : (counters.increment_bcd_register YEAR 0xff 0 99).2 = next := congrArg Prod.snd heq
  simp only [Counters.advance_year, hincrement]
  exact hmoved.advance_leap hleap (fun g => by cases g <;> rfl) rfl

theorem Moved.advance_day (h : Moved base rtc clock counters) (hvalid : clock.date.Valid) :
    Moved base rtc { clock with date := clock.date.advance } counters.advance_day := by
  have hpos := hvalid.day_pos
  have hweek_pos := hvalid.week_pos
  have hweek_le := hvalid.week_le
  have hmonth_pos := hvalid.month_pos
  have hmonth_le := hvalid.month_le
  have hshort := CalendarDate.days_in_month_le clock.date.month clock.date.leap_year
  have hday := hvalid.day_le
  have hweek : clock.date.day_of_week % 7 + 1 = if clock.date.day_of_week = 7 then 1 else clock.date.day_of_week + 1 := by
    split
    all_goals omega
  generalize hdays : days_in_month clock.date.month clock.date.leap_year = days at *
  obtain ⟨first, hfirst, hmoved_first⟩ := @Moved.increment base rtc counters clock
    { clock with date := { clock.date with
      day_of_month := if clock.date.day_of_month = days then 1 else clock.date.day_of_month + 1 } }
    h .DayOfMonth 0x3f clock.date.day_of_month 1 days rfl rfl hpos hday (by omega) (encode_bcd_fits_3f (by omega)) rfl
    (fun g hg => by cases g <;> first | rfl | exact absurd rfl hg) rfl
  obtain ⟨second, hsecond, hmoved_second⟩ := @Moved.increment base rtc first _
    { clock with date := { clock.date with
      day_of_month := if clock.date.day_of_month = days then 1 else clock.date.day_of_month + 1
      day_of_week := clock.date.day_of_week % 7 + 1 } }
    hmoved_first .DayOfWeek 0x07 clock.date.day_of_week 1 7 rfl rfl hweek_pos hweek_le (by decide)
    (encode_bcd_fits_07 (by omega)) (by rw [← hweek]; rfl)
    (fun g hg => by cases g <;> first | rfl | exact absurd rfl hg) rfl
  have hday_step : counters.increment_bcd_register DAY_OF_MONTH 0x3f 1 counters.days_in_current_month =
      (some (if clock.date.day_of_month = days then 1 else clock.date.day_of_month + 1, clock.date.day_of_month == days),
        first) := by
    rw [h.shows.days_in_current_month hvalid, hdays]
    exact hfirst
  have hweek_step : (first.increment_bcd_register DAY_OF_WEEK 0x07 1 7).2 = second := congrArg Prod.snd hsecond
  unfold Counters.advance_day
  simp only [hday_step, hweek_step]
  by_cases hlast : clock.date.day_of_month = days
  · -- the month ends
    rw [if_neg (by simp [hlast])]
    rw [if_pos hlast] at hmoved_second
    obtain ⟨third, hthird, hmoved_third⟩ := @Moved.increment base rtc second _
      { clock with date := { clock.date with
        day_of_month := 1, day_of_week := clock.date.day_of_week % 7 + 1
        month := if clock.date.month = 12 then 1 else clock.date.month + 1 } }
      hmoved_second .Month 0x1f clock.date.month 1 12 rfl rfl hmonth_pos hmonth_le (by decide)
      (encode_bcd_fits_1f (by omega)) rfl (fun g hg => by cases g <;> first | rfl | exact absurd rfl hg) rfl
    have hmonth_step : second.increment_bcd_register MONTH 0x1f 1 12 =
        (some (if clock.date.month = 12 then 1 else clock.date.month + 1, clock.date.month == 12), third) := hthird
    by_cases hdecember : clock.date.month = 12
    · have hwraps : (clock.date.month == 12) = true := by simpa using hdecember
      rw [hwraps, if_pos hdecember] at hmonth_step
      rw [if_pos hdecember] at hmoved_third
      have hadvance : clock.date.advance = { clock.date with
          day_of_month := 1, day_of_week := clock.date.day_of_week % 7 + 1, month := 1
          year := (clock.date.year + 1) % 100, leap_year := (clock.date.leap_year + 1) % 4 } := by
        unfold CalendarDate.advance
        dsimp only
        rw [hdays, if_neg (by omega), if_neg (by omega)]
      simp only [hmonth_step, hadvance]
      exact hmoved_third.advance_year hvalid.year_lt hvalid.leap_lt
    · have hkeeps : (clock.date.month == 12) = false := by simpa using hdecember
      rw [hkeeps, if_neg hdecember] at hmonth_step
      rw [if_neg hdecember] at hmoved_third
      have hadvance : clock.date.advance = { clock.date with
          day_of_month := 1, day_of_week := clock.date.day_of_week % 7 + 1, month := clock.date.month + 1 } := by
        unfold CalendarDate.advance
        dsimp only
        rw [hdays, if_neg (by omega), if_pos (by omega)]
      simp only [hmonth_step, hadvance]
      exact hmoved_third
  · rw [if_pos (by simp [hlast])]
    rw [if_neg hlast] at hmoved_second
    have hadvance : clock.date.advance = { clock.date with
        day_of_month := clock.date.day_of_month + 1, day_of_week := clock.date.day_of_week % 7 + 1 } := by
      unfold CalendarDate.advance
      dsimp only
      rw [hdays, if_pos (by omega)]
    rw [hadvance]
    exact hmoved_second

theorem Moved.advance_days (h : Moved base rtc clock counters) (hvalid : clock.date.Valid) (count : Nat) :
    Moved base rtc { clock with date := clock.date.advance_days count } (counters.advance_days count) := by
  induction count generalizing clock counters with
  | zero => exact h
  | succ count ih => exact ih (h.advance_day hvalid) hvalid.advance

/-! ## Hours and seconds -/

/-- What the 12-hour counter shows an hour later. -/
theorem hour_12_counter {hour : Nat} (h : hour < 24) :
    (decode_bcd (encode_hour hour true &&& 0x1f)).filter (fun hour => 1 ≤ hour && hour ≤ 12) = some (hour_12 hour).1 ∧
      (encode_hour hour true &&& 0x80 != 0) = (hour_12 hour).2 ∧
      (encode_bcd (if (hour_12 hour).1 = 11 then 12 else if (hour_12 hour).1 = 12 then 1 else (hour_12 hour).1 + 1)
        ||| pm_bit (if (hour_12 hour).1 = 11 then !(hour_12 hour).2 else (hour_12 hour).2)) =
        encode_hour ((hour + 1) % 24) true &&& 0x9f ∧
      ((hour_12 hour).1 == 11 && (hour_12 hour).2) = (hour == 23) := by
  have hall : ∀ hour < 24,
      (decode_bcd (encode_hour hour true &&& 0x1f)).filter (fun hour => 1 ≤ hour && hour ≤ 12) = some (hour_12 hour).1 ∧
        (encode_hour hour true &&& 0x80 != 0) = (hour_12 hour).2 ∧
        (encode_bcd (if (hour_12 hour).1 = 11 then 12 else if (hour_12 hour).1 = 12 then 1 else (hour_12 hour).1 + 1)
          ||| pm_bit (if (hour_12 hour).1 = 11 then !(hour_12 hour).2 else (hour_12 hour).2)) =
          encode_hour ((hour + 1) % 24) true &&& 0x9f ∧
        ((hour_12 hour).1 == 11 && (hour_12 hour).2) = (hour == 23) := by decide +kernel
  exact hall hour h

theorem Moved.advance_hour (h : Moved base rtc clock counters) (hhour : clock.hour < 24) (hvalid : clock.date.Valid) :
    Moved base rtc (if clock.hour ≠ 23 then { clock with hour := clock.hour + 1 }
      else { clock with hour := 0, date := clock.date.advance }) counters.advance_hour := by
  have hmode := h.shows.hour_mode_12
  have hnext : (clock.hour + 1) % 24 = if clock.hour = 23 then 0 else clock.hour + 1 := by
    split
    all_goals omega
  have hcounted : ∃ next, Moved base rtc { clock with hour := (clock.hour + 1) % 24 } next ∧
      counters.advance_hour = if clock.hour = 23 then next.advance_day else next := by
    unfold Counters.advance_hour
    cases hhour_mode : base.hour_mode_12 with
    | true =>
      rw [hmode, hhour_mode, if_pos rfl]
      obtain ⟨hdecoded, hafternoon, hlater, hlast⟩ := hour_12_counter hhour
      have hraw : counters.register HOURS = blend 0x9f (base.register HOURS) (encode_hour clock.hour true) := by
        have hfield := h.shows.field .Hours
        rw [hhour_mode] at hfield
        exact hfield
      have hmoved := @Moved.set_field base rtc counters clock { clock with hour := (clock.hour + 1) % 24 } h .Hours
        (fun g hg => by cases g <;> first | rfl | exact absurd rfl hg) rfl
      rw [hhour_mode] at hmoved
      refine ⟨_, hmoved, ?_⟩
      unfold advance_12_hour_counter
      simp only [hraw, blend_and_inside _ _ (show (0x1f : U8) &&& 0x9f = 0x1f by decide),
        blend_and_inside _ _ (show (0x80 : U8) &&& 0x9f = 0x80 by decide), hdecoded, hafternoon, hlast, blend_and_not,
        BitVec.or_assoc, hlater, beq_iff_eq]
      rfl
    | false =>
      rw [hmode, hhour_mode, if_neg (by simp)]
      obtain ⟨next, heq, hmoved⟩ := @Moved.increment base rtc counters clock { clock with hour := (clock.hour + 1) % 24 } h
        .Hours 0x3f clock.hour 0 23 (by rw [hhour_mode]; rfl) (by rw [hhour_mode]; rfl) (Nat.zero_le _) (by omega)
        (by decide) (encode_bcd_fits_3f (by omega)) (by rw [hhour_mode, ← hnext]; rfl)
        (fun g hg => by cases g <;> first | rfl | exact absurd rfl hg) rfl
      refine ⟨next, hmoved, ?_⟩
      have hstep : counters.increment_bcd_register HOURS 0x3f 0 23 =
          (some (if clock.hour = 23 then 0 else clock.hour + 1, clock.hour == 23), next) := heq
      by_cases hmidnight : clock.hour = 23
      · have hwraps : (clock.hour == 23) = true := by simpa using hmidnight
        rw [hwraps] at hstep
        rw [hstep]
        simp [hmidnight]
      · have hkeeps : (clock.hour == 23) = false := by simpa using hmidnight
        rw [hkeeps] at hstep
        rw [hstep]
        simp [hmidnight]
  obtain ⟨next, hmoved, heq⟩ := hcounted
  rw [heq]
  by_cases hmidnight : clock.hour = 23
  · rw [hnext, if_pos hmidnight] at hmoved
    rw [if_pos hmidnight, if_neg (by simp [hmidnight])]
    exact hmoved.advance_day hvalid
  · rw [hnext, if_neg hmidnight] at hmoved
    rw [if_neg hmidnight, if_pos hmidnight]
    exact hmoved

/-- The periodic events of the second after a clock, but for the second itself. -/
def second_events (clock : ClockState) : U8 :=
  (if (if clock.seconds = 59 then 0 else clock.seconds + 1) % 10 = 0 then PERIODIC_TEN_SECONDS else 0)
    ||| if clock.seconds = 59 then PERIODIC_MINUTE else 0

theorem advance_second_moved (h : Moved base rtc clock counters) (hvalid : clock.Valid) :
    ∃ next, counters.advance_second = (second_events clock, next.finish_clock_change) ∧
      Moved base rtc clock.next_second next := by
  obtain ⟨_, hseconds, hminutes, hhour, hdate⟩ := hvalid
  obtain ⟨first, hfirst, hmoved⟩ := @Moved.increment base rtc counters clock
    { clock with seconds := if clock.seconds = 59 then 0 else clock.seconds + 1 } h .Seconds 0x7f clock.seconds 0 59
    rfl rfl (Nat.zero_le _) (by omega) (by decide) (encode_bcd_fits_7f (by omega)) rfl
    (fun g hg => by cases g <;> first | rfl | exact absurd rfl hg) rfl
  have hstep : counters.increment_bcd_register SECONDS 0x7f 0 59 =
      (some (if clock.seconds = 59 then 0 else clock.seconds + 1, clock.seconds == 59), first) := hfirst
  unfold advance_second ClockState.next_second second_events
  by_cases hlast : clock.seconds = 59
  · have hwraps : (clock.seconds == 59) = true := by simpa using hlast
    rw [hwraps, if_pos hlast] at hstep
    rw [if_pos hlast] at hmoved
    obtain ⟨second, hsecond, hmoved_second⟩ := @Moved.increment base rtc first _
      { clock with seconds := 0, minutes := if clock.minutes = 59 then 0 else clock.minutes + 1 } hmoved .Minutes 0x7f
      clock.minutes 0 59 rfl rfl (Nat.zero_le _) (by omega) (by decide) (encode_bcd_fits_7f (by omega)) rfl
      (fun g hg => by cases g <;> first | rfl | exact absurd rfl hg) rfl
    have hminute_step : first.increment_bcd_register MINUTES 0x7f 0 59 =
        (some (if clock.minutes = 59 then 0 else clock.minutes + 1, clock.minutes == 59), second) := hsecond
    by_cases hlast_minute : clock.minutes = 59
    · have hwraps_minute : (clock.minutes == 59) = true := by simpa using hlast_minute
      rw [hwraps_minute, if_pos hlast_minute] at hminute_step
      rw [if_pos hlast_minute] at hmoved_second
      refine ⟨second.advance_hour, ?_, ?_⟩
      · rw [hstep]
        dsimp only
        rw [hminute_step]
        simp [hlast]
      · have hhour_moved := hmoved_second.advance_hour hhour hdate
        simpa [hlast, hlast_minute] using hhour_moved
    · have hkeeps_minute : (clock.minutes == 59) = false := by simpa using hlast_minute
      rw [hkeeps_minute, if_neg hlast_minute] at hminute_step
      rw [if_neg hlast_minute] at hmoved_second
      refine ⟨second, ?_, ?_⟩
      · rw [hstep]
        dsimp only
        rw [hminute_step]
        simp [hlast]
      · simpa [hlast, hlast_minute] using hmoved_second
  · have hkeeps : (clock.seconds == 59) = false := by simpa using hlast
    rw [hkeeps, if_neg hlast] at hstep
    rw [if_neg hlast] at hmoved
    refine ⟨first, ?_, ?_⟩
    · rw [hstep]
      simp [hlast]
    · simpa [hlast] using hmoved

theorem next_second_hundredths (clock : ClockState) (hundredths : Nat) :
    { clock with hundredths }.next_second = { clock.next_second with hundredths } := by
  simp only [ClockState.next_second]
  split
  · rfl
  · split
    · rfl
    · split
      all_goals rfl

/-- A hundredth of a second within a second. -/
theorem advance_hundredth_inside (h : Moved base rtc clock counters) (hvalid : clock.Valid)
    (hinside : clock.hundredths ≠ 99) : ∃ next, counters.advance_hundredth =
        (if (clock.hundredths + 1) % 10 = 0 then PERIODIC_HUNDRED_MILLISECONDS else 0, next) ∧
      Moved base rtc { clock with hundredths := clock.hundredths + 1 } next := by
  have hlt := hvalid.hundredths_lt
  obtain ⟨next, heq, hmoved⟩ := @Moved.increment base rtc counters clock
    { clock with hundredths := clock.hundredths + 1 } h .Hundredths 0xff clock.hundredths 0 99 rfl rfl (Nat.zero_le _)
    (by omega) (by decide) (encode_bcd_fits_ff _) (by rw [if_neg hinside]; rfl)
    (fun g hg => by cases g <;> first | rfl | exact absurd rfl hg) rfl
  have hstep : counters.increment_bcd_register HUNDREDTHS 0xff 0 99 =
      (some (if clock.hundredths = 99 then 0 else clock.hundredths + 1, clock.hundredths == 99), next) := heq
  have hkeeps : (clock.hundredths == 99) = false := by simpa using hinside
  rw [hkeeps, if_neg hinside] at hstep
  refine ⟨next, ?_, hmoved⟩
  unfold advance_hundredth
  rw [hstep]
  simp

/-- A hundredth of a second that ends the second. -/
theorem advance_hundredth_ends (h : Moved base rtc clock counters) (hvalid : clock.Valid)
    (hends : clock.hundredths = 99) : ∃ next, counters.advance_hundredth =
        (PERIODIC_HUNDRED_MILLISECONDS ||| PERIODIC_SECOND ||| second_events clock, next.finish_clock_change) ∧
      Moved base rtc { clock.next_second with hundredths := 0 } next := by
  obtain ⟨first, heq, hmoved⟩ := @Moved.increment base rtc counters clock { clock with hundredths := 0 } h .Hundredths 0xff
    clock.hundredths 0 99 rfl rfl (Nat.zero_le _) (by omega) (by decide) (encode_bcd_fits_ff _)
    (by rw [if_pos hends]; rfl) (fun g hg => by cases g <;> first | rfl | exact absurd rfl hg) rfl
  have hstep : counters.increment_bcd_register HUNDREDTHS 0xff 0 99 =
      (some (if clock.hundredths = 99 then 0 else clock.hundredths + 1, clock.hundredths == 99), first) := heq
  have hwraps : (clock.hundredths == 99) = true := by simpa using hends
  rw [hwraps, if_pos hends] at hstep
  have hfirst : ClockState.Valid { clock with hundredths := 0 } :=
    ⟨Nat.succ_pos 99, hvalid.seconds_lt, hvalid.minutes_lt, hvalid.hour_lt, hvalid.date⟩
  obtain ⟨next, hsecond, hmoved_second⟩ := advance_second_moved hmoved hfirst
  rw [next_second_hundredths] at hmoved_second
  have hevents : second_events { clock with hundredths := 0 } = second_events clock := rfl
  refine ⟨next, ?_, hmoved_second⟩
  unfold advance_hundredth
  rw [hstep]
  simp [hsecond, hevents]

end Counters

end se_device.dp8573a
