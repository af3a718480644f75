import SgiEmu.Device.Dp8573a.Elapsed

open se_core

namespace se_device.dp8573a

/-! ## The alarm search -/

theorem decode_hour_masked (raw : U8) (hour_mode_12 : Bool) :
    decode_hour (raw &&& Field.mask hour_mode_12 .Hours) hour_mode_12 = decode_hour raw hour_mode_12 := by
  have hall : ∀ (hour_mode_12 : Bool) (raw : U8),
      decode_hour (raw &&& Field.mask hour_mode_12 .Hours) hour_mode_12 = decode_hour raw hour_mode_12 := by decide +kernel
  exact hall hour_mode_12 raw

theorem decode_encode_hour {hour : Nat} (h : hour < 24) (hour_mode_12 : Bool) :
    decode_hour (encode_hour hour hour_mode_12 &&& Field.mask hour_mode_12 .Hours) hour_mode_12 = some hour := by
  have hall : ∀ (hour_mode_12 : Bool), ∀ hour < 24,
      decode_hour (encode_hour hour hour_mode_12 &&& Field.mask hour_mode_12 .Hours) hour_mode_12 = some hour := by
    decide +kernel
  exact hall hour_mode_12 hour h

/-- Shown alike in a field, two values are one. -/
theorem encode_bcd_injective {first second : Nat} {mask : U8} (hfirst : first ≤ 99) (hsecond : second ≤ 99)
    (hfits_first : encode_bcd first &&& mask = encode_bcd first)
    (hfits_second : encode_bcd second &&& mask = encode_bcd second)
    (h : encode_bcd first &&& mask = encode_bcd second &&& mask) : first = second := by
  rw [hfits_first, hfits_second] at h
  have hdecoded := decode_encode_bcd hfirst
  rw [h, decode_encode_bcd hsecond] at hdecoded
  exact (Option.some.inj hdecoded).symm

namespace Counters

variable {base : Counters} {clock : ClockState}

theorem counter_mask_hours : base.counter_mask HOURS = Field.mask base.hour_mode_12 .Hours := by
  unfold Counters.counter_mask Field.mask
  cases base.hour_mode_12 <;> rfl

/-- What a matching time of the day shows in each enabled field. -/
theorem alarm_time_matches_iff (seconds_of_day : Nat) : base.alarm_time_matches seconds_of_day = true ↔
    (base.enabled 0 = true → encode_bcd (seconds_of_day % 60) &&& 0x7f = base.register SECONDS_COMPARE &&& 0x7f) ∧
      (base.enabled 1 = true →
        encode_bcd (seconds_of_day / 60 % 60) &&& 0x7f = base.register (SECONDS_COMPARE + 1) &&& 0x7f) ∧
      (base.enabled 2 = true → encode_hour (seconds_of_day / 3600) base.hour_mode_12 &&& Field.mask base.hour_mode_12 .Hours =
        base.register (SECONDS_COMPARE + 2) &&& Field.mask base.hour_mode_12 .Hours) := by
  simp only [alarm_time_matches, List.all_cons, List.all_nil, Bool.and_true, Bool.and_eq_true, Bool.or_eq_true,
    Bool.not_eq_true', beq_iff_eq, counter_mask_hours, Nat.add_zero, ← Bool.not_eq_true, ← imp_iff_not_or]

theorem alarm_date_matches_iff (date : CalendarDate) : base.alarm_date_matches date = true ↔
    (base.enabled 3 = true → encode_bcd date.day_of_month &&& 0x3f = base.register (SECONDS_COMPARE + 3) &&& 0x3f) ∧
      (base.enabled 4 = true → encode_bcd date.month &&& 0x1f = base.register (SECONDS_COMPARE + 4) &&& 0x1f) ∧
      (base.enabled 5 = true → encode_bcd date.day_of_week &&& 0x07 = base.register (SECONDS_COMPARE + 5) &&& 0x07) := by
  simp only [alarm_date_matches, List.all_cons, List.all_nil, Bool.and_true, Bool.and_eq_true, Bool.or_eq_true,
    Bool.not_eq_true', beq_iff_eq, ← Bool.not_eq_true, ← imp_iff_not_or]

/-- A time that matches has compare fields that decode. -/
theorem fields_valid_of_matches {seconds_of_day : Nat} (hday : seconds_of_day < SECONDS_PER_DAY)
    (h : base.alarm_time_matches seconds_of_day = true) : base.alarm_time_fields_valid = true := by
  obtain ⟨hsecond, hminute, hhour⟩ := (alarm_time_matches_iff seconds_of_day).mp h
  have hvalid {raw : U8} {value : Nat} (hvalue : value < 60) (hshown : encode_bcd value &&& 0x7f = raw &&& 0x7f) :
      (decode_bcd (raw &&& 0x7f)).any (· ≤ 59) = true := by
    rw [← hshown, encode_bcd_fits_7f (by omega), decode_encode_bcd (by omega)]
    simpa using Nat.le_of_lt_succ hvalue
  have hin_day : seconds_of_day / 3600 < 24 := by
    simp only [SECONDS_PER_DAY] at hday
    omega
  simp only [alarm_time_fields_valid, Bool.and_eq_true, Bool.or_eq_true, Bool.not_eq_true', ← Bool.not_eq_true,
    ← imp_iff_not_or]
  refine ⟨⟨fun henabled => hvalid (Nat.mod_lt _ (by decide)) (hsecond henabled), fun henabled =>
    hvalid (Nat.mod_lt _ (by decide)) (hminute henabled)⟩, fun henabled => ?_⟩
  have hdecoded := decode_encode_hour hin_day base.hour_mode_12
  rw [hhour henabled, decode_hour_masked] at hdecoded
  rw [hdecoded]
  rfl

/-- Compare fields that decode match a time of the day. -/
theorem matches_of_fields_valid (h : base.alarm_time_fields_valid = true) :
    ∃ seconds_of_day < SECONDS_PER_DAY, base.alarm_time_matches seconds_of_day = true := by
  simp only [alarm_time_fields_valid, Bool.and_eq_true, Bool.or_eq_true, Bool.not_eq_true', ← Bool.not_eq_true,
    ← imp_iff_not_or] at h
  obtain ⟨⟨hsecond, hminute⟩, hhour⟩ := h
  have hchosen {enabled : Bool} {raw : U8} (hvalid : enabled = true → (decode_bcd (raw &&& 0x7f)).any (· ≤ 59) = true) :
      ∃ value < 60, enabled = true → encode_bcd value &&& 0x7f = raw &&& 0x7f := by
    cases henabled : enabled with
    | false => exact ⟨0, by decide, fun hfalse => by simp at hfalse⟩
    | true =>
      obtain ⟨value, hdecoded, hbound⟩ : ∃ value, decode_bcd (raw &&& 0x7f) = some value ∧ value ≤ 59 := by
        simpa [Option.any_eq_true] using hvalid henabled
      refine ⟨value, Nat.lt_succ_of_le hbound, fun _ => ?_⟩
      rw [encode_decode_bcd hdecoded, BitVec.and_assoc, BitVec.and_self]
  obtain ⟨second, hsecond_lt, hsecond_shown⟩ := hchosen hsecond
  obtain ⟨minute, hminute_lt, hminute_shown⟩ := hchosen hminute
  obtain ⟨hour, hhour_lt, hhour_shown⟩ : ∃ hour < 24, base.enabled 2 = true →
      encode_hour hour base.hour_mode_12 &&& Field.mask base.hour_mode_12 .Hours =
        base.register (SECONDS_COMPARE + 2) &&& Field.mask base.hour_mode_12 .Hours := by
    cases henabled : base.enabled 2 with
    | false => exact ⟨0, by decide, fun hfalse => by simp at hfalse⟩
    | true =>
      obtain ⟨hour, hdecoded⟩ := Option.isSome_iff_exists.mp (hhour henabled)
      refine ⟨hour, decode_hour_lt hdecoded, fun _ => ?_⟩
      rw [encode_decode_hour hdecoded, BitVec.and_assoc, BitVec.and_self]
  have hsecond_of : (hour * 3600 + minute * 60 + second) % 60 = second := by omega
  have hminute_of : (hour * 3600 + minute * 60 + second) / 60 % 60 = minute := by omega
  have hhour_of : (hour * 3600 + minute * 60 + second) / 3600 = hour := by omega
  refine ⟨hour * 3600 + minute * 60 + second, ?_, (alarm_time_matches_iff _).mpr ?_⟩
  · simp only [SECONDS_PER_DAY]
    omega
  · rw [hsecond_of, hminute_of, hhour_of]
    exact ⟨hsecond_shown, hminute_shown, hhour_shown⟩

theorem alarm_time_matches_in_range_iff {lower upper : Nat} (hupper : upper < SECONDS_PER_DAY) :
    base.alarm_time_matches_in_range lower upper = true ↔
      ∃ seconds_of_day, lower ≤ seconds_of_day ∧ seconds_of_day ≤ upper ∧ base.alarm_time_matches seconds_of_day = true := by
  unfold alarm_time_matches_in_range
  constructor
  · intro h
    split at h
    · simp at h
    case isFalse hsearched =>
      simp only [gt_iff_lt, Bool.or_eq_true, decide_eq_true_eq, Bool.not_eq_true', not_or, Nat.not_lt,
        Bool.not_eq_false] at hsearched
      split at h
      case isTrue hwhole =>
        obtain ⟨seconds_of_day, hlt, hmatches⟩ := matches_of_fields_valid hsearched.2
        simp only [Bool.and_eq_true, beq_iff_eq] at hwhole
        exact ⟨seconds_of_day, by omega, by omega, hmatches⟩
      · obtain ⟨seconds_of_day, hmem, hmatches⟩ := List.any_eq_true.mp h
        have hbounds := List.mem_range'_1.mp hmem
        exact ⟨seconds_of_day, hbounds.1, by omega, hmatches⟩
  · rintro ⟨seconds_of_day, hlow, hhigh, hmatches⟩
    have hfields := fields_valid_of_matches (Nat.lt_of_le_of_lt hhigh hupper) hmatches
    rw [if_neg (by simp [hfields]; omega)]
    split
    · rfl
    · exact List.any_eq_true.mpr ⟨seconds_of_day, List.mem_range'_1.mpr ⟨hlow, by omega⟩, hmatches⟩

theorem alarm_matches_on_days_iff (first last count day : Nat) (date : CalendarDate) :
    base.alarm_matches_on_days first last count day date = true ↔
      ∃ offset < count, base.alarm_date_matches (date.advance_days offset) = true ∧
        base.alarm_time_matches_in_range (if day + offset = first / SECONDS_PER_DAY then first % SECONDS_PER_DAY else 0)
          (if day + offset = last / SECONDS_PER_DAY then last % SECONDS_PER_DAY else SECONDS_PER_DAY - 1) = true := by
  induction count generalizing day date with
  | zero => simp [alarm_matches_on_days]
  | succ count ih =>
    simp only [alarm_matches_on_days, Bool.or_eq_true, Bool.and_eq_true, ih]
    constructor
    · rintro (hfirst | ⟨offset, hlt, hlater⟩)
      · exact ⟨0, Nat.succ_pos count, hfirst⟩
      · refine ⟨offset + 1, Nat.succ_lt_succ hlt, ?_⟩
        have hday : day + (offset + 1) = day + 1 + offset := by omega
        rw [hday]
        exact hlater
    · rintro ⟨offset, hlt, hmatches⟩
      cases offset with
      | zero => exact Or.inl hmatches
      | succ offset =>
        refine Or.inr ⟨offset, Nat.lt_of_succ_lt_succ hlt, ?_⟩
        have hday : day + 1 + offset = day + (offset + 1) := by omega
        rw [hday]
        exact hmatches

/-- Whether the alarm fields match some seconds after a clock. -/
def fields_match_after (base : Counters) (clock : ClockState) (seconds : Nat) : Bool :=
  base.alarm_date_matches (clock.date.advance_days ((clock.seconds_of_day + seconds) / SECONDS_PER_DAY))
    && base.alarm_time_matches ((clock.seconds_of_day + seconds) % SECONDS_PER_DAY)

/-- The search over the days finds a match where there is one; a later cycle of the
calendar repeats the first. -/
theorem alarm_matches_in_range_iff (hvalid : clock.Valid) {first last : Nat} (hrange : first ≤ last) :
    base.alarm_matches_in_range clock first last = true ↔
      ∃ seconds, first ≤ seconds ∧ seconds ≤ last ∧ base.fields_match_after clock seconds = true := by
  have hday : 0 < SECONDS_PER_DAY := by decide
  have hcycle : 0 < CALENDAR_CYCLE_DAYS := by decide
  simp only [alarm_matches_in_range]
  generalize hstart : clock.seconds_of_day + first = start
  generalize hend : clock.seconds_of_day + last = stop
  have horder : start / SECONDS_PER_DAY ≤ stop / SECONDS_PER_DAY := Nat.div_le_div_right (by omega)
  have hdates (offset : Nat) : (clock.date.advance_days (start / SECONDS_PER_DAY % CALENDAR_CYCLE_DAYS)).advance_days offset =
      clock.date.advance_days (start / SECONDS_PER_DAY + offset) := by
    rw [CalendarDate.advance_days_mod hvalid.date, CalendarDate.advance_days_add]
  rw [alarm_matches_on_days_iff]
  simp only [hdates]
  constructor
  · rintro ⟨offset, hoffset, hdate, htime⟩
    have hupper : (if start / SECONDS_PER_DAY + offset = stop / SECONDS_PER_DAY then stop % SECONDS_PER_DAY
        else SECONDS_PER_DAY - 1) < SECONDS_PER_DAY := by
      split
      · exact Nat.mod_lt _ hday
      · omega
    obtain ⟨seconds_of_day, hlow, hhigh, hmatches⟩ := (alarm_time_matches_in_range_iff hupper).mp htime
    have hlt : seconds_of_day < SECONDS_PER_DAY := Nat.lt_of_le_of_lt hhigh hupper
    have htotal : ((start / SECONDS_PER_DAY + offset) * SECONDS_PER_DAY + seconds_of_day) / SECONDS_PER_DAY =
        start / SECONDS_PER_DAY + offset := by
      rw [Nat.mul_comm, Nat.mul_add_div hday, Nat.div_eq_of_lt hlt, Nat.add_zero]
    have hrest : ((start / SECONDS_PER_DAY + offset) * SECONDS_PER_DAY + seconds_of_day) % SECONDS_PER_DAY =
        seconds_of_day := by
      rw [Nat.mul_comm, Nat.mul_add_mod, Nat.mod_eq_of_lt hlt]
    have hlow_total : start ≤ (start / SECONDS_PER_DAY + offset) * SECONDS_PER_DAY + seconds_of_day := by
      have hsplit := Nat.div_add_mod start SECONDS_PER_DAY
      split at hlow
      all_goals
        simp only [SECONDS_PER_DAY] at *
        omega
    have hhigh_total : (start / SECONDS_PER_DAY + offset) * SECONDS_PER_DAY + seconds_of_day ≤ stop := by
      have hsplit := Nat.div_add_mod stop SECONDS_PER_DAY
      split at hhigh
      all_goals
        simp only [SECONDS_PER_DAY] at *
        omega
    refine ⟨(start / SECONDS_PER_DAY + offset) * SECONDS_PER_DAY + seconds_of_day - clock.seconds_of_day, by omega,
      by omega, ?_⟩
    have hsum : clock.seconds_of_day + ((start / SECONDS_PER_DAY + offset) * SECONDS_PER_DAY + seconds_of_day
        - clock.seconds_of_day) = (start / SECONDS_PER_DAY + offset) * SECONDS_PER_DAY + seconds_of_day := by omega
    unfold fields_match_after
    rw [hsum, htotal, hrest, hdate, hmatches]
    rfl
  · rintro ⟨seconds, hlow, hhigh, hmatches⟩
    simp only [fields_match_after, Bool.and_eq_true] at hmatches
    obtain ⟨hdate, htime⟩ := hmatches
    generalize htotal : clock.seconds_of_day + seconds = total at hdate htime
    have hfirst : start / SECONDS_PER_DAY ≤ total / SECONDS_PER_DAY := Nat.div_le_div_right (by omega)
    have hlast : total / SECONDS_PER_DAY ≤ stop / SECONDS_PER_DAY := Nat.div_le_div_right (by omega)
    have hupper (day : Nat) : (if day = stop / SECONDS_PER_DAY then stop % SECONDS_PER_DAY else SECONDS_PER_DAY - 1)
        < SECONDS_PER_DAY := by
      split
      · exact Nat.mod_lt _ hday
      · omega
    have hrest := Nat.mod_lt total hday
    by_cases hnear : total / SECONDS_PER_DAY ≤ start / SECONDS_PER_DAY + CALENDAR_CYCLE_DAYS
    · refine ⟨total / SECONDS_PER_DAY - start / SECONDS_PER_DAY, by omega, ?_⟩
      have hsame : start / SECONDS_PER_DAY + (total / SECONDS_PER_DAY - start / SECONDS_PER_DAY) =
          total / SECONDS_PER_DAY := by omega
      rw [hsame]
      refine ⟨hdate, (alarm_time_matches_in_range_iff (hupper _)).mpr ⟨total % SECONDS_PER_DAY, ?_, ?_, htime⟩⟩
      · split
        · simp only [SECONDS_PER_DAY] at *
          omega
        · exact Nat.zero_le _
      · split
        · simp only [SECONDS_PER_DAY] at *
          omega
        · omega
    · -- the same day of the first cycle after the first day, which is searched whole
      generalize hahead : total / SECONDS_PER_DAY - start / SECONDS_PER_DAY - 1 = ahead
      have hahead_lt := Nat.mod_lt ahead hcycle
      have hsame_day : clock.date.advance_days (start / SECONDS_PER_DAY + (ahead % CALENDAR_CYCLE_DAYS + 1)) =
          clock.date.advance_days (total / SECONDS_PER_DAY) := by
        have hsum : total / SECONDS_PER_DAY = start / SECONDS_PER_DAY + (ahead + 1) := by omega
        rw [hsum, ← CalendarDate.advance_days_mod hvalid.date,
          ← CalendarDate.advance_days_mod hvalid.date (start / SECONDS_PER_DAY + (ahead + 1))]
        congr 1
        simp only [CALENDAR_CYCLE_DAYS]
        omega
      refine ⟨ahead % CALENDAR_CYCLE_DAYS + 1, by omega, ?_⟩
      rw [hsame_day, if_neg (by omega), if_neg (by omega)]
      exact ⟨hdate, (alarm_time_matches_in_range_iff (by omega)).mpr
        ⟨total % SECONDS_PER_DAY, Nat.zero_le _, by omega, htime⟩⟩

/-! ## The first change of a selected field -/

theorem alarm_matches_after (seconds : Nat) : base.alarm_matches_at (clock.after_seconds seconds) =
    (base.control INTERRUPT_CONTROL_1 &&& ALARM_COMPARE_BITS != 0 && base.fields_match_after clock seconds) := by
  unfold alarm_matches_at fields_match_after
  rw [ClockState.seconds_of_day_after, Bool.and_assoc]
  rfl

theorem time_matches_congr {first second : Nat} (hsecond : base.enabled 0 = true → second % 60 = first % 60)
    (hminute : base.enabled 1 = true → second / 60 % 60 = first / 60 % 60)
    (hhour : base.enabled 2 = true → second / 3600 = first / 3600) (h : base.alarm_time_matches first = true) :
    base.alarm_time_matches second = true := by
  obtain ⟨hsecond_shown, hminute_shown, hhour_shown⟩ := (alarm_time_matches_iff first).mp h
  refine (alarm_time_matches_iff second).mpr ⟨fun henabled => ?_, fun henabled => ?_, fun henabled => ?_⟩
  · rw [hsecond henabled]
    exact hsecond_shown henabled
  · rw [hminute henabled]
    exact hminute_shown henabled
  · rw [hhour henabled]
    exact hhour_shown henabled

theorem date_matches_congr {first second : CalendarDate}
    (hday : base.enabled 3 = true → second.day_of_month = first.day_of_month)
    (hmonth : base.enabled 4 = true → second.month = first.month)
    (hweek : base.enabled 5 = true → second.day_of_week = first.day_of_week) (h : base.alarm_date_matches first = true) :
    base.alarm_date_matches second = true := by
  obtain ⟨hday_shown, hmonth_shown, hweek_shown⟩ := (alarm_date_matches_iff first).mp h
  refine (alarm_date_matches_iff second).mpr ⟨fun henabled => ?_, fun henabled => ?_, fun henabled => ?_⟩
  · rw [hday henabled]
    exact hday_shown henabled
  · rw [hmonth henabled]
    exact hmonth_shown henabled
  · rw [hweek henabled]
    exact hweek_shown henabled

/-- Days within a month. -/
theorem advance_days_within {date : CalendarDate} {days : Nat}
    (h : date.day_of_month + days ≤ days_in_month date.month date.leap_year) :
    (date.advance_days days).day_of_month = date.day_of_month + days ∧ (date.advance_days days).month = date.month ∧
      (date.advance_days days).leap_year = date.leap_year := by
  induction days with
  | zero => exact ⟨rfl, rfl, rfl⟩
  | succ days ih =>
    obtain ⟨hday, hmonth, hleap⟩ := ih (by omega)
    rw [CalendarDate.advance_days_succ]
    unfold CalendarDate.advance
    dsimp only
    rw [hday, hmonth, hleap, if_pos (by omega)]
    exact ⟨rfl, rfl, rfl⟩

/-- The day after the last of a month is in another month. -/
theorem advance_days_beyond {date : CalendarDate} (hvalid : date.Valid) :
    (date.advance_days (days_in_month date.month date.leap_year - date.day_of_month + 1)).month ≠ date.month := by
  have hday := hvalid.day_le
  have hmonth_le := hvalid.month_le
  obtain ⟨hlast, hmonth, hleap⟩ :=
    @advance_days_within date (days_in_month date.month date.leap_year - date.day_of_month) (by omega)
  rw [CalendarDate.advance_days_succ]
  unfold CalendarDate.advance
  dsimp only
  rw [hlast, hmonth, hleap, if_neg (by omega)]
  split
  · exact Nat.succ_ne_self _
  · show 1 ≠ date.month
    omega

theorem advance_changes {date : CalendarDate} (hvalid : date.Valid) :
    date.advance.day_of_month ≠ date.day_of_month ∧ date.advance.day_of_week ≠ date.day_of_week := by
  have hlong := CalendarDate.days_in_month_pos date.month date.leap_year
  have hweek_pos := hvalid.week_pos
  have hweek_le := hvalid.week_le
  unfold CalendarDate.advance
  dsimp only
  split
  · exact ⟨Nat.succ_ne_self _, by dsimp only; omega⟩
  · split
    all_goals exact ⟨by dsimp only; omega, by dsimp only; omega⟩

/-- A fine enough enable is set. -/
theorem month_enabled (h : (base.control INTERRUPT_CONTROL_1 &&& ALARM_COMPARE_BITS != 0) = true)
    (hsecond : base.enabled 0 = false) (hminute : base.enabled 1 = false) (hhour : base.enabled 2 = false)
    (hday : base.enabled 3 = false) (hweek : base.enabled 5 = false) : base.enabled 4 = true := by
  have hall : ∀ value : U8, (value &&& ALARM_COMPARE_BITS != 0) = true → (value &&& (1 <<< 0) != 0) = false →
      (value &&& (1 <<< 1) != 0) = false → (value &&& (1 <<< 2) != 0) = false → (value &&& (1 <<< 3) != 0) = false →
      (value &&& (1 <<< 5) != 0) = false → (value &&& (1 <<< 4) != 0) = true := by decide +kernel
  exact hall _ h hsecond hminute hhour hday hweek

/-- Until a selected field changes the alarm matches on, and then it does not. -/
theorem first_change (hvalid : clock.Valid) (hselected : (base.control INTERRUPT_CONTROL_1 &&& ALARM_COMPARE_BITS != 0) = true)
    (hmatches : base.fields_match_after clock 0 = true) :
    0 < base.seconds_until_selected_alarm_field_changes clock ∧
      (∀ seconds < base.seconds_until_selected_alarm_field_changes clock, base.fields_match_after clock seconds = true) ∧
      base.fields_match_after clock (base.seconds_until_selected_alarm_field_changes clock) = false := by
  have hpositive : 0 < SECONDS_PER_DAY := by decide
  have hday := hvalid.seconds_of_day_lt
  have hseconds_lt := hvalid.seconds_lt
  have hminutes_lt := hvalid.minutes_lt
  have hsecond_of : clock.seconds_of_day % 60 = clock.seconds := by
    unfold ClockState.seconds_of_day
    omega
  have hminute_of : clock.seconds_of_day / 60 % 60 = clock.minutes := by
    unfold ClockState.seconds_of_day
    omega
  have hshown {raw : U8} {first second : Nat} (hfirst : first < 60) (hsecond : second < 60)
      (hfirst_shown : encode_bcd first &&& 0x7f = raw &&& 0x7f) (hsecond_shown : encode_bcd second &&& 0x7f = raw &&& 0x7f) :
      first = second :=
    encode_bcd_injective (by omega) (by omega) (encode_bcd_fits_7f (by omega)) (encode_bcd_fits_7f (by omega))
      (hfirst_shown.trans hsecond_shown.symm)
  simp only [fields_match_after, Bool.and_eq_true, Nat.add_zero, Nat.div_eq_of_lt hday, Nat.mod_eq_of_lt hday] at hmatches
  obtain ⟨hdate, htime⟩ := hmatches
  have hdate_shown := (alarm_date_matches_iff _).mp hdate
  have htime_shown := (alarm_time_matches_iff _).mp htime
  -- within the day, only the time can change
  have hwithin {seconds : Nat} (hinside : clock.seconds_of_day + seconds < SECONDS_PER_DAY)
      (hmatches : base.alarm_time_matches (clock.seconds_of_day + seconds) = true) :
      base.fields_match_after clock seconds = true := by
    simp only [fields_match_after, Nat.div_eq_of_lt hinside, Nat.mod_eq_of_lt hinside, hmatches, Bool.and_true]
    exact hdate
  have htime_after {seconds : Nat} (h : base.fields_match_after clock seconds = true) :
      base.alarm_time_matches ((clock.seconds_of_day + seconds) % SECONDS_PER_DAY) = true := by
    simp only [fields_match_after, Bool.and_eq_true] at h
    exact h.2
  unfold seconds_until_selected_alarm_field_changes
  split
  case isTrue hsecond =>
    refine ⟨by decide, fun seconds hlt => ?_, Bool.eq_false_iff.mpr fun h => ?_⟩
    · obtain rfl : seconds = 0 := by omega
      exact hwithin (by rw [Nat.add_zero]; exact hday) (by rw [Nat.add_zero]; exact htime)
    · have hnow := ((alarm_time_matches_iff _).mp (htime_after h)).1 hsecond
      have hsame := hshown (Nat.mod_lt _ (by decide)) (Nat.mod_lt _ (by decide)) hnow (htime_shown.1 hsecond)
      simp only [SECONDS_PER_DAY] at *
      omega
  case isFalse hsecond =>
    split
    case isTrue hminute =>
      refine ⟨by omega, fun seconds hlt => ?_, Bool.eq_false_iff.mpr fun h => ?_⟩
      · refine hwithin ?_ (time_matches_congr (fun henabled => absurd henabled hsecond) (fun _ => ?_) (fun _ => ?_) htime)
        all_goals
          simp only [SECONDS_PER_DAY] at *
          omega
      · have hnow := ((alarm_time_matches_iff _).mp (htime_after h)).2.1 hminute
        have hsame := hshown (Nat.mod_lt _ (by decide)) (Nat.mod_lt _ (by decide)) hnow (htime_shown.2.1 hminute)
        simp only [SECONDS_PER_DAY] at *
        omega
    case isFalse hminute =>
      split
      case isTrue hhour =>
        refine ⟨by omega, fun seconds hlt => ?_, Bool.eq_false_iff.mpr fun h => ?_⟩
        · refine hwithin ?_ (time_matches_congr (fun henabled => absurd henabled hsecond)
            (fun henabled => absurd henabled hminute) (fun _ => ?_) htime)
          all_goals
            simp only [SECONDS_PER_DAY] at *
            omega
        · have hnow := ((alarm_time_matches_iff _).mp (htime_after h)).2.2 hhour
          have hin_day {total : Nat} (hlt : total < SECONDS_PER_DAY) : total / 3600 < 24 := by
            simp only [SECONDS_PER_DAY] at hlt
            omega
          have hdecoded := decode_encode_hour (hin_day hday) base.hour_mode_12
          have hdecoded_after := decode_encode_hour (hin_day (Nat.mod_lt
            (clock.seconds_of_day + ((60 - clock.minutes) * 60 - clock.seconds)) hpositive)) base.hour_mode_12
          rw [htime_shown.2.2 hhour] at hdecoded
          rw [hnow, hdecoded] at hdecoded_after
          have hsame := Option.some.inj hdecoded_after
          simp only [SECONDS_PER_DAY] at *
          omega
      case isFalse hhour =>
        have htimes (total : Nat) : base.alarm_time_matches total = true :=
          time_matches_congr (fun henabled => absurd henabled hsecond) (fun henabled => absurd henabled hminute)
            (fun henabled => absurd henabled hhour) htime
        split
        case isTrue hselected_day =>
          refine ⟨by omega, fun seconds hlt => hwithin (by omega) (htimes _), Bool.eq_false_iff.mpr fun h => ?_⟩
          have htotal : clock.seconds_of_day + (SECONDS_PER_DAY - clock.seconds_of_day) = SECONDS_PER_DAY := by omega
          simp only [fields_match_after, htotal, Bool.and_eq_true,
            Nat.div_self (show 0 < SECONDS_PER_DAY by decide)] at h
          have hnow := (alarm_date_matches_iff _).mp h.1
          obtain ⟨hday_changes, hweek_changes⟩ := advance_changes hvalid.date
          have hnext := hvalid.date.advance
          have hlast := hvalid.date.day_le
          have hnext_last := hnext.day_le
          have hshort_month := CalendarDate.days_in_month_le clock.date.month clock.date.leap_year
          have hshort_next := CalendarDate.days_in_month_le clock.date.advance.month clock.date.advance.leap_year
          rcases (Bool.or_eq_true _ _).mp hselected_day with henabled | henabled
          · refine hday_changes (encode_bcd_injective (by omega) (by omega) (encode_bcd_fits_3f (by omega))
              (encode_bcd_fits_3f (by omega)) ?_)
            exact (hnow.1 henabled).trans (hdate_shown.1 henabled).symm
          · have hweek := hnext.week_le
            have hweek_now := hvalid.date.week_le
            refine hweek_changes (encode_bcd_injective (by omega) (by omega) (encode_bcd_fits_07 (by omega))
              (encode_bcd_fits_07 (by omega)) ?_)
            exact (hnow.2.2 henabled).trans (hdate_shown.2.2 henabled).symm
        case isFalse hselected_day =>
          simp only [Bool.or_eq_true, not_or] at hselected_day
          have hmonth := month_enabled hselected (by simpa using hsecond) (by simpa using hminute) (by simpa using hhour)
            (by simpa using hselected_day.1) (by simpa using hselected_day.2)
          have hday_le := hvalid.date.day_le
          generalize hdays : days_in_month clock.date.month clock.date.leap_year - clock.date.day_of_month = days
          have hpos : 0 < (days + 1) * SECONDS_PER_DAY - clock.seconds_of_day := by
            simp only [SECONDS_PER_DAY] at *
            omega
          refine ⟨hpos, fun seconds hlt => ?_, Bool.eq_false_iff.mpr fun h => ?_⟩
          · have hpassed : (clock.seconds_of_day + seconds) / SECONDS_PER_DAY ≤ days := by
              have hbound : clock.seconds_of_day + seconds < (days + 1) * SECONDS_PER_DAY := by omega
              exact Nat.le_of_lt_succ ((Nat.div_lt_iff_lt_mul (by decide)).mpr hbound)
            obtain ⟨_, hsame, _⟩ := @advance_days_within clock.date
              ((clock.seconds_of_day + seconds) / SECONDS_PER_DAY) (by omega)
            have hmatches := @date_matches_congr base clock.date
              (clock.date.advance_days ((clock.seconds_of_day + seconds) / SECONDS_PER_DAY))
              (fun henabled => absurd henabled hselected_day.1) (fun _ => hsame)
              (fun henabled => absurd henabled hselected_day.2) hdate
            unfold fields_match_after
            rw [hmatches, htimes]
            rfl
          · have htotal : clock.seconds_of_day + ((days + 1) * SECONDS_PER_DAY - clock.seconds_of_day) =
                (days + 1) * SECONDS_PER_DAY := by omega
            simp only [fields_match_after, htotal, Bool.and_eq_true,
              Nat.mul_div_cancel _ (show 0 < SECONDS_PER_DAY by decide)] at h
            have hnow := ((alarm_date_matches_iff _).mp h.1).2.1 hmonth
            have hnext := hvalid.date.advance_days (days + 1)
            have hmonth_le := hnext.month_le
            have hmonth_now := hvalid.date.month_le
            have hchanges := advance_days_beyond hvalid.date
            rw [hdays] at hchanges
            refine hchanges (encode_bcd_injective (by omega) (by omega) (encode_bcd_fits_1f (by omega))
              (encode_bcd_fits_1f (by omega)) ?_)
            exact hnow.trans (hdate_shown.2.1 hmonth).symm

/-! ## The edge -/

/-- Between a time that does not match and one that does, the match rises. -/
theorem rises_between {matched : Nat → Bool} {low high : Nat} (hlow : matched low = false) (hhigh : matched high = true)
    (h : low ≤ high) : ∃ passed, low ≤ passed ∧ passed < high ∧ matched (passed + 1) = true ∧ matched passed = false := by
  induction h with
  | refl => simp [hlow] at hhigh
  | @step high hle ih =>
    cases hbefore : matched high with
    | false => exact ⟨high, hle, Nat.lt_succ_self high, hhigh, hbefore⟩
    | true =>
      obtain ⟨passed, hpassed, hlt, hrises⟩ := ih hbefore
      exact ⟨passed, hpassed, Nat.lt_succ_of_lt hlt, hrises⟩

/-- From a time that does not match on, the match rises where it holds later. -/
theorem rises_iff_matches {matched : Nat → Bool} {low seconds : Nat} (hlow : matched low = false)
    (hbefore : ∀ passed < low, matched passed = true) :
    (∃ passed < seconds, matched (passed + 1) = true ∧ matched passed = false) ↔
      ∃ passed, low + 1 ≤ passed ∧ passed ≤ seconds ∧ matched passed = true := by
  constructor
  · rintro ⟨passed, hlt, hnow, hfalse⟩
    have hle : low ≤ passed := by
      by_contra hearlier
      rw [hbefore passed (by omega)] at hfalse
      simp at hfalse
    exact ⟨passed + 1, by omega, by omega, hnow⟩
  · rintro ⟨high, hlt, hle, hnow⟩
    obtain ⟨passed, _, hbelow, hrises⟩ := rises_between hlow hnow (by omega)
    exact ⟨passed, by omega, hrises⟩

/-- The search finds the rising edge of the alarm. -/
theorem alarm_edge_during_eq (hvalid : clock.Valid) (hactive : base.alarm_match_active = base.alarm_matches_at clock)
    (seconds : Nat) : base.alarm_edge_during clock seconds = base.alarm_rises clock seconds := by
  have hzero : base.alarm_matches_at clock = base.alarm_matches_at (clock.after_seconds 0) := by
    rw [ClockState.after_seconds_zero hvalid]
  rw [Bool.eq_iff_iff, alarm_rises_iff]
  simp only [alarm_matches_after]
  rw [hzero, alarm_matches_after] at hactive
  unfold alarm_edge_during
  cases hselected : base.control INTERRUPT_CONTROL_1 &&& ALARM_COMPARE_BITS != 0 with
  | false =>
    have hnone : (base.control INTERRUPT_CONTROL_1 &&& ALARM_COMPARE_BITS == 0) = true := by simpa using hselected
    rw [hnone, Bool.or_true, if_pos rfl]
    simp
  | true =>
    have hsome : (base.control INTERRUPT_CONTROL_1 &&& ALARM_COMPARE_BITS == 0) = false := by simpa using hselected
    rw [hselected, Bool.true_and] at hactive
    simp only [hsome, Bool.or_false, Bool.true_and]
    by_cases hnow : seconds = 0
    · simp [hnow]
    · rw [if_neg (by simpa using hnow), hactive]
      cases hmatches : base.fields_match_after clock 0 with
      | false =>
        rw [if_neg (by simp), alarm_matches_in_range_iff hvalid (by omega)]
        exact (rises_iff_matches hmatches fun passed hlt => absurd hlt (Nat.not_lt_zero passed)).symm
      | true =>
        obtain ⟨hpos, hbefore, hchanged⟩ := first_change hvalid hselected hmatches
        rw [if_pos rfl, rises_iff_matches hchanged hbefore]
        split
        case isTrue hearly =>
          refine ⟨fun hfalse => by simp at hfalse, ?_⟩
          rintro ⟨passed, hlow, hhigh, _⟩
          omega
        case isFalse hlate => rw [alarm_matches_in_range_iff hvalid (by omega)]

end Counters

end se_device.dp8573a
