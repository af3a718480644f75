import SgiEmu.Device.Dp8573a.Alarm

open se_core se_core.time

namespace se_device.dp8573a

namespace Counters

variable {base rtc counters : Counters} {clock clock' : ClockState}

/-! ## Decoding -/

/-- A field that decodes is what the decoded value shows. -/
theorem blend_decoded {raw mask : U8} {value : Nat} (h : decode_bcd (raw &&& mask) = some value) :
    raw = blend mask raw (encode_bcd value) := by
  have hself := blend_self mask raw
  rw [← encode_decode_bcd h] at hself
  exact hself.symm

theorem decode_shows (h : ClockState.decode base = some clock) : Shows base clock base ∧ clock.Valid := by
  simp only [ClockState.decode, bind, Option.bind_eq_some_iff, Option.filter_eq_some_iff, decide_eq_true_eq,
    Bool.and_eq_true, Option.some.injEq] at h
  obtain ⟨hundredths, ⟨hhundredths, hhundredths_le⟩, seconds, ⟨hseconds, hseconds_le⟩, minutes, ⟨hminutes, hminutes_le⟩,
    hour, hhour, month, ⟨hmonth, hmonth_pos, hmonth_le⟩, year, hyear, day, ⟨hday, hday_pos, hday_le⟩, week,
    ⟨hweek, hweek_pos, hweek_le⟩, rfl⟩ := h
  have hhundredths : decode_bcd (base.register HUNDREDTHS &&& 0xff) = some hundredths := by
    have hones : (0xff : U8) = BitVec.allOnes 8 := by decide
    rw [hones, BitVec.and_allOnes]
    exact hhundredths
  have hyear_shown : decode_bcd (base.register YEAR &&& 0xff) = some year := by
    have hones : (0xff : U8) = BitVec.allOnes 8 := by decide
    rw [hones, BitVec.and_allOnes]
    exact hyear
  have hyear_lt : year < 100 := by
    have hall : ∀ raw : U8, (decode_bcd raw).all (· < 100) = true := by decide +kernel
    simpa [hyear] using hall (base.register YEAR)
  have hleap_lt : (base.control REAL_TIME_MODE &&& 0x03).toNat < 4 := by
    have hall : ∀ value : U8, (value &&& 0x03).toNat < 4 := by decide +kernel
    exact hall _
  refine ⟨⟨fun f => ?_, ?_, fun _ _ => rfl⟩, ⟨by dsimp only; omega, by dsimp only; omega, by dsimp only; omega,
    decode_hour_lt hhour, hday_pos, hday_le, hmonth_pos, hmonth_le, hyear_lt, hweek_pos, hweek_le, hleap_lt⟩⟩
  · cases f with
    | Hundredths => exact blend_decoded hhundredths
    | Seconds => exact blend_decoded hseconds
    | Minutes => exact blend_decoded hminutes
    | Hours =>
      have hself := blend_self (Field.mask base.hour_mode_12 .Hours) (base.register HOURS)
      rw [← encode_decode_hour hhour] at hself
      exact hself.symm
    | DayOfMonth => exact blend_decoded hday
    | Month => exact blend_decoded hmonth
    | Year => exact blend_decoded hyear_shown
    | DayOfWeek => exact blend_decoded hweek
  · have hself := blend_self 0x03 (base.control REAL_TIME_MODE)
    dsimp only
    rw [BitVec.ofNat_toNat, BitVec.setWidth_eq]
    exact hself.symm

/-! ## The offline advance of the counters -/

theorem Moved.set_bcd_counter (h : Moved base rtc clock counters) (f : Field) {mask : U8}
    (hmask : f.mask base.hour_mode_12 = mask) {value : Nat} (hcode : clock'.code base.hour_mode_12 f = encode_bcd value)
    (hsame : ∀ g, g ≠ f → clock'.code base.hour_mode_12 g = clock.code base.hour_mode_12 g)
    (hleap : clock'.date.leap_year = clock.date.leap_year) :
    Moved base rtc clock' (counters.set_bcd_counter f.index mask value) := by
  have hmoved := h.set_field f hsame hleap
  have hset : counters.set_bcd_counter f.index mask value = counters.set_register f.index
      (blend (f.mask base.hour_mode_12) (base.register f.index) (clock'.code base.hour_mode_12 f)) := by
    unfold Counters.set_bcd_counter
    rw [h.shows.field, hmask, blend_and_not, hcode]
    rfl
  rw [hset]
  exact hmoved

/-- Setting the hour, in either mode of the counter. -/
theorem Moved.set_hours (h : Moved base rtc clock counters) {hour : Nat} (hhour : hour < 24) :
    Moved base rtc { clock with hour } (if counters.hour_mode_12 then
        counters.set_register HOURS
          (counters.register HOURS &&& ~~~0x9f ||| encode_bcd (hour_12 hour).1 ||| pm_bit (hour_12 hour).2)
      else counters.set_bcd_counter HOURS 0x3f hour) := by
  have hmode := h.shows.hour_mode_12
  cases hhour_mode : base.hour_mode_12 with
  | true =>
    rw [hmode, hhour_mode, if_pos rfl]
    have hmoved := @Moved.set_field base rtc counters clock { clock with hour } h .Hours
      (fun g hg => by cases g <;> first | rfl | exact absurd rfl hg) rfl
    have hraw := h.shows.field .Hours
    have hall : ∀ hour < 24, encode_bcd (hour_12 hour).1 ||| pm_bit (hour_12 hour).2 = encode_hour hour true &&& 0x9f := by
      decide +kernel
    rw [hhour_mode] at hraw hmoved
    have hkept : counters.register HOURS &&& ~~~0x9f = base.register HOURS &&& ~~~0x9f :=
      (congrArg (· &&& ~~~0x9f) hraw).trans (blend_and_not _ _ _)
    rw [hkept, BitVec.or_assoc, hall _ hhour]
    exact hmoved
  | false =>
    rw [hmode, hhour_mode, if_neg (by simp)]
    exact @Moved.set_bcd_counter base rtc counters clock { clock with hour } h .Hours 0x3f (by rw [hhour_mode]; rfl) hour
      (by rw [hhour_mode]; rfl) (fun g hg => by cases g <;> first | rfl | exact absurd rfl hg) rfl

/-- The counters some seconds later, in closed form. -/
theorem Moved.advance_clock_seconds (h : Moved base rtc clock counters) (hvalid : clock.Valid) {start : ClockState}
    (hstart : start.seconds_of_day = clock.seconds_of_day) (seconds : Nat) :
    Moved base rtc (clock.after_seconds seconds) (counters.advance_clock_seconds start seconds) := by
  unfold Counters.advance_clock_seconds ClockState.after_seconds ClockState.at_total
  rw [hstart]
  generalize clock.seconds_of_day + seconds = total
  have hday := Nat.mod_lt total (show 0 < SECONDS_PER_DAY by decide)
  generalize htime : total % SECONDS_PER_DAY = time at hday
  have hseconds := @Moved.set_bcd_counter base rtc counters clock { clock with seconds := time % 60 } h .Seconds 0x7f rfl
    (time % 60) rfl (fun g hg => by cases g <;> first | rfl | exact absurd rfl hg) rfl
  have hminutes := @Moved.set_bcd_counter base rtc _ _ { clock with seconds := time % 60, minutes := time / 60 % 60 }
    hseconds .Minutes 0x7f rfl (time / 60 % 60) rfl (fun g hg => by cases g <;> first | rfl | exact absurd rfl hg) rfl
  have hin_day : time / 3600 < 24 := by
    simp only [SECONDS_PER_DAY] at hday
    omega
  have hhours := hminutes.set_hours hin_day
  have hmoved := hhours.advance_days hvalid.date (total / SECONDS_PER_DAY % CALENDAR_CYCLE_DAYS)
  rw [CalendarDate.advance_days_mod hvalid.date] at hmoved
  dsimp only at hmoved ⊢
  rw [htime]
  exact hmoved

/-- A clock that has ticked matches its alarm where it did before. -/
theorem Ticked.alarm_matches_at {saved edge active : Bool} {events : U8}
    (h : Ticked base clock saved edge active events rtc) (later : ClockState) :
    rtc.alarm_matches_at later = base.alarm_matches_at later := by
  have hcontrol : rtc.control INTERRUPT_CONTROL_1 = base.control INTERRUPT_CONTROL_1 := h.shows.control _ (by decide)
  have henabled (bit : Nat) : rtc.enabled bit = base.enabled bit := by
    unfold Counters.enabled
    rw [hcontrol]
  have hmode := h.shows.hour_mode_12
  have hfirst := h.compare (show 0 < 6 by decide)
  have hdate : rtc.alarm_date_matches later.date = base.alarm_date_matches later.date := by
    rw [Bool.eq_iff_iff, alarm_date_matches_iff, alarm_date_matches_iff]
    simp only [henabled, h.compare (show 3 < 6 by decide), h.compare (show 4 < 6 by decide),
      h.compare (show 5 < 6 by decide)]
  have htime : rtc.alarm_time_matches later.seconds_of_day = base.alarm_time_matches later.seconds_of_day := by
    rw [Bool.eq_iff_iff, alarm_time_matches_iff, alarm_time_matches_iff]
    rw [Nat.add_zero] at hfirst
    simp only [henabled, hmode, hfirst, h.compare (show 1 < 6 by decide), h.compare (show 2 < 6 by decide)]
  unfold Counters.alarm_matches_at
  rw [hcontrol, hdate, htime]

theorem Ticked.alarm_rises {saved edge active : Bool} {events : U8} (h : Ticked base clock saved edge active events rtc)
    (start : ClockState) (seconds : Nat) : rtc.alarm_rises start seconds = base.alarm_rises start seconds := by
  induction seconds with
  | zero => rfl
  | succ seconds ih =>
    unfold Counters.alarm_rises
    rw [ih, h.alarm_matches_at, h.alarm_matches_at]

/-! ## Offline time is time -/

theorem raise_millisecond (events : U8) :
    (rtc.raise_periodic_events events).millisecond_within_hundredth = rtc.millisecond_within_hundredth := by
  unfold raise_periodic_events
  dsimp only
  split
  all_goals rfl

/-- The seconds of an offline advance, from counters whose hundredths are set. -/
theorem Ticked.advance_offline_seconds (h : Ticked base clock false false base.alarm_match_active 0 rtc)
    (hvalid : clock.Valid) {start : ClockState} (hstart_valid : start.Valid)
    (hstart : start.seconds_of_day = clock.seconds_of_day) (hdate : start.date = clock.date)
    (hactive : base.alarm_match_active = base.alarm_matches_at start)
    (seconds : Nat) :
    (rtc.advance_offline_seconds start seconds).2.millisecond_within_hundredth = rtc.millisecond_within_hundredth ∧
      (rtc.advance_offline_seconds start seconds).1 = second_flags start seconds ∧
      Ticked base (clock.after_seconds seconds) (decide (seconds ≠ 0)) (base.alarm_rises start seconds)
        (base.alarm_matches_at (clock.after_seconds seconds)) 0 (rtc.advance_offline_seconds start seconds).2 := by
  have hsame : base.alarm_matches_at start = base.alarm_matches_at clock := by
    unfold Counters.alarm_matches_at
    rw [hdate, hstart]
  unfold Counters.advance_offline_seconds
  by_cases hzero : seconds = 0
  · rw [if_pos hzero]
    subst hzero
    rw [ClockState.after_seconds_zero hvalid, ← hsame, ← hactive]
    exact ⟨rfl, rfl, h⟩
  · rw [if_neg hzero]
    have hmoved := h.shows.moved.advance_clock_seconds hvalid hstart seconds
    have hsaved := h.save_shows hmoved
    have hmatches := hsaved.shows.current_alarm_matches (hvalid.after_seconds seconds) fun offset hoffset =>
      hsaved.compare hoffset
    have hstarted : rtc.alarm_match_active = rtc.alarm_matches_at start := by
      rw [h.alarm, h.alarm_matches_at, hactive]
    have hedge : rtc.alarm_edge_during start seconds = base.alarm_rises start seconds := by
      rw [alarm_edge_during_eq hstart_valid hstarted, h.alarm_rises]
    have hmillisecond := hmoved.frame.millisecond
    have hrecorded := hsaved.record_alarm (base.alarm_rises start seconds)
      (base.alarm_matches_at (clock.after_seconds seconds))
    have hnonzero : decide (seconds ≠ 0) = true := by simpa using hzero
    have hflags : second_flags start seconds = PERIODIC_SECOND |||
        (if crosses_cyclic_target start.seconds seconds 10 then PERIODIC_TEN_SECONDS else 0) |||
        (if crosses_cyclic_target start.seconds seconds 60 then PERIODIC_MINUTE else 0) := by
      unfold second_flags
      rw [if_neg hzero]
    dsimp only
    rw [hmatches, hedge, hnonzero, hflags]
    refine ⟨?_, rfl, hrecorded⟩
    rw [← hmillisecond]
    generalize rtc.advance_clock_seconds start seconds = moved
    have hsave : (if moved.time_save_enabled then moved.copy_all_time_save_registers else moved).millisecond_within_hundredth =
        moved.millisecond_within_hundredth := by rw [save_eq]
    rw [← hsave]
    split
    · rfl
    · rfl

/-- A clock that decodes is advanced offline as by ticking. -/
theorem advance_offline_eq (hrunning : base.running = true) (hdecode : ClockState.decode base = some clock)
    (hmillisecond : base.millisecond_within_hundredth < 10)
    (hactive : base.alarm_match_active = base.current_alarm_matches) (milliseconds : Nat) :
    base.advance_offline_milliseconds milliseconds = base.advance_milliseconds milliseconds := by
  obtain ⟨hshows, hvalid⟩ := decode_shows hdecode
  have hmatches := hshows.current_alarm_matches hvalid fun _ _ => rfl
  rw [hmatches] at hactive
  obtain ⟨hcounted, hticked⟩ := advance_milliseconds_ticked hshows hvalid hmillisecond hactive milliseconds
  unfold advance_offline_milliseconds
  by_cases hzero : milliseconds = 0
  · rw [if_pos (by simp [hzero]), hzero]
    rfl
  · rw [if_neg (by simp [hzero, hrunning]), hdecode]
    have hstart := hshows.ticked.set_millisecond ((base.millisecond_within_hundredth + milliseconds) % 10)
    have hlt := hvalid.hundredths_lt
    dsimp only
    generalize hsteps : (base.millisecond_within_hundredth + milliseconds) / 10 = steps at *
    have hflags : millisecond_flags clock base.millisecond_within_hundredth milliseconds =
        PERIODIC_MILLISECOND ||| hundredth_flags clock steps := by
      unfold millisecond_flags
      rw [if_neg hzero, hsteps]
    by_cases hnone : steps = 0
    · rw [if_pos hnone]
      subst hnone
      rw [Nat.add_zero, Nat.div_eq_of_lt hlt, ClockState.after_zero hvalid, ClockState.after_seconds_zero hvalid,
        ← hactive, hflags] at hticked
      have hraised := hstart.raise PERIODIC_MILLISECOND
      rw [BitVec.or_comm] at hraised
      refine Ticked.unique hraised hticked ?_
      rw [raise_millisecond, hcounted]
    · rw [if_neg hnone]
      have hset := @Moved.set_bcd_counter base _ _ clock { clock with hundredths := (clock.hundredths + steps) % 100 }
        hstart.shows.moved .Hundredths 0xff rfl ((clock.hundredths + steps) % 100) rfl
        (fun g hg => by cases g <;> first | rfl | exact absurd rfl hg) rfl
      have hhundredths := hstart.moved hset fun f hf => by cases f <;> first | rfl | exact absurd rfl hf
      have hset_valid : ClockState.Valid { clock with hundredths := (clock.hundredths + steps) % 100 } :=
        ⟨Nat.mod_lt _ (Nat.succ_pos 99), hvalid.seconds_lt, hvalid.minutes_lt, hvalid.hour_lt, hvalid.date⟩
      obtain ⟨hkept, hevents, hseconds⟩ :=
        hhundredths.advance_offline_seconds hset_valid hvalid rfl rfl hactive ((clock.hundredths + steps) / 100)
      simp only [Field.index] at hkept hevents hseconds
      have hraised := hseconds.raise (PERIODIC_MILLISECOND ||| PERIODIC_TEN_MILLISECONDS |||
        (if crosses_cyclic_target clock.hundredths steps 10 then PERIODIC_HUNDRED_MILLISECONDS else 0) |||
        second_flags clock ((clock.hundredths + steps) / 100))
      rw [← hevents] at hraised
      have hall : 0 ||| (PERIODIC_MILLISECOND ||| PERIODIC_TEN_MILLISECONDS |||
          (if crosses_cyclic_target clock.hundredths steps 10 then PERIODIC_HUNDRED_MILLISECONDS else 0) |||
          second_flags clock ((clock.hundredths + steps) / 100)) =
          millisecond_flags clock base.millisecond_within_hundredth milliseconds := by
        rw [hflags, hundredth_flags, if_neg hnone]
        simp only [BitVec.ofNat_eq_ofNat, BitVec.zero_or, BitVec.or_assoc]
      rw [hevents, hall] at hraised
      rw [hevents]
      refine Ticked.unique hraised hticked ?_
      rw [raise_millisecond]
      exact (hkept.trans hset.frame.millisecond).trans hcounted.symm

end Counters

end se_device.dp8573a
