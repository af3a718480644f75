import SgiEmu.Device.Dp8573a.Tick

open se_core

namespace se_device.dp8573a

namespace Counters

variable {base rtc counters : Counters} {clock clock' : ClockState}

/-! ## The alarm of a clock -/

/-- Whether the alarm comparison holds at a clock. -/
def alarm_matches_at (base : Counters) (clock : ClockState) : Bool :=
  base.control INTERRUPT_CONTROL_1 &&& ALARM_COMPARE_BITS != 0 && base.alarm_date_matches clock.date
    && base.alarm_time_matches clock.seconds_of_day

theorem Shows.counter_mask (h : Shows base clock rtc) (register : Nat) :
    rtc.counter_mask register = base.counter_mask register := by
  unfold Counters.counter_mask
  rw [h.hour_mode_12]

theorem Shows.masked (h : Shows base clock rtc) (f : Field) {mask : U8} (hmask : f.mask base.hour_mode_12 = mask) :
    rtc.register f.index &&& mask = clock.code base.hour_mode_12 f &&& mask := by
  rw [h.field, hmask, blend_and]

/-- The registers match the alarm where their clock does. -/
theorem Shows.current_alarm_matches (h : Shows base clock rtc) (hvalid : clock.Valid)
    (hcompare : ∀ offset < 6, rtc.register (SECONDS_COMPARE + offset) = base.register (SECONDS_COMPARE + offset)) :
    rtc.current_alarm_matches = base.alarm_matches_at clock := by
  obtain ⟨_, hseconds, hminutes, hhour, _⟩ := hvalid
  have hcontrol : rtc.control INTERRUPT_CONTROL_1 = base.control INTERRUPT_CONTROL_1 := h.control _ (by decide)
  have henabled (bit : Nat) (hbit : (ALARM_COMPARE_BITS &&& (1 <<< bit) : U8) = 1 <<< bit) :
      (base.control INTERRUPT_CONTROL_1 &&& ALARM_COMPARE_BITS &&& (1 <<< bit) == 0) = !base.enabled bit := by
    unfold enabled
    rw [BitVec.and_assoc, hbit]
    simp [bne]
  have hsecond_of : clock.seconds_of_day % 60 = clock.seconds := by
    unfold ClockState.seconds_of_day
    omega
  have hminute_of : clock.seconds_of_day / 60 % 60 = clock.minutes := by
    unfold ClockState.seconds_of_day
    omega
  have hhour_of : clock.seconds_of_day / 3600 = clock.hour := by
    unfold ClockState.seconds_of_day
    omega
  have hhours_mask : base.counter_mask HOURS = Field.mask base.hour_mode_12 .Hours := by
    unfold Counters.counter_mask Field.mask
    cases base.hour_mode_12 <;> rfl
  -- the masks of the compared counters, and what the counters show under them
  have hmask_second : rtc.counter_mask (SECONDS + 0) = 0x7f := rfl
  have hmask_minute : rtc.counter_mask (SECONDS + 1) = 0x7f := rfl
  have hmask_hour : rtc.counter_mask (SECONDS + 2) = base.counter_mask HOURS := h.counter_mask HOURS
  have hmask_day : rtc.counter_mask (SECONDS + 3) = 0x3f := by simp [Counters.counter_mask, SECONDS, MINUTES, HOURS, DAY_OF_MONTH]
  have hmask_month : rtc.counter_mask (SECONDS + 4) = 0x1f := by
    simp [Counters.counter_mask, SECONDS, MINUTES, HOURS, DAY_OF_MONTH, MONTH]
  have hmask_week : rtc.counter_mask DAY_OF_WEEK = 0x07 := by
    simp [Counters.counter_mask, SECONDS, MINUTES, HOURS, DAY_OF_MONTH, MONTH, DAY_OF_WEEK]
  have hsecond : rtc.register (SECONDS + 0) &&& 0x7f = encode_bcd clock.seconds &&& 0x7f := h.masked .Seconds rfl
  have hminute : rtc.register (SECONDS + 1) &&& 0x7f = encode_bcd clock.minutes &&& 0x7f := h.masked .Minutes rfl
  have hhour_shown : rtc.register (SECONDS + 2) &&& base.counter_mask HOURS =
      encode_hour clock.hour base.hour_mode_12 &&& base.counter_mask HOURS := h.masked .Hours hhours_mask.symm
  have hday : rtc.register (SECONDS + 3) &&& 0x3f = encode_bcd clock.date.day_of_month &&& 0x3f := h.masked .DayOfMonth rfl
  have hmonth : rtc.register (SECONDS + 4) &&& 0x1f = encode_bcd clock.date.month &&& 0x1f := h.masked .Month rfl
  have hweek : rtc.register DAY_OF_WEEK &&& 0x07 = encode_bcd clock.date.day_of_week &&& 0x07 := h.masked .DayOfWeek rfl
  have hrange : List.range 6 = [0, 1, 2, 3, 4, 5] := rfl
  unfold Counters.current_alarm_matches alarm_matches_at alarm_date_matches alarm_time_matches
  simp only [hcontrol, hrange, List.all_cons, List.all_nil, Bool.and_true, hsecond_of, hminute_of, hhour_of,
    henabled 0 (by decide), henabled 1 (by decide), henabled 2 (by decide), henabled 3 (by decide),
    henabled 4 (by decide), henabled 5 (by decide), if_neg (show ¬(0 = 5) by decide), if_neg (show ¬(1 = 5) by decide),
    if_neg (show ¬(2 = 5) by decide), if_neg (show ¬(3 = 5) by decide), if_neg (show ¬(4 = 5) by decide), if_true,
    hmask_second, hmask_minute, hmask_hour, hmask_day, hmask_month, hmask_week, hsecond, hminute, hhour_shown, hday,
    hmonth, hweek, hcompare 0 (by decide), hcompare 1 (by decide), hcompare 2 (by decide), hcompare 3 (by decide),
    hcompare 4 (by decide), hcompare 5 (by decide)]
  ac_rfl

/-! ## Time saves -/

/-- A fold of time-save copies writes the registers of its sources, and only these. -/
theorem register_copy_fold (sources : List Nat) (hsources : ∀ source ∈ sources, SECONDS ≤ source ∧ source ≤ MONTH)
    (hnodup : sources.Nodup) (index : Nat) :
    (sources.foldl (fun rtc source => rtc.copy_time_save (source - SECONDS + SECONDS_SAVE) source) rtc).register index =
      if SECONDS_SAVE ≤ index ∧ index - SECONDS_SAVE + SECONDS ∈ sources then
        blend (rtc.counter_mask (index - SECONDS_SAVE + SECONDS)) (rtc.register index)
          (rtc.register (index - SECONDS_SAVE + SECONDS))
      else rtc.register index := by
  induction sources generalizing rtc with
  | nil => simp
  | cons source sources ih =>
    obtain ⟨hnotin, hrest⟩ := List.nodup_cons.mp hnodup
    obtain ⟨hlow, hhigh⟩ := hsources source List.mem_cons_self
    have hdestination : source - SECONDS + SECONDS_SAVE < REGISTER_COUNT := by
      simp only [SECONDS, SECONDS_SAVE, MONTH, REGISTER_COUNT] at *
      omega
    have hmask (register : Nat) :
        (rtc.copy_time_save (source - SECONDS + SECONDS_SAVE) source).counter_mask register = rtc.counter_mask register := rfl
    have hother {index : Nat} (hindex : index ≠ source - SECONDS + SECONDS_SAVE) :
        (rtc.copy_time_save (source - SECONDS + SECONDS_SAVE) source).register index = rtc.register index :=
      register_set_other (Ne.symm hindex) _
    rw [List.foldl_cons, ih (fun other hmem => hsources other (List.mem_cons_of_mem _ hmem)) hrest, hmask]
    by_cases hindex : index = source - SECONDS + SECONDS_SAVE
    · have hsource : index - SECONDS_SAVE + SECONDS = source := by
        simp only [SECONDS, SECONDS_SAVE] at *
        omega
      have hsave : SECONDS_SAVE ≤ index := by
        simp only [SECONDS, SECONDS_SAVE] at *
        omega
      rw [hsource, if_neg (fun hboth => hnotin hboth.2), if_pos ⟨hsave, List.mem_cons_self⟩, hindex]
      exact register_set_self hdestination _
    · rw [hother hindex]
      by_cases hsaved : SECONDS_SAVE ≤ index ∧ index - SECONDS_SAVE + SECONDS ∈ sources
      · have hcounter : index - SECONDS_SAVE + SECONDS ≠ source - SECONDS + SECONDS_SAVE := by
          have hbound := hsources _ (List.mem_cons_of_mem _ hsaved.2)
          simp only [SECONDS, SECONDS_SAVE, MONTH] at *
          omega
        rw [if_pos hsaved, if_pos ⟨hsaved.1, List.mem_cons_of_mem _ hsaved.2⟩, hother hcounter]
      · rw [if_neg hsaved, if_neg]
        rintro ⟨hsave, hmem⟩
        rcases List.mem_cons.mp hmem with heq | hmem
        · refine hindex ?_
          simp only [SECONDS, SECONDS_SAVE] at *
          omega
        · exact hsaved ⟨hsave, hmem⟩

theorem register_copy_all (index : Nat) : rtc.copy_all_time_save_registers.register index =
    if SECONDS_SAVE ≤ index ∧ index ≤ MONTH_SAVE then
      blend (rtc.counter_mask (index - SECONDS_SAVE + SECONDS)) (rtc.register index)
        (rtc.register (index - SECONDS_SAVE + SECONDS))
    else rtc.register index := by
  have hbounds : ∀ source ∈ List.range' SECONDS (MONTH - SECONDS + 1), SECONDS ≤ source ∧ source ≤ MONTH := by decide
  unfold copy_all_time_save_registers
  rw [register_copy_fold _ hbounds (by decide)]
  refine if_congr ⟨?_, ?_⟩ rfl rfl
  · rintro ⟨hsave, hmem⟩
    have hbound := hbounds _ hmem
    simp only [SECONDS, SECONDS_SAVE, MONTH, MONTH_SAVE] at *
    omega
  · rintro ⟨hsave, hlast⟩
    refine ⟨hsave, List.mem_range'_1.mpr ?_⟩
    simp only [SECONDS, SECONDS_SAVE, MONTH, MONTH_SAVE] at *
    omega

/-- Copying time saves changes registers only. -/
theorem copy_fold_eq (sources : List Nat) :
    sources.foldl (fun rtc source => rtc.copy_time_save (source - SECONDS + SECONDS_SAVE) source) rtc =
      { rtc with registers :=
        (sources.foldl (fun rtc source => rtc.copy_time_save (source - SECONDS + SECONDS_SAVE) source) rtc).registers } := by
  induction sources generalizing rtc with
  | nil => rfl
  | cons source sources ih =>
    rw [List.foldl_cons, ih]
    rfl

theorem copy_all_eq : rtc.copy_all_time_save_registers =
    { rtc with registers := rtc.copy_all_time_save_registers.registers } := copy_fold_eq _

/-! ## A clock that has ticked -/

/-- `base` at a later clock: whether seconds have passed and so saved the time,
whether the alarm has risen, whether it holds, and the periodic events so far. -/
structure Ticked (base : Counters) (clock : ClockState) (saved edge active : Bool) (events : U8) (rtc : Counters) : Prop where
  shows : Shows base clock rtc
  saves : ∀ index, SECONDS_SAVE ≤ index → index ≤ MONTH_SAVE → rtc.register index =
    if saved && base.time_save_enabled then
      blend (base.counter_mask (index - SECONDS_SAVE + SECONDS)) (base.register index)
        (rtc.register (index - SECONDS_SAVE + SECONDS))
    else base.register index
  status : rtc.register MAIN_STATUS = base.register MAIN_STATUS ||| (if edge then ALARM_PENDING else 0)
    ||| (if events &&& base.control INTERRUPT_CONTROL_0 != 0 then PERIODIC_PENDING else 0)
  flag : rtc.register PERIODIC_FLAG = base.register PERIODIC_FLAG ||| events
  register : ∀ index, index ≠ MAIN_STATUS → index ≠ PERIODIC_FLAG → ¬(SECONDS_SAVE ≤ index ∧ index ≤ MONTH_SAVE) →
    (∀ f : Field, f.index ≠ index) → rtc.register index = base.register index
  oscillator : rtc.oscillator_failed = base.oscillator_failed
  supply : rtc.single_supply = base.single_supply
  alarm : rtc.alarm_match_active = active

variable {saved edge active : Bool} {events : U8}

theorem ext_registers {first second : Counters} (hregister : ∀ index, first.register index = second.register index)
    (hcontrol : ∀ index, first.control index = second.control index)
    (hmillisecond : first.millisecond_within_hundredth = second.millisecond_within_hundredth)
    (hoscillator : first.oscillator_failed = second.oscillator_failed) (hsupply : first.single_supply = second.single_supply)
    (halarm : first.alarm_match_active = second.alarm_match_active) : first = second := by
  obtain ⟨registers, controls, millisecond, oscillator, supply, alarm⟩ := first
  obtain ⟨registers', controls', millisecond', oscillator', supply', alarm'⟩ := second
  have hregisters : registers = registers' := by
    refine Vector.ext fun i hi => ?_
    simpa [Counters.register, hi] using hregister i
  have hcontrols : controls = controls' := by
    refine Vector.ext fun i hi => ?_
    simpa [Counters.control, hi] using hcontrol i
  simp only at hmillisecond hoscillator hsupply halarm
  subst hregisters hcontrols hmillisecond hoscillator hsupply halarm
  rfl

/-- The field a time save copies. -/
theorem save_field {index : Nat} (hfirst : SECONDS_SAVE ≤ index) (hlast : index ≤ MONTH_SAVE) :
    ∃ f : Field, f ≠ .Hundredths ∧ f.index = index - SECONDS_SAVE + SECONDS := by
  have hall : ∀ index < 32, SECONDS_SAVE ≤ index → index ≤ MONTH_SAVE →
      [Field.Seconds, .Minutes, .Hours, .DayOfMonth, .Month].any (fun f => f.index == index - SECONDS_SAVE + SECONDS) := by
    decide
  have hbound : index < 32 := by
    simp only [MONTH_SAVE] at hlast
    omega
  obtain ⟨f, hmem, hindex⟩ := List.any_eq_true.mp (hall index hbound hfirst hlast)
  refine ⟨f, ?_, by simpa using hindex⟩
  rintro rfl
  simp at hmem

/-- A clock that has ticked is what it shows. -/
theorem Ticked.unique {first second : Counters} (h : Ticked base clock saved edge active events first)
    (hother : Ticked base clock saved edge active events second)
    (hmillisecond : first.millisecond_within_hundredth = second.millisecond_within_hundredth) : first = second := by
  have hfields (f : Field) : first.register f.index = second.register f.index :=
    (h.shows.field f).trans (hother.shows.field f).symm
  refine ext_registers (fun index => ?_) (fun index => ?_) hmillisecond (h.oscillator.trans hother.oscillator.symm)
    (h.supply.trans hother.supply.symm) (h.alarm.trans hother.alarm.symm)
  · by_cases hstatus : index = MAIN_STATUS
    · rw [hstatus, h.status, hother.status]
    by_cases hflag : index = PERIODIC_FLAG
    · rw [hflag, h.flag, hother.flag]
    by_cases hsave : SECONDS_SAVE ≤ index ∧ index ≤ MONTH_SAVE
    · obtain ⟨f, _, hindex⟩ := save_field hsave.1 hsave.2
      rw [h.saves index hsave.1 hsave.2, hother.saves index hsave.1 hsave.2, ← hindex, hfields f]
    by_cases hfield : ∃ f : Field, f.index = index
    · obtain ⟨f, rfl⟩ := hfield
      exact hfields f
    · have hnone (f : Field) : f.index ≠ index := fun heq => hfield ⟨f, heq⟩
      rw [h.register index hstatus hflag hsave hnone, hother.register index hstatus hflag hsave hnone]
  · by_cases hmode : index = REAL_TIME_MODE
    · rw [hmode, h.shows.mode, hother.shows.mode]
    · rw [h.shows.control index hmode, hother.shows.control index hmode]

theorem field_ne_status (f : Field) : f.index ≠ MAIN_STATUS := by cases f <;> decide

theorem field_ne_flag (f : Field) : f.index ≠ PERIODIC_FLAG := by cases f <;> decide

theorem field_ne_save {index : Nat} (h : SECONDS_SAVE ≤ index) (f : Field) : f.index ≠ index := by
  simp only [SECONDS_SAVE] at h
  cases f <;> simp only [Field.index, HUNDREDTHS, SECONDS, MINUTES, HOURS, DAY_OF_MONTH, MONTH, YEAR, DAY_OF_WEEK] <;> omega

/-- Raising events adds them to those raised before. -/
theorem Ticked.raise (h : Ticked base clock saved edge active events rtc) (raised : U8) :
    Ticked base clock saved edge active (events ||| raised) (rtc.raise_periodic_events raised) := by
  have hcontrol : rtc.control INTERRUPT_CONTROL_0 = base.control INTERRUPT_CONTROL_0 := h.shows.control _ (by decide)
  have heq : rtc.raise_periodic_events raised = (if raised &&& base.control INTERRUPT_CONTROL_0 != 0 then
      (rtc.set_register PERIODIC_FLAG (rtc.register PERIODIC_FLAG ||| raised)).set_register MAIN_STATUS
        (rtc.register MAIN_STATUS ||| PERIODIC_PENDING)
      else rtc.set_register PERIODIC_FLAG (rtc.register PERIODIC_FLAG ||| raised)) := by
    simp only [raise_periodic_events]
    rw [← hcontrol, register_set_other (show PERIODIC_FLAG ≠ MAIN_STATUS by decide)]
    rfl
  rw [heq]
  have hother {index : Nat} (hstatus : index ≠ MAIN_STATUS) (hflag : index ≠ PERIODIC_FLAG) :
      (if raised &&& base.control INTERRUPT_CONTROL_0 != 0 then
        (rtc.set_register PERIODIC_FLAG (rtc.register PERIODIC_FLAG ||| raised)).set_register MAIN_STATUS
          (rtc.register MAIN_STATUS ||| PERIODIC_PENDING)
        else rtc.set_register PERIODIC_FLAG (rtc.register PERIODIC_FLAG ||| raised)).register index = rtc.register index := by
    split
    · rw [register_set_other (Ne.symm hstatus), register_set_other (Ne.symm hflag)]
    · rw [register_set_other (Ne.symm hflag)]
  have hpending : ((events ||| raised) &&& base.control INTERRUPT_CONTROL_0 != 0) =
      (events &&& base.control INTERRUPT_CONTROL_0 != 0 || raised &&& base.control INTERRUPT_CONTROL_0 != 0) := by
    rw [BitVec.and_or_distrib_right, Bool.eq_iff_iff]
    simp only [bne_iff_ne, Bool.or_eq_true, ne_eq]
    exact (not_congr BitVec.or_eq_zero_iff).trans not_and_or
  refine ⟨⟨fun f => ?_, ?_, fun index hindex => ?_⟩, fun index hfirst hlast => ?_, ?_, ?_,
    fun index hstatus hflag hsave hfield => ?_, ?_, ?_, ?_⟩
  · rw [hother (field_ne_status f) (field_ne_flag f)]
    exact h.shows.field f
  · rw [← h.shows.mode]
    split
    all_goals rfl
  · rw [← h.shows.control index hindex]
    split
    all_goals rfl
  · have hsave := h.saves index hfirst hlast
    obtain ⟨f, _, hindex⟩ := save_field hfirst hlast
    rw [← hindex] at hsave ⊢
    rw [hother (field_ne_status f) (field_ne_flag f), hother, hsave]
    all_goals
      simp only [SECONDS_SAVE, MAIN_STATUS, PERIODIC_FLAG] at *
      omega
  · rw [hpending]
    cases hraised : raised &&& base.control INTERRUPT_CONTROL_0 != 0 with
    | true =>
      rw [if_pos rfl, register_set_self (by decide), h.status]
      cases events &&& base.control INTERRUPT_CONTROL_0 != 0 with
      | true => simp [BitVec.or_assoc]
      | false => simp
    | false =>
      rw [if_neg (by simp), register_set_other (show PERIODIC_FLAG ≠ MAIN_STATUS by decide), h.status, Bool.or_false]
  · rw [← BitVec.or_assoc, ← h.flag]
    split
    · rw [register_set_other (show MAIN_STATUS ≠ PERIODIC_FLAG by decide), register_set_self (by decide)]
    · rw [register_set_self (by decide)]
  · rw [hother hstatus hflag]
    exact h.register index hstatus hflag hsave hfield
  · rw [← h.oscillator]
    split
    all_goals rfl
  · rw [← h.supply]
    split
    all_goals rfl
  · rw [← h.alarm]
    split
    all_goals rfl

/-- Counters below the second move on without saving the time. -/
theorem Ticked.moved (h : Ticked base clock saved edge active events rtc) {next : Counters}
    (hmoved : Moved base rtc clock' next)
    (hsame : ∀ f, f ≠ .Hundredths → clock'.code base.hour_mode_12 f = clock.code base.hour_mode_12 f) :
    Ticked base clock' saved edge active events next := by
  refine ⟨hmoved.shows, fun index hfirst hlast => ?_, ?_, ?_, fun index hstatus hflag hsave hfield => ?_,
    hmoved.frame.oscillator.trans h.oscillator, hmoved.frame.supply.trans h.supply, hmoved.frame.alarm.trans h.alarm⟩
  · obtain ⟨f, hseconds, hindex⟩ := save_field hfirst hlast
    have hsave := h.saves index hfirst hlast
    rw [← hindex, h.shows.field, ← hsame f hseconds, ← hmoved.shows.field] at hsave
    rw [hmoved.frame.register index (field_ne_save hfirst), hsave, hindex]
  · rw [hmoved.frame.register _ field_ne_status, h.status]
  · rw [hmoved.frame.register _ field_ne_flag, h.flag]
  · rw [hmoved.frame.register index hfield, h.register index hstatus hflag hsave hfield]

theorem Ticked.set_millisecond (h : Ticked base clock saved edge active events rtc) (millisecond : Nat) :
    Ticked base clock saved edge active events { rtc with millisecond_within_hundredth := millisecond } :=
  ⟨⟨h.shows.field, h.shows.mode, h.shows.control⟩, h.saves, h.status, h.flag, h.register, h.oscillator, h.supply, h.alarm⟩

/-! ## Ending a second -/

theorem register_save (index : Nat) :
    (if rtc.time_save_enabled then rtc.copy_all_time_save_registers else rtc).register index =
      if rtc.time_save_enabled = true ∧ SECONDS_SAVE ≤ index ∧ index ≤ MONTH_SAVE then
        blend (rtc.counter_mask (index - SECONDS_SAVE + SECONDS)) (rtc.register index)
          (rtc.register (index - SECONDS_SAVE + SECONDS))
      else rtc.register index := by
  by_cases henabled : rtc.time_save_enabled = true
  · rw [if_pos henabled, register_copy_all]
    exact if_congr ⟨fun h => ⟨henabled, h⟩, fun h => h.2⟩ rfl rfl
  · rw [if_neg henabled, if_neg fun h => henabled h.1]

theorem save_eq : (if rtc.time_save_enabled then rtc.copy_all_time_save_registers else rtc) =
    { rtc with registers := (if rtc.time_save_enabled then rtc.copy_all_time_save_registers else rtc).registers } := by
  split
  · exact copy_all_eq
  · rfl

theorem blend_blend (mask old first second : U8) : blend mask (blend mask old first) second = blend mask old second := by
  rw [blend, blend_and_not]
  rfl

section Second

variable {moved : Counters}

/-- The time-save registers after a second. -/
theorem Ticked.save_shows (h : Ticked base clock saved edge active events rtc) (hmoved : Moved base rtc clock' moved) :
    Ticked base clock' true edge active events
      (if moved.time_save_enabled then moved.copy_all_time_save_registers else moved) := by
  have henabled : moved.time_save_enabled = base.time_save_enabled := by
    unfold time_save_enabled
    rw [hmoved.frame.register TIME_SAVE_CONTROL fun f => by cases f <;> decide]
    rw [h.register TIME_SAVE_CONTROL (by decide) (by decide) (by decide) fun f => by cases f <;> decide]
  have hinside {index : Nat} (hindex : ¬(SECONDS_SAVE ≤ index ∧ index ≤ MONTH_SAVE)) :
      (if moved.time_save_enabled then moved.copy_all_time_save_registers else moved).register index =
        moved.register index := by
    rw [register_save, if_neg fun hboth => hindex hboth.2]
  have hfield (f : Field) : (if moved.time_save_enabled then moved.copy_all_time_save_registers else moved).register f.index =
      moved.register f.index := hinside fun hboth => field_ne_save hboth.1 f rfl
  refine ⟨⟨fun f => ?_, ?_, fun index hindex => ?_⟩, fun index hfirst hlast => ?_, ?_, ?_,
    fun index hstatus hflag hsave hindex => ?_, ?_, ?_, ?_⟩
  · rw [hfield]
    exact hmoved.shows.field f
  · rw [save_eq]
    exact hmoved.shows.mode
  · rw [save_eq]
    exact hmoved.shows.control index hindex
  · obtain ⟨f, _, hcounter⟩ := save_field hfirst hlast
    have hkept := hmoved.frame.register index (field_ne_save hfirst)
    have hsaved := h.saves index hfirst hlast
    rw [← hcounter] at hsaved ⊢
    rw [hfield, Bool.true_and, register_save, henabled, ← hcounter, hmoved.shows.counter_mask]
    cases hmode : base.time_save_enabled with
    | true =>
      rw [if_pos ⟨rfl, hfirst, hlast⟩, if_pos rfl, hkept, hsaved]
      split
      · exact blend_blend _ _ _ _
      · rfl
    | false =>
      rw [if_neg (by simp), if_neg (by simp), hkept, hsaved, hmode, Bool.and_false, if_neg (by simp)]
  · rw [hinside (by decide), hmoved.frame.register _ field_ne_status, h.status]
  · rw [hinside (by decide), hmoved.frame.register _ field_ne_flag, h.flag]
  · rw [hinside hsave, hmoved.frame.register index hindex, h.register index hstatus hflag hsave hindex]
  · rw [save_eq]
    exact hmoved.frame.oscillator.trans h.oscillator
  · rw [save_eq]
    exact hmoved.frame.supply.trans h.supply
  · rw [save_eq]
    exact hmoved.frame.alarm.trans h.alarm

theorem or_again (old flag other : U8) : old ||| flag ||| other ||| flag = old ||| flag ||| other := by
  ext i hi
  simp only [BitVec.getElem_or]
  cases old[i] <;> cases flag[i] <;> cases other[i] <;> rfl

theorem or_late (old flag other : U8) : old ||| 0 ||| other ||| flag = old ||| flag ||| other := by
  ext i hi
  simp only [BitVec.getElem_or, BitVec.ofNat_eq_ofNat, BitVec.getElem_zero, Bool.or_false]
  cases old[i] <;> cases flag[i] <;> cases other[i] <;> rfl

/-- Recording what the alarm does. -/
theorem Ticked.record_alarm (h : Ticked base clock saved edge active events rtc) (risen matched : Bool) :
    Ticked base clock saved (edge || risen) matched events
      { (if risen then rtc.set_register MAIN_STATUS (rtc.register MAIN_STATUS ||| ALARM_PENDING) else rtc) with
        alarm_match_active := matched } := by
  have hother {index : Nat} (hindex : index ≠ MAIN_STATUS) :
      (if risen then rtc.set_register MAIN_STATUS (rtc.register MAIN_STATUS ||| ALARM_PENDING) else rtc).register index =
        rtc.register index := by
    split
    · exact register_set_other (Ne.symm hindex) _
    · rfl
  refine ⟨⟨fun f => ?_, ?_, fun index hindex => ?_⟩, fun index hfirst hlast => ?_, ?_, ?_,
    fun index hstatus hflag hsave hindex => ?_, ?_, ?_, rfl⟩
  · exact (hother (field_ne_status f)).trans (h.shows.field f)
  · rw [← h.shows.mode]
    cases risen <;> rfl
  · rw [← h.shows.control index hindex]
    cases risen <;> rfl
  · obtain ⟨f, _, hcounter⟩ := save_field hfirst hlast
    have hsaved := h.saves index hfirst hlast
    have hsave_register := @hother index (by
      simp only [SECONDS_SAVE, MAIN_STATUS] at *
      omega)
    rw [← hcounter] at hsaved ⊢
    refine hsave_register.trans (hsaved.trans ?_)
    rw [← hother (field_ne_status f)]
    rfl
  · cases risen with
    | true =>
      have hset : (rtc.set_register MAIN_STATUS (rtc.register MAIN_STATUS ||| ALARM_PENDING)).register MAIN_STATUS =
          rtc.register MAIN_STATUS ||| ALARM_PENDING := register_set_self (by decide) _
      refine hset.trans ?_
      rw [h.status, Bool.or_true, if_pos rfl]
      cases edge with
      | true =>
        exact or_again _ _ _
      | false =>
        exact or_late _ _ _
    | false =>
      rw [Bool.or_false]
      exact h.status
  · exact (hother (by decide)).trans h.flag
  · exact (hother hstatus).trans (h.register index hstatus hflag hsave hindex)
  · rw [← h.oscillator]
    cases risen <;> rfl
  · rw [← h.supply]
    cases risen <;> rfl

/-- Compare registers stay. -/
theorem Ticked.compare (h : Ticked base clock saved edge active events rtc) {offset : Nat} (hoffset : offset < 6) :
    rtc.register (SECONDS_COMPARE + offset) = base.register (SECONDS_COMPARE + offset) := by
  have hall : ∀ offset < 6, SECONDS_COMPARE + offset ≠ MAIN_STATUS ∧ SECONDS_COMPARE + offset ≠ PERIODIC_FLAG ∧
      ¬(SECONDS_SAVE ≤ SECONDS_COMPARE + offset ∧ SECONDS_COMPARE + offset ≤ MONTH_SAVE) := by decide
  have hfields : ∀ offset < 6, ∀ f : Field, f.index ≠ SECONDS_COMPARE + offset := by
    intro offset hoffset f
    simp only [SECONDS_COMPARE]
    cases f <;> simp only [Field.index, HUNDREDTHS, SECONDS, MINUTES, HOURS, DAY_OF_MONTH, MONTH, YEAR, DAY_OF_WEEK] <;> omega
  obtain ⟨hstatus, hflag, hsave⟩ := hall offset hoffset
  exact h.register _ hstatus hflag hsave (hfields offset hoffset)

/-- A second ends: the time is saved and the alarm compared. -/
theorem Ticked.finish (h : Ticked base clock saved edge active events rtc) (hmoved : Moved base rtc clock' moved)
    (hvalid : clock'.Valid) : Ticked base clock' true (edge || base.alarm_matches_at clock' && !active)
      (base.alarm_matches_at clock') events moved.finish_clock_change := by
  have hsaved := h.save_shows hmoved
  have hmatches := hsaved.shows.current_alarm_matches hvalid fun offset hoffset => hsaved.compare hoffset
  have heq : moved.finish_clock_change =
      { (if base.alarm_matches_at clock' && !active then
          (if moved.time_save_enabled then moved.copy_all_time_save_registers else moved).set_register MAIN_STATUS
            ((if moved.time_save_enabled then moved.copy_all_time_save_registers else moved).register MAIN_STATUS
              ||| ALARM_PENDING)
          else if moved.time_save_enabled then moved.copy_all_time_save_registers else moved) with
        alarm_match_active := base.alarm_matches_at clock' } := by
    unfold finish_clock_change recompute_alarm_match
    simp only [hmatches, hsaved.alarm]
  rw [heq]
  exact hsaved.record_alarm _ _

end Second

end Counters

end se_device.dp8573a
