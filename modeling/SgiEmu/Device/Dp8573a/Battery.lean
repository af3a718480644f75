import SgiEmu.Device.Dp8573a.Offline

open se_core se_core.time

namespace se_device.dp8573a

namespace Counters

variable {rtc next : Counters}

/-! ## Reachable clocks -/

/-- What every clock keeps: a position within a hundredth, and the alarm comparison
recorded. -/
structure Consistent (rtc : Counters) : Prop where
  millisecond_lt : rtc.millisecond_within_hundredth < 10
  alarm : rtc.alarm_match_active = rtc.current_alarm_matches

/-- The registers the alarm compares. -/
def alarm_registers : List Nat :=
  List.range' SECONDS 5 ++ DAY_OF_WEEK :: List.range' SECONDS_COMPARE 6

theorem current_alarm_matches_congr (hregister : ∀ index ∈ alarm_registers, next.register index = rtc.register index)
    (hcontrol : next.control INTERRUPT_CONTROL_1 = rtc.control INTERRUPT_CONTROL_1)
    (hmode : next.hour_mode_12 = rtc.hour_mode_12) : next.current_alarm_matches = rtc.current_alarm_matches := by
  have hcompared : ∀ offset < 6, (if offset = 5 then DAY_OF_WEEK else SECONDS + offset) ∈ alarm_registers ∧
      SECONDS_COMPARE + offset ∈ alarm_registers := by decide
  have hmask (register : Nat) : next.counter_mask register = rtc.counter_mask register := by
    unfold counter_mask
    rw [hmode]
  unfold current_alarm_matches
  dsimp only
  rw [hcontrol]
  congr 1
  rw [Bool.eq_iff_iff, List.all_eq_true, List.all_eq_true]
  refine forall₂_congr fun offset hmem => ?_
  obtain ⟨hcounter, hcompare⟩ := hcompared offset (List.mem_range.mp hmem)
  rw [hmask, hregister _ hcounter, hregister _ hcompare]

theorem Consistent.congr (h : rtc.Consistent) (hregister : ∀ index ∈ alarm_registers, next.register index = rtc.register index)
    (hcontrol : next.control INTERRUPT_CONTROL_1 = rtc.control INTERRUPT_CONTROL_1)
    (hmode : next.hour_mode_12 = rtc.hour_mode_12) (halarm : next.alarm_match_active = rtc.alarm_match_active)
    (hmillisecond : next.millisecond_within_hundredth < 10) : next.Consistent :=
  ⟨hmillisecond, halarm.trans (h.alarm.trans (current_alarm_matches_congr hregister hcontrol hmode).symm)⟩

theorem register_outside {index other : Nat} (hindex : index ∉ alarm_registers) (hother : other ∈ alarm_registers)
    (value : U8) : (rtc.set_register index value).register other = rtc.register other := by
  refine register_set_other ?_ value
  rintro rfl
  exact hindex hother

theorem Consistent.set_register (h : rtc.Consistent) {index : Nat} (hindex : index ∉ alarm_registers) (value : U8) :
    (rtc.set_register index value).Consistent :=
  h.congr (fun _ hother => register_outside hindex hother value) rfl rfl rfl h.millisecond_lt

theorem Consistent.copy_all (h : rtc.Consistent) : rtc.copy_all_time_save_registers.Consistent := by
  have hbounds : ∀ index ∈ alarm_registers, ¬(SECONDS_SAVE ≤ index ∧ index ≤ MONTH_SAVE) := by decide
  have hcontrols : rtc.copy_all_time_save_registers.alternate_control_registers = rtc.alternate_control_registers := by
    rw [copy_all_eq]
  have hcontrol : ∀ index, rtc.copy_all_time_save_registers.control index = rtc.control index := by
    intro index
    simp only [control, hcontrols]
  refine h.congr (fun index hindex => ?_) (hcontrol _) ?_ ?_ ?_
  · rw [register_copy_all, if_neg (hbounds index hindex)]
  · simp only [hour_mode_12, hcontrol]
  · rw [copy_all_eq]
  · rw [copy_all_eq]
    exact h.millisecond_lt

/-- A fresh comparison is consistent. -/
theorem recompute_consistent (hmillisecond : rtc.millisecond_within_hundredth < 10) : rtc.recompute_alarm_match.Consistent := by
  have hstatus : MAIN_STATUS ∉ alarm_registers := by decide
  unfold recompute_alarm_match
  dsimp only
  split
  · exact ⟨hmillisecond, (current_alarm_matches_congr (fun _ hother => register_outside hstatus hother _) rfl rfl).symm⟩
  · exact ⟨hmillisecond, rfl⟩

theorem Consistent.raise (h : rtc.Consistent) (events : U8) : (rtc.raise_periodic_events events).Consistent := by
  unfold raise_periodic_events
  dsimp only
  split
  · exact (h.set_register (by decide) _).set_register (by decide) _
  · exact h.set_register (by decide) _

/-! ### Time -/

theorem finish_consistent (hmillisecond : rtc.millisecond_within_hundredth < 10) : rtc.finish_clock_change.Consistent := by
  refine recompute_consistent ?_
  rw [save_eq]
  exact hmillisecond

theorem Consistent.advance_hundredth (h : rtc.Consistent) : rtc.advance_hundredth.2.Consistent := by
  rcases advance_hundredth_cases rtc with hinside | ⟨next, hcarried, hsecond⟩
  · rw [hinside]
    unfold increment_bcd_register
    dsimp only
    split
    · exact h
    · exact h.set_register (by decide) _
  · rw [hsecond]
    exact finish_consistent (Nat.lt_of_le_of_lt (Nat.le_of_eq hcarried.keeps.millisecond) h.millisecond_lt)

theorem Consistent.advance_millisecond (h : rtc.Consistent) : rtc.advance_millisecond.Consistent := by
  have hlt := h.millisecond_lt
  unfold Counters.advance_millisecond
  split
  · have hstart : Consistent { rtc with millisecond_within_hundredth := 0 } :=
      h.congr (fun _ _ => rfl) rfl rfl rfl (Nat.succ_pos 9)
    exact hstart.advance_hundredth.raise _
  case isFalse hinside =>
    have hstart : Consistent { rtc with millisecond_within_hundredth := rtc.millisecond_within_hundredth + 1 } :=
      h.congr (fun _ _ => rfl) rfl rfl rfl (by dsimp only; omega)
    exact hstart.raise _

theorem Consistent.advance_milliseconds (h : rtc.Consistent) (milliseconds : Nat) :
    (rtc.advance_milliseconds milliseconds).Consistent := by
  induction milliseconds generalizing rtc with
  | zero => exact h
  | succ milliseconds ih => exact ih h.advance_millisecond

/-! ### Register accesses -/

theorem Consistent.copy_time_save (h : rtc.Consistent) {destination : Nat} (hdestination : SECONDS_SAVE ≤ destination)
    (source : Nat) : (rtc.copy_time_save destination source).Consistent := by
  have hbounds : ∀ index ∈ alarm_registers, index < SECONDS_SAVE := by decide
  exact h.set_register (fun hmem => absurd (hbounds _ hmem) (Nat.not_lt.mpr hdestination)) _

theorem Consistent.write_counter (h : rtc.Consistent) {register : Nat} (value : U8)
    (hcounter : (HUNDREDTHS ≤ register ∧ register ≤ YEAR) ∨ register = DAY_OF_WEEK) :
    (rtc.write_counter register value).Consistent := by
  have hlt := h.millisecond_lt
  unfold Counters.write_counter
  dsimp only
  split
  · refine recompute_consistent ?_
    split
    all_goals exact hlt
  case isFalse hother =>
    have hplain : register ∉ alarm_registers := by
      intro hmem
      have hbounds : ∀ index ∈ alarm_registers, index < SECONDS_COMPARE →
          (SECONDS ≤ index && index ≤ MONTH || index == DAY_OF_WEEK) = true := by decide
      refine hother ?_
      have hlow : register < SECONDS_COMPARE := by
        rcases hcounter with ⟨_, hyear⟩ | hweek
        · exact Nat.lt_of_le_of_lt hyear (by decide)
        · rw [hweek]
          decide
      simpa using hbounds register hmem hlow
    split
    · exact (h.set_register hplain value).copy_time_save (Nat.le_add_left _ _) _
    · exact h.set_register hplain value

end Counters

namespace Dp8573a

variable {rtc : Dp8573a}

/-- A new real-time mode changes the clock as a carry does: all at once, and then finished. -/
theorem write_real_time_mode (rtc : Dp8573a) (value : U8) : ∃ millisecond_within_hundredth oscillator_failed,
    millisecond_within_hundredth ≤ rtc.counters.millisecond_within_hundredth ∧
      (rtc.write_alternate_control REAL_TIME_MODE value).counters =
        Counters.finish_clock_change
          { rtc.counters.set_control REAL_TIME_MODE value with millisecond_within_hundredth, oscillator_failed } := by
  unfold write_alternate_control
  rw [if_pos rfl]
  dsimp only
  generalize (value &&& CLOCK_START != 0) = is_running
  generalize rtc.counters.running = was_running
  cases is_running with
  | true =>
    have hgoing : (was_running && !true) = false := Bool.and_false _
    rw [hgoing]
    exact ⟨rtc.counters.millisecond_within_hundredth, false, Nat.le_refl _, rfl⟩
  | false =>
    cases was_running with
    | true => exact ⟨0, rtc.counters.oscillator_failed, Nat.zero_le _, rfl⟩
    | false =>
      exact ⟨rtc.counters.millisecond_within_hundredth, rtc.counters.oscillator_failed, Nat.le_refl _, rfl⟩

theorem write_alternate_control_consistent (h : rtc.counters.Consistent) {register : Nat} (value : U8) :
    (rtc.write_alternate_control register value).counters.Consistent := by
  have hlt := h.millisecond_lt
  by_cases hmode : register = REAL_TIME_MODE
  · obtain ⟨millisecond, oscillator_failed, hle, hchanged⟩ := write_real_time_mode rtc value
    rw [hmode, hchanged]
    exact Counters.finish_consistent (Nat.lt_of_le_of_lt hle hlt)
  · unfold write_alternate_control
    rw [if_neg hmode]
    split
    · exact Counters.recompute_consistent hlt
    case isFalse hcontrol =>
      refine h.congr (fun _ _ => rfl) (Counters.control_set_other hcontrol value) ?_ rfl hlt
      unfold Counters.hour_mode_12
      rw [Counters.control_set_other hmode value]

theorem ite_consistent {condition : Prop} [Decidable condition] {first second : Dp8573a}
    (hfirst : condition → first.counters.Consistent) (hsecond : ¬condition → second.counters.Consistent) :
    (if condition then first else second).counters.Consistent := by
  split
  case isTrue h => exact hfirst h
  case isFalse h => exact hsecond h

theorem write_register_consistent (h : rtc.counters.Consistent) (register : Nat) (value : U8) :
    (rtc.write_register register value).counters.Consistent := by
  have hlt := h.millisecond_lt
  unfold write_register
  refine ite_consistent (fun _ => h.set_register (by decide) _) fun _ => ?_
  refine ite_consistent (fun _ => write_alternate_control_consistent h value) fun _ => ?_
  refine ite_consistent (fun _ => h) fun _ => ?_
  refine ite_consistent (fun _ => (h.set_register (by decide) _).congr (fun _ _ => rfl) rfl rfl rfl hlt) fun _ => ?_
  refine ite_consistent (fun _ => ?_) fun _ => ?_
  · -- a new time save control
    have hset := h.set_register (show TIME_SAVE_CONTROL ∉ Counters.alarm_registers by decide) value
    show (rtc.counters.write_time_save_control value).Consistent
    unfold Counters.write_time_save_control
    dsimp only
    split
    · exact hset.copy_all
    · exact hset
  refine ite_consistent (fun hcounter => h.write_counter value hcounter) fun hcounter => ?_
  refine ite_consistent (fun hleap => h.set_register (by rw [hleap]; decide) _) fun _ => ?_
  refine ite_consistent (fun _ => h) fun _ => ?_
  refine ite_consistent (fun _ => Counters.recompute_consistent hlt) fun hcompare => ?_
  have hplain : register ∉ Counters.alarm_registers := by
    have hbounds : ∀ index ∈ Counters.alarm_registers, (HUNDREDTHS ≤ index ∧ index ≤ YEAR) ∨
        index = DAY_OF_WEEK ∨ (SECONDS_COMPARE ≤ index ∧ index ≤ DAY_OF_WEEK_COMPARE) := by decide
    intro hmem
    rcases hbounds register hmem with hclock | hweek | hcompared
    · exact hcounter (Or.inl hclock)
    · exact hcounter (Or.inr hweek)
    · exact hcompare hcompared
  refine ite_consistent (fun hsave => ?_) fun _ => ?_
  · dsimp only
    split
    · exact (h.set_register hplain value).copy_time_save hsave.1 _
    · exact h.set_register hplain value
  · exact ite_consistent (fun _ => h) fun _ => h.set_register hplain value

/-- The accesses of the guest and the passing of time. -/
inductive RtcAccess where
  | Read (address length : Nat)
  | Write (address : Nat) (data : List U8)
  | AdvanceTime (elapsed : Nat)

def step (rtc : Dp8573a) : RtcAccess → Dp8573a
  | .Read address length => (rtc.read address length).2
  | .Write address data => (rtc.write address data).2
  | .AdvanceTime elapsed => rtc.advance_time elapsed

def run (rtc : Dp8573a) (accesses : List RtcAccess) : Dp8573a := accesses.foldl step rtc

theorem step_consistent (h : rtc.counters.Consistent) (access : RtcAccess) : (rtc.step access).counters.Consistent := by
  cases access with
  | Read address length =>
    unfold step read
    dsimp only
    split
    · exact h
    · dsimp only
      split
      · exact h.set_register (by decide) _
      · exact h
  | Write address data =>
    unfold step write
    dsimp only
    split
    · exact h
    · exact write_register_consistent h _ _
  | AdvanceTime elapsed =>
    unfold step advance_time
    dsimp only
    split
    · exact h
    · exact h.advance_milliseconds _

theorem run_consistent (h : rtc.counters.Consistent) (accesses : List RtcAccess) : (rtc.run accesses).counters.Consistent := by
  induction accesses generalizing rtc with
  | nil => exact h
  | cons access accesses ih => exact ih (step_consistent h access)

theorem new_consistent : new.counters.Consistent := ⟨by decide, by decide⟩

/-! ## Battery state -/

/-- The state retained across application sessions. -/
def battery_state (rtc : Dp8573a) (h : rtc.counters.Consistent) : Dp8573aBatteryState :=
  { rtc with millisecond_lt := h.millisecond_lt }

theorem restore_consistent_ticks (h : rtc.counters.Consistent) {clock : ClockState}
    (hclock : ClockState.decode rtc.counters = some clock) (milliseconds : Nat) :
    restore_battery_state (battery_state rtc h) milliseconds =
      rtc.advance_time (milliseconds * ATTOSECONDS_PER_MILLISECOND) := by
  cases hrunning : rtc.running with
  | false =>
    rw [advance_time_stopped hrunning]
    refine ext_phase ?_ rfl
    show rtc.counters.advance_offline_milliseconds milliseconds = rtc.counters
    have hstopped : rtc.counters.running = false := hrunning
    simp [Counters.advance_offline_milliseconds, hstopped]
  | true =>
    obtain ⟨hcounters, hphase⟩ := advance_time_running hrunning (milliseconds * ATTOSECONDS_PER_MILLISECOND)
    have hpos : 0 < ATTOSECONDS_PER_MILLISECOND := by decide
    refine ext_phase ?_ ?_
    · rw [hcounters, Nat.add_mul_div_right _ _ hpos, Nat.div_eq_of_lt rtc.phase_lt, Nat.zero_add]
      exact Counters.advance_offline_eq hrunning hclock h.millisecond_lt h.alarm milliseconds
    · rw [hphase, Nat.add_mul_mod_self_right, Nat.mod_eq_of_lt rtc.phase_lt]
      rfl

/-- Offline time passes for a retained clock that decodes as it does for a powered one. -/
theorem restore_battery_state_ticks (accesses : List RtcAccess)
    (hdecode : (ClockState.decode (new.run accesses).counters).isSome = true) (milliseconds : Nat) :
    restore_battery_state (battery_state (new.run accesses) (run_consistent new_consistent accesses)) milliseconds =
      (new.run accesses).advance_time (milliseconds * ATTOSECONDS_PER_MILLISECOND) := by
  obtain ⟨clock, hclock⟩ := Option.isSome_iff_exists.mp hdecode
  exact restore_consistent_ticks (run_consistent new_consistent accesses) hclock milliseconds

/-- A clock set going at the end of a leap year's February, with a daily alarm. -/
def leap_day_alarm : List RtcAccess :=
  [.Write 0x27 [0x28], .Write 0x2b [0x02], .Write 0x23 [0x23], .Write 0x1f [0x59], .Write 0x1b [0x59], .Write 0x3b [0x07],
    .Write 0x03 [0x40], .Write 0x13 [0x07], .Write 0x07 [0x08], .Write 0x03 [0x00]]

theorem restore_battery_state_ticks_leap_day :
    restore_battery_state (battery_state (new.run leap_day_alarm) (run_consistent new_consistent leap_day_alarm)) 2000 =
      (new.run leap_day_alarm).advance_time (2000 * ATTOSECONDS_PER_MILLISECOND) :=
  restore_battery_state_ticks leap_day_alarm (by decide +kernel) 2000

end Dp8573a

end se_device.dp8573a
