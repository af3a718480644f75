import SgiEmu.Device.Dp8573a

open se_core se_core.time

namespace se_device.dp8573a

namespace Counters

variable {rtc next : Counters}

/-! ## The clock keeps running

Ticking changes the leap counter in the real-time mode register, and no other bit
of it. -/

@[simp] theorem running_set_register (index : Nat) (value : U8) : (rtc.set_register index value).running = rtc.running := rfl

/-- What no counter's carry touches: the running bit and the milliseconds. -/
structure Keeps (rtc next : Counters) : Prop where
  running : next.running = rtc.running
  millisecond : next.millisecond_within_hundredth = rtc.millisecond_within_hundredth

theorem Keeps.trans {last : Counters} (h : Keeps rtc next) (hlast : Keeps next last) : Keeps rtc last :=
  ⟨hlast.running.trans h.running, hlast.millisecond.trans h.millisecond⟩

/-- What a carry makes of the counters: it writes their registers and the leap counter. -/
inductive Carried (rtc : Counters) : Counters → Prop where
  | refl : Carried rtc rtc
  | counter {next : Counters} {index : Nat} (h : Carried rtc next) (hindex : index ≠ MAIN_STATUS) (value : U8) :
    Carried rtc (next.set_register index value)
  | leap {next : Counters} (h : Carried rtc next) (leap_year : U8) :
    Carried rtc
      (next.set_control REAL_TIME_MODE (next.control REAL_TIME_MODE &&& ~~~0x03 ||| leap_year &&& 0x03))

theorem Carried.keeps (h : Carried rtc next) : Keeps rtc next := by
  induction h with
  | refl => exact ⟨rfl, rfl⟩
  | counter _ _ _ ih => exact ih.trans ⟨rfl, rfl⟩
  | @leap next _ leap_year ih =>
    refine ih.trans ⟨?_, rfl⟩
    have hcontrol (value : U8) : (next.set_control REAL_TIME_MODE value).control REAL_TIME_MODE = value := by
      have hbound : 0 < BANKED_REGISTER_COUNT := by decide
      simp [set_control, control, REAL_TIME_MODE, hbound]
    simp only [running, hcontrol]
    have hmode : ∀ mode : U8, mode &&& ~~~0x03 &&& CLOCK_START = mode &&& CLOCK_START := by decide
    have hleap : ∀ leap_year : U8, leap_year &&& 0x03 &&& CLOCK_START = 0 := by decide
    rw [BitVec.and_or_distrib_right, hmode, hleap]
    exact congrArg (· != 0) BitVec.or_zero

theorem Carried.trans {last : Counters} (h : Carried rtc next) (hlast : Carried next last) : Carried rtc last := by
  induction hlast with
  | refl => exact h
  | counter _ hindex value ih => exact ih.counter hindex value
  | leap _ leap_year ih => exact ih.leap leap_year

theorem Carried.increment (h : Carried rtc next) {register : Nat} (hregister : register ≠ MAIN_STATUS) (mask : U8)
    (minimum maximum : Nat) : Carried rtc (next.increment_bcd_register register mask minimum maximum).2 := by
  simp only [increment_bcd_register]
  split
  · exact h
  · exact h.counter hregister _

theorem Carried.advance_year (h : Carried rtc next) : Carried rtc next.advance_year :=
  (h.increment (by decide) 0xff 0 99).leap _

theorem Carried.advance_day (h : Carried rtc next) : Carried rtc next.advance_day := by
  have hday := @h.increment _ _ DAY_OF_MONTH (by decide) 0x3f 1 next.days_in_current_month
  unfold Counters.advance_day
  split
  case h_1 last heq => rwa [heq] at hday
  case h_2 day month_carry after heq =>
    rw [heq] at hday
    have hweek := @hday.increment _ _ DAY_OF_WEEK (by decide) 0x07 1 7
    have hmonth := @hweek.increment _ _ MONTH (by decide) 0x1f 1 12
    dsimp only
    split
    · exact hweek
    · split
      case h_1 month last heq =>
        rw [heq] at hmonth
        exact hmonth.advance_year
      case h_2 result last hother heq => rwa [heq] at hmonth

theorem Carried.advance_hour (h : Carried rtc next) : Carried rtc next.advance_hour := by
  unfold Counters.advance_hour
  split
  · simp only [advance_12_hour_counter]
    split
    · exact h
    · split
      · exact (h.counter (by decide) _).advance_day
      · exact h.counter (by decide) _
  · have hhour := @h.increment _ _ HOURS (by decide) 0x3f 0 23
    split
    case h_1 hour last heq =>
      rw [heq] at hhour
      exact hhour.advance_day
    case h_2 result last hother heq => rwa [heq] at hhour

/-- A second carries into the counters and then finishes the change. -/
theorem advance_second_cases (rtc : Counters) : ∃ next, Carried rtc next ∧ rtc.advance_second.2 = next.finish_clock_change := by
  have hseconds := @Carried.refl.increment rtc rtc SECONDS (by decide) 0x7f 0 59
  unfold advance_second
  split
  case h_1 next heq =>
    rw [heq] at hseconds
    exact ⟨next, hseconds, rfl⟩
  case h_2 seconds minute_carry next heq =>
    rw [heq] at hseconds
    dsimp only
    split
    · exact ⟨next, hseconds, rfl⟩
    · have hminutes := @hseconds.increment _ _ MINUTES (by decide) 0x7f 0 59
      refine ⟨_, ?_, rfl⟩
      split
      case h_1 minutes last heq =>
        rw [heq] at hminutes
        exact hminutes.advance_hour
      case h_2 result last hother heq => rwa [heq] at hminutes

/-- A hundredth of a second changes its own counter only, or a second passes with it. -/
theorem advance_hundredth_cases (rtc : Counters) :
    rtc.advance_hundredth.2 = (rtc.increment_bcd_register HUNDREDTHS 0xff 0 99).2 ∨
      ∃ next, Carried rtc next ∧ rtc.advance_hundredth.2 = next.finish_clock_change := by
  have hhundredths := @Carried.refl.increment rtc rtc HUNDREDTHS (by decide) 0xff 0 99
  unfold advance_hundredth
  split
  case h_1 next heq => exact .inl (congrArg Prod.snd heq).symm
  case h_2 value wrapped next heq =>
    rw [heq] at hhundredths ⊢
    dsimp only
    split
    · exact .inl rfl
    · obtain ⟨last, hlast, hsecond⟩ := advance_second_cases next
      exact .inr ⟨last, hhundredths.trans hlast, hsecond⟩

theorem running_copy_time_save (destination source : Nat) : (rtc.copy_time_save destination source).running = rtc.running :=
  rfl

theorem running_copy_all : rtc.copy_all_time_save_registers.running = rtc.running := by
  have hfold (sources : List Nat) (rtc : Counters) :
      (sources.foldl (fun rtc source => rtc.copy_time_save (source - SECONDS + SECONDS_SAVE) source) rtc).running =
        rtc.running := by
    induction sources generalizing rtc with
    | nil => rfl
    | cons source sources ih => exact (ih _).trans (running_copy_time_save _ _)
  exact hfold _ rtc

theorem running_recompute : rtc.recompute_alarm_match.running = rtc.running := by
  simp only [recompute_alarm_match]
  split
  · rfl
  · rfl

theorem running_raise (events : U8) : (rtc.raise_periodic_events events).running = rtc.running := by
  simp only [raise_periodic_events]
  split
  · rfl
  · rfl

theorem running_finish : rtc.finish_clock_change.running = rtc.running := by
  unfold finish_clock_change
  rw [running_recompute]
  split
  · exact running_copy_all
  · rfl

theorem running_advance_hundredth : rtc.advance_hundredth.2.running = rtc.running := by
  rcases advance_hundredth_cases rtc with hinside | ⟨next, hcarried, hsecond⟩
  · rw [hinside]
    exact (Carried.refl.increment (by decide) 0xff 0 99).keeps.running
  · rw [hsecond, running_finish]
    exact hcarried.keeps.running

theorem running_advance_millisecond : rtc.advance_millisecond.running = rtc.running := by
  unfold advance_millisecond
  split
  · exact (running_raise _).trans running_advance_hundredth
  · exact running_raise _

theorem running_advance_milliseconds (count : Nat) : (rtc.advance_milliseconds count).running = rtc.running := by
  induction count generalizing rtc with
  | zero => rfl
  | succ count ih => exact ih.trans running_advance_millisecond

theorem advance_milliseconds_add (first second : Nat) :
    rtc.advance_milliseconds (first + second) = (rtc.advance_milliseconds first).advance_milliseconds second := by
  induction first generalizing rtc with
  | zero => simp [advance_milliseconds]
  | succ first ih =>
    rw [Nat.succ_add]
    exact ih

/-! ### Offline -/

theorem running_advance_days (count : Nat) : (rtc.advance_days count).running = rtc.running := by
  induction count generalizing rtc with
  | zero => rfl
  | succ count ih => exact ih.trans Carried.refl.advance_day.keeps.running

theorem running_advance_clock_seconds (clock : ClockState) (seconds : Nat) :
    (rtc.advance_clock_seconds clock seconds).running = rtc.running := by
  simp only [advance_clock_seconds]
  rw [running_advance_days]
  split
  · rfl
  · rfl

theorem running_advance_offline_seconds (clock : ClockState) (second_steps : Nat) :
    (rtc.advance_offline_seconds clock second_steps).2.running = rtc.running := by
  unfold advance_offline_seconds
  split
  · rfl
  · have hseconds := @running_advance_clock_seconds rtc clock second_steps
    dsimp only
    generalize rtc.advance_clock_seconds clock second_steps = next at hseconds
    have hsaved : (if next.time_save_enabled then next.copy_all_time_save_registers else next).running = rtc.running := by
      split
      · exact running_copy_all.trans hseconds
      · exact hseconds
    generalize (if next.time_save_enabled then next.copy_all_time_save_registers else next) = saved at hsaved
    rw [← hsaved]
    split
    · rfl
    · rfl

theorem running_advance_offline (milliseconds : Nat) :
    (rtc.advance_offline_milliseconds milliseconds).running = rtc.running := by
  unfold advance_offline_milliseconds
  split
  · rfl
  · split
    · rfl
    · dsimp only
      split
      · exact running_raise _
      · exact (running_raise _).trans (running_advance_offline_seconds _ _)

end Counters

namespace Dp8573a

variable {rtc : Dp8573a}

theorem running_restore (state : Dp8573aBatteryState) (offline_milliseconds : Nat) :
    (restore_battery_state state offline_milliseconds).running = state.counters.running :=
  Counters.running_advance_offline offline_milliseconds

theorem advance_time_stopped (hstopped : rtc.running = false) (elapsed : Nat) : rtc.advance_time elapsed = rtc := by
  simp [advance_time, hstopped]

theorem running_advance_time (elapsed : Nat) : (rtc.advance_time elapsed).running = rtc.running := by
  unfold advance_time
  split
  · rfl
  · exact Counters.running_advance_milliseconds _

theorem advance_time_zero : rtc.advance_time 0 = rtc := by
  obtain ⟨counters, phase, hphase⟩ := rtc
  unfold advance_time
  split
  · rfl
  · simp [Nat.mod_eq_of_lt hphase, Nat.div_eq_of_lt hphase, Counters.advance_milliseconds]

theorem div_add_phase (phase elapsed unit : Nat) (hunit : 0 < unit) :
    elapsed / unit + (phase + elapsed % unit) / unit = (phase + elapsed) / unit := by
  have hsplit : phase + elapsed = phase + elapsed % unit + unit * (elapsed / unit) := by
    have hmod := Nat.mod_add_div elapsed unit
    omega
  rw [hsplit, Nat.add_mul_div_left _ _ hunit, Nat.add_comm]

/-- Advancing a running clock counts whole milliseconds from its phase on. -/
theorem advance_time_running (hrunning : rtc.running = true) (elapsed : Nat) :
    (rtc.advance_time elapsed).counters =
        rtc.counters.advance_milliseconds ((rtc.prescaler_phase_attoseconds + elapsed) / ATTOSECONDS_PER_MILLISECOND) ∧
      (rtc.advance_time elapsed).prescaler_phase_attoseconds =
        (rtc.prescaler_phase_attoseconds + elapsed) % ATTOSECONDS_PER_MILLISECOND := by
  have hpos : 0 < ATTOSECONDS_PER_MILLISECOND := by decide
  rw [← div_add_phase rtc.prescaler_phase_attoseconds elapsed _ hpos, ← Nat.add_mod_mod]
  simp only [advance_time, hrunning]
  exact ⟨rfl, rfl⟩

theorem ext_phase {first second : Dp8573a} (hcounters : first.counters = second.counters)
    (hphase : first.prescaler_phase_attoseconds = second.prescaler_phase_attoseconds) : first = second := by
  obtain ⟨counters, phase, _⟩ := first
  obtain ⟨counters', phase', _⟩ := second
  obtain rfl : counters = counters' := hcounters
  obtain rfl : phase = phase' := hphase
  rfl

/-- Time passes alike in one piece or two. -/
theorem advance_time_add (first second : Nat) : rtc.advance_time (first + second) = (rtc.advance_time first).advance_time second := by
  cases hrunning : rtc.running with
  | false =>
    have hafter : (rtc.advance_time first).running = false := (running_advance_time first).trans hrunning
    rw [advance_time_stopped hrunning, advance_time_stopped hafter, advance_time_stopped hrunning]
  | true =>
    have hafter : (rtc.advance_time first).running = true := (running_advance_time first).trans hrunning
    obtain ⟨hcounters, hphase⟩ := advance_time_running hrunning first
    obtain ⟨hcounters_second, hphase_second⟩ := advance_time_running hafter second
    obtain ⟨hcounters_both, hphase_both⟩ := advance_time_running hrunning (first + second)
    have hpos : 0 < ATTOSECONDS_PER_MILLISECOND := by decide
    refine ext_phase ?_ ?_
    · rw [hcounters_both, hcounters_second, hcounters, hphase, ← Counters.advance_milliseconds_add]
      congr 1
      have hsum := div_add_phase second (rtc.prescaler_phase_attoseconds + first) ATTOSECONDS_PER_MILLISECOND hpos
      rw [Nat.add_comm second, Nat.add_comm second] at hsum
      rw [← Nat.add_assoc, ← hsum]
    · rw [hphase_both, hphase_second, hphase, ← Nat.add_assoc, Nat.mod_add_mod]

end Dp8573a

end se_device.dp8573a
