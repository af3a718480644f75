import SgiEmu.Device.Dp8573a.Calendar

open se_core

namespace se_device.dp8573a

/-! ## Seconds of a clock -/

namespace ClockState

variable {clock : ClockState}

structure Valid (clock : ClockState) : Prop where
  hundredths_lt : clock.hundredths < 100
  seconds_lt : clock.seconds < 60
  minutes_lt : clock.minutes < 60
  hour_lt : clock.hour < 24
  date : clock.date.Valid

def next_second (clock : ClockState) : ClockState :=
  if clock.seconds ≠ 59 then { clock with seconds := clock.seconds + 1 }
  else if clock.minutes ≠ 59 then { clock with seconds := 0, minutes := clock.minutes + 1 }
  else if clock.hour ≠ 23 then { clock with seconds := 0, minutes := 0, hour := clock.hour + 1 }
  else { clock with seconds := 0, minutes := 0, hour := 0, date := clock.date.advance }

/-- The clock at a count of seconds from the beginning of its day. -/
def at_total (clock : ClockState) (total : Nat) : ClockState :=
  { clock with
    seconds := total % SECONDS_PER_DAY % 60
    minutes := total % SECONDS_PER_DAY / 60 % 60
    hour := total % SECONDS_PER_DAY / 3600
    date := clock.date.advance_days (total / SECONDS_PER_DAY) }

def after_seconds (clock : ClockState) (seconds : Nat) : ClockState := clock.at_total (clock.seconds_of_day + seconds)

def after (clock : ClockState) (hundredth_steps : Nat) : ClockState :=
  { clock.after_seconds ((clock.hundredths + hundredth_steps) / 100) with
    hundredths := (clock.hundredths + hundredth_steps) % 100 }

theorem Valid.seconds_of_day_lt (h : clock.Valid) : clock.seconds_of_day < SECONDS_PER_DAY := by
  have hseconds := h.seconds_lt
  have hminutes := h.minutes_lt
  have hhour := h.hour_lt
  simp only [seconds_of_day, SECONDS_PER_DAY]
  omega

/-- Seconds go on within the day, and what is over carries into the date. -/
theorem seconds_of_day_after (seconds : Nat) :
    (clock.after_seconds seconds).seconds_of_day = (clock.seconds_of_day + seconds) % SECONDS_PER_DAY := by
  simp only [after_seconds, at_total, seconds_of_day, SECONDS_PER_DAY]
  omega

theorem Valid.after_seconds (h : clock.Valid) (seconds : Nat) : (clock.after_seconds seconds).Valid := by
  refine ⟨h.hundredths_lt, ?_, ?_, ?_, h.date.advance_days _⟩
  · exact Nat.mod_lt _ (by decide)
  · exact Nat.mod_lt _ (by decide)
  · have hday := Nat.mod_lt (clock.seconds_of_day + seconds) (show 0 < SECONDS_PER_DAY by decide)
    simp only [ClockState.after_seconds, at_total, SECONDS_PER_DAY] at hday ⊢
    omega

/-- Time that goes on leads from a valid clock to a valid one. -/
theorem Valid.after (h : clock.Valid) (hundredth_steps : Nat) : (clock.after hundredth_steps).Valid := by
  obtain ⟨_, hseconds, hminutes, hhour, hdate⟩ := h.after_seconds ((clock.hundredths + hundredth_steps) / 100)
  exact ⟨Nat.mod_lt _ (by decide), hseconds, hminutes, hhour, hdate⟩

theorem after_seconds_zero (h : clock.Valid) : clock.after_seconds 0 = clock := by
  have hseconds := h.seconds_lt
  have hminutes := h.minutes_lt
  have hday := h.seconds_of_day_lt
  obtain ⟨hundredths, seconds, minutes, hour, date⟩ := clock
  simp only [after_seconds, at_total, Nat.add_zero, Nat.mod_eq_of_lt hday, Nat.div_eq_of_lt hday, mk.injEq, true_and]
  simp only [seconds_of_day] at *
  refine ⟨?_, ?_, ?_, rfl⟩
  all_goals omega

/-- The clock one second further on is the one that the counters step to. -/
theorem at_total_succ (total : Nat) : clock.at_total (total + 1) = (clock.at_total total).next_second := by
  have hseconds : (clock.at_total total).seconds = total % SECONDS_PER_DAY % 60 := rfl
  have hminutes : (clock.at_total total).minutes = total % SECONDS_PER_DAY / 60 % 60 := rfl
  have hhour : (clock.at_total total).hour = total % SECONDS_PER_DAY / 3600 := rfl
  unfold next_second
  rw [hseconds, hminutes, hhour]
  by_cases hlast_second : total % SECONDS_PER_DAY % 60 = 59
  · rw [if_neg (by simp [hlast_second])]
    by_cases hlast_minute : total % SECONDS_PER_DAY / 60 % 60 = 59
    · rw [if_neg (by simp [hlast_minute])]
      by_cases hlast_hour : total % SECONDS_PER_DAY / 3600 = 23
      · rw [if_neg (by simp [hlast_hour])]
        have hday : (total + 1) / SECONDS_PER_DAY = total / SECONDS_PER_DAY + 1 := by
          simp only [SECONDS_PER_DAY] at *
          omega
        simp only [at_total, hday, mk.injEq, true_and, CalendarDate.advance_days_succ, and_true]
        simp only [SECONDS_PER_DAY] at *
        omega
      · rw [if_pos hlast_hour]
        have hday : (total + 1) / SECONDS_PER_DAY = total / SECONDS_PER_DAY := by
          simp only [SECONDS_PER_DAY] at *
          omega
        simp only [at_total, hday, mk.injEq, true_and, and_true]
        simp only [SECONDS_PER_DAY] at *
        omega
    · rw [if_pos hlast_minute]
      have hday : (total + 1) / SECONDS_PER_DAY = total / SECONDS_PER_DAY := by
        simp only [SECONDS_PER_DAY] at *
        omega
      simp only [at_total, hday, mk.injEq, true_and, and_true]
      simp only [SECONDS_PER_DAY] at *
      omega
  · rw [if_pos hlast_second]
    have hday : (total + 1) / SECONDS_PER_DAY = total / SECONDS_PER_DAY := by
      simp only [SECONDS_PER_DAY] at *
      omega
    simp only [at_total, hday, mk.injEq, true_and, and_true]
    simp only [SECONDS_PER_DAY] at *
    omega

theorem after_seconds_succ (seconds : Nat) : clock.after_seconds (seconds + 1) = (clock.after_seconds seconds).next_second := by
  unfold after_seconds
  rw [← Nat.add_assoc]
  exact at_total_succ _

theorem after_zero (h : clock.Valid) : clock.after 0 = clock := by
  have hlt := h.hundredths_lt
  simp only [after, Nat.add_zero, Nat.div_eq_of_lt hlt, Nat.mod_eq_of_lt hlt, after_seconds_zero h]

/-- A hundredth of a second leaves the rest of the clock alone, or ends the second. -/
theorem after_succ (hundredth_steps : Nat) : clock.after (hundredth_steps + 1) =
    if (clock.after hundredth_steps).hundredths = 99 then
      { (clock.after hundredth_steps).next_second with hundredths := 0 }
    else { clock.after hundredth_steps with hundredths := (clock.after hundredth_steps).hundredths + 1 } := by
  have hnext (second : ClockState) (hundredths : Nat) :
      { { second with hundredths }.next_second with hundredths := 0 } = { second.next_second with hundredths := 0 } := by
    simp only [next_second]
    split
    · rfl
    · split
      · rfl
      · split
        all_goals rfl
  simp only [after, hnext, ← after_seconds_succ]
  generalize hsum : clock.hundredths + hundredth_steps = total
  rw [← Nat.add_assoc, hsum]
  split
  case isTrue hlast =>
    have hdiv : (total + 1) / 100 = total / 100 + 1 := by omega
    have hmod : (total + 1) % 100 = 0 := by omega
    rw [hdiv, hmod]
  case isFalse hinside =>
    have hdiv : (total + 1) / 100 = total / 100 := by omega
    have hmod : (total + 1) % 100 = total % 100 + 1 := by omega
    rw [hdiv, hmod]

end ClockState

/-! ## Cyclic targets -/

theorem crosses_zero (current period : Nat) : crosses_cyclic_target current 0 period = false := rfl

/-- A tenth of a second begins on every tenth step. -/
theorem crosses_ten_succ (current steps : Nat) : crosses_cyclic_target current (steps + 1) 10 =
    (crosses_cyclic_target current steps 10 || (current + steps + 1) % 10 == 0) := by
  rw [Bool.eq_iff_iff]
  simp only [crosses_cyclic_target, Bool.and_eq_true, Bool.or_eq_true, bne_iff_ne, beq_iff_eq, decide_eq_true_eq]
  omega

theorem crosses_sixty_succ (current steps : Nat) : crosses_cyclic_target current (steps + 1) 60 =
    (crosses_cyclic_target current steps 60 || (current + steps + 1) % 60 == 0) := by
  rw [Bool.eq_iff_iff]
  simp only [crosses_cyclic_target, Bool.and_eq_true, Bool.or_eq_true, bne_iff_ne, beq_iff_eq, decide_eq_true_eq]
  omega

end se_device.dp8573a
