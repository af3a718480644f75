import SgiEmu.Device.Dp8573a.Battery
import SgiEmu.Library.Latch

open se_core se_core.time

namespace se_device.dp8573a

namespace Counters

variable {rtc next last : Counters}

/-! ## The pending alarm -/

def alarm_pending (rtc : Counters) : Bool := rtc.register MAIN_STATUS &&& ALARM_PENDING != 0

/-- Neither the pending alarm nor the recorded comparison has changed. -/
structure Steady (rtc next : Counters) : Prop where
  pending : next.alarm_pending = rtc.alarm_pending
  active : next.alarm_match_active = rtc.alarm_match_active

/-- The alarm has become pending where the recorded comparison has risen, and only there. -/
def Latched (rtc next : Counters) : Prop :=
  next.alarm_pending = (rtc.alarm_pending || !rtc.alarm_match_active && next.alarm_match_active)

theorem Steady.refl (rtc : Counters) : Steady rtc rtc := ⟨rfl, rfl⟩

theorem Steady.trans (h : Steady rtc next) (hlast : Steady next last) : Steady rtc last :=
  ⟨hlast.pending.trans h.pending, hlast.active.trans h.active⟩

theorem Steady.latched (h : Steady rtc next) : Latched rtc next := by
  unfold Latched
  rw [h.pending, h.active]
  simp

theorem Steady.trans_latched (h : Steady rtc next) (hlast : Latched next last) : Latched rtc last := by
  unfold Latched at hlast ⊢
  rw [hlast, h.pending, h.active]

theorem Latched.trans_steady (h : Latched rtc next) (hlast : Steady next last) : Latched rtc last := by
  unfold Latched at h ⊢
  rw [hlast.pending, hlast.active, h]

theorem steady_set_register {index : Nat} (hindex : index ≠ MAIN_STATUS) (value : U8) :
    Steady rtc (rtc.set_register index value) := by
  refine ⟨?_, rfl⟩
  unfold alarm_pending
  rw [register_set_other hindex]

theorem steady_set_control (index : Nat) (value : U8) : Steady rtc (rtc.set_control index value) := ⟨rfl, rfl⟩

theorem Carried.steady (h : Carried rtc next) : Steady rtc next := by
  induction h with
  | refl => exact .refl rtc
  | counter _ hindex value ih => exact ih.trans (steady_set_register hindex value)
  | leap _ _ ih => exact ih.trans (steady_set_control _ _)

theorem steady_copy_all : Steady rtc rtc.copy_all_time_save_registers := by
  refine ⟨?_, ?_⟩
  · unfold alarm_pending
    rw [register_copy_all, if_neg (by decide)]
  · rw [copy_all_eq]

theorem steady_save : Steady rtc (if rtc.time_save_enabled then rtc.copy_all_time_save_registers else rtc) := by
  split
  · exact steady_copy_all
  · exact .refl rtc

/-- A comparison makes the alarm pending where it rises. -/
theorem recompute_latched (rtc : Counters) : Latched rtc rtc.recompute_alarm_match := by
  have hset : ∀ status : U8, ((status ||| ALARM_PENDING) &&& ALARM_PENDING != 0) = true := by decide
  unfold recompute_alarm_match
  dsimp only
  split
  case isTrue hrises =>
    rw [Bool.and_eq_true] at hrises
    have hpending : (rtc.set_register MAIN_STATUS (rtc.register MAIN_STATUS ||| ALARM_PENDING)).alarm_pending = true := by
      unfold alarm_pending
      rw [register_set_self (by decide)]
      exact hset _
    unfold Latched
    rw [hrises.1, hrises.2, Bool.and_self, Bool.or_true]
    exact hpending
  case isFalse hsteady =>
    have hnone : (!rtc.alarm_match_active && rtc.current_alarm_matches) = false := by
      rw [Bool.and_comm]
      exact Bool.eq_false_iff.mpr hsteady
    unfold Latched
    rw [hnone, Bool.or_false]
    rfl

theorem steady_raise (events : U8) : Steady rtc (rtc.raise_periodic_events events) := by
  have hkept : ∀ status : U8, (status ||| PERIODIC_PENDING) &&& ALARM_PENDING = status &&& ALARM_PENDING := by decide
  have hflag := @steady_set_register rtc PERIODIC_FLAG (by decide) (rtc.register PERIODIC_FLAG ||| events)
  unfold raise_periodic_events
  dsimp only
  split
  · generalize rtc.set_register PERIODIC_FLAG (rtc.register PERIODIC_FLAG ||| events) = next at hflag
    have hstatus : Steady next (next.set_register MAIN_STATUS (next.register MAIN_STATUS ||| PERIODIC_PENDING)) := by
      refine ⟨?_, rfl⟩
      unfold alarm_pending
      rw [register_set_self (by decide), hkept]
    exact hflag.trans hstatus
  · exact hflag

/-! ### Time -/

theorem finish_latched (rtc : Counters) : Latched rtc rtc.finish_clock_change :=
  steady_save.trans_latched (recompute_latched _)

theorem advance_hundredth_latched (rtc : Counters) : Latched rtc rtc.advance_hundredth.2 := by
  rcases advance_hundredth_cases rtc with hinside | ⟨next, hcarried, hsecond⟩
  · rw [hinside]
    exact (Carried.refl.increment (by decide) 0xff 0 99).steady.latched
  · rw [hsecond]
    exact hcarried.steady.trans_latched (finish_latched next)

theorem advance_millisecond_latched (rtc : Counters) : Latched rtc rtc.advance_millisecond := by
  have hcounted (millisecond_within_hundredth : Nat) : Steady rtc { rtc with millisecond_within_hundredth } := ⟨rfl, rfl⟩
  unfold advance_millisecond
  split
  · exact ((hcounted 0).trans_latched (advance_hundredth_latched _)).trans_steady (steady_raise _)
  · exact ((hcounted _).trans (steady_raise _)).latched

/-- A retained clock that does not run or decode stands still offline; any other ticks. -/
theorem advance_offline_cases (h : rtc.Consistent) :
    (∀ milliseconds, rtc.advance_offline_milliseconds milliseconds = rtc) ∨
      ∀ milliseconds, rtc.advance_offline_milliseconds milliseconds = rtc.advance_milliseconds milliseconds := by
  cases hrunning : rtc.running with
  | false => exact .inl fun milliseconds => by simp [advance_offline_milliseconds, hrunning]
  | true =>
    cases hdecode : ClockState.decode rtc with
    | none => exact .inl fun milliseconds => by simp [advance_offline_milliseconds, hdecode]
    | some clock => exact .inr (advance_offline_eq hrunning hdecode h.millisecond_lt h.alarm)

theorem advance_offline_latched (h : rtc.Consistent) (milliseconds : Nat) :
    Latched (rtc.advance_offline_milliseconds milliseconds) (rtc.advance_offline_milliseconds (milliseconds + 1)) := by
  rcases advance_offline_cases h with hstill | hticks
  · rw [hstill, hstill]
    exact (Steady.refl rtc).latched
  · rw [hticks, hticks, advance_milliseconds_succ]
    exact advance_millisecond_latched _

theorem Consistent.advance_offline (h : rtc.Consistent) (milliseconds : Nat) :
    (rtc.advance_offline_milliseconds milliseconds).Consistent := by
  rcases advance_offline_cases h with hstill | hticks
  · rw [hstill]
    exact h
  · rw [hticks]
    exact h.advance_milliseconds milliseconds

/-! ### Register accesses -/

theorem steady_copy_time_save {destination : Nat} (hdestination : SECONDS_SAVE ≤ destination) (source : Nat) :
    Steady rtc (rtc.copy_time_save destination source) := by
  refine steady_set_register ?_ _
  rintro rfl
  exact absurd hdestination (by decide)

/-- A write to the main status acknowledges the alarm where the bit is written, and nothing else. -/
theorem write_main_status_pending (rtc : Counters) (value : U8) :
    (rtc.write_main_status value).alarm_pending = (rtc.alarm_pending && value &&& ALARM_PENDING == 0) := by
  have hset : ∀ value : U8, (value &&& ALARM_PENDING != 0) = value.getLsbD 3 := by decide
  have hclear : ∀ value : U8, (value &&& ALARM_PENDING == 0) = !value.getLsbD 3 := by decide
  have hselect : MAIN_RAM_AND_SELECT.getLsbD 3 = false := by decide
  have hpending : ALARM_PENDING.getLsbD 3 = true := by decide
  unfold alarm_pending write_main_status
  dsimp only
  rw [register_set_self (by decide), hset, hset, hclear]
  simp only [BitVec.getLsbD_or, BitVec.getLsbD_and, BitVec.getLsbD_not, hselect, hpending]
  simp

theorem write_time_save_control_steady (rtc : Counters) (value : U8) : Steady rtc (rtc.write_time_save_control value) := by
  have hset := @steady_set_register rtc TIME_SAVE_CONTROL (by decide) value
  unfold write_time_save_control
  dsimp only
  split
  · exact hset.trans steady_copy_all
  · exact hset

theorem write_counter_latched (rtc : Counters) {register : Nat} (hregister : register ≠ MAIN_STATUS) (value : U8) :
    Latched rtc (rtc.write_counter register value) := by
  have hset := @steady_set_register rtc register hregister value
  unfold write_counter
  dsimp only
  generalize rtc.set_register register value = next at hset
  have hsaved : Steady rtc (if (next.time_save_enabled && (SECONDS ≤ register && register ≤ MONTH)) = true then
      next.copy_time_save (register - SECONDS + SECONDS_SAVE) register else next) := by
    split
    · exact hset.trans (steady_copy_time_save (Nat.le_add_left _ _) _)
    · exact hset
  split
  · exact hsaved.trans_latched (recompute_latched _)
  · exact hsaved.latched

end Counters

namespace Dp8573a

variable {rtc : Dp8573a}

open Counters

theorem write_alternate_control_latched (rtc : Dp8573a) (register : Nat) (value : U8) :
    Latched rtc.counters (rtc.write_alternate_control register value).counters := by
  by_cases hmode : register = REAL_TIME_MODE
  · obtain ⟨millisecond, oscillator_failed, -, hchanged⟩ := write_real_time_mode rtc value
    have hset := @steady_set_control rtc.counters REAL_TIME_MODE value
    rw [hmode, hchanged]
    exact (hset.trans ⟨rfl, rfl⟩).trans_latched (finish_latched _)
  · unfold write_alternate_control
    rw [if_neg hmode]
    split
    · exact (steady_set_control _ _).trans_latched (recompute_latched _)
    · exact (steady_set_control _ _).latched

theorem ite_latched {condition : Prop} [Decidable condition] {first second : Dp8573a} {before : Counters}
    (hfirst : condition → Latched before first.counters) (hsecond : ¬condition → Latched before second.counters) :
    Latched before (if condition then first else second).counters := by
  split
  case isTrue h => exact hfirst h
  case isFalse h => exact hsecond h

/-- Every register but the main status, in either bank. -/
theorem write_register_latched {register : Nat} (hregister : register ≠ MAIN_STATUS) (value : U8) :
    Latched rtc.counters (rtc.write_register register value).counters := by
  have hset (value : U8) := @steady_set_register rtc.counters register hregister value
  have hstill := (Steady.refl rtc.counters).latched
  unfold write_register
  refine ite_latched (fun hstatus => absurd hstatus hregister) fun _ => ?_
  refine ite_latched (fun _ => write_alternate_control_latched rtc _ value) fun _ => ?_
  refine ite_latched (fun _ => hstill) fun _ => ?_
  refine ite_latched (fun _ => ?_) fun _ => ?_
  · have hflag := @steady_set_register rtc.counters PERIODIC_FLAG (by decide)
      (rtc.counters.register PERIODIC_FLAG &&& PERIODIC_EVENT_BITS ||| value &&& TEST_ENABLE)
    exact (hflag.trans ⟨rfl, rfl⟩).latched
  refine ite_latched (fun _ => (write_time_save_control_steady _ value).latched) fun _ => ?_
  refine ite_latched (fun _ => write_counter_latched _ hregister value) fun _ => ?_
  refine ite_latched (fun _ => (hset _).latched) fun _ => ?_
  refine ite_latched (fun _ => hstill) fun _ => ?_
  refine ite_latched (fun _ => (hset value).trans_latched (recompute_latched _)) fun _ => ?_
  refine ite_latched (fun hsave => ?_) fun _ => ?_
  · dsimp only
    split
    · exact ((hset value).trans (steady_copy_time_save hsave.1 _)).latched
    · exact (hset value).latched
  · exact ite_latched (fun _ => hstill) fun _ => (hset value).latched

/-! ## Runs -/

/-- What a clock goes through: accesses, time, and the restore of a retained clock whose
comparison is recorded. -/
inductive RtcStep where
  | Access (access : RtcAccess)
  | Restore (state : Dp8573aBatteryState) (halarm : state.counters.alarm_match_active = state.counters.current_alarm_matches)
    (offline_milliseconds : Nat)

def apply (rtc : Dp8573a) : RtcStep → Dp8573a
  | .Access access => rtc.step access
  | .Restore state _ offline_milliseconds => restore_battery_state state offline_milliseconds

def apply_all (rtc : Dp8573a) (steps : List RtcStep) : Dp8573a := steps.foldl apply rtc

/-- The moments of a step: an attosecond of time each, a millisecond of offline time each, or one access. -/
def RtcStep.moments : RtcStep → Nat
  | .Access (.AdvanceTime elapsed) => elapsed
  | .Access _ => 1
  | .Restore _ _ offline_milliseconds => offline_milliseconds

/-- The clock after some moments of a step. A restore starts from the retained clock. -/
def moment (rtc : Dp8573a) : RtcStep → Nat → Dp8573a
  | .Access (.AdvanceTime _), passed => rtc.advance_time passed
  | .Access _, 0 => rtc
  | .Access access, _ + 1 => rtc.step access
  | .Restore state _ _, passed => restore_battery_state state passed

/-- The comparison goes from not matching to matching within a step. -/
def comparison_rises (rtc : Dp8573a) (step : RtcStep) : Prop :=
  Library.Latch.Rises (fun passed => (rtc.moment step passed).counters.current_alarm_matches) step.moments

/-- A write to the main status with the pending bit set. -/
def RtcStep.acknowledges : RtcStep → Bool
  | .Access (.Write address data) =>
    match decode_register address data.length with
    | .ok register => register == MAIN_STATUS && data[data.length - 1]?.getD 0 &&& ALARM_PENDING != 0
    | .error _ => false
  | _ => false

/-- The steps that say themselves whether the alarm is pending: acknowledgements, and the
restore of a clock that differs in it. -/
def writes_pending (rtc : Dp8573a) (step : RtcStep) : Prop :=
  step.acknowledges = true ∨ (rtc.moment step 0).counters.alarm_pending ≠ rtc.counters.alarm_pending

theorem restore_zero (state : Dp8573aBatteryState) : restore_battery_state state 0 = state.toDp8573a := by
  simp [restore_battery_state, advance_offline_milliseconds]

theorem moment_last (rtc : Dp8573a) (step : RtcStep) : rtc.moment step step.moments = rtc.apply step := by
  cases step with
  | Access access =>
    cases access with
    | Read address length => rfl
    | Write address data => rfl
    | AdvanceTime elapsed => rfl
  | Restore state halarm offline_milliseconds => rfl

theorem moment_consistent (h : rtc.counters.Consistent) (step : RtcStep) (passed : Nat) :
    (rtc.moment step passed).counters.Consistent := by
  cases step with
  | Access access =>
    cases access with
    | Read address length =>
      cases passed with
      | zero => exact h
      | succ passed => exact step_consistent h _
    | Write address data =>
      cases passed with
      | zero => exact h
      | succ passed => exact step_consistent h _
    | AdvanceTime elapsed => exact step_consistent h (.AdvanceTime passed)
  | Restore state halarm offline_milliseconds =>
    have hstate : state.counters.Consistent := ⟨state.millisecond_lt, halarm⟩
    exact hstate.advance_offline passed

theorem apply_consistent (rtc : Dp8573a) (step : RtcStep) (h : rtc.counters.Consistent) :
    (rtc.apply step).counters.Consistent := by
  rw [← moment_last]
  exact moment_consistent h step _

/-! ### Steps -/

/-- An attosecond brings a millisecond at most. -/
theorem advance_time_one_latched (rtc : Dp8573a) : Latched rtc.counters (rtc.advance_time 1).counters := by
  cases hrunning : rtc.running with
  | false =>
    rw [advance_time_stopped hrunning]
    exact (Steady.refl _).latched
  | true =>
    have hphase := rtc.phase_lt
    rw [(advance_time_running hrunning 1).1]
    by_cases hends : rtc.prescaler_phase_attoseconds + 1 = ATTOSECONDS_PER_MILLISECOND
    · rw [hends, Nat.div_self (by decide)]
      exact advance_millisecond_latched rtc.counters
    · rw [Nat.div_eq_of_lt (by omega)]
      exact (Steady.refl _).latched

theorem read_steady (rtc : Dp8573a) (address length : Nat) : Steady rtc.counters (rtc.read address length).2.counters := by
  unfold read
  split
  · exact .refl _
  · dsimp only
    split
    · exact steady_set_register (by decide) _
    · exact .refl _

/-- A write that does not acknowledge the alarm. -/
theorem write_latched {address : Nat} {data : List U8} (h : (RtcStep.Access (.Write address data)).acknowledges = false) :
    Latched rtc.counters (rtc.write address data).2.counters := by
  unfold write
  split
  · exact (Steady.refl _).latched
  case h_2 register heq =>
    simp only [RtcStep.acknowledges, heq] at h
    dsimp only
    by_cases hstatus : register = MAIN_STATUS
    · subst hstatus
      generalize data[data.length - 1]?.getD 0 = value at h
      have hkept : (value &&& ALARM_PENDING == 0) = true := by simpa using h
      have hpending := write_main_status_pending rtc.counters value
      rw [hkept, Bool.and_true] at hpending
      exact Steady.latched ⟨hpending, rfl⟩
    · exact write_register_latched hstatus _

theorem acknowledges_clears {step : RtcStep} (h : step.acknowledges = true) :
    (rtc.apply step).counters.alarm_pending = false := by
  match step with
  | .Access (.Write address data) =>
    cases hdecode : decode_register address data.length with
    | error error => simp [RtcStep.acknowledges, hdecode] at h
    | ok register =>
      simp only [RtcStep.acknowledges, hdecode, Bool.and_eq_true, beq_iff_eq] at h
      obtain ⟨rfl, hbit⟩ := h
      have hset : (data[data.length - 1]?.getD 0 &&& ALARM_PENDING == 0) = false := by simpa using hbit
      have hpending := write_main_status_pending rtc.counters (data[data.length - 1]?.getD 0)
      rw [hset, Bool.and_false] at hpending
      simp only [apply, Dp8573a.step, write, hdecode]
      exact hpending

/-- Every moment of a step sets the pending alarm at an edge of the comparison, and only there. -/
theorem moment_latched {step : RtcStep} (hstep : step.acknowledges = false) {passed : Nat} (hpassed : passed < step.moments) :
    Latched (rtc.moment step passed).counters (rtc.moment step (passed + 1)).counters := by
  match step with
  | .Access (.Read address length) =>
    obtain rfl : passed = 0 := Nat.lt_one_iff.mp hpassed
    exact (read_steady rtc address length).latched
  | .Access (.Write address data) =>
    obtain rfl : passed = 0 := Nat.lt_one_iff.mp hpassed
    exact write_latched hstep
  | .Access (.AdvanceTime elapsed) =>
    have hnext := advance_time_one_latched (rtc.advance_time passed)
    rw [← advance_time_add] at hnext
    exact hnext
  | .Restore state halarm offline_milliseconds =>
    have hstate : state.counters.Consistent := ⟨state.millisecond_lt, halarm⟩
    exact advance_offline_latched hstate passed

theorem apply_latched_iff (h : rtc.counters.Consistent) {step : RtcStep} (hstep : step.acknowledges = false) :
    (rtc.apply step).counters.alarm_pending = true ↔
      (rtc.moment step 0).counters.alarm_pending = true ∨ rtc.comparison_rises step := by
  rw [← moment_last]
  refine @Library.Latch.latched_iff _ (fun passed => (rtc.moment step passed).counters.alarm_pending) _ ?_
  intro passed hpassed
  have hlatched := @moment_latched rtc step hstep passed hpassed
  unfold Latched at hlatched
  rw [(moment_consistent h step passed).alarm, (moment_consistent h step (passed + 1)).alarm] at hlatched
  exact hlatched

/-- In any run from a clock whose comparison is recorded, the comparison stays recorded. Between
two acknowledgements the alarm becomes pending exactly where the comparison rises; a restored
clock starts from what it has retained. -/
theorem alarm_edges (start : Dp8573aBatteryState)
    (hstart : start.counters.alarm_match_active = start.counters.current_alarm_matches) (steps : List RtcStep)
    (rtc : Dp8573a) (hrun : start.toDp8573a.apply_all steps = rtc) :
    rtc.counters.alarm_match_active = rtc.counters.current_alarm_matches ∧
      (∀ between, ¬Library.Latch.Occurs apply writes_pending rtc between →
        ((rtc.apply_all between).counters.alarm_pending = true ↔
          rtc.counters.alarm_pending = true ∨ Library.Latch.Occurs apply comparison_rises rtc between)) ∧
      (∀ acknowledgement : RtcStep, acknowledgement.acknowledges = true →
        ∀ between, ¬Library.Latch.Occurs apply writes_pending (rtc.apply acknowledgement) between →
          (((rtc.apply acknowledgement).apply_all between).counters.alarm_pending = true ↔
            Library.Latch.Occurs apply comparison_rises (rtc.apply acknowledgement) between)) ∧
      ∀ state halarm offline_milliseconds,
        ((rtc.apply (.Restore state halarm offline_milliseconds)).counters.alarm_pending = true ↔
          state.counters.alarm_pending = true ∨ rtc.comparison_rises (.Restore state halarm offline_milliseconds)) := by
  have hconsistent : rtc.counters.Consistent := by
    rw [← hrun]
    exact Library.Latch.run_keeps apply_consistent ⟨start.millisecond_lt, hstart⟩ steps
  have hquiet (rtc : Dp8573a) (step : RtcStep) (h : rtc.counters.Consistent) (hwrites : ¬rtc.writes_pending step) :
      (rtc.apply step).counters.alarm_pending = true ↔
        rtc.counters.alarm_pending = true ∨ rtc.comparison_rises step := by
    obtain ⟨hstep, hretained⟩ := not_or.mp hwrites
    rw [apply_latched_iff h (Bool.eq_false_iff.mpr hstep), not_not.mp hretained]
  have hbetween (rtc : Dp8573a) (h : rtc.counters.Consistent) (between : List RtcStep)
      (hnone : ¬Library.Latch.Occurs apply writes_pending rtc between) :
      (rtc.apply_all between).counters.alarm_pending = true ↔
        rtc.counters.alarm_pending = true ∨ Library.Latch.Occurs apply comparison_rises rtc between :=
    @Library.Latch.run_latched_iff _ _ apply _ (fun rtc => rtc.counters.alarm_pending) _ _ apply_consistent hquiet _ h _ hnone
  refine ⟨hconsistent.alarm, hbetween rtc hconsistent, ?_, ?_⟩
  · intro acknowledgement hacknowledges between hnone
    have hcleared : (rtc.apply acknowledgement).counters.alarm_pending = false := acknowledges_clears hacknowledges
    rw [hbetween _ (apply_consistent rtc acknowledgement hconsistent) between hnone, hcleared]
    simp
  · intro state halarm offline_milliseconds
    have hzero : rtc.moment (.Restore state halarm offline_milliseconds) 0 = state.toDp8573a := restore_zero state
    rw [apply_latched_iff hconsistent rfl, hzero]

/-- At the midnight of a daily alarm: the alarm becomes pending, and once acknowledged it does not
become so again while it still matches. -/
theorem alarm_edges_midnight :
    let evening := (leap_day_alarm ++ [RtcAccess.Write 0x17 [0x99]]).map RtcStep.Access
    let rtc := new.apply_all evening
    let acknowledge : RtcStep := .Access (.Write 0x03 [0x08])
    let hundredth : RtcStep := .Access (.AdvanceTime (10 * ATTOSECONDS_PER_MILLISECOND))
    Library.Latch.Occurs apply comparison_rises (rtc.apply acknowledge) [hundredth] ∧
      ¬Library.Latch.Occurs apply comparison_rises (((rtc.apply acknowledge).apply hundredth).apply acknowledge) [hundredth] := by
  intro evening rtc acknowledge hundredth
  have hquiet (rtc : Dp8573a) : ¬Library.Latch.Occurs apply writes_pending rtc [hundredth] := by
    rintro (⟨hacknowledges | hretained⟩ | hnone)
    · exact absurd hacknowledges Bool.false_ne_true
    · exact hretained (congrArg (·.counters.alarm_pending) advance_time_zero)
    · exact hnone
  have hstart : (battery_state new new_consistent).counters.alarm_match_active =
      (battery_state new new_consistent).counters.current_alarm_matches := new_consistent.alarm
  obtain ⟨-, -, hbefore, -⟩ := alarm_edges (battery_state new new_consistent) hstart evening rtc rfl
  have hran : new.apply_all (evening ++ [acknowledge, hundredth]) = (rtc.apply acknowledge).apply hundredth := by
    unfold apply_all
    rw [List.foldl_append]
    rfl
  obtain ⟨-, -, hafter, -⟩ := alarm_edges (battery_state new new_consistent) hstart _ _ hran
  constructor
  · exact (hbefore acknowledge rfl [hundredth] (hquiet _)).mp (by decide +kernel)
  · intro hrises
    have hpending := (hafter acknowledge rfl [hundredth] (hquiet _)).mpr hrises
    exact absurd hpending (by decide +kernel)

end Dp8573a

end se_device.dp8573a
