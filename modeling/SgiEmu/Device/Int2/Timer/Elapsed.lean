import SgiEmu.Device.Int2.Timer
import SgiEmu.Library.Divider

open se_core se_core.bus Library

namespace se_device.int2

/-! ## Counters divide -/

/-- A rate generator counts down from its reload value and starts over. -/
def CounterState.InRange : CounterState → Prop
  | .RateGenerator reload remaining => 0 < remaining ∧ remaining ≤ reload
  | _ => True

/-- A rate generator as a divider of its input pulses. -/
def pulse_divider (reload : Nat) (h : 0 < reload) : Divider :=
  { numerator := 1, denominator := reload, numerator_pos := Nat.one_pos, denominator_pos := h }

/-- The oscillator as a divider of virtual time. -/
def oscillator : Divider :=
  { numerator := 1, denominator := ATTOSECONDS_PER_TICK, numerator_pos := Nat.one_pos, denominator_pos := by decide }

namespace Counter

variable {counter : Counter} {reload remaining : Nat}

/-- A rate generator that has counted `reload - remaining` pulses of its period. -/
theorem advance_divider (hstate : counter.state = .RateGenerator reload remaining) (hpos : 0 < remaining)
    (hle : remaining ≤ reload) (pulses : Nat) :
    let divider := pulse_divider reload (Nat.lt_of_lt_of_le hpos hle)
    counter.advance pulses =
      (divider.ticks (reload - remaining) pulses,
        { counter with state := .RateGenerator reload (reload - divider.carried (reload - remaining) pulses) }) := by
  intro divider
  have hreload : 0 < reload := Nat.lt_of_lt_of_le hpos hle
  have hticks : divider.ticks (reload - remaining) pulses = (reload - remaining + pulses) / reload := by
    simp only [Divider.ticks, divider, pulse_divider, Nat.mul_one]
  have hcarried : divider.carried (reload - remaining) pulses = (reload - remaining + pulses) % reload := by
    simp only [Divider.carried, divider, pulse_divider, Nat.mul_one]
  rw [hticks, hcarried]
  unfold advance
  rw [hstate]
  dsimp only
  split
  · have hshort : reload - remaining + pulses < reload := by omega
    rw [Nat.div_eq_of_lt hshort, Nat.mod_eq_of_lt hshort, show reload - (reload - remaining + pulses) =
      remaining - pulses by omega]
  · -- the first terminal count takes what is left of the period
    have hsplit : reload - remaining + pulses = (pulses - remaining) + reload := by omega
    rw [hsplit, Nat.add_div_right _ hreload, Nat.add_mod_right, Nat.add_comm 1]
    congr 4
    have hmod := Nat.mod_lt (pulses - remaining) hreload
    split <;> omega

theorem advance_other (h : counter.rate_generator_state = none) (pulses : Nat) :
    counter.advance pulses = (0, counter) := by
  unfold rate_generator_state at h
  unfold advance
  cases hstate : counter.state with
  | RateGenerator reload remaining =>
    rw [hstate] at h
    cases h
  | _ => rfl

theorem rate_generator_state_eq_some :
    counter.rate_generator_state = some (reload, remaining) ↔ counter.state = .RateGenerator reload remaining := by
  unfold rate_generator_state
  cases counter.state <;> simp

/-- A counter runs as a rate generator within its period, or not at all. -/
theorem rate_generator_cases (h : counter.state.InRange) :
    counter.rate_generator_state = none ∨
      ∃ reload remaining, counter.state = .RateGenerator reload remaining ∧ 0 < remaining ∧ remaining ≤ reload := by
  unfold rate_generator_state
  cases hstate : counter.state with
  | RateGenerator reload remaining =>
    rw [hstate] at h
    exact .inr ⟨reload, remaining, rfl, h⟩
  | _ => exact .inl rfl

theorem advance_in_range (h : counter.state.InRange) (pulses : Nat) :
    (counter.advance pulses).2.state.InRange := by
  obtain hnone | ⟨reload, remaining, hstate, hpos, hle⟩ := rate_generator_cases h
  · rw [advance_other hnone]
    exact h
  · rw [advance_divider hstate hpos hle]
    have hcarried := (pulse_divider reload (Nat.lt_of_lt_of_le hpos hle)).carried_lt (reload - remaining) pulses
    exact ⟨Nat.sub_pos_of_lt hcarried, Nat.sub_le _ _⟩

/-- A counter advanced in two parts counts what it counts in one. -/
theorem advance_add (h : counter.state.InRange) (first second : Nat) :
    counter.advance (first + second) =
      ((counter.advance first).1 + ((counter.advance first).2.advance second).1,
        ((counter.advance first).2.advance second).2) := by
  obtain hnone | ⟨reload, remaining, hstate, hpos, hle⟩ := rate_generator_cases h
  · simp only [advance_other hnone]
  · have hreload : 0 < reload := Nat.lt_of_lt_of_le hpos hle
    have hcarried : (pulse_divider reload hreload).carried (reload - remaining) first < reload :=
      Divider.carried_lt _ _ _
    have hphase : reload - (reload - (pulse_divider reload hreload).carried (reload - remaining) first) =
        (pulse_divider reload hreload).carried (reload - remaining) first :=
      Nat.sub_sub_self (Nat.le_of_lt hcarried)
    rw [advance_divider hstate hpos hle, advance_divider hstate hpos hle]
    dsimp only
    rw [advance_divider rfl (Nat.sub_pos_of_lt hcarried) (Nat.sub_le _ _)]
    dsimp only
    rw [hphase, Divider.ticks_add, Divider.carried_add]

/-- What a rate generator puts out over some pulses and what it leaves due: it
puts out on the pulse after each terminal count. -/
theorem advance_with_deferred_output_divider (hstate : counter.state = .RateGenerator reload remaining)
    (hpos : 0 < remaining) (hle : remaining ≤ reload) {pulses : Nat} (hpulses : pulses ≠ 0) (output_due : Bool) :
    let divider := pulse_divider reload (Nat.lt_of_lt_of_le hpos hle)
    counter.advance_with_deferred_output pulses output_due =
      (output_due || decide (remaining < pulses), divider.carried (reload - remaining) pulses == 0,
        (counter.advance pulses).2) := by
  intro divider
  have hreload : 0 < reload := Nat.lt_of_lt_of_le hpos hle
  have hcarried : divider.carried (reload - remaining) pulses = (reload - remaining + pulses) % reload := by
    simp only [Divider.carried, divider, pulse_divider, Nat.mul_one]
  unfold advance_with_deferred_output
  rw [if_neg hpulses, rate_generator_state_eq_some.mpr hstate, hcarried]
  dsimp only
  split
  · have hsplit : reload - remaining + pulses = (pulses - remaining) + reload := by omega
    have hlater : (pulses - remaining != 0) = decide (remaining < pulses) := by
      rw [Bool.eq_iff_iff]
      simp only [bne_iff_ne, decide_eq_true_eq]
      omega
    rw [hsplit, Nat.add_mod_right, hlater]
  · have hshort : reload - remaining + pulses < reload := by omega
    have hnot : decide (remaining < pulses) = false := decide_eq_false (by omega)
    have hinside : (reload - remaining + pulses == 0) = false := beq_false_of_ne (by omega)
    rw [Nat.mod_eq_of_lt hshort, hnot, hinside, Bool.or_false]

theorem advance_with_deferred_output_other (h : counter.rate_generator_state = none) {pulses : Nat}
    (hpulses : pulses ≠ 0) (output_due : Bool) :
    counter.advance_with_deferred_output pulses output_due = (output_due, false, counter) := by
  unfold advance_with_deferred_output
  rw [if_neg hpulses, h, advance_other h]

theorem advance_zero (h : counter.state.InRange) : counter.advance 0 = (0, counter) := by
  obtain hnone | ⟨reload, remaining, hstate, hpos, hle⟩ := rate_generator_cases h
  · exact advance_other hnone 0
  · unfold advance
    rw [hstate]
    dsimp only
    rw [if_pos hpos, Nat.sub_zero, ← hstate]

theorem advance_with_deferred_output_counter (h : counter.state.InRange) (pulses : Nat) (output_due : Bool) :
    (counter.advance_with_deferred_output pulses output_due).2.2 = (counter.advance pulses).2 := by
  unfold advance_with_deferred_output
  by_cases hpulses : pulses = 0
  · rw [if_pos hpulses, hpulses, advance_zero h]
  · rw [if_neg hpulses]

/-- A counter with a deferred output advanced in two parts puts out, in either
part, what it puts out in one. -/
theorem advance_with_deferred_output_add (h : counter.state.InRange) (first second : Nat) (output_due : Bool) :
    let after := counter.advance_with_deferred_output first output_due
    let last := after.2.2.advance_with_deferred_output second after.2.1
    counter.advance_with_deferred_output (first + second) output_due = (after.1 || last.1, last.2) := by
  intro after last
  by_cases hfirst : first = 0
  · subst hfirst
    have hafter : after = (false, output_due, counter) := if_pos rfl
    simp only [last, hafter, Nat.zero_add, Bool.false_or]
  by_cases hsecond : second = 0
  · subst hsecond
    have hlast : last = (false, after.2) := if_pos rfl
    rw [hlast, Bool.or_false]
    rfl
  have hboth : first + second ≠ 0 := by omega
  obtain hnone | ⟨reload, remaining, hstate, hpos, hle⟩ := rate_generator_cases h
  · have hafter : after = (output_due, false, counter) := advance_with_deferred_output_other hnone hfirst output_due
    simp only [last, hafter]
    rw [advance_with_deferred_output_other hnone hsecond, advance_with_deferred_output_other hnone hboth,
      Bool.or_false]
  · have hreload : 0 < reload := Nat.lt_of_lt_of_le hpos hle
    have hcarried : (pulse_divider reload hreload).carried (reload - remaining) first < reload :=
      Divider.carried_lt _ _ _
    have hadvanced := advance_divider hstate hpos hle first
    have hafter := advance_with_deferred_output_divider hstate hpos hle hfirst output_due
    have hlast := advance_with_deferred_output_divider (congrArg (·.2.state) hadvanced)
      (Nat.sub_pos_of_lt hcarried) (Nat.sub_le _ _) hsecond
      ((pulse_divider reload hreload).carried (reload - remaining) first == 0)
    have hphase := Nat.sub_sub_self (Nat.le_of_lt hcarried)
    dsimp only at hlast
    rw [hphase, ← Divider.carried_add] at hlast
    rw [advance_with_deferred_output_divider hstate hpos hle hboth]
    simp only [last, after, hafter, hlast]
    rw [advance_add h]
    -- the period's end falls into the first part, between the two, or into the second
    have hend : decide (remaining < first + second) = (decide (remaining < first) ||
        ((pulse_divider reload hreload).carried (reload - remaining) first == 0 ||
          decide (reload - (pulse_divider reload hreload).carried (reload - remaining) first < second))) := by
      rw [Bool.eq_iff_iff]
      simp only [Bool.or_eq_true, decide_eq_true_eq, beq_iff_eq]
      by_cases hlater : remaining < first
      · exact ⟨fun _ => .inl hlater, fun _ => by omega⟩
      have hvalue : (pulse_divider reload hreload).carried (reload - remaining) first =
          (reload - remaining + first) % reload := by
        simp only [Divider.carried, pulse_divider, Nat.mul_one]
      obtain heq | hlt : first = remaining ∨ first < remaining := by omega
      · have hfull : (reload - remaining + first) % reload = 0 := by
          rw [heq, Nat.sub_add_cancel hle, Nat.mod_self]
        rw [hvalue, hfull]
        omega
      · rw [hvalue, Nat.mod_eq_of_lt (by omega)]
        omega
    rw [hend, Bool.or_assoc]

/-- A counter puts out once a pulse comes while an output is due, or once it is
past its terminal count. -/
theorem advance_with_deferred_output_iff (h : counter.state.InRange) (pulses : Nat) (output_due : Bool) :
    (counter.advance_with_deferred_output pulses output_due).1 = true ↔
      (output_due = true ∧ 0 < pulses) ∨
        ∃ reload remaining, counter.rate_generator_state = some (reload, remaining) ∧ remaining < pulses := by
  by_cases hpulses : pulses = 0
  · subst hpulses
    have hnone : counter.advance_with_deferred_output 0 output_due = (false, output_due, counter) := if_pos rfl
    rw [hnone]
    simp
  have hpos : 0 < pulses := Nat.pos_of_ne_zero hpulses
  obtain hnone | ⟨reload, remaining, hstate, hremaining, hle⟩ := rate_generator_cases h
  · rw [advance_with_deferred_output_other hnone hpulses, hnone]
    simp [hpos]
  · rw [advance_with_deferred_output_divider hstate hremaining hle hpulses,
      rate_generator_state_eq_some.mpr hstate]
    simp [hpos]

end Counter

/-! ## The timer -/

def TimerOutputs.union (first second : TimerOutputs) : TimerOutputs :=
  { counter_0 := first.counter_0 || second.counter_0, counter_1 := first.counter_1 || second.counter_1 }

/-- The output of one counter; counter 2 drives no interrupt. -/
def TimerOutputs.output (outputs : TimerOutputs) : CounterId → Bool
  | .Zero => outputs.counter_0
  | .One => outputs.counter_1
  | .Two => false

namespace ProgrammableTimer

structure InRange (timer : ProgrammableTimer) : Prop where
  counters : ∀ id, (timer.counter id).state.InRange
  phase : timer.oscillator_phase < ATTOSECONDS_PER_TICK

/-- The terminal counts of counter 2 in a stretch of time, and the counter after it. -/
def counter_2_advanced (timer : ProgrammableTimer) (elapsed : Nat) : Nat × Counter :=
  (timer.counter .Two).advance (oscillator.ticks timer.oscillator_phase elapsed)

variable {timer : ProgrammableTimer}

theorem advance_time_eq (timer : ProgrammableTimer) (elapsed : Nat) :
    let pulses := (timer.counter_2_advanced elapsed).1
    let zero := (timer.counter .Zero).advance_with_deferred_output pulses (getElem timer.deferred_outputs 0 Nat.zero_lt_two)
    let one := (timer.counter .One).advance_with_deferred_output pulses (getElem timer.deferred_outputs 1 Nat.one_lt_two)
    timer.advance_time elapsed =
      ({ counter_0 := zero.1, counter_1 := one.1 },
        { counters := #v[zero.2.2, one.2.2, (timer.counter_2_advanced elapsed).2]
          deferred_outputs := #v[zero.2.1, one.2.1]
          oscillator_phase := oscillator.carried timer.oscillator_phase elapsed }) := by
  have hpos : 0 < ATTOSECONDS_PER_TICK := by decide
  have hsplit : timer.oscillator_phase + elapsed =
      (timer.oscillator_phase + elapsed % ATTOSECONDS_PER_TICK) +
        ATTOSECONDS_PER_TICK * (elapsed / ATTOSECONDS_PER_TICK) := by
    rw [Nat.add_assoc, Nat.mod_add_div]
  have hticks : oscillator.ticks timer.oscillator_phase elapsed = elapsed / ATTOSECONDS_PER_TICK +
      (timer.oscillator_phase + elapsed % ATTOSECONDS_PER_TICK) / ATTOSECONDS_PER_TICK := by
    show (timer.oscillator_phase + elapsed * 1) / ATTOSECONDS_PER_TICK = _
    rw [Nat.mul_one, hsplit, Nat.add_mul_div_left _ _ hpos, Nat.add_comm]
  have hcarried : oscillator.carried timer.oscillator_phase elapsed =
      (timer.oscillator_phase + elapsed % ATTOSECONDS_PER_TICK) % ATTOSECONDS_PER_TICK := by
    show (timer.oscillator_phase + elapsed * 1) % ATTOSECONDS_PER_TICK = _
    rw [Nat.mul_one, hsplit, Nat.add_mul_mod_self_left]
  intro pulses zero one
  simp only [zero, one, pulses, counter_2_advanced, hticks, hcarried]
  rfl

theorem advance_time_in_range (h : timer.InRange) (elapsed : Nat) : (timer.advance_time elapsed).2.InRange := by
  rw [advance_time_eq]
  refine ⟨fun id => ?_, oscillator.carried_lt _ _⟩
  cases id with
  | Zero =>
    show (Counter.advance_with_deferred_output _ _ _).2.2.state.InRange
    rw [Counter.advance_with_deferred_output_counter (h.counters .Zero)]
    exact Counter.advance_in_range (h.counters .Zero) _
  | One =>
    show (Counter.advance_with_deferred_output _ _ _).2.2.state.InRange
    rw [Counter.advance_with_deferred_output_counter (h.counters .One)]
    exact Counter.advance_in_range (h.counters .One) _
  | Two => exact Counter.advance_in_range (h.counters .Two) _

theorem counter_2_advanced_add (h : timer.InRange) (first second : Nat) :
    let after := (timer.advance_time first).2
    timer.counter_2_advanced (first + second) =
      ((timer.counter_2_advanced first).1 + (after.counter_2_advanced second).1,
        (after.counter_2_advanced second).2) := by
  intro after
  have hafter : after.counter_2_advanced second = (timer.counter_2_advanced first).2.advance
      (oscillator.ticks (oscillator.carried timer.oscillator_phase first) second) := by
    simp only [after, advance_time_eq]
    rfl
  rw [hafter]
  unfold counter_2_advanced
  rw [Divider.ticks_add, Counter.advance_add (h.counters .Two)]

/-- Time that passes in two parts leaves the timer where it does in one, with
the same outputs in all. -/
theorem advance_time_add (h : timer.InRange) (first second : Nat) :
    let after := timer.advance_time first
    let last := after.2.advance_time second
    timer.advance_time (first + second) = (after.1.union last.1, last.2) := by
  intro after last
  have htwo := counter_2_advanced_add h first second
  have hzero := Counter.advance_with_deferred_output_add (h.counters .Zero) (timer.counter_2_advanced first).1
    ((timer.advance_time first).2.counter_2_advanced second).1 (getElem timer.deferred_outputs 0 Nat.zero_lt_two)
  have hone := Counter.advance_with_deferred_output_add (h.counters .One) (timer.counter_2_advanced first).1
    ((timer.advance_time first).2.counter_2_advanced second).1 (getElem timer.deferred_outputs 1 Nat.one_lt_two)
  rw [advance_time_eq timer (first + second)]
  simp only [htwo, hzero, hone, Divider.carried_add]
  simp only [last, after]
  rw [advance_time_eq (timer.advance_time first).2 second]
  simp only [advance_time_eq timer first]
  rfl

/-- When counter 2 has made more than `count` terminal counts. -/
theorem lt_counter_2_outputs (h : timer.InRange) {reload remaining : Nat}
    (hstate : (timer.counter .Two).rate_generator_state = some (reload, remaining)) (count elapsed : Nat) :
    count < (timer.counter_2_advanced elapsed).1 ↔
      (remaining + count * reload) * ATTOSECONDS_PER_TICK - timer.oscillator_phase ≤ elapsed := by
  have hstate := Counter.rate_generator_state_eq_some.mp hstate
  have hrange := h.counters .Two
  rw [hstate] at hrange
  obtain ⟨hpos, hle⟩ := hrange
  have hpulses : ∀ n, (pulse_divider reload (Nat.lt_of_lt_of_le hpos hle)).wait (reload - remaining) n =
      n * reload - (reload - remaining) := by
    intro n
    show (n * reload - (reload - remaining) + 1 - 1) / 1 = _
    rw [Nat.div_one, Nat.add_sub_cancel]
  have htime : ∀ n, oscillator.wait timer.oscillator_phase n =
      n * ATTOSECONDS_PER_TICK - timer.oscillator_phase := by
    intro n
    show (n * ATTOSECONDS_PER_TICK - timer.oscillator_phase + 1 - 1) / 1 = _
    rw [Nat.div_one, Nat.add_sub_cancel]
  have hcount : (count + 1) * reload - (reload - remaining) = remaining + count * reload := by
    rw [Nat.add_one_mul]
    omega
  unfold counter_2_advanced
  rw [Counter.advance_divider hstate hpos hle, ← Nat.succ_le_iff, ← Divider.wait_le, hpulses, hcount,
    ← Divider.wait_le, htime]

theorem counter_2_outputs_none (hstate : (timer.counter .Two).rate_generator_state = none) (elapsed : Nat) :
    (timer.counter_2_advanced elapsed).1 = 0 := by
  unfold counter_2_advanced
  rw [Counter.advance_other hstate]

/-- A counter driven by counter 2 puts out exactly when its deadline has come. -/
theorem downstream_output_iff (h : timer.InRange) (counter : CounterId) (index : Fin 2)
    (hindex : counter.interrupt_index = some index) (elapsed : Nat) :
    ((timer.counter counter).advance_with_deferred_output (timer.counter_2_advanced elapsed).1
        (timer.deferred_output index)).1 = true ↔
      ∃ deadline, timer.time_until_output counter = some deadline ∧ deadline ≤ elapsed := by
  rw [Counter.advance_with_deferred_output_iff (h.counters counter)]
  unfold time_until_output deferred_output
  simp only [hindex, Option.bind_eq_bind, Option.bind_some]
  cases hstate : (timer.counter .Two).rate_generator_state with
  | none =>
    rw [counter_2_outputs_none hstate]
    simp
  | some two =>
    obtain ⟨counter_2_reload, counter_2_remaining⟩ := two
    have hlt := lt_counter_2_outputs h hstate
    have hfirst := hlt 0 elapsed
    rw [Nat.zero_mul, Nat.add_zero] at hfirst
    simp only [Option.bind_some]
    by_cases hdue : timer.deferred_outputs[index] = true
    · -- an output already due comes with the next terminal count of counter 2
      rw [if_pos hdue]
      simp only [hdue, true_and, Option.pure_def, Option.some.injEq, exists_eq_left', ← hfirst]
      constructor
      · rintro (hpos | ⟨reload, remaining, -, hlater⟩)
        · exact hpos
        · exact Nat.zero_lt_of_lt hlater
      · exact Or.inl
    · rw [if_neg hdue]
      simp only [hdue, false_and, false_or, Bool.false_eq_true]
      cases hdownstream : (timer.counter counter).rate_generator_state with
      | none => simp
      | some downstream =>
        obtain ⟨downstream_reload, downstream_remaining⟩ := downstream
        have hlater := hlt downstream_remaining elapsed
        simp only [Option.some.injEq, Prod.mk.injEq, Option.bind_some, Option.pure_def, exists_eq_left',
          ← hlater]
        constructor
        · rintro ⟨reload, remaining, ⟨rfl, rfl⟩, hpast⟩
          exact hpast
        · intro hpast
          exact ⟨_, _, ⟨rfl, rfl⟩, hpast⟩

/-- The announced deadline of an output is exact. -/
theorem output_iff_deadline (h : timer.InRange) (counter : CounterId) (elapsed : Nat) :
    (timer.advance_time elapsed).1.output counter = true ↔
      ∃ deadline, timer.time_until_output counter = some deadline ∧ deadline ≤ elapsed := by
  rw [advance_time_eq]
  cases counter with
  | Zero => exact downstream_output_iff h .Zero 0 rfl elapsed
  | One => exact downstream_output_iff h .One 1 rfl elapsed
  | Two =>
    constructor
    · intro houtput
      cases houtput
    · rintro ⟨deadline, hdeadline, -⟩
      cases hdeadline

/-! ## Register accesses and time -/

theorem set_counter_in_range (h : timer.InRange) (id : CounterId) {counter : Counter}
    (hcounter : counter.state.InRange) : (timer.set_counter id counter).InRange := by
  refine ⟨fun other => ?_, h.phase⟩
  have hothers := h.counters other
  unfold ProgrammableTimer.counter at hothers
  show ((timer.counters.set id.index counter)[other.index]).state.InRange
  rw [Fin.getElem_fin] at hothers ⊢
  rw [Vector.getElem_set]
  split
  · exact hcounter
  · exact hothers

theorem clear_deferred_output_in_range (h : timer.InRange) (id : CounterId) :
    (timer.clear_deferred_output id).InRange := by
  unfold clear_deferred_output
  split
  · exact ⟨h.counters, h.phase⟩
  · exact h

end ProgrammableTimer

namespace Counter

variable {counter next : Counter}

theorem latch_state (h : counter.latch = .ok next) : next.state = counter.state := by
  unfold latch at h
  cases hstate : counter.state with
  | WaitingForGate reload =>
    rw [hstate] at h
    obtain rfl := Except.ok.inj h
    rfl
  | RateGenerator reload remaining =>
    rw [hstate] at h
    obtain rfl := Except.ok.inj h
    rfl
  | _ =>
    rw [hstate] at h
    cases h

theorem read_state {value : U8} (h : counter.read = .ok (value, next)) : next.state = counter.state := by
  unfold read peek at h
  cases hlatched : counter.latched with
  | none =>
    rw [hlatched] at h
    cases h
  | some latch =>
    rw [hlatched] at h
    cases h
    rfl

/-- A complete count starts a full period. -/
theorem write_in_range {value : U8} (h : counter.write value = .ok next) : next.state.InRange := by
  unfold write at h
  cases hstate : counter.state with
  | AwaitingCount mode low_byte =>
    rw [hstate] at h
    cases low_byte with
    | none =>
      obtain rfl := Except.ok.inj h
      trivial
    | some low_byte =>
      have hreload : 0 < if (value ++ low_byte : U16).toNat = 0 then COUNTER_ZERO_ENCODING
          else (value ++ low_byte : U16).toNat := by
        split
        · decide
        · exact Nat.pos_of_ne_zero ‹_›
      dsimp only at h
      generalize (if (value ++ low_byte : U16).toNat = 0 then COUNTER_ZERO_ENCODING
        else (value ++ low_byte : U16).toNat) = reload at h hreload
      split at h
      · cases h
      · obtain rfl := Except.ok.inj h
        cases mode with
        | Mode1 => trivial
        | Mode2 => exact ⟨hreload, Nat.le_refl _⟩
  | _ =>
    rw [hstate] at h
    cases h

end Counter

/-- What moves the timer: register accesses of the guest, and time. -/
inductive TimerEvent where
  | Reset
  | WriteControl (value : U8)
  | WriteCounter (counter : CounterId) (value : U8)
  | ReadCounter (counter : CounterId)
  | AdvanceTime (elapsed : Nat)
deriving DecidableEq, Repr

namespace ProgrammableTimer

/-- A refused access leaves the timer as it was. -/
def step (timer : ProgrammableTimer) : TimerEvent → ProgrammableTimer
  | .Reset => new
  | .WriteControl value => (timer.write_control value).toOption.getD timer
  | .WriteCounter counter value => (timer.write_counter counter value).toOption.getD timer
  | .ReadCounter counter => ((timer.read_counter counter).map Prod.snd).toOption.getD timer
  | .AdvanceTime elapsed => (timer.advance_time elapsed).2

def run (timer : ProgrammableTimer) (events : List TimerEvent) : ProgrammableTimer := events.foldl step timer

variable {timer : ProgrammableTimer}

theorem new_in_range : new.InRange := by
  refine ⟨fun id => ?_, by decide⟩
  cases id <;> trivial

theorem write_control_in_range (h : timer.InRange) {value : U8} {next : ProgrammableTimer}
    (hwrite : timer.write_control value = .ok next) : next.InRange := by
  unfold write_control at hwrite
  cases hdecode : ControlCommand.decode value with
  | error fault =>
    rw [hdecode] at hwrite
    cases hwrite
  | ok command =>
    rw [hdecode] at hwrite
    cases command with
    | Latch id =>
      cases hlatch : (timer.counter id).latch with
      | error fault =>
        simp only [Except.bind, bind, hlatch] at hwrite
        cases hwrite
      | ok latched =>
        simp only [Except.bind, bind, hlatch] at hwrite
        obtain rfl := Except.ok.inj hwrite
        refine set_counter_in_range h id ?_
        rw [Counter.latch_state hlatch]
        exact h.counters id
    | Configure id mode =>
      obtain rfl := Except.ok.inj hwrite
      have hconfigured : (Counter.configure mode).state.InRange := trivial
      exact clear_deferred_output_in_range (set_counter_in_range h id hconfigured) id
    | Quiesce id =>
      obtain rfl := Except.ok.inj hwrite
      have hquiesced : Counter.quiesce.state.InRange := trivial
      exact clear_deferred_output_in_range (set_counter_in_range h id hquiesced) id

theorem write_counter_in_range (h : timer.InRange) {id : CounterId} {value : U8} {next : ProgrammableTimer}
    (hwrite : timer.write_counter id value = .ok next) : next.InRange := by
  unfold write_counter at hwrite
  cases hcounter : (timer.counter id).write value with
  | error fault =>
    rw [hcounter] at hwrite
    cases hwrite
  | ok counter =>
    rw [hcounter] at hwrite
    obtain rfl := Except.ok.inj hwrite
    exact set_counter_in_range h id (Counter.write_in_range hcounter)

theorem read_counter_in_range (h : timer.InRange) {id : CounterId} {value : U8} {next : ProgrammableTimer}
    (hread : timer.read_counter id = .ok (value, next)) : next.InRange := by
  unfold read_counter at hread
  cases hcounter : (timer.counter id).read with
  | error fault =>
    rw [hcounter] at hread
    cases hread
  | ok result =>
    rw [hcounter] at hread
    cases hread
    refine set_counter_in_range h id ?_
    rw [Counter.read_state hcounter]
    exact h.counters id

/-- What an access that may be refused leaves. -/
theorem access_in_range (h : timer.InRange) {result : Except BusError ProgrammableTimer}
    (hok : ∀ next, result = .ok next → next.InRange) : (result.toOption.getD timer).InRange := by
  cases result with
  | error fault => exact h
  | ok next => exact hok next rfl

theorem step_in_range (h : timer.InRange) (event : TimerEvent) : (timer.step event).InRange := by
  cases event with
  | Reset => exact new_in_range
  | WriteControl value =>
    apply access_in_range h
    intro next hnext
    exact write_control_in_range h hnext
  | WriteCounter id value =>
    apply access_in_range h
    intro next hnext
    exact write_counter_in_range h hnext
  | ReadCounter id =>
    apply access_in_range h
    intro next hnext
    cases hread : timer.read_counter id with
    | error fault =>
      rw [hread] at hnext
      cases hnext
    | ok result =>
      rw [hread] at hnext
      obtain rfl := Except.ok.inj hnext
      exact read_counter_in_range h hread
  | AdvanceTime elapsed => exact advance_time_in_range h elapsed

theorem run_in_range (h : timer.InRange) (events : List TimerEvent) : (timer.run events).InRange := by
  unfold run
  induction events generalizing timer with
  | nil => exact h
  | cons event rest ih => exact ih (step_in_range h event)

/-- A deadline lies ahead. -/
theorem time_until_output_pos (h : timer.InRange) {counter : CounterId} {deadline : Nat}
    (hdeadline : timer.time_until_output counter = some deadline) : 0 < deadline := by
  rcases Nat.eq_zero_or_pos deadline with rfl | hpos
  · have houtput := (output_iff_deadline h counter 0).mpr ⟨0, hdeadline, Nat.le_refl 0⟩
    have hticks : oscillator.ticks timer.oscillator_phase 0 = 0 := Divider.ticks_zero _ h.phase
    have hpulses : (timer.counter_2_advanced 0).1 = 0 := by
      unfold counter_2_advanced
      rw [hticks, Counter.advance_zero (h.counters .Two)]
    rw [advance_time_eq, hpulses] at houtput
    cases counter <;> cases houtput
  · exact hpos

/-- From every reachable state time may be cut in two, and the announced
deadlines are exact. -/
theorem run_time_cut (events : List TimerEvent) :
    let timer := new.run events
    (∀ first second,
      let after := timer.advance_time first
      let last := after.2.advance_time second
      timer.advance_time (first + second) = (after.1.union last.1, last.2)) ∧
    ∀ counter,
      (∀ deadline, timer.time_until_output counter = some deadline →
        0 < deadline ∧
        (∀ elapsed, elapsed < deadline → (timer.advance_time elapsed).1.output counter = false) ∧
        (timer.advance_time deadline).1.output counter = true) ∧
      (timer.time_until_output counter = none →
        ∀ elapsed, (timer.advance_time elapsed).1.output counter = false) := by
  intro timer
  have hrange : timer.InRange := run_in_range new_in_range events
  refine ⟨advance_time_add hrange, fun counter => ⟨fun deadline hdeadline => ?_, fun hnone elapsed => ?_⟩⟩
  · have hexact := output_iff_deadline hrange counter
    refine ⟨time_until_output_pos hrange hdeadline, fun elapsed hearly => ?_, ?_⟩
    · rw [Bool.eq_false_iff, Ne, hexact]
      rintro ⟨other, hother, hle⟩
      obtain rfl := Option.some.inj (hdeadline.symm.trans hother)
      omega
    · exact (hexact deadline).mpr ⟨deadline, hdeadline, Nat.le_refl _⟩
  · rw [Bool.eq_false_iff, Ne, output_iff_deadline hrange counter]
    rintro ⟨deadline, hdeadline, -⟩
    rw [hnone] at hdeadline
    cases hdeadline

end ProgrammableTimer

end se_device.int2
