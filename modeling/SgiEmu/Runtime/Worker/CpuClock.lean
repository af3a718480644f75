import SgiEmu.Library.Divider
import SgiEmu.Runtime.Worker

open se_core.time se_machine

namespace se_runtime.runtime

/-! ## Cycles -/

/-- The duration of the next cycle. -/
def CpuClock.advance_cycle (clock : CpuClock) : Nat × CpuClock :=
  let accumulated_remainder := clock.accumulated_remainder + clock.remainder_per_cycle
  if clock.frequency_hz ≤ accumulated_remainder then
    (clock.whole_attoseconds_per_cycle + 1,
      { clock with accumulated_remainder := accumulated_remainder - clock.frequency_hz })
  else (clock.whole_attoseconds_per_cycle + 0, { clock with accumulated_remainder })

/-- None where the machine or the clock of a configured worker is missing. Time passes for
the machine as `advance_time` says. -/
def Worker.finish_machine_instruction {platform : Platform}
    (advance_time : platform.Machine → Nat → MachineOutput platform.VideoOutput →
      platform.Machine × MachineOutput platform.VideoOutput)
    (worker : Worker platform) : Option (Worker platform) := do
  let (elapsed, cpu_clock) := (← worker.cpu_clock).advance_cycle
  let (machine, frontend_output) := advance_time (← worker.machine) elapsed worker.frontend_output
  return { worker with
    cpu_clock := some cpu_clock
    virtual_instant := worker.virtual_instant + elapsed
    machine := some machine
    frontend_output
    completed_instructions := worker.completed_instructions + 1 }

namespace CpuClock

variable {clock fresh started : CpuClock} {divider : Library.Divider} {frequency_hz remainder : Nat}

/-- The durations of some cycles in a row and the clock after them. -/
def advance_cycles (clock : CpuClock) : Nat → List Nat × CpuClock
  | 0 => ([], clock)
  | cycles + 1 =>
    let (elapsed, next) := clock.advance_cycle
    let (durations, last) := next.advance_cycles cycles
    (elapsed :: durations, last)

/-- The cycles of a frequency, `ATTOSECONDS_PER_SECOND / frequency_hz` attoseconds each. -/
def cycle (frequency_hz : Nat) (hpositive : 0 < frequency_hz) : Library.Divider where
  numerator := ATTOSECONDS_PER_SECOND
  denominator := frequency_hz
  numerator_pos := attoseconds_per_second_pos
  denominator_pos := hpositive

/-- The clock counts as a divider does, a unit of time at each cycle. -/
structure Counts (divider : Library.Divider) (clock : CpuClock) : Prop where
  frequency : clock.frequency_hz = divider.denominator
  whole : clock.whole_attoseconds_per_cycle = divider.numerator / divider.denominator
  part : clock.remainder_per_cycle = divider.numerator % divider.denominator
  accumulated_lt : clock.accumulated_remainder < divider.denominator

theorem new_isSome (hpositive : 0 < frequency_hz) : ∃ fresh, CpuClock.new frequency_hz = some fresh :=
  ⟨_, if_neg (Nat.ne_of_gt hpositive)⟩

theorem new_counts (hpositive : 0 < frequency_hz) (hnew : CpuClock.new frequency_hz = some fresh) :
    fresh.Counts (cycle frequency_hz hpositive) := by
  unfold CpuClock.new at hnew
  rw [if_neg (Nat.ne_of_gt hpositive)] at hnew
  obtain rfl := Option.some.inj hnew
  exact ⟨rfl, rfl, rfl, hpositive⟩

theorem restore_remainder_ok_iff : clock.restore_remainder remainder = .ok started ↔
    remainder < clock.frequency_hz ∧ started = { clock with accumulated_remainder := remainder } := by
  unfold restore_remainder
  split
  case isTrue hlarge =>
    constructor
    · intro h
      cases h
    · rintro ⟨hsmall, -⟩
      omega
  case isFalse hsmall =>
    constructor
    · intro h
      cases h
      exact ⟨by omega, rfl⟩
    · rintro ⟨-, rfl⟩
      rfl

theorem Counts.at_remainder (hcounts : clock.Counts divider) (h : remainder < divider.denominator) :
    Counts divider { clock with accumulated_remainder := remainder } := { hcounts with accumulated_lt := h }

/-- A reset leaves the clock as it was new. -/
theorem new_reset (hcounts : clock.Counts (cycle frequency_hz hpositive)) :
    CpuClock.new frequency_hz = some clock.reset := by
  unfold CpuClock.new reset
  rw [if_neg (Nat.ne_of_gt hpositive)]
  obtain ⟨rfl, hwhole, hpart, -⟩ := hcounts
  rw [hwhole, hpart]
  rfl

/-- Both sums of a cycle fit their hundred and twenty-eight bits, at any frequency of sixty-four. -/
theorem advance_cycle_fits (hcounts : clock.Counts (cycle frequency_hz hpositive)) (hword : frequency_hz < 2 ^ 64) :
    clock.accumulated_remainder + clock.remainder_per_cycle < 2 ^ 128 ∧
      clock.whole_attoseconds_per_cycle + 1 < 2 ^ 128 := by
  have haccumulated := hcounts.accumulated_lt
  have hpart := Nat.mod_lt ATTOSECONDS_PER_SECOND hpositive
  have hwhole := Nat.div_le_self ATTOSECONDS_PER_SECOND frequency_hz
  rw [hcounts.part, hcounts.whole]
  simp only [cycle] at *
  unfold ATTOSECONDS_PER_SECOND at *
  omega

/-- A cycle is one unit of time: its whole ticks, and the remainder carried on. -/
theorem advance_cycle_eq (hcounts : clock.Counts divider) : clock.advance_cycle =
    (divider.ticks clock.accumulated_remainder 1,
      { clock with accumulated_remainder := divider.carried clock.accumulated_remainder 1 }) := by
  rw [divider.ticks_one hcounts.accumulated_lt, divider.carried_one hcounts.accumulated_lt]
  by_cases hcarry : divider.denominator ≤ clock.accumulated_remainder + divider.numerator % divider.denominator
  · simp only [advance_cycle, hcounts.frequency, hcounts.whole, hcounts.part, if_pos hcarry]
  · simp only [advance_cycle, hcounts.frequency, hcounts.whole, hcounts.part, if_neg hcarry]

theorem Counts.advance_cycle (hcounts : clock.Counts divider) : clock.advance_cycle.2.Counts divider := by
  rw [advance_cycle_eq hcounts]
  exact hcounts.at_remainder (divider.carried_lt _ _)

/-! ## Runs -/

theorem advance_cycles_succ (clock : CpuClock) (cycles : Nat) : clock.advance_cycles (cycles + 1) =
    (clock.advance_cycle.1 :: (clock.advance_cycle.2.advance_cycles cycles).1,
      (clock.advance_cycle.2.advance_cycles cycles).2) := rfl

/-- Cycles in a row lose nothing: the clock after them is where one stretch of time would leave it. -/
theorem advance_cycles_clock (hcounts : clock.Counts divider) (cycles : Nat) :
    (clock.advance_cycles cycles).2 =
      { clock with accumulated_remainder := divider.carried clock.accumulated_remainder cycles } := by
  induction cycles generalizing clock with
  | zero =>
    rw [divider.carried_zero hcounts.accumulated_lt]
    rfl
  | succ cycles ih =>
    rw [advance_cycles_succ, ih hcounts.advance_cycle, advance_cycle_eq hcounts, Nat.add_comm, divider.carried_add]

theorem advance_cycles_sum (hcounts : clock.Counts divider) (cycles : Nat) :
    (clock.advance_cycles cycles).1.sum = divider.ticks clock.accumulated_remainder cycles := by
  induction cycles generalizing clock with
  | zero =>
    rw [divider.ticks_zero hcounts.accumulated_lt]
    rfl
  | succ cycles ih =>
    rw [advance_cycles_succ, List.sum_cons, ih hcounts.advance_cycle, advance_cycle_eq hcounts, Nat.add_comm cycles,
      divider.ticks_add]

theorem advance_cycles_length (clock : CpuClock) (cycles : Nat) : (clock.advance_cycles cycles).1.length = cycles := by
  induction cycles generalizing clock with
  | zero => rfl
  | succ cycles ih => rw [advance_cycles_succ, List.length_cons, ih]

theorem advance_cycles_add (clock : CpuClock) (cycles more : Nat) : clock.advance_cycles (cycles + more) =
    ((clock.advance_cycles cycles).1 ++ ((clock.advance_cycles cycles).2.advance_cycles more).1,
      ((clock.advance_cycles cycles).2.advance_cycles more).2) := by
  induction cycles generalizing clock with
  | zero =>
    rw [Nat.zero_add]
    rfl
  | succ cycles ih =>
    rw [Nat.add_right_comm, advance_cycles_succ, ih]
    rfl

/-- A clock of the frequency that takes up the remainder of another goes on as the other does. -/
theorem restore_remainder_resumes (hfresh : fresh.Counts divider) (hcounts : clock.Counts divider) :
    fresh.restore_remainder clock.accumulated_remainder = .ok clock := by
  refine restore_remainder_ok_iff.2 ⟨?_, ?_⟩
  · rw [hfresh.frequency]
    exact hcounts.accumulated_lt
  · obtain ⟨frequency_hz, whole, part, accumulated⟩ := clock
    simp only [mk.injEq, and_true]
    exact ⟨hcounts.frequency.trans hfresh.frequency.symm, hcounts.whole.trans hfresh.whole.symm,
      hcounts.part.trans hfresh.part.symm⟩

theorem Counts.advance_cycles (hcounts : clock.Counts divider) (cycles : Nat) :
    (clock.advance_cycles cycles).2.Counts divider := by
  rw [advance_cycles_clock hcounts]
  exact hcounts.at_remainder (divider.carried_lt _ _)

/-- The time of the CPU is exact at every frequency, from every remainder that is accepted and
over any number of cycles. The remainder is all a new clock needs to go on with the same durations. -/
theorem cycles_exact (hpositive : 0 < frequency_hz) : ∃ fresh, CpuClock.new frequency_hz = some fresh ∧
    ∀ remainder started, fresh.restore_remainder remainder = .ok started → ∀ cycles durations ended,
      started.advance_cycles cycles = (durations, ended) →
        durations.length = cycles ∧
        durations.sum = (cycles * ATTOSECONDS_PER_SECOND + remainder) / frequency_hz ∧
        ended.accumulated_remainder = (cycles * ATTOSECONDS_PER_SECOND + remainder) % frequency_hz ∧
        ended.accumulated_remainder < frequency_hz ∧
        ∃ restored, fresh.restore_remainder ended.accumulated_remainder = .ok restored ∧
          ∀ more, (started.advance_cycles (cycles + more)).1 = durations ++ (restored.advance_cycles more).1 ∧
            (started.advance_cycles (cycles + more)).2 = (restored.advance_cycles more).2 := by
  obtain ⟨fresh, hnew⟩ := new_isSome hpositive
  have hfresh := new_counts hpositive hnew
  refine ⟨fresh, hnew, ?_⟩
  intro remainder started hrestore cycles durations ended hran
  obtain ⟨haccepted, rfl⟩ := restore_remainder_ok_iff.1 hrestore
  rw [hfresh.frequency] at haccepted
  have hstarted := hfresh.at_remainder haccepted
  have hsum := advance_cycles_sum hstarted cycles
  have hended := advance_cycles_clock hstarted cycles
  have hcounts := hstarted.advance_cycles cycles
  have hlength := advance_cycles_length { fresh with accumulated_remainder := remainder } cycles
  have hadd := advance_cycles_add { fresh with accumulated_remainder := remainder } cycles
  rw [hran] at hsum hended hcounts hlength hadd
  have hremainder := congrArg accumulated_remainder hended
  refine ⟨hlength, ?_, ?_, hcounts.accumulated_lt, ended, restore_remainder_resumes hfresh hcounts, ?_⟩
  · rw [hsum, Nat.add_comm]
    rfl
  · rw [Nat.add_comm]
    exact hremainder
  · intro more
    rw [hadd more]
    exact ⟨rfl, rfl⟩

/-- A third of a second to a cycle, from two thirds of an attosecond: four cycles leave no remainder. -/
theorem cycles_exact_thirds : ∃ fresh started, CpuClock.new 3 = some fresh ∧
    fresh.restore_remainder 2 = .ok started ∧ (started.advance_cycles 4).1.sum = 1333333333333333334 ∧
    (started.advance_cycles 4).2.accumulated_remainder = 0 := by
  obtain ⟨fresh, hnew, hruns⟩ := @cycles_exact 3 (by decide)
  have hrestore : fresh.restore_remainder 2 = .ok { fresh with accumulated_remainder := 2 } := by
    obtain rfl := Option.some.inj hnew
    rfl
  obtain ⟨-, hsum, hremainder, -⟩ := hruns 2 _ hrestore 4 _ _ rfl
  exact ⟨fresh, _, hnew, hrestore, hsum, hremainder⟩

end CpuClock

/-! ## Instructions -/

namespace Worker

variable {platform : Platform} {worker : Worker platform} {clock : CpuClock} {machine : platform.Machine}
  {divider : Library.Divider}
  {advance_time : platform.Machine → Nat → MachineOutput platform.VideoOutput →
    platform.Machine × MachineOutput platform.VideoOutput}

/-- An instruction takes one cycle of the clock, of the worker's time and of the machine's. -/
theorem finish_machine_instruction_some (hmachine : worker.machine = some machine)
    (hclock : worker.cpu_clock = some clock) (hcounts : clock.Counts divider) :
    ∃ next, worker.finish_machine_instruction advance_time = some next ∧
      next.machine =
        some (advance_time machine (divider.ticks clock.accumulated_remainder 1) worker.frontend_output).1 ∧
      next.cpu_clock = some { clock with accumulated_remainder := divider.carried clock.accumulated_remainder 1 } ∧
      next.virtual_instant = worker.virtual_instant + divider.ticks clock.accumulated_remainder 1 ∧
      next.completed_instructions = worker.completed_instructions + 1 := by
  unfold finish_machine_instruction
  rw [hmachine, hclock, Option.bind_eq_bind, Option.bind_some, CpuClock.advance_cycle_eq hcounts]
  exact ⟨_, rfl, rfl, rfl, rfl, rfl⟩

/-- Some instructions in a row. -/
def finish_machine_instructions
    (advance_time : platform.Machine → Nat → MachineOutput platform.VideoOutput →
      platform.Machine × MachineOutput platform.VideoOutput)
    (worker : Worker platform) : Nat → Option (Worker platform)
  | 0 => some worker
  | instructions + 1 => do
    (← worker.finish_machine_instruction advance_time).finish_machine_instructions advance_time instructions

/-- The time of a configured worker is that of its clock, however long it runs. -/
theorem finish_machine_instructions_instant (hmachine : worker.machine = some machine)
    (hclock : worker.cpu_clock = some clock) (hcounts : clock.Counts divider) (instructions : Nat) :
    ∃ after, worker.finish_machine_instructions advance_time instructions = some after ∧
      after.virtual_instant = worker.virtual_instant + divider.ticks clock.accumulated_remainder instructions ∧
      after.cpu_clock = some
        { clock with accumulated_remainder := divider.carried clock.accumulated_remainder instructions } ∧
      after.completed_instructions = worker.completed_instructions + BitVec.ofNat 64 instructions := by
  induction instructions generalizing worker clock machine with
  | zero =>
    refine ⟨worker, rfl, ?_, ?_, ?_⟩
    · rw [divider.ticks_zero hcounts.accumulated_lt, Nat.add_zero]
    · rw [divider.carried_zero hcounts.accumulated_lt, hclock]
    · exact (BitVec.add_zero _).symm
  | succ instructions ih =>
    obtain ⟨next, hnext, hnext_machine, hnext_clock, hnext_instant, hnext_completed⟩ :=
      @finish_machine_instruction_some _ _ _ _ _ advance_time hmachine hclock hcounts
    have hremainder := divider.carried_lt clock.accumulated_remainder 1
    obtain ⟨after, hafter, hinstant, hended, hcompleted⟩ := ih hnext_machine hnext_clock (hcounts.at_remainder hremainder)
    refine ⟨after, ?_, ?_, ?_, ?_⟩
    · rw [finish_machine_instructions, hnext]
      exact hafter
    · rw [hinstant, hnext_instant, Nat.add_comm instructions, divider.ticks_add, Nat.add_assoc]
    · rw [hended, Nat.add_comm instructions, divider.carried_add]
    · rw [hcompleted, hnext_completed, Nat.add_comm instructions, BitVec.ofNat_add, BitVec.add_assoc]
      rfl

end Worker

end se_runtime.runtime
