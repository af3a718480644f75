import SgiEmu.Library.Mask
import SgiEmu.R3000.Step.Spec

open se_core se_core.bus se_cpu.cache se_cpu.cp0 se_cpu.cp1 se_cpu.mmu se_cpu.decode se_cpu.state
open Library.Mask

namespace se_cpu

variable {β : Type}

/-! ## The hardware interrupt sample -/

namespace cp0.Cp0

/-- CP0 registers that agree but for the hardware interrupt lines of Cause. -/
inductive SameButLines (cp0 : Cp0) : Cp0 → Prop where
  | intro (cause : U32) (h : cause &&& ~~~CAUSE_HARDWARE_IP_MASK = cp0.cause &&& ~~~CAUSE_HARDWARE_IP_MASK) :
    SameButLines cp0 { cp0 with cause }

theorem SameButLines.refl (cp0 : Cp0) : SameButLines cp0 cp0 := .intro cp0.cause rfl

/-- An input from 0 to 5 drives a line of Cause. -/
theorem hardware_line_within (input : Nat) (hinput : input < 6) :
    (1#32 <<< (input + 10)) &&& ~~~CAUSE_HARDWARE_IP_MASK = 0 := by
  have hcases : input = 0 ∨ input = 1 ∨ input = 2 ∨ input = 3 ∨ input = 4 ∨ input = 5 := by omega
  obtain rfl | rfl | rfl | rfl | rfl | rfl := hcases <;> rfl

theorem SameButLines.set_hardware_interrupt_line {cp0 cp0' : Cp0} (h : SameButLines cp0 cp0') (input : Nat)
    (hinput : input < 6) (asserted : Bool) :
    SameButLines cp0 (cp0'.set_hardware_interrupt_line input asserted) := by
  have hline := hardware_line_within input hinput
  obtain ⟨cause, hcause⟩ := h
  cases asserted with
  | true => exact .intro _ ((or_and_of_disjoint hline).trans hcause)
  | false => exact .intro _ ((and_not_and_of_disjoint hline).trans hcause)

end cp0.Cp0

namespace state

open cp0.Cp0

/-- Sampling the machine inputs changes hardware interrupt lines alone. -/
theorem State.sampled_cp0 (state : State) : SameButLines state.cp0 state.sampled.cp0 := by
  unfold State.sampled State.advance_machine_interrupt_inputs
  dsimp only
  refine List.foldlRecOn MACHINE_INTERRUPT_INPUTS _ (SameButLines.refl state.cp0)
    fun cp0 h input hinput => ?_
  refine h.set_hardware_interrupt_line input ?_ _
  simp only [MACHINE_INTERRUPT_INPUTS, List.mem_cons, List.not_mem_nil, or_false] at hinput
  omega

/-- The caches as a fetch of one word leaves them, when it succeeds. -/
def FetchFills (bus : PhysicalBus β) (bus_state : β) (before after : Caches) : Prop :=
  ∃ (bank : CacheBank) (address : PhysAddr) (bytes : Vector U8 4) (bus_state' : β),
    before.read bank address (Vector.replicate 4 0) bus bus_state = (.ok (), bytes, after, bus_state')

theorem State.read_instruction_caches {state after : State} {translation : Translation}
    {bus : PhysicalBus β} {bus_state bus_state' : β} {bytes : Vector U8 4}
    (h : state.read_instruction translation bus bus_state = (.ok bytes, after, bus_state')) :
    after.caches = state.caches ∨ FetchFills bus bus_state state.caches after.caches := by
  unfold State.read_instruction at h
  cases hcached : translation.cacheability with
  | Uncached =>
    simp only [hcached, Prod.mk.injEq] at h
    exact .inl (congrArg State.caches h.2.1.symm)
  | Cached =>
    simp only [hcached] at h
    split at h
    · rename_i data caches bus_after hread
      cases h
      exact .inr ⟨_, _, _, _, hread⟩
    · cases h

/-- What a step that returns an error may have changed. -/
structure Retryable (bus : PhysicalBus β) (bus_state : β) (before after : State) : Prop where
  gpr : after.gpr = before.gpr
  hi : after.hi = before.hi
  lo : after.lo = before.lo
  pc : after.pc = before.pc
  delay_slot : after.delay_slot = before.delay_slot
  pending_gpr_write : after.pending_gpr_write = before.pending_gpr_write
  pending_cp0_write : after.pending_cp0_write = before.pending_cp0_write
  pending_cp1_write : after.pending_cp1_write = before.pending_cp1_write
  cp1 : after.cp1 = before.cp1
  entries : after.mmu.entries = before.mmu.entries
  instruction_entries : after.mmu.instruction_entries = before.mmu.instruction_entries
  pending_instruction_writes :
    after.mmu.pending_instruction_writes = before.mmu.pending_instruction_writes
  cache_mode_contexts : after.cache_mode_contexts = before.cache_mode_contexts
  /-- Of CP0, at most the shutdown bit and the hardware interrupt sample. -/
  cp0 : ∃ cp0, (cp0 = before.cp0 ∨ cp0 = before.sampled.cp0) ∧ SameButLines before.cp0 cp0 ∧
    (after.cp0 = cp0 ∨ after.cp0 = cp0.enter_tlb_shutdown)
  machine_interrupt_inputs :
    after.machine_interrupt_inputs = before.machine_interrupt_inputs ∨
      after.machine_interrupt_inputs = before.sampled.machine_interrupt_inputs
  cache_mode : after.cache_mode = before.cache_mode ∨ after.cache_mode = before.cache_mode.advance
  caches : after.caches = before.caches ∨ FetchFills bus bus_state before.caches after.caches

variable {bus : PhysicalBus β} {bus_state : β}

theorem Retryable.refl (state : State) : Retryable bus bus_state state state := by
  constructor <;> first | rfl | exact .inl rfl | exact ⟨state.cp0, .inl rfl, .refl state.cp0, .inl rfl⟩

theorem Retryable.sampled (state : State) : Retryable bus bus_state state state.sampled := by
  constructor <;>
    first
    | rfl
    | exact .inl rfl
    | exact .inr rfl
    | exact ⟨state.sampled.cp0, .inr rfl, state.sampled_cp0, .inl rfl⟩

/-- The states an instruction is decided in can be retried from. -/
theorem Prepared.retryable {before ready : State} {bus_ready : β}
    (h : Prepared bus before bus_state ready bus_ready) :
    Retryable bus bus_state before ready ∧ ready.cp0 = before.sampled.cp0 := by
  have hsampled : Retryable bus bus_state before before.sampled := .sampled before
  cases h with
  | unfetched h =>
    cases h
    exact ⟨{ hsampled with }, rfl⟩
  | @fetched looked_up _ _ translation bytes h hread =>
    obtain ⟨-, hcaches, -⟩ := looked_up.read_instruction_frame translation bus bus_state
    rw [hread] at hcaches
    have hready : ready = { looked_up with caches := ready.caches } := hcaches
    have hfills := State.read_instruction_caches hread
    cases h
    rw [hready]
    exact ⟨{ hsampled with caches := hfills }, rfl⟩

theorem Stepped.retryable {cpu : R3000} {error : StepError} {after : State} {bus_state' : β}
    (h : R3000.Stepped bus cpu bus_state (.error error) after bus_state') :
    Retryable bus bus_state cpu.state after := by
  cases h with
  | shut_down h => exact .refl cpu.state
  | @failed ready bus_ready _ _ _ hready hfailed =>
    obtain ⟨hretryable, hcp0⟩ := hready.retryable
    have hlines := cpu.state.sampled_cp0
    rw [← hcp0] at hlines
    rcases hfailed with hlookups | hshut
    · cases hlookups
      exact { hretryable with cp0 := ⟨ready.cp0, .inr hcp0, hlines, .inl rfl⟩ }
    · cases hshut with
      | intro hlookups =>
        cases hlookups
        exact { hretryable with cp0 := ⟨ready.cp0, .inr hcp0, hlines, .inr rfl⟩ }

end state

/-- A step that fails with an error can be retried: it leaves the program's
registers, position and transfers in flight, and beyond those only what a step
does before it looks at its instruction. -/
theorem R3000.step_error_retryable (cpu : R3000) (bus : PhysicalBus β) (bus_state : β) (error : StepError)
    (h : (cpu.step bus bus_state).1 = .error error) :
    Retryable bus bus_state cpu.state (cpu.step bus bus_state).2.1.state := by
  have hstepped := R3000.step_spec bus cpu bus_state
  unfold R3000.Stepped.Result at hstepped
  rw [h] at hstepped
  exact Stepped.retryable hstepped

/-- A load from a word of the boot memory, and behind it one from past its end. -/
def loading_program : List U32 := [0x3c08bfc0, 0x3c0bbfe0, 0x8d090010, 0x8d6a0000, 0x12345678]

/-- The bit that isolates the data cache is moved to the status register, and the load from
past the end of the memory is in the delay slot of the branch that follows. -/
def branching_program : List U32 := [0x3c0bbfe0, 0x3c080041, 0x40886000, 0x10000001, 0x8d6a0000]

/-- Loads that fail, one behind a load whose register is still to be written, the other in a
delay slot, with a status transfer in flight and an interrupt line just asserted. -/
theorem R3000.step_error_retryable_in_flight :
    let loading := R3000.run_program loading_program 3 (.undecoded (TEST_CONFIG default))
    let branching := (R3000.run_program branching_program 4 (.undecoded (TEST_CONFIG default))).set_hardware_interrupt_lines 2
    (loading.state.pending_gpr_write.map (·.value) = some 0x12345678#32 ∧
      Retryable (R3000.boot_memory loading_program) () loading.state
        (loading.step (R3000.boot_memory loading_program) ()).2.1.state) ∧
    branching.state.delay_slot.map (·.origin_pc) = some 0xbfc0000c#32 ∧ branching.state.cache_mode.transition.isSome ∧
      Retryable (R3000.boot_memory branching_program) () branching.state
        (branching.step (R3000.boot_memory branching_program) ()).2.1.state := by
  intro loading branching
  refine ⟨⟨by decide +kernel, ?_⟩, by decide +kernel, by decide +kernel, ?_⟩
  · exact R3000.step_error_retryable _ _ () (.BusError ⟨0x1fe00000⟩ .InvalidTransaction) (by decide +kernel)
  · exact R3000.step_error_retryable _ _ () (.BusError ⟨0x1fe00000⟩ .InvalidTransaction) (by decide +kernel)

end se_cpu
