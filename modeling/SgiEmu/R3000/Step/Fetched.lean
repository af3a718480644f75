import SgiEmu.R3000.Step.Spec

open se_core se_core.bus se_cpu.cache se_cpu.cp0 se_cpu.cp1 se_cpu.mmu se_cpu.decode se_cpu.state

namespace se_cpu.R3000

variable {β : Type}

/-- The instruction a step executes, with the state and the bus it executes in;
none when the step is over before that. -/
def fetched (cpu : R3000) (bus : PhysicalBus β) (bus_state : β) : Option (State × Instruction × β) :=
  if cpu.state.cp0.is_tlb_shutdown || cpu.state.pc &&& 3#32 != 0 then none
  else
    match cpu.state.sampled.translate_address cpu.state.pc .Instruction with
    | (.error _, _) => none
    | (.ok translation, state) =>
      match state.read_instruction translation bus bus_state with
      | (.error _, _, _) => none
      | (.ok bytes, state, bus_state) =>
        if state.cp0.interrupt_requested then none
        else
          match (cpu.decode_word translation.address.get (from_be_bytes bytes)).1 with
          | .Implemented instruction => some (state, instruction, bus_state)
          | _ => none

theorem fetched_of_instruction (cpu : R3000) (bus : PhysicalBus β) (bus_state : β) (instruction : Instruction)
    (h : (cpu.fetched bus bus_state).map (·.2.1) = some instruction) :
    cpu.fetched bus bus_state =
      some (((cpu.fetched bus bus_state).map (·.1)).getD cpu.state, instruction,
        ((cpu.fetched bus bus_state).map (·.2.2)).getD bus_state) := by
  obtain ⟨found, hfound, heq⟩ := Option.map_eq_some_iff.mp h
  rw [hfound, ← heq]
  rfl

/-- A step that executes no instruction fails or enters an exception from the
registers it started with. -/
inductive Unexecuted (cpu : R3000) : Except StepError StepEvent → State → Prop where
  | failed (error : StepError) (after : State) : Unexecuted cpu (.error error) after
  | excepted (exception : Exception) (backed_out : State) (h : SameProgram cpu.state backed_out) :
    Unexecuted cpu (.ok (.Exception exception))
      (backed_out.take_exception exception).synchronize_cp1_interrupt

/-- How a step relates to the instruction it fetched. -/
def Follows (cpu : R3000) (bus : PhysicalBus β) (bus_state : β) (result : StepResult β) :
    Option (State × Instruction × β) → Prop
  | some (ready, instruction, bus_ready) =>
    Prepared bus cpu.state bus_state ready bus_ready ∧
      ∃ cpu' : R3000, cpu'.cp0_condition = cpu.cp0_condition ∧
        result = cpu'.execute ready instruction bus bus_ready
  | none => Unexecuted cpu result.1 result.2.1.state

theorem dispatch_follows (cpu : R3000) {ready : State} {bus : PhysicalBus β} {bus_state bus_ready : β}
    (pc : U32) (address : PhysAddr) (word : U32) (hready : Prepared bus cpu.state bus_state ready bus_ready) :
    cpu.Follows bus bus_state (cpu.dispatch ready pc address word bus bus_ready)
      (if ready.cp0.interrupt_requested then none
        else
          match (cpu.decode_word address.get word).1 with
          | .Implemented instruction => some (ready, instruction, bus_ready)
          | _ => none) := by
  have hsame := hready.frame.1
  have hcondition := cpu.decode_word_cp0_condition address.get word
  unfold dispatch
  split
  · exact .excepted .Interrupt ready hsame
  · cases hdecoded : cpu.decode_word address.get word with
    | mk decoded cpu' =>
      rw [hdecoded] at hcondition
      cases decoded with
      | Implemented instruction => exact ⟨hready, cpu', hcondition, rfl⟩
      | UnsupportedCoprocessor unit =>
        dsimp only
        split
        · exact .failed _ ready
        · exact .excepted _ ready hsame
      | Undefined => exact .failed _ ready
      | Reserved => exact .excepted _ ready hsame

/-- A step executes the instruction it fetched, or none. -/
theorem step_follows (cpu : R3000) (bus : PhysicalBus β) (bus_state : β) :
    cpu.Follows bus bus_state (cpu.step bus bus_state) (cpu.fetched bus bus_state) := by
  have hspec := cpu.state.sampled.translate_address_spec cpu.state.pc .Instruction
  unfold step fetched
  by_cases hshut : cpu.state.cp0.is_tlb_shutdown
  · rw [if_pos hshut, hshut]
    exact .failed _ cpu.state
  · rw [if_neg hshut, Bool.eq_false_iff.mpr hshut, Bool.false_or]
    have hsampled : cpu.state.advance_cache_transition.advance_machine_interrupt_inputs = cpu.state.sampled := rfl
    have hsame : cpu.state.sampled.pc = cpu.state.pc := rfl
    simp only [hsampled, hsame]
    by_cases hpc : cpu.state.pc &&& 3#32 = 0
    · rw [if_neg (not_not_intro hpc), if_neg (by simp [hpc])]
      cases hresult : cpu.state.sampled.translate_address cpu.state.pc .Instruction with
      | mk result looked_up =>
        rw [hresult] at hspec
        match result with
        | .error .TlbShutdown => exact .failed _ looked_up
        | .error (.Exception exception) =>
          exact .excepted exception looked_up (cpu.state.sampled_same_program.trans hspec.1.same_program)
        | .ok translation =>
          have hlookups : LookupsOnly cpu.state.sampled looked_up := hspec
          have herror := (looked_up.read_instruction_frame translation bus bus_state).2.2
          dsimp only
          cases hread : looked_up.read_instruction translation bus bus_state with
          | mk result rest =>
            rw [hread] at herror
            obtain ⟨ready, bus_ready⟩ := rest
            cases result with
            | ok bytes =>
              exact cpu.dispatch_follows cpu.state.pc translation.address (from_be_bytes bytes)
                (.fetched translation bytes hlookups hread)
            | error fault =>
              obtain rfl : ready = looked_up := herror fault rfl
              cases fault with
              | HardwareFault =>
                exact .excepted _ ready (cpu.state.sampled_same_program.trans hlookups.same_program)
              | InvalidTransaction => exact .failed _ ready
              | UnimplementedAccess => exact .failed _ ready
    · rw [if_pos hpc, if_pos (bne_iff_ne.mpr hpc)]
      exact .excepted _ cpu.state.sampled cpu.state.sampled_same_program

end se_cpu.R3000
