import SgiEmu.R3000.Cp0.Functional
import SgiEmu.R3000.State

open se_core se_core.bus se_cpu.cache se_cpu.cp0 se_cpu.cp1 se_cpu.mmu

namespace se_cpu.state

variable {β : Type}

/-- The mutators of the processor state that run between two instruction
boundaries. Each bus access names the bus it runs against. -/
inductive DatapathOperation (β : Type) where
  | set_hardware_interrupt_lines (lines : U8)
  | advance_machine_interrupt_inputs
  | synchronize_cp1_interrupt
  | translate_address (virtual_address : U32) (access : AccessType)
  | read_instruction (translation : Translation) (bus : PhysicalBus β) (bus_state : β)
  | load_data (translation : Translation) (length : Nat) (bus : PhysicalBus β) (bus_state : β)
  | store_memory (translation : Translation) (data : List U8) (bus : PhysicalBus β) (bus_state : β)
  | write_gpr (index : Nat) (value : U32)
  | write_hi (value : U32)
  | write_lo (value : U32)
  | commit_pending_cp1_write
  | cp1_mut (cp1 : Cp1)
  | tlbp_effect
  | restore_floating_point_backend (backend : se_float.Backend)

/-- The mutators of the processor state. -/
inductive StateOperation (β : Type) where
  | complete_instruction (delayed_resume_pc : Option U32) (effect : Option InstructionEffect)
  | take_exception (exception : Exception)
  | reset
  | advance_cache_transition
  | datapath (operation : DatapathOperation β)

namespace State

def apply_datapath (state : State) : DatapathOperation β → State
  | .set_hardware_interrupt_lines lines => state.set_hardware_interrupt_lines lines
  | .advance_machine_interrupt_inputs => state.advance_machine_interrupt_inputs
  | .synchronize_cp1_interrupt => state.synchronize_cp1_interrupt
  | .translate_address virtual_address access => (state.translate_address virtual_address access).2
  | .read_instruction translation bus bus_state => (state.read_instruction translation bus bus_state).2.1
  | .load_data translation length bus bus_state =>
    (state.load_data translation (Vector.replicate length 0) bus bus_state).2.2.1
  | .store_memory translation data bus bus_state => (state.store_memory translation data bus bus_state).2.1
  | .write_gpr index value => state.write_gpr index value
  | .write_hi value => state.write_hi value
  | .write_lo value => state.write_lo value
  | .commit_pending_cp1_write => state.commit_pending_cp1_write
  | .cp1_mut cp1 => { state with cp1 }
  | .tlbp_effect => state.tlbp_effect.2
  | .restore_floating_point_backend backend => state.restore_floating_point_backend backend

def apply (state : State) : StateOperation β → State
  | .complete_instruction delayed_resume_pc effect => state.complete_instruction delayed_resume_pc effect
  | .take_exception exception => state.take_exception exception
  | .reset => state.reset
  | .advance_cache_transition => state.advance_cache_transition
  | .datapath operation => state.apply_datapath operation

def run (state : State) (operations : List (StateOperation β)) : State := operations.foldl apply state

/-- A property of the initial state that every operation keeps holds after any run. -/
theorem run_of_invariant {P : State → Prop} (config : R3000Config)
    (operations : List (StateOperation β)) (hnew : P (new config))
    (hstep : ∀ state (operation : StateOperation β), P state → P (state.apply operation)) :
    P ((new config).run operations) :=
  List.foldlRecOn operations apply hnew fun state hstate operation _ => hstep state operation hstate

end State

/-- The CP0 updates a datapath operation can make: hardware interrupt levels,
the cache-miss bit and TLB shutdown. -/
inductive Signalled (cp0 : Cp0) : Cp0 → Prop where
  | unchanged : Signalled cp0 cp0
  | line {cp0' : Cp0} (input : Nat) (asserted : Bool) (h : Signalled cp0 cp0') :
    Signalled cp0 (cp0'.set_hardware_interrupt_line input asserted)
  | miss {cp0' : Cp0} (miss : Bool) (h : Signalled cp0 cp0') : Signalled cp0 (cp0'.set_cache_miss miss)
  | shutdown {cp0' : Cp0} (h : Signalled cp0 cp0') : Signalled cp0 cp0'.enter_tlb_shutdown

theorem Signalled.lines (cp0 : Cp0) (lines : U8) (inputs : List Nat) :
    Signalled cp0 (inputs.foldl (fun cp0 input =>
      cp0.set_hardware_interrupt_line input (lines &&& (1#8 <<< input) != 0)) cp0) :=
  List.foldlRecOn inputs _ .unchanged fun _ h input _ => h.line input _

theorem Signalled.trans {cp0 cp0' cp0'' : Cp0} (h : Signalled cp0 cp0') (h' : Signalled cp0' cp0'') :
    Signalled cp0 cp0'' := by
  induction h' with
  | unchanged => exact h
  | line input asserted _ ih => exact ih.line input asserted
  | miss miss _ ih => exact ih.miss miss
  | shutdown _ ih => exact ih.shutdown

theorem Signalled.converges {cp0 cp0' : Cp0} (h : Signalled cp0 cp0') (hcp0 : cp0.Converges) :
    cp0'.Converges := by
  induction h with
  | unchanged => exact hcp0
  | line input asserted _ ih => exact ih.set_hardware_interrupt_line input asserted
  | miss miss _ ih => exact ih.set_cache_miss miss
  | shutdown _ ih => exact ih.enter_tlb_shutdown

/-- What a datapath operation leaves alone: the pending CP0 transfer, the
cache-control modes, and CP0 but for its external signals. -/
structure Quiet (state state' : State) : Prop where
  cp0 : Signalled state.cp0 state'.cp0
  pending_cp0_write : state'.pending_cp0_write = state.pending_cp0_write
  cache_mode : state'.cache_mode = state.cache_mode
  cache_mode_contexts : state'.cache_mode_contexts = state.cache_mode_contexts

namespace Quiet

theorem of_frame {state state' : State} (hcp0 : state'.cp0 = state.cp0)
    (hpending : state'.pending_cp0_write = state.pending_cp0_write)
    (hmode : state'.cache_mode = state.cache_mode)
    (hcontexts : state'.cache_mode_contexts = state.cache_mode_contexts) : Quiet state state' :=
  ⟨hcp0 ▸ .unchanged, hpending, hmode, hcontexts⟩

theorem refl (state : State) : Quiet state state := of_frame rfl rfl rfl rfl

theorem write_gpr_direct (state : State) (index : Nat) (value : U32) :
    Quiet state (state.write_gpr_direct index value) := by
  unfold State.write_gpr_direct
  split <;> exact of_frame rfl rfl rfl rfl

theorem commit_pending_gpr_write (state : State) : Quiet state state.commit_pending_gpr_write := by
  unfold State.commit_pending_gpr_write
  split
  · have h := write_gpr_direct { state with pending_gpr_write := none }
    exact ⟨(h _ _).cp0, (h _ _).pending_cp0_write, (h _ _).cache_mode, (h _ _).cache_mode_contexts⟩
  · exact refl state

theorem commit_pending_cp1_write (state : State) : Quiet state state.commit_pending_cp1_write := by
  unfold State.commit_pending_cp1_write
  split <;> exact of_frame rfl rfl rfl rfl

theorem translate_address (state : State) (virtual_address : U32) (access : AccessType) :
    Quiet state (state.translate_address virtual_address access).2 := by
  unfold State.translate_address
  split
  · exact of_frame rfl rfl rfl rfl
  · exact ⟨.shutdown .unchanged, rfl, rfl, rfl⟩
  · exact of_frame rfl rfl rfl rfl

theorem read_instruction (state : State) (translation : Translation) (bus : PhysicalBus β)
    (bus_state : β) : Quiet state (state.read_instruction translation bus bus_state).2.1 := by
  unfold State.read_instruction
  split
  · dsimp only
    split <;> exact of_frame rfl rfl rfl rfl
  · exact refl state

theorem load_data {length : Nat} (state : State) (translation : Translation) (data : Vector U8 length)
    (bus : PhysicalBus β) (bus_state : β) :
    Quiet state (state.load_data translation data bus bus_state).2.2.1 := by
  unfold State.load_data
  dsimp only
  split
  · exact ⟨.miss _ .unchanged, rfl, rfl, rfl⟩
  · split
    · exact of_frame rfl rfl rfl rfl
    · split <;> exact refl state

theorem store_memory (state : State) (translation : Translation) (data : List U8)
    (bus : PhysicalBus β) (bus_state : β) :
    Quiet state (state.store_memory translation data bus bus_state).2.1 := by
  unfold State.store_memory
  dsimp only
  split
  · exact of_frame rfl rfl rfl rfl
  · split <;> exact of_frame rfl rfl rfl rfl

theorem tlbp_effect (state : State) : Quiet state state.tlbp_effect.2 := by
  unfold State.tlbp_effect
  split
  · exact refl state
  · exact refl state
  · exact ⟨.shutdown .unchanged, rfl, rfl, rfl⟩

theorem trans {state state' state'' : State} (h : Quiet state state') (h' : Quiet state' state'') :
    Quiet state state'' :=
  ⟨h.cp0.trans h'.cp0, h'.pending_cp0_write.trans h.pending_cp0_write,
    h'.cache_mode.trans h.cache_mode, h'.cache_mode_contexts.trans h.cache_mode_contexts⟩

end Quiet

/-- Every datapath operation is quiet. -/
theorem State.apply_datapath_quiet (state : State) (operation : DatapathOperation β) :
    Quiet state (state.apply_datapath operation) := by
  cases operation with
  | set_hardware_interrupt_lines lines => exact .of_frame rfl rfl rfl rfl
  | advance_machine_interrupt_inputs => exact ⟨.lines _ _ _, rfl, rfl, rfl⟩
  | synchronize_cp1_interrupt => exact ⟨.line _ _ .unchanged, rfl, rfl, rfl⟩
  | translate_address virtual_address access => exact .translate_address state virtual_address access
  | read_instruction translation bus bus_state => exact .read_instruction state translation bus bus_state
  | load_data translation length bus bus_state => exact .load_data state translation _ bus bus_state
  | store_memory translation data bus bus_state =>
    exact .store_memory state translation data bus bus_state
  | write_gpr index value =>
    exact (Quiet.commit_pending_gpr_write state).trans (.write_gpr_direct _ index value)
  | write_hi value => exact .of_frame rfl rfl rfl rfl
  | write_lo value => exact .of_frame rfl rfl rfl rfl
  | commit_pending_cp1_write => exact .commit_pending_cp1_write state
  | cp1_mut cp1 => exact .of_frame rfl rfl rfl rfl
  | tlbp_effect => exact .tlbp_effect state
  | restore_floating_point_backend backend => exact .of_frame rfl rfl rfl rfl

/-! ## What the datapath touches -/

namespace State

theorem write_gpr_direct_touches (state : State) (index : Nat) (value : U32) :
    state.write_gpr_direct index value =
      { state with gpr := (state.write_gpr_direct index value).gpr } := by
  unfold write_gpr_direct
  split <;> rfl

theorem commit_pending_gpr_write_touches (state : State) :
    state.commit_pending_gpr_write =
      { state with gpr := state.commit_pending_gpr_write.gpr, pending_gpr_write := none } := by
  unfold commit_pending_gpr_write
  split
  · rw [write_gpr_direct_touches]
  · rename_i hnone
    rw [← hnone]

theorem write_gpr_touches (state : State) (index : Nat) (value : U32) :
    state.write_gpr index value =
      { state with gpr := (state.write_gpr index value).gpr, pending_gpr_write := none } := by
  unfold write_gpr
  rw [write_gpr_direct_touches, commit_pending_gpr_write_touches]

theorem commit_pending_cp1_write_touches (state : State) :
    state.commit_pending_cp1_write =
      { state with cp1 := state.commit_pending_cp1_write.cp1, pending_cp1_write := none } := by
  unfold commit_pending_cp1_write
  split
  · rfl
  · rename_i hnone
    rw [← hnone]

theorem read_instruction_touches (state : State) (translation : Translation) (bus : PhysicalBus β)
    (bus_state : β) :
    (state.read_instruction translation bus bus_state).2.1 =
      { state with caches := (state.read_instruction translation bus bus_state).2.1.caches } := by
  unfold read_instruction
  split
  · dsimp only
    split <;> rfl
  · rfl

theorem load_data_touches {length : Nat} (state : State) (translation : Translation)
    (data : Vector U8 length) (bus : PhysicalBus β) (bus_state : β) :
    (state.load_data translation data bus bus_state).2.2.1 =
      { state with
        cp0 := (state.load_data translation data bus bus_state).2.2.1.cp0
        caches := (state.load_data translation data bus bus_state).2.2.1.caches } := by
  unfold load_data
  dsimp only
  split
  · rfl
  · split
    · rfl
    · split <;> rfl

theorem store_memory_touches (state : State) (translation : Translation) (data : List U8)
    (bus : PhysicalBus β) (bus_state : β) :
    (state.store_memory translation data bus bus_state).2.1 =
      { state with caches := (state.store_memory translation data bus bus_state).2.1.caches } := by
  unfold store_memory
  dsimp only
  split
  · rfl
  · split <;> rfl

theorem translate_address_touches (state : State) (virtual_address : U32) (access : AccessType) :
    (state.translate_address virtual_address access).2 =
      { state with
        cp0 := (state.translate_address virtual_address access).2.cp0
        mmu := (state.mmu.translate virtual_address state.cp0.current_asid state.cp0.is_kernel_mode
          access).2 } := by
  unfold translate_address
  cases hresult : state.mmu.translate virtual_address state.cp0.current_asid state.cp0.is_kernel_mode
      access with
  | mk result mmu =>
    cases result with
    | ok translation => rfl
    | error fault => cases fault <;> rfl

theorem tlbp_effect_touches (state : State) :
    state.tlbp_effect.2 = { state with cp0 := state.tlbp_effect.2.cp0 } := by
  unfold tlbp_effect
  split <;> rfl

end State

/-! ## What an instruction boundary commits -/

namespace State

/-- The general registers once the pending transfer is in. -/
def committed_gpr (state : State) : Vector U32 32 :=
  match state.pending_gpr_write with
  | some write =>
    if write.index ≠ 0 then state.gpr.setIfInBounds write.index write.value else state.gpr
  | none => state.gpr

/-- CP0 once the pending functional change and then the pending transfer are in. -/
def committed_cp0 (state : State) : Cp0 :=
  match state.pending_cp0_write with
  | some write => state.cp0.commit_pending_functional.write_register write.index write.value
  | none => state.cp0.commit_pending_functional

/-- The CP1 registers once the pending transfer is in. -/
def committed_cp1 (state : State) : Cp1 :=
  match state.pending_cp1_write with
  | some write => commit_cp1_write state.cp1 write
  | none => state.cp1

/-- Both boundaries start from the state with all three transfers in and none pending. -/
theorem commit_pending_writes_eq (state : State) :
    state.commit_pending_writes =
      { state with
        gpr := state.committed_gpr
        cp0 := state.committed_cp0
        cp1 := state.committed_cp1
        pending_gpr_write := none
        pending_cp0_write := none
        pending_cp1_write := none } := by
  obtain ⟨gpr, hi, lo, pc, delay_slot, cp0, cp1, mmu, caches, pending_gpr_write, pending_cp0_write,
    pending_cp1_write, inputs, cache_mode, contexts⟩ := state
  have hgpr : ∀ (state : State) (index : Nat) (value : U32), state.write_gpr_direct index value =
      { state with gpr := if index ≠ 0 then state.gpr.setIfInBounds index value else state.gpr } := by
    intro state index value
    unfold write_gpr_direct
    split <;> rfl
  cases pending_gpr_write <;> cases pending_cp0_write <;> cases pending_cp1_write <;>
    simp only [commit_pending_writes, commit_pending_functional, commit_pending_gpr_write,
      commit_pending_cp0_write, commit_pending_cp1_write, committed_gpr, committed_cp0,
      committed_cp1, hgpr]

/-- Exception entry, with the interrupted address and the delay-slot flag read
off the pending delay slot. -/
theorem take_exception_eq (state : State) (exception : Exception) :
    state.take_exception exception =
      let saved := state.commit_pending_writes.save_cache_context
      let entry := saved.cp0.take_exception exception (saved.delay_slot.elim saved.pc DelaySlot.origin_pc)
        saved.delay_slot.isSome
      { saved with
        delay_slot := none
        pc := entry.1
        cp0 := entry.2.advance_random
        mmu := saved.mmu.advance_instruction_view } := by
  unfold take_exception
  generalize state.commit_pending_writes.save_cache_context = saved
  cases hslot : saved.delay_slot <;> simp only [hslot, Option.elim, Option.isSome]

/-- Noting a transfer only ever changes the transfer in flight. -/
theorem note_status_transfer_frame (state : State) (index : Nat) (value : U32) :
    state.note_status_transfer index value =
      { state with cache_mode := (state.note_status_transfer index value).cache_mode } := by
  unfold note_status_transfer
  split
  · rfl
  · split <;> rfl

end State

end se_cpu.state
