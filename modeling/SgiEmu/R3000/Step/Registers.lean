import SgiEmu.R3000.State.Operations
import SgiEmu.R3000.Step.Fetched

open se_core se_core.bus se_cpu.cache se_cpu.cp0 se_cpu.cp1 se_cpu.mmu se_cpu.decode se_cpu.state

namespace se_cpu

/-! ## Register writes -/

/-- What wrote a general register: an ALU or link instruction at once, a memory
load or a coprocessor move one instruction late. -/
inductive GprSource where
  | Immediate
  | Load
  | Transfer
deriving DecidableEq, Repr

structure GprWrite where
  index : Nat
  value : U32
  source : GprSource
deriving DecidableEq, Repr

def GprWrite.delayed (write : GprWrite) : Bool := write.source != .Immediate

/-- General registers with a write in them. -/
def GprWrite.apply (gpr : Vector U32 32) (write : GprWrite) : Vector U32 32 :=
  if write.index ≠ 0 then gpr.setIfInBounds write.index write.value else gpr

variable {β : Type}

/-! ### The write of an instruction -/

/-- The register an ALU instruction writes and the value, from the register
values it reads; none when it traps or writes `hi` and `lo`. -/
def alu.gpr_result (read : Nat → U32) (hi lo : U32) : AluInstruction → Option (Nat × U32)
  | .Sll rd rt shift_amount => some (rd, read rt <<< shift_amount)
  | .Srl rd rt shift_amount => some (rd, read rt >>> shift_amount)
  | .Sra rd rt shift_amount => some (rd, (read rt).sshiftRight shift_amount)
  | .Sllv rd rt rs => some (rd, read rt <<< (read rs &&& 0x1f#32).toNat)
  | .Srlv rd rt rs => some (rd, read rt >>> (read rs &&& 0x1f#32).toNat)
  | .Srav rd rt rs => some (rd, (read rt).sshiftRight (read rs &&& 0x1f#32).toNat)
  | .Mfhi rd => some (rd, hi)
  | .Mflo rd => some (rd, lo)
  | .Mthi _ | .Mtlo _ | .Mult .. | .Multu .. | .Div .. | .Divu .. => none
  | .Add rd rs rt => if (read rs).saddOverflow (read rt) then none else some (rd, read rs + read rt)
  | .Addu rd rs rt => some (rd, read rs + read rt)
  | .Sub rd rs rt => if (read rs).ssubOverflow (read rt) then none else some (rd, read rs - read rt)
  | .Subu rd rs rt => some (rd, read rs - read rt)
  | .And rd rs rt => some (rd, read rs &&& read rt)
  | .Or rd rs rt => some (rd, read rs ||| read rt)
  | .Xor rd rs rt => some (rd, read rs ^^^ read rt)
  | .Nor rd rs rt => some (rd, ~~~(read rs ||| read rt))
  | .Slt rd rs rt => some (rd, from_bool ((read rs).slt (read rt)))
  | .Sltu rd rs rt => some (rd, from_bool ((read rs).ult (read rt)))
  | .Addi rt rs immediate =>
    if (read rs).saddOverflow (sign_extend_immediate immediate) then none
    else some (rt, read rs + sign_extend_immediate immediate)
  | .Addiu rt rs immediate => some (rt, read rs + sign_extend_immediate immediate)
  | .Slti rt rs immediate => some (rt, from_bool ((read rs).slt (sign_extend_immediate immediate)))
  | .Sltiu rt rs immediate => some (rt, from_bool ((read rs).ult (sign_extend_immediate immediate)))
  | .Andi rt rs immediate => some (rt, read rs &&& immediate.setWidth 32)
  | .Ori rt rs immediate => some (rt, read rs ||| immediate.setWidth 32)
  | .Xori rt rs immediate => some (rt, read rs ^^^ immediate.setWidth 32)
  | .Lui rt immediate => some (rt, immediate.setWidth 32 <<< 16)

/-- The link register of a control instruction and the address after its delay slot. -/
def control.gpr_result (pc : U32) : ControlInstruction → Option (Nat × U32)
  | .Jal _ | .Bltzal .. | .Bgezal .. => some (31, pc + 8)
  | .Jalr rd _ => some (rd, pc + 8)
  | .J _ | .Jr _ | .Beq .. | .Bne .. | .Blez .. | .Bgtz .. | .Bltz .. | .Bgez .. => none

/-- The register a CP0 move copies into and the value. -/
def cp0.gpr_result (state : State) : Cp0Instruction → Option (Nat × U32)
  | .Mfc0 rt rd | .Cfc0 rt rd => if state.cp0.is_usable then some (rt, state.cp0.read_register rd) else none
  | _ => none

/-- The register a CP1 move copies into and the value. -/
def cp1.gpr_result (state : State) : Cp1Instruction → Option (Nat × U32)
  | .Mfc1 rt rd =>
    if state.cp0.coprocessor_usable 1 then some (rt, state.cp1.read_general_register rd) else none
  | .Cfc1 rt rd =>
    if state.cp0.coprocessor_usable 1 then some (rt, state.cp1.read_control_register rd) else none
  | _ => none

namespace load_store

/-- The bytes an aligned load reads, when it completes. -/
def loaded (length : Nat) (state : State) (base : Nat) (offset : U16) (bus : PhysicalBus β) (bus_state : β) :
    Option (Vector U8 length) :=
  match load length state base offset bus bus_state with
  | (.ok (.Completed bytes), _) => some bytes
  | _ => none

/-- The bytes an unaligned load reads, when it completes. -/
def loaded_fragment (length back : Nat) (state : State) (virtual_address : U32) (bus : PhysicalBus β)
    (bus_state : β) : Option (Vector U8 length) :=
  match translate_address state virtual_address .Load with
  | (.ok (.Completed translation), state) =>
    match read_translated length state { translation with address := ⟨translation.address.get - back⟩ } bus
      bus_state with
    | (.ok (.Completed bytes), _) => some bytes
    | _ => none
  | _ => none

/-- The register a load writes and the value, from the register value an
unaligned load merges with. -/
def gpr_result (merge : Nat → U32) (state : State) (instruction : MemoryInstruction) (bus : PhysicalBus β)
    (bus_state : β) : Option (Nat × U32) :=
  match instruction with
  | .Lb base rt offset =>
    (loaded 1 state base offset bus bus_state).map fun bytes => (rt, (getElem bytes 0 Nat.zero_lt_one).signExtend 32)
  | .Lbu base rt offset =>
    (loaded 1 state base offset bus bus_state).map fun bytes => (rt, (getElem bytes 0 Nat.zero_lt_one).setWidth 32)
  | .Lh base rt offset =>
    (loaded 2 state base offset bus bus_state).map fun bytes =>
      (rt, (getElem bytes 0 Nat.zero_lt_two ++ getElem bytes 1 Nat.one_lt_two).signExtend 32)
  | .Lhu base rt offset =>
    (loaded 2 state base offset bus bus_state).map fun bytes =>
      (rt, (getElem bytes 0 Nat.zero_lt_two ++ getElem bytes 1 Nat.one_lt_two).setWidth 32)
  | .Lw base rt offset =>
    (loaded 4 state base offset bus bus_state).map fun bytes => (rt, from_be_bytes bytes)
  | .Lwl base rt offset =>
    let virtual_address := effective_address state base offset
    let byte := (virtual_address &&& 3#32).toNat
    (loaded_fragment (4 - byte) 0 state virtual_address bus bus_state).map fun bytes =>
      (rt, merge_register (merge rt) 0 bytes)
  | .Lwr base rt offset =>
    let virtual_address := effective_address state base offset
    let byte := (virtual_address &&& 3#32).toNat
    (loaded_fragment (byte + 1) byte state virtual_address bus bus_state).map fun bytes =>
      (rt, merge_register (merge rt) (3 - byte) bytes)
  | .Sb .. | .Sh .. | .Sw .. | .Swl .. | .Swr .. => none

end load_store

/-- The general register an instruction writes, executed in a state whose
registers it reads. -/
def decode.Instruction.gpr_write (instruction : Instruction) (state : State) (bus : PhysicalBus β) (bus_state : β) :
    Option GprWrite :=
  match instruction with
  | .Alu instruction =>
    (alu.gpr_result state.read_gpr state.hi state.lo instruction).map fun (index, value) =>
      { index, value, source := .Immediate }
  | .Control instruction =>
    (control.gpr_result state.pc instruction).map fun (index, value) => { index, value, source := .Immediate }
  | .Cp0 instruction =>
    (cp0.gpr_result state instruction).map fun (index, value) => { index, value, source := .Transfer }
  | .Cp1 instruction =>
    (cp1.gpr_result state instruction).map fun (index, value) => { index, value, source := .Transfer }
  | .Memory instruction =>
    (load_store.gpr_result state.read_gpr_for_load_merge state instruction bus bus_state).map
      fun (index, value) => { index, value, source := .Load }
  | .Syscall | .Breakpoint => none

/-! ### What an instruction boundary does to the registers -/

namespace state

/-- The register write in flight. -/
def pending_write (state : State) : Option GprWrite :=
  state.pending_gpr_write.map fun write =>
    { index := write.index
      value := write.value
      source := if write.load_merge_bypass then .Load else .Transfer }

/-- The register write an instruction's effect puts in flight. -/
def delayed_write : Option InstructionEffect → Option GprWrite
  | some (.DelayedGprWrite index value load_merge_bypass) =>
    some { index, value, source := if load_merge_bypass then .Load else .Transfer }
  | _ => none

/-- The registers and the write in flight after an instruction that wrote `write`. -/
structure Wrote (gpr : Vector U32 32) (write : Option GprWrite) (after : State) : Prop where
  gpr : after.gpr = (write.filter fun write => !write.delayed).elim gpr (GprWrite.apply gpr)
  pending : pending_write after = write.filter GprWrite.delayed

/-- The committed registers are the registers with the write in flight in them. -/
theorem State.committed_gpr_eq (state : State) :
    state.committed_gpr = (pending_write state).elim state.gpr (GprWrite.apply state.gpr) := by
  unfold State.committed_gpr pending_write
  cases state.pending_gpr_write <;> rfl

/-- An immediate write lands after the one in flight, which it commits first. -/
theorem State.write_gpr_committed (state : State) (index : Nat) (value : U32) (source : GprSource) :
    (state.write_gpr index value).committed_gpr =
      GprWrite.apply state.committed_gpr { index, value, source } := by
  have hdirect : ∀ (state : State) (index : Nat) (value : U32), (state.write_gpr_direct index value).gpr =
      if index ≠ 0 then state.gpr.setIfInBounds index value else state.gpr := by
    intro state index value
    unfold State.write_gpr_direct
    split <;> rfl
  have hcommitted : state.commit_pending_gpr_write.gpr = state.committed_gpr := by
    unfold State.commit_pending_gpr_write State.committed_gpr
    cases state.pending_gpr_write with
    | none => rfl
    | some write => exact hdirect ..
  have hpending : (state.write_gpr index value).pending_gpr_write = none := by
    rw [State.write_gpr_touches]
  have hgpr : (state.write_gpr index value).gpr =
      if index ≠ 0 then state.committed_gpr.setIfInBounds index value else state.committed_gpr := by
    unfold State.write_gpr
    rw [hdirect, hcommitted]
  rw [State.committed_gpr, hpending]
  exact hgpr

theorem State.apply_effect_gpr (state : State) (effect : Option InstructionEffect) :
    (state.apply_effect effect).gpr = state.gpr := by
  cases effect with
  | none => rfl
  | some effect =>
    cases effect with
    | DelayedCp0Write index value => rw [State.apply_effect, State.note_status_transfer_frame]
    | RestoreStatus value =>
      show (State.restore_cache_context _).gpr = _
      unfold State.restore_cache_context
      split <;> rfl
    | _ => rfl

/-- With nothing else in flight, an effect puts its own delayed write in flight. -/
theorem State.apply_effect_pending {state : State} (h : state.pending_gpr_write = none)
    (effect : Option InstructionEffect) :
    pending_write (state.apply_effect effect) = delayed_write effect := by
  unfold pending_write
  cases effect with
  | none =>
    show state.pending_gpr_write.map _ = _
    rw [h]
    rfl
  | some effect =>
    cases effect with
    | DelayedGprWrite index value load_merge_bypass => rfl
    | DelayedCp0Write index value =>
      rw [State.apply_effect, State.note_status_transfer_frame]
      show state.pending_gpr_write.map _ = _
      rw [h]
      rfl
    | RestoreStatus value =>
      have hrestore : ∀ state : State,
          state.restore_cache_context.pending_gpr_write = state.pending_gpr_write := by
        intro state
        unfold State.restore_cache_context
        split <;> rfl
      show (State.restore_cache_context _).pending_gpr_write.map _ = _
      rw [hrestore, h]
      rfl
    | _ =>
      show state.pending_gpr_write.map _ = _
      rw [h]
      rfl

/-- A completing instruction's immediate write is in the registers before the
boundary, its late one is in flight after it. -/
theorem State.complete_instruction_wrote {gpr : Vector U32 32} {write : Option GprWrite} {state : State}
    {effect : Option InstructionEffect}
    (hgpr : state.committed_gpr = (write.filter fun write => !write.delayed).elim gpr (GprWrite.apply gpr))
    (hdelayed : delayed_write effect = write.filter GprWrite.delayed) (delayed_resume_pc : Option U32) :
    Wrote gpr write (state.complete_instruction delayed_resume_pc effect) := by
  have hcommitted := state.commit_pending_writes_eq
  refine ⟨?_, ?_⟩
  · show (state.commit_pending_writes.apply_effect effect).gpr = _
    rw [State.apply_effect_gpr, hcommitted]
    exact hgpr
  · show pending_write (state.commit_pending_writes.apply_effect effect) = _
    rw [State.apply_effect_pending (by rw [hcommitted]), hdelayed]

/-- An exception commits the write in flight and writes nothing of its own. -/
theorem State.take_exception_wrote (state : State) (exception : Exception) :
    Wrote state.committed_gpr none (state.take_exception exception) := by
  have hcommitted := state.commit_pending_writes_eq
  rw [State.take_exception_eq]
  refine ⟨?_, ?_⟩
  · show state.commit_pending_writes.gpr = _
    rw [hcommitted]
    rfl
  · show Option.map _ state.commit_pending_writes.pending_gpr_write = _
    rw [hcommitted]
    rfl

/-- The registers and the write in flight are the same in both states. -/
def SameRegisters (state state' : State) : Prop :=
  state'.gpr = state.gpr ∧ state'.pending_gpr_write = state.pending_gpr_write

theorem SameRegisters.committed {state state' : State} (h : SameRegisters state state') :
    state'.committed_gpr = state.committed_gpr := by
  unfold State.committed_gpr
  rw [h.1, h.2]

theorem SameRegisters.read_gpr {state state' : State} (h : SameRegisters state state') (index : Nat) :
    state'.read_gpr index = state.read_gpr index := by
  unfold State.read_gpr
  rw [h.1]

theorem SameRegisters.read_gpr_for_load_merge {state state' : State} (h : SameRegisters state state')
    (index : Nat) : state'.read_gpr_for_load_merge index = state.read_gpr_for_load_merge index := by
  unfold State.read_gpr_for_load_merge
  rw [h.2, h.read_gpr]

theorem SameRegisters.trans {state state' state'' : State} (h : SameRegisters state state')
    (h' : SameRegisters state' state'') : SameRegisters state state'' :=
  ⟨h'.1.trans h.1, h'.2.trans h.2⟩

theorem SameProgram.registers {state state' : State} (h : SameProgram state state') :
    SameRegisters state state' :=
  ⟨h.gpr, h.pending_gpr_write⟩

/-- What an instruction wrote is still written after a change that leaves the registers. -/
theorem SameRegisters.wrote {gpr : Vector U32 32} {write : Option GprWrite} {state state' : State}
    (hsame : SameRegisters state state') (h : Wrote gpr write state) : Wrote gpr write state' where
  gpr := hsame.1.trans h.gpr
  pending := by
    unfold pending_write
    rw [hsame.2]
    exact h.pending

/-- What an execution leaves for the instruction boundary: an immediate write in
the registers, or a late one in the effect. -/
def Writes (gpr : Vector U32 32) (write : Option GprWrite) : InstructionResult → State → Prop
  | .ok (.Completed (_, effect)), executed =>
    executed.committed_gpr = (write.filter fun write => !write.delayed).elim gpr (GprWrite.apply gpr) ∧
      delayed_write effect = write.filter GprWrite.delayed
  | .ok (.Exception _), executed => executed.committed_gpr = gpr ∧ write = none
  | .error _, _ => True

end state

/-! ### What the instructions write -/

/-- An ALU instruction writes its result at once; one that traps writes nothing. -/
theorem alu.execute_writes (state : State) (instruction : AluInstruction) :
    match alu.execute state instruction with
    | (.ok (), executed) =>
      Writes state.committed_gpr
        ((alu.gpr_result state.read_gpr state.hi state.lo instruction).map fun (index, value) =>
          { index, value, source := .Immediate }) (.ok (.Completed (none, none))) executed
    | (.error _, executed) =>
      executed.committed_gpr = state.committed_gpr ∧
        alu.gpr_result state.read_gpr state.hi state.lo instruction = none := by
  have hwrite : ∀ (index : Nat) (value : U32),
      Writes state.committed_gpr (some { index, value, source := .Immediate })
        (.ok (.Completed (none, none))) (state.write_gpr index value) :=
    fun index value => ⟨state.write_gpr_committed index value .Immediate, rfl⟩
  have hchecked : ∀ (index : Nat) (value : U32) (overflowed : Bool),
      match write_checked state index value overflowed with
      | (.ok (), executed) =>
        Writes state.committed_gpr
          ((if overflowed then none else some (index, value)).map fun (index, value) =>
            { index, value, source := .Immediate }) (.ok (.Completed (none, none))) executed
      | (.error _, executed) =>
        executed.committed_gpr = state.committed_gpr ∧
          (if overflowed then none else some (index, value)) = none := by
    intro index value overflowed
    cases overflowed with
    | true => exact ⟨rfl, rfl⟩
    | false => exact hwrite index value
  cases instruction with
  | Add rd rs rt => exact hchecked ..
  | Sub rd rs rt => exact hchecked ..
  | Addi rt rs immediate => exact hchecked ..
  | Mthi rs => exact ⟨rfl, rfl⟩
  | Mtlo rs => exact ⟨rfl, rfl⟩
  | Mult rs rt => exact ⟨rfl, rfl⟩
  | Multu rs rt => exact ⟨rfl, rfl⟩
  | Div rs rt => exact ⟨rfl, rfl⟩
  | Divu rs rt => exact ⟨rfl, rfl⟩
  | _ => exact hwrite ..

/-- A control instruction writes its link register at once, whether or not its branch is taken. -/
theorem control.execute_writes (state : State) (instruction : ControlInstruction) (resume_pc : Option U32) :
    Writes state.committed_gpr
      ((control.gpr_result state.pc instruction).map fun (index, value) =>
        { index, value, source := .Immediate })
      (.ok (.Completed (resume_pc, none))) (control.execute state instruction).2 := by
  cases instruction with
  | Jal target => exact ⟨state.write_gpr_committed .., rfl⟩
  | Jalr rd rs => exact ⟨state.write_gpr_committed .., rfl⟩
  | Bltzal rs offset => exact ⟨state.write_gpr_committed .., rfl⟩
  | Bgezal rs offset => exact ⟨state.write_gpr_committed .., rfl⟩
  | _ => exact ⟨rfl, rfl⟩

/-- A move from CP0 puts its value in flight; no other CP0 instruction writes a general register. -/
theorem cp0.execute_writes (state : State) (instruction : Cp0Instruction) (condition : Bool) :
    Writes state.committed_gpr
      ((cp0.gpr_result state instruction).map fun (index, value) => { index, value, source := .Transfer })
      (cp0.execute state instruction condition).1 (cp0.execute state instruction condition).2 := by
  unfold cp0.execute
  cases husable : state.cp0.is_usable with
  | false =>
    refine ⟨rfl, ?_⟩
    cases instruction <;> simp [cp0.gpr_result, husable]
  | true =>
    cases instruction with
    | Mfc0 rt rd =>
      simp only [cp0.gpr_result, husable]
      exact ⟨rfl, rfl⟩
    | Cfc0 rt rd =>
      simp only [cp0.gpr_result, husable]
      exact ⟨rfl, rfl⟩
    | Tlbp =>
      simp only [State.tlbp_effect]
      cases state.mmu.probe state.cp0.tlb_staging.1 with
      | Shutdown => trivial
      | _ => exact ⟨rfl, rfl⟩
    | _ => exact ⟨rfl, rfl⟩

namespace load_store

/-- Translating an address leaves the registers, a fault included. -/
theorem translate_address_registers (state : State) (virtual_address : U32) (access : AccessType) :
    SameRegisters state (translate_address state virtual_address access).2 := by
  have htouches := state.translate_address_touches virtual_address access
  unfold translate_address
  cases hresult : state.translate_address virtual_address access with
  | mk result after =>
    rw [hresult] at htouches
    have hregisters : SameRegisters state after := by
      rw [show after = _ from htouches]
      exact ⟨rfl, rfl⟩
    match result with
    | .ok _ => exact hregisters
    | .error (.Exception _) => exact hregisters
    | .error .TlbShutdown => exact hregisters

theorem read_translated_registers (length : Nat) (state : State) (translation : Translation)
    (bus : PhysicalBus β) (bus_state : β) :
    SameRegisters state (read_translated length state translation bus bus_state).2.1 := by
  have htouches := state.load_data_touches translation (Vector.replicate length 0) bus bus_state
  unfold read_translated
  cases hresult : state.load_data translation (Vector.replicate length 0) bus bus_state with
  | mk result rest =>
    rw [hresult] at htouches
    have hregisters : SameRegisters state rest.2.1 := by
      rw [show rest.2.1 = _ from htouches]
      exact ⟨rfl, rfl⟩
    cases result with
    | ok done => exact hregisters
    | error fault => cases fault <;> exact hregisters

theorem write_translated_registers (state : State) (translation : Translation) (data : List U8)
    (bus : PhysicalBus β) (bus_state : β) :
    SameRegisters state (write_translated state translation data bus bus_state).2.1 := by
  have htouches := state.store_memory_touches translation data bus bus_state
  unfold write_translated
  cases hresult : state.store_memory translation data bus bus_state with
  | mk result rest =>
    rw [hresult] at htouches
    have hregisters : SameRegisters state rest.1 := by
      rw [show rest.1 = _ from htouches]
      exact ⟨rfl, rfl⟩
    cases result <;> exact hregisters

theorem load_registers (length : Nat) (state : State) (base : Nat) (offset : U16) (bus : PhysicalBus β)
    (bus_state : β) : SameRegisters state (load length state base offset bus bus_state).2.1 := by
  have htranslate := translate_address_registers state (effective_address state base offset) .Load
  unfold load
  dsimp only
  split
  · exact ⟨rfl, rfl⟩
  · split
    · rename_i translation after hresult
      rw [hresult] at htranslate
      exact htranslate.trans (read_translated_registers length after translation bus bus_state)
    · rename_i hresult
      rwa [hresult] at htranslate
    · rename_i hresult
      rwa [hresult] at htranslate

theorem store_registers (state : State) (base : Nat) (offset : U16) (data : List U8) (bus : PhysicalBus β)
    (bus_state : β) : SameRegisters state (store state base offset data bus bus_state).2.1 := by
  have htranslate := translate_address_registers state (effective_address state base offset) .Store
  unfold store
  dsimp only
  split
  · exact ⟨rfl, rfl⟩
  · split
    · rename_i translation after hresult
      rw [hresult] at htranslate
      exact htranslate.trans (write_translated_registers after translation data bus bus_state)
    · rename_i hresult
      rwa [hresult] at htranslate
    · rename_i hresult
      rwa [hresult] at htranslate

/-- `Writes` of a memory instruction. -/
def ExecutionWrites (gpr : Vector U32 32) (write : Option GprWrite) :
    Except StepError (ExecutionOutcome (Option InstructionEffect)) × State × β → Prop
  | (.ok (.Completed effect), executed, _) => Writes gpr write (.ok (.Completed (none, effect))) executed
  | (.ok (.Exception exception), executed, _) => Writes gpr write (.ok (.Exception exception)) executed
  | (.error _, _, _) => True

/-- A load that completes puts its value in flight; one that raises writes nothing. -/
theorem load_gpr_writes (length : Nat) (value : Vector U8 length → U32) (state : State) (base rt : Nat)
    (offset : U16) (bus : PhysicalBus β) (bus_state : β) :
    ExecutionWrites state.committed_gpr
      (((loaded length state base offset bus bus_state).map fun bytes => (rt, value bytes)).map
        fun (index, value) => { index, value, source := .Load })
      (load_gpr length value state base rt offset bus bus_state) := by
  have hregisters := load_registers length state base offset bus bus_state
  unfold load_gpr loaded
  cases hload : load length state base offset bus bus_state with
  | mk result rest =>
    rw [hload] at hregisters
    match result with
    | .ok (.Completed bytes) => exact ⟨hregisters.committed, rfl⟩
    | .ok (.Exception _) => exact ⟨hregisters.committed, rfl⟩
    | .error _ => trivial

theorem store_gpr_writes (data : List U8) (state : State) (base : Nat) (offset : U16)
    (bus : PhysicalBus β) (bus_state : β) :
    ExecutionWrites state.committed_gpr none (store_gpr data state base offset bus bus_state) := by
  have hregisters := store_registers state base offset data bus bus_state
  unfold store_gpr
  split
  all_goals
    rename_i hstore
    rw [hstore] at hregisters
  · exact ⟨hregisters.committed, rfl⟩
  · exact ⟨hregisters.committed, rfl⟩
  · trivial

/-- The value merged with is the one before the access: reading memory leaves
the registers and the write in flight. -/
theorem load_merge_writes (length back start : Nat) (virtual_address : U32) (state : State) (rt : Nat)
    (bus : PhysicalBus β) (bus_state : β) :
    ExecutionWrites state.committed_gpr
      (((loaded_fragment length back state virtual_address bus bus_state).map fun bytes =>
        (rt, merge_register (state.read_gpr_for_load_merge rt) start bytes)).map
        fun (index, value) => { index, value, source := .Load })
      (load_merge length back start virtual_address state rt bus bus_state) := by
  have htranslate := translate_address_registers state virtual_address .Load
  unfold load_merge loaded_fragment
  cases hresult : translate_address state virtual_address .Load with
  | mk result after =>
    rw [hresult] at htranslate
    match result with
    | .ok (.Exception _) => exact ⟨htranslate.committed, rfl⟩
    | .error _ => trivial
    | .ok (.Completed translation) =>
      have hregisters := htranslate.trans (read_translated_registers length after
        { translation with address := ⟨translation.address.get - back⟩ } bus bus_state)
      dsimp only
      cases hread : read_translated length after
          { translation with address := ⟨translation.address.get - back⟩ } bus bus_state with
      | mk result rest =>
        rw [hread] at hregisters
        match result with
        | .ok (.Exception _) => exact ⟨hregisters.committed, rfl⟩
        | .error _ => trivial
        | .ok (.Completed memory) =>
          refine ⟨hregisters.committed, ?_⟩
          rw [SameRegisters.read_gpr_for_load_merge hregisters]
          rfl

/-- An unaligned store writes no register. -/
theorem store_merge_writes (back : Nat) (data : List U8) (virtual_address : U32) (state : State)
    (bus : PhysicalBus β) (bus_state : β) :
    ExecutionWrites state.committed_gpr none
      (store_merge back data virtual_address state bus bus_state) := by
  have htranslate := translate_address_registers state virtual_address .Store
  unfold store_merge
  split
  · rename_i hresult
    rw [hresult] at htranslate
    exact ⟨htranslate.committed, rfl⟩
  · trivial
  · rename_i translation after hresult
    rw [hresult] at htranslate
    have hregisters := htranslate.trans (write_translated_registers after
      { translation with address := ⟨translation.address.get - back⟩ } data bus bus_state)
    dsimp only
    split
    all_goals
      rename_i hwrite
      rw [hwrite] at hregisters
    · exact ⟨hregisters.committed, rfl⟩
    · exact ⟨hregisters.committed, rfl⟩
    · trivial

/-- Every load puts one register write in flight and every store none. -/
theorem execute_writes (state : State) (instruction : MemoryInstruction) (bus : PhysicalBus β)
    (bus_state : β) :
    ExecutionWrites state.committed_gpr
      ((gpr_result state.read_gpr_for_load_merge state instruction bus bus_state).map
        fun (index, value) => { index, value, source := .Load })
      (execute state instruction bus bus_state) := by
  cases instruction with
  | Lb base rt offset => exact load_gpr_writes 1 _ state base rt offset bus bus_state
  | Lbu base rt offset => exact load_gpr_writes 1 _ state base rt offset bus bus_state
  | Lh base rt offset => exact load_gpr_writes 2 _ state base rt offset bus bus_state
  | Lhu base rt offset => exact load_gpr_writes 2 _ state base rt offset bus bus_state
  | Lw base rt offset => exact load_gpr_writes 4 _ state base rt offset bus bus_state
  | Lwl base rt offset => exact load_merge_writes _ _ _ _ state rt bus bus_state
  | Lwr base rt offset => exact load_merge_writes _ _ _ _ state rt bus bus_state
  | Sb base rt offset => exact store_gpr_writes _ state base offset bus bus_state
  | Sh base rt offset => exact store_gpr_writes _ state base offset bus bus_state
  | Sw base rt offset => exact store_gpr_writes _ state base offset bus bus_state
  | Swl base rt offset => exact store_merge_writes _ _ _ state bus bus_state
  | Swr base rt offset => exact store_merge_writes _ _ _ state bus bus_state

end load_store

namespace cp1

theorem commit_pending_cp1_write_registers (state : State) :
    SameRegisters state state.commit_pending_cp1_write := by
  rw [State.commit_pending_cp1_write_touches]
  exact ⟨rfl, rfl⟩

/-- An arithmetic instruction of CP1 writes registers of CP1 only. -/
theorem finish_registers {V : Type} (write : Cp1 → Nat → V → Cp1) (state : State) (destination : Nat)
    (update : Fcr31Update) (value : Option V) :
    SameRegisters state (finish write state destination update value).2 :=
  commit_pending_cp1_write_registers state

theorem execute_binary_registers (state : State) (operation : Cp1BinaryOperation) (format : Cp1FloatFormat)
    (ft fs fd : Nat) : SameRegisters state (execute_binary state operation format ft fs fd).2 := by
  cases format <;> exact finish_registers ..

theorem execute_unary_registers (state : State) (operation : Cp1UnaryOperation) (format : Cp1FloatFormat)
    (fs fd : Nat) : SameRegisters state (execute_unary state operation format fs fd).2 := by
  cases operation with
  | Move => cases format <;> exact commit_pending_cp1_write_registers state
  | Absolute => cases format <;> exact finish_registers ..
  | Negate => cases format <;> exact finish_registers ..

theorem execute_conversion_registers (state : State) (operation : Cp1Conversion) (fs fd : Nat) :
    SameRegisters state (execute_conversion state operation fs fd).2 := by
  cases operation <;> exact finish_registers ..

/-- A compare delays its condition bit, which is no register write. -/
theorem execute_compare_registers (state : State) (format : Cp1FloatFormat) (condition : U8) (fs ft : Nat) :
    SameRegisters state (execute_compare state format condition fs ft).2 ∧
      delayed_write (execute_compare state format condition fs ft).1.1 = none := by
  unfold execute_compare
  dsimp only
  split
  · exact ⟨commit_pending_cp1_write_registers state, rfl⟩
  · exact ⟨commit_pending_cp1_write_registers state, rfl⟩

/-- `Writes` of a CP1 instruction; one that raises writes no general register. -/
def ExecutionWrites (gpr : Vector U32 32) (write : Option GprWrite) :
    Except StepError (ExecutionOutcome InstructionCompletion × Bool) × State × β → Prop
  | (.ok (outcome, exception_raised), executed, _) =>
    state.Writes gpr write (.ok outcome) executed ∧ (exception_raised = true → write = none)
  | (.error _, _, _) => True

/-- Of the CP1 instructions the two moves from it put a register write in flight. -/
theorem execute_writes (state : State) (instruction : Cp1Instruction) (bus : PhysicalBus β)
    (bus_state : β) :
    ExecutionWrites state.committed_gpr
      ((gpr_result state instruction).map fun (index, value) => { index, value, source := .Transfer })
      (execute state instruction bus bus_state) := by
  unfold execute
  cases husable : state.cp0.coprocessor_usable 1 with
  | false =>
    refine ⟨⟨rfl, ?_⟩, nofun⟩
    cases instruction <;> simp [gpr_result, husable]
  | true =>
    simp only [Bool.not_true, Bool.false_eq_true, ↓reduceIte]
    cases instruction with
    | Mfc1 rt rd =>
      simp only [gpr_result, husable]
      exact ⟨⟨rfl, rfl⟩, nofun⟩
    | Cfc1 rt rd =>
      simp only [gpr_result, husable]
      exact ⟨⟨rfl, rfl⟩, nofun⟩
    | Lwc1 base ft offset =>
      have hregisters := load_store.load_registers 4 state base offset bus bus_state
      dsimp only
      split
      · rename_i hload
        rw [hload] at hregisters
        exact ⟨⟨hregisters.committed, rfl⟩, nofun⟩
      · rename_i hload
        rw [hload] at hregisters
        exact ⟨⟨hregisters.committed, rfl⟩, nofun⟩
      · trivial
    | Swc1 base ft offset =>
      have hregisters := load_store.store_registers state base offset
        (to_be_bytes (state.cp1.read_general_register ft)).toList bus bus_state
      dsimp only
      split
      · rename_i hstore
        rw [hstore] at hregisters
        exact ⟨⟨hregisters.committed, rfl⟩, nofun⟩
      · rename_i hstore
        rw [hstore] at hregisters
        exact ⟨⟨hregisters.committed, rfl⟩, nofun⟩
      · trivial
    | Binary operation format ft fs fd =>
      exact ⟨⟨(execute_binary_registers state operation format ft fs fd).committed, rfl⟩, fun _ => rfl⟩
    | Unary operation format fs fd =>
      exact ⟨⟨(execute_unary_registers state operation format fs fd).committed, rfl⟩, fun _ => rfl⟩
    | Convert operation fs fd =>
      exact ⟨⟨(execute_conversion_registers state operation fs fd).committed, rfl⟩, fun _ => rfl⟩
    | Compare format condition fs ft =>
      obtain ⟨hregisters, hdelayed⟩ := execute_compare_registers state format condition fs ft
      exact ⟨⟨hregisters.committed, hdelayed⟩, fun _ => rfl⟩
    | UnimplementedOperation =>
      exact ⟨⟨(commit_pending_cp1_write_registers state).committed, rfl⟩, fun _ => rfl⟩
    | _ => exact ⟨⟨rfl, rfl⟩, nofun⟩

end cp1

end se_cpu
