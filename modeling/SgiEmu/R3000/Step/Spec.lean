import SgiEmu.R3000.Step.Frames

open se_core se_core.bus se_cpu.cache se_cpu.cp0 se_cpu.cp1 se_cpu.mmu se_cpu.decode se_cpu.state

namespace se_cpu

variable {β : Type}

/-! ## Instructions that touch no memory -/

@[simp]
theorem state.State.write_gpr_direct_pc (state : State) (index : Nat) (value : U32) :
    (state.write_gpr_direct index value).pc = state.pc := by
  unfold State.write_gpr_direct
  split <;> rfl

@[simp]
theorem state.State.write_gpr_pc (state : State) (index : Nat) (value : U32) :
    (state.write_gpr index value).pc = state.pc := by
  unfold State.write_gpr
  rw [State.write_gpr_direct_pc]
  unfold State.commit_pending_gpr_write
  split
  · exact State.write_gpr_direct_pc ..
  · rfl

@[simp]
theorem state.State.commit_pending_cp1_write_pc (state : State) :
    state.commit_pending_cp1_write.pc = state.pc := by
  unfold State.commit_pending_cp1_write
  split <;> rfl

namespace alu

theorem write_checked_spec (state : State) (index : Nat) (value : U32) (overflowed : Bool) :
    (write_checked state index value overflowed).2.pc = state.pc ∧
      ∀ exception, (write_checked state index value overflowed).1 = .error exception →
        (write_checked state index value overflowed).2 = state ∧ exception = .Overflow := by
  unfold write_checked
  split
  · exact ⟨rfl, fun exception h => ⟨rfl, (Except.error.inj h).symm⟩⟩
  · exact ⟨state.write_gpr_pc index value, fun exception h => by cases h⟩

/-- The overflow trap is taken before anything is written. -/
theorem execute_spec (state : State) (instruction : AluInstruction) :
    (execute state instruction).2.pc = state.pc ∧
      ∀ exception, (execute state instruction).1 = .error exception →
        (execute state instruction).2 = state ∧ exception = .Overflow := by
  have hwrite : ∀ state' : State, state'.pc = state.pc →
      state'.pc = state.pc ∧ ∀ exception, (Except.ok () : Except Exception Unit) = .error exception →
        state' = state ∧ exception = .Overflow :=
    fun state' hpc => ⟨hpc, fun exception h => by cases h⟩
  cases instruction with
  | Add rd rs rt => exact write_checked_spec ..
  | Sub rd rs rt => exact write_checked_spec ..
  | Addi rt rs immediate => exact write_checked_spec ..
  | Mthi rs => exact hwrite _ rfl
  | Mtlo rs => exact hwrite _ rfl
  | Mult rs rt => exact hwrite _ rfl
  | Multu rs rt => exact hwrite _ rfl
  | Div rs rt => exact hwrite _ rfl
  | Divu rs rt => exact hwrite _ rfl
  | _ => exact hwrite _ (state.write_gpr_pc ..)

end alu

namespace control

theorem execute_pc (state : State) (instruction : ControlInstruction) :
    (execute state instruction).2.pc = state.pc := by
  cases instruction with
  | Jal target => exact state.write_gpr_pc ..
  | Jalr rd rs => exact state.write_gpr_pc ..
  | Bltzal rs offset => exact state.write_gpr_pc ..
  | Bgezal rs offset => exact state.write_gpr_pc ..
  | _ => rfl

end control

namespace cp0

theorem execute_careful (state : State) (instruction : Cp0Instruction) (condition : Bool)
    (bus : PhysicalBus β) (bus_state : β) :
    Careful bus state bus_state
      ((execute state instruction condition).1, (execute state instruction condition).2, bus_state) := by
  unfold execute
  split
  · exact ⟨.refl state, .refl, Nat.zero_lt_succ 3⟩
  · cases instruction with
    | Tlbp =>
      unfold State.tlbp_effect
      cases state.mmu.probe state.cp0.tlb_staging.1 with
      | Shutdown => exact .inr (.intro (.refl state))
      | _ => exact rfl
    | _ => exact rfl

end cp0

namespace cp1

theorem finish_pc {V : Type} (write : Cp1 → Nat → V → Cp1) (state : State) (destination : Nat)
    (update : Fcr31Update) (value : Option V) :
    (finish write state destination update value).2.pc = state.pc :=
  state.commit_pending_cp1_write_pc

theorem execute_binary_pc (state : State) (operation : Cp1BinaryOperation) (format : Cp1FloatFormat)
    (ft fs fd : Nat) : (execute_binary state operation format ft fs fd).2.pc = state.pc := by
  cases format <;> exact finish_pc ..

theorem execute_unary_pc (state : State) (operation : Cp1UnaryOperation) (format : Cp1FloatFormat)
    (fs fd : Nat) : (execute_unary state operation format fs fd).2.pc = state.pc := by
  cases operation with
  | Move => cases format <;> exact state.commit_pending_cp1_write_pc
  | Absolute => cases format <;> exact finish_pc ..
  | Negate => cases format <;> exact finish_pc ..

theorem execute_conversion_pc (state : State) (operation : Cp1Conversion) (fs fd : Nat) :
    (execute_conversion state operation fs fd).2.pc = state.pc := by
  cases operation <;> exact finish_pc ..

theorem execute_compare_pc (state : State) (format : Cp1FloatFormat) (condition : U8) (fs ft : Nat) :
    (execute_compare state format condition fs ft).2.pc = state.pc := by
  unfold execute_compare
  dsimp only
  split <;> exact state.commit_pending_cp1_write_pc

/-- The result of a CP1 execution without its exception flag. -/
def outcome_of (result : Except StepError (ExecutionOutcome InstructionCompletion × Bool) × State × β) :
    InstructionResult × State × β :=
  (result.1.map Prod.fst, result.2)

/-- Backing out of a CP1 instruction raises no floating-point exception. -/
theorem execute_careful (state : State) (instruction : Cp1Instruction) (bus : PhysicalBus β)
    (bus_state : β) :
    Careful bus state bus_state (outcome_of (execute state instruction bus bus_state)) ∧
      ∀ exception raised, (execute state instruction bus bus_state).1 = .ok (.Exception exception, raised) →
        raised = false := by
  have hcompleted : ∀ (state' : State) (completion : InstructionCompletion) (raised : Bool) (bus_after : β),
      state'.pc = state.pc →
        Careful bus state bus_state (outcome_of (.ok (.Completed completion, raised), state', bus_after)) ∧
          ∀ exception raised', (Except.ok (.Completed completion, raised) :
              Except StepError (ExecutionOutcome InstructionCompletion × Bool)) =
            .ok (.Exception exception, raised') → raised' = false := by
    intro state' completion raised bus_after hpc
    exact ⟨hpc, fun exception raised' h => by cases h⟩
  unfold execute
  split
  · refine ⟨⟨.refl state, .refl, Nat.one_lt_succ_succ 2⟩, fun exception raised h => ?_⟩
    cases h
    rfl
  · cases instruction with
    | Lwc1 base ft offset =>
      have hload := load_store.load_careful 4 state base offset bus bus_state
      dsimp only
      split
      · rename_i hresult
        rw [hresult] at hload
        exact hcompleted _ _ _ _ hload
      · rename_i hresult
        rw [hresult] at hload
        refine ⟨hload, fun exception raised h => ?_⟩
        cases h
        rfl
      · rename_i hresult
        rw [hresult] at hload
        exact ⟨hload, fun exception raised h => by cases h⟩
    | Swc1 base ft offset =>
      have hstore := load_store.store_careful state base offset
        (to_be_bytes (state.cp1.read_general_register ft)).toList bus bus_state
      dsimp only
      split
      · rename_i hresult
        rw [hresult] at hstore
        exact hcompleted _ _ _ _ hstore
      · rename_i hresult
        rw [hresult] at hstore
        refine ⟨hstore, fun exception raised h => ?_⟩
        cases h
        rfl
      · rename_i hresult
        rw [hresult] at hstore
        exact ⟨hstore, fun exception raised h => by cases h⟩
    | Binary operation format ft fs fd =>
      exact hcompleted _ _ _ _ (execute_binary_pc state operation format ft fs fd)
    | Unary operation format fs fd =>
      exact hcompleted _ _ _ _ (execute_unary_pc state operation format fs fd)
    | Convert operation fs fd => exact hcompleted _ _ _ _ (execute_conversion_pc state operation fs fd)
    | Compare format condition fs ft =>
      exact hcompleted _ _ _ _ (execute_compare_pc state format condition fs ft)
    | UnimplementedOperation => exact hcompleted _ _ _ _ state.commit_pending_cp1_write_pc
    | _ => exact hcompleted _ _ _ _ rfl

end cp1

/-! ## Steps -/

namespace state

/-- States with the same registers, position and transfers in flight. -/
structure SameProgram (state state' : State) : Prop where
  gpr : state'.gpr = state.gpr
  hi : state'.hi = state.hi
  lo : state'.lo = state.lo
  pc : state'.pc = state.pc
  delay_slot : state'.delay_slot = state.delay_slot
  cp1 : state'.cp1 = state.cp1
  pending_gpr_write : state'.pending_gpr_write = state.pending_gpr_write
  pending_cp0_write : state'.pending_cp0_write = state.pending_cp0_write
  pending_cp1_write : state'.pending_cp1_write = state.pending_cp1_write

theorem SameProgram.trans {state state' state'' : State} (h : SameProgram state state')
    (h' : SameProgram state' state'') : SameProgram state state'' where
  gpr := h'.gpr.trans h.gpr
  hi := h'.hi.trans h.hi
  lo := h'.lo.trans h.lo
  pc := h'.pc.trans h.pc
  delay_slot := h'.delay_slot.trans h.delay_slot
  cp1 := h'.cp1.trans h.cp1
  pending_gpr_write := h'.pending_gpr_write.trans h.pending_gpr_write
  pending_cp0_write := h'.pending_cp0_write.trans h.pending_cp0_write
  pending_cp1_write := h'.pending_cp1_write.trans h.pending_cp1_write

theorem LookupsOnly.same_program {state state' : State} (h : LookupsOnly state state') :
    SameProgram state state' := by
  cases h
  constructor <;> rfl

theorem ShutDown.same_program {state state' : State} (h : ShutDown state state') :
    SameProgram state state' := by
  cases h with
  | intro hlookups =>
    refine hlookups.same_program.trans ?_
    constructor <;> rfl

theorem State.synchronize_cp1_interrupt_same_program (state : State) :
    SameProgram state state.synchronize_cp1_interrupt := by
  constructor <;> rfl

/-- The transfers and samples a step advances before it looks at the instruction. -/
def State.sampled (state : State) : State :=
  state.advance_cache_transition.advance_machine_interrupt_inputs

theorem State.sampled_same_program (state : State) : SameProgram state state.sampled := by
  constructor <;> rfl

/-- The states in which a step decides about its instruction: with the samples
advanced, after looking up the fetch address, and then after the fetch. -/
inductive Prepared (bus : PhysicalBus β) (state : State) (bus_state : β) : State → β → Prop where
  | unfetched {state' : State} (h : LookupsOnly state.sampled state') :
    Prepared bus state bus_state state' bus_state
  | fetched {state' state'' : State} {bus_state' : β} (translation : Translation) (bytes : Vector U8 4)
    (h : LookupsOnly state.sampled state')
    (hread : state'.read_instruction translation bus bus_state = (.ok bytes, state'', bus_state')) :
    Prepared bus state bus_state state'' bus_state'

theorem Prepared.frame {bus : PhysicalBus β} {state ready : State} {bus_state bus_ready : β}
    (h : Prepared bus state bus_state ready bus_ready) :
    SameProgram state ready ∧ ReadOnly bus bus_state bus_ready := by
  cases h with
  | unfetched h => exact ⟨state.sampled_same_program.trans h.same_program, .refl⟩
  | @fetched state' _ _ translation bytes h hread =>
    obtain ⟨hreads, hcaches, -⟩ := state'.read_instruction_frame translation bus bus_state
    rw [hread] at hreads hcaches
    have hready : ready = { state' with caches := ready.caches } := hcaches
    refine ⟨(state.sampled_same_program.trans h.same_program).trans ?_, hreads⟩
    rw [hready]
    constructor <;> rfl

end state

/-! ### Decoding -/

namespace decode

/-- A decoding that reports a missing coprocessor reports one of the four. -/
def DecodeResult.UnitValid : DecodeResult → Prop
  | .UnsupportedCoprocessor unit => unit < 4
  | _ => True

theorem decode_special_unit (word : U32) : (decode_special word).UnitValid := by
  unfold decode_special
  split <;> trivial

theorem decode_regimm_unit (word : U32) : (decode_regimm word).UnitValid := by
  unfold decode_regimm
  split <;> trivial

theorem transfer_unit (word : U32) {instruction : DecodeResult} (h : instruction.UnitValid) :
    (transfer word instruction).UnitValid := by
  unfold transfer
  split
  · exact h
  · trivial

theorem decode_branch_unit (word : U32) {on_false on_true : DecodeResult} (hfalse : on_false.UnitValid)
    (htrue : on_true.UnitValid) : (decode_branch word on_false on_true).UnitValid := by
  unfold decode_branch
  split
  · exact hfalse
  · split
    · exact htrue
    · trivial

theorem decode_cp0_operation_unit (word : U32) : (decode_cp0_operation word).UnitValid := by
  unfold decode_cp0_operation
  repeat' split
  all_goals trivial

theorem decode_cp0_unit (word : U32) : (decode_cp0 word).UnitValid := by
  unfold decode_cp0
  split
  · exact transfer_unit word trivial
  · exact transfer_unit word trivial
  · exact transfer_unit word trivial
  · exact transfer_unit word trivial
  · exact decode_branch_unit word trivial trivial
  · split
    · exact decode_cp0_operation_unit word
    · trivial

theorem decode_cp1_unit (word : U32) : (decode_cp1 word).UnitValid := by
  unfold decode_cp1
  split
  · exact transfer_unit word trivial
  · exact transfer_unit word trivial
  · exact transfer_unit word trivial
  · exact transfer_unit word trivial
  · exact decode_branch_unit word trivial trivial
  · split <;> trivial

theorem decode_unsupported_coprocessor_unit (word : U32) (h : opcode word < 0x14) :
    (decode_unsupported_coprocessor word).UnitValid := by
  have hunit : opcode word - 0x10 < 4 := by omega
  unfold decode_unsupported_coprocessor
  dsimp only
  split
  case h_6 =>
    split
    · exact hunit
    · trivial
  all_goals
    split
    · exact hunit
    · trivial

theorem decode_unit (word : U32) : (decode word).UnitValid := by
  have hbranch : ∀ (condition : Prop) [Decidable condition] (instruction : ControlInstruction),
      (if condition then control instruction else .Undefined).UnitValid := by
    intro condition _ instruction
    split <;> trivial
  unfold decode
  split
  all_goals first
    | trivial
    | exact decode_special_unit word
    | exact decode_regimm_unit word
    | exact hbranch ..
    | exact decode_cp0_unit word
    | exact decode_cp1_unit word
    | skip
  case h_19 hopcode => exact decode_unsupported_coprocessor_unit word (by omega)
  case h_20 hopcode => exact decode_unsupported_coprocessor_unit word (by omega)
  -- The loads and stores of the two coprocessors the machine lacks.
  all_goals
    rename_i hopcode
    show opcode word - _ < 4
    omega

end decode

namespace R3000

/-- Every decoded word in the cache is decoded as `decode` does. -/
def Coherent (cpu : R3000) : Prop :=
  ∀ (index address : Nat) (word : U32) (result : DecodeResult),
    cpu.decoded_words[index]?.join = some (address, word, result) → result = decode word

/-- How a step can go, and what it leaves in each case. -/
inductive Stepped (bus : PhysicalBus β) (cpu : R3000) (bus_state : β) :
    Except StepError StepEvent → State → β → Prop where
  | shut_down (h : cpu.state.cp0.is_tlb_shutdown) :
    Stepped bus cpu bus_state (.error .TlbShutdown) cpu.state bus_state
  | completed (resume_pc : Option U32) (effect : Option InstructionEffect) (executed : State) (bus_state' : β)
    (hpc : executed.pc = cpu.state.pc) :
    Stepped bus cpu bus_state (.ok (.Completed resume_pc))
      (executed.complete_instruction resume_pc effect).synchronize_cp1_interrupt bus_state'
  | trapped (executed : State) (bus_state' : β) :
    Stepped bus cpu bus_state (.ok .FloatingPointTrap)
      (executed.take_exception .Interrupt).synchronize_cp1_interrupt bus_state'
  | excepted (exception : Exception) (backed_out : State) (bus_state' : β)
    (hsame : SameProgram cpu.state backed_out) (hreads : ReadOnly bus bus_state bus_state')
    (hencodable : cpu.Coherent → exception.Encodable) :
    Stepped bus cpu bus_state (.ok (.Exception exception))
      (backed_out.take_exception exception).synchronize_cp1_interrupt bus_state'
  | failed {ready : State} {bus_ready : β} (error : StepError) (failed : State) (bus_state' : β)
    (hready : Prepared bus cpu.state bus_state ready bus_ready)
    (hfailed : LookupsOnly ready failed ∨ ShutDown ready failed) :
    Stepped bus cpu bus_state (.error error) failed bus_state'

/-- A step result, with the processor seen through its state. -/
def Stepped.Result (bus : PhysicalBus β) (cpu : R3000) (bus_state : β) (result : StepResult β) : Prop :=
  Stepped bus cpu bus_state result.1 result.2.1.state result.2.2

variable {bus : PhysicalBus β} {cpu : R3000} {bus_state : β}

theorem finish_spec {ready : State} {bus_ready : β} (cpu' : R3000) (executed : State)
    (outcome : InstructionResult) (bus_state' : β)
    (hready : Prepared bus cpu.state bus_state ready bus_ready)
    (hcareful : Careful bus ready bus_ready (outcome, executed, bus_state')) :
    Stepped.Result bus cpu bus_state (cpu'.finish executed outcome bus_state') := by
  obtain ⟨hsame, hreads⟩ := hready.frame
  match outcome with
  | .ok (.Completed (resume_pc, effect)) =>
    have hpc : executed.pc = ready.pc := hcareful
    exact .completed resume_pc effect executed bus_state' (hpc.trans hsame.pc)
  | .ok (.Exception exception) =>
    obtain ⟨hlookups, hafter, hencodable⟩ := hcareful
    exact .excepted exception executed bus_state' (hsame.trans hlookups.same_program)
      (hreads.trans hafter) fun _ => hencodable
  | .error error => exact .failed error executed bus_state' hready hcareful

theorem execute_spec {ready : State} {bus_ready : β} (cpu' : R3000) (instruction : Instruction)
    (hready : Prepared bus cpu.state bus_state ready bus_ready) :
    Stepped.Result bus cpu bus_state (cpu'.execute ready instruction bus bus_ready) := by
  unfold execute
  cases instruction
  all_goals dsimp only
  case Alu instruction =>
    obtain ⟨hpc, herror⟩ := alu.execute_spec ready instruction
    cases hresult : alu.execute ready instruction with
    | mk result executed =>
      rw [hresult] at hpc herror
      cases result with
      | ok done => exact finish_spec cpu' executed (.ok (.Completed (none, none))) bus_ready hready hpc
      | error exception =>
        obtain ⟨hstate, rfl⟩ := herror exception rfl
        obtain rfl : executed = ready := hstate
        exact finish_spec cpu' executed (.ok (.Exception .Overflow)) bus_ready hready
          ⟨.refl executed, .refl, trivial⟩
  case Control instruction =>
    exact finish_spec cpu' (control.execute ready instruction).2
      (.ok (.Completed (some (control.execute ready instruction).1, none))) bus_ready hready
      (control.execute_pc ready instruction)
  case Cp0 instruction =>
    exact finish_spec cpu' _ _ bus_ready hready
      (cp0.execute_careful ready instruction cpu'.cp0_condition bus bus_ready)
  case Cp1 instruction =>
    obtain ⟨hcareful, hraised⟩ := cp1.execute_careful ready instruction bus bus_ready
    cases hresult : cp1.execute ready instruction bus bus_ready with
    | mk result rest =>
      rw [hresult] at hcareful hraised
      obtain ⟨executed, bus_state'⟩ := rest
      match result with
      | .error error => exact Stepped.failed error executed bus_state' hready hcareful
      | .ok (.Completed (resume_pc, effect), exception_raised) =>
        dsimp only
        split
        · exact Stepped.trapped executed.synchronize_cp1_interrupt bus_state'
        · have hpc : executed.pc = ready.pc := hcareful
          exact Stepped.completed resume_pc effect executed.synchronize_cp1_interrupt bus_state'
            (hpc.trans hready.frame.1.pc)
      | .ok (.Exception exception, exception_raised) =>
        obtain rfl : exception_raised = false := hraised exception exception_raised rfl
        obtain ⟨hlookups, hafter, hencodable⟩ := hcareful
        obtain ⟨hsame, hreads⟩ := hready.frame
        exact Stepped.excepted exception executed.synchronize_cp1_interrupt bus_state'
          ((hsame.trans hlookups.same_program).trans executed.synchronize_cp1_interrupt_same_program)
          (hreads.trans hafter) fun _ => hencodable
  case Memory instruction =>
    have hcareful := load_store.execute_careful ready instruction bus bus_ready
    cases hresult : load_store.execute ready instruction bus bus_ready with
    | mk result rest =>
      rw [hresult] at hcareful
      obtain ⟨executed, bus_state'⟩ := rest
      match result with
      | .error error => exact Stepped.failed error executed bus_state' hready hcareful
      | .ok (.Completed effect) =>
        exact finish_spec cpu' executed (.ok (.Completed (none, effect))) bus_state' hready hcareful
      | .ok (.Exception exception) =>
        exact finish_spec cpu' executed (.ok (.Exception exception)) bus_state' hready hcareful
  case Syscall =>
    exact finish_spec cpu' ready (.ok (.Exception .Syscall)) bus_ready hready ⟨.refl ready, .refl, trivial⟩
  case Breakpoint =>
    exact finish_spec cpu' ready (.ok (.Exception .Breakpoint)) bus_ready hready ⟨.refl ready, .refl, trivial⟩

/-! ### The decode cache -/

theorem Coherent.insert {cpu : R3000} (h : cpu.Coherent) (slot address : Nat) (word : U32) :
    { cpu with
      decoded_words :=
        cpu.decoded_words.setIfInBounds slot (some (address, word, decode word)) }.Coherent := by
  intro index address' word' result hentry
  simp only [Array.getElem?_setIfInBounds] at hentry
  split at hentry
  · split at hentry
    · simp only [Option.join_some, Option.some.injEq, Prod.mk.injEq] at hentry
      obtain ⟨-, rfl, rfl⟩ := hentry
      rfl
    · cases hentry
  · exact h index address' word' result hentry

/-- A cached decoding is the decoding, and looking a word up keeps it so. -/
theorem Coherent.decode_word {cpu : R3000} (h : cpu.Coherent) (address : Nat) (word : U32) :
    (cpu.decode_word address word).1 = decode word ∧ (cpu.decode_word address word).2.Coherent := by
  have hinsert := h.insert ((address >>> 2) &&& (DECODE_CACHE_ENTRIES - 1)) address word
  unfold R3000.decode_word
  dsimp only
  split
  · rename_i cached_address cached_word cached hentry
    split
    · rename_i hhit
      obtain ⟨rfl, rfl⟩ := hhit
      exact ⟨h _ _ _ _ hentry, h⟩
    · exact ⟨rfl, hinsert⟩
  · exact ⟨rfl, hinsert⟩

theorem decode_word_cp0_condition (cpu : R3000) (address : Nat) (word : U32) :
    (cpu.decode_word address word).2.cp0_condition = cpu.cp0_condition := by
  unfold decode_word
  dsimp only
  split
  · split <;> rfl
  · rfl

theorem dispatch_spec (cpu : R3000) {ready : State} {bus_ready : β} (pc : U32) (address : PhysAddr) (word : U32)
    (hready : Prepared bus cpu.state bus_state ready bus_ready) :
    Stepped.Result bus cpu bus_state (cpu.dispatch ready pc address word bus bus_ready) := by
  obtain ⟨hsame, hreads⟩ := hready.frame
  have hdecoded : cpu.Coherent → (cpu.decode_word address.get word).1 = decode word :=
    fun h => (h.decode_word address.get word).1
  unfold dispatch
  split
  · exact Stepped.excepted .Interrupt ready bus_ready hsame hreads fun _ => trivial
  · split
    · exact execute_spec _ _ hready
    · rename_i unit cpu' hresult
      rw [hresult] at hdecoded
      split
      · exact Stepped.failed _ ready bus_ready hready (.inl (.refl ready))
      · exact Stepped.excepted (.CoprocessorUnusable unit) ready bus_ready hsame hreads
          fun hcoherent => by
            have hunit := decode_unit word
            rw [← hdecoded hcoherent] at hunit
            exact hunit
    · exact Stepped.failed _ ready bus_ready hready (.inl (.refl ready))
    · exact Stepped.excepted .ReservedInstruction ready bus_ready hsame hreads fun _ => trivial

/-- Every step goes in one of the ways `Stepped` lists. -/
theorem step_spec (bus : PhysicalBus β) (cpu : R3000) (bus_state : β) :
    Stepped.Result bus cpu bus_state (cpu.step bus bus_state) := by
  have hspec := cpu.state.sampled.translate_address_spec cpu.state.pc .Instruction
  unfold step
  split
  · rename_i hshut
    exact Stepped.shut_down hshut
  · dsimp only
    split
    · exact Stepped.excepted (.InstructionAddressError cpu.state.pc) cpu.state.sampled bus_state
        cpu.state.sampled_same_program .refl fun _ => trivial
    · cases hresult : cpu.state.sampled.translate_address cpu.state.pc .Instruction with
      | mk result looked_up =>
        have hstep : cpu.state.advance_cache_transition.advance_machine_interrupt_inputs.translate_address
            cpu.state.advance_cache_transition.advance_machine_interrupt_inputs.pc .Instruction =
              (result, looked_up) := hresult
        rw [hresult] at hspec
        rw [hstep]
        match result with
        | .error .TlbShutdown =>
          exact Stepped.failed .TlbShutdown looked_up bus_state (.unfetched (.refl _)) (.inr hspec)
        | .error (.Exception exception) =>
          exact Stepped.excepted exception looked_up bus_state
            (cpu.state.sampled_same_program.trans hspec.1.same_program) .refl fun _ => hspec.2
        | .ok translation =>
          have hlookups : LookupsOnly cpu.state.sampled looked_up := hspec
          obtain ⟨hreads, -, herror⟩ := looked_up.read_instruction_frame translation bus bus_state
          dsimp only
          cases hread : looked_up.read_instruction translation bus bus_state with
          | mk fetched rest =>
            rw [hread] at hreads herror
            obtain ⟨ready, bus_ready⟩ := rest
            cases fetched with
            | ok bytes =>
              exact cpu.dispatch_spec cpu.state.pc translation.address (from_be_bytes bytes)
                (.fetched translation bytes hlookups hread)
            | error fault =>
              obtain rfl : ready = looked_up := herror fault rfl
              cases fault with
              | HardwareFault =>
                exact Stepped.excepted .InstructionBusError ready bus_ready
                  (cpu.state.sampled_same_program.trans hlookups.same_program) hreads fun _ => trivial
              | InvalidTransaction =>
                exact Stepped.failed _ ready bus_ready (.unfetched hlookups) (.inl (.refl ready))
              | UnimplementedAccess =>
                exact Stepped.failed _ ready bus_ready (.unfetched hlookups) (.inl (.refl ready))

/-! ### Programs in a boot memory -/

/-- The big-endian bytes of some words. -/
def image (words : List U32) (offset : Nat) : U8 :=
  (words.getD (offset / 4) 0 >>> (24 - offset % 4 * 8)).setWidth 8

/-- Words that are read from the reset address on, with nothing else attached. -/
def boot_memory (words : List U32) : PhysicalBus Unit where
  read _ address length :=
    if 0x1fc00000 ≤ address.get ∧ address.get + length ≤ 0x1fc00000 + 4 * words.length then
      (.ok (Vector.ofFn fun i => image words (address.get + i - 0x1fc00000)), ())
    else (.error .InvalidTransaction, ())
  write _ _ _ := (.error .InvalidTransaction, ())

/-- The processor after some steps of a program. -/
def run_program (words : List U32) : Nat → R3000 → R3000
  | 0, cpu => cpu
  | steps + 1, cpu => run_program words steps (cpu.step (boot_memory words) ()).2.1

/-- A new processor with no room for decoded words. -/
def undecoded (config : R3000Config) : R3000 := { R3000.new config with decoded_words := #[] }

theorem undecoded_coherent (config : R3000Config) : (undecoded config).Coherent := by
  intro index address word result hentry
  have hnone : (#[] : Array (Option (Nat × U32 × DecodeResult)))[index]? = none := Array.getElem?_empty
  rw [show (undecoded config).decoded_words[index]? = none from hnone] at hentry
  cases hentry

end R3000

end se_cpu
