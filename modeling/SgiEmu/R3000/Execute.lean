import SgiEmu.R3000.Decode
import SgiEmu.R3000.State

open se_core se_core.bus se_float se_cpu.cache se_cpu.cp0 se_cpu.cp1 se_cpu.mmu se_cpu.decode se_cpu.state

namespace se_cpu

/-! ## ALU instructions -/

namespace alu

def sign_extend_immediate (immediate : U16) : U32 := immediate.signExtend 32

/-- `u32::from` of a comparison. -/
def from_bool (condition : Bool) : U32 := if condition then 1 else 0

/-- A value for a destination register, or the overflow trap before any write. -/
def write_checked (state : State) (index : Nat) (value : U32) (overflowed : Bool) :
    Except Exception Unit × State :=
  if overflowed then (.error .Overflow, state) else (.ok (), state.write_gpr index value)

/-- Signed division as the source defines it, zero divisors and the one
overflowing quotient included. -/
def signed_division (dividend divisor : U32) : U32 × U32 :=
  if divisor = 0 then (dividend, if 0 ≤ dividend.toInt then 0xffffffff#32 else 1#32)
  else if dividend = 0x80000000#32 ∧ divisor = 0xffffffff#32 then (0, 0x80000000#32)
  else (dividend.srem divisor, dividend.sdiv divisor)

def unsigned_division (dividend divisor : U32) : U32 × U32 :=
  if divisor = 0 then (dividend, 0xffffffff#32) else (dividend % divisor, dividend / divisor)

def execute (state : State) : AluInstruction → Except Exception Unit × State
  | .Sll rd rt shift_amount => (.ok (), state.write_gpr rd (state.read_gpr rt <<< shift_amount))
  | .Srl rd rt shift_amount => (.ok (), state.write_gpr rd (state.read_gpr rt >>> shift_amount))
  | .Sra rd rt shift_amount => (.ok (), state.write_gpr rd ((state.read_gpr rt).sshiftRight shift_amount))
  | .Sllv rd rt rs =>
    (.ok (), state.write_gpr rd (state.read_gpr rt <<< (state.read_gpr rs &&& 0x1f#32).toNat))
  | .Srlv rd rt rs =>
    (.ok (), state.write_gpr rd (state.read_gpr rt >>> (state.read_gpr rs &&& 0x1f#32).toNat))
  | .Srav rd rt rs =>
    (.ok (), state.write_gpr rd ((state.read_gpr rt).sshiftRight (state.read_gpr rs &&& 0x1f#32).toNat))
  | .Mfhi rd => (.ok (), state.write_gpr rd state.hi)
  | .Mthi rs => (.ok (), state.write_hi (state.read_gpr rs))
  | .Mflo rd => (.ok (), state.write_gpr rd state.lo)
  | .Mtlo rs => (.ok (), state.write_lo (state.read_gpr rs))
  | .Mult rs rt =>
    let product := (state.read_gpr rs).signExtend 64 * (state.read_gpr rt).signExtend 64
    (.ok (), (state.write_hi ((product >>> 32).setWidth 32)).write_lo (product.setWidth 32))
  | .Multu rs rt =>
    let product := (state.read_gpr rs).setWidth 64 * (state.read_gpr rt).setWidth 64
    (.ok (), (state.write_hi ((product >>> 32).setWidth 32)).write_lo (product.setWidth 32))
  | .Div rs rt =>
    let (hi, lo) := signed_division (state.read_gpr rs) (state.read_gpr rt)
    (.ok (), (state.write_hi hi).write_lo lo)
  | .Divu rs rt =>
    let (hi, lo) := unsigned_division (state.read_gpr rs) (state.read_gpr rt)
    (.ok (), (state.write_hi hi).write_lo lo)
  | .Add rd rs rt =>
    let lhs := state.read_gpr rs
    let rhs := state.read_gpr rt
    write_checked state rd (lhs + rhs) (lhs.saddOverflow rhs)
  | .Addu rd rs rt => (.ok (), state.write_gpr rd (state.read_gpr rs + state.read_gpr rt))
  | .Sub rd rs rt =>
    let lhs := state.read_gpr rs
    let rhs := state.read_gpr rt
    write_checked state rd (lhs - rhs) (lhs.ssubOverflow rhs)
  | .Subu rd rs rt => (.ok (), state.write_gpr rd (state.read_gpr rs - state.read_gpr rt))
  | .And rd rs rt => (.ok (), state.write_gpr rd (state.read_gpr rs &&& state.read_gpr rt))
  | .Or rd rs rt => (.ok (), state.write_gpr rd (state.read_gpr rs ||| state.read_gpr rt))
  | .Xor rd rs rt => (.ok (), state.write_gpr rd (state.read_gpr rs ^^^ state.read_gpr rt))
  | .Nor rd rs rt => (.ok (), state.write_gpr rd (~~~(state.read_gpr rs ||| state.read_gpr rt)))
  | .Slt rd rs rt =>
    (.ok (), state.write_gpr rd (from_bool ((state.read_gpr rs).slt (state.read_gpr rt))))
  | .Sltu rd rs rt =>
    (.ok (), state.write_gpr rd (from_bool ((state.read_gpr rs).ult (state.read_gpr rt))))
  | .Addi rt rs immediate =>
    let lhs := state.read_gpr rs
    let rhs := sign_extend_immediate immediate
    write_checked state rt (lhs + rhs) (lhs.saddOverflow rhs)
  | .Addiu rt rs immediate =>
    (.ok (), state.write_gpr rt (state.read_gpr rs + sign_extend_immediate immediate))
  | .Slti rt rs immediate =>
    (.ok (), state.write_gpr rt (from_bool ((state.read_gpr rs).slt (sign_extend_immediate immediate))))
  | .Sltiu rt rs immediate =>
    (.ok (), state.write_gpr rt (from_bool ((state.read_gpr rs).ult (sign_extend_immediate immediate))))
  | .Andi rt rs immediate => (.ok (), state.write_gpr rt (state.read_gpr rs &&& immediate.setWidth 32))
  | .Ori rt rs immediate => (.ok (), state.write_gpr rt (state.read_gpr rs ||| immediate.setWidth 32))
  | .Xori rt rs immediate => (.ok (), state.write_gpr rt (state.read_gpr rs ^^^ immediate.setWidth 32))
  | .Lui rt immediate => (.ok (), state.write_gpr rt (immediate.setWidth 32 <<< 16))

end alu

/-! ## Control transfers -/

namespace control

def branch_resume_pc (pc : U32) (offset : U16) (condition : Bool) : U32 :=
  if condition then pc + 4 + (offset.signExtend 32 <<< 2) else pc + 8

def jump_target (pc target : U32) : U32 := ((pc + 4) &&& 0xf0000000#32) ||| (target <<< 2)

/-- Executes a control instruction and returns the address its delay slot resumes at. -/
def execute (state : State) (instruction : ControlInstruction) : U32 × State :=
  let pc := state.pc
  match instruction with
  | .J target => (jump_target pc target, state)
  | .Jal target => (jump_target pc target, state.write_gpr 31 (pc + 8))
  | .Jr rs => (state.read_gpr rs, state)
  | .Jalr rd rs => (state.read_gpr rs, state.write_gpr rd (pc + 8))
  | .Beq rs rt offset => (branch_resume_pc pc offset (state.read_gpr rs == state.read_gpr rt), state)
  | .Bne rs rt offset => (branch_resume_pc pc offset (state.read_gpr rs != state.read_gpr rt), state)
  | .Blez rs offset => (branch_resume_pc pc offset ((state.read_gpr rs).sle 0), state)
  | .Bgtz rs offset => (branch_resume_pc pc offset (BitVec.slt 0 (state.read_gpr rs)), state)
  | .Bltz rs offset => (branch_resume_pc pc offset ((state.read_gpr rs).slt 0), state)
  | .Bgez rs offset => (branch_resume_pc pc offset (BitVec.sle 0 (state.read_gpr rs)), state)
  | .Bltzal rs offset =>
    (branch_resume_pc pc offset ((state.read_gpr rs).slt 0), state.write_gpr 31 (pc + 8))
  | .Bgezal rs offset =>
    (branch_resume_pc pc offset (BitVec.sle 0 (state.read_gpr rs)), state.write_gpr 31 (pc + 8))

end control

/-- The address a branch or jump resumes at after its delay slot, and the effect
that waits for the instruction boundary. -/
abbrev InstructionCompletion := Option U32 × Option InstructionEffect

abbrev InstructionResult := Except StepError (ExecutionOutcome InstructionCompletion)

open control

/-! ## CP0 instructions -/

namespace cp0

def execute (state : State) (instruction : Cp0Instruction) (condition : Bool) : InstructionResult × State :=
  if !state.cp0.is_usable then (.ok (.Exception (.CoprocessorUnusable 0)), state)
  else
    match instruction with
    | .Mfc0 rt rd | .Cfc0 rt rd =>
      (.ok (.Completed (none, some (.DelayedGprWrite rt (state.cp0.read_register rd) false))), state)
    | .Mtc0 rt rd | .Ctc0 rt rd =>
      (.ok (.Completed (none, some (.DelayedCp0Write rd (state.read_gpr rt)))), state)
    | .Bc0f offset => (.ok (.Completed (some (branch_resume_pc state.pc offset !condition), none)), state)
    | .Bc0t offset => (.ok (.Completed (some (branch_resume_pc state.pc offset condition), none)), state)
    | .Tlbr => (.ok (.Completed (none, some state.tlbr_effect)), state)
    | .Tlbwi => (.ok (.Completed (none, some state.tlbwi_effect)), state)
    | .Tlbwr => (.ok (.Completed (none, some state.tlbwr_effect)), state)
    | .Tlbp =>
      match state.tlbp_effect with
      | (.ok effect, state) => (.ok (.Completed (none, some effect)), state)
      | (.error error, state) => (.error error, state)
    | .Rfe =>
      let status := state.cp0.status
      let restored := (status &&& ~~~0x0f#32) ||| ((status >>> 2) &&& 0x0f#32)
      (.ok (.Completed (none, some (.RestoreStatus restored))), state)

end cp0

/-! ## Loads and stores -/

namespace load_store

variable {β : Type}

def effective_address (state : State) (base : Nat) (offset : U16) : U32 :=
  state.read_gpr base + offset.signExtend 32

def translate_address (state : State) (virtual_address : U32) (access : AccessType) :
    Except StepError (ExecutionOutcome Translation) × State :=
  match state.translate_address virtual_address access with
  | (.ok translation, state) => (.ok (.Completed translation), state)
  | (.error (.Exception exception), state) => (.ok (.Exception exception), state)
  | (.error .TlbShutdown, state) => (.error .TlbShutdown, state)

/-- Whether an address breaks the alignment of an access of this length; the
aligned instructions use one, two or four bytes. -/
def misaligned (address : U32) (length : Nat) : Bool :=
  match length with
  | 1 => false
  | 2 => address &&& 1#32 != 0
  | _ => address &&& 3#32 != 0

/-- Reads through a translation. A hardware fault is the guest's data bus error,
any other fault the host's. -/
def read_translated (length : Nat) (state : State) (translation : Translation) (bus : PhysicalBus β)
    (bus_state : β) : Except StepError (ExecutionOutcome (Vector U8 length)) × State × β :=
  match state.load_data translation (Vector.replicate length 0) bus bus_state with
  | (.ok (), data, state, bus_state) => (.ok (.Completed data), state, bus_state)
  | (.error .HardwareFault, _, state, bus_state) => (.ok (.Exception .DataBusError), state, bus_state)
  | (.error fault, _, state, bus_state) => (.error (.BusError translation.address fault), state, bus_state)

/-- Writes through a translation. Every write fault is the host's. -/
def write_translated (state : State) (translation : Translation) (data : List U8) (bus : PhysicalBus β)
    (bus_state : β) : Except StepError (ExecutionOutcome Unit) × State × β :=
  match state.store_memory translation data bus bus_state with
  | (.ok (), state, bus_state) => (.ok (.Completed ()), state, bus_state)
  | (.error fault, state, bus_state) => (.error (.BusError translation.address fault), state, bus_state)

def load (length : Nat) (state : State) (base : Nat) (offset : U16) (bus : PhysicalBus β) (bus_state : β) :
    Except StepError (ExecutionOutcome (Vector U8 length)) × State × β :=
  let address := effective_address state base offset
  if misaligned address length then (.ok (.Exception (.LoadAddressError address)), state, bus_state)
  else
    match translate_address state address .Load with
    | (.ok (.Completed translation), state) => read_translated length state translation bus bus_state
    | (.ok (.Exception exception), state) => (.ok (.Exception exception), state, bus_state)
    | (.error error, state) => (.error error, state, bus_state)

def store (state : State) (base : Nat) (offset : U16) (data : List U8) (bus : PhysicalBus β)
    (bus_state : β) : Except StepError (ExecutionOutcome Unit) × State × β :=
  let address := effective_address state base offset
  if misaligned address data.length then (.ok (.Exception (.StoreAddressError address)), state, bus_state)
  else
    match translate_address state address .Store with
    | (.ok (.Completed translation), state) => write_translated state translation data bus bus_state
    | (.ok (.Exception exception), state) => (.ok (.Exception exception), state, bus_state)
    | (.error error, state) => (.error error, state, bus_state)

/-- An aligned load into a general register, given how its bytes make a value. -/
def load_gpr (length : Nat) (value : Vector U8 length → U32) (state : State) (base rt : Nat) (offset : U16)
    (bus : PhysicalBus β) (bus_state : β) :
    Except StepError (ExecutionOutcome (Option InstructionEffect)) × State × β :=
  match load length state base offset bus bus_state with
  | (.ok (.Completed bytes), state, bus_state) =>
    (.ok (.Completed (some (.DelayedGprWrite rt (value bytes) true))), state, bus_state)
  | (.ok (.Exception exception), state, bus_state) => (.ok (.Exception exception), state, bus_state)
  | (.error error, state, bus_state) => (.error error, state, bus_state)

/-- An aligned store. -/
def store_gpr (data : List U8) (state : State) (base : Nat) (offset : U16) (bus : PhysicalBus β)
    (bus_state : β) : Except StepError (ExecutionOutcome (Option InstructionEffect)) × State × β :=
  match store state base offset data bus bus_state with
  | (.ok (.Completed ()), state, bus_state) => (.ok (.Completed none), state, bus_state)
  | (.ok (.Exception exception), state, bus_state) => (.ok (.Exception exception), state, bus_state)
  | (.error error, state, bus_state) => (.error error, state, bus_state)

/-- `bytes[start..start + length].copy_from_slice(memory)` on a register's bytes. -/
def merge_register {length : Nat} (register : U32) (start : Nat) (memory : Vector U8 length) : U32 :=
  from_be_bytes (merge_word_fragment (to_be_bytes register) start memory.toList)

/-- The two unaligned loads: the translation of the unaligned address, moved
back by `back` bytes, supplies `length` bytes that replace the register's from
`start` on. -/
def load_merge (length back start : Nat) (virtual_address : U32) (state : State) (rt : Nat)
    (bus : PhysicalBus β) (bus_state : β) :
    Except StepError (ExecutionOutcome (Option InstructionEffect)) × State × β :=
  match translate_address state virtual_address .Load with
  | (.ok (.Exception exception), state) => (.ok (.Exception exception), state, bus_state)
  | (.error error, state) => (.error error, state, bus_state)
  | (.ok (.Completed translation), state) =>
    let translation := { translation with address := ⟨translation.address.get - back⟩ }
    match read_translated length state translation bus bus_state with
    | (.ok (.Completed memory), state, bus_state) =>
      let value := merge_register (state.read_gpr_for_load_merge rt) start memory
      (.ok (.Completed (some (.DelayedGprWrite rt value true))), state, bus_state)
    | (.ok (.Exception exception), state, bus_state) => (.ok (.Exception exception), state, bus_state)
    | (.error error, state, bus_state) => (.error error, state, bus_state)

/-- The two unaligned stores, of bytes of the register. -/
def store_merge (back : Nat) (data : List U8) (virtual_address : U32) (state : State)
    (bus : PhysicalBus β) (bus_state : β) :
    Except StepError (ExecutionOutcome (Option InstructionEffect)) × State × β :=
  match translate_address state virtual_address .Store with
  | (.ok (.Exception exception), state) => (.ok (.Exception exception), state, bus_state)
  | (.error error, state) => (.error error, state, bus_state)
  | (.ok (.Completed translation), state) =>
    let translation := { translation with address := ⟨translation.address.get - back⟩ }
    match write_translated state translation data bus bus_state with
    | (.ok (.Completed ()), state, bus_state) => (.ok (.Completed none), state, bus_state)
    | (.ok (.Exception exception), state, bus_state) => (.ok (.Exception exception), state, bus_state)
    | (.error error, state, bus_state) => (.error error, state, bus_state)

def execute (state : State) (instruction : MemoryInstruction) (bus : PhysicalBus β) (bus_state : β) :
    Except StepError (ExecutionOutcome (Option InstructionEffect)) × State × β :=
  match instruction with
  | .Lb base rt offset => load_gpr 1 (fun bytes => bytes[0].signExtend 32) state base rt offset bus bus_state
  | .Lbu base rt offset => load_gpr 1 (fun bytes => bytes[0].setWidth 32) state base rt offset bus bus_state
  | .Lh base rt offset =>
    load_gpr 2 (fun bytes => (bytes[0] ++ bytes[1]).signExtend 32) state base rt offset bus bus_state
  | .Lhu base rt offset =>
    load_gpr 2 (fun bytes => (bytes[0] ++ bytes[1]).setWidth 32) state base rt offset bus bus_state
  | .Lw base rt offset => load_gpr 4 from_be_bytes state base rt offset bus bus_state
  | .Lwl base rt offset =>
    let virtual_address := effective_address state base offset
    let byte := (virtual_address &&& 3#32).toNat
    load_merge (4 - byte) 0 0 virtual_address state rt bus bus_state
  | .Lwr base rt offset =>
    let virtual_address := effective_address state base offset
    let byte := (virtual_address &&& 3#32).toNat
    load_merge (byte + 1) byte (3 - byte) virtual_address state rt bus bus_state
  | .Sb base rt offset => store_gpr [(state.read_gpr rt).setWidth 8] state base offset bus bus_state
  | .Sh base rt offset =>
    store_gpr ((to_be_bytes (state.read_gpr rt)).toList.drop 2) state base offset bus bus_state
  | .Sw base rt offset => store_gpr (to_be_bytes (state.read_gpr rt)).toList state base offset bus bus_state
  | .Swl base rt offset =>
    let virtual_address := effective_address state base offset
    let byte := (virtual_address &&& 3#32).toNat
    store_merge 0 ((to_be_bytes (state.read_gpr rt)).toList.take (4 - byte)) virtual_address state bus
      bus_state
  | .Swr base rt offset =>
    let virtual_address := effective_address state base offset
    let byte := (virtual_address &&& 3#32).toNat
    store_merge byte ((to_be_bytes (state.read_gpr rt)).toList.drop (3 - byte)) virtual_address state bus
      bus_state

end load_store

/-! ## CP1 instructions -/

namespace cp1

variable {β : Type}

/-- Commits the older pending transfer, applies the control-status update of an
arithmetic instruction, and writes its result when the update says so. Returns
whether the instruction raised an exception. -/
def finish {V : Type} (write : Cp1 → Nat → V → Cp1) (state : State) (destination : Nat)
    (update : Fcr31Update) (value : Option V) : Bool × State :=
  let state := state.commit_pending_cp1_write
  let cp1 := state.cp1.apply_fcr31_update update
  let cp1 :=
    match update.writeback, value with
    | true, some value => write cp1 destination value
    | _, _ => cp1
  (!update.writeback, { state with cp1 })

def finish_float32 : State → Nat → Fcr31Update → Option se_float.Float32 → Bool × State :=
  finish Cp1.write_float32

def finish_float64 : State → Nat → Fcr31Update → Option Float64 → Bool × State :=
  finish Cp1.write_float64

def finish_word : State → Nat → Fcr31Update → Option U32 → Bool × State :=
  finish Cp1.write_word

/-- The update and result of an operation whose operands have been classified. -/
def evaluate {V : Type} (cp1 : Cp1) (classified : Option Fcr31Update) (outcome : Outcome V) :
    Fcr31Update × Option V :=
  match classified with
  | some update => (update, none)
  | none => (cp1.classify_outcome outcome.flags outcome.tiny, some outcome.value)

def execute_binary (state : State) (operation : Cp1BinaryOperation) (format : Cp1FloatFormat)
    (ft fs fd : Nat) : Bool × State :=
  let cp1 := state.cp1
  match format with
  | .Single =>
    let lhs := cp1.read_float32 fs
    let rhs := cp1.read_float32 ft
    let outcome :=
      match operation with
      | .Add => cp1.backend.add_f32 lhs rhs cp1.rounding_mode
      | .Subtract => cp1.backend.sub_f32 lhs rhs cp1.rounding_mode
      | .Multiply => cp1.backend.mul_f32 lhs rhs cp1.rounding_mode
      | .Divide => cp1.backend.div_f32 lhs rhs cp1.rounding_mode
    let (update, value) := evaluate cp1 (cp1.classify_float32_operands [lhs, rhs] false) outcome
    finish_float32 state fd update value
  | .Double =>
    let lhs := cp1.read_float64 fs
    let rhs := cp1.read_float64 ft
    let outcome :=
      match operation with
      | .Add => cp1.backend.add_f64 lhs rhs cp1.rounding_mode
      | .Subtract => cp1.backend.sub_f64 lhs rhs cp1.rounding_mode
      | .Multiply => cp1.backend.mul_f64 lhs rhs cp1.rounding_mode
      | .Divide => cp1.backend.div_f64 lhs rhs cp1.rounding_mode
    let (update, value) := evaluate cp1 (cp1.classify_float64_operands [lhs, rhs] false) outcome
    finish_float64 state fd update value

/-- A move copies its register without classifying it and never raises. -/
def execute_unary (state : State) (operation : Cp1UnaryOperation) (format : Cp1FloatFormat)
    (fs fd : Nat) : Bool × State :=
  let cp1 := state.cp1
  match operation, format with
  | .Move, .Single =>
    let value := cp1.read_float32 fs
    let state := state.commit_pending_cp1_write
    (false, { state with cp1 := state.cp1.write_float32 fd value })
  | .Move, .Double =>
    let value := cp1.read_float64 fs
    let state := state.commit_pending_cp1_write
    (false, { state with cp1 := state.cp1.write_float64 fd value })
  | operation, .Single =>
    let source := cp1.read_float32 fs
    let outcome := if operation = .Absolute then cp1.backend.abs_f32 source else cp1.backend.neg_f32 source
    let (update, value) := evaluate cp1 (cp1.classify_float32_operands [source] false) outcome
    finish_float32 state fd update value
  | operation, .Double =>
    let source := cp1.read_float64 fs
    let outcome := if operation = .Absolute then cp1.backend.abs_f64 source else cp1.backend.neg_f64 source
    let (update, value) := evaluate cp1 (cp1.classify_float64_operands [source] false) outcome
    finish_float64 state fd update value

def execute_conversion (state : State) (operation : Cp1Conversion) (fs fd : Nat) : Bool × State :=
  let cp1 := state.cp1
  match operation with
  | .SingleToDouble =>
    let source := cp1.read_float32 fs
    let (update, value) := evaluate cp1 (cp1.classify_float32_operands [source] false)
      (cp1.backend.convert_float32_to_float64 source)
    finish_float64 state fd update value
  | .WordToDouble =>
    let (update, value) := evaluate cp1 none (cp1.backend.convert_i32_to_float64 (cp1.read_word fs))
    finish_float64 state fd update value
  | .DoubleToSingle =>
    let source := cp1.read_float64 fs
    let (update, value) := evaluate cp1 (cp1.classify_float64_operands [source] false)
      (cp1.backend.convert_float64_to_float32 source cp1.rounding_mode)
    finish_float32 state fd update value
  | .WordToSingle =>
    let (update, value) := evaluate cp1 none
      (cp1.backend.convert_i32_to_float32 (cp1.read_word fs) cp1.rounding_mode)
    finish_float32 state fd update value
  | .SingleToWord =>
    let source := cp1.read_float32 fs
    let (update, value) := evaluate cp1 (cp1.classify_float32_operands [source] false)
      (cp1.backend.convert_float32_to_i32 source cp1.rounding_mode)
    finish_word state fd update value
  | .DoubleToWord =>
    let source := cp1.read_float64 fs
    let (update, value) := evaluate cp1 (cp1.classify_float64_operands [source] false)
      (cp1.backend.convert_float64_to_i32 source cp1.rounding_mode)
    finish_word state fd update value

def execute_compare (state : State) (format : Cp1FloatFormat) (condition : U8) (fs ft : Nat) :
    (Option InstructionEffect × Bool) × State :=
  let cp1 := state.cp1
  let mode := if condition &&& 8#8 = 0 then ComparisonMode.Quiet else .Signaling
  let signal_any_nan := mode == .Signaling
  let (update, relation) :=
    match format with
    | .Single =>
      let lhs := cp1.read_float32 fs
      let rhs := cp1.read_float32 ft
      evaluate cp1 (cp1.classify_float32_operands [lhs, rhs] signal_any_nan) (cp1.backend.compare_f32 lhs rhs mode)
    | .Double =>
      let lhs := cp1.read_float64 fs
      let rhs := cp1.read_float64 ft
      evaluate cp1 (cp1.classify_float64_operands [lhs, rhs] signal_any_nan) (cp1.backend.compare_f64 lhs rhs mode)
  let state := state.commit_pending_cp1_write
  let state := { state with cp1 := state.cp1.apply_fcr31_update update }
  match update.writeback, relation with
  | true, some relation =>
    ((some (.DelayedCp1ConditionWrite (comparison_condition condition relation)), false), state)
  | _, _ => ((none, true), state)

/-- Executes a CP1 instruction; the flag reports a floating-point exception. -/
def execute (state : State) (instruction : Cp1Instruction) (bus : PhysicalBus β) (bus_state : β) :
    Except StepError (ExecutionOutcome InstructionCompletion × Bool) × State × β :=
  if !state.cp0.coprocessor_usable 1 then
    (.ok (.Exception (.CoprocessorUnusable 1), false), state, bus_state)
  else
    match instruction with
    | .Mfc1 rt rd =>
      (.ok (.Completed (none, some (.DelayedGprWrite rt (state.cp1.read_general_register rd) false)), false),
        state, bus_state)
    | .Cfc1 rt rd =>
      (.ok (.Completed (none, some (.DelayedGprWrite rt (state.cp1.read_control_register rd) false)), false),
        state, bus_state)
    | .Mtc1 rt rd =>
      (.ok (.Completed (none, some (.DelayedCp1GeneralWrite rd (state.read_gpr rt))), false), state, bus_state)
    | .Ctc1 rt rd =>
      (.ok (.Completed (none, some (.DelayedCp1ControlWrite rd (state.read_gpr rt))), false), state, bus_state)
    | .Bc1f offset =>
      (.ok (.Completed (some (branch_resume_pc state.pc offset !state.cp1.condition), none), false), state,
        bus_state)
    | .Bc1t offset =>
      (.ok (.Completed (some (branch_resume_pc state.pc offset state.cp1.condition), none), false), state,
        bus_state)
    | .Lwc1 base ft offset =>
      match load_store.load 4 state base offset bus bus_state with
      | (.ok (.Completed bytes), state, bus_state) =>
        (.ok (.Completed (none, some (.DelayedCp1GeneralWrite ft (from_be_bytes bytes))), false), state,
          bus_state)
      | (.ok (.Exception exception), state, bus_state) => (.ok (.Exception exception, false), state, bus_state)
      | (.error error, state, bus_state) => (.error error, state, bus_state)
    | .Swc1 base ft offset =>
      let bytes := to_be_bytes (state.cp1.read_general_register ft)
      match load_store.store state base offset bytes.toList bus bus_state with
      | (.ok (.Completed ()), state, bus_state) => (.ok (.Completed (none, none), false), state, bus_state)
      | (.ok (.Exception exception), state, bus_state) => (.ok (.Exception exception, false), state, bus_state)
      | (.error error, state, bus_state) => (.error error, state, bus_state)
    | .Binary operation format ft fs fd =>
      let (exception_raised, state) := execute_binary state operation format ft fs fd
      (.ok (.Completed (none, none), exception_raised), state, bus_state)
    | .Unary operation format fs fd =>
      let (exception_raised, state) := execute_unary state operation format fs fd
      (.ok (.Completed (none, none), exception_raised), state, bus_state)
    | .Convert operation fs fd =>
      let (exception_raised, state) := execute_conversion state operation fs fd
      (.ok (.Completed (none, none), exception_raised), state, bus_state)
    | .Compare format condition fs ft =>
      let ((effect, exception_raised), state) := execute_compare state format condition fs ft
      (.ok (.Completed (none, effect), exception_raised), state, bus_state)
    | .UnimplementedOperation =>
      let state := state.commit_pending_cp1_write
      (.ok (.Completed (none, none), true),
        { state with cp1 := state.cp1.apply_fcr31_update Cp1.unimplemented_update }, bus_state)

end cp1

end se_cpu
