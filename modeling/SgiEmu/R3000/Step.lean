import SgiEmu.R3000.Execute

open se_core se_core.bus se_cpu.cache se_cpu.cp0 se_cpu.mmu se_cpu.decode se_cpu.state

namespace se_cpu

def DECODE_CACHE_ENTRIES : Nat := 1 <<< 16

/-- An architectural R3000 processor with its cache of decoded words. -/
structure R3000 where
  state : State
  cp0_condition : Bool
  frequency_hz : Nat
  decoded_words : Array (Option (Nat × U32 × DecodeResult))

structure R3000Snapshot where
  state : State
  cp0_condition : Bool

/-- How a step that did not fail went. The source returns the unit; the event is
what the caller could have observed of its branch. -/
inductive StepEvent where
  | Completed (delayed_resume_pc : Option U32)
  | Exception (exception : Exception)
  | FloatingPointTrap
deriving DecidableEq, Repr

namespace R3000

def new (config : R3000Config) : R3000 :=
  { state := .new config
    cp0_condition := false
    frequency_hz := config.frequency_hz
    decoded_words := Array.replicate DECODE_CACHE_ENTRIES none }

def snapshot (cpu : R3000) : R3000Snapshot :=
  { state := { cpu.state with mmu := cpu.state.mmu.clone }, cp0_condition := cpu.cp0_condition }

def restore_snapshot (cpu : R3000) (snapshot : R3000Snapshot) : R3000 :=
  { cpu with
    state := snapshot.state.restore_floating_point_backend cpu.state.cp1.backend
    cp0_condition := snapshot.cp0_condition }

def reset (cpu : R3000) : R3000 := { cpu with state := cpu.state.reset.synchronize_cp1_interrupt }

def set_cp0_condition (cpu : R3000) (condition : Bool) : R3000 := { cpu with cp0_condition := condition }

def set_hardware_interrupt_lines (cpu : R3000) (lines : U8) : R3000 :=
  { cpu with state := cpu.state.set_hardware_interrupt_lines lines }

/-- The decoded form of a fetched word, from the slot of its address or decoded
afresh into it. -/
def decode_word (cpu : R3000) (address : Nat) (word : U32) : DecodeResult × R3000 :=
  let index := (address >>> 2) &&& (DECODE_CACHE_ENTRIES - 1)
  let decoded_words := cpu.decoded_words.setIfInBounds index (some (address, word, decode word))
  let fresh := (decode word, { cpu with decoded_words })
  match cpu.decoded_words[index]?.join with
  | some (cached_address, cached_word, cached) =>
    if cached_address = address ∧ cached_word = word then (cached, cpu) else fresh
  | none => fresh

variable {β : Type}

/-- The result of `step` over a bus: its event, the processor and the bus state. -/
abbrev StepResult (β : Type) := Except StepError StepEvent × R3000 × β

def enter_exception (cpu : R3000) (state : State) (exception : Exception) (bus_state : β) : StepResult β :=
  (.ok (.Exception exception),
    { cpu with state := (state.take_exception exception).synchronize_cp1_interrupt }, bus_state)

def fail (cpu : R3000) (state : State) (error : StepError) (bus_state : β) : StepResult β :=
  (.error error, { cpu with state }, bus_state)

/-- The boundary a completed or excepting instruction ends at. -/
def finish (cpu : R3000) (state : State) (outcome : InstructionResult) (bus_state : β) : StepResult β :=
  match outcome with
  | .ok (.Completed (delayed_resume_pc, effect)) =>
    (.ok (.Completed delayed_resume_pc),
      { cpu with
        state := (state.complete_instruction delayed_resume_pc effect).synchronize_cp1_interrupt },
      bus_state)
  | .ok (.Exception exception) => cpu.enter_exception state exception bus_state
  | .error error => cpu.fail state error bus_state

/-- Executes a decoded instruction over the state its fetch left. -/
def execute (cpu : R3000) (state : State) (instruction : Instruction) (bus : PhysicalBus β)
    (bus_state : β) : StepResult β :=
  match instruction with
  | .Alu instruction =>
    match alu.execute state instruction with
    | (.ok (), state) => cpu.finish state (.ok (.Completed (none, none))) bus_state
    | (.error exception, state) => cpu.finish state (.ok (.Exception exception)) bus_state
  | .Control instruction =>
    match control.execute state instruction with
    | (resume_pc, state) => cpu.finish state (.ok (.Completed (some resume_pc, none))) bus_state
  | .Cp0 instruction =>
    match cp0.execute state instruction cpu.cp0_condition with
    | (outcome, state) => cpu.finish state outcome bus_state
  | .Cp1 instruction =>
    match cp1.execute state instruction bus bus_state with
    | (.error error, state, bus_state) => cpu.fail state error bus_state
    | (.ok (outcome, exception_raised), state, bus_state) =>
      let state := state.synchronize_cp1_interrupt
      if exception_raised && state.cp0.interrupt_requested then
        (.ok .FloatingPointTrap,
          { cpu with state := (state.take_exception .Interrupt).synchronize_cp1_interrupt }, bus_state)
      else cpu.finish state (.ok outcome) bus_state
  | .Memory instruction =>
    match load_store.execute state instruction bus bus_state with
    | (.error error, state, bus_state) => cpu.fail state error bus_state
    | (.ok (.Completed effect), state, bus_state) =>
      cpu.finish state (.ok (.Completed (none, effect))) bus_state
    | (.ok (.Exception exception), state, bus_state) =>
      cpu.finish state (.ok (.Exception exception)) bus_state
  | .Syscall => cpu.finish state (.ok (.Exception .Syscall)) bus_state
  | .Breakpoint => cpu.finish state (.ok (.Exception .Breakpoint)) bus_state

/-- What follows the fetch of the word at `pc`. -/
def dispatch (cpu : R3000) (state : State) (pc : U32) (address : PhysAddr) (word : U32)
    (bus : PhysicalBus β) (bus_state : β) : StepResult β :=
  if state.cp0.interrupt_requested then cpu.enter_exception state .Interrupt bus_state
  else
    match cpu.decode_word address.get word with
    | (.Implemented instruction, cpu) => cpu.execute state instruction bus bus_state
    | (.UnsupportedCoprocessor unit, cpu) =>
      if state.cp0.coprocessor_usable unit then
        cpu.fail state (.UnsupportedInstruction pc word) bus_state
      else cpu.enter_exception state (.CoprocessorUnusable unit) bus_state
    | (.Undefined, cpu) => cpu.fail state (.UndefinedInstruction pc word) bus_state
    | (.Reserved, cpu) => cpu.enter_exception state .ReservedInstruction bus_state

/-- Executes one architectural processor step. -/
def step (cpu : R3000) (bus : PhysicalBus β) (bus_state : β) : StepResult β :=
  if cpu.state.cp0.is_tlb_shutdown then (.error .TlbShutdown, cpu, bus_state)
  else
    let state := cpu.state.advance_cache_transition.advance_machine_interrupt_inputs
    let pc := state.pc
    if pc &&& 3#32 ≠ 0 then cpu.enter_exception state (.InstructionAddressError pc) bus_state
    else
      match state.translate_address pc .Instruction with
      | (.error (.Exception exception), state) => cpu.enter_exception state exception bus_state
      | (.error .TlbShutdown, state) => cpu.fail state .TlbShutdown bus_state
      | (.ok translation, state) =>
        match state.read_instruction translation bus bus_state with
        | (.error .HardwareFault, state, bus_state) =>
          cpu.enter_exception state .InstructionBusError bus_state
        | (.error fault, state, bus_state) =>
          cpu.fail state (.BusError translation.address fault) bus_state
        | (.ok bytes, state, bus_state) =>
          cpu.dispatch state pc translation.address (from_be_bytes bytes) bus bus_state

end R3000

end se_cpu
