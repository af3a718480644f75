import SgiEmu.R3000.Cache
import SgiEmu.R3000.Cp0
import SgiEmu.R3000.Cp1
import SgiEmu.R3000.Mmu

open se_core se_core.bus se_cpu.cache se_cpu.cp0 se_cpu.cp1 se_cpu.mmu

namespace se_cpu

inductive ExecutionOutcome (α : Type) where
  | Completed (value : α)
  | Exception (exception : Exception)

inductive StepError where
  | TlbShutdown
  | BusError (address : PhysAddr) (fault : se_core.bus.BusError)
  | UnsupportedInstruction (pc instruction : U32)
  | UndefinedInstruction (pc instruction : U32)
deriving DecidableEq, Repr

namespace state

def RESET_PC : U32 := 0xbfc00000#32
def CP1_INTERRUPT_INPUT : Nat := 0
def MACHINE_INTERRUPT_INPUTS : List Nat := [1, 2, 3, 4, 5]
def TLB_PROBE_FAILURE : U32 := 1#32 <<< 31

structure MachineInterruptInputs where
  asserted : U8
  sampled : U8
deriving DecidableEq, Repr

def MachineInterruptInputs.new : MachineInterruptInputs := { asserted := 0, sampled := 0 }

structure DelaySlot where
  origin_pc : U32
  resume_pc : U32
deriving DecidableEq, Repr

structure PendingGprWrite where
  index : Nat
  value : U32
  load_merge_bypass : Bool
deriving DecidableEq, Repr

structure PendingCp0Write where
  index : Nat
  value : U32
deriving DecidableEq, Repr

inductive PendingCp1Write where
  | General (index : Nat) (value : U32)
  | Control (index : Nat) (value : U32)
  | Condition (value : Bool)
deriving DecidableEq, Repr

inductive InstructionEffect where
  | DelayedGprWrite (index : Nat) (value : U32) (load_merge_bypass : Bool)
  | DelayedCp0Write (index : Nat) (value : U32)
  | DelayedCp1GeneralWrite (index : Nat) (value : U32)
  | DelayedCp1ControlWrite (index : Nat) (value : U32)
  | DelayedCp1ConditionWrite (value : Bool)
  | TlbRead (entry_hi entry_lo : U32)
  | TlbProbe (index : U32)
  | TlbWrite (index : Nat) (entry_hi entry_lo : U32)
  | RestoreStatus (value : U32)
deriving DecidableEq, Repr

inductive TranslationError where
  | Exception (exception : Exception)
  | TlbShutdown
deriving DecidableEq, Repr

inductive LoadKind where
  | Instruction
  | Data
deriving DecidableEq, Repr

/-- Instruction periods a Status cache-control transfer stays in flight. -/
def CACHE_TRANSITION_PERIODS : Nat := 3

/-- Interrupted cache-state levels kept for exception nesting. -/
abbrev SAVED_CACHE_CONTEXT_LEVELS : Nat := 2

/-- A Status cache-control transfer that has not reached the cache datapath. -/
structure CacheTransition where
  target : CacheControl
  age : Nat
deriving DecidableEq, Repr

/-- Functional cache-control mode of one execution context: the view the cache
datapath reads, and the transfer that has not reached it yet. -/
structure CacheMode where
  effective : CacheControl
  transition : Option CacheTransition
deriving DecidableEq, Repr

def CacheMode.settled (effective : CacheControl) : CacheMode := { effective, transition := none }

/-- One instruction period: a transfer ages, and takes effect with the third one. -/
def CacheMode.advance (mode : CacheMode) : CacheMode :=
  match mode.transition with
  | none => mode
  | some transition =>
    if transition.age + 1 < CACHE_TRANSITION_PERIODS then
      { mode with transition := some { transition with age := transition.age + 1 } }
    else { effective := transition.target, transition := none }

/-- Cache-control mode saved for one interrupted execution context. -/
structure CacheModeContext where
  status_bits : CacheControl
  mode : CacheMode
deriving DecidableEq, Repr

/-- Modes of the interrupted contexts, the most recent one at level 0. -/
structure CacheModeStack where
  levels : Vector (Option CacheModeContext) SAVED_CACHE_CONTEXT_LEVELS
deriving DecidableEq

namespace CacheModeStack

def new : CacheModeStack := { levels := Vector.replicate SAVED_CACHE_CONTEXT_LEVELS none }

def push (stack : CacheModeStack) (context : CacheModeContext) : CacheModeStack :=
  { levels := #v[some context, stack.levels[0]] }

def pop (stack : CacheModeStack) : Option CacheModeContext × CacheModeStack :=
  (stack.levels[0], { levels := #v[stack.levels[1], none] })

end CacheModeStack

structure State where
  gpr : Vector U32 32
  hi : U32
  lo : U32
  pc : U32
  delay_slot : Option DelaySlot
  cp0 : Cp0
  cp1 : Cp1
  mmu : Mmu
  caches : Caches
  pending_gpr_write : Option PendingGprWrite
  pending_cp0_write : Option PendingCp0Write
  pending_cp1_write : Option PendingCp1Write
  machine_interrupt_inputs : MachineInterruptInputs
  cache_mode : CacheMode
  cache_mode_contexts : CacheModeStack

namespace State

def new (config : R3000Config) : State :=
  { gpr := Vector.replicate 32 0
    hi := 0
    lo := 0
    pc := RESET_PC
    delay_slot := none
    cache_mode := .settled Cp0.new.status_cache_control
    cp0 := .new
    cp1 := .new config.floating_point_backend
    mmu := .new
    caches := .new config
    pending_gpr_write := none
    pending_cp0_write := none
    pending_cp1_write := none
    machine_interrupt_inputs := .new
    cache_mode_contexts := .new }

def reset (state : State) : State :=
  let cp0 := state.cp0.reset state.pc
  { state with
    cp0
    mmu := state.mmu.reset
    gpr := state.gpr.setIfInBounds 0 0
    pc := RESET_PC
    delay_slot := none
    pending_gpr_write := none
    pending_cp0_write := none
    pending_cp1_write := none
    cache_mode := .settled cp0.status_cache_control
    cache_mode_contexts := .new }

def restore_floating_point_backend (state : State) (backend : se_float.Backend) : State :=
  { state with cp1 := state.cp1.restore_backend backend }

def read_gpr (state : State) (index : Nat) : U32 := if index = 0 then 0 else state.gpr[index]!

def read_gpr_for_load_merge (state : State) (index : Nat) : U32 :=
  if index = 0 then 0
  else
    match state.pending_gpr_write with
    | some write => if write.index = index ∧ write.load_merge_bypass then write.value else state.read_gpr index
    | none => state.read_gpr index

def write_gpr_direct (state : State) (index : Nat) (value : U32) : State :=
  if index ≠ 0 then { state with gpr := state.gpr.setIfInBounds index value } else state

def commit_pending_gpr_write (state : State) : State :=
  match state.pending_gpr_write with
  | some write => { state with pending_gpr_write := none }.write_gpr_direct write.index write.value
  | none => state

def write_gpr (state : State) (index : Nat) (value : U32) : State :=
  state.commit_pending_gpr_write.write_gpr_direct index value

def write_hi (state : State) (value : U32) : State := { state with hi := value }

def write_lo (state : State) (value : U32) : State := { state with lo := value }

def commit_pending_cp0_write (state : State) : State :=
  match state.pending_cp0_write with
  | some write =>
    { state with pending_cp0_write := none, cp0 := state.cp0.write_register write.index write.value }
  | none => state

/-- The CP1 registers a pending transfer leaves once it is committed. -/
def commit_cp1_write (cp1 : Cp1) : PendingCp1Write → Cp1
  | .General index value => cp1.write_general_register index value
  | .Control index value => cp1.write_control_register index value
  | .Condition value => cp1.write_condition value

def commit_pending_cp1_write (state : State) : State :=
  match state.pending_cp1_write with
  | some write => { state with pending_cp1_write := none, cp1 := commit_cp1_write state.cp1 write }
  | none => state

def commit_pending_functional (state : State) : State :=
  { state with cp0 := state.cp0.commit_pending_functional }

/-! ## Interrupt inputs -/

/-- Replaces the machine-driven levels; a bit outside `1..6` panics in the source. -/
def set_hardware_interrupt_lines (state : State) (lines : U8) : State :=
  { state with machine_interrupt_inputs := { state.machine_interrupt_inputs with asserted := lines } }

def advance_machine_interrupt_inputs (state : State) : State :=
  let lines := state.machine_interrupt_inputs.sampled
  { state with
    cp0 := MACHINE_INTERRUPT_INPUTS.foldl (fun cp0 input =>
      cp0.set_hardware_interrupt_line input (lines &&& (1#8 <<< input) != 0)) state.cp0
    machine_interrupt_inputs :=
      { state.machine_interrupt_inputs with sampled := state.machine_interrupt_inputs.asserted } }

def synchronize_cp1_interrupt (state : State) : State :=
  { state with
    cp0 := state.cp0.set_hardware_interrupt_line CP1_INTERRUPT_INPUT state.cp1.interrupt_asserted }

/-! ## Memory -/

/-- The two arms the source marks unreachable are the last ones of each kind:
only a store reports `Modified`, and shutdown is handled before the mapping. -/
def translation_exception (virtual_address : U32) : AccessType → TranslationFault → Exception
  | .Instruction, .AddressError => .InstructionAddressError virtual_address
  | .Load, .AddressError => .LoadAddressError virtual_address
  | .Store, .AddressError => .StoreAddressError virtual_address
  | .Instruction, .Miss | .Load, .Miss => .TlbLoad virtual_address .Miss
  | .Instruction, .Invalid | .Load, .Invalid => .TlbLoad virtual_address .Invalid
  | .Store, .Miss => .TlbStore virtual_address .Miss
  | .Store, .Invalid => .TlbStore virtual_address .Invalid
  | _, .Modified => .TlbModified virtual_address
  | _, .Shutdown => .ReservedInstruction

def translate_address (state : State) (virtual_address : U32) (access : AccessType) :
    Except TranslationError Translation × State :=
  match state.mmu.translate virtual_address state.cp0.current_asid state.cp0.is_kernel_mode access with
  | (.ok translation, mmu) => (.ok translation, { state with mmu })
  | (.error .Shutdown, mmu) => (.error .TlbShutdown, { state with mmu, cp0 := state.cp0.enter_tlb_shutdown })
  | (.error fault, mmu) =>
    (.error (.Exception (translation_exception virtual_address access fault)), { state with mmu })

def cache_bank : LoadKind → CacheControl → CacheBank
  | .Instruction, control => if control.swapped then .Data else .Instruction
  | .Data, control => if control.swapped then .Instruction else .Data

variable {β : Type}

/-- The bytes of an instruction word. The caller drops the buffer when the read fails. -/
def read_instruction (state : State) (translation : Translation) (bus : PhysicalBus β) (bus_state : β) :
    Except BusError (Vector U8 4) × State × β :=
  match translation.cacheability with
  | .Cached =>
    let bank := cache_bank .Instruction state.cache_mode.effective
    match state.caches.read bank translation.address (Vector.replicate 4 0) bus bus_state with
    | (.ok (), data, caches, bus_state) => (.ok data, { state with caches }, bus_state)
    | (.error fault, _, caches, bus_state) => (.error fault, { state with caches }, bus_state)
  | .Uncached =>
    match bus.read bus_state translation.address 4 with
    | (result, bus_state) => (result, state, bus_state)

def load_data {length : Nat} (state : State) (translation : Translation) (data : Vector U8 length)
    (bus : PhysicalBus β) (bus_state : β) : Except BusError Unit × Vector U8 length × State × β :=
  let cache_control := state.cache_mode.effective
  let bank := cache_bank .Data cache_control
  if cache_control.isolated then
    match state.caches.read_isolated bank translation.address data with
    | (miss, data) => (.ok (), data, { state with cp0 := state.cp0.set_cache_miss miss }, bus_state)
  else
    match translation.cacheability with
    | .Cached =>
      match state.caches.read bank translation.address data bus bus_state with
      | (result, data, caches, bus_state) => (result, data, { state with caches }, bus_state)
    | .Uncached =>
      match bus.read bus_state translation.address length with
      | (.ok staged, bus_state) => (.ok (), staged, state, bus_state)
      | (.error fault, bus_state) => (.error fault, data, state, bus_state)

def store_memory (state : State) (translation : Translation) (data : List U8)
    (bus : PhysicalBus β) (bus_state : β) : Except BusError Unit × State × β :=
  let cache_control := state.cache_mode.effective
  let bank := cache_bank .Data cache_control
  if cache_control.isolated then
    (.ok (), { state with caches := state.caches.write_isolated bank translation.address data }, bus_state)
  else
    match translation.cacheability with
    | .Cached =>
      match state.caches.write bank translation.address data bus bus_state with
      | (result, caches, bus_state) => (result, { state with caches }, bus_state)
    | .Uncached =>
      match bus.write bus_state translation.address data with
      | (result, bus_state) => (result, state, bus_state)

/-! ## Cache-control transfers -/

/-- Starts the cache-control transfer a Status write puts in flight, unless the
register already holds the bits. -/
def note_status_transfer (state : State) (index : Nat) (value : U32) : State :=
  match state.cp0.cache_control_after_write index value with
  | none => state
  | some target =>
    if target = state.cp0.status_cache_control then state
    else { state with cache_mode := { state.cache_mode with transition := some { target, age := 0 } } }

/-- Advances the transfer in flight by one instruction period. -/
def advance_cache_transition (state : State) : State :=
  { state with cache_mode := state.cache_mode.advance }

/-! ## TLB instructions -/

def tlbr_effect (state : State) : InstructionEffect :=
  let (entry_hi, entry_lo) := state.mmu.read_indexed state.cp0.tlb_index
  .TlbRead entry_hi entry_lo

def tlbwi_effect (state : State) : InstructionEffect :=
  let (entry_hi, entry_lo) := state.cp0.tlb_staging
  .TlbWrite state.cp0.tlb_index entry_hi entry_lo

def tlbwr_effect (state : State) : InstructionEffect :=
  let (entry_hi, entry_lo) := state.cp0.tlb_staging
  .TlbWrite state.cp0.random_tlb_index entry_hi entry_lo

def tlbp_effect (state : State) : Except StepError InstructionEffect × State :=
  match state.mmu.probe state.cp0.tlb_staging.1 with
  | .Miss => (.ok (.TlbProbe TLB_PROBE_FAILURE), state)
  | .Match index => (.ok (.TlbProbe (BitVec.ofNat 32 index <<< 8)), state)
  | .Shutdown => (.error .TlbShutdown, { state with cp0 := state.cp0.enter_tlb_shutdown })

/-! ## Instruction boundaries -/

/-- The commits both kinds of boundary start with, in the source's order. -/
def commit_pending_writes (state : State) : State :=
  state.commit_pending_functional.commit_pending_gpr_write.commit_pending_cp0_write.commit_pending_cp1_write

/-- Resumes the interrupted context an `rfe` returns to, if one is saved. -/
def restore_cache_context (state : State) : State :=
  match state.cache_mode_contexts.pop with
  | (some context, cache_mode_contexts) =>
    { state with
      cache_mode_contexts
      cache_mode := context.mode
      cp0 := state.cp0.set_status_cache_control context.status_bits }
  | (none, cache_mode_contexts) => { state with cache_mode_contexts }

/-- The effect of a completing instruction apart from a TLB write. -/
def apply_effect (state : State) : Option InstructionEffect → State
  | some (.DelayedGprWrite index value load_merge_bypass) =>
    { state with pending_gpr_write := some { index, value, load_merge_bypass } }
  | some (.DelayedCp0Write index value) =>
    { state.note_status_transfer index value with pending_cp0_write := some { index, value } }
  | some (.DelayedCp1GeneralWrite index value) =>
    { state with pending_cp1_write := some (.General index value) }
  | some (.DelayedCp1ControlWrite index value) =>
    { state with pending_cp1_write := some (.Control index value) }
  | some (.DelayedCp1ConditionWrite value) =>
    { state with pending_cp1_write := some (.Condition value) }
  | some (.TlbRead entry_hi entry_lo) =>
    { state with cp0 := state.cp0.write_tlb_read_result entry_hi entry_lo }
  | some (.TlbProbe index) => { state with cp0 := state.cp0.write_tlb_probe_result index }
  | some (.RestoreStatus value) =>
    { state with cp0 := state.cp0.restore_status value }.restore_cache_context
  | some (.TlbWrite ..) | none => state

/-- Installs the TLB write of the completing instruction, or lets the older ones
move one boundary closer to the instruction view. -/
def complete_tlb_write (mmu : Mmu) : Option InstructionEffect → Mmu
  | some (.TlbWrite index entry_hi entry_lo) => mmu.complete_write index entry_hi entry_lo
  | _ => mmu.advance_instruction_view

def complete_instruction (state : State) (delayed_resume_pc : Option U32)
    (effect : Option InstructionEffect) : State :=
  let state := state.commit_pending_writes.apply_effect effect
  { state with
    mmu := complete_tlb_write state.mmu effect
    pc :=
      match state.delay_slot with
      | some delay_slot => delay_slot.resume_pc
      | none => state.pc + 4
    delay_slot := delayed_resume_pc.map fun resume_pc => { origin_pc := state.pc, resume_pc }
    cp0 := state.cp0.advance_random }

/-- Saves the cache-control mode of the context an exception interrupts and
starts the exception context from the effective view it found. -/
def save_cache_context (state : State) : State :=
  let recognition := state.cache_mode.effective
  { state with
    cache_mode_contexts := state.cache_mode_contexts.push
      { status_bits := state.cp0.status_cache_control, mode := state.cache_mode }
    cache_mode := .settled recognition
    cp0 := state.cp0.set_status_cache_control recognition }

def take_exception (state : State) (exception : Exception) : State :=
  let state := state.commit_pending_writes.save_cache_context
  let (epc, in_delay_slot) :=
    match state.delay_slot with
    | some delay_slot => (delay_slot.origin_pc, true)
    | none => (state.pc, false)
  let (vector, cp0) := state.cp0.take_exception exception epc in_delay_slot
  { state with
    delay_slot := none
    pc := vector
    cp0 := cp0.advance_random
    mmu := state.mmu.advance_instruction_view }

end State

end state

end se_cpu
