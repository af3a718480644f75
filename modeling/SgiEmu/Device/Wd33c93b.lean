import SgiEmu.Core.Time
import SgiEmu.Device.Scsi

open se_core se_core.time se_device.scsi

namespace se_device.wd33c93b

def OWN_ID : Nat := 0x00
def CONTROL : Nat := 0x01
def TIMEOUT_PERIOD : Nat := 0x02
def CDB_START : Nat := 0x03
def CDB_END : Nat := 0x0e
def TARGET_LUN : Nat := 0x0f
def COMMAND_PHASE : Nat := 0x10
def SYNCHRONOUS_TRANSFER : Nat := 0x11
def TRANSFER_COUNT_MSB : Nat := 0x12
def TRANSFER_COUNT_MID : Nat := 0x13
def TRANSFER_COUNT_LSB : Nat := 0x14
def DESTINATION_ID : Nat := 0x15
def SOURCE_ID : Nat := 0x16
def SCSI_STATUS : Nat := 0x17
def COMMAND : Nat := 0x18
def DATA : Nat := 0x19
def AUXILIARY_STATUS : Nat := 0x1f

def INTERRUPT_PENDING : U8 := 0x80
def BUSY : U8 := 0x20
def COMMAND_IN_PROGRESS : U8 := 0x10
def SELECT_AND_TRANSFER_WITH_ATN : U8 := 0x08
def RESET_COMPLETION_STATUS : U8 := 0x00
def ADVANCED_RESET_COMPLETION_STATUS : U8 := 0x01
def SELECT_AND_TRANSFER_COMPLETION_STATUS : U8 := 0x16
def SELECTION_TIMEOUT_STATUS : U8 := 0x42
def DATA_TRANSFER_PHASE : U8 := 0x46
def SELECT_AND_TRANSFER_PHASE : U8 := 0x60
def ADVANCED_FEATURES : U8 := 0x08
def SOURCE_ID_PRESERVED_BITS : U8 := 0x0f
def TRANSFER_COUNT_MASK : Nat := 0x00ffffff
def DMA_MODE : U8 := 0xe0

/-- The length of a CDB by its opcode, as the controller knows it. -/
def cdb_length (opcode : U8) : Nat :=
  if opcode = 0xc4 ∨ opcode = 0xc9 then 10
  else
    match (opcode >>> 5).toNat with
    | 0 => 6
    | 1 => 10
    | 2 => 10
    | 5 => 12
    | _ => 6

def selector_advances (register : Nat) : Bool :=
  !(register == COMMAND || register == DATA || register == AUXILIARY_STATUS)

/-- A stable Select-And-Transfer request. -/
structure SelectAndTransferRequest where
  destination_id : Nat
  lun : U8
  transfer_count : Nat
  cdb : Vector U8 12
deriving DecidableEq, Repr

/-- The command descriptor block of a request. -/
def SelectAndTransferRequest.bytes (request : SelectAndTransferRequest) : List U8 :=
  request.cdb.toList.take (cdb_length (request.cdb.get 0))

inductive WdRequest where
  | Combined (request : SelectAndTransferRequest)
  | Select (target_id : Nat) (attention : Bool)
  | Transfer
  | Pump
  | Output (value : U8)
  | Phase
  | Acknowledge
  | Attention
  | Abort
  | Disconnect
  | Timeout
deriving DecidableEq, Repr

/-- Board work remaining after servicing a controller operation. -/
inductive WdWork where
  | Idle
  | Dma (direction : ScsiDataDirection) (byte_count : Nat)
  | SelectionWait (duration : Option Nat)
deriving DecidableEq, Repr

/-- What must not happen in the controller: a refusal by the bus, or a byte counter
decremented at zero. -/
inductive WdFault where
  | Bus (error : ScsiBusError)
  | CounterUnderflow
deriving DecidableEq, Repr

structure Wd33c93b where
  clock_hz : Nat
  selected_register : Nat
  own_id : U8
  control : U8
  timeout_period : U8
  cdb : Vector U8 12
  target_lun : U8
  command_phase : U8
  synchronous_transfer : U8
  transfer_count : Nat
  destination_id : U8
  source_id : U8
  scsi_status : U8
  command : U8
  command_in_progress : Bool
  interrupt_pending : Bool
  pending_request : Option WdRequest
  software_reset_completed : Bool
  busy : Bool
  combined : Bool
  attention : Bool
  ack_asserted : Bool
  phase_after_status : Bool
  pio_phase : Option ScsiPhase
  pio_remaining : Nat
  single_byte : Bool
  input_byte : Option U8
  output_ready : Bool
  aborting : Bool
deriving DecidableEq, Repr

inductive Port where
  | Address
  | Data
deriving DecidableEq, Repr

namespace Wd33c93b

/-- A controller after hardware reset completion. -/
def new (clock_hz : Nat) : Wd33c93b :=
  { clock_hz, selected_register := 0, own_id := 0, control := 0, timeout_period := 0, cdb := Vector.replicate 12 0
    target_lun := 0, command_phase := 0, synchronous_transfer := 0, transfer_count := 0, destination_id := 0
    source_id := 0, scsi_status := RESET_COMPLETION_STATUS, command := 0, command_in_progress := false
    interrupt_pending := true, pending_request := none, software_reset_completed := false, busy := false
    combined := false, attention := false, ack_asserted := false, phase_after_status := false, pio_phase := none
    pio_remaining := 0, single_byte := false, input_byte := none, output_ready := false, aborting := false }

def clear_transfer_state (wd : Wd33c93b) : Wd33c93b :=
  { wd with
    busy := false, combined := false, attention := false, ack_asserted := false, phase_after_status := false
    pio_phase := none, pio_remaining := 0, single_byte := false, input_byte := none, output_ready := false
    aborting := false }

/-- A hardware reset, which preserves the documented programming registers. -/
def reset (wd : Wd33c93b) : Wd33c93b :=
  { wd with
    selected_register := 0, own_id := 0, source_id := wd.source_id &&& SOURCE_ID_PRESERVED_BITS
    scsi_status := RESET_COMPLETION_STATUS, command_in_progress := false, interrupt_pending := true
    pending_request := none, software_reset_completed := false }.clear_transfer_state

def raise_status (wd : Wd33c93b) (status : U8) : Wd33c93b :=
  { wd with
    scsi_status := status, command_in_progress := false, busy := false, output_ready := false
    interrupt_pending := true }

def dma_mode (wd : Wd33c93b) : Bool := wd.control &&& DMA_MODE != 0

/-! ## Registers -/

def auxiliary_status (wd : Wd33c93b) : U8 :=
  (if wd.interrupt_pending then INTERRUPT_PENDING else 0)
    ||| (if wd.command_in_progress then COMMAND_IN_PROGRESS else 0)
    ||| (if wd.busy then BUSY else 0)
    ||| (if wd.input_byte.isSome || wd.output_ready then 1 else 0)

def read_selected_register (wd : Wd33c93b) (register : Nat) : U8 :=
  if register = OWN_ID then wd.own_id
  else if register = CONTROL then wd.control
  else if register = TIMEOUT_PERIOD then wd.timeout_period
  else if CDB_START ≤ register ∧ register ≤ CDB_END then wd.cdb[register - CDB_START]?.getD 0
  else if register = TARGET_LUN then wd.target_lun
  else if register = COMMAND_PHASE then wd.command_phase
  else if register = SYNCHRONOUS_TRANSFER then wd.synchronous_transfer
  else if register = TRANSFER_COUNT_MSB then BitVec.ofNat 8 (wd.transfer_count >>> 16)
  else if register = TRANSFER_COUNT_MID then BitVec.ofNat 8 (wd.transfer_count >>> 8)
  else if register = TRANSFER_COUNT_LSB then BitVec.ofNat 8 wd.transfer_count
  else if register = DESTINATION_ID then wd.destination_id
  else if register = SOURCE_ID then wd.source_id
  else if register = SCSI_STATUS then wd.scsi_status
  else if register = COMMAND then wd.command
  else if register = DATA then wd.input_byte.getD 0xff
  else if register = AUXILIARY_STATUS then wd.auxiliary_status
  else 0xff

def peek_port (wd : Wd33c93b) : Port → U8
  | .Address => wd.auxiliary_status
  | .Data => wd.read_selected_register wd.selected_register

/-- Performs one chip read and applies its register side effects. -/
def read_port (wd : Wd33c93b) (port : Port) : U8 × Wd33c93b :=
  let value := wd.peek_port port
  match port with
  | .Address => (value, wd)
  | .Data =>
    let register := wd.selected_register
    if register = SCSI_STATUS then
      let wd := { wd with interrupt_pending := false, selected_register := COMMAND }
      if wd.phase_after_status then (value, { wd with phase_after_status := false, pending_request := some .Phase })
      else (value, wd)
    else if register = DATA ∧ wd.input_byte.isSome then
      (value, { wd with input_byte := none, pending_request := some .Pump })
    else if selector_advances register then (value, { wd with selected_register := (register + 1) % 32 })
    else (value, wd)

def software_reset (wd : Wd33c93b) : Wd33c93b :=
  let advanced := wd.own_id &&& ADVANCED_FEATURES != 0
  { wd with
    control := 0, timeout_period := 0, cdb := Vector.replicate 12 0, target_lun := 0, command_phase := 0
    synchronous_transfer := 0, transfer_count := 0, destination_id := 0, source_id := 0
    scsi_status := if advanced then ADVANCED_RESET_COMPLETION_STATUS else RESET_COMPLETION_STATUS
    command := 0, command_in_progress := false, interrupt_pending := true, pending_request := none
    software_reset_completed := true }.clear_transfer_state

/-- The commands a host write may carry. -/
def command_supported (command : U8) : Bool :=
  command.toNat ≤ 4 || 6 ≤ command.toNat && command.toNat ≤ 9 || command == 0x20 || command == 0xa0

def execute_command (wd : Wd33c93b) (command : U8) : Wd33c93b :=
  let wd := { wd with command, pending_request := none, phase_after_status := false }
  if command = 0 then wd.software_reset
  else if command = 0x08 ∨ command = 0x09 then
    { wd with
      command_in_progress := true, busy := true, combined := true
      attention := command == SELECT_AND_TRANSFER_WITH_ATN, interrupt_pending := false
      software_reset_completed := false
      pending_request := some (.Combined
        { destination_id := (wd.destination_id &&& 0x07).toNat, lun := wd.target_lun &&& 0x07
          transfer_count := wd.transfer_count, cdb := wd.cdb }) }
  else if command = 0x06 ∨ command = 0x07 then
    { wd.clear_transfer_state with
      command_in_progress := true, busy := true, interrupt_pending := false, attention := command == 6
      pending_request := some (.Select (wd.destination_id &&& 7).toNat (command == 6)) }
  else if command = 0x20 ∨ command = 0xa0 then
    { wd with
      combined := false, busy := true, command_in_progress := true, interrupt_pending := false, input_byte := none
      output_ready := false, single_byte := command &&& 0x80 != 0 || wd.transfer_count == 0
      pending_request := some .Transfer }
  else if command = 1 then { wd with pending_request := some .Abort }
  else if command = 2 then { wd with attention := true, pending_request := some .Attention }
  else if command = 3 then { wd with pending_request := some .Acknowledge }
  else if command = 4 then { wd with pending_request := some .Disconnect }
  else wd

def write_selected_register (wd : Wd33c93b) (register : Nat) (value : U8) : Wd33c93b :=
  let wd :=
    if register = OWN_ID then { wd with own_id := value }
    else if register = CONTROL then { wd with control := value }
    else if register = TIMEOUT_PERIOD then { wd with timeout_period := value }
    else if CDB_START ≤ register ∧ register ≤ CDB_END then
      { wd with cdb := wd.cdb.setIfInBounds (register - CDB_START) value }
    else if register = TARGET_LUN then { wd with target_lun := value }
    else if register = COMMAND_PHASE then { wd with command_phase := value }
    else if register = SYNCHRONOUS_TRANSFER then { wd with synchronous_transfer := value }
    else if register = TRANSFER_COUNT_MSB then
      { wd with transfer_count := wd.transfer_count &&& 0x0000ffff ||| value.toNat <<< 16 }
    else if register = TRANSFER_COUNT_MID then
      { wd with transfer_count := wd.transfer_count &&& 0x00ff00ff ||| value.toNat <<< 8 }
    else if register = TRANSFER_COUNT_LSB then
      { wd with transfer_count := wd.transfer_count &&& 0x00ffff00 ||| value.toNat }
    else if register = DESTINATION_ID then { wd with destination_id := value }
    else if register = SOURCE_ID then { wd with source_id := value }
    else if register = COMMAND then wd.execute_command value
    else if register = DATA ∧ wd.output_ready then
      { wd with output_ready := false, pending_request := some (.Output value) }
    else wd
  { wd with transfer_count := wd.transfer_count &&& TRANSFER_COUNT_MASK }

def write_port (wd : Wd33c93b) (port : Port) (value : U8) : Wd33c93b :=
  match port with
  | .Address => { wd with selected_register := (value &&& 0x1f).toNat }
  | .Data =>
    let register := wd.selected_register
    let wd := wd.write_selected_register register value
    if selector_advances register then { wd with selected_register := (register + 1) % 32 } else wd

/-- Writes the connected byte of a host window; a command outside the supported
subset is refused. -/
def write (wd : Wd33c93b) (port : Port) (value : U8) : Option Wd33c93b :=
  if port = .Data ∧ wd.selected_register = COMMAND ∧ !command_supported value then none
  else some (wd.write_port port value)

def take_request (wd : Wd33c93b) : Option WdRequest × Wd33c93b := (wd.pending_request, { wd with pending_request := none })

def take_reset_completion (wd : Wd33c93b) : Bool × Wd33c93b :=
  (wd.software_reset_completed, { wd with software_reset_completed := false })

/-! ## Transfer bookkeeping -/

def advance_information_byte (wd : Wd33c93b) : Except WdFault Wd33c93b :=
  if wd.pio_remaining = 0 then .error .CounterUnderflow
  else
    let wd := { wd with pio_remaining := wd.pio_remaining - 1 }
    if wd.single_byte then .ok { wd with transfer_count := 0 }
    else if wd.transfer_count = 0 then .error .CounterUnderflow
    else .ok { wd with transfer_count := wd.transfer_count - 1 }

/-- Whether an active DMA payload waits for the board. -/
def dma_pending (wd : Wd33c93b) : Bool :=
  wd.busy && wd.dma_mode && (wd.pio_phase == some .DataIn || wd.pio_phase == some .DataOut) && wd.pio_remaining != 0

def remaining_transfer_bytes (wd : Wd33c93b) : Nat := if wd.single_byte then wd.pio_remaining else wd.transfer_count

/-- Subtracts accepted bytes from the transfer residual, if it has them. -/
def consume_transfer_bytes (wd : Wd33c93b) (byte_count : Nat) : Option Wd33c93b :=
  if wd.single_byte then
    if byte_count ≠ 1 ∨ wd.pio_remaining ≠ 1 then none else some { wd with transfer_count := 0, pio_remaining := 0 }
  else if byte_count > wd.transfer_count then none
  else some { wd with transfer_count := wd.transfer_count - byte_count }

def finish_select_and_transfer (wd : Wd33c93b) (target_status : U8) : Wd33c93b :=
  { wd.clear_transfer_state with
    target_lun := target_status, command_phase := SELECT_AND_TRANSFER_PHASE
    scsi_status := SELECT_AND_TRANSFER_COMPLETION_STATUS, command_in_progress := false, interrupt_pending := true
    pending_request := none }

def finish_selection_timeout (wd : Wd33c93b) : Wd33c93b :=
  { wd.clear_transfer_state with
    command_phase := 0, scsi_status := SELECTION_TIMEOUT_STATUS, command_in_progress := false
    interrupt_pending := true, pending_request := none }

/-- Waits for a selection that nobody answers, for the programmed timeout. -/
def wait_for_selection (wd : Wd33c93b) : WdWork × Wd33c93b :=
  let clocks := wd.timeout_period.toNat * 80000
  (.SelectionWait (if wd.timeout_period = 0 then none
      else some ((clocks * ATTOSECONDS_PER_SECOND + wd.clock_hz - 1) / wd.clock_hz)),
    { wd with busy := true, pending_request := some .Timeout })

section Bus

variable {τ μ : Type} [ScsiTarget τ] [StorageMedium μ]

def report_phase (wd : Wd33c93b) (bus : ScsiBus τ μ) (status_class : U8) : Wd33c93b :=
  wd.raise_status (match bus.phase with
    | none => 0x85
    | some phase => status_class ||| phase.bits)

def abort_transfer (wd : Wd33c93b) (bus : ScsiBus τ μ) : Wd33c93b :=
  { wd with pio_phase := none, aborting := false }.raise_status (match bus.phase with
    | none => 0x22
    | some phase => 0x28 ||| phase.bits)

/-- The end of a combined command: status and COMMAND COMPLETE. -/
def finish_combined (wd : Wd33c93b) (bus : ScsiBus τ μ) : Except WdFault (Wd33c93b × ScsiBus τ μ) :=
  match bus.read_information with
  | (.error error, _) => .error (.Bus error)
  | (.ok none, _) => .error (.Bus .InvalidPhase)
  | (.ok (some status), bus) =>
    match bus.read_information with
    | (.error error, _) => .error (.Bus error)
    | (.ok message, bus) =>
      if message ≠ some 0 then .error (.Bus .InvalidPhase)
      else .ok (wd.finish_select_and_transfer status, bus.acknowledge_message false)

/-- The end of a transfer, by its count or by a phase change. -/
def end_transfer (wd : Wd33c93b) (bus : ScsiBus τ μ) (phase : ScsiPhase) : Wd33c93b :=
  let wd :=
    if !wd.combined ∧ phase = .MessageIn ∧ wd.pio_remaining = 0 then
      { wd with ack_asserted := true }.raise_status 0x20
    else if wd.combined then { wd with command_phase := DATA_TRANSFER_PHASE }.report_phase bus 0x48
    else wd.report_phase bus (if wd.pio_remaining = 0 then 0x18 else 0x48)
  { wd with pio_phase := none }

/-- Moves the controller on as far as it goes without the host. A read that storage
failed leaves no byte and the bus in Status, which a second attempt reports. -/
def pump : (attempts : Nat) → Wd33c93b → ScsiBus τ μ → Except WdFault (WdWork × Wd33c93b × ScsiBus τ μ)
  | 0, wd, bus => .ok (.Idle, wd, bus)
  | attempts + 1, wd, bus =>
    if wd.aborting ∧ wd.input_byte.isNone then .ok (.Idle, wd.abort_transfer bus, bus)
    else if wd.combined ∧ bus.phase = some .Status ∧ wd.input_byte.isNone then
      match wd.finish_combined bus with
      | .error fault => .error fault
      | .ok (wd, bus) => .ok (.Idle, wd, bus)
    else
      match wd.pio_phase with
      | none => .ok (.Idle, wd, bus)
      | some phase =>
        if wd.input_byte.isSome then .ok (.Idle, wd, bus)
        else if wd.pio_remaining = 0 ∨ bus.phase ≠ some phase then .ok (.Idle, wd.end_transfer bus phase, bus)
        else if (phase = .DataIn ∨ phase = .DataOut) ∧ wd.dma_mode then
          .ok (.Dma (if phase.input then .In else .Out) wd.pio_remaining, wd, bus)
        else if phase.input then
          match bus.read_information with
          | (.error error, _) => .error (.Bus error)
          | (.ok none, bus) => pump attempts { wd with input_byte := none } bus
          | (.ok (some value), bus) =>
            match { wd with input_byte := some value }.advance_information_byte with
            | .error fault => .error fault
            | .ok wd => .ok (.Idle, wd, bus)
        else .ok (.Idle, { wd with output_ready := true }, bus)

/-- Enough attempts for a read that fails once. -/
def PUMP_ATTEMPTS : Nat := 2

/-- Sends bytes in the current phase, none of them the last of a message. -/
def write_all (bus : ScsiBus τ μ) : List U8 → Except WdFault (ScsiBus τ μ)
  | [] => .ok bus
  | value :: bytes =>
    match bus.write_information value false with
    | (.error error, _) => .error (.Bus error)
    | (.ok _, bus) => write_all bus bytes

/-- Whether a combined command may resume the connection the bus has. -/
def resumes (wd : Wd33c93b) (bus : ScsiBus τ μ) (request : SelectAndTransferRequest) : Bool :=
  bus.connected_address.map (·.1) == some request.destination_id
    && (wd.command_phase == 0x45 || wd.command_phase == DATA_TRANSFER_PHASE)

def begin_payload (wd : Wd33c93b) (bus : ScsiBus τ μ) : Wd33c93b :=
  { wd with pio_phase := bus.phase, pio_remaining := wd.transfer_count, single_byte := false }

def service_combined (wd : Wd33c93b) (bus : ScsiBus τ μ) (request : SelectAndTransferRequest) :
    Except WdFault (WdWork × Wd33c93b × ScsiBus τ μ) :=
  if bus.phase.isNone then
    match bus.select request.destination_id wd.attention with
    | (.error error, _) => .error (.Bus error)
    | (.ok false, bus) => .ok (wd.wait_for_selection.1, wd.wait_for_selection.2, bus)
    | (.ok true, bus) =>
      let wd := { wd with command_phase := 0x10 }
      let identified : Except WdFault (Wd33c93b × ScsiBus τ μ) :=
        if wd.attention then
          match bus.write_information (0x80 ||| request.lun) true with
          | (.error error, _) => .error (.Bus error)
          | (.ok _, bus) => .ok ({ wd with attention := false, command_phase := 0x20 }, bus)
        else .ok (wd, bus)
      match identified with
      | .error fault => .error fault
      | .ok (wd, bus) =>
        match write_all bus request.bytes with
        | .error fault => .error fault
        | .ok bus => (wd.begin_payload bus).pump PUMP_ATTEMPTS bus
  else if !wd.resumes bus request then .ok (.Idle, wd.raise_status 0x40, bus)
  else (wd.begin_payload bus).pump PUMP_ATTEMPTS bus

def service_select (wd : Wd33c93b) (bus : ScsiBus τ μ) (target_id : Nat) (attention : Bool) :
    Except WdFault (WdWork × Wd33c93b × ScsiBus τ μ) :=
  if bus.phase.isSome then .ok (.Idle, wd.raise_status 0x40, bus)
  else
    match bus.select target_id attention with
    | (.error error, _) => .error (.Bus error)
    | (.ok false, bus) => .ok (wd.wait_for_selection.1, wd.wait_for_selection.2, bus)
    | (.ok true, bus) => .ok (.Idle, { wd.raise_status 0x11 with phase_after_status := true }, bus)

def service_output (wd : Wd33c93b) (bus : ScsiBus τ μ) (value : U8) :
    Except WdFault (WdWork × Wd33c93b × ScsiBus τ μ) :=
  let last := wd.pio_remaining == 1
  match bus.write_information value last with
  | (.error error, _) => .error (.Bus error)
  | (.ok consumed, bus) =>
    let wd := if wd.pio_phase = some .MessageOut ∧ last then { wd with attention := false } else wd
    if consumed then
      match wd.advance_information_byte with
      | .error fault => .error fault
      | .ok wd => wd.pump PUMP_ATTEMPTS bus
    else wd.pump PUMP_ATTEMPTS bus

/-- Advances the controller against the connected bus. -/
def service_request (wd : Wd33c93b) (request : WdRequest) (bus : ScsiBus τ μ) :
    Except WdFault (WdWork × Wd33c93b × ScsiBus τ μ) :=
  let wd := { wd with command_in_progress := false }
  match request with
  | .Select target_id attention => wd.service_select bus target_id attention
  | .Combined request => wd.service_combined bus request
  | .Transfer =>
    if bus.phase.isNone then .ok (.Idle, wd.raise_status 0x40, bus)
    else
      { wd with
        pio_phase := bus.phase
        pio_remaining := if wd.single_byte then 1 else wd.transfer_count }.pump PUMP_ATTEMPTS bus
  | .Pump => wd.pump PUMP_ATTEMPTS bus
  | .Output value => wd.service_output bus value
  | .Phase => .ok (.Idle, wd.report_phase bus 0x88, bus)
  | .Acknowledge =>
    if wd.ack_asserted then
      let bus := bus.acknowledge_message wd.attention
      .ok (.Idle, { wd with ack_asserted := false }.report_phase bus 0x88, bus)
    else .ok (.Idle, wd, bus)
  | .Attention =>
    if bus.phase.isNone then .ok (.Idle, wd.raise_status 0x40, bus)
    else if wd.ack_asserted then .ok (.Idle, wd, bus)
    else
      let bus := bus.assert_attention
      if wd.interrupt_pending then .ok (.Idle, { wd with phase_after_status := true }, bus)
      else if wd.busy then wd.pump PUMP_ATTEMPTS bus
      else .ok (.Idle, wd.report_phase bus 0x88, bus)
  | .Abort => .ok (.Idle, if wd.input_byte.isSome then { wd with aborting := true } else wd.abort_transfer bus, bus)
  | .Disconnect => .ok (.Idle, wd.clear_transfer_state, bus.cancel_transaction)
  | .Timeout => .ok (.Idle, wd.finish_selection_timeout, bus)

/-- Completes a board DMA window. -/
def finish_dma (wd : Wd33c93b) (bus : ScsiBus τ μ) (status : Option ScsiStatus) :
    Except WdFault (Wd33c93b × ScsiBus τ μ) :=
  let wd := { wd with pio_remaining := wd.transfer_count }
  let bus :=
    match status with
    | some status => bus.observe_transfer_result (.Complete 0 status)
    | none => bus
  match wd.pump PUMP_ATTEMPTS bus with
  | .error fault => .error fault
  | .ok (_, wd, bus) => .ok (wd, bus)

end Bus

end Wd33c93b

end se_device.wd33c93b
