import SgiEmu.Device.ScsiDisk
import SgiEmu.Device.ScsiCdrom

open se_core se_device.scsi_disk se_device.scsi_cdrom

namespace se_device.scsi

def TARGET_COUNT : Nat := 8
def LUN_COUNT : Nat := 8
def TARGET_SLOT_COUNT : Nat := TARGET_COUNT * LUN_COUNT

/-! ## Targets and media -/

/-- A fixed-size medium with exact byte-range accesses, which may fail. -/
class StorageMedium (μ : Type) where
  size_bytes : μ → Nat
  read_exact_at : μ → (offset length : Nat) → Option (List U8) × μ
  write_all_at : μ → (offset : Nat) → (data : List U8) → Bool × μ

/-- The hooks of a target whose medium can be replaced. -/
structure ScsiRemovableTarget (τ : Type) where
  validate_medium : τ → Nat → Bool
  medium_inserted : τ → Nat → ScsiMediaChangeOrigin → τ
  medium_removed : τ → ScsiMediaChangeOrigin → τ
  removal_prevented : τ → Bool
  release_removal_prevention : τ → τ

/-- Restorable state of a supported target. -/
inductive ScsiTargetSnapshot where
  | Disk (state : ScsiDisk)
  | Cdrom (state : ScsiCdrom)
deriving DecidableEq, Repr

/-- A functional target attached to the bus. -/
class ScsiTarget (τ : Type) where
  backing_requirement : τ → ScsiBackingRequirement
  removable_media : τ → Option (ScsiRemovableTarget τ)
  execute : τ → (cdb : List U8) → ScsiCommandPlan × τ
  complete_storage : τ → (succeeded : Bool) → ScsiStatus × τ
  complete_data_out : τ → (cdb data : List U8) → ScsiStatus × τ
  accepts_snapshot : τ → ScsiTargetSnapshot → Bool
  restore_snapshot : τ → ScsiTargetSnapshot → Bool × τ

/-- The storage behind one attached target. -/
inductive ScsiBacking (μ : Type) where
  | Fixed (medium : μ)
  | Removable (medium : Option μ)

structure TargetAttachment (τ μ : Type) where
  target : τ
  backing : ScsiBacking μ

/-! ## The bus -/

inductive ScsiPhase where
  | DataOut
  | DataIn
  | Command
  | Status
  | MessageOut
  | MessageIn
deriving DecidableEq, Repr

/-- The MSG, C/D and I/O signals of a phase. -/
def ScsiPhase.bits : ScsiPhase → U8
  | .DataOut => 0
  | .DataIn => 1
  | .Command => 2
  | .Status => 3
  | .MessageOut => 6
  | .MessageIn => 7

def ScsiPhase.input (phase : ScsiPhase) : Bool := phase.bits &&& 1 != 0

inductive ScsiDataDirection where
  | In
  | Out
deriving DecidableEq, Repr

structure ScsiConnection where
  target_id : Nat
  lun : Nat
  identified : Bool
  phase : ScsiPhase
  return_phase : ScsiPhase
  cdb : List U8
  message_out : List U8
  message_in : List U8
  message_offset : Nat
  status : ScsiStatus
deriving DecidableEq, Repr

inductive ScsiTransfer where
  | ImmediateDataIn (data : List U8) (next_offset : Nat) (final_status : ScsiStatus)
  | StorageDataIn (next_offset remaining : Nat)
  | StorageDataOut (next_offset remaining : Nat)
  | TargetDataOut (cdb data : List U8) (remaining : Nat)
deriving DecidableEq, Repr

structure ScsiTransaction where
  target_slot : Nat
  transfer : ScsiTransfer
deriving DecidableEq, Repr

structure ScsiBus (τ μ : Type) where
  targets : Vector (Option (TargetAttachment τ μ)) TARGET_SLOT_COUNT
  active_transaction : Option ScsiTransaction
  connection : Option ScsiConnection

inductive ScsiBusError where
  | InvalidAddress (target_id lun : Nat)
  | TransactionActive (target_id lun : Nat)
  | NoDataInTransaction
  | NoDataOutTransaction
  | EmptyDataBuffer
  | InvalidPhase
deriving DecidableEq, Repr

inductive ScsiCommandStart where
  | SelectionTimeout
  | Complete (status : ScsiStatus)
  | DataIn (byte_count : Nat)
  | DataOut (byte_count : Nat)
deriving DecidableEq, Repr

inductive ScsiTransferResult where
  | Rejected
  | More (transferred remaining : Nat)
  | Complete (transferred : Nat) (status : ScsiStatus)
deriving DecidableEq, Repr

def target_slot (target_id lun : Nat) : Option Nat :=
  if target_id < TARGET_COUNT ∧ lun < LUN_COUNT then some (target_id * LUN_COUNT + lun) else none

def address_for_slot (slot : Nat) : Nat × Nat := (slot / LUN_COUNT, slot % LUN_COUNT)

def cdb_length (opcode : U8) : Nat :=
  if opcode = 0xc4 ∨ opcode = 0xc9 then 10
  else
    match (opcode >>> 5).toNat with
    | 0 => 6
    | 1 => 10
    | 2 => 10
    | 4 => 16
    | 5 => 12
    | _ => 6

def ScsiTransfer.direction : ScsiTransfer → ScsiDataDirection
  | .ImmediateDataIn .. => .In
  | .StorageDataIn .. => .In
  | .StorageDataOut .. => .Out
  | .TargetDataOut .. => .Out

namespace ScsiBacking

variable {μ : Type} [StorageMedium μ]

def medium_size_bytes : ScsiBacking μ → Option Nat
  | .Fixed medium => some (StorageMedium.size_bytes medium)
  | .Removable medium => medium.map StorageMedium.size_bytes

/-- The installed medium. -/
def medium : ScsiBacking μ → Option μ
  | .Fixed medium => some medium
  | .Removable medium => medium

def set_medium (medium : μ) : ScsiBacking μ → ScsiBacking μ
  | .Fixed _ => .Fixed medium
  | .Removable _ => .Removable (some medium)

end ScsiBacking

namespace ScsiBus

variable {τ μ : Type} [ScsiTarget τ] [StorageMedium μ]

def new : ScsiBus τ μ :=
  { targets := Vector.replicate TARGET_SLOT_COUNT none, active_transaction := none, connection := none }

/-- What is attached at a slot. -/
def attachment (bus : ScsiBus τ μ) (slot : Nat) : Option (TargetAttachment τ μ) := (bus.targets[slot]?).join

def set_attachment (bus : ScsiBus τ μ) (slot : Nat) (attachment : TargetAttachment τ μ) : ScsiBus τ μ :=
  { bus with targets := bus.targets.setIfInBounds slot (some attachment) }

def set_connection (bus : ScsiBus τ μ) (connection : ScsiConnection) : ScsiBus τ μ :=
  { bus with connection := some connection }

def set_transfer (bus : ScsiBus τ μ) (target_slot : Nat) (transfer : ScsiTransfer) : ScsiBus τ μ :=
  { bus with active_transaction := some { target_slot, transfer } }

def target_present (bus : ScsiBus τ μ) (target_id : Nat) : Bool :=
  target_id < 8 && (List.range 8).any fun lun => (bus.attachment (target_id * 8 + lun)).isSome

def phase (bus : ScsiBus τ μ) : Option ScsiPhase := bus.connection.map (·.phase)

def connected_address (bus : ScsiBus τ μ) : Option (Nat × Nat) :=
  bus.connection.map fun connection => (connection.target_id, connection.lun)

def active_address (bus : ScsiBus τ μ) : Option (Nat × Nat) :=
  bus.active_transaction.map fun transaction => address_for_slot transaction.target_slot

def active_data_direction (bus : ScsiBus τ μ) : Option ScsiDataDirection :=
  bus.active_transaction.map (·.transfer.direction)

def cancel_transaction (bus : ScsiBus τ μ) : ScsiBus τ μ :=
  { bus with active_transaction := none, connection := none }

def set_status (bus : ScsiBus τ μ) (status : ScsiStatus) : ScsiBus τ μ :=
  { bus with connection := bus.connection.map fun connection => { connection with status, phase := .Status } }

def set_phase (bus : ScsiBus τ μ) (phase : ScsiPhase) : ScsiBus τ μ :=
  { bus with connection := bus.connection.map fun connection => { connection with phase } }

/-- Retains the final target status after a data transaction ends. -/
def observe_transfer_result (bus : ScsiBus τ μ) : ScsiTransferResult → ScsiBus τ μ
  | .Complete _ status => bus.set_status status
  | _ => bus

/-! ### Commands -/

def complete_target_storage (bus : ScsiBus τ μ) (slot : Nat) (succeeded : Bool) : ScsiStatus × ScsiBus τ μ :=
  match bus.attachment slot with
  | none => (.CheckCondition, bus)
  | some attachment =>
    let completed := ScsiTarget.complete_storage attachment.target succeeded
    (completed.1, bus.set_attachment slot { attachment with target := completed.2 })

def complete_target_data_out (bus : ScsiBus τ μ) (slot : Nat) (cdb data : List U8) : ScsiStatus × ScsiBus τ μ :=
  match bus.attachment slot with
  | none => (.CheckCondition, bus)
  | some attachment =>
    let completed := ScsiTarget.complete_data_out attachment.target cdb data
    (completed.1, bus.set_attachment slot { attachment with target := completed.2 })

def eject_guest_medium (bus : ScsiBus τ μ) (slot : Nat) : ScsiCommandStart × ScsiBus τ μ :=
  match bus.attachment slot with
  | none => (.Complete .CheckCondition, bus)
  | some attachment =>
    match attachment.backing with
    | .Fixed _ => (.Complete .CheckCondition, bus)
    | .Removable none => (.Complete .Good, bus)
    | .Removable (some _) =>
      let target :=
        match ScsiTarget.removable_media attachment.target with
        | some removable => removable.medium_removed attachment.target .GuestCommand
        | none => attachment.target
      (.Complete .Good, bus.set_attachment slot { target, backing := .Removable none })

/-- Whether a byte range lies on the medium behind a slot. -/
def range_is_valid (bus : ScsiBus τ μ) (slot offset byte_count : Nat) : Bool :=
  match checked_add_u64 offset byte_count with
  | none => false
  | some last =>
    ((bus.attachment slot).bind fun attachment => attachment.backing.medium_size_bytes).any fun size => last ≤ size

def start_storage_transfer (bus : ScsiBus τ μ) (slot offset byte_count : Nat) (direction : ScsiDataDirection) :
    ScsiCommandStart × ScsiBus τ μ :=
  if byte_count = 0 then
    let completed := bus.complete_target_storage slot true
    (.Complete completed.1, completed.2)
  else if !bus.range_is_valid slot offset byte_count then
    let completed := bus.complete_target_storage slot false
    (.Complete completed.1, completed.2)
  else
    match direction with
    | .In => (.DataIn byte_count, bus.set_transfer slot (.StorageDataIn offset byte_count))
    | .Out => (.DataOut byte_count, bus.set_transfer slot (.StorageDataOut offset byte_count))

/-- Carries out the plan the target at `slot` made of a command. -/
def start_plan (bus : ScsiBus τ μ) (slot : Nat) (cdb : List U8) (plan : ScsiCommandPlan) :
    ScsiCommandStart × ScsiBus τ μ :=
  match plan with
  | .Complete status data_in =>
    if data_in.isEmpty then (.Complete status, bus)
    else (.DataIn data_in.length, bus.set_transfer slot (.ImmediateDataIn data_in 0 status))
  | .ReadStorage offset byte_count => bus.start_storage_transfer slot offset byte_count .In
  | .WriteStorage offset byte_count => bus.start_storage_transfer slot offset byte_count .Out
  | .ReceiveDataOut byte_count =>
    if byte_count = 0 then
      let completed := bus.complete_target_data_out slot cdb []
      (.Complete completed.1, completed.2)
    else (.DataOut byte_count, bus.set_transfer slot (.TargetDataOut cdb [] byte_count))
  | .EjectMedium => bus.eject_guest_medium slot

/-- Starts one command for the selected target and LUN. -/
def start_command (bus : ScsiBus τ μ) (target_id lun : Nat) (cdb : List U8) :
    Except ScsiBusError ScsiCommandStart × ScsiBus τ μ :=
  match target_slot target_id lun with
  | none => (.error (.InvalidAddress target_id lun), bus)
  | some slot =>
    match bus.active_address with
    | some address => (.error (.TransactionActive address.1 address.2), bus)
    | none =>
      match bus.attachment slot with
      | none => (.ok .SelectionTimeout, bus)
      | some attachment =>
        let executed := ScsiTarget.execute attachment.target cdb
        let started := (bus.set_attachment slot { attachment with target := executed.2 }).start_plan slot cdb executed.1
        (.ok started.1, started.2)

/-! ### Data transfers

`accept` and `provide` are the callbacks of the initiator: they answer a chunk and
may change the initiator's own state `σ`. -/

variable {σ : Type}

/-- A zeroed chunk buffer once the initiator has filled it. -/
def fill_buffer (byte_count : Nat) (bytes : List U8) : List U8 := (bytes ++ List.replicate byte_count 0).take byte_count

def transfer_immediate_data_in (bus : ScsiBus τ μ) (slot : Nat) (data : List U8) (next_offset : Nat)
    (final_status : ScsiStatus) (maximum_bytes : Nat) (accept : List U8 → σ → Bool × σ) (state : σ) :
    ScsiTransferResult × ScsiBus τ μ × σ :=
  let last := min (next_offset + maximum_bytes) data.length
  let transferred := last - next_offset
  let accepted := accept ((data.drop next_offset).take transferred) state
  if !accepted.1 then (.Rejected, bus, accepted.2)
  else if last = data.length then
    (.Complete transferred final_status, { bus with active_transaction := none }, accepted.2)
  else
    (.More transferred (data.length - last), bus.set_transfer slot (.ImmediateDataIn data last final_status), accepted.2)

def transfer_storage_data_in (bus : ScsiBus τ μ) (slot next_offset active_remaining maximum_bytes : Nat)
    (accept : List U8 → σ → Bool × σ) (state : σ) : ScsiTransferResult × ScsiBus τ μ × σ :=
  let byte_count := min maximum_bytes active_remaining
  let failed (bus : ScsiBus τ μ) :=
    let completed := { bus with active_transaction := none }.complete_target_storage slot false
    (ScsiTransferResult.Complete 0 completed.1, completed.2, state)
  match bus.attachment slot with
  | none => failed bus
  | some attachment =>
    match attachment.backing.medium with
    | none => failed bus
    | some medium =>
      match StorageMedium.read_exact_at medium next_offset byte_count with
      | (none, medium) =>
        failed (bus.set_attachment slot { attachment with backing := attachment.backing.set_medium medium })
      | (some bytes, medium) =>
        let bus := bus.set_attachment slot { attachment with backing := attachment.backing.set_medium medium }
        let accepted := accept bytes state
        let remaining := active_remaining - byte_count
        if !accepted.1 then (.Rejected, bus, accepted.2)
        else if remaining = 0 then
          let completed := { bus with active_transaction := none }.complete_target_storage slot true
          (.Complete byte_count completed.1, completed.2, accepted.2)
        else
          (.More byte_count remaining, bus.set_transfer slot (.StorageDataIn (next_offset + byte_count) remaining),
            accepted.2)

/-- Offers at most `maximum_bytes` from the active Data In transaction, which
advances only where the initiator accepts them. -/
def transfer_data_in (bus : ScsiBus τ μ) (maximum_bytes : Nat) (accept : List U8 → σ → Bool × σ) (state : σ) :
    Except ScsiBusError ScsiTransferResult × ScsiBus τ μ × σ :=
  if maximum_bytes = 0 then (.error .EmptyDataBuffer, bus, state)
  else
    match bus.active_transaction with
    | some { target_slot, transfer := .ImmediateDataIn data next_offset final_status } =>
      let transferred :=
        bus.transfer_immediate_data_in target_slot data next_offset final_status maximum_bytes accept state
      (.ok transferred.1, transferred.2)
    | some { target_slot, transfer := .StorageDataIn next_offset remaining } =>
      let transferred := bus.transfer_storage_data_in target_slot next_offset remaining maximum_bytes accept state
      (.ok transferred.1, transferred.2)
    | _ => (.error .NoDataInTransaction, bus, state)

def transfer_storage_data_out (bus : ScsiBus τ μ) (slot next_offset active_remaining maximum_bytes : Nat)
    (provide : Nat → σ → Option (List U8) × σ) (state : σ) : ScsiTransferResult × ScsiBus τ μ × σ :=
  let byte_count := min maximum_bytes active_remaining
  match provide byte_count state with
  | (none, state) => (.Rejected, bus, state)
  | (some provided, state) =>
    let bytes := fill_buffer byte_count provided
    let failed (bus : ScsiBus τ μ) :=
      let completed := { bus with active_transaction := none }.complete_target_storage slot false
      (ScsiTransferResult.Complete 0 completed.1, completed.2, state)
    match bus.attachment slot with
    | none => failed bus
    | some attachment =>
      match attachment.backing.medium with
      | none => failed bus
      | some medium =>
        let written := StorageMedium.write_all_at medium next_offset bytes
        let bus := bus.set_attachment slot { attachment with backing := attachment.backing.set_medium written.2 }
        let remaining := active_remaining - byte_count
        if !written.1 then failed bus
        else if remaining = 0 then
          let completed := { bus with active_transaction := none }.complete_target_storage slot true
          (.Complete byte_count completed.1, completed.2, state)
        else
          (.More byte_count remaining, bus.set_transfer slot (.StorageDataOut (next_offset + byte_count) remaining),
            state)

def transfer_target_data_out (bus : ScsiBus τ μ) (slot : Nat) (cdb data : List U8)
    (active_remaining maximum_bytes : Nat) (provide : Nat → σ → Option (List U8) × σ) (state : σ) :
    ScsiTransferResult × ScsiBus τ μ × σ :=
  let byte_count := min maximum_bytes active_remaining
  match provide byte_count state with
  | (none, state) => (.Rejected, bus, state)
  | (some provided, state) =>
    let bytes := fill_buffer byte_count provided
    let remaining := active_remaining - byte_count
    if remaining ≠ 0 then
      (.More byte_count remaining, bus.set_transfer slot (.TargetDataOut cdb (data ++ bytes) remaining), state)
    else
      let completed := { bus with active_transaction := none }.complete_target_data_out slot cdb (data ++ bytes)
      (.Complete byte_count completed.1, completed.2, state)

/-- Requests at most `maximum_bytes` for the active Data Out transaction; a
rejected request changes nothing. -/
def transfer_data_out (bus : ScsiBus τ μ) (maximum_bytes : Nat) (provide : Nat → σ → Option (List U8) × σ)
    (state : σ) : Except ScsiBusError ScsiTransferResult × ScsiBus τ μ × σ :=
  if maximum_bytes = 0 then (.error .EmptyDataBuffer, bus, state)
  else
    match bus.active_transaction with
    | some { target_slot, transfer := .StorageDataOut next_offset remaining } =>
      let transferred := bus.transfer_storage_data_out target_slot next_offset remaining maximum_bytes provide state
      (.ok transferred.1, transferred.2)
    | some { target_slot, transfer := .TargetDataOut cdb data remaining } =>
      let transferred := bus.transfer_target_data_out target_slot cdb data remaining maximum_bytes provide state
      (.ok transferred.1, transferred.2)
    | _ => (.error .NoDataOutTransaction, bus, state)

/-! ### Connections -/

/-- Selects a target without executing a CDB; an absent target leaves the bus free. -/
def select (bus : ScsiBus τ μ) (target_id : Nat) (attention : Bool) : Except ScsiBusError Bool × ScsiBus τ μ :=
  if bus.connection.isSome || bus.active_transaction.isSome then (.error .InvalidPhase, bus)
  else if !bus.target_present target_id then (.ok false, bus)
  else
    (.ok true, bus.set_connection
      { target_id, lun := 0, identified := false, phase := if attention then .MessageOut else .Command
        return_phase := .Command, cdb := [], message_out := [], message_in := [], message_offset := 0
        status := .Good })

/-- Reads the messages of the initiator in order; `skip` bytes belong to the
message before. -/
def read_messages (skip : Nat) (bytes : List U8) (connection : ScsiConnection) (response : List U8) :
    ScsiConnection × List U8 :=
  match skip, bytes with
  | _, [] => (connection, response)
  | skip + 1, _ :: bytes => read_messages skip bytes connection response
  | 0, value :: bytes =>
    if value &&& 0x80 ≠ 0 then
      read_messages 0 bytes { connection with lun := (value &&& 7).toNat, identified := true } response
    else if value = 1 ∧ 4 ≤ bytes.length ∧ cdb_byte bytes 0 = 3 ∧ cdb_byte bytes 1 = 1 then
      read_messages 4 bytes connection (response ++ [1, 3, 1, cdb_byte bytes 2, 0])
    else if value = 7 ∨ value = 8 then read_messages 0 bytes connection response
    else (connection, response ++ [7])

def finish_message_out (bus : ScsiBus τ μ) (connection : ScsiConnection) : ScsiBus τ μ :=
  if connection.message_out = [6] then bus.cancel_transaction
  else
    let read := read_messages 0 connection.message_out { connection with message_out := [] } []
    if read.2.isEmpty then bus.set_connection { read.1 with phase := read.1.return_phase }
    else bus.set_connection { read.1 with message_in := read.2, message_offset := 0, phase := .MessageIn }

/-- The first slot of a connected target that holds an attachment. -/
def first_slot (bus : ScsiBus τ μ) (target_id : Nat) : Nat :=
  ((List.range' (target_id * 8) 8).find? fun slot => (bus.attachment slot).isSome).getD 0

/-- The response a target makes for a logical unit it does not have. -/
def missing_lun_data (cdb : List U8) : Option (List U8) :=
  if cdb_byte cdb 0 = 0x12 then
    some ((([0x7f, 0, 0, 0, 31] : List U8) ++ List.replicate 31 0).take (cdb_byte cdb 4).toNat)
  else if cdb_byte cdb 0 = 0x03 then some ((SenseData.mk 5 0x25 0).fixed_response (cdb_byte cdb 4))
  else none

def start_missing_lun_response (bus : ScsiBus τ μ) (target_id : Nat) (cdb : List U8) : ScsiBus τ μ :=
  match missing_lun_data cdb with
  | none => bus.set_status .CheckCondition
  | some data =>
    if data.isEmpty then bus.set_status .Good
    else (bus.set_transfer (bus.first_slot target_id) (.ImmediateDataIn data 0 .Good)).set_phase .DataIn

def execute_connected_command (bus : ScsiBus τ μ) (connection : ScsiConnection) :
    Except ScsiBusError Unit × ScsiBus τ μ :=
  let connection :=
    if !connection.identified && cdb_byte connection.cdb 0 >>> 5 == 0 then
      { connection with lun := (cdb_byte connection.cdb 1 >>> 5).toNat }
    else connection
  match (bus.set_connection connection).start_command connection.target_id connection.lun connection.cdb with
  | (.error error, bus) => (.error error, bus)
  | (.ok (.Complete status), bus) => (.ok (), bus.set_status status)
  | (.ok (.DataIn _), bus) => (.ok (), bus.set_phase .DataIn)
  | (.ok (.DataOut _), bus) => (.ok (), bus.set_phase .DataOut)
  | (.ok .SelectionTimeout, bus) => (.ok (), bus.start_missing_lun_response connection.target_id connection.cdb)

/-- Accepts one initiator information byte; `last` releases ATN for Message Out.
The flag is false where storage failed before accepting the byte. -/
def write_information (bus : ScsiBus τ μ) (value : U8) (last : Bool) : Except ScsiBusError Bool × ScsiBus τ μ :=
  match bus.connection with
  | none => (.error .InvalidPhase, bus)
  | some connection =>
    match connection.phase with
    | .MessageOut =>
      if connection.message_out.length = 257 then (.error .InvalidPhase, bus)
      else
        let connection := { connection with message_out := connection.message_out ++ [value] }
        if last then (.ok true, bus.finish_message_out connection) else (.ok true, bus.set_connection connection)
    | .Command =>
      if connection.cdb.length = 16 then (.error .InvalidPhase, bus)
      else
        let connection := { connection with cdb := connection.cdb ++ [value] }
        if connection.cdb.length = cdb_length (cdb_byte connection.cdb 0) then
          match bus.execute_connected_command connection with
          | (.error error, bus) => (.error error, bus)
          | (.ok (), bus) => (.ok true, bus)
        else (.ok true, bus.set_connection connection)
    | .DataOut =>
      match bus.transfer_data_out 1 (fun _ (state : Unit) => (some [value], state)) () with
      | (.error error, bus, _) => (.error error, bus)
      | (.ok result, bus, _) =>
        let consumed :=
          match result with
          | .More transferred _ => transferred == 1
          | .Complete transferred _ => transferred == 1
          | .Rejected => false
        (.ok consumed, bus.observe_transfer_result result)
    | _ => (.error .InvalidPhase, bus)

/-- Receives one target byte; `none` where storage failed and the target entered
Status without a byte. -/
def read_information (bus : ScsiBus τ μ) : Except ScsiBusError (Option U8) × ScsiBus τ μ :=
  match bus.connection with
  | none => (.error .InvalidPhase, bus)
  | some connection =>
    match connection.phase with
    | .DataIn =>
      match bus.transfer_data_in 1 (fun bytes _ => (true, bytes[0]?)) none with
      | (.error error, bus, _) => (.error error, bus)
      | (.ok result, bus, value) => (.ok value, bus.observe_transfer_result result)
    | .Status =>
      (.ok (some connection.status.byte),
        bus.set_connection { connection with phase := .MessageIn, message_in := [0], message_offset := 0 })
    | .MessageIn =>
      match connection.message_in[connection.message_offset]? with
      | none => (.error .InvalidPhase, bus)
      | some value =>
        (.ok (some value), bus.set_connection { connection with message_offset := connection.message_offset + 1 })
    | _ => (.error .InvalidPhase, bus)

/-- Accepts the message byte held with ACK asserted. -/
def acknowledge_message (bus : ScsiBus τ μ) (attention : Bool) : ScsiBus τ μ :=
  match bus.connection with
  | none => bus
  | some connection =>
    if connection.phase ≠ .MessageIn then bus
    else if attention then
      bus.set_connection { connection with message_in := [], message_offset := 0, phase := .MessageOut }
    else if connection.message_offset = connection.message_in.length then
      if connection.message_in = [0] then { bus with connection := none }
      else
        bus.set_connection
          { connection with message_in := [], message_offset := 0, phase := connection.return_phase }
    else bus

/-- Requests Message Out at the next handshake boundary. -/
def assert_attention (bus : ScsiBus τ μ) : ScsiBus τ μ :=
  match bus.connection with
  | none => bus
  | some connection =>
    if connection.phase = .MessageIn ∨ connection.phase = .MessageOut then bus
    else
      bus.set_connection
        { connection with return_phase := connection.phase, phase := .MessageOut, message_out := [] }

end ScsiBus

end se_device.scsi
