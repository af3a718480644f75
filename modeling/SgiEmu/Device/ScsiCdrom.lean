import SgiEmu.Device.Scsi.Command

open se_core se_device.scsi

namespace se_device.scsi_cdrom

def INITIAL_LOGICAL_BLOCK_BYTES : Nat := 512
def SUPPORTED_LOGICAL_BLOCK_BYTES : List Nat := [INITIAL_LOGICAL_BLOCK_BYTES, 2048]
def STORAGE_ALIGNMENT_BYTES : Nat := 2048
def TRACK_NUMBER : U8 := 1
def TRACK_ADR_CONTROL : U8 := 0x14
def TRACK_START_MSF : List U8 := [0x00, 0x00, 0x02, 0x00]
def TRACK_START_LBA : List U8 := [0x00, 0x00, 0x00, 0x00]

def TEST_UNIT_READY : U8 := 0x00
def REQUEST_SENSE : U8 := 0x03
def READ_6 : U8 := 0x08
def INQUIRY : U8 := 0x12
def MODE_SELECT_6 : U8 := 0x15
def MODE_SENSE_6 : U8 := 0x1a
def START_STOP_UNIT : U8 := 0x1b
def PREVENT_ALLOW_MEDIUM_REMOVAL : U8 := 0x1e
def READ_CAPACITY_10 : U8 := 0x25
def READ_10 : U8 := 0x28
def WRITE_10 : U8 := 0x2a
def READ_TOC_PMA_ATIP : U8 := 0x43
def SGI_EJECT : U8 := 0xc4
def SGI_HD_TO_CDROM : U8 := 0xc9

/-- Software-visible state of one read-only drive. -/
structure ScsiCdrom where
  medium_bytes : Option Nat
  logical_block_bytes : Nat
  started : Bool
  removal_prevented : Bool
  pending_unit_attention : Option SenseData
  sense : SenseData
deriving DecidableEq, Repr

def validate_medium_size (storage_bytes : Nat) : Bool :=
  !(storage_bytes == 0 || storage_bytes % STORAGE_ALIGNMENT_BYTES != 0
    || storage_bytes / INITIAL_LOGICAL_BLOCK_BYTES > 0xffffffff + 1)

namespace ScsiCdrom

/-- A stopped drive whose slot holds no medium. -/
def new_empty : ScsiCdrom :=
  { medium_bytes := none, logical_block_bytes := INITIAL_LOGICAL_BLOCK_BYTES, started := false
    removal_prevented := false, pending_unit_attention := none, sense := .NONE }

/-- A started drive holding a medium of the validated capacity. -/
def try_new (storage_bytes : Nat) : Option ScsiCdrom :=
  if validate_medium_size storage_bytes then
    some { new_empty with medium_bytes := some storage_bytes, started := true }
  else none

def check_condition (drive : ScsiCdrom) (sense : SenseData) : ScsiCommandPlan × ScsiCdrom :=
  (.Complete .CheckCondition [], { drive with sense })

def request_sense (drive : ScsiCdrom) (allocation_length : U8) : ScsiCommandPlan × ScsiCdrom :=
  (complete_good (drive.sense.fixed_response allocation_length), { drive with sense := .NONE })

def inquiry (allocation_length : U8) : ScsiCommandPlan :=
  complete_good (([0x05, 0x80, 1, 1, 31, 0, 0, 0] ++ ascii "SGI-EMU " ++ ascii "VIRTUAL CD-ROM  " ++ ascii "0001").take
    allocation_length.toNat)

def mode_sense (drive : ScsiCdrom) (allocation_length : U8) : ScsiCommandPlan :=
  complete_good (([0x0b, 0, 0x80, 8, 0, 0, 0, 0, 0]
    ++ (to_be_bytes (BitVec.ofNat 32 drive.logical_block_bytes)).toList.drop 1).take allocation_length.toNat)

def mode_select (drive : ScsiCdrom) (cdb : List U8) : ScsiCommandPlan × ScsiCdrom :=
  if cdb_byte cdb 1 ≠ 0 then drive.check_condition .INVALID_CDB_FIELD
  else (.ReceiveDataOut (cdb_byte cdb 4).toNat, drive)

def parameter_list_error (drive : ScsiCdrom) : ScsiStatus × ScsiCdrom :=
  (.CheckCondition, { drive with sense := .INVALID_PARAMETER_LIST })

def complete_mode_select (drive : ScsiCdrom) (cdb data : List U8) : ScsiStatus × ScsiCdrom :=
  if !(6 ≤ cdb.length && (cdb_byte cdb 4).toNat == data.length) || data.length != 12 || cdb_byte data 3 != 8 then
    drive.parameter_list_error
  else
    let logical_block_bytes := (from_be_bytes #v[0, cdb_byte data 9, cdb_byte data 10, cdb_byte data 11]).toNat
    let addresses_whole_medium := drive.medium_bytes.all (· % logical_block_bytes == 0)
    if !SUPPORTED_LOGICAL_BLOCK_BYTES.contains logical_block_bytes || !addresses_whole_medium then
      drive.parameter_list_error
    else (.Good, { drive with logical_block_bytes })

/-- Requests removal of the installed medium, which the bus owns. -/
def request_ejection (drive : ScsiCdrom) : ScsiCommandPlan × ScsiCdrom :=
  if drive.medium_bytes.isNone then (complete_good [], drive)
  else if drive.removal_prevented then drive.check_condition .MEDIUM_REMOVAL_PREVENTED
  else (.EjectMedium, drive)

def start_stop (drive : ScsiCdrom) (control : U8) : ScsiCommandPlan × ScsiCdrom :=
  let load_eject := control &&& 0x02 != 0
  let start := control &&& 0x01 != 0
  match load_eject, start with
  | false, _ => (complete_good [], { drive with started := start })
  | true, true => (complete_good [], { drive with started := true })
  | true, false => drive.request_ejection

/-- The capacity of a started medium, or the sense that reports it missing. -/
def ready_medium_bytes (drive : ScsiCdrom) : Except SenseData Nat :=
  match drive.medium_bytes with
  | none => .error .MEDIUM_NOT_PRESENT
  | some medium_bytes => if !drive.started then .error .NOT_READY else .ok medium_bytes

def read_toc (drive : ScsiCdrom) (cdb : List U8) : ScsiCommandPlan × ScsiCdrom :=
  let format := cdb_byte cdb 2 &&& 0x0f
  let starting_track := cdb_byte cdb 6
  if format ≠ 0 ∨ ¬(starting_track = 0 ∨ starting_track = TRACK_NUMBER) then
    drive.check_condition .INVALID_CDB_FIELD
  else
    match drive.ready_medium_bytes with
    | .error sense => drive.check_condition sense
    | .ok _ =>
      let start := if cdb_byte cdb 1 &&& 0x02 != 0 then TRACK_START_MSF else TRACK_START_LBA
      (complete_good (([0, 10, TRACK_NUMBER, TRACK_NUMBER, 0, TRACK_ADR_CONTROL, TRACK_NUMBER, 0] ++ start).take
        (be_u16 (cdb_byte cdb 7) (cdb_byte cdb 8))), drive)

def prevent_allow (drive : ScsiCdrom) (cdb : List U8) : ScsiCommandPlan × ScsiCdrom :=
  if cdb_byte cdb 2 ≠ 0 ∨ cdb_byte cdb 3 ≠ 0 then drive.check_condition .INVALID_CDB_FIELD
  else (complete_good [], { drive with removal_prevented := cdb_byte cdb 4 &&& 1 != 0 })

def read_capacity (drive : ScsiCdrom) : ScsiCommandPlan × ScsiCdrom :=
  match drive.ready_medium_bytes with
  | .error sense => drive.check_condition sense
  | .ok medium_bytes =>
    let blocks := medium_bytes / drive.logical_block_bytes
    if blocks = 0 ∨ blocks - 1 > 0xffffffff then drive.check_condition .LBA_OUT_OF_RANGE
    else
      (complete_good ((to_be_bytes (BitVec.ofNat 32 (blocks - 1))).toList
        ++ (to_be_bytes (BitVec.ofNat 32 drive.logical_block_bytes)).toList), drive)

def read_blocks (drive : ScsiCdrom) (lba block_count : Nat) : ScsiCommandPlan × ScsiCdrom :=
  match drive.ready_medium_bytes with
  | .error sense => drive.check_condition sense
  | .ok medium_bytes =>
    if block_count = 0 then (complete_good [], drive)
    else
      match checked_add_u64 lba block_count with
      | none => drive.check_condition .LBA_OUT_OF_RANGE
      | some last =>
        if last > medium_bytes / drive.logical_block_bytes then drive.check_condition .LBA_OUT_OF_RANGE
        else
          match checked_mul_u64 lba drive.logical_block_bytes, checked_mul_u64 block_count drive.logical_block_bytes with
          | some offset, some byte_count => (.ReadStorage offset byte_count, drive)
          | _, _ => drive.check_condition .LBA_OUT_OF_RANGE

def read_6 (drive : ScsiCdrom) (cdb : List U8) : ScsiCommandPlan × ScsiCdrom :=
  drive.read_blocks (lba_6 cdb) (block_count_6 cdb)

/-- The command of an opcode, once no unit attention is pending. -/
def dispatch (drive : ScsiCdrom) (opcode : U8) (cdb : List U8) : ScsiCommandPlan × ScsiCdrom :=
  let short := cdb.length < 6
  let short_10 := cdb.length < 10
  let invalid := drive.check_condition .INVALID_CDB_FIELD
  if opcode = TEST_UNIT_READY then
    if short then invalid
    else
      match drive.ready_medium_bytes with
      | .ok _ => (complete_good [], drive)
      | .error sense => drive.check_condition sense
  else if opcode = REQUEST_SENSE then if short then invalid else drive.request_sense (cdb_byte cdb 4)
  else if opcode = READ_6 then if short then invalid else drive.read_6 cdb
  else if opcode = INQUIRY then if short then invalid else (inquiry (cdb_byte cdb 4), drive)
  else if opcode = MODE_SELECT_6 then if short then invalid else drive.mode_select cdb
  else if opcode = MODE_SENSE_6 then if short then invalid else (drive.mode_sense (cdb_byte cdb 4), drive)
  else if opcode = START_STOP_UNIT then if short then invalid else drive.start_stop (cdb_byte cdb 4)
  else if opcode = PREVENT_ALLOW_MEDIUM_REMOVAL then if short then invalid else drive.prevent_allow cdb
  else if opcode = READ_CAPACITY_10 then if short_10 then invalid else drive.read_capacity
  else if opcode = READ_10 then
    if short_10 then invalid else drive.read_blocks (lba_10 cdb) (block_count_10 cdb)
  else if opcode = WRITE_10 then if short_10 then invalid else drive.check_condition .WRITE_PROTECTED
  else if opcode = READ_TOC_PMA_ATIP then if short_10 then invalid else drive.read_toc cdb
  else if opcode = SGI_EJECT then if short_10 then invalid else drive.request_ejection
  else if opcode = SGI_HD_TO_CDROM then if short_10 then invalid else (complete_good [], drive)
  else drive.check_condition .UNSUPPORTED_OPCODE

/-- Decodes one command descriptor block. -/
def execute (drive : ScsiCdrom) (cdb : List U8) : ScsiCommandPlan × ScsiCdrom :=
  match cdb with
  | [] => drive.check_condition .INVALID_CDB_FIELD
  | opcode :: _ =>
    if opcode = INQUIRY ∨ opcode = REQUEST_SENSE then drive.dispatch opcode cdb
    else
      match drive.pending_unit_attention with
      | some attention => { drive with pending_unit_attention := none }.check_condition attention
      | none => drive.dispatch opcode cdb

/-- Completes storage-backed I/O, recording a host failure as sense data. -/
def complete_storage (drive : ScsiCdrom) (succeeded : Bool) : ScsiStatus × ScsiCdrom :=
  if succeeded then (.Good, drive) else (.CheckCondition, { drive with sense := .HOST_IO_ERROR })

def complete_data_out (drive : ScsiCdrom) (cdb data : List U8) : ScsiStatus × ScsiCdrom :=
  if cdb.head? = some MODE_SELECT_6 then drive.complete_mode_select cdb data
  else (.CheckCondition, { drive with sense := .INVALID_CDB_FIELD })

/-! ## The removable slot -/

def medium_inserted (drive : ScsiCdrom) (size_bytes : Nat) (origin : ScsiMediaChangeOrigin) : ScsiCdrom :=
  { drive with
    medium_bytes := some size_bytes
    started := true
    pending_unit_attention :=
      if origin = .External then some .MEDIUM_CHANGED else drive.pending_unit_attention }

def medium_removed (drive : ScsiCdrom) (origin : ScsiMediaChangeOrigin) : ScsiCdrom :=
  { drive with
    medium_bytes := none
    started := false
    pending_unit_attention :=
      if origin = .External then some .MEDIUM_CHANGED else drive.pending_unit_attention }

def release_removal_prevention (drive : ScsiCdrom) : ScsiCdrom := { drive with removal_prevented := false }

def accepts_cdrom_snapshot (drive state : ScsiCdrom) : Bool :=
  SUPPORTED_LOGICAL_BLOCK_BYTES.contains state.logical_block_bytes &&
    match state.medium_bytes with
    | none => true
    | some medium_bytes => drive.medium_bytes == state.medium_bytes && medium_bytes % state.logical_block_bytes == 0

end ScsiCdrom

end se_device.scsi_cdrom
