import SgiEmu.Device.Scsi.Command

open se_core se_device.scsi

namespace se_device.scsi_disk

def BLOCK_BYTES : Nat := 512

def TEST_UNIT_READY : U8 := 0x00
def REQUEST_SENSE : U8 := 0x03
def READ_6 : U8 := 0x08
def WRITE_6 : U8 := 0x0a
def INQUIRY : U8 := 0x12
def MODE_SENSE_6 : U8 := 0x1a
def START_STOP_UNIT : U8 := 0x1b
def READ_CAPACITY_10 : U8 := 0x25
def READ_10 : U8 := 0x28
def WRITE_10 : U8 := 0x2a
def READ_DEFECT_DATA_10 : U8 := 0x37

/-- Software-visible state of one disk target. -/
structure ScsiDisk where
  block_count : Nat
  ready : Bool
  sense : SenseData
deriving DecidableEq, Repr

namespace ScsiDisk

/-- A ready target for a validated storage capacity. -/
def try_new (storage_bytes : Nat) : Option ScsiDisk :=
  if storage_bytes = 0 ∨ storage_bytes % BLOCK_BYTES ≠ 0 ∨ storage_bytes / BLOCK_BYTES > 0xffffffff + 1 then none
  else some { block_count := storage_bytes / BLOCK_BYTES, ready := true, sense := .NONE }

def storage_size_bytes (disk : ScsiDisk) : Nat := disk.block_count * BLOCK_BYTES

def check_condition (disk : ScsiDisk) (sense : SenseData) : ScsiCommandPlan × ScsiDisk :=
  (.Complete .CheckCondition [], { disk with sense })

def request_sense (disk : ScsiDisk) (allocation_length : U8) : ScsiCommandPlan × ScsiDisk :=
  (complete_good (disk.sense.fixed_response allocation_length), { disk with sense := .NONE })

def inquiry (allocation_length : U8) : ScsiCommandPlan :=
  complete_good (([0, 0, 1, 1, 31, 0, 0, 0] ++ ascii "SGI-EMU " ++ ascii "VIRTUAL DISK    " ++ ascii "0001").take
    allocation_length.toNat)

def mode_sense (allocation_length : U8) : ScsiCommandPlan :=
  complete_good ([0x0b, 0, 0, 8, 0, 0, 0, 0, 0, 0, 2, 0].take allocation_length.toNat)

def read_capacity (disk : ScsiDisk) : ScsiCommandPlan × ScsiDisk :=
  if !disk.ready then disk.check_condition .NOT_READY
  else
    (complete_good ((to_be_bytes (BitVec.ofNat 32 (disk.block_count - 1))).toList
      ++ (to_be_bytes (BitVec.ofNat 32 BLOCK_BYTES)).toList), disk)

def read_defect_data (disk : ScsiDisk) (cdb : List U8) : ScsiCommandPlan × ScsiDisk :=
  if !disk.ready then disk.check_condition .NOT_READY
  else
    let selector := cdb_byte cdb 2
    let defect_list_format := selector &&& 0x07
    let supported_selector := selector &&& 0xe0 == 0 && selector &&& 0x10 != 0
      && (defect_list_format == 0 || defect_list_format == 4 || defect_list_format == 5)
    let supported_other_fields :=
      cdb_byte cdb 1 &&& 0x1f == 0 && ((cdb.drop 3).take 4).all (· == 0) && cdb_byte cdb 9 == 0
    if !supported_selector || !supported_other_fields then disk.check_condition .INVALID_CDB_FIELD
    else (complete_good ([0, selector, 0, 0].take (be_u16 (cdb_byte cdb 7) (cdb_byte cdb 8))), disk)

/-- The checks READ and WRITE share, and the plan of the transfer they allow. -/
def transfer_blocks (disk : ScsiDisk) (plan : Nat → Nat → ScsiCommandPlan) (lba block_count : Nat) :
    ScsiCommandPlan × ScsiDisk :=
  if !disk.ready then disk.check_condition .NOT_READY
  else if block_count = 0 then (complete_good [], disk)
  else if lba + block_count > disk.block_count then disk.check_condition .LBA_OUT_OF_RANGE
  else (plan (lba * BLOCK_BYTES) (block_count * BLOCK_BYTES), disk)

def read_blocks (disk : ScsiDisk) (lba block_count : Nat) : ScsiCommandPlan × ScsiDisk :=
  disk.transfer_blocks .ReadStorage lba block_count

def write_blocks (disk : ScsiDisk) (lba block_count : Nat) : ScsiCommandPlan × ScsiDisk :=
  disk.transfer_blocks .WriteStorage lba block_count

def transfer_6 (disk : ScsiDisk) (cdb : List U8) : ScsiCommandPlan × ScsiDisk :=
  if cdb_byte cdb 0 = READ_6 then disk.read_blocks (lba_6 cdb) (block_count_6 cdb)
  else disk.write_blocks (lba_6 cdb) (block_count_6 cdb)

/-- Decodes one command descriptor block. -/
def execute (disk : ScsiDisk) (cdb : List U8) : ScsiCommandPlan × ScsiDisk :=
  match cdb with
  | [] => disk.check_condition .INVALID_CDB_FIELD
  | opcode :: _ =>
    let short := cdb.length < 6
    let short_10 := cdb.length < 10
    if opcode = TEST_UNIT_READY then
      if short then disk.check_condition .INVALID_CDB_FIELD
      else if disk.ready then (complete_good [], disk)
      else disk.check_condition .NOT_READY
    else if opcode = REQUEST_SENSE then
      if short then disk.check_condition .INVALID_CDB_FIELD else disk.request_sense (cdb_byte cdb 4)
    else if opcode = READ_6 ∨ opcode = WRITE_6 then
      if short then disk.check_condition .INVALID_CDB_FIELD else disk.transfer_6 cdb
    else if opcode = INQUIRY then
      if short then disk.check_condition .INVALID_CDB_FIELD else (inquiry (cdb_byte cdb 4), disk)
    else if opcode = MODE_SENSE_6 then
      if short then disk.check_condition .INVALID_CDB_FIELD else (mode_sense (cdb_byte cdb 4), disk)
    else if opcode = START_STOP_UNIT then
      if short then disk.check_condition .INVALID_CDB_FIELD
      else (complete_good [], { disk with ready := cdb_byte cdb 4 &&& 1 != 0 })
    else if opcode = READ_CAPACITY_10 then
      if short_10 then disk.check_condition .INVALID_CDB_FIELD else disk.read_capacity
    else if opcode = READ_10 then
      if short_10 then disk.check_condition .INVALID_CDB_FIELD
      else disk.read_blocks (lba_10 cdb) (block_count_10 cdb)
    else if opcode = WRITE_10 then
      if short_10 then disk.check_condition .INVALID_CDB_FIELD
      else disk.write_blocks (lba_10 cdb) (block_count_10 cdb)
    else if opcode = READ_DEFECT_DATA_10 then
      if short_10 then disk.check_condition .INVALID_CDB_FIELD else disk.read_defect_data cdb
    else disk.check_condition .UNSUPPORTED_OPCODE

/-- Completes storage-backed I/O, recording a host failure as sense data. -/
def complete_storage (disk : ScsiDisk) (succeeded : Bool) : ScsiStatus × ScsiDisk :=
  if succeeded then (.Good, disk) else (.CheckCondition, { disk with sense := .HOST_IO_ERROR })

end ScsiDisk

end se_device.scsi_disk
