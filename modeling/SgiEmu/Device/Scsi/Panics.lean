import SgiEmu.Device.Scsi.Fits
import SgiEmu.Device.Scsi.Chunk

open se_core se_device.scsi_disk se_device.scsi_cdrom

/-! ## Where the targets and the bus can panic

A function's `_panics` holds wherever one of its indexings, divisions, unwraps,
assertions, checked additions or vector growths may fail; a function without one
has no such step. -/

namespace se_device.scsi

/-- No vector grows past `isize::MAX` bytes. -/
def ISIZE_MAX : Nat := 0x7fffffffffffffff

/-- Whether one of the indexes lies past the end of a slice. -/
def reads_past (bytes : List U8) (indexes : List Nat) : Bool := indexes.any (bytes.length ≤ ·)

theorem reads_past_eq_false {bytes : List U8} {indexes : List Nat} (h : ∀ index ∈ indexes, index < bytes.length) :
    reads_past bytes indexes = false := by
  simp only [reads_past, List.any_eq_false, decide_eq_true_eq, Nat.not_le]
  exact h

end se_device.scsi

open se_device.scsi

namespace se_device.scsi_disk.ScsiDisk

def storage_size_bytes_panics (disk : ScsiDisk) : Bool := U64_MAX < disk.block_count * BLOCK_BYTES

/-- The last block of a disk without blocks underflows. -/
def read_capacity_panics (disk : ScsiDisk) : Bool := disk.ready && disk.block_count == 0

def execute_panics (disk : ScsiDisk) (cdb : List U8) : Bool :=
  match cdb with
  | [] => false
  | opcode :: _ =>
    if opcode = REQUEST_SENSE ∨ opcode = INQUIRY ∨ opcode = MODE_SENSE_6 ∨ opcode = START_STOP_UNIT then
      6 ≤ cdb.length && reads_past cdb [4]
    else if opcode = READ_6 ∨ opcode = WRITE_6 then 6 ≤ cdb.length && reads_past cdb [1, 2, 3, 4, 0]
    else if opcode = READ_CAPACITY_10 then 10 ≤ cdb.length && disk.read_capacity_panics
    else if opcode = READ_10 ∨ opcode = WRITE_10 then 10 ≤ cdb.length && reads_past cdb [2, 3, 4, 5, 7, 8]
    -- the slice 3..7 ends with the byte 6
    else if opcode = READ_DEFECT_DATA_10 then 10 ≤ cdb.length && disk.ready && reads_past cdb [2, 1, 6, 9, 7, 8]
    else false

theorem execute_panics_eq_false {disk : ScsiDisk} (hblocks : 0 < disk.block_count) (cdb : List U8) :
    disk.execute_panics cdb = false := by
  have hshort {bound : Nat} {indexes : List Nat} (hindexes : ∀ index ∈ indexes, index < bound) :
      (decide (bound ≤ cdb.length) && reads_past cdb indexes) = false := by
    by_cases hbound : bound ≤ cdb.length
    · rw [reads_past_eq_false fun index hindex => Nat.lt_of_lt_of_le (hindexes index hindex) hbound, Bool.and_false]
    · rw [decide_eq_false hbound, Bool.false_and]
  have hcapacity : disk.read_capacity_panics = false := by
    simp only [read_capacity_panics, beq_eq_false_iff_ne.mpr (Nat.ne_of_gt hblocks), Bool.and_false]
  unfold execute_panics
  split
  · rfl
  · split
    · exact hshort (by decide)
    · split
      · exact hshort (by decide)
      · split
        · rw [hcapacity, Bool.and_false]
        · split
          · exact hshort (by decide)
          · split
            · rw [Bool.and_right_comm, hshort (by decide), Bool.false_and]
            · rfl

end se_device.scsi_disk.ScsiDisk

namespace se_device.scsi_cdrom.ScsiCdrom

/-- Whether a command that needs a started medium reaches its division. -/
def divides_by_zero (drive : ScsiCdrom) : Bool :=
  drive.medium_bytes.isSome && drive.started && drive.logical_block_bytes == 0

def complete_mode_select_panics (cdb data : List U8) : Bool :=
  6 ≤ cdb.length && (reads_past cdb [4] || data.length == 12 && reads_past data [3, 9, 10, 11])

def complete_data_out_panics (cdb data : List U8) : Bool :=
  cdb.head? == some MODE_SELECT_6 && complete_mode_select_panics cdb data

def dispatch_panics (drive : ScsiCdrom) (opcode : U8) (cdb : List U8) : Bool :=
  if opcode = REQUEST_SENSE ∨ opcode = INQUIRY ∨ opcode = MODE_SENSE_6 ∨ opcode = START_STOP_UNIT then
    6 ≤ cdb.length && reads_past cdb [4]
  else if opcode = READ_6 then 6 ≤ cdb.length && (reads_past cdb [1, 2, 3, 4] || drive.divides_by_zero)
  else if opcode = MODE_SELECT_6 then 6 ≤ cdb.length && reads_past cdb [1, 4]
  else if opcode = PREVENT_ALLOW_MEDIUM_REMOVAL then 6 ≤ cdb.length && reads_past cdb [2, 3, 4]
  else if opcode = READ_CAPACITY_10 then 10 ≤ cdb.length && drive.divides_by_zero
  else if opcode = READ_10 then 10 ≤ cdb.length && (reads_past cdb [2, 3, 4, 5, 7, 8] || drive.divides_by_zero)
  else if opcode = READ_TOC_PMA_ATIP then 10 ≤ cdb.length && reads_past cdb [2, 6, 1, 7, 8]
  else false

def execute_panics (drive : ScsiCdrom) (cdb : List U8) : Bool :=
  match cdb with
  | [] => false
  | opcode :: _ =>
    if ¬(opcode = INQUIRY ∨ opcode = REQUEST_SENSE) ∧ drive.pending_unit_attention.isSome then false
    else drive.dispatch_panics opcode cdb

theorem execute_panics_eq_false {drive : ScsiCdrom} (h : BlocksFit drive) (cdb : List U8) :
    drive.execute_panics cdb = false := by
  have hshort {bound : Nat} {indexes : List Nat} (hindexes : ∀ index ∈ indexes, index < bound)
      (hbound : bound ≤ cdb.length) : reads_past cdb indexes = false :=
    reads_past_eq_false fun index hindex => Nat.lt_of_lt_of_le (hindexes index hindex) hbound
  have hdivides : drive.divides_by_zero = false := by
    have hblocks : drive.logical_block_bytes ≠ 0 := by
      have hsupported := h.supported
      simp only [SUPPORTED_LOGICAL_BLOCK_BYTES, INITIAL_LOGICAL_BLOCK_BYTES, List.mem_cons, List.not_mem_nil,
        or_false] at hsupported
      omega
    simp only [divides_by_zero, beq_eq_false_iff_ne.mpr hblocks, Bool.and_false]
  have hguard {bound : Nat} {rest : Bool} (hrest : bound ≤ cdb.length → rest = false) :
      (decide (bound ≤ cdb.length) && rest) = false := by
    by_cases hbound : bound ≤ cdb.length
    · rw [hrest hbound, Bool.and_false]
    · rw [decide_eq_false hbound, Bool.false_and]
  unfold execute_panics
  split
  · rfl
  · split
    · rfl
    · unfold dispatch_panics
      split
      · exact hguard (hshort (by decide))
      · split
        · exact hguard fun hbound => by rw [hshort (by decide) hbound, hdivides, Bool.or_false]
        · split
          · exact hguard (hshort (by decide))
          · split
            · exact hguard (hshort (by decide))
            · split
              · rw [hdivides, Bool.and_false]
              · split
                · exact hguard fun hbound => by rw [hshort (by decide) hbound, hdivides, Bool.or_false]
                · split
                  · exact hguard (hshort (by decide))
                  · rfl

theorem complete_data_out_panics_eq_false (cdb data : List U8) : complete_data_out_panics cdb data = false := by
  unfold complete_data_out_panics complete_mode_select_panics
  by_cases hcdb : 6 ≤ cdb.length
  · have hindex : reads_past cdb [4] = false := reads_past_eq_false fun index hindex => by
      simp only [List.mem_singleton] at hindex
      omega
    by_cases hdata : data.length = 12
    · have hparameters : reads_past data [3, 9, 10, 11] = false := reads_past_eq_false (by rw [hdata]; decide)
      rw [hindex, hparameters]
      simp
    · rw [hindex, beq_eq_false_iff_ne.mpr hdata]
      simp
  · simp [hcdb]

end se_device.scsi_cdrom.ScsiCdrom

namespace se_device.scsi

namespace ScsiTargetSnapshot

def backing_requirement_panics : ScsiTargetSnapshot → Bool
  | .Disk disk => disk.storage_size_bytes_panics
  | .Cdrom _ => false

def execute_panics (cdb : List U8) : ScsiTargetSnapshot → Bool
  | .Disk disk => disk.execute_panics cdb
  | .Cdrom drive => drive.execute_panics cdb

def complete_data_out_panics (cdb data : List U8) : ScsiTargetSnapshot → Bool
  | .Disk _ => false
  | .Cdrom _ => ScsiCdrom.complete_data_out_panics cdb data

theorem complete_data_out_panics_eq_false (cdb data : List U8) (target : ScsiTargetSnapshot) :
    target.complete_data_out_panics cdb data = false := by
  cases target with
  | Disk disk => rfl
  | Cdrom drive => exact ScsiCdrom.complete_data_out_panics_eq_false cdb data

end ScsiTargetSnapshot

namespace ScsiBus

variable {μ : Type} [StorageMedium μ] (bus : ScsiBus ScsiTargetSnapshot μ)

/-! ### Commands -/

def complete_target_data_out_panics (slot : Nat) (cdb data : List U8) : Bool :=
  TARGET_SLOT_COUNT ≤ slot ||
    (bus.attachment slot).any fun attachment => attachment.target.complete_data_out_panics cdb data

def start_command_panics (target_id lun : Nat) (cdb : List U8) : Bool :=
  match target_slot target_id lun with
  | none => false
  | some slot =>
    match bus.active_address with
    | some _ => false
    | none =>
      TARGET_SLOT_COUNT ≤ slot ||
        match bus.attachment slot with
        | none => false
        | some attachment =>
          attachment.target.execute_panics cdb ||
            let executed := attachment.target.execute cdb
            executed.1 == .ReceiveDataOut 0 &&
              (bus.set_attachment slot { attachment with target := executed.2 }).complete_target_data_out_panics slot cdb []

/-- The first attached slot of the target is unwrapped. -/
def start_missing_lun_response_panics (target_id : Nat) (cdb : List U8) : Bool :=
  reads_past cdb [0] || (missing_lun_data cdb).any fun data =>
    reads_past cdb [4] || !data.isEmpty && !bus.target_present target_id

def execute_connected_command_panics (connection : ScsiConnection) : Bool :=
  reads_past connection.cdb [0, 1] ||
    let connection :=
      if !connection.identified && cdb_byte connection.cdb 0 >>> 5 == 0 then
        { connection with lun := (cdb_byte connection.cdb 1 >>> 5).toNat }
      else connection
    let connected := bus.set_connection connection
    connected.start_command_panics connection.target_id connection.lun connection.cdb ||
      match connected.start_command connection.target_id connection.lun connection.cdb with
      | (.ok (.DataIn _), bus) => bus.connection.isNone
      | (.ok (.DataOut _), bus) => bus.connection.isNone
      | (.ok .SelectionTimeout, bus) =>
        bus.connection.isNone || bus.start_missing_lun_response_panics connection.target_id connection.cdb
      | _ => false

/-! ### Data transfers -/

/-- A chunk buffer, the slot of its medium, and the offset after it. -/
def storage_chunk_panics (slot next_offset byte_count : Nat) : Bool :=
  ISIZE_MAX < byte_count || TARGET_SLOT_COUNT ≤ slot || U64_MAX < next_offset + byte_count

def transfer_data_in_panics (maximum_bytes : Nat) : Bool :=
  maximum_bytes != 0 &&
    match bus.active_transaction with
    | some { transfer := .ImmediateDataIn data next_offset _, .. } => data.length < next_offset
    | some { target_slot, transfer := .StorageDataIn next_offset remaining } =>
      storage_chunk_panics target_slot next_offset (min maximum_bytes remaining)
    | _ => false

def transfer_data_out_panics (maximum_bytes : Nat) (provided : Option (List U8)) : Bool :=
  maximum_bytes != 0 &&
    match bus.active_transaction with
    | some { target_slot, transfer := .StorageDataOut next_offset remaining } =>
      storage_chunk_panics target_slot next_offset (min maximum_bytes remaining)
    | some { target_slot, transfer := .TargetDataOut cdb data remaining } =>
      let byte_count := min maximum_bytes remaining
      ISIZE_MAX < byte_count || provided.any fun provided =>
        ISIZE_MAX < data.length + byte_count ||
          bus.complete_target_data_out_panics target_slot cdb (data ++ fill_buffer byte_count provided)
    | _ => false

/-- A callback that takes the first byte of its chunk finds none. -/
def chunk_is_empty : Bool := bus.active_transaction.any fun transaction => transaction.transfer.remaining == 0

/-! ### Connections -/

def write_information_panics (value : U8) : Bool :=
  match bus.connection with
  | none => false
  | some connection =>
    match connection.phase with
    | .Command =>
      connection.cdb.length != 16 &&
        let connection := { connection with cdb := connection.cdb ++ [value] }
        connection.cdb.length == cdb_length (cdb_byte connection.cdb 0) && bus.execute_connected_command_panics connection
    | .DataOut => bus.transfer_data_out_panics 1 (some [value]) || bus.chunk_is_empty
    | _ => false

def read_information_panics : Bool :=
  bus.phase == some .DataIn && (bus.transfer_data_in_panics 1 || bus.chunk_is_empty)

/-! ### Attachments and snapshots -/

/-- A bus takes a fixed backing for a target without removable media, and no other. -/
def removable_media_slots_panics : Bool :=
  (List.range TARGET_SLOT_COUNT).any fun slot => (bus.attachment slot).any fun attachment =>
    match attachment.backing, attachment.target with
    | .Fixed _, .Cdrom _ => true
    | .Removable _, .Disk _ => true
    | _, _ => false

/-- The capacity of a state is computed once its target accepts it. -/
def restore_snapshot_panics (snapshot : ScsiBusSnapshot) : Bool :=
  (target_states snapshot.targets (Vector.replicate TARGET_SLOT_COUNT none)).any fun states =>
    (List.range TARGET_SLOT_COUNT).any fun slot =>
      match bus.attachment slot, states.state slot with
      | some attachment, some state => attachment.target.accepts_snapshot state && state.backing_requirement_panics
      | _, _ => false

end ScsiBus

end se_device.scsi
