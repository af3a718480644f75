import SgiEmu.Device.Scsi

open se_core se_device.scsi_disk se_device.scsi_cdrom

namespace se_device.scsi

/-! ## The supported targets

Disk and CD-ROM drives behind one interface; a snapshot of a target is its state. -/

namespace ScsiTargetSnapshot

def backing_requirement : ScsiTargetSnapshot → ScsiBackingRequirement
  | .Disk disk => .Fixed disk.storage_size_bytes
  | .Cdrom _ => .Removable

def medium_size_bytes : ScsiTargetSnapshot → Option Nat
  | .Disk _ => none
  | .Cdrom drive => drive.medium_bytes

/-- A hook of the CD-ROM drive, on a target known to be one. -/
def on_cdrom (change : ScsiCdrom → ScsiCdrom) : ScsiTargetSnapshot → ScsiTargetSnapshot
  | .Disk disk => .Disk disk
  | .Cdrom drive => .Cdrom (change drive)

def cdrom_removal_prevented : ScsiTargetSnapshot → Bool
  | .Disk _ => false
  | .Cdrom drive => drive.removal_prevented

def removable_media : ScsiTargetSnapshot → Option (ScsiRemovableTarget ScsiTargetSnapshot)
  | .Disk _ => none
  | .Cdrom _ =>
    some
      { validate_medium := fun _ size_bytes => validate_medium_size size_bytes
        medium_inserted := fun target size_bytes origin => target.on_cdrom (·.medium_inserted size_bytes origin)
        medium_removed := fun target origin => target.on_cdrom (·.medium_removed origin)
        removal_prevented := cdrom_removal_prevented
        release_removal_prevention := fun target => target.on_cdrom (·.release_removal_prevention) }

def execute (cdb : List U8) : ScsiTargetSnapshot → ScsiCommandPlan × ScsiTargetSnapshot
  | .Disk disk => ((disk.execute cdb).1, .Disk (disk.execute cdb).2)
  | .Cdrom drive => ((drive.execute cdb).1, .Cdrom (drive.execute cdb).2)

def complete_storage (succeeded : Bool) : ScsiTargetSnapshot → ScsiStatus × ScsiTargetSnapshot
  | .Disk disk => ((disk.complete_storage succeeded).1, .Disk (disk.complete_storage succeeded).2)
  | .Cdrom drive => ((drive.complete_storage succeeded).1, .Cdrom (drive.complete_storage succeeded).2)

/-- A disk refuses every payload, as a target does by default. -/
def complete_data_out (cdb data : List U8) : ScsiTargetSnapshot → ScsiStatus × ScsiTargetSnapshot
  | .Disk disk => (.CheckCondition, .Disk disk)
  | .Cdrom drive => ((drive.complete_data_out cdb data).1, .Cdrom (drive.complete_data_out cdb data).2)

def accepts_snapshot : ScsiTargetSnapshot → ScsiTargetSnapshot → Bool
  | .Disk disk, .Disk state => state.block_count == disk.block_count
  | .Cdrom drive, .Cdrom state => drive.accepts_cdrom_snapshot state
  | _, _ => false

/-- Takes over a state the target accepts. -/
def restore_snapshot (target state : ScsiTargetSnapshot) : Bool × ScsiTargetSnapshot :=
  if target.accepts_snapshot state then (true, state) else (false, target)

end ScsiTargetSnapshot

instance : ScsiTarget ScsiTargetSnapshot where
  backing_requirement := ScsiTargetSnapshot.backing_requirement
  removable_media := ScsiTargetSnapshot.removable_media
  execute target cdb := target.execute cdb
  complete_storage target succeeded := target.complete_storage succeeded
  complete_data_out target cdb data := target.complete_data_out cdb data
  accepts_snapshot := ScsiTargetSnapshot.accepts_snapshot
  restore_snapshot := ScsiTargetSnapshot.restore_snapshot

/-! ## Media -/

/-- A medium that reads and writes the bytes it holds: an access inside it does
what it says, if the host does not fail it, and none changes the capacity. -/
class LawfulStorageMedium (μ : Type) [StorageMedium μ] where
  bytes : μ → List U8
  length_bytes (medium : μ) : (bytes medium).length = StorageMedium.size_bytes medium
  read_bytes (medium : μ) (offset length : Nat) :
    bytes (StorageMedium.read_exact_at medium offset length).2 = bytes medium
  read_eq (medium : μ) (offset length : Nat) (data : List U8)
    (h : (StorageMedium.read_exact_at medium offset length).1 = some data)
    (hrange : offset + length ≤ StorageMedium.size_bytes medium) :
    data = ((bytes medium).drop offset).take length
  write_bytes (medium : μ) (offset : Nat) (data : List U8)
    (h : (StorageMedium.write_all_at medium offset data).1 = true)
    (hrange : offset + data.length ≤ StorageMedium.size_bytes medium) :
    bytes (StorageMedium.write_all_at medium offset data).2 =
      (bytes medium).take offset ++ data ++ (bytes medium).drop (offset + data.length)
  write_size (medium : μ) (offset : Nat) (data : List U8) :
    StorageMedium.size_bytes (StorageMedium.write_all_at medium offset data).2 = StorageMedium.size_bytes medium

theorem LawfulStorageMedium.read_size {μ : Type} [StorageMedium μ] [LawfulStorageMedium μ] (medium : μ)
    (offset length : Nat) : StorageMedium.size_bytes (StorageMedium.read_exact_at medium offset length).2 =
      StorageMedium.size_bytes medium := by
  rw [← length_bytes, read_bytes, length_bytes]

/-- A medium held in memory. -/
structure MemoryStorage where
  bytes : List U8
deriving DecidableEq, Repr

namespace MemoryStorage

def read_exact_at (medium : MemoryStorage) (offset length : Nat) : Option (List U8) :=
  if offset + length ≤ medium.bytes.length then some ((medium.bytes.drop offset).take length) else none

def write_all_at (medium : MemoryStorage) (offset : Nat) (data : List U8) : Bool × MemoryStorage :=
  if offset + data.length ≤ medium.bytes.length then
    (true, ⟨medium.bytes.take offset ++ data ++ medium.bytes.drop (offset + data.length)⟩)
  else (false, medium)

end MemoryStorage

instance : StorageMedium MemoryStorage where
  size_bytes medium := medium.bytes.length
  read_exact_at medium offset length := (medium.read_exact_at offset length, medium)
  write_all_at := MemoryStorage.write_all_at

instance : LawfulStorageMedium MemoryStorage where
  bytes medium := medium.bytes
  length_bytes _ := rfl
  read_bytes _ _ _ := rfl
  read_eq medium offset length data h hrange := by
    simp only [StorageMedium.read_exact_at, MemoryStorage.read_exact_at] at h
    split at h
    · exact (Option.some.inj h).symm
    · simp at h
  write_bytes medium offset data h hrange := by
    have hfits : offset + data.length ≤ medium.bytes.length := hrange
    simp only [StorageMedium.write_all_at, MemoryStorage.write_all_at, if_pos hfits]
  write_size medium offset data := by
    simp only [StorageMedium.write_all_at, MemoryStorage.write_all_at, StorageMedium.size_bytes]
    split
    case isTrue hfits =>
      simp only [List.length_append, List.length_take, List.length_drop]
      omega
    case isFalse => rfl

end se_device.scsi
