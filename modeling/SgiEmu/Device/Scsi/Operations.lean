import SgiEmu.Device.Scsi.Ready

open se_core se_device.scsi_disk se_device.scsi_cdrom

namespace se_device.scsi

/-! ## Every operation on a bus -/

/-- A target as its constructors make it: a disk has blocks, and READ CAPACITY
can name the last. -/
structure ConstructedTarget extends AttachableTarget where
  sized : ∀ disk, target = .Disk disk → 0 < disk.block_count ∧ disk.block_count ≤ 0xffffffff + 1

namespace ConstructedTarget

def disk (storage_bytes : Nat) : Option ConstructedTarget :=
  match h : ScsiDisk.try_new storage_bytes with
  | none => none
  | some disk =>
    some
      { toAttachableTarget := .disk disk
        sized := fun other hother => by
          obtain rfl := ScsiTargetSnapshot.Disk.inj hother
          simp only [ScsiDisk.try_new, not_or, Option.ite_none_left_eq_some, Option.some.injEq] at h
          obtain ⟨⟨hsome, haligned, hbound⟩, rfl⟩ := h
          simp only [BLOCK_BYTES] at hbound haligned ⊢
          omega }

def cdrom_empty : ConstructedTarget :=
  { toAttachableTarget := .cdrom_empty, sized := fun _ h => by simp [AttachableTarget.cdrom_empty] at h }

def cdrom (storage_bytes : Nat) : Option ConstructedTarget :=
  (ScsiCdrom.try_new storage_bytes).attach.map fun drive =>
    { target := .Cdrom drive.val
      supported := fun other h => by
        obtain rfl := ScsiTargetSnapshot.Cdrom.inj h
        exact (BlocksFit.try_new drive.property).supported
      sized := fun _ h => by simp at h }

end ConstructedTarget

/-- A read or a write of the medium at a slot. -/
structure StorageAccess where
  slot : Nat
  offset : Nat
  length : Nat
deriving DecidableEq, Repr

namespace ScsiBus

/-- A call on the bus. Queries that cannot panic are left out. -/
inductive Operation (μ : Type) where
  | Attach (target_id lun : Nat) (target : ConstructedTarget) (storage : μ)
  | AttachRemovableEmpty (target_id lun : Nat) (target : ConstructedTarget)
  | InsertMedium (target_id lun : Nat) (medium : μ)
  | EjectMedium (target_id lun : Nat) (force : Bool)
  | Select (target_id : Nat) (attention : Bool)
  | WriteInformation (value : U8) (last : Bool)
  | ReadInformation
  | AcknowledgeMessage (attention : Bool)
  | AssertAttention
  | StartCommand (target_id lun : Nat) (cdb : List U8)
  | TransferDataIn (maximum_bytes : Nat) (accept : List U8 → Bool)
  | TransferDataOut (maximum_bytes : Nat) (provided : Option (List U8))
  | ObserveTransferResult (result : ScsiTransferResult)
  | CancelTransaction
  | RemovableMediaSlots
  | RestoreSnapshot (snapshot : ScsiBusSnapshot)

variable {μ : Type} [StorageMedium μ] (bus : ScsiBus ScsiTargetSnapshot μ)

def perform : Operation μ → ScsiBus ScsiTargetSnapshot μ
  | .Attach target_id lun target storage => bus.apply (.Attach target_id lun target.toAttachableTarget storage)
  | .AttachRemovableEmpty target_id lun target =>
    bus.apply (.AttachRemovableEmpty target_id lun target.toAttachableTarget)
  | .InsertMedium target_id lun medium => bus.apply (.InsertMedium target_id lun medium)
  | .EjectMedium target_id lun force => bus.apply (.EjectMedium target_id lun force)
  | .Select target_id attention => bus.step (.Select target_id attention)
  | .WriteInformation value last => bus.step (.WriteInformation value last)
  | .ReadInformation => bus.step .ReadInformation
  | .AcknowledgeMessage attention => bus.step (.AcknowledgeMessage attention)
  | .AssertAttention => bus.step .AssertAttention
  | .StartCommand target_id lun cdb => bus.apply (.StartCommand target_id lun cdb)
  | .TransferDataIn maximum_bytes accept =>
    (bus.transfer_data_in maximum_bytes (fun bytes state => (accept bytes, state)) ()).2.1
  | .TransferDataOut maximum_bytes provided =>
    (bus.transfer_data_out maximum_bytes (fun _ state => (provided, state)) ()).2.1
  | .ObserveTransferResult result => bus.observe_transfer_result result
  | .CancelTransaction => bus.step .CancelTransaction
  | .RemovableMediaSlots => bus
  | .RestoreSnapshot snapshot => bus.apply (.RestoreSnapshot snapshot)

def perform_all (operations : List (Operation μ)) : ScsiBus ScsiTargetSnapshot μ := operations.foldl perform bus

def panics : Operation μ → Bool
  | .Attach _ _ target _ => target.target.backing_requirement_panics
  | .WriteInformation value _ => bus.write_information_panics value
  | .ReadInformation => bus.read_information_panics
  | .StartCommand target_id lun cdb => bus.start_command_panics target_id lun cdb
  | .TransferDataIn maximum_bytes _ => bus.transfer_data_in_panics maximum_bytes
  | .TransferDataOut maximum_bytes provided => bus.transfer_data_out_panics maximum_bytes provided
  | .RemovableMediaSlots => bus.removable_media_slots_panics
  | .RestoreSnapshot snapshot => bus.restore_snapshot_panics snapshot
  | _ => false

/-! ### Accesses of the media -/

def transfer_data_in_access (maximum_bytes : Nat) : Option StorageAccess :=
  match bus.active_transaction with
  | some { target_slot, transfer := .StorageDataIn next_offset remaining } =>
    some { slot := target_slot, offset := next_offset, length := min maximum_bytes remaining }
  | _ => none

def transfer_data_out_access (maximum_bytes : Nat) : Option StorageAccess :=
  match bus.active_transaction with
  | some { target_slot, transfer := .StorageDataOut next_offset remaining } =>
    some { slot := target_slot, offset := next_offset, length := min maximum_bytes remaining }
  | _ => none

/-- What an operation may read or write of a medium. -/
def access : Operation μ → Option StorageAccess
  | .WriteInformation .. => if bus.phase = some .DataOut then bus.transfer_data_out_access 1 else none
  | .ReadInformation => if bus.phase = some .DataIn then bus.transfer_data_in_access 1 else none
  | .TransferDataIn maximum_bytes _ => bus.transfer_data_in_access maximum_bytes
  | .TransferDataOut maximum_bytes _ => bus.transfer_data_out_access maximum_bytes
  | _ => none

/-- An access of bytes the medium installed at its slot has. -/
def Installed (access : StorageAccess) : Prop :=
  ∃ size, bus.medium_size access.slot = some size ∧ access.offset + access.length ≤ size

/-! ### Snapshots -/

/-- Captures target and transaction state without storage objects; a disk and a
drive expose all they hold. -/
def snapshot : ScsiBusSnapshot :=
  { targets := (List.range TARGET_SLOT_COUNT).filterMap fun slot => (bus.attachment slot).map fun attachment =>
      ((address_for_slot slot).1, (address_for_slot slot).2, attachment.target)
    active_transaction := bus.active_transaction
    connection := bus.connection }

/-- The checks a snapshot passes before anything is restored. -/
def accepts_snapshot (snapshot : ScsiBusSnapshot) : Bool :=
  (target_states snapshot.targets (Vector.replicate TARGET_SLOT_COUNT none)).any fun states =>
    (List.range TARGET_SLOT_COUNT).all (bus.slot_accepts states)
      && snapshot.active_transaction.all (bus.validate_snapshot_transaction states)
      && snapshot.connection.all bus.validate_snapshot_connection

end ScsiBus

/-- The length of the payload a target is still receiving, once it is whole. -/
def ScsiBusSnapshot.payload_length (snapshot : ScsiBusSnapshot) : Nat :=
  match snapshot.active_transaction with
  | some { transfer := .TargetDataOut _ data remaining, .. } => data.length + remaining
  | _ => 0

namespace ScsiBus

variable {μ : Type} [StorageMedium μ]

/-- Whether a snapshot is refused or its payload fits a vector of `capacity` bytes. -/
def Restorable (capacity : Nat) (bus : ScsiBus ScsiTargetSnapshot μ) (snapshot : ScsiBusSnapshot) : Prop :=
  bus.accepts_snapshot snapshot = true → snapshot.payload_length ≤ capacity

def Operation.Admissible (capacity : Nat) (bus : ScsiBus ScsiTargetSnapshot μ) : Operation μ → Prop
  | .RestoreSnapshot snapshot => bus.Restorable capacity snapshot
  | _ => True

/-- A run whose restored payloads all fit. -/
def Admissible (capacity : Nat) (bus : ScsiBus ScsiTargetSnapshot μ) : List (Operation μ) → Prop
  | [] => True
  | operation :: operations =>
    operation.Admissible capacity bus ∧ (bus.perform operation).Admissible capacity operations

end ScsiBus

end se_device.scsi
