import SgiEmu.Device.Scsi.Targets

open se_core

namespace se_device.scsi

inductive ScsiAttachError where
  | InvalidAddress (target_id lun : Nat)
  | AddressOccupied (target_id lun : Nat)
  | StorageSizeMismatch (target_bytes storage_bytes : Nat)
  | InvalidMedium (storage_bytes : Nat)
  | NotRemovable (target_id lun : Nat)
deriving DecidableEq, Repr

inductive ScsiMediaError where
  | InvalidAddress (target_id lun : Nat)
  | NoTarget (target_id lun : Nat)
  | NotRemovable (target_id lun : Nat)
  | MediumAlreadyPresent (target_id lun : Nat)
  | MediumNotPresent (target_id lun : Nat)
  | MediumRemovalPrevented (target_id lun : Nat)
  | InvalidMedium (storage_bytes : Nat)
  | BusBusy
deriving DecidableEq, Repr

/-- Complete restorable protocol state without backing-storage objects. -/
structure ScsiBusSnapshot where
  targets : List (Nat × Nat × ScsiTargetSnapshot)
  active_transaction : Option ScsiTransaction
  connection : Option ScsiConnection
deriving DecidableEq, Repr

/-- The snapshot states of the slots. -/
abbrev TargetStates := Vector (Option ScsiTargetSnapshot) TARGET_SLOT_COUNT

def TargetStates.state (states : TargetStates) (slot : Nat) : Option ScsiTargetSnapshot := (states[slot]?).join

/-- Distributes the states of a snapshot over the slots, each at most once. -/
def target_states : List (Nat × Nat × ScsiTargetSnapshot) → TargetStates → Option TargetStates
  | [], states => some states
  | (target_id, lun, state) :: targets, states =>
    match target_slot target_id lun with
    | none => none
    | some slot =>
      if (states.state slot).isSome then none else target_states targets (states.setIfInBounds slot (some state))

namespace ScsiBus

variable {τ μ : Type} [ScsiTarget τ] [StorageMedium μ]

def busy (bus : ScsiBus τ μ) : Bool := bus.connection.isSome || bus.active_transaction.isSome

/-! ## Attaching -/

def attach_backing (bus : ScsiBus τ μ) (target_id lun : Nat) (target : τ) (backing : ScsiBacking μ) :
    Except ScsiAttachError (ScsiBus τ μ) :=
  match target_slot target_id lun with
  | none => .error (.InvalidAddress target_id lun)
  | some slot =>
    if (bus.attachment slot).isSome then .error (.AddressOccupied target_id lun)
    else
      match backing with
      | .Fixed _ => .ok (bus.set_attachment slot { target, backing })
      | .Removable medium =>
        match ScsiTarget.removable_media target with
        | none => .error (.NotRemovable target_id lun)
        | some removable =>
          let target :=
            match medium with
            | some medium => removable.medium_inserted target (StorageMedium.size_bytes medium) .ColdAttach
            | none => removable.medium_removed target .ColdAttach
          .ok (bus.set_attachment slot { target, backing })

/-- Attaches one target and its backing storage. -/
def attach (bus : ScsiBus τ μ) (target_id lun : Nat) (target : τ) (storage : μ) :
    Except ScsiAttachError (ScsiBus τ μ) :=
  let storage_bytes := StorageMedium.size_bytes storage
  match ScsiTarget.backing_requirement target with
  | .Fixed size_bytes =>
    if size_bytes ≠ storage_bytes then .error (.StorageSizeMismatch size_bytes storage_bytes)
    else bus.attach_backing target_id lun target (.Fixed storage)
  | .Removable =>
    match ScsiTarget.removable_media target with
    | none => .error (.NotRemovable target_id lun)
    | some removable =>
      if !removable.validate_medium target storage_bytes then .error (.InvalidMedium storage_bytes)
      else bus.attach_backing target_id lun target (.Removable (some storage))

/-- Attaches one removable target whose slot holds no medium. -/
def attach_removable_empty (bus : ScsiBus τ μ) (target_id lun : Nat) (target : τ) :
    Except ScsiAttachError (ScsiBus τ μ) :=
  bus.attach_backing target_id lun target (.Removable none)

/-! ## Removable media -/

/-- Installs a medium in the empty removable slot of one attached target. -/
def insert_medium (bus : ScsiBus τ μ) (target_id lun : Nat) (medium : μ) : Except ScsiMediaError (ScsiBus τ μ) :=
  match target_slot target_id lun with
  | none => .error (.InvalidAddress target_id lun)
  | some slot =>
    match bus.attachment slot with
    | none => .error (.NoTarget target_id lun)
    | some attachment =>
      match attachment.backing with
      | .Fixed _ => .error (.NotRemovable target_id lun)
      | .Removable (some _) => .error (.MediumAlreadyPresent target_id lun)
      | .Removable none =>
        if bus.busy then .error .BusBusy
        else
          match ScsiTarget.removable_media attachment.target with
          | none => .error (.NotRemovable target_id lun)
          | some removable =>
            let medium_bytes := StorageMedium.size_bytes medium
            if !removable.validate_medium attachment.target medium_bytes then .error (.InvalidMedium medium_bytes)
            else
              .ok (bus.set_attachment slot
                { target := removable.medium_inserted attachment.target medium_bytes .External
                  backing := .Removable (some medium) })

/-- Removes the medium from the removable slot of one attached target; a forced
eject also clears the removal lock. -/
def eject_medium (bus : ScsiBus τ μ) (target_id lun : Nat) (force : Bool) :
    Except ScsiMediaError (μ × ScsiBus τ μ) :=
  match target_slot target_id lun with
  | none => .error (.InvalidAddress target_id lun)
  | some slot =>
    match bus.attachment slot with
    | none => .error (.NoTarget target_id lun)
    | some attachment =>
      match attachment.backing with
      | .Fixed _ => .error (.NotRemovable target_id lun)
      | .Removable none => .error (.MediumNotPresent target_id lun)
      | .Removable (some medium) =>
        if bus.busy then .error .BusBusy
        else
          match ScsiTarget.removable_media attachment.target with
          | none => .error (.NotRemovable target_id lun)
          | some removable =>
            if removable.removal_prevented attachment.target && !force then
              .error (.MediumRemovalPrevented target_id lun)
            else
              let target :=
                if force then removable.release_removal_prevention attachment.target else attachment.target
              .ok (medium, bus.set_attachment slot
                { target := removable.medium_removed target .External, backing := .Removable none })

/-! ## Snapshots -/

def backing_accepts_snapshot (backing : ScsiBacking μ) (state : ScsiTargetSnapshot) : Bool :=
  match backing, state.backing_requirement with
  | .Fixed medium, .Fixed size_bytes => StorageMedium.size_bytes medium == size_bytes
  | .Removable medium, .Removable =>
    match state.medium_size_bytes with
    | none => true
    | some medium_bytes => medium.any fun medium => StorageMedium.size_bytes medium == medium_bytes
  | _, _ => false

/-- Whether the transfer of a snapshot fits the medium its slot holds once the
snapshot is restored. -/
def validate_snapshot_transaction (bus : ScsiBus τ μ) (states : TargetStates) (transaction : ScsiTransaction) : Bool :=
  match bus.attachment transaction.target_slot with
  | none => false
  | some attachment =>
    let medium_size_bytes :=
      match states.state transaction.target_slot with
      | some (.Cdrom drive) => drive.medium_bytes
      | _ => attachment.backing.medium_size_bytes
    let fits (next_offset remaining : Nat) : Bool :=
      remaining != 0 &&
        match checked_add_u64 next_offset remaining with
        | none => false
        | some last => medium_size_bytes.any fun size => last ≤ size
    match transaction.transfer with
    | .ImmediateDataIn data next_offset _ => next_offset < data.length
    | .StorageDataIn next_offset remaining => fits next_offset remaining
    | .StorageDataOut next_offset remaining => fits next_offset remaining
    | .TargetDataOut cdb data remaining =>
      !cdb.isEmpty && cdb.length ≤ 16 && remaining != 0 && (checked_add_u64 data.length remaining).isSome

def validate_snapshot_connection (bus : ScsiBus τ μ) (connection : ScsiConnection) : Bool :=
  bus.target_present connection.target_id && connection.lun < 8 && connection.cdb.length ≤ 16
    && connection.message_out.length ≤ 257 && connection.message_in.length ≤ 257
    && connection.message_offset ≤ connection.message_in.length

/-- Whether the attachment at a slot takes the state a snapshot has for it. -/
def slot_accepts (bus : ScsiBus τ μ) (states : TargetStates) (slot : Nat) : Bool :=
  match bus.attachment slot, states.state slot with
  | none, none => true
  | some attachment, some state =>
    ScsiTarget.accepts_snapshot attachment.target state && backing_accepts_snapshot attachment.backing state
  | _, _ => false

/-- Restores the targets of the given slots in order, stopping at a refusal. -/
def restore_targets (states : TargetStates) : List Nat → ScsiBus τ μ → Bool × ScsiBus τ μ
  | [], bus => (true, bus)
  | slot :: slots, bus =>
    match bus.attachment slot, states.state slot with
    | some attachment, some state =>
      let backing :=
        match attachment.backing, state.medium_size_bytes with
        | .Removable _, none => .Removable none
        | backing, _ => backing
      let restored := ScsiTarget.restore_snapshot attachment.target state
      let bus := bus.set_attachment slot { target := restored.2, backing }
      if !restored.1 then (false, bus) else restore_targets states slots bus
    | _, _ => restore_targets states slots bus

/-- Restores protocol state while retaining the attached storage objects; the
flag is false where the snapshot is refused. -/
def restore_snapshot (bus : ScsiBus τ μ) (snapshot : ScsiBusSnapshot) : Bool × ScsiBus τ μ :=
  match target_states snapshot.targets (Vector.replicate TARGET_SLOT_COUNT none) with
  | none => (false, bus)
  | some states =>
    if !((List.range TARGET_SLOT_COUNT).all (bus.slot_accepts states)
        && snapshot.active_transaction.all (bus.validate_snapshot_transaction states)
        && snapshot.connection.all bus.validate_snapshot_connection) then
      (false, bus)
    else
      match restore_targets states (List.range TARGET_SLOT_COUNT) bus with
      | (false, bus) => (false, bus)
      | (true, bus) =>
        (true, { bus with active_transaction := snapshot.active_transaction, connection := snapshot.connection })

end ScsiBus

end se_device.scsi
