import SgiEmu.Device.Scsi.Media

open se_core se_device.scsi_disk se_device.scsi_cdrom

namespace se_device.scsi

/-- A target as its constructors make it: a drive has a supported block size. -/
structure AttachableTarget where
  target : ScsiTargetSnapshot
  supported : ∀ drive, target = .Cdrom drive → drive.logical_block_bytes ∈ SUPPORTED_LOGICAL_BLOCK_BYTES

namespace AttachableTarget

def disk (disk : ScsiDisk) : AttachableTarget := ⟨.Disk disk, fun _ h => by simp at h⟩

def cdrom_empty : AttachableTarget := by
  refine ⟨.Cdrom .new_empty, fun drive h => ?_⟩
  obtain rfl := ScsiTargetSnapshot.Cdrom.inj h
  exact BlocksFit.new_empty.supported

def cdrom (storage_bytes : Nat) : Option AttachableTarget :=
  match h : ScsiCdrom.try_new storage_bytes with
  | none => none
  | some drive =>
    some ⟨.Cdrom drive, fun other hother => by
      obtain rfl := ScsiTargetSnapshot.Cdrom.inj hother
      exact (BlocksFit.try_new h).supported⟩

end AttachableTarget

namespace ScsiBus

/-- The operations of host and guest on a bus. A snapshot is any value. -/
inductive BusEvent (μ : Type) where
  | Attach (target_id lun : Nat) (target : AttachableTarget) (storage : μ)
  | AttachRemovableEmpty (target_id lun : Nat) (target : AttachableTarget)
  | InsertMedium (target_id lun : Nat) (medium : μ)
  | EjectMedium (target_id lun : Nat) (force : Bool)
  | Initiator (event : InitiatorEvent)
  | StartCommand (target_id lun : Nat) (cdb : List U8)
  | RestoreSnapshot (snapshot : ScsiBusSnapshot)

variable {μ : Type} [StorageMedium μ] {bus : ScsiBus ScsiTargetSnapshot μ}

/-- A refused operation leaves the bus as it is. -/
def accepted {ε : Type} (bus : ScsiBus ScsiTargetSnapshot μ) (result : Except ε (ScsiBus ScsiTargetSnapshot μ)) :
    ScsiBus ScsiTargetSnapshot μ :=
  match result with
  | .ok bus => bus
  | .error _ => bus

def apply (bus : ScsiBus ScsiTargetSnapshot μ) : BusEvent μ → ScsiBus ScsiTargetSnapshot μ
  | .Attach target_id lun target storage => bus.accepted (bus.attach target_id lun target.target storage)
  | .AttachRemovableEmpty target_id lun target =>
    bus.accepted (bus.attach_removable_empty target_id lun target.target)
  | .InsertMedium target_id lun medium => bus.accepted (bus.insert_medium target_id lun medium)
  | .EjectMedium target_id lun force => bus.accepted ((bus.eject_medium target_id lun force).map (·.2))
  | .Initiator event => bus.step event
  | .StartCommand target_id lun cdb => (bus.start_command target_id lun cdb).2
  | .RestoreSnapshot snapshot => (bus.restore_snapshot snapshot).2

def apply_all (bus : ScsiBus ScsiTargetSnapshot μ) (events : List (BusEvent μ)) : ScsiBus ScsiTargetSnapshot μ :=
  events.foldl apply bus

/-- The operations by which the host changes a medium. -/
def BusEvent.changes_medium : BusEvent μ → Bool
  | .InsertMedium .. => true
  | .EjectMedium .. => true
  | _ => false

/-- The operations that may take out a medium that is locked in. -/
def BusEvent.overrides_lock : BusEvent μ → Bool
  | .EjectMedium _ _ force => force
  | .RestoreSnapshot _ => true
  | _ => false

/-- Every drive and disk agrees with the bus on its storage. -/
def SlotsConsistent (bus : ScsiBus ScsiTargetSnapshot μ) : Prop :=
  ∀ slot attachment, bus.attachment slot = some attachment → attachment.Consistent

theorem SlotsConsistent.set_attachment {slot : Nat} {attachment : TargetAttachment ScsiTargetSnapshot μ}
    (h : bus.SlotsConsistent) (hattachment : attachment.Consistent) : (bus.set_attachment slot attachment).SlotsConsistent := by
  intro other held hheld
  rw [attachment_set_attachment] at hheld
  split at hheld
  · obtain rfl := Option.some.inj hheld
    exact hattachment
  · exact h other held hheld

theorem SlotsConsistent.of_changes {next : ScsiBus ScsiTargetSnapshot μ} (h : bus.SlotsConsistent)
    (hchanges : SlotsBy TargetAttachment.Changes bus next) : next.SlotsConsistent := by
  intro slot attachment hattachment
  have hslot := hchanges slot
  rw [hattachment] at hslot
  generalize hbefore : bus.attachment slot = before at hslot
  cases hslot with
  | some hrelated => exact hrelated.consistent (h slot _ hbefore)

/-! ## Attaching -/

theorem attach_removable_consistent {target : AttachableTarget} {removable : ScsiRemovableTarget ScsiTargetSnapshot}
    (hremovable : ScsiTarget.removable_media target.target = some removable) (medium : Option μ) :
    (∀ held, medium = some held → validate_medium_size (StorageMedium.size_bytes held) = true) →
    ({ target :=
          match medium with
          | some medium => removable.medium_inserted target.target (StorageMedium.size_bytes medium) .ColdAttach
          | none => removable.medium_removed target.target .ColdAttach
       backing := .Removable medium } : TargetAttachment ScsiTargetSnapshot μ).Consistent := by
  intro hvalid
  obtain ⟨target, hsupported⟩ := target
  cases target with
  | Disk disk => simp [ScsiTarget.removable_media, ScsiTargetSnapshot.removable_media] at hremovable
  | Cdrom drive =>
    obtain rfl := Option.some.inj hremovable
    have hblocks := hsupported drive rfl
    cases medium with
    | none => exact ⟨⟨none, rfl, rfl⟩, hblocks, fun _ hmedium => by simp [ScsiCdrom.medium_removed] at hmedium⟩
    | some medium =>
      refine ⟨⟨some medium, rfl, rfl⟩, hblocks, fun medium_bytes hmedium => ?_⟩
      obtain rfl := Option.some.inj hmedium
      exact validated_divides (hvalid medium rfl) hblocks

theorem attach_backing_consistent (h : bus.SlotsConsistent) (target_id lun : Nat) (target : AttachableTarget)
    (backing : ScsiBacking μ)
    (hfixed : ∀ medium, backing = .Fixed medium →
      (⟨target.target, backing⟩ : TargetAttachment ScsiTargetSnapshot μ).Consistent)
    (hvalid : ∀ held, backing = .Removable (some held) →
      validate_medium_size (StorageMedium.size_bytes held) = true) :
    (bus.accepted (bus.attach_backing target_id lun target.target backing)).SlotsConsistent := by
  unfold attach_backing
  split
  · exact h
  · split
    · exact h
    · split
      case h_1 medium => exact h.set_attachment (hfixed medium rfl)
      case h_2 medium =>
        split
        · exact h
        case h_2 removable hremovable =>
          exact h.set_attachment (attach_removable_consistent hremovable medium fun held hheld => hvalid held (by rw [hheld]))

theorem attach_consistent (h : bus.SlotsConsistent) (target_id lun : Nat) (target : AttachableTarget) (storage : μ) :
    (bus.accepted (bus.attach target_id lun target.target storage)).SlotsConsistent := by
  unfold attach
  dsimp only
  split
  case h_1 size_bytes hrequirement =>
    split
    · exact h
    case isFalse hsize =>
      refine attach_backing_consistent h target_id lun target _ (fun medium hmedium => ?_) fun held hheld => by simp at hheld
      obtain ⟨target, hsupported⟩ := target
      cases target with
      | Disk disk =>
        obtain rfl := ScsiBackingRequirement.Fixed.inj hrequirement
        refine ⟨storage, rfl, ?_⟩
        by_contra hne
        exact hsize fun heq => hne heq.symm
      | Cdrom drive => simp [ScsiTarget.backing_requirement, ScsiTargetSnapshot.backing_requirement] at hrequirement
  case h_2 =>
    split
    · exact h
    case h_2 removable hremovable =>
      split
      · exact h
      case isFalse hvalidated =>
        refine attach_backing_consistent h target_id lun target _ (fun medium hmedium => by simp at hmedium)
          fun held hheld => ?_
        obtain rfl : storage = held := by simpa using hheld
        obtain ⟨target, hsupported⟩ := target
        cases target with
        | Disk disk => simp [ScsiTarget.removable_media, ScsiTargetSnapshot.removable_media] at hremovable
        | Cdrom drive =>
          obtain rfl := Option.some.inj hremovable
          simpa using hvalidated

/-! ## Removable media -/

theorem insert_medium_consistent (h : bus.SlotsConsistent) (target_id lun : Nat) (medium : μ) :
    (bus.accepted (bus.insert_medium target_id lun medium)).SlotsConsistent := by
  unfold insert_medium
  split
  · exact h
  · split
    · exact h
    case h_2 attachment hattachment =>
      split
      · exact h
      · exact h
      case h_3 hbacking =>
        split
        · exact h
        · split
          · exact h
          case h_2 removable hremovable =>
            dsimp only
            split
            · exact h
            case isFalse hvalidated =>
              refine h.set_attachment ?_
              have hheld := h _ attachment hattachment
              obtain ⟨target, backing⟩ := attachment
              cases target with
              | Disk disk => simp [ScsiTarget.removable_media, ScsiTargetSnapshot.removable_media] at hremovable
              | Cdrom drive =>
                obtain rfl := Option.some.inj hremovable
                exact ⟨⟨some medium, rfl, rfl⟩, hheld.2.medium_inserted (by simpa using hvalidated) .External⟩

/-- The attachment a host ejection leaves. -/
theorem eject_attachment_consistent {attachment : TargetAttachment ScsiTargetSnapshot μ} (h : attachment.Consistent)
    {removable : ScsiRemovableTarget ScsiTargetSnapshot}
    (hremovable : ScsiTarget.removable_media attachment.target = some removable) (force : Bool) :
    ({ target := removable.medium_removed
          (if force then removable.release_removal_prevention attachment.target else attachment.target) .External
       backing := .Removable none } : TargetAttachment ScsiTargetSnapshot μ).Consistent := by
  obtain ⟨target, backing⟩ := attachment
  cases target with
  | Disk disk => simp [ScsiTarget.removable_media, ScsiTargetSnapshot.removable_media] at hremovable
  | Cdrom drive =>
    obtain rfl := Option.some.inj hremovable
    have hblocks : BlocksFit drive := h.2
    cases force with
    | true => exact ⟨⟨none, rfl, rfl⟩, hblocks.supported, fun _ hmedium => by simp [ScsiCdrom.medium_removed] at hmedium⟩
    | false => exact ⟨⟨none, rfl, rfl⟩, hblocks.medium_removed .External⟩

theorem eject_medium_consistent (h : bus.SlotsConsistent) (target_id lun : Nat) (force : Bool) :
    (bus.accepted ((bus.eject_medium target_id lun force).map (·.2))).SlotsConsistent := by
  unfold eject_medium
  split
  · exact h
  · split
    · exact h
    case h_2 attachment hattachment =>
      split
      · exact h
      · exact h
      · split
        · exact h
        · split
          · exact h
          case h_2 removable hremovable =>
            split
            · exact h
            · exact h.set_attachment (eject_attachment_consistent (h _ attachment hattachment) hremovable force)

/-! ## Snapshots -/

/-- The attachment a restored state leaves. -/
def restored_attachment (attachment : TargetAttachment ScsiTargetSnapshot μ) (state : ScsiTargetSnapshot) :
    TargetAttachment ScsiTargetSnapshot μ :=
  { target := state
    backing :=
      match attachment.backing, state.medium_size_bytes with
      | .Removable _, none => .Removable none
      | backing, _ => backing }

/-- What a slot holds once its state in a snapshot is restored. -/
def restored_slot (bus : ScsiBus ScsiTargetSnapshot μ) (states : TargetStates) (slot : Nat) :
    Option (TargetAttachment ScsiTargetSnapshot μ) :=
  match bus.attachment slot, states.state slot with
  | some attachment, some state => some (restored_attachment attachment state)
  | held, _ => held

theorem restored_consistent {attachment : TargetAttachment ScsiTargetSnapshot μ} {state : ScsiTargetSnapshot}
    (h : attachment.Consistent) (haccepts : ScsiTarget.accepts_snapshot attachment.target state = true) :
    (restored_attachment attachment state).Consistent := by
  obtain ⟨target, backing⟩ := attachment
  cases target with
  | Disk disk =>
    obtain ⟨medium, hbacking, hsize⟩ := h
    obtain rfl : backing = .Fixed medium := hbacking
    cases state with
    | Cdrom state => simp [ScsiTarget.accepts_snapshot, ScsiTargetSnapshot.accepts_snapshot] at haccepts
    | Disk state =>
      have hcount : state.block_count = disk.block_count := by
        simpa [ScsiTarget.accepts_snapshot, ScsiTargetSnapshot.accepts_snapshot] using haccepts
      exact ⟨medium, rfl, by simpa only [ScsiDisk.storage_size_bytes, hcount] using hsize⟩
  | Cdrom drive =>
    obtain ⟨⟨medium, hbacking, hbytes⟩, hblocks⟩ := h
    obtain rfl : backing = .Removable medium := hbacking
    cases state with
    | Disk state => simp [ScsiTarget.accepts_snapshot, ScsiTargetSnapshot.accepts_snapshot] at haccepts
    | Cdrom state =>
      simp only [ScsiTarget.accepts_snapshot, ScsiTargetSnapshot.accepts_snapshot, ScsiCdrom.accepts_cdrom_snapshot,
        Bool.and_eq_true] at haccepts
      have hsupported := List.contains_iff_mem.mp haccepts.1
      cases hmedium : state.medium_bytes with
      | none =>
        simp only [restored_attachment, ScsiTargetSnapshot.medium_size_bytes, hmedium]
        exact ⟨⟨none, rfl, hmedium⟩, hsupported, fun _ hsome => by simp [hmedium] at hsome⟩
      | some medium_bytes =>
        simp only [hmedium, Bool.and_eq_true, beq_iff_eq] at haccepts
        simp only [restored_attachment, ScsiTargetSnapshot.medium_size_bytes, hmedium]
        refine ⟨⟨medium, rfl, ?_⟩, hsupported, fun bytes hsome => ?_⟩
        · rw [hmedium, ← haccepts.2.1]
          exact hbytes
        · obtain rfl : medium_bytes = bytes := by simpa [hmedium] using hsome
          exact haccepts.2.2

/-- Every state that is accepted can be restored, and the other slots stay. -/
theorem restore_targets_slots (states : TargetStates) (slots : List Nat) (hslots : slots.Nodup)
    (haccepts : ∀ slot ∈ slots, bus.slot_accepts states slot = true) :
    (restore_targets states slots bus).1 = true ∧
      ∀ slot, (restore_targets states slots bus).2.attachment slot =
        if slot ∈ slots then bus.restored_slot states slot else bus.attachment slot := by
  induction slots generalizing bus with
  | nil => exact ⟨rfl, fun slot => by simp [restore_targets]⟩
  | cons slot slots ih =>
    have hslot := haccepts slot (by simp)
    have hrest : ∀ other ∈ slots, bus.slot_accepts states other = true := fun other hother =>
      haccepts other (by simp [hother])
    have hdistinct := List.nodup_cons.mp hslots
    simp only [restore_targets]
    split
    case h_1 attachment state hattachment hstate =>
      simp only [slot_accepts, hattachment, hstate, Bool.and_eq_true] at hslot
      have hrestore : ScsiTarget.restore_snapshot attachment.target state = (true, state) := if_pos hslot.1
      simp only [hrestore, Bool.not_true, Bool.false_eq_true, if_false]
      have hother {other : Nat} (hne : slot ≠ other) :
          (bus.set_attachment slot (restored_attachment attachment state)).attachment other = bus.attachment other := by
        rw [attachment_set_attachment, if_neg (fun hboth => hne hboth.1)]
      obtain ⟨hdone, hslots⟩ := @ih (bus.set_attachment slot (restored_attachment attachment state)) hdistinct.2
        fun other hmember => by
          have hne : slot ≠ other := fun heq => hdistinct.1 (heq ▸ hmember)
          simpa only [slot_accepts, hother hne] using hrest other hmember
      refine ⟨hdone, fun other => (hslots other).trans ?_⟩
      by_cases hne : slot = other
      · subst hne
        rw [if_neg hdistinct.1, if_pos (by simp), attachment_set_attachment,
          if_pos ⟨rfl, slot_lt_of_attachment hattachment⟩]
        simp only [restored_slot, hattachment, hstate]
      · simp only [restored_slot, hother hne, List.mem_cons, Ne.symm hne, false_or]
    case h_2 hnone =>
      obtain ⟨hdone, hslots⟩ := ih hdistinct.2 hrest
      refine ⟨hdone, fun other => (hslots other).trans ?_⟩
      by_cases hne : slot = other
      · subst hne
        rw [if_neg hdistinct.1, if_pos (by simp)]
        unfold restored_slot
        split
        case h_1 attachment state hattachment hstate => exact absurd hstate (hnone attachment state hattachment)
        case h_2 => rfl
      · simp only [List.mem_cons, Ne.symm hne, false_or]

theorem restore_targets_consistent (states : TargetStates) (slots : List Nat) (hslots : slots.Nodup)
    (h : bus.SlotsConsistent) (haccepts : ∀ slot ∈ slots, bus.slot_accepts states slot = true) :
    (restore_targets states slots bus).2.SlotsConsistent := by
  intro slot attachment hattachment
  rw [(restore_targets_slots states slots hslots haccepts).2 slot] at hattachment
  split at hattachment
  case isTrue hmember =>
    have hslot := haccepts slot hmember
    unfold restored_slot at hattachment
    split at hattachment
    case h_1 held state hheld hstate =>
      simp only [slot_accepts, hheld, hstate, Bool.and_eq_true] at hslot
      obtain rfl := Option.some.inj hattachment
      exact restored_consistent (h slot held hheld) hslot.1
    case h_2 => exact h slot attachment hattachment
  case isFalse => exact h slot attachment hattachment

theorem restore_snapshot_consistent (h : bus.SlotsConsistent) (snapshot : ScsiBusSnapshot) :
    (bus.restore_snapshot snapshot).2.SlotsConsistent := by
  unfold restore_snapshot
  split
  · exact h
  case h_2 states hstates =>
    split
    · exact h
    case isFalse hvalidated =>
      simp only [Bool.not_eq_true', Bool.not_eq_false, Bool.and_eq_true, List.all_eq_true] at hvalidated
      have hrestored := restore_targets_consistent states (List.range TARGET_SLOT_COUNT) List.nodup_range h
        hvalidated.1.1
      split
      case h_1 next heq => rwa [heq] at hrestored
      case h_2 next heq =>
        rw [heq] at hrestored
        exact hrestored

/-! ## Runs -/

omit [StorageMedium μ] in
theorem attachment_new (slot : Nat) : (ScsiBus.new : ScsiBus ScsiTargetSnapshot μ).attachment slot = none := by
  simp only [ScsiBus.attachment, ScsiBus.new, Vector.getElem?_replicate]
  split
  · rfl
  · rfl

theorem new_consistent : (ScsiBus.new : ScsiBus ScsiTargetSnapshot μ).SlotsConsistent := by
  intro slot attachment hattachment
  simp [attachment_new] at hattachment

/-- A busy bus refuses every change of a medium by the host. -/
theorem busy_refuses (hbusy : bus.busy = true) {event : BusEvent μ} (hhost : event.changes_medium = true) :
    bus.apply event = bus := by
  cases event with
  | InsertMedium target_id lun medium =>
    simp only [apply, insert_medium, hbusy, if_true]
    split
    · rfl
    · split
      · rfl
      · split
        · rfl
        · rfl
        · rfl
  | EjectMedium target_id lun force =>
    simp only [apply, eject_medium, hbusy, if_true]
    split
    · rfl
    · split
      · rfl
      · split
        · rfl
        · rfl
        · rfl
  | _ => simp [BusEvent.changes_medium] at hhost

variable [LawfulStorageMedium μ]

theorem apply_consistent (h : bus.SlotsConsistent) (event : BusEvent μ) : (bus.apply event).SlotsConsistent := by
  cases event with
  | Attach target_id lun target storage => exact attach_consistent h target_id lun target storage
  | AttachRemovableEmpty target_id lun target =>
    exact attach_backing_consistent h target_id lun target _ (fun _ hmedium => by simp at hmedium)
      fun _ hheld => by simp at hheld
  | InsertMedium target_id lun medium => exact insert_medium_consistent h target_id lun medium
  | EjectMedium target_id lun force => exact eject_medium_consistent h target_id lun force
  | Initiator event => exact h.of_changes (step_changes event)
  | StartCommand target_id lun cdb => exact h.of_changes (start_command_changes target_id lun cdb)
  | RestoreSnapshot snapshot => exact restore_snapshot_consistent h snapshot

theorem apply_all_consistent (h : bus.SlotsConsistent) (events : List (BusEvent μ)) :
    (bus.apply_all events).SlotsConsistent := by
  induction events generalizing bus with
  | nil => exact h
  | cons event events ih => exact ih (apply_consistent h event)

/-- Whether the slot of an occupied address has lost its medium. -/
def medium_left (bus next : ScsiBus ScsiTargetSnapshot μ) (slot : Nat) : Bool :=
  (bus.attachment slot).any (·.backing.medium.isSome) && !(next.attachment slot).any (·.backing.medium.isSome)

omit [StorageMedium μ] [LawfulStorageMedium μ] in
/-- Filling a free slot takes no medium out of another. -/
theorem set_attachment_stays {slot : Nat} {attachment : TargetAttachment ScsiTargetSnapshot μ}
    (hkept : (bus.attachment slot).any (·.backing.medium.isSome) = true → attachment.backing.medium.isSome = true)
    (other : Nat) : medium_left bus (bus.set_attachment slot attachment) other = false := by
  simp only [medium_left, attachment_set_attachment]
  split
  case isTrue hsame =>
    obtain ⟨rfl, _⟩ := hsame
    cases hheld : (bus.attachment slot).any (·.backing.medium.isSome) with
    | false => rfl
    | true => simp [hkept hheld]
  case isFalse => simp

omit [LawfulStorageMedium μ] in
theorem attach_backing_stays (target_id lun : Nat) (target : ScsiTargetSnapshot) (backing : ScsiBacking μ) (slot : Nat) :
    medium_left bus (bus.accepted (bus.attach_backing target_id lun target backing)) slot = false := by
  have hsame : medium_left bus bus slot = false := by simp [medium_left]
  unfold attach_backing
  split
  · exact hsame
  · split
    · exact hsame
    case isFalse hfree =>
      have hnone := Option.not_isSome_iff_eq_none.mp hfree
      split
      · exact set_attachment_stays (by simp [hnone]) slot
      · split
        · exact hsame
        · exact set_attachment_stays (by simp [hnone]) slot

/-- Only a host's forced ejection or a restored snapshot takes out a medium whose
removal the initiator prevents. -/
theorem locked_medium_stays (h : bus.SlotsConsistent) (event : BusEvent μ) (hguest : event.overrides_lock = false)
    (slot : Nat) {attachment : TargetAttachment ScsiTargetSnapshot μ} (hattachment : bus.attachment slot = some attachment)
    (hlocked : attachment.removal_prevented = true) : medium_left bus (bus.apply event) slot = false := by
  have hsame : medium_left bus bus slot = false := by simp [medium_left]
  have hguest_changes {next : ScsiBus ScsiTargetSnapshot μ} (hchanges : SlotsBy TargetAttachment.Changes bus next) :
      medium_left bus next slot = false := by
    have hslot := hchanges slot
    simp only [medium_left]
    rw [hattachment] at hslot ⊢
    generalize next.attachment slot = after at hslot ⊢
    cases hslot with
    | some hrelated =>
      rename_i last
      cases hheld : attachment.backing.medium.isSome with
      | false => simp [hheld]
      | true =>
        cases hleft : last.backing.medium with
        | some medium => simp [hleft]
        | none =>
          have hfree := hrelated.removed (h slot attachment hattachment) hheld hleft
          exact absurd (hlocked.symm.trans hfree) (by simp)
  cases event with
  | Attach target_id lun target storage =>
    simp only [apply, attach]
    split
    · split
      · exact hsame
      · exact attach_backing_stays target_id lun target.target _ slot
    · split
      · exact hsame
      · split
        · exact hsame
        · exact attach_backing_stays target_id lun target.target _ slot
  | AttachRemovableEmpty target_id lun target => exact attach_backing_stays target_id lun target.target _ slot
  | InsertMedium target_id lun medium =>
    simp only [apply, insert_medium]
    split
    · exact hsame
    · split
      · exact hsame
      · split
        · exact hsame
        · exact hsame
        · split
          · exact hsame
          · split
            · exact hsame
            · split
              · exact hsame
              · exact set_attachment_stays (fun _ => rfl) slot
  | EjectMedium target_id lun force =>
    obtain rfl : force = false := hguest
    simp only [apply, eject_medium]
    split
    · exact hsame
    case h_2 ejected hejected =>
      split
      · exact hsame
      case h_2 held hheld =>
        split
        · exact hsame
        · exact hsame
        · split
          · exact hsame
          · split
            · exact hsame
            case h_2 removable hremovable =>
              split
              · exact hsame
              case isFalse hallowed =>
                have hunlocked : removable.removal_prevented held.target = false := by simpa using hallowed
                have hother : ejected ≠ slot := by
                  rintro rfl
                  obtain rfl : held = attachment := by simpa [hheld] using hattachment
                  obtain ⟨target, backing⟩ := held
                  cases target with
                  | Disk disk => simp [ScsiTarget.removable_media, ScsiTargetSnapshot.removable_media] at hremovable
                  | Cdrom drive =>
                    obtain rfl := Option.some.inj hremovable
                    exact absurd (hlocked.symm.trans hunlocked) (by simp)
                simp [medium_left, accepted, Except.map, attachment_set_attachment, hother]
  | Initiator event => exact hguest_changes (step_changes event)
  | StartCommand target_id lun cdb => exact hguest_changes (start_command_changes target_id lun cdb)
  | RestoreSnapshot snapshot => simp [BusEvent.overrides_lock] at hguest

/-- In every state a bus reaches, each drive and the bus agree on the medium, its
blocks divide it, a locked medium leaves only by force or by a snapshot, and a
busy bus refuses the host. -/
theorem apply_all_media_sound (events : List (BusEvent μ)) :
    let bus := (ScsiBus.new : ScsiBus ScsiTargetSnapshot μ).apply_all events
    (∀ slot attachment drive, bus.attachment slot = some attachment → attachment.target = .Cdrom drive →
      (∃ medium, attachment.backing = .Removable medium ∧
        drive.medium_bytes = medium.map StorageMedium.size_bytes) ∧
      ∀ medium_bytes, drive.medium_bytes = some medium_bytes → medium_bytes % drive.logical_block_bytes = 0) ∧
    (∀ event slot attachment, bus.attachment slot = some attachment → attachment.removal_prevented = true →
      medium_left bus (bus.apply event) slot = true → event.overrides_lock = true) ∧
    ∀ event : BusEvent μ, event.changes_medium = true → bus.busy = true → bus.apply event = bus := by
  have hconsistent := apply_all_consistent new_consistent events
  refine ⟨fun slot attachment drive hattachment hdrive => ?_, fun event slot attachment hattachment hlocked hleft => ?_,
    fun event hhost hbusy => busy_refuses hbusy hhost⟩
  · have hheld := hconsistent slot attachment hattachment
    obtain ⟨target, backing⟩ := attachment
    obtain rfl : target = .Cdrom drive := hdrive
    exact ⟨hheld.1, hheld.2.divides⟩
  · by_contra hguest
    have hstays := locked_medium_stays hconsistent event (by simpa using hguest) slot hattachment hlocked
    exact absurd (hleft.symm.trans hstays) (by simp)

end ScsiBus

end se_device.scsi
