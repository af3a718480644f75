import SgiEmu.Device.Scsi.Restore

open se_core se_device.scsi_disk se_device.scsi_cdrom

namespace se_device.scsi

namespace ScsiBus

variable {μ : Type} [StorageMedium μ] {bus : ScsiBus ScsiTargetSnapshot μ} {capacity : Nat}

/-! ## Operations of the host -/

theorem MEDIUM_BYTES_MAX_eq : MEDIUM_BYTES_MAX = 2199023255552 := rfl

theorem validated_sized {storage_bytes : Nat} (h : validate_medium_size storage_bytes = true) :
    0 < storage_bytes ∧ storage_bytes ≤ MEDIUM_BYTES_MAX := by
  simp only [validate_medium_size, STORAGE_ALIGNMENT_BYTES, INITIAL_LOGICAL_BLOCK_BYTES, gt_iff_lt, Bool.not_eq_true',
    Bool.or_eq_false_iff, beq_eq_false_iff_ne, ne_eq, bne_eq_false_iff_eq, decide_eq_false_iff_not] at h
  rw [MEDIUM_BYTES_MAX_eq]
  omega

theorem Sized.set_attachment (h : bus.Sized) {slot : Nat} {attachment : TargetAttachment ScsiTargetSnapshot μ}
    (hsize : ∀ size, attachment.backing.medium_size_bytes = some size → 0 < size ∧ size ≤ MEDIUM_BYTES_MAX) :
    (bus.set_attachment slot attachment).Sized := by
  intro other size hother
  simp only [medium_size, attachment_set_attachment] at hother
  split at hother
  · exact hsize size hother
  · exact h other size hother

namespace Ready

theorem attach (h : bus.Ready capacity) {slot : Nat} {attachment : TargetAttachment ScsiTargetSnapshot μ}
    (hsize : ∀ size, attachment.backing.medium_size_bytes = some size → 0 < size ∧ size ≤ MEDIUM_BYTES_MAX) :
    (bus.set_attachment slot attachment).Ready capacity := by
  have hstays (other : Nat) (hother : (bus.attachment other).isSome = true) :
      ((bus.set_attachment slot attachment).attachment other).isSome = true := by
    rw [attachment_set_attachment]
    split
    · rfl
    · exact hother
  refine ⟨h.sized.set_attachment hsize, fun transaction hactive => hstays _ (h.attached transaction hactive), h.holds,
    fun connection hconnection => ?_⟩
  have hpresent := h.present connection hconnection
  simp only [target_present, Bool.and_eq_true, List.any_eq_true] at hpresent ⊢
  obtain ⟨hbound, lun, hlun, hattached⟩ := hpresent
  exact ⟨hbound, lun, hlun, hstays _ hattached⟩

theorem attach_backing (h : bus.Ready capacity) (target_id lun : Nat) (target : ScsiTargetSnapshot)
    {backing : ScsiBacking μ}
    (hsize : ∀ size, backing.medium_size_bytes = some size → 0 < size ∧ size ≤ MEDIUM_BYTES_MAX) :
    (bus.accepted (bus.attach_backing target_id lun target backing)).Ready capacity := by
  unfold ScsiBus.attach_backing
  split
  · exact h
  · split
    · exact h
    · split
      · exact h.attach hsize
      · split
        · exact h
        · exact h.attach hsize

theorem attach_target (h : bus.Ready capacity) (target_id lun : Nat) (target : ConstructedTarget) (storage : μ) :
    (bus.accepted (bus.attach target_id lun target.target storage)).Ready capacity := by
  have hsized := target.sized
  unfold ScsiBus.attach
  dsimp only
  split
  case h_1 size_bytes hrequirement =>
    split
    · exact h
    case isFalse hsame =>
      refine h.attach_backing target_id lun target.target fun size hsize => ?_
      obtain rfl := Option.some.inj hsize
      generalize target.target = held at hrequirement hsized
      cases held with
      | Cdrom drive => simp [ScsiTarget.backing_requirement, ScsiTargetSnapshot.backing_requirement] at hrequirement
      | Disk disk =>
        obtain rfl := ScsiBackingRequirement.Fixed.inj hrequirement
        have hblocks := hsized disk rfl
        simp only [ne_eq, Decidable.not_not, ScsiDisk.storage_size_bytes] at hsame
        rw [MEDIUM_BYTES_MAX_eq]
        simp only [BLOCK_BYTES] at hsame
        omega
  case h_2 =>
    split
    · exact h
    case h_2 removable hremovable =>
      split
      · exact h
      case isFalse hvalid =>
        refine h.attach_backing target_id lun target.target fun size hsize => ?_
        obtain rfl := Option.some.inj hsize
        generalize target.target = held at hremovable hvalid
        cases held with
        | Disk disk => simp [ScsiTarget.removable_media, ScsiTargetSnapshot.removable_media] at hremovable
        | Cdrom drive =>
          obtain rfl := Option.some.inj hremovable
          exact validated_sized (by simpa using hvalid)

theorem insert_medium (h : bus.Ready capacity) (target_id lun : Nat) (medium : μ) :
    (bus.accepted (bus.insert_medium target_id lun medium)).Ready capacity := by
  unfold ScsiBus.insert_medium
  split
  · exact h
  · split
    · exact h
    case h_2 attachment hattachment =>
      split
      · exact h
      · exact h
      · split
        · exact h
        · split
          · exact h
          case h_2 removable hremovable =>
            dsimp only
            split
            · exact h
            case isFalse hvalid =>
              refine h.attach fun size hsize => ?_
              obtain rfl := Option.some.inj hsize
              generalize attachment.target = held at hremovable hvalid
              cases held with
              | Disk disk => simp [ScsiTarget.removable_media, ScsiTargetSnapshot.removable_media] at hremovable
              | Cdrom drive =>
                obtain rfl := Option.some.inj hremovable
                exact validated_sized (by simpa using hvalid)

theorem eject_medium (h : bus.Ready capacity) (target_id lun : Nat) (force : Bool) :
    (bus.accepted ((bus.eject_medium target_id lun force).map (·.2))).Ready capacity := by
  unfold ScsiBus.eject_medium
  split
  · exact h
  · split
    · exact h
    · split
      · exact h
      · exact h
      · split
        · exact h
        · split
          · exact h
          · split
            · exact h
            · exact h.attach fun size hsize => by simp [ScsiBacking.medium_size_bytes] at hsize

end Ready

/-! ## Runs -/

/-- What every operation can rely on: drives and bus agree, storage transfers fit
their media, and transactions can go on. -/
structure Guarded (capacity : Nat) (bus : ScsiBus ScsiTargetSnapshot μ) : Prop where
  consistent : bus.SlotsConsistent
  fits : bus.StorageFits
  ready : bus.Ready capacity

theorem restore_snapshot_ready (h : bus.Ready capacity) {snapshot : ScsiBusSnapshot}
    (hrestorable : bus.Restorable capacity snapshot) : (bus.restore_snapshot snapshot).2.Ready capacity := by
  cases haccepts : bus.accepts_snapshot snapshot with
  | false =>
    rw [restore_snapshot_refused haccepts]
    exact h
  | true =>
    obtain ⟨states, hstates⟩ := accepts_of_accepts_snapshot haccepts
    rw [restore_snapshot_accepted hstates]
    exact hstates.restored_ready h.sized (hrestorable haccepts)

variable [LawfulStorageMedium μ]

theorem perform_ready (h : bus.Ready capacity) (hcapacity : 256 ≤ capacity) {operation : Operation μ}
    (hadmissible : operation.Admissible capacity bus) : (bus.perform operation).Ready capacity := by
  cases operation with
  | Attach target_id lun target storage => exact h.attach_target target_id lun target storage
  | AttachRemovableEmpty target_id lun target =>
    exact h.attach_backing target_id lun target.target fun size hsize => by simp [ScsiBacking.medium_size_bytes] at hsize
  | InsertMedium target_id lun medium => exact h.insert_medium target_id lun medium
  | EjectMedium target_id lun force => exact h.eject_medium target_id lun force
  | Select target_id attention => exact step_ready h hcapacity (.Select target_id attention)
  | WriteInformation value last => exact step_ready h hcapacity (.WriteInformation value last)
  | ReadInformation => exact step_ready h hcapacity .ReadInformation
  | AcknowledgeMessage attention => exact step_ready h hcapacity (.AcknowledgeMessage attention)
  | AssertAttention => exact step_ready h hcapacity .AssertAttention
  | StartCommand target_id lun cdb => exact start_command_ready h hcapacity target_id lun cdb
  | TransferDataIn maximum_bytes accept => exact transfer_data_in_ready h maximum_bytes _ ()
  | TransferDataOut maximum_bytes provided => exact transfer_data_out_ready h maximum_bytes _ ()
  | ObserveTransferResult result => exact h.observe result
  | CancelTransaction => exact step_ready h hcapacity .CancelTransaction
  | RemovableMediaSlots => exact h
  | RestoreSnapshot snapshot => exact restore_snapshot_ready h hadmissible

omit [LawfulStorageMedium μ] in
/-- Apart from transfers whose result nobody observes yet, the operations are those of
host and guest. -/
theorem perform_cases {property : ScsiBus ScsiTargetSnapshot μ → Prop} (hsame : property bus)
    (hevent : ∀ event : BusEvent μ, property (bus.apply event))
    (hin : ∀ (maximum_bytes : Nat) (accept : List U8 → Bool),
      property (bus.transfer_data_in maximum_bytes (fun bytes (state : Unit) => (accept bytes, state)) ()).2.1)
    (hout : ∀ (maximum_bytes : Nat) (provided : Option (List U8)),
      property (bus.transfer_data_out maximum_bytes (fun _ (state : Unit) => (provided, state)) ()).2.1)
    (hobserve : ∀ result, property (bus.observe_transfer_result result)) (operation : Operation μ) :
    property (bus.perform operation) := by
  cases operation with
  | Attach target_id lun target storage => exact hevent (.Attach target_id lun target.toAttachableTarget storage)
  | AttachRemovableEmpty target_id lun target =>
    exact hevent (.AttachRemovableEmpty target_id lun target.toAttachableTarget)
  | InsertMedium target_id lun medium => exact hevent (.InsertMedium target_id lun medium)
  | EjectMedium target_id lun force => exact hevent (.EjectMedium target_id lun force)
  | Select target_id attention => exact hevent (.Initiator (.Select target_id attention))
  | WriteInformation value last => exact hevent (.Initiator (.WriteInformation value last))
  | ReadInformation => exact hevent (.Initiator .ReadInformation)
  | AcknowledgeMessage attention => exact hevent (.Initiator (.AcknowledgeMessage attention))
  | AssertAttention => exact hevent (.Initiator .AssertAttention)
  | StartCommand target_id lun cdb => exact hevent (.StartCommand target_id lun cdb)
  | TransferDataIn maximum_bytes accept => exact hin maximum_bytes accept
  | TransferDataOut maximum_bytes provided => exact hout maximum_bytes provided
  | ObserveTransferResult result => exact hobserve result
  | CancelTransaction => exact hevent (.Initiator .CancelTransaction)
  | RemovableMediaSlots => exact hsame
  | RestoreSnapshot snapshot => exact hevent (.RestoreSnapshot snapshot)

theorem perform_consistent (h : bus.SlotsConsistent) (operation : Operation μ) :
    (bus.perform operation).SlotsConsistent := by
  refine perform_cases h (apply_consistent h) (fun maximum_bytes accept => ?_) (fun maximum_bytes provided => ?_)
    (fun result => ?_) operation
  · exact h.of_changes (transfer_data_in_keeps maximum_bytes _ ()).changes
  · exact h.of_changes (transfer_data_out_keeps maximum_bytes _ ()).changes
  · cases result <;> exact h

theorem perform_fits (h : bus.StorageFits) (operation : Operation μ) : (bus.perform operation).StorageFits := by
  refine perform_cases h (apply_fits h) (fun maximum_bytes accept => ?_) (fun maximum_bytes provided => ?_)
    (fun result => ?_) operation
  · exact transfer_data_in_fits h maximum_bytes _ ()
  · exact transfer_data_out_fits h maximum_bytes _ ()
  · cases result <;> exact h.of_targets rfl rfl

theorem perform_guarded (h : bus.Guarded capacity) (hcapacity : 256 ≤ capacity) {operation : Operation μ}
    (hadmissible : operation.Admissible capacity bus) : (bus.perform operation).Guarded capacity :=
  ⟨perform_consistent h.consistent operation, perform_fits h.fits operation, perform_ready h.ready hcapacity hadmissible⟩

theorem perform_all_guarded (h : bus.Guarded capacity) (hcapacity : 256 ≤ capacity) {operations : List (Operation μ)}
    (hadmissible : bus.Admissible capacity operations) : (bus.perform_all operations).Guarded capacity := by
  induction operations generalizing bus with
  | nil => exact h
  | cons operation operations ih => exact ih (perform_guarded h hcapacity hadmissible.1) hadmissible.2

omit [LawfulStorageMedium μ] in
theorem new_guarded : (ScsiBus.new : ScsiBus ScsiTargetSnapshot μ).Guarded capacity := by
  refine ⟨new_consistent, .of_idle rfl, fun slot size hsize => ?_, fun _ hactive => ?_, fun _ hactive => ?_,
    fun _ hconnection => ?_⟩
  · simp [medium_size, attachment_new] at hsize
  · simp [ScsiBus.new] at hactive
  · simp [ScsiBus.new] at hactive
  · simp [ScsiBus.new] at hconnection

omit [LawfulStorageMedium μ] in
/-- A payload an accepted snapshot has is counted with 64 bits, so that every run
is admissible for them. -/
theorem admissible_u64 (bus : ScsiBus ScsiTargetSnapshot μ) (operations : List (Operation μ)) :
    bus.Admissible U64_MAX operations := by
  induction operations generalizing bus with
  | nil => trivial
  | cons operation operations ih =>
    refine ⟨?_, ih _⟩
    cases operation with
    | RestoreSnapshot snapshot =>
      intro haccepts
      obtain ⟨states, hstates⟩ := accepts_of_accepts_snapshot haccepts
      exact hstates.payload_length_le
    | _ => trivial

/-- Whatever was restored before, drives and bus agree and media have the capacities
of a target. -/
theorem reached_guarded (operations : List (Operation μ)) :
    (ScsiBus.new.perform_all operations : ScsiBus ScsiTargetSnapshot μ).Guarded U64_MAX :=
  perform_all_guarded new_guarded (by decide) (admissible_u64 _ operations)

end ScsiBus

end se_device.scsi
