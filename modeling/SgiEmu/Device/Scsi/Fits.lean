import SgiEmu.Device.Scsi.Transfer

open se_core se_device.scsi_disk se_device.scsi_cdrom

namespace se_device.scsi

/-- The bytes of the medium a storage transfer has still to move. -/
def ScsiTransfer.storage_range : ScsiTransfer → Option (Nat × Nat)
  | .StorageDataIn next_offset remaining => some (next_offset, remaining)
  | .StorageDataOut next_offset remaining => some (next_offset, remaining)
  | _ => none

namespace ScsiBus

variable {μ : Type} [StorageMedium μ] {bus next : ScsiBus ScsiTargetSnapshot μ}

/-- The capacity of the medium at a slot. -/
def medium_size (bus : ScsiBus ScsiTargetSnapshot μ) (slot : Nat) : Option Nat :=
  (bus.attachment slot).bind fun attachment => attachment.backing.medium_size_bytes

/-- The rest of a storage transfer is not empty, ends below 2^64, and lies on the
medium at its slot. -/
def StorageFits (bus : ScsiBus ScsiTargetSnapshot μ) : Prop :=
  ∀ transaction offset remaining, bus.active_transaction = some transaction →
    transaction.transfer.storage_range = some (offset, remaining) →
    0 < remaining ∧ offset + remaining ≤ U64_MAX ∧
      ∃ size, bus.medium_size transaction.target_slot = some size ∧ offset + remaining ≤ size

namespace StorageFits

theorem of_idle (h : bus.active_transaction = none) : bus.StorageFits := by
  intro transaction offset remaining hactive _
  simp [h] at hactive

theorem of_sizes (h : bus.StorageFits) (hactive : next.active_transaction = bus.active_transaction)
    (hsizes : ∀ slot size, bus.medium_size slot = some size → next.medium_size slot = some size) : next.StorageFits := by
  intro transaction offset remaining hnext hrange
  obtain ⟨hremaining, hmax, size, hsize, hfits⟩ := h transaction offset remaining (hactive ▸ hnext) hrange
  exact ⟨hremaining, hmax, size, hsizes _ size hsize, hfits⟩

theorem of_targets (h : bus.StorageFits) (hactive : next.active_transaction = bus.active_transaction)
    (htargets : next.targets = bus.targets) : next.StorageFits := by
  refine h.of_sizes hactive fun slot size hsize => ?_
  simpa only [medium_size, ScsiBus.attachment, htargets] using hsize

/-- A transfer that touches no storage. -/
theorem of_other {transaction : ScsiTransaction} (hactive : bus.active_transaction = some transaction)
    (hother : transaction.transfer.storage_range = none) : bus.StorageFits := by
  intro active offset remaining hsome hrange
  obtain rfl := Option.some.inj (hactive.symm.trans hsome)
  simp [hother] at hrange

end StorageFits

/-! ## Sizes -/

theorem medium_size_set_attachment {slot : Nat} {attachment held : TargetAttachment ScsiTargetSnapshot μ}
    (hheld : bus.attachment slot = some held)
    (hsize : attachment.backing.medium_size_bytes = held.backing.medium_size_bytes) (other : Nat) :
    (bus.set_attachment slot attachment).medium_size other = bus.medium_size other := by
  simp only [medium_size, attachment_set_attachment]
  split
  case isTrue hsame => simp [← hsame.1, hheld, hsize]
  case isFalse => rfl

/-- Filling a free slot changes the capacity of no other. -/
theorem medium_size_fill {slot : Nat} {attachment : TargetAttachment ScsiTargetSnapshot μ}
    (hfree : bus.attachment slot = none) (other size : Nat) (hsize : bus.medium_size other = some size) :
    (bus.set_attachment slot attachment).medium_size other = some size := by
  have hdistinct : slot ≠ other := by
    rintro rfl
    simp [medium_size, hfree] at hsize
  simp only [medium_size, attachment_set_attachment]
  rw [if_neg (fun hsame => hdistinct hsame.1)]
  exact hsize

theorem medium_size_set_medium {backing : ScsiBacking μ} {old new : μ} (hold : backing.medium = some old)
    (hsize : StorageMedium.size_bytes new = StorageMedium.size_bytes old) :
    (backing.set_medium new).medium_size_bytes = backing.medium_size_bytes := by
  cases backing with
  | Fixed medium =>
    obtain rfl := Option.some.inj hold
    simp [ScsiBacking.set_medium, ScsiBacking.medium_size_bytes, hsize]
  | Removable medium =>
    obtain rfl : medium = some old := hold
    simp [ScsiBacking.set_medium, ScsiBacking.medium_size_bytes, hsize]

/-! ## Transfers -/

theorem complete_target_storage_fits (slot : Nat) (succeeded : Bool) (hidle : bus.active_transaction = none) :
    (bus.complete_target_storage slot succeeded).2.StorageFits := by
  have hcompleted := bus.complete_target_storage_same slot succeeded
  exact .of_idle (hcompleted.2.trans hidle)

theorem complete_target_data_out_fits (slot : Nat) (cdb data : List U8) (hidle : bus.active_transaction = none) :
    (bus.complete_target_data_out slot cdb data).2.StorageFits := by
  have hcompleted := bus.complete_target_data_out_same slot cdb data
  exact .of_idle (hcompleted.2.trans hidle)

/-- What is left once a chunk has moved still fits. -/
theorem StorageFits.advance {slot offset remaining byte_count : Nat} {transfer rest : ScsiTransfer}
    (h : bus.StorageFits) (hactive : bus.active_transaction = some ⟨slot, transfer⟩)
    (hrange : transfer.storage_range = some (offset, remaining))
    (hsizes : ∀ other, next.medium_size other = bus.medium_size other)
    (hrest : rest.storage_range = some (offset + byte_count, remaining - byte_count)) (hmore : remaining - byte_count ≠ 0) :
    (next.set_transfer slot rest).StorageFits := by
  intro transaction offset' remaining' hnext hrange'
  obtain rfl := Option.some.inj hnext
  obtain ⟨_, hmax, size, hsize, hfits⟩ := h _ _ _ hactive hrange
  simp only [hrest, Option.some.injEq, Prod.mk.injEq] at hrange'
  obtain ⟨rfl, rfl⟩ := hrange'
  refine ⟨by omega, by omega, size, ?_, by omega⟩
  exact (hsizes slot).trans hsize

variable [LawfulStorageMedium μ]

theorem transfer_data_in_fits {σ : Type} (h : bus.StorageFits) (maximum_bytes : Nat) (accept : List U8 → σ → Bool × σ)
    (state : σ) : (bus.transfer_data_in maximum_bytes accept state).2.1.StorageFits := by
  unfold transfer_data_in
  split
  · exact h
  · split
    case h_1 slot data next_offset final_status hactive =>
      simp only [transfer_immediate_data_in]
      split
      · exact h
      · split
        · exact .of_idle rfl
        · exact .of_other rfl rfl
    case h_2 slot next_offset remaining hactive =>
      simp only [transfer_storage_data_in]
      split
      · exact complete_target_storage_fits slot false rfl
      case h_2 held hheld =>
        split
        · exact complete_target_storage_fits slot false rfl
        case h_2 medium hmedium =>
          have hsize := LawfulStorageMedium.read_size medium next_offset (min maximum_bytes remaining)
          generalize StorageMedium.read_exact_at medium next_offset (min maximum_bytes remaining) = result at hsize
          obtain ⟨bytes, read⟩ := result
          have hsizes := @medium_size_set_attachment μ _ bus slot
            { held with backing := held.backing.set_medium read } held hheld (medium_size_set_medium hmedium hsize)
          cases bytes with
          | none => exact complete_target_storage_fits slot false rfl
          | some bytes =>
            dsimp only
            split
            · exact h.of_sizes rfl fun other size hother => (hsizes other).trans hother
            · split
              · exact complete_target_storage_fits slot true rfl
              case isFalse hmore => exact h.advance hactive rfl hsizes rfl hmore
    · exact h

theorem transfer_data_out_fits {σ : Type} (h : bus.StorageFits) (maximum_bytes : Nat)
    (provide : Nat → σ → Option (List U8) × σ) (state : σ) :
    (bus.transfer_data_out maximum_bytes provide state).2.1.StorageFits := by
  unfold transfer_data_out
  split
  · exact h
  · split
    case h_1 slot next_offset remaining hactive =>
      simp only [transfer_storage_data_out]
      split
      · exact h
      case h_2 provided last heq =>
        split
        · exact complete_target_storage_fits slot false rfl
        case h_2 held hheld =>
          split
          · exact complete_target_storage_fits slot false rfl
          case h_2 medium hmedium =>
            have hsize := LawfulStorageMedium.write_size medium next_offset
              (fill_buffer (min maximum_bytes remaining) provided)
            generalize StorageMedium.write_all_at medium next_offset (fill_buffer (min maximum_bytes remaining) provided) =
              written at hsize
            have hsizes := @medium_size_set_attachment μ _ bus slot
              { held with backing := held.backing.set_medium written.2 } held hheld
              (medium_size_set_medium hmedium hsize)
            split
            · exact complete_target_storage_fits slot false rfl
            · split
              · exact complete_target_storage_fits slot true rfl
              case isFalse hmore => exact h.advance hactive rfl hsizes rfl hmore
    case h_2 slot cdb data remaining hactive =>
      simp only [transfer_target_data_out]
      split
      · exact h
      · split
        · exact .of_other rfl rfl
        · exact complete_target_data_out_fits slot cdb _ rfl
    · exact h

/-! ## Commands -/

omit [LawfulStorageMedium μ] in
theorem range_is_valid_spec {slot offset byte_count : Nat} (h : bus.range_is_valid slot offset byte_count = true) :
    offset + byte_count ≤ U64_MAX ∧ ∃ size, bus.medium_size slot = some size ∧ offset + byte_count ≤ size := by
  simp only [range_is_valid, checked_add_u64] at h
  split at h
  · simp at h
  case h_2 last hlast =>
    split at hlast
    case isFalse => simp at hlast
    case isTrue hmax =>
      obtain rfl := Option.some.inj hlast
      cases hsize : bus.medium_size slot with
      | none =>
        simp only [medium_size] at hsize
        simp [hsize] at h
      | some size =>
        simp only [medium_size] at hsize
        exact ⟨hmax, size, rfl, by simpa [hsize] using h⟩

omit [LawfulStorageMedium μ] in
theorem start_storage_transfer_fits (slot offset byte_count : Nat) (direction : ScsiDataDirection)
    (hidle : bus.active_transaction = none) :
    (bus.start_storage_transfer slot offset byte_count direction).2.StorageFits := by
  unfold start_storage_transfer
  split
  · exact complete_target_storage_fits slot true hidle
  case isFalse hsome =>
    split
    · exact complete_target_storage_fits slot false hidle
    case isFalse hvalid =>
      have hspec := range_is_valid_spec (by simpa using hvalid)
      have hfits (transfer : ScsiTransfer) (hrange : transfer.storage_range = some (offset, byte_count)) :
          (bus.set_transfer slot transfer).StorageFits := by
        intro transaction offset' remaining' hactive hrange'
        obtain rfl := Option.some.inj hactive
        simp only [hrange, Option.some.injEq, Prod.mk.injEq] at hrange'
        obtain ⟨rfl, rfl⟩ := hrange'
        exact ⟨Nat.pos_of_ne_zero hsome, hspec.1, hspec.2⟩
      cases direction with
      | In => exact hfits _ rfl
      | Out => exact hfits _ rfl

omit [LawfulStorageMedium μ] in
theorem start_plan_fits (slot : Nat) (cdb : List U8) (plan : ScsiCommandPlan) (hidle : bus.active_transaction = none) :
    (bus.start_plan slot cdb plan).2.StorageFits := by
  cases plan with
  | Complete status data_in =>
    simp only [start_plan]
    split
    · exact .of_idle hidle
    · exact .of_other rfl rfl
  | ReadStorage offset byte_count => exact start_storage_transfer_fits slot offset byte_count .In hidle
  | WriteStorage offset byte_count => exact start_storage_transfer_fits slot offset byte_count .Out hidle
  | ReceiveDataOut byte_count =>
    simp only [start_plan]
    split
    · exact complete_target_data_out_fits slot cdb [] hidle
    · exact .of_other rfl rfl
  | EjectMedium =>
    simp only [start_plan, eject_guest_medium]
    split
    · exact .of_idle hidle
    · split
      · exact .of_idle hidle
      · exact .of_idle hidle
      · exact .of_idle hidle

omit [LawfulStorageMedium μ] in
theorem start_command_fits (h : bus.StorageFits) (target_id lun : Nat) (cdb : List U8) :
    (bus.start_command target_id lun cdb).2.StorageFits := by
  unfold start_command
  split
  · exact h
  · split
    · exact h
    case h_2 hfree =>
      have hidle : bus.active_transaction = none := by simpa [active_address] using hfree
      split
      · exact h
      · exact start_plan_fits _ cdb _ hidle

omit [LawfulStorageMedium μ] in
theorem start_missing_lun_response_fits (h : bus.StorageFits) (target_id : Nat) (cdb : List U8) :
    (bus.start_missing_lun_response target_id cdb).StorageFits := by
  unfold start_missing_lun_response
  split
  · exact h.of_targets rfl rfl
  · split
    · exact h.of_targets rfl rfl
    · exact .of_other rfl rfl

omit [LawfulStorageMedium μ] in
theorem execute_connected_command_fits (h : bus.StorageFits) (connection : ScsiConnection) :
    (bus.execute_connected_command connection).2.StorageFits := by
  unfold execute_connected_command
  dsimp only
  generalize (if (!connection.identified && cdb_byte connection.cdb 0 >>> 5 == 0) = true then
    { connection with lun := (cdb_byte connection.cdb 1 >>> 5).toNat } else connection) = addressed
  have hconnected : (bus.set_connection addressed).StorageFits := h.of_targets rfl rfl
  have hstarted := start_command_fits hconnected addressed.target_id addressed.lun addressed.cdb
  generalize (bus.set_connection addressed).start_command addressed.target_id addressed.lun addressed.cdb = result at *
  obtain ⟨result, next⟩ := result
  cases result with
  | error error => exact hstarted
  | ok start =>
    cases start with
    | Complete status => exact hstarted.of_targets rfl rfl
    | DataIn byte_count => exact hstarted.of_targets rfl rfl
    | DataOut byte_count => exact hstarted.of_targets rfl rfl
    | SelectionTimeout => exact start_missing_lun_response_fits hstarted _ _

/-! ## Every operation -/

omit [StorageMedium μ] [LawfulStorageMedium μ] in
theorem observe_active (result : Except ScsiBusError ScsiTransferResult) :
    (observe result bus).active_transaction = bus.active_transaction := by
  cases result with
  | error error => rfl
  | ok result => cases result <;> rfl

theorem step_fits (h : bus.StorageFits) (event : InitiatorEvent) : (bus.step event).StorageFits := by
  cases event with
  | Select target_id attention =>
    simp only [step, select]
    split
    · exact h
    · split
      · exact h
      · exact h.of_targets rfl rfl
  | WriteInformation value last =>
    simp only [step, write_information]
    split
    · exact h
    case h_2 connection hconnection =>
      split
      · split
        · exact h
        · split
          · simp only [finish_message_out]
            split
            · exact .of_idle rfl
            · split
              · exact h.of_targets rfl rfl
              · exact h.of_targets rfl rfl
          · exact h.of_targets rfl rfl
      · split
        · exact h
        · split
          · have hexecuted := execute_connected_command_fits h { connection with cdb := connection.cdb ++ [value] }
            split
            case h_1 heq => rwa [heq] at hexecuted
            case h_2 heq => rwa [heq] at hexecuted
          · exact h.of_targets rfl rfl
      · have htransfer := transfer_data_out_fits h 1 (fun _ (state : Unit) => (some [value], state)) ()
        split
        case h_1 heq => rwa [heq] at htransfer
        case h_2 result next state heq =>
          rw [heq] at htransfer
          exact htransfer.of_targets (observe_active (.ok result)) (observe_targets (.ok result))
      · exact h
  | ReadInformation =>
    simp only [step, read_information]
    split
    · exact h
    · split
      · have htransfer := transfer_data_in_fits h 1 (fun bytes (_ : Option U8) => (true, bytes[0]?)) none
        split
        case h_1 heq => rwa [heq] at htransfer
        case h_2 result next state heq =>
          rw [heq] at htransfer
          exact htransfer.of_targets (observe_active (.ok result)) (observe_targets (.ok result))
      · exact h.of_targets rfl rfl
      · split
        · exact h
        · exact h.of_targets rfl rfl
      · exact h
  | AcknowledgeMessage attention =>
    simp only [step, acknowledge_message]
    split
    · exact h
    · split
      · exact h
      · split
        · exact h.of_targets rfl rfl
        · split
          · split
            · exact h.of_targets rfl rfl
            · exact h.of_targets rfl rfl
          · exact h
  | AssertAttention =>
    simp only [step, assert_attention]
    split
    · exact h
    · split
      · exact h
      · exact h.of_targets rfl rfl
  | TransferDataIn maximum_bytes accept =>
    have htransfer := transfer_data_in_fits h maximum_bytes (fun bytes (state : Unit) => (accept bytes, state)) ()
    exact htransfer.of_targets (observe_active _) (observe_targets _)
  | TransferDataOut maximum_bytes provided =>
    have htransfer := transfer_data_out_fits h maximum_bytes (fun _ (state : Unit) => (provided, state)) ()
    exact htransfer.of_targets (observe_active _) (observe_targets _)
  | CancelTransaction => exact .of_idle rfl

omit [LawfulStorageMedium μ] in
theorem attach_backing_fits (h : bus.StorageFits) (target_id lun : Nat) (target : ScsiTargetSnapshot)
    (backing : ScsiBacking μ) : (bus.accepted (bus.attach_backing target_id lun target backing)).StorageFits := by
  unfold attach_backing
  split
  · exact h
  · split
    · exact h
    case isFalse hfree =>
      have hnone := Option.not_isSome_iff_eq_none.mp hfree
      split
      · exact h.of_sizes rfl (medium_size_fill hnone)
      · split
        · exact h
        · exact h.of_sizes rfl (medium_size_fill hnone)

/-! ### Snapshots -/

/-- The capacity a slot has once a snapshot's state for it is restored. -/
def restored_size (bus : ScsiBus ScsiTargetSnapshot μ) (states : TargetStates) (slot : Nat) : Option Nat :=
  match states.state slot with
  | some (.Cdrom drive) => drive.medium_bytes
  | _ => bus.medium_size slot

omit [LawfulStorageMedium μ] in
theorem restored_attachment_size {slot : Nat} {states : TargetStates} {held : TargetAttachment ScsiTargetSnapshot μ}
    {state : ScsiTargetSnapshot} (hheld : bus.attachment slot = some held) (hstate : states.state slot = some state)
    (haccepts : backing_accepts_snapshot held.backing state = true) :
    (restored_attachment held state).backing.medium_size_bytes = bus.restored_size states slot := by
  obtain ⟨target, backing⟩ := held
  cases state with
  | Disk disk =>
    cases backing with
    | Fixed medium => simp [restored_attachment, restored_size, hstate, medium_size, hheld]
    | Removable medium =>
      simp [backing_accepts_snapshot, ScsiTargetSnapshot.backing_requirement] at haccepts
  | Cdrom drive =>
    cases backing with
    | Fixed medium => simp [backing_accepts_snapshot, ScsiTargetSnapshot.backing_requirement] at haccepts
    | Removable medium =>
      simp only [restored_attachment, restored_size, hstate, ScsiTargetSnapshot.medium_size_bytes]
      simp only [backing_accepts_snapshot, ScsiTargetSnapshot.backing_requirement,
        ScsiTargetSnapshot.medium_size_bytes] at haccepts
      cases hbytes : drive.medium_bytes with
      | none => rfl
      | some medium_bytes =>
        rw [hbytes] at haccepts
        cases medium with
        | none => simp at haccepts
        | some medium => simpa [ScsiBacking.medium_size_bytes] using haccepts

omit [LawfulStorageMedium μ] in
/-- Restoring accepted states leaves the capacities the snapshot was checked with. -/
theorem restore_targets_sizes (states : TargetStates) (slots : List Nat) (hslots : slots.Nodup)
    (haccepts : ∀ slot ∈ slots, bus.slot_accepts states slot = true) (slot : Nat) :
    (restore_targets states slots bus).2.medium_size slot =
      if slot ∈ slots then bus.restored_size states slot else bus.medium_size slot := by
  rw [medium_size, (restore_targets_slots states slots hslots haccepts).2 slot]
  split
  case isTrue hmember =>
    have hslot := haccepts slot hmember
    cases hheld : bus.attachment slot with
    | none =>
      cases hstate : states.state slot with
      | none => simp [restored_slot, restored_size, medium_size, hheld, hstate]
      | some state => simp [slot_accepts, hheld, hstate] at hslot
    | some held =>
      cases hstate : states.state slot with
      | none => simp [slot_accepts, hheld, hstate] at hslot
      | some state =>
        simp only [slot_accepts, hheld, hstate, Bool.and_eq_true] at hslot
        simp only [restored_slot, hheld, hstate, Option.bind_some]
        exact restored_attachment_size hheld hstate hslot.2
  case isFalse => rfl

omit [LawfulStorageMedium μ] in
theorem validate_snapshot_transaction_spec {states : TargetStates} {transaction : ScsiTransaction} {offset remaining : Nat}
    (h : bus.validate_snapshot_transaction states transaction = true)
    (hrange : transaction.transfer.storage_range = some (offset, remaining)) :
    transaction.target_slot < TARGET_SLOT_COUNT ∧ 0 < remaining ∧ offset + remaining ≤ U64_MAX ∧
      ∃ size, bus.restored_size states transaction.target_slot = some size ∧ offset + remaining ≤ size := by
  obtain ⟨slot, transfer⟩ := transaction
  simp only [validate_snapshot_transaction] at h
  split at h
  · simp at h
  case h_2 attachment hattachment =>
    refine ⟨slot_lt_of_attachment hattachment, ?_⟩
    have hfits {size : Option Nat} (hremaining : remaining ≠ 0) (hmax : offset + remaining ≤ U64_MAX)
        (hsize : (size.any fun size => decide (offset + remaining ≤ size)) = true)
        (hrestored : bus.restored_size states slot = size) : 0 < remaining ∧ offset + remaining ≤ U64_MAX ∧
          ∃ size, bus.restored_size states slot = some size ∧ offset + remaining ≤ size := by
      cases size with
      | none => simp at hsize
      | some size => exact ⟨Nat.pos_of_ne_zero hremaining, hmax, size, hrestored, by simpa using hsize⟩
    cases transfer with
    | ImmediateDataIn data next_offset final_status => simp [ScsiTransfer.storage_range] at hrange
    | TargetDataOut cdb data left => simp [ScsiTransfer.storage_range] at hrange
    | StorageDataIn next_offset left =>
      obtain ⟨rfl, rfl⟩ : next_offset = offset ∧ left = remaining := by simpa [ScsiTransfer.storage_range] using hrange
      simp only [Bool.and_eq_true, bne_iff_ne, ne_eq] at h
      obtain ⟨hremaining, h⟩ := h
      split at h
      · simp at h
      case h_2 last hlast =>
        obtain ⟨hmax, rfl⟩ := checked_add_u64_eq_some.mp hlast
        split at h
        case h_1 drive hstate => exact hfits hremaining hmax h (by simp only [restored_size, hstate])
        case h_2 hother =>
          refine hfits hremaining hmax h ?_
          unfold restored_size
          split
          case h_1 drive hstate => exact absurd hstate (hother drive)
          case h_2 => simp [medium_size, hattachment]
    | StorageDataOut next_offset left =>
      obtain ⟨rfl, rfl⟩ : next_offset = offset ∧ left = remaining := by simpa [ScsiTransfer.storage_range] using hrange
      simp only [Bool.and_eq_true, bne_iff_ne, ne_eq] at h
      obtain ⟨hremaining, h⟩ := h
      split at h
      · simp at h
      case h_2 last hlast =>
        obtain ⟨hmax, rfl⟩ := checked_add_u64_eq_some.mp hlast
        split at h
        case h_1 drive hstate => exact hfits hremaining hmax h (by simp only [restored_size, hstate])
        case h_2 hother =>
          refine hfits hremaining hmax h ?_
          unfold restored_size
          split
          case h_1 drive hstate => exact absurd hstate (hother drive)
          case h_2 => simp [medium_size, hattachment]

omit [LawfulStorageMedium μ] in
theorem restore_snapshot_fits (h : bus.StorageFits) (snapshot : ScsiBusSnapshot) :
    (bus.restore_snapshot snapshot).2.StorageFits := by
  unfold restore_snapshot
  split
  · exact h
  case h_2 states hstates =>
    split
    · exact h
    case isFalse hvalidated =>
      simp only [Bool.not_eq_true', Bool.not_eq_false, Bool.and_eq_true, List.all_eq_true] at hvalidated
      have hdone := (restore_targets_slots states (List.range TARGET_SLOT_COUNT) List.nodup_range hvalidated.1.1).1
      have hsizes := restore_targets_sizes states (List.range TARGET_SLOT_COUNT) List.nodup_range hvalidated.1.1
      split
      case h_1 next heq => simp [heq] at hdone
      case h_2 next heq =>
        rw [heq] at hsizes
        intro transaction offset remaining hactive hrange
        have hchecked : bus.validate_snapshot_transaction states transaction = true := by
          have hall := hvalidated.1.2
          rw [show snapshot.active_transaction = some transaction from hactive] at hall
          exact hall
        obtain ⟨hslot, hremaining, hmax, size, hsize, hle⟩ := validate_snapshot_transaction_spec hchecked hrange
        refine ⟨hremaining, hmax, size, ?_, hle⟩
        have hafter := hsizes transaction.target_slot
        rw [if_pos (List.mem_range.mpr hslot), hsize] at hafter
        exact hafter

/-! ### Runs -/

theorem apply_fits (h : bus.StorageFits) (event : BusEvent μ) : (bus.apply event).StorageFits := by
  have hidle (hfree : ¬ bus.busy = true) : bus.active_transaction = none := by
    simp only [busy, Bool.or_eq_true, not_or] at hfree
    exact Option.not_isSome_iff_eq_none.mp hfree.2
  cases event with
  | Attach target_id lun target storage =>
    simp only [apply, attach]
    split
    · split
      · exact h
      · exact attach_backing_fits h target_id lun target.target _
    · split
      · exact h
      · split
        · exact h
        · exact attach_backing_fits h target_id lun target.target _
  | AttachRemovableEmpty target_id lun target => exact attach_backing_fits h target_id lun target.target _
  | InsertMedium target_id lun medium =>
    by_cases hbusy : bus.busy = true
    · rw [busy_refuses hbusy rfl]
      exact h
    · refine .of_idle ?_
      simp only [apply, insert_medium]
      split
      · exact hidle hbusy
      · split
        · exact hidle hbusy
        · split
          · exact hidle hbusy
          · exact hidle hbusy
          · split
            · exact hidle hbusy
            · split
              · exact hidle hbusy
              · split
                · exact hidle hbusy
                · exact hidle hbusy
  | EjectMedium target_id lun force =>
    by_cases hbusy : bus.busy = true
    · rw [busy_refuses hbusy rfl]
      exact h
    · refine .of_idle ?_
      simp only [apply, eject_medium]
      split
      · exact hidle hbusy
      · split
        · exact hidle hbusy
        · split
          · exact hidle hbusy
          · exact hidle hbusy
          · split
            · exact hidle hbusy
            · split
              · exact hidle hbusy
              · split
                · exact hidle hbusy
                · exact hidle hbusy
  | Initiator event => exact step_fits h event
  | StartCommand target_id lun cdb => exact start_command_fits h target_id lun cdb
  | RestoreSnapshot snapshot => exact restore_snapshot_fits h snapshot

theorem apply_all_fits (h : bus.StorageFits) (events : List (BusEvent μ)) : (bus.apply_all events).StorageFits := by
  induction events generalizing bus with
  | nil => exact h
  | cons event events ih => exact ih (apply_fits h event)

end ScsiBus

end se_device.scsi
