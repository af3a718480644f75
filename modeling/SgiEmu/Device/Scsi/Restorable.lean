import SgiEmu.Device.Scsi.Guarded

open se_core se_device.scsi_disk se_device.scsi_cdrom

namespace se_device.scsi

namespace ScsiBus

variable {μ : Type} [StorageMedium μ] {bus : ScsiBus ScsiTargetSnapshot μ} {capacity : Nat}

/-! ## Commands do not panic -/

/-- A disk on the bus has blocks, and its capacity can be computed. -/
theorem disk_sized (hconsistent : bus.SlotsConsistent) (hsized : bus.Sized) {slot : Nat}
    {attachment : TargetAttachment ScsiTargetSnapshot μ} (hattachment : bus.attachment slot = some attachment)
    {disk : ScsiDisk} (hdisk : attachment.target = .Disk disk) :
    0 < disk.block_count ∧ disk.storage_size_bytes ≤ MEDIUM_BYTES_MAX := by
  have hheld := hconsistent slot attachment hattachment
  obtain ⟨target, backing⟩ := attachment
  obtain rfl : target = .Disk disk := hdisk
  obtain ⟨medium, hbacking, hsize⟩ := hheld
  obtain rfl : backing = .Fixed medium := hbacking
  have hcapacity := hsized slot disk.storage_size_bytes (by
    simp only [medium_size, hattachment, Option.bind_some, ScsiBacking.medium_size_bytes, hsize])
  refine ⟨Nat.pos_of_ne_zero fun hzero => ?_, hcapacity.2⟩
  simp [ScsiDisk.storage_size_bytes, hzero] at hcapacity

theorem execute_panics_eq_false (hconsistent : bus.SlotsConsistent) (hsized : bus.Sized) {slot : Nat}
    {attachment : TargetAttachment ScsiTargetSnapshot μ} (hattachment : bus.attachment slot = some attachment)
    (cdb : List U8) : attachment.target.execute_panics cdb = false := by
  cases htarget : attachment.target with
  | Disk disk => exact ScsiDisk.execute_panics_eq_false (disk_sized hconsistent hsized hattachment htarget).1 cdb
  | Cdrom drive =>
    have hheld := hconsistent slot attachment hattachment
    simp only [TargetAttachment.Consistent, htarget] at hheld
    exact ScsiCdrom.execute_panics_eq_false hheld.2 cdb

omit [StorageMedium μ] in
theorem complete_target_data_out_panics_eq_false {slot : Nat} (hslot : slot < TARGET_SLOT_COUNT) (cdb data : List U8) :
    bus.complete_target_data_out_panics slot cdb data = false := by
  simp only [complete_target_data_out_panics, decide_eq_false (Nat.not_le.mpr hslot),
    ScsiTargetSnapshot.complete_data_out_panics_eq_false, Bool.false_or, Option.any_false]

theorem start_command_panics_eq_false (hconsistent : bus.SlotsConsistent) (hsized : bus.Sized) (target_id lun : Nat)
    (cdb : List U8) : bus.start_command_panics target_id lun cdb = false := by
  unfold start_command_panics
  split
  · rfl
  case h_2 slot hslot =>
    have hbound := target_slot_lt hslot
    split
    · rfl
    · rw [decide_eq_false (Nat.not_le.mpr hbound), Bool.false_or]
      split
      · rfl
      case h_2 attachment hattachment =>
        dsimp only
        rw [execute_panics_eq_false hconsistent hsized hattachment, complete_target_data_out_panics_eq_false hbound,
          Bool.and_false, Bool.or_false]

omit [StorageMedium μ] in
theorem start_missing_lun_response_panics_eq_false {target_id : Nat} (hpresent : bus.target_present target_id = true)
    {cdb : List U8} (hcdb : 6 ≤ cdb.length) : bus.start_missing_lun_response_panics target_id cdb = false := by
  have hread {index : Nat} (hindex : index < 6) : reads_past cdb [index] = false :=
    reads_past_eq_false fun other hother => by
      simp only [List.mem_singleton] at hother
      omega
  simp only [start_missing_lun_response_panics, hread (by decide : 0 < 6), hread (by decide : 4 < 6), hpresent,
    Bool.not_true, Bool.and_false, Bool.or_self, Option.any_false]

theorem execute_connected_command_panics_eq_false (h : bus.Guarded capacity) (hcapacity : 256 ≤ capacity)
    {old connection : ScsiConnection} (hold : bus.connection = some old)
    (htarget : connection.target_id = old.target_id) (hcdb : 6 ≤ connection.cdb.length) :
    bus.execute_connected_command_panics connection = false := by
  have hread : reads_past connection.cdb [0, 1] = false := reads_past_eq_false fun index hindex => by
    simp only [List.mem_cons, List.not_mem_nil, or_false] at hindex
    omega
  unfold execute_connected_command_panics
  rw [hread, Bool.false_or]
  dsimp only
  generalize haddressed : (if (!connection.identified && cdb_byte connection.cdb 0 >>> 5 == 0) = true then
    { connection with lun := (cdb_byte connection.cdb 1 >>> 5).toNat } else connection) = addressed
  have hsame : addressed.target_id = old.target_id ∧ addressed.cdb = connection.cdb := by
    rw [← haddressed]
    split
    · exact ⟨htarget, rfl⟩
    · exact ⟨htarget, rfl⟩
  have hconnected := h.ready.set_connection hold hsame.1
  have hquiet : (bus.set_connection addressed).start_command_panics addressed.target_id addressed.lun addressed.cdb = false :=
    start_command_panics_eq_false h.consistent hconnected.sized _ _ _
  have hready := start_command_ready hconnected hcapacity addressed.target_id addressed.lun addressed.cdb
  have hretains := @start_command_retains μ _ (bus.set_connection addressed) addressed.target_id addressed.lun
    addressed.cdb
  rw [hquiet, Bool.false_or]
  generalize (bus.set_connection addressed).start_command addressed.target_id addressed.lun addressed.cdb = result at *
  obtain ⟨result, next⟩ := result
  have hlinked : next.connection = some addressed := hretains.connection
  cases result with
  | error error => rfl
  | ok start =>
    cases start with
    | Complete status => rfl
    | DataIn byte_count => simp [hlinked]
    | DataOut byte_count => simp [hlinked]
    | SelectionTimeout =>
      have hpresent := hready.present addressed hlinked
      have hmissing := start_missing_lun_response_panics_eq_false hpresent (hsame.2 ▸ hcdb)
      simp only [hlinked, Option.isNone_some, hmissing, Bool.or_self]

/-! ## Transfers do not panic -/

namespace Guarded

/-- A chunk of an active storage transfer. -/
theorem storage_chunk (h : bus.Guarded capacity) {transaction : ScsiTransaction} {offset remaining : Nat}
    (hactive : bus.active_transaction = some transaction)
    (hrange : transaction.transfer.storage_range = some (offset, remaining)) (maximum_bytes : Nat) :
    storage_chunk_panics transaction.target_slot offset (min maximum_bytes remaining) = false ∧
      bus.Installed { slot := transaction.target_slot, offset, length := min maximum_bytes remaining } := by
  obtain ⟨_, hmax, size, hsize, hfits⟩ := h.fits transaction offset remaining hactive hrange
  obtain ⟨held, hheld⟩ := Option.isSome_iff_exists.mp (h.ready.attached transaction hactive)
  have hbound := slot_lt_of_attachment hheld
  have hcapacity := (h.ready.sized _ size hsize).2
  rw [MEDIUM_BYTES_MAX_eq] at hcapacity
  have hvector : ¬ ISIZE_MAX < min maximum_bytes remaining := by
    unfold ISIZE_MAX
    omega
  have hend : ¬ U64_MAX < offset + min maximum_bytes remaining := by omega
  refine ⟨?_, size, hsize, by dsimp only; omega⟩
  simp only [storage_chunk_panics, decide_eq_false hvector, decide_eq_false hend,
    decide_eq_false (Nat.not_le.mpr hbound), Bool.or_self]

theorem transfer_data_in_panics (h : bus.Guarded capacity) (maximum_bytes : Nat) :
    bus.transfer_data_in_panics maximum_bytes = false := by
  unfold ScsiBus.transfer_data_in_panics
  split
  case h_1 slot data next_offset final_status hactive =>
    have hleft : next_offset < data.length := h.ready.holds _ hactive
    rw [decide_eq_false (by omega), Bool.and_false]
  case h_2 slot next_offset remaining hactive =>
    have hchunk := (h.storage_chunk hactive rfl maximum_bytes).1
    rw [hchunk, Bool.and_false]
  case h_3 => rw [Bool.and_false]

theorem transfer_data_out_panics (h : bus.Guarded ISIZE_MAX) (maximum_bytes : Nat) (provided : Option (List U8)) :
    bus.transfer_data_out_panics maximum_bytes provided = false := by
  unfold ScsiBus.transfer_data_out_panics
  split
  case h_1 slot next_offset remaining hactive =>
    have hchunk := (h.storage_chunk hactive rfl maximum_bytes).1
    rw [hchunk, Bool.and_false]
  case h_2 slot cdb data remaining hactive =>
    obtain ⟨held, hheld⟩ := Option.isSome_iff_exists.mp (h.ready.attached _ hactive)
    have hquiet (bytes : List U8) : bus.complete_target_data_out_panics slot cdb bytes = false :=
      complete_target_data_out_panics_eq_false (slot_lt_of_attachment hheld) cdb bytes
    obtain ⟨_, hpayload⟩ := h.ready.holds _ hactive
    have hchunk : ¬ ISIZE_MAX < min maximum_bytes remaining := by omega
    have hwhole : ¬ ISIZE_MAX < data.length + min maximum_bytes remaining := by omega
    simp only [hquiet, decide_eq_false hchunk, decide_eq_false hwhole, Bool.or_self, Option.any_false, Bool.and_false]
  case h_3 => rw [Bool.and_false]

/-- There is always a byte left to move. -/
theorem chunk_is_empty (h : bus.Guarded capacity) : bus.chunk_is_empty = false := by
  unfold ScsiBus.chunk_is_empty
  cases hactive : bus.active_transaction with
  | none => rfl
  | some transaction =>
    have hholds := h.ready.holds transaction hactive
    have hfits := h.fits transaction
    rw [Option.any_some, beq_eq_false_iff_ne]
    cases htransfer : transaction.transfer with
    | ImmediateDataIn data next_offset final_status =>
      simp only [htransfer, ScsiTransfer.Holds] at hholds
      simp only [ScsiTransfer.remaining]
      omega
    | StorageDataIn next_offset remaining =>
      exact Nat.ne_of_gt (hfits next_offset remaining hactive (by rw [htransfer]; rfl)).1
    | StorageDataOut next_offset remaining =>
      exact Nat.ne_of_gt (hfits next_offset remaining hactive (by rw [htransfer]; rfl)).1
    | TargetDataOut cdb data remaining =>
      simp only [htransfer, ScsiTransfer.Holds] at hholds
      exact Nat.ne_of_gt hholds.1

theorem write_information_panics (h : bus.Guarded ISIZE_MAX) (value : U8) :
    bus.write_information_panics value = false := by
  unfold ScsiBus.write_information_panics
  split
  · rfl
  case h_2 connection hconnection =>
    split
    · -- a command is carried out once its CDB has the length its opcode asks for
      dsimp only
      by_cases hlength : (connection.cdb ++ [value]).length = cdb_length (cdb_byte (connection.cdb ++ [value]) 0)
      · have hlong := cdb_length_pos (cdb_byte (connection.cdb ++ [value]) 0)
        have hquiet := @execute_connected_command_panics_eq_false μ _ bus _ h (by decide) connection
          { connection with cdb := connection.cdb ++ [value] } hconnection rfl (by dsimp only; omega)
        rw [hquiet, Bool.and_false, Bool.and_false]
      · rw [beq_eq_false_iff_ne.mpr hlength, Bool.false_and, Bool.and_false]
    · rw [h.transfer_data_out_panics, h.chunk_is_empty, Bool.or_false]
    · rfl

theorem read_information_panics (h : bus.Guarded capacity) : bus.read_information_panics = false := by
  rw [ScsiBus.read_information_panics, h.transfer_data_in_panics, h.chunk_is_empty, Bool.or_false, Bool.and_false]

/-! ## Attachments and snapshots do not panic -/

theorem removable_media_slots_panics (h : bus.Guarded capacity) : bus.removable_media_slots_panics = false := by
  simp only [ScsiBus.removable_media_slots_panics, List.any_eq_false, Bool.not_eq_true]
  intro slot _
  cases hattachment : bus.attachment slot with
  | none => rfl
  | some attachment =>
    have hheld := h.consistent slot attachment hattachment
    obtain ⟨target, backing⟩ := attachment
    cases target with
    | Disk disk =>
      obtain ⟨medium, hbacking, _⟩ := hheld
      obtain rfl : backing = .Fixed medium := hbacking
      rfl
    | Cdrom drive =>
      obtain ⟨⟨medium, hbacking, _⟩, _⟩ := hheld
      obtain rfl : backing = .Removable medium := hbacking
      rfl

theorem restore_snapshot_panics (h : bus.Guarded capacity) (snapshot : ScsiBusSnapshot) :
    bus.restore_snapshot_panics snapshot = false := by
  unfold ScsiBus.restore_snapshot_panics
  rw [Option.any_eq_false]
  intro states _
  simp only [Bool.not_eq_true, List.any_eq_false]
  intro slot _
  split
  case h_1 attachment state hattachment hstate =>
    cases htarget : attachment.target with
    | Cdrom drive =>
      cases state with
      | Disk disk => rfl
      | Cdrom state => rw [ScsiTargetSnapshot.backing_requirement_panics, Bool.and_false]
    | Disk disk =>
      cases state with
      | Cdrom drive => rfl
      | Disk state =>
        have hsized := (disk_sized h.consistent h.ready.sized hattachment htarget).2
        rw [MEDIUM_BYTES_MAX_eq, ScsiDisk.storage_size_bytes] at hsized
        simp only [ScsiTargetSnapshot.accepts_snapshot, ScsiTargetSnapshot.backing_requirement_panics,
          ScsiDisk.storage_size_bytes_panics, Bool.and_eq_false_imp, beq_iff_eq, decide_eq_false_iff_not, Nat.not_lt]
        intro hsame
        rw [hsame]
        exact Nat.le_trans hsized (by decide)
  case h_2 => rfl

/-- No operation panics while payloads fit a vector. -/
theorem panics (h : bus.Guarded ISIZE_MAX) (operation : Operation μ) : bus.panics operation = false := by
  cases operation with
  | Attach target_id lun target storage =>
    cases htarget : target.target with
    | Cdrom drive => simp only [ScsiBus.panics, htarget, ScsiTargetSnapshot.backing_requirement_panics]
    | Disk disk =>
      have hsized := (target.sized disk htarget).2
      have hcapacity : ¬ U64_MAX < disk.block_count * BLOCK_BYTES := by
        unfold U64_MAX BLOCK_BYTES
        omega
      simp only [ScsiBus.panics, htarget, ScsiTargetSnapshot.backing_requirement_panics,
        ScsiDisk.storage_size_bytes_panics, decide_eq_false hcapacity]
  | WriteInformation value last => exact h.write_information_panics value
  | ReadInformation => exact h.read_information_panics
  | StartCommand target_id lun cdb => exact start_command_panics_eq_false h.consistent h.ready.sized target_id lun cdb
  | TransferDataIn maximum_bytes accept => exact h.transfer_data_in_panics maximum_bytes
  | TransferDataOut maximum_bytes provided => exact h.transfer_data_out_panics maximum_bytes provided
  | RemovableMediaSlots => exact h.removable_media_slots_panics
  | RestoreSnapshot snapshot => exact h.restore_snapshot_panics snapshot
  | _ => rfl

/-- Every access is one of bytes that are there. -/
theorem installed (h : bus.Guarded capacity) (operation : Operation μ) {access : StorageAccess}
    (haccess : bus.access operation = some access) : bus.Installed access := by
  have hin (maximum_bytes : Nat) (haccess : bus.transfer_data_in_access maximum_bytes = some access) :
      bus.Installed access := by
    unfold transfer_data_in_access at haccess
    split at haccess
    case h_1 hactive =>
      obtain rfl := Option.some.inj haccess
      exact (h.storage_chunk hactive rfl maximum_bytes).2
    case h_2 => simp at haccess
  have hout (maximum_bytes : Nat) (haccess : bus.transfer_data_out_access maximum_bytes = some access) :
      bus.Installed access := by
    unfold transfer_data_out_access at haccess
    split at haccess
    case h_1 hactive =>
      obtain rfl := Option.some.inj haccess
      exact (h.storage_chunk hactive rfl maximum_bytes).2
    case h_2 => simp at haccess
  cases operation with
  | WriteInformation value last =>
    simp only [ScsiBus.access, Option.ite_none_right_eq_some] at haccess
    exact hout 1 haccess.2
  | ReadInformation =>
    simp only [ScsiBus.access, Option.ite_none_right_eq_some] at haccess
    exact hin 1 haccess.2
  | TransferDataIn maximum_bytes accept => exact hin maximum_bytes haccess
  | TransferDataOut maximum_bytes provided => exact hout maximum_bytes haccess
  | _ => simp [ScsiBus.access] at haccess

end Guarded

/-! ## Restoring any snapshot -/

/-- A snapshot is refused without a change, or restored so that the bus gives it back
and every later operation stays on the media and does not panic. -/
structure RestoresSoundly (bus : ScsiBus ScsiTargetSnapshot μ) (snapshot : ScsiBusSnapshot) : Prop where
  returns : bus.restore_snapshot_panics snapshot = false
  refused : (bus.restore_snapshot snapshot).1 = false → (bus.restore_snapshot snapshot).2 = bus
  captured : (bus.restore_snapshot snapshot).1 = true →
    let restored := (bus.restore_snapshot snapshot).2
    restored.snapshot.targets.Perm snapshot.targets ∧
      restored.snapshot.active_transaction = snapshot.active_transaction ∧
      restored.snapshot.connection = snapshot.connection
  operates : (bus.restore_snapshot snapshot).1 = true →
    ∀ operations, (bus.restore_snapshot snapshot).2.Admissible ISIZE_MAX operations → ∀ operation : Operation μ,
      let reached := (bus.restore_snapshot snapshot).2.perform_all operations
      reached.panics operation = false ∧ ∀ access, reached.access operation = some access → reached.Installed access

/-- One request for the rest of a payload too long for a vector panics. -/
theorem long_payload_panics {snapshot : ScsiBusSnapshot} (haccepts : bus.accepts_snapshot snapshot = true)
    (hlong : ISIZE_MAX < snapshot.payload_length) :
    (bus.restore_snapshot snapshot).2.panics (.TransferDataOut U64_MAX (some [])) = true := by
  obtain ⟨states, hstates⟩ := accepts_of_accepts_snapshot haccepts
  have hbound := hstates.payload_length_le
  rw [restore_snapshot_accepted hstates]
  have hactive : (bus.restored snapshot states).active_transaction = snapshot.active_transaction := rfl
  simp only [panics, transfer_data_out_panics, hactive]
  unfold ScsiBusSnapshot.payload_length at hlong hbound
  split at hlong
  case h_2 => simp at hlong
  case h_1 slot cdb data remaining hsome =>
    simp only [hsome] at hbound ⊢
    have hwhole : min U64_MAX remaining = remaining := Nat.min_eq_right (by omega)
    simp only [hwhole, Option.any_some, decide_eq_true hlong, Bool.true_or, Bool.or_true, Bool.and_true]
    decide

variable [LawfulStorageMedium μ]

/-- On a bus in any state, exactly the snapshots that are refused or whose payload
fits a vector are restored soundly. -/
theorem restore_snapshot_sound (history : List (Operation μ)) (snapshot : ScsiBusSnapshot) :
    let bus : ScsiBus ScsiTargetSnapshot μ := ScsiBus.new.perform_all history
    bus.RestoresSoundly snapshot ↔ bus.Restorable ISIZE_MAX snapshot := by
  intro bus
  have hguarded : bus.Guarded U64_MAX := reached_guarded history
  constructor
  · intro h haccepts
    by_contra hlong
    have hrestored : (bus.restore_snapshot snapshot).1 = true := restore_snapshot_eq_accepts.trans haccepts
    have hquiet := (h.operates hrestored [] trivial (.TransferDataOut U64_MAX (some []))).1
    have hpanics := long_payload_panics haccepts (Nat.not_le.mp hlong)
    exact Bool.false_ne_true (hquiet.symm.trans hpanics)
  · intro hrestorable
    refine ⟨hguarded.restore_snapshot_panics snapshot, fun hrefused => ?_, fun haccepted => ?_, fun haccepted => ?_⟩
    · rw [restore_snapshot_eq_accepts] at hrefused
      rw [restore_snapshot_refused hrefused]
    · rw [restore_snapshot_eq_accepts] at haccepted
      obtain ⟨states, hstates⟩ := accepts_of_accepts_snapshot haccepted
      rw [restore_snapshot_accepted hstates]
      exact ⟨hstates.snapshot_targets, rfl, rfl⟩
    · rw [restore_snapshot_eq_accepts] at haccepted
      obtain ⟨states, hstates⟩ := accepts_of_accepts_snapshot haccepted
      have hready := hstates.restored_ready hguarded.ready.sized (hrestorable haccepted)
      have hconsistent := restore_snapshot_consistent hguarded.consistent snapshot
      have hfits := restore_snapshot_fits hguarded.fits snapshot
      rw [restore_snapshot_accepted hstates] at hconsistent hfits ⊢
      have hrestored : (bus.restored snapshot states).Guarded ISIZE_MAX := ⟨hconsistent, hfits, hready⟩
      intro operations hadmissible operation
      have hreached := perform_all_guarded hrestored (by decide) hadmissible
      exact ⟨hreached.panics operation, fun access haccess => hreached.installed operation haccess⟩

/-- A bus with one empty drive. -/
def empty_drive : ScsiBus ScsiTargetSnapshot MemoryStorage :=
  ScsiBus.new.perform_all [.AttachRemovableEmpty 0 0 .cdrom_empty]

/-- A MODE SELECT that still receives 2^63 bytes. -/
def long_mode_select : ScsiBusSnapshot :=
  { targets := [(0, 0, .Cdrom .new_empty)]
    active_transaction := some ⟨0, .TargetDataOut [0x15, 0, 0, 0, 12, 0] [] 0x8000000000000000⟩
    connection := none }

theorem long_mode_select_unsound : ¬ empty_drive.RestoresSoundly long_mode_select := by
  intro h
  have haccepts : empty_drive.accepts_snapshot long_mode_select = true := by decide +kernel
  have hrestored : (empty_drive.restore_snapshot long_mode_select).1 = true := by decide +kernel
  have hquiet := (h.operates hrestored [] trivial (.TransferDataOut U64_MAX (some []))).1
  exact Bool.false_ne_true (hquiet.symm.trans (long_payload_panics haccepts (by decide)))

end ScsiBus

end se_device.scsi
