import SgiEmu.Device.Scsi.Attach
import SgiEmu.Device.Scsi.Phase

open se_core se_device.scsi_disk se_device.scsi_cdrom

namespace se_device.scsi

/-! ## Drives -/

/-- The logical block size of a drive is one it supports, and divides its medium. -/
structure BlocksFit (drive : ScsiCdrom) : Prop where
  supported : drive.logical_block_bytes ∈ SUPPORTED_LOGICAL_BLOCK_BYTES
  divides : ∀ medium_bytes, drive.medium_bytes = some medium_bytes → medium_bytes % drive.logical_block_bytes = 0

/-- A medium of a valid size is divided by every block size a drive supports. -/
theorem validated_divides {storage_bytes logical_block_bytes : Nat} (h : validate_medium_size storage_bytes = true)
    (hsupported : logical_block_bytes ∈ SUPPORTED_LOGICAL_BLOCK_BYTES) :
    storage_bytes % logical_block_bytes = 0 := by
  have haligned : storage_bytes % 2048 = 0 := by
    simp [validate_medium_size, STORAGE_ALIGNMENT_BYTES] at h
    exact h.1.2
  simp only [SUPPORTED_LOGICAL_BLOCK_BYTES, INITIAL_LOGICAL_BLOCK_BYTES, List.mem_cons, List.not_mem_nil, or_false]
    at hsupported
  rcases hsupported with rfl | rfl
  · omega
  · exact haligned

namespace BlocksFit

variable {drive : ScsiCdrom}

theorem new_empty : BlocksFit .new_empty := ⟨by decide, by simp [ScsiCdrom.new_empty]⟩

theorem try_new {storage_bytes : Nat} (h : ScsiCdrom.try_new storage_bytes = some drive) : BlocksFit drive := by
  unfold ScsiCdrom.try_new at h
  split at h
  case isTrue hvalid =>
    obtain rfl := Option.some.inj h
    refine ⟨new_empty.supported, fun medium_bytes hmedium => ?_⟩
    obtain rfl := Option.some.inj hmedium
    exact validated_divides hvalid new_empty.supported
  case isFalse => simp at h

/-- A medium is inserted only in a size that every block size divides. -/
theorem medium_inserted (h : BlocksFit drive) {size_bytes : Nat} (hvalid : validate_medium_size size_bytes = true)
    (origin : ScsiMediaChangeOrigin) : BlocksFit (drive.medium_inserted size_bytes origin) := by
  refine ⟨h.supported, fun medium_bytes hmedium => ?_⟩
  obtain rfl := Option.some.inj hmedium
  exact validated_divides hvalid h.supported

theorem medium_removed (h : BlocksFit drive) (origin : ScsiMediaChangeOrigin) :
    BlocksFit (drive.medium_removed origin) := ⟨h.supported, fun _ hmedium => by simp [ScsiCdrom.medium_removed] at hmedium⟩

/-- MODE SELECT takes a block size only where it addresses the whole medium. -/
theorem complete_mode_select (h : BlocksFit drive) (cdb data : List U8) :
    BlocksFit (drive.complete_mode_select cdb data).2 ∧
      (drive.complete_mode_select cdb data).2.medium_bytes = drive.medium_bytes := by
  unfold ScsiCdrom.complete_mode_select
  split
  · exact ⟨⟨h.supported, h.divides⟩, rfl⟩
  · dsimp only
    split
    · exact ⟨⟨h.supported, h.divides⟩, rfl⟩
    case isFalse haccepted =>
      simp only [Bool.or_eq_true, Bool.not_eq_true', not_or, Bool.not_eq_false] at haccepted
      refine ⟨⟨List.contains_iff_mem.mp haccepted.1, fun medium_bytes hmedium => ?_⟩, rfl⟩
      have hmedium : drive.medium_bytes = some medium_bytes := hmedium
      rw [hmedium] at haccepted
      simpa using haccepted.2

theorem complete_data_out (h : BlocksFit drive) (cdb data : List U8) :
    BlocksFit (drive.complete_data_out cdb data).2 ∧
      (drive.complete_data_out cdb data).2.medium_bytes = drive.medium_bytes := by
  unfold ScsiCdrom.complete_data_out
  split
  · exact h.complete_mode_select cdb data
  · exact ⟨⟨h.supported, h.divides⟩, rfl⟩

end BlocksFit

/-- What a command does to the slot state of a drive: its medium and block size
stay, and it asks for the medium only where it is there and not locked. -/
structure KeepsSlot (drive : ScsiCdrom) (result : ScsiCommandPlan × ScsiCdrom) : Prop where
  medium : result.2.medium_bytes = drive.medium_bytes
  blocks : result.2.logical_block_bytes = drive.logical_block_bytes
  eject : result.1 = .EjectMedium → drive.removal_prevented = false

namespace KeepsSlot

variable {drive : ScsiCdrom}

theorem complete (status : ScsiStatus) (data_in : List U8) {next : ScsiCdrom} (hmedium : next.medium_bytes = drive.medium_bytes)
    (hblocks : next.logical_block_bytes = drive.logical_block_bytes) :
    KeepsSlot drive (.Complete status data_in, next) :=
  ⟨hmedium, hblocks, fun h => by simp at h⟩

theorem check_condition (sense : SenseData) : KeepsSlot drive (drive.check_condition sense) := complete _ _ rfl rfl

theorem good (data_in : List U8) : KeepsSlot drive (complete_good data_in, drive) := complete _ _ rfl rfl

theorem request_ejection : KeepsSlot drive drive.request_ejection := by
  unfold ScsiCdrom.request_ejection
  split
  · exact good []
  · split
    · exact check_condition _
    case isFalse hallowed => exact ⟨rfl, rfl, fun _ => by simpa using hallowed⟩

theorem read_blocks (lba block_count : Nat) : KeepsSlot drive (drive.read_blocks lba block_count) := by
  unfold ScsiCdrom.read_blocks
  split
  · exact check_condition _
  · split
    · exact good []
    · split
      · exact check_condition _
      · split
        · exact check_condition _
        · split
          · exact ⟨rfl, rfl, fun h => by simp at h⟩
          · exact check_condition _

theorem ite {condition : Prop} [Decidable condition] {a b : ScsiCommandPlan × ScsiCdrom} (ha : KeepsSlot drive a)
    (hb : KeepsSlot drive b) : KeepsSlot drive (if condition then a else b) := by
  split
  · exact ha
  · exact hb

theorem test_unit_ready : KeepsSlot drive
    (match drive.ready_medium_bytes with
      | .ok _ => (complete_good [], drive)
      | .error sense => drive.check_condition sense) := by
  split
  · exact good []
  · exact check_condition _

theorem mode_select (cdb : List U8) : KeepsSlot drive (drive.mode_select cdb) :=
  ite (check_condition _) ⟨rfl, rfl, fun h => by simp at h⟩

theorem start_stop (control : U8) : KeepsSlot drive (drive.start_stop control) := by
  unfold ScsiCdrom.start_stop
  dsimp only
  split
  · exact complete _ _ rfl rfl
  · exact complete _ _ rfl rfl
  · exact request_ejection

theorem prevent_allow (cdb : List U8) : KeepsSlot drive (drive.prevent_allow cdb) :=
  ite (check_condition _) (complete _ _ rfl rfl)

theorem read_capacity : KeepsSlot drive drive.read_capacity := by
  unfold ScsiCdrom.read_capacity
  split
  · exact check_condition _
  · exact ite (check_condition _) (good _)

theorem read_toc (cdb : List U8) : KeepsSlot drive (drive.read_toc cdb) := by
  unfold ScsiCdrom.read_toc
  refine ite (check_condition _) ?_
  split
  · exact check_condition _
  · exact good _

theorem dispatch (opcode : U8) (cdb : List U8) : KeepsSlot drive (drive.dispatch opcode cdb) := by
  have hinvalid : KeepsSlot drive (drive.check_condition .INVALID_CDB_FIELD) := check_condition _
  unfold ScsiCdrom.dispatch
  refine ite (ite hinvalid test_unit_ready) ?_
  refine ite (ite hinvalid (complete _ _ rfl rfl)) ?_
  refine ite (ite hinvalid (read_blocks _ _)) ?_
  refine ite (ite hinvalid (good _)) ?_
  refine ite (ite hinvalid (mode_select cdb)) ?_
  refine ite (ite hinvalid (good _)) ?_
  refine ite (ite hinvalid (start_stop _)) ?_
  refine ite (ite hinvalid (prevent_allow cdb)) ?_
  refine ite (ite hinvalid read_capacity) ?_
  refine ite (ite hinvalid (read_blocks _ _)) ?_
  refine ite (ite hinvalid (check_condition _)) ?_
  refine ite (ite hinvalid (read_toc cdb)) ?_
  refine ite (ite hinvalid request_ejection) ?_
  exact ite (ite hinvalid (good [])) (check_condition _)

/-- Every command of a drive keeps its medium and block size, and asks for an ejection only where
one is allowed. -/
theorem execute (cdb : List U8) : KeepsSlot drive (drive.execute cdb) := by
  unfold ScsiCdrom.execute
  split
  · exact check_condition _
  · split
    · exact dispatch _ _
    · split
      · exact complete _ _ rfl rfl
      · exact dispatch _ _

end KeepsSlot

/-- What a command does to a disk: its capacity stays. -/
def KeepsCapacity (disk : ScsiDisk) (result : ScsiCommandPlan × ScsiDisk) : Prop :=
  result.2.block_count = disk.block_count

namespace KeepsCapacity

variable {disk : ScsiDisk}

theorem ite {condition : Prop} [Decidable condition] {a b : ScsiCommandPlan × ScsiDisk} (ha : KeepsCapacity disk a)
    (hb : KeepsCapacity disk b) : KeepsCapacity disk (if condition then a else b) := by
  split
  · exact ha
  · exact hb

theorem transfer_blocks (plan : Nat → Nat → ScsiCommandPlan) (lba block_count : Nat) :
    KeepsCapacity disk (disk.transfer_blocks plan lba block_count) :=
  ite rfl (ite rfl (ite rfl rfl))

theorem transfer_6 (cdb : List U8) : KeepsCapacity disk (disk.transfer_6 cdb) :=
  ite (transfer_blocks _ _ _) (transfer_blocks _ _ _)

theorem read_defect_data (cdb : List U8) : KeepsCapacity disk (disk.read_defect_data cdb) :=
  ite rfl (ite rfl rfl)

/-- Every command of a disk keeps its capacity. -/
theorem execute (cdb : List U8) : KeepsCapacity disk (disk.execute cdb) := by
  unfold ScsiDisk.execute
  split
  · exact rfl
  · refine ite (ite rfl (ite rfl rfl)) ?_
    refine ite (ite rfl rfl) ?_
    refine ite (ite rfl (transfer_6 _)) ?_
    refine ite (ite rfl rfl) ?_
    refine ite (ite rfl rfl) ?_
    refine ite (ite rfl rfl) ?_
    refine ite (ite rfl (ite rfl rfl)) ?_
    refine ite (ite rfl (transfer_blocks _ _ _)) ?_
    refine ite (ite rfl (transfer_blocks _ _ _)) ?_
    exact ite (ite rfl (read_defect_data _)) rfl

end KeepsCapacity

/-! ## Attachments -/

namespace TargetAttachment

variable {μ : Type} [StorageMedium μ]

/-- The target and the bus agree on the storage behind the target. -/
def Consistent (attachment : TargetAttachment ScsiTargetSnapshot μ) : Prop :=
  match attachment.target with
  | .Disk disk => ∃ medium, attachment.backing = .Fixed medium ∧
      StorageMedium.size_bytes medium = disk.storage_size_bytes
  | .Cdrom drive => (∃ medium, attachment.backing = .Removable medium ∧
      drive.medium_bytes = medium.map StorageMedium.size_bytes) ∧ BlocksFit drive

/-- Whether the slot's medium is locked in. -/
def removal_prevented (attachment : TargetAttachment ScsiTargetSnapshot μ) : Bool :=
  attachment.target.cdrom_removal_prevented

/-- A change that keeps the agreement and leaves the medium in. -/
structure Keeps (a b : TargetAttachment ScsiTargetSnapshot μ) : Prop where
  consistent : a.Consistent → b.Consistent
  medium : b.backing.medium.isSome = a.backing.medium.isSome

theorem Keeps.refl (a : TargetAttachment ScsiTargetSnapshot μ) : Keeps a a := ⟨id, rfl⟩

theorem Keeps.trans {a b c : TargetAttachment ScsiTargetSnapshot μ} (hab : Keeps a b) (hbc : Keeps b c) : Keeps a c :=
  ⟨hbc.consistent ∘ hab.consistent, hbc.medium.trans hab.medium⟩

/-- A change that keeps the agreement and takes out only what is not locked in. -/
structure Changes (a b : TargetAttachment ScsiTargetSnapshot μ) : Prop where
  consistent : a.Consistent → b.Consistent
  removed : a.Consistent → a.backing.medium.isSome = true → b.backing.medium = none → a.removal_prevented = false

theorem Keeps.changes {a b : TargetAttachment ScsiTargetSnapshot μ} (h : Keeps a b) : Changes a b := by
  refine ⟨h.consistent, fun _ hheld hnone => ?_⟩
  have hmedium := h.medium
  rw [hnone, hheld] at hmedium
  simp at hmedium

theorem keeps_complete_storage (attachment : TargetAttachment ScsiTargetSnapshot μ) (succeeded : Bool) :
    Keeps attachment
      { attachment with target := (ScsiTarget.complete_storage attachment.target succeeded).2 } := by
  obtain ⟨target, backing⟩ := attachment
  refine ⟨fun h => ?_, rfl⟩
  cases target with
  | Disk disk => cases succeeded <;> exact h
  | Cdrom drive =>
    cases succeeded with
    | true => exact h
    | false => exact ⟨h.1, ⟨h.2.supported, h.2.divides⟩⟩

theorem keeps_complete_data_out (attachment : TargetAttachment ScsiTargetSnapshot μ) (cdb data : List U8) :
    Keeps attachment
      { attachment with target := (ScsiTarget.complete_data_out attachment.target cdb data).2 } := by
  obtain ⟨target, backing⟩ := attachment
  refine ⟨fun h => ?_, rfl⟩
  cases target with
  | Disk disk => exact h
  | Cdrom drive =>
    obtain ⟨⟨medium, hbacking, hbytes⟩, hblocks⟩ := h
    have hcompleted := hblocks.complete_data_out cdb data
    exact ⟨⟨medium, hbacking, hcompleted.2.trans hbytes⟩, hcompleted.1⟩

/-- What a command does to its target keeps the agreement with the storage behind it. -/
theorem keeps_execute (attachment : TargetAttachment ScsiTargetSnapshot μ) (cdb : List U8) :
    Keeps attachment { attachment with target := (ScsiTarget.execute attachment.target cdb).2 } := by
  obtain ⟨target, backing⟩ := attachment
  refine ⟨fun h => ?_, rfl⟩
  cases target with
  | Disk disk =>
    obtain ⟨medium, hbacking, hsize⟩ := h
    have hcapacity : (disk.execute cdb).2.block_count = disk.block_count := KeepsCapacity.execute cdb
    exact ⟨medium, hbacking, by simpa only [ScsiDisk.storage_size_bytes, hcapacity] using hsize⟩
  | Cdrom drive =>
    obtain ⟨⟨medium, hbacking, hbytes⟩, hblocks⟩ := h
    have hslot := @KeepsSlot.execute drive cdb
    refine ⟨⟨medium, hbacking, hslot.medium.trans hbytes⟩, ?_, fun medium_bytes hmedium => ?_⟩
    · rw [hslot.blocks]
      exact hblocks.supported
    · rw [hslot.blocks]
      exact hblocks.divides medium_bytes (hslot.medium.symm.trans hmedium)

/-- Replacing a medium by one of the same capacity, as an access does. -/
theorem keeps_set_medium (attachment : TargetAttachment ScsiTargetSnapshot μ) {old new : μ}
    (hold : attachment.backing.medium = some old) (hsize : StorageMedium.size_bytes new = StorageMedium.size_bytes old) :
    Keeps attachment { attachment with backing := attachment.backing.set_medium new } := by
  obtain ⟨target, backing⟩ := attachment
  cases backing with
  | Fixed medium =>
    obtain rfl : medium = old := Option.some.inj hold
    refine ⟨fun h => ?_, rfl⟩
    cases target with
    | Disk disk =>
      obtain ⟨held, hbacking, hcapacity⟩ := h
      obtain rfl : medium = held := by simpa using hbacking
      exact ⟨new, rfl, hsize.trans hcapacity⟩
    | Cdrom drive =>
      obtain ⟨⟨held, hbacking, _⟩, _⟩ := h
      simp at hbacking
  | Removable medium =>
    obtain rfl : medium = some old := hold
    refine ⟨fun h => ?_, rfl⟩
    cases target with
    | Disk disk =>
      obtain ⟨held, hbacking, _⟩ := h
      simp at hbacking
    | Cdrom drive =>
      obtain ⟨⟨held, hbacking, hbytes⟩, hblocks⟩ := h
      obtain rfl : some old = held := by simpa using hbacking
      exact ⟨⟨some new, rfl, hbytes.trans (by simp [hsize])⟩, hblocks⟩

end TargetAttachment

/-! ## Guest operations -/

namespace ScsiBus

variable {μ : Type} [StorageMedium μ] {bus next : ScsiBus ScsiTargetSnapshot μ}

/-- A change of the bus under which every slot changes by `relation`. -/
def SlotsBy (relation : TargetAttachment ScsiTargetSnapshot μ → TargetAttachment ScsiTargetSnapshot μ → Prop)
    (bus next : ScsiBus ScsiTargetSnapshot μ) : Prop :=
  ∀ slot, Option.Rel relation (bus.attachment slot) (next.attachment slot)

variable {relation : TargetAttachment ScsiTargetSnapshot μ → TargetAttachment ScsiTargetSnapshot μ → Prop}

omit [StorageMedium μ] in
theorem SlotsBy.refl (hrefl : ∀ a, relation a a) (bus : ScsiBus ScsiTargetSnapshot μ) : SlotsBy relation bus bus := by
  intro slot
  cases bus.attachment slot with
  | none => exact .none
  | some attachment => exact .some (hrefl attachment)

omit [StorageMedium μ] in
theorem SlotsBy.set_attachment (hrefl : ∀ a, relation a a) {slot : Nat}
    {held attachment : TargetAttachment ScsiTargetSnapshot μ} (hheld : bus.attachment slot = some held)
    (hrelated : relation held attachment) : SlotsBy relation bus (bus.set_attachment slot attachment) := by
  intro other
  rw [attachment_set_attachment]
  split
  case isTrue hsame =>
    rw [← hsame.1, hheld]
    exact .some hrelated
  case isFalse => exact SlotsBy.refl hrefl bus other

omit [StorageMedium μ] in
theorem SlotsBy.of_targets (hrefl : ∀ a, relation a a) (h : next.targets = bus.targets) : SlotsBy relation bus next := by
  intro slot
  have hattachment : next.attachment slot = bus.attachment slot := by simp only [ScsiBus.attachment, h]
  rw [hattachment]
  exact SlotsBy.refl hrefl bus slot

/-- Two changes that keep every slot keep it together. -/
theorem SlotsBy.trans_keeps {last : ScsiBus ScsiTargetSnapshot μ} (h : SlotsBy TargetAttachment.Keeps bus next)
    (hlast : SlotsBy TargetAttachment.Keeps next last) : SlotsBy TargetAttachment.Keeps bus last := by
  intro slot
  have hslot := h slot
  have hslotLast := hlast slot
  generalize bus.attachment slot = a at hslot ⊢
  generalize next.attachment slot = b at hslot hslotLast
  generalize last.attachment slot = c at hslotLast ⊢
  cases hslot with
  | none =>
    cases hslotLast
    exact .none
  | some hab =>
    cases hslotLast with
    | some hbc => exact .some (hab.trans hbc)

theorem SlotsBy.changes (h : SlotsBy TargetAttachment.Keeps bus next) : SlotsBy TargetAttachment.Changes bus next := by
  intro slot
  have hslot := h slot
  generalize bus.attachment slot = a at hslot ⊢
  generalize next.attachment slot = b at hslot ⊢
  cases hslot with
  | none => exact .none
  | some hab => exact .some hab.changes

theorem SlotsBy.changes_targets {last : ScsiBus ScsiTargetSnapshot μ} (h : SlotsBy TargetAttachment.Changes bus next)
    (htargets : last.targets = next.targets) : SlotsBy TargetAttachment.Changes bus last := by
  intro slot
  have hattachment : last.attachment slot = next.attachment slot := by simp only [ScsiBus.attachment, htargets]
  rw [hattachment]
  exact h slot

theorem complete_target_storage_keeps (slot : Nat) (succeeded : Bool) :
    SlotsBy TargetAttachment.Keeps bus (bus.complete_target_storage slot succeeded).2 := by
  unfold complete_target_storage
  split
  · exact .refl TargetAttachment.Keeps.refl bus
  case h_2 held hheld =>
    exact .set_attachment TargetAttachment.Keeps.refl hheld (TargetAttachment.keeps_complete_storage held succeeded)

theorem complete_target_data_out_keeps (slot : Nat) (cdb data : List U8) :
    SlotsBy TargetAttachment.Keeps bus (bus.complete_target_data_out slot cdb data).2 := by
  unfold complete_target_data_out
  split
  · exact .refl TargetAttachment.Keeps.refl bus
  case h_2 held hheld =>
    exact .set_attachment TargetAttachment.Keeps.refl hheld (TargetAttachment.keeps_complete_data_out held cdb data)

theorem ended_keeps (slot : Nat) (succeeded : Bool) :
    SlotsBy TargetAttachment.Keeps bus
      ({ bus with active_transaction := none }.complete_target_storage slot succeeded).2 := by
  have hended : SlotsBy TargetAttachment.Keeps bus { bus with active_transaction := none } :=
    .of_targets TargetAttachment.Keeps.refl rfl
  exact hended.trans_keeps (complete_target_storage_keeps slot succeeded)

omit [StorageMedium μ] in
theorem set_attachment_twice (slot : Nat) (first second : TargetAttachment ScsiTargetSnapshot μ) :
    ((bus.set_attachment slot first).set_attachment slot second).targets = (bus.set_attachment slot second).targets := by
  simp [ScsiBus.set_attachment]

/-- The guest's ejection, after the command that asked for it. -/
theorem eject_guest_medium_changes {slot : Nat} {held : TargetAttachment ScsiTargetSnapshot μ}
    (hheld : bus.attachment slot = some held) (cdb : List U8)
    (hplan : (ScsiTarget.execute held.target cdb).1 = .EjectMedium) :
    SlotsBy TargetAttachment.Changes bus
      ((bus.set_attachment slot { held with target := (ScsiTarget.execute held.target cdb).2 }).eject_guest_medium
        slot).2 := by
  have hexecuted : SlotsBy TargetAttachment.Keeps bus
      (bus.set_attachment slot { held with target := (ScsiTarget.execute held.target cdb).2 }) :=
    .set_attachment TargetAttachment.Keeps.refl hheld (TargetAttachment.keeps_execute held cdb)
  have hattached : (bus.set_attachment slot { held with target := (ScsiTarget.execute held.target cdb).2 }).attachment
      slot = some { held with target := (ScsiTarget.execute held.target cdb).2 } := by
    rw [attachment_set_attachment, if_pos ⟨rfl, slot_lt_of_attachment hheld⟩]
  have hkept := TargetAttachment.keeps_execute held cdb
  obtain ⟨target, backing⟩ := held
  simp only [eject_guest_medium, hattached]
  cases backing with
  | Fixed medium => exact hexecuted.changes
  | Removable medium =>
    cases medium with
    | none => exact hexecuted.changes
    | some medium =>
      refine SlotsBy.changes_targets (.set_attachment (fun a => (TargetAttachment.Keeps.refl a).changes) hheld ?_)
        (set_attachment_twice slot _ _)
      cases target with
      | Disk disk =>
        refine ⟨fun h => ?_, fun h _ _ => ?_⟩
        · obtain ⟨_, hbacking, _⟩ := h
          simp at hbacking
        · obtain ⟨_, hbacking, _⟩ := h
          simp at hbacking
      | Cdrom drive =>
        refine ⟨fun h => ?_, fun _ _ _ => ?_⟩
        · have hafter := hkept.consistent h
          exact ⟨⟨none, rfl, rfl⟩, hafter.2.medium_removed .GuestCommand⟩
        · exact (@KeepsSlot.execute drive cdb).eject hplan

/-- A command takes out only the medium its own target does not hold locked. -/
theorem start_command_changes (target_id lun : Nat) (cdb : List U8) :
    SlotsBy TargetAttachment.Changes bus (bus.start_command target_id lun cdb).2 := by
  have hsame : SlotsBy TargetAttachment.Changes bus bus := (SlotsBy.refl TargetAttachment.Keeps.refl bus).changes
  unfold start_command
  split
  · exact hsame
  case h_2 slot hslot =>
    split
    · exact hsame
    · split
      · exact hsame
      case h_2 held hheld =>
        have hexecuted : SlotsBy TargetAttachment.Keeps bus
            (bus.set_attachment slot { held with target := (ScsiTarget.execute held.target cdb).2 }) :=
          .set_attachment TargetAttachment.Keeps.refl hheld (TargetAttachment.keeps_execute held cdb)
        dsimp only
        cases hplan : (ScsiTarget.execute held.target cdb).1 with
        | Complete status data_in =>
          simp only [start_plan]
          split
          · exact hexecuted.changes
          · exact hexecuted.changes
        | ReadStorage offset byte_count =>
          simp only [start_plan, start_storage_transfer]
          split
          · exact (hexecuted.trans_keeps (complete_target_storage_keeps slot true)).changes
          · split
            · exact (hexecuted.trans_keeps (complete_target_storage_keeps slot false)).changes
            · exact hexecuted.changes
        | WriteStorage offset byte_count =>
          simp only [start_plan, start_storage_transfer]
          split
          · exact (hexecuted.trans_keeps (complete_target_storage_keeps slot true)).changes
          · split
            · exact (hexecuted.trans_keeps (complete_target_storage_keeps slot false)).changes
            · exact hexecuted.changes
        | ReceiveDataOut byte_count =>
          simp only [start_plan]
          split
          · exact (hexecuted.trans_keeps (complete_target_data_out_keeps slot cdb [])).changes
          · exact hexecuted.changes
        | EjectMedium => exact eject_guest_medium_changes hheld cdb hplan

variable [LawfulStorageMedium μ]

/-- A chunk to the initiator keeps every slot, also where it ends the transaction. -/
theorem transfer_data_in_keeps {σ : Type} (maximum_bytes : Nat) (accept : List U8 → σ → Bool × σ) (state : σ) :
    SlotsBy TargetAttachment.Keeps bus (bus.transfer_data_in maximum_bytes accept state).2.1 := by
  have hsame : SlotsBy TargetAttachment.Keeps bus bus := .refl TargetAttachment.Keeps.refl bus
  unfold transfer_data_in
  split
  · exact hsame
  · split
    case h_1 slot data next_offset final_status hactive =>
      simp only [transfer_immediate_data_in]
      split
      · exact hsame
      · split
        · exact .of_targets TargetAttachment.Keeps.refl rfl
        · exact .of_targets TargetAttachment.Keeps.refl rfl
    case h_2 slot next_offset remaining hactive =>
      simp only [transfer_storage_data_in]
      split
      · exact ended_keeps slot false
      case h_2 held hheld =>
        split
        · exact ended_keeps slot false
        case h_2 medium hmedium =>
          have hread := LawfulStorageMedium.read_size medium next_offset (min maximum_bytes remaining)
          split
          case h_1 read heq =>
            rw [heq] at hread
            exact (SlotsBy.set_attachment TargetAttachment.Keeps.refl hheld
              (TargetAttachment.keeps_set_medium held hmedium hread)).trans_keeps (ended_keeps slot false)
          case h_2 bytes read heq =>
            rw [heq] at hread
            have hset := SlotsBy.set_attachment TargetAttachment.Keeps.refl hheld
              (TargetAttachment.keeps_set_medium held hmedium hread)
            split
            · exact hset
            · split
              · exact hset.trans_keeps (ended_keeps slot true)
              · exact hset.trans_keeps (.of_targets TargetAttachment.Keeps.refl rfl)
    · exact hsame

/-- A chunk from the initiator reaches the medium and leaves its capacity. -/
theorem transfer_data_out_keeps {σ : Type} (maximum_bytes : Nat) (provide : Nat → σ → Option (List U8) × σ) (state : σ) :
    SlotsBy TargetAttachment.Keeps bus (bus.transfer_data_out maximum_bytes provide state).2.1 := by
  have hsame : SlotsBy TargetAttachment.Keeps bus bus := .refl TargetAttachment.Keeps.refl bus
  unfold transfer_data_out
  split
  · exact hsame
  · split
    case h_1 slot next_offset remaining hactive =>
      simp only [transfer_storage_data_out]
      split
      · exact hsame
      case h_2 provided state' hprovided =>
        split
        · exact ended_keeps slot false
        case h_2 held hheld =>
          split
          · exact ended_keeps slot false
          case h_2 medium hmedium =>
            have hwritten := LawfulStorageMedium.write_size medium next_offset
              (fill_buffer (min maximum_bytes remaining) provided)
            have hset := SlotsBy.set_attachment TargetAttachment.Keeps.refl hheld
              (TargetAttachment.keeps_set_medium held hmedium hwritten)
            split
            · exact hset.trans_keeps (ended_keeps slot false)
            · split
              · exact hset.trans_keeps (ended_keeps slot true)
              · exact hset.trans_keeps (.of_targets TargetAttachment.Keeps.refl rfl)
    case h_2 slot cdb data remaining hactive =>
      simp only [transfer_target_data_out]
      split
      · exact hsame
      · split
        · exact .of_targets TargetAttachment.Keeps.refl rfl
        · have hended : SlotsBy TargetAttachment.Keeps bus { bus with active_transaction := none } :=
            .of_targets TargetAttachment.Keeps.refl rfl
          exact hended.trans_keeps (complete_target_data_out_keeps slot cdb _)
    · exact hsame

omit [StorageMedium μ] [LawfulStorageMedium μ] in
theorem observe_targets (result : Except ScsiBusError ScsiTransferResult) : (observe result bus).targets = bus.targets := by
  cases result with
  | error error => rfl
  | ok result => cases result <;> rfl

omit [LawfulStorageMedium μ] in
/-- Executing the collected CDB takes out no medium that is locked in. -/
theorem execute_connected_command_changes (connection : ScsiConnection) :
    SlotsBy TargetAttachment.Changes bus (bus.execute_connected_command connection).2 := by
  unfold execute_connected_command
  dsimp only
  generalize (if (!connection.identified && cdb_byte connection.cdb 0 >>> 5 == 0) = true then
    { connection with lun := (cdb_byte connection.cdb 1 >>> 5).toNat } else connection) = addressed
  have hstarted := (@start_command_changes μ _ (bus.set_connection addressed) addressed.target_id addressed.lun
    addressed.cdb)
  have hcommand : SlotsBy TargetAttachment.Changes bus
      ((bus.set_connection addressed).start_command addressed.target_id addressed.lun addressed.cdb).2 := hstarted
  generalize (bus.set_connection addressed).start_command addressed.target_id addressed.lun addressed.cdb = result at *
  obtain ⟨result, next⟩ := result
  cases result with
  | error error => exact hcommand
  | ok start =>
    cases start with
    | Complete status => exact hcommand.changes_targets rfl
    | DataIn byte_count => exact hcommand.changes_targets rfl
    | DataOut byte_count => exact hcommand.changes_targets rfl
    | SelectionTimeout => exact hcommand.changes_targets (start_missing_lun_response_targets _ _)

/-- No operation of the initiator takes out a medium that is locked in, and each
keeps the agreement between drives and bus. -/
theorem step_changes (event : InitiatorEvent) : SlotsBy TargetAttachment.Changes bus (bus.step event) := by
  have hrefl (a : TargetAttachment ScsiTargetSnapshot μ) : TargetAttachment.Changes a a := (TargetAttachment.Keeps.refl a).changes
  cases event with
  | Select target_id attention =>
    refine .of_targets hrefl ?_
    simp only [step, select]
    split
    · rfl
    · split
      · rfl
      · rfl
  | WriteInformation value last =>
    simp only [step, write_information]
    split
    · exact .refl hrefl bus
    case h_2 connection hconnection =>
      split
      · split
        · exact .refl hrefl bus
        · split
          · refine .of_targets hrefl ?_
            simp only [finish_message_out]
            split
            · rfl
            · split
              · rfl
              · rfl
          · exact .of_targets hrefl rfl
      · split
        · exact .refl hrefl bus
        · split
          · have hexecuted := @execute_connected_command_changes μ _ bus
              { connection with cdb := connection.cdb ++ [value] }
            split
            case h_1 heq => rwa [heq] at hexecuted
            case h_2 heq => rwa [heq] at hexecuted
          · exact .of_targets hrefl rfl
      · have htransfer := @transfer_data_out_keeps μ _ bus _ _ 1 (fun _ (state : Unit) => (some [value], state)) ()
        split
        case h_1 heq =>
          rw [heq] at htransfer
          exact htransfer.changes
        case h_2 result next state heq =>
          rw [heq] at htransfer
          refine htransfer.changes.changes_targets ?_
          exact @observe_targets μ next (.ok result)
      · exact .refl hrefl bus
  | ReadInformation =>
    simp only [step, read_information]
    split
    · exact .refl hrefl bus
    · split
      · have htransfer := @transfer_data_in_keeps μ _ bus _ (Option U8) 1 (fun bytes _ => (true, bytes[0]?)) none
        split
        case h_1 heq =>
          rw [heq] at htransfer
          exact htransfer.changes
        case h_2 result next state heq =>
          rw [heq] at htransfer
          refine htransfer.changes.changes_targets ?_
          exact @observe_targets μ next (.ok result)
      · exact .of_targets hrefl rfl
      · split
        · exact .refl hrefl bus
        · exact .of_targets hrefl rfl
      · exact .refl hrefl bus
  | AcknowledgeMessage attention =>
    refine .of_targets hrefl ?_
    simp only [step, acknowledge_message]
    split
    · rfl
    · split
      · rfl
      · split
        · rfl
        · split
          · split
            · rfl
            · rfl
          · rfl
  | AssertAttention =>
    refine .of_targets hrefl ?_
    simp only [step, assert_attention]
    split
    · rfl
    · split
      · rfl
      · rfl
  | TransferDataIn maximum_bytes accept =>
    exact (transfer_data_in_keeps maximum_bytes _ ()).changes.changes_targets (observe_targets _)
  | TransferDataOut maximum_bytes provided =>
    exact (transfer_data_out_keeps maximum_bytes _ ()).changes.changes_targets (observe_targets _)
  | CancelTransaction => exact .of_targets hrefl rfl

end ScsiBus

end se_device.scsi
