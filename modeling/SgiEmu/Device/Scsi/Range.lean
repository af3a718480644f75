import SgiEmu.Device.Scsi.Fits

open se_core se_device.scsi_disk se_device.scsi_cdrom

namespace se_device.scsi

/-! ## The commanded range -/

/-- A READ, and a WRITE, of either length. -/
def is_read (cdb : List U8) : Bool := cdb.head? == some scsi_disk.READ_6 || cdb.head? == some scsi_disk.READ_10

def is_write (cdb : List U8) : Bool := cdb.head? == some scsi_disk.WRITE_6 || cdb.head? == some scsi_disk.WRITE_10

/-- The first block a READ or WRITE addresses, and their number. -/
def commanded_blocks (cdb : List U8) : Nat × Nat :=
  if cdb.head? = some scsi_disk.READ_6 ∨ cdb.head? = some scsi_disk.WRITE_6 then (lba_6 cdb, block_count_6 cdb)
  else (lba_10 cdb, block_count_10 cdb)

def ScsiTargetSnapshot.block_bytes : ScsiTargetSnapshot → Nat
  | .Disk _ => BLOCK_BYTES
  | .Cdrom drive => drive.logical_block_bytes

/-- The bytes of the medium a READ or WRITE addresses: where they start, and how
many they are. -/
def commanded_range (target : ScsiTargetSnapshot) (cdb : List U8) : Nat × Nat :=
  ((commanded_blocks cdb).1 * target.block_bytes, (commanded_blocks cdb).2 * target.block_bytes)

/-- A target completes a command without data, with GOOD for an empty range only,
or plans to move its range. -/
def PlansRange (transfer : Nat → Nat → ScsiCommandPlan) (range : Nat × Nat) (plan : ScsiCommandPlan) : Prop :=
  (∃ status, plan = .Complete status [] ∧ (status = .Good → range.2 = 0)) ∨ plan = transfer range.1 range.2

namespace PlansRange

variable {transfer : Nat → Nat → ScsiCommandPlan} {range : Nat × Nat} {cdb : List U8}

theorem ite_disk {condition : Prop} [Decidable condition] {a b : ScsiCommandPlan × ScsiDisk}
    (ha : PlansRange transfer range a.1) (hb : PlansRange transfer range b.1) :
    PlansRange transfer range (if condition then a else b).1 := by
  split
  · exact ha
  · exact hb

theorem disk_check (disk : ScsiDisk) (sense : SenseData) : PlansRange transfer range (disk.check_condition sense).1 :=
  Or.inl ⟨.CheckCondition, rfl, by simp⟩

theorem disk_blocks (disk : ScsiDisk) (lba block_count : Nat) :
    PlansRange transfer (lba * BLOCK_BYTES, block_count * BLOCK_BYTES)
      (disk.transfer_blocks transfer lba block_count).1 := by
  unfold ScsiDisk.transfer_blocks
  refine ite_disk (disk_check disk _) ?_
  split
  case isTrue hempty => exact Or.inl ⟨.Good, rfl, fun _ => by rw [hempty, Nat.zero_mul]⟩
  case isFalse => exact ite_disk (disk_check disk _) (Or.inr rfl)

theorem disk_read (disk : ScsiDisk) (h : is_read cdb = true) :
    PlansRange .ReadStorage (commanded_range (.Disk disk) cdb) (disk.execute cdb).1 := by
  cases cdb with
  | nil => simp [is_read] at h
  | cons opcode rest =>
    simp only [is_read, List.head?_cons, Bool.or_eq_true, beq_iff_eq, Option.some.injEq] at h
    rcases h with rfl | rfl
    · have hopcode : scsi_disk.READ_6 ≠ scsi_disk.TEST_UNIT_READY ∧ scsi_disk.READ_6 ≠ scsi_disk.REQUEST_SENSE := by decide
      simp only [ScsiDisk.execute, if_neg hopcode.1, if_neg hopcode.2, true_or, if_true]
      exact ite_disk (disk_check disk _) (disk_blocks disk (lba_6 _) (block_count_6 _))
    · have hopcode : scsi_disk.READ_10 ≠ scsi_disk.TEST_UNIT_READY ∧ scsi_disk.READ_10 ≠ scsi_disk.REQUEST_SENSE ∧
          ¬(scsi_disk.READ_10 = scsi_disk.READ_6 ∨ scsi_disk.READ_10 = WRITE_6) ∧ scsi_disk.READ_10 ≠ scsi_disk.INQUIRY ∧
          scsi_disk.READ_10 ≠ scsi_disk.MODE_SENSE_6 ∧ scsi_disk.READ_10 ≠ scsi_disk.START_STOP_UNIT ∧
          scsi_disk.READ_10 ≠ scsi_disk.READ_CAPACITY_10 := by decide
      obtain ⟨h1, h2, h3, h4, h5, h6, h7⟩ := hopcode
      simp only [ScsiDisk.execute, if_neg h1, if_neg h2, if_neg h3, if_neg h4, if_neg h5, if_neg h6, if_neg h7, if_true]
      exact ite_disk (disk_check disk _) (disk_blocks disk (lba_10 _) (block_count_10 _))

theorem disk_write (disk : ScsiDisk) (h : is_write cdb = true) :
    PlansRange .WriteStorage (commanded_range (.Disk disk) cdb) (disk.execute cdb).1 := by
  cases cdb with
  | nil => simp [is_write] at h
  | cons opcode rest =>
    simp only [is_write, List.head?_cons, Bool.or_eq_true, beq_iff_eq, Option.some.injEq] at h
    rcases h with rfl | rfl
    · have hopcode : WRITE_6 ≠ scsi_disk.TEST_UNIT_READY ∧ WRITE_6 ≠ scsi_disk.REQUEST_SENSE := by decide
      simp only [ScsiDisk.execute, if_neg hopcode.1, if_neg hopcode.2, or_true, if_true]
      exact ite_disk (disk_check disk _) (disk_blocks disk (lba_6 _) (block_count_6 _))
    · have hopcode : scsi_disk.WRITE_10 ≠ scsi_disk.TEST_UNIT_READY ∧ scsi_disk.WRITE_10 ≠ scsi_disk.REQUEST_SENSE ∧
          ¬(scsi_disk.WRITE_10 = scsi_disk.READ_6 ∨ scsi_disk.WRITE_10 = WRITE_6) ∧
          scsi_disk.WRITE_10 ≠ scsi_disk.INQUIRY ∧ scsi_disk.WRITE_10 ≠ scsi_disk.MODE_SENSE_6 ∧
          scsi_disk.WRITE_10 ≠ scsi_disk.START_STOP_UNIT ∧ scsi_disk.WRITE_10 ≠ scsi_disk.READ_CAPACITY_10 ∧
          scsi_disk.WRITE_10 ≠ scsi_disk.READ_10 := by decide
      obtain ⟨h1, h2, h3, h4, h5, h6, h7, h8⟩ := hopcode
      simp only [ScsiDisk.execute, if_neg h1, if_neg h2, if_neg h3, if_neg h4, if_neg h5, if_neg h6, if_neg h7,
        if_neg h8, if_true]
      exact ite_disk (disk_check disk _) (disk_blocks disk (lba_10 _) (block_count_10 _))

/-! ### CD-ROM drives -/

theorem ite_cdrom {condition : Prop} [Decidable condition] {a b : ScsiCommandPlan × ScsiCdrom}
    (ha : PlansRange transfer range a.1) (hb : PlansRange transfer range b.1) :
    PlansRange transfer range (if condition then a else b).1 := by
  split
  · exact ha
  · exact hb

theorem cdrom_check (drive : ScsiCdrom) (sense : SenseData) : PlansRange transfer range (drive.check_condition sense).1 :=
  Or.inl ⟨.CheckCondition, rfl, by simp⟩

theorem cdrom_blocks (drive : ScsiCdrom) (lba block_count : Nat) :
    PlansRange .ReadStorage (lba * drive.logical_block_bytes, block_count * drive.logical_block_bytes)
      (drive.read_blocks lba block_count).1 := by
  unfold ScsiCdrom.read_blocks
  split
  · exact cdrom_check drive _
  · split
    case isTrue hempty => exact Or.inl ⟨.Good, rfl, fun _ => by rw [hempty, Nat.zero_mul]⟩
    · split
      · exact cdrom_check drive _
      · split
        · exact cdrom_check drive _
        · split
          case h_1 offset byte_count hoffset hcount =>
            simp only [checked_mul_u64, Option.ite_none_right_eq_some, Option.some.injEq] at hoffset hcount
            exact Or.inr (by rw [hoffset.2, hcount.2])
          case h_2 => exact cdrom_check drive _

theorem cdrom_attention (drive : ScsiCdrom) (opcode : U8) (hdispatch : PlansRange transfer range
    (drive.dispatch opcode (opcode :: cdb)).1) : PlansRange transfer range (drive.execute (opcode :: cdb)).1 := by
  simp only [ScsiCdrom.execute]
  refine ite_cdrom hdispatch ?_
  split
  · exact cdrom_check _ _
  · exact hdispatch

theorem cdrom_read (drive : ScsiCdrom) (h : is_read cdb = true) :
    PlansRange .ReadStorage (commanded_range (.Cdrom drive) cdb) (drive.execute cdb).1 := by
  cases cdb with
  | nil => simp [is_read] at h
  | cons opcode rest =>
    simp only [is_read, List.head?_cons, Bool.or_eq_true, beq_iff_eq, Option.some.injEq] at h
    refine cdrom_attention drive opcode ?_
    rcases h with rfl | rfl
    · have hopcode : scsi_disk.READ_6 ≠ scsi_cdrom.TEST_UNIT_READY ∧ scsi_disk.READ_6 ≠ scsi_cdrom.REQUEST_SENSE ∧
          scsi_disk.READ_6 = scsi_cdrom.READ_6 := by decide
      simp only [ScsiCdrom.dispatch, if_neg hopcode.1, if_neg hopcode.2.1, if_pos hopcode.2.2]
      exact ite_cdrom (cdrom_check drive _) (cdrom_blocks drive (lba_6 _) (block_count_6 _))
    · have hopcode : scsi_disk.READ_10 ≠ scsi_cdrom.TEST_UNIT_READY ∧ scsi_disk.READ_10 ≠ scsi_cdrom.REQUEST_SENSE ∧
          scsi_disk.READ_10 ≠ scsi_cdrom.READ_6 ∧ scsi_disk.READ_10 ≠ scsi_cdrom.INQUIRY ∧
          scsi_disk.READ_10 ≠ MODE_SELECT_6 ∧ scsi_disk.READ_10 ≠ scsi_cdrom.MODE_SENSE_6 ∧
          scsi_disk.READ_10 ≠ scsi_cdrom.START_STOP_UNIT ∧ scsi_disk.READ_10 ≠ PREVENT_ALLOW_MEDIUM_REMOVAL ∧
          scsi_disk.READ_10 ≠ scsi_cdrom.READ_CAPACITY_10 ∧ scsi_disk.READ_10 = scsi_cdrom.READ_10 := by decide
      obtain ⟨h1, h2, h3, h4, h5, h6, h7, h8, h9, h10⟩ := hopcode
      simp only [ScsiCdrom.dispatch, if_neg h1, if_neg h2, if_neg h3, if_neg h4, if_neg h5, if_neg h6, if_neg h7,
        if_neg h8, if_neg h9, if_pos h10]
      exact ite_cdrom (cdrom_check drive _) (cdrom_blocks drive (lba_10 _) (block_count_10 _))

/-- A CD-ROM drive refuses every WRITE. -/
theorem cdrom_write (drive : ScsiCdrom) (h : is_write cdb = true) : PlansRange transfer range (drive.execute cdb).1 := by
  cases cdb with
  | nil => simp [is_write] at h
  | cons opcode rest =>
    simp only [is_write, List.head?_cons, Bool.or_eq_true, beq_iff_eq, Option.some.injEq] at h
    refine cdrom_attention drive opcode ?_
    rcases h with rfl | rfl
    · have hopcode : WRITE_6 ∉ [scsi_cdrom.TEST_UNIT_READY, scsi_cdrom.REQUEST_SENSE, scsi_cdrom.READ_6, scsi_cdrom.INQUIRY,
          MODE_SELECT_6, scsi_cdrom.MODE_SENSE_6, scsi_cdrom.START_STOP_UNIT, PREVENT_ALLOW_MEDIUM_REMOVAL,
          scsi_cdrom.READ_CAPACITY_10, scsi_cdrom.READ_10, scsi_cdrom.WRITE_10, READ_TOC_PMA_ATIP, SGI_EJECT,
          SGI_HD_TO_CDROM] := by decide
      simp only [List.mem_cons, not_or] at hopcode
      obtain ⟨h1, h2, h3, h4, h5, h6, h7, h8, h9, h10, h11, h12, h13, h14, _⟩ := hopcode
      simp only [ScsiCdrom.dispatch, if_neg h1, if_neg h2, if_neg h3, if_neg h4, if_neg h5, if_neg h6, if_neg h7,
        if_neg h8, if_neg h9, if_neg h10, if_neg h11, if_neg h12, if_neg h13, if_neg h14]
      exact cdrom_check drive _
    · have hopcode : scsi_disk.WRITE_10 ∉ [scsi_cdrom.TEST_UNIT_READY, scsi_cdrom.REQUEST_SENSE, scsi_cdrom.READ_6,
          scsi_cdrom.INQUIRY, MODE_SELECT_6, scsi_cdrom.MODE_SENSE_6, scsi_cdrom.START_STOP_UNIT,
          PREVENT_ALLOW_MEDIUM_REMOVAL, scsi_cdrom.READ_CAPACITY_10, scsi_cdrom.READ_10] := by decide
      have hwrite : scsi_disk.WRITE_10 = scsi_cdrom.WRITE_10 := by decide
      simp only [List.mem_cons, not_or] at hopcode
      obtain ⟨h1, h2, h3, h4, h5, h6, h7, h8, h9, h10, _⟩ := hopcode
      simp only [ScsiCdrom.dispatch, if_neg h1, if_neg h2, if_neg h3, if_neg h4, if_neg h5, if_neg h6, if_neg h7,
        if_neg h8, if_neg h9, if_neg h10, if_pos hwrite]
      exact ite_cdrom (cdrom_check drive _) (cdrom_check drive _)

/-! ### Any target -/

theorem target_read (target : ScsiTargetSnapshot) (h : is_read cdb = true) :
    PlansRange .ReadStorage (commanded_range target cdb) (ScsiTarget.execute target cdb).1 := by
  cases target with
  | Disk disk => exact disk_read disk h
  | Cdrom drive => exact cdrom_read drive h

theorem target_write (target : ScsiTargetSnapshot) (h : is_write cdb = true) :
    PlansRange .WriteStorage (commanded_range target cdb) (ScsiTarget.execute target cdb).1 := by
  cases target with
  | Disk disk => exact disk_write disk h
  | Cdrom drive => exact cdrom_write drive h

end PlansRange

namespace ScsiBus

variable {μ : Type} [StorageMedium μ] [LawfulStorageMedium μ] {bus started : ScsiBus ScsiTargetSnapshot μ}
  {works : μ → Prop}

omit [LawfulStorageMedium μ] in
theorem start_storage_transfer_in {slot offset byte_count length : Nat}
    (h : bus.start_storage_transfer slot offset byte_count .In = (.DataIn length, started)) :
    length = byte_count ∧ 0 < byte_count ∧ bus.range_is_valid slot offset byte_count = true ∧
      started = bus.set_transfer slot (.StorageDataIn offset byte_count) := by
  unfold start_storage_transfer at h
  split at h
  · simp at h
  case isFalse hsome =>
    split at h
    · simp at h
    case isFalse hvalid =>
      obtain ⟨hlength, rfl⟩ := Prod.mk.inj h
      exact ⟨(ScsiCommandStart.DataIn.inj hlength).symm, Nat.pos_of_ne_zero hsome, by simpa using hvalid, rfl⟩

omit [LawfulStorageMedium μ] in
theorem start_storage_transfer_out {slot offset byte_count length : Nat}
    (h : bus.start_storage_transfer slot offset byte_count .Out = (.DataOut length, started)) :
    length = byte_count ∧ 0 < byte_count ∧ bus.range_is_valid slot offset byte_count = true ∧
      started = bus.set_transfer slot (.StorageDataOut offset byte_count) := by
  unfold start_storage_transfer at h
  split at h
  · simp at h
  case isFalse hsome =>
    split at h
    · simp at h
    case isFalse hvalid =>
      obtain ⟨hlength, rfl⟩ := Prod.mk.inj h
      exact ⟨(ScsiCommandStart.DataOut.inj hlength).symm, Nat.pos_of_ne_zero hsome, by simpa using hvalid, rfl⟩

omit [LawfulStorageMedium μ] in
/-- A storage transfer that is over as it starts, with success, has nothing to
move. -/
theorem start_storage_transfer_good {slot offset byte_count : Nat} {direction : ScsiDataDirection}
    (hheld : ∃ held, bus.attachment slot = some held)
    (h : bus.start_storage_transfer slot offset byte_count direction = (.Complete .Good, started)) : byte_count = 0 := by
  obtain ⟨⟨target, backing⟩, hheld⟩ := hheld
  unfold start_storage_transfer at h
  split at h
  case isTrue hempty => exact hempty
  case isFalse =>
    split at h
    case isTrue =>
      simp only [complete_target_storage, hheld] at h
      cases target with
      | Disk disk => simp [ScsiTarget.complete_storage, ScsiTargetSnapshot.complete_storage, ScsiDisk.complete_storage] at h
      | Cdrom drive =>
        simp [ScsiTarget.complete_storage, ScsiTargetSnapshot.complete_storage, ScsiCdrom.complete_storage] at h
    case isFalse =>
      cases direction with
      | In => simp at h
      | Out => simp at h

omit [LawfulStorageMedium μ] in
/-- A READ or WRITE that is not refused and not over at once carries out the plan
for its range. -/
theorem start_command_planned {transfer : Nat → Nat → ScsiCommandPlan} {target_id lun : Nat} {cdb : List U8}
    {start : ScsiCommandStart}
    (hplans : ∀ target : ScsiTargetSnapshot,
      PlansRange transfer (commanded_range target cdb) (ScsiTarget.execute target cdb).1)
    (h : bus.start_command target_id lun cdb = (.ok start, started))
    (hdata : (∀ status, start ≠ .Complete status) ∧ start ≠ .SelectionTimeout) :
    ∃ slot held, target_slot target_id lun = some slot ∧ bus.attachment slot = some held ∧
      (bus.set_attachment slot { held with target := (ScsiTarget.execute held.target cdb).2 }).start_plan slot cdb
        (transfer (commanded_range held.target cdb).1 (commanded_range held.target cdb).2) = (start, started) := by
  unfold start_command at h
  split at h
  · simp at h
  case h_2 slot hslot =>
    split at h
    · simp at h
    · split at h
      · simp only [Prod.mk.injEq, Except.ok.injEq] at h
        exact absurd h.1.symm hdata.2
      case h_2 held hheld =>
        simp only [Prod.mk.injEq, Except.ok.injEq] at h
        refine ⟨slot, held, hslot, hheld, ?_⟩
        rcases hplans held.target with ⟨status, hplan, _⟩ | hplan
        · rw [hplan] at h
          exact absurd h.1.symm (hdata.1 status)
        · rw [hplan] at h
          exact Prod.ext h.1 h.2

/-- The medium a command addresses, where there is one, is one the host serves. -/
def AddressedWorks (works : μ → Prop) (bus : ScsiBus ScsiTargetSnapshot μ) (target_id lun : Nat) : Prop :=
  ∀ slot held medium, target_slot target_id lun = some slot → bus.attachment slot = some held →
    held.backing.medium = some medium → works medium

omit [LawfulStorageMedium μ] in
/-- A READ or WRITE that is over at once with GOOD commanded no block. -/
theorem started_good_empty {target_id lun : Nat} {cdb : List U8} (hcommand : is_read cdb = true ∨ is_write cdb = true)
    (h : bus.start_command target_id lun cdb = (.ok (.Complete .Good), started)) :
    ∃ slot held, target_slot target_id lun = some slot ∧ bus.attachment slot = some held ∧
      (commanded_range held.target cdb).2 = 0 := by
  unfold start_command at h
  split at h
  · simp at h
  case h_2 slot hslot =>
    split at h
    · simp at h
    · split at h
      · simp at h
      case h_2 held hheld =>
        refine ⟨slot, held, hslot, hheld, ?_⟩
        simp only [Prod.mk.injEq, Except.ok.injEq] at h
        have hattached : ∃ held', (bus.set_attachment slot
            { held with target := (ScsiTarget.execute held.target cdb).2 }).attachment slot = some held' := by
          rw [attachment_set_attachment, if_pos ⟨rfl, slot_lt_of_attachment hheld⟩]
          exact ⟨_, rfl⟩
        rcases hcommand with hread | hwrite
        · rcases PlansRange.target_read held.target hread with ⟨status, hplan, hempty⟩ | hplan
          · rw [hplan] at h
            exact hempty (ScsiCommandStart.Complete.inj h.1)
          · rw [hplan] at h
            exact start_storage_transfer_good hattached (Prod.ext h.1 h.2)
        · rcases PlansRange.target_write held.target hwrite with ⟨status, hplan, hempty⟩ | hplan
          · rw [hplan] at h
            exact hempty (ScsiCommandStart.Complete.inj h.1)
          · rw [hplan] at h
            exact start_storage_transfer_good hattached (Prod.ext h.1 h.2)

/-- The medium at a slot, once the target there has executed a command. -/
theorem executed_holds {slot offset byte_count : Nat} {held : TargetAttachment ScsiTargetSnapshot μ} {cdb : List U8}
    (hheld : bus.attachment slot = some held) (hworks : ∀ medium, held.backing.medium = some medium → works medium)
    (hvalid : (bus.set_attachment slot { held with target := (ScsiTarget.execute held.target cdb).2 }).range_is_valid slot
      offset byte_count = true) :
    ∃ contents, Holds works bus slot contents ∧ offset + byte_count ≤ contents.length ∧
      Holds works (bus.set_attachment slot { held with target := (ScsiTarget.execute held.target cdb).2 }) slot contents := by
  obtain ⟨_, size, hsize, hle⟩ := range_is_valid_spec hvalid
  have hsame := @medium_size_set_attachment μ _ bus slot
    { held with target := (ScsiTarget.execute held.target cdb).2 } held hheld rfl slot
  rw [hsame] at hsize
  simp only [medium_size, hheld, Option.bind_some] at hsize
  have hmedium : ∃ medium, held.backing.medium = some medium ∧ StorageMedium.size_bytes medium = size := by
    obtain ⟨target, backing⟩ := held
    cases backing with
    | Fixed medium => exact ⟨medium, rfl, Option.some.inj hsize⟩
    | Removable medium =>
      obtain ⟨medium, rfl, hbytes⟩ := Option.map_eq_some_iff.mp hsize
      exact ⟨medium, rfl, hbytes⟩
  obtain ⟨medium, hmedium, rfl⟩ := hmedium
  refine ⟨LawfulStorageMedium.bytes medium, ⟨held, medium, hheld, hmedium, hworks medium hmedium, rfl⟩, ?_,
    Holds.set_attachment hheld hmedium (hworks medium hmedium)⟩
  rw [LawfulStorageMedium.length_bytes]
  exact hle

/-! ## Whole commands -/

/-- The calls of a READ take the range of the medium in order, each chunk that is
accepted as long as its limit allows and none lost, repeated or skipped; the READ
ends with GOOD once they allow for all of it, as it does when it is taken whole. -/
def ReadsRange (works : μ → Prop) (bus started : ScsiBus ScsiTargetSnapshot μ) (target_id lun : Nat) (cdb : List U8)
    (byte_count : Nat) : Prop :=
  ∃ slot held contents range, target_slot target_id lun = some slot ∧ bus.attachment slot = some held ∧
    Holds works bus slot contents ∧ (commanded_range held.target cdb).2 = byte_count ∧
    (commanded_range held.target cdb).1 + byte_count ≤ contents.length ∧
    range = (contents.drop (commanded_range held.target cdb).1).take byte_count ∧
    (∀ calls, ∃ outcome, read_all calls started [] = .ok outcome ∧ Holds works outcome.bus slot contents ∧
      outcome.chunks = chunks_taken calls range ∧
      chunk_bytes outcome.chunks = range.take (chunk_limits outcome.chunks) ∧
      outcome.status = if byte_count ≤ chunk_limits outcome.chunks then some .Good else none) ∧
    ∀ whole : ReadCall, byte_count ≤ whole.limit → whole.accept range = true →
      ∃ outcome, read_all [whole] started [] = .ok outcome ∧ chunk_bytes outcome.chunks = range ∧
        outcome.status = some .Good

/-- The calls of a WRITE change the medium in its range only, to the chunks they
provided in order; the WRITE ends with GOOD once they allow for all of it, as it
does when it is provided whole. -/
def WritesRange (works : μ → Prop) (bus started : ScsiBus ScsiTargetSnapshot μ) (target_id lun : Nat) (cdb : List U8)
    (byte_count : Nat) : Prop :=
  ∃ slot held contents, target_slot target_id lun = some slot ∧ bus.attachment slot = some held ∧
    Holds works bus slot contents ∧ (commanded_range held.target cdb).2 = byte_count ∧
    (commanded_range held.target cdb).1 + byte_count ≤ contents.length ∧
    (∀ calls, ∃ outcome, write_all calls started [] = .ok outcome ∧
      Holds works outcome.bus slot
        (written contents (commanded_range held.target cdb).1 (chunk_bytes outcome.chunks)) ∧
      outcome.chunks = chunks_sent calls byte_count ∧
      (chunk_bytes outcome.chunks).length = min (chunk_limits outcome.chunks) byte_count ∧
      outcome.status = if byte_count ≤ chunk_limits outcome.chunks then some .Good else none) ∧
    ∀ (whole : WriteCall) (bytes : List U8), byte_count ≤ whole.limit → whole.provide byte_count = some bytes →
      ∃ outcome, write_all [whole] started [] = .ok outcome ∧
        chunk_bytes outcome.chunks = fill_buffer byte_count bytes ∧ outcome.status = some .Good

theorem read_command_exact (hreads : ReadsSucceed works) {target_id lun : Nat} {cdb : List U8} {byte_count : Nat}
    (hread : is_read cdb = true) (hworks : AddressedWorks works bus target_id lun)
    (h : bus.start_command target_id lun cdb = (.ok (.DataIn byte_count), started)) :
    ReadsRange works bus started target_id lun cdb byte_count := by
  obtain ⟨slot, held, hslot, hheld, hplan⟩ := start_command_planned (fun target => PlansRange.target_read target hread) h
    ⟨by simp, by simp⟩
  obtain ⟨rfl, hpos, hvalid, hstarted⟩ := start_storage_transfer_in hplan
  obtain ⟨contents, hbefore, hrange, hafter⟩ :=
    executed_holds hheld (fun medium => hworks slot held medium hslot hheld) hvalid
  have hactive : started.active_transaction = some ⟨slot, .StorageDataIn (commanded_range held.target cdb).1
      (commanded_range held.target cdb).2⟩ := by
    rw [hstarted]
    rfl
  have hstart : Holds works started slot contents := by
    rw [hstarted]
    exact hafter.of_targets rfl
  have hruns (calls : List ReadCall) := read_all_exact hreads calls [] hactive hstart hpos hrange
  refine ⟨slot, held, contents, _, hslot, hheld, hbefore, rfl, hrange, rfl, fun calls => ?_, fun whole hlimit haccept => ?_⟩
  · obtain ⟨outcome, hrun, hlast, hchunks, hstatus⟩ := hruns calls
    rw [List.nil_append] at hchunks
    refine ⟨outcome, hrun, hlast, hchunks, ?_, ?_⟩
    · rw [hchunks]
      exact chunks_taken_bytes calls _
    · rw [hchunks]
      exact hstatus
  · obtain ⟨outcome, hrun, _, hchunks, hstatus⟩ := hruns [whole]
    generalize hblocks : (contents.drop (commanded_range held.target cdb).1).take (commanded_range held.target cdb).2 =
      range at *
    have hlength : range.length = (commanded_range held.target cdb).2 := by
      rw [← hblocks, List.length_take, List.length_drop]
      omega
    have hrest : range ≠ [] := List.ne_nil_of_length_pos (by omega)
    have hwhole : range.take whole.limit = range := List.take_of_length_le (by omega)
    have hover : range.drop whole.limit = [] := List.drop_eq_nil_of_le (by omega)
    have htaken : chunks_taken [whole] range = [(whole.limit, range)] := by
      rw [chunks_taken_cons whole [] hrest, hwhole, if_pos haccept, hover, chunks_taken_nil]
    refine ⟨outcome, hrun, ?_, ?_⟩
    · rw [hchunks, htaken]
      simp
    · rw [hstatus, htaken, chunk_limits_cons, chunk_limits_nil, if_pos (by simpa using hlimit)]

theorem write_command_exact (hwrites : WritesSucceed works) {target_id lun : Nat} {cdb : List U8} {byte_count : Nat}
    (hwrite : is_write cdb = true) (hworks : AddressedWorks works bus target_id lun)
    (h : bus.start_command target_id lun cdb = (.ok (.DataOut byte_count), started)) :
    WritesRange works bus started target_id lun cdb byte_count := by
  obtain ⟨slot, held, hslot, hheld, hplan⟩ := start_command_planned (fun target => PlansRange.target_write target hwrite) h
    ⟨by simp, by simp⟩
  obtain ⟨rfl, hpos, hvalid, hstarted⟩ := start_storage_transfer_out hplan
  obtain ⟨contents, hbefore, hrange, hafter⟩ :=
    executed_holds hheld (fun medium => hworks slot held medium hslot hheld) hvalid
  have hunwritten : written contents (commanded_range held.target cdb).1 (chunk_bytes []) = contents := by
    simp [written, List.take_append_drop]
  have hactive : started.active_transaction = some ⟨slot,
      .StorageDataOut ((commanded_range held.target cdb).1 + (chunk_bytes []).length) (commanded_range held.target cdb).2⟩ := by
    rw [hstarted]
    rfl
  have hstart : Holds works started slot (written contents (commanded_range held.target cdb).1 (chunk_bytes [])) := by
    rw [hunwritten, hstarted]
    exact hafter.of_targets rfl
  have hruns (calls : List WriteCall) := write_all_exact hwrites calls [] hactive hstart hpos hrange
  refine ⟨slot, held, contents, hslot, hheld, hbefore, rfl, hrange, fun calls => ?_, fun whole bytes hlimit hprovide => ?_⟩
  · obtain ⟨outcome, hrun, hlast, hchunks, hstatus⟩ := hruns calls
    rw [List.nil_append] at hchunks
    refine ⟨outcome, hrun, hlast, hchunks, ?_, ?_⟩
    · rw [hchunks]
      exact chunks_sent_length calls _
    · rw [hchunks]
      exact hstatus
  · obtain ⟨outcome, hrun, _, hchunks, hstatus⟩ := hruns [whole]
    generalize (commanded_range held.target cdb).2 = byte_count at *
    have hwhole : min whole.limit byte_count = byte_count := Nat.min_eq_right hlimit
    have hsent : chunks_sent [whole] byte_count = [(whole.limit, fill_buffer byte_count bytes)] := by
      rw [chunks_sent_cons whole [] (Nat.pos_iff_ne_zero.mp hpos), hwhole]
      simp only [hprovide, Nat.sub_self, chunks_sent_zero]
    refine ⟨outcome, hrun, ?_, ?_⟩
    · rw [hchunks, hsent]
      simp
    · rw [hstatus, hsent, chunk_limits_cons, chunk_limits_nil, if_pos (by simpa using hlimit)]

/-- While the host carries out its accesses, every READ and WRITE moves exactly its
commanded range, however it is cut into chunks; one that is over at once with GOOD
commanded no block; and no storage transfer a bus reaches leaves the medium. -/
theorem transfers_exact {target_id lun byte_count : Nat} {cdb : List U8}
    (hworks : AddressedWorks works bus target_id lun) :
    (ReadsSucceed works → is_read cdb = true → bus.start_command target_id lun cdb = (.ok (.DataIn byte_count), started) →
      ReadsRange works bus started target_id lun cdb byte_count) ∧
    (WritesSucceed works → is_write cdb = true →
      bus.start_command target_id lun cdb = (.ok (.DataOut byte_count), started) →
      WritesRange works bus started target_id lun cdb byte_count) ∧
    (is_read cdb = true ∨ is_write cdb = true → bus.start_command target_id lun cdb = (.ok (.Complete .Good), started) →
      ∃ slot held, target_slot target_id lun = some slot ∧ bus.attachment slot = some held ∧
        (commanded_range held.target cdb).2 = 0) ∧
    ∀ events, ((ScsiBus.new : ScsiBus ScsiTargetSnapshot μ).apply_all events).StorageFits := by
  refine ⟨fun hreads hread => read_command_exact hreads hread hworks,
    fun hwrites hwrite => write_command_exact hwrites hwrite hworks, started_good_empty, fun events => ?_⟩
  have hidle : (ScsiBus.new : ScsiBus ScsiTargetSnapshot μ).active_transaction = none := rfl
  exact apply_all_fits (StorageFits.of_idle hidle) events

/-! ### A disk of three blocks -/

@[irreducible] def three_blocks_bytes : List U8 := (List.range 1536).map (BitVec.ofNat 8)

def three_blocks : ScsiBus ScsiTargetSnapshot MemoryStorage :=
  ScsiBus.new.apply_all
    [.Attach 1 0 (.disk { block_count := 3, ready := true, sense := .NONE }) ⟨three_blocks_bytes⟩]

/-- READ(6) of two blocks from the second on, and WRITE(10) of the third. -/
def read_two : List U8 := [scsi_disk.READ_6, 0, 0, 1, 2, 0]

def write_last : List U8 := [scsi_disk.WRITE_10, 0, 0, 0, 0, 2, 0, 0, 1, 0]

theorem three_blocks_reads : (three_blocks.start_command 1 0 read_two).1 = .ok (.DataIn 1024) := by decide +kernel

theorem three_blocks_writes : (three_blocks.start_command 1 0 write_last).1 = .ok (.DataOut 512) := by decide +kernel

/-- The block device and the bytes the bus holds at target 1. -/
theorem three_blocks_attached {held : TargetAttachment ScsiTargetSnapshot MemoryStorage}
    (h : three_blocks.attachment 8 = some held) :
    held.target = .Disk { block_count := 3, ready := true, sense := .NONE } ∧
      held.backing.medium = some ⟨three_blocks_bytes⟩ := by
  have hattached : (three_blocks.attachment 8).map (fun held => (held.target, held.backing.medium)) =
      some (.Disk { block_count := 3, ready := true, sense := .NONE }, some ⟨three_blocks_bytes⟩) := by decide +kernel
  rw [h] at hattached
  exact Prod.mk.inj (Option.some.inj hattached)

/-- Takes 300 bytes, refuses 200, and takes the rest in two chunks. -/
def read_two_calls : List ReadCall :=
  [⟨300, by decide, fun _ => true⟩, ⟨200, by decide, fun _ => false⟩, ⟨500, by decide, fun _ => true⟩,
    ⟨4096, by decide, fun _ => true⟩]

/-- Refuses a chunk between the two it sends. -/
def write_last_calls : List WriteCall :=
  [⟨100, by decide, fun _ => some (List.replicate 100 0xaa)⟩, ⟨600, by decide, fun _ => none⟩,
    ⟨600, by decide, fun byte_count => some (List.replicate byte_count 0xbb)⟩]

theorem transfers_exact_three_blocks :
    (∃ outcome, read_all read_two_calls (three_blocks.start_command 1 0 read_two).2 [] = .ok outcome ∧
      outcome.chunks.map (fun chunk => chunk.2.length) = [300, 500, 224] ∧
      chunk_bytes outcome.chunks = (three_blocks_bytes.drop 512).take 1024 ∧ outcome.status = some .Good) ∧
    ∃ outcome, write_all write_last_calls (three_blocks.start_command 1 0 write_last).2 [] = .ok outcome ∧
      Holds (fun _ => True) outcome.bus 8
        (three_blocks_bytes.take 1024 ++ List.replicate 100 0xaa ++ List.replicate 412 0xbb) ∧
      outcome.status = some .Good := by
  have hworks : AddressedWorks (fun _ => True) three_blocks 1 0 := fun _ _ _ _ _ _ => trivial
  constructor
  · have hstart : three_blocks.start_command 1 0 read_two =
        (.ok (.DataIn 1024), (three_blocks.start_command 1 0 read_two).2) := by rw [← three_blocks_reads]
    obtain ⟨slot, held, contents, range, hslot, hheld, hholds, _, _, rfl, hruns, _⟩ :=
      (transfers_exact hworks).1 MemoryStorage.reads_succeed (by decide) hstart
    obtain rfl : 8 = slot := Option.some.inj hslot
    obtain ⟨attachment, medium, hattachment, hmedium, _, rfl⟩ := hholds
    rw [(three_blocks_attached hattachment).2] at hmedium
    obtain rfl := Option.some.inj hmedium
    have hrange : commanded_range held.target read_two = (512, 1024) := by
      rw [(three_blocks_attached hheld).1]
      decide
    obtain ⟨outcome, hrun, _, hchunks, hbytes, hstatus⟩ := hruns read_two_calls
    rw [hrange] at hchunks hbytes
    refine ⟨outcome, hrun, ?_, ?_, ?_⟩
    · rw [hchunks]
      decide +kernel
    · rw [hbytes, hchunks]
      decide +kernel
    · rw [hstatus, hchunks]
      decide +kernel
  · have hstart : three_blocks.start_command 1 0 write_last =
        (.ok (.DataOut 512), (three_blocks.start_command 1 0 write_last).2) := by rw [← three_blocks_writes]
    obtain ⟨slot, held, contents, hslot, hheld, hholds, _, _, hruns, _⟩ :=
      (transfers_exact hworks).2.1 MemoryStorage.writes_succeed (by decide) hstart
    obtain rfl : 8 = slot := Option.some.inj hslot
    obtain ⟨attachment, medium, hattachment, hmedium, _, rfl⟩ := hholds
    rw [(three_blocks_attached hattachment).2] at hmedium
    obtain rfl := Option.some.inj hmedium
    have hrange : commanded_range held.target write_last = (1024, 512) := by
      rw [(three_blocks_attached hheld).1]
      decide
    obtain ⟨outcome, hrun, hlast, hchunks, _, hstatus⟩ := hruns write_last_calls
    rw [hrange] at hlast
    have hwritten : written three_blocks_bytes 1024 (chunk_bytes (chunks_sent write_last_calls 512)) =
        three_blocks_bytes.take 1024 ++ List.replicate 100 0xaa ++ List.replicate 412 0xbb := by decide +kernel
    refine ⟨outcome, hrun, ?_, ?_⟩
    · rw [hchunks] at hlast
      rw [← hwritten]
      exact hlast
    · rw [hstatus, hchunks]
      decide +kernel

end ScsiBus

end se_device.scsi
