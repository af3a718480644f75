import SgiEmu.Device.Scsi.Panics

open se_core se_device.scsi_disk se_device.scsi_cdrom

namespace se_device.scsi

/-! ## Payloads a command asks for -/

/-- A plan that receives no more bytes than one byte of its CDB can ask for. -/
def ReceivesByte (plan : ScsiCommandPlan) : Prop := ∀ byte_count, plan = .ReceiveDataOut byte_count → byte_count < 256

namespace ReceivesByte

/-- A plan that is complete receives nothing. -/
theorem complete (status : ScsiStatus) (data_in : List U8) : ReceivesByte (.Complete status data_in) :=
  fun _ h => by simp at h

theorem ite {condition : Prop} [Decidable condition] {γ : Type} {a b : ScsiCommandPlan × γ} (ha : ReceivesByte a.1)
    (hb : ReceivesByte b.1) : ReceivesByte (if condition then a else b).1 := by
  split
  · exact ha
  · exact hb

/-- A block access of a disk ends in its plan or in a check condition. -/
theorem disk_blocks (disk : ScsiDisk) {plan : Nat → Nat → ScsiCommandPlan} (hplan : ∀ a b, ReceivesByte (plan a b))
    (lba block_count : Nat) : ReceivesByte (disk.transfer_blocks plan lba block_count).1 :=
  ite (complete _ _) (ite (complete _ _) (ite (complete _ _) (hplan _ _)))

/-- A disk answers or moves blocks, and receives no payload. -/
theorem disk_execute (disk : ScsiDisk) (cdb : List U8) : ReceivesByte (disk.execute cdb).1 := by
  have hread (lba block_count : Nat) : ReceivesByte (disk.read_blocks lba block_count).1 :=
    disk_blocks disk (fun _ _ _ h => by simp at h) lba block_count
  have hwrite (lba block_count : Nat) : ReceivesByte (disk.write_blocks lba block_count).1 :=
    disk_blocks disk (fun _ _ _ h => by simp at h) lba block_count
  have hinvalid : ReceivesByte (disk.check_condition .INVALID_CDB_FIELD).1 := complete _ _
  unfold ScsiDisk.execute
  split
  · exact hinvalid
  · refine ite (ite hinvalid (ite (complete _ _) (complete _ _))) ?_
    refine ite (ite hinvalid (complete _ _)) ?_
    refine ite (ite hinvalid (ite (hread _ _) (hwrite _ _))) ?_
    refine ite (ite hinvalid (complete _ _)) ?_
    refine ite (ite hinvalid (complete _ _)) ?_
    refine ite (ite hinvalid (complete _ _)) ?_
    refine ite (ite hinvalid (ite (complete _ _) (complete _ _))) ?_
    refine ite (ite hinvalid (hread _ _)) ?_
    refine ite (ite hinvalid (hwrite _ _)) ?_
    exact ite (ite hinvalid (ite (complete _ _) (ite (complete _ _) (complete _ _)))) (complete _ _)

theorem cdrom_ejection (drive : ScsiCdrom) : ReceivesByte drive.request_ejection.1 :=
  ite (complete _ _) (ite (complete _ _) fun _ h => by simp at h)

theorem cdrom_blocks (drive : ScsiCdrom) (lba block_count : Nat) : ReceivesByte (drive.read_blocks lba block_count).1 := by
  unfold ScsiCdrom.read_blocks
  split
  · exact complete _ _
  · refine ite (complete _ _) ?_
    split
    · exact complete _ _
    · refine ite (complete _ _) ?_
      split
      · exact fun _ h => by simp at h
      · exact complete _ _

/-- A drive receives the parameter list of MODE SELECT and no other payload. -/
theorem cdrom_dispatch (drive : ScsiCdrom) (opcode : U8) (cdb : List U8) : ReceivesByte (drive.dispatch opcode cdb).1 := by
  have hinvalid : ReceivesByte (drive.check_condition .INVALID_CDB_FIELD).1 := complete _ _
  -- the only plan that receives is the one of MODE SELECT, for its byte 4
  have hselect : ReceivesByte (drive.mode_select cdb).1 := by
    refine ite (complete _ _) fun byte_count h => ?_
    obtain rfl := ScsiCommandPlan.ReceiveDataOut.inj h
    exact (cdb_byte cdb 4).isLt
  have hstart (control : U8) : ReceivesByte (drive.start_stop control).1 := by
    unfold ScsiCdrom.start_stop
    dsimp only
    split
    · exact complete _ _
    · exact complete _ _
    · exact cdrom_ejection drive
  have hcapacity : ReceivesByte drive.read_capacity.1 := by
    unfold ScsiCdrom.read_capacity
    split
    · exact complete _ _
    · exact ite (complete _ _) (complete _ _)
  have htoc : ReceivesByte (drive.read_toc cdb).1 := by
    unfold ScsiCdrom.read_toc
    refine ite (complete _ _) ?_
    split
    · exact complete _ _
    · exact complete _ _
  unfold ScsiCdrom.dispatch
  refine ite (ite hinvalid ?_) ?_
  · split
    · exact complete _ _
    · exact complete _ _
  refine ite (ite hinvalid (complete _ _)) ?_
  refine ite (ite hinvalid (cdrom_blocks drive _ _)) ?_
  refine ite (ite hinvalid (complete _ _)) ?_
  refine ite (ite hinvalid hselect) ?_
  refine ite (ite hinvalid (complete _ _)) ?_
  refine ite (ite hinvalid (hstart _)) ?_
  refine ite (ite hinvalid (ite (complete _ _) (complete _ _))) ?_
  refine ite (ite hinvalid hcapacity) ?_
  refine ite (ite hinvalid (cdrom_blocks drive _ _)) ?_
  refine ite (ite hinvalid (complete _ _)) ?_
  refine ite (ite hinvalid htoc) ?_
  refine ite (ite hinvalid (cdrom_ejection drive)) ?_
  exact ite (ite hinvalid (complete _ _)) (complete _ _)

theorem cdrom_execute (drive : ScsiCdrom) (cdb : List U8) : ReceivesByte (drive.execute cdb).1 := by
  unfold ScsiCdrom.execute
  split
  · exact complete _ _
  · split
    · exact cdrom_dispatch drive _ _
    · split
      · exact complete _ _
      · exact cdrom_dispatch drive _ _

/-- Every command of every kind of target asks for fewer than 256 bytes. -/
theorem execute (target : ScsiTargetSnapshot) (cdb : List U8) : ReceivesByte (target.execute cdb).1 := by
  cases target with
  | Disk disk => exact disk_execute disk cdb
  | Cdrom drive => exact cdrom_execute drive cdb

end ReceivesByte

end se_device.scsi

namespace se_device.scsi

namespace ScsiBus

variable {μ : Type} [StorageMedium μ] {bus next : ScsiBus ScsiTargetSnapshot μ}

/-! ## What the initiator leaves of the slots -/

/-- The same occupied slots, whose media are gone or keep their capacity. -/
structure Retains (bus next : ScsiBus ScsiTargetSnapshot μ) : Prop extends SameTopology bus next where
  sizes : ∀ slot size, next.medium_size slot = some size → bus.medium_size slot = some size

namespace Retains

theorem refl (bus : ScsiBus ScsiTargetSnapshot μ) : Retains bus bus := ⟨.refl bus, fun _ _ => id⟩

theorem trans {last : ScsiBus ScsiTargetSnapshot μ} (h : Retains bus next) (hlast : Retains next last) : Retains bus last :=
  ⟨h.toSameTopology.trans hlast.toSameTopology, fun slot size hsize => h.sizes slot size (hlast.sizes slot size hsize)⟩

/-- The transaction is not part of the slots. -/
theorem of_targets (htargets : next.targets = bus.targets) (hconnection : next.connection = bus.connection) :
    Retains bus next := by
  have hattachment (slot : Nat) : next.attachment slot = bus.attachment slot := by simp only [ScsiBus.attachment, htargets]
  refine ⟨⟨hconnection, fun slot => by rw [hattachment]⟩, fun slot size hsize => ?_⟩
  simpa only [medium_size, hattachment] using hsize

/-- Replacing what is in a slot retains the slots when the medium has the same capacity. -/
theorem set_attachment {slot : Nat} {attachment held : TargetAttachment ScsiTargetSnapshot μ}
    (hheld : bus.attachment slot = some held)
    (hsize : attachment.backing.medium_size_bytes = held.backing.medium_size_bytes) :
    Retains bus (bus.set_attachment slot attachment) :=
  ⟨occupied_set_attachment hheld, fun other _ h => (medium_size_set_attachment hheld hsize other).symm.trans h⟩

end Retains

theorem complete_target_storage_retains (slot : Nat) (succeeded : Bool) :
    Retains bus (bus.complete_target_storage slot succeeded).2 := by
  unfold complete_target_storage
  split
  · exact .refl bus
  case h_2 held hheld => exact .set_attachment hheld rfl

theorem complete_target_data_out_retains (slot : Nat) (cdb data : List U8) :
    Retains bus (bus.complete_target_data_out slot cdb data).2 := by
  unfold complete_target_data_out
  split
  · exact .refl bus
  case h_2 held hheld => exact .set_attachment hheld rfl

/-- The end of a transaction touches the target's sense data and no slot. -/
theorem ended_retains (slot : Nat) (succeeded : Bool) :
    Retains bus ({ bus with active_transaction := none }.complete_target_storage slot succeeded).2 := by
  have hended : Retains bus { bus with active_transaction := none } := .of_targets rfl rfl
  exact hended.trans (complete_target_storage_retains slot succeeded)

/-- An ejection takes the medium and leaves the slot occupied. -/
theorem eject_guest_medium_retains (slot : Nat) : Retains bus (bus.eject_guest_medium slot).2 := by
  unfold eject_guest_medium
  split
  · exact .refl bus
  case h_2 held hheld =>
    split
    · exact .refl bus
    · exact .refl bus
    · refine ⟨occupied_set_attachment hheld, fun other size hsize => ?_⟩
      simp only [medium_size, attachment_set_attachment] at hsize ⊢
      split at hsize
      · simp [ScsiBacking.medium_size_bytes] at hsize
      · exact hsize

omit [StorageMedium μ] in
theorem eject_guest_medium_active (slot : Nat) :
    (bus.eject_guest_medium slot).2.active_transaction = bus.active_transaction := by
  unfold eject_guest_medium
  split
  · rfl
  · split
    · rfl
    · rfl
    · rfl

theorem start_storage_transfer_retains (slot offset byte_count : Nat) (direction : ScsiDataDirection) :
    Retains bus (bus.start_storage_transfer slot offset byte_count direction).2 := by
  unfold start_storage_transfer
  split
  · exact complete_target_storage_retains slot true
  · split
    · exact complete_target_storage_retains slot false
    · cases direction with
      | In => exact .of_targets rfl rfl
      | Out => exact .of_targets rfl rfl

/-- Whatever plan a target answers with, starting it retains the slots. -/
theorem start_plan_retains (slot : Nat) (cdb : List U8) (plan : ScsiCommandPlan) :
    Retains bus (bus.start_plan slot cdb plan).2 := by
  cases plan with
  | Complete status data_in =>
    simp only [start_plan]
    split
    · exact .refl bus
    · exact .of_targets rfl rfl
  | ReadStorage offset byte_count => exact start_storage_transfer_retains slot offset byte_count .In
  | WriteStorage offset byte_count => exact start_storage_transfer_retains slot offset byte_count .Out
  | ReceiveDataOut byte_count =>
    simp only [start_plan]
    split
    · exact complete_target_data_out_retains slot cdb []
    · exact .of_targets rfl rfl
  | EjectMedium => exact eject_guest_medium_retains slot

/-- A command changes its target and then starts the target's plan: both retain the slots. -/
theorem start_command_retains (target_id lun : Nat) (cdb : List U8) :
    Retains bus (bus.start_command target_id lun cdb).2 := by
  unfold start_command
  split
  · exact .refl bus
  case h_2 slot hslot =>
    split
    · exact .refl bus
    · split
      · exact .refl bus
      case h_2 held hheld =>
        have hexecuted : Retains bus
            (bus.set_attachment slot { held with target := (ScsiTarget.execute held.target cdb).2 }) :=
          .set_attachment hheld rfl
        exact hexecuted.trans (start_plan_retains slot cdb _)

/-! ## Transactions that can go on -/

/-- Largest capacity a target addresses. -/
def MEDIUM_BYTES_MAX : Nat := BLOCK_BYTES * (0xffffffff + 1)

def Sized (bus : ScsiBus ScsiTargetSnapshot μ) : Prop :=
  ∀ slot size, bus.medium_size slot = some size → 0 < size ∧ size ≤ MEDIUM_BYTES_MAX

end ScsiBus

/-- A response is not used up, and a payload has at most `capacity` bytes once it
is whole. -/
def ScsiTransfer.Holds (capacity : Nat) : ScsiTransfer → Prop
  | .ImmediateDataIn data next_offset _ => next_offset < data.length
  | .TargetDataOut _ data remaining => 0 < remaining ∧ data.length + remaining ≤ capacity
  | _ => True

namespace ScsiBus

variable {μ : Type} [StorageMedium μ] {bus next : ScsiBus ScsiTargetSnapshot μ} {capacity : Nat}

/-- Media have the capacities of a target, and a transaction or a connection has
an attached one. -/
structure Ready (capacity : Nat) (bus : ScsiBus ScsiTargetSnapshot μ) : Prop where
  sized : bus.Sized
  attached : ∀ transaction, bus.active_transaction = some transaction →
    (bus.attachment transaction.target_slot).isSome = true
  holds : ∀ transaction, bus.active_transaction = some transaction → transaction.transfer.Holds capacity
  present : ∀ connection, bus.connection = some connection → bus.target_present connection.target_id = true

theorem Sized.of_retains (h : bus.Sized) (hretains : Retains bus next) : next.Sized :=
  fun slot size hsize => h slot size (hretains.sizes slot size hsize)

namespace Ready

/-- A step that retains the slots keeps a bus ready when its transaction, if it has one, is one that
can go on. -/
theorem of_retains (h : bus.Ready capacity) (hretains : Retains bus next)
    (hactive : ∀ transaction, next.active_transaction = some transaction →
      (bus.attachment transaction.target_slot).isSome = true ∧ transaction.transfer.Holds capacity) :
    next.Ready capacity where
  sized := h.sized.of_retains hretains
  attached transaction hsome := (hretains.occupied _).trans (hactive transaction hsome).1
  holds transaction hsome := (hactive transaction hsome).2
  present connection hsome := by
    rw [target_present_congr hretains.occupied]
    exact h.present connection (hretains.connection ▸ hsome)

/-- A step that leaves the transaction alone keeps the bus ready. -/
theorem keep (h : bus.Ready capacity) (hretains : Retains bus next)
    (hactive : next.active_transaction = bus.active_transaction) : next.Ready capacity :=
  h.of_retains hretains fun transaction hsome =>
    ⟨h.attached transaction (hactive ▸ hsome), h.holds transaction (hactive ▸ hsome)⟩

/-- A step that ends the transaction keeps the bus ready. -/
theorem idle (h : bus.Ready capacity) (hretains : Retains bus next) (hactive : next.active_transaction = none) :
    next.Ready capacity :=
  h.of_retains hretains fun transaction hsome => by simp [hactive] at hsome

/-- A step that starts a transaction that can go on keeps the bus ready. -/
theorem start (h : bus.Ready capacity) (hretains : Retains bus next) {slot : Nat} {transfer : ScsiTransfer}
    (hactive : next.active_transaction = some ⟨slot, transfer⟩) (hattached : (bus.attachment slot).isSome = true)
    (hholds : transfer.Holds capacity) : next.Ready capacity :=
  h.of_retains hretains fun transaction hsome => by
    obtain rfl := Option.some.inj (hactive.symm.trans hsome)
    exact ⟨hattached, hholds⟩

/-- A change of the connection that stays with its target. -/
theorem set_connection (h : bus.Ready capacity) {old connection : ScsiConnection} (hold : bus.connection = some old)
    (htarget : connection.target_id = old.target_id) : (bus.set_connection connection).Ready capacity where
  sized := h.sized
  attached := h.attached
  holds := h.holds
  present current hcurrent := by
    obtain rfl := Option.some.inj hcurrent
    rw [htarget]
    exact h.present old hold

theorem disconnect (h : bus.Ready capacity) :
    ({ bus with connection := none } : ScsiBus ScsiTargetSnapshot μ).Ready capacity where
  sized := h.sized
  attached := h.attached
  holds := h.holds
  present connection hsome := by simp at hsome

theorem set_status (h : bus.Ready capacity) (status : ScsiStatus) : (bus.set_status status).Ready capacity where
  sized := h.sized
  attached := h.attached
  holds := h.holds
  present connection hsome := by
    obtain ⟨old, hold, rfl⟩ := Option.map_eq_some_iff.mp hsome
    exact h.present old hold

theorem set_phase (h : bus.Ready capacity) (phase : ScsiPhase) : (bus.set_phase phase).Ready capacity where
  sized := h.sized
  attached := h.attached
  holds := h.holds
  present connection hsome := by
    obtain ⟨old, hold, rfl⟩ := Option.map_eq_some_iff.mp hsome
    exact h.present old hold

theorem observe (h : bus.Ready capacity) (result : ScsiTransferResult) :
    (bus.observe_transfer_result result).Ready capacity := by
  cases result with
  | Rejected => exact h
  | More transferred remaining => exact h
  | Complete transferred status => exact h.set_status status

end Ready

/-! ### Commands -/

theorem start_storage_transfer_ready (h : bus.Ready capacity) {slot : Nat} (hattached : (bus.attachment slot).isSome = true)
    (hidle : bus.active_transaction = none) (offset byte_count : Nat) (direction : ScsiDataDirection) :
    (bus.start_storage_transfer slot offset byte_count direction).2.Ready capacity := by
  have hretains := @start_storage_transfer_retains μ _ bus slot offset byte_count direction
  unfold start_storage_transfer at hretains ⊢
  split at hretains
  case isTrue hzero =>
    rw [if_pos hzero]
    exact h.idle hretains ((complete_target_storage_same slot true).2.trans hidle)
  case isFalse hzero =>
    rw [if_neg hzero]
    split at hretains
    case isTrue hinvalid =>
      rw [if_pos hinvalid]
      exact h.idle hretains ((complete_target_storage_same slot false).2.trans hidle)
    case isFalse hinvalid =>
      rw [if_neg hinvalid]
      cases direction with
      | In => exact h.start hretains rfl hattached trivial
      | Out => exact h.start hretains rfl hattached trivial

/-- Starting a plan leaves a transaction that can go on: a response has bytes left, and a payload
fits. -/
theorem start_plan_ready (h : bus.Ready capacity) (hcapacity : 256 ≤ capacity) {slot : Nat}
    (hattached : (bus.attachment slot).isSome = true) (hidle : bus.active_transaction = none)
    (cdb : List U8) {plan : ScsiCommandPlan} (hplan : ReceivesByte plan) :
    (bus.start_plan slot cdb plan).2.Ready capacity := by
  have hretains := @start_plan_retains μ _ bus slot cdb plan
  cases plan with
  | Complete status data_in =>
    simp only [start_plan] at hretains ⊢
    split at hretains
    case isTrue hempty =>
      rw [if_pos hempty]
      exact h
    case isFalse hsome =>
      rw [if_neg hsome]
      refine h.start hretains rfl hattached ?_
      simpa [ScsiTransfer.Holds, List.length_pos_iff] using hsome
  | ReadStorage offset byte_count => exact start_storage_transfer_ready h hattached hidle offset byte_count .In
  | WriteStorage offset byte_count => exact start_storage_transfer_ready h hattached hidle offset byte_count .Out
  | ReceiveDataOut byte_count =>
    simp only [start_plan] at hretains ⊢
    split at hretains
    case isTrue hzero =>
      rw [if_pos hzero]
      exact h.idle hretains ((complete_target_data_out_same slot cdb []).2.trans hidle)
    case isFalse hsome =>
      rw [if_neg hsome]
      have hbyte := hplan byte_count rfl
      refine h.start hretains rfl hattached ⟨Nat.pos_of_ne_zero hsome, ?_⟩
      rw [List.length_nil, Nat.zero_add]
      exact Nat.le_trans (Nat.le_of_lt hbyte) hcapacity
  | EjectMedium => exact h.idle hretains ((eject_guest_medium_active slot).trans hidle)

/-- A command to any target and unit leaves a ready bus, the refused ones included. -/
theorem start_command_ready (h : bus.Ready capacity) (hcapacity : 256 ≤ capacity) (target_id lun : Nat) (cdb : List U8) :
    (bus.start_command target_id lun cdb).2.Ready capacity := by
  unfold start_command
  split
  · exact h
  case h_2 slot hslot =>
    split
    · exact h
    case h_2 hfree =>
      have hidle : bus.active_transaction = none := by simpa [active_address] using hfree
      split
      · exact h
      case h_2 held hheld =>
        have hexecuted : Retains bus
            (bus.set_attachment slot { held with target := (ScsiTarget.execute held.target cdb).2 }) :=
          .set_attachment hheld rfl
        refine start_plan_ready (h.keep hexecuted rfl) hcapacity ?_ hidle cdb (ReceivesByte.execute held.target cdb)
        rw [hexecuted.occupied, hheld]
        rfl

theorem start_missing_lun_response_ready (h : bus.Ready capacity) {target_id : Nat}
    (hpresent : bus.target_present target_id = true) (cdb : List U8) :
    (bus.start_missing_lun_response target_id cdb).Ready capacity := by
  unfold start_missing_lun_response
  split
  · exact h.set_status .CheckCondition
  case h_2 data hdata =>
    split
    · exact h.set_status .Good
    case isFalse hsome =>
      have hattached := first_slot_attached hpresent
      have hretains : Retains bus (bus.set_transfer (bus.first_slot target_id) (.ImmediateDataIn data 0 .Good)) :=
        .of_targets rfl rfl
      refine Ready.set_phase (h.start hretains rfl hattached ?_) .DataIn
      simpa [ScsiTransfer.Holds, List.length_pos_iff] using hsome

/-- Executing the collected CDB leaves a ready bus in each of its outcomes. -/
theorem execute_connected_command_ready (h : bus.Ready capacity) (hcapacity : 256 ≤ capacity)
    {old connection : ScsiConnection} (hold : bus.connection = some old) (htarget : connection.target_id = old.target_id) :
    (bus.execute_connected_command connection).2.Ready capacity := by
  unfold execute_connected_command
  dsimp only
  generalize haddressed : (if (!connection.identified && cdb_byte connection.cdb 0 >>> 5 == 0) = true then
    { connection with lun := (cdb_byte connection.cdb 1 >>> 5).toNat } else connection) = addressed
  have hsame : addressed.target_id = old.target_id := by
    rw [← haddressed]
    split
    · exact htarget
    · exact htarget
  have hconnected := h.set_connection hold hsame
  have hstarted := start_command_ready hconnected hcapacity addressed.target_id addressed.lun addressed.cdb
  have hretains := @start_command_retains μ _ (bus.set_connection addressed) addressed.target_id addressed.lun
    addressed.cdb
  generalize (bus.set_connection addressed).start_command addressed.target_id addressed.lun addressed.cdb = result at *
  obtain ⟨result, next⟩ := result
  cases result with
  | error error => exact hstarted
  | ok start =>
    cases start with
    | Complete status => exact hstarted.set_status status
    | DataIn byte_count => exact hstarted.set_phase .DataIn
    | DataOut byte_count => exact hstarted.set_phase .DataOut
    | SelectionTimeout =>
      exact start_missing_lun_response_ready hstarted (hstarted.present addressed hretains.connection) addressed.cdb

/-! ### Data transfers -/

variable [LawfulStorageMedium μ] {σ : Type}

/-- A chunk to the initiator leaves the rest of the response, or no transaction. -/
theorem transfer_data_in_ready (h : bus.Ready capacity) (maximum_bytes : Nat) (accept : List U8 → σ → Bool × σ)
    (state : σ) : (bus.transfer_data_in maximum_bytes accept state).2.1.Ready capacity := by
  unfold transfer_data_in
  split
  · exact h
  · split
    case h_1 slot data next_offset final_status hactive =>
      have hattached := h.attached _ hactive
      simp only [transfer_immediate_data_in]
      split
      · exact h
      · split
        · exact h.idle (.of_targets rfl rfl) rfl
        case isFalse hmore =>
          refine h.start (.of_targets rfl rfl) rfl hattached ?_
          simp only [ScsiTransfer.Holds]
          omega
    case h_2 slot next_offset remaining hactive =>
      have hattached := h.attached _ hactive
      simp only [transfer_storage_data_in]
      split
      · exact h.idle (ended_retains slot false) (complete_target_storage_same slot false).2
      case h_2 held hheld =>
        split
        · exact h.idle (ended_retains slot false) (complete_target_storage_same slot false).2
        case h_2 medium hmedium =>
          have hsize := LawfulStorageMedium.read_size medium next_offset (min maximum_bytes remaining)
          generalize StorageMedium.read_exact_at medium next_offset (min maximum_bytes remaining) = result at hsize
          obtain ⟨bytes, read⟩ := result
          have hset : Retains bus (bus.set_attachment slot { held with backing := held.backing.set_medium read }) :=
            .set_attachment hheld (medium_size_set_medium hmedium hsize)
          cases bytes with
          | none => exact h.idle (hset.trans (ended_retains slot false)) (complete_target_storage_same slot false).2
          | some bytes =>
            dsimp only
            split
            · exact h.keep hset rfl
            · split
              · exact h.idle (hset.trans (ended_retains slot true)) (complete_target_storage_same slot true).2
              · exact h.start (hset.trans (.of_targets rfl rfl)) rfl hattached trivial
    · exact h

/-- A chunk from the initiator fills the payload up to the length the command asked for. -/
theorem transfer_data_out_ready (h : bus.Ready capacity) (maximum_bytes : Nat)
    (provide : Nat → σ → Option (List U8) × σ) (state : σ) :
    (bus.transfer_data_out maximum_bytes provide state).2.1.Ready capacity := by
  unfold transfer_data_out
  split
  · exact h
  · split
    case h_1 slot next_offset remaining hactive =>
      have hattached := h.attached _ hactive
      simp only [transfer_storage_data_out]
      split
      · exact h
      case h_2 provided last heq =>
        split
        · exact h.idle (ended_retains slot false) (complete_target_storage_same slot false).2
        case h_2 held hheld =>
          split
          · exact h.idle (ended_retains slot false) (complete_target_storage_same slot false).2
          case h_2 medium hmedium =>
            have hsize := LawfulStorageMedium.write_size medium next_offset
              (fill_buffer (min maximum_bytes remaining) provided)
            generalize StorageMedium.write_all_at medium next_offset (fill_buffer (min maximum_bytes remaining) provided) =
              written at hsize
            have hset : Retains bus (bus.set_attachment slot { held with backing := held.backing.set_medium written.2 }) :=
              .set_attachment hheld (medium_size_set_medium hmedium hsize)
            split
            · exact h.idle (hset.trans (ended_retains slot false)) (complete_target_storage_same slot false).2
            · split
              · exact h.idle (hset.trans (ended_retains slot true)) (complete_target_storage_same slot true).2
              · exact h.start (hset.trans (.of_targets rfl rfl)) rfl hattached trivial
    case h_2 slot cdb data remaining hactive =>
      have hattached := h.attached _ hactive
      obtain ⟨_, hpayload⟩ := h.holds _ hactive
      simp only [transfer_target_data_out]
      split
      · exact h
      case h_2 provided last heq =>
        split
        case isTrue hmore =>
          -- what moves from the rest to the payload keeps their sum
          refine h.start (.of_targets rfl rfl) rfl hattached ⟨by omega, ?_⟩
          rw [List.length_append, length_fill_buffer]
          omega
        · have hended : Retains bus { bus with active_transaction := none } := .of_targets rfl rfl
          have hcompleted := @complete_target_data_out_same _ _ { bus with active_transaction := none } _ slot cdb
            (data ++ fill_buffer (min maximum_bytes remaining) provided)
          exact h.idle (hended.trans (complete_target_data_out_retains slot cdb _)) hcompleted.2
    · exact h

/-! ### Every operation of the initiator -/

omit [LawfulStorageMedium μ] in
theorem finish_message_out_ready (h : bus.Ready capacity) {old connection : ScsiConnection}
    (hold : bus.connection = some old) (htarget : connection.target_id = old.target_id) :
    (bus.finish_message_out connection).Ready capacity := by
  obtain ⟨lun, identified, _, hfields⟩ :=
    read_messages_fields 0 connection.message_out { connection with message_out := [] } []
  simp only [finish_message_out]
  split
  · exact h.disconnect.idle (.of_targets rfl rfl) rfl
  · rw [hfields]
    split
    · exact h.set_connection hold htarget
    · exact h.set_connection hold htarget

/-- A byte from the initiator leaves a ready bus in every phase. -/
theorem write_information_ready (h : bus.Ready capacity) (hcapacity : 256 ≤ capacity) (value : U8) (last : Bool) :
    (bus.write_information value last).2.Ready capacity := by
  simp only [write_information]
  split
  · exact h
  case h_2 connection hconnection =>
    split
    · split
      · exact h
      · split
        · exact finish_message_out_ready h hconnection rfl
        · exact h.set_connection hconnection rfl
    · split
      · exact h
      · split
        · have hexecuted := @execute_connected_command_ready μ _ bus _ h hcapacity connection
            { connection with cdb := connection.cdb ++ [value] } hconnection rfl
          split
          case h_1 heq => rwa [heq] at hexecuted
          case h_2 heq => rwa [heq] at hexecuted
        · exact h.set_connection hconnection rfl
    · have htransfer := transfer_data_out_ready h 1 (fun _ (state : Unit) => (some [value], state)) ()
      split
      case h_1 heq => rwa [heq] at htransfer
      case h_2 result next state heq =>
        rw [heq] at htransfer
        exact htransfer.observe result
    · exact h

/-- A byte to the initiator leaves a ready bus in every phase. -/
theorem read_information_ready (h : bus.Ready capacity) : bus.read_information.2.Ready capacity := by
  unfold read_information
  split
  · exact h
  case h_2 connection hconnection =>
    split
    · have htransfer := transfer_data_in_ready h 1 (fun bytes (_ : Option U8) => (true, bytes[0]?)) none
      split
      case h_1 heq => rwa [heq] at htransfer
      case h_2 result next state heq =>
        rw [heq] at htransfer
        exact htransfer.observe result
    · exact h.set_connection hconnection rfl
    · split
      · exact h
      · exact h.set_connection hconnection rfl
    · exact h

/-- Every event of an initiator leaves a ready bus. -/
theorem step_ready (h : bus.Ready capacity) (hcapacity : 256 ≤ capacity) (event : InitiatorEvent) :
    (bus.step event).Ready capacity := by
  cases event with
  | Select target_id attention =>
    simp only [step, select]
    split
    · exact h
    · split
      · exact h
      case isFalse hfound =>
        have hpresent : bus.target_present target_id = true := by simpa using hfound
        refine ⟨h.sized, h.attached, h.holds, fun connection hsome => ?_⟩
        obtain rfl := Option.some.inj hsome
        exact hpresent
  | WriteInformation value last => exact write_information_ready h hcapacity value last
  | ReadInformation => exact read_information_ready h
  | AcknowledgeMessage attention =>
    simp only [step, acknowledge_message]
    split
    · exact h
    case h_2 connection hconnection =>
      split
      · exact h
      · split
        · exact h.set_connection hconnection rfl
        · split
          · split
            · exact h.disconnect
            · exact h.set_connection hconnection rfl
          · exact h
  | AssertAttention =>
    simp only [step, assert_attention]
    split
    · exact h
    case h_2 connection hconnection =>
      split
      · exact h
      · exact h.set_connection hconnection rfl
  | TransferDataIn maximum_bytes accept =>
    have htransfer := transfer_data_in_ready h maximum_bytes (fun bytes (state : Unit) => (accept bytes, state)) ()
    simp only [step, observe]
    split
    · exact htransfer.observe _
    · exact htransfer
  | TransferDataOut maximum_bytes provided =>
    have htransfer := transfer_data_out_ready h maximum_bytes (fun _ (state : Unit) => (provided, state)) ()
    simp only [step, observe]
    split
    · exact htransfer.observe _
    · exact htransfer
  | CancelTransaction => exact h.disconnect.idle (.of_targets rfl rfl) rfl

end ScsiBus

end se_device.scsi
