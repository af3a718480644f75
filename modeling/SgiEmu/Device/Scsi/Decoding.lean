import Mathlib.Logic.Relation
import SgiEmu.Device.Scsi.Accepts

open se_core

namespace se_device.scsi

/-! ## Targets between two commands -/

/-- A call of the bus into a target, other than to decode a command. -/
inductive Completion {τ : Type} [ScsiTarget τ] : τ → τ → Prop where
  | storage (target : τ) (succeeded : Bool) : Completion target (ScsiTarget.complete_storage target succeeded).2
  | data_out (target : τ) (cdb data : List U8) : Completion target (ScsiTarget.complete_data_out target cdb data).2
  | medium_removed (target : τ) (removable : ScsiRemovableTarget τ) (origin : ScsiMediaChangeOrigin)
      (h : ScsiTarget.removable_media target = some removable) : Completion target (removable.medium_removed target origin)

/-- Any number of such calls. -/
def Completed {τ : Type} [ScsiTarget τ] : τ → τ → Prop := Relation.ReflTransGen Completion

/-! ## A target that keeps the descriptors it decodes -/

structure Decoding (τ : Type) where
  target : τ
  decoded : List (List U8)

namespace Decoding

variable {τ : Type}

def map (change : τ → τ) (decoding : Decoding τ) : Decoding τ := { decoding with target := change decoding.target }

/-- The hooks of a removable target, which decode nothing. -/
def removable (hooks : ScsiRemovableTarget τ) : ScsiRemovableTarget (Decoding τ) where
  validate_medium decoding := hooks.validate_medium decoding.target
  medium_inserted decoding size_bytes origin := decoding.map (hooks.medium_inserted · size_bytes origin)
  medium_removed decoding origin := decoding.map (hooks.medium_removed · origin)
  removal_prevented decoding := hooks.removal_prevented decoding.target
  release_removal_prevention decoding := decoding.map hooks.release_removal_prevention

variable [ScsiTarget τ]

instance : ScsiTarget (Decoding τ) where
  backing_requirement decoding := ScsiTarget.backing_requirement decoding.target
  removable_media decoding := (ScsiTarget.removable_media decoding.target).map removable
  execute decoding cdb :=
    ((ScsiTarget.execute decoding.target cdb).1,
      { target := (ScsiTarget.execute decoding.target cdb).2, decoded := decoding.decoded ++ [cdb] })
  complete_storage decoding succeeded :=
    ((ScsiTarget.complete_storage decoding.target succeeded).1,
      decoding.map fun target => (ScsiTarget.complete_storage target succeeded).2)
  complete_data_out decoding cdb data :=
    ((ScsiTarget.complete_data_out decoding.target cdb data).1,
      decoding.map fun target => (ScsiTarget.complete_data_out target cdb data).2)
  accepts_snapshot decoding snapshot := ScsiTarget.accepts_snapshot decoding.target snapshot
  restore_snapshot decoding snapshot :=
    ((ScsiTarget.restore_snapshot decoding.target snapshot).1,
      decoding.map fun target => (ScsiTarget.restore_snapshot target snapshot).2)

theorem decoded_of_completion {decoding next : Decoding τ} (h : Completion decoding next) :
    next.decoded = decoding.decoded := by
  cases h with
  | storage => rfl
  | data_out => rfl
  | medium_removed hooks origin h =>
    obtain ⟨target_hooks, _, rfl⟩ := Option.map_eq_some_iff.mp h
    rfl

theorem decoded_of_completed {decoding next : Decoding τ} (h : Completed decoding next) :
    next.decoded = decoding.decoded := by
  induction h with
  | refl => rfl
  | tail _ hlast ih => exact (decoded_of_completion hlast).trans ih

end Decoding

namespace ScsiBus

variable {τ μ σ : Type} {bus next last : ScsiBus τ μ}

section Completes

variable [ScsiTarget τ]

/-- Two buses whose targets differ by such calls only. -/
structure Completes (bus next : ScsiBus τ μ) : Prop where
  present : ∀ slot held, bus.attachment slot = some held →
    ∃ after, next.attachment slot = some after ∧ Completed held.target after.target
  absent : ∀ slot, bus.attachment slot = none → next.attachment slot = none

/-- The target at a slot decodes one descriptor, and no other target decodes. -/
def Decodes (slot : Nat) (cdb : List U8) (bus next : ScsiBus τ μ) : Prop :=
  ∃ held, bus.attachment slot = some held ∧
    Completes (bus.set_attachment slot { held with target := (ScsiTarget.execute held.target cdb).2 }) next

namespace Completes

theorem of_targets (h : next.targets = bus.targets) : Completes bus next := by
  have hsame (slot : Nat) : next.attachment slot = bus.attachment slot := by rw [ScsiBus.attachment, h, ScsiBus.attachment]
  exact ⟨fun slot held hheld => ⟨held, (hsame slot).trans hheld, .refl⟩, fun slot hnone => (hsame slot).trans hnone⟩

theorem refl (bus : ScsiBus τ μ) : Completes bus bus := of_targets rfl

theorem trans (h : Completes bus next) (hlast : Completes next last) : Completes bus last := by
  constructor
  · intro slot held hheld
    obtain ⟨between, hbetween, hfirst⟩ := h.present slot held hheld
    obtain ⟨after, hafter, hsecond⟩ := hlast.present slot between hbetween
    exact ⟨after, hafter, Relation.ReflTransGen.trans hfirst hsecond⟩
  · intro slot hnone
    exact hlast.absent slot (h.absent slot hnone)

theorem set_attachment {slot : Nat} {held attachment : TargetAttachment τ μ} (hheld : bus.attachment slot = some held)
    (h : Completed held.target attachment.target) : Completes bus (bus.set_attachment slot attachment) := by
  have hbound := slot_lt_of_attachment hheld
  constructor
  · intro other found hfound
    rw [attachment_set_attachment]
    split
    case isTrue hsame =>
      obtain rfl : held = found := Option.some.inj (hheld.symm.trans (hsame.1 ▸ hfound))
      exact ⟨attachment, rfl, h⟩
    case isFalse => exact ⟨found, hfound, .refl⟩
  · intro other hnone
    rw [attachment_set_attachment, if_neg ?_]
    · exact hnone
    · rintro ⟨rfl, _⟩
      exact absurd (hheld.symm.trans hnone) (by simp)

end Completes

theorem Decodes.trans {slot : Nat} {cdb : List U8} (h : Decodes slot cdb bus next) (hlast : Completes next last) :
    Decodes slot cdb bus last := by
  obtain ⟨held, hheld, hnext⟩ := h
  exact ⟨held, hheld, hnext.trans hlast⟩

/-- Decoding depends on the targets of the bus alone. -/
theorem Decodes.of_targets {slot : Nat} {cdb : List U8} (h : Decodes slot cdb next last) (htargets : next.targets = bus.targets) :
    Decodes slot cdb bus last := by
  obtain ⟨held, hheld, hlast⟩ := h
  have hsame : bus.attachment slot = next.attachment slot := by rw [ScsiBus.attachment, ScsiBus.attachment, htargets]
  have hset : Completes (bus.set_attachment slot { held with target := (ScsiTarget.execute held.target cdb).2 })
      (next.set_attachment slot { held with target := (ScsiTarget.execute held.target cdb).2 }) :=
    .of_targets (by simp only [ScsiBus.set_attachment, htargets])
  exact ⟨held, hsame.trans hheld, hset.trans hlast⟩

theorem complete_target_storage_completes (slot : Nat) (succeeded : Bool) :
    Completes bus (bus.complete_target_storage slot succeeded).2 := by
  unfold complete_target_storage
  split
  · exact .refl bus
  case h_2 held hheld => exact .set_attachment hheld (Relation.ReflTransGen.single (.storage held.target succeeded))

theorem complete_target_data_out_completes (slot : Nat) (cdb data : List U8) :
    Completes bus (bus.complete_target_data_out slot cdb data).2 := by
  unfold complete_target_data_out
  split
  · exact .refl bus
  case h_2 held hheld => exact .set_attachment hheld (Relation.ReflTransGen.single (.data_out held.target cdb data))

theorem eject_guest_medium_completes (slot : Nat) : Completes bus (bus.eject_guest_medium slot).2 := by
  unfold eject_guest_medium
  split
  · exact .refl bus
  case h_2 held hheld =>
    split
    · exact .refl bus
    · exact .refl bus
    · refine .set_attachment hheld ?_
      dsimp only
      split
      case h_1 removable hremovable =>
        exact Relation.ReflTransGen.single (.medium_removed held.target removable .GuestCommand hremovable)
      case h_2 => exact .refl

/-- A transfer that ends closes its transaction, and the target completes it. -/
theorem ended_completes (slot : Nat) (succeeded : Bool) :
    Completes bus ({ bus with active_transaction := none }.complete_target_storage slot succeeded).2 := by
  have hended : Completes bus { bus with active_transaction := none } := .of_targets rfl
  exact hended.trans (complete_target_storage_completes slot succeeded)

variable [StorageMedium μ]

/-! ## Starting a command -/

theorem start_storage_transfer_completes (slot offset byte_count : Nat) (direction : ScsiDataDirection) :
    Completes bus (bus.start_storage_transfer slot offset byte_count direction).2 := by
  unfold start_storage_transfer
  split
  · exact complete_target_storage_completes slot true
  · split
    · exact complete_target_storage_completes slot false
    · cases direction with
      | In => exact .of_targets rfl
      | Out => exact .of_targets rfl

theorem start_plan_completes (slot : Nat) (cdb : List U8) (plan : ScsiCommandPlan) :
    Completes bus (bus.start_plan slot cdb plan).2 := by
  cases plan with
  | Complete status data_in =>
    simp only [start_plan]
    split
    · exact .refl bus
    · exact .of_targets rfl
  | ReadStorage offset byte_count => exact start_storage_transfer_completes slot offset byte_count .In
  | WriteStorage offset byte_count => exact start_storage_transfer_completes slot offset byte_count .Out
  | ReceiveDataOut byte_count =>
    simp only [start_plan]
    split
    · exact complete_target_data_out_completes slot cdb []
    · exact .of_targets rfl
  | EjectMedium => exact eject_guest_medium_completes slot

/-- A command started at an attached slot is decoded there. -/
theorem start_command_decodes {target_id lun slot : Nat} {held : TargetAttachment τ μ}
    (hslot : target_slot target_id lun = some slot) (hheld : bus.attachment slot = some held) (cdb : List U8)
    (hidle : bus.active_transaction = none) : Decodes slot cdb bus (bus.start_command target_id lun cdb).2 := by
  have haddress : bus.active_address = none := by simp [active_address, hidle]
  refine ⟨held, hheld, ?_⟩
  simp only [start_command, hslot, haddress, hheld]
  exact start_plan_completes slot cdb _

/-! ## Information bytes -/

omit [ScsiTarget τ] [StorageMedium μ] in
theorem observe_transfer_result_targets (result : ScsiTransferResult) :
    (bus.observe_transfer_result result).targets = bus.targets := by
  cases result with
  | Rejected => rfl
  | More transferred remaining => rfl
  | Complete transferred status => rfl

theorem transfer_storage_data_in_completes (slot next_offset remaining maximum_bytes : Nat)
    (accept : List U8 → σ → Bool × σ) (state : σ) :
    Completes bus (bus.transfer_storage_data_in slot next_offset remaining maximum_bytes accept state).2.1 := by
  simp only [transfer_storage_data_in]
  split
  · exact ended_completes slot false
  case h_2 held hheld =>
    split
    · exact ended_completes slot false
    · split
      case h_1 medium' _ =>
        have hread : Completes bus (bus.set_attachment slot { held with backing := held.backing.set_medium medium' }) :=
          .set_attachment hheld .refl
        exact hread.trans (ended_completes slot false)
      case h_2 bytes medium' _ =>
        have hread : Completes bus (bus.set_attachment slot { held with backing := held.backing.set_medium medium' }) :=
          .set_attachment hheld .refl
        split
        · exact hread
        · split
          · exact hread.trans (ended_completes slot true)
          · exact hread.trans (.of_targets rfl)

theorem transfer_data_in_completes (maximum_bytes : Nat) (accept : List U8 → σ → Bool × σ) (state : σ) :
    Completes bus (bus.transfer_data_in maximum_bytes accept state).2.1 := by
  unfold transfer_data_in
  split
  · exact .refl bus
  · split
    case h_1 slot data next_offset final_status _ =>
      refine .of_targets ?_
      simp only [transfer_immediate_data_in]
      split
      · rfl
      · split
        · rfl
        · rfl
    case h_2 slot next_offset remaining _ =>
      exact transfer_storage_data_in_completes slot next_offset remaining maximum_bytes accept state
    case h_3 => exact .refl bus

theorem read_information_completes : Completes bus bus.read_information.2 := by
  unfold read_information
  split
  · exact .refl bus
  · split
    · have htransferred : Completes bus _ :=
        @transfer_data_in_completes _ _ (Option U8) bus _ _ 1 (fun bytes _ => (true, bytes[0]?)) none
      generalize bus.transfer_data_in 1 (fun bytes (_ : Option U8) => (true, bytes[0]?)) none = transferred
        at htransferred ⊢
      obtain ⟨outcome, next, state⟩ := transferred
      cases outcome with
      | error error => exact htransferred
      | ok result => exact htransferred.trans (.of_targets (observe_transfer_result_targets result))
    · exact .of_targets rfl
    · split
      · exact .refl bus
      · exact .of_targets rfl
    · exact .refl bus

/-! ## Complete descriptors -/

/-- A phase that follows the command phase. -/
def Commanded (bus : ScsiBus τ μ) : Prop :=
  bus.phase = some .DataIn ∨ bus.phase = some .DataOut ∨ bus.phase = some .Status

/-- The connection of a complete descriptor, with the logical unit of the identify
message or, where the group of the descriptor has one, of the descriptor. -/
def commanded_connection (connection : ScsiConnection) : ScsiConnection :=
  if !connection.identified && cdb_byte connection.cdb 0 >>> 5 == 0 then
    { connection with lun := (cdb_byte connection.cdb 1 >>> 5).toNat }
  else connection

theorem commanded_connection_fields (connection : ScsiConnection) :
    (commanded_connection connection).target_id = connection.target_id ∧
      (commanded_connection connection).cdb = connection.cdb := by
  unfold commanded_connection
  split
  · exact ⟨rfl, rfl⟩
  · exact ⟨rfl, rfl⟩

omit [ScsiTarget τ] [StorageMedium μ] in
theorem set_status_commanded {connection : ScsiConnection} (h : bus.connection = some connection) (status : ScsiStatus) :
    (bus.set_status status).phase = some .Status := by simp [set_status, phase, h]

omit [ScsiTarget τ] [StorageMedium μ] in
theorem set_phase_commanded {connection : ScsiConnection} (h : bus.connection = some connection) (phase : ScsiPhase) :
    (bus.set_phase phase).phase = some phase := by simp [set_phase, ScsiBus.phase, h]

omit [ScsiTarget τ] [StorageMedium μ] in
theorem start_missing_lun_response_commanded {connection : ScsiConnection} (h : bus.connection = some connection)
    (target_id : Nat) (cdb : List U8) : (bus.start_missing_lun_response target_id cdb).Commanded := by
  unfold start_missing_lun_response
  split
  · exact Or.inr (Or.inr (set_status_commanded h .CheckCondition))
  · split
    · exact Or.inr (Or.inr (set_status_commanded h .Good))
    · exact Or.inl (@set_phase_commanded _ _ (bus.set_transfer (bus.first_slot target_id) _) connection h .DataIn)

/-- What follows a started command is phases and responses. -/
theorem execute_connected_command_started {connection : ScsiConnection} {slot : Nat}
    (hidle : bus.active_transaction = none)
    (hslot : target_slot connection.target_id (commanded_connection connection).lun = some slot) :
    (bus.execute_connected_command connection).1 = .ok () ∧
      (bus.execute_connected_command connection).2.targets =
        ((bus.set_connection (commanded_connection connection)).start_command connection.target_id
          (commanded_connection connection).lun connection.cdb).2.targets ∧
      (bus.execute_connected_command connection).2.Commanded := by
  obtain ⟨htarget, hcdb⟩ := commanded_connection_fields connection
  obtain ⟨start, hstart, hsame, _⟩ :=
    @start_command_spec _ _ (bus.set_connection (commanded_connection connection)) _ _ _ _ _ hslot connection.cdb hidle
  have hconnection := hsame.connection.trans
    (show (bus.set_connection (commanded_connection connection)).connection = some (commanded_connection connection) from rfl)
  unfold execute_connected_command
  rw [← commanded_connection]
  simp only [htarget, hcdb]
  generalize (bus.set_connection (commanded_connection connection)).start_command connection.target_id
    (commanded_connection connection).lun connection.cdb = result at hstart hconnection ⊢
  obtain ⟨result, next⟩ := result
  obtain rfl := hstart
  cases start with
  | Complete status => exact ⟨rfl, rfl, Or.inr (Or.inr (set_status_commanded hconnection status))⟩
  | DataIn byte_count => exact ⟨rfl, rfl, Or.inl (set_phase_commanded hconnection .DataIn)⟩
  | DataOut byte_count => exact ⟨rfl, rfl, Or.inr (Or.inl (set_phase_commanded hconnection .DataOut))⟩
  | SelectionTimeout =>
    exact ⟨rfl, start_missing_lun_response_targets _ _, start_missing_lun_response_commanded hconnection _ _⟩

/-- A complete descriptor is decoded by the logical unit it is for. -/
theorem execute_connected_command_decodes {connection : ScsiConnection} {slot : Nat} {held : TargetAttachment τ μ}
    (hidle : bus.active_transaction = none)
    (hslot : target_slot connection.target_id (commanded_connection connection).lun = some slot)
    (hheld : bus.attachment slot = some held) :
    Decodes slot connection.cdb bus (bus.execute_connected_command connection).2 := by
  have hset : (bus.set_connection (commanded_connection connection)).attachment slot = some held := hheld
  have hstarted : Decodes slot connection.cdb bus _ :=
    (start_command_decodes hslot hset connection.cdb hidle).of_targets rfl
  exact hstarted.trans (.of_targets (execute_connected_command_started hidle hslot).2.1)

/-- A complete descriptor for a missing logical unit is decoded by nobody. -/
theorem execute_connected_command_missing {connection : ScsiConnection} {slot : Nat}
    (hidle : bus.active_transaction = none)
    (hslot : target_slot connection.target_id (commanded_connection connection).lun = some slot)
    (hnone : bus.attachment slot = none) : Completes bus (bus.execute_connected_command connection).2 := by
  refine .of_targets ((execute_connected_command_started hidle hslot).2.1.trans ?_)
  have haddress : (bus.set_connection (commanded_connection connection)).active_address = none := by
    simp [active_address, ScsiBus.set_connection, hidle]
  have hmissing : (bus.set_connection (commanded_connection connection)).attachment slot = none := hnone
  simp only [start_command, hslot, haddress, hmissing]
  rfl

/-! ## Selection -/

/-- No connection and no transaction, as a selection requires. -/
def Free (bus : ScsiBus τ μ) : Prop := bus.connection = none ∧ bus.active_transaction = none

omit [ScsiTarget τ] [StorageMedium μ] in
theorem Free.consistent (h : bus.Free) : bus.PhaseConsistent := by
  obtain ⟨hconnection, hactive⟩ := h
  refine ⟨fun _ => hactive, fun connection hsome => ?_, fun connection hsome => ?_⟩
  · exact absurd (hconnection.symm.trans hsome) (by simp)
  · exact absurd (hconnection.symm.trans hsome) (by simp)

/-- The connection a selection opens. -/
def opened_connection (target_id : Nat) (attention : Bool) : ScsiConnection :=
  { target_id, lun := 0, identified := false, phase := if attention then .MessageOut else .Command
    return_phase := .Command, cdb := [], message_out := [], message_in := [], message_offset := 0, status := .Good }

omit [ScsiTarget τ] [StorageMedium μ] in
theorem Free.select (h : bus.Free) {target_id : Nat} (hpresent : bus.target_present target_id = true) (attention : Bool) :
    bus.select target_id attention = (.ok true, bus.set_connection (opened_connection target_id attention)) := by
  obtain ⟨hconnection, hactive⟩ := h
  simp only [ScsiBus.select, hconnection, hactive, hpresent, Option.isSome_none, Bool.or_self, Bool.false_eq_true,
    if_false, Bool.not_true]
  rfl

/-- An identify message names the logical unit of an opened connection. -/
theorem identify_opened (target_id : Nat) (lun : U8) :
    (bus.set_connection (opened_connection target_id true)).write_information (0x80 ||| lun) true =
      (.ok true, bus.set_connection
        { opened_connection target_id false with lun := (lun &&& 7).toNat, identified := true }) := by
  have hidentify : (0x80 ||| lun) &&& 0x80 ≠ 0 := by
    intro hzero
    have hbit := congrArg (fun value : U8 => value.getLsbD 7) hzero
    simp at hbit
  have hlun : (0x80 ||| lun) &&& 7 = lun &&& 7 := by
    rw [BitVec.and_or_distrib_right]
    simp
  have hfinished := @finish_identify _ _ (bus.set_connection (opened_connection target_id true))
    (opened_connection target_id true) rfl _ hidentify
  rw [hlun] at hfinished
  have hsent : (bus.set_connection (opened_connection target_id true)).write_information (0x80 ||| lun) true =
      (.ok true, (bus.set_connection (opened_connection target_id true)).finish_message_out
        { opened_connection target_id true with message_out := [0x80 ||| lun] }) := rfl
  rw [hsent]
  exact congrArg (Prod.mk (Except.ok true)) hfinished

end Completes

/-! ## What the targets of a bus have decoded -/

/-- The descriptors the target at a slot has decoded. -/
def decoded (bus : ScsiBus (Decoding τ) μ) (slot : Nat) : Option (List (List U8)) :=
  (bus.attachment slot).map (·.target.decoded)

variable [ScsiTarget τ]

theorem Completes.decoded {bus next : ScsiBus (Decoding τ) μ} (h : Completes bus next) (slot : Nat) :
    next.decoded slot = bus.decoded slot := by
  cases hheld : bus.attachment slot with
  | none => simp only [ScsiBus.decoded, hheld, h.absent slot hheld]
  | some held =>
    obtain ⟨after, hafter, hcompleted⟩ := h.present slot held hheld
    simp only [ScsiBus.decoded, hheld, hafter, Option.map_some, Decoding.decoded_of_completed hcompleted]

theorem Decodes.decoded {bus next : ScsiBus (Decoding τ) μ} {slot : Nat} {cdb : List U8} (h : Decodes slot cdb bus next) :
    (∃ before, bus.decoded slot = some before ∧ next.decoded slot = some (before ++ [cdb])) ∧
      ∀ other, other ≠ slot → next.decoded other = bus.decoded other := by
  obtain ⟨held, hheld, hnext⟩ := h
  have hbound := slot_lt_of_attachment hheld
  constructor
  · refine ⟨held.target.decoded, by simp only [ScsiBus.decoded, hheld, Option.map_some], ?_⟩
    rw [hnext.decoded, ScsiBus.decoded, attachment_set_attachment, if_pos ⟨rfl, hbound⟩]
    rfl
  · intro other hother
    rw [hnext.decoded, ScsiBus.decoded, attachment_set_attachment, if_neg (fun hsame => hother hsame.1.symm)]
    rfl

end ScsiBus

end se_device.scsi
