import SgiEmu.Device.Scsi

open se_core

namespace se_device.scsi

namespace ScsiBus

variable {τ μ σ : Type} {bus next : ScsiBus τ μ}

/-! ## What the operations of a transaction leave alone -/

theorem attachment_set_attachment (bus : ScsiBus τ μ) (slot other : Nat) (attachment : TargetAttachment τ μ) :
    (bus.set_attachment slot attachment).attachment other =
      if slot = other ∧ slot < TARGET_SLOT_COUNT then some attachment else bus.attachment other := by
  simp only [ScsiBus.attachment, set_attachment, Vector.getElem?_setIfInBounds]
  by_cases hsame : slot = other
  · subst hsame
    by_cases hbound : slot < TARGET_SLOT_COUNT
    · simp [hbound]
    · simp [hbound]
  · simp [hsame]

theorem slot_lt_of_attachment {slot : Nat} {held : TargetAttachment τ μ} (h : bus.attachment slot = some held) :
    slot < TARGET_SLOT_COUNT := by
  by_contra hbound
  simp [ScsiBus.attachment, Vector.getElem?_eq_none (Nat.not_lt.mp hbound)] at h

theorem medium_set_medium {backing : ScsiBacking μ} (medium : μ) :
    (backing.set_medium medium).medium = some medium := by
  cases backing with
  | Fixed _ => rfl
  | Removable _ => rfl

theorem length_fill_buffer (byte_count : Nat) (bytes : List U8) : (fill_buffer byte_count bytes).length = byte_count := by
  simp only [fill_buffer, List.length_take, List.length_append, List.length_replicate]
  omega

theorem start_missing_lun_response_targets (target_id : Nat) (cdb : List U8) :
    (bus.start_missing_lun_response target_id cdb).targets = bus.targets := by
  unfold start_missing_lun_response
  split
  · rfl
  · split
    · rfl
    · rfl

/-- Two buses with the same connection whose slots are occupied alike. -/
structure SameTopology (bus next : ScsiBus τ μ) : Prop where
  connection : next.connection = bus.connection
  occupied : ∀ slot, (next.attachment slot).isSome = (bus.attachment slot).isSome

namespace SameTopology

theorem refl (bus : ScsiBus τ μ) : SameTopology bus bus := ⟨rfl, fun _ => rfl⟩

theorem trans {last : ScsiBus τ μ} (h : SameTopology bus next) (hlast : SameTopology next last) :
    SameTopology bus last :=
  ⟨hlast.connection.trans h.connection, fun slot => (hlast.occupied slot).trans (h.occupied slot)⟩

end SameTopology

theorem occupied_set_attachment {slot : Nat} {attachment held : TargetAttachment τ μ}
    (h : bus.attachment slot = some held) : SameTopology bus (bus.set_attachment slot attachment) := by
  refine ⟨rfl, fun other => ?_⟩
  rw [attachment_set_attachment]
  split
  case isTrue hsame =>
    rw [← hsame.1, h]
    rfl
  case isFalse => rfl

variable [ScsiTarget τ]

theorem complete_target_storage_same (slot : Nat) (succeeded : Bool) :
    SameTopology bus (bus.complete_target_storage slot succeeded).2 ∧
      (bus.complete_target_storage slot succeeded).2.active_transaction = bus.active_transaction := by
  unfold complete_target_storage
  split
  · exact ⟨.refl bus, rfl⟩
  case h_2 held hheld => exact ⟨occupied_set_attachment hheld, rfl⟩

theorem complete_target_data_out_same (slot : Nat) (cdb data : List U8) :
    SameTopology bus (bus.complete_target_data_out slot cdb data).2 ∧
      (bus.complete_target_data_out slot cdb data).2.active_transaction = bus.active_transaction := by
  unfold complete_target_data_out
  split
  · exact ⟨.refl bus, rfl⟩
  case h_2 held hheld => exact ⟨occupied_set_attachment hheld, rfl⟩

/-! ## Starting a command -/

/-- The transaction a started command leaves, if any. -/
def StartsTransaction (slot : Nat) (start : ScsiCommandStart) (active : Option ScsiTransaction) : Prop :=
  match start with
  | .SelectionTimeout => active = none
  | .Complete _ => active = none
  | .DataIn _ => ∃ transfer, active = some ⟨slot, transfer⟩ ∧ transfer.direction = .In
  | .DataOut _ => ∃ transfer, active = some ⟨slot, transfer⟩ ∧ transfer.direction = .Out

theorem eject_guest_medium_spec (slot : Nat) (hidle : bus.active_transaction = none) :
    SameTopology bus (bus.eject_guest_medium slot).2 ∧
      StartsTransaction slot (bus.eject_guest_medium slot).1 (bus.eject_guest_medium slot).2.active_transaction := by
  unfold eject_guest_medium
  split
  · exact ⟨.refl bus, hidle⟩
  case h_2 held hheld =>
    split
    · exact ⟨.refl bus, hidle⟩
    · exact ⟨.refl bus, hidle⟩
    · exact ⟨occupied_set_attachment hheld, hidle⟩

variable [StorageMedium μ]

theorem start_storage_transfer_spec (slot offset byte_count : Nat) (direction : ScsiDataDirection)
    (hidle : bus.active_transaction = none) :
    SameTopology bus (bus.start_storage_transfer slot offset byte_count direction).2 ∧
      StartsTransaction slot (bus.start_storage_transfer slot offset byte_count direction).1
        (bus.start_storage_transfer slot offset byte_count direction).2.active_transaction := by
  unfold start_storage_transfer
  split
  · have hcompleted := bus.complete_target_storage_same slot true
    exact ⟨hcompleted.1, hcompleted.2.trans hidle⟩
  · split
    · have hcompleted := bus.complete_target_storage_same slot false
      exact ⟨hcompleted.1, hcompleted.2.trans hidle⟩
    · cases direction with
      | In => exact ⟨⟨rfl, fun _ => rfl⟩, _, rfl, rfl⟩
      | Out => exact ⟨⟨rfl, fun _ => rfl⟩, _, rfl, rfl⟩

theorem start_plan_spec (slot : Nat) (cdb : List U8) (plan : ScsiCommandPlan) (hidle : bus.active_transaction = none) :
    SameTopology bus (bus.start_plan slot cdb plan).2 ∧
      StartsTransaction slot (bus.start_plan slot cdb plan).1 (bus.start_plan slot cdb plan).2.active_transaction := by
  cases plan with
  | Complete status data_in =>
    simp only [start_plan]
    split
    · exact ⟨.refl bus, hidle⟩
    · exact ⟨⟨rfl, fun _ => rfl⟩, _, rfl, rfl⟩
  | ReadStorage offset byte_count => exact start_storage_transfer_spec slot offset byte_count .In hidle
  | WriteStorage offset byte_count => exact start_storage_transfer_spec slot offset byte_count .Out hidle
  | ReceiveDataOut byte_count =>
    simp only [start_plan]
    split
    · have hcompleted := bus.complete_target_data_out_same slot cdb []
      exact ⟨hcompleted.1, hcompleted.2.trans hidle⟩
    · exact ⟨⟨rfl, fun _ => rfl⟩, _, rfl, rfl⟩
  | EjectMedium => exact eject_guest_medium_spec slot hidle

/-- On a bus with no transaction every command of a real address starts. -/
theorem start_command_spec {target_id lun slot : Nat} (hslot : target_slot target_id lun = some slot)
    (cdb : List U8) (hidle : bus.active_transaction = none) :
    ∃ start, (bus.start_command target_id lun cdb).1 = .ok start ∧
      SameTopology bus (bus.start_command target_id lun cdb).2 ∧
      StartsTransaction slot start (bus.start_command target_id lun cdb).2.active_transaction := by
  have haddress : bus.active_address = none := by simp [active_address, hidle]
  simp only [start_command, hslot, haddress]
  split
  · exact ⟨_, rfl, .refl bus, hidle⟩
  case h_2 held hheld =>
    have hplan := @start_plan_spec τ μ (bus.set_attachment slot
      { held with target := (ScsiTarget.execute held.target cdb).2 }) _ _ slot cdb
      (ScsiTarget.execute held.target cdb).1 hidle
    exact ⟨_, rfl, (occupied_set_attachment hheld).trans hplan.1, hplan.2⟩

/-! ## Advancing a transfer -/

/-- How a transfer of one direction leaves its transaction: advanced, or ended
with the status of the target. -/
def Advances (direction : ScsiDataDirection) (bus next : ScsiBus τ μ) (result : ScsiTransferResult) : Prop :=
  ∃ slot transfer, bus.active_transaction = some ⟨slot, transfer⟩ ∧ transfer.direction = direction ∧
    SameTopology bus next ∧
    ((∃ transferred status, result = .Complete transferred status ∧ next.active_transaction = none) ∨
      ((∀ transferred status, result ≠ .Complete transferred status) ∧
        ∃ rest, next.active_transaction = some ⟨slot, rest⟩ ∧ rest.direction = direction))

omit [ScsiTarget τ] [StorageMedium μ] in
theorem transfer_immediate_data_in_spec {slot next_offset : Nat} {data : List U8} {final_status : ScsiStatus}
    (hactive : bus.active_transaction = some ⟨slot, .ImmediateDataIn data next_offset final_status⟩)
    (maximum_bytes : Nat) (accept : List U8 → σ → Bool × σ) (state : σ) :
    Advances .In bus
      (bus.transfer_immediate_data_in slot data next_offset final_status maximum_bytes accept state).2.1
      (bus.transfer_immediate_data_in slot data next_offset final_status maximum_bytes accept state).1 := by
  refine ⟨slot, _, hactive, rfl, ?_⟩
  simp only [transfer_immediate_data_in]
  split
  · exact ⟨.refl bus, Or.inr ⟨by simp, _, hactive, rfl⟩⟩
  · split
    · exact ⟨⟨rfl, fun _ => rfl⟩, Or.inl ⟨_, _, rfl, rfl⟩⟩
    · exact ⟨⟨rfl, fun _ => rfl⟩, Or.inr ⟨by simp, _, rfl, rfl⟩⟩

omit [StorageMedium μ] in
/-- A transfer that ends closes its transaction before the target completes it. -/
theorem ended_spec (slot : Nat) (succeeded : Bool) :
    SameTopology bus ({ bus with active_transaction := none }.complete_target_storage slot succeeded).2 ∧
      ({ bus with active_transaction := none }.complete_target_storage slot succeeded).2.active_transaction = none := by
  have hended : SameTopology bus { bus with active_transaction := none } := ⟨rfl, fun _ => rfl⟩
  have hcompleted := { bus with active_transaction := none }.complete_target_storage_same slot succeeded
  exact ⟨hended.trans hcompleted.1, hcompleted.2⟩

theorem transfer_storage_data_in_spec {slot next_offset remaining : Nat}
    (hactive : bus.active_transaction = some ⟨slot, .StorageDataIn next_offset remaining⟩)
    (maximum_bytes : Nat) (accept : List U8 → σ → Bool × σ) (state : σ) :
    Advances .In bus (bus.transfer_storage_data_in slot next_offset remaining maximum_bytes accept state).2.1
      (bus.transfer_storage_data_in slot next_offset remaining maximum_bytes accept state).1 := by
  refine ⟨slot, _, hactive, rfl, ?_⟩
  simp only [transfer_storage_data_in]
  split
  · have hended := bus.ended_spec slot false
    exact ⟨hended.1, Or.inl ⟨_, _, rfl, hended.2⟩⟩
  case h_2 held hheld =>
    split
    · have hended := bus.ended_spec slot false
      exact ⟨hended.1, Or.inl ⟨_, _, rfl, hended.2⟩⟩
    case h_2 medium hmedium =>
      split
      case h_1 medium' heq =>
        have hset := @occupied_set_attachment _ _ bus slot
          { held with backing := held.backing.set_medium medium' } held hheld
        have hended := (bus.set_attachment slot { held with backing := held.backing.set_medium medium' }).ended_spec slot
          false
        exact ⟨hset.trans hended.1, Or.inl ⟨_, _, rfl, hended.2⟩⟩
      case h_2 bytes medium' heq =>
        have hset := @occupied_set_attachment _ _ bus slot
          { held with backing := held.backing.set_medium medium' } held hheld
        split
        · exact ⟨hset, Or.inr ⟨by simp, _, hactive, rfl⟩⟩
        · split
          · have hended := (bus.set_attachment slot
              { held with backing := held.backing.set_medium medium' }).ended_spec slot true
            exact ⟨hset.trans hended.1, Or.inl ⟨_, _, rfl, hended.2⟩⟩
          · exact ⟨hset.trans ⟨rfl, fun _ => rfl⟩, Or.inr ⟨by simp, _, rfl, rfl⟩⟩

theorem transfer_storage_data_out_spec {slot next_offset remaining : Nat}
    (hactive : bus.active_transaction = some ⟨slot, .StorageDataOut next_offset remaining⟩)
    (maximum_bytes : Nat) (provide : Nat → σ → Option (List U8) × σ) (state : σ) :
    Advances .Out bus (bus.transfer_storage_data_out slot next_offset remaining maximum_bytes provide state).2.1
      (bus.transfer_storage_data_out slot next_offset remaining maximum_bytes provide state).1 := by
  refine ⟨slot, _, hactive, rfl, ?_⟩
  simp only [transfer_storage_data_out]
  split
  · exact ⟨.refl bus, Or.inr ⟨by simp, _, hactive, rfl⟩⟩
  case h_2 provided state' heq =>
    split
    · have hended := bus.ended_spec slot false
      exact ⟨hended.1, Or.inl ⟨_, _, rfl, hended.2⟩⟩
    case h_2 held hheld =>
      split
      · have hended := bus.ended_spec slot false
        exact ⟨hended.1, Or.inl ⟨_, _, rfl, hended.2⟩⟩
      case h_2 medium hmedium =>
        generalize StorageMedium.write_all_at medium next_offset (fill_buffer (min maximum_bytes remaining) provided) =
          written
        have hset := @occupied_set_attachment _ _ bus slot
          { held with backing := held.backing.set_medium written.2 } held hheld
        split
        · have hended := (bus.set_attachment slot
            { held with backing := held.backing.set_medium written.2 }).ended_spec slot false
          exact ⟨hset.trans hended.1, Or.inl ⟨_, _, rfl, hended.2⟩⟩
        · split
          · have hended := (bus.set_attachment slot
              { held with backing := held.backing.set_medium written.2 }).ended_spec slot true
            exact ⟨hset.trans hended.1, Or.inl ⟨_, _, rfl, hended.2⟩⟩
          · exact ⟨hset.trans ⟨rfl, fun _ => rfl⟩, Or.inr ⟨by simp, _, rfl, rfl⟩⟩

omit [StorageMedium μ] in
theorem transfer_target_data_out_spec {slot remaining : Nat} {cdb data : List U8}
    (hactive : bus.active_transaction = some ⟨slot, .TargetDataOut cdb data remaining⟩)
    (maximum_bytes : Nat) (provide : Nat → σ → Option (List U8) × σ) (state : σ) :
    Advances .Out bus (bus.transfer_target_data_out slot cdb data remaining maximum_bytes provide state).2.1
      (bus.transfer_target_data_out slot cdb data remaining maximum_bytes provide state).1 := by
  refine ⟨slot, _, hactive, rfl, ?_⟩
  simp only [transfer_target_data_out]
  split
  · exact ⟨.refl bus, Or.inr ⟨by simp, _, hactive, rfl⟩⟩
  case h_2 provided state' heq =>
    split
    · exact ⟨⟨rfl, fun _ => rfl⟩, Or.inr ⟨by simp, _, rfl, rfl⟩⟩
    · have hended : SameTopology bus { bus with active_transaction := none } := ⟨rfl, fun _ => rfl⟩
      have hcompleted := { bus with active_transaction := none }.complete_target_data_out_same slot cdb
        (data ++ fill_buffer (min maximum_bytes remaining) provided)
      exact ⟨hended.trans hcompleted.1, Or.inl ⟨_, _, rfl, hcompleted.2⟩⟩

/-- A Data In transfer advances the transaction of that direction, or refuses
without touching the bus where there is none. -/
theorem transfer_data_in_spec (maximum_bytes : Nat) (accept : List U8 → σ → Bool × σ) (state : σ) :
    (∃ result, (bus.transfer_data_in maximum_bytes accept state).1 = .ok result ∧
        Advances .In bus (bus.transfer_data_in maximum_bytes accept state).2.1 result) ∨
      (∃ error, (bus.transfer_data_in maximum_bytes accept state).1 = .error error ∧
        (bus.transfer_data_in maximum_bytes accept state).2 = (bus, state) ∧
        (maximum_bytes ≠ 0 → bus.active_data_direction ≠ some .In)) := by
  unfold transfer_data_in
  split
  case isTrue hzero => exact Or.inr ⟨_, rfl, rfl, fun h => absurd hzero h⟩
  case isFalse =>
    split
    case h_1 hactive => exact Or.inl ⟨_, rfl, transfer_immediate_data_in_spec hactive maximum_bytes accept state⟩
    case h_2 hactive => exact Or.inl ⟨_, rfl, transfer_storage_data_in_spec hactive maximum_bytes accept state⟩
    case h_3 himmediate hstorage =>
      refine Or.inr ⟨_, rfl, rfl, fun _ hdirection => ?_⟩
      obtain ⟨⟨slot, transfer⟩, hactive, hin⟩ := Option.map_eq_some_iff.mp hdirection
      cases transfer with
      | ImmediateDataIn data next_offset final_status => exact himmediate _ _ _ _ hactive
      | StorageDataIn next_offset remaining => exact hstorage _ _ _ hactive
      | StorageDataOut next_offset remaining => simp [ScsiTransfer.direction] at hin
      | TargetDataOut cdb data remaining => simp [ScsiTransfer.direction] at hin

theorem transfer_data_out_spec (maximum_bytes : Nat) (provide : Nat → σ → Option (List U8) × σ) (state : σ) :
    (∃ result, (bus.transfer_data_out maximum_bytes provide state).1 = .ok result ∧
        Advances .Out bus (bus.transfer_data_out maximum_bytes provide state).2.1 result) ∨
      (∃ error, (bus.transfer_data_out maximum_bytes provide state).1 = .error error ∧
        (bus.transfer_data_out maximum_bytes provide state).2 = (bus, state) ∧
        (maximum_bytes ≠ 0 → bus.active_data_direction ≠ some .Out)) := by
  unfold transfer_data_out
  split
  case isTrue hzero => exact Or.inr ⟨_, rfl, rfl, fun h => absurd hzero h⟩
  case isFalse =>
    split
    case h_1 hactive => exact Or.inl ⟨_, rfl, transfer_storage_data_out_spec hactive maximum_bytes provide state⟩
    case h_2 hactive => exact Or.inl ⟨_, rfl, transfer_target_data_out_spec hactive maximum_bytes provide state⟩
    case h_3 hstorage htarget =>
      refine Or.inr ⟨_, rfl, rfl, fun _ hdirection => ?_⟩
      obtain ⟨⟨slot, transfer⟩, hactive, hout⟩ := Option.map_eq_some_iff.mp hdirection
      cases transfer with
      | ImmediateDataIn data next_offset final_status => simp [ScsiTransfer.direction] at hout
      | StorageDataIn next_offset remaining => simp [ScsiTransfer.direction] at hout
      | StorageDataOut next_offset remaining => exact hstorage _ _ _ hactive
      | TargetDataOut cdb data remaining => exact htarget _ _ _ _ hactive

end ScsiBus

end se_device.scsi
