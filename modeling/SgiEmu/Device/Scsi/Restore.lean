import Mathlib.Data.List.Nodup
import SgiEmu.Device.Scsi.Operations

open se_core se_device.scsi_disk se_device.scsi_cdrom

namespace se_device.scsi

namespace ScsiBus

variable {μ : Type} [StorageMedium μ] {bus : ScsiBus ScsiTargetSnapshot μ} {snapshot : ScsiBusSnapshot}
  {states : TargetStates}

/-! ## Accepted and refused snapshots -/

/-- The checks of a snapshot one by one. -/
structure Accepts (bus : ScsiBus ScsiTargetSnapshot μ) (snapshot : ScsiBusSnapshot) (states : TargetStates) : Prop where
  distributed : target_states snapshot.targets (Vector.replicate TARGET_SLOT_COUNT none) = some states
  slots : ∀ slot ∈ List.range TARGET_SLOT_COUNT, bus.slot_accepts states slot = true
  transaction : ∀ transaction, snapshot.active_transaction = some transaction →
    bus.validate_snapshot_transaction states transaction = true
  connection : ∀ connection, snapshot.connection = some connection →
    bus.validate_snapshot_connection connection = true

/-- The bus once an accepted snapshot is restored. -/
def restored (bus : ScsiBus ScsiTargetSnapshot μ) (snapshot : ScsiBusSnapshot) (states : TargetStates) :
    ScsiBus ScsiTargetSnapshot μ :=
  { (restore_targets states (List.range TARGET_SLOT_COUNT) bus).2 with
    active_transaction := snapshot.active_transaction, connection := snapshot.connection }

theorem accepts_of_accepts_snapshot (h : bus.accepts_snapshot snapshot = true) : ∃ states, bus.Accepts snapshot states := by
  unfold accepts_snapshot at h
  obtain ⟨states, hstates, hchecks⟩ := (Option.any_eq_true _ _).mp h
  simp only [Bool.and_eq_true, List.all_eq_true] at hchecks
  refine ⟨states, hstates, hchecks.1.1, fun transaction hactive => ?_, fun connection hconnection => ?_⟩
  · have hall := hchecks.1.2
    rwa [hactive] at hall
  · have hall := hchecks.2
    rwa [hconnection] at hall

theorem restore_snapshot_accepted (h : bus.Accepts snapshot states) :
    bus.restore_snapshot snapshot = (true, bus.restored snapshot states) := by
  have hchecks : ((List.range TARGET_SLOT_COUNT).all (bus.slot_accepts states)
      && snapshot.active_transaction.all (bus.validate_snapshot_transaction states)
      && snapshot.connection.all bus.validate_snapshot_connection) = true := by
    simp only [Bool.and_eq_true, List.all_eq_true, Option.all_eq_true]
    exact ⟨⟨h.slots, h.transaction⟩, h.connection⟩
  have hdone := (restore_targets_slots states (List.range TARGET_SLOT_COUNT) List.nodup_range h.slots).1
  simp only [restore_snapshot, h.distributed, hchecks, Bool.not_true, Bool.false_eq_true, if_false, restored]
  generalize restore_targets states (List.range TARGET_SLOT_COUNT) bus = result at hdone
  obtain ⟨done, next⟩ := result
  obtain rfl : done = true := hdone
  rfl

theorem restore_snapshot_refused (h : bus.accepts_snapshot snapshot = false) :
    bus.restore_snapshot snapshot = (false, bus) := by
  unfold accepts_snapshot at h
  unfold restore_snapshot
  split
  · rfl
  case h_2 states hstates =>
    rw [hstates, Option.any_some] at h
    rw [h]
    rfl

/-- The answer of a restore tells whether its checks passed. -/
theorem restore_snapshot_eq_accepts : (bus.restore_snapshot snapshot).1 = bus.accepts_snapshot snapshot := by
  cases haccepts : bus.accepts_snapshot snapshot with
  | false => rw [restore_snapshot_refused haccepts]
  | true =>
    obtain ⟨states, h⟩ := accepts_of_accepts_snapshot haccepts
    rw [restore_snapshot_accepted h]

/-! ## The restored bus -/

theorem TargetStates.state_lt {slot : Nat} {state : ScsiTargetSnapshot} (h : states.state slot = some state) :
    slot < TARGET_SLOT_COUNT := by
  by_contra hbound
  simp [TargetStates.state, Vector.getElem?_eq_none (Nat.not_lt.mp hbound)] at h

namespace Accepts

/-- Every slot holds the state the snapshot has for it. -/
theorem restored_target (h : bus.Accepts snapshot states) (slot : Nat) :
    ((bus.restored snapshot states).attachment slot).map (·.target) = states.state slot := by
  have hslots := (restore_targets_slots states (List.range TARGET_SLOT_COUNT) List.nodup_range h.slots).2 slot
  change ((restore_targets states (List.range TARGET_SLOT_COUNT) bus).2.attachment slot).map (·.target) = _
  rw [hslots]
  split
  case isTrue hmember =>
    have hslot := h.slots slot hmember
    cases hheld : bus.attachment slot with
    | none =>
      cases hstate : states.state slot with
      | none => simp [restored_slot, hheld]
      | some state => simp [slot_accepts, hheld, hstate] at hslot
    | some held =>
      cases hstate : states.state slot with
      | none => simp [slot_accepts, hheld, hstate] at hslot
      | some state => simp [restored_slot, hheld, hstate, restored_attachment]
  case isFalse houtside =>
    have hbound := fun hlt => houtside (List.mem_range.mpr hlt)
    cases hheld : bus.attachment slot with
    | some held => exact absurd (slot_lt_of_attachment hheld) hbound
    | none =>
      cases hstate : states.state slot with
      | none => rfl
      | some state => exact absurd (TargetStates.state_lt hstate) hbound

theorem occupied (h : bus.Accepts snapshot states) (slot : Nat) :
    ((bus.restored snapshot states).attachment slot).isSome = (bus.attachment slot).isSome := by
  have htarget := congrArg Option.isSome (h.restored_target slot)
  rw [Option.isSome_map] at htarget
  rw [htarget]
  by_cases hslot : slot < TARGET_SLOT_COUNT
  · have haccepts := h.slots slot (List.mem_range.mpr hslot)
    unfold slot_accepts at haccepts
    split at haccepts
    case h_1 hheld hstate =>
      rw [hheld, hstate]
      rfl
    case h_2 hheld hstate => rw [hheld, hstate, Option.isSome_some, Option.isSome_some]
    case h_3 => simp at haccepts
  · cases hheld : bus.attachment slot with
    | some held => exact absurd (slot_lt_of_attachment hheld) hslot
    | none =>
      cases hstate : states.state slot with
      | none => rfl
      | some state => exact absurd (TargetStates.state_lt hstate) hslot

/-- A restored medium was there before. -/
theorem sizes (h : bus.Accepts snapshot states) {slot size : Nat}
    (hsize : (bus.restored snapshot states).medium_size slot = some size) : bus.medium_size slot = some size := by
  have hsizes := restore_targets_sizes states (List.range TARGET_SLOT_COUNT) List.nodup_range h.slots slot
  have hrestored : (bus.restored snapshot states).medium_size slot =
      (restore_targets states (List.range TARGET_SLOT_COUNT) bus).2.medium_size slot := rfl
  rw [hrestored, hsizes] at hsize
  split at hsize
  case isFalse => exact hsize
  case isTrue hmember =>
    have hslot := h.slots slot hmember
    unfold restored_size at hsize
    split at hsize
    case h_2 => exact hsize
    case h_1 drive hstate =>
      cases hheld : bus.attachment slot with
      | none => simp [slot_accepts, hheld, hstate] at hslot
      | some held =>
        simp only [slot_accepts, hheld, hstate, Bool.and_eq_true] at hslot
        have hbacking := hslot.2
        obtain ⟨target, backing⟩ := held
        cases backing with
        | Fixed medium => simp [backing_accepts_snapshot, ScsiTargetSnapshot.backing_requirement] at hbacking
        | Removable medium =>
          simp only [backing_accepts_snapshot, ScsiTargetSnapshot.backing_requirement,
            ScsiTargetSnapshot.medium_size_bytes, hsize] at hbacking
          cases medium with
          | none => simp at hbacking
          | some medium => simpa [medium_size, hheld, ScsiBacking.medium_size_bytes] using hbacking

end Accepts

/-- What the checks of a transaction leave open is how long its payload gets. -/
theorem validated_holds {transaction : ScsiTransaction} {capacity : Nat}
    (h : bus.validate_snapshot_transaction states transaction = true)
    (hactive : snapshot.active_transaction = some transaction) (hpayload : snapshot.payload_length ≤ capacity) :
    (bus.attachment transaction.target_slot).isSome = true ∧ transaction.transfer.Holds capacity := by
  obtain ⟨slot, transfer⟩ := transaction
  unfold validate_snapshot_transaction at h
  split at h
  · simp at h
  case h_2 attachment hattachment =>
    refine ⟨by simp [hattachment], ?_⟩
    cases transfer with
    | ImmediateDataIn data next_offset final_status => simpa [ScsiTransfer.Holds] using h
    | StorageDataIn next_offset remaining => trivial
    | StorageDataOut next_offset remaining => trivial
    | TargetDataOut cdb data remaining =>
      simp only [Bool.and_eq_true, bne_iff_ne, ne_eq] at h
      refine ⟨Nat.pos_of_ne_zero h.1.2, ?_⟩
      simpa only [ScsiBusSnapshot.payload_length, hactive] using hpayload

theorem Accepts.restored_ready (h : bus.Accepts snapshot states) (hsized : bus.Sized) {capacity : Nat}
    (hpayload : snapshot.payload_length ≤ capacity) : (bus.restored snapshot states).Ready capacity where
  sized slot size hsize := hsized slot size (h.sizes hsize)
  attached transaction hactive :=
    (h.occupied transaction.target_slot).trans (validated_holds (h.transaction transaction hactive) hactive hpayload).1
  holds transaction hactive := (validated_holds (h.transaction transaction hactive) hactive hpayload).2
  present connection hconnection := by
    have hchecked := h.connection connection hconnection
    simp only [validate_snapshot_connection, Bool.and_eq_true] at hchecked
    rw [target_present_congr h.occupied]
    exact hchecked.1.1.1.1.1

/-- An accepted payload can be counted with 64 bits. -/
theorem Accepts.payload_length_le (h : bus.Accepts snapshot states) : snapshot.payload_length ≤ U64_MAX := by
  unfold ScsiBusSnapshot.payload_length
  split
  case h_2 => exact Nat.zero_le _
  case h_1 slot cdb data remaining hactive =>
    have hchecked := h.transaction _ hactive
    unfold validate_snapshot_transaction at hchecked
    split at hchecked
    · simp at hchecked
    case h_2 =>
      simp only [Bool.and_eq_true, Option.isSome_iff_exists] at hchecked
      obtain ⟨_, sum, hsum⟩ := hchecked
      exact (checked_add_u64_eq_some.mp hsum).1

/-! ## The snapshot of the restored bus -/

theorem address_for_slot_eq {target_id lun slot : Nat} (h : target_slot target_id lun = some slot) :
    address_for_slot slot = (target_id, lun) := by
  simp only [target_slot, Option.ite_none_right_eq_some, Option.some.injEq] at h
  obtain ⟨⟨_, hlun⟩, rfl⟩ := h
  simp only [LUN_COUNT] at hlun ⊢
  simp only [address_for_slot, LUN_COUNT, Prod.mk.injEq]
  omega

theorem target_slot_lt {target_id lun slot : Nat} (h : target_slot target_id lun = some slot) :
    slot < TARGET_SLOT_COUNT := by
  simp only [target_slot, Option.ite_none_right_eq_some, Option.some.injEq] at h
  obtain ⟨⟨htarget, hlun⟩, rfl⟩ := h
  simp only [TARGET_SLOT_COUNT, TARGET_COUNT, LUN_COUNT] at *
  omega

theorem address_for_slot_injective {slot other : Nat} (h : address_for_slot slot = address_for_slot other) :
    slot = other := by
  simp only [address_for_slot, LUN_COUNT, Prod.mk.injEq] at h
  omega

theorem state_setIfInBounds (states : TargetStates) {slot : Nat} (hslot : slot < TARGET_SLOT_COUNT)
    (state : ScsiTargetSnapshot) (other : Nat) : TargetStates.state (states.setIfInBounds slot (some state)) other =
      if slot = other then some state else states.state other := by
  simp only [TargetStates.state, Vector.getElem?_setIfInBounds]
  by_cases hsame : slot = other
  · subst hsame
    simp [hslot]
  · simp [hsame]

/-- A slot gets the state of the entry with its address, or keeps its own. -/
theorem target_states_state {targets : List (Nat × Nat × ScsiTargetSnapshot)} {result : TargetStates}
    (h : target_states targets states = some result) (slot : Nat) (state : ScsiTargetSnapshot) :
    result.state slot = some state ↔ states.state slot = some state ∨
      ∃ target_id lun, (target_id, lun, state) ∈ targets ∧ target_slot target_id lun = some slot := by
  induction targets generalizing states with
  | nil =>
    obtain rfl := Option.some.inj h
    simp
  | cons entry targets ih =>
    obtain ⟨target_id, lun, first⟩ := entry
    unfold target_states at h
    split at h
    · simp at h
    case h_2 filled hfilled =>
      split at h
      · simp at h
      case isFalse hfree =>
        have hnone : states.state filled = none := Option.not_isSome_iff_eq_none.mp hfree
        rw [ih h, state_setIfInBounds states (target_slot_lt hfilled)]
        constructor
        · rintro (hset | ⟨other_id, other_lun, hmember, hother⟩)
          · split at hset
            case isTrue hsame =>
              obtain rfl := Option.some.inj hset
              exact Or.inr ⟨target_id, lun, List.mem_cons_self, hsame ▸ hfilled⟩
            case isFalse => exact Or.inl hset
          · exact Or.inr ⟨other_id, other_lun, List.mem_cons_of_mem _ hmember, hother⟩
        · rintro (hkept | ⟨other_id, other_lun, hmember, hother⟩)
          · have hne : filled ≠ slot := by
              rintro rfl
              simp [hnone] at hkept
            exact Or.inl (by rw [if_neg hne]; exact hkept)
          · obtain heq | hrest := List.mem_cons.mp hmember
            · simp only [Prod.mk.injEq] at heq
              obtain ⟨rfl, rfl, rfl⟩ := heq
              exact Or.inl (if_pos (Option.some.inj (hfilled.symm.trans hother)))
            · exact Or.inr ⟨other_id, other_lun, hrest, hother⟩

/-- The entries of a snapshot that is distributed have distinct addresses. -/
theorem target_states_nodup {targets : List (Nat × Nat × ScsiTargetSnapshot)} {result : TargetStates}
    (h : target_states targets states = some result) :
    targets.Nodup ∧ ∀ target_id lun state, (target_id, lun, state) ∈ targets →
      ∃ slot, target_slot target_id lun = some slot ∧ states.state slot = none := by
  induction targets generalizing states with
  | nil => exact ⟨List.nodup_nil, by simp⟩
  | cons entry targets ih =>
    obtain ⟨target_id, lun, first⟩ := entry
    unfold target_states at h
    split at h
    · simp at h
    case h_2 filled hfilled =>
      split at h
      · simp at h
      case isFalse hfree =>
        have hnone : states.state filled = none := Option.not_isSome_iff_eq_none.mp hfree
        obtain ⟨hnodup, hfrees⟩ := ih h
        have hset := state_setIfInBounds states (target_slot_lt hfilled) first
        refine ⟨List.nodup_cons.mpr ⟨fun hmember => ?_, hnodup⟩, fun other_id other_lun state hmember => ?_⟩
        · obtain ⟨slot, hslot, hempty⟩ := hfrees _ _ _ hmember
          obtain rfl := Option.some.inj (hfilled.symm.trans hslot)
          simp [hset] at hempty
        · obtain heq | hrest := List.mem_cons.mp hmember
          · simp only [Prod.mk.injEq] at heq
            obtain ⟨rfl, rfl, rfl⟩ := heq
            exact ⟨filled, hfilled, hnone⟩
          · obtain ⟨slot, hslot, hempty⟩ := hfrees _ _ _ hrest
            refine ⟨slot, hslot, ?_⟩
            rw [hset] at hempty
            split at hempty
            · simp at hempty
            · exact hempty

/-- The bus gives back the targets it was restored from. -/
theorem Accepts.snapshot_targets (h : bus.Accepts snapshot states) :
    (bus.restored snapshot states).snapshot.targets.Perm snapshot.targets := by
  have hnodup : (bus.restored snapshot states).snapshot.targets.Nodup := by
    refine List.Nodup.filterMap (fun slot other entry hslot hother => ?_) List.nodup_range
    obtain ⟨attachment, _, rfl⟩ := Option.map_eq_some_iff.mp hslot
    obtain ⟨held, _, heq⟩ := Option.map_eq_some_iff.mp hother
    simp only [Prod.mk.injEq] at heq
    exact address_for_slot_injective (Prod.ext heq.1.symm heq.2.1.symm)
  rw [List.perm_ext_iff_of_nodup hnodup (target_states_nodup h.distributed).1]
  rintro ⟨target_id, lun, state⟩
  have hempty (slot : Nat) : TargetStates.state (Vector.replicate TARGET_SLOT_COUNT none) slot = none := by
    simp only [TargetStates.state, Vector.getElem?_replicate]
    split
    · rfl
    · rfl
  have hstate (slot : Nat) : states.state slot = some state ↔
      ∃ target_id lun, (target_id, lun, state) ∈ snapshot.targets ∧ target_slot target_id lun = some slot := by
    rw [target_states_state h.distributed, hempty]
    simp
  constructor
  · intro hmember
    obtain ⟨slot, _, hentry⟩ := List.mem_filterMap.mp hmember
    obtain ⟨attachment, hattachment, heq⟩ := Option.map_eq_some_iff.mp hentry
    simp only [Prod.mk.injEq] at heq
    have htarget := h.restored_target slot
    rw [hattachment, Option.map_some, heq.2.2] at htarget
    obtain ⟨other_id, other_lun, hlisted, hslot⟩ := (hstate slot).mp htarget.symm
    have haddress := address_for_slot_eq hslot
    rw [haddress] at heq
    obtain ⟨rfl, rfl, _⟩ := heq
    exact hlisted
  · intro hmember
    obtain ⟨slot, hslot, _⟩ := (target_states_nodup h.distributed).2 _ _ _ hmember
    have htarget := (h.restored_target slot).trans ((hstate slot).mpr ⟨target_id, lun, hmember, hslot⟩)
    obtain ⟨attachment, hattachment, rfl⟩ := Option.map_eq_some_iff.mp htarget
    refine List.mem_filterMap.mpr ⟨slot, List.mem_range.mpr (target_slot_lt hslot), ?_⟩
    rw [hattachment, address_for_slot_eq hslot]
    rfl

end ScsiBus

end se_device.scsi
