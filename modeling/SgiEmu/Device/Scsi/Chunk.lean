import SgiEmu.Device.Scsi.Spec
import SgiEmu.Device.Scsi.Targets

open se_core

namespace se_device.scsi

/-- Media whose reads fill the buffer they are given. -/
class ExactStorageMedium (μ : Type) [StorageMedium μ] : Prop where
  read_length (medium : μ) (offset length : Nat) (data : List U8)
    (h : (StorageMedium.read_exact_at medium offset length).1 = some data) : data.length = length

instance : ExactStorageMedium MemoryStorage where
  read_length medium offset length data h := by
    simp only [StorageMedium.read_exact_at, MemoryStorage.read_exact_at] at h
    split at h
    case isTrue hfits =>
      obtain rfl := Option.some.inj h
      simp only [List.length_take, List.length_drop]
      omega
    case isFalse => simp at h

/-! ## What a transfer still moves -/

namespace ScsiTransfer

/-- The bytes a transfer still has to move. -/
def remaining : ScsiTransfer → Nat
  | .ImmediateDataIn data next_offset _ => data.length - next_offset
  | .StorageDataIn _ remaining => remaining
  | .StorageDataOut _ remaining => remaining
  | .TargetDataOut _ _ remaining => remaining

/-- The transfer once a chunk has moved. -/
def advance (bytes : List U8) : ScsiTransfer → ScsiTransfer
  | .ImmediateDataIn data next_offset final_status => .ImmediateDataIn data (next_offset + bytes.length) final_status
  | .StorageDataIn next_offset remaining => .StorageDataIn (next_offset + bytes.length) (remaining - bytes.length)
  | .StorageDataOut next_offset remaining => .StorageDataOut (next_offset + bytes.length) (remaining - bytes.length)
  | .TargetDataOut cdb data remaining => .TargetDataOut cdb (data ++ bytes) (remaining - bytes.length)

theorem remaining_advance (transfer : ScsiTransfer) (bytes : List U8) :
    (transfer.advance bytes).remaining = transfer.remaining - bytes.length := by
  cases transfer with
  | ImmediateDataIn data next_offset final_status => simp only [advance, remaining, Nat.sub_add_eq]
  | StorageDataIn next_offset remaining => rfl
  | StorageDataOut next_offset remaining => rfl
  | TargetDataOut cdb data remaining => rfl

end ScsiTransfer

namespace ScsiBus

variable {τ μ σ : Type} {bus next : ScsiBus τ μ} {bytes : List U8}

def remaining (bus : ScsiBus τ μ) : Nat :=
  match bus.active_transaction with
  | none => 0
  | some transaction => transaction.transfer.remaining

def medium_of (bus : ScsiBus τ μ) (slot : Nat) : Option μ :=
  (bus.attachment slot).bind fun attachment => attachment.backing.medium

/-- The transaction has advanced over a chunk, or ended with it. -/
def Advanced (next : ScsiBus τ μ) (slot : Nat) (transfer : ScsiTransfer) (bytes : List U8) : Prop :=
  bytes.length ≤ transfer.remaining ∧
    next.active_transaction = if bytes.length = transfer.remaining then none else some ⟨slot, transfer.advance bytes⟩

variable [ScsiTarget τ] [StorageMedium μ]

/-- A chunk that moves: to the initiator, the next bytes of the response or of the
medium; to the target, bytes its medium takes or its payload gains. -/
inductive Moves (bus : ScsiBus τ μ) (bytes : List U8) (next : ScsiBus τ μ) : ScsiDataDirection → Prop
  | response (slot next_offset : Nat) (data : List U8) (final_status : ScsiStatus)
      (hactive : bus.active_transaction = some ⟨slot, .ImmediateDataIn data next_offset final_status⟩)
      (hbytes : bytes = (data.drop next_offset).take bytes.length)
      (hnext : next.Advanced slot (.ImmediateDataIn data next_offset final_status) bytes) : Moves bus bytes next .In
  | read (slot next_offset remaining : Nat) (medium : μ)
      (hactive : bus.active_transaction = some ⟨slot, .StorageDataIn next_offset remaining⟩)
      (hmedium : bus.medium_of slot = some medium)
      (hbytes : (StorageMedium.read_exact_at medium next_offset bytes.length).1 = some bytes)
      (hnext : next.Advanced slot (.StorageDataIn next_offset remaining) bytes) : Moves bus bytes next .In
  | write (slot next_offset remaining : Nat) (medium : μ)
      (hactive : bus.active_transaction = some ⟨slot, .StorageDataOut next_offset remaining⟩)
      (hmedium : bus.medium_of slot = some medium)
      (hwritten : (StorageMedium.write_all_at medium next_offset bytes).1 = true)
      (hafter : next.medium_of slot = some (StorageMedium.write_all_at medium next_offset bytes).2)
      (hnext : next.Advanced slot (.StorageDataOut next_offset remaining) bytes) : Moves bus bytes next .Out
  | payload (slot remaining : Nat) (cdb data : List U8)
      (hactive : bus.active_transaction = some ⟨slot, .TargetDataOut cdb data remaining⟩)
      (hcompleted : bytes.length = remaining →
        next = ({ bus with active_transaction := none }.complete_target_data_out slot cdb (data ++ bytes)).2)
      (hnext : next.Advanced slot (.TargetDataOut cdb data remaining) bytes) : Moves bus bytes next .Out

omit [ScsiTarget τ] [StorageMedium μ] in
theorem Advanced.remaining {slot : Nat} {transfer : ScsiTransfer} (h : next.Advanced slot transfer bytes) :
    transfer.remaining = next.remaining + bytes.length := by
  obtain ⟨hfits, hnext⟩ := h
  unfold ScsiBus.remaining
  rw [hnext]
  by_cases hall : bytes.length = transfer.remaining
  · simp only [hall, if_true, Nat.zero_add]
  · simp only [if_neg hall, ScsiTransfer.remaining_advance]
    omega

/-- What a chunk moves is what the transaction loses. -/
theorem Moves.remaining {direction : ScsiDataDirection} (h : Moves bus bytes next direction) :
    bus.remaining = next.remaining + bytes.length := by
  cases h with
  | response slot next_offset data final_status hactive hbytes hnext =>
    rw [← hnext.remaining, ScsiBus.remaining, hactive]
  | read slot next_offset remaining medium hactive hmedium hbytes hnext =>
    rw [← hnext.remaining, ScsiBus.remaining, hactive]
  | write slot next_offset remaining medium hactive hmedium hwritten hafter hnext =>
    rw [← hnext.remaining, ScsiBus.remaining, hactive]
  | payload slot remaining cdb data hactive hcompleted hnext =>
    rw [← hnext.remaining, ScsiBus.remaining, hactive]

/-! ## Refused chunks -/

/-- The same transaction over the same targets, whose media hold the same bytes. -/
structure Undisturbed [LawfulStorageMedium μ] (bus next : ScsiBus τ μ) : Prop where
  transaction : next.active_transaction = bus.active_transaction
  connection : next.connection = bus.connection
  targets : ∀ slot, (next.attachment slot).map (·.target) = (bus.attachment slot).map (·.target)
  media : ∀ slot, (next.medium_of slot).map LawfulStorageMedium.bytes = (bus.medium_of slot).map LawfulStorageMedium.bytes

variable [LawfulStorageMedium μ]

omit [ScsiTarget τ] in
theorem Undisturbed.refl (bus : ScsiBus τ μ) : bus.Undisturbed bus := ⟨rfl, rfl, fun _ => rfl, fun _ => rfl⟩

omit [ScsiTarget τ] [StorageMedium μ] [LawfulStorageMedium μ] in
/-- A slot with a medium is one of the bus. -/
theorem medium_of_set_attachment {slot : Nat} {held : TargetAttachment τ μ} (hheld : bus.attachment slot = some held)
    (attachment : TargetAttachment τ μ) : (bus.set_attachment slot attachment).medium_of slot = attachment.backing.medium := by
  simp only [medium_of, attachment_set_attachment, true_and, if_pos (slot_lt_of_attachment hheld), Option.bind_some]

omit [StorageMedium μ] [LawfulStorageMedium μ] in
/-- Completing a transfer leaves the media alone. -/
theorem medium_of_completed {slot : Nat} (succeeded : Bool) :
    ({ bus with active_transaction := none }.complete_target_storage slot succeeded).2.medium_of slot =
      bus.medium_of slot := by
  unfold complete_target_storage
  cases hheld : ({ bus with active_transaction := none } : ScsiBus τ μ).attachment slot with
  | none => rfl
  | some held =>
    dsimp only
    rw [medium_of_set_attachment hheld]
    have hsame : bus.attachment slot = some held := hheld
    simp only [medium_of, hsame, Option.bind_some]

omit [ScsiTarget τ] in
/-- Reading a medium disturbs nothing. -/
theorem Undisturbed.read {slot offset length : Nat} {held : TargetAttachment τ μ} {medium : μ}
    (hheld : bus.attachment slot = some held) (hmedium : held.backing.medium = some medium) :
    bus.Undisturbed (bus.set_attachment slot
      { held with backing := held.backing.set_medium (StorageMedium.read_exact_at medium offset length).2 }) := by
  refine ⟨rfl, rfl, fun other => ?_, fun other => ?_⟩
  · rw [attachment_set_attachment]
    split
    case isTrue hsame =>
      rw [← hsame.1, hheld]
      rfl
    case isFalse => rfl
  · unfold medium_of
    rw [attachment_set_attachment]
    split
    case isTrue hsame =>
      rw [← hsame.1, hheld]
      simp only [Option.bind_some, medium_set_medium, hmedium, Option.map_some, LawfulStorageMedium.read_bytes]
    case isFalse => rfl

/-! ## One call of the initiator -/

/-- The results of a call that offers or asks for at most `maximum_bytes`: the
initiator's answer to the chunk `bytes` is `answer bytes`. -/
inductive Chunk (bus : ScsiBus τ μ) (direction : ScsiDataDirection) (maximum_bytes : Nat) (state : σ)
    (answer : List U8 → Bool → σ → Prop) : Except ScsiBusError ScsiTransferResult × ScsiBus τ μ × σ → Prop
  | refused (error : ScsiBusError) : Chunk bus direction maximum_bytes state answer (.error error, bus, state)
  | rejected (bytes : List U8) (next : ScsiBus τ μ) (after : σ) (hfits : bytes.length ≤ maximum_bytes)
      (hanswer : answer bytes false after) (hnext : bus.Undisturbed next) :
      Chunk bus direction maximum_bytes state answer (.ok .Rejected, next, after)
  | more (bytes : List U8) (next : ScsiBus τ μ) (after : σ) (rest : Nat) (hfits : bytes.length ≤ maximum_bytes)
      (hanswer : answer bytes true after) (hnext : bus.Moves bytes next direction) :
      Chunk bus direction maximum_bytes state answer (.ok (.More bytes.length rest), next, after)
  | complete (bytes : List U8) (next : ScsiBus τ μ) (after : σ) (status : ScsiStatus)
      (hfits : bytes.length ≤ maximum_bytes) (hanswer : answer bytes true after)
      (hnext : bus.Moves bytes next direction) :
      Chunk bus direction maximum_bytes state answer (.ok (.Complete bytes.length status), next, after)
  /-- The target fails and ends the transfer without a byte. -/
  | failed (next : ScsiBus τ μ) (after : σ) (status : ScsiStatus) (hended : next.active_transaction = none)
      (hkept : after = state ∨ direction = .Out ∧ ∃ bytes, bytes.length ≤ maximum_bytes ∧ answer bytes true after) :
      Chunk bus direction maximum_bytes state answer (.ok (.Complete 0 status), next, after)

omit [ScsiTarget τ] [StorageMedium μ] [LawfulStorageMedium μ] in
theorem advanced_of_rest {slot : Nat} {transfer : ScsiTransfer} (hactive : next.active_transaction =
    some ⟨slot, transfer.advance bytes⟩) (hfits : bytes.length ≤ transfer.remaining)
    (hrest : bytes.length ≠ transfer.remaining) : next.Advanced slot transfer bytes :=
  ⟨hfits, by rw [hactive, if_neg hrest]⟩

omit [ScsiTarget τ] [StorageMedium μ] [LawfulStorageMedium μ] in
theorem advanced_of_all {slot : Nat} {transfer : ScsiTransfer} (hended : next.active_transaction = none)
    (hall : bytes.length = transfer.remaining) : next.Advanced slot transfer bytes :=
  ⟨Nat.le_of_eq hall, by rw [hended, if_pos hall]⟩

theorem transfer_immediate_data_in_chunk {slot next_offset : Nat} {data : List U8} {final_status : ScsiStatus}
    (hactive : bus.active_transaction = some ⟨slot, .ImmediateDataIn data next_offset final_status⟩)
    (maximum_bytes : Nat) (accept : List U8 → σ → Bool × σ) (state : σ) :
    Chunk bus .In maximum_bytes state (fun bytes accepted after => accept bytes state = (accepted, after))
      (.ok (bus.transfer_immediate_data_in slot data next_offset final_status maximum_bytes accept state).1,
        (bus.transfer_immediate_data_in slot data next_offset final_status maximum_bytes accept state).2) := by
  unfold transfer_immediate_data_in
  dsimp only
  have hlength : ((data.drop next_offset).take (min (next_offset + maximum_bytes) data.length - next_offset)).length =
      min (next_offset + maximum_bytes) data.length - next_offset := by
    simp only [List.length_take, List.length_drop]
    omega
  have hbytes : (data.drop next_offset).take (min (next_offset + maximum_bytes) data.length - next_offset) =
      (data.drop next_offset).take
        ((data.drop next_offset).take (min (next_offset + maximum_bytes) data.length - next_offset)).length := by
    rw [hlength]
  have hfits : ((data.drop next_offset).take (min (next_offset + maximum_bytes) data.length - next_offset)).length ≤
      maximum_bytes := by omega
  generalize (data.drop next_offset).take (min (next_offset + maximum_bytes) data.length - next_offset) = bytes at *
  cases hanswer : accept bytes state with
  | mk accepted after =>
    cases accepted with
    | false => exact .rejected bytes bus after hfits hanswer (.refl bus)
    | true =>
      simp only [Bool.not_true, Bool.false_eq_true, if_false]
      rw [← hlength]
      split
      case isTrue hlast =>
        refine .complete bytes _ after final_status hfits hanswer (.response slot next_offset data final_status hactive
          hbytes (advanced_of_all rfl ?_))
        simp only [ScsiTransfer.remaining]
        omega
      case isFalse hlast =>
        refine .more bytes _ after _ hfits hanswer (.response slot next_offset data final_status hactive hbytes
          (advanced_of_rest ?_ ?_ ?_))
        · have hoffset : min (next_offset + maximum_bytes) data.length = next_offset + bytes.length := by omega
          simp only [set_transfer, ScsiTransfer.advance, hoffset]
        · simp only [ScsiTransfer.remaining]
          omega
        · simp only [ScsiTransfer.remaining]
          omega

omit [StorageMedium μ] [LawfulStorageMedium μ] in
theorem failed_ended (slot : Nat) : ({ bus with active_transaction := none }.complete_target_storage slot
    false).2.active_transaction = none := (bus.ended_spec slot false).2

variable [ExactStorageMedium μ]

theorem transfer_storage_data_in_chunk {slot next_offset remaining : Nat}
    (hactive : bus.active_transaction = some ⟨slot, .StorageDataIn next_offset remaining⟩)
    (maximum_bytes : Nat) (accept : List U8 → σ → Bool × σ) (state : σ) :
    Chunk bus .In maximum_bytes state (fun bytes accepted after => accept bytes state = (accepted, after))
      (.ok (bus.transfer_storage_data_in slot next_offset remaining maximum_bytes accept state).1,
        (bus.transfer_storage_data_in slot next_offset remaining maximum_bytes accept state).2) := by
  unfold transfer_storage_data_in
  dsimp only
  cases hheld : bus.attachment slot with
  | none => exact .failed _ state _ (failed_ended slot) (Or.inl rfl)
  | some held =>
    dsimp only
    cases hmedium : held.backing.medium with
    | none => exact .failed _ state _ (failed_ended slot) (Or.inl rfl)
    | some medium =>
      dsimp only
      have hkept := @Undisturbed.read _ _ bus _ _ slot next_offset (min maximum_bytes remaining) held medium hheld hmedium
      have hexact := ExactStorageMedium.read_length medium next_offset (min maximum_bytes remaining)
      have hof : bus.medium_of slot = some medium := by simp only [medium_of, hheld, Option.bind_some, hmedium]
      have hread : ∀ bytes, (StorageMedium.read_exact_at medium next_offset (min maximum_bytes remaining)).1 = some bytes →
          (StorageMedium.read_exact_at medium next_offset bytes.length).1 = some bytes := by
        intro bytes hbytes
        rw [hexact bytes hbytes]
        exact hbytes
      generalize StorageMedium.read_exact_at medium next_offset (min maximum_bytes remaining) = result at *
      obtain ⟨result, read⟩ := result
      cases result with
      | none => exact .failed _ state _ (failed_ended slot) (Or.inl rfl)
      | some bytes =>
        have hlength := hexact bytes rfl
        have hfits : bytes.length ≤ maximum_bytes := by omega
        dsimp only
        rw [← hlength]
        cases hanswer : accept bytes state with
        | mk accepted after =>
          cases accepted with
          | false => exact .rejected bytes _ after hfits hanswer hkept
          | true =>
            simp only [Bool.not_true, Bool.false_eq_true, if_false]
            split
            case isTrue hall =>
              refine .complete bytes _ after _ hfits hanswer (.read slot next_offset remaining medium hactive hof
                (hread bytes rfl) (advanced_of_all (ended_spec slot true).2 ?_))
              simp only [ScsiTransfer.remaining]
              omega
            case isFalse hmore =>
              refine .more bytes _ after _ hfits hanswer (.read slot next_offset remaining medium hactive hof
                (hread bytes rfl) (advanced_of_rest rfl ?_ ?_))
              · simp only [ScsiTransfer.remaining]
                omega
              · simp only [ScsiTransfer.remaining]
                omega

/-- A Data In call offers the next bytes of the transaction, which loses them where
the initiator accepts. -/
theorem transfer_data_in_chunk (maximum_bytes : Nat) (accept : List U8 → σ → Bool × σ) (state : σ) :
    Chunk bus .In maximum_bytes state (fun bytes accepted after => accept bytes state = (accepted, after))
      (bus.transfer_data_in maximum_bytes accept state) := by
  unfold transfer_data_in
  split
  · exact .refused _
  · split
    case h_1 hactive => exact transfer_immediate_data_in_chunk hactive maximum_bytes accept state
    case h_2 hactive => exact transfer_storage_data_in_chunk hactive maximum_bytes accept state
    case h_3 => exact .refused _

/-! ### Data Out -/

/-- How the initiator answers a request for a chunk: a zeroed buffer it leaves, or
fills as far as it provides bytes. -/
def Provides (provide : Nat → σ → Option (List U8) × σ) (state : σ) (bytes : List U8) (provided : Bool) (after : σ) :
    Prop :=
  if provided then
    ∃ filled, provide bytes.length state = (some filled, after) ∧ bytes = fill_buffer bytes.length filled
  else provide bytes.length state = (none, after)

omit [ScsiTarget τ] [StorageMedium μ] [LawfulStorageMedium μ] [ExactStorageMedium μ] in
theorem fill_buffer_whole {filled : List U8} : fill_buffer filled.length filled = filled := by
  simp only [fill_buffer, List.take_left]

omit [ExactStorageMedium μ] in
theorem rejected_chunk {byte_count maximum_bytes : Nat} {provide : Nat → σ → Option (List U8) × σ} {state after : σ}
    (hfits : byte_count ≤ maximum_bytes) (hnone : provide byte_count state = (none, after)) :
    Chunk bus .Out maximum_bytes state (Provides provide state) (.ok .Rejected, bus, after) := by
  have hlength : (List.replicate byte_count (0 : U8)).length = byte_count := List.length_replicate
  refine .rejected (List.replicate byte_count 0) bus after ?_ ?_ (.refl bus)
  · rw [hlength]
    exact hfits
  · simp only [Provides, Bool.false_eq_true, if_false, hlength]
    exact hnone

omit [ScsiTarget τ] [StorageMedium μ] [LawfulStorageMedium μ] [ExactStorageMedium μ] in
theorem provides_filled {byte_count : Nat} {provide : Nat → σ → Option (List U8) × σ} {state after : σ}
    {filled : List U8} (hsome : provide byte_count state = (some filled, after)) :
    Provides provide state (fill_buffer byte_count filled) true after := by
  simp only [Provides, if_true, length_fill_buffer]
  exact ⟨filled, hsome, rfl⟩

omit [ExactStorageMedium μ] in
theorem transfer_storage_data_out_chunk {slot next_offset remaining : Nat}
    (hactive : bus.active_transaction = some ⟨slot, .StorageDataOut next_offset remaining⟩)
    (maximum_bytes : Nat) (provide : Nat → σ → Option (List U8) × σ) (state : σ) :
    Chunk bus .Out maximum_bytes state (Provides provide state)
      (.ok (bus.transfer_storage_data_out slot next_offset remaining maximum_bytes provide state).1,
        (bus.transfer_storage_data_out slot next_offset remaining maximum_bytes provide state).2) := by
  unfold transfer_storage_data_out
  dsimp only
  have hfits : min maximum_bytes remaining ≤ maximum_bytes := Nat.min_le_left _ _
  cases hprovided : provide (min maximum_bytes remaining) state with
  | mk provided after =>
    cases provided with
    | none => exact rejected_chunk hfits hprovided
    | some filled =>
      have hanswer := provides_filled hprovided
      have hlength := length_fill_buffer (min maximum_bytes remaining) filled
      dsimp only
      generalize fill_buffer (min maximum_bytes remaining) filled = bytes at *
      rw [← hlength] at hfits ⊢
      have hfailed : after = state ∨ ScsiDataDirection.Out = .Out ∧
          ∃ bytes : List U8, bytes.length ≤ maximum_bytes ∧ Provides provide state bytes true after :=
        Or.inr ⟨rfl, bytes, hfits, hanswer⟩
      cases hheld : bus.attachment slot with
      | none => exact .failed _ after _ (failed_ended slot) hfailed
      | some held =>
        dsimp only
        cases hmedium : held.backing.medium with
        | none => exact .failed _ after _ (failed_ended slot) hfailed
        | some medium =>
          dsimp only
          have hof : bus.medium_of slot = some medium := by simp only [medium_of, hheld, Option.bind_some, hmedium]
          have hwritten : (bus.set_attachment slot { held with
              backing := held.backing.set_medium (StorageMedium.write_all_at medium next_offset bytes).2 }).medium_of slot =
                some (StorageMedium.write_all_at medium next_offset bytes).2 := by
            rw [medium_of_set_attachment hheld, medium_set_medium]
          generalize hresult : StorageMedium.write_all_at medium next_offset bytes = result at *
          obtain ⟨accepted, written⟩ := result
          cases accepted with
          | false => exact .failed _ after _ (failed_ended slot) hfailed
          | true =>
            simp only [Bool.not_true, Bool.false_eq_true, if_false]
            split
            case isTrue hall =>
              refine .complete bytes _ after _ hfits hanswer (.write slot next_offset remaining medium hactive hof
                (by rw [hresult]) ?_ (advanced_of_all (ended_spec slot true).2 ?_))
              · rw [medium_of_completed, hresult]
                exact hwritten
              · simp only [ScsiTransfer.remaining]
                omega
            case isFalse hmore =>
              refine .more bytes _ after _ hfits hanswer (.write slot next_offset remaining medium hactive hof
                (by rw [hresult]) ?_ (advanced_of_rest rfl ?_ ?_))
              · rw [hresult]
                exact hwritten
              · simp only [ScsiTransfer.remaining]
                omega
              · simp only [ScsiTransfer.remaining]
                omega

omit [ExactStorageMedium μ] in
theorem transfer_target_data_out_chunk {slot remaining : Nat} {cdb data : List U8}
    (hactive : bus.active_transaction = some ⟨slot, .TargetDataOut cdb data remaining⟩)
    (maximum_bytes : Nat) (provide : Nat → σ → Option (List U8) × σ) (state : σ) :
    Chunk bus .Out maximum_bytes state (Provides provide state)
      (.ok (bus.transfer_target_data_out slot cdb data remaining maximum_bytes provide state).1,
        (bus.transfer_target_data_out slot cdb data remaining maximum_bytes provide state).2) := by
  unfold transfer_target_data_out
  dsimp only
  have hfits : min maximum_bytes remaining ≤ maximum_bytes := Nat.min_le_left _ _
  cases hprovided : provide (min maximum_bytes remaining) state with
  | mk provided after =>
    cases provided with
    | none => exact rejected_chunk hfits hprovided
    | some filled =>
      have hanswer := provides_filled hprovided
      have hlength := length_fill_buffer (min maximum_bytes remaining) filled
      dsimp only
      generalize fill_buffer (min maximum_bytes remaining) filled = bytes at *
      rw [← hlength] at hfits ⊢
      split
      case isTrue hmore =>
        refine .more bytes _ after _ hfits hanswer (.payload slot remaining cdb data hactive ?_ (advanced_of_rest rfl ?_ ?_))
        · intro hall
          omega
        · simp only [ScsiTransfer.remaining]
          omega
        · simp only [ScsiTransfer.remaining]
          omega
      case isFalse hall =>
        refine .complete bytes _ after _ hfits hanswer (.payload slot remaining cdb data hactive (fun _ => rfl)
          (advanced_of_all ?_ ?_))
        · exact (complete_target_data_out_same slot cdb (data ++ bytes)).2
        · simp only [ScsiTransfer.remaining]
          omega

omit [ExactStorageMedium μ] in
/-- A Data Out call asks for the next bytes of the transaction, which loses them where
the initiator provides them and the target takes them. -/
theorem transfer_data_out_chunk (maximum_bytes : Nat) (provide : Nat → σ → Option (List U8) × σ) (state : σ) :
    Chunk bus .Out maximum_bytes state (Provides provide state) (bus.transfer_data_out maximum_bytes provide state) := by
  unfold transfer_data_out
  split
  · exact .refused _
  · split
    case h_1 hactive => exact transfer_storage_data_out_chunk hactive maximum_bytes provide state
    case h_2 hactive => exact transfer_target_data_out_chunk hactive maximum_bytes provide state
    case h_3 => exact .refused _

end ScsiBus

end se_device.scsi
