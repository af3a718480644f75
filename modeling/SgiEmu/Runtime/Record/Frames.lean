import SgiEmu.Library.Chunks
import SgiEmu.Runtime.Record

open se_core se_machine Library.Chunks

namespace se_runtime.record

variable {Manifest : Type} {codec : RecordCodec Manifest} {payload bytes rest : List U8} {frame : RecordFrame Manifest}

/-! ## Words -/

theorem to_le_bytes_from_le_bytes (b0 b1 b2 b3 : U8) : to_le_bytes (from_le_bytes b0 b1 b2 b3) = [b0, b1, b2, b3] := by
  have h0 : (from_le_bytes b0 b1 b2 b3).extractLsb' 0 8 = b0 := BitVec.extractLsb'_append_eq_right
  have h1 : (from_le_bytes b0 b1 b2 b3).extractLsb' 8 8 = b1 := by
    have hhigh : (from_le_bytes b0 b1 b2 b3).extractLsb' 8 8 = (b3 ++ b2 ++ b1).extractLsb' 0 8 :=
      BitVec.extractLsb'_append_eq_of_le (by decide)
    rw [hhigh]
    exact BitVec.extractLsb'_append_eq_right
  have h2 : (from_le_bytes b0 b1 b2 b3).extractLsb' 16 8 = b2 := by
    have hhigh : (from_le_bytes b0 b1 b2 b3).extractLsb' 16 8 = (b3 ++ b2 ++ b1).extractLsb' 8 8 :=
      BitVec.extractLsb'_append_eq_of_le (by decide)
    have hnext : (b3 ++ b2 ++ b1).extractLsb' 8 8 = (b3 ++ b2).extractLsb' 0 8 :=
      BitVec.extractLsb'_append_eq_of_le (by decide)
    rw [hhigh, hnext]
    exact BitVec.extractLsb'_append_eq_right
  have h3 : (from_le_bytes b0 b1 b2 b3).extractLsb' 24 8 = b3 := by
    have hhigh : (from_le_bytes b0 b1 b2 b3).extractLsb' 24 8 = (b3 ++ b2 ++ b1).extractLsb' 16 8 :=
      BitVec.extractLsb'_append_eq_of_le (by decide)
    have hnext : (b3 ++ b2 ++ b1).extractLsb' 16 8 = (b3 ++ b2).extractLsb' 8 8 :=
      BitVec.extractLsb'_append_eq_of_le (by decide)
    rw [hhigh, hnext]
    exact BitVec.extractLsb'_append_eq_left
  rw [to_le_bytes, h0, h1, h2, h3]

theorem from_le_bytes_extract (value : U32) :
    from_le_bytes (value.extractLsb' 0 8) (value.extractLsb' 8 8) (value.extractLsb' 16 8) (value.extractLsb' 24 8) =
      value := by
  have h32 : value.extractLsb' 24 8 ++ value.extractLsb' 16 8 = value.extractLsb' 16 16 := by
    exact BitVec.extractLsb'_append_extractLsb'_eq_extractLsb' rfl
  have h321 : value.extractLsb' 24 8 ++ value.extractLsb' 16 8 ++ value.extractLsb' 8 8 = value.extractLsb' 8 24 := by
    rw [h32]
    exact BitVec.extractLsb'_append_extractLsb'_eq_extractLsb' rfl
  have hall : from_le_bytes (value.extractLsb' 0 8) (value.extractLsb' 8 8) (value.extractLsb' 16 8)
      (value.extractLsb' 24 8) = value.extractLsb' 0 32 := by
    unfold from_le_bytes
    rw [h321]
    exact BitVec.extractLsb'_append_extractLsb'_eq_extractLsb' rfl
  rw [hall]
  exact BitVec.extractLsb'_eq_self

theorem words_of_u64 (value : U64) : value.extractLsb' 32 32 ++ value.extractLsb' 0 32 = value := by
  have hall : value.extractLsb' 32 32 ++ value.extractLsb' 0 32 = value.extractLsb' 0 64 :=
    BitVec.extractLsb'_append_extractLsb'_eq_extractLsb' rfl
  exact hall.trans BitVec.extractLsb'_eq_self

/-- A little-endian word. -/
def word_layout : Layout U32 U8 where
  write := to_le_bytes
  read
    | b0 :: b1 :: b2 :: b3 :: rest => some (from_le_bytes b0 b1 b2 b3, rest)
    | _ => none
  read_write value rest := by
    simp only [to_le_bytes, List.cons_append, List.nil_append, from_le_bytes_extract]

def double_word_layout : Layout U64 U8 :=
  (word_layout.pair word_layout).map (fun value => (value.extractLsb' 0 32, value.extractLsb' 32 32))
    (fun words => words.2 ++ words.1) words_of_u64

def position_layout : Layout ExecutionPosition U8 :=
  (double_word_layout.pair double_word_layout).map (fun position => (position.epoch, position.completed_instructions))
    (fun words => { epoch := words.1, completed_instructions := words.2 }) fun _ => rfl

/-! ## One frame -/

/-- A payload that reads back as a frame. -/
structure Carries (codec : RecordCodec Manifest) (payload : List U8) (frame : RecordFrame Manifest) : Prop where
  length : payload.length ≤ MAX_FRAME_BYTES
  decode : codec.decode payload = .ok (frame, payload.length)

theorem decode_value_eq_ok : codec.decode_value payload = .ok frame ↔ codec.decode payload = .ok (frame, payload.length) := by
  unfold RecordCodec.decode_value
  cases hdecoded : codec.decode payload with
  | error error => simp
  | ok decoded =>
    obtain ⟨value, consumed⟩ := decoded
    by_cases hconsumed : consumed = payload.length
    · simp [hconsumed]
    · simp [hconsumed]

/-- What precedes the payload of a frame. -/
def frame_header (codec : RecordCodec Manifest) (payload : List U8) : List U8 :=
  to_le_bytes (BitVec.ofNat 32 payload.length) ++ to_le_bytes (codec.crc32 payload)

theorem frame_bytes_eq : frame_bytes codec payload = frame_header codec payload ++ payload := rfl

theorem length_word (hlength : payload.length ≤ MAX_FRAME_BYTES) :
    (BitVec.ofNat 32 payload.length).toNat = payload.length := by
  rw [BitVec.toNat_ofNat]
  apply Nat.mod_eq_of_lt
  unfold MAX_FRAME_BYTES at hlength
  omega

theorem read_frame_whole (h : Carries codec payload frame) (rest : List U8) :
    read_frame codec (frame_bytes codec payload ++ rest) = .ok (frame, rest) := by
  have hlimit : ¬payload.length > MAX_FRAME_BYTES := Nat.not_lt.mpr h.length
  have hlong : ¬(payload ++ rest).length < payload.length := by
    rw [List.length_append]
    omega
  rw [frame_bytes_eq, frame_header, List.append_assoc]
  simp only [to_le_bytes, List.cons_append, List.nil_append, read_frame, from_le_bytes_extract, length_word h.length,
    hlimit, hlong, if_false, List.take_left, List.drop_left, ne_eq, not_true_eq_false, decode_value_eq_ok.mpr h.decode]

theorem read_frame_short (hshort : bytes.length < FRAME_HEADER_BYTES) : read_frame codec bytes = .error unexpected_eof := by
  unfold read_frame
  split
  case h_1 =>
    simp only [List.length_cons, FRAME_HEADER_BYTES] at hshort
    omega
  case h_2 => rfl

/-- A frame cut anywhere is not a frame. -/
theorem read_frame_torn (hlength : payload.length ≤ MAX_FRAME_BYTES) {front : List U8}
    (hfront : front <+: frame_bytes codec payload) (hproper : front ≠ frame_bytes codec payload) :
    read_frame codec front = .error unexpected_eof := by
  by_cases hshort : front.length < FRAME_HEADER_BYTES
  · exact read_frame_short hshort
  · rw [frame_bytes_eq] at hfront hproper
    have hheader : frame_header codec payload <+: front :=
      List.prefix_of_prefix_length_le (List.prefix_append _ payload) hfront (Nat.le_of_not_lt hshort)
    obtain ⟨body, rfl⟩ := hheader
    have hbody : body <+: payload := (List.prefix_append_right_inj _).mp hfront
    have hcut : body.length < payload.length := by
      apply Nat.lt_of_le_of_ne hbody.length_le
      intro hwhole
      apply hproper
      rw [hbody.eq_of_length hwhole]
    have hlimit : ¬payload.length > MAX_FRAME_BYTES := Nat.not_lt.mpr hlength
    rw [frame_header]
    simp only [to_le_bytes, List.cons_append, List.nil_append, read_frame, from_le_bytes_extract, length_word hlength,
      hlimit, hcut, if_false, if_true]

/-- A frame that is read stands at the front of the bytes. -/
theorem read_frame_sound (h : read_frame codec bytes = .ok (frame, rest)) :
    ∃ payload, Carries codec payload frame ∧ bytes = frame_bytes codec payload ++ rest := by
  unfold read_frame at h
  split at h
  case h_1 l0 l1 l2 l3 c0 c1 c2 c3 body =>
    dsimp only at h
    split at h
    · cases h
    case isFalse hlimit =>
      split at h
      · cases h
      case isFalse hlong =>
        split at h
        · cases h
        case isFalse hcrc =>
          split at h
          · cases h
          case h_2 value hdecoded =>
            cases h
            have htake : (body.take (from_le_bytes l0 l1 l2 l3).toNat).length = (from_le_bytes l0 l1 l2 l3).toNat := by
              rw [List.length_take]
              omega
            refine ⟨body.take (from_le_bytes l0 l1 l2 l3).toNat, ⟨by rw [htake]; omega, decode_value_eq_ok.mp hdecoded⟩, ?_⟩
            have hword : BitVec.ofNat 32 (body.take (from_le_bytes l0 l1 l2 l3).toNat).length = from_le_bytes l0 l1 l2 l3 := by
              rw [htake, BitVec.ofNat_toNat, BitVec.setWidth_eq]
            rw [frame_bytes_eq, frame_header, hword, not_not.mp hcrc, to_le_bytes_from_le_bytes, to_le_bytes_from_le_bytes,
              List.append_assoc, List.take_append_drop]
            rfl
  case h_2 => cases h

end se_runtime.record
