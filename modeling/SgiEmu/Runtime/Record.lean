import SgiEmu.Runtime.Storage

open se_core se_core.storage se_machine

namespace se_runtime.record

/-! ## Frames -/

/-- Deterministic boundary immediately before the next guest instruction. -/
structure ExecutionPosition where
  epoch : U64
  completed_instructions : U64
deriving DecidableEq, Repr

namespace ExecutionPosition

def default : ExecutionPosition := { epoch := 0, completed_instructions := 0 }

/-- The derived order: by epoch, then by completed instructions. -/
instance : LT ExecutionPosition :=
  ⟨fun a b => a.epoch < b.epoch ∨ a.epoch = b.epoch ∧ a.completed_instructions < b.completed_instructions⟩

instance (a b : ExecutionPosition) : Decidable (a < b) :=
  inferInstanceAs (Decidable (_ ∨ _ ∧ _))

end ExecutionPosition

inductive TimelineAction where
  | MachineInput (input : MachineInput)
  | Reset
  | Checkpoint (digest : List U8)
deriving DecidableEq, Repr

structure TimelineEntry where
  position : ExecutionPosition
  action : TimelineAction
deriving DecidableEq, Repr

inductive RecordOutcome where
  | UserStopped
  | Shutdown
  | ExecutionError (address : U32) (description : String)
  | HostNetworkError (description : String)
deriving DecidableEq, Repr

structure RecordFooter where
  position : ExecutionPosition
  outcome : RecordOutcome
  final_fingerprint : List U8
deriving DecidableEq, Repr

/-- A frame of a Record. The manifest is only stored and handed back, so its type stays a
parameter. -/
inductive RecordFrame (Manifest : Type) where
  | Manifest (manifest : Manifest)
  | Timeline (entry : TimelineEntry)
  | Footer (footer : RecordFooter)
deriving DecidableEq, Repr

def invalid_record (reason : String) : RecordError := .InvalidData reason

/-- What Record files use of other packages: a checksum of the payload, and a codec whose
decoder reports how many bytes it consumed. -/
structure RecordCodec (Manifest : Type) where
  crc32 : List U8 → U32
  encode : RecordFrame Manifest → Except String (List U8)
  decode : List U8 → Except String (RecordFrame Manifest × Nat)

variable {Manifest : Type}

/-- Decoding an encoded frame returns it and consumes all of its bytes. -/
def RecordCodec.Inverts (codec : RecordCodec Manifest) : Prop :=
  ∀ frame bytes, codec.encode frame = .ok bytes → codec.decode bytes = .ok (frame, bytes.length)

namespace RecordCodec

variable (codec : RecordCodec Manifest)

def encode_value (frame : RecordFrame Manifest) : Except RecordError (List U8) :=
  match codec.encode frame with
  | .ok bytes => .ok bytes
  | .error error => .error (invalid_record s!"failed to encode Record frame: {error}")

def decode_value (bytes : List U8) : Except RecordError (RecordFrame Manifest) :=
  match codec.decode bytes with
  | .error error => .error (invalid_record s!"failed to decode Record frame: {error}")
  | .ok (value, consumed) =>
    if consumed ≠ bytes.length then .error (invalid_record "Record frame contains trailing data") else .ok value

end RecordCodec

/-! ## Files -/

/-- `b"SGISEREC"`. -/
def FILE_MAGIC : List U8 := [0x53, 0x47, 0x49, 0x53, 0x45, 0x52, 0x45, 0x43]
def FORMAT_VERSION : U32 := 1
def FILE_HEADER_BYTES : Nat := 12
def FRAME_HEADER_BYTES : Nat := 8
def MAX_FRAME_BYTES : Nat := 1024 * 1024

/-- `u32::to_le_bytes`. -/
def to_le_bytes (value : U32) : List U8 :=
  [value.extractLsb' 0 8, value.extractLsb' 8 8, value.extractLsb' 16 8, value.extractLsb' 24 8]

/-- `u32::from_le_bytes`. -/
def from_le_bytes (b0 b1 b2 b3 : U8) : U32 := b3 ++ b2 ++ b1 ++ b0

/-- What `create` writes before any frame. -/
def file_header : List U8 := FILE_MAGIC ++ to_le_bytes FORMAT_VERSION

/-- The bytes of a frame: its length, its checksum and its payload. -/
def frame_bytes (codec : RecordCodec Manifest) (payload : List U8) : List U8 :=
  to_le_bytes (BitVec.ofNat 32 payload.length) ++ to_le_bytes (codec.crc32 payload) ++ payload

/-- `read_exact` at the end of the file. -/
def unexpected_eof : RecordError := .Io { kind := .UnexpectedEof, message := "failed to fill whole buffer" }

/-- The frame at the front of what is left of the file. -/
def read_frame (codec : RecordCodec Manifest) (bytes : List U8) :
    Except RecordError (RecordFrame Manifest × List U8) :=
  match bytes with
  | l0 :: l1 :: l2 :: l3 :: c0 :: c1 :: c2 :: c3 :: body =>
    let payload_length := (from_le_bytes l0 l1 l2 l3).toNat
    if payload_length > MAX_FRAME_BYTES then .error (invalid_record "Record frame exceeds the size limit")
    else
      let expected_crc := from_le_bytes c0 c1 c2 c3
      if body.length < payload_length then .error unexpected_eof
      else
        let payload := body.take payload_length
        if codec.crc32 payload ≠ expected_crc then .error (invalid_record "Record frame CRC mismatch")
        else
          match codec.decode_value payload with
          | .error error => .error error
          | .ok frame => .ok (frame, body.drop payload_length)
  | _ => .error unexpected_eof

theorem read_frame_length {codec : RecordCodec Manifest} {bytes rest : List U8} {frame : RecordFrame Manifest}
    (h : read_frame codec bytes = .ok (frame, rest)) : rest.length < bytes.length := by
  unfold read_frame at h
  split at h
  · dsimp only at h
    split at h
    · cases h
    · split at h
      · cases h
      · split at h
        · cases h
        · split at h
          · cases h
          · cases h
            simp only [List.length_drop, List.length_cons]
            omega
  · cases h

/-- What the frames read so far have given. -/
structure ParsedFrames (Manifest : Type) where
  manifest : Option Manifest
  timeline : List TimelineEntry
  footer : Option RecordFooter
  last_position : Option ExecutionPosition
  frame_index : Nat

namespace ParsedFrames

def start : ParsedFrames Manifest :=
  { manifest := none, timeline := [], footer := none, last_position := none, frame_index := 0 }

def require_manifest (parsed : ParsedFrames Manifest) : Except RecordError Unit :=
  if parsed.manifest.isNone then .error (invalid_record "Record data precedes its manifest") else .ok ()

def update_position (previous : Option ExecutionPosition) (current : ExecutionPosition) :
    Except RecordError (Option ExecutionPosition) :=
  if previous.any fun position => decide (current < position) then
    .error (invalid_record "Record Timeline positions are not monotonic")
  else .ok (some current)

/-- One decoded frame. -/
def accept (parsed : ParsedFrames Manifest) (frame : RecordFrame Manifest) :
    Except RecordError (ParsedFrames Manifest) :=
  match frame with
  | .Manifest value =>
    if parsed.frame_index ≠ 0 || parsed.manifest.isSome then
      .error (invalid_record "Record manifest must be the unique first frame")
    else .ok { parsed with manifest := some value, frame_index := parsed.frame_index + 1 }
  | .Timeline entry =>
    match parsed.require_manifest with
    | .error error => .error error
    | .ok () =>
      match update_position parsed.last_position entry.position with
      | .error error => .error error
      | .ok last_position =>
        .ok { parsed with last_position, timeline := parsed.timeline ++ [entry], frame_index := parsed.frame_index + 1 }
  | .Footer value =>
    match parsed.require_manifest with
    | .error error => .error error
    | .ok () =>
      if parsed.last_position.any fun previous => decide (value.position < previous) then
        .error (invalid_record "Record footer precedes its Timeline")
      else .ok { parsed with footer := some value, frame_index := parsed.frame_index + 1 }

end ParsedFrames

/-- The loop over the frames, up to the end of the file. -/
def parse_frames (codec : RecordCodec Manifest) (bytes : List U8) (parsed : ParsedFrames Manifest) :
    Except RecordError (ParsedFrames Manifest) :=
  if bytes.isEmpty then .ok parsed
  else if parsed.footer.isSome then .error (invalid_record "Record contains data after its footer")
  else
    match _h : read_frame codec bytes with
    | .error error => .error error
    | .ok (frame, rest) =>
      match parsed.accept frame with
      | .error error => .error error
      | .ok parsed => parse_frames codec rest parsed
termination_by bytes.length
decreasing_by exact read_frame_length _h

/-- A parsed Record; the replay state the source adds is the same for every file. -/
structure Replayer (Manifest : Type) where
  manifest : Manifest
  timeline : List TimelineEntry
  footer : RecordFooter
deriving DecidableEq, Repr

def parse_record (codec : RecordCodec Manifest) (file : List U8) : Except RecordError (Replayer Manifest) :=
  if file.length < FILE_HEADER_BYTES then .error unexpected_eof
  else if file.take 8 ≠ FILE_MAGIC then .error (invalid_record "invalid Record file magic")
  else if (file.take FILE_HEADER_BYTES).drop 8 ≠ to_le_bytes FORMAT_VERSION then
    .error (invalid_record "unsupported Record format version")
  else
    match parse_frames codec (file.drop FILE_HEADER_BYTES) .start with
    | .error error => .error error
    | .ok parsed =>
      match parsed.manifest, parsed.footer with
      | none, _ => .error (invalid_record "Record has no manifest")
      | some _, none => .error (invalid_record "Record has no footer")
      | some manifest, some footer => .ok { manifest, timeline := parsed.timeline, footer }

/-! ## The recorder -/

/-- How the file operations of one call end: a failing write stops after so many bytes. -/
structure FileFaults where
  header : Option (Nat × IoError)
  payload : Option (Nat × IoError)
  flush : Option IoError
  sync_all : Option IoError
  commit : Option IoError
deriving DecidableEq, Repr

/-- The recorder and its file: the bytes handed to the writer, and the file at the final
path once it is committed. -/
structure RecorderInner where
  writer : Option (List U8)
  committed : Option (List U8)
  started : Bool
  active : Bool
  failure : Option String
deriving DecidableEq, Repr

namespace RecorderInner

/-- A recorder whose file header has been written. -/
def create : RecorderInner :=
  { writer := some file_header, committed := none, started := false, active := true, failure := none }

def require_active (inner : RecorderInner) : Except RecordError Unit :=
  if inner.started && inner.active && inner.writer.isSome then .ok ()
  else .error (invalid_record "record writer is not active")

def write_all (written bytes : List U8) : Option (Nat × IoError) → Except RecordError Unit × List U8
  | none => (.ok (), written ++ bytes)
  | some (count, error) => (.error (.Io error), written ++ bytes.take count)

def write_frame (codec : RecordCodec Manifest) (faults : FileFaults) (inner : RecorderInner)
    (frame : RecordFrame Manifest) : Except RecordError Unit × RecorderInner :=
  match codec.encode_value frame with
  | .error error => (.error error, inner)
  | .ok payload =>
    if payload.length > MAX_FRAME_BYTES then (.error (invalid_record "Record frame exceeds the size limit"), inner)
    else
      let header := to_le_bytes (BitVec.ofNat 32 payload.length) ++ to_le_bytes (codec.crc32 payload)
      match inner.writer with
      | none => (.error (invalid_record "record writer is unavailable"), inner)
      | some written =>
        match write_all written header faults.header with
        | (.error error, written) => (.error error, { inner with writer := some written })
        | (.ok (), written) =>
          match write_all written payload faults.payload with
          | (result, written) => (result, { inner with writer := some written })

/-- Runs an operation unless an earlier one has failed, and latches its failure. -/
def update (inner : RecorderInner) (operation : RecorderInner → Except RecordError Unit × RecorderInner) :
    Except RecordError Unit × RecorderInner :=
  match inner.failure with
  | some failure => (.error (invalid_record s!"recording already failed: {failure}"), inner)
  | none =>
    match operation inner with
    | (.ok (), inner) => (.ok (), inner)
    | (.error error, inner) => (.error error, { inner with failure := some error.to_string })

def start (codec : RecordCodec Manifest) (faults : FileFaults) (manifest : Manifest) (inner : RecorderInner) :
    Except RecordError Unit × RecorderInner :=
  inner.update fun inner =>
    if inner.started then (.error (invalid_record "record manifest was already written"), inner)
    else
      match inner.write_frame codec faults (.Manifest manifest) with
      | (.error error, inner) => (.error error, inner)
      | (.ok (), inner) => (.ok (), { inner with started := true })

def append (codec : RecordCodec Manifest) (faults : FileFaults) (entry : TimelineEntry) (inner : RecorderInner) :
    Except RecordError Unit × RecorderInner :=
  inner.update fun inner =>
    match inner.require_active with
    | .error error => (.error error, inner)
    | .ok () => inner.write_frame codec faults (.Timeline entry : RecordFrame Manifest)

/-- The steps of `finalize` after its footer: the writer is gone whatever happens next. -/
def commit_record_file (faults : FileFaults) (inner : RecorderInner) : Except RecordError Unit × RecorderInner :=
  match inner.writer with
  | none => (.error (invalid_record "record writer is unavailable"), inner)
  | some written =>
    let inner := { inner with writer := none }
    match faults.flush, faults.sync_all, faults.commit with
    | some error, _, _ => (.error (.Io error), inner)
    | none, some error, _ => (.error (.Io error), inner)
    | none, none, some error => (.error (.Io error), inner)
    | none, none, none => (.ok (), { inner with committed := some written, active := false })

def finalize (codec : RecordCodec Manifest) (faults : FileFaults) (footer : RecordFooter) (inner : RecorderInner) :
    Except RecordError Unit × RecorderInner :=
  inner.update fun inner =>
    match inner.require_active with
    | .error error => (.error error, inner)
    | .ok () =>
      match inner.write_frame codec faults (.Footer footer : RecordFrame Manifest) with
      | (.error error, inner) => (.error error, inner)
      | (.ok (), inner) => inner.commit_record_file faults

def disable (inner : RecorderInner) : RecorderInner := { inner with active := false, writer := none }

end RecorderInner

/-- A call on a recorder with the way its file operations end. -/
inductive RecorderCall (Manifest : Type) where
  | Start (faults : FileFaults) (manifest : Manifest)
  | Append (faults : FileFaults) (entry : TimelineEntry)
  | Finalize (faults : FileFaults) (footer : RecordFooter)
  | Disable
deriving DecidableEq, Repr

def RecorderInner.call (codec : RecordCodec Manifest) (inner : RecorderInner) :
    RecorderCall Manifest → Except RecordError Unit × RecorderInner
  | .Start faults manifest => inner.start codec faults manifest
  | .Append faults entry => inner.append codec faults entry
  | .Finalize faults footer => inner.finalize codec faults footer
  | .Disable => (.ok (), inner.disable)

end se_runtime.record
