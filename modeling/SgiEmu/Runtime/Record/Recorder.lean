import SgiEmu.Runtime.Record.RoundTrip

open se_core se_core.storage se_machine

namespace se_runtime.record

variable {Manifest : Type} {codec : RecordCodec Manifest} {inner next : RecorderInner}
  {calls : List (RecorderCall Manifest)}

/-- The frame a call appends. -/
def RecorderCall.frame : RecorderCall Manifest → Option (RecordFrame Manifest)
  | .Start _ manifest => some (.Manifest manifest)
  | .Append _ entry => some (.Timeline entry)
  | _ => none

/-- A sequence of calls, one after the other. -/
def RecorderInner.run (codec : RecordCodec Manifest) (inner : RecorderInner) :
    List (RecorderCall Manifest) → RecorderInner
  | [] => inner
  | call :: calls => RecorderInner.run codec (inner.call codec call).2 calls

namespace RecorderInner

theorem run_append (inner : RecorderInner) (before after : List (RecorderCall Manifest)) :
    inner.run codec (before ++ after) = (inner.run codec before).run codec after := by
  induction before generalizing inner with
  | nil => rfl
  | cons call before ih => exact ih _

/-! ## The latch -/

theorem update_latched {operation : RecorderInner → Except RecordError Unit × RecorderInner}
    (h : inner.failure ≠ none) : (∃ error, (inner.update operation).1 = .error error) ∧ (inner.update operation).2 = inner := by
  obtain ⟨failure, hfailure⟩ := Option.ne_none_iff_exists'.mp h
  unfold update
  rw [hfailure]
  exact ⟨⟨_, rfl⟩, rfl⟩

theorem update_error {operation : RecorderInner → Except RecordError Unit × RecorderInner} {error : RecordError}
    (h : (inner.update operation).1 = .error error) : (inner.update operation).2.failure ≠ none := by
  unfold update at h ⊢
  cases hfailure : inner.failure with
  | some failure =>
    simp only [hfailure]
    exact Option.some_ne_none _
  | none =>
    rw [hfailure] at h
    dsimp only at h ⊢
    cases hresult : operation inner with
    | mk result next =>
      rw [hresult] at h
      cases result with
      | ok => cases h
      | error error => exact Option.some_ne_none _

theorem update_ok {operation : RecorderInner → Except RecordError Unit × RecorderInner}
    (h : (inner.update operation).1 = .ok ()) :
    inner.failure = none ∧ operation inner = (.ok (), (inner.update operation).2) := by
  unfold update at h ⊢
  cases hfailure : inner.failure with
  | some failure =>
    rw [hfailure] at h
    cases h
  | none =>
    rw [hfailure] at h
    dsimp only at h ⊢
    cases hresult : operation inner with
    | mk result next =>
      rw [hresult] at h
      cases result with
      | ok => exact ⟨rfl, rfl⟩
      | error error => cases h

/-- A failure stays, and every later call but `disable` fails with it. -/
theorem call_latched (call : RecorderCall Manifest) (h : inner.failure ≠ none) :
    (inner.call codec call).2.failure ≠ none := by
  cases call with
  | Start faults manifest =>
    rw [call, start, (update_latched h).2]
    exact h
  | Append faults entry =>
    rw [call, append, (update_latched h).2]
    exact h
  | Finalize faults footer =>
    rw [call, finalize, (update_latched h).2]
    exact h
  | Disable => exact h

theorem call_error (call : RecorderCall Manifest) {error : RecordError} (h : (inner.call codec call).1 = .error error) :
    (inner.call codec call).2.failure ≠ none := by
  cases call with
  | Start faults manifest => exact update_error h
  | Append faults entry => exact update_error h
  | Finalize faults footer => exact update_error h
  | Disable => cases h

theorem run_latched (h : inner.failure ≠ none) : (inner.run codec calls).failure ≠ none := by
  induction calls generalizing inner with
  | nil => exact h
  | cons call calls ih => exact ih (call_latched call h)

/-! ## The file -/

theorem write_frame_ok {faults : FileFaults} {frame : RecordFrame Manifest}
    (h : (inner.write_frame codec faults frame).1 = .ok ()) :
    ∃ written payload, inner.writer = some written ∧ codec.encode frame = .ok payload ∧
      payload.length ≤ MAX_FRAME_BYTES ∧
      (inner.write_frame codec faults frame).2 = { inner with writer := some (written ++ frame_bytes codec payload) } := by
  unfold write_frame at h ⊢
  cases hencoded : codec.encode frame with
  | error error =>
    simp only [RecordCodec.encode_value, hencoded] at h
    cases h
  | ok payload =>
    simp only [RecordCodec.encode_value, hencoded] at h ⊢
    split at h
    · cases h
    case isFalse hlength =>
      rw [if_neg hlength]
      cases hwriter : inner.writer with
      | none =>
        rw [hwriter] at h
        cases h
      | some written =>
        rw [hwriter] at h
        cases hheader : faults.header with
        | some fault =>
          simp only [hheader, write_all] at h
          cases h
        | none =>
          cases hpayload : faults.payload with
          | some fault =>
            simp only [hheader, hpayload, write_all] at h
            cases h
          | none =>
            refine ⟨written, payload, rfl, rfl, Nat.le_of_not_lt hlength, ?_⟩
            simp only [write_all, frame_bytes, List.append_assoc]

theorem commit_record_file_ok {faults : FileFaults} (h : (inner.commit_record_file faults).1 = .ok ()) :
    ∃ written, inner.writer = some written ∧
      (inner.commit_record_file faults).2 = { inner with writer := none, committed := some written, active := false } := by
  unfold commit_record_file at h ⊢
  cases hwriter : inner.writer with
  | none =>
    rw [hwriter] at h
    cases h
  | some written =>
    rw [hwriter] at h
    dsimp only at h ⊢
    split at h
    · cases h
    · cases h
    · cases h
    case h_4 hflush hsync hcommit =>
      exact ⟨written, rfl, rfl⟩

/-- A recorder no call on which has failed and whose writer is open: nothing was called, or
its file holds the manifest and the entries appended since. -/
inductive Recording (codec : RecordCodec Manifest) : List (RecorderCall Manifest) → RecorderInner → Prop where
  | create : Recording codec [] RecorderInner.create
  | started (calls : List (RecorderCall Manifest)) (manifest : Manifest) (timeline : List TimelineEntry)
    (payloads : List (List U8))
    (hcalls : calls.map RecorderCall.frame = (RecordFrame.Manifest manifest :: timeline.map .Timeline).map some)
    (hframes : List.Forall₂ (Carries codec) payloads (RecordFrame.Manifest manifest :: timeline.map .Timeline)) :
    Recording codec calls
      { writer := some (file_header ++ stream_bytes codec payloads)
        committed := none
        started := true
        active := true
        failure := none }

/-- A recorder that can still finalize is recording. -/
def Recorded (codec : RecordCodec Manifest) (calls : List (RecorderCall Manifest)) (inner : RecorderInner) : Prop :=
  inner.failure ≠ none ∨ inner.writer = none ∨ Recording codec calls inner

theorem stream_bytes_snoc (payloads : List (List U8)) (payload : List U8) :
    stream_bytes codec (payloads ++ [payload]) = stream_bytes codec payloads ++ frame_bytes codec payload := by
  simp only [stream_bytes, List.map_append, List.map_cons, List.map_nil, List.flatten_append, List.flatten_cons,
    List.flatten_nil, List.append_nil]

theorem forall₂_snoc {payloads : List (List U8)} {payload : List U8} {frames : List (RecordFrame Manifest)}
    {frame : RecordFrame Manifest} (hframes : List.Forall₂ (Carries codec) payloads frames) (h : Carries codec payload frame) :
    List.Forall₂ (Carries codec) (payloads ++ [payload]) (frames ++ [frame]) :=
  List.rel_append hframes (.cons h .nil)

/-- Without a writer every call but `disable` fails. -/
theorem call_without_writer (call : RecorderCall Manifest) (h : inner.writer = none) :
    (inner.call codec call).2.failure ≠ none ∨ (inner.call codec call).2.writer = none := by
  have hactive : inner.require_active = .error (invalid_record "record writer is not active") := by
    unfold require_active
    rw [h, Option.isSome_none, Bool.and_false]
    rfl
  cases hresult : (inner.call codec call).1 with
  | error error => exact Or.inl (call_error call hresult)
  | ok =>
    cases call with
    | Start faults manifest =>
      obtain ⟨_, hoperation⟩ := update_ok hresult
      split at hoperation
      · cases hoperation
      · split at hoperation
        · cases hoperation
        case h_2 written hwritten =>
          obtain ⟨_, _, hwriter, _⟩ := write_frame_ok (congrArg Prod.fst hwritten)
          rw [h] at hwriter
          cases hwriter
    | Append faults entry =>
      obtain ⟨_, hoperation⟩ := update_ok hresult
      rw [hactive] at hoperation
      cases hoperation
    | Finalize faults footer =>
      obtain ⟨_, hoperation⟩ := update_ok hresult
      rw [hactive] at hoperation
      cases hoperation
    | Disable => exact Or.inr rfl

/-- What a successful call does to a recorder that is recording. -/
theorem call_recording (hcodec : codec.Inverts) (h : Recording codec calls inner) (call : RecorderCall Manifest)
    (hok : (inner.call codec call).1 = .ok ()) :
    (inner.call codec call).2.writer = none ∨ Recording codec (calls ++ [call]) (inner.call codec call).2 := by
  cases call with
  | Start faults manifest =>
    obtain ⟨_, hoperation⟩ := update_ok hok
    cases h with
    | create =>
      simp only [create, Bool.false_eq_true, if_false] at hoperation
      split at hoperation
      · cases hoperation
      case h_2 next hwritten =>
        obtain ⟨written, payload, hwriter, hencoded, hlength, hnext⟩ := write_frame_ok (congrArg Prod.fst hwritten)
        cases hwriter
        rw [hwritten] at hnext
        dsimp only at hnext
        have hstate := (congrArg Prod.snd hoperation).symm
        rw [hnext] at hstate
        have hcarries : Carries codec payload (.Manifest manifest) := ⟨hlength, hcodec _ _ hencoded⟩
        have hrecording := Recording.started [RecorderCall.Start faults manifest] manifest [] [payload] rfl
          (.cons hcarries .nil)
        rw [stream_bytes, List.map_cons, List.map_nil, List.flatten_cons, List.flatten_nil, List.append_nil] at hrecording
        refine Or.inr ?_
        rw [List.nil_append]
        exact hstate ▸ hrecording
    | started calls first timeline payloads hcalls hframes => cases hoperation
  | Append faults entry =>
    obtain ⟨_, hoperation⟩ := update_ok hok
    cases h with
    | create => cases hoperation
    | started calls first timeline payloads hcalls hframes =>
      simp only [require_active, Option.isSome_some, Bool.and_self, if_true] at hoperation
      obtain ⟨written, payload, hwriter, hencoded, hlength, hnext⟩ := write_frame_ok (congrArg Prod.fst hoperation)
      cases hwriter
      rw [hoperation] at hnext
      have hcarries : Carries codec payload (.Timeline entry) := ⟨hlength, hcodec _ _ hencoded⟩
      have hrecording := Recording.started (calls ++ [RecorderCall.Append faults entry]) first (timeline ++ [entry])
        (payloads ++ [payload])
        (by rw [List.map_append, hcalls, List.map_append, ← List.cons_append, List.map_append]; rfl)
        (by rw [List.map_append, ← List.cons_append]; exact forall₂_snoc hframes hcarries)
      rw [stream_bytes_snoc, ← List.append_assoc] at hrecording
      refine Or.inr ?_
      exact hnext ▸ hrecording
  | Finalize faults footer =>
    obtain ⟨_, hoperation⟩ := update_ok hok
    cases h with
    | create => cases hoperation
    | started calls first timeline payloads hcalls hframes =>
      simp only [require_active, Option.isSome_some, Bool.and_self, if_true] at hoperation
      split at hoperation
      · cases hoperation
      case h_2 next hwritten =>
        obtain ⟨written, _, hnext⟩ := commit_record_file_ok (congrArg Prod.fst hoperation)
        rw [hoperation] at hnext
        exact Or.inl (congrArg RecorderInner.writer hnext)
  | Disable => exact Or.inl rfl

theorem recorded_call (hcodec : codec.Inverts) (h : Recorded codec calls inner) (call : RecorderCall Manifest) :
    Recorded codec (calls ++ [call]) (inner.call codec call).2 := by
  obtain hfailed | hclosed | hrecording := h
  · exact Or.inl (call_latched call hfailed)
  · obtain hfailed | hclosed : (inner.call codec call).2.failure ≠ none ∨ (inner.call codec call).2.writer = none :=
      call_without_writer call hclosed
    · exact Or.inl hfailed
    · exact Or.inr (Or.inl hclosed)
  · cases hresult : (inner.call codec call).1 with
    | error error => exact Or.inl (call_error call hresult)
    | ok => exact Or.inr (call_recording hcodec hrecording call hresult)

theorem recorded_run (hcodec : codec.Inverts) (calls : List (RecorderCall Manifest)) :
    Recorded codec calls (create.run codec calls) := by
  induction calls using List.reverseRecOn with
  | nil => exact Or.inr (Or.inr .create)
  | append_singleton calls call ih =>
    rw [run_append]
    exact recorded_call hcodec ih call

/-- A call on a recorder one of whose earlier calls has failed is not a finalization. -/
theorem finalize_after_error {before after : List (RecorderCall Manifest)} {call : RecorderCall Manifest}
    {error : RecordError} (h : ((create.run codec before).call codec call).1 = .error error) (faults : FileFaults)
    (footer : RecordFooter) :
    ∃ error, ((create.run codec (before ++ call :: after)).finalize codec faults footer).1 = .error error := by
  have hlatched : (create.run codec (before ++ call :: after)).failure ≠ none := by
    rw [run_append, run]
    exact run_latched (call_error call h)
  exact (update_latched hlatched).1

/-- The file a successful finalization commits: the calls before it were the start and the
appends of one recording, and their frames stand in the file before the footer. -/
theorem finalize_committed (hcodec : codec.Inverts) {faults : FileFaults} {footer : RecordFooter}
    (h : ((create.run codec calls).finalize codec faults footer).1 = .ok ()) :
    ∃ manifest timeline payloads,
      calls.map RecorderCall.frame = (RecordFrame.Manifest manifest :: timeline.map .Timeline).map some ∧
      List.Forall₂ (Carries codec) payloads (record_frames manifest timeline footer) ∧
      ((create.run codec calls).finalize codec faults footer).2.committed =
        some (file_header ++ stream_bytes codec payloads) := by
  have hrecorded := recorded_run hcodec calls
  generalize create.run codec calls = inner at h hrecorded ⊢
  obtain ⟨hfailure, hoperation⟩ := update_ok h
  have hactive : inner.require_active = .ok () := by
    cases hactive : inner.require_active with
    | ok => rfl
    | error error =>
      rw [hactive] at hoperation
      cases hoperation
  rw [hactive] at hoperation
  dsimp only at hoperation
  split at hoperation
  · cases hoperation
  case h_2 next hwritten =>
    obtain ⟨written, payload, hwriter, hencoded, hlength, hnext⟩ := write_frame_ok (congrArg Prod.fst hwritten)
    obtain ⟨committed, hcommitted, hfinal⟩ := commit_record_file_ok (congrArg Prod.fst hoperation)
    rw [hwritten] at hnext
    dsimp only at hnext
    rw [hnext] at hcommitted
    cases hcommitted
    have hcarries : Carries codec payload (.Footer footer) := ⟨hlength, hcodec _ _ hencoded⟩
    rw [hoperation] at hfinal
    have hfile : (inner.finalize codec faults footer).2.committed = some (written ++ frame_bytes codec payload) :=
      congrArg RecorderInner.committed hfinal
    obtain hfailed | hclosed | hrecording := hrecorded
    · exact absurd hfailure hfailed
    · rw [hclosed] at hwriter
      cases hwriter
    · cases hrecording with
      | create => cases hactive
      | started calls manifest timeline payloads hcalls hframes =>
        cases hwriter
        refine ⟨manifest, timeline, payloads ++ [payload], hcalls, forall₂_snoc hframes hcarries, ?_⟩
        rw [stream_bytes_snoc, ← List.append_assoc]
        exact hfile

/-- Record files: what a successful finalization leaves reads back as what was recorded and
stops reading when anything is cut off or added, an accepted file is one complete Record in
order, and no finalization succeeds after a failed call. -/
theorem recorder_spec (hcodec : codec.Inverts) :
    (∀ (calls : List (RecorderCall Manifest)) (faults : FileFaults) (footer : RecordFooter),
      ((create.run codec calls).finalize codec faults footer).1 = .ok () →
      ∃ manifest timeline file,
        calls.map RecorderCall.frame = (RecordFrame.Manifest manifest :: timeline.map .Timeline).map some ∧
        ((create.run codec calls).finalize codec faults footer).2.committed = some file ∧
        (NonDecreasing (record_positions timeline footer) → parse_record codec file = .ok ⟨manifest, timeline, footer⟩) ∧
        (∀ front, front <+: file → front ≠ file → ∃ error, parse_record codec front = .error error) ∧
        (∀ extra, extra ≠ [] → ∃ error, parse_record codec (file ++ extra) = .error error)) ∧
      (∀ file replayer, parse_record codec file = .ok replayer →
        ∃ payloads,
          List.Forall₂ (Carries codec) payloads (record_frames replayer.manifest replayer.timeline replayer.footer) ∧
          file = file_header ++ stream_bytes codec payloads ∧
          NonDecreasing (record_positions replayer.timeline replayer.footer)) ∧
      (∀ (before after : List (RecorderCall Manifest)) (call : RecorderCall Manifest) (error : RecordError),
        ((create.run codec before).call codec call).1 = .error error → ∀ (faults : FileFaults) (footer : RecordFooter),
          ∃ error, ((create.run codec (before ++ call :: after)).finalize codec faults footer).1 = .error error) := by
  refine ⟨fun calls faults footer hfinalize => ?_, fun file replayer haccepted => parse_record_grammar haccepted,
    fun before after call error herror faults footer => finalize_after_error herror faults footer⟩
  obtain ⟨manifest, timeline, payloads, hcalls, hframes, hcommitted⟩ := finalize_committed hcodec hfinalize
  exact ⟨manifest, timeline, _, hcalls, hcommitted, parse_record_complete hframes,
    fun front hfront hproper => parse_record_prefix hframes hfront hproper,
    fun extra hextra => parse_record_extension hframes hextra⟩

/-! ## Records of one serial line -/

/-- The reflected CRC-32 that checks frames. -/
def reflected_crc32 (bytes : List U8) : U32 :=
  let shift (crc : U32) : U32 := if crc &&& 1 = 0 then crc >>> 1 else (crc >>> 1) ^^^ 0xedb88320#32
  ~~~bytes.foldl (fun crc byte => (List.range 8).foldl (fun crc _ => shift crc) (crc ^^^ byte.setWidth 32)) 0xffffffff#32

/-- What stands before the byte of an input of the endpoint `serial`: the number of the
action, the endpoint with its length, and the number of the payload. -/
def serial_input : List U8 :=
  [0, 0, 0, 0, 6, 0, 0, 0, 0, 0, 0, 0, 0x73, 0x65, 0x72, 0x69, 0x61, 0x6c, 0, 0, 0, 0]

/-- The fixed-width encoding of the actions of one serial line. -/
def write_action : TimelineAction → Option (List U8)
  | .MachineInput { endpoint, payload := .SerialByte value } =>
    if endpoint = "serial" then some (serial_input ++ [value]) else none
  | .MachineInput _ => none
  | .Reset => some [1, 0, 0, 0]
  | .Checkpoint digest => if digest.length = 32 then some ([2, 0, 0, 0] ++ digest) else none

def read_action (bytes : List U8) : Option TimelineAction :=
  match bytes with
  | [1, 0, 0, 0] => some .Reset
  | 2 :: 0 :: 0 :: 0 :: digest => some (.Checkpoint digest)
  | _ =>
    match bytes.splitAt serial_input.length with
    | (front, [value]) =>
      if front = serial_input then some (.MachineInput { endpoint := "serial", payload := .SerialByte value }) else none
    | _ => none

/-- That of the outcomes that carry no text. -/
def write_outcome : RecordOutcome → Option (List U8)
  | .UserStopped => some [0, 0, 0, 0]
  | .Shutdown => some [1, 0, 0, 0]
  | _ => none

def read_outcome : List U8 → Option (RecordOutcome × List U8)
  | 0 :: 0 :: 0 :: 0 :: rest => some (.UserStopped, rest)
  | 1 :: 0 :: 0 :: 0 :: rest => some (.Shutdown, rest)
  | _ => none

def write_frame_value : RecordFrame (List U8) → Option (List U8)
  | .Manifest manifest => some ([0, 0, 0, 0] ++ manifest)
  | .Timeline entry => (write_action entry.action).map fun action => [1, 0, 0, 0] ++ position_layout.write entry.position ++ action
  | .Footer footer =>
    (write_outcome footer.outcome).map fun outcome =>
      [2, 0, 0, 0] ++ position_layout.write footer.position ++ outcome ++ footer.final_fingerprint

def read_frame_value : List U8 → Option (RecordFrame (List U8))
  | 0 :: 0 :: 0 :: 0 :: manifest => some (.Manifest manifest)
  | 1 :: 0 :: 0 :: 0 :: bytes =>
    (position_layout.read bytes).bind fun (position, bytes) =>
      (read_action bytes).map fun action => .Timeline { position, action }
  | 2 :: 0 :: 0 :: 0 :: bytes =>
    (position_layout.read bytes).bind fun (position, bytes) =>
      (read_outcome bytes).map fun (outcome, final_fingerprint) => .Footer { position, outcome, final_fingerprint }
  | _ => none

/-- The codec of the Records of one serial line, whose manifest is given by its own encoding. -/
def serial_codec : RecordCodec (List U8) where
  crc32 := reflected_crc32
  encode frame := match write_frame_value frame with
    | some bytes => .ok bytes
    | none => .error "unsupported"
  decode bytes := match read_frame_value bytes with
    | some frame => .ok (frame, bytes.length)
    | none => .error "unsupported"

theorem read_action_write {action : TimelineAction} {bytes : List U8} (h : write_action action = some bytes) :
    read_action bytes = some action := by
  unfold write_action at h
  split at h
  · case _ endpoint value =>
    split at h
    · case isTrue hserial =>
      cases h
      rw [hserial]
      rfl
    · cases h
  · cases h
  · cases h
    rfl
  · case _ digest =>
    split at h
    · case isTrue hlength =>
      cases h
      cases digest with
      | nil => cases hlength
      | cons => rfl
    · cases h

theorem read_outcome_write {outcome : RecordOutcome} {bytes : List U8} (h : write_outcome outcome = some bytes)
    (rest : List U8) : read_outcome (bytes ++ rest) = some (outcome, rest) := by
  unfold write_outcome at h
  split at h <;> cases h <;> rfl

theorem read_timeline_frame (bytes : List U8) :
    read_frame_value (1 :: 0 :: 0 :: 0 :: bytes) = (position_layout.read bytes).bind fun (position, bytes) =>
      (read_action bytes).map fun action => .Timeline { position, action } := rfl

theorem read_footer_frame (bytes : List U8) :
    read_frame_value (2 :: 0 :: 0 :: 0 :: bytes) = (position_layout.read bytes).bind fun (position, bytes) =>
      (read_outcome bytes).map fun (outcome, final_fingerprint) => .Footer { position, outcome, final_fingerprint } := rfl

theorem serial_codec_inverts : serial_codec.Inverts := by
  intro frame bytes hencoded
  have hwritten : write_frame_value frame = some bytes := by
    simp only [serial_codec] at hencoded
    split at hencoded
    · case _ hwritten =>
      cases hencoded
      exact hwritten
    · cases hencoded
  have hread : read_frame_value bytes = some frame := by
    cases frame with
    | Manifest manifest =>
      cases hwritten
      rfl
    | Timeline entry =>
      obtain ⟨action, haction, rfl⟩ := Option.map_eq_some_iff.mp hwritten
      rw [List.append_assoc]
      simp only [List.cons_append, List.nil_append]
      rw [read_timeline_frame, position_layout.read_write, Option.bind_some]
      dsimp only
      rw [read_action_write haction, Option.map_some]
    | Footer footer =>
      obtain ⟨outcome, houtcome, rfl⟩ := Option.map_eq_some_iff.mp hwritten
      rw [List.append_assoc, List.append_assoc]
      simp only [List.cons_append, List.nil_append]
      rw [read_footer_frame, position_layout.read_write, Option.bind_some]
      dsimp only
      rw [read_outcome_write houtcome, Option.map_some]
  simp only [serial_codec, hread]

def no_faults : FileFaults := { header := none, payload := none, flush := none, sync_all := none, commit := none }

/-- A byte received after three instructions, a reset after five and a checkpoint behind it. -/
def serial_timeline : List TimelineEntry :=
  [{ position := .default, action := .Checkpoint (List.replicate 32 0) },
    { position := { epoch := 0, completed_instructions := 3 }
      action := .MachineInput { endpoint := "serial", payload := .SerialByte 0x0d } },
    { position := { epoch := 0, completed_instructions := 5 }, action := .Reset },
    { position := { epoch := 1, completed_instructions := 0 }, action := .Checkpoint (List.replicate 32 0xa5) }]

def serial_footer : RecordFooter :=
  { position := { epoch := 1, completed_instructions := 2 }, outcome := .UserStopped
    final_fingerprint := List.replicate 32 0x5a }

def serial_calls : List (RecorderCall (List U8)) := .Start no_faults [7] :: serial_timeline.map (.Append no_faults)

/-- The Record of a manifest and four entries reads back, and nothing shorter or longer does. -/
theorem recorder_spec_serial_record :
    ∃ file,
      ((create.run serial_codec serial_calls).finalize serial_codec no_faults serial_footer).2.committed = some file ∧
        parse_record serial_codec file = .ok ⟨[7], serial_timeline, serial_footer⟩ ∧
        (∀ front, front <+: file → front ≠ file → ∃ error, parse_record serial_codec front = .error error) ∧
        ∀ extra, extra ≠ [] → ∃ error, parse_record serial_codec (file ++ extra) = .error error := by
  have hfinalized : ((create.run serial_codec serial_calls).finalize serial_codec no_faults serial_footer).1 = .ok () := by
    decide +kernel
  obtain ⟨manifest, timeline, file, hcalls, hcommitted, hparsed, hfronts, hextras⟩ :=
    (recorder_spec serial_codec_inverts).1 serial_calls no_faults serial_footer hfinalized
  obtain ⟨hmanifest, htimeline⟩ := List.cons.inj hcalls
  cases hmanifest
  have hinjective : Function.Injective fun entry : TimelineEntry => some (@RecordFrame.Timeline (List U8) entry) := by
    intro first second hsame
    cases hsame
    rfl
  have hentries : serial_timeline = timeline := by
    apply List.map_injective_iff.mpr hinjective
    rw [List.map_map, List.map_map] at htimeline
    exact htimeline
  subst hentries
  have hordered : NonDecreasing (record_positions serial_timeline serial_footer) := by
    unfold NonDecreasing
    decide
  exact ⟨file, hcommitted, hparsed hordered, hfronts, hextras⟩

end RecorderInner

end se_runtime.record
