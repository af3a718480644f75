import SgiEmu.Device.Scsi.Slots

open se_core se_device.scsi_disk se_device.scsi_cdrom

namespace se_device.scsi

/-! ## Hosts that do not fail -/

section

variable {μ : Type} [StorageMedium μ]

/-- The host carries out every read inside one of these media, and leaves it one
of them. -/
structure ReadsSucceed (works : μ → Prop) : Prop where
  read (medium : μ) (offset length : Nat) (hworks : works medium)
    (hrange : offset + length ≤ StorageMedium.size_bytes medium) :
    (StorageMedium.read_exact_at medium offset length).1.isSome = true ∧
      works (StorageMedium.read_exact_at medium offset length).2

/-- The host carries out every write inside one of these media, and leaves it one
of them. -/
structure WritesSucceed (works : μ → Prop) : Prop where
  write (medium : μ) (offset : Nat) (data : List U8) (hworks : works medium)
    (hrange : offset + data.length ≤ StorageMedium.size_bytes medium) :
    (StorageMedium.write_all_at medium offset data).1 = true ∧
      works (StorageMedium.write_all_at medium offset data).2

end

namespace MemoryStorage

/-- Memory fails no access inside it. -/
theorem reads_succeed : ReadsSucceed fun _ : MemoryStorage => True where
  read medium offset length _ hrange := by
    have hfits : offset + length ≤ medium.bytes.length := hrange
    simp only [StorageMedium.read_exact_at, read_exact_at, if_pos hfits, Option.isSome_some, and_self]

theorem writes_succeed : WritesSucceed fun _ : MemoryStorage => True where
  write medium offset data _ hrange := by
    have hfits : offset + data.length ≤ medium.bytes.length := hrange
    simp only [StorageMedium.write_all_at, write_all_at, if_pos hfits, and_self]

end MemoryStorage

namespace ScsiBus

/-! ## Chunks -/

/-- One call of the initiator: its chunk limit and its answer to a chunk. -/
structure ReadCall where
  limit : Nat
  limit_pos : 0 < limit
  accept : List U8 → Bool

structure WriteCall where
  limit : Nat
  limit_pos : 0 < limit
  provide : Nat → Option (List U8)

/-- A chunk that moved, with the limit of the call that moved it. -/
abbrev MovedChunk : Type := Nat × List U8

def chunk_bytes (chunks : List MovedChunk) : List U8 := (chunks.map Prod.snd).flatten

/-- As many bytes as the calls that moved a chunk allowed for. -/
def chunk_limits (chunks : List MovedChunk) : Nat := (chunks.map Prod.fst).sum

@[simp] theorem chunk_bytes_nil : chunk_bytes [] = [] := rfl

@[simp] theorem chunk_bytes_cons (chunk : MovedChunk) (chunks : List MovedChunk) :
    chunk_bytes (chunk :: chunks) = chunk.2 ++ chunk_bytes chunks := by
  simp only [chunk_bytes, List.map_cons, List.flatten_cons]

theorem chunk_bytes_append (before after : List MovedChunk) :
    chunk_bytes (before ++ after) = chunk_bytes before ++ chunk_bytes after := by
  simp only [chunk_bytes, List.map_append, List.flatten_append]

@[simp] theorem chunk_limits_nil : chunk_limits [] = 0 := rfl

@[simp] theorem chunk_limits_cons (chunk : MovedChunk) (chunks : List MovedChunk) :
    chunk_limits (chunk :: chunks) = chunk.1 + chunk_limits chunks := by
  simp only [chunk_limits, List.map_cons, List.sum_cons]

/-- The chunks the calls take of the bytes still to come: each call is offered the
next ones up to its limit, and what it refuses is offered again. -/
def chunks_taken : List ReadCall → List U8 → List MovedChunk
  | _, [] => []
  | [], _ => []
  | call :: calls, rest =>
    if call.accept (rest.take call.limit) then
      (call.limit, rest.take call.limit) :: chunks_taken calls (rest.drop call.limit)
    else chunks_taken calls rest

/-- The chunks the calls provide while bytes are still to be sent: each is asked
for as many as its limit allows, and a refused chunk is asked for again. -/
def chunks_sent : List WriteCall → Nat → List MovedChunk
  | _, 0 => []
  | [], _ => []
  | call :: calls, remaining =>
    match call.provide (min call.limit remaining) with
    | none => chunks_sent calls remaining
    | some bytes =>
      (call.limit, fill_buffer (min call.limit remaining) bytes) :: chunks_sent calls (remaining - min call.limit remaining)

@[simp] theorem chunks_taken_nil (calls : List ReadCall) : chunks_taken calls [] = [] := by
  cases calls with
  | nil => rfl
  | cons call calls => rfl

theorem chunks_taken_cons (call : ReadCall) (calls : List ReadCall) {rest : List U8} (hrest : rest ≠ []) :
    chunks_taken (call :: calls) rest =
      if call.accept (rest.take call.limit) then
        (call.limit, rest.take call.limit) :: chunks_taken calls (rest.drop call.limit)
      else chunks_taken calls rest := by
  cases rest with
  | nil => exact absurd rfl hrest
  | cons byte rest => rfl

@[simp] theorem chunks_sent_zero (calls : List WriteCall) : chunks_sent calls 0 = [] := by
  cases calls with
  | nil => rfl
  | cons call calls => rfl

theorem chunks_sent_cons (call : WriteCall) (calls : List WriteCall) {remaining : Nat} (hremaining : remaining ≠ 0) :
    chunks_sent (call :: calls) remaining =
      match call.provide (min call.limit remaining) with
      | none => chunks_sent calls remaining
      | some bytes => (call.limit, fill_buffer (min call.limit remaining) bytes) ::
          chunks_sent calls (remaining - min call.limit remaining) := by
  cases remaining with
  | zero => exact absurd rfl hremaining
  | succ remaining => rfl

/-- The chunks taken are the start of the bytes to come, as far as the limits of
the calls that took them go. -/
theorem chunks_taken_bytes (calls : List ReadCall) (rest : List U8) :
    chunk_bytes (chunks_taken calls rest) = rest.take (chunk_limits (chunks_taken calls rest)) := by
  induction calls generalizing rest with
  | nil =>
    cases rest with
    | nil => rfl
    | cons byte rest => rfl
  | cons call calls ih =>
    cases rest with
    | nil => rfl
    | cons byte rest =>
      rw [chunks_taken_cons call calls (List.cons_ne_nil byte rest)]
      split
      · rw [chunk_bytes_cons, chunk_limits_cons, ih, List.take_add]
      · exact ih (byte :: rest)

/-- As many bytes are sent as the limits of the calls that sent them allow, up to
the number asked for. -/
theorem chunks_sent_length (calls : List WriteCall) (remaining : Nat) :
    (chunk_bytes (chunks_sent calls remaining)).length = min (chunk_limits (chunks_sent calls remaining)) remaining := by
  induction calls generalizing remaining with
  | nil =>
    cases remaining with
    | zero => rfl
    | succ remaining => simp [chunks_sent]
  | cons call calls ih =>
    cases remaining with
    | zero => simp
    | succ remaining =>
      rw [chunks_sent_cons call calls (Nat.succ_ne_zero remaining)]
      split
      · exact ih (remaining + 1)
      · rw [chunk_bytes_cons, chunk_limits_cons, List.length_append, ih, length_fill_buffer]
        omega

variable {μ σ : Type} [StorageMedium μ] [LawfulStorageMedium μ] {bus next : ScsiBus ScsiTargetSnapshot μ} {slot : Nat}
  {contents : List U8} {works : μ → Prop}

/-! ## The medium of a transfer -/

/-- A slot holds a working medium with the given contents. -/
def Holds (works : μ → Prop) (bus : ScsiBus ScsiTargetSnapshot μ) (slot : Nat) (contents : List U8) : Prop :=
  ∃ attachment medium, bus.attachment slot = some attachment ∧ attachment.backing.medium = some medium ∧
    works medium ∧ LawfulStorageMedium.bytes medium = contents

theorem Holds.of_targets (h : Holds works bus slot contents) (htargets : next.targets = bus.targets) :
    Holds works next slot contents := by
  obtain ⟨attachment, medium, hattachment, hmedium, hworks, hbytes⟩ := h
  refine ⟨attachment, medium, ?_, hmedium, hworks, hbytes⟩
  simpa only [ScsiBus.attachment, htargets] using hattachment

theorem Holds.set_attachment {attachment held : TargetAttachment ScsiTargetSnapshot μ}
    (hheld : bus.attachment slot = some held) {medium : μ} (hmedium : attachment.backing.medium = some medium)
    (hworks : works medium) :
    Holds works (bus.set_attachment slot attachment) slot (LawfulStorageMedium.bytes medium) := by
  refine ⟨attachment, medium, ?_, hmedium, hworks, rfl⟩
  rw [attachment_set_attachment, if_pos ⟨rfl, slot_lt_of_attachment hheld⟩]

/-- Completing a transfer changes the target's sense only, and its success is
reported as GOOD. -/
theorem Holds.complete_target_storage (h : Holds works bus slot contents) (succeeded : Bool) :
    Holds works (bus.complete_target_storage slot succeeded).2 slot contents ∧
      (succeeded = true → (bus.complete_target_storage slot succeeded).1 = .Good) := by
  obtain ⟨attachment, medium, hattachment, hmedium, hworks, rfl⟩ := h
  simp only [ScsiBus.complete_target_storage, hattachment]
  refine ⟨Holds.set_attachment hattachment hmedium hworks, ?_⟩
  rintro rfl
  cases attachment.target with
  | Disk disk => rfl
  | Cdrom drive => rfl

/-! ## One chunk of a read -/

/-- The results of asking for a chunk of `byte_count` bytes at `offset`. -/
inductive ReadStep (works : μ → Prop) (slot offset remaining byte_count : Nat) (contents : List U8)
    (accept : List U8 → σ → Bool × σ) (state : σ) :
    Except ScsiBusError ScsiTransferResult × ScsiBus ScsiTargetSnapshot μ × σ → Prop
  | rejected (next : ScsiBus ScsiTargetSnapshot μ) (hholds : Holds works next slot contents)
      (hactive : next.active_transaction = some ⟨slot, .StorageDataIn offset remaining⟩)
      (hanswer : (accept ((contents.drop offset).take byte_count) state).1 = false) :
      ReadStep works slot offset remaining byte_count contents accept state
        (.ok .Rejected, next, (accept ((contents.drop offset).take byte_count) state).2)
  | more (next : ScsiBus ScsiTargetSnapshot μ) (hholds : Holds works next slot contents) (hmore : byte_count < remaining)
      (hactive : next.active_transaction =
        some ⟨slot, .StorageDataIn (offset + byte_count) (remaining - byte_count)⟩)
      (hanswer : (accept ((contents.drop offset).take byte_count) state).1 = true) :
      ReadStep works slot offset remaining byte_count contents accept state
        (.ok (.More byte_count (remaining - byte_count)), next,
          (accept ((contents.drop offset).take byte_count) state).2)
  | complete (next : ScsiBus ScsiTargetSnapshot μ) (hholds : Holds works next slot contents) (hall : byte_count = remaining)
      (hanswer : (accept ((contents.drop offset).take byte_count) state).1 = true) :
      ReadStep works slot offset remaining byte_count contents accept state
        (.ok (.Complete byte_count .Good), next, (accept ((contents.drop offset).take byte_count) state).2)

/-- While the host reads, a call is offered the next bytes up to its limit; nothing
moves unless it accepts them. -/
theorem transfer_data_in_step (hreads : ReadsSucceed works) {offset remaining limit : Nat}
    (hactive : bus.active_transaction = some ⟨slot, .StorageDataIn offset remaining⟩)
    (hholds : Holds works bus slot contents) (hrange : offset + remaining ≤ contents.length) (hlimit : 0 < limit)
    (accept : List U8 → σ → Bool × σ) (state : σ) :
    ReadStep works slot offset remaining (min limit remaining) contents accept state
      (bus.transfer_data_in limit accept state) := by
  obtain ⟨attachment, medium, hattachment, hmedium, hworks, rfl⟩ := hholds
  have hsize : offset + min limit remaining ≤ StorageMedium.size_bytes medium := by
    rw [← LawfulStorageMedium.length_bytes]
    omega
  obtain ⟨hsome, hworks⟩ := hreads.read medium offset (min limit remaining) hworks hsize
  have hread := LawfulStorageMedium.read_eq medium offset (min limit remaining)
  have hkept := LawfulStorageMedium.read_bytes medium offset (min limit remaining)
  simp only [transfer_data_in, if_neg (Nat.pos_iff_ne_zero.mp hlimit), hactive, transfer_storage_data_in, hattachment,
    hmedium]
  generalize StorageMedium.read_exact_at medium offset (min limit remaining) = result at hsome hworks hread hkept ⊢
  obtain ⟨result, read⟩ := result
  have hafter := @Holds.set_attachment μ _ _ bus slot works
    { attachment with backing := attachment.backing.set_medium read } attachment hattachment read (medium_set_medium read)
    hworks
  rw [hkept] at hafter
  have hclosed : Holds works ({ bus.set_attachment slot { attachment with backing := attachment.backing.set_medium read } with
      active_transaction := none } : ScsiBus ScsiTargetSnapshot μ) slot (LawfulStorageMedium.bytes medium) :=
    hafter.of_targets rfl
  cases result with
  | none => exact absurd hsome (by simp)
  | some data =>
    obtain rfl := hread data rfl hsize
    dsimp only
    split
    case isTrue hrejected => exact .rejected _ hafter hactive (by simpa using hrejected)
    case isFalse haccepted =>
      split
      case isTrue hall =>
        have hended := hclosed.complete_target_storage true
        rw [hended.2 rfl]
        exact .complete _ hended.1 (by omega) (by simpa using haccepted)
      case isFalse hmore =>
        exact .more _ (hafter.of_targets rfl) (by omega) rfl (by simpa using haccepted)

/-! ## A whole read -/

/-- How a sequence of transfer calls ends: the chunks that moved, the bytes and
status of the completing call if one was reached, and the bus. -/
structure TransferOutcome (μ : Type) where
  chunks : List MovedChunk
  completion : Option (Nat × ScsiStatus)
  bus : ScsiBus ScsiTargetSnapshot μ

def TransferOutcome.status (outcome : TransferOutcome μ) : Option ScsiStatus := outcome.completion.map Prod.snd

/-- Answers a chunk, and notes it down if it is accepted. -/
def ReadCall.answer (call : ReadCall) (bytes : List U8) (chunks : List MovedChunk) : Bool × List MovedChunk :=
  (call.accept bytes, if call.accept bytes then chunks ++ [(call.limit, bytes)] else chunks)

/-- Makes the calls in turn, until the transfer completes. -/
def read_all : List ReadCall → ScsiBus ScsiTargetSnapshot μ → List MovedChunk →
    Except ScsiBusError (TransferOutcome μ)
  | [], bus, chunks => .ok { chunks, completion := none, bus }
  | call :: calls, bus, chunks =>
    match bus.transfer_data_in call.limit (ReadCall.answer call) chunks with
    | (.error error, _, _) => .error error
    | (.ok (.Complete transferred status), bus, chunks) =>
      .ok { chunks, completion := some (transferred, status), bus }
    | (.ok _, bus, chunks) => read_all calls bus chunks

/-- However the calls cut and refuse the chunks, those that move are the next bytes
of the medium, and the transfer completes once they have all moved. -/
theorem read_all_exact (hreads : ReadsSucceed works) (calls : List ReadCall) {offset remaining : Nat}
    (chunks : List MovedChunk)
    (hactive : bus.active_transaction = some ⟨slot, .StorageDataIn offset remaining⟩)
    (hholds : Holds works bus slot contents) (hremaining : 0 < remaining)
    (hrange : offset + remaining ≤ contents.length) :
    ∃ outcome, read_all calls bus chunks = .ok outcome ∧ Holds works outcome.bus slot contents ∧
      outcome.chunks = chunks ++ chunks_taken calls ((contents.drop offset).take remaining) ∧
      outcome.status =
        if remaining ≤ chunk_limits (chunks_taken calls ((contents.drop offset).take remaining)) then some .Good
        else none := by
  induction calls generalizing bus offset remaining chunks with
  | nil =>
    have hnone : chunks_taken [] ((contents.drop offset).take remaining) = [] := by
      cases (contents.drop offset).take remaining with
      | nil => rfl
      | cons byte rest => rfl
    refine ⟨_, rfl, hholds, ?_, ?_⟩
    · rw [hnone, List.append_nil]
    · rw [hnone, chunk_limits_nil, if_neg (by omega)]
      rfl
  | cons call calls ih =>
    have hlimit := call.limit_pos
    have hstep := transfer_data_in_step hreads hactive hholds hrange hlimit (ReadCall.answer call) chunks
    have hrest : (contents.drop offset).take remaining ≠ [] := by
      apply List.ne_nil_of_length_pos
      rw [List.length_take, List.length_drop]
      omega
    have hchunk : ((contents.drop offset).take remaining).take call.limit =
        (contents.drop offset).take (min call.limit remaining) := List.take_take
    rw [chunks_taken_cons call calls hrest, hchunk]
    simp only [read_all]
    generalize bus.transfer_data_in call.limit (ReadCall.answer call) chunks = result at hstep
    cases hstep with
    | rejected next hnext hstill hanswer =>
      simp only [ReadCall.answer] at hanswer
      simp only [ReadCall.answer, hanswer, Bool.false_eq_true, if_false]
      exact ih chunks hstill hnext hremaining hrange
    | more next hnext hmore hadvanced hanswer =>
      simp only [ReadCall.answer] at hanswer
      simp only [ReadCall.answer, hanswer, if_true]
      have hlimited : min call.limit remaining = call.limit := by omega
      rw [hlimited] at hadvanced ⊢
      have htail : ((contents.drop offset).take remaining).drop call.limit =
          (contents.drop (offset + call.limit)).take (remaining - call.limit) := by
        rw [List.drop_take, List.drop_drop]
      obtain ⟨outcome, hrun, hlast, hchunks, hstatus⟩ :=
        ih (chunks ++ [(call.limit, (contents.drop offset).take call.limit)]) hadvanced hnext (by omega) (by omega)
      refine ⟨outcome, hrun, hlast, ?_, ?_⟩
      · rw [hchunks, htail, List.append_assoc, List.singleton_append]
      · rw [hstatus, htail, chunk_limits_cons]
        simp only [Nat.sub_le_iff_le_add']
    | complete next hnext hall hanswer =>
      simp only [ReadCall.answer] at hanswer
      simp only [ReadCall.answer, hanswer, if_true]
      have htail : ((contents.drop offset).take remaining).drop call.limit = [] := by
        apply List.drop_eq_nil_of_le
        rw [List.length_take]
        omega
      refine ⟨_, rfl, hnext, ?_, ?_⟩
      · rw [htail, chunks_taken_nil]
      · rw [chunk_limits_cons, if_pos (by simp only; omega)]
        rfl

/-! ## One chunk of a write -/

/-- The contents of a medium after a chunk is written at an offset. -/
def written (contents : List U8) (offset : Nat) (data : List U8) : List U8 :=
  contents.take offset ++ data ++ contents.drop (offset + data.length)

/-- The results of asking the initiator for a chunk of `byte_count` bytes. -/
inductive WriteStep (works : μ → Prop) (bus : ScsiBus ScsiTargetSnapshot μ) (slot offset remaining byte_count : Nat)
    (contents : List U8) (provide : Nat → σ → Option (List U8) × σ) (state : σ) :
    Except ScsiBusError ScsiTransferResult × ScsiBus ScsiTargetSnapshot μ × σ → Prop
  | rejected (hanswer : (provide byte_count state).1 = none) :
      WriteStep works bus slot offset remaining byte_count contents provide state
        (.ok .Rejected, bus, (provide byte_count state).2)
  | more (bytes : List U8) (hanswer : (provide byte_count state).1 = some bytes) (next : ScsiBus ScsiTargetSnapshot μ)
      (hholds : Holds works next slot (written contents offset (fill_buffer byte_count bytes)))
      (hmore : byte_count < remaining)
      (hactive : next.active_transaction =
        some ⟨slot, .StorageDataOut (offset + byte_count) (remaining - byte_count)⟩) :
      WriteStep works bus slot offset remaining byte_count contents provide state
        (.ok (.More byte_count (remaining - byte_count)), next, (provide byte_count state).2)
  | complete (bytes : List U8) (hanswer : (provide byte_count state).1 = some bytes)
      (next : ScsiBus ScsiTargetSnapshot μ)
      (hholds : Holds works next slot (written contents offset (fill_buffer byte_count bytes)))
      (hall : byte_count = remaining) :
      WriteStep works bus slot offset remaining byte_count contents provide state
        (.ok (.Complete byte_count .Good), next, (provide byte_count state).2)

/-- While the host writes, a chunk that is provided goes to the medium whole; a
refused one leaves the bus as it was. -/
theorem transfer_data_out_step (hwrites : WritesSucceed works) {offset remaining limit : Nat}
    (hactive : bus.active_transaction = some ⟨slot, .StorageDataOut offset remaining⟩)
    (hholds : Holds works bus slot contents) (hrange : offset + remaining ≤ contents.length) (hlimit : 0 < limit)
    (provide : Nat → σ → Option (List U8) × σ) (state : σ) :
    WriteStep works bus slot offset remaining (min limit remaining) contents provide state
      (bus.transfer_data_out limit provide state) := by
  obtain ⟨attachment, medium, hattachment, hmedium, hworks, rfl⟩ := hholds
  simp only [transfer_data_out, if_neg (Nat.pos_iff_ne_zero.mp hlimit), hactive, transfer_storage_data_out, hattachment,
    hmedium]
  cases hanswer : provide (min limit remaining) state with
  | mk provided last =>
    have hlast : last = (provide (min limit remaining) state).2 := by rw [hanswer]
    cases provided with
    | none =>
      rw [hlast]
      exact .rejected (by rw [hanswer])
    | some bytes =>
      have hsize : offset + (fill_buffer (min limit remaining) bytes).length ≤ StorageMedium.size_bytes medium := by
        rw [← LawfulStorageMedium.length_bytes, length_fill_buffer]
        omega
      obtain ⟨hsucceeds, hworks⟩ := hwrites.write medium offset (fill_buffer (min limit remaining) bytes) hworks hsize
      have hwrite := LawfulStorageMedium.write_bytes medium offset (fill_buffer (min limit remaining) bytes)
      dsimp only
      generalize hresult : StorageMedium.write_all_at medium offset (fill_buffer (min limit remaining) bytes) = result
        at hsucceeds hworks hwrite ⊢
      obtain ⟨succeeded, after⟩ := result
      obtain rfl : succeeded = true := hsucceeds
      have hafter := @Holds.set_attachment μ _ _ bus slot works
        { attachment with backing := attachment.backing.set_medium after } attachment hattachment after
        (medium_set_medium after) hworks
      have hbytes : LawfulStorageMedium.bytes after =
          written (LawfulStorageMedium.bytes medium) offset (fill_buffer (min limit remaining) bytes) :=
        hwrite rfl hsize
      rw [hbytes] at hafter
      have hclosed : Holds works ({ bus.set_attachment slot { attachment with backing := attachment.backing.set_medium after } with
          active_transaction := none } : ScsiBus ScsiTargetSnapshot μ) slot
            (written (LawfulStorageMedium.bytes medium) offset (fill_buffer (min limit remaining) bytes)) :=
        hafter.of_targets rfl
      rw [if_neg (by simp)]
      split
      case isTrue hall =>
        have hended := hclosed.complete_target_storage true
        rw [hended.2 rfl, hlast]
        exact .complete bytes (by rw [hanswer]) _ hended.1 (by omega)
      case isFalse hmore =>
        rw [hlast]
        exact .more bytes (by rw [hanswer]) _ (hafter.of_targets rfl) (by omega) rfl

/-! ## A whole write -/

/-- Provides a chunk and notes it down. -/
def WriteCall.answer (call : WriteCall) (byte_count : Nat) (chunks : List MovedChunk) :
    Option (List U8) × List MovedChunk :=
  match call.provide byte_count with
  | none => (none, chunks)
  | some bytes => (some bytes, chunks ++ [(call.limit, fill_buffer byte_count bytes)])

/-- Makes the calls in turn, until the transfer completes. -/
def write_all : List WriteCall → ScsiBus ScsiTargetSnapshot μ → List MovedChunk →
    Except ScsiBusError (TransferOutcome μ)
  | [], bus, chunks => .ok { chunks, completion := none, bus }
  | call :: calls, bus, chunks =>
    match bus.transfer_data_out call.limit (WriteCall.answer call) chunks with
    | (.error error, _, _) => .error error
    | (.ok (.Complete transferred status), bus, chunks) =>
      .ok { chunks, completion := some (transferred, status), bus }
    | (.ok _, bus, chunks) => write_all calls bus chunks

omit [StorageMedium μ] [LawfulStorageMedium μ] in
theorem answer_of_some {call : WriteCall} {byte_count : Nat} {chunks : List MovedChunk} {bytes : List U8}
    (h : (WriteCall.answer call byte_count chunks).1 = some bytes) :
    call.provide byte_count = some bytes ∧
      (WriteCall.answer call byte_count chunks).2 = chunks ++ [(call.limit, fill_buffer byte_count bytes)] := by
  unfold WriteCall.answer at h ⊢
  split at h
  · simp at h
  case h_2 provided hprovided =>
    obtain rfl := Option.some.inj h
    exact ⟨hprovided, rfl⟩

omit [StorageMedium μ] [LawfulStorageMedium μ] in
theorem answer_of_none {call : WriteCall} {byte_count : Nat} {chunks : List MovedChunk}
    (h : (WriteCall.answer call byte_count chunks).1 = none) :
    call.provide byte_count = none ∧ (WriteCall.answer call byte_count chunks).2 = chunks := by
  unfold WriteCall.answer at h ⊢
  split at h
  case h_1 hprovided => exact ⟨hprovided, rfl⟩
  · simp at h

omit [StorageMedium μ] [LawfulStorageMedium μ] in
/-- Two chunks written one after the other are one written whole. -/
theorem written_append {offset : Nat} {first second : List U8} (hrange : offset + first.length ≤ contents.length) :
    written (written contents offset first) (offset + first.length) second = written contents offset (first ++ second) := by
  have hlength : (contents.take offset ++ first).length = offset + first.length := by
    simp only [List.length_append, List.length_take]
    omega
  have htake : (written contents offset first).take (offset + first.length) = contents.take offset ++ first := by
    rw [written, ← hlength, List.take_left]
  have hdrop : (written contents offset first).drop (offset + first.length + second.length) =
      contents.drop (offset + (first ++ second).length) := by
    rw [written, ← hlength, List.drop_append, List.drop_eq_nil_of_le (by omega), List.drop_drop, hlength,
      List.length_append, List.nil_append]
    congr 1
    omega
  rw [written, htake, hdrop, written]
  simp only [List.append_assoc]

omit [StorageMedium μ] [LawfulStorageMedium μ] in
theorem length_written {offset : Nat} {data : List U8} (hrange : offset + data.length ≤ contents.length) :
    (written contents offset data).length = contents.length := by
  simp only [written, List.length_append, List.length_take, List.length_drop]
  omega

/-- However the calls cut and refuse the chunks, the medium changes where they go
only, to what was sent, and the transfer completes once everything was. -/
theorem write_all_exact (hwrites : WritesSucceed works) (calls : List WriteCall) {offset remaining : Nat}
    (chunks : List MovedChunk)
    (hactive : bus.active_transaction = some ⟨slot, .StorageDataOut (offset + (chunk_bytes chunks).length) remaining⟩)
    (hholds : Holds works bus slot (written contents offset (chunk_bytes chunks))) (hremaining : 0 < remaining)
    (hrange : offset + (chunk_bytes chunks).length + remaining ≤ contents.length) :
    ∃ outcome, write_all calls bus chunks = .ok outcome ∧
      Holds works outcome.bus slot (written contents offset (chunk_bytes outcome.chunks)) ∧
      outcome.chunks = chunks ++ chunks_sent calls remaining ∧
      outcome.status = if remaining ≤ chunk_limits (chunks_sent calls remaining) then some .Good else none := by
  induction calls generalizing bus chunks remaining with
  | nil =>
    obtain ⟨less, rfl⟩ := Nat.exists_eq_add_of_lt hremaining
    refine ⟨_, rfl, hholds, (List.append_nil chunks).symm, ?_⟩
    rw [if_neg (by simp [chunks_sent])]
    rfl
  | cons call calls ih =>
    have hlimit := call.limit_pos
    have hwritten : (written contents offset (chunk_bytes chunks)).length = contents.length :=
      length_written (by omega)
    have hstep := transfer_data_out_step hwrites hactive hholds (by rw [hwritten]; exact hrange) hlimit
      (WriteCall.answer call) chunks
    rw [chunks_sent_cons call calls (Nat.pos_iff_ne_zero.mp hremaining)]
    simp only [write_all]
    generalize bus.transfer_data_out call.limit (WriteCall.answer call) chunks = result at hstep
    have hsent (bytes : List U8) : written (written contents offset (chunk_bytes chunks))
        (offset + (chunk_bytes chunks).length) (fill_buffer (min call.limit remaining) bytes) =
          written contents offset (chunk_bytes (chunks ++ [(call.limit, fill_buffer (min call.limit remaining) bytes)])) := by
      rw [chunk_bytes_append, chunk_bytes_cons, chunk_bytes_nil, List.append_nil]
      exact written_append (by omega)
    cases hstep with
    | rejected hanswer =>
      obtain ⟨hrefused, hkept⟩ := answer_of_none hanswer
      simp only [hrefused, hkept]
      exact ih chunks hactive hholds hremaining hrange
    | more bytes hanswer next hkept hmore hadvanced =>
      obtain ⟨hprovided, hnoted⟩ := answer_of_some hanswer
      simp only [hprovided, hnoted]
      rw [hsent] at hkept
      have hlength : (chunk_bytes (chunks ++ [(call.limit, fill_buffer (min call.limit remaining) bytes)])).length =
          (chunk_bytes chunks).length + min call.limit remaining := by
        rw [chunk_bytes_append, List.length_append, chunk_bytes_cons, chunk_bytes_nil, List.append_nil, length_fill_buffer]
      rw [Nat.add_assoc, ← hlength] at hadvanced
      obtain ⟨outcome, hrun, hlast, hchunks, hstatus⟩ := ih _ hadvanced hkept (by omega) (by rw [hlength]; omega)
      refine ⟨outcome, hrun, hlast, ?_, ?_⟩
      · rw [hchunks, List.append_assoc, List.singleton_append]
      · rw [hstatus, chunk_limits_cons]
        congr 1
        apply propext
        dsimp only
        omega
    | complete bytes hanswer next hkept hall =>
      obtain ⟨hprovided, hnoted⟩ := answer_of_some hanswer
      simp only [hprovided, hnoted]
      rw [hsent] at hkept
      refine ⟨_, rfl, hkept, ?_, ?_⟩
      · rw [hall, Nat.sub_self, chunks_sent_zero]
      · rw [chunk_limits_cons, if_pos (by simp only; omega)]
        rfl

end ScsiBus

end se_device.scsi
