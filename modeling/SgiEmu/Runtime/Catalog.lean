import SgiEmu.Runtime.Record

open se_core se_core.storage

namespace se_runtime.record

/-! ## Snapshots and their index -/

structure RecordIdentity where
  size_bytes : U64
  sha256 : List U8
deriving DecidableEq, Repr

-- The module and the fields of its files have one name in the source.
set_option linter.dupNamespace false in
/-- A snapshot; `state` is what is only stored in it: the machine, its clock and
the copy-on-write pages. -/
structure ReplaySnapshot (State : Type) where
  record : RecordIdentity
  position : ExecutionPosition
  timeline_cursor : Nat
  last_verified_checkpoint : Option ExecutionPosition
  machine_fingerprint : List U8
  pc : U32
  state : State

abbrev FileName := List Char

structure SnapshotCatalogEntry where
  id : FileName
  position : ExecutionPosition
  pc : U32
  timeline_cursor : Nat
  last_verified_checkpoint : Option ExecutionPosition
  machine_fingerprint : List U8
  file_size_bytes : Nat
  file_sha256 : List U8
deriving DecidableEq, Repr

set_option linter.dupNamespace false in
structure SnapshotCatalog where
  record : RecordIdentity
  entries : List SnapshotCatalogEntry
deriving DecidableEq, Repr

/-- How a type of value is laid out in a payload, by another package. -/
structure ValueCodec (α : Type) where
  encode : α → List U8
  decode : List U8 → Except String α

/-- Decoding what was encoded returns it. -/
def ValueCodec.Inverts {α : Type} (codec : ValueCodec α) : Prop := ∀ value, codec.decode (codec.encode value) = .ok value

/-- What cache files use of other packages. -/
structure CacheCodec (State : Type) where
  crc32 : List U8 → U32
  sha256 : List U8 → List U8
  snapshot : ValueCodec (ReplaySnapshot State)
  catalog : ValueCodec SnapshotCatalog

/-! ## Names -/

def digit (value : Nat) : Char := Char.ofNat (48 + value % 10)

/-- The last `width` decimal digits, padded with zeros. -/
def fixed_digits : Nat → Nat → List Char
  | 0, _ => []
  | width + 1, value => fixed_digits width (value / 10) ++ [digit value]

def CKPT : List Char := ['c', 'k', 'p', 't']
def PARTIAL : List Char := ['.', 'p', 'a', 'r', 't', 'i', 'a', 'l']

def snapshot_file_name (position : ExecutionPosition) : FileName :=
  fixed_digits 20 position.epoch.toNat ++ '-' :: fixed_digits 20 position.completed_instructions.toNat ++ '.' :: CKPT

/-- What follows the last dot of a name that does not begin with it. -/
def extension (name : FileName) : Option (List Char) :=
  match name.reverse.dropWhile (· ≠ '.') with
  | [] | [_] => none
  | _ => some (name.reverse.takeWhile (· ≠ '.')).reverse

def validate_snapshot_id (snapshot_id : FileName) : Except RecordError Unit :=
  if snapshot_id = [] ∨ snapshot_id = ['.'] ∨ snapshot_id = ['.', '.'] ∨ '/' ∈ snapshot_id ∨
      extension snapshot_id ≠ some CKPT then
    .error (invalid_record "invalid Replay snapshot identifier")
  else .ok ()

/-- The cache files of one Record: those named by the Record's own name with a
suffix, and those in its checkpoint directory. -/
inductive CachePath where
  | Beside (suffix : FileName)
  | Checkpoint (name : FileName)
deriving DecidableEq, Repr

def index_path : CachePath := .Beside ['.', 'i', 'd', 'x']

def append_path_suffix (path : CachePath) (suffix : List Char) : CachePath :=
  match path with
  | .Beside name => .Beside (name ++ suffix)
  | .Checkpoint name => .Checkpoint (name ++ suffix)

/-! ## The file system -/

/-- The cache files there are, in the order in which a directory lists them. -/
abbrev Files := List (CachePath × List U8)

namespace Files

def read (files : Files) (path : CachePath) : Option (List U8) := files.lookup path

def remove (path : CachePath) (files : Files) : Files := files.filter fun file => file.1 ≠ path

def write (path : CachePath) (bytes : List U8) (files : Files) : Files := (path, bytes) :: files.remove path

/-- `fs::rename`, which replaces its destination. -/
def rename (source destination : CachePath) (files : Files) : Files :=
  match files.read source with
  | none => files
  | some bytes => (files.remove source).write destination bytes

/-- The names in the checkpoint directory, with their contents. -/
def read_dir (files : Files) : List (FileName × List U8) :=
  files.filterMap fun file => match file.1 with
    | .Beside _ => none
    | .Checkpoint name => some (name, file.2)

end Files

/-- How far the steps of one cache file's replacement get before one of them
fails or the program dies: the opening of the partial file, the writing of its
bytes, its synchronization, its renaming. -/
inductive WriteOutcome where
  | Unopened
  | Torn (written : Nat)
  | NotRenamed
  | Done
deriving DecidableEq, Repr

def disk_failure : RecordError := .Io (.other "input/output error")
def already_exists : RecordError := .Io { kind := .AlreadyExists, message := "file exists" }

/-! ## Cache files -/

/-- `b"SGICKPT\0"`. -/
def SNAPSHOT_MAGIC : List U8 := [0x53, 0x47, 0x49, 0x43, 0x4b, 0x50, 0x54, 0x00]
/-- `b"SGISIDX\0"`. -/
def INDEX_MAGIC : List U8 := [0x53, 0x47, 0x49, 0x53, 0x49, 0x44, 0x58, 0x00]
def CACHE_SCHEMA : U32 := 1
def CACHE_HEADER_BYTES : Nat := 24

/-- `u64::to_le_bytes`. -/
def to_le_bytes_u64 (value : U64) : List U8 :=
  to_le_bytes (value.extractLsb' 0 32) ++ to_le_bytes (value.extractLsb' 32 32)

variable {State : Type}

def cache_bytes (codec : CacheCodec State) (magic payload : List U8) : List U8 :=
  magic ++ to_le_bytes CACHE_SCHEMA ++ to_le_bytes_u64 (BitVec.ofNat 64 payload.length) ++
    to_le_bytes (codec.crc32 payload) ++ payload

def payload_overflow : RecordError := invalid_record "Replay cache payload length overflow"

/-- Replaces a cache file by way of its partial file; returns its size and hash. -/
def write_cache_file (codec : CacheCodec State) (path : CachePath) (magic payload : List U8) (outcome : WriteOutcome)
    (files : Files) : Except RecordError (Nat × List U8) × Files :=
  if 0x10000000000000000 ≤ payload.length then (.error payload_overflow, files)
  else
    let bytes := cache_bytes codec magic payload
    let partial_path := append_path_suffix path PARTIAL
    match outcome with
    | .Unopened => (.error disk_failure, files)
    | .Torn written =>
      -- The partial file is opened with `create_new`, and nothing ever removes it.
      if (files.read partial_path).isSome then (.error already_exists, files)
      else (.error disk_failure, files.write partial_path (bytes.take written))
    | .NotRenamed =>
      if (files.read partial_path).isSome then (.error already_exists, files)
      else (.error disk_failure, files.write partial_path bytes)
    | .Done =>
      if (files.read partial_path).isSome then (.error already_exists, files)
      else (.ok (bytes.length, codec.sha256 bytes), (files.write partial_path bytes).rename partial_path path)

/-- Reads the bytes of a cache file; returns its value, size and hash. -/
def read_cache_file_with_identity {α : Type} (codec : CacheCodec State) (values : ValueCodec α) (magic : List U8)
    (name : String) (bytes : List U8) : Except RecordError (α × Nat × List U8) :=
  match bytes with
  | m0 :: m1 :: m2 :: m3 :: m4 :: m5 :: m6 :: m7 :: s0 :: s1 :: s2 :: s3 :: l0 :: l1 :: l2 :: l3 :: l4 :: l5 :: l6 :: l7 ::
      c0 :: c1 :: c2 :: c3 :: payload =>
    if [m0, m1, m2, m3, m4, m5, m6, m7] ≠ magic then .error (invalid_record s!"invalid {name} magic")
    else if from_le_bytes s0 s1 s2 s3 ≠ CACHE_SCHEMA then .error (invalid_record s!"unsupported {name} schema")
    else if (from_le_bytes l4 l5 l6 l7 ++ from_le_bytes l0 l1 l2 l3).toNat ≠ payload.length then
      .error (invalid_record s!"{name} has the wrong length")
    else if codec.crc32 payload ≠ from_le_bytes c0 c1 c2 c3 then .error (invalid_record s!"{name} CRC mismatch")
    else
      match values.decode payload with
      | .error error => .error (invalid_record s!"failed to decode {name}: {error}")
      | .ok value => .ok (value, bytes.length, codec.sha256 bytes)
  | _ => .error (invalid_record s!"invalid {name} magic")

/-! ## The catalog -/

def position_le (a b : SnapshotCatalogEntry) : Bool := !decide (b.position < a.position)

def sort_by_position (entries : List SnapshotCatalogEntry) : List SnapshotCatalogEntry := entries.mergeSort position_le

/-- `dedup_by_key`: of consecutive entries of one position the first stays. -/
def dedup_by_position : List SnapshotCatalogEntry → List SnapshotCatalogEntry
  | [] => []
  | [entry] => [entry]
  | first :: second :: rest =>
    if first.position = second.position then dedup_by_position (first :: rest)
    else first :: dedup_by_position (second :: rest)

def catalog_entry (id : FileName) (snapshot : ReplaySnapshot State) (file_size_bytes : Nat) (file_sha256 : List U8) :
    SnapshotCatalogEntry :=
  { id, position := snapshot.position, pc := snapshot.pc, timeline_cursor := snapshot.timeline_cursor
    last_verified_checkpoint := snapshot.last_verified_checkpoint, machine_fingerprint := snapshot.machine_fingerprint
    file_size_bytes, file_sha256 }

/-- The entry of a file in the checkpoint directory, if it is a complete snapshot of the Record. -/
def rebuild_entry (codec : CacheCodec State) (record : RecordIdentity) (file : FileName × List U8) :
    Option SnapshotCatalogEntry :=
  match validate_snapshot_id file.1, read_cache_file_with_identity codec codec.snapshot SNAPSHOT_MAGIC "Replay snapshot" file.2 with
  | .ok _, .ok (snapshot, file_size_bytes, file_sha256) =>
    if snapshot.record ≠ record then none else some (catalog_entry file.1 snapshot file_size_bytes file_sha256)
  | _, _ => none

/-- The entries of the complete snapshots of the Record that there are. -/
def complete_entries (codec : CacheCodec State) (record : RecordIdentity) (files : Files) : List SnapshotCatalogEntry :=
  files.read_dir.filterMap (rebuild_entry codec record)

/-- The catalog that a rebuild comes to. -/
def catalog_of (codec : CacheCodec State) (record : RecordIdentity) (files : Files) : SnapshotCatalog :=
  { record, entries := dedup_by_position (sort_by_position (complete_entries codec record files)) }

def rebuild_catalog (codec : CacheCodec State) (record : RecordIdentity) (outcome : WriteOutcome) (files : Files) :
    Except RecordError SnapshotCatalog × Files :=
  let catalog := catalog_of codec record files
  match write_cache_file codec index_path INDEX_MAGIC (codec.catalog.encode catalog) outcome files with
  | (.error error, files) => (.error error, files)
  | (.ok _, files) => (.ok catalog, files)

def validate_entries (files : Files) (ids : List FileName) (positions : List ExecutionPosition) :
    List SnapshotCatalogEntry → Except RecordError Unit
  | [] => .ok ()
  | entry :: rest =>
    match validate_snapshot_id entry.id with
    | .error error => .error error
    | .ok _ =>
      if entry.id ∈ ids ∨ entry.position ∈ positions then
        .error (invalid_record "Replay index contains duplicate entries")
      else
        match files.read (.Checkpoint entry.id) with
        | none => .error disk_failure
        | some bytes =>
          if bytes.length ≠ entry.file_size_bytes then
            .error (invalid_record "Replay snapshot size does not match its index")
          else validate_entries files (entry.id :: ids) (entry.position :: positions) rest

def validate_catalog (files : Files) (catalog : SnapshotCatalog) : Except RecordError Unit :=
  match validate_entries files [] [] catalog.entries with
  | .error error => .error error
  | .ok _ =>
    if (catalog.entries.zip catalog.entries.tail).any fun pair => ¬pair.1.position < pair.2.position then
      .error (invalid_record "Replay index entries are not sorted")
    else .ok ()

/-- The index, where it can be read and passes its validation. -/
def trusted_index (codec : CacheCodec State) (record : RecordIdentity) (files : Files) : Option SnapshotCatalog :=
  match files.read index_path with
  | none => none
  | some bytes =>
    match read_cache_file_with_identity codec codec.catalog INDEX_MAGIC "Replay index" bytes with
    | .error _ => none
    | .ok (catalog, _, _) =>
      match validate_catalog files catalog with
      | .error _ => none
      | .ok _ => if catalog.record = record then some catalog else none

def load_or_rebuild_catalog (codec : CacheCodec State) (record : RecordIdentity) (outcome : WriteOutcome)
    (files : Files) : Except RecordError SnapshotCatalog × Files :=
  match trusted_index codec record files with
  | some catalog => (.ok catalog, files)
  | none => rebuild_catalog codec record outcome files

/-- What becomes of the file system steps of one `create_snapshot`. -/
structure CreateFaults where
  directory_fails : Bool
  snapshot : WriteOutcome
  rebuild : WriteOutcome
  index : WriteOutcome
deriving DecidableEq, Repr

/-- Puts an entry in the place of the one its position has. -/
def SnapshotCatalog.replace (entry : SnapshotCatalogEntry) (catalog : SnapshotCatalog) : SnapshotCatalog :=
  { catalog with
    entries := sort_by_position (catalog.entries.filter (fun other => other.position ≠ entry.position) ++ [entry]) }

/-- The part of `create_snapshot` that follows the replacement of the snapshot file. -/
def update_index (codec : CacheCodec State) (record : RecordIdentity) (faults : CreateFaults)
    (entry : SnapshotCatalogEntry) (files : Files) : Except RecordError SnapshotCatalogEntry × Files :=
  match load_or_rebuild_catalog codec record faults.rebuild files with
  | (.error error, files) => (.error error, files)
  | (.ok catalog, files) =>
    match write_cache_file codec index_path INDEX_MAGIC (codec.catalog.encode (catalog.replace entry)) faults.index files with
    | (.error error, files) => (.error error, files)
    | (.ok _, files) => (.ok entry, files)

/-- Stores a snapshot of the Record and lists it in the index. -/
def create_snapshot (codec : CacheCodec State) (record : RecordIdentity) (faults : CreateFaults)
    (snapshot : ReplaySnapshot State) (files : Files) : Except RecordError SnapshotCatalogEntry × Files :=
  let snapshot := { snapshot with record }
  let id := snapshot_file_name snapshot.position
  if faults.directory_fails then (.error disk_failure, files)
  else
    match write_cache_file codec (.Checkpoint id) SNAPSHOT_MAGIC (codec.snapshot.encode snapshot) faults.snapshot files with
    | (.error error, files) => (.error error, files)
    | (.ok (file_size_bytes, file_sha256), files) =>
      update_index codec record faults (catalog_entry id snapshot file_size_bytes file_sha256) files

/-- `install_snapshot`, up to the snapshot that it restores. -/
def install_snapshot (codec : CacheCodec State) (record : RecordIdentity) (outcome : WriteOutcome)
    (snapshot_id : FileName) (files : Files) : Except RecordError (ReplaySnapshot State) :=
  match validate_snapshot_id snapshot_id with
  | .error error => .error error
  | .ok _ =>
    match load_or_rebuild_catalog codec record outcome files with
    | (.error error, _) => .error error
    | (.ok catalog, files) =>
      match catalog.entries.find? fun entry => entry.id = snapshot_id with
      | none => .error (invalid_record "Replay snapshot is not present in the catalog")
      | some entry =>
        match files.read (.Checkpoint snapshot_id) with
        | none => .error disk_failure
        | some bytes =>
          match read_cache_file_with_identity codec codec.snapshot SNAPSHOT_MAGIC "Replay snapshot" bytes with
          | .error error => .error error
          | .ok (snapshot, file_size_bytes, file_sha256) =>
            if file_size_bytes ≠ entry.file_size_bytes ∨ file_sha256 ≠ entry.file_sha256 then
              .error (invalid_record "Replay snapshot identity does not match its index")
            else if snapshot.position ≠ entry.position ∨ snapshot.pc ≠ entry.pc ∨
                snapshot.timeline_cursor ≠ entry.timeline_cursor ∨
                snapshot.last_verified_checkpoint ≠ entry.last_verified_checkpoint ∨
                snapshot.machine_fingerprint ≠ entry.machine_fingerprint then
              .error (invalid_record "Replay snapshot metadata does not match its index")
            else .ok snapshot

/-! ## Runs -/

inductive CacheOperation (State : Type) where
  | CreateSnapshot (snapshot : ReplaySnapshot State) (faults : CreateFaults)
  | LoadCatalog (outcome : WriteOutcome)

def operate (codec : CacheCodec State) (record : RecordIdentity) (files : Files) : CacheOperation State → Files
  | .CreateSnapshot snapshot faults => (create_snapshot codec record faults snapshot files).2
  | .LoadCatalog outcome => (load_or_rebuild_catalog codec record outcome files).2

def no_faults : CreateFaults := { directory_fails := false, snapshot := .Done, rebuild := .Done, index := .Done }

end se_runtime.record
