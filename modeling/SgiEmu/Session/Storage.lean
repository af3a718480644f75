import SgiEmu.Runtime.Storage

open se_core se_core.storage se_machine se_runtime.record

namespace se_session

variable {σ : Type}

/-- The files of the host, as far as a medium uses them: positioning in the file
of a resource and reading exactly so many bytes, which may fail. -/
structure HostFiles (σ : Type) where
  read_exact : σ → ResourceId → (offset length : Nat) → Except IoError (List U8) × σ

/-! ## Host files -/

namespace HostFileStorage

/-- The check of the file adapter is the one of the overlays. -/
def check_range : Nat → Nat → Nat → Except IoError Unit := se_runtime.record.check_range

def read_exact_at (host : HostFiles σ) (resource : ResourceId) (size_bytes : Nat) (base : σ)
    (offset length : Nat) : Except IoError (List U8) × σ :=
  match check_range offset length size_bytes with
  | .error error => (.error error, base)
  | .ok () => host.read_exact base resource offset length

end HostFileStorage

/-! ## Overlaid media -/

/-- The overlay of a medium: that of a Recording, with what it shares with its
recorder, or that of a Replay. -/
inductive Overlay where
  | Record (pages : CowPages) (active : Bool) (failure : Option String)
  | Replay (state : ReplayStorageState)

namespace Overlay

def cow_pages : Overlay → CowPages
  | .Record pages _ _ => pages
  | .Replay state => state.cow_pages

/-- A failure that makes the overlay refuse further accesses. -/
def latched : Overlay → Bool
  | .Record .. => false
  | .Replay state => state.failure.isSome

def overlay_read (overlay : Overlay) (resource : ResourceId) (offset : Nat) (buffer : List U8) :
    Except IoError (List U8) :=
  match overlay with
  | .Record pages _ _ => RecordStorage.overlay_read pages resource offset buffer
  | .Replay state => ReplayStorage.overlay_read state resource offset buffer

def write_all_at (read_base_page : σ → Nat → Nat → Except IoError (List U8) × σ) (overlay : Overlay)
    (resource : ResourceId) (offset : Nat) (data : List U8) (size_bytes : Nat) (base : σ) :
    Except IoError Unit × Overlay × σ :=
  match overlay with
  | .Record pages active failure =>
    let (result, pages, base) :=
      RecordStorage.write_all_at read_base_page pages resource offset data size_bytes base
    (result, .Record pages active failure, base)
  | .Replay state =>
    let (result, state, base) :=
      ReplayStorage.write_all_at read_base_page state resource offset data size_bytes base
    (result, .Replay state, base)

def report_storage_error (overlay : Overlay) (error : IoError) : Overlay :=
  match overlay with
  | .Record pages active failure => .Record pages active (RecordStorage.report_storage_error active failure error)
  | .Replay state => .Replay (ReplayStorage.report_storage_error state error)

end Overlay

/-- Every failure of a medium is reported to its overlay. -/
def report_failure {α : Type} (overlay : Overlay) : Except IoError α → Overlay
  | .ok _ => overlay
  | .error error => overlay.report_storage_error error

namespace StorageMedium

/-- A base read, and the overlay over what it delivered. -/
def read_over (host : HostFiles σ) (resource : ResourceId) (size_bytes : Nat) (overlay : Overlay) (base : σ)
    (offset length : Nat) : Except IoError (List U8) × σ :=
  match HostFileStorage.read_exact_at host resource size_bytes base offset length with
  | (.error error, base) => (.error error, base)
  | (.ok buffer, base) => (overlay.overlay_read resource offset buffer, base)

/-- A write whose missing pages are read from the base. -/
def write_over (host : HostFiles σ) (resource : ResourceId) (size_bytes : Nat) (overlay : Overlay) (base : σ)
    (offset : Nat) (data : List U8) : Except IoError Unit × Overlay × σ :=
  overlay.write_all_at (HostFileStorage.read_exact_at host resource size_bytes) resource offset data size_bytes base

/-- `read_exact_at` of the Recording and of the Replay medium, each over its own overlay. -/
def read_exact_at (host : HostFiles σ) (resource : ResourceId) (size_bytes : Nat) (overlay : Overlay) (base : σ)
    (offset length : Nat) : Except IoError (List U8) × Overlay × σ :=
  let (result, base) := read_over host resource size_bytes overlay base offset length
  (result, report_failure overlay result, base)

/-- `write_all_at` of the Recording and of the Replay medium, each over its own overlay. -/
def write_all_at (host : HostFiles σ) (resource : ResourceId) (size_bytes : Nat) (overlay : Overlay) (base : σ)
    (offset : Nat) (data : List U8) : Except IoError Unit × Overlay × σ :=
  let (result, overlay, base) := write_over host resource size_bytes overlay base offset data
  (result, report_failure overlay result, base)

end StorageMedium

end se_session
