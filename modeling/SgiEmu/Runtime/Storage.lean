import SgiEmu.Library.PagedOverlay
import SgiEmu.Machine.Input

open se_core se_core.storage se_machine Library.PagedOverlay

namespace se_runtime.record

/-- Granularity used for writable-storage COW pages. -/
abbrev STORAGE_PAGE_BYTES : Nat := 4096

abbrev CowPages : Type := BTreeMap ResourceId (BTreeMap Nat (List U8))

def check_range (offset length size_bytes : Nat) : Except IoError Unit :=
  match checked_add_u64 offset length with
  | none => .error { kind := .InvalidInput, message := "storage range overflow" }
  | some finish =>
    if size_bytes < finish then
      .error { kind := .UnexpectedEof, message := "storage range exceeds fixed storage capacity" }
    else .ok ()

/-! ## Overlaying reads -/

/-- Copies into the buffer what the pages from `page_index` on hold of the range
`offset..finish`. -/
def overlay_pages (pages : BTreeMap Nat (List U8)) (offset finish : Nat) :
    (remaining page_index : Nat) → List U8 → List U8
  | 0, _, buffer => buffer
  | remaining + 1, page_index, buffer =>
    match pages[page_index]? with
    | none => overlay_pages pages offset finish remaining (page_index + 1) buffer
    | some page =>
      let page_offset := page_index * STORAGE_PAGE_BYTES
      let start := max offset page_offset
      let stop := min finish (page_offset + page.length)
      let bytes := (page.drop (start - page_offset)).take (stop - start)
      overlay_pages pages offset finish remaining (page_index + 1) (splice buffer (start - offset) bytes)

/-- The number of pages of the inclusive range the source iterates over. -/
def page_count (offset finish : Nat) : Nat :=
  (finish - 1) / STORAGE_PAGE_BYTES - offset / STORAGE_PAGE_BYTES + 1

def overlay_cow_pages (pages : BTreeMap Nat (List U8)) (offset : Nat) (buffer : List U8) :
    Except IoError (List U8) :=
  if buffer.isEmpty then .ok buffer
  else
    match checked_add_u64 offset buffer.length with
    | none => .error { kind := .InvalidInput, message := "COW read range overflow" }
    | some finish =>
      .ok (overlay_pages pages offset finish (page_count offset finish) (offset / STORAGE_PAGE_BYTES) buffer)

/-- The pages of one resource; a resource without an entry has none. -/
def pages_of (all_pages : CowPages) (resource : ResourceId) : BTreeMap Nat (List U8) :=
  all_pages[resource]?.getD ∅

/-! ## Copy-on-write -/

variable {σ : Type}

/-- Writes the part of `data` that falls on the pages from `page_index` on,
first reading each missing page from the base. A failing base read abandons the
write and leaves the pages written before it. -/
def write_pages (read_base_page : σ → Nat → Nat → Except IoError (List U8) × σ)
    (size_bytes offset finish : Nat) (data : List U8) :
    (remaining page_index : Nat) → BTreeMap Nat (List U8) → σ →
      Except IoError Unit × BTreeMap Nat (List U8) × σ
  | 0, _, pages, base => (.ok (), pages, base)
  | remaining + 1, page_index, pages, base =>
    let page_offset := page_index * STORAGE_PAGE_BYTES
    let page_length := min (size_bytes - page_offset) STORAGE_PAGE_BYTES
    let current : Except IoError (List U8) × σ :=
      match pages[page_index]? with
      | some page => (.ok page, base)
      | none => read_base_page base page_offset page_length
    match current with
    | (.error error, base) => (.error error, pages, base)
    | (.ok page, base) =>
      let write_start := max offset page_offset
      let write_end := min finish (page_offset + page_length)
      let bytes := (data.drop (write_start - offset)).take (write_end - write_start)
      write_pages read_base_page size_bytes offset finish data remaining (page_index + 1)
        (pages.insert page_index (splice page (write_start - page_offset) bytes)) base

/-- The body both COW capabilities write through, once their checks have passed. -/
def write_cow_pages (read_base_page : σ → Nat → Nat → Except IoError (List U8) × σ)
    (all_pages : CowPages) (resource : ResourceId) (offset : Nat) (data : List U8) (size_bytes : Nat)
    (base : σ) : Except IoError Unit × CowPages × σ :=
  let finish := offset + data.length
  let (result, pages, base) :=
    write_pages read_base_page size_bytes offset finish data (page_count offset finish)
      (offset / STORAGE_PAGE_BYTES) (pages_of all_pages resource) base
  (result, all_pages.insert resource pages, base)

/-- Storage state a Replay and its storage adapters share. -/
structure ReplayStorageState where
  cow_pages : CowPages
  failure : Option String

def ReplayStorageState.new : ReplayStorageState := { cow_pages := ∅, failure := none }

namespace RecordStorage

/-- A Recording overlays its own pages; they outlive the Record. -/
def overlay_read (all_pages : CowPages) (resource : ResourceId) (offset : Nat) (buffer : List U8) :
    Except IoError (List U8) :=
  overlay_cow_pages (pages_of all_pages resource) offset buffer

def write_all_at (read_base_page : σ → Nat → Nat → Except IoError (List U8) × σ) (all_pages : CowPages)
    (resource : ResourceId) (offset : Nat) (data : List U8) (size_bytes : Nat) (base : σ) :
    Except IoError Unit × CowPages × σ :=
  match check_range offset data.length size_bytes with
  | .error error => (.error error, all_pages, base)
  | .ok () =>
    if data.isEmpty then (.ok (), all_pages, base)
    else write_cow_pages read_base_page all_pages resource offset data size_bytes base

/-- Retains a host storage failure while the Record is being written. -/
def report_storage_error (active : Bool) (failure : Option String) (error : IoError) : Option String :=
  if active ∧ failure.isNone then some s!"host storage error: {error.message}" else failure

end RecordStorage

def ensure_replay_storage_healthy (state : ReplayStorageState) : Except IoError Unit :=
  match state.failure with
  | some failure => .error (.other s!"Replay storage already failed: {failure}")
  | none => .ok ()

namespace ReplayStorage

/-- A Replay reads and writes nothing more once its storage failed. -/
def overlay_read (state : ReplayStorageState) (resource : ResourceId) (offset : Nat) (buffer : List U8) :
    Except IoError (List U8) :=
  match ensure_replay_storage_healthy state with
  | .error error => .error error
  | .ok () => overlay_cow_pages (pages_of state.cow_pages resource) offset buffer

def write_all_at (read_base_page : σ → Nat → Nat → Except IoError (List U8) × σ)
    (state : ReplayStorageState) (resource : ResourceId) (offset : Nat) (data : List U8) (size_bytes : Nat)
    (base : σ) : Except IoError Unit × ReplayStorageState × σ :=
  match check_range offset data.length size_bytes with
  | .error error => (.error error, state, base)
  | .ok () =>
    if data.isEmpty then (.ok (), state, base)
    else
      match ensure_replay_storage_healthy state with
      | .error error => (.error error, state, base)
      | .ok () =>
        match write_cow_pages read_base_page state.cow_pages resource offset data size_bytes base with
        | (result, cow_pages, base) => (result, { state with cow_pages }, base)

/-- Retains the first host storage failure for the runtime worker. -/
def report_storage_error (state : ReplayStorageState) (error : IoError) : ReplayStorageState :=
  match state.failure with
  | some _ => state
  | none => { state with failure := some s!"host storage error: {error.message}" }

end ReplayStorage

/-! ## Page shape -/

inductive RecordError where
  | Io (error : IoError)
  | InvalidData (reason : String)
deriving DecidableEq, Repr

def RecordError.to_string : RecordError → String
  | .Io error => error.message
  | .InvalidData reason => reason

def validate_cow_page (page_index length storage_size : Nat) : Except RecordError Unit :=
  match checked_mul_u64 page_index STORAGE_PAGE_BYTES with
  | none => .error (.InvalidData "storage COW page offset overflow")
  | some page_offset =>
    if storage_size ≤ page_offset then .error (.InvalidData "storage COW page is out of range")
    else if length ≠ min (storage_size - page_offset) STORAGE_PAGE_BYTES then
      .error (.InvalidData "storage COW page has the wrong length")
    else .ok ()

end se_runtime.record
