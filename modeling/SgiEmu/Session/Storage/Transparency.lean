import SgiEmu.Runtime.Storage.Transparency
import SgiEmu.Session.Storage

open se_core se_core.storage se_machine se_runtime.record Library.ByteMemory

namespace se_session

/-! ## Plain arrays -/

/-- The bytes of all resources. -/
abbrev Memory : Type := ResourceId → Nat → U8

/-- One access to the storage of a machine, or a report of a host error. -/
inductive StorageCall where
  | read (resource : ResourceId) (offset length : Nat)
  | write (resource : ResourceId) (offset : Nat) (data : List U8)
  | report (error : IoError)

inductive StorageReply where
  | read (result : Except IoError (List U8))
  | write (result : Except IoError Unit)
  | report

def InRange (size_bytes : ResourceId → U64) (resource : ResourceId) (offset length : Nat) : Prop :=
  offset + length ≤ U64_MAX ∧ offset + length ≤ (size_bytes resource).toNat

/-- The array after `data` was written to one resource; the others keep their bytes. -/
def Memory.write (memory : Memory) (resource : ResourceId) (offset : Nat) (data : List U8) : Memory :=
  Function.update memory resource (store (memory resource) offset data)

/-- What plain arrays allow one call to reply and to change. A failed write may
have written a prefix of its data, but nothing of an invalid range. -/
inductive PlainCall (size_bytes : ResourceId → U64) (memory : Memory) : StorageCall → StorageReply → Memory → Prop
  | read {resource offset length} : InRange size_bytes resource offset length →
      PlainCall size_bytes memory (.read resource offset length)
        (.read (.ok (load (memory resource) offset length))) memory
  | read_failed {resource offset length error} :
      PlainCall size_bytes memory (.read resource offset length) (.read (.error error)) memory
  | write {resource offset data} : InRange size_bytes resource offset data.length →
      PlainCall size_bytes memory (.write resource offset data) (.write (.ok ()))
        (memory.write resource offset data)
  | write_failed {resource offset data error count} : count ≤ data.length →
      (¬InRange size_bytes resource offset data.length → count = 0) →
      PlainCall size_bytes memory (.write resource offset data) (.write (.error error))
        (memory.write resource offset (data.take count))
  | report {error} : PlainCall size_bytes memory (.report error) .report memory

/-- Calls and replies one after the other over the same plain arrays. -/
inductive PlainRun (size_bytes : ResourceId → U64) : Memory → List (StorageCall × StorageReply) → Memory → Prop
  | nil {memory} : PlainRun size_bytes memory [] memory
  | cons {memory between after call reply rest} : PlainCall size_bytes memory call reply between →
      PlainRun size_bytes between rest after → PlainRun size_bytes memory ((call, reply) :: rest) after

/-! ## Overlaid storage -/

variable {σ : Type} {host : HostFiles σ} {contents : σ → Memory} {size_bytes : ResourceId → U64}

/-- Reading a host file changes no file and delivers what the file holds. -/
structure HostFiles.Lawful (host : HostFiles σ) (contents : σ → Memory) : Prop where
  unchanged : ∀ base resource offset length,
    contents (host.read_exact base resource offset length).2 = contents base
  delivers : ∀ base resource offset length bytes, (host.read_exact base resource offset length).1 = .ok bytes →
    bytes = load (contents base resource) offset length

/-- The storage of a machine: the overlay its media share, over the host files. -/
structure Storage (σ : Type) where
  overlay : Overlay
  base : σ

namespace Storage

/-- One call as the adapters of the overlay serve it. -/
def call (host : HostFiles σ) (size_bytes : ResourceId → U64) (storage : Storage σ) :
    StorageCall → StorageReply × Storage σ
  | .read resource offset length =>
    let (result, base) := StorageMedium.read_over host resource (size_bytes resource).toNat storage.overlay
      storage.base offset length
    (.read result, { storage with base })
  | .write resource offset data =>
    let (result, overlay, base) := StorageMedium.write_over host resource (size_bytes resource).toNat
      storage.overlay storage.base offset data
    (.write result, { overlay, base })
  | .report error => (.report, { storage with overlay := storage.overlay.report_storage_error error })

/-- One call as the media of the session serve it, which report every failure. -/
def access (host : HostFiles σ) (size_bytes : ResourceId → U64) (storage : Storage σ) :
    StorageCall → StorageReply × Storage σ
  | .read resource offset length =>
    let (result, overlay, base) := StorageMedium.read_exact_at host resource (size_bytes resource).toNat
      storage.overlay storage.base offset length
    (.read result, { overlay, base })
  | .write resource offset data =>
    let (result, overlay, base) := StorageMedium.write_all_at host resource (size_bytes resource).toNat
      storage.overlay storage.base offset data
    (.write result, { overlay, base })
  | .report error => (.report, { storage with overlay := storage.overlay.report_storage_error error })

/-- Whether calls go to the adapters of the overlay or to the media over them. -/
inductive Path where
  | Adapter
  | Medium

def serve (host : HostFiles σ) (size_bytes : ResourceId → U64) (storage : Storage σ) (call : StorageCall) :
    Path → StorageReply × Storage σ
  | .Adapter => storage.call host size_bytes call
  | .Medium => storage.access host size_bytes call

def run (host : HostFiles σ) (size_bytes : ResourceId → U64) (path : Path) (storage : Storage σ) :
    List StorageCall → List StorageReply × Storage σ
  | [] => ([], storage)
  | call :: rest =>
    let (reply, storage) := storage.serve host size_bytes call path
    let (replies, storage) := storage.run host size_bytes path rest
    (reply :: replies, storage)

/-- The bytes the resources show through the overlay. -/
def memory (contents : σ → Memory) (storage : Storage σ) : Memory := fun resource =>
  shown (pages_of storage.overlay.cow_pages resource) (contents storage.base resource)

def Valid (size_bytes : ResourceId → U64) (storage : Storage σ) : Prop :=
  CowPagesValid (fun resource => (size_bytes resource).toNat) storage.overlay.cow_pages

/-- Why a call may fail: its range, an earlier failure, or a host file. -/
def MayFail (host : HostFiles σ) (contents : σ → Memory) (size_bytes : ResourceId → U64) (storage : Storage σ)
    (resource : ResourceId) (offset length : Nat) : Prop :=
  ¬InRange size_bytes resource offset length ∨ storage.overlay.latched ∨
    ∃ base offset length error, contents base = contents storage.base ∧
      (host.read_exact base resource offset length).1 = .error error

/-- What holds of one call: the plain arrays allow it, the host files keep their
contents, the pages stay valid, and it fails only for a reason. -/
structure CallTransparent (host : HostFiles σ) (contents : σ → Memory) (size_bytes : ResourceId → U64)
    (storage : Storage σ) (call : StorageCall) (reply : StorageReply) (after : Storage σ) : Prop where
  plain : PlainCall size_bytes (storage.memory contents) call reply (after.memory contents)
  base_unchanged : contents after.base = contents storage.base
  valid : after.Valid size_bytes
  read_fails : ∀ resource offset length error, call = .read resource offset length →
    reply = .read (.error error) → storage.MayFail host contents size_bytes resource offset length
  write_fails : ∀ resource offset data error, call = .write resource offset data →
    reply = .write (.error error) → storage.MayFail host contents size_bytes resource offset data.length
  out_of_range : ∀ resource offset data, call = .write resource offset data →
    ¬InRange size_bytes resource offset data.length → after.overlay.cow_pages = storage.overlay.cow_pages

end Storage

/-! ## One call -/

theorem Overlay.report_storage_error_cow_pages (overlay : Overlay) (error : IoError) :
    (overlay.report_storage_error error).cow_pages = overlay.cow_pages := by
  cases overlay with
  | Record => rfl
  | Replay state =>
    simp only [Overlay.report_storage_error, Overlay.cow_pages, ReplayStorage.report_storage_error]
    split <;> rfl

/-- An overlaid read either finds a latched failure or overlays the pages. -/
theorem Overlay.overlay_read_cases (overlay : Overlay) (resource : ResourceId) (offset : Nat) (buffer : List U8) :
    overlay.overlay_read resource offset buffer =
        overlay_cow_pages (pages_of overlay.cow_pages resource) offset buffer ∨
      overlay.latched ∧ ∃ error, overlay.overlay_read resource offset buffer = .error error := by
  cases overlay with
  | Record => exact .inl rfl
  | Replay state =>
    cases hfailure : state.failure with
    | none =>
      left
      simp only [Overlay.overlay_read, ReplayStorage.overlay_read, ensure_replay_storage_healthy, hfailure,
        Overlay.cow_pages]
    | some failure =>
      right
      refine ⟨by simp only [Overlay.latched, hfailure, Option.isSome_some],
        .other s!"Replay storage already failed: {failure}", ?_⟩
      simp only [Overlay.overlay_read, ReplayStorage.overlay_read, ensure_replay_storage_healthy, hfailure]

/-- A write is refused and changes nothing, is empty, or goes through to the pages. -/
theorem Overlay.write_all_at_cases (read_base_page : σ → Nat → Nat → Except IoError (List U8) × σ)
    (overlay : Overlay) (resource : ResourceId) (offset : Nat) (data : List U8) (size : Nat) (base : σ) :
    (∃ error, overlay.write_all_at read_base_page resource offset data size base = (.error error, overlay, base) ∧
        (check_range offset data.length size ≠ .ok () ∨ overlay.latched)) ∨
      (check_range offset data.length size = .ok () ∧ data = [] ∧
        overlay.write_all_at read_base_page resource offset data size base = (.ok (), overlay, base)) ∨
      (check_range offset data.length size = .ok () ∧ data.isEmpty = false ∧ ∃ overlay' : Overlay,
        overlay'.cow_pages =
            (write_cow_pages read_base_page overlay.cow_pages resource offset data size base).2.1 ∧
          overlay.write_all_at read_base_page resource offset data size base =
            ((write_cow_pages read_base_page overlay.cow_pages resource offset data size base).1, overlay',
              (write_cow_pages read_base_page overlay.cow_pages resource offset data size base).2.2)) := by
  cases hrange : check_range offset data.length size with
  | error error =>
    refine .inl ⟨error, ?_, .inl (by simp only [ne_eq, reduceCtorEq, not_false_eq_true])⟩
    cases overlay with
    | Record => simp only [Overlay.write_all_at, RecordStorage.write_all_at, hrange]
    | Replay => simp only [Overlay.write_all_at, ReplayStorage.write_all_at, hrange]
  | ok =>
    cases hempty : data.isEmpty with
    | true =>
      refine .inr (.inl ⟨rfl, List.isEmpty_iff.mp hempty, ?_⟩)
      cases overlay with
      | Record => simp only [Overlay.write_all_at, RecordStorage.write_all_at, hrange, hempty, if_true]
      | Replay => simp only [Overlay.write_all_at, ReplayStorage.write_all_at, hrange, hempty, if_true]
    | false =>
      cases overlay with
      | Record pages active failure =>
        refine .inr (.inr ⟨rfl, rfl, .Record _ active failure, rfl, ?_⟩)
        simp only [Overlay.write_all_at, RecordStorage.write_all_at, hrange, hempty, Bool.false_eq_true, if_false,
          Overlay.cow_pages]
      | Replay state =>
        cases hfailure : state.failure with
        | some failure =>
          refine .inl ⟨.other s!"Replay storage already failed: {failure}", ?_,
            .inr (by simp only [Overlay.latched, hfailure, Option.isSome_some])⟩
          simp only [Overlay.write_all_at, ReplayStorage.write_all_at, hrange, hempty, Bool.false_eq_true, if_false,
            ensure_replay_storage_healthy, hfailure]
        | none =>
          refine .inr (.inr ⟨rfl, rfl, .Replay { state with cow_pages := _ }, rfl, ?_⟩)
          simp only [Overlay.write_all_at, ReplayStorage.write_all_at, hrange, hempty, Bool.false_eq_true, if_false,
            ensure_replay_storage_healthy, hfailure, Overlay.cow_pages]

/-- A read of a host file in its range is a read of the file itself. -/
theorem HostFileStorage.read_exact_at_eq {resource : ResourceId} {size offset length : Nat} {base : σ}
    (hrange : check_range offset length size = .ok ()) :
    HostFileStorage.read_exact_at host resource size base offset length =
      host.read_exact base resource offset length := by
  have hcheck : HostFileStorage.check_range offset length size = .ok () := hrange
  simp only [HostFileStorage.read_exact_at, hcheck]

/-- The file adapter delivers the contents of its file to the overlay. -/
theorem HostFiles.Lawful.delivers_base (hhost : host.Lawful contents) (resource : ResourceId) (size : Nat)
    (memory : Memory) :
    DeliversBase (HostFileStorage.read_exact_at host resource size) (fun base => contents base = memory)
      (memory resource) := by
  intro base offset length hkept
  cases hrange : check_range offset length size with
  | ok =>
    rw [HostFileStorage.read_exact_at_eq hrange]
    refine ⟨(hhost.unchanged base resource offset length).trans hkept, fun bytes hbytes => ?_⟩
    rw [← hkept]
    exact hhost.delivers base resource offset length bytes hbytes
  | error error =>
    have hcheck : HostFileStorage.check_range offset length size = .error error := hrange
    simp only [HostFileStorage.read_exact_at, hcheck]
    exact ⟨hkept, fun bytes hbytes => by cases hbytes⟩

namespace Storage

variable {storage : Storage σ}

theorem in_range_iff {resource : ResourceId} {offset length : Nat} :
    check_range offset length (size_bytes resource).toNat = .ok () ↔ InRange size_bytes resource offset length :=
  check_range_iff

theorem memory_eq {after : Storage σ} (hpages : after.overlay.cow_pages = storage.overlay.cow_pages)
    (hbase : contents after.base = contents storage.base) : after.memory contents = storage.memory contents := by
  funext resource
  simp only [memory, hpages, hbase]

theorem call_read_transparent (hhost : host.Lawful contents) (hvalid : storage.Valid size_bytes)
    (resource : ResourceId) (offset length : Nat) :
    CallTransparent host contents size_bytes storage (.read resource offset length)
      (storage.call host size_bytes (.read resource offset length)).1
      (storage.call host size_bytes (.read resource offset length)).2 := by
  have hfailed : ∀ error base, contents base = contents storage.base →
      storage.MayFail host contents size_bytes resource offset length →
      CallTransparent host contents size_bytes storage (.read resource offset length) (.read (.error error))
        { storage with base } := by
    intro error base hbase hmay
    have hmemory : Storage.memory contents { storage with base } = storage.memory contents := memory_eq rfl hbase
    refine ⟨?_, hbase, hvalid, fun _ _ _ _ hcall _ => ?_, (fun _ _ _ _ hcall => by cases hcall),
      fun _ _ _ hcall => by cases hcall⟩
    · rw [hmemory]
      exact .read_failed
    · cases hcall
      exact hmay
  cases hrange : check_range offset length (size_bytes resource).toNat with
  | error error =>
    have hcheck : HostFileStorage.check_range offset length (size_bytes resource).toNat = .error error := hrange
    have hout : ¬InRange size_bytes resource offset length := by
      rw [← in_range_iff, hrange]
      simp only [reduceCtorEq, not_false_eq_true]
    simp only [call, StorageMedium.read_over, HostFileStorage.read_exact_at, hcheck]
    exact hfailed error storage.base rfl (.inl hout)
  | ok =>
    have hin : InRange size_bytes resource offset length := in_range_iff.mp hrange
    have hunchanged := hhost.unchanged storage.base resource offset length
    have hdelivers := hhost.delivers storage.base resource offset length
    simp only [call, StorageMedium.read_over, HostFileStorage.read_exact_at_eq hrange]
    cases hread : host.read_exact storage.base resource offset length with
    | mk result base =>
      rw [hread] at hunchanged hdelivers
      cases result with
      | error error =>
        exact hfailed error base hunchanged
          (.inr (.inr ⟨storage.base, offset, length, error, rfl, congrArg Prod.fst hread⟩))
      | ok bytes =>
        have hbytes := hdelivers bytes rfl
        rcases storage.overlay.overlay_read_cases resource offset bytes with hoverlay | ⟨hlatched, error, herror⟩
        · have hshown := overlay_cow_pages_spec (contents storage.base resource) (hvalid resource) hin.1
          rw [← hbytes] at hshown
          simp only [hoverlay, hshown]
          have hmemory : Storage.memory contents { storage with base } = storage.memory contents :=
            memory_eq rfl hunchanged
          refine ⟨?_, hunchanged, hvalid, (fun _ _ _ _ _ hreply => by cases hreply),
            (fun _ _ _ _ hcall => by cases hcall), fun _ _ _ hcall => by cases hcall⟩
          rw [hmemory]
          exact .read hin
        · simp only [herror]
          exact hfailed error base hunchanged (.inr (.inl hlatched))

theorem call_write_transparent (hhost : host.Lawful contents) (hvalid : storage.Valid size_bytes)
    (resource : ResourceId) (offset : Nat) (data : List U8) :
    CallTransparent host contents size_bytes storage (.write resource offset data)
      (storage.call host size_bytes (.write resource offset data)).1
      (storage.call host size_bytes (.write resource offset data)).2 := by
  have hbase := hhost.delivers_base resource (size_bytes resource).toNat (contents storage.base)
  simp only [call, StorageMedium.write_over]
  rcases storage.overlay.write_all_at_cases (HostFileStorage.read_exact_at host resource (size_bytes resource).toNat)
    resource offset data (size_bytes resource).toNat storage.base with
    ⟨error, houtcome, hwhy⟩ | ⟨hrange, hempty, houtcome⟩ | ⟨hrange, hnonempty, overlay', hpages, houtcome⟩
  · -- refused: an empty prefix was written
    rw [houtcome]
    refine ⟨?_, rfl, hvalid, (fun _ _ _ _ hcall => by cases hcall), fun _ _ _ _ hcall _ => ?_, fun _ _ _ _ _ => rfl⟩
    · have hnothing : storage.memory contents =
          (storage.memory contents).write resource offset (data.take 0) := by
        rw [Memory.write, List.take_zero, store_nil, Function.update_eq_self]
      have hplain : PlainCall size_bytes (storage.memory contents) (.write resource offset data)
          (.write (.error error)) ((storage.memory contents).write resource offset (data.take 0)) :=
        .write_failed (Nat.zero_le _) fun _ => rfl
      rw [← hnothing] at hplain
      exact hplain
    · cases hcall
      rcases hwhy with hout | hlatched
      · exact .inl fun hin => hout (in_range_iff.mpr hin)
      · exact .inr (.inl hlatched)
  · subst hempty
    rw [houtcome]
    have hin : InRange size_bytes resource offset ([] : List U8).length := in_range_iff.mp hrange
    refine ⟨?_, rfl, hvalid, (fun _ _ _ _ hcall => by cases hcall), (fun _ _ _ _ _ hreply => by cases hreply),
      fun _ _ _ _ _ => rfl⟩
    have hplain : PlainCall size_bytes (storage.memory contents) (.write resource offset [])
        (.write (.ok ())) ((storage.memory contents).write resource offset []) := .write hin
    rw [Memory.write, store_nil, Function.update_eq_self] at hplain
    exact hplain
  · have hin : InRange size_bytes resource offset data.length := in_range_iff.mp hrange
    obtain ⟨pages', hinsert, hwritten⟩ := write_cow_pages_spec hbase hin.1 hin.2 hnonempty storage.overlay.cow_pages
      resource storage.base rfl (hvalid resource)
    rw [houtcome]
    rw [hinsert] at hpages
    obtain ⟨count, hcount, hshown, hall⟩ := hwritten.written
    generalize (write_cow_pages (HostFileStorage.read_exact_at host resource (size_bytes resource).toNat)
      storage.overlay.cow_pages resource offset data (size_bytes resource).toNat storage.base).1 = result at *
    generalize (write_cow_pages (HostFileStorage.read_exact_at host resource (size_bytes resource).toNat)
      storage.overlay.cow_pages resource offset data (size_bytes resource).toNat storage.base).2.2 = base at *
    have hkept : contents base = contents storage.base := hwritten.base_kept
    have hpages_of : pages_of overlay'.cow_pages =
        Function.update (pages_of storage.overlay.cow_pages) resource pages' := by rw [hpages, pages_of_insert]
    -- the array of the written resource changes, those of the others do not
    have hmemory : Storage.memory contents { overlay := overlay', base } =
        (storage.memory contents).write resource offset (data.take count) := by
      funext other
      by_cases hsame : other = resource
      · subst hsame
        simp only [memory, Memory.write, hpages_of, Function.update_self, hkept]
        exact hshown
      · simp only [memory, Memory.write, hpages_of, Function.update_of_ne hsame, hkept]
    refine ⟨?_, hkept, fun other => ?_, (fun _ _ _ _ hcall => by cases hcall), fun _ _ _ error hcall hreply => ?_,
      fun _ _ _ hcall hout => ?_⟩
    · rw [hmemory]
      cases result with
      | ok =>
        rw [hall rfl, List.take_length]
        exact .write hin
      | error error => exact .write_failed hcount fun hout => absurd hin hout
    · rw [hpages_of]
      by_cases hsame : other = resource
      · subst hsame
        rw [Function.update_self]
        exact hwritten.valid
      · rw [Function.update_of_ne hsame]
        exact hvalid other
    · cases hcall
      cases hreply
      obtain ⟨base', page_offset, page_length, hkept', hinside, herror⟩ := hwritten.failed error rfl
      have hpage : check_range page_offset page_length (size_bytes resource).toNat = .ok () :=
        check_range_iff.mpr ⟨Nat.le_trans hinside (Nat.le_of_lt_succ (size_bytes resource).isLt), hinside⟩
      rw [HostFileStorage.read_exact_at_eq hpage] at herror
      exact .inr (.inr ⟨base', page_offset, page_length, error, hkept', herror⟩)
    · cases hcall
      exact absurd hin hout

/-- Every call over valid pages is one the plain arrays allow. -/
theorem call_transparent (hhost : host.Lawful contents) (hvalid : storage.Valid size_bytes) (call : StorageCall) :
    CallTransparent host contents size_bytes storage call (storage.call host size_bytes call).1
      (storage.call host size_bytes call).2 := by
  cases call with
  | read resource offset length => exact call_read_transparent hhost hvalid resource offset length
  | write resource offset data => exact call_write_transparent hhost hvalid resource offset data
  | report error =>
    have hpages := storage.overlay.report_storage_error_cow_pages error
    have hmemory : Storage.memory contents { storage with overlay := storage.overlay.report_storage_error error } =
        storage.memory contents := memory_eq hpages rfl
    refine ⟨?_, rfl, ?_, (fun _ _ _ _ hcall => by cases hcall), (fun _ _ _ _ hcall => by cases hcall),
      fun _ _ _ hcall => by cases hcall⟩
    · simp only [Storage.call, hmemory]
      exact .report
    · simp only [Storage.call, Valid, hpages]
      exact hvalid

/-- Reporting a failure changes no page, so the media serve what the adapters serve. -/
theorem CallTransparent.report {call : StorageCall} {reply : StorageReply} {after : Storage σ}
    (htransparent : CallTransparent host contents size_bytes storage call reply after) {overlay : Overlay}
    (hpages : overlay.cow_pages = after.overlay.cow_pages) :
    CallTransparent host contents size_bytes storage call reply { after with overlay } := by
  obtain ⟨hplain, hbase, hvalid, hread, hwrite, hout⟩ := htransparent
  have hmemory : Storage.memory contents { after with overlay } = after.memory contents := memory_eq hpages rfl
  refine ⟨?_, hbase, ?_, hread, hwrite, fun resource offset data hcall hrange => ?_⟩
  · rw [hmemory]
    exact hplain
  · simp only [Valid, hpages]
    exact hvalid
  · exact hpages.trans (hout resource offset data hcall hrange)

theorem report_failure_cow_pages {α : Type} (overlay : Overlay) (result : Except IoError α) :
    (report_failure overlay result).cow_pages = overlay.cow_pages := by
  cases result with
  | ok => rfl
  | error error => exact overlay.report_storage_error_cow_pages error

theorem serve_transparent (hhost : host.Lawful contents) (hvalid : storage.Valid size_bytes) (call : StorageCall)
    (path : Path) :
    CallTransparent host contents size_bytes storage call (storage.serve host size_bytes call path).1
      (storage.serve host size_bytes call path).2 := by
  have hcall := call_transparent hhost hvalid call
  cases path with
  | Adapter => exact hcall
  | Medium =>
    cases call with
    | read resource offset length => exact hcall.report (report_failure_cow_pages storage.overlay _)
    | write resource offset data => exact hcall.report (report_failure_cow_pages _ _)
    | report error => exact hcall

/-! ## Runs -/

/-- A run over valid pages is a run of the plain arrays they show. -/
theorem run_plain (hhost : host.Lawful contents) (path : Path) (calls : List StorageCall) (hvalid : storage.Valid size_bytes) :
    (storage.run host size_bytes path calls).1.length = calls.length ∧
      PlainRun size_bytes (storage.memory contents) (calls.zip (storage.run host size_bytes path calls).1)
        ((storage.run host size_bytes path calls).2.memory contents) ∧
      contents (storage.run host size_bytes path calls).2.base = contents storage.base ∧
      (storage.run host size_bytes path calls).2.Valid size_bytes := by
  induction calls generalizing storage with
  | nil => exact ⟨rfl, .nil, rfl, hvalid⟩
  | cons call rest ih =>
    have hcall := serve_transparent hhost hvalid call path
    obtain ⟨hlength, hrest, hbase, hafter⟩ := ih hcall.valid
    exact ⟨congrArg (· + 1) hlength, .cons hcall.plain hrest, hbase.trans hcall.base_unchanged, hafter⟩

/-- Without pages the host files show. -/
theorem memory_of_no_pages (hfresh : storage.overlay.cow_pages = ∅) :
    storage.memory contents = contents storage.base := by
  funext resource cell
  simp only [memory, hfresh, pages_of_empty, shown, Library.PagedOverlay.view, Std.ExtTreeMap.getElem?_empty,
    Option.bind_none, Option.getD_none]

theorem valid_of_no_pages (hfresh : storage.overlay.cow_pages = ∅) : storage.Valid size_bytes := by
  intro resource page_index page hpage
  rw [hfresh, pages_of_empty, Std.ExtTreeMap.getElem?_empty] at hpage
  cases hpage

/-- Overlaid storage is plain arrays that start with the contents of the host
files: over any run the replies and the bytes shown are those of the arrays,
the files keep their contents and the pages stay valid; so does any call after
the run. -/
theorem run_plain_from_base (hhost : host.Lawful contents) (hfresh : storage.overlay.cow_pages = ∅)
    (path : Path) (calls : List StorageCall) :
    let replies := (storage.run host size_bytes path calls).1
    let after := (storage.run host size_bytes path calls).2
    replies.length = calls.length ∧
      PlainRun size_bytes (contents storage.base) (calls.zip replies) (after.memory contents) ∧
      contents after.base = contents storage.base ∧ after.Valid size_bytes ∧
      ∀ call, CallTransparent host contents size_bytes after call (after.serve host size_bytes call path).1
        (after.serve host size_bytes call path).2 := by
  have hinitial : storage.Valid size_bytes := valid_of_no_pages hfresh
  obtain ⟨hlength, hplain, hbase, hvalid⟩ := run_plain hhost path calls hinitial
  rw [memory_of_no_pages hfresh] at hplain
  exact ⟨hlength, hplain, hbase, hvalid, fun call => serve_transparent hhost hvalid call path⟩

/-- A host whose files hold one byte throughout and whose reads fail from some
point on. -/
def worn_out_host : HostFiles Nat where
  read_exact
    | 0, _, _, _ => (.error (.other "host read failed"), 0)
    | reads + 1, _, offset, length => (.ok (load (fun _ => 0xee) offset length), reads)

theorem worn_out_host_lawful : worn_out_host.Lawful (fun _ _ _ => 0xee) := by
  refine ⟨fun _ _ _ _ => rfl, fun reads resource offset length bytes h => ?_⟩
  cases reads with
  | zero => cases h
  | succ reads =>
    cases h
    rfl

/-- A write over two pages of files that are read first, the bytes read back over its end,
a read that the overlay and the files share, and a call past what the host still reads. -/
theorem run_plain_from_base_wearing_out :
    let storage : Storage Nat := { overlay := .Replay .new, base := 4 }
    let calls : List StorageCall := [.write "disk" 4094 [1, 2, 3, 4], .read "disk" 4090 12, .read "disk" 8190 4,
      .read "disk" 9000 2]
    let replies := (storage.run worn_out_host (fun _ => 12288) .Medium calls).1
    let after := (storage.run worn_out_host (fun _ => 12288) .Medium calls).2
    replies.length = calls.length ∧
      PlainRun (fun _ => 12288) (fun _ _ => 0xee) (calls.zip replies) (after.memory fun _ _ _ => 0xee) ∧
      after.Valid (fun _ => 12288) ∧
      (∀ call, CallTransparent worn_out_host (fun _ _ _ => 0xee) (fun _ => 12288) after call
        (after.serve worn_out_host (fun _ => 12288) call .Medium).1
        (after.serve worn_out_host (fun _ => 12288) call .Medium).2) ∧
      replies.map (fun reply => match reply with
        | .read (.ok bytes) => some bytes
        | .write (.ok ()) => some []
        | _ => none) =
        [some [], some [0xee, 0xee, 0xee, 0xee, 1, 2, 3, 4, 0xee, 0xee, 0xee, 0xee], some [0xee, 0xee, 0xee, 0xee],
          none] := by
  intro storage calls
  have hfresh : storage.overlay.cow_pages = ∅ := rfl
  obtain ⟨hlength, hplain, _, hvalid, hcalls⟩ :=
    @run_plain_from_base _ _ _ (fun _ => 12288) _ worn_out_host_lawful hfresh .Medium calls
  exact ⟨hlength, hplain, hvalid, hcalls, by decide +kernel⟩

end Storage

end se_session
