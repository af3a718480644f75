import SgiEmu.Runtime.Catalog.Sound
import SgiEmu.Runtime.Record.Recorder

open se_core se_core.storage Library.Chunks

namespace se_runtime.record

variable {State : Type} {codec : CacheCodec State} {record : RecordIdentity} {files next : Files} {path : CachePath}
variable {snapshot : ReplaySnapshot State} {catalog : SnapshotCatalog} {entry : SnapshotCatalogEntry}
variable {magic payload bytes : List U8} {outcome : WriteOutcome}

/-! ## Writing a cache file -/

/-- The replacement of a file fails before it leaves a trace, or succeeds. -/
def WriteOutcome.Clean (outcome : WriteOutcome) : Prop := outcome = .Unopened ∨ outcome = .Done

theorem write_cache_file_error (hclean : outcome.Clean) {error : RecordError}
    (h : write_cache_file codec path magic payload outcome files = (.error error, next)) : next = files := by
  unfold write_cache_file at h
  split at h
  · exact (congrArg Prod.snd h).symm
  · obtain rfl | rfl := hclean
    · exact (congrArg Prod.snd h).symm
    · dsimp only at h
      split at h
      · exact (congrArg Prod.snd h).symm
      · cases h

theorem write_cache_file_done (hfits : payload.length < 0x10000000000000000)
    (hleftover : ∀ bytes, (append_path_suffix path PARTIAL, bytes) ∉ files) :
    write_cache_file codec path magic payload .Done files =
      (.ok ((cache_bytes codec magic payload).length, codec.sha256 (cache_bytes codec magic payload)),
        files.write path (cache_bytes codec magic payload)) := by
  unfold write_cache_file
  rw [if_neg (Nat.not_le.mpr hfits)]
  simp only [Files.read_eq_none hleftover, Option.isSome_none, Bool.false_eq_true, if_false, Files.rename_write hleftover]

/-- A file is replaced when all its steps succeed and only then. -/
theorem write_cache_file_ok {size : Nat} {hash : List U8}
    (hleftover : ∀ bytes, (append_path_suffix path PARTIAL, bytes) ∉ files)
    (h : write_cache_file codec path magic payload outcome files = (.ok (size, hash), next)) :
    payload.length < 0x10000000000000000 ∧ size = (cache_bytes codec magic payload).length ∧
      hash = codec.sha256 (cache_bytes codec magic payload) ∧ next = files.write path (cache_bytes codec magic payload) := by
  have hfits : payload.length < 0x10000000000000000 := by
    by_contra hlong
    unfold write_cache_file at h
    rw [if_pos (Nat.le_of_not_lt hlong)] at h
    cases h
  cases outcome with
  | Unopened =>
    unfold write_cache_file at h
    rw [if_neg (Nat.not_le.mpr hfits)] at h
    cases h
  | Torn written =>
    unfold write_cache_file at h
    rw [if_neg (Nat.not_le.mpr hfits)] at h
    dsimp only at h
    rw [Files.read_eq_none hleftover] at h
    cases h
  | NotRenamed =>
    unfold write_cache_file at h
    rw [if_neg (Nat.not_le.mpr hfits)] at h
    dsimp only at h
    rw [Files.read_eq_none hleftover] at h
    cases h
  | Done =>
    rw [write_cache_file_done hfits hleftover] at h
    cases h
    exact ⟨hfits, rfl, rfl, rfl⟩

/-! ## Whole files -/

theorem Whole.no_leftover (h : Whole codec record files) (bytes : List U8) :
    (append_path_suffix index_path PARTIAL, bytes) ∉ files ∧
      ∀ position, (append_path_suffix (.Checkpoint (snapshot_file_name position)) PARTIAL, bytes) ∉ files := by
  constructor
  · intro hmem
    obtain ⟨catalog, hindex⟩ | ⟨snapshot, hsnapshot⟩ := h.file _ _ hmem
    · have hpath := CachePath.Beside.inj hindex.path
      cases hpath
    · cases hsnapshot.path
  · intro position hmem
    obtain ⟨catalog, hindex⟩ | ⟨snapshot, hsnapshot⟩ := h.file _ _ hmem
    · cases hindex.path
    · have hlength := congrArg List.length (CachePath.Checkpoint.inj hsnapshot.path)
      rw [List.length_append, length_snapshot_file_name, length_snapshot_file_name] at hlength
      cases hlength

theorem Whole.write_index (h : Whole codec record files)
    (hfits : (codec.catalog.encode catalog).length < 0x10000000000000000) :
    Whole codec record (files.write index_path (index_bytes codec catalog)) where
  distinct := Files.distinct_write h.distinct _ _
  file := by
    intro path bytes hmem
    obtain ⟨rfl, rfl⟩ | ⟨hmem, _⟩ := Files.mem_write.mp hmem
    · exact Or.inl ⟨catalog, hfits, rfl, rfl⟩
    · exact h.file path bytes hmem

theorem Whole.write_snapshot (h : Whole codec record files) (hrecord : snapshot.record = record)
    (hfits : (codec.snapshot.encode snapshot).length < 0x10000000000000000) :
    Whole codec record (files.write (snapshot_path snapshot) (snapshot_bytes codec snapshot)) where
  distinct := Files.distinct_write h.distinct _ _
  file := by
    intro path bytes hmem
    obtain ⟨rfl, rfl⟩ | ⟨hmem, _⟩ := Files.mem_write.mp hmem
    · exact Or.inr ⟨snapshot, hrecord, hfits, rfl, rfl⟩
    · exact h.file path bytes hmem

/-- An index that is trusted is the one that is stored. -/
theorem Whole.mem_of_trusted (h : Whole codec record files) (hcodec : codec.catalog.Inverts)
    (htrusted : trusted_index codec record files = some catalog) :
    catalog.record = record ∧ ∃ bytes, (index_path, bytes) ∈ files ∧ IsIndex codec index_path bytes catalog := by
  unfold trusted_index at htrusted
  cases hread : files.read index_path with
  | none =>
    rw [hread] at htrusted
    cases htrusted
  | some bytes =>
    have hmem := Files.mem_of_read_eq_some hread
    obtain ⟨stored, hindex⟩ | ⟨snapshot, hsnapshot⟩ := h.file _ _ hmem
    · rw [hread, hindex.bytes] at htrusted
      simp only [read_index_bytes hcodec hindex.fits] at htrusted
      split at htrusted
      · cases htrusted
      · split at htrusted
        · rename_i hrecord
          cases htrusted
          exact ⟨hrecord, bytes, hmem, hindex⟩
        · cases htrusted
    · cases hsnapshot.path

/-- Writing the index leaves the snapshots as they are. -/
theorem complete_entries_write_index (files : Files) (bytes : List U8) :
    complete_entries codec record (files.write index_path bytes) = complete_entries codec record files := by
  have hdir : (files.write index_path bytes).read_dir = files.read_dir := by
    unfold Files.write Files.read_dir Files.remove
    rw [List.filterMap_cons, List.filterMap_filter]
    dsimp only [index_path]
    apply List.filterMap_congr
    intro file _
    obtain ⟨path, contents⟩ := file
    cases path with
    | Beside suffix =>
      exact ite_self none
    | Checkpoint name => rfl
  unfold complete_entries
  rw [hdir]

theorem Describes.write_index (h : Describes codec record files catalog) (bytes : List U8) :
    Describes codec record (files.write index_path bytes) catalog where
  sorted := h.sorted
  mem := by
    rw [complete_entries_write_index]
    exact h.mem

/-- A snapshot file that is replaced changes the entry of its position. -/
theorem Whole.mem_complete_entries_write (h : Whole codec record files) (hcodec : codec.snapshot.Inverts)
    (hrecord : snapshot.record = record) (hfits : (codec.snapshot.encode snapshot).length < 0x10000000000000000) :
    entry ∈ complete_entries codec record (files.write (snapshot_path snapshot) (snapshot_bytes codec snapshot)) ↔
      entry = stored_entry codec snapshot ∨
        entry ∈ complete_entries codec record files ∧ entry.position ≠ snapshot.position := by
  rw [(h.write_snapshot hrecord hfits).mem_complete_entries hcodec, h.mem_complete_entries hcodec]
  constructor
  · rintro ⟨other, bytes, hmem, hother, rfl⟩
    obtain ⟨hpath, hbytes⟩ | ⟨hmem, hne⟩ := Files.mem_write.mp hmem
    · left
      have hsnapshot : codec.snapshot.decode (codec.snapshot.encode other) = codec.snapshot.decode (codec.snapshot.encode snapshot) := by
        have hread := read_snapshot_bytes hcodec hother.fits ""
        rw [← hother.bytes, hbytes, read_snapshot_bytes hcodec hfits] at hread
        rw [hcodec, hcodec]
        cases hread
        rfl
      rw [hcodec, hcodec] at hsnapshot
      cases hsnapshot
      rfl
    · refine Or.inr ⟨⟨other, bytes, hmem, hother, rfl⟩, ?_⟩
      intro heq
      exact hne (congrArg (fun position => CachePath.Checkpoint (snapshot_file_name position)) heq)
  · rintro (rfl | ⟨⟨other, bytes, hmem, hother, rfl⟩, hne⟩)
    · exact ⟨snapshot, _, Files.mem_write.mpr (Or.inl ⟨rfl, rfl⟩), ⟨hrecord, hfits, rfl, rfl⟩, rfl⟩
    · refine ⟨other, bytes, Files.mem_write.mpr (Or.inr ⟨hmem, ?_⟩), hother, rfl⟩
      intro heq
      exact hne (snapshot_file_name_injective (CachePath.Checkpoint.inj heq))

theorem Whole.describes_catalog_of (h : Whole codec record files) (hcodec : codec.snapshot.Inverts) :
    Describes codec record files (catalog_of codec record files) := by
  have hsorted := strictlySorted_sort (h.complete_entries_distinct hcodec)
  have hentries : (catalog_of codec record files).entries = sort_by_position (complete_entries codec record files) :=
    dedup_of_strictlySorted hsorted
  constructor
  · rw [hentries]
    exact hsorted
  · intro entry
    rw [hentries, mem_sort_by_position]

theorem StrictlySorted.eq_of_mem_iff {first second : List SnapshotCatalogEntry} (hfirst : StrictlySorted first)
    (hsecond : StrictlySorted second) (h : ∀ entry, entry ∈ first ↔ entry ∈ second) : first = second := by
  have hnodup : ∀ {entries : List SnapshotCatalogEntry}, StrictlySorted entries → entries.Nodup := by
    intro entries hsorted
    apply hsorted.imp
    intro a b hlt heq
    rw [heq] at hlt
    exact ExecutionPosition.lt_irrefl _ hlt
  have hperm := (List.perm_ext_iff_of_nodup (hnodup hfirst) (hnodup hsecond)).mpr h
  apply hperm.eq_of_pairwise _ hfirst hsecond
  intro a b _ _ hab hba
  exact absurd hba (ExecutionPosition.lt_asymm hab)

/-- A catalog with the entry of a stored snapshot put in describes the files with it. -/
theorem Describes.replace (hwhole : Whole codec record files) (hcodec : codec.snapshot.Inverts)
    (hrecord : snapshot.record = record) (hfits : (codec.snapshot.encode snapshot).length < 0x10000000000000000)
    (h : ∀ entry, entry.position ≠ snapshot.position → (entry ∈ catalog.entries ↔ entry ∈ complete_entries codec record files))
    (hdistinct : StrictlySorted catalog.entries) :
    Describes codec record (files.write (snapshot_path snapshot) (snapshot_bytes codec snapshot))
      (catalog.replace (stored_entry codec snapshot)) := by
  constructor
  · apply strictlySorted_sort
    apply List.pairwise_append.mpr
    refine ⟨?_, List.pairwise_singleton _ _, ?_⟩
    · apply List.Pairwise.filter
      apply hdistinct.imp
      intro a b hlt heq
      rw [heq] at hlt
      exact ExecutionPosition.lt_irrefl _ hlt
    · intro a ha b hb
      rw [List.mem_singleton] at hb
      rw [List.mem_filter, decide_eq_true_eq] at ha
      rw [hb]
      exact ha.2
  · intro entry
    have hposition : (stored_entry codec snapshot).position = snapshot.position := rfl
    rw [hwhole.mem_complete_entries_write hcodec hrecord hfits, SnapshotCatalog.replace, mem_sort_by_position,
      List.mem_append, List.mem_singleton, List.mem_filter, decide_eq_true_eq, hposition, or_comm]
    apply or_congr_right
    constructor
    · rintro ⟨hmem, hne⟩
      exact ⟨(h entry hne).mp hmem, hne⟩
    · rintro ⟨hmem, hne⟩
      exact ⟨(h entry hne).mpr hmem, hne⟩

/-- The catalog with the entry put in is the one a rebuild would come to. -/
theorem replace_eq_catalog_of (hwhole : Whole codec record files) (hcodec : codec.snapshot.Inverts)
    (hrecord : snapshot.record = record) (hfits : (codec.snapshot.encode snapshot).length < 0x10000000000000000)
    (hidentity : catalog.record = record)
    (h : ∀ entry, entry.position ≠ snapshot.position → (entry ∈ catalog.entries ↔ entry ∈ complete_entries codec record files))
    (hdistinct : StrictlySorted catalog.entries) :
    catalog.replace (stored_entry codec snapshot) =
      catalog_of codec record (files.write (snapshot_path snapshot) (snapshot_bytes codec snapshot)) := by
  have hreplace := Describes.replace hwhole hcodec hrecord hfits h hdistinct
  have hdescribed := (hwhole.write_snapshot hrecord hfits).describes_catalog_of hcodec
  have hentries := hreplace.sorted.eq_of_mem_iff hdescribed.sorted fun entry =>
    (hreplace.mem entry).trans (hdescribed.mem entry).symm
  rw [SnapshotCatalog.mk.injEq]
  exact ⟨hidentity, hentries⟩

/-! ## Loading the catalog -/

/-- The cache files are whole, and an index among them is not out of date. -/
structure Recovered (codec : CacheCodec State) (record : RecordIdentity) (files : Files) : Prop where
  whole : Whole codec record files
  fresh : Fresh codec record files

theorem Whole.write_fresh_index (h : Whole codec record files) (hcodec : codec.catalog.Inverts)
    (hfits : (codec.catalog.encode catalog).length < 0x10000000000000000) (hdescribes : Describes codec record files catalog) :
    Recovered codec record (files.write index_path (index_bytes codec catalog)) where
  whole := h.write_index hfits
  fresh := by
    intro other bytes hmem hindex
    obtain ⟨_, hbytes⟩ | ⟨_, hne⟩ := Files.mem_write.mp hmem
    · have hsame := IsIndex.unique hcodec hindex ⟨hfits, rfl, hbytes⟩
      rw [hsame]
      exact hdescribes.write_index _
    · exact absurd rfl hne

theorem rebuild_catalog_ok (hwhole : Whole codec record files)
    (h : rebuild_catalog codec record outcome files = (.ok catalog, next)) :
    catalog = catalog_of codec record files ∧ (codec.catalog.encode catalog).length < 0x10000000000000000 ∧
      next = files.write index_path (index_bytes codec catalog) := by
  have hleftover : ∀ bytes, (append_path_suffix index_path PARTIAL, bytes) ∉ files := fun bytes => (hwhole.no_leftover bytes).1
  unfold rebuild_catalog at h
  dsimp only at h
  cases hwrite : write_cache_file codec index_path INDEX_MAGIC
    (codec.catalog.encode (catalog_of codec record files)) outcome files with
  | mk result written =>
    cases result with
    | error error =>
      rw [hwrite] at h
      cases h
    | ok identity =>
      rw [hwrite] at h
      cases h
      obtain ⟨hfits, _, _, hnext⟩ := write_cache_file_ok hleftover hwrite
      exact ⟨rfl, hfits, hnext⟩

theorem rebuild_catalog_error (hclean : outcome.Clean) {error : RecordError}
    (h : rebuild_catalog codec record outcome files = (.error error, next)) : next = files := by
  unfold rebuild_catalog at h
  dsimp only at h
  cases hwrite : write_cache_file codec index_path INDEX_MAGIC
    (codec.catalog.encode (catalog_of codec record files)) outcome files with
  | mk result written =>
    rw [hwrite] at h
    cases result with
    | error error =>
      cases h
      exact write_cache_file_error hclean hwrite
    | ok identity => cases h

/-- A rebuild whose index fits succeeds on a working file system. -/
theorem rebuild_catalog_done (hwhole : Whole codec record files)
    (hfits : (codec.catalog.encode (catalog_of codec record files)).length < 0x10000000000000000) :
    rebuild_catalog codec record .Done files =
      (.ok (catalog_of codec record files), files.write index_path (index_bytes codec (catalog_of codec record files))) := by
  have hleftover : ∀ bytes, (append_path_suffix index_path PARTIAL, bytes) ∉ files := fun bytes => (hwhole.no_leftover bytes).1
  have hwrite := @write_cache_file_done _ codec _ _ INDEX_MAGIC _ hfits hleftover
  unfold rebuild_catalog
  dsimp only
  rw [hwrite]
  rfl

/-- A catalog that is loaded describes the files, before and after. -/
theorem Recovered.load_ok (h : Recovered codec record files) (hsnapshot : codec.snapshot.Inverts)
    (hcatalog : codec.catalog.Inverts) (hload : load_or_rebuild_catalog codec record outcome files = (.ok catalog, next)) :
    Describes codec record files catalog ∧ Describes codec record next catalog ∧ Recovered codec record next := by
  unfold load_or_rebuild_catalog at hload
  cases htrusted : trusted_index codec record files with
  | some trusted =>
    rw [htrusted] at hload
    cases hload
    obtain ⟨_, bytes, hmem, hindex⟩ := h.whole.mem_of_trusted hcatalog htrusted
    have hdescribes := h.fresh _ _ hmem hindex
    exact ⟨hdescribes, hdescribes, h⟩
  | none =>
    rw [htrusted] at hload
    obtain ⟨rfl, hfits, rfl⟩ := rebuild_catalog_ok h.whole hload
    have hdescribes := h.whole.describes_catalog_of hsnapshot
    exact ⟨hdescribes, hdescribes.write_index _, h.whole.write_fresh_index hcatalog hfits hdescribes⟩

theorem Recovered.load_error (h : Recovered codec record files) (hclean : outcome.Clean) {error : RecordError}
    (hload : load_or_rebuild_catalog codec record outcome files = (.error error, next)) : Recovered codec record next := by
  unfold load_or_rebuild_catalog at hload
  cases htrusted : trusted_index codec record files with
  | some trusted =>
    rw [htrusted] at hload
    cases hload
  | none =>
    rw [htrusted] at hload
    rw [rebuild_catalog_error hclean hload]
    exact h

/-! ## Creating a snapshot -/

/-- A call whose snapshot file is replaced goes on to the index. -/
theorem create_snapshot_stored {faults : CreateFaults} {size : Nat} {hash : List U8}
    (hdirectory : faults.directory_fails = false)
    (hwrite : write_cache_file codec (snapshot_path snapshot) SNAPSHOT_MAGIC
      (codec.snapshot.encode { snapshot with record }) faults.snapshot files = (.ok (size, hash), next)) :
    create_snapshot codec record faults snapshot files =
      update_index codec record faults
        (catalog_entry (snapshot_file_name snapshot.position) { snapshot with record } size hash) next := by
  unfold snapshot_path at hwrite
  unfold create_snapshot
  simp only [hdirectory, Bool.false_eq_true, if_false]
  rw [hwrite]

/-- The call that stored a snapshot replaces the index too: by the rebuild where
the old index is no longer trusted, and otherwise by the write that follows. -/
def IndexReplaced (codec : CacheCodec State) (record : RecordIdentity) (faults : CreateFaults) (stored : Files) : Prop :=
  (codec.catalog.encode (catalog_of codec record stored)).length < 0x10000000000000000 ∧
    if (trusted_index codec record stored).isSome then faults.index = .Done else faults.rebuild = .Done

/-- No file's replacement stops half way, and no snapshot is stored beside an
index that does not list it. -/
def Undisturbed (codec : CacheCodec State) (record : RecordIdentity) (files : Files) : CacheOperation State → Prop
  | .LoadCatalog outcome => outcome.Clean
  | .CreateSnapshot snapshot faults =>
    faults.snapshot.Clean ∧ faults.rebuild.Clean ∧ faults.index.Clean ∧
      (faults.directory_fails = false → faults.snapshot = .Done →
        files.read index_path = none ∨
          IndexReplaced codec record faults
            (files.write (snapshot_path snapshot) (snapshot_bytes codec { snapshot with record })))

variable {faults : CreateFaults}

theorem Recovered.write_describing (h : Whole codec record files) (hcatalog : codec.catalog.Inverts)
    (hdescribes : Describes codec record files catalog) {identity : Nat × List U8}
    (hwrite : write_cache_file codec index_path INDEX_MAGIC (codec.catalog.encode catalog) outcome files =
      (.ok identity, next)) : Recovered codec record next := by
  obtain ⟨hfits, _, _, rfl⟩ := write_cache_file_ok (fun bytes => (h.no_leftover bytes).1) hwrite
  exact h.write_fresh_index hcatalog hfits hdescribes

/-- The end of a call that has stored its snapshot. -/
theorem update_index_recovered (h : Recovered codec record files) (hsnapshot : codec.snapshot.Inverts)
    (hcatalog : codec.catalog.Inverts) (hrecord : snapshot.record = record)
    (hfits : (codec.snapshot.encode snapshot).length < 0x10000000000000000)
    (hrebuild : faults.rebuild.Clean) (hindex : faults.index.Clean)
    (hreplaced : files.read index_path = none ∨
      IndexReplaced codec record faults (files.write (snapshot_path snapshot) (snapshot_bytes codec snapshot))) :
    Recovered codec record (update_index codec record faults (stored_entry codec snapshot)
      (files.write (snapshot_path snapshot) (snapshot_bytes codec snapshot))).2 := by
  have hwhole := h.whole.write_snapshot hrecord hfits
  -- The index among the stored files is the old one.
  have hold : ∀ bytes, (index_path, bytes) ∈ files.write (snapshot_path snapshot) (snapshot_bytes codec snapshot) →
      (index_path, bytes) ∈ files := by
    intro bytes hmem
    obtain ⟨hpath, _⟩ | ⟨hmem, _⟩ := Files.mem_write.mp hmem
    · cases hpath
    · exact hmem
  have hunindexed : files.read index_path = none →
      Recovered codec record (files.write (snapshot_path snapshot) (snapshot_bytes codec snapshot)) := by
    intro hnone
    refine ⟨hwhole, ?_⟩
    intro catalog bytes hmem
    exact absurd (hold bytes hmem) (Files.not_mem_of_read_eq_none h.whole.distinct hnone bytes)
  unfold update_index load_or_rebuild_catalog
  cases htrusted : trusted_index codec record (files.write (snapshot_path snapshot) (snapshot_bytes codec snapshot)) with
  | some catalog =>
    obtain ⟨hidentity, bytes, hmem, hstored⟩ := hwhole.mem_of_trusted hcatalog htrusted
    have hdescribes := h.fresh _ _ (hold bytes hmem) hstored
    have hreplace := Describes.replace h.whole hsnapshot hrecord hfits (fun entry _ => hdescribes.mem entry) hdescribes.sorted
    dsimp only
    cases hwrite : write_cache_file codec index_path INDEX_MAGIC
      (codec.catalog.encode (catalog.replace (stored_entry codec snapshot))) faults.index
      (files.write (snapshot_path snapshot) (snapshot_bytes codec snapshot)) with
    | mk result written =>
      cases result with
      | ok identity => exact Recovered.write_describing hwhole hcatalog hreplace hwrite
      | error error =>
        rw [write_cache_file_error hindex hwrite]
        obtain hnone | ⟨hlength, hdone⟩ := hreplaced
        · exact hunindexed hnone
        · -- The write that follows a trusted index cannot fail.
          have hsame := replace_eq_catalog_of h.whole hsnapshot hrecord hfits hidentity (fun entry _ => hdescribes.mem entry)
            hdescribes.sorted
          rw [htrusted, Option.isSome_some, if_pos rfl] at hdone
          rw [hsame, hdone, write_cache_file_done hlength fun bytes => (hwhole.no_leftover bytes).1] at hwrite
          cases hwrite
  | none =>
    dsimp only
    cases hresult : rebuild_catalog codec record faults.rebuild
      (files.write (snapshot_path snapshot) (snapshot_bytes codec snapshot)) with
    | mk result rebuilt =>
      cases result with
      | error error =>
        rw [rebuild_catalog_error hrebuild hresult]
        obtain hnone | ⟨hlength, hdone⟩ := hreplaced
        · exact hunindexed hnone
        · -- The rebuild that follows an untrusted index cannot fail.
          rw [htrusted, Option.isSome_none, if_neg Bool.false_ne_true] at hdone
          rw [hdone, rebuild_catalog_done hwhole hlength] at hresult
          cases hresult
      | ok catalog =>
        obtain ⟨rfl, hlength, rfl⟩ := rebuild_catalog_ok hwhole hresult
        have hdescribes := hwhole.describes_catalog_of hsnapshot
        have hrebuilt := hwhole.write_fresh_index hcatalog hlength hdescribes
        have hreplace := Describes.replace h.whole hsnapshot hrecord hfits (fun entry hne => by
          rw [hdescribes.mem, h.whole.mem_complete_entries_write hsnapshot hrecord hfits]
          constructor
          · rintro (rfl | ⟨hmem, _⟩)
            · exact absurd rfl hne
            · exact hmem
          · intro hmem
            exact Or.inr ⟨hmem, hne⟩) hdescribes.sorted
        dsimp only
        cases hwrite : write_cache_file codec index_path INDEX_MAGIC
          (codec.catalog.encode ((catalog_of codec record _).replace (stored_entry codec snapshot))) faults.index
          (Files.write index_path (index_bytes codec (catalog_of codec record _))
            (files.write (snapshot_path snapshot) (snapshot_bytes codec snapshot))) with
        | mk result written =>
          cases result with
          | ok identity => exact Recovered.write_describing hrebuilt.whole hcatalog (hreplace.write_index _) hwrite
          | error error =>
            rw [write_cache_file_error hindex hwrite]
            exact hrebuilt

theorem create_snapshot_recovered (h : Recovered codec record files) (hsnapshot : codec.snapshot.Inverts)
    (hcatalog : codec.catalog.Inverts)
    (hundisturbed : Undisturbed codec record files (.CreateSnapshot snapshot faults)) :
    Recovered codec record (create_snapshot codec record faults snapshot files).2 := by
  obtain ⟨hclean, hrebuild, hindex, hreplaced⟩ := hundisturbed
  unfold create_snapshot
  dsimp only
  cases hdirectory : faults.directory_fails with
  | true => exact h
  | false =>
    simp only [Bool.false_eq_true, if_false]
    cases hwrite : write_cache_file codec (.Checkpoint (snapshot_file_name snapshot.position)) SNAPSHOT_MAGIC
      (codec.snapshot.encode { snapshot with record }) faults.snapshot files with
    | mk result written =>
      cases result with
      | error error =>
        rw [write_cache_file_error hclean hwrite]
        exact h
      | ok identity =>
        obtain ⟨size, hash⟩ := identity
        obtain ⟨hfits, rfl, rfl, rfl⟩ := write_cache_file_ok (fun bytes => (h.whole.no_leftover bytes).2 _) hwrite
        have hdone : faults.snapshot = .Done := by
          obtain hunopened | hdone := hclean
          · rw [hunopened] at hwrite
            unfold write_cache_file at hwrite
            rw [if_neg (Nat.not_le.mpr hfits)] at hwrite
            cases hwrite
          · exact hdone
        exact update_index_recovered h hsnapshot hcatalog rfl hfits hrebuild hindex (hreplaced hdirectory hdone)

/-! ## Runs -/

/-- Runs from a Record without cache files, none of whose operations is disturbed. -/
inductive Run (codec : CacheCodec State) (record : RecordIdentity) : Files → Prop where
  | start : Run codec record []
  | step {files : Files} (h : Run codec record files) (operation : CacheOperation State)
    (hundisturbed : Undisturbed codec record files operation) : Run codec record (operate codec record files operation)

theorem Run.recovered (h : Run codec record files) (hsnapshot : codec.snapshot.Inverts)
    (hcatalog : codec.catalog.Inverts) : Recovered codec record files := by
  induction h with
  | start =>
    refine ⟨⟨.nil, ?_⟩, ?_⟩
    · intro path bytes hmem
      cases hmem
    · intro catalog bytes hmem
      cases hmem
  | @step files _ operation hundisturbed ih =>
    cases operation with
    | CreateSnapshot snapshot faults => exact create_snapshot_recovered ih hsnapshot hcatalog hundisturbed
    | LoadCatalog outcome =>
      unfold operate
      dsimp only
      cases hload : load_or_rebuild_catalog codec record outcome files with
      | mk result next =>
        cases result with
        | ok catalog => exact (ih.load_ok hsnapshot hcatalog hload).2.2
        | error error => exact ih.load_error hundisturbed hload

/-- A catalog that fits loads on a working file system. -/
theorem Recovered.load_works (h : Recovered codec record files)
    (hfits : (codec.catalog.encode (catalog_of codec record files)).length < 0x10000000000000000) :
    ∃ catalog next, load_or_rebuild_catalog codec record .Done files = (.ok catalog, next) := by
  unfold load_or_rebuild_catalog
  cases trusted_index codec record files with
  | some catalog => exact ⟨catalog, files, rfl⟩
  | none => exact ⟨_, _, rebuild_catalog_done h.whole hfits⟩

/-- After a catalog was loaded it can be loaded again. -/
theorem Recovered.load_again (h : Recovered codec record files) (hsnapshot : codec.snapshot.Inverts)
    (hcatalog : codec.catalog.Inverts) (hload : load_or_rebuild_catalog codec record outcome files = (.ok catalog, next)) :
    ∃ again last, load_or_rebuild_catalog codec record .Done next = (.ok again, last) := by
  have hnext := (h.load_ok hsnapshot hcatalog hload).2.2
  unfold load_or_rebuild_catalog at hload
  cases htrusted : trusted_index codec record files with
  | some trusted =>
    rw [htrusted] at hload
    cases hload
    unfold load_or_rebuild_catalog
    rw [htrusted]
    exact ⟨_, _, rfl⟩
  | none =>
    rw [htrusted] at hload
    obtain ⟨rfl, hfits, rfl⟩ := rebuild_catalog_ok h.whole hload
    apply hnext.load_works
    unfold catalog_of at hfits ⊢
    rw [complete_entries_write_index]
    exact hfits

/-- A listed snapshot opens. -/
theorem Recovered.install (h : Recovered codec record files) (hsnapshot : codec.snapshot.Inverts)
    (hcatalog : codec.catalog.Inverts) (hload : load_or_rebuild_catalog codec record outcome files = (.ok catalog, next))
    (hentry : entry ∈ catalog.entries) :
    ∃ snapshot, install_snapshot codec record .Done entry.id next = .ok snapshot ∧ snapshot.position = entry.position := by
  obtain ⟨_, hdescribes, hnext⟩ := h.load_ok hsnapshot hcatalog hload
  obtain ⟨again, last, hagain⟩ := h.load_again hsnapshot hcatalog hload
  obtain ⟨_, hlast, hrecovered⟩ := hnext.load_ok hsnapshot hcatalog hagain
  have hsnapshots : ∀ other, other ∈ catalog.entries ↔ other ∈ again.entries := by
    intro other
    rw [hdescribes.mem, (hnext.load_ok hsnapshot hcatalog hagain).1.mem]
  obtain ⟨snapshot, _, _, _, rfl⟩ := (hnext.whole.mem_complete_entries hsnapshot).mp ((hdescribes.mem entry).mp hentry)
  cases hfind : again.entries.find? fun other => other.id = snapshot_file_name snapshot.position with
  | none =>
    have hnone := List.find?_eq_none.mp hfind _ ((hsnapshots _).mp hentry)
    exact absurd (decide_eq_true rfl) hnone
  | some found =>
    have hid := List.find?_some hfind
    rw [decide_eq_true_eq] at hid
    obtain ⟨stored, bytes, hmem, hstored, rfl⟩ :=
      (hrecovered.whole.mem_complete_entries hsnapshot).mp ((hlast.mem _).mp (List.mem_of_find?_eq_some hfind))
    have hposition : stored.position = snapshot.position := snapshot_file_name_injective hid
    have hread := Files.read_eq_some_of_mem hrecovered.whole.distinct hmem
    refine ⟨stored, ?_, hposition⟩
    unfold install_snapshot
    have hpath : CachePath.Checkpoint (snapshot_file_name snapshot.position) = snapshot_path stored := by
      rw [snapshot_path, hposition]
    rw [show (stored_entry codec snapshot).id = snapshot_file_name snapshot.position from rfl, validate_snapshot_file_name]
    dsimp only
    rw [hagain]
    dsimp only
    rw [hfind, hpath, hread]
    dsimp only
    rw [hstored.bytes, read_snapshot_bytes hsnapshot hstored.fits]
    simp only [stored_entry, catalog_entry, ne_eq, not_true_eq_false, or_self, if_false]

/-- The end of a call that has stored its snapshot, on a working file system. -/
theorem update_index_done (h : Recovered codec record files) (hsnapshot : codec.snapshot.Inverts)
    (hcatalog : codec.catalog.Inverts) (hrecord : snapshot.record = record)
    (hfits : (codec.snapshot.encode snapshot).length < 0x10000000000000000) {stored : Files}
    (hstored : stored = files.write (snapshot_path snapshot) (snapshot_bytes codec snapshot))
    (hindex : (codec.catalog.encode (catalog_of codec record stored)).length < 0x10000000000000000) :
    update_index codec record no_faults (stored_entry codec snapshot) stored =
      (.ok (stored_entry codec snapshot), stored.write index_path (index_bytes codec (catalog_of codec record stored))) := by
  have hwhole : Whole codec record stored := by
    rw [hstored]
    exact h.whole.write_snapshot hrecord hfits
  unfold update_index load_or_rebuild_catalog
  dsimp only [no_faults]
  cases htrusted : trusted_index codec record stored with
  | some catalog =>
    -- The index is the old one.
    obtain ⟨hidentity, bytes, hmem, hold⟩ := hwhole.mem_of_trusted hcatalog htrusted
    have hdescribes : Describes codec record files catalog := by
      rw [hstored] at hmem
      obtain ⟨hpath, _⟩ | ⟨hmem, _⟩ := Files.mem_write.mp hmem
      · cases hpath
      · exact h.fresh _ _ hmem hold
    have hsame := replace_eq_catalog_of h.whole hsnapshot hrecord hfits hidentity (fun entry _ => hdescribes.mem entry)
      hdescribes.sorted
    rw [← hstored] at hsame
    dsimp only
    rw [hsame, write_cache_file_done hindex fun bytes => (hwhole.no_leftover bytes).1]
    rfl
  | none =>
    have hdescribes := hwhole.describes_catalog_of hsnapshot
    have hsame : (catalog_of codec record stored).replace (stored_entry codec snapshot) = catalog_of codec record stored := by
      rw [hstored] at hdescribes ⊢
      refine replace_eq_catalog_of h.whole hsnapshot hrecord hfits rfl (fun entry hne => ?_) hdescribes.sorted
      rw [hdescribes.mem, h.whole.mem_complete_entries_write hsnapshot hrecord hfits]
      constructor
      · rintro (rfl | ⟨hmem, _⟩)
        · exact absurd rfl hne
        · exact hmem
      · intro hmem
        exact Or.inr ⟨hmem, hne⟩
    have hrebuilt : Whole codec record (stored.write index_path (index_bytes codec (catalog_of codec record stored))) :=
      hwhole.write_index hindex
    dsimp only
    rw [rebuild_catalog_done hwhole hindex]
    dsimp only
    rw [hsame, write_cache_file_done hindex fun bytes => (hrebuilt.no_leftover bytes).1]
    dsimp only
    rw [← index_bytes, Files.write_write]

/-- A snapshot that fits, as does the index with it, is stored and listed on a
working file system. -/
theorem Recovered.create_works (h : Recovered codec record files) (hsnapshot : codec.snapshot.Inverts)
    (hcatalog : codec.catalog.Inverts) (snapshot : ReplaySnapshot State)
    (hfits : (codec.snapshot.encode { snapshot with record }).length < 0x10000000000000000) {stored : Files}
    (hstored : stored = files.write (snapshot_path snapshot) (snapshot_bytes codec { snapshot with record }))
    (hindex : (codec.catalog.encode (catalog_of codec record stored)).length < 0x10000000000000000) :
    create_snapshot codec record no_faults snapshot files =
      (.ok (stored_entry codec { snapshot with record }),
        stored.write index_path (index_bytes codec (catalog_of codec record stored))) := by
  have hwrite := @write_cache_file_done _ codec _ (snapshot_path snapshot) SNAPSHOT_MAGIC _ hfits
    fun bytes => (h.whole.no_leftover bytes).2 snapshot.position
  rw [create_snapshot_stored rfl hwrite]
  have hrecord : { snapshot with record }.record = record := rfl
  have hupdate := update_index_done h hsnapshot hcatalog hrecord hfits hstored hindex
  rw [hstored] at hupdate ⊢
  exact hupdate

/-- In a run without disturbed operations every catalog that is loaded lists
exactly the complete snapshots there are, strictly sorted, and each of them opens.
On a working file system the catalog loads and a snapshot is stored and listed,
where the index and the snapshot fit in a cache file. -/
theorem Run.recovers (hsnapshot : codec.snapshot.Inverts) (hcatalog : codec.catalog.Inverts) (h : Run codec record files) :
    (∀ outcome catalog next, load_or_rebuild_catalog codec record outcome files = (.ok catalog, next) →
      Describes codec record files catalog ∧
        ∀ entry ∈ catalog.entries, ∃ snapshot,
          install_snapshot codec record .Done entry.id next = .ok snapshot ∧ snapshot.position = entry.position) ∧
      ((codec.catalog.encode (catalog_of codec record files)).length < 0x10000000000000000 →
        ∃ catalog next, load_or_rebuild_catalog codec record .Done files = (.ok catalog, next)) ∧
      ∀ snapshot stored, stored = files.write (snapshot_path snapshot) (snapshot_bytes codec { snapshot with record }) →
        (codec.snapshot.encode { snapshot with record }).length < 0x10000000000000000 →
        (codec.catalog.encode (catalog_of codec record stored)).length < 0x10000000000000000 →
        ∃ next, create_snapshot codec record no_faults snapshot files =
            (.ok (stored_entry codec { snapshot with record }), next) ∧
          stored_entry codec { snapshot with record } ∈ complete_entries codec record next := by
  have hrecovered := h.recovered hsnapshot hcatalog
  refine ⟨?_, hrecovered.load_works, ?_⟩
  · intro outcome catalog next hload
    refine ⟨(hrecovered.load_ok hsnapshot hcatalog hload).1, ?_⟩
    intro entry hentry
    exact hrecovered.install hsnapshot hcatalog hload hentry
  · intro snapshot stored hstored hfits hindex
    refine ⟨_, hrecovered.create_works hsnapshot hcatalog snapshot hfits hstored hindex, ?_⟩
    rw [complete_entries_write_index, hstored]
    have hrecord : { snapshot with record }.record = record := rfl
    exact (hrecovered.whole.mem_complete_entries_write hsnapshot hrecord hfits).mpr (Or.inl rfl)

/-! ## A Record of two snapshots -/

def number_layout : Layout Nat U8 := .unary 0 1 (by decide)

def bytes_layout : Layout (List U8) U8 := .many number_layout .letter

def character_layout : Layout Char U8 :=
  word_layout.map (fun character => BitVec.ofNat 32 character.toNat) (fun word => Char.ofNat word.toNat) fun character => by
    have hword : character.toNat < 2 ^ 32 := character.val.toNat_lt
    rw [BitVec.toNat_ofNat, Nat.mod_eq_of_lt hword, Char.ofNat_toNat]

def name_layout : Layout FileName U8 := .many number_layout character_layout

def identity_layout : Layout RecordIdentity U8 :=
  (double_word_layout.pair bytes_layout).map (fun identity => (identity.size_bytes, identity.sha256))
    (fun fields => { size_bytes := fields.1, sha256 := fields.2 }) fun _ => rfl

def snapshot_layout : Layout (ReplaySnapshot Unit) U8 :=
  (identity_layout.pair (position_layout.pair (number_layout.pair ((Layout.optional number_layout position_layout).pair
    (bytes_layout.pair word_layout))))).map
    (fun snapshot => (snapshot.record, snapshot.position, snapshot.timeline_cursor, snapshot.last_verified_checkpoint,
      snapshot.machine_fingerprint, snapshot.pc))
    (fun (record, position, timeline_cursor, last_verified_checkpoint, machine_fingerprint, pc) =>
      { record, position, timeline_cursor, last_verified_checkpoint, machine_fingerprint, pc, state := () }) fun _ => rfl

def entry_layout : Layout SnapshotCatalogEntry U8 :=
  (name_layout.pair (position_layout.pair (word_layout.pair (number_layout.pair
    ((Layout.optional number_layout position_layout).pair (bytes_layout.pair (number_layout.pair bytes_layout))))))).map
    (fun entry => (entry.id, entry.position, entry.pc, entry.timeline_cursor, entry.last_verified_checkpoint,
      entry.machine_fingerprint, entry.file_size_bytes, entry.file_sha256))
    (fun (id, position, pc, timeline_cursor, last_verified_checkpoint, machine_fingerprint, file_size_bytes, file_sha256) =>
      { id, position, pc, timeline_cursor, last_verified_checkpoint, machine_fingerprint, file_size_bytes, file_sha256 })
    fun _ => rfl

def catalog_layout : Layout SnapshotCatalog U8 :=
  (identity_layout.pair (.many number_layout entry_layout)).map (fun catalog => (catalog.record, catalog.entries))
    (fun fields => { record := fields.1, entries := fields.2 }) fun _ => rfl

/-- A payload that is the layout of its value and nothing more. -/
def layout_codec {α : Type} (layout : Layout α U8) : ValueCodec α where
  encode := layout.write
  decode bytes := match layout.read bytes with
    | some (value, []) => .ok value
    | _ => .error "not a value"

theorem layout_codec_inverts {α : Type} (layout : Layout α U8) : (layout_codec layout).Inverts := by
  intro value
  simp only [layout_codec, layout.read_alone]

/-- The checksum of a file stands in for its hash. -/
def laid_out_codec : CacheCodec Unit where
  crc32 := RecorderInner.reflected_crc32
  sha256 bytes := to_le_bytes (RecorderInner.reflected_crc32 bytes)
  snapshot := layout_codec snapshot_layout
  catalog := layout_codec catalog_layout

def short_record : RecordIdentity := { size_bytes := 80, sha256 := [0xde, 0xad] }

def snapshot_at (completed_instructions : U64) (pc : U32) : ReplaySnapshot Unit :=
  { record := short_record, position := { epoch := 0, completed_instructions }, timeline_cursor := 1
    last_verified_checkpoint := none, machine_fingerprint := [], pc, state := () }

def entry_at (completed_instructions : U64) (pc : U32) : SnapshotCatalogEntry :=
  stored_entry laid_out_codec (snapshot_at completed_instructions pc)

def write_snapshot_at (files : Files) (completed_instructions : U64) (pc : U32) : Files :=
  files.write (snapshot_path (snapshot_at completed_instructions pc))
    (snapshot_bytes laid_out_codec (snapshot_at completed_instructions pc))

def write_index_of (files : Files) (entries : List SnapshotCatalogEntry) : Files :=
  files.write index_path (index_bytes laid_out_codec { record := short_record, entries })

/-- A snapshot at instruction 5, whose index was not written. -/
def first_files : Files := write_snapshot_at [] 5 0x100

/-- One at instruction 2 beside it. -/
def second_files : Files := write_index_of (write_snapshot_at first_files 2 0x200) [entry_at 2 0x200, entry_at 5 0x100]

/-- The one at instruction 5 replaced. -/
def third_files : Files := write_index_of (write_snapshot_at second_files 5 0x300) [entry_at 2 0x200, entry_at 5 0x300]

theorem catalog_of_empty (hnone : complete_entries codec record files = []) :
    catalog_of codec record files = { record, entries := [] } := by
  rw [catalog_of, hnone, sort_by_position, List.mergeSort_nil, dedup_of_strictlySorted .nil]

/-- Storing a snapshot replaces the entry of its position in the catalog. -/
theorem catalog_of_write_snapshot (hwhole : Whole codec record files) (hcodec : codec.snapshot.Inverts)
    (hrecord : snapshot.record = record) (hfits : (codec.snapshot.encode snapshot).length < 0x10000000000000000)
    {before after : List SnapshotCatalogEntry} (hbefore : catalog_of codec record files = { record, entries := before })
    (hsorted : StrictlySorted after)
    (hafter : ∀ entry, entry ∈ after ↔
      entry ∈ stored_entry codec snapshot :: before.filter fun listed => listed.position ≠ snapshot.position) :
    catalog_of codec record (files.write (snapshot_path snapshot) (snapshot_bytes codec snapshot)) =
      { record, entries := after } := by
  have hold := hwhole.describes_catalog_of hcodec
  have hnew := (hwhole.write_snapshot hrecord hfits).describes_catalog_of hcodec
  rw [hbefore] at hold
  have hentries := hnew.sorted.eq_of_mem_iff hsorted fun entry => by
    rw [hnew.mem, hwhole.mem_complete_entries_write hcodec hrecord hfits, ← hold.mem, hafter, List.mem_cons,
      List.mem_filter, decide_eq_true_eq]
  exact congrArg (SnapshotCatalog.mk record) hentries

theorem snapshot_at_length (completed_instructions : U64) (pc : U32) :
    (laid_out_codec.snapshot.encode (snapshot_at completed_instructions pc)).length = 37 := rfl

/-- The snapshot of every position fits. -/
theorem snapshot_at_fits (completed_instructions : U64) (pc : U32) :
    (laid_out_codec.snapshot.encode (snapshot_at completed_instructions pc)).length < 0x10000000000000000 := by
  rw [snapshot_at_length]
  decide

theorem name_length (name : FileName) : (name_layout.write name).length = name.length + 1 + name.length * 4 := by
  have hcharacter : ∀ character ∈ name, (character_layout.write character).length = 4 := fun _ _ => rfl
  rw [name_layout, Layout.length_many number_layout hcharacter, number_layout, Layout.length_unary]

theorem entry_at_length (completed_instructions : U64) (pc : U32) :
    (entry_layout.write (entry_at completed_instructions pc)).length = 326 := by
  have hname : (entry_at completed_instructions pc).id.length = 46 := by
    change (snapshot_file_name _).length = 46
    unfold snapshot_file_name
    rw [List.length_append, List.length_append, List.length_cons, List.length_cons, length_fixed_digits, length_fixed_digits]
    rfl
  have hsize : (entry_at completed_instructions pc).file_size_bytes = 61 := by
    change (snapshot_bytes laid_out_codec (snapshot_at completed_instructions pc)).length = 61
    unfold snapshot_bytes cache_bytes
    rw [List.length_append, snapshot_at_length]
    rfl
  unfold entry_layout Layout.map
  dsimp only
  rw [Layout.length_pair, Layout.length_pair, Layout.length_pair, Layout.length_pair, Layout.length_pair, Layout.length_pair,
    Layout.length_pair]
  dsimp only
  rw [name_length, hname, hsize]
  rfl

/-- A catalog of a few snapshots fits. -/
theorem catalog_fits (listed : List (U64 × U32)) (hfew : listed.length ≤ 3) :
    (laid_out_codec.catalog.encode
      { record := short_record, entries := listed.map fun (completed_instructions, pc) => entry_at completed_instructions pc }
      ).length < 0x10000000000000000 := by
  have hentries : ∀ entry ∈ listed.map fun (completed_instructions, pc) => entry_at completed_instructions pc,
      (entry_layout.write entry).length = 326 := by
    intro entry hentry
    obtain ⟨⟨completed_instructions, pc⟩, _, rfl⟩ := List.mem_map.mp hentry
    exact entry_at_length completed_instructions pc
  have hrecord : (identity_layout.write short_record).length = 13 := rfl
  change ((identity_layout.pair (.many number_layout entry_layout)).write (short_record, _)).length < _
  rw [Layout.length_pair, Layout.length_many number_layout hentries, number_layout, Layout.length_unary, List.length_map, hrecord]
  omega

theorem catalog_write_snapshot_at (hwhole : Whole laid_out_codec short_record files) (completed_instructions : U64) (pc : U32)
    {before after : List SnapshotCatalogEntry}
    (hbefore : catalog_of laid_out_codec short_record files = { record := short_record, entries := before })
    (hsorted : after.Pairwise fun a b => a.position < b.position)
    (hafter : ∀ entry, entry ∈ after ↔ entry ∈ entry_at completed_instructions pc ::
      before.filter fun listed => listed.position ≠ (snapshot_at completed_instructions pc).position) :
    catalog_of laid_out_codec short_record (write_snapshot_at files completed_instructions pc) =
      { record := short_record, entries := after } :=
  catalog_of_write_snapshot hwhole (layout_codec_inverts _) rfl (snapshot_at_fits completed_instructions pc) hbefore hsorted
    hafter

theorem first_catalog : catalog_of laid_out_codec short_record first_files =
    { record := short_record, entries := [entry_at 5 0x100] } := by
  have hwhole : Whole laid_out_codec short_record [] := ⟨.nil, fun _ _ hmem => nomatch hmem⟩
  exact catalog_write_snapshot_at hwhole 5 0x100 (catalog_of_empty rfl) (by decide) fun _ => Iff.rfl

/-- A first attempt that stores its snapshot but fails at the index. -/
theorem first_run : Run laid_out_codec short_record first_files := by
  have hwrite : write_cache_file laid_out_codec (snapshot_path (snapshot_at 5 0x100)) SNAPSHOT_MAGIC
      (laid_out_codec.snapshot.encode (snapshot_at 5 0x100)) .Done [] = (.ok _, first_files) :=
    write_cache_file_done (snapshot_at_fits 5 0x100) fun _ hmem => by cases hmem
  have hindex : write_cache_file laid_out_codec index_path INDEX_MAGIC
      (laid_out_codec.catalog.encode (catalog_of laid_out_codec short_record first_files)) .Unopened first_files =
        (.error disk_failure, first_files) := by
    rw [first_catalog]
    unfold write_cache_file
    exact if_neg (Nat.not_le.mpr (catalog_fits [(5, 0x100)] (by decide)))
  have hnext : operate laid_out_codec short_record []
      (.CreateSnapshot (snapshot_at 5 0x100) { no_faults with rebuild := .Unopened }) = first_files := by
    change (create_snapshot laid_out_codec short_record { no_faults with rebuild := .Unopened } (snapshot_at 5 0x100) []).2 = _
    rw [create_snapshot_stored rfl hwrite]
    change (update_index laid_out_codec short_record { no_faults with rebuild := .Unopened } _ first_files).2 = _
    have hload : load_or_rebuild_catalog laid_out_codec short_record .Unopened first_files =
        (.error disk_failure, first_files) := by
      change rebuild_catalog laid_out_codec short_record .Unopened first_files = _
      unfold rebuild_catalog
      dsimp only
      rw [hindex]
    unfold update_index
    rw [hload]
  rw [← hnext]
  exact .step .start _ ⟨.inr rfl, .inl rfl, .inr rfl, fun _ _ => Or.inl rfl⟩

theorem create_run {files stored : Files} (h : Run laid_out_codec short_record files) (completed_instructions : U64) (pc : U32)
    {entries : List SnapshotCatalogEntry} (hstored : stored = write_snapshot_at files completed_instructions pc)
    (hcatalog : catalog_of laid_out_codec short_record stored = { record := short_record, entries })
    (hindex : (laid_out_codec.catalog.encode { record := short_record, entries }).length < 0x10000000000000000) :
    Run laid_out_codec short_record (write_index_of stored entries) := by
  have hrecovered := h.recovered (layout_codec_inverts _) (layout_codec_inverts _)
  rw [← hcatalog] at hindex
  have hcreated := hrecovered.create_works (layout_codec_inverts _) (layout_codec_inverts _)
    (snapshot_at completed_instructions pc) (snapshot_at_fits completed_instructions pc) hstored hindex
  have hnext : operate laid_out_codec short_record files (.CreateSnapshot (snapshot_at completed_instructions pc) no_faults) =
      write_index_of stored entries := by
    unfold operate
    dsimp only
    rw [hcreated, hcatalog]
    rfl
  rw [← hnext]
  refine .step h _ ⟨.inr rfl, .inr rfl, .inr rfl, fun _ _ => Or.inr ⟨?_, by split <;> rfl⟩⟩
  rw [hstored] at hindex
  exact hindex

theorem Run.whole {files : Files} (h : Run laid_out_codec short_record files) : Whole laid_out_codec short_record files :=
  (h.recovered (layout_codec_inverts _) (layout_codec_inverts _)).whole

theorem second_catalog : catalog_of laid_out_codec short_record (write_snapshot_at first_files 2 0x200) =
    { record := short_record, entries := [entry_at 2 0x200, entry_at 5 0x100] } :=
  catalog_write_snapshot_at first_run.whole 2 0x200 first_catalog (by decide) fun _ => Iff.rfl

theorem second_run : Run laid_out_codec short_record second_files :=
  create_run first_run 2 0x200 rfl second_catalog (catalog_fits [(2, 0x200), (5, 0x100)] (by decide))

theorem catalog_of_write_index (files : Files) (entries : List SnapshotCatalogEntry) :
    catalog_of laid_out_codec short_record (write_index_of files entries) = catalog_of laid_out_codec short_record files := by
  unfold catalog_of write_index_of
  rw [complete_entries_write_index]

theorem third_catalog : catalog_of laid_out_codec short_record (write_snapshot_at second_files 5 0x300) =
    { record := short_record, entries := [entry_at 2 0x200, entry_at 5 0x300] } := by
  have hsecond := (catalog_of_write_index (write_snapshot_at first_files 2 0x200) [entry_at 2 0x200, entry_at 5 0x100]).trans
    second_catalog
  exact catalog_write_snapshot_at second_run.whole 5 0x300 hsecond (by decide) fun _ => List.mem_reverse.symm

theorem third_run : Run laid_out_codec short_record third_files :=
  create_run second_run 5 0x300 rfl third_catalog (catalog_fits [(2, 0x200), (5, 0x300)] (by decide))

/-- An attempt that stores nothing changes nothing. -/
theorem last_run : Run laid_out_codec short_record third_files := by
  have hnext : operate laid_out_codec short_record third_files
      (.CreateSnapshot (snapshot_at 9 0x400) { no_faults with snapshot := .Unopened }) = third_files := by
    have hwrite : write_cache_file laid_out_codec (.Checkpoint (snapshot_file_name (snapshot_at 9 0x400).position)) SNAPSHOT_MAGIC
        (laid_out_codec.snapshot.encode { snapshot_at 9 0x400 with record := short_record }) .Unopened third_files =
          (.error disk_failure, third_files) :=
      if_neg (Nat.not_le.mpr (snapshot_at_fits 9 0x400))
    unfold operate create_snapshot
    simp only [no_faults, Bool.false_eq_true, if_false]
    rw [hwrite]
  have hrun := Run.step third_run (.CreateSnapshot (snapshot_at 9 0x400) { no_faults with snapshot := .Unopened })
    ⟨.inl rfl, .inr rfl, .inr rfl, fun _ hdone => by cases hdone⟩
  rwa [hnext] at hrun

theorem last_catalog : catalog_of laid_out_codec short_record third_files =
    { record := short_record, entries := [entry_at 2 0x200, entry_at 5 0x300] } :=
  (catalog_of_write_index (write_snapshot_at second_files 5 0x300) _).trans third_catalog

theorem fourth_catalog : catalog_of laid_out_codec short_record (write_snapshot_at third_files 9 0x400) =
    { record := short_record, entries := [entry_at 2 0x200, entry_at 5 0x300, entry_at 9 0x400] } :=
  catalog_write_snapshot_at last_run.whole 9 0x400 last_catalog (by decide) fun _ =>
    (@List.perm_append_comm _ [entry_at 2 0x200, entry_at 5 0x300] [entry_at 9 0x400]).mem_iff

/-- After a failed attempt, two snapshots, the first one taken anew and another
failed attempt, the catalog loads with both snapshots, both open, and the next
attempt succeeds. -/
theorem Run.recovers_retaken :
    (∃ catalog next,
      load_or_rebuild_catalog laid_out_codec short_record .Done third_files = (.ok catalog, next) ∧
      (∀ entry, entry ∈ catalog.entries ↔ entry = entry_at 5 0x300 ∨ entry = entry_at 2 0x200) ∧
      ∀ entry ∈ catalog.entries, ∃ snapshot,
        install_snapshot laid_out_codec short_record .Done entry.id next = .ok snapshot ∧ snapshot.position = entry.position) ∧
    ∃ next, create_snapshot laid_out_codec short_record no_faults (snapshot_at 9 0x400) third_files =
        (.ok (entry_at 9 0x400), next) ∧
      entry_at 9 0x400 ∈ complete_entries laid_out_codec short_record next := by
  obtain ⟨hlists, hloads, hcreates⟩ := Run.recovers (layout_codec_inverts _) (layout_codec_inverts _) last_run
  constructor
  · obtain ⟨catalog, next, hload⟩ := hloads (by
      rw [last_catalog]
      exact catalog_fits [(2, 0x200), (5, 0x300)] (by decide))
    obtain ⟨hdescribes, hopens⟩ := hlists _ _ _ hload
    have hlast := last_run.whole.describes_catalog_of (layout_codec_inverts _)
    rw [last_catalog] at hlast
    refine ⟨catalog, next, hload, fun entry => ?_, hopens⟩
    rw [hdescribes.mem, ← hlast.mem, or_comm]
    simp only [List.mem_cons, List.not_mem_nil, or_false]
  · exact hcreates (snapshot_at 9 0x400) (write_snapshot_at third_files 9 0x400) rfl (snapshot_at_fits 9 0x400) (by
      rw [fourth_catalog]
      exact catalog_fits [(2, 0x200), (5, 0x300), (9, 0x400)] (by decide))

/-- A rebuild that is interrupted while it writes the index leaves its partial
file behind, and no later rebuild succeeds. -/
theorem interrupted_rebuild_blocks_next :
    ¬∀ (codec : CacheCodec Unit) (record : RecordIdentity) (operations : List (CacheOperation Unit)) (files : Files),
      codec.snapshot.Inverts → codec.catalog.Inverts → files = operations.foldl (operate codec record) [] →
      (codec.catalog.encode (catalog_of codec record files)).length < 0x10000000000000000 →
      ∃ catalog next, load_or_rebuild_catalog codec record .Done files = (.ok catalog, next) := by
  intro h
  have hleft : operate laid_out_codec short_record [] (.LoadCatalog (.Torn 0)) =
      [(append_path_suffix index_path PARTIAL, [])] := by
    change (rebuild_catalog laid_out_codec short_record (.Torn 0) []).2 = _
    unfold rebuild_catalog
    rw [catalog_of_empty rfl]
    rfl
  have hblocked : (load_or_rebuild_catalog laid_out_codec short_record .Done
      [(append_path_suffix index_path PARTIAL, [])]).1 = .error already_exists := by
    change (rebuild_catalog laid_out_codec short_record .Done _).1 = _
    unfold rebuild_catalog
    rw [catalog_of_empty rfl]
    rfl
  obtain ⟨catalog, next, hloaded⟩ := h laid_out_codec short_record [.LoadCatalog (.Torn 0)]
    [(append_path_suffix index_path PARTIAL, [])] (layout_codec_inverts _) (layout_codec_inverts _) hleft.symm (by
      rw [catalog_of_empty rfl]
      exact catalog_fits [] (Nat.zero_le 3))
  rw [hloaded] at hblocked
  cases hblocked

end se_runtime.record
