import SgiEmu.Runtime.Catalog.Container

open se_core se_core.storage

namespace se_runtime.record

/-! ## Positions -/

namespace ExecutionPosition

theorem lt_iff {a b : ExecutionPosition} :
    a < b ↔ a.epoch.toNat < b.epoch.toNat ∨
      a.epoch.toNat = b.epoch.toNat ∧ a.completed_instructions.toNat < b.completed_instructions.toNat := by
  rw [BitVec.toNat_inj]
  exact Iff.rfl

theorem eq_of_not_lt {a b : ExecutionPosition} (hab : ¬a < b) (hba : ¬b < a) : a = b := by
  rw [lt_iff] at hab hba
  have hepoch : a.epoch = b.epoch := BitVec.eq_of_toNat_eq (by omega)
  have hcompleted : a.completed_instructions = b.completed_instructions := BitVec.eq_of_toNat_eq (by omega)
  cases a
  cases b
  cases hepoch
  cases hcompleted
  rfl

theorem lt_irrefl (a : ExecutionPosition) : ¬a < a := by
  rw [lt_iff]
  omega

theorem lt_asymm {a b : ExecutionPosition} (h : a < b) : ¬b < a := by
  rw [lt_iff] at h ⊢
  omega

end ExecutionPosition

/-- Entries in the order of their positions, which differ. -/
def StrictlySorted (entries : List SnapshotCatalogEntry) : Prop :=
  entries.Pairwise fun a b => a.position < b.position

theorem mem_sort_by_position {entries : List SnapshotCatalogEntry} {entry : SnapshotCatalogEntry} :
    entry ∈ sort_by_position entries ↔ entry ∈ entries :=
  List.mem_mergeSort

/-- Sorting entries of different positions sorts them strictly. -/
theorem strictlySorted_sort {entries : List SnapshotCatalogEntry}
    (h : entries.Pairwise fun a b => a.position ≠ b.position) : StrictlySorted (sort_by_position entries) := by
  have hle : ∀ a b : SnapshotCatalogEntry, position_le a b = true ↔ ¬b.position < a.position := by
    intro a b
    rw [position_le, Bool.not_eq_true', decide_eq_false_iff_not]
  have hsorted : (sort_by_position entries).Pairwise fun a b => position_le a b = true := by
    apply List.pairwise_mergeSort
    · intro a b c
      simp only [hle, ExecutionPosition.lt_iff]
      omega
    · intro a b
      simp only [Bool.or_eq_true, hle, ExecutionPosition.lt_iff]
      omega
  have hdistinct : (sort_by_position entries).Pairwise fun a b => a.position ≠ b.position :=
    (List.mergeSort_perm entries position_le).symm.pairwise h fun hne => hne.symm
  apply (hsorted.and hdistinct).imp
  intro a b hab
  by_contra hlt
  exact hab.2 (ExecutionPosition.eq_of_not_lt hlt ((hle a b).mp hab.1))

theorem dedup_of_strictlySorted {entries : List SnapshotCatalogEntry} (h : StrictlySorted entries) :
    dedup_by_position entries = entries := by
  induction entries with
  | nil => rw [dedup_by_position]
  | cons first rest ih =>
    cases rest with
    | nil => rw [dedup_by_position]
    | cons second rest =>
      have hne : first.position ≠ second.position := by
        intro heq
        have hlt := List.rel_of_pairwise_cons h List.mem_cons_self
        rw [heq] at hlt
        exact ExecutionPosition.lt_irrefl _ hlt
      rw [dedup_by_position, if_neg hne, ih (List.Pairwise.of_cons h)]

/-! ## Files -/

namespace Files

variable {files : Files} {path other : CachePath} {bytes contents : List U8}

/-- No path names two files. -/
def Distinct (files : Files) : Prop := files.Pairwise fun a b => a.1 ≠ b.1

theorem read_eq_some_of_mem (hdistinct : files.Distinct) (h : (path, bytes) ∈ files) : files.read path = some bytes := by
  induction files with
  | nil => cases h
  | cons file files ih =>
    obtain ⟨first, hrest⟩ := List.pairwise_cons.mp hdistinct
    unfold read
    by_cases heq : path = file.1
    · obtain h | h := List.mem_cons.mp h
      · rw [← h]
        exact List.lookup_cons_self
      · exact absurd heq.symm (first _ h)
    · obtain h | h := List.mem_cons.mp h
      · rw [← h] at heq
        exact absurd rfl heq
      · rw [List.lookup_cons, beq_false_of_ne heq]
        exact ih hrest h

theorem mem_of_read_eq_some (h : files.read path = some bytes) : (path, bytes) ∈ files := by
  induction files with
  | nil => cases h
  | cons file files ih =>
    unfold read at h
    rw [List.lookup_cons] at h
    by_cases heq : path = file.1
    · subst heq
      rw [beq_self_eq_true] at h
      cases h
      exact List.mem_cons_self
    · rw [beq_false_of_ne heq] at h
      exact List.mem_cons_of_mem _ (ih h)

theorem read_eq_none (h : ∀ bytes, (path, bytes) ∉ files) : files.read path = none := by
  cases hread : files.read path with
  | none => rfl
  | some bytes => exact absurd (mem_of_read_eq_some hread) (h bytes)

theorem not_mem_of_read_eq_none (hdistinct : files.Distinct) (h : files.read path = none) (bytes : List U8) :
    (path, bytes) ∉ files := by
  intro hmem
  rw [read_eq_some_of_mem hdistinct hmem] at h
  cases h

theorem mem_remove : (other, contents) ∈ files.remove path ↔ (other, contents) ∈ files ∧ other ≠ path := by
  simp only [remove, List.mem_filter, decide_eq_true_eq]

theorem mem_write :
    (other, contents) ∈ files.write path bytes ↔
      other = path ∧ contents = bytes ∨ (other, contents) ∈ files ∧ other ≠ path := by
  rw [write, List.mem_cons, mem_remove, Prod.mk.injEq]

theorem distinct_write (h : files.Distinct) (path : CachePath) (bytes : List U8) : (files.write path bytes).Distinct := by
  apply List.pairwise_cons.mpr
  refine ⟨?_, List.Pairwise.filter _ h⟩
  intro file hfile
  exact (mem_remove.mp hfile).2.symm

theorem remove_of_not_mem (h : ∀ bytes, (path, bytes) ∉ files) : files.remove path = files := by
  apply List.filter_eq_self.mpr
  intro file hfile
  rw [decide_eq_true_eq]
  intro heq
  exact h file.2 (heq ▸ hfile)

/-- Of two writes of one file the second stays. -/
theorem write_write (files : Files) (path : CachePath) (first second : List U8) :
    (files.write path first).write path second = files.write path second := by
  have hremove : (files.write path first).remove path = files.remove path := by
    unfold write remove
    rw [List.filter_cons_of_neg (by simp), List.filter_filter]
    simp only [Bool.and_self]
  unfold write at hremove ⊢
  rw [hremove]

/-- A partial file that is renamed leaves nothing but its destination. -/
theorem rename_write (h : ∀ bytes, (other, bytes) ∉ files) :
    (files.write other bytes).rename other path = files.write path bytes := by
  have hread : (files.write other bytes).read other = some bytes := List.lookup_cons_self
  have hremove : (files.write other bytes).remove other = files := by
    have hwrite : files.write other bytes = (other, bytes) :: files := by rw [write, remove_of_not_mem h]
    have hself := remove_of_not_mem h
    rw [hwrite]
    unfold remove at hself ⊢
    rw [List.filter_cons, hself]
    simp only [ne_eq, not_true_eq_false, decide_false, Bool.false_eq_true, if_false]
  unfold rename
  rw [hread]
  dsimp only
  rw [hremove]

theorem mem_read_dir {name : FileName} : (name, bytes) ∈ files.read_dir ↔ (CachePath.Checkpoint name, bytes) ∈ files := by
  simp only [read_dir, List.mem_filterMap]
  constructor
  · rintro ⟨⟨path, contents⟩, hmem, hfile⟩
    cases path with
    | Beside suffix => cases hfile
    | Checkpoint other =>
      cases hfile
      exact hmem
  · intro hmem
    exact ⟨_, hmem, rfl⟩

theorem read_dir_distinct (h : files.Distinct) : files.read_dir.Pairwise fun a b => a.1 ≠ b.1 := by
  apply List.Pairwise.filterMap _ _ h
  intro a b hne first hfirst second hsecond heq
  obtain ⟨apath, abytes⟩ := a
  obtain ⟨bpath, bbytes⟩ := b
  cases apath with
  | Beside suffix => cases hfirst
  | Checkpoint aname =>
    cases bpath with
    | Beside suffix => cases hsecond
    | Checkpoint bname =>
      cases hfirst
      cases hsecond
      exact hne (congrArg CachePath.Checkpoint heq)

end Files

/-! ## What the files of a Record are -/

variable {State : Type} {codec : CacheCodec State} {record : RecordIdentity} {files : Files} {path : CachePath}
variable {snapshot : ReplaySnapshot State} {catalog : SnapshotCatalog} {entry : SnapshotCatalogEntry}

def snapshot_path (snapshot : ReplaySnapshot State) : CachePath := .Checkpoint (snapshot_file_name snapshot.position)

def snapshot_bytes (codec : CacheCodec State) (snapshot : ReplaySnapshot State) : List U8 :=
  cache_bytes codec SNAPSHOT_MAGIC (codec.snapshot.encode snapshot)

def index_bytes (codec : CacheCodec State) (catalog : SnapshotCatalog) : List U8 :=
  cache_bytes codec INDEX_MAGIC (codec.catalog.encode catalog)

/-- The entry of a snapshot stored under its own name. -/
def stored_entry (codec : CacheCodec State) (snapshot : ReplaySnapshot State) : SnapshotCatalogEntry :=
  catalog_entry (snapshot_file_name snapshot.position) snapshot (snapshot_bytes codec snapshot).length
    (codec.sha256 (snapshot_bytes codec snapshot))

/-- The file is a snapshot of the Record, under the name of its position. -/
structure IsSnapshot (codec : CacheCodec State) (record : RecordIdentity) (path : CachePath) (bytes : List U8)
    (snapshot : ReplaySnapshot State) : Prop where
  of_record : snapshot.record = record
  fits : (codec.snapshot.encode snapshot).length < 0x10000000000000000
  path : path = snapshot_path snapshot
  bytes : bytes = snapshot_bytes codec snapshot

/-- The file is an index. -/
structure IsIndex (codec : CacheCodec State) (path : CachePath) (bytes : List U8) (catalog : SnapshotCatalog) : Prop where
  fits : (codec.catalog.encode catalog).length < 0x10000000000000000
  path : path = index_path
  bytes : bytes = index_bytes codec catalog

/-- Every cache file is whole: an index or a snapshot, and no partial file. -/
structure Whole (codec : CacheCodec State) (record : RecordIdentity) (files : Files) : Prop where
  distinct : files.Distinct
  file : ∀ path bytes, (path, bytes) ∈ files →
    (∃ catalog, IsIndex codec path bytes catalog) ∨ ∃ snapshot, IsSnapshot codec record path bytes snapshot

/-- The catalog lists exactly the complete snapshots there are, in order. -/
structure Describes (codec : CacheCodec State) (record : RecordIdentity) (files : Files) (catalog : SnapshotCatalog) :
    Prop where
  sorted : StrictlySorted catalog.entries
  mem : ∀ entry, entry ∈ catalog.entries ↔ entry ∈ complete_entries codec record files

/-- The index, if there is one, describes the files. -/
def Fresh (codec : CacheCodec State) (record : RecordIdentity) (files : Files) : Prop :=
  ∀ catalog bytes, (index_path, bytes) ∈ files → IsIndex codec index_path bytes catalog →
    Describes codec record files catalog

theorem read_snapshot_bytes (hcodec : codec.snapshot.Inverts)
    (hfits : (codec.snapshot.encode snapshot).length < 0x10000000000000000) (name : String) :
    read_cache_file_with_identity codec codec.snapshot SNAPSHOT_MAGIC name (snapshot_bytes codec snapshot) =
      .ok (snapshot, (snapshot_bytes codec snapshot).length, codec.sha256 (snapshot_bytes codec snapshot)) :=
  read_cache_bytes _ _ _ _ _ _ _ _ name hfits (hcodec snapshot)

theorem read_index_bytes (hcodec : codec.catalog.Inverts)
    (hfits : (codec.catalog.encode catalog).length < 0x10000000000000000) (name : String) :
    read_cache_file_with_identity codec codec.catalog INDEX_MAGIC name (index_bytes codec catalog) =
      .ok (catalog, (index_bytes codec catalog).length, codec.sha256 (index_bytes codec catalog)) :=
  read_cache_bytes _ _ _ _ _ _ _ _ name hfits (hcodec catalog)

theorem IsIndex.unique (hcodec : codec.catalog.Inverts) {bytes : List U8} {other : SnapshotCatalog}
    (h : IsIndex codec path bytes catalog) (hother : IsIndex codec path bytes other) : catalog = other := by
  have hread := read_index_bytes hcodec h.fits ""
  rw [← h.bytes, hother.bytes, read_index_bytes hcodec hother.fits] at hread
  cases hread
  rfl

theorem rebuild_entry_stored (hcodec : codec.snapshot.Inverts) (hrecord : snapshot.record = record)
    (hfits : (codec.snapshot.encode snapshot).length < 0x10000000000000000) :
    rebuild_entry codec record (snapshot_file_name snapshot.position, snapshot_bytes codec snapshot) =
      some (stored_entry codec snapshot) := by
  unfold rebuild_entry
  rw [validate_snapshot_file_name, read_snapshot_bytes hcodec hfits]
  simp only [ne_eq, hrecord, not_true_eq_false, if_false]
  rfl

/-- The complete entries of whole files are those of the snapshots among them. -/
theorem Whole.mem_complete_entries (h : Whole codec record files) (hcodec : codec.snapshot.Inverts) :
    entry ∈ complete_entries codec record files ↔
      ∃ snapshot bytes, (snapshot_path snapshot, bytes) ∈ files ∧
        IsSnapshot codec record (snapshot_path snapshot) bytes snapshot ∧ entry = stored_entry codec snapshot := by
  simp only [complete_entries, List.mem_filterMap]
  constructor
  · rintro ⟨⟨name, bytes⟩, hfile, hentry⟩
    have hmem := Files.mem_read_dir.mp hfile
    obtain ⟨catalog, hindex⟩ | ⟨snapshot, hsnapshot⟩ := h.file _ _ hmem
    · cases hindex.path
    · have hpath := hsnapshot.path
      have hname : name = snapshot_file_name snapshot.position := CachePath.Checkpoint.inj hpath
      rw [hpath] at hmem hsnapshot
      refine ⟨snapshot, bytes, hmem, hsnapshot, ?_⟩
      rw [hname, hsnapshot.bytes, rebuild_entry_stored hcodec hsnapshot.of_record hsnapshot.fits] at hentry
      exact (Option.some.inj hentry).symm
  · rintro ⟨snapshot, bytes, hmem, hsnapshot, rfl⟩
    refine ⟨(snapshot_file_name snapshot.position, bytes), Files.mem_read_dir.mpr hmem, ?_⟩
    rw [hsnapshot.bytes]
    exact rebuild_entry_stored hcodec hsnapshot.of_record hsnapshot.fits

theorem Whole.complete_entries_distinct (h : Whole codec record files) (hcodec : codec.snapshot.Inverts) :
    (complete_entries codec record files).Pairwise fun a b => a.position ≠ b.position := by
  have hids : (complete_entries codec record files).Pairwise fun a b => a.id ≠ b.id := by
    apply List.Pairwise.filterMap _ _ (Files.read_dir_distinct h.distinct)
    intro a b hne first hfirst second hsecond
    have hid : ∀ (file : FileName × List U8) entry, rebuild_entry codec record file = some entry → entry.id = file.1 := by
      intro file entry hentry
      unfold rebuild_entry at hentry
      split at hentry
      · split at hentry
        · cases hentry
        · cases hentry
          rfl
      · cases hentry
    rw [hid a first hfirst, hid b second hsecond]
    exact hne
  apply List.Pairwise.imp_of_mem _ hids
  intro a b ha hb hne heq
  obtain ⟨first, _, _, _, rfl⟩ := (h.mem_complete_entries hcodec).mp ha
  obtain ⟨second, _, _, _, rfl⟩ := (h.mem_complete_entries hcodec).mp hb
  exact hne (congrArg snapshot_file_name heq)

end se_runtime.record
