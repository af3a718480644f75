import SgiEmu.Runtime.Storage

open se_core se_core.storage se_machine Library.ByteMemory Library.PagedOverlay

namespace se_runtime.record

/-! ## Pages and what they show -/

theorem validate_cow_page_iff {page_index length storage_size : Nat} :
    validate_cow_page page_index length storage_size = .ok () ↔
      page_index * STORAGE_PAGE_BYTES ≤ U64_MAX ∧ page_index * STORAGE_PAGE_BYTES < storage_size ∧
        length = min (storage_size - page_index * STORAGE_PAGE_BYTES) STORAGE_PAGE_BYTES := by
  unfold validate_cow_page checked_mul_u64
  by_cases hfit : page_index * STORAGE_PAGE_BYTES ≤ U64_MAX
  · simp only [hfit, if_true, true_and]
    by_cases hrange : storage_size ≤ page_index * STORAGE_PAGE_BYTES
    · simp only [hrange, if_true, reduceCtorEq, false_iff, not_and]
      intro h
      omega
    · by_cases hlength : length = min (storage_size - page_index * STORAGE_PAGE_BYTES) STORAGE_PAGE_BYTES
      · simp only [hrange, hlength, if_false, ne_eq, not_true_eq_false, and_true, true_iff]
        omega
      · simp only [hrange, hlength, if_false, ne_eq, not_false_eq_true, if_true, reduceCtorEq, and_false]
  · simp only [hfit, if_false, reduceCtorEq, false_and]

/-- Every page of a resource has the shape a snapshot demands of it. -/
def PagesValid (size_bytes : Nat) (pages : BTreeMap Nat (List U8)) : Prop :=
  ∀ page_index page, pages[page_index]? = some page → validate_cow_page page_index page.length size_bytes = .ok ()

theorem PagesValid.page_length_le {size_bytes : Nat} {pages : BTreeMap Nat (List U8)} {page_index : Nat}
    {page : List U8} (hvalid : PagesValid size_bytes pages) (hpage : pages[page_index]? = some page) :
    page.length ≤ STORAGE_PAGE_BYTES := by
  obtain ⟨_, _, hlength⟩ := validate_cow_page_iff.mp (hvalid page_index page hpage)
  omega

/-- The bytes a resource shows through its pages. -/
def shown (pages : BTreeMap Nat (List U8)) (base : Nat → U8) : Nat → U8 :=
  view STORAGE_PAGE_BYTES (fun page_index => pages[page_index]?) base

theorem check_range_iff {offset length size_bytes : Nat} :
    check_range offset length size_bytes = .ok () ↔ offset + length ≤ U64_MAX ∧ offset + length ≤ size_bytes := by
  unfold check_range checked_add_u64
  by_cases hfit : offset + length ≤ U64_MAX
  · by_cases hrange : size_bytes < offset + length
    · simp only [hfit, hrange, if_true, reduceCtorEq, true_and, false_iff]
      omega
    · simp only [hfit, hrange, if_true, if_false, true_and, true_iff]
      omega
  · simp only [hfit, if_false, reduceCtorEq, false_and]

/-! ## Overlaying reads -/

section Overlay

variable {pages : BTreeMap Nat (List U8)} {base : Nat → U8} {offset finish : Nat}

/-- The pages before `bound`. -/
def pages_below (pages : BTreeMap Nat (List U8)) (bound page_index : Nat) : Option (List U8) :=
  if page_index < bound then pages[page_index]? else none

theorem view_below_succ_of_none {bound : Nat} (hnone : pages[bound]? = none) :
    pages_below pages (bound + 1) = pages_below pages bound := by
  funext page_index
  unfold pages_below
  by_cases hindex : page_index = bound
  · simp only [hindex, hnone, ite_self]
  · have hiff : page_index < bound + 1 ↔ page_index < bound := by omega
    simp only [hiff]

/-- Copying one page into the buffer shows one page more. -/
theorem splice_load_below {bound : Nat} {page : List U8} (hpage : pages[bound]? = some page)
    (hlength : page.length ≤ STORAGE_PAGE_BYTES) (hbound : bound * STORAGE_PAGE_BYTES < finish)
    (hoffset : offset < finish) :
    let start := max offset (bound * STORAGE_PAGE_BYTES)
    let stop := min finish (bound * STORAGE_PAGE_BYTES + page.length)
    splice (load (view STORAGE_PAGE_BYTES (pages_below pages bound) base) offset (finish - offset)) (start - offset)
        ((page.drop (start - bound * STORAGE_PAGE_BYTES)).take (stop - start)) =
      load (view STORAGE_PAGE_BYTES (pages_below pages (bound + 1)) base) offset (finish - offset) := by
  intro start stop
  have hbytes : ((page.drop (start - bound * STORAGE_PAGE_BYTES)).take (stop - start)).length = stop - start := by
    rw [List.length_take, List.length_drop]
    omega
  have hfit : start - offset + ((page.drop (start - bound * STORAGE_PAGE_BYTES)).take (stop - start)).length ≤
      (load (view STORAGE_PAGE_BYTES (pages_below pages bound) base) offset (finish - offset)).length := by
    rw [hbytes, load_length]
    omega
  refine eq_load (by rw [splice_length hfit, load_length]) fun i hi => ?_
  rw [splice_getElem? hfit, hbytes, load_getElem? hi]
  unfold view pages_below
  by_cases hcell : (offset + i) / STORAGE_PAGE_BYTES = bound
  · have hsplit := Nat.div_add_mod (offset + i) STORAGE_PAGE_BYTES
    have hrest := Nat.mod_lt (offset + i) (show 0 < STORAGE_PAGE_BYTES by decide)
    rw [hcell, Nat.mul_comm] at hsplit
    rw [hcell, if_pos (Nat.lt_succ_self bound), hpage, if_neg (Nat.lt_irrefl bound), Option.bind_some,
      Option.bind_none, Option.getD_none]
    by_cases hinside : start - offset ≤ i ∧ i < start - offset + (stop - start)
    · have hindex : start - bound * STORAGE_PAGE_BYTES + (i - (start - offset)) =
          (offset + i) % STORAGE_PAGE_BYTES := by omega
      rw [if_pos hinside, List.getElem?_take_of_lt (by omega), List.getElem?_drop, hindex,
        List.getElem?_eq_getElem (by omega), Option.getD_some]
    · rw [if_neg hinside, List.getElem?_eq_none (by omega), Option.getD_none]
  · have hiff : (offset + i) / STORAGE_PAGE_BYTES < bound + 1 ↔ (offset + i) / STORAGE_PAGE_BYTES < bound := by omega
    have houtside : ¬(start - offset ≤ i ∧ i < start - offset + (stop - start)) := by
      rintro ⟨hfirst, hlast⟩
      refine hcell ?_
      rw [Nat.div_eq_iff (by decide)]
      omega
    rw [if_neg houtside]
    simp only [hiff]

/-- The loop over the pages of a range, started with what the pages before show. -/
theorem overlay_pages_spec (base : Nat → U8) {size_bytes : Nat} (hvalid : PagesValid size_bytes pages)
    (hoffset : offset < finish) (remaining page_index : Nat)
    (hlast : page_index + remaining ≤ (finish - 1) / STORAGE_PAGE_BYTES + 1) :
    overlay_pages pages offset finish remaining page_index
        (load (view STORAGE_PAGE_BYTES (pages_below pages page_index) base) offset (finish - offset)) =
      load (view STORAGE_PAGE_BYTES (pages_below pages (page_index + remaining)) base) offset (finish - offset) := by
  induction remaining generalizing page_index with
  | zero => rfl
  | succ remaining ih =>
    have hnext := ih (page_index + 1) (by omega)
    have hsum : page_index + 1 + remaining = page_index + (remaining + 1) := by omega
    rw [hsum] at hnext
    cases hpage : pages[page_index]? with
    | none =>
      rw [view_below_succ_of_none hpage] at hnext
      simp only [overlay_pages, hpage]
      exact hnext
    | some page =>
      have hbound : page_index * STORAGE_PAGE_BYTES < finish := by
        have hle : page_index ≤ (finish - 1) / STORAGE_PAGE_BYTES := by omega
        have hmul := (Nat.le_div_iff_mul_le (by decide)).mp hle
        omega
      simp only [overlay_pages, hpage]
      rw [splice_load_below hpage (hvalid.page_length_le hpage) hbound hoffset]
      exact hnext

/-- Overlaying a base read shows the bytes of the resource. -/
theorem overlay_cow_pages_spec (base : Nat → U8) {size_bytes : Nat} (hvalid : PagesValid size_bytes pages)
    {length : Nat} (hfit : offset + length ≤ U64_MAX) :
    overlay_cow_pages pages offset (load base offset length) = .ok (load (shown pages base) offset length) := by
  unfold overlay_cow_pages
  by_cases hempty : length = 0
  · subst hempty
    rfl
  · have hnonempty : (load base offset length).isEmpty = false := by
      rw [List.isEmpty_eq_false_iff_exists_mem]
      exact ⟨base (offset + 0), List.mem_map.mpr ⟨0, List.mem_range.mpr (by omega), rfl⟩⟩
    have hsum : checked_add_u64 offset length = some (offset + length) := checked_add_u64_eq_some.mpr ⟨hfit, rfl⟩
    have hle : offset / STORAGE_PAGE_BYTES ≤ (offset + length - 1) / STORAGE_PAGE_BYTES :=
      Nat.div_le_div_right (by omega)
    have hspec := overlay_pages_spec base hvalid (show offset < offset + length by omega)
      (page_count offset (offset + length)) (offset / STORAGE_PAGE_BYTES) (by unfold page_count; omega)
    have hsize : offset + length - offset = length := by omega
    -- before the first page nothing of the range is overlaid, after the last page everything is
    have hfirst : load (view STORAGE_PAGE_BYTES (pages_below pages (offset / STORAGE_PAGE_BYTES)) base) offset length =
        load base offset length := by
      refine load_congr fun i hi => ?_
      have hpage : ¬(offset + i) / STORAGE_PAGE_BYTES < offset / STORAGE_PAGE_BYTES :=
        Nat.not_lt.mpr (Nat.div_le_div_right (by omega))
      simp only [view, pages_below, hpage, if_false, Option.bind_none, Option.getD_none]
    have hfinal : load (view STORAGE_PAGE_BYTES (pages_below pages
        (offset / STORAGE_PAGE_BYTES + page_count offset (offset + length))) base) offset length =
          load (shown pages base) offset length := by
      refine load_congr fun i hi => ?_
      have hdiv : (offset + i) / STORAGE_PAGE_BYTES ≤ (offset + length - 1) / STORAGE_PAGE_BYTES :=
        Nat.div_le_div_right (by omega)
      have hpage : (offset + i) / STORAGE_PAGE_BYTES <
          offset / STORAGE_PAGE_BYTES + page_count offset (offset + length) := by
        unfold page_count
        omega
      simp only [shown, view, pages_below, hpage, if_true]
    rw [hsize, hfirst, hfinal] at hspec
    simp only [hnonempty, Bool.false_eq_true, if_false, load_length, hsum, hspec]

end Overlay

/-! ## Writes -/

section Write

variable {σ : Type} {read_base_page : σ → Nat → Nat → Except IoError (List U8) × σ} {kept : σ → Prop}
variable {base memory : Nat → U8} {size_bytes offset : Nat} {data : List U8}
variable {pages : BTreeMap Nat (List U8)}

/-- A completed read delivers the base, and no read of the base changes it. -/
def DeliversBase (read_base_page : σ → Nat → Nat → Except IoError (List U8) × σ) (kept : σ → Prop)
    (base : Nat → U8) : Prop :=
  ∀ state offset length, kept state →
    kept (read_base_page state offset length).2 ∧
      ∀ bytes, (read_base_page state offset length).1 = .ok bytes → bytes = load base offset length

/-- What a write leaves behind: valid pages that show a prefix of its data laid
over what they showed before, all of it unless a base read failed. -/
structure PrefixWritten (read_base_page : σ → Nat → Nat → Except IoError (List U8) × σ) (kept : σ → Prop)
    (base memory : Nat → U8) (size_bytes offset : Nat) (data : List U8)
    (outcome : Except IoError Unit × BTreeMap Nat (List U8) × σ) : Prop where
  base_kept : kept outcome.2.2
  valid : PagesValid size_bytes outcome.2.1
  written : ∃ count ≤ data.length, shown outcome.2.1 base = store memory offset (data.take count) ∧
    (outcome.1 = .ok () → count = data.length)
  failed : ∀ error, outcome.1 = .error error →
    ∃ state page_offset page_length, kept state ∧ page_offset + page_length ≤ size_bytes ∧
      (read_base_page state page_offset page_length).1 = .error error

theorem shown_insert (page_index : Nat) (page : List U8) :
    shown (pages.insert page_index page) base =
      view STORAGE_PAGE_BYTES (fun i => if i = page_index then some page else pages[i]?) base := by
  unfold shown
  congr 1
  funext i
  rw [Std.ExtTreeMap.getElem?_insert]
  by_cases hindex : i = page_index
  · rw [if_pos hindex, if_pos (Std.LawfulEqOrd.compare_eq_iff_eq.mpr hindex.symm)]
  · rw [if_neg hindex, if_neg fun h => hindex (Std.LawfulEqOrd.compare_eq_iff_eq.mp h).symm]

theorem PagesValid.insert {page_index : Nat} {page : List U8} (hvalid : PagesValid size_bytes pages)
    (hpage : validate_cow_page page_index page.length size_bytes = .ok ()) :
    PagesValid size_bytes (pages.insert page_index page) := by
  intro i found hfound
  rw [Std.ExtTreeMap.getElem?_insert] at hfound
  split at hfound
  · rename_i hindex
    cases hfound
    rw [← Std.LawfulEqOrd.compare_eq_iff_eq.mp hindex]
    exact hpage
  · exact hvalid i found hfound

/-- A page taken from the overlay or freshly read shows what the resource shows. -/
theorem page_shows {page_index : Nat} {page : List U8} (hread : pages[page_index]? = some page ∨
    pages[page_index]? = none ∧ page = load base (page_index * STORAGE_PAGE_BYTES) page.length) :
    ∀ j < STORAGE_PAGE_BYTES, (page[j]?).getD (base (page_index * STORAGE_PAGE_BYTES + j)) =
      shown pages base (page_index * STORAGE_PAGE_BYTES + j) := by
  intro j hj
  rw [shown, view_at (by decide) hj]
  rcases hread with hpage | ⟨hnone, hload⟩
  · rw [hpage, Option.bind_some]
  · rw [hnone, Option.bind_none, Option.getD_none]
    by_cases hlength : j < page.length
    · rw [hload, load_getElem? hlength, Option.getD_some]
    · rw [List.getElem?_eq_none (by omega), Option.getD_none]

/-- The number of data bytes that fall on the pages before one. -/
def bytes_before (offset : Nat) (data : List U8) (page_index : Nat) : Nat :=
  min (page_index * STORAGE_PAGE_BYTES - offset) data.length

/-- Writing the data bytes of one page extends the written prefix by them. -/
theorem shown_write_page {page_index : Nat} {page : List U8}
    (hinside : offset + data.length ≤ size_bytes)
    (hstart : page_index * STORAGE_PAGE_BYTES < offset + data.length)
    (hend : offset < (page_index + 1) * STORAGE_PAGE_BYTES)
    (hlength : page.length = min (size_bytes - page_index * STORAGE_PAGE_BYTES) STORAGE_PAGE_BYTES)
    (hshows : ∀ j < STORAGE_PAGE_BYTES, (page[j]?).getD (base (page_index * STORAGE_PAGE_BYTES + j)) =
      shown pages base (page_index * STORAGE_PAGE_BYTES + j))
    (hbefore : shown pages base = store memory offset (data.take (bytes_before offset data page_index))) :
    let write_start := max offset (page_index * STORAGE_PAGE_BYTES)
    let write_end := min (offset + data.length) (page_index * STORAGE_PAGE_BYTES + page.length)
    let bytes := (data.drop (write_start - offset)).take (write_end - write_start)
    let page' := splice page (write_start - page_index * STORAGE_PAGE_BYTES) bytes
    page'.length = page.length ∧ shown (pages.insert page_index page') base =
      store memory offset (data.take (bytes_before offset data (page_index + 1))) := by
  intro write_start write_end bytes page'
  have hsucc : (page_index + 1) * STORAGE_PAGE_BYTES = page_index * STORAGE_PAGE_BYTES + STORAGE_PAGE_BYTES :=
    Nat.succ_mul page_index STORAGE_PAGE_BYTES
  rw [hsucc] at hend
  have hbytes : bytes.length = write_end - write_start := by
    rw [List.length_take, List.length_drop]
    omega
  have hfit : write_start - page_index * STORAGE_PAGE_BYTES + bytes.length ≤ page.length := by omega
  refine ⟨splice_length hfit, ?_⟩
  have hcell : page_index * STORAGE_PAGE_BYTES + (write_start - page_index * STORAGE_PAGE_BYTES) = write_start := by
    omega
  have hdone : write_start = offset + (data.take (bytes_before offset data page_index)).length := by
    rw [List.length_take]
    unfold bytes_before
    omega
  have htaken : data.take (bytes_before offset data page_index) ++ bytes =
      data.take (bytes_before offset data (page_index + 1)) := by
    have hdrop : write_start - offset = bytes_before offset data page_index := by
      unfold bytes_before
      omega
    have htotal : bytes_before offset data page_index + (write_end - write_start) =
        bytes_before offset data (page_index + 1) := by
      unfold bytes_before
      rw [hsucc]
      omega
    rw [← htotal, List.take_add, ← hdrop]
  calc shown (pages.insert page_index page') base
      = store (shown pages base) write_start bytes := by
        rw [shown_insert, view_splice (by decide) (by omega) hfit hshows, hcell, shown]
    _ = store memory offset (data.take (bytes_before offset data page_index) ++ bytes) := by
        rw [hbefore, hdone, store_store]
    _ = store memory offset (data.take (bytes_before offset data (page_index + 1))) := by rw [htaken]

/-- The loop over the pages of a write; the pages before `page_index` are done. -/
theorem write_pages_spec (hbase : DeliversBase read_base_page kept base)
    (hfits : offset + data.length ≤ U64_MAX) (hinside : offset + data.length ≤ size_bytes)
    (hdata : 0 < data.length) (remaining page_index : Nat)
    (hfirst : offset / STORAGE_PAGE_BYTES ≤ page_index)
    (hlast : page_index + remaining = (offset + data.length - 1) / STORAGE_PAGE_BYTES + 1)
    (state : σ) (hkept : kept state) (hvalid : PagesValid size_bytes pages)
    (hbefore : shown pages base = store memory offset (data.take (bytes_before offset data page_index))) :
    PrefixWritten read_base_page kept base memory size_bytes offset data
      (write_pages read_base_page size_bytes offset (offset + data.length) data remaining page_index pages state) := by
  induction remaining generalizing page_index pages state with
  | zero =>
    have hall : bytes_before offset data page_index = data.length := by
      have hdiv : (offset + data.length - 1) / STORAGE_PAGE_BYTES < page_index :=
        Nat.lt_of_lt_of_eq (Nat.lt_succ_self _) hlast.symm
      have hmul := (Nat.div_lt_iff_lt_mul (by decide)).mp hdiv
      unfold bytes_before
      omega
    rw [hall] at hbefore
    exact ⟨hkept, hvalid, ⟨data.length, Nat.le_refl _, hbefore, fun _ => rfl⟩, fun _ h => by cases h⟩
  | succ remaining ih =>
    have hstart : page_index * STORAGE_PAGE_BYTES < offset + data.length := by
      have hle : page_index ≤ (offset + data.length - 1) / STORAGE_PAGE_BYTES := by omega
      have hmul := (Nat.le_div_iff_mul_le (by decide)).mp hle
      omega
    have hend : offset < (page_index + 1) * STORAGE_PAGE_BYTES :=
      (Nat.div_lt_iff_lt_mul (by decide)).mp (by omega)
    -- with the page in hand the write of the page extends the prefix and the loop goes on
    have hwrite : ∀ page state', kept state' →
        page.length = min (size_bytes - page_index * STORAGE_PAGE_BYTES) STORAGE_PAGE_BYTES →
        (pages[page_index]? = some page ∨
          pages[page_index]? = none ∧ page = load base (page_index * STORAGE_PAGE_BYTES) page.length) →
        PrefixWritten read_base_page kept base memory size_bytes offset data
          (write_pages read_base_page size_bytes offset (offset + data.length) data remaining (page_index + 1)
            (pages.insert page_index (splice page
              (max offset (page_index * STORAGE_PAGE_BYTES) - page_index * STORAGE_PAGE_BYTES)
              ((data.drop (max offset (page_index * STORAGE_PAGE_BYTES) - offset)).take
                (min (offset + data.length) (page_index * STORAGE_PAGE_BYTES + page.length) -
                  max offset (page_index * STORAGE_PAGE_BYTES))))) state') := by
      intro page state' hkept' hlength hread
      obtain ⟨hlength', hshown⟩ := shown_write_page hinside hstart hend hlength (page_shows hread) hbefore
      refine ih (page_index + 1) (by omega) (by omega) state' hkept' (hvalid.insert ?_) hshown
      rw [hlength', validate_cow_page_iff]
      exact ⟨by omega, by omega, hlength⟩
    rw [write_pages]
    cases hpage : pages[page_index]? with
    | some page =>
      obtain ⟨_, _, hlength⟩ := validate_cow_page_iff.mp (hvalid page_index page hpage)
      have hcopy : min (offset + data.length) (page_index * STORAGE_PAGE_BYTES + page.length) =
          min (offset + data.length) (page_index * STORAGE_PAGE_BYTES +
            min (size_bytes - page_index * STORAGE_PAGE_BYTES) STORAGE_PAGE_BYTES) := by rw [hlength]
      have hgoal := hwrite page state hkept hlength (.inl hpage)
      rw [hcopy] at hgoal
      exact hgoal
    | none =>
      obtain ⟨hkept', hdelivers⟩ := hbase state (page_index * STORAGE_PAGE_BYTES)
        (min (size_bytes - page_index * STORAGE_PAGE_BYTES) STORAGE_PAGE_BYTES) hkept
      cases hread : read_base_page state (page_index * STORAGE_PAGE_BYTES)
        (min (size_bytes - page_index * STORAGE_PAGE_BYTES) STORAGE_PAGE_BYTES) with
      | mk result state' =>
        rw [hread] at hkept' hdelivers
        cases result with
        | error error =>
          refine ⟨hkept', hvalid, ⟨_, Nat.min_le_right _ _, hbefore, fun h => by cases h⟩, fun _ h => ?_⟩
          cases h
          exact ⟨state, _, _, hkept, by omega, congrArg Prod.fst hread⟩
        | ok page =>
          have hload := hdelivers page rfl
          have hlength : page.length =
              min (size_bytes - page_index * STORAGE_PAGE_BYTES) STORAGE_PAGE_BYTES := by
            rw [hload, load_length]
          have hgoal := hwrite page state' hkept' hlength (.inr ⟨hpage, by rw [hlength]; exact hload⟩)
          rw [hlength] at hgoal
          exact hgoal

/-! ## The pages of all resources -/

/-- Every page of every resource has the shape a snapshot demands of it. -/
def CowPagesValid (size_bytes : ResourceId → Nat) (all_pages : CowPages) : Prop :=
  ∀ resource, PagesValid (size_bytes resource) (pages_of all_pages resource)

theorem pages_of_empty (resource : ResourceId) : pages_of ∅ resource = ∅ := by
  rw [pages_of, Std.ExtTreeMap.getElem?_empty, Option.getD_none]

theorem pages_of_insert (all_pages : CowPages) (resource : ResourceId) (pages : BTreeMap Nat (List U8)) :
    pages_of (all_pages.insert resource pages) = Function.update (pages_of all_pages) resource pages := by
  funext other
  unfold pages_of
  rw [Std.ExtTreeMap.getElem?_insert]
  by_cases hsame : other = resource
  · rw [if_pos (Std.LawfulEqOrd.compare_eq_iff_eq.mpr hsame.symm), hsame, Function.update_self, Option.getD_some]
  · rw [if_neg fun h => hsame (Std.LawfulEqOrd.compare_eq_iff_eq.mp h).symm, Function.update_of_ne hsame]

/-- A write past the checks, from the first page of its range to the last. -/
theorem write_cow_pages_spec (hbase : DeliversBase read_base_page kept base)
    (hfits : offset + data.length ≤ U64_MAX) (hinside : offset + data.length ≤ size_bytes)
    (hdata : data.isEmpty = false) (all_pages : CowPages) (resource : ResourceId) (state : σ) (hkept : kept state)
    (hvalid : PagesValid size_bytes (pages_of all_pages resource)) :
    ∃ pages', (write_cow_pages read_base_page all_pages resource offset data size_bytes state).2.1 =
        all_pages.insert resource pages' ∧
      PrefixWritten read_base_page kept base (shown (pages_of all_pages resource) base) size_bytes offset data
        ((write_cow_pages read_base_page all_pages resource offset data size_bytes state).1, pages',
          (write_cow_pages read_base_page all_pages resource offset data size_bytes state).2.2) := by
  have hlength : 0 < data.length := by
    rw [List.length_pos_iff]
    exact List.isEmpty_eq_false_iff.mp hdata
  have hle : offset / STORAGE_PAGE_BYTES ≤ (offset + data.length - 1) / STORAGE_PAGE_BYTES :=
    Nat.div_le_div_right (by omega)
  have hnothing : bytes_before offset data (offset / STORAGE_PAGE_BYTES) = 0 := by
    have hmul := Nat.div_mul_le_self offset STORAGE_PAGE_BYTES
    unfold bytes_before
    omega
  have hbefore : shown (pages_of all_pages resource) base = store (shown (pages_of all_pages resource) base) offset
      (data.take (bytes_before offset data (offset / STORAGE_PAGE_BYTES))) := by
    rw [hnothing, List.take_zero, store_nil]
  have hspec := write_pages_spec hbase hfits hinside hlength (page_count offset (offset + data.length))
    (offset / STORAGE_PAGE_BYTES) (Nat.le_refl _) (by unfold page_count; omega) state hkept hvalid hbefore
  exact ⟨_, rfl, hspec⟩

end Write

end se_runtime.record
