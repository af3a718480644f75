import Mathlib.Tactic.IntervalCases
import SgiEmu.Library.Generation
import SgiEmu.R3000.Mmu

open se_core Library.Generation

namespace se_cpu.mmu

/-- The virtual page packed into a lookup key. -/
def key_page (key : U32) : U32 := key <<< 12

/-- The address space packed into a lookup key. -/
def key_asid (key : U32) : U32 := (key >>> 14) &&& ENTRY_HI_ASID_MASK

/-- A page and address space that the lookup key packs without loss. -/
structure Packed (virtual_page asid : U32) : Prop where
  page : key_page (lookup_key virtual_page asid) = virtual_page
  asid : key_asid (lookup_key virtual_page asid) = asid

/-- A page-aligned address and a positioned ASID, as every translation masks
them before the lookup, fill disjoint bits of the key. -/
theorem packed_of_masks (address asid : U32) :
    Packed (address &&& ENTRY_HI_VPN_MASK) (asid &&& ENTRY_HI_ASID_MASK) where
  page := by
    unfold key_page lookup_key ENTRY_HI_VPN_MASK ENTRY_HI_ASID_MASK
    ext i hi
    interval_cases i <;> simp
  asid := by
    unfold key_asid lookup_key ENTRY_HI_VPN_MASK ENTRY_HI_ASID_MASK
    ext i hi
    interval_cases i <;> simp

/-- A probe result that names a slot of the translation buffer, if any. -/
def ProbeResult.InRange : ProbeResult → Prop
  | .Match index => index < TLB_ENTRY_COUNT
  | .Miss | .Shutdown => True

theorem match_entries_from_inRange (entries : TlbEntries) (virtual_page asid : U32)
    (pending : List (TlbEntry × Nat)) (matching_index : Option Nat)
    (hpending : ∀ slot ∈ pending, slot.2 < TLB_ENTRY_COUNT)
    (hmatching : ∀ index ∈ matching_index, index < TLB_ENTRY_COUNT) :
    (match_entries_from entries virtual_page asid pending matching_index).InRange := by
  induction pending generalizing matching_index with
  | nil =>
    cases matching_index with
    | none => trivial
    | some index => exact hmatching index rfl
  | cons slot rest ih =>
    obtain ⟨hslot, hrest⟩ := List.forall_mem_cons.mp hpending
    unfold match_entries_from
    split
    · cases matching_index with
      | none =>
        exact ih (some slot.2) hrest (by simpa using hslot)
      | some first =>
        dsimp only
        split
        · trivial
        · exact ih (some first) hrest hmatching
    · exact ih matching_index hrest hmatching

theorem match_entries_inRange (entries : TlbEntries) (virtual_page asid : U32) :
    (match_entries entries virtual_page asid).InRange := by
  apply match_entries_from_inRange
  · intro slot hslot
    have hindex := List.snd_lt_of_mem_zipIdx hslot
    simpa using hindex
  · simp

/-- Storing a slot number in one byte loses nothing. -/
theorem ProbeResult.InRange.probe_result_from {result : ProbeResult} (h : result.InRange) :
    (CachedProbeResult.from_probe_result result).probe_result = result := by
  cases result with
  | Miss => rfl
  | Shutdown => rfl
  | Match index =>
    have hindex : index < 64 := h
    simp only [CachedProbeResult.from_probe_result, CachedProbeResult.probe_result, BitVec.toNat_ofNat]
    rw [Nat.mod_eq_of_lt (by omega)]

/-- What the lookup cache memoises for one view of the translation buffer. -/
def verdict (entries : TlbEntries) (key : U32) : CachedProbeResult :=
  .from_probe_result (match_entries entries (key_page key) (key_asid key))

theorem Packed.verdict_lookup_key {virtual_page asid : U32} (h : Packed virtual_page asid)
    (entries : TlbEntries) :
    verdict entries (lookup_key virtual_page asid) =
      .from_probe_result (match_entries entries virtual_page asid) := by
  rw [verdict, h.page, h.asid]

theorem Packed.probe_result_verdict {virtual_page asid : U32} (h : Packed virtual_page asid)
    (entries : TlbEntries) :
    (verdict entries (lookup_key virtual_page asid)).probe_result =
      match_entries entries virtual_page asid := by
  rw [h.verdict_lookup_key]
  exact (match_entries_inRange entries _ _).probe_result_from

/-- A stored lookup is consultable at `generation` for the view `entries`. -/
def CachedLookup.FreshFor (lookup : CachedLookup) (generation : U32) (entries : TlbEntries) : Prop :=
  Fresh (verdict entries) generation.toNat lookup.generation.toNat lookup.key lookup.result

theorem CachedLookup.FreshFor.result_of_matches {lookup : CachedLookup} {generation key : U32}
    {entries : TlbEntries} (h : lookup.FreshFor generation entries)
    (hmatches : lookup.matches generation key = true) : lookup.result = verdict entries key := by
  simp only [CachedLookup.matches, Bool.and_eq_true, beq_iff_eq] at hmatches
  obtain ⟨hgeneration, hkey⟩ := hmatches
  rw [← hkey]
  exact Fresh.hit h (by rw [hgeneration])

theorem CachedLookup.freshFor_empty {generation : U32} (entries : TlbEntries)
    (hpositive : 0 < generation.toNat) : CachedLookup.EMPTY.FreshFor generation entries :=
  fresh_of_lt (by simpa [CachedLookup.EMPTY] using hpositive)

/-- Every slot of the cache, the hot one included, agrees with `entries`
wherever it still matches. The generation never returns to the value that
marks an empty slot. -/
structure TlbLookupCache.Sound (cache : TlbLookupCache) (entries : TlbEntries) : Prop where
  positive : 0 < cache.generation.toNat
  hot : cache.hot.FreshFor cache.generation entries
  slots : ∀ index (h : index < TLB_LOOKUP_CACHE_ENTRY_COUNT),
    cache.entries[index].FreshFor cache.generation entries

theorem TlbLookupCache.sound_empty {generation : U32} (entries : TlbEntries)
    (hpositive : 0 < generation.toNat) :
    TlbLookupCache.Sound
      { generation, hot := .EMPTY, entries := Vector.replicate _ .EMPTY } entries where
  positive := hpositive
  hot := CachedLookup.freshFor_empty entries hpositive
  slots index h := by
    rw [Vector.getElem_replicate]
    exact CachedLookup.freshFor_empty entries hpositive

theorem TlbLookupCache.sound_new (entries : TlbEntries) : TlbLookupCache.new.Sound entries :=
  sound_empty entries (by decide)

/-- After an invalidation the cache is sound for any view whatsoever, also
when the generation counter wraps. -/
theorem TlbLookupCache.Sound.invalidate {cache : TlbLookupCache} {old : TlbEntries}
    (h : cache.Sound old) (entries : TlbEntries) : cache.invalidate.Sound entries := by
  unfold TlbLookupCache.invalidate
  cases hadd : checked_add cache.generation 1 with
  | none => exact sound_empty entries (by decide)
  | some generation =>
    have hnext : generation.toNat = cache.generation.toNat + 1 := by
      simpa using checked_add_eq_some hadd
    have hlater : cache.generation.toNat < generation.toNat := by omega
    exact
      { positive := by change 0 < generation.toNat; omega
        hot := Fresh.expire h.hot hlater
        slots := fun index hindex => Fresh.expire (h.slots index hindex) hlater }

theorem TlbLookupCache.Sound.entries_getElem! {cache : TlbLookupCache} {entries : TlbEntries}
    (h : cache.Sound entries) (index : Nat) :
    cache.entries[index]!.FreshFor cache.generation entries := by
  by_cases hindex : index < TLB_LOOKUP_CACHE_ENTRY_COUNT
  · rw [getElem!_pos cache.entries index hindex]
    exact h.slots index hindex
  · rw [getElem!_neg cache.entries index hindex]
    exact CachedLookup.freshFor_empty entries h.positive

theorem TlbLookupCache.Sound.with_hot {cache : TlbLookupCache} {entries : TlbEntries}
    (h : cache.Sound entries) {cached : CachedLookup}
    (hcached : cached.FreshFor cache.generation entries) :
    TlbLookupCache.Sound { cache with hot := cached } entries where
  positive := h.positive
  hot := hcached
  slots := h.slots

theorem TlbLookupCache.Sound.fill {cache : TlbLookupCache} {entries : TlbEntries}
    (h : cache.Sound entries) (index : Nat) {cached : CachedLookup}
    (hcached : cached.FreshFor cache.generation entries) :
    TlbLookupCache.Sound
      { cache with hot := cached, entries := cache.entries.setIfInBounds index cached } entries where
  positive := h.positive
  hot := hcached
  slots := by
    intro slot hslot
    dsimp only
    rw [Vector.getElem_setIfInBounds]
    split
    · exact hcached
    · exact h.slots slot hslot

/-- What a full scan answers may be stored at any generation of the view it
scanned. -/
theorem Packed.freshFor_scan {virtual_page asid : U32} (h : Packed virtual_page asid)
    (generation : U32) (entries : TlbEntries) :
    CachedLookup.FreshFor
      { generation
        key := lookup_key virtual_page asid
        result := .from_probe_result (match_entries entries virtual_page asid) } generation entries := by
  have hstored := fresh_insert (verdict entries) generation.toNat (lookup_key virtual_page asid)
  rwa [h.verdict_lookup_key] at hstored

/-- A lookup through the hot entry and the hashed slots answers what the
linear scan answers, and leaves the cache sound. -/
theorem TlbLookupCache.Sound.resolve {cache : TlbLookupCache} {entries : TlbEntries}
    (h : cache.Sound entries) {virtual_page asid : U32} (hpacked : Packed virtual_page asid) :
    (cache.resolve entries virtual_page asid).1 = match_entries entries virtual_page asid ∧
      (cache.resolve entries virtual_page asid).2.Sound entries := by
  have hprobe := hpacked.probe_result_verdict entries
  have hslot := h.entries_getElem! (lookup_cache_index (lookup_key virtual_page asid))
  unfold TlbLookupCache.resolve
  dsimp only
  split
  · rename_i hhot
    exact ⟨by rw [h.hot.result_of_matches hhot, hprobe], h⟩
  · split
    · rename_i hcached
      exact ⟨by rw [hslot.result_of_matches hcached, hprobe], h.with_hot hslot⟩
    · exact ⟨rfl, h.fill _ (hpacked.freshFor_scan _ _)⟩

end se_cpu.mmu
