import SgiEmu.R3000.Cache.Geometry

open se_core se_core.bus Library.ByteMemory

namespace se_cpu.cache

variable {β : Type}

namespace Cache

/-- The entry a word indexes carries its tag. -/
def Hits (cache : Cache) (word_address : U32) : Prop :=
  cache.entries[cache.index word_address]!.valid = true ∧
    cache.entries[cache.index word_address]!.page_frame = page_frame word_address

/-- Every word that hits reads as the memory behind the bus. -/
structure Mirrors (cache : Cache) (memory : Nat → U8) : Prop where
  geometry : cache.Geometry
  words : ∀ word_address : U32, word_address.toNat % 4 = 0 → cache.Hits word_address →
    cache.entries[cache.index word_address]!.data = word_at memory word_address

/-! ## Single entries -/

theorem set_entry_index (cache : Cache) (index : Nat) (entry : CacheEntry) (word_address : U32) :
    (cache.set_entry index entry).index word_address = cache.index word_address := by
  simp only [Cache.index, set_entry, Array.size_setIfInBounds]

theorem set_entry_geometry {cache : Cache} (h : cache.Geometry) (index : Nat) (entry : CacheEntry) :
    (cache.set_entry index entry).Geometry where
  size := by
    obtain ⟨k, hk, hsize⟩ := h.size
    exact ⟨k, hk, by rw [set_entry, Array.size_setIfInBounds, hsize]⟩
  refill := h.refill

theorem set_entry_same {cache : Cache} {index : Nat} (hindex : index < cache.entries.size)
    (entry : CacheEntry) : (cache.set_entry index entry).entries[index]! = entry := by
  have hsize : index < (cache.entries.setIfInBounds index entry).size := by
    rwa [Array.size_setIfInBounds]
  show (cache.entries.setIfInBounds index entry)[index]! = entry
  rw [getElem!_pos (cache.entries.setIfInBounds index entry) index hsize, Array.getElem_setIfInBounds_self]

theorem set_entry_other {cache : Cache} {index index' : Nat} (hne : index' ≠ index) (entry : CacheEntry) :
    (cache.set_entry index entry).entries[index']! = cache.entries[index']! := by
  simp only [set_entry, Array.getElem!_eq_getD, Array.getD_eq_getD_getElem?,
    Array.getElem?_setIfInBounds_ne hne.symm]

/-- Replacing the entry of one word keeps the mirror when the new entry holds
that word or nothing, and no other word moved in memory. -/
theorem Mirrors.set_entry {cache : Cache} {memory memory' : Nat → U8} (h : cache.Mirrors memory)
    {word_address : U32} (haligned : word_address.toNat % 4 = 0) {entry : CacheEntry}
    (hentry : entry.valid = true →
      entry.page_frame = page_frame word_address ∧ entry.data = word_at memory' word_address)
    (hframe : ∀ other : U32, other.toNat % 4 = 0 → other ≠ word_address →
      word_at memory' other = word_at memory other) :
    (cache.set_entry (cache.index word_address) entry).Mirrors memory' := by
  refine ⟨set_entry_geometry h.geometry _ _, fun other hother hhit => ?_⟩
  unfold Hits at hhit
  rw [set_entry_index] at hhit ⊢
  by_cases hindex : cache.index other = cache.index word_address
  · rw [hindex, set_entry_same (h.geometry.index_lt word_address)] at hhit ⊢
    obtain ⟨hvalid, htag⟩ := hhit
    obtain ⟨hpage, hdata⟩ := hentry hvalid
    have hsame : other = word_address :=
      h.geometry.word_eq hother haligned hindex (htag.symm.trans hpage)
    rw [hdata, hsame]
  · rw [set_entry_other hindex] at hhit ⊢
    have hne : other ≠ word_address := fun heq => hindex (by rw [heq])
    rw [hframe other hother hne]
    exact h.words other hother hhit

/-- A word that misses may change in memory without touching the bank. -/
theorem Mirrors.frame_of_miss {cache : Cache} {memory memory' : Nat → U8} (h : cache.Mirrors memory)
    {word_address : U32} (hmiss : ¬cache.Hits word_address)
    (hframe : ∀ other : U32, other.toNat % 4 = 0 → other ≠ word_address →
      word_at memory' other = word_at memory other) : cache.Mirrors memory' := by
  refine ⟨h.geometry, fun other hother hhit => ?_⟩
  have hne : other ≠ word_address := fun heq => hmiss (heq ▸ hhit)
  rw [hframe other hother hne]
  exact h.words other hother hhit

/-! ## Refills -/

/-- The words a refill asks for, as the memory holds them. -/
def refill_words (memory : Nat → U8) (refill_base : U32) (word_index remaining : Nat) :
    List (Vector U8 WORD_BYTES) :=
  (List.range' word_index remaining).map fun j =>
    word_at memory (refill_base + BitVec.ofNat 32 (j * WORD_BYTES))

/-- Reading a refill never moves the memory, and yields its words when no access fails. -/
theorem read_refill_spec {bus : PhysicalBus β} {memory : β → Nat → U8} (hbus : bus.Bytewise memory)
    (refill_base : U32) (remaining word_index : Nat) (bus_state : β) :
    memory (read_refill bus refill_base remaining word_index bus_state).2 = memory bus_state ∧
      ∀ words, (read_refill bus refill_base remaining word_index bus_state).1 = .ok words →
        words = refill_words (memory bus_state) refill_base word_index remaining := by
  induction remaining generalizing word_index bus_state with
  | zero =>
    refine ⟨rfl, fun words hwords => ?_⟩
    cases hwords
    rfl
  | succ remaining ih =>
    let address : PhysAddr := ⟨(refill_base + BitVec.ofNat 32 (word_index * WORD_BYTES)).toNat⟩
    have hmemory := hbus.read_memory bus_state address WORD_BYTES
    have hdata := hbus.read_data bus_state address WORD_BYTES
    simp only [read_refill]
    cases hread : bus.read bus_state address WORD_BYTES with
    | mk result after =>
      rw [hread] at hmemory hdata
      cases result with
      | error fault => exact ⟨hmemory, fun words hwords => by cases hwords⟩
      | ok word =>
        obtain ⟨hrest, hwords⟩ := ih (word_index + 1) after
        have hword : word = word_at (memory bus_state) (refill_base + BitVec.ofNat 32 (word_index * WORD_BYTES)) := by
          refine Vector.ext fun i hi => ?_
          simp only [word_at, Vector.getElem_ofFn]
          exact hdata word rfl ⟨i, hi⟩
        cases hrefill : read_refill bus refill_base remaining (word_index + 1) after with
        | mk result last =>
          simp only [hrefill] at hrest hwords ⊢
          cases result with
          | error fault => exact ⟨hrest.trans hmemory, fun words hresult => by cases hresult⟩
          | ok words =>
            refine ⟨hrest.trans hmemory, fun all hall => ?_⟩
            cases hall
            rw [hwords words rfl, hword, hmemory]
            rfl

/-- Installing a refill keeps the mirror, keeps every tag of its page, and tags
each of its words. -/
theorem Mirrors.install_refill {memory : Nat → U8} {refill_base frame : U32} (remaining word_index : Nat)
    {cache : Cache} (h : cache.Mirrors memory)
    (hwords : ∀ j, word_index ≤ j → j < word_index + remaining →
      (refill_base + BitVec.ofNat 32 (j * WORD_BYTES)).toNat % 4 = 0 ∧
        page_frame (refill_base + BitVec.ofNat 32 (j * WORD_BYTES)) = frame) :
    let after := Cache.install_refill refill_base (refill_words memory refill_base word_index remaining) word_index cache
    after.Mirrors memory ∧ (∀ word_address, after.index word_address = cache.index word_address) ∧
      (∀ word_address, page_frame word_address = frame → cache.Hits word_address → after.Hits word_address) ∧
      ∀ j, word_index ≤ j → j < word_index + remaining →
        after.Hits (refill_base + BitVec.ofNat 32 (j * WORD_BYTES)) := by
  induction remaining generalizing word_index cache with
  | zero => exact ⟨h, fun _ => rfl, fun _ _ hhit => hhit, fun j hlow hhigh => by omega⟩
  | succ remaining ih =>
    intro after
    let word := refill_base + BitVec.ofNat 32 (word_index * WORD_BYTES)
    obtain ⟨haligned, hframe⟩ := hwords word_index (Nat.le_refl _) (by omega)
    let entry : CacheEntry := { page_frame := page_frame word, data := word_at memory word, valid := true }
    have hinstalled : (cache.set_entry (cache.index word) entry).Mirrors memory :=
      h.set_entry haligned (fun _ => ⟨rfl, rfl⟩) fun _ _ _ => rfl
    have hafter : after = Cache.install_refill refill_base
        (refill_words memory refill_base (word_index + 1) remaining) (word_index + 1)
        (cache.set_entry (cache.index word) entry) := rfl
    obtain ⟨hmirrors, hindex, hkeep, htagged⟩ :=
      ih (word_index + 1) hinstalled fun j hlow hhigh => hwords j (by omega) (by omega)
    rw [← hafter] at hmirrors hindex hkeep htagged
    have hset : ∀ other, page_frame other = frame → cache.Hits other ∨ other = word →
        (cache.set_entry (cache.index word) entry).Hits other := by
      intro other hpage hcase
      unfold Hits
      rw [set_entry_index]
      by_cases hsame : cache.index other = cache.index word
      · rw [hsame, set_entry_same (h.geometry.index_lt word)]
        exact ⟨rfl, hframe.trans hpage.symm⟩
      · rw [set_entry_other hsame]
        exact hcase.resolve_right fun heq => hsame (by rw [heq])
    refine ⟨hmirrors, fun other => ?_, fun other hpage hhit => hkeep other hpage (hset other hpage (.inl hhit)),
      fun j hlow hhigh => ?_⟩
    · rw [hindex, set_entry_index]
    · rcases Nat.eq_or_lt_of_le hlow with rfl | hlt
      · exact hkeep word hframe (hset word hframe (.inr rfl))
      · exact htagged j hlt (by omega)

/-! ## Reads -/

theorem copy_word_at {memory : Nat → U8} {address : PhysAddr} {word_address : U32} {offset length : Nat}
    (data : Vector U8 length) (hwithin : WithinWord address length)
    (hword : word_address.toNat = address.get / 4 * 4) (hoffset : offset = address.get % 4)
    (i : Fin length) :
    (copy_word_fragment data (word_at memory word_address) offset)[i] = memory (address.get + i) := by
  have hinside := hwithin.inside
  have hbound : offset + i.val < 4 := by
    have hi := i.isLt
    omega
  have hcell : word_address.toNat + (offset + i.val) = address.get + i.val := by omega
  simp only [copy_word_fragment, Fin.getElem_fin, Vector.getElem_ofFn]
  rw [getElem!_pos (word_at memory word_address) (offset + i.val) hbound]
  simp only [word_at, Vector.getElem_ofFn, hcell]

theorem read_of_hit {cache : Cache} {address : PhysAddr} {length : Nat} (data : Vector U8 length)
    (bus : PhysicalBus β) (bus_state : β) (hhit : cache.Hits (cache.access address).word_address) :
    cache.read address data bus bus_state =
      (.ok (), copy_word_fragment data
        cache.entries[cache.index (cache.access address).word_address]!.data
        (cache.access address).offset, cache, bus_state) :=
  if_pos hhit

theorem read_of_miss {cache : Cache} {address : PhysAddr} {length : Nat} (data : Vector U8 length)
    (bus : PhysicalBus β) (bus_state : β) (hmiss : ¬cache.Hits (cache.access address).word_address) :
    cache.read address data bus bus_state =
      match read_refill bus (cache.refill_base (cache.access address).word_address)
          (cache.refill_bytes / WORD_BYTES) 0 bus_state with
      | (.error fault, bus_state) => (.error fault, data, cache, bus_state)
      | (.ok words, bus_state) =>
        let after := install_refill (cache.refill_base (cache.access address).word_address) words 0 cache
        (.ok (), copy_word_fragment data
          after.entries[cache.index (cache.access address).word_address]!.data
          (cache.access address).offset, after, bus_state) :=
  if_neg hmiss

/-- A read either returns the bytes of the memory, or fails and leaves the bank
and the output buffer. The memory never moves. -/
theorem Mirrors.read {bus : PhysicalBus β} {memory : β → Nat → U8} (hbus : bus.Bytewise memory)
    {cache : Cache} {bus_state : β} (h : cache.Mirrors (memory bus_state)) {address : PhysAddr}
    {length : Nat} (data : Vector U8 length) (hwithin : WithinWord address length) :
    match cache.read address data bus bus_state with
    | (.ok (), output, after, bus_after) =>
      (∀ i : Fin length, output.get i = memory bus_state (address.get + i)) ∧
        after.Mirrors (memory bus_state) ∧ memory bus_after = memory bus_state
    | (.error _, output, after, bus_after) =>
      output = data ∧ after = cache ∧ memory bus_after = memory bus_state := by
  obtain ⟨hword, hoffset⟩ := cache.access_spec hwithin
  have haligned : (cache.access address).word_address.toNat % 4 = 0 := by omega
  by_cases hhit : cache.Hits (cache.access address).word_address
  · rw [read_of_hit data bus bus_state hhit, h.words _ haligned hhit]
    exact ⟨copy_word_at data hwithin hword hoffset, h, rfl⟩
  · rw [read_of_miss data bus bus_state hhit]
    obtain ⟨_, hblock, j, hj, hself⟩ := h.geometry.refill_base_spec _ haligned
    obtain ⟨hmemory, hwords⟩ := read_refill_spec hbus
      (cache.refill_base (cache.access address).word_address) (cache.refill_bytes / WORD_BYTES) 0 bus_state
    cases hrefill : read_refill bus (cache.refill_base (cache.access address).word_address)
        (cache.refill_bytes / WORD_BYTES) 0 bus_state with
    | mk result bus_after =>
      rw [hrefill] at hmemory hwords
      cases result with
      | error fault => exact ⟨rfl, rfl, hmemory⟩
      | ok words =>
        obtain ⟨hmirrors, hsame, _, htagged⟩ := h.install_refill (cache.refill_bytes / WORD_BYTES) 0
          fun j _ hj => hblock j (by omega)
        have hhit := htagged j (Nat.zero_le j) (by omega)
        rw [hself] at hhit
        have hdata := hmirrors.words _ haligned hhit
        rw [hsame] at hdata
        obtain rfl := hwords words rfl
        refine ⟨?_, hmirrors, hmemory⟩
        rw [hdata]
        exact copy_word_at data hwithin hword hoffset

/-! ## Writes -/

theorem merge_getElem (word : Vector U8 WORD_BYTES) (offset : Nat) (data : List U8) {i : Nat}
    (hi : i < WORD_BYTES) :
    (merge_word_fragment word offset data)[i] =
      if offset ≤ i ∧ i < offset + data.length then data[i - offset]! else word[i] := by
  simp only [merge_word_fragment, Vector.getElem_ofFn]
  rfl

/-- Storing a merged word is storing the fragment. -/
theorem store_merged {memory : Nat → U8} {address : PhysAddr} {word_address : U32} {offset : Nat}
    {data : List U8} (hwithin : WithinWord address data.length)
    (hword : word_address.toNat = address.get / 4 * 4) (hoffset : offset = address.get % 4) :
    store memory word_address.toNat (merge_word_fragment (word_at memory word_address) offset data).toList =
      store memory address.get data := by
  have hinside := hwithin.inside
  have hlength : (merge_word_fragment (word_at memory word_address) offset data).toList.length = 4 :=
    Vector.length_toList
  have hbyte : ∀ i (hi : i < 4), store memory word_address.toNat
      (merge_word_fragment (word_at memory word_address) offset data).toList (word_address.toNat + i) =
      if offset ≤ i ∧ i < offset + data.length then data[i - offset]! else memory (word_address.toNat + i) := by
    intro i hi
    rw [store_inside (by omega), Vector.getElem_toList, merge_getElem _ _ _ hi]
    simp only [word_at, Vector.getElem_ofFn]
  refine eq_store (fun i hi => ?_) fun cell hcell => ?_
  · have hcell : address.get + i = word_address.toNat + (offset + i) := by omega
    have hdrop : offset + i - offset = i := by omega
    rw [hcell, hbyte (offset + i) (by omega), if_pos (by omega), hdrop, getElem!_pos data i hi]
  · by_cases hin : word_address.toNat ≤ cell ∧ cell < word_address.toNat + 4
    · obtain ⟨i, rfl⟩ := Nat.exists_eq_add_of_le hin.1
      rw [hbyte i (by omega), if_neg (by omega)]
    · exact store_outside (by omega)

/-- A full-word store reads back as its data. -/
theorem word_at_store_full {memory : Nat → U8} {address : PhysAddr} {word_address : U32} {data : List U8}
    (hwithin : WithinWord address data.length) (hlength : data.length = WORD_BYTES)
    (hword : word_address.toNat = address.get / 4 * 4) :
    word_of_data data = word_at (store memory address.get data) word_address := by
  have hinside := hwithin.inside
  have hfour : data.length = 4 := hlength
  refine Vector.ext fun i hi => ?_
  have hi' : i < data.length := by
    rw [hlength]
    exact hi
  have hcell : word_address.toNat + i = address.get + i := by omega
  simp only [word_of_data, word_at, Vector.getElem_ofFn]
  rw [hcell, store_inside hi', getElem!_pos data i hi']

/-- A merged word reads back as the store of its fragment. -/
theorem word_at_store_merged {memory : Nat → U8} {address : PhysAddr} {word_address : U32} {offset : Nat}
    {data : List U8} (hwithin : WithinWord address data.length)
    (hword : word_address.toNat = address.get / 4 * 4) (hoffset : offset = address.get % 4) :
    merge_word_fragment (word_at memory word_address) offset data =
      word_at (store memory address.get data) word_address := by
  refine Vector.ext fun i hi => ?_
  have hlength : i < (merge_word_fragment (word_at memory word_address) offset data).toList.length := by
    rw [Vector.length_toList]
    exact hi
  simp only [word_at, Vector.getElem_ofFn]
  rw [← store_merged hwithin hword hoffset, store_inside hlength, Vector.getElem_toList]
  rfl

/-- The shape all three kinds of store share: one bus write, and a bank that is
replaced only when it succeeded. -/
def written (cache after : Cache) (bus : PhysicalBus β) (bus_state : β) (address : PhysAddr)
    (data : List U8) : Except BusError Unit × Cache × β :=
  match bus.write bus_state address data with
  | (.error fault, bus_state) => (.error fault, cache, bus_state)
  | (.ok (), bus_state) => (.ok (), after, bus_state)

theorem write_full {cache : Cache} {address : PhysAddr} {data : List U8} (partial_store_enabled : Bool)
    (bus : PhysicalBus β) (bus_state : β) (hlength : data.length = WORD_BYTES) :
    cache.write address data partial_store_enabled bus bus_state =
      written cache (cache.set_entry (cache.index (cache.access address).word_address)
        { page_frame := page_frame (cache.access address).word_address, data := word_of_data data, valid := true })
        bus bus_state address data :=
  if_pos hlength

theorem write_merge {cache : Cache} {address : PhysAddr} {data : List U8} {partial_store_enabled : Bool}
    (bus : PhysicalBus β) (bus_state : β) (hlength : data.length ≠ WORD_BYTES)
    (hmerge : partial_store_enabled = true ∧ cache.Hits (cache.access address).word_address) :
    cache.write address data partial_store_enabled bus bus_state =
      let word_address := (cache.access address).word_address
      let entry := cache.entries[cache.index word_address]!
      let merged := merge_word_fragment entry.data (cache.access address).offset data
      written cache (cache.set_entry (cache.index word_address) { entry with data := merged })
        bus bus_state ⟨word_address.toNat⟩ merged.toList :=
  (if_neg hlength).trans (if_pos hmerge)

theorem write_around {cache : Cache} {address : PhysAddr} {data : List U8} {partial_store_enabled : Bool}
    (bus : PhysicalBus β) (bus_state : β) (hlength : data.length ≠ WORD_BYTES)
    (hmerge : ¬(partial_store_enabled = true ∧ cache.Hits (cache.access address).word_address)) :
    cache.write address data partial_store_enabled bus bus_state =
      let word_address := (cache.access address).word_address
      let entry := cache.entries[cache.index word_address]!
      written cache
        (if partial_store_enabled then cache
          else cache.set_entry (cache.index word_address) { entry with valid := false })
        bus bus_state address data := by
  refine ((if_neg hlength).trans (if_neg hmerge)).trans ?_
  unfold written
  cases bus.write bus_state address data with
  | mk result bus_after =>
    cases result <;> cases partial_store_enabled <;> rfl

/-- A store through the bus either lands in memory, and then the replaced bank
must mirror it, or leaves bank and memory. -/
theorem written_spec {bus : PhysicalBus β} {memory : β → Nat → U8} (hbus : bus.Bytewise memory)
    {cache after : Cache} {bus_state : β} {stored : Nat → U8}
    (address : PhysAddr) (data : List U8) (hstored : store (memory bus_state) address.get data = stored)
    (hafter : ∀ memory', memory' = stored → after.Mirrors memory') :
    match written cache after bus bus_state address data with
    | (.ok (), after, bus_after) => memory bus_after = stored ∧ after.Mirrors (memory bus_after)
    | (.error _, after, bus_after) => after = cache ∧ memory bus_after = memory bus_state := by
  have hok := hbus.write_ok bus_state address data
  have herror := hbus.write_error bus_state address data
  unfold written
  cases hwrite : bus.write bus_state address data with
  | mk result bus_after =>
    rw [hwrite] at hok herror
    cases result with
    | error fault => exact ⟨rfl, herror fault rfl⟩
    | ok done =>
      have hmemory := (hok rfl).trans hstored
      exact ⟨hmemory, hafter _ hmemory⟩

/-- A write either stores exactly its data and keeps the mirror, or fails and
leaves the bank and the memory. -/
theorem Mirrors.write {bus : PhysicalBus β} {memory : β → Nat → U8} (hbus : bus.Bytewise memory)
    {cache : Cache} {bus_state : β} (h : cache.Mirrors (memory bus_state)) {address : PhysAddr}
    {data : List U8} (partial_store_enabled : Bool) (hwithin : WithinWord address data.length) :
    match cache.write address data partial_store_enabled bus bus_state with
    | (.ok (), after, bus_after) =>
      memory bus_after = store (memory bus_state) address.get data ∧ after.Mirrors (memory bus_after)
    | (.error _, after, bus_after) => after = cache ∧ memory bus_after = memory bus_state := by
  obtain ⟨hword, hoffset⟩ := cache.access_spec hwithin
  have haligned : (cache.access address).word_address.toNat % 4 = 0 := by omega
  have hframe : ∀ other : U32, other.toNat % 4 = 0 → other ≠ (cache.access address).word_address →
      word_at (store (memory bus_state) address.get data) other = word_at (memory bus_state) other := by
    intro other hother hne
    refine word_at_store_of_ne hwithin.inside hother fun heq => hne (BitVec.eq_of_toNat_eq ?_)
    rw [heq, hword]
  by_cases hlength : data.length = WORD_BYTES
  · rw [write_full partial_store_enabled bus bus_state hlength]
    exact written_spec hbus address data rfl fun memory' hmemory => by
      subst hmemory
      exact h.set_entry haligned (fun _ => ⟨rfl, word_at_store_full hwithin hlength hword⟩) hframe
  · by_cases hmerge : partial_store_enabled = true ∧ cache.Hits (cache.access address).word_address
    · rw [write_merge bus bus_state hlength hmerge]
      dsimp only
      rw [h.words _ haligned hmerge.2]
      exact written_spec hbus _ _ (store_merged hwithin hword hoffset) fun memory' hmemory => by
        subst hmemory
        exact h.set_entry haligned
          (fun _ => ⟨hmerge.2.2, word_at_store_merged hwithin hword hoffset⟩) hframe
    · rw [write_around bus bus_state hlength hmerge]
      refine written_spec hbus address data rfl fun memory' hmemory => ?_
      subst hmemory
      cases partial_store_enabled with
      | true =>
        -- the entry is not this word's, so it may stay
        exact h.frame_of_miss (fun hhit => hmerge ⟨rfl, hhit⟩) hframe
      | false => exact h.set_entry haligned (fun hvalid => by cases hvalid) hframe

/-! ## Runs -/

/-- An access a processor can make: the constraints the source asserts travel with it. -/
inductive Access where
  | read (address : PhysAddr) (length : Nat) (within : WithinWord address length)
  | write (address : PhysAddr) (data : List U8) (within : WithinWord address data.length)

/-- Performs one access, dropping what a read returns. -/
def perform (bus : PhysicalBus β) (partial_store_enabled : Bool) (state : Cache × β) : Access → Cache × β
  | .read address length _ =>
    (state.1.read address (Vector.replicate length 0) bus state.2).2.2
  | .write address data _ => (state.1.write address data partial_store_enabled bus state.2).2

theorem perform_mirrors {bus : PhysicalBus β} {memory : β → Nat → U8} (hbus : bus.Bytewise memory)
    (partial_store_enabled : Bool) (state : Cache × β) (access : Access)
    (h : state.1.Mirrors (memory state.2)) :
    (perform bus partial_store_enabled state access).1.Mirrors
      (memory (perform bus partial_store_enabled state access).2) := by
  cases access with
  | read address length hwithin =>
    have hread := h.read hbus (Vector.replicate length 0) hwithin
    split at hread
    case h_1 output after bus_after hresult =>
      simp only [perform, hresult]
      rw [hread.2.2]
      exact hread.2.1
    case h_2 fault output after bus_after hresult =>
      simp only [perform, hresult]
      rw [hread.2.2, hread.2.1]
      exact h
  | write address data hwithin =>
    have hwrite := h.write hbus partial_store_enabled hwithin
    split at hwrite
    case h_1 after bus_after hresult =>
      simp only [perform, hresult]
      exact hwrite.2
    case h_2 fault after bus_after hresult =>
      simp only [perform, hresult]
      rw [hwrite.2, hwrite.1]
      exact h

theorem new_mirrors {cache_bytes refill_bytes : Nat} (hcache : valid_cache_size cache_bytes = true)
    (hrefill : valid_refill_size refill_bytes = true) (memory : Nat → U8) :
    (Cache.new cache_bytes refill_bytes).Mirrors memory := by
  refine ⟨new_geometry hcache hrefill, fun word_address _ hhit => ?_⟩
  have hindex := (new_geometry hcache hrefill).index_lt word_address
  have hvalid := hhit.1
  rw [getElem!_pos (Cache.new cache_bytes refill_bytes).entries _ hindex] at hvalid
  simp only [Cache.new, Array.getElem_replicate] at hvalid
  cases hvalid

/-- What the next access sees of a bank over a byte memory: a successful read
returns the bytes now in memory, a successful write is the plain store of its
data, and a failed access changes neither the bank, the memory nor the output
buffer. -/
def Transparent (bus : PhysicalBus β) (memory : β → Nat → U8) (partial_store_enabled : Bool)
    (state : Cache × β) : Prop :=
  (∀ address length (data : Vector U8 length), WithinWord address length →
    match state.1.read address data bus state.2 with
    | (.ok (), output, _, bus_after) =>
      (∀ i : Fin length, output.get i = memory state.2 (address.get + i)) ∧ memory bus_after = memory state.2
    | (.error _, output, after, bus_after) =>
      output = data ∧ after = state.1 ∧ memory bus_after = memory state.2) ∧
  ∀ address data, WithinWord address data.length →
    match state.1.write address data partial_store_enabled bus state.2 with
    | (.ok (), _, bus_after) => memory bus_after = store (memory state.2) address.get data
    | (.error _, after, bus_after) => after = state.1 ∧ memory bus_after = memory state.2

theorem Mirrors.transparent {bus : PhysicalBus β} {memory : β → Nat → U8} (hbus : bus.Bytewise memory)
    (partial_store_enabled : Bool) {state : Cache × β} (h : state.1.Mirrors (memory state.2)) :
    Transparent bus memory partial_store_enabled state := by
  refine ⟨fun address length data hwithin => ?_, fun address data hwithin => ?_⟩
  · have hread := h.read hbus data hwithin
    split at hread
    case h_1 output after bus_after hresult =>
      exact ⟨hread.1, hread.2.2⟩
    case h_2 fault output after bus_after hresult =>
      exact hread
  · have hwrite := h.write hbus partial_store_enabled hwithin
    split at hwrite
    case h_1 after bus_after hresult =>
      exact hwrite.1
    case h_2 fault after bus_after hresult =>
      exact hwrite

/-- The write-through cache is transparent: starting all invalid, over any
byte-addressed memory and after any sequence of accesses, each of which may
succeed or fail at any bus access. -/
theorem run_transparent {bus : PhysicalBus β} {memory : β → Nat → U8} (hbus : bus.Bytewise memory)
    {cache_bytes refill_bytes : Nat} (hcache : valid_cache_size cache_bytes = true)
    (hrefill : valid_refill_size refill_bytes = true) (partial_store_enabled : Bool) (bus_state : β)
    (accesses : List Access) :
    Transparent bus memory partial_store_enabled
      (accesses.foldl (perform bus partial_store_enabled) (Cache.new cache_bytes refill_bytes, bus_state)) := by
  refine Mirrors.transparent hbus partial_store_enabled ?_
  exact List.foldlRecOn accesses (perform bus partial_store_enabled)
    (motive := fun state : Cache × β => state.1.Mirrors (memory state.2))
    (new_mirrors hcache hrefill _) fun state hstate access _ =>
      perform_mirrors hbus partial_store_enabled state access hstate

/-- A memory of `size` bytes whose accesses past the end fail. -/
def bounded_memory (size : Nat) : PhysicalBus (Nat → U8) where
  read memory address length :=
    if address.get + length ≤ size then (.ok (Vector.ofFn fun i => memory (address.get + i)), memory)
    else (.error .InvalidTransaction, memory)
  write memory address data :=
    if address.get + data.length ≤ size then (.ok (), store memory address.get data)
    else (.error .InvalidTransaction, memory)

theorem bounded_memory_bytewise (size : Nat) : (bounded_memory size).Bytewise fun memory => memory where
  read_memory bus_state address length := by
    unfold bounded_memory
    dsimp only
    split <;> rfl
  read_data bus_state address length data hdata i := by
    unfold bounded_memory at hdata
    dsimp only at hdata
    split at hdata
    · cases hdata
      simp only [Fin.getElem_fin, Vector.getElem_ofFn]
    · cases hdata
  write_ok bus_state address data hok := by
    unfold bounded_memory at hok ⊢
    dsimp only at hok ⊢
    split at hok
    · rename_i hfits
      rw [if_pos hfits]
    · cases hok
  write_error bus_state address data fault herror := by
    unfold bounded_memory at herror ⊢
    dsimp only at herror ⊢
    split at herror
    · cases herror
    · rename_i hpast
      rw [if_neg hpast]

/-- A page-sized bank with four-word refills over two pages of memory: a word is
filled, half of it rewritten, and an access past the end fails in between. -/
theorem run_transparent_bounded_memory :
    let bus := bounded_memory 8192
    let accesses : List Access :=
      [.read ⟨4⟩ 4 ⟨by decide, by decide, by decide⟩, .read ⟨8192⟩ 4 ⟨by decide, by decide, by decide⟩,
        .write ⟨6⟩ [1, 2] ⟨by decide, by decide, by decide⟩]
    Transparent bus (fun memory => memory) true
      (accesses.foldl (perform bus true) (Cache.new 4096 16, fun _ => 0)) :=
  run_transparent (bounded_memory_bytewise 8192) (by decide) rfl true _ _

end Cache

end se_cpu.cache
