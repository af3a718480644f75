import SgiEmu.R3000.Cache.Transparency
import SgiEmu.R3000.Mmu.WordOffset
import SgiEmu.R3000.State.Operations

open se_core se_core.bus se_cpu.mmu Library.ByteMemory

namespace se_cpu

variable {β : Type}

/-! ## Memories that always answer -/

namespace cache

/-- A bus on which no access within a word of the 32-bit address space fails. -/
structure Delivers (bus : PhysicalBus β) : Prop where
  read : ∀ bus_state address length, WithinWord address length →
    ∃ data, (bus.read bus_state address length).1 = .ok data
  write : ∀ bus_state address data, WithinWord address data.length →
    (bus.write bus_state address data).1 = .ok ()

namespace Cache

theorem read_refill_delivers {bus : PhysicalBus β} (hbus : Delivers bus) {refill_base : U32}
    (remaining word_index : Nat) (bus_state : β)
    (hwords : ∀ j, word_index ≤ j → j < word_index + remaining →
      (refill_base + BitVec.ofNat 32 (j * WORD_BYTES)).toNat % 4 = 0) :
    ∃ words, (read_refill bus refill_base remaining word_index bus_state).1 = .ok words := by
  induction remaining generalizing word_index bus_state with
  | zero => exact ⟨[], rfl⟩
  | succ remaining ih =>
    have haligned := hwords word_index (Nat.le_refl _) (by omega)
    have hword := (refill_base + BitVec.ofNat 32 (word_index * WORD_BYTES)).isLt
    obtain ⟨word, hread⟩ := hbus.read bus_state
      ⟨(refill_base + BitVec.ofNat 32 (word_index * WORD_BYTES)).toNat⟩ WORD_BYTES
      ⟨Nat.le_of_lt_succ hword, Nat.zero_lt_succ 3, by rw [haligned]; exact Nat.le_refl 4⟩
    simp only [read_refill]
    cases hresult : bus.read bus_state
        ⟨(refill_base + BitVec.ofNat 32 (word_index * WORD_BYTES)).toNat⟩ WORD_BYTES with
    | mk result after =>
      rw [hresult] at hread
      obtain rfl : result = .ok word := hread
      dsimp only
      obtain ⟨words, hrest⟩ := ih (word_index + 1) after fun j hlow hhigh => hwords j (by omega) (by omega)
      cases hrefill : read_refill bus refill_base remaining (word_index + 1) after with
      | mk result last =>
        rw [hrefill] at hrest
        obtain rfl : result = .ok words := hrest
        exact ⟨word :: words, rfl⟩

theorem Geometry.read_delivers {bus : PhysicalBus β} (hbus : Delivers bus) {cache : Cache}
    (h : cache.Geometry) {address : PhysAddr} {length : Nat} (hwithin : WithinWord address length)
    (data : Vector U8 length) (bus_state : β) : (cache.read address data bus bus_state).1 = .ok () := by
  obtain ⟨hword, -⟩ := cache.access_spec hwithin
  by_cases hhit : cache.Hits (cache.access address).word_address
  · rw [read_of_hit data bus bus_state hhit]
  · obtain ⟨-, hblock, -⟩ := h.refill_base_spec (cache.access address).word_address (by omega)
    obtain ⟨words, hrefill⟩ := read_refill_delivers hbus (cache.refill_bytes / WORD_BYTES) 0 bus_state
      fun j _ hj => (hblock j (by omega)).1
    rw [read_of_miss data bus bus_state hhit]
    cases hresult : read_refill bus (cache.refill_base (cache.access address).word_address)
        (cache.refill_bytes / WORD_BYTES) 0 bus_state with
    | mk result after =>
      rw [hresult] at hrefill
      obtain rfl : result = .ok words := hrefill
      rfl

theorem write_delivers {bus : PhysicalBus β} (hbus : Delivers bus) (cache : Cache) {address : PhysAddr}
    {data : List U8} (hwithin : WithinWord address data.length) (partial_store_enabled : Bool)
    (bus_state : β) : (cache.write address data partial_store_enabled bus bus_state).1 = .ok () := by
  obtain ⟨hword, -⟩ := cache.access_spec hwithin
  have hwritten : ∀ (address : PhysAddr) (data : List U8) (after : Cache), WithinWord address data.length →
      (written cache after bus bus_state address data).1 = .ok () := by
    intro address data after hwithin
    have hwrite := hbus.write bus_state address data hwithin
    unfold written
    cases hresult : bus.write bus_state address data with
    | mk result bus_after =>
      rw [hresult] at hwrite
      obtain rfl : result = .ok () := hwrite
      rfl
  by_cases hlength : data.length = WORD_BYTES
  · rw [write_full partial_store_enabled bus bus_state hlength]
    exact hwritten address data _ hwithin
  · by_cases hmerge : partial_store_enabled = true ∧ cache.Hits (cache.access address).word_address
    · rw [write_merge bus bus_state hlength hmerge]
      have hlt := (cache.access address).word_address.isLt
      refine hwritten _ _ _ ⟨Nat.le_of_lt_succ hlt, ?_, ?_⟩
      · rw [Vector.length_toList]
        exact Nat.zero_lt_succ 3
      · rw [Vector.length_toList]
        show (cache.access address).word_address.toNat % 4 + 4 ≤ 4
        omega
    · rw [write_around bus bus_state hlength hmerge]
      exact hwritten address data _ hwithin

end Cache

end cache

namespace state

open cache

/-- A data access that reaches memory: the caches are not isolated, and a cached
access goes through a bank that mirrors it. -/
structure Reaches (state : State) (memory : Nat → U8) (translation : Translation) : Prop where
  connected : state.cache_mode.effective.isolated = false
  coherent : translation.cacheability = .Cached →
    (state.caches.cache_of (State.cache_bank .Data state.cache_mode.effective)).Mirrors memory

variable {bus : PhysicalBus β} {memory : β → Nat → U8}

/-- A load returns the bytes of the memory and leaves them. -/
theorem Reaches.load_data (hbus : bus.Bytewise memory) (hdelivers : Delivers bus) {state : State}
    {bus_state : β} {translation : Translation} (h : Reaches state (memory bus_state) translation)
    {length : Nat} (hwithin : WithinWord translation.address length) (data : Vector U8 length) :
    ∃ loaded caches bus_after,
      state.load_data translation data bus bus_state = (.ok (), loaded, { state with caches }, bus_after) ∧
      (∀ i (hi : i < length), loaded[i] = memory bus_state (translation.address.get + i)) ∧
      memory bus_after = memory bus_state := by
  unfold State.load_data
  dsimp only
  rw [if_neg (by rw [h.connected]; exact Bool.false_ne_true)]
  cases hcacheability : translation.cacheability with
  | Cached =>
    have hmirrors := h.coherent hcacheability
    have hok := hmirrors.geometry.read_delivers hdelivers hwithin data bus_state
    have hread := hmirrors.read hbus data hwithin
    unfold Caches.read
    cases hresult : (state.caches.cache_of (State.cache_bank .Data state.cache_mode.effective)).read
        translation.address data bus bus_state with
    | mk result rest =>
      rw [hresult] at hok hread
      obtain ⟨loaded, after, bus_after⟩ := rest
      obtain rfl : result = .ok () := hok
      exact ⟨loaded, _, bus_after, rfl, fun i hi => hread.1 ⟨i, hi⟩, hread.2.2⟩
  | Uncached =>
    obtain ⟨loaded, hok⟩ := hdelivers.read bus_state translation.address length hwithin
    have hdata := hbus.read_data bus_state translation.address length loaded hok
    have hmemory := hbus.read_memory bus_state translation.address length
    cases hresult : bus.read bus_state translation.address length with
    | mk result bus_after =>
      rw [hresult] at hok hmemory
      obtain rfl : result = .ok loaded := hok
      exact ⟨loaded, state.caches, bus_after, rfl, fun i hi => hdata ⟨i, hi⟩, hmemory⟩

/-- A store changes the bytes it names and no other. -/
theorem Reaches.store_memory (hbus : bus.Bytewise memory) (hdelivers : Delivers bus) {state : State}
    {bus_state : β} {translation : Translation} (h : Reaches state (memory bus_state) translation)
    {data : List U8} (hwithin : WithinWord translation.address data.length) :
    ∃ caches bus_after,
      state.store_memory translation data bus bus_state = (.ok (), { state with caches }, bus_after) ∧
      memory bus_after = store (memory bus_state) translation.address.get data := by
  unfold State.store_memory
  dsimp only
  rw [if_neg (by rw [h.connected]; exact Bool.false_ne_true)]
  cases hcacheability : translation.cacheability with
  | Cached =>
    have hmirrors := h.coherent hcacheability
    have hok := Cache.write_delivers hdelivers
      (state.caches.cache_of (State.cache_bank .Data state.cache_mode.effective)) hwithin
      state.caches.partial_store_enabled bus_state
    have hwrite := hmirrors.write hbus state.caches.partial_store_enabled hwithin
    unfold Caches.write
    cases hresult : (state.caches.cache_of (State.cache_bank .Data state.cache_mode.effective)).write
        translation.address data state.caches.partial_store_enabled bus bus_state with
    | mk result rest =>
      rw [hresult] at hok hwrite
      obtain ⟨after, bus_after⟩ := rest
      obtain rfl : result = .ok () := hok
      exact ⟨_, bus_after, rfl, hwrite.1⟩
  | Uncached =>
    have hok := hdelivers.write bus_state translation.address data hwithin
    have hmemory := hbus.write_ok bus_state translation.address data hok
    cases hresult : bus.write bus_state translation.address data with
    | mk result bus_after =>
      rw [hresult] at hok hmemory
      obtain rfl : result = .ok () := hok
      refine ⟨state.caches, bus_after, ?_, hmemory⟩
      show ((bus.write bus_state translation.address data).1, state,
        (bus.write bus_state translation.address data).2) = _
      rw [hresult]

end state

end se_cpu
