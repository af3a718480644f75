import SgiEmu.R3000.Cache.Transparency

open se_core se_core.bus se_cpu.cache

/-! ## Two buses side by side -/

namespace se_core.bus

variable {β γ : Type}

/-- Two buses that no transaction inside a word of an allowed page tells apart:
it ends the same on both and leaves their states related. -/
structure PhysicalBus.Alike (bus : PhysicalBus β) (other : PhysicalBus γ) (related : β → γ → Prop)
    (readable writable : Nat → Prop) : Prop where
  read : ∀ {bus_state other_state} address length, related bus_state other_state →
    WithinWord address length → readable (address.get / 4096) →
    (bus.read bus_state address length).1 = (other.read other_state address length).1 ∧
      related (bus.read bus_state address length).2 (other.read other_state address length).2
  write : ∀ {bus_state other_state} address data, related bus_state other_state →
    WithinWord address data.length → writable (address.get / 4096) →
    (bus.write bus_state address data).1 = (other.write other_state address data).1 ∧
      related (bus.write bus_state address data).2 (other.write other_state address data).2

/-- Two runs of an operation, one over each bus, with one result. -/
def Together {ρ σ : Type} (kept : ρ → σ → Prop) (related : β → γ → Prop) (left : ρ × σ × β)
    (right : ρ × σ × γ) : Prop :=
  ∃ result state bus_state other_state, left = (result, state, bus_state) ∧
    right = (result, state, other_state) ∧ kept result state ∧ related bus_state other_state

/-- The same of an operation that fills a buffer besides. -/
def TogetherWith {ρ α σ : Type} (kept : σ → Prop) (related : β → γ → Prop) (left : ρ × α × σ × β)
    (right : ρ × α × σ × γ) : Prop :=
  ∃ result data state bus_state other_state, left = (result, data, state, bus_state) ∧
    right = (result, data, state, other_state) ∧ kept state ∧ related bus_state other_state

end se_core.bus

namespace se_cpu

variable {β γ : Type} {bus : PhysicalBus β} {other : PhysicalBus γ} {related : β → γ → Prop}
  {readable writable : Nat → Prop} {bus_state : β} {other_state : γ}

/-! ## The caches -/

namespace cache

namespace Cache

theorem read_refill_together (hbus : bus.Alike other related readable writable) {refill_base : U32}
    (remaining word_index : Nat) (h : related bus_state other_state)
    (hwords : ∀ j, word_index ≤ j → j < word_index + remaining →
      (refill_base + BitVec.ofNat 32 (j * WORD_BYTES)).toNat % 4 = 0 ∧
        readable ((refill_base + BitVec.ofNat 32 (j * WORD_BYTES)).toNat / 4096)) :
    (read_refill bus refill_base remaining word_index bus_state).1 =
        (read_refill other refill_base remaining word_index other_state).1 ∧
      related (read_refill bus refill_base remaining word_index bus_state).2
        (read_refill other refill_base remaining word_index other_state).2 := by
  induction remaining generalizing word_index bus_state other_state with
  | zero => exact ⟨rfl, h⟩
  | succ remaining ih =>
    obtain ⟨haligned, hreadable⟩ := hwords word_index (Nat.le_refl _) (by omega)
    have hword := (refill_base + BitVec.ofNat 32 (word_index * WORD_BYTES)).isLt
    obtain ⟨hresult, hafter⟩ := hbus.read ⟨(refill_base + BitVec.ofNat 32 (word_index * WORD_BYTES)).toNat⟩
      WORD_BYTES h
      ⟨Nat.le_of_lt_succ hword, Nat.zero_lt_succ 3, by rw [haligned]; exact Nat.le_refl 4⟩ hreadable
    simp only [read_refill]
    cases hleft : bus.read bus_state
        ⟨(refill_base + BitVec.ofNat 32 (word_index * WORD_BYTES)).toNat⟩ WORD_BYTES with
    | mk result after =>
      cases hright : other.read other_state
          ⟨(refill_base + BitVec.ofNat 32 (word_index * WORD_BYTES)).toNat⟩ WORD_BYTES with
      | mk result' after' =>
        rw [hleft, hright] at hresult hafter
        obtain rfl : result = result' := hresult
        cases result with
        | error fault => exact ⟨rfl, hafter⟩
        | ok word =>
          dsimp only
          obtain ⟨hrest, hlast⟩ := ih (word_index + 1) hafter fun j hlow hhigh => hwords j (by omega) (by omega)
          cases hleft : read_refill bus refill_base remaining (word_index + 1) after with
          | mk words last =>
            cases hright : read_refill other refill_base remaining (word_index + 1) after' with
            | mk words' last' =>
              rw [hleft, hright] at hrest hlast
              obtain rfl : words = words' := hrest
              cases words with
              | error fault => exact ⟨rfl, hlast⟩
              | ok words => exact ⟨rfl, hlast⟩

theorem Geometry.install_refill {cache : Cache} (h : cache.Geometry) (refill_base : U32)
    (words : List (Vector U8 WORD_BYTES)) (word_index : Nat) :
    (Cache.install_refill refill_base words word_index cache).Geometry := by
  induction words generalizing word_index cache with
  | nil => exact h
  | cons word words ih => exact ih (set_entry_geometry h _ _) (word_index + 1)

/-- A refill reads within the page of the word that missed. -/
theorem Geometry.read_together {cache : Cache} (h : cache.Geometry)
    (hbus : bus.Alike other related readable writable) {address : PhysAddr} {length : Nat}
    (hwithin : WithinWord address length) (hreadable : readable (address.get / 4096))
    (data : Vector U8 length) (hrelated : related bus_state other_state) :
    TogetherWith Geometry related (cache.read address data bus bus_state)
      (cache.read address data other other_state) := by
  obtain ⟨hword, -⟩ := cache.access_spec hwithin
  by_cases hhit : cache.Hits (cache.access address).word_address
  · rw [read_of_hit data bus bus_state hhit, read_of_hit data other other_state hhit]
    exact ⟨_, _, _, _, _, rfl, rfl, h, hrelated⟩
  · obtain ⟨-, hblock, -⟩ := h.refill_base_spec (cache.access address).word_address (by omega)
    obtain ⟨hwords, hafter⟩ := read_refill_together hbus (cache.refill_bytes / WORD_BYTES) 0 hrelated
      fun j _ hj => by
        obtain ⟨haligned, hpage⟩ := hblock j (by omega)
        have hframe := congrArg BitVec.toNat hpage
        rw [page_frame_toNat, page_frame_toNat, hword] at hframe
        refine ⟨haligned, ?_⟩
        rw [show _ / 4096 = address.get / 4096 from by omega]
        exact hreadable
    rw [read_of_miss data bus bus_state hhit, read_of_miss data other other_state hhit]
    cases hleft : read_refill bus (cache.refill_base (cache.access address).word_address)
        (cache.refill_bytes / WORD_BYTES) 0 bus_state with
    | mk result after =>
      cases hright : read_refill other (cache.refill_base (cache.access address).word_address)
          (cache.refill_bytes / WORD_BYTES) 0 other_state with
      | mk result' after' =>
        rw [hleft, hright] at hwords hafter
        obtain rfl : result = result' := hwords
        cases result with
        | error fault => exact ⟨_, _, _, _, _, rfl, rfl, h, hafter⟩
        | ok words => exact ⟨_, _, _, _, _, rfl, rfl, h.install_refill .., hafter⟩

theorem written_together (hbus : bus.Alike other related readable writable) {cache after : Cache}
    (h : cache.Geometry) (hafter : after.Geometry) {address : PhysAddr} {data : List U8}
    (hwithin : WithinWord address data.length) (hwritable : writable (address.get / 4096))
    (hrelated : related bus_state other_state) :
    Together (fun _ => Geometry) related (written cache after bus bus_state address data)
      (written cache after other other_state address data) := by
  obtain ⟨hresult, hstates⟩ := hbus.write address data hrelated hwithin hwritable
  unfold written
  cases hleft : bus.write bus_state address data with
  | mk result bus_after =>
    cases hright : other.write other_state address data with
    | mk result' other_after =>
      rw [hleft, hright] at hresult hstates
      obtain rfl : result = result' := hresult
      cases result with
      | error fault => exact ⟨_, _, _, _, rfl, rfl, h, hstates⟩
      | ok done => exact ⟨_, _, _, _, rfl, rfl, hafter, hstates⟩

theorem Geometry.write_together {cache : Cache} (h : cache.Geometry)
    (hbus : bus.Alike other related readable writable) {address : PhysAddr} {data : List U8}
    (hwithin : WithinWord address data.length) (hwritable : writable (address.get / 4096))
    (partial_store_enabled : Bool) (hrelated : related bus_state other_state) :
    Together (fun _ => Geometry) related (cache.write address data partial_store_enabled bus bus_state)
      (cache.write address data partial_store_enabled other other_state) := by
  obtain ⟨hword, -⟩ := cache.access_spec hwithin
  by_cases hlength : data.length = WORD_BYTES
  · rw [write_full partial_store_enabled bus bus_state hlength,
      write_full partial_store_enabled other other_state hlength]
    exact written_together hbus h (set_entry_geometry h _ _) hwithin hwritable hrelated
  · by_cases hmerge : partial_store_enabled = true ∧ cache.Hits (cache.access address).word_address
    · rw [write_merge bus bus_state hlength hmerge, write_merge other other_state hlength hmerge]
      have hlt := (cache.access address).word_address.isLt
      refine written_together hbus h (set_entry_geometry h _ _) ⟨Nat.le_of_lt_succ hlt, ?_, ?_⟩ ?_ hrelated
      · rw [Vector.length_toList]
        exact Nat.zero_lt_succ 3
      · rw [Vector.length_toList]
        show (cache.access address).word_address.toNat % 4 + 4 ≤ 4
        omega
      · -- The merged word lies in the page of the bytes it replaces.
        rw [show (cache.access address).word_address.toNat / 4096 = address.get / 4096 from by omega]
        exact hwritable
    · rw [write_around bus bus_state hlength hmerge, write_around other other_state hlength hmerge]
      refine written_together hbus h ?_ hwithin hwritable hrelated
      split
      · exact h
      · exact set_entry_geometry h _ _

end Cache

/-- Both banks have a legal geometry. -/
structure Caches.Geometry (caches : Caches) : Prop where
  instruction : caches.instruction.Geometry
  data : caches.data.Geometry

namespace Caches.Geometry

variable {caches : Caches}

theorem cache_of (h : caches.Geometry) (bank : CacheBank) : (caches.cache_of bank).Geometry := by
  cases bank with
  | Instruction => exact h.instruction
  | Data => exact h.data

theorem set_cache (h : caches.Geometry) (bank : CacheBank) {cache : Cache} (hcache : cache.Geometry) :
    (caches.set_cache bank cache).Geometry := by
  cases bank with
  | Instruction => exact ⟨hcache, h.data⟩
  | Data => exact ⟨h.instruction, hcache⟩

theorem write_isolated (h : caches.Geometry) (bank : CacheBank) (address : PhysAddr) (data : List U8) :
    (caches.write_isolated bank address data).Geometry := by
  refine h.set_cache bank ?_
  unfold Cache.write_isolated
  dsimp only
  split
  · exact Cache.set_entry_geometry (h.cache_of bank) _ _
  · exact Cache.set_entry_geometry (h.cache_of bank) _ _

theorem read_together (h : caches.Geometry) (hbus : bus.Alike other related readable writable)
    (bank : CacheBank) {address : PhysAddr} {length : Nat} (hwithin : WithinWord address length)
    (hreadable : readable (address.get / 4096)) (data : Vector U8 length)
    (hrelated : related bus_state other_state) :
    TogetherWith Caches.Geometry related (caches.read bank address data bus bus_state)
      (caches.read bank address data other other_state) := by
  obtain ⟨result, filled, cache, after, after', hleft, hright, hkept, hafter⟩ :=
    (h.cache_of bank).read_together hbus hwithin hreadable data hrelated
  unfold Caches.read
  rw [hleft, hright]
  exact ⟨_, _, _, _, _, rfl, rfl, h.set_cache bank hkept, hafter⟩

theorem write_together (h : caches.Geometry) (hbus : bus.Alike other related readable writable)
    (bank : CacheBank) {address : PhysAddr} {data : List U8} (hwithin : WithinWord address data.length)
    (hwritable : writable (address.get / 4096)) (hrelated : related bus_state other_state) :
    Together (fun _ => Caches.Geometry) related (caches.write bank address data bus bus_state)
      (caches.write bank address data other other_state) := by
  obtain ⟨result, cache, after, after', hleft, hright, hkept, hafter⟩ :=
    (h.cache_of bank).write_together hbus hwithin hwritable caches.partial_store_enabled hrelated
  unfold Caches.write
  rw [hleft, hright]
  exact ⟨_, _, _, _, rfl, rfl, h.set_cache bank hkept, hafter⟩

end Caches.Geometry

/-- Memories of one size that hold the same in the readable pages. -/
theorem Cache.bounded_memory_alike (size : Nat) (readable writable : Nat → Prop) :
    (bounded_memory size).Alike (bounded_memory size)
      (fun memory other => ∀ address, readable (address / 4096) → memory address = other address)
      readable writable := by
  constructor
  · intro memory other address length hsame hwithin hreadable
    unfold bounded_memory
    dsimp only
    split
    · refine ⟨congrArg Except.ok (Vector.ext fun i hi => ?_), hsame⟩
      obtain ⟨hfits, hsome, hword⟩ := hwithin
      rw [Vector.getElem_ofFn, Vector.getElem_ofFn]
      refine hsame _ ?_
      rwa [show (address.get + i) / 4096 = address.get / 4096 from by omega]
    · exact ⟨rfl, hsame⟩
  · intro memory other address data hsame hwithin hwritable
    unfold bounded_memory
    dsimp only
    split
    · refine ⟨rfl, fun cell hcell => ?_⟩
      unfold Library.ByteMemory.store
      dsimp only
      rw [hsame cell hcell]
    · exact ⟨rfl, hsame⟩

end cache

end se_cpu
