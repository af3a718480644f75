import SgiEmu.Library.ByteMemory
import SgiEmu.Library.Mask
import SgiEmu.R3000.Cache
import Mathlib.Tactic.IntervalCases

open se_core se_core.bus Library.Mask Library.ByteMemory

namespace se_cpu.cache

/-! ## Words of the address space -/

theorem page_frame_toNat (word_address : U32) :
    (page_frame word_address).toNat = word_address.toNat - word_address.toNat % 4096 := by
  have hmask : PAGE_FRAME_MASK = ~~~0xfff#32 := by decide
  rw [page_frame, hmask]
  exact toNat_and_not_low (k := 12) rfl

/-- What a word-sized piece of a byte memory holds. -/
def word_at (memory : Nat → U8) (word_address : U32) : Vector U8 WORD_BYTES :=
  Vector.ofFn fun i => memory (word_address.toNat + i)

/-- A store inside one word leaves every other aligned word. -/
theorem word_at_store_of_ne {memory : Nat → U8} {address : Nat} {data : List U8} {word_address : U32}
    (hwithin : address % 4 + data.length ≤ 4) (haligned : word_address.toNat % 4 = 0)
    (hne : word_address.toNat ≠ address / 4 * 4) :
    word_at (store memory address data) word_address = word_at memory word_address := by
  refine Vector.ext fun i hi => ?_
  have hword : i < 4 := hi
  simp only [word_at, Vector.getElem_ofFn]
  refine store_outside ?_
  omega

/-! ## Legal geometries -/

/-- A bank whose size and refill are powers of two in the ranges the
configuration allows. -/
structure Cache.Geometry (cache : Cache) : Prop where
  size : ∃ k, 10 ≤ k ∧ cache.entries.size = 2 ^ k
  refill : ∃ k, 2 ≤ k ∧ k ≤ 7 ∧ cache.refill_bytes = 2 ^ k

theorem Cache.new_geometry {cache_bytes refill_bytes : Nat} (hcache : valid_cache_size cache_bytes = true)
    (hrefill : valid_refill_size refill_bytes = true) : (Cache.new cache_bytes refill_bytes).Geometry where
  size := by
    simp only [valid_cache_size, Bool.and_eq_true, decide_eq_true_eq, beq_iff_eq] at hcache
    obtain ⟨⟨hmin, _⟩, hpower⟩ := hcache
    have hpage : 4096 ≤ cache_bytes := hmin
    have hpositive : cache_bytes ≠ 0 := by omega
    obtain ⟨k, hk⟩ := (Nat.and_sub_one_eq_zero_iff_isPowerOfTwo hpositive).mp hpower
    have hexp : 12 ≤ k := by
      by_contra hlt
      have hpow := Nat.pow_le_pow_right (n := 2) (by omega) (show k ≤ 11 by omega)
      omega
    obtain ⟨j, rfl⟩ := Nat.exists_eq_add_of_le' hexp
    refine ⟨j + 10, by omega, ?_⟩
    simp only [Cache.new, Array.size_replicate, hk, WORD_BYTES]
    rw [pow_add, pow_add]
    omega
  refill := by
    unfold valid_refill_size at hrefill
    split at hrefill
    · exact ⟨2, by omega, by omega, rfl⟩
    · exact ⟨4, by omega, by omega, rfl⟩
    · exact ⟨5, by omega, by omega, rfl⟩
    · exact ⟨6, by omega, by omega, rfl⟩
    · exact ⟨7, by omega, by omega, rfl⟩
    · cases hrefill

namespace Cache.Geometry

variable {cache : Cache}

theorem index_eq (h : cache.Geometry) (word_address : U32) :
    cache.index word_address = word_address.toNat / 4 % cache.entries.size := by
  obtain ⟨k, _, hsize⟩ := h.size
  rw [Cache.index, hsize, Nat.and_two_pow_sub_one_eq_mod, BitVec.toNat_ushiftRight, Nat.shiftRight_eq_div_pow]

theorem index_lt (h : cache.Geometry) (word_address : U32) :
    cache.index word_address < cache.entries.size := by
  obtain ⟨k, _, hsize⟩ := h.size
  rw [h.index_eq]
  refine Nat.mod_lt _ ?_
  rw [hsize]
  exact Nat.two_pow_pos k

/-- An aligned word is determined by its index and its page frame: the bank is
at least one page large, so the two overlap and miss no bit. -/
theorem word_eq (h : cache.Geometry) {word_address word_address' : U32}
    (haligned : word_address.toNat % 4 = 0) (haligned' : word_address'.toNat % 4 = 0)
    (hindex : cache.index word_address = cache.index word_address')
    (hframe : page_frame word_address = page_frame word_address') : word_address = word_address' := by
  obtain ⟨k, hk, hsize⟩ := h.size
  have hpage := congrArg BitVec.toNat hframe
  rw [page_frame_toNat, page_frame_toNat] at hpage
  have hlow : word_address.toNat / 4 % 1024 = word_address'.toNat / 4 % 1024 := by
    have hdvd : 1024 ∣ cache.entries.size := by
      rw [hsize]
      exact pow_dvd_pow 2 hk
    rw [h.index_eq, h.index_eq] at hindex
    rw [← Nat.mod_mod_of_dvd _ hdvd, hindex, Nat.mod_mod_of_dvd _ hdvd]
  refine BitVec.eq_of_toNat_eq ?_
  omega

/-- The refill block of a word: where it starts, and that the word is one of its words. -/
theorem refill_base_spec (h : cache.Geometry) (word_address : U32) (haligned : word_address.toNat % 4 = 0) :
    (cache.refill_base word_address).toNat % 4 = 0 ∧
      (∀ j < cache.refill_bytes / WORD_BYTES,
        let word := cache.refill_base word_address + BitVec.ofNat 32 (j * WORD_BYTES)
        word.toNat % 4 = 0 ∧ page_frame word = page_frame word_address) ∧
      ∃ j < cache.refill_bytes / WORD_BYTES,
        cache.refill_base word_address + BitVec.ofNat 32 (j * WORD_BYTES) = word_address := by
  obtain ⟨k, hlow, hhigh, hrefill⟩ := h.refill
  have hmask : (BitVec.ofNat 32 cache.refill_bytes - 1).toNat = 2 ^ k - 1 := by
    rw [hrefill]
    interval_cases k <;> rfl
  have hbase : (cache.refill_base word_address).toNat =
      word_address.toNat - word_address.toNat % 2 ^ k := toNat_and_not_low hmask
  have hword := word_address.isLt
  have hadd : ∀ j < cache.refill_bytes / WORD_BYTES,
      (cache.refill_base word_address + BitVec.ofNat 32 (j * WORD_BYTES)).toNat =
        word_address.toNat - word_address.toNat % 2 ^ k + j * 4 := by
    intro j hj
    rw [BitVec.toNat_add, hbase, BitVec.toNat_ofNat]
    rw [hrefill] at hj
    simp only [WORD_BYTES] at hj ⊢
    interval_cases k <;> omega
  refine ⟨?_, fun j hj => ?_, ?_⟩
  · rw [hbase]
    interval_cases k <;> omega
  · refine ⟨?_, BitVec.eq_of_toNat_eq ?_⟩
    · rw [hadd j hj]
      interval_cases k <;> omega
    · rw [page_frame_toNat, page_frame_toNat, hadd j hj]
      rw [hrefill] at hj
      simp only [WORD_BYTES] at hj
      interval_cases k <;> omega
  · refine ⟨word_address.toNat % 2 ^ k / 4, ?_, BitVec.eq_of_toNat_eq ?_⟩
    · rw [hrefill]
      simp only [WORD_BYTES]
      interval_cases k <;> omega
    · rw [hadd]
      · interval_cases k <;> omega
      · rw [hrefill]
        simp only [WORD_BYTES]
        interval_cases k <;> omega

end Cache.Geometry

/-! ## Accesses -/

/-- What the source asserts of every cache access: a 32-bit address and a
non-empty run of bytes inside one word. -/
structure WithinWord (address : PhysAddr) (length : Nat) : Prop where
  fits : address.get ≤ 0xffffffff
  positive : 0 < length
  inside : address.get % 4 + length ≤ 4

/-- The word and the byte offset an access splits its address into. -/
theorem Cache.access_spec (cache : Cache) {address : PhysAddr} {length : Nat}
    (h : WithinWord address length) :
    (cache.access address).word_address.toNat = address.get / 4 * 4 ∧
      (cache.access address).offset = address.get % 4 := by
  have hfits := h.fits
  have haddress : (BitVec.ofNat 32 address.get).toNat = address.get := by
    rw [BitVec.toNat_ofNat]
    omega
  have hword : (BitVec.ofNat 32 address.get &&& ~~~3#32).toNat = address.get - address.get % 4 := by
    rw [toNat_and_not_low (k := 2) rfl, haddress]
    rfl
  have hoffset : (BitVec.ofNat 32 address.get &&& 3#32).toNat = address.get % 4 := by
    rw [toNat_and_low (k := 2) rfl, haddress]
    rfl
  refine ⟨?_, hoffset⟩
  simp only [Cache.access, hword]
  omega

end se_cpu.cache
