import Mathlib.Algebra.Ring.Nat
import Mathlib.Tactic.Common
import SgiEmu.Runtime.Catalog
import SgiEmu.Runtime.Record.Frames

open se_core se_core.storage

namespace se_runtime.record

/-! ## Names -/

theorem digit_injective {a b : Nat} (h : digit a = digit b) : a % 10 = b % 10 := by
  have hall : ∀ a b : Fin 10, Char.ofNat (48 + a.val) = Char.ofNat (48 + b.val) → a = b := by decide
  exact congrArg Fin.val (hall ⟨a % 10, by omega⟩ ⟨b % 10, by omega⟩ h)

theorem digit_ne_slash (value : Nat) : digit value ≠ '/' := by
  have hall : ∀ a : Fin 10, Char.ofNat (48 + a.val) ≠ '/' := by decide
  exact hall ⟨value % 10, by omega⟩

theorem length_fixed_digits (width value : Nat) : (fixed_digits width value).length = width := by
  induction width generalizing value with
  | zero => rfl
  | succ width ih => rw [fixed_digits, List.length_append, ih, List.length_singleton]

theorem fixed_digits_injective {width a b : Nat} (ha : a < 10 ^ width) (hb : b < 10 ^ width)
    (h : fixed_digits width a = fixed_digits width b) : a = b := by
  induction width generalizing a b with
  | zero =>
    rw [Nat.pow_zero] at ha hb
    omega
  | succ width ih =>
    rw [Nat.pow_succ] at ha hb
    obtain ⟨hhigh, hlow⟩ := List.append_inj' h rfl
    have hquotient : a / 10 = b / 10 := by
      apply ih _ _ hhigh
      · exact Nat.div_lt_of_lt_mul (Nat.mul_comm .. ▸ ha)
      · exact Nat.div_lt_of_lt_mul (Nat.mul_comm .. ▸ hb)
    have hremainder := digit_injective (List.head_eq_of_cons_eq hlow)
    omega

theorem slash_not_mem_fixed_digits (width value : Nat) : '/' ∉ fixed_digits width value := by
  induction width generalizing value with
  | zero => exact List.not_mem_nil
  | succ width ih =>
    rw [fixed_digits, List.mem_append, List.mem_singleton]
    intro h
    obtain h | h := h
    · exact ih _ h
    · exact digit_ne_slash value h.symm

theorem length_snapshot_file_name (position : ExecutionPosition) : (snapshot_file_name position).length = 46 := by
  simp only [snapshot_file_name, List.length_append, List.length_cons, length_fixed_digits, CKPT, List.length_nil]

/-- Twenty digits tell any two positions apart. -/
theorem snapshot_file_name_injective {a b : ExecutionPosition} (h : snapshot_file_name a = snapshot_file_name b) :
    a = b := by
  have hfits : ∀ word : U64, word.toNat < 10 ^ 20 := fun word => Nat.lt_trans word.isLt (by decide)
  obtain ⟨hfront, _⟩ := List.append_inj' h rfl
  obtain ⟨hepoch, hrest⟩ := List.append_inj hfront (by rw [length_fixed_digits, length_fixed_digits])
  have hcompleted := List.tail_eq_of_cons_eq hrest
  have hepoch := BitVec.eq_of_toNat_eq (fixed_digits_injective (hfits _) (hfits _) hepoch)
  have hcompleted := BitVec.eq_of_toNat_eq (fixed_digits_injective (hfits _) (hfits _) hcompleted)
  cases a
  cases b
  cases hepoch
  cases hcompleted
  rfl

theorem extension_snapshot_file_name (position : ExecutionPosition) : extension (snapshot_file_name position) = some CKPT := by
  obtain ⟨last, rest, hrest⟩ : ∃ last rest,
      (fixed_digits 20 position.epoch.toNat ++ '-' :: fixed_digits 20 position.completed_instructions.toNat).reverse =
        last :: rest := by
    apply List.exists_cons_of_ne_nil
    intro hnil
    have hlength := congrArg List.length hnil
    simp only [List.length_reverse, List.length_append, List.length_cons, length_fixed_digits, List.length_nil] at hlength
    omega
  have hreverse : (snapshot_file_name position).reverse = ['t', 'p', 'k', 'c', '.'] ++ last :: rest := by
    rw [snapshot_file_name, List.reverse_append, hrest]
    rfl
  unfold extension
  rw [hreverse]
  rfl

theorem validate_snapshot_file_name (position : ExecutionPosition) :
    validate_snapshot_id (snapshot_file_name position) = .ok () := by
  have hlength := length_snapshot_file_name position
  have hslash : '/' ∉ snapshot_file_name position := by
    simp only [snapshot_file_name, List.mem_append, List.mem_cons, not_or]
    exact ⟨⟨slash_not_mem_fixed_digits _ _, by decide, slash_not_mem_fixed_digits _ _⟩, by decide, by decide⟩
  unfold validate_snapshot_id
  rw [if_neg]
  rintro (h | h | h | h | h)
  · rw [h] at hlength
    cases hlength
  · rw [h] at hlength
    cases hlength
  · rw [h] at hlength
    cases hlength
  · exact hslash h
  · exact h (extension_snapshot_file_name position)

/-! ## Contents -/

variable {State α : Type} {codec : CacheCodec State} {values : ValueCodec α} {payload : List U8} {value : α}

/-- A cache file that was written in full reads back. -/
theorem read_cache_bytes (m0 m1 m2 m3 m4 m5 m6 m7 : U8) (name : String) (hfits : payload.length < 0x10000000000000000)
    (hdecode : values.decode payload = .ok value) :
    read_cache_file_with_identity codec values [m0, m1, m2, m3, m4, m5, m6, m7] name
        (cache_bytes codec [m0, m1, m2, m3, m4, m5, m6, m7] payload) =
      .ok (value, (cache_bytes codec [m0, m1, m2, m3, m4, m5, m6, m7] payload).length,
        codec.sha256 (cache_bytes codec [m0, m1, m2, m3, m4, m5, m6, m7] payload)) := by
  have hlength : (BitVec.ofNat 64 payload.length).toNat = payload.length := by
    rw [BitVec.toNat_ofNat]
    exact Nat.mod_eq_of_lt hfits
  simp only [cache_bytes, to_le_bytes_u64, to_le_bytes, List.cons_append, List.nil_append, read_cache_file_with_identity,
    from_le_bytes_extract, words_of_u64, hlength, ne_eq, not_true_eq_false, if_false, hdecode]

end se_runtime.record
