import Mathlib.Algebra.Ring.Nat
import Mathlib.Tactic.Common

namespace se_core

abbrev U8 := BitVec 8
abbrev U16 := BitVec 16
abbrev U32 := BitVec 32
abbrev U64 := BitVec 64

/-- `i32` shares the words of `u32`, so a cast between the two is the identity. -/
abbrev I32 := BitVec 32

/-! Lengths of the arrays that literals index. -/

instance (priority := 2000) neZero_two : NeZero 2 := ⟨by decide⟩
instance (priority := 2000) neZero_three : NeZero 3 := ⟨by decide⟩
instance (priority := 2000) neZero_twelve : NeZero 12 := ⟨by decide⟩
instance (priority := 2000) neZero_sixteen : NeZero 16 := ⟨by decide⟩

/-- Rust's `checked_add` on an unsigned integer of any width. -/
def checked_add {w : Nat} (a b : BitVec w) : Option (BitVec w) :=
  if a.uaddOverflow b then none else some (a + b)

theorem checked_add_eq_some {w : Nat} {a b c : BitVec w} (h : checked_add a b = some c) :
    c.toNat = a.toNat + b.toNat := by
  unfold checked_add at h
  split at h
  · cases h
  · rename_i hfit
    cases h
    simp only [BitVec.uaddOverflow, ge_iff_le, decide_eq_true_eq, Nat.not_le] at hfit
    rw [BitVec.toNat_add, Nat.mod_eq_of_lt hfit]

/-- `u32::from_be_bytes`. -/
def from_be_bytes (bytes : Vector U8 4) : U32 :=
  bytes[0] ++ bytes[1] ++ bytes[2] ++ bytes[3]

/-- `u32::to_be_bytes`. -/
def to_be_bytes (value : U32) : Vector U8 4 :=
  #v[value.extractLsb' 24 8, value.extractLsb' 16 8, value.extractLsb' 8 8, value.extractLsb' 0 8]

theorem extractLsb'_append (x y z w : U8) :
    (x ++ y ++ z ++ w).extractLsb' 24 8 = x ∧ (x ++ y ++ z ++ w).extractLsb' 16 8 = y ∧
      (x ++ y ++ z ++ w).extractLsb' 8 8 = z ∧ (x ++ y ++ z ++ w).extractLsb' 0 8 = w := by
  refine ⟨?_, ?_, ?_, ?_⟩
  all_goals
    refine BitVec.eq_of_getLsbD_eq fun i hi => ?_
    simp only [BitVec.getLsbD_extractLsb', BitVec.getLsbD_append, hi, decide_true, Bool.true_and]
    split_ifs <;> first | omega | (congr 1; omega)

theorem to_be_bytes_from_be_bytes (bytes : Vector U8 4) : to_be_bytes (from_be_bytes bytes) = bytes := by
  obtain ⟨h0, h1, h2, h3⟩ := extractLsb'_append bytes[0] bytes[1] bytes[2] bytes[3]
  refine Vector.ext fun i hi => ?_
  have hcases : i = 0 ∨ i = 1 ∨ i = 2 ∨ i = 3 := by omega
  obtain rfl | rfl | rfl | rfl := hcases
  · exact h0
  · exact h1
  · exact h2
  · exact h3

end se_core
