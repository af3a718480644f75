import Mathlib.Tactic.Ring

/-! Registers seen through a mask: which updates a masked field does not notice. -/

namespace Library.Mask

variable {w : Nat} {word bits field mask : BitVec w}

/-- Setting bits outside a field leaves the field. -/
theorem or_and_of_disjoint (h : bits &&& field = 0) : (word ||| bits) &&& field = word &&& field := by
  rw [BitVec.and_or_distrib_right, h]
  exact BitVec.or_zero

/-- The word may also be given after the bits that are set. -/
theorem or_and_of_disjoint_left (h : bits &&& field = 0) :
    (bits ||| word) &&& field = word &&& field := by
  rw [BitVec.or_comm, or_and_of_disjoint h]

/-- Clearing bits outside a field leaves the field. -/
theorem and_not_and_of_disjoint (h : mask &&& field = 0) :
    (word &&& ~~~mask) &&& field = word &&& field := by
  have hfield : ~~~mask &&& field = field := by
    ext i hi
    have hbit := congrArg (fun v => v[i]) h
    simp only [BitVec.getElem_and, BitVec.getElem_not] at hbit ⊢
    cases hmask : mask[i]
    · exact Bool.true_and _
    · rw [hmask, Bool.true_and] at hbit
      rw [hbit]
      exact (BitVec.getElem_zero hi).symm
  rw [BitVec.and_assoc, hfield]

/-- A cleared field reads zero. -/
@[simp] theorem and_not_and_self : (word &&& ~~~mask) &&& mask = 0 := by
  rw [BitVec.and_assoc, BitVec.not_and_self]
  exact BitVec.and_zero

/-- A field that was cleared and refilled reads what it was refilled with. -/
theorem replace_and_self : ((word &&& ~~~mask) ||| (bits &&& mask)) &&& mask = bits &&& mask := by
  rw [BitVec.and_or_distrib_right, and_not_and_self, BitVec.and_assoc, BitVec.and_self]
  exact BitVec.zero_or

/-- Replacing the bits under a mask leaves every field outside it. -/
theorem replace_and_of_disjoint (hmask : mask &&& field = 0) (hbits : bits &&& field = 0) :
    ((word &&& ~~~mask) ||| bits) &&& field = word &&& field := by
  rw [or_and_of_disjoint hbits, and_not_and_of_disjoint hmask]

/-! ## Low masks as remainders -/

/-- Keeping the low `k` bits is a remainder. -/
theorem toNat_and_low {k : Nat} (hmask : mask.toNat = 2 ^ k - 1) :
    (word &&& mask).toNat = word.toNat % 2 ^ k := by
  rw [BitVec.toNat_and, hmask]
  exact Nat.and_two_pow_sub_one_eq_mod word.toNat k

/-- Clearing the low `k` bits rounds down to a multiple of `2 ^ k`. -/
theorem toNat_and_not_low {k : Nat} (hmask : mask.toNat = 2 ^ k - 1) :
    (word &&& ~~~mask).toNat = word.toNat - word.toNat % 2 ^ k := by
  have hdisjoint : (word &&& ~~~mask) &&& (word &&& mask) = 0#w := by
    rw [BitVec.and_comm word mask, ← BitVec.and_assoc, and_not_and_self]
    exact BitVec.zero_and
  have hsum : (word &&& ~~~mask) + (word &&& mask) = word := by
    rw [BitVec.add_eq_or_of_and_eq_zero _ _ hdisjoint, ← BitVec.and_or_distrib_left, BitVec.or_comm,
      BitVec.or_not_self, BitVec.and_allOnes]
  have hlow : (word &&& mask).toNat = word.toNat % 2 ^ k := toNat_and_low hmask
  have hle : (word &&& ~~~mask).toNat ≤ word.toNat := by
    rw [BitVec.toNat_and]
    exact Nat.and_le_left
  have hnat := congrArg BitVec.toNat hsum
  rw [BitVec.toNat_add, hlow] at hnat
  have hword := word.isLt
  have hmod : word.toNat % 2 ^ k ≤ word.toNat := Nat.mod_le _ _
  rcases Nat.lt_or_ge ((word &&& ~~~mask).toNat + word.toNat % 2 ^ k) (2 ^ w) with hlt | hge
  · rw [Nat.mod_eq_of_lt hlt] at hnat
    omega
  · -- a wrapped sum would be smaller than either part
    rw [Nat.mod_eq_sub_mod hge, Nat.mod_eq_of_lt (by omega)] at hnat
    omega

end Library.Mask
