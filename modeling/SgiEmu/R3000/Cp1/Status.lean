import SgiEmu.R3000.Cp1
import SgiEmu.Library.Mask
import Mathlib.Tactic.IntervalCases

open se_core se_float Library.Mask

namespace se_cpu.cp1

/-- The sticky flags of the control status. -/
def CONTROL_STATUS_FLAG_MASK : U32 := 0x0000007c#32

namespace Cp1

variable {cp1 : Cp1} {update : Fcr31Update}

/-! ## Fields of the control status -/

/-- The five exceptions an update reports. -/
def FLAG_BITS : U8 := 0x1f#8

theorem disjoint_cause (flags : U8) (hflags : flags &&& ~~~FLAG_BITS = 0) :
    (flags.setWidth 32 <<< CONTROL_STATUS_CAUSE_SHIFT) &&& CONTROL_STATUS_ENABLE_MASK = 0 ∧
      (flags.setWidth 32 <<< CONTROL_STATUS_CAUSE_SHIFT) &&& CONTROL_STATUS_FLAG_MASK = 0 ∧
      (flags.setWidth 32 <<< CONTROL_STATUS_CAUSE_SHIFT) &&& CONTROL_STATUS_CONDITION = 0 ∧
      (flags.setWidth 32 <<< CONTROL_STATUS_CAUSE_SHIFT) &&& CONTROL_STATUS_UNIMPLEMENTED = 0 ∧
      (flags.setWidth 32 <<< CONTROL_STATUS_CAUSE_SHIFT) &&& CONTROL_STATUS_CAUSE_MASK =
        flags.setWidth 32 <<< CONTROL_STATUS_CAUSE_SHIFT := by
  revert flags
  decide

theorem disjoint_flags (flags : U8) (hflags : flags &&& ~~~FLAG_BITS = 0) :
    (flags.setWidth 32 <<< CONTROL_STATUS_FLAG_SHIFT) &&& CONTROL_STATUS_ENABLE_MASK = 0 ∧
      (flags.setWidth 32 <<< CONTROL_STATUS_FLAG_SHIFT) &&& CONTROL_STATUS_CAUSE_MASK = 0 ∧
      (flags.setWidth 32 <<< CONTROL_STATUS_FLAG_SHIFT) &&& CONTROL_STATUS_CONDITION = 0 ∧
      (flags.setWidth 32 <<< CONTROL_STATUS_FLAG_SHIFT) &&& CONTROL_STATUS_UNIMPLEMENTED = 0 ∧
      (flags.setWidth 32 <<< CONTROL_STATUS_FLAG_SHIFT) &&& CONTROL_STATUS_FLAG_MASK =
        flags.setWidth 32 <<< CONTROL_STATUS_FLAG_SHIFT := by
  revert flags
  decide

/-- An update reports no exception but the five. -/
structure Reports (update : Fcr31Update) : Prop where
  cause : update.cause.bits &&& ~~~FLAG_BITS = 0
  sticky : update.sticky_flags.bits &&& ~~~FLAG_BITS = 0

/-- The enables as a field and as a set of exceptions. -/
theorem enable_field (cp1 : Cp1) : cp1.control_status &&& CONTROL_STATUS_ENABLE_MASK =
    cp1.enabled_exceptions.bits.setWidth 32 <<< CONTROL_STATUS_ENABLE_SHIFT := by
  generalize hstatus : cp1.control_status = status
  simp only [enabled_exceptions, ExceptionFlags.from_bits_retain, hstatus]
  ext i hi
  simp only [CONTROL_STATUS_ENABLE_MASK, CONTROL_STATUS_ENABLE_SHIFT]
  interval_cases i
  all_goals simp

/-- What an update leaves of the control status: its own cause, its flags beside the
older ones, and the enables and the condition as they were. -/
structure Updated (cp1 : Cp1) (update : Fcr31Update) (next : Cp1) : Prop where
  registers : next.registers = cp1.registers
  cause : next.control_status &&& CONTROL_STATUS_CAUSE_MASK = update.cause.bits.setWidth 32 <<< CONTROL_STATUS_CAUSE_SHIFT
  flags : next.control_status &&& CONTROL_STATUS_FLAG_MASK =
    cp1.control_status &&& CONTROL_STATUS_FLAG_MASK ||| update.sticky_flags.bits.setWidth 32 <<< CONTROL_STATUS_FLAG_SHIFT
  enables : next.control_status &&& CONTROL_STATUS_ENABLE_MASK = cp1.control_status &&& CONTROL_STATUS_ENABLE_MASK
  condition : next.condition = cp1.condition
  unimplemented : (next.control_status &&& CONTROL_STATUS_UNIMPLEMENTED != 0) = update.unimplemented

theorem apply_fcr31_update_spec (cp1 : Cp1) (h : Reports update) : Updated cp1 update (cp1.apply_fcr31_update update) := by
  obtain ⟨hcause_enable, hcause_flag, hcause_condition, hcause_unimplemented, hcause⟩ := disjoint_cause _ h.cause
  obtain ⟨hflag_enable, hflag_cause, hflag_condition, hflag_unimplemented, hflag⟩ := disjoint_flags _ h.sticky
  have hor (word : U32) : word ||| 0 = word := BitVec.or_zero
  have hzero_or (word : U32) : 0 ||| word = word := BitVec.zero_or
  have hcleared : ∀ field, (CONTROL_STATUS_CAUSE_MASK ||| CONTROL_STATUS_UNIMPLEMENTED) &&& field = 0 →
      (update.cause.bits.setWidth 32 <<< CONTROL_STATUS_CAUSE_SHIFT) &&& field = 0 →
      CONTROL_STATUS_UNIMPLEMENTED &&& field = 0 →
      (cp1.apply_fcr31_update update).control_status &&& field =
        cp1.control_status &&& field ||| (update.sticky_flags.bits.setWidth 32 <<< CONTROL_STATUS_FLAG_SHIFT) &&& field := by
    intro field hmask hcause hunimplemented
    unfold apply_fcr31_update
    dsimp only
    split
    · rw [or_and_of_disjoint hunimplemented, BitVec.and_or_distrib_right, or_and_of_disjoint hcause,
        and_not_and_of_disjoint hmask]
    · rw [BitVec.and_or_distrib_right, or_and_of_disjoint hcause, and_not_and_of_disjoint hmask]
  have henables := hcleared CONTROL_STATUS_ENABLE_MASK (by decide) hcause_enable (by decide)
  have hcondition := hcleared CONTROL_STATUS_CONDITION (by decide) hcause_condition (by decide)
  have hflags := hcleared CONTROL_STATUS_FLAG_MASK (by decide) hcause_flag (by decide)
  rw [hflag_enable, hor] at henables
  rw [hflag_condition, hor] at hcondition
  rw [hflag] at hflags
  refine ⟨rfl, ?_, hflags, henables, ?_, ?_⟩
  · have hzero : (cp1.control_status &&& ~~~(CONTROL_STATUS_CAUSE_MASK ||| CONTROL_STATUS_UNIMPLEMENTED)) &&&
        CONTROL_STATUS_CAUSE_MASK = 0 := by
      have hmask : ~~~(CONTROL_STATUS_CAUSE_MASK ||| CONTROL_STATUS_UNIMPLEMENTED) &&& CONTROL_STATUS_CAUSE_MASK = 0 := by
        decide
      rw [BitVec.and_assoc, hmask]
      exact BitVec.and_zero
    unfold apply_fcr31_update
    dsimp only
    split
    · rw [or_and_of_disjoint (by decide), or_and_of_disjoint hflag_cause, BitVec.and_or_distrib_right, hzero,
        hzero_or, hcause]
    · rw [or_and_of_disjoint hflag_cause, BitVec.and_or_distrib_right, hzero, hzero_or, hcause]
  · simp only [condition, hcondition]
  · have hzero : (cp1.control_status &&& ~~~(CONTROL_STATUS_CAUSE_MASK ||| CONTROL_STATUS_UNIMPLEMENTED)) &&&
        CONTROL_STATUS_UNIMPLEMENTED = 0 := by
      have hmask : ~~~(CONTROL_STATUS_CAUSE_MASK ||| CONTROL_STATUS_UNIMPLEMENTED) &&& CONTROL_STATUS_UNIMPLEMENTED =
          0 := by decide
      rw [BitVec.and_assoc, hmask]
      exact BitVec.and_zero
    unfold apply_fcr31_update
    dsimp only
    split
    case isTrue hset =>
      rw [BitVec.and_or_distrib_right, or_and_of_disjoint hflag_unimplemented, or_and_of_disjoint hcause_unimplemented,
        hzero, hset]
      decide
    case isFalse hclear =>
      rw [or_and_of_disjoint hflag_unimplemented, or_and_of_disjoint hcause_unimplemented, hzero]
      simp only [bne_self_eq_false, Bool.not_eq_true] at hclear ⊢
      exact hclear.symm

/-- The interrupt after an update: an unimplemented operation, or a cause that is
enabled. -/
theorem Updated.interrupt {next : Cp1} (h : Updated cp1 update next) (hreports : Reports update) :
    next.interrupt_asserted = (update.unimplemented || !(update.cause &&& cp1.enabled_exceptions).is_empty) := by
  obtain ⟨hregisters, hcause, hflags, henables, hcondition, hunimplemented⟩ := h
  have hcauses : (next.control_status &&& CONTROL_STATUS_CAUSE_MASK) >>> 5 &&& next.control_status &&&
      CONTROL_STATUS_ENABLE_MASK =
        (update.cause &&& cp1.enabled_exceptions).bits.setWidth 32 <<< CONTROL_STATUS_ENABLE_SHIFT := by
    rw [BitVec.and_assoc, henables, enable_field, hcause]
    have hshift : (update.cause.bits.setWidth 32 <<< CONTROL_STATUS_CAUSE_SHIFT : U32) >>> 5 =
        update.cause.bits.setWidth 32 <<< CONTROL_STATUS_ENABLE_SHIFT := by
      have hcause := hreports.cause
      generalize update.cause.bits = cause at hcause
      revert cause
      decide
    rw [hshift, ← BitVec.shiftLeft_and_distrib, ← BitVec.setWidth_and]
    rfl
  have hempty : ∀ flags : U8, ((flags.setWidth 32 <<< CONTROL_STATUS_ENABLE_SHIFT : U32) != 0) = !(flags == 0) := by
    decide
  simp only [interrupt_asserted, hunimplemented, hcauses, hempty, ExceptionFlags.is_empty]

end Cp1

end se_cpu.cp1
