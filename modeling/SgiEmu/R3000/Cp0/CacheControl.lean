import SgiEmu.Library.Mask
import SgiEmu.R3000.Cp0
import Mathlib.Tactic.IntervalCases

open se_core Library.Mask

namespace se_cpu.cp0

/-! ## Which CP0 updates reach the `IsC|SwC` bits of Status -/

theorem CacheControl.from_status_congr {status status' : U32}
    (hisc : status' &&& STATUS_ISC = status &&& STATUS_ISC)
    (hswc : status' &&& STATUS_SWC = status &&& STATUS_SWC) :
    from_status status' = from_status status := by
  rw [from_status, from_status, hisc, hswc]

/-- Reading back the bits a cache control stands for. -/
theorem CacheControl.from_status_bits (control : CacheControl) :
    from_status control.status_bits = control := by
  obtain ⟨isolated, swapped⟩ := control
  cases isolated <;> cases swapped <;> decide

namespace Cp0

/-- A transfer to Status stores the bits of its value, whatever Status held. -/
theorem from_status_after_write (cp0 : Cp0) (value : U32) :
    CacheControl.from_status (cp0.status_after_write value) = .from_status value := by
  have hfield : ∀ field : U32, ~~~(STATUS_WRITABLE_MASK ||| STATUS_PE) &&& field = 0 →
      STATUS_PE &&& field = 0 → STATUS_WRITABLE_MASK &&& field = field →
      cp0.status_after_write value &&& field = value &&& field := by
    intro field hpreserved hparity hwritable
    have hparity' : (if value &&& STATUS_PE = 0 then cp0.status &&& STATUS_PE else 0) &&& field = 0 := by
      split
      · rw [BitVec.and_assoc, hparity]
        exact BitVec.and_zero
      · exact BitVec.zero_and
    have hpreserved' : (cp0.status &&& ~~~(STATUS_WRITABLE_MASK ||| STATUS_PE)) &&& field = 0 := by
      rw [BitVec.and_assoc, hpreserved]
      exact BitVec.and_zero
    rw [status_after_write, or_and_of_disjoint hparity', or_and_of_disjoint_left hpreserved',
      BitVec.and_assoc, hwritable]
  exact CacheControl.from_status_congr (hfield _ (by decide) (by decide) (by decide))
    (hfield _ (by decide) (by decide) (by decide))

@[simp] theorem set_status_cache_control_status_cache_control (cp0 : Cp0) (control : CacheControl) :
    (cp0.set_status_cache_control control).status_cache_control = control := by
  have hfield : ∀ field : U32, ~~~(STATUS_ISC ||| STATUS_SWC) &&& field = 0 →
      (cp0.set_status_cache_control control).status &&& field = control.status_bits &&& field := by
    intro field hcleared
    refine or_and_of_disjoint_left ?_
    rw [BitVec.and_assoc, hcleared]
    exact BitVec.and_zero
  calc (cp0.set_status_cache_control control).status_cache_control
      = .from_status control.status_bits :=
        CacheControl.from_status_congr (hfield _ (by decide)) (hfield _ (by decide))
    _ = control := control.from_status_bits

@[simp] theorem set_hardware_interrupt_line_status_cache_control (cp0 : Cp0) (input : Nat)
    (asserted : Bool) :
    (cp0.set_hardware_interrupt_line input asserted).status_cache_control = cp0.status_cache_control := by
  cases asserted <;> rfl

@[simp] theorem set_cache_miss_status_cache_control (cp0 : Cp0) (miss : Bool) :
    (cp0.set_cache_miss miss).status_cache_control = cp0.status_cache_control := by
  cases miss with
  | true =>
    exact CacheControl.from_status_congr (or_and_of_disjoint (by decide)) (or_and_of_disjoint (by decide))
  | false =>
    exact CacheControl.from_status_congr (and_not_and_of_disjoint (by decide))
      (and_not_and_of_disjoint (by decide))

@[simp] theorem enter_tlb_shutdown_status_cache_control (cp0 : Cp0) :
    cp0.enter_tlb_shutdown.status_cache_control = cp0.status_cache_control :=
  CacheControl.from_status_congr (or_and_of_disjoint (by decide)) (or_and_of_disjoint (by decide))

@[simp] theorem commit_pending_functional_status_cache_control (cp0 : Cp0) :
    cp0.commit_pending_functional.status_cache_control = cp0.status_cache_control := by
  unfold Cp0.commit_pending_functional
  split <;> rfl

@[simp] theorem advance_random_status_cache_control (cp0 : Cp0) :
    cp0.advance_random.status_cache_control = cp0.status_cache_control := rfl

/-- Of all register transfers only one to Status moves the bits. -/
theorem write_register_status_cache_control (cp0 : Cp0) (index : Nat) (value : U32) :
    (cp0.write_register index value).status_cache_control =
      if index = 12 then .from_status value else cp0.status_cache_control := by
  by_cases hindex : index = 12
  · subst hindex
    rw [if_pos rfl]
    exact cp0.from_status_after_write value
  · rw [if_neg hindex]
    unfold Cp0.write_register
    split
    case h_8 => exact absurd rfl hindex
    all_goals rfl

@[simp] theorem restore_status_status_cache_control (cp0 : Cp0) (value : U32) :
    (cp0.restore_status value).status_cache_control = cp0.status_cache_control := by
  have hvalue : ∀ field : U32, 0x0f#32 &&& field = 0 → (value &&& 0x0f#32) &&& field = 0 := by
    intro field hfield
    rw [BitVec.and_assoc, hfield]
    exact BitVec.and_zero
  exact CacheControl.from_status_congr
    (replace_and_of_disjoint (by decide) (hvalue _ (by decide)))
    (replace_and_of_disjoint (by decide) (hvalue _ (by decide)))

@[simp] theorem take_exception_status_cache_control (cp0 : Cp0) (exception : Exception) (epc : U32)
    (in_delay_slot : Bool) :
    (cp0.take_exception exception epc in_delay_slot).2.status_cache_control =
      cp0.status_cache_control := by
  have hstack : ∀ field : U32, STATUS_MODE_STACK_MASK &&& field = 0 →
      ((cp0.status <<< 2) &&& STATUS_MODE_STACK_MASK) &&& field = 0 := by
    intro field hfield
    rw [BitVec.and_assoc, hfield]
    exact BitVec.and_zero
  exact CacheControl.from_status_congr
    (replace_and_of_disjoint (by decide) (hstack _ (by decide)))
    (replace_and_of_disjoint (by decide) (hstack _ (by decide)))

end Cp0

end se_cpu.cp0
