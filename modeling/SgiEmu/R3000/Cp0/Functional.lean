import SgiEmu.Library.Mask
import SgiEmu.R3000.Cp0
import Mathlib.Tactic.IntervalCases

open se_core Library.Mask

namespace se_cpu.cp0

/-! ## The functional view of two registers -/

/-- The view of Status and Cause only reads the fields the functional masks name. -/
theorem FunctionalState.from_registers_congr {status status' cause cause' : U32}
    (hcu : status' &&& STATUS_CU_MASK = status &&& STATUS_CU_MASK)
    (hic : status' &&& STATUS_INTERRUPT_CONTROL_MASK = status &&& STATUS_INTERRUPT_CONTROL_MASK)
    (hip : cause' &&& CAUSE_SOFTWARE_IP_MASK = cause &&& CAUSE_SOFTWARE_IP_MASK) :
    from_registers status' cause' = from_registers status cause := by
  rw [from_registers, from_registers, hcu, hic, hip]

/-- `IEc` is one of the interrupt-control bits. -/
theorem interrupt_control_and_iec (status : U32) :
    (status &&& STATUS_INTERRUPT_CONTROL_MASK) &&& STATUS_IEC = status &&& STATUS_IEC := by
  rw [BitVec.and_assoc]
  congr 1

namespace Cp0

/-- The CP0 functional view converges to the registers: what is pending, or else
what is in effect, is the view of Status and Cause, and `IEc` is only in effect
while Status holds it. -/
structure Converges (cp0 : Cp0) : Prop where
  functional :
    cp0.pending_functional.getD cp0.effective = .from_registers cp0.status cp0.cause
  interrupt_enable :
    cp0.effective.interrupt_control &&& STATUS_IEC ≠ 0 → cp0.status &&& STATUS_IEC ≠ 0

/-- No functional change is waiting and the view in effect is that of the registers. -/
structure Settled (cp0 : Cp0) : Prop where
  pending : cp0.pending_functional = none
  effective : cp0.effective = .from_registers cp0.status cp0.cause

theorem Settled.converges {cp0 : Cp0} (h : cp0.Settled) : cp0.Converges where
  functional := by rw [h.pending, Option.getD_none, h.effective]
  interrupt_enable := by
    rw [h.effective]
    simp only [FunctionalState.from_registers, interrupt_control_and_iec]
    exact id

/-- An update that leaves both functional views and the view of the registers
keeps convergence. -/
theorem Converges.of_same_view {cp0 cp0' : Cp0} (h : cp0.Converges)
    (heffective : cp0'.effective = cp0.effective)
    (hpending : cp0'.pending_functional = cp0.pending_functional)
    (hview : FunctionalState.from_registers cp0'.status cp0'.cause =
      .from_registers cp0.status cp0.cause) : cp0'.Converges where
  functional := by rw [heffective, hpending, h.functional, hview]
  interrupt_enable := by
    intro hiec
    rw [heffective] at hiec
    have hstatus := h.interrupt_enable hiec
    have hcontrol := congrArg FunctionalState.interrupt_control hview
    simp only [FunctionalState.from_registers] at hcontrol
    rwa [← interrupt_control_and_iec, hcontrol, interrupt_control_and_iec]

theorem new_settled : new.Settled := ⟨rfl, rfl⟩

theorem reset_settled (cp0 : Cp0) (interrupted_pc : U32) : (cp0.reset interrupted_pc).Settled :=
  ⟨rfl, rfl⟩

/-- Committing the pending change settles the view. -/
theorem Converges.commit_pending_functional {cp0 : Cp0} (h : cp0.Converges) :
    cp0.commit_pending_functional.Settled := by
  cases hpending : cp0.pending_functional with
  | none =>
    have hview := h.functional
    rw [hpending, Option.getD_none] at hview
    simp only [Cp0.commit_pending_functional, hpending]
    exact ⟨hpending, hview⟩
  | some functional =>
    have hview := h.functional
    rw [hpending, Option.getD_some] at hview
    simp only [Cp0.commit_pending_functional, hpending]
    exact ⟨rfl, hview⟩

/-! ## Guest register transfers -/

theorem Settled.write_status {cp0 : Cp0} (h : cp0.Settled) (value : U32) :
    (cp0.write_status value).Converges := by
  constructor
  · have hip := congrArg FunctionalState.software_interrupts h.effective
    simp only [FunctionalState.from_registers] at hip
    simp only [Cp0.write_status, Option.getD_some, FunctionalState.from_registers]
    split <;> simp only [hip]
  · simp only [Cp0.write_status]
    by_cases hiec : cp0.status_after_write value &&& STATUS_IEC = 0
    · -- clearing `IEc` takes effect at once
      rw [if_pos hiec]
      intro heffective
      exact absurd and_not_and_self heffective
    · exact fun _ => hiec

theorem Settled.write_cause {cp0 : Cp0} (h : cp0.Settled) (value : U32) :
    (cp0.write_cause value).Converges where
  functional := by
    simp only [Cp0.write_cause, Option.getD_some, h.effective, FunctionalState.from_registers]
  interrupt_enable := h.converges.interrupt_enable

/-- Whatever register a pending transfer names, writing it over a settled view
leaves a view that converges. -/
theorem Settled.write_register {cp0 : Cp0} (h : cp0.Settled) (index : Nat) (value : U32) :
    (cp0.write_register index value).Converges := by
  unfold Cp0.write_register
  split
  case h_8 => exact h.write_status value
  case h_9 => exact h.write_cause value
  all_goals exact h.converges.of_same_view rfl rfl rfl

/-! ## Updates outside the functional fields -/

theorem set_status_cache_control_view (cp0 : Cp0) (control : CacheControl) :
    FunctionalState.from_registers (cp0.set_status_cache_control control).status cp0.cause =
      .from_registers cp0.status cp0.cause := by
  have hbits : control.status_bits &&& STATUS_CU_MASK = 0 ∧
      control.status_bits &&& STATUS_INTERRUPT_CONTROL_MASK = 0 := by
    obtain ⟨isolated, swapped⟩ := control
    cases isolated <;> cases swapped <;> decide
  exact FunctionalState.from_registers_congr (replace_and_of_disjoint (by decide) hbits.1)
    (replace_and_of_disjoint (by decide) hbits.2) rfl

theorem Converges.set_status_cache_control {cp0 : Cp0} (h : cp0.Converges) (control : CacheControl) :
    (cp0.set_status_cache_control control).Converges :=
  h.of_same_view rfl rfl (cp0.set_status_cache_control_view control)

theorem Converges.set_cache_miss {cp0 : Cp0} (h : cp0.Converges) (miss : Bool) :
    (cp0.set_cache_miss miss).Converges := by
  cases miss with
  | true =>
    exact h.of_same_view rfl rfl (FunctionalState.from_registers_congr
      (or_and_of_disjoint (by decide)) (or_and_of_disjoint (by decide)) rfl)
  | false =>
    exact h.of_same_view rfl rfl (FunctionalState.from_registers_congr
      (and_not_and_of_disjoint (by decide)) (and_not_and_of_disjoint (by decide)) rfl)

theorem Converges.enter_tlb_shutdown {cp0 : Cp0} (h : cp0.Converges) :
    cp0.enter_tlb_shutdown.Converges :=
  h.of_same_view rfl rfl (FunctionalState.from_registers_congr
    (or_and_of_disjoint (by decide)) (or_and_of_disjoint (by decide)) rfl)

/-- A hardware interrupt input lies above both software-interrupt bits. -/
theorem hardware_line_disjoint (input : Nat) :
    (1#32 <<< (input + 10)) &&& CAUSE_SOFTWARE_IP_MASK = 0 := by
  unfold CAUSE_SOFTWARE_IP_MASK
  ext i hi
  by_cases hlt : i < input + 10
  · simp [hlt]
  · have hten : 10 ≤ i := by omega
    interval_cases i <;> simp

theorem Converges.set_hardware_interrupt_line {cp0 : Cp0} (h : cp0.Converges) (input : Nat)
    (asserted : Bool) : (cp0.set_hardware_interrupt_line input asserted).Converges := by
  cases asserted with
  | true =>
    exact h.of_same_view rfl rfl (FunctionalState.from_registers_congr rfl rfl
      (or_and_of_disjoint (hardware_line_disjoint input)))
  | false =>
    exact h.of_same_view rfl rfl (FunctionalState.from_registers_congr rfl rfl
      (and_not_and_of_disjoint (hardware_line_disjoint input)))

/-! ## The mode stack -/

/-- `rfe` moves `IEc` in both functional views together with the register. -/
theorem Converges.restore_status {cp0 : Cp0} (h : cp0.Converges) (value : U32) :
    (cp0.restore_status value).Converges := by
  have hcu : ((cp0.status &&& ~~~0x0f#32) ||| (value &&& 0x0f#32)) &&& STATUS_CU_MASK =
      cp0.status &&& STATUS_CU_MASK := by
    refine replace_and_of_disjoint (by decide) ?_
    rw [BitVec.and_assoc]
    exact BitVec.and_zero
  have hic : ∀ status : U32,
      ((status &&& ~~~0x0f#32) ||| (value &&& 0x0f#32)) &&& STATUS_INTERRUPT_CONTROL_MASK =
        ((status &&& STATUS_INTERRUPT_CONTROL_MASK) &&& ~~~STATUS_IEC) |||
          (((status &&& ~~~0x0f#32) ||| (value &&& 0x0f#32)) &&& STATUS_IEC) := by
    intro status
    unfold STATUS_INTERRUPT_CONTROL_MASK STATUS_IEC
    ext i hi
    interval_cases i <;> simp
  constructor
  · simp only [Cp0.restore_status, Option.getD_map, h.functional, FunctionalState.from_registers]
    rw [hcu, hic cp0.status]
  · simp only [Cp0.restore_status]
    generalize ((cp0.status &&& ~~~0x0f#32) ||| (value &&& 0x0f#32)) = status
    rw [replace_and_self]
    exact id

/-- Exception entry shifts the mode stack, which clears `IEc` in the register and
in both functional views. -/
theorem Converges.take_exception {cp0 : Cp0} (h : cp0.Converges) (exception : Exception) (epc : U32)
    (in_delay_slot : Bool) : (cp0.take_exception exception epc in_delay_slot).2.Converges := by
  have hcu : ∀ status : U32,
      ((status &&& ~~~STATUS_MODE_STACK_MASK) ||| ((status <<< 2) &&& STATUS_MODE_STACK_MASK)) &&&
        STATUS_CU_MASK = status &&& STATUS_CU_MASK := by
    intro status
    refine replace_and_of_disjoint (by decide) ?_
    rw [BitVec.and_assoc]
    exact BitVec.and_zero
  have hic : ∀ status : U32,
      ((status &&& ~~~STATUS_MODE_STACK_MASK) ||| ((status <<< 2) &&& STATUS_MODE_STACK_MASK)) &&&
        STATUS_INTERRUPT_CONTROL_MASK =
      (status &&& STATUS_INTERRUPT_CONTROL_MASK) &&& ~~~STATUS_IEC := by
    intro status
    unfold STATUS_MODE_STACK_MASK STATUS_INTERRUPT_CONTROL_MASK STATUS_IEC
    ext i hi
    interval_cases i <;> simp
  have hcode : ((exception_parameters exception).1 <<< 2) &&& CAUSE_SOFTWARE_IP_MASK = 0 := by
    cases exception <;> simp only [exception_parameters] <;> decide
  have hce : (exception_coprocessor exception <<< CAUSE_CE_SHIFT) &&& CAUSE_SOFTWARE_IP_MASK = 0 := by
    generalize exception_coprocessor exception = unit
    unfold CAUSE_CE_SHIFT CAUSE_SOFTWARE_IP_MASK
    ext i hi
    interval_cases i <;> simp
  have hbd : (if in_delay_slot then CAUSE_BD else 0) &&& CAUSE_SOFTWARE_IP_MASK = 0 := by
    cases in_delay_slot <;> decide
  have hip : ∀ cause : U32, (cause &&& CAUSE_IP_MASK) &&& CAUSE_SOFTWARE_IP_MASK =
      cause &&& CAUSE_SOFTWARE_IP_MASK := by
    intro cause
    rw [BitVec.and_assoc]
    congr 1
  constructor
  · simp only [Cp0.take_exception, Option.getD_map, h.functional, FunctionalState.from_registers,
      hcu, hic]
    rw [or_and_of_disjoint hcode, or_and_of_disjoint hce, or_and_of_disjoint hbd, hip]
  · intro hiec
    exact absurd and_not_and_self hiec

/-- Register updates that reach neither Status, Cause nor the functional views. -/
theorem Converges.advance_random {cp0 : Cp0} (h : cp0.Converges) : cp0.advance_random.Converges :=
  h.of_same_view rfl rfl rfl

theorem Converges.write_tlb_read_result {cp0 : Cp0} (h : cp0.Converges) (entry_hi entry_lo : U32) :
    (cp0.write_tlb_read_result entry_hi entry_lo).Converges :=
  h.of_same_view rfl rfl rfl

theorem Converges.write_tlb_probe_result {cp0 : Cp0} (h : cp0.Converges) (index : U32) :
    (cp0.write_tlb_probe_result index).Converges :=
  h.of_same_view rfl rfl rfl

/-- An interrupt is only requested while Status enables it. -/
theorem Converges.interrupt_requested {cp0 : Cp0} (h : cp0.Converges)
    (hrequest : cp0.interrupt_requested = true) : cp0.status &&& STATUS_IEC ≠ 0 := by
  refine h.interrupt_enable ?_
  simp only [Cp0.interrupt_requested, Bool.and_eq_true, bne_iff_ne, ne_eq] at hrequest
  exact hrequest.1

end Cp0

end se_cpu.cp0
