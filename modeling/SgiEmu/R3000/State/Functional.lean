import SgiEmu.R3000.State.Operations

open se_core se_cpu.cp0

namespace se_cpu.state

variable {β : Type}

namespace State

/-- Committing at a boundary settles the older functional change before the
pending transfer starts its own. -/
theorem committed_cp0_converges {state : State} (h : state.cp0.Converges) :
    state.committed_cp0.Converges := by
  unfold committed_cp0
  split
  · exact h.commit_pending_functional.write_register _ _
  · exact h.commit_pending_functional.converges

theorem restore_cache_context_converges {state : State} (h : state.cp0.Converges) :
    state.restore_cache_context.cp0.Converges := by
  unfold restore_cache_context
  split
  · exact h.set_status_cache_control _
  · exact h

theorem apply_effect_converges {state : State} (h : state.cp0.Converges)
    (effect : Option InstructionEffect) : (state.apply_effect effect).cp0.Converges := by
  cases effect with
  | none => exact h
  | some effect =>
    cases effect with
    | DelayedCp0Write index value =>
      rw [apply_effect, note_status_transfer_frame]
      exact h
    | TlbRead entry_hi entry_lo => exact h.write_tlb_read_result entry_hi entry_lo
    | TlbProbe index => exact h.write_tlb_probe_result index
    | RestoreStatus value => exact restore_cache_context_converges (h.restore_status value)
    | _ => exact h

theorem complete_instruction_converges {state : State} (h : state.cp0.Converges)
    (delayed_resume_pc : Option U32) (effect : Option InstructionEffect) :
    (state.complete_instruction delayed_resume_pc effect).cp0.Converges := by
  have hcommitted : state.commit_pending_writes.cp0.Converges := by
    rw [commit_pending_writes_eq]
    exact committed_cp0_converges h
  exact (apply_effect_converges hcommitted effect).advance_random

theorem take_exception_converges {state : State} (h : state.cp0.Converges) (exception : Exception) :
    (state.take_exception exception).cp0.Converges := by
  have hcommitted : state.commit_pending_writes.cp0.Converges := by
    rw [commit_pending_writes_eq]
    exact committed_cp0_converges h
  exact ((hcommitted.set_status_cache_control _).take_exception exception _ _).advance_random

/-- Every mutator of the processor state keeps convergence. -/
theorem apply_converges (state : State) (operation : StateOperation β) (h : state.cp0.Converges) :
    (state.apply operation).cp0.Converges := by
  cases operation with
  | complete_instruction delayed_resume_pc effect =>
    exact complete_instruction_converges h delayed_resume_pc effect
  | take_exception exception => exact take_exception_converges h exception
  | reset => exact (state.cp0.reset_settled state.pc).converges
  | advance_cache_transition => exact h
  | datapath operation => exact (state.apply_datapath_quiet operation).cp0.converges h

theorem run_converges (config : R3000Config) (operations : List (StateOperation β)) :
    ((new config).run operations).cp0.Converges :=
  run_of_invariant config operations Cp0.new_settled.converges apply_converges

/-- In every run of the processor state the CP0 functional view converges to
Status and Cause, `IEc` is only in effect while Status holds it, and so no
interrupt is requested while Status disables interrupts. -/
theorem run_functional_view_converges (config : R3000Config) (operations : List (StateOperation β)) :
    let cp0 := ((new config).run operations).cp0
    cp0.pending_functional.getD cp0.effective = .from_registers cp0.status cp0.cause ∧
      (cp0.effective.interrupt_control &&& STATUS_IEC ≠ 0 → cp0.status &&& STATUS_IEC ≠ 0) ∧
      (cp0.status &&& STATUS_IEC = 0 → cp0.interrupt_requested = false) := by
  intro cp0
  have h : cp0.Converges := run_converges config operations
  refine ⟨h.functional, h.interrupt_enable, fun hiec => ?_⟩
  cases hrequest : cp0.interrupt_requested with
  | false => rfl
  | true => exact absurd hiec (h.interrupt_requested hrequest)

end State

end se_cpu.state
