import SgiEmu.Library.DelayLine
import SgiEmu.R3000.Mmu.Translate
import SgiEmu.R3000.State.Operations

open se_core se_core.bus se_cpu.cp0 se_cpu.mmu Library

namespace se_cpu

/-! ## The instruction view as a delay line -/

namespace mmu

/-- A translation buffer with a write in it. -/
def install (entries : TlbEntries) (write : PendingTlbWrite) : TlbEntries :=
  entries.setIfInBounds write.index write.entry

/-- The translation buffer and the view instruction fetches have of it. -/
def Mmu.line (mmu : Mmu) : DelayLine TlbEntries PendingTlbWrite :=
  { main := mmu.entries
    view := mmu.instruction_entries
    pending := [mmu.pending_instruction_writes.1, mmu.pending_instruction_writes.2] }

theorem Mmu.reset_line (mmu : Mmu) :
    mmu.reset.line = { main := mmu.entries, view := mmu.entries, pending := [none, none] } := rfl

theorem Mmu.translate_line (mmu : Mmu) (virtual_address : U32) (asid : U8) (kernel_mode : Bool)
    (access : AccessType) : (mmu.translate virtual_address asid kernel_mode access).2.line = mmu.line := by
  have hmapped : (mmu.translate_mapped virtual_address asid access).2.line = mmu.line := by
    cases access <;> rfl
  unfold Mmu.translate
  repeat' split
  all_goals first
    | exact hmapped
    | rfl

end mmu

namespace state

/-- The write an instruction's effect puts into the translation buffer. -/
def tlb_write : Option InstructionEffect → Option PendingTlbWrite
  | some (.TlbWrite index entry_hi entry_lo) => some { index, entry := .new entry_hi entry_lo }
  | _ => none

theorem advance_instruction_view_line (mmu : Mmu) :
    mmu.advance_instruction_view.line = mmu.line.advance install none := by
  unfold Mmu.advance_instruction_view Mmu.advance_instruction_view_with
  cases holdest : mmu.pending_instruction_writes.1 <;>
    simp [Mmu.line, DelayLine.advance, DelayLine.arrive, install, holdest]

theorem complete_tlb_write_line (mmu : Mmu) (effect : Option InstructionEffect) :
    (State.complete_tlb_write mmu effect).line = mmu.line.advance install (tlb_write effect) := by
  cases effect with
  | none => exact advance_instruction_view_line mmu
  | some effect =>
    cases effect with
    | TlbWrite index entry_hi entry_lo =>
      unfold State.complete_tlb_write Mmu.complete_write Mmu.advance_instruction_view_with
      cases holdest : mmu.pending_instruction_writes.1 <;>
        simp [Mmu.line, DelayLine.advance, DelayLine.arrive, install, tlb_write, holdest]
    | _ => exact advance_instruction_view_line mmu

variable {β : Type}

namespace StateOperation

/-- What an instruction boundary writes into the translation buffer; the other
operations are no boundary. -/
def boundary : StateOperation β → Option (Option PendingTlbWrite)
  | .complete_instruction _ effect => some (tlb_write effect)
  | .take_exception _ => some none
  | .reset | .advance_cache_transition | .datapath _ => none

def is_reset : StateOperation β → Bool
  | .reset => true
  | _ => false

end StateOperation

/-- The instruction boundaries of a run, each with what it writes. -/
def boundaries (operations : List (StateOperation β)) : List (Option PendingTlbWrite) :=
  operations.filterMap StateOperation.boundary

/-- A run that is never reset. -/
def Unreset (operations : List (StateOperation β)) : Prop :=
  ∀ operation ∈ operations, operation.is_reset = false

namespace State

theorem commit_pending_writes_mmu (state : State) : state.commit_pending_writes.mmu = state.mmu := by
  rw [commit_pending_writes_eq]

theorem restore_cache_context_mmu (state : State) : state.restore_cache_context.mmu = state.mmu := by
  unfold restore_cache_context
  split <;> rfl

theorem apply_effect_mmu (state : State) (effect : Option InstructionEffect) :
    (state.apply_effect effect).mmu = state.mmu := by
  cases effect with
  | none => rfl
  | some effect =>
    cases effect with
    | DelayedCp0Write index value => rw [apply_effect, note_status_transfer_frame]
    | RestoreStatus value => exact restore_cache_context_mmu _
    | _ => rfl

theorem complete_instruction_mmu (state : State) (delayed_resume_pc : Option U32)
    (effect : Option InstructionEffect) :
    (state.complete_instruction delayed_resume_pc effect).mmu = complete_tlb_write state.mmu effect := by
  show complete_tlb_write (state.commit_pending_writes.apply_effect effect).mmu effect = _
  rw [apply_effect_mmu, commit_pending_writes_mmu]

theorem take_exception_mmu (state : State) (exception : Exception) :
    (state.take_exception exception).mmu = state.mmu.advance_instruction_view := by
  rw [take_exception_eq]
  show state.commit_pending_writes.mmu.advance_instruction_view = _
  rw [commit_pending_writes_mmu]

/-- Between two boundaries the MMU is asked for translations at most. -/
theorem apply_datapath_mmu (state : State) (operation : DatapathOperation β) :
    (state.apply_datapath operation).mmu = state.mmu ∨
      ∃ virtual_address asid kernel_mode access, (state.apply_datapath operation).mmu =
        (state.mmu.translate virtual_address asid kernel_mode access).2 := by
  cases operation with
  | translate_address virtual_address access =>
    exact .inr ⟨virtual_address, _, _, access,
      congrArg State.mmu (state.translate_address_touches virtual_address access)⟩
  | read_instruction translation bus bus_state =>
    have h := congrArg State.mmu (state.read_instruction_touches translation bus bus_state)
    exact .inl h
  | load_data translation length bus bus_state =>
    have h := congrArg State.mmu
      (state.load_data_touches translation (Vector.replicate length 0) bus bus_state)
    exact .inl h
  | store_memory translation data bus bus_state =>
    have h := congrArg State.mmu (state.store_memory_touches translation data bus bus_state)
    exact .inl h
  | write_gpr index value =>
    have h := congrArg State.mmu (state.write_gpr_touches index value)
    exact .inl h
  | commit_pending_cp1_write =>
    have h := congrArg State.mmu state.commit_pending_cp1_write_touches
    exact .inl h
  | tlbp_effect =>
    have h := congrArg State.mmu state.tlbp_effect_touches
    exact .inl h
  | _ => exact .inl rfl

/-- A boundary moves the line by what it writes; nothing else but a reset moves it. -/
theorem apply_line (state : State) (operation : StateOperation β) (h : operation.is_reset = false) :
    (state.apply operation).mmu.line =
      operation.boundary.elim state.mmu.line (state.mmu.line.advance install) := by
  cases operation with
  | complete_instruction delayed_resume_pc effect =>
    show (state.complete_instruction delayed_resume_pc effect).mmu.line = _
    rw [complete_instruction_mmu]
    exact complete_tlb_write_line state.mmu effect
  | take_exception exception =>
    show (state.take_exception exception).mmu.line = _
    rw [take_exception_mmu]
    exact advance_instruction_view_line state.mmu
  | reset => cases h
  | advance_cache_transition => rfl
  | datapath operation =>
    show (state.apply_datapath operation).mmu.line = state.mmu.line
    obtain hmmu | ⟨virtual_address, asid, kernel_mode, access, hmmu⟩ := state.apply_datapath_mmu operation
    · rw [hmmu]
    · rw [hmmu, Mmu.translate_line]

theorem run_line (state : State) (operations : List (StateOperation β)) (h : Unreset operations) :
    (state.run operations).mmu.line =
      (boundaries operations).foldl (DelayLine.advance install) state.mmu.line := by
  induction operations generalizing state with
  | nil => rfl
  | cons operation rest ih =>
    have hfirst := state.apply_line operation (h operation List.mem_cons_self)
    have hrest : Unreset rest := fun later hlater => h later (List.mem_cons_of_mem _ hlater)
    show ((state.apply operation).run rest).mmu.line = _
    rw [ih _ hrest, hfirst]
    cases hboundary : operation.boundary <;> simp [boundaries, hboundary]

theorem apply_settled (state : State) (operation : StateOperation β)
    (h : state.mmu.line.Settled install ∧ state.mmu.CachesSound) :
    (state.apply operation).mmu.line.Settled install ∧ (state.apply operation).mmu.CachesSound := by
  obtain ⟨hsettled, hsound⟩ := h
  refine ⟨?_, ?_⟩
  · cases hreset : operation.is_reset with
    | false =>
      rw [state.apply_line operation hreset]
      cases operation.boundary with
      | none => exact hsettled
      | some write => exact hsettled.advance write
    | true =>
      cases operation with
      | reset =>
        show state.mmu.reset.line.Settled install
        rw [Mmu.reset_line]
        rfl
      | _ => cases hreset
  · cases operation with
    | complete_instruction delayed_resume_pc effect =>
      show (state.complete_instruction delayed_resume_pc effect).mmu.CachesSound
      rw [complete_instruction_mmu]
      unfold complete_tlb_write
      split
      · exact hsound.complete_write ..
      · exact hsound.advance_instruction_view
    | take_exception exception =>
      show (state.take_exception exception).mmu.CachesSound
      rw [take_exception_mmu]
      exact hsound.advance_instruction_view
    | reset => exact hsound.reset
    | advance_cache_transition => exact hsound
    | datapath operation =>
      show (state.apply_datapath operation).mmu.CachesSound
      obtain hmmu | ⟨virtual_address, asid, kernel_mode, access, hmmu⟩ := state.apply_datapath_mmu operation
      · rwa [hmmu]
      · rw [hmmu]
        exact (hsound.translate virtual_address asid kernel_mode access).2

/-- In every run the pending writes are what the instruction view lacks. -/
theorem run_settled (config : R3000Config) (operations : List (StateOperation β)) :
    ((new config).run operations).mmu.line.Settled install ∧ ((new config).run operations).mmu.CachesSound :=
  run_of_invariant config operations ⟨rfl, Mmu.cachesSound_new⟩ apply_settled

/-- Once two boundaries have passed, the instruction view is the translation
buffer as it stood before them. -/
theorem run_view_after_two {state : State} (h : state.mmu.line.Settled install)
    {later : List (StateOperation β)} (hlater : Unreset later) (htwo : (boundaries later).length = 2) :
    (state.run later).mmu.instruction_entries = state.mmu.entries := by
  have hview : ((boundaries later).foldl (DelayLine.advance install) state.mmu.line).view =
      state.mmu.entries := h.run_view htwo
  rw [← run_line state later hlater] at hview
  exact hview

/-- While no boundary passes the view stays. -/
theorem run_view_of_same {state state' : State} (hview : state.mmu.line.view = state'.mmu.line.view)
    {later : List (StateOperation β)} (hlater : Unreset later) (hnone : boundaries later = []) :
    (state.run later).mmu.instruction_entries = (state'.run later).mmu.instruction_entries := by
  have hline := congrArg DelayLine.view (run_line state later hlater)
  have hline' := congrArg DelayLine.view (run_line state' later hlater)
  rw [hnone] at hline hline'
  exact hline.trans (hview.trans hline'.symm)

/-- The last `2 - count` places of the line are empty after so many boundaries
without a write; a reset empties it. -/
theorem run_drained {state : State} {count : Nat} {later : List (StateOperation β)}
    (hnone : ∀ write ∈ boundaries later, write = none)
    (h : ∀ write ∈ state.mmu.line.pending.drop count, write = none) :
    ∀ write ∈ (state.run later).mmu.line.pending.drop (count - (boundaries later).length), write = none := by
  induction later generalizing state count with
  | nil => exact h
  | cons operation rest ih =>
    show ∀ write ∈ ((state.apply operation).run rest).mmu.line.pending.drop _, write = none
    cases hreset : operation.is_reset with
    | true =>
      cases operation with
      | reset =>
        refine ih hnone fun write hwrite => ?_
        have hmem : write ∈ [none, none] := List.mem_of_mem_drop hwrite
        simpa using hmem
      | _ => cases hreset
    | false =>
      have hline := state.apply_line operation hreset
      cases hboundary : operation.boundary with
      | none =>
        have hrest : boundaries (operation :: rest) = boundaries rest := by
          simp [boundaries, hboundary]
        rw [hboundary] at hline
        rw [hrest] at hnone ⊢
        refine ih hnone ?_
        rw [hline]
        exact h
      | some write =>
        have hrest : boundaries (operation :: rest) = write :: boundaries rest := by
          simp [boundaries, hboundary]
        rw [hrest] at hnone ⊢
        obtain rfl : write = none := hnone write List.mem_cons_self
        rw [hboundary] at hline
        have hadvanced : ∀ write ∈ (state.apply operation).mmu.line.pending.drop (count - 1), write = none := by
          rw [hline]
          show ∀ write ∈ (state.mmu.line.advance install none).pending.drop (count - 1), write = none
          refine DelayLine.advance_drained fun write hwrite => h write ?_
          exact (List.drop_sublist_drop_left _ (by omega)).mem hwrite
        have hdrained := ih (fun write hwrite => hnone write (List.mem_cons_of_mem _ hwrite)) hadvanced
        rwa [Nat.sub_sub, Nat.add_comm] at hdrained

/-- The instruction view of every run. The pending writes, oldest first, are
what it lacks. A fetch translates through it. A TLB write is out of sight at its
own boundary and the next one and in sight at the one after, or at a reset
before that. Two boundaries without a write make the views coincide. -/
theorem run_instruction_view (config : R3000Config) (operations : List (StateOperation β)) :
    let state := (new config).run operations
    state.mmu.line.flattened install = state.mmu.entries ∧
    (∀ virtual_address asid kernel_mode,
      (state.mmu.translate virtual_address asid kernel_mode .Instruction).1 =
        state.mmu.translate_readonly virtual_address asid kernel_mode .Instruction) ∧
    (∀ (delayed_resume_pc : Option U32) (index : Nat) (entry_hi entry_lo : U32)
      (later : List (StateOperation β)), Unreset later →
      let written := state.complete_instruction delayed_resume_pc (some (.TlbWrite index entry_hi entry_lo))
      let unwritten := state.complete_instruction delayed_resume_pc none
      ((boundaries later).length = 0 →
        (written.run later).mmu.instruction_entries = (unwritten.run later).mmu.instruction_entries) ∧
      ((boundaries later).length = 1 → (written.run later).mmu.instruction_entries = state.mmu.entries) ∧
      ((boundaries later).length = 2 → (written.run later).mmu.instruction_entries = written.mmu.entries)) ∧
    state.reset.mmu.instruction_entries = state.mmu.entries ∧
    (∀ later : List (StateOperation β), (∀ write ∈ boundaries later, write = none) →
      2 ≤ (boundaries later).length →
      (state.run later).mmu.instruction_entries = (state.run later).mmu.entries) := by
  intro state
  obtain ⟨hsettled, hsound⟩ := run_settled config operations
  refine ⟨hsettled, fun virtual_address asid kernel_mode => ?_, ?_, rfl, ?_⟩
  · exact (hsound.translate virtual_address asid kernel_mode .Instruction).1
  · intro delayed_resume_pc index entry_hi entry_lo later hlater written unwritten
    let writing : StateOperation β :=
      .complete_instruction delayed_resume_pc (some (.TlbWrite index entry_hi entry_lo))
    have hwriting : Unreset (writing :: later) := by
      intro operation hmem
      obtain rfl | hmem := List.mem_cons.mp hmem
      · rfl
      · exact hlater operation hmem
    refine ⟨fun hnone => ?_, fun hone => ?_, fun htwo => ?_⟩
    · refine run_view_of_same ?_ hlater (List.length_eq_zero_iff.mp hnone)
      show (complete_instruction _ _ _).mmu.line.view = (complete_instruction _ _ _).mmu.line.view
      rw [complete_instruction_mmu, complete_instruction_mmu, complete_tlb_write_line,
        complete_tlb_write_line]
      rfl
    · refine run_view_after_two hsettled hwriting ?_
      show (some _ :: boundaries later).length = 2
      rw [List.length_cons, hone]
    · exact run_view_after_two (apply_settled state writing ⟨hsettled, hsound⟩).1 hlater htwo
  · intro later hnone htwo
    have hdrained : ∀ write ∈ (state.run later).mmu.line.pending.drop (2 - (boundaries later).length),
        write = none := run_drained hnone fun write hwrite => by cases hwrite
    rw [Nat.sub_eq_zero_of_le htwo] at hdrained
    have hlater := (run_settled config (operations ++ later)).1
    unfold run at hlater
    rw [List.foldl_append] at hlater
    exact hlater.view_of_drained hdrained

/-- A reset shows fetches a write no boundary has passed since. -/
theorem tlb_write_visible_at_reset :
    let state := new (TEST_CONFIG default)
    let written := state.complete_instruction none (some (.TlbWrite 0 0 ENTRY_LO_VALID))
    written.mmu.entries[0] ≠ state.mmu.entries[0] ∧
      ¬ ∀ later : List (StateOperation Unit), (boundaries later).length < 2 →
        (written.run later).mmu.instruction_entries[0] = state.mmu.entries[0] := by
  intro state written
  have hwritten : written.mmu.entries[0] ≠ state.mmu.entries[0] := by decide
  exact ⟨hwritten, fun h => hwritten (h [.reset] Nat.zero_lt_two)⟩

end State

end state

end se_cpu
