import SgiEmu.R3000.Cp0.CacheControl
import SgiEmu.R3000.State.Operations

open se_core se_cpu.cp0

namespace se_cpu.state

variable {β : Type}

/-- The bits a context ends up executing with: those of the transfer in flight,
or else those in effect. -/
def CacheMode.target (mode : CacheMode) : CacheControl :=
  match mode.transition with
  | some transition => transition.target
  | none => mode.effective

/-- A transfer in flight has not reached the period that delivers it. -/
def CacheMode.InFlight (mode : CacheMode) : Prop :=
  ∀ transition, mode.transition = some transition → transition.age < CACHE_TRANSITION_PERIODS

theorem CacheMode.settled_inFlight (effective : CacheControl) : (CacheMode.settled effective).InFlight := by
  intro transition htransition
  cases htransition

@[simp] theorem CacheMode.advance_target (mode : CacheMode) : mode.advance.target = mode.target := by
  obtain ⟨effective, transition⟩ := mode
  cases transition with
  | none => rfl
  | some transition =>
    simp only [CacheMode.advance]
    split <;> rfl

theorem CacheMode.InFlight.advance {mode : CacheMode} (h : mode.InFlight) : mode.advance.InFlight := by
  unfold CacheMode.advance
  split
  · exact h
  · split
    · rename_i hage
      intro transition htransition
      cases htransition
      exact hage
    · exact settled_inFlight _

/-- The invariant of one cache-control context: `bits` is what its Status holds
once nothing is pending. -/
structure CacheMode.Tracks (mode : CacheMode) (bits : CacheControl) : Prop where
  target : bits = mode.target
  inFlight : mode.InFlight

theorem CacheMode.settled_tracks (effective : CacheControl) : (CacheMode.settled effective).Tracks effective :=
  ⟨rfl, settled_inFlight effective⟩

/-- The bits Status holds once a pending transfer is committed over `control`. -/
def pending_cache_control (control : CacheControl) : Option PendingCp0Write → CacheControl
  | some write => if write.index = 12 then .from_status write.value else control
  | none => control

namespace State

/-- The `IsC|SwC` bits of Status once the pending CP0 write is committed. -/
def committed_cache_control (state : State) : CacheControl := state.committed_cp0.status_cache_control

theorem committed_cache_control_eq (state : State) :
    state.committed_cache_control =
      pending_cache_control state.cp0.status_cache_control state.pending_cp0_write := by
  unfold committed_cache_control committed_cp0
  cases state.pending_cp0_write with
  | none => exact state.cp0.commit_pending_functional_status_cache_control
  | some write =>
    simp only [pending_cache_control, Cp0.write_register_status_cache_control,
      Cp0.commit_pending_functional_status_cache_control]

/-- The running context and every saved one track the bits software last wrote. -/
structure CacheModesTrack (state : State) : Prop where
  running : state.cache_mode.Tracks state.committed_cache_control
  saved : ∀ context, some context ∈ state.cache_mode_contexts.levels → context.mode.Tracks context.status_bits

end State

theorem Signalled.status_cache_control {cp0 cp0' : Cp0} (h : Signalled cp0 cp0') :
    cp0'.status_cache_control = cp0.status_cache_control := by
  induction h with
  | unchanged => rfl
  | line input asserted _ ih => rw [Cp0.set_hardware_interrupt_line_status_cache_control, ih]
  | miss miss _ ih => rw [Cp0.set_cache_miss_status_cache_control, ih]
  | shutdown _ ih => rw [Cp0.enter_tlb_shutdown_status_cache_control, ih]

theorem Quiet.committed_cache_control {state state' : State} (h : Quiet state state') :
    state'.committed_cache_control = state.committed_cache_control := by
  rw [State.committed_cache_control_eq, State.committed_cache_control_eq, h.pending_cp0_write,
    h.cp0.status_cache_control]

namespace State

/-- A state with no pending CP0 write holds its bits in Status already. -/
theorem committed_cache_control_of_none {state : State} (h : state.pending_cp0_write = none) :
    state.committed_cache_control = state.cp0.status_cache_control := by
  rw [committed_cache_control_eq, h]
  rfl

/-- Over a state with nothing pending the running context is read off Status. -/
theorem CacheModesTrack.of_none {state : State} (hpending : state.pending_cp0_write = none)
    (hrunning : state.cache_mode.Tracks state.cp0.status_cache_control)
    (hsaved : ∀ context, some context ∈ state.cache_mode_contexts.levels →
      context.mode.Tracks context.status_bits) : state.CacheModesTrack := by
  refine ⟨?_, hsaved⟩
  rw [committed_cache_control_of_none hpending]
  exact hrunning

theorem CacheModesTrack.status {state : State} (h : state.CacheModesTrack)
    (hpending : state.pending_cp0_write = none) :
    state.cache_mode.Tracks state.cp0.status_cache_control := by
  rw [← committed_cache_control_of_none hpending]
  exact h.running

/-- Only these four projections of the state matter. -/
theorem CacheModesTrack.of_same {state state' : State} (h : state.CacheModesTrack)
    (hcontrol : state'.cp0.status_cache_control = state.cp0.status_cache_control)
    (hpending : state'.pending_cp0_write = state.pending_cp0_write)
    (hmode : state'.cache_mode = state.cache_mode)
    (hcontexts : state'.cache_mode_contexts = state.cache_mode_contexts) : state'.CacheModesTrack where
  running := by
    rw [hmode, committed_cache_control_eq, hcontrol, hpending, ← committed_cache_control_eq]
    exact h.running
  saved := by
    rw [hcontexts]
    exact h.saved

theorem quiet_tracks {state state' : State} (hquiet : Quiet state state') (h : state.CacheModesTrack) :
    state'.CacheModesTrack :=
  h.of_same hquiet.cp0.status_cache_control hquiet.pending_cp0_write hquiet.cache_mode
    hquiet.cache_mode_contexts

/-! ## Instruction completion -/

/-- A transfer noted over a context with nothing pending starts a transition
exactly when it changes the bits the context is heading for. -/
theorem note_status_transfer_tracks {state : State}
    (h : state.cache_mode.Tracks state.cp0.status_cache_control) (index : Nat) (value : U32) :
    (state.note_status_transfer index value).cache_mode.Tracks
      (pending_cache_control state.cp0.status_cache_control (some { index, value })) := by
  unfold note_status_transfer
  by_cases hindex : index = 12
  · simp only [Cp0.cache_control_after_write, pending_cache_control, if_pos hindex,
      Cp0.from_status_after_write]
    split
    · rename_i hsame
      rw [hsame]
      exact h
    · refine ⟨rfl, fun transition htransition => ?_⟩
      cases htransition
      exact Nat.zero_lt_succ _
  · simp only [Cp0.cache_control_after_write, pending_cache_control, if_neg hindex]
    exact h

theorem mem_push_levels {stack : CacheModeStack} {context saved : CacheModeContext}
    (h : some saved ∈ (stack.push context).levels) : saved = context ∨ some saved ∈ stack.levels := by
  simp only [CacheModeStack.push, Vector.mem_mk, List.mem_toArray, List.mem_cons, Option.some.injEq,
    List.not_mem_nil, or_false] at h
  refine h.imp_right fun hlevel => ?_
  rw [hlevel]
  exact Vector.getElem_mem _

theorem mem_pop_levels {stack : CacheModeStack} {saved : CacheModeContext}
    (h : some saved ∈ stack.pop.2.levels) : some saved ∈ stack.levels := by
  simp only [CacheModeStack.pop, Vector.mem_mk, List.mem_toArray, List.mem_cons, reduceCtorEq,
    List.not_mem_nil, or_false] at h
  rw [h]
  exact Vector.getElem_mem _

theorem pop_level_mem {stack : CacheModeStack} {context : CacheModeContext}
    (h : stack.pop.1 = some context) : some context ∈ stack.levels :=
  h ▸ Vector.getElem_mem _

/-- An `rfe` resumes a saved context, or the running one when none is saved. -/
theorem restore_cache_context_tracks {state : State} (hpending : state.pending_cp0_write = none)
    (h : state.CacheModesTrack) : state.restore_cache_context.CacheModesTrack := by
  unfold restore_cache_context
  cases hpop : state.cache_mode_contexts.pop with
  | mk popped contexts =>
    have hsaved : ∀ saved, some saved ∈ contexts.levels → saved.mode.Tracks saved.status_bits := by
      intro saved hmem
      refine h.saved saved (mem_pop_levels ?_)
      rwa [hpop]
    cases popped with
    | none => exact ⟨h.running, hsaved⟩
    | some context =>
      refine .of_none hpending ?_ hsaved
      rw [Cp0.set_status_cache_control_status_cache_control]
      exact h.saved context (pop_level_mem (by rw [hpop]))

theorem apply_effect_tracks {state : State} (hpending : state.pending_cp0_write = none)
    (h : state.CacheModesTrack) (effect : Option InstructionEffect) :
    (state.apply_effect effect).CacheModesTrack := by
  have hrunning := h.status hpending
  cases effect with
  | none => exact h
  | some effect =>
    cases effect with
    | DelayedCp0Write index value =>
      refine ⟨?_, ?_⟩
      · rw [committed_cache_control_eq]
        rw [apply_effect, note_status_transfer_frame]
        exact note_status_transfer_tracks hrunning index value
      · rw [apply_effect, note_status_transfer_frame]
        exact h.saved
    | RestoreStatus value =>
      refine restore_cache_context_tracks hpending (.of_none hpending ?_ h.saved)
      rw [Cp0.restore_status_status_cache_control]
      exact hrunning
    | TlbRead entry_hi entry_lo => exact .of_none hpending hrunning h.saved
    | TlbProbe index => exact .of_none hpending hrunning h.saved
    | _ => exact .of_none hpending hrunning h.saved

theorem commit_pending_writes_tracks {state : State} (h : state.CacheModesTrack) :
    state.commit_pending_writes.CacheModesTrack := by
  rw [commit_pending_writes_eq]
  exact .of_none rfl h.running h.saved

theorem complete_instruction_tracks {state : State} (h : state.CacheModesTrack)
    (delayed_resume_pc : Option U32) (effect : Option InstructionEffect) :
    (state.complete_instruction delayed_resume_pc effect).CacheModesTrack := by
  have hpending : state.commit_pending_writes.pending_cp0_write = none := by
    rw [commit_pending_writes_eq]
  have heffect := apply_effect_tracks hpending (commit_pending_writes_tracks h) effect
  exact heffect.of_same rfl rfl rfl rfl

/-- An exception saves the running context, which tracks its Status, and starts
one that has settled on the view it found. -/
theorem take_exception_tracks {state : State} (h : state.CacheModesTrack) (exception : Exception) :
    (state.take_exception exception).CacheModesTrack := by
  have hpending : state.commit_pending_writes.pending_cp0_write = none := by
    rw [commit_pending_writes_eq]
  have hcommitted := commit_pending_writes_tracks h
  have hsave : state.commit_pending_writes.save_cache_context.CacheModesTrack := by
    refine .of_none hpending ?_ fun saved hmem => ?_
    · simp only [save_cache_context, Cp0.set_status_cache_control_status_cache_control]
      exact CacheMode.settled_tracks _
    · rcases mem_push_levels hmem with rfl | hmem
      · exact hcommitted.status hpending
      · exact hcommitted.saved saved hmem
  rw [take_exception_eq]
  refine hsave.of_same ?_ rfl rfl rfl
  rw [Cp0.advance_random_status_cache_control, Cp0.take_exception_status_cache_control]

theorem not_mem_new_levels (context : CacheModeContext) : some context ∉ CacheModeStack.new.levels := by
  simp [CacheModeStack.new]

theorem reset_tracks (state : State) : state.reset.CacheModesTrack :=
  .of_none rfl (CacheMode.settled_tracks _) fun context hmem => absurd hmem (not_mem_new_levels context)

theorem new_tracks (config : R3000Config) : (new config).CacheModesTrack :=
  .of_none rfl (CacheMode.settled_tracks _) fun context hmem => absurd hmem (not_mem_new_levels context)

theorem advance_cache_transition_tracks {state : State} (h : state.CacheModesTrack) :
    state.advance_cache_transition.CacheModesTrack where
  running := ⟨h.running.target.trans state.cache_mode.advance_target.symm, h.running.inFlight.advance⟩
  saved := h.saved

theorem apply_tracks (state : State) (operation : StateOperation β) (h : state.CacheModesTrack) :
    (state.apply operation).CacheModesTrack := by
  cases operation with
  | complete_instruction delayed_resume_pc effect =>
    exact complete_instruction_tracks h delayed_resume_pc effect
  | take_exception exception => exact take_exception_tracks h exception
  | reset => exact reset_tracks state
  | advance_cache_transition => exact advance_cache_transition_tracks h
  | datapath operation => exact quiet_tracks (state.apply_datapath_quiet operation) h

theorem run_tracks (config : R3000Config) (operations : List (StateOperation β)) :
    ((new config).run operations).CacheModesTrack :=
  run_of_invariant config operations (new_tracks config) apply_tracks

end State

/-! ## Delivery -/

/-- Instruction periods until the datapath executes with the target. -/
def CacheMode.remaining (mode : CacheMode) : Nat :=
  match mode.transition with
  | some transition => CACHE_TRANSITION_PERIODS - transition.age
  | none => 0

theorem CacheMode.advance_remaining (mode : CacheMode) : mode.advance.remaining = mode.remaining - 1 := by
  obtain ⟨effective, transition⟩ := mode
  cases transition with
  | none => rfl
  | some transition =>
    simp only [CacheMode.advance]
    split
    · simp only [remaining]
      omega
    · simp only [remaining]
      omega

theorem CacheMode.remaining_le (mode : CacheMode) : mode.remaining ≤ CACHE_TRANSITION_PERIODS := by
  unfold remaining
  split
  · exact Nat.sub_le _ _
  · exact Nat.zero_le _

/-- Once no period remains, the view in effect is the target. -/
theorem CacheMode.Tracks.delivered {mode : CacheMode} {bits : CacheControl} (h : mode.Tracks bits)
    (hremaining : mode.remaining = 0) : mode.effective = bits := by
  rw [h.target]
  cases htransition : mode.transition with
  | none => simp only [CacheMode.target, htransition]
  | some transition =>
    have hage := h.inFlight transition htransition
    simp only [CacheMode.remaining, htransition] at hremaining
    omega

/-- Operations that neither transfer to Status nor switch the execution context. -/
def StateOperation.keeps_context : StateOperation β → Bool
  | .complete_instruction _ (some (.DelayedCp0Write index _)) => index != 12
  | .complete_instruction _ (some (.RestoreStatus _)) => false
  | .complete_instruction _ _ => true
  | .advance_cache_transition => true
  | .datapath _ => true
  | .take_exception _ | .reset => false

def StateOperation.is_period : StateOperation β → Bool
  | .advance_cache_transition => true
  | _ => false

namespace State

/-- Nothing after the effect of an instruction moves the bits Status is heading for. -/
theorem complete_instruction_committed_cache_control (state : State) (delayed_resume_pc : Option U32)
    (effect : Option InstructionEffect) :
    (state.complete_instruction delayed_resume_pc effect).committed_cache_control =
      (state.commit_pending_writes.apply_effect effect).committed_cache_control := by
  rw [committed_cache_control_eq, committed_cache_control_eq]
  rfl

/-- Completing an instruction that keeps the context leaves the mode and the
bits Status is heading for. -/
theorem complete_instruction_keeps (state : State) (delayed_resume_pc : Option U32)
    (effect : Option InstructionEffect)
    (hkeeps : (StateOperation.complete_instruction delayed_resume_pc effect : StateOperation β).keeps_context) :
    (state.complete_instruction delayed_resume_pc effect).cache_mode = state.cache_mode ∧
      (state.complete_instruction delayed_resume_pc effect).committed_cache_control =
        state.committed_cache_control := by
  rw [complete_instruction_committed_cache_control]
  show (state.commit_pending_writes.apply_effect effect).cache_mode = _ ∧ _
  rw [committed_cache_control_eq, commit_pending_writes_eq]
  cases effect with
  | none => exact ⟨rfl, rfl⟩
  | some effect =>
    cases effect with
    | DelayedCp0Write index value =>
      have hindex : index ≠ 12 := by simpa [StateOperation.keeps_context] using hkeeps
      simp only [apply_effect, note_status_transfer, Cp0.cache_control_after_write, if_neg hindex,
        pending_cache_control, committed_cache_control, and_self]
    | RestoreStatus value => cases hkeeps
    | _ => exact ⟨rfl, rfl⟩

/-- One operation that keeps the context leaves the bits Status is heading for,
and brings delivery closer exactly when it is an instruction period. -/
theorem apply_keeps (state : State) (operation : StateOperation β) (hkeeps : operation.keeps_context) :
    (state.apply operation).committed_cache_control = state.committed_cache_control ∧
      (state.apply operation).cache_mode.remaining =
        state.cache_mode.remaining - (if operation.is_period then 1 else 0) := by
  cases operation with
  | complete_instruction delayed_resume_pc effect =>
    obtain ⟨hmode, hbits⟩ := complete_instruction_keeps state delayed_resume_pc effect hkeeps
    exact ⟨hbits, congrArg CacheMode.remaining hmode⟩
  | take_exception exception => cases hkeeps
  | reset => cases hkeeps
  | advance_cache_transition => exact ⟨rfl, state.cache_mode.advance_remaining⟩
  | datapath operation =>
    have hquiet := state.apply_datapath_quiet operation
    exact ⟨hquiet.committed_cache_control, congrArg CacheMode.remaining hquiet.cache_mode⟩

theorem run_keeps (state : State) (operations : List (StateOperation β))
    (hkeeps : ∀ operation ∈ operations, operation.keeps_context) :
    (state.run operations).committed_cache_control = state.committed_cache_control ∧
      (state.run operations).cache_mode.remaining =
        state.cache_mode.remaining - operations.countP StateOperation.is_period := by
  induction operations generalizing state with
  | nil => exact ⟨rfl, rfl⟩
  | cons operation rest ih =>
    obtain ⟨hbits, hremaining⟩ := apply_keeps state operation (hkeeps operation List.mem_cons_self)
    obtain ⟨hbits', hremaining'⟩ :=
      ih (state.apply operation) fun later hlater => hkeeps later (List.mem_cons_of_mem operation hlater)
    refine ⟨hbits'.trans hbits, hremaining'.trans ?_⟩
    rw [hremaining, List.countP_cons]
    omega

/-- In every run the running context's Status holds, once nothing is pending,
the bits its cache mode is heading for, every saved context does too, no
transfer outlives its periods, and three instruction periods without another
Status transfer or context switch deliver those bits to the datapath. -/
theorem run_cache_modes_track (config : R3000Config) (operations : List (StateOperation β)) :
    let state := (new config).run operations
    state.committed_cp0.status_cache_control = state.cache_mode.target ∧
      (∀ transition, state.cache_mode.transition = some transition →
        transition.age < CACHE_TRANSITION_PERIODS) ∧
      (∀ context, some context ∈ state.cache_mode_contexts.levels →
        context.status_bits = context.mode.target ∧
          ∀ transition, context.mode.transition = some transition →
            transition.age < CACHE_TRANSITION_PERIODS) ∧
      ∀ later : List (StateOperation β), (∀ operation ∈ later, operation.keeps_context) →
        CACHE_TRANSITION_PERIODS ≤ later.countP StateOperation.is_period →
        (state.run later).cache_mode.effective = state.committed_cp0.status_cache_control := by
  intro state
  have h : state.CacheModesTrack := run_tracks config operations
  refine ⟨h.running.target, h.running.inFlight,
    fun context hmem => ⟨(h.saved context hmem).target, (h.saved context hmem).inFlight⟩,
    fun later hkeeps hperiods => ?_⟩
  obtain ⟨hbits, hremaining⟩ := run_keeps state later hkeeps
  have hlater : (state.run later).CacheModesTrack :=
    List.foldlRecOn later apply h fun state hstate operation _ => apply_tracks state operation hstate
  have hdelivered : (state.run later).cache_mode.remaining = 0 := by
    have hbound := state.cache_mode.remaining_le
    omega
  exact (hlater.running.delivered hdelivered).trans hbits

end State

end se_cpu.state
