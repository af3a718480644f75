import SgiEmu.Library.ShiftStack
import SgiEmu.R3000.State.CacheMode

open se_core se_cpu.cp0 Library.ShiftStack

namespace se_cpu.state

variable {β : Type}

/-- The saved context at a distance from the most recently interrupted one. -/
def CacheModeStack.level (stack : CacheModeStack) (i : Nat) : Option CacheModeContext :=
  stack.levels[i]?.join

theorem CacheModeStack.level_push_zero (stack : CacheModeStack) (context : CacheModeContext) :
    (stack.push context).level 0 = some context := rfl

theorem CacheModeStack.level_push_succ (stack : CacheModeStack) (context : CacheModeContext) {i : Nat}
    (hi : i + 1 < SAVED_CACHE_CONTEXT_LEVELS) : (stack.push context).level (i + 1) = stack.level i := by
  obtain rfl : i = 0 := by
    have hlevels : i + 1 < 2 := hi
    omega
  rfl

theorem CacheModeStack.level_pop (stack : CacheModeStack) {i : Nat}
    (hi : i + 1 < SAVED_CACHE_CONTEXT_LEVELS) : stack.pop.2.level i = stack.level (i + 1) := by
  obtain rfl : i = 0 := by
    have hlevels : i + 1 < 2 := hi
    omega
  rfl

/-- Operations that neither enter nor leave an execution context. -/
def StateOperation.stays_in_context : StateOperation β → Bool
  | .complete_instruction _ (some (.RestoreStatus _)) => false
  | .complete_instruction _ _ => true
  | .advance_cache_transition => true
  | .datapath _ => true
  | .take_exception _ | .reset => false

namespace State

theorem restore_cache_context_contexts (state : State) :
    state.restore_cache_context.cache_mode_contexts = state.cache_mode_contexts.pop.2 := by
  unfold restore_cache_context
  split <;> simp_all only

theorem complete_rfe_contexts (state : State) (delayed_resume_pc : Option U32) (value : U32) :
    (state.complete_instruction delayed_resume_pc (some (.RestoreStatus value))).cache_mode_contexts =
      state.cache_mode_contexts.pop.2 := by
  show (state.commit_pending_writes.apply_effect (some (.RestoreStatus value))).cache_mode_contexts = _
  rw [commit_pending_writes_eq, apply_effect, restore_cache_context_contexts]

theorem take_exception_contexts (state : State) (exception : Exception) :
    (state.take_exception exception).cache_mode_contexts = state.cache_mode_contexts.push
      { status_bits := state.committed_cp0.status_cache_control, mode := state.cache_mode } := by
  rw [take_exception_eq, commit_pending_writes_eq]
  rfl

theorem apply_stays_contexts (state : State) (operation : StateOperation β)
    (hstays : operation.stays_in_context) :
    (state.apply operation).cache_mode_contexts = state.cache_mode_contexts := by
  cases operation with
  | complete_instruction delayed_resume_pc effect =>
    show (state.commit_pending_writes.apply_effect effect).cache_mode_contexts = _
    rw [commit_pending_writes_eq]
    cases effect with
    | none => rfl
    | some effect =>
      cases effect with
      | DelayedCp0Write index value =>
        rw [apply_effect, note_status_transfer_frame]
      | RestoreStatus value => cases hstays
      | _ => rfl
  | take_exception exception => cases hstays
  | reset => cases hstays
  | advance_cache_transition => rfl
  | datapath operation => exact (state.apply_datapath_quiet operation).cache_mode_contexts

/-- The processor state as a shift stack of interrupted cache-control contexts:
exceptions enter a context and completing `rfe`s leave it. -/
def context_system (β : Type) : System State CacheModeContext where
  capacity := SAVED_CACHE_CONTEXT_LEVELS
  level state := state.cache_mode_contexts.level
  keep state state' :=
    ∃ operation : StateOperation β, operation.stays_in_context ∧ state' = state.apply operation
  enter state state' := ∃ exception, state' = state.take_exception exception
  leave state state' := ∃ delayed_resume_pc value,
    state' = state.complete_instruction delayed_resume_pc (some (.RestoreStatus value))
  level_keep := by
    rintro state _ ⟨operation, hstays, rfl⟩ i
    rw [apply_stays_contexts state operation hstays]
  level_enter := by
    rintro state _ ⟨exception, rfl⟩ i hi
    rw [take_exception_contexts, CacheModeStack.level_push_succ _ _ hi]
  level_leave := by
    rintro state _ ⟨delayed_resume_pc, value, rfl⟩ i hi
    rw [complete_rfe_contexts, CacheModeStack.level_pop _ hi]

end State

/-- Well-nested handler bodies: operations that stay in their context, and
exceptions each followed by a body of its own and the matching `rfe`. At most
`depth` contexts are interrupted on top of the handler's own at any time. -/
inductive Handler : Nat → List (StateOperation β) → Prop where
  | done (depth : Nat) : Handler depth []
  | stay {depth : Nat} {operation : StateOperation β} {rest : List (StateOperation β)}
    (hstays : operation.stays_in_context) (hrest : Handler depth rest) : Handler depth (operation :: rest)
  | nest {depth : Nat} {inner rest : List (StateOperation β)} (exception : Exception)
    (delayed_resume_pc : Option U32) (value : U32) (hinner : Handler depth inner)
    (hrest : Handler (depth + 1) rest) :
    Handler (depth + 1) (.take_exception exception ::
      (inner ++ .complete_instruction delayed_resume_pc (some (.RestoreStatus value)) :: rest))

namespace State

theorem run_append (state : State) (operations later : List (StateOperation β)) :
    state.run (operations ++ later) = (state.run operations).run later :=
  List.foldl_append

end State

/-- A well-nested body is a balanced execution of the context stack. -/
theorem Handler.balanced {depth : Nat} {operations : List (StateOperation β)}
    (h : Handler depth operations) (state : State) :
    Balanced (State.context_system β) depth state (state.run operations) := by
  induction h generalizing state with
  | done depth => exact .refl depth state
  | @stay depth operation rest hstays _ ih =>
    exact .keep ⟨operation, hstays, rfl⟩ (ih (state.apply operation))
  | @nest depth inner rest exception delayed_resume_pc value _ _ ihinner ihrest =>
    have hrun : ∀ operation : StateOperation β, ∀ later,
        state.run (operation :: later) = (state.apply operation).run later := fun _ _ => rfl
    rw [hrun, State.run_append]
    exact .nest ⟨exception, rfl⟩ (ihinner _) ⟨delayed_resume_pc, value, rfl⟩ (ihrest _)

namespace State

theorem restore_cache_context_resumes {state : State} {context : CacheModeContext}
    (hlevel : state.cache_mode_contexts.level 0 = some context) :
    state.restore_cache_context.cache_mode = context.mode ∧
      state.restore_cache_context.cp0.status_cache_control = context.status_bits := by
  have hpop : state.cache_mode_contexts.pop = (some context, state.cache_mode_contexts.pop.2) :=
    Prod.ext hlevel rfl
  unfold restore_cache_context
  rw [hpop]
  exact ⟨rfl, Cp0.set_status_cache_control_status_cache_control _ context.status_bits⟩

/-- Completing an `rfe` while a context is saved resumes that context's mode and
bits, whatever transfer was pending in the handler. -/
theorem complete_rfe_resumes {state : State} {context : CacheModeContext}
    (hlevel : state.cache_mode_contexts.level 0 = some context) (delayed_resume_pc : Option U32)
    (value : U32) :
    let resumed := state.complete_instruction delayed_resume_pc (some (.RestoreStatus value))
    resumed.cache_mode = context.mode ∧ resumed.cp0.status_cache_control = context.status_bits := by
  show (state.commit_pending_writes.apply_effect (some (.RestoreStatus value))).cache_mode = _ ∧
    (state.commit_pending_writes.apply_effect (some (.RestoreStatus value))).cp0.status_cache_control = _
  rw [commit_pending_writes_eq]
  exact restore_cache_context_resumes hlevel

/-- An exception, a well-nested handler body that keeps at most one further
context interrupted, and the matching `rfe` restore the cache-control mode and
the `IsC|SwC` bits of the context the exception interrupted, as they stood once
its older pending CP0 write was committed. -/
theorem handler_restores_cache_control (state : State) (exception : Exception)
    {body : List (StateOperation β)} (hbody : Handler 1 body) (delayed_resume_pc : Option U32)
    (value : U32) :
    let resumed := ((state.take_exception exception).run body).complete_instruction delayed_resume_pc
      (some (.RestoreStatus value))
    resumed.cache_mode = state.cache_mode ∧
      resumed.cp0.status_cache_control = state.committed_cp0.status_cache_control := by
  have htop := (hbody.balanced (state.take_exception exception)).top_eq Nat.one_lt_two
  have hentered : (state.take_exception exception).cache_mode_contexts.level 0 =
      some { status_bits := state.committed_cp0.status_cache_control, mode := state.cache_mode } := by
    rw [take_exception_contexts, CacheModeStack.level_push_zero]
  exact complete_rfe_resumes (htop.trans hentered) delayed_resume_pc value

/-- A handler that isolates the caches, is itself interrupted while the transfer
is in flight, and is left with another transfer pending. -/
theorem handler_restores_cache_control_nested :
    let state := new (TEST_CONFIG default)
    let body : List (StateOperation Unit) :=
      [.complete_instruction none (some (.DelayedCp0Write 12 STATUS_ISC)), .advance_cache_transition,
        .take_exception .Syscall, .complete_instruction none (some (.DelayedCp0Write 12 STATUS_SWC)),
        .complete_instruction none (some (.RestoreStatus 0)), .advance_cache_transition,
        .complete_instruction none (some (.DelayedCp0Write 12 STATUS_BEV))]
    let resumed := ((state.take_exception .Breakpoint).run body).complete_instruction none
      (some (.RestoreStatus 0))
    resumed.cache_mode = state.cache_mode ∧
      resumed.cp0.status_cache_control = state.committed_cp0.status_cache_control :=
  handler_restores_cache_control _ .Breakpoint
    (.stay rfl (.stay rfl (.nest .Syscall none 0 (.stay rfl (.done 0))
      (.stay rfl (.stay rfl (.done 1)))))) none 0

end State

end se_cpu.state
