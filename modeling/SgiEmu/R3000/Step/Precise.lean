import SgiEmu.Library.Mask
import SgiEmu.R3000.Cp0.Functional
import SgiEmu.R3000.State.Operations
import SgiEmu.R3000.Step.Spec

open se_core se_core.bus se_cpu.cache se_cpu.cp0 se_cpu.cp1 se_cpu.mmu se_cpu.decode se_cpu.state
open Library.Mask

namespace se_cpu

variable {β : Type}

/-! ## Exception entry -/

/-- Entry saves the address it is given, and marks the delay slot in Cause. -/
theorem cp0.Cp0.take_exception_entry (cp0 : Cp0) (exception : Exception) (epc : U32) (in_delay_slot : Bool)
    (h : exception.Encodable) :
    (cp0.take_exception exception epc in_delay_slot).2.epc = epc ∧
      ((cp0.take_exception exception epc in_delay_slot).2.cause &&& CAUSE_BD ≠ 0 ↔ in_delay_slot) := by
  refine ⟨rfl, ?_⟩
  have hcode : ((exception_parameters exception).1 <<< 2) &&& CAUSE_BD = 0 := by
    cases exception <;> simp only [exception_parameters] <;> decide
  have hcoprocessor : (exception_coprocessor exception <<< CAUSE_CE_SHIFT) &&& CAUSE_BD = 0 := by
    cases exception with
    | CoprocessorUnusable unit =>
      have hunit : unit < 4 := h
      have hcases : unit = 0 ∨ unit = 1 ∨ unit = 2 ∨ unit = 3 := by omega
      obtain rfl | rfl | rfl | rfl := hcases <;> rfl
    | _ =>
      show (0#32 <<< CAUSE_CE_SHIFT) &&& CAUSE_BD = 0
      decide
  have hcause : (cp0.take_exception exception epc in_delay_slot).2.cause &&& CAUSE_BD =
      (if in_delay_slot then CAUSE_BD else 0) &&& CAUSE_BD := by
    unfold Cp0.take_exception
    dsimp only
    rw [or_and_of_disjoint hcode, or_and_of_disjoint hcoprocessor]
    refine or_and_of_disjoint_left ?_
    rw [BitVec.and_assoc]
    exact (congrArg (cp0.cause &&& ·) (by rfl : CAUSE_IP_MASK &&& CAUSE_BD = 0)).trans BitVec.and_zero
  rw [hcause]
  cases in_delay_slot <;> decide

namespace state

theorem State.synchronize_cp1_interrupt_entry (state : State) :
    state.synchronize_cp1_interrupt.cp0.epc = state.cp0.epc ∧
      state.synchronize_cp1_interrupt.cp0.cause &&& CAUSE_BD = state.cp0.cause &&& CAUSE_BD := by
  have hline : (1#32 <<< (CP1_INTERRUPT_INPUT + 10)) &&& CAUSE_BD = 0 := by rfl
  unfold State.synchronize_cp1_interrupt Cp0.set_hardware_interrupt_line
  dsimp only
  split
  · exact ⟨rfl, or_and_of_disjoint hline⟩
  · exact ⟨rfl, and_not_and_of_disjoint hline⟩

/-- What a precise exception leaves of the interrupted program. The branch is
the one whose delay slot the interrupted instruction sits in, if any. -/
structure Precise (branch : Option U32) (before after : State) : Prop where
  gpr : after.gpr = before.committed_gpr
  cp1 : after.cp1 = before.committed_cp1
  hi : after.hi = before.hi
  lo : after.lo = before.lo
  pending_gpr_write : after.pending_gpr_write = none
  pending_cp0_write : after.pending_cp0_write = none
  pending_cp1_write : after.pending_cp1_write = none
  epc : after.cp0.epc = branch.getD before.pc
  branch_delay : after.cp0.cause &&& CAUSE_BD ≠ 0 ↔ branch.isSome
  delay_slot : after.delay_slot = none

/-- The committed state an exception is entered from, CP0 and the cache modes apart. -/
structure SavedFrom (state saved : State) : Prop where
  gpr : saved.gpr = state.committed_gpr
  cp1 : saved.cp1 = state.committed_cp1
  hi : saved.hi = state.hi
  lo : saved.lo = state.lo
  pc : saved.pc = state.pc
  delay_slot : saved.delay_slot = state.delay_slot
  pending_gpr_write : saved.pending_gpr_write = none
  pending_cp0_write : saved.pending_cp0_write = none
  pending_cp1_write : saved.pending_cp1_write = none

/-- Entering an exception is precise about the pending delay slot. -/
theorem State.take_exception_precise (state : State) (exception : Exception) (h : exception.Encodable) :
    Precise (state.delay_slot.map DelaySlot.origin_pc) state
      (state.take_exception exception).synchronize_cp1_interrupt := by
  have hsaved : SavedFrom state state.commit_pending_writes.save_cache_context := by
    rw [state.commit_pending_writes_eq]
    constructor <;> rfl
  obtain ⟨hepc, hbranch⟩ := (state.take_exception exception).synchronize_cp1_interrupt_entry
  have htaken := state.take_exception_eq exception
  generalize state.commit_pending_writes.save_cache_context = saved at hsaved htaken
  obtain ⟨hentry, hdelay⟩ := saved.cp0.take_exception_entry exception
    (saved.delay_slot.elim saved.pc DelaySlot.origin_pc) saved.delay_slot.isSome h
  have hbefore : saved.delay_slot.elim saved.pc DelaySlot.origin_pc =
      (state.delay_slot.map DelaySlot.origin_pc).getD state.pc := by
    rw [hsaved.delay_slot, hsaved.pc]
    cases state.delay_slot <;> rfl
  have hslot : saved.delay_slot.isSome = (state.delay_slot.map DelaySlot.origin_pc).isSome := by
    rw [hsaved.delay_slot, Option.isSome_map]
  rw [htaken] at hepc hbranch
  constructor
  case epc =>
    rw [htaken, hepc]
    exact hentry.trans hbefore
  case branch_delay =>
    rw [htaken, hbranch, ← hslot]
    exact hdelay
  case gpr => exact (congrArg State.gpr htaken).trans hsaved.gpr
  case cp1 => exact (congrArg State.cp1 htaken).trans hsaved.cp1
  case hi => exact (congrArg State.hi htaken).trans hsaved.hi
  case lo => exact (congrArg State.lo htaken).trans hsaved.lo
  case pending_gpr_write => exact (congrArg State.pending_gpr_write htaken).trans hsaved.pending_gpr_write
  case pending_cp0_write => exact (congrArg State.pending_cp0_write htaken).trans hsaved.pending_cp0_write
  case pending_cp1_write => exact (congrArg State.pending_cp1_write htaken).trans hsaved.pending_cp1_write
  case delay_slot => exact congrArg State.delay_slot htaken

/-- What is precise of a state is precise of the program it shares. -/
theorem Precise.of_same_program {branch : Option U32} {before backed_out after : State}
    (h : Precise branch backed_out after) (hsame : SameProgram before backed_out) :
    Precise branch before after where
  gpr := by
    rw [h.gpr]
    unfold State.committed_gpr
    rw [hsame.gpr, hsame.pending_gpr_write]
  cp1 := by
    rw [h.cp1]
    unfold State.committed_cp1
    rw [hsame.cp1, hsame.pending_cp1_write]
  hi := h.hi.trans hsame.hi
  lo := h.lo.trans hsame.lo
  pending_gpr_write := h.pending_gpr_write
  pending_cp0_write := h.pending_cp0_write
  pending_cp1_write := h.pending_cp1_write
  epc := by rw [h.epc, hsame.pc]
  branch_delay := h.branch_delay
  delay_slot := h.delay_slot

end state

/-! ## Delay slots of reachable states -/

theorem state.State.apply_effect_pc (state : State) (effect : Option InstructionEffect) :
    (state.apply_effect effect).pc = state.pc := by
  unfold State.apply_effect
  split <;> try rfl
  case h_2 index value =>
    show (state.note_status_transfer index value).pc = state.pc
    rw [state.note_status_transfer_frame index value]
  case h_8 =>
    unfold State.restore_cache_context
    split <;> rfl

/-- A completing branch puts the instruction after it in its delay slot. -/
theorem state.State.complete_instruction_delay_slot (state : State) (resume_pc : Option U32)
    (effect : Option InstructionEffect) :
    (state.complete_instruction resume_pc effect).delay_slot.map DelaySlot.origin_pc =
      resume_pc.map fun _ => state.pc := by
  have hpc : (state.commit_pending_writes.apply_effect effect).pc = state.pc := by
    rw [State.apply_effect_pc, state.commit_pending_writes_eq]
  unfold State.complete_instruction
  dsimp only
  rw [hpc]
  cases resume_pc <;> rfl

namespace decode

/-- Whether an instruction is a branch or a jump. -/
def Instruction.is_branch : Instruction → Bool
  | .Control _ | .Cp0 (.Bc0f _) | .Cp0 (.Bc0t _) | .Cp1 (.Bc1f _) | .Cp1 (.Bc1t _) => true
  | _ => false

end decode

namespace cp0

theorem execute_branch (state : State) (instruction : Cp0Instruction) (condition : Bool)
    (completion : InstructionCompletion)
    (h : (execute state instruction condition).1 = .ok (.Completed completion)) :
    completion.1.isSome = (Instruction.Cp0 instruction).is_branch := by
  unfold execute at h
  split at h
  · cases h
  · cases instruction with
    | Tlbp =>
      dsimp only at h
      split at h <;> cases h
      rfl
    | _ =>
      cases h
      rfl

end cp0

namespace cp1

theorem execute_branch (state : State) (instruction : Cp1Instruction) (bus : PhysicalBus β)
    (bus_state : β) (completion : InstructionCompletion) (raised : Bool)
    (h : (execute state instruction bus bus_state).1 = .ok (.Completed completion, raised)) :
    completion.1.isSome = (Instruction.Cp1 instruction).is_branch := by
  unfold execute at h
  split at h
  · cases h
  · cases instruction with
    | Lwc1 base ft offset =>
      dsimp only at h
      split at h <;> cases h
      rfl
    | Swc1 base ft offset =>
      dsimp only at h
      split at h <;> cases h
      rfl
    | _ =>
      cases h
      rfl

end cp1

namespace R3000

theorem finish_completed {cpu : R3000} {executed : State} {outcome : InstructionResult} {bus_state' : β}
    {resume_pc : Option U32} (h : (cpu.finish executed outcome bus_state').1 = .ok (.Completed resume_pc)) :
    ∃ effect, outcome = .ok (.Completed (resume_pc, effect)) := by
  unfold finish at h
  split at h
  · rename_i effect
    cases h
    exact ⟨effect, rfl⟩
  · cases h
  · cases h

/-- A completed instruction resumes elsewhere after its delay slot exactly when
it is a branch or a jump, taken or not. -/
theorem execute_branch (cpu : R3000) (ready : State) (instruction : Instruction) (bus : PhysicalBus β)
    (bus_state : β) (resume_pc : Option U32)
    (h : (cpu.execute ready instruction bus bus_state).1 = .ok (.Completed resume_pc)) :
    resume_pc.isSome = instruction.is_branch := by
  unfold execute at h
  cases instruction with
  | Alu instruction =>
    dsimp only at h
    split at h
    all_goals
      obtain ⟨effect, houtcome⟩ := finish_completed h
      cases houtcome
    rfl
  | Control instruction =>
    obtain ⟨effect, houtcome⟩ := finish_completed h
    cases houtcome
    rfl
  | Cp0 instruction =>
    obtain ⟨effect, houtcome⟩ := finish_completed h
    exact cp0.execute_branch ready instruction cpu.cp0_condition (resume_pc, effect) houtcome
  | Cp1 instruction =>
    have hexecute := cp1.execute_branch ready instruction bus bus_state
    dsimp only at h
    split at h
    · cases h
    · rename_i outcome exception_raised executed bus_state' hresult
      rw [hresult] at hexecute
      split at h
      · cases h
      · obtain ⟨effect, houtcome⟩ := finish_completed h
        cases houtcome
        exact hexecute (resume_pc, effect) exception_raised rfl
  | Memory instruction =>
    dsimp only at h
    split at h
    · cases h
    · obtain ⟨effect, houtcome⟩ := finish_completed h
      cases houtcome
      rfl
    · obtain ⟨effect, houtcome⟩ := finish_completed h
      cases houtcome
  | Syscall =>
    obtain ⟨effect, houtcome⟩ := finish_completed h
    cases houtcome
  | Breakpoint =>
    obtain ⟨effect, houtcome⟩ := finish_completed h
    cases houtcome

/-- The address of the branch whose delay slot comes next: a completed step is
in the delay slot's branch exactly when it completed one, and a failed step is
tried again. -/
def next_branch (pc : U32) (branch : Option U32) : Except StepError StepEvent → Option U32
  | .ok (.Completed resume_pc) => resume_pc.map fun _ => pc
  | .ok _ => none
  | .error _ => branch

/-- The processors reachable from a configuration over buses of one kind, each
with the address of the branch its last completed instruction was, if it was one. -/
inductive Reachable (β : Type) (config : R3000Config) : R3000 → Option U32 → Prop where
  | new : Reachable β config (.new config) none
  | step {cpu : R3000} {branch : Option U32} (bus : PhysicalBus β) (bus_state : β)
    (h : Reachable β config cpu branch) :
    Reachable β config (cpu.step bus bus_state).2.1
      (next_branch cpu.state.pc branch (cpu.step bus bus_state).1)
  | reset {cpu : R3000} {branch : Option U32} (h : Reachable β config cpu branch) :
    Reachable β config cpu.reset none
  | set_cp0_condition {cpu : R3000} {branch : Option U32} (condition : Bool)
    (h : Reachable β config cpu branch) : Reachable β config (cpu.set_cp0_condition condition) branch
  | set_hardware_interrupt_lines {cpu : R3000} {branch : Option U32} (lines : U8)
    (h : Reachable β config cpu branch) :
    Reachable β config (cpu.set_hardware_interrupt_lines lines) branch
  | restore_snapshot {cpu cpu' : R3000} {branch branch' : Option U32} (h : Reachable β config cpu branch)
    (h' : Reachable β config cpu' branch') :
    Reachable β config (cpu.restore_snapshot cpu'.snapshot) branch'

variable {bus : PhysicalBus β} {bus_state : β}

/-- A step keeps the pending delay slot and the branch it belongs to together. -/
theorem Stepped.delay_slot {cpu : R3000} {branch : Option U32} {event : Except StepError StepEvent}
    {after : State} {bus_state' : β} (h : Stepped bus cpu bus_state event after bus_state')
    (hbranch : cpu.state.delay_slot.map DelaySlot.origin_pc = branch) :
    after.delay_slot.map DelaySlot.origin_pc = next_branch cpu.state.pc branch event := by
  cases h with
  | shut_down h => exact hbranch
  | completed resume_pc effect executed bus_state' hpc =>
    show (executed.complete_instruction resume_pc effect).delay_slot.map DelaySlot.origin_pc = _
    rw [State.complete_instruction_delay_slot, hpc]
    rfl
  | trapped executed bus_state' =>
    exact congrArg (fun state : State => state.delay_slot.map DelaySlot.origin_pc)
      (executed.take_exception_eq .Interrupt)
  | excepted exception backed_out bus_state' hsame hreads hencodable =>
    exact congrArg (fun state : State => state.delay_slot.map DelaySlot.origin_pc)
      (backed_out.take_exception_eq exception)
  | failed error failed bus_state' hready hfailed =>
    have hsame : SameProgram cpu.state after :=
      hready.frame.1.trans (hfailed.elim LookupsOnly.same_program ShutDown.same_program)
    rw [hsame.delay_slot]
    exact hbranch

/-! ### The decode cache along a step -/

/-- The processor a step leaves is the one before it, or the one that looked a
word up in the decode cache, in another state. -/
inductive Looked (cpu : R3000) : R3000 → Prop where
  | same (state : State) : Looked cpu { cpu with state }
  | decoded (address : Nat) (word : U32) (state : State) :
    Looked cpu { (cpu.decode_word address word).2 with state }

theorem finish_keeps (cpu : R3000) (executed : State) (outcome : InstructionResult) (bus_state' : β) :
    ∃ state, (cpu.finish executed outcome bus_state').2.1 = { cpu with state } := by
  unfold finish
  split <;> exact ⟨_, rfl⟩

theorem execute_keeps (cpu : R3000) (ready : State) (instruction : Instruction) (bus : PhysicalBus β)
    (bus_state : β) :
    ∃ state, (cpu.execute ready instruction bus bus_state).2.1 = { cpu with state } := by
  unfold execute
  split
  · split <;> exact finish_keeps ..
  · exact finish_keeps ..
  · exact finish_keeps ..
  · split
    · exact ⟨_, rfl⟩
    · dsimp only
      split
      · exact ⟨_, rfl⟩
      · exact finish_keeps ..
  · split
    · exact ⟨_, rfl⟩
    · exact finish_keeps ..
    · exact finish_keeps ..
  · exact finish_keeps ..
  · exact finish_keeps ..

theorem dispatch_looked (cpu : R3000) (ready : State) (pc : U32) (address : PhysAddr) (word : U32)
    (bus : PhysicalBus β) (bus_state : β) :
    Looked cpu (cpu.dispatch ready pc address word bus bus_state).2.1 := by
  have hdecoded : ∀ (result : DecodeResult) (cpu' : R3000) (state : State),
      cpu.decode_word address.get word = (result, cpu') → Looked cpu { cpu' with state } := by
    intro result cpu' state hresult
    have hlooked : Looked cpu { (cpu.decode_word address.get word).2 with state } :=
      .decoded address.get word state
    rw [hresult] at hlooked
    exact hlooked
  unfold dispatch
  split
  · exact .same _
  · split
    · rename_i cpu' hresult
      obtain ⟨state, hstate⟩ := cpu'.execute_keeps ready _ bus bus_state
      rw [hstate]
      exact hdecoded _ cpu' state hresult
    · rename_i hresult
      split <;> exact hdecoded _ _ _ hresult
    · rename_i hresult
      exact hdecoded _ _ _ hresult
    · rename_i hresult
      exact hdecoded _ _ _ hresult

theorem step_looked (cpu : R3000) (bus : PhysicalBus β) (bus_state : β) :
    Looked cpu (cpu.step bus bus_state).2.1 := by
  unfold step
  split
  · exact .same cpu.state
  · dsimp only
    split
    · exact .same _
    · split
      · exact .same _
      · exact .same _
      · split
        · exact .same _
        · exact .same _
        · exact dispatch_looked ..

theorem Coherent.looked {cpu cpu' : R3000} (h : cpu.Coherent) (hlooked : Looked cpu cpu') : cpu'.Coherent := by
  cases hlooked with
  | same state => exact h
  | decoded address word state => exact (h.decode_word address word).2

theorem new_coherent (config : R3000Config) : (R3000.new config).Coherent := by
  intro index address word result hentry
  have hnone : (R3000.new config).decoded_words[index]?.join = none := by
    show (Array.replicate DECODE_CACHE_ENTRIES none)[index]?.join = none
    rw [Array.getElem?_replicate]
    split <;> rfl
  rw [hnone] at hentry
  cases hentry

/-- What holds of every reachable processor: its pending delay slot is the one
of its last branch, and its decode cache is coherent. -/
theorem Reachable.invariant {config : R3000Config} {cpu : R3000} {branch : Option U32}
    (h : Reachable β config cpu branch) :
    cpu.state.delay_slot.map DelaySlot.origin_pc = branch ∧ cpu.Coherent := by
  induction h with
  | new => exact ⟨rfl, new_coherent config⟩
  | @step cpu branch bus bus_state _ ih =>
    exact ⟨(step_spec bus cpu bus_state).delay_slot ih.1, ih.2.looked (cpu.step_looked bus bus_state)⟩
  | reset _ ih => exact ⟨rfl, ih.2⟩
  | set_cp0_condition condition _ ih => exact ih
  | set_hardware_interrupt_lines lines _ ih => exact ih
  | restore_snapshot _ _ ih ih' => exact ⟨ih'.1, ih.2⟩

/-- Guest exceptions are precise. -/
theorem exceptions_are_precise {config : R3000Config} {cpu : R3000} {branch : Option U32}
    (hreachable : Reachable β config cpu branch) (bus : PhysicalBus β) (bus_state : β)
    (exception : Exception) (h : (cpu.step bus bus_state).1 = .ok (.Exception exception)) :
    ReadOnly bus bus_state (cpu.step bus bus_state).2.2 ∧
      Precise branch cpu.state (cpu.step bus bus_state).2.1.state := by
  obtain ⟨hbranch, hcoherent⟩ := hreachable.invariant
  have hstepped := step_spec bus cpu bus_state
  unfold Stepped.Result at hstepped
  rw [h] at hstepped
  generalize (cpu.step bus bus_state).2.1.state = after at hstepped ⊢
  cases hstepped with
  | excepted _ backed_out bus_state' hsame hreads hencodable =>
    have hprecise := backed_out.take_exception_precise exception (hencodable hcoherent)
    rw [hsame.delay_slot, hbranch] at hprecise
    exact ⟨hreads, hprecise.of_same_program hsame⟩

/-! ### A step apart from the decode cache -/

/-- What a step shows of the processor it leaves, apart from its decode cache. -/
def shown (result : StepResult β) : Except StepError StepEvent × State × Bool × β :=
  (result.1, result.2.1.state, result.2.1.cp0_condition, result.2.2)

section

variable {cpu cpu' : R3000} (hcondition : cpu'.cp0_condition = cpu.cp0_condition)

include hcondition

theorem enter_exception_shown (state : State) (exception : Exception) (bus_state : β) :
    shown (cpu'.enter_exception state exception bus_state) = shown (cpu.enter_exception state exception bus_state) := by
  unfold shown enter_exception
  dsimp only
  rw [hcondition]

theorem fail_shown (state : State) (error : StepError) (bus_state : β) :
    shown (cpu'.fail state error bus_state) = shown (cpu.fail state error bus_state) := by
  unfold shown fail
  dsimp only
  rw [hcondition]

theorem finish_shown (state : State) (outcome : InstructionResult) (bus_state : β) :
    shown (cpu'.finish state outcome bus_state) = shown (cpu.finish state outcome bus_state) := by
  unfold finish
  split
  · unfold shown
    dsimp only
    rw [hcondition]
  · exact enter_exception_shown hcondition ..
  · exact fail_shown hcondition ..

theorem execute_shown (state : State) (instruction : Instruction) (bus : PhysicalBus β) (bus_state : β) :
    shown (cpu'.execute state instruction bus bus_state) = shown (cpu.execute state instruction bus bus_state) := by
  unfold execute
  rw [hcondition]
  split
  · split <;> exact finish_shown hcondition ..
  · exact finish_shown hcondition ..
  · exact finish_shown hcondition ..
  · split
    · exact fail_shown hcondition ..
    · dsimp only
      split
      · unfold shown
        dsimp only
      · exact finish_shown hcondition ..
  · split
    · exact fail_shown hcondition ..
    · exact finish_shown hcondition ..
    · exact finish_shown hcondition ..
  · exact finish_shown hcondition ..
  · exact finish_shown hcondition ..

theorem dispatch_shown (h : cpu.Coherent) (h' : cpu'.Coherent) (state : State) (pc : U32) (address : PhysAddr)
    (word : U32) (bus : PhysicalBus β) (bus_state : β) :
    shown (cpu'.dispatch state pc address word bus bus_state) = shown (cpu.dispatch state pc address word bus bus_state) := by
  have hdecoded := (h.decode_word address.get word).1
  have hdecoded' := (h'.decode_word address.get word).1
  have hsame : (cpu'.decode_word address.get word).2.cp0_condition = (cpu.decode_word address.get word).2.cp0_condition := by
    rw [decode_word_cp0_condition, decode_word_cp0_condition, hcondition]
  unfold dispatch
  split
  · exact enter_exception_shown hcondition ..
  · cases hleft : cpu.decode_word address.get word with
    | mk decoded looked =>
      cases hright : cpu'.decode_word address.get word with
      | mk decoded' looked' =>
        rw [hleft] at hdecoded hsame
        rw [hright] at hdecoded' hsame
        obtain rfl : decoded' = decoded := hdecoded'.trans hdecoded.symm
        cases decoded' with
        | Implemented instruction => exact execute_shown hsame ..
        | UnsupportedCoprocessor unit =>
          dsimp only
          split
          · exact fail_shown hsame ..
          · exact enter_exception_shown hsame ..
        | Undefined => exact fail_shown hsame ..
        | Reserved => exact enter_exception_shown hsame ..

theorem step_shown (h : cpu.Coherent) (h' : cpu'.Coherent) (hstate : cpu'.state = cpu.state) (bus : PhysicalBus β)
    (bus_state : β) : shown (cpu'.step bus bus_state) = shown (cpu.step bus bus_state) := by
  unfold step
  rw [hstate]
  split
  · unfold shown
    dsimp only
    rw [hstate, hcondition]
  · dsimp only
    split
    · exact enter_exception_shown hcondition ..
    · split
      · exact enter_exception_shown hcondition ..
      · exact fail_shown hcondition ..
      · split
        · exact enter_exception_shown hcondition ..
        · exact fail_shown hcondition ..
        · exact dispatch_shown hcondition h h' ..

end

/-- A program takes processors that agree apart from their decode caches to ones that do. -/
theorem run_program_shown {cpu cpu' : R3000} (hcondition : cpu'.cp0_condition = cpu.cp0_condition) (h : cpu.Coherent)
    (h' : cpu'.Coherent) (hstate : cpu'.state = cpu.state) (words : List U32) (steps : Nat) :
    (run_program words steps cpu').state = (run_program words steps cpu).state ∧
      ((run_program words steps cpu').step (boot_memory words) ()).1 =
        ((run_program words steps cpu).step (boot_memory words) ()).1 := by
  induction steps generalizing cpu cpu' with
  | zero =>
    have hstepped := step_shown hcondition h h' hstate (boot_memory words) ()
    have hevent : (cpu'.step (boot_memory words) ()).1 = (cpu.step (boot_memory words) ()).1 :=
      (Prod.ext_iff.mp hstepped).1
    exact ⟨hstate, hevent⟩
  | succ steps ih =>
    have hstepped := congrArg Prod.snd (step_shown hcondition h h' hstate (boot_memory words) ())
    have hnext := congrArg (fun shown : State × Bool × Unit => shown.2.1) hstepped
    exact ih hnext (h.looked (cpu.step_looked (boot_memory words) ())) (h'.looked (cpu'.step_looked (boot_memory words) ()))
      (congrArg Prod.fst hstepped)

theorem run_program_reachable {config : R3000Config} {cpu : R3000} {branch : Option U32}
    (h : Reachable Unit config cpu branch) (words : List U32) (steps : Nat) :
    ∃ branch, Reachable Unit config (run_program words steps cpu) branch := by
  induction steps generalizing cpu branch with
  | zero => exact ⟨branch, h⟩
  | succ steps ih => exact ih (.step (boot_memory words) () h)

theorem new_shown (config : R3000Config) (words : List U32) (steps : Nat) :
    (run_program words steps (.new config)).state = (run_program words steps (undecoded config)).state ∧
      ((run_program words steps (.new config)).step (boot_memory words) ()).1 =
        ((run_program words steps (undecoded config)).step (boot_memory words) ()).1 :=
  @run_program_shown (undecoded config) (.new config) rfl (undecoded_coherent config) (new_coherent config) rfl words steps

/-- A new processor runs a program as one without room for decoded words does. -/
theorem run_program_booted (config : R3000Config) (words : List U32) (steps : Nat) :
    let booted := run_program words steps (undecoded config)
    Reachable Unit config (run_program words steps (.new config)) (booted.state.delay_slot.map DelaySlot.origin_pc) ∧
      ((run_program words steps (.new config)).step (boot_memory words) ()).1 = (booted.step (boot_memory words) ()).1 := by
  intro booted
  obtain ⟨branch, hreachable⟩ := run_program_reachable .new words steps
  obtain ⟨hstate, hevent⟩ := new_shown config words steps
  obtain rfl := hreachable.invariant.1
  rw [hstate] at hreachable
  exact ⟨hreachable, hevent⟩

/-- A system call behind a load; its handler makes another in the delay slot of a branch. -/
def trap_program : List U32 :=
  [0x3c08bfc0, 0x8d090010, 0x0000000c, 0x00000000, 0x12345678] ++ List.replicate 91 0 ++ [0x10000001, 0x0000000c]

/-- The first exception commits the load before it; the second returns to the branch. -/
theorem exceptions_are_precise_trap_program :
    let config := TEST_CONFIG default
    let bus := boot_memory trap_program
    let loaded := run_program trap_program 2 (.new config)
    let delayed := run_program trap_program 4 (.new config)
    Precise none loaded.state (loaded.step bus ()).2.1.state ∧ loaded.state.committed_gpr[9] = 0x12345678#32 ∧
      Precise (some 0xbfc00180#32) delayed.state (delayed.step bus ()).2.1.state := by
  intro config bus loaded delayed
  obtain ⟨hloaded, hfirst⟩ := run_program_booted config trap_program 2
  obtain ⟨hdelayed, hsecond⟩ := run_program_booted config trap_program 4
  have hstate := (new_shown config trap_program 2).1
  have hnone : (run_program trap_program 2 (undecoded config)).state.delay_slot.map DelaySlot.origin_pc = none := by
    decide +kernel
  have hbranch : (run_program trap_program 4 (undecoded config)).state.delay_slot.map DelaySlot.origin_pc =
      some 0xbfc00180#32 := by
    decide +kernel
  rw [hnone] at hloaded
  rw [hbranch] at hdelayed
  refine ⟨?_, ?_, ?_⟩
  · exact (exceptions_are_precise hloaded bus () .Syscall (by rw [hfirst]; decide +kernel)).2
  · change (run_program trap_program 2 (.new config)).state.committed_gpr[9] = _
    rw [hstate]
    decide +kernel
  · exact (exceptions_are_precise hdelayed bus () .Syscall (by rw [hsecond]; decide +kernel)).2

end R3000

end se_cpu
