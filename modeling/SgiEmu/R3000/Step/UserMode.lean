import SgiEmu.R3000.Step.Resume
import SgiEmu.R3000.Step.Retry
import Mathlib.Data.List.Forall2
import Mathlib.Tactic.IntervalCases

open se_core se_core.bus se_cpu.cache se_cpu.cache.Cache se_cpu.cp0 se_cpu.cp1 se_cpu.mmu se_cpu.decode se_cpu.state
open Library Library.Mask Library.ByteMemory

namespace se_cpu

variable {β γ : Type}

/-! ## What user code cannot reach -/

namespace cp0.Cp0

/-- What user code has no way to change in CP0: all of it but Random, the
cache-miss and shutdown bits of Status and the hardware interrupt lines of
Cause. CP0 stays unusable, also once the functional change in flight is in. -/
structure Withholds (origin cp0 : Cp0) : Prop where
  index : cp0.index = origin.index
  entry_lo : cp0.entry_lo = origin.entry_lo
  context : cp0.context = origin.context
  bad_vaddr : cp0.bad_vaddr = origin.bad_vaddr
  entry_hi : cp0.entry_hi = origin.entry_hi
  epc : cp0.epc = origin.epc
  status : cp0.status &&& ~~~(STATUS_CM ||| STATUS_TS) = origin.status &&& ~~~(STATUS_CM ||| STATUS_TS)
  cause : cp0.cause &&& ~~~CAUSE_HARDWARE_IP_MASK = origin.cause &&& ~~~CAUSE_HARDWARE_IP_MASK
  functional : cp0.pending_functional.getD cp0.effective = origin.pending_functional.getD origin.effective
  unusable : cp0.effective.coprocessor_usable &&& STATUS_CU0 = 0
  unusable_next : ∀ functional ∈ cp0.pending_functional, functional.coprocessor_usable &&& STATUS_CU0 = 0

namespace Withholds

variable {origin cp0 : Cp0}

theorem is_kernel_mode (h : origin.Withholds cp0) : cp0.is_kernel_mode = origin.is_kernel_mode := by
  have hmode : ∀ status : U32, status &&& STATUS_KUC = status &&& ~~~(STATUS_CM ||| STATUS_TS) &&& STATUS_KUC := by
    intro status
    rw [BitVec.and_assoc]
    rfl
  unfold Cp0.is_kernel_mode
  rw [hmode, h.status, ← hmode]

theorem current_asid (h : origin.Withholds cp0) : cp0.current_asid = origin.current_asid := by
  unfold Cp0.current_asid
  rw [h.entry_hi]

theorem set_cache_miss (h : origin.Withholds cp0) (miss : Bool) : origin.Withholds (cp0.set_cache_miss miss) := by
  have hbits : STATUS_CM &&& ~~~(STATUS_CM ||| STATUS_TS) = 0 := by decide
  unfold Cp0.set_cache_miss
  cases miss with
  | true => exact { h with status := (or_and_of_disjoint hbits).trans h.status }
  | false => exact { h with status := (and_not_and_of_disjoint hbits).trans h.status }

theorem enter_tlb_shutdown (h : origin.Withholds cp0) : origin.Withholds cp0.enter_tlb_shutdown := by
  have hbits : STATUS_TS &&& ~~~(STATUS_CM ||| STATUS_TS) = 0 := by decide
  exact { h with status := (or_and_of_disjoint hbits).trans h.status }

theorem same_but_lines (h : origin.Withholds cp0) {cp0' : Cp0} (hlines : SameButLines cp0 cp0') :
    origin.Withholds cp0' := by
  obtain ⟨cause, hcause⟩ := hlines
  exact { h with cause := hcause.trans h.cause }

theorem commit_pending_functional (h : origin.Withholds cp0) : origin.Withholds cp0.commit_pending_functional := by
  unfold Cp0.commit_pending_functional
  cases hpending : cp0.pending_functional with
  | none => exact h
  | some functional =>
    have hfunctional := h.functional
    rw [hpending] at hfunctional
    exact { h with
      functional := hfunctional
      unusable := h.unusable_next functional hpending
      unusable_next := nofun }

theorem advance_random (h : origin.Withholds cp0) : origin.Withholds cp0.advance_random :=
  { h with }

end Withholds

/-- Entry to an exception is entry to the kernel, at one of its vectors. -/
theorem take_exception_kernel (cp0 : Cp0) (exception : Exception) (epc : U32) (in_delay_slot : Bool) :
    (cp0.take_exception exception epc in_delay_slot).2.is_kernel_mode = true ∧
      (cp0.take_exception exception epc in_delay_slot).1 ∈
        [GENERAL_EXCEPTION_VECTOR, TLB_REFILL_EXCEPTION_VECTOR, BOOT_GENERAL_EXCEPTION_VECTOR,
          BOOT_TLB_REFILL_EXCEPTION_VECTOR] := by
  refine ⟨?_, ?_⟩
  · have hmask : ~~~STATUS_MODE_STACK_MASK &&& STATUS_KUC = 0 := by decide
    have hstack : STATUS_MODE_STACK_MASK &&& STATUS_KUC = STATUS_KUC := by decide
    have hpushed : (cp0.status <<< 2) &&& STATUS_KUC = 0 := by
      unfold STATUS_KUC
      ext i hi
      interval_cases i <;> simp
    unfold Cp0.is_kernel_mode Cp0.take_exception
    dsimp only
    rw [BitVec.and_or_distrib_right, BitVec.and_assoc, hmask, BitVec.and_assoc, hstack, hpushed]
    simp
  · unfold Cp0.take_exception
    dsimp only
    split <;> simp

end cp0.Cp0

namespace state

/-- The line of translation buffer writes some instruction boundaries later,
when no further write has entered it. -/
inductive Drains (line : DelayLine TlbEntries PendingTlbWrite) : DelayLine TlbEntries PendingTlbWrite → Prop where
  | start : Drains line line
  | boundary {later : DelayLine TlbEntries PendingTlbWrite} (h : Drains line later) :
    Drains line (later.advance install none)

theorem Drains.main {line later : DelayLine TlbEntries PendingTlbWrite} (h : Drains line later) :
    later.main = line.main := by
  induction h with
  | start => rfl
  | boundary _ ih => exact (DelayLine.advance_main _ none).trans ih

/-- A view that lacks nothing stays as it is. -/
theorem Drains.view_of_drained {line later : DelayLine TlbEntries PendingTlbWrite} (h : Drains line later)
    (hdrained : line.pending = [none, none]) : later.view = line.view ∧ later.pending = [none, none] := by
  induction h with
  | start => exact ⟨rfl, hdrained⟩
  | @boundary later _ ih =>
    obtain ⟨hview, hpending⟩ := ih
    unfold DelayLine.advance
    rw [hpending]
    exact ⟨hview, rfl⟩

namespace State

/-- The page frames user code can fetch or load from. -/
def readable (state : State) (frame : Nat) : Prop :=
  Opened state.mmu.entries state.cp0.current_asid .Load frame ∨
    ∃ later, Drains state.mmu.line later ∧ Opened later.view state.cp0.current_asid .Instruction frame

/-- The page frames user code can store to. -/
def writable (state : State) (frame : Nat) : Prop :=
  Opened state.mmu.entries state.cp0.current_asid .Store frame

/-- User mode, with CP0 unusable and no CP0 transfer in flight. -/
structure UserMode (state : State) : Prop where
  user : state.cp0.is_kernel_mode = false
  unusable : state.cp0.effective.coprocessor_usable &&& STATUS_CU0 = 0
  unusable_next : ∀ functional ∈ state.cp0.pending_functional, functional.coprocessor_usable &&& STATUS_CU0 = 0
  no_transfer : state.pending_cp0_write = none

end State

/-- What user code has kept of the state it started from. -/
structure Steady (origin state : State) : Prop where
  cp0 : origin.cp0.Withholds state.cp0
  no_transfer : state.pending_cp0_write = none
  line : Drains origin.mmu.line state.mmu.line

theorem State.UserMode.steady {origin : State} (h : origin.UserMode) : Steady origin origin where
  cp0 := ⟨rfl, rfl, rfl, rfl, rfl, rfl, rfl, rfl, rfl, h.unusable, h.unusable_next⟩
  no_transfer := h.no_transfer
  line := .start

namespace Steady

variable {origin state : State}

theorem entries (h : Steady origin state) : state.mmu.entries = origin.mmu.entries := h.line.main

theorem same (h : Steady origin state) {state' : State} (hsame : SamePrivileged state state') :
    Steady origin state' where
  cp0 := hsame.cp0 ▸ h.cp0
  no_transfer := hsame.pending_cp0_write.trans h.no_transfer
  line := hsame.mmu ▸ h.line

theorem sampled (h : Steady origin state) : Steady origin state.sampled :=
  { h with cp0 := h.cp0.same_but_lines state.sampled_cp0 }

theorem synchronize_cp1_interrupt (h : Steady origin state) : Steady origin state.synchronize_cp1_interrupt :=
  { h with cp0 := h.cp0.same_but_lines ((Cp0.SameButLines.refl _).set_hardware_interrupt_line _ (by decide) _) }

theorem translate_address (h : Steady origin state) (huser : origin.cp0.is_kernel_mode = false)
    (hlookups : state.mmu.CachesSound) (virtual_address : U32) (access : AccessType) :
    Steady origin (state.translate_address virtual_address access).2 ∧
      ∀ translation, (state.translate_address virtual_address access).1 = .ok translation →
        Opened (state.mmu.view access) origin.cp0.current_asid access (translation.address.get / 4096) := by
  have hmode := h.cp0.is_kernel_mode.trans huser
  have hline := state.mmu.translate_line virtual_address state.cp0.current_asid false access
  unfold State.translate_address
  rw [hmode]
  cases hresult : state.mmu.translate virtual_address state.cp0.current_asid false access with
  | mk result mmu =>
    rw [hresult] at hline
    have hafter : Steady origin { state with mmu } := { h with line := hline.symm ▸ h.line }
    cases result with
    | ok translation =>
      refine ⟨hafter, fun found hfound => ?_⟩
      obtain rfl := Except.ok.inj hfound
      have hopened := hlookups.translate_opened (congrArg Prod.fst hresult)
      rwa [h.cp0.current_asid] at hopened
    | error fault =>
      cases fault with
      | Shutdown => exact ⟨{ hafter with cp0 := h.cp0.enter_tlb_shutdown }, nofun⟩
      | _ => exact ⟨hafter, nofun⟩

/-- A page that an access is translated to is one user code reaches that way. -/
theorem reaches (h : Steady origin state) {access : AccessType} {frame : Nat}
    (hopened : Opened (state.mmu.view access) origin.cp0.current_asid access frame) :
    (if access = .Store then origin.writable else origin.readable) frame := by
  cases access with
  | Instruction => exact .inr ⟨state.mmu.line, h.line, hopened⟩
  | Load => exact .inl (h.entries ▸ (show Opened state.mmu.entries _ _ _ from hopened))
  | Store =>
    show Opened origin.mmu.entries _ _ _
    rw [← h.entries]
    exact hopened

/-- No CP0 instruction is executed in user mode. -/
theorem execute_cp0 (h : Steady origin state) (huser : origin.cp0.is_kernel_mode = false)
    (instruction : Cp0Instruction) (condition : Bool) :
    cp0.execute state instruction condition = (.ok (.Exception (.CoprocessorUnusable 0)), state) := by
  have hmode := h.cp0.is_kernel_mode.trans huser
  unfold Cp0.is_kernel_mode at hmode
  have husable : state.cp0.is_usable = false := by
    unfold Cp0.is_usable
    rw [hmode, h.cp0.unusable]
    rfl
  unfold cp0.execute
  rw [husable]
  rfl

theorem commit_pending_writes (h : Steady origin state) : Steady origin state.commit_pending_writes := by
  rw [State.commit_pending_writes_eq]
  unfold State.committed_cp0
  rw [h.no_transfer]
  exact ⟨h.cp0.commit_pending_functional, rfl, h.line⟩

theorem apply_effect_privileged (state : State) {effect : Option InstructionEffect}
    (h : ∀ some_effect, effect = some some_effect → some_effect.Unprivileged) :
    SamePrivileged state (state.apply_effect effect) ∧
      State.complete_tlb_write state.mmu effect = state.mmu.advance_instruction_view := by
  cases effect with
  | none => exact ⟨⟨rfl, rfl, rfl, rfl, rfl⟩, rfl⟩
  | some effect =>
    have hunprivileged := h effect rfl
    cases effect with
    | DelayedGprWrite index value load_merge_bypass => exact ⟨⟨rfl, rfl, rfl, rfl, rfl⟩, rfl⟩
    | DelayedCp1GeneralWrite index value => exact ⟨⟨rfl, rfl, rfl, rfl, rfl⟩, rfl⟩
    | DelayedCp1ControlWrite index value => exact ⟨⟨rfl, rfl, rfl, rfl, rfl⟩, rfl⟩
    | DelayedCp1ConditionWrite value => exact ⟨⟨rfl, rfl, rfl, rfl, rfl⟩, rfl⟩
    | _ => exact hunprivileged.elim

theorem complete_instruction (h : Steady origin state) (resume_pc : Option U32)
    {effect : Option InstructionEffect} (heffect : ∀ some_effect, effect = some some_effect → some_effect.Unprivileged) :
    Steady origin (state.complete_instruction resume_pc effect) := by
  obtain ⟨hsame, -⟩ := apply_effect_privileged state.commit_pending_writes heffect
  have happlied := h.commit_pending_writes.same hsame
  have hmmu : (state.complete_instruction resume_pc effect).mmu = state.mmu.advance_instruction_view := by
    rw [State.complete_instruction_mmu]
    exact (apply_effect_privileged state heffect).2
  refine ⟨happlied.cp0.advance_random, happlied.no_transfer, ?_⟩
  rw [hmmu, advance_instruction_view_line]
  exact h.line.boundary

end Steady

/-- What a user's step that ends in an exception has left of the state it started from. -/
structure Entered (origin state : State) : Prop where
  entries : state.mmu.entries = origin.mmu.entries
  kernel : state.cp0.is_kernel_mode = true
  vector : state.pc ∈ [GENERAL_EXCEPTION_VECTOR, TLB_REFILL_EXCEPTION_VECTOR, BOOT_GENERAL_EXCEPTION_VECTOR,
    BOOT_TLB_REFILL_EXCEPTION_VECTOR]

theorem Steady.take_exception {origin state : State} (h : Steady origin state) (exception : Exception) :
    Entered origin (state.take_exception exception).synchronize_cp1_interrupt := by
  have htaken := state.take_exception_eq exception
  generalize state.commit_pending_writes.save_cache_context = saved at htaken
  obtain ⟨hkernel, hvector⟩ := saved.cp0.take_exception_kernel exception
    (saved.delay_slot.elim saved.pc DelaySlot.origin_pc) saved.delay_slot.isSome
  refine ⟨?_, ?_, ?_⟩
  · show (state.take_exception exception).mmu.line.main = _
    rw [State.take_exception_mmu, advance_instruction_view_line]
    exact (DelayLine.advance_main _ none).trans h.entries
  · have hmode : (state.take_exception exception).synchronize_cp1_interrupt.cp0.is_kernel_mode =
        (state.take_exception exception).cp0.is_kernel_mode := by
      unfold State.synchronize_cp1_interrupt Cp0.set_hardware_interrupt_line Cp0.is_kernel_mode
      dsimp only
      split <;> rfl
    rw [hmode, htaken]
    exact hkernel
  · show (state.take_exception exception).pc ∈ _
    rw [htaken]
    exact hvector

/-- User code beside its twin, and the handler beside its own. -/
structure Confined (backend : se_float.Backend) (kept : State → Prop) (state : State) (twin : Mmu) : Prop where
  kept : kept state
  resumes : Resumes backend state twin

/-- A user's step stays in the user's pages, and ends in user mode or in the kernel. -/
theorem Steady.simulation (backend : se_float.Backend) {origin : State} (huser : origin.cp0.is_kernel_mode = false) :
    Simulation (Confined backend (Steady origin)) (Confined backend (Entered origin))
      InstructionEffect.Unprivileged origin.readable origin.writable where
  geometry h := h.resumes.sound.geometry
  same h hsame := ⟨h.kept.same hsame, h.resumes.same hsame⟩
  with_caches h hcaches :=
    ⟨{ h.kept with }, (Resumes.simulation backend).with_caches h.resumes hcaches⟩
  set_cache_miss miss h :=
    ⟨{ h.kept with cp0 := h.kept.cp0.set_cache_miss miss }, (Resumes.simulation backend).set_cache_miss miss h.resumes⟩
  sampled h := ⟨h.kept.sampled, (Resumes.simulation backend).sampled h.resumes⟩
  synchronize h := ⟨h.kept.synchronize_cp1_interrupt, (Resumes.simulation backend).synchronize h.resumes⟩
  translate virtual_address access h := by
    obtain ⟨result, after, twin', hleft, hright, hafter, hplaced⟩ :=
      (Resumes.simulation backend).translate virtual_address access h.resumes
    obtain ⟨hkept, hopened⟩ := h.kept.translate_address huser h.resumes.sound.lookups virtual_address access
    rw [hleft] at hkept hopened
    exact ⟨result, after, twin', hleft, hright, ⟨hkept, hafter⟩, fun translation htranslated =>
      ⟨(hplaced translation htranslated).1, h.kept.reaches (hopened translation htranslated)⟩⟩
  unprivileged h := h
  execute_cp0 {state twin} instruction condition h := by
    obtain ⟨result, after, twin', hleft, hright, hafter, -⟩ :=
      (Resumes.simulation backend).execute_cp0 instruction condition h.resumes
    obtain ⟨rfl, rfl⟩ := Prod.mk.inj (hleft.symm.trans (h.kept.execute_cp0 huser instruction condition))
    exact ⟨_, _, twin', hleft, hright, ⟨h.kept, hafter⟩, nofun⟩
  complete {state twin} resume_pc effect h heffect := by
    obtain ⟨twin', hcompleted, hafter⟩ := (Resumes.simulation backend).complete resume_pc h.resumes
      (fun some_effect _ => trivial : ∀ some_effect, effect = some some_effect → True)
    exact ⟨twin', hcompleted, h.kept.complete_instruction resume_pc heffect, hafter⟩
  enter {state twin} exception h := by
    obtain ⟨twin', hentered, hafter⟩ := (Resumes.simulation backend).enter exception h.resumes
    exact ⟨twin', hentered, h.kept.take_exception exception, hafter⟩

/-- A frame no valid entry maps is closed to user code, once the instruction view has caught up. -/
theorem Resumes.not_readable {backend : se_float.Backend} {state : State} {twin : Mmu} (h : Resumes backend state twin)
    {frame : Nat} (hdrained : twin.pending_instruction_writes = (none, none))
    (hview : twin.instruction_entries.toList = twin.entries.toList)
    (hclosed : ∀ entry ∈ twin.entries.toList, entry.entry_lo &&& ENTRY_LO_VALID = 0 ∨ entry.entry_lo.toNat / 4096 ≠ frame) :
    ¬ state.readable frame := by
  have hpending : state.mmu.line.pending = [none, none] := by
    rw [← h.line]
    unfold Mmu.line
    rw [hdrained]
  have hentries : twin.entries = state.mmu.entries := congrArg DelayLine.main h.line
  have hlate : twin.instruction_entries = state.mmu.line.view := congrArg DelayLine.view h.line
  have hopened : ∀ asid access, ¬ Opened twin.entries asid access frame := by
    rintro asid access ⟨index, hindex, hopens, hframe⟩
    have hmem : twin.entries[index]! ∈ twin.entries.toList := by
      rw [getElem!_pos twin.entries index hindex]
      exact Vector.mem_toList_iff.mpr (Vector.getElem_mem hindex)
    exact (hclosed _ hmem).elim hopens.valid (absurd hframe)
  rintro (hload | ⟨later, hlater, hfetch⟩)
  · rw [← hentries] at hload
    exact hopened _ _ hload
  · rw [(hlater.view_of_drained hpending).1, ← hlate, Vector.toList_inj.mp hview] at hfetch
    exact hopened _ _ hfetch

end state

/-! ## Runs of user code -/

/-- What happens around a step of a processor: the devices move first, and drive its inputs. -/
structure Turn (β : Type) where
  devices : β → β
  lines : β → U8
  condition : β → Bool

/-- Turns that keep two buses related and drive the same inputs. -/
structure Turn.Paired (related : β → γ → Prop) (turn : Turn β) (other : Turn γ) : Prop where
  devices : ∀ bus_state other_state, related bus_state other_state →
    related (turn.devices bus_state) (other.devices other_state)
  inputs : ∀ bus_state other_state, related bus_state other_state →
    turn.lines bus_state = other.lines other_state ∧ turn.condition bus_state = other.condition other_state

namespace R3000

def take_turn (cpu : R3000) (bus : PhysicalBus β) (turn : Turn β) (bus_state : β) : StepResult β :=
  let bus_state := turn.devices bus_state
  ((cpu.set_hardware_interrupt_lines (turn.lines bus_state)).set_cp0_condition (turn.condition bus_state)).step bus
    bus_state

/-- The events of some turns, up to the first step that does not complete. -/
def run_turns (bus : PhysicalBus β) : List (Turn β) → R3000 → β → List (Except StepError StepEvent) × R3000 × β
  | [], cpu, bus_state => ([], cpu, bus_state)
  | turn :: turns, cpu, bus_state =>
    match cpu.take_turn bus turn bus_state with
    | (.ok (.Completed resume_pc), cpu, bus_state) =>
      match run_turns bus turns cpu bus_state with
      | (events, cpu, bus_state) => (.ok (.Completed resume_pc) :: events, cpu, bus_state)
    | (event, cpu, bus_state) => ([event], cpu, bus_state)

/-- The last event of a run; one without turns counts as completed. -/
def last_event (events : List (Except StepError StepEvent)) : Except StepError StepEvent :=
  events.getLast?.getD (.ok (.Completed none))

variable {bus : PhysicalBus β} {other : PhysicalBus γ} {related : β → γ → Prop} {origin : State}

theorem leaves_cons {kept left : State → Mmu → Prop} {resume_pc : Option U32}
    {events : List (Except StepError StepEvent)} {state : State} {twin : Mmu}
    (h : Leaves kept left (last_event events) state twin) :
    Leaves kept left (last_event (.ok (.Completed resume_pc) :: events)) state twin := by
  unfold last_event at h ⊢
  rw [List.getLast?_cons]
  cases hlast : events.getLast? with
  | none =>
    rw [hlast] at h
    exact h
  | some event =>
    rw [hlast] at h
    exact h

theorem run_turns_abreast {kept left : State → Mmu → Prop} {permitted : InstructionEffect → Prop}
    {readable writable : Nat → Prop} (hsimulation : Simulation kept left permitted readable writable)
    (hbus : bus.Alike other related readable writable) {turns : List (Turn β)} {other_turns : List (Turn γ)}
    (hturns : List.Forall₂ (Turn.Paired related) turns other_turns) {cpu cpu' : R3000} {twin : Mmu}
    (hpaired : Paired cpu cpu') (h : kept cpu.state twin) (htwin : cpu'.state = { cpu.state with mmu := twin })
    {bus_state : β} {other_state : γ} (hrelated : related bus_state other_state) :
    ∃ events after after' twin' bus_after other_after, cpu.run_turns bus turns bus_state = (events, after, bus_after) ∧
      cpu'.run_turns other other_turns other_state = (events, after', other_after) ∧
      Paired after after' ∧ after'.state = { after.state with mmu := twin' } ∧
      Leaves kept left (last_event events) after.state twin' ∧ related bus_after other_after := by
  induction hturns generalizing cpu cpu' twin bus_state other_state with
  | nil => exact ⟨_, _, _, twin, _, _, rfl, rfl, hpaired, htwin, h, hrelated⟩
  | @cons turn other_turn turns other_turns hturn _ ih =>
    have hmoved := hturn.devices _ _ hrelated
    obtain ⟨hlines, hcondition⟩ := hturn.inputs _ _ hmoved
    have hready : kept (cpu.state.set_hardware_interrupt_lines (turn.lines (turn.devices bus_state))) twin :=
      hsimulation.same h ⟨rfl, rfl, rfl, rfl, rfl⟩
    have htwin_ready := congrArg (fun state : State =>
      state.set_hardware_interrupt_lines (turn.lines (turn.devices bus_state))) htwin
    have hinputs : Paired
        ((cpu.set_hardware_interrupt_lines (turn.lines (turn.devices bus_state))).set_cp0_condition
          (turn.condition (turn.devices bus_state)))
        ((cpu'.set_hardware_interrupt_lines (turn.lines (turn.devices bus_state))).set_cp0_condition
          (turn.condition (turn.devices bus_state))) := ⟨rfl, hpaired.coherent, hpaired.coherent'⟩
    obtain ⟨event, after, after', twin', bus_after, other_after, hleft, hright, hpaired_after, htwin_after, hleaves,
      hstates⟩ := step_abreast hinputs hsimulation hready htwin_ready hbus hmoved
    unfold run_turns take_turn
    dsimp only
    rw [← hlines, ← hcondition, hleft, hright]
    cases event with
    | error error => exact ⟨_, _, _, twin', _, _, rfl, rfl, hpaired_after, htwin_after, hleaves, hstates⟩
    | ok event =>
      cases event with
      | Exception exception =>
        exact ⟨_, _, _, twin', _, _, rfl, rfl, hpaired_after, htwin_after, hleaves, hstates⟩
      | FloatingPointTrap =>
        exact ⟨_, _, _, twin', _, _, rfl, rfl, hpaired_after, htwin_after, hleaves, hstates⟩
      | Completed resume_pc =>
        obtain ⟨events, last, last', twin'', bus_last, other_last, hrun, hrun', hpaired_last, htwin_last, hlast, hend⟩ :=
          ih hpaired_after hleaves htwin_after hstates
        dsimp only
        rw [hrun, hrun']
        exact ⟨_, _, _, twin'', _, _, rfl, rfl, hpaired_last, htwin_last, leaves_cons hlast, hend⟩

/-- What a run of user code can leave: a state user code could have left, or
the kernel's at one of its vectors. -/
def Contained (origin : State) : Except StepError StepEvent → State → Prop
  | .ok (.Completed _), state => origin.cp0.Withholds state.cp0
  | .ok _, state => Entered origin state
  | .error _, state => origin.cp0.Withholds state.cp0

variable {config : R3000Config} {cpu : R3000} {branch : Option U32}

/-- User code that runs over two buses it cannot tell apart. -/
theorem user_run_abreast (hreachable : Reachable β config cpu branch) (huser : cpu.state.UserMode)
    (hbus : bus.Alike other related cpu.state.readable cpu.state.writable) {turns : List (Turn β)}
    {other_turns : List (Turn γ)} (hturns : List.Forall₂ (Turn.Paired related) turns other_turns) {bus_state : β}
    {other_state : γ} (hrelated : related bus_state other_state) :
    ∃ events after after' bus_after other_after, cpu.run_turns bus turns bus_state = (events, after, bus_after) ∧
      cpu.run_turns other other_turns other_state = (events, after', other_after) ∧
      Twins config.floating_point_backend after after' ∧ after.state.mmu.entries = cpu.state.mmu.entries ∧
      Contained cpu.state (last_event events) after.state ∧ related bus_after other_after := by
  obtain ⟨hpaired, htwin, hresumes⟩ := hreachable.twins
  obtain ⟨events, after, after', twin, bus_after, other_after, hleft, hright, hpaired_after, htwin_after, hleaves, hstates⟩ :=
    run_turns_abreast (Steady.simulation config.floating_point_backend huser.user) hbus hturns hpaired
      ⟨huser.steady, hresumes⟩ htwin hrelated
  have hmmu : after'.state.mmu = twin := congrArg State.mmu htwin_after
  have hends : Resumes config.floating_point_backend after.state twin ∧
      after.state.mmu.entries = cpu.state.mmu.entries ∧ Contained cpu.state (last_event events) after.state := by
    revert hleaves
    cases last_event events with
    | error error => exact fun hleaves => ⟨hleaves.resumes, hleaves.kept.entries, hleaves.kept.cp0⟩
    | ok event =>
      cases event with
      | Completed resume_pc => exact fun hleaves => ⟨hleaves.resumes, hleaves.kept.entries, hleaves.kept.cp0⟩
      | Exception exception => exact fun hleaves => ⟨hleaves.resumes, hleaves.kept.entries, hleaves.kept⟩
      | FloatingPointTrap => exact fun hleaves => ⟨hleaves.resumes, hleaves.kept.entries, hleaves.kept⟩
  obtain ⟨hafter, hentries, hcontained⟩ := hends
  exact ⟨events, after, after', bus_after, other_after, hleft, hright, ⟨hpaired_after, hmmu ▸ htwin_after, hmmu ▸ hafter⟩,
    hentries, hcontained, hstates⟩

theorem Twins.user_mode {backend : se_float.Backend} {cpu' : R3000} (h : Twins backend cpu cpu')
    (huser : cpu'.state.UserMode) : cpu.state.UserMode := by
  rw [h.twin] at huser
  exact ⟨huser.user, huser.unusable, huser.unusable_next, huser.no_transfer⟩

theorem Reachable.run_inputs (h : Reachable β config cpu branch) (bus : PhysicalBus β) (inputs : List (Input β))
    (bus_state : β) : ∃ branch', Reachable β config (cpu.run_inputs bus inputs bus_state).2.1 branch' := by
  induction inputs generalizing cpu branch bus_state with
  | nil => exact ⟨branch, h⟩
  | cons input inputs ih =>
    cases input with
    | devices move => exact ih h (move bus_state)
    | set_hardware_interrupt_lines lines => exact ih (h.set_hardware_interrupt_lines (lines bus_state)) bus_state
    | set_cp0_condition condition => exact ih (h.set_cp0_condition (condition bus_state)) bus_state
    | step => exact ih (h.step bus bus_state) (cpu.step bus bus_state).2.2
    | reset => exact ih h.reset bus_state

/-- User code writes no memory outside the pages the translation buffer opens to
its stores, leaves the buffer and the privileged registers alone, and ends in
user mode, or in the kernel at one of its vectors. -/
theorem user_run_protects {memory : β → Nat → U8} (hreachable : Reachable β config cpu branch)
    (huser : cpu.state.UserMode) (hbus : bus.Bytewise memory) (turns : List (Turn β))
    (hdevices : ∀ turn ∈ turns, ∀ bus_state address, ¬ cpu.state.writable (address / 4096) →
      memory (turn.devices bus_state) address = memory bus_state address) (bus_state : β) :
    let run := cpu.run_turns bus turns bus_state
    (∀ address, ¬ cpu.state.writable (address / 4096) → memory run.2.2 address = memory bus_state address) ∧
      run.2.1.state.mmu.entries = cpu.state.mmu.entries ∧ Contained cpu.state (last_event run.1) run.2.1.state := by
  -- The run beside itself, with what it has left of the memory outside its pages.
  have hkept : bus.Alike bus
      (fun left right => left = right ∧ ∀ address, ¬ cpu.state.writable (address / 4096) →
        memory left address = memory bus_state address)
      cpu.state.readable cpu.state.writable := by
    constructor
    · rintro left _ address length ⟨rfl, houtside⟩ - -
      refine ⟨rfl, rfl, fun cell hcell => ?_⟩
      rw [hbus.read_memory]
      exact houtside cell hcell
    · rintro left _ address data ⟨rfl, houtside⟩ hwithin hwritable
      refine ⟨rfl, rfl, fun cell hcell => ?_⟩
      cases hresult : (bus.write left address data).1 with
      | error fault =>
        rw [hbus.write_error left address data fault hresult]
        exact houtside cell hcell
      | ok done =>
        obtain ⟨hfits, hsome, hword⟩ := hwithin
        rw [hbus.write_ok left address data hresult, store_outside, houtside cell hcell]
        by_contra hinside
        refine hcell ?_
        rw [show cell / 4096 = address.get / 4096 from by omega]
        exact hwritable
  have hturns : List.Forall₂ (Turn.Paired fun left right => left = right ∧ ∀ address,
      ¬ cpu.state.writable (address / 4096) → memory left address = memory bus_state address) turns turns := by
    refine List.forall₂_same.mpr fun turn hturn => ⟨?_, ?_⟩
    · rintro left _ ⟨rfl, houtside⟩
      exact ⟨rfl, fun address haddress => (hdevices turn hturn left address haddress).trans (houtside address haddress)⟩
    · rintro left _ ⟨rfl, -⟩
      exact ⟨rfl, rfl⟩
  obtain ⟨events, after, after', bus_after, other_after, hrun, -, -, hentries, hcontained, -, houtside⟩ :=
    user_run_abreast hreachable huser hkept hturns ⟨rfl, fun _ _ => rfl⟩
  rw [hrun]
  exact ⟨houtside, hentries, hcontained⟩

/-! ### A program that opens a page and enters it -/

/-- The boot memory maps the page at 0x1000 to the frame at 0x2000 and jumps
there, with the transfer that enters user mode in the delay slot. The page
stores a word into itself and calls the kernel. -/
def user_program (address : Nat) : U8 :=
  if 0x1fc00000 ≤ address then
    image [0x24081000, 0x40885000, 0x24092e00, 0x40891000, 0x240a0002, 0x42000002, 0x01000008, 0x408a6000]
      (address - 0x1fc00000)
  else if 0x2000 ≤ address then image [0, 0xad090010, 0x0000000c] (address - 0x2000)
  else 0

/-- A processor in user mode, after the first instruction of the page. -/
def user_processor (cpu : R3000) : R3000 :=
  (cpu.run_inputs (bounded_memory 0x20000000) (List.replicate 9 .step) user_program).2.1

theorem user_processor_twins :
    Twins (default : se_float.Backend) (user_processor (.new (TEST_CONFIG default)))
      (user_processor (undecoded (TEST_CONFIG default))) := by
  have hnew : Twins (default : se_float.Backend) (.new (TEST_CONFIG default)) (undecoded (TEST_CONFIG default)) :=
    have htwins := (@Reachable.new (Nat → U8) (TEST_CONFIG default)).twins
    ⟨⟨rfl, new_coherent _, undecoded_coherent _⟩, rfl, htwins.resumes⟩
  obtain ⟨events, after, after', bus_after, hleft, hright, hafter⟩ :=
    hnew.run_inputs (bounded_memory 0x20000000) (List.replicate 9 .step) user_program
  unfold user_processor
  rw [hleft, hright]
  exact hafter

theorem user_processor_user_mode : (user_processor (.new (TEST_CONFIG default))).state.UserMode := by
  refine user_processor_twins.user_mode ⟨?_, ?_, ?_, ?_⟩ <;> decide +kernel

theorem user_processor_reachable :
    ∃ branch, Reachable (Nat → U8) (TEST_CONFIG default) (user_processor (.new (TEST_CONFIG default))) branch := by
  unfold user_processor
  exact Reachable.new.run_inputs (bounded_memory 0x20000000) (List.replicate 9 .step) user_program

/-- The program's page stores into itself and calls the kernel. -/
theorem user_run_protects_program :
    let cpu := user_processor (.new (TEST_CONFIG default))
    let turns : List (Turn (Nat → U8)) := List.replicate 2 ⟨id, fun _ => 0, fun _ => false⟩
    let run := cpu.run_turns (bounded_memory 0x20000000) turns user_program
    (∀ address, ¬ cpu.state.writable (address / 4096) → run.2.2 address = user_program address) ∧
      run.2.1.state.mmu.entries = cpu.state.mmu.entries ∧ Contained cpu.state (last_event run.1) run.2.1.state := by
  obtain ⟨branch, hreachable⟩ := user_processor_reachable
  refine user_run_protects hreachable user_processor_user_mode (bounded_memory_bytewise 0x20000000) _ ?_ user_program
  intro turn hturn bus_state address _
  rw [List.eq_of_mem_replicate hturn]
  rfl

/-- What user code does depends on the pages the translation buffer opens to it
and on its inputs: two buses that agree there take it through the same events. -/
theorem user_run_noninterference (hreachable : Reachable β config cpu branch) (huser : cpu.state.UserMode)
    (hbus : bus.Alike other related cpu.state.readable cpu.state.writable) {turns : List (Turn β)}
    {other_turns : List (Turn γ)} (hturns : List.Forall₂ (Turn.Paired related) turns other_turns) {bus_state : β}
    {other_state : γ} (hrelated : related bus_state other_state) :
    let run := cpu.run_turns bus turns bus_state
    let other_run := cpu.run_turns other other_turns other_state
    other_run.1 = run.1 ∧ other_run.2.1.snapshot = run.2.1.snapshot ∧ related run.2.2 other_run.2.2 := by
  obtain ⟨events, after, after', bus_after, other_after, hleft, hright, htwins, -, -, hstates⟩ :=
    user_run_abreast hreachable huser hbus hturns hrelated
  rw [hleft, hright]
  exact ⟨rfl, htwins.snapshot, hstates⟩

/-- The program opens no frame below the one it maps. -/
theorem user_processor_closed : ¬ (user_processor (.new (TEST_CONFIG default))).state.readable 0 := by
  refine user_processor_twins.resumes.not_readable ?_ ?_ ?_ <;> decide +kernel

/-- The same program over a memory that differs in the kernel's first page. -/
theorem user_run_noninterference_program :
    let cpu := user_processor (.new (TEST_CONFIG default))
    let turns : List (Turn (Nat → U8)) := List.replicate 2 ⟨id, fun _ => 0, fun _ => false⟩
    let other_memory : Nat → U8 := fun address => if address < 4096 then 0xff else user_program address
    let run := cpu.run_turns (bounded_memory 0x20000000) turns user_program
    let other_run := cpu.run_turns (bounded_memory 0x20000000) turns other_memory
    other_run.1 = run.1 ∧ other_run.2.1.snapshot = run.2.1.snapshot ∧
      ∀ address, cpu.state.readable (address / 4096) → run.2.2 address = other_run.2.2 address := by
  obtain ⟨branch, hreachable⟩ := user_processor_reachable
  refine user_run_noninterference hreachable user_processor_user_mode (bounded_memory_alike 0x20000000 _ _) ?_ ?_
  · refine List.forall₂_same.mpr fun turn hturn => ?_
    rw [List.eq_of_mem_replicate hturn]
    exact ⟨fun _ _ hsame => hsame, fun _ _ _ => ⟨rfl, rfl⟩⟩
  · intro address hreadable
    dsimp only
    split
    · rename_i hfirst
      rw [Nat.div_eq_of_lt hfirst] at hreadable
      exact absurd hreadable user_processor_closed
    · rfl

end R3000

end se_cpu
