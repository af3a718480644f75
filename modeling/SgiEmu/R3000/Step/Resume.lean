import SgiEmu.R3000.State.InstructionView
import SgiEmu.R3000.Step.Abreast

open se_core se_core.bus se_cpu.cache se_cpu.cp0 se_cpu.cp1 se_cpu.mmu se_cpu.decode se_cpu.state
open Library

namespace se_cpu

variable {β : Type}

/-! ## Memory-management units with one translation buffer -/

namespace mmu

/-- Translations through sound lookup caches depend on the two views alone. -/
theorem Mmu.CachesSound.translate_congr {mmu twin : Mmu} (h : mmu.CachesSound) (htwin : twin.CachesSound)
    (hline : twin.line = mmu.line) (virtual_address : U32) (asid : U8) (kernel_mode : Bool) (access : AccessType) :
    (twin.translate virtual_address asid kernel_mode access).1 =
      (mmu.translate virtual_address asid kernel_mode access).1 := by
  have hentries : twin.entries = mmu.entries := congrArg DelayLine.main hline
  have hview : twin.instruction_entries = mmu.instruction_entries := congrArg DelayLine.view hline
  have hmapped : twin.translate_mapped_readonly virtual_address asid access =
      mmu.translate_mapped_readonly virtual_address asid access := by
    unfold Mmu.translate_mapped_readonly
    cases access with
    | Instruction => simp only [Mmu.view, hview]
    | Load => simp only [Mmu.view, hentries]
    | Store => simp only [Mmu.view, hentries]
  rw [(h.translate virtual_address asid kernel_mode access).1,
    (htwin.translate virtual_address asid kernel_mode access).1]
  unfold Mmu.translate_readonly
  rw [hmapped]

end mmu

/-! ## What every state keeps -/

namespace state

/-- Lookup caches that agree with the translation buffer, and caches of a legal geometry. -/
structure State.Sound (state : State) : Prop where
  lookups : state.mmu.CachesSound
  geometry : state.caches.Geometry

theorem State.apply_effect_caches (state : State) (effect : Option InstructionEffect) :
    (state.apply_effect effect).caches = state.caches := by
  cases effect with
  | none => rfl
  | some effect =>
    cases effect with
    | DelayedCp0Write index value => rw [apply_effect, note_status_transfer_frame]
    | RestoreStatus value =>
      unfold State.apply_effect State.restore_cache_context
      dsimp only
      split <;> rfl
    | _ => rfl

theorem State.apply_effect_cp1 (state : State) (effect : Option InstructionEffect) :
    (state.apply_effect effect).cp1 = state.cp1 := by
  cases effect with
  | none => rfl
  | some effect =>
    cases effect with
    | DelayedCp0Write index value => rw [apply_effect, note_status_transfer_frame]
    | RestoreStatus value =>
      unfold State.apply_effect State.restore_cache_context
      dsimp only
      split <;> rfl
    | _ => rfl

theorem State.committed_cp1_backend (state : State) : state.committed_cp1.backend = state.cp1.backend := by
  unfold State.committed_cp1
  cases state.pending_cp1_write with
  | none => rfl
  | some write => exact State.commit_cp1_write_backend state.cp1 write

namespace State.Sound

variable {state : State}

theorem of_same (h : state.Sound) {state' : State} (hmmu : state'.mmu = state.mmu)
    (hcaches : state'.caches = state.caches) : state'.Sound :=
  ⟨hmmu ▸ h.lookups, hcaches ▸ h.geometry⟩

theorem translate_address (h : state.Sound) (virtual_address : U32) (access : AccessType) :
    (state.translate_address virtual_address access).2.Sound ∧
      ∀ translation, (state.translate_address virtual_address access).1 = .ok translation →
        translation.Placed virtual_address := by
  have hlookups := (h.lookups.translate virtual_address state.cp0.current_asid state.cp0.is_kernel_mode access).2
  have hplaced := fun translation =>
    @Mmu.translate_word virtual_address virtual_address rfl state.mmu state.cp0.current_asid
      state.cp0.is_kernel_mode access translation
  unfold State.translate_address
  cases hresult : state.mmu.translate virtual_address state.cp0.current_asid state.cp0.is_kernel_mode access with
  | mk result mmu =>
    rw [hresult] at hlookups hplaced
    cases result with
    | ok translation =>
      refine ⟨⟨hlookups, h.geometry⟩, fun found hfound => ?_⟩
      obtain rfl := Except.ok.inj hfound
      exact (hplaced translation rfl).1
    | error fault => cases fault <;> exact ⟨⟨hlookups, h.geometry⟩, nofun⟩

theorem complete_instruction (h : state.Sound) (resume_pc : Option U32) (effect : Option InstructionEffect) :
    (state.complete_instruction resume_pc effect).Sound := by
  refine ⟨?_, ?_⟩
  · rw [complete_instruction_mmu]
    unfold complete_tlb_write
    split
    · exact h.lookups.complete_write ..
    · exact h.lookups.advance_instruction_view
  · show (state.commit_pending_writes.apply_effect effect).caches.Geometry
    rw [apply_effect_caches, commit_pending_writes_eq]
    exact h.geometry

theorem take_exception (h : state.Sound) (exception : Exception) : (state.take_exception exception).Sound := by
  refine ⟨?_, ?_⟩
  · rw [take_exception_mmu]
    exact h.lookups.advance_instruction_view
  · rw [take_exception_eq]
    show state.commit_pending_writes.caches.Geometry
    rw [commit_pending_writes_eq]
    exact h.geometry

end State.Sound

/-! ## States that differ in lookup caches only -/

/-- A sound state of one floating-point backend, and the unit of a twin: another
cache of lookups over the same translation buffer. -/
structure Resumes (backend : se_float.Backend) (state : State) (twin : Mmu) : Prop where
  sound : state.Sound
  twin_lookups : twin.CachesSound
  line : twin.line = state.mmu.line
  backend : state.cp1.backend = backend

namespace State

theorem apply_effect_with_mmu (state : State) (twin : Mmu) (effect : Option InstructionEffect) :
    { state with mmu := twin }.apply_effect effect = { state.apply_effect effect with mmu := twin } := by
  cases effect with
  | none => rfl
  | some effect =>
    cases effect with
    | DelayedCp0Write index value =>
      have hnoted : { state with mmu := twin }.note_status_transfer index value =
          { state.note_status_transfer index value with mmu := twin } := by
        unfold note_status_transfer
        dsimp only
        cases state.cp0.cache_control_after_write index value with
        | none => rfl
        | some target =>
          dsimp only
          split <;> rfl
      exact congrArg (fun noted : State => { noted with pending_cp0_write := some { index, value } }) hnoted
    | RestoreStatus value =>
      unfold apply_effect restore_cache_context
      dsimp only
      split <;> rfl
    | _ => rfl

theorem complete_instruction_with_mmu (state : State) (twin : Mmu) (resume_pc : Option U32)
    (effect : Option InstructionEffect) :
    { state with mmu := twin }.complete_instruction resume_pc effect =
      { state.complete_instruction resume_pc effect with mmu := complete_tlb_write twin effect } := by
  have hcommitted : { state with mmu := twin }.commit_pending_writes =
      { state.commit_pending_writes with mmu := twin } := by
    rw [commit_pending_writes_eq, commit_pending_writes_eq]
    rfl
  unfold complete_instruction
  rw [hcommitted, apply_effect_with_mmu]

theorem take_exception_with_mmu (state : State) (twin : Mmu) (exception : Exception) :
    { state with mmu := twin }.take_exception exception =
      { state.take_exception exception with mmu := twin.advance_instruction_view } := by
  rw [take_exception_eq, take_exception_eq]
  rw [commit_pending_writes_eq, commit_pending_writes_eq]
  rfl

end State

namespace Resumes

variable {backend : se_float.Backend} {state : State} {twin : Mmu}

theorem same (h : Resumes backend state twin) {state' : State} (hsame : SamePrivileged state state') :
    Resumes backend state' twin where
  sound := h.sound.of_same hsame.mmu hsame.caches
  twin_lookups := h.twin_lookups
  line := h.line.trans (congrArg Mmu.line hsame.mmu.symm)
  backend := hsame.backend.trans h.backend

theorem translate_address (h : Resumes backend state twin) (virtual_address : U32) (access : AccessType) :
    ∃ result after twin', state.translate_address virtual_address access = (result, after) ∧
      { state with mmu := twin }.translate_address virtual_address access = (result, { after with mmu := twin' }) ∧
      Resumes backend after twin' := by
  have hresult := h.sound.lookups.translate_congr h.twin_lookups h.line virtual_address state.cp0.current_asid
    state.cp0.is_kernel_mode access
  have hsound := (h.sound.translate_address virtual_address access).1
  have htwin := (h.twin_lookups.translate virtual_address state.cp0.current_asid state.cp0.is_kernel_mode access).2
  have hline := state.mmu.translate_line virtual_address state.cp0.current_asid state.cp0.is_kernel_mode access
  have hline' := twin.translate_line virtual_address state.cp0.current_asid state.cp0.is_kernel_mode access
  unfold State.translate_address at hsound ⊢
  dsimp only
  cases hleft : state.mmu.translate virtual_address state.cp0.current_asid state.cp0.is_kernel_mode access with
  | mk result mmu =>
    cases hright : twin.translate virtual_address state.cp0.current_asid state.cp0.is_kernel_mode access with
    | mk result' twin' =>
      rw [hleft, hright] at hresult
      rw [hleft] at hsound hline
      rw [hright] at htwin hline'
      obtain rfl : result' = result := hresult
      have hlines : twin'.line = mmu.line := hline'.trans (h.line.trans hline.symm)
      cases result' with
      | ok translation => exact ⟨_, _, twin', rfl, rfl, hsound, htwin, hlines, h.backend⟩
      | error fault => cases fault <;> exact ⟨_, _, twin', rfl, rfl, hsound, htwin, hlines, h.backend⟩

theorem execute_cp0 (h : Resumes backend state twin) (instruction : Cp0Instruction) (condition : Bool) :
    ∃ result after, cp0.execute state instruction condition = (result, after) ∧
      cp0.execute { state with mmu := twin } instruction condition = (result, { after with mmu := twin }) ∧
      Resumes backend after twin := by
  have hentries : twin.entries = state.mmu.entries := congrArg DelayLine.main h.line
  unfold cp0.execute
  dsimp only
  cases state.cp0.is_usable with
  | false => exact ⟨_, _, rfl, rfl, h⟩
  | true =>
    simp only [Bool.not_true, Bool.false_eq_true, if_false]
    cases instruction with
    | Tlbr =>
      refine ⟨_, _, rfl, ?_, h⟩
      unfold State.tlbr_effect Mmu.read_indexed
      dsimp only
      rw [hentries]
    | Tlbp =>
      have hprobe : ∀ entry_hi, twin.probe entry_hi = state.mmu.probe entry_hi := by
        intro entry_hi
        unfold Mmu.probe
        rw [hentries]
      dsimp only
      unfold State.tlbp_effect
      dsimp only
      rw [hprobe]
      cases state.mmu.probe state.cp0.tlb_staging.1 with
      | Miss => exact ⟨_, _, rfl, rfl, h⟩
      | Match index => exact ⟨_, _, rfl, rfl, h⟩
      | Shutdown => exact ⟨_, _, rfl, rfl, h.sound.of_same rfl rfl, h.twin_lookups, h.line, h.backend⟩
    | _ => exact ⟨_, _, rfl, rfl, h⟩

theorem complete_instruction (h : Resumes backend state twin) (resume_pc : Option U32)
    (effect : Option InstructionEffect) :
    Resumes backend (state.complete_instruction resume_pc effect) (State.complete_tlb_write twin effect) where
  sound := h.sound.complete_instruction resume_pc effect
  twin_lookups := by
    unfold State.complete_tlb_write
    split
    · exact h.twin_lookups.complete_write ..
    · exact h.twin_lookups.advance_instruction_view
  line := by rw [State.complete_instruction_mmu, complete_tlb_write_line, complete_tlb_write_line, h.line]
  backend := by
    show (state.commit_pending_writes.apply_effect effect).cp1.backend = backend
    rw [State.apply_effect_cp1, State.commit_pending_writes_eq]
    exact state.committed_cp1_backend.trans h.backend

theorem take_exception (h : Resumes backend state twin) (exception : Exception) :
    Resumes backend (state.take_exception exception) twin.advance_instruction_view where
  sound := h.sound.take_exception exception
  twin_lookups := h.twin_lookups.advance_instruction_view
  line := by rw [State.take_exception_mmu, advance_instruction_view_line, advance_instruction_view_line, h.line]
  backend := by
    rw [State.take_exception_eq]
    show state.commit_pending_writes.cp1.backend = backend
    rw [State.commit_pending_writes_eq]
    exact state.committed_cp1_backend.trans h.backend

/-- Twins take every step together, whatever it executes. -/
theorem simulation (backend : se_float.Backend) :
    Simulation (Resumes backend) (Resumes backend) (fun _ => True) (fun _ => True) fun _ => True where
  geometry h := h.sound.geometry
  same h hsame := h.same hsame
  with_caches h hcaches := { h with sound := ⟨h.sound.lookups, hcaches⟩ }
  set_cache_miss _ h := { h with sound := h.sound.of_same rfl rfl }
  sampled h := { h with sound := h.sound.of_same rfl rfl }
  synchronize h := { h with sound := h.sound.of_same rfl rfl }
  translate {state twin} virtual_address access h := by
    obtain ⟨result, after, twin', hleft, hright, hafter⟩ := h.translate_address virtual_address access
    obtain ⟨-, hplaced⟩ := h.sound.translate_address virtual_address access
    rw [hleft] at hplaced
    refine ⟨result, after, twin', hleft, hright, hafter, fun translation htranslated =>
      ⟨hplaced translation htranslated, ?_⟩⟩
    split <;> trivial
  unprivileged _ := trivial
  execute_cp0 {state twin} instruction condition h := by
    obtain ⟨result, after, hleft, hright, hafter⟩ := h.execute_cp0 instruction condition
    exact ⟨result, after, twin, hleft, hright, hafter, fun _ _ _ => trivial⟩
  complete {state twin} resume_pc effect h _ :=
    ⟨_, state.complete_instruction_with_mmu twin resume_pc effect, h.complete_instruction resume_pc effect⟩
  enter {state twin} exception h :=
    have hentered := h.take_exception exception
    ⟨_, state.take_exception_with_mmu twin exception, { hentered with sound := hentered.sound.of_same rfl rfl }⟩

end Resumes

end state

/-! ## Runs from a snapshot -/

namespace R3000

/-- What the machine around a processor does: its devices move, drive the
processor's inputs, let it take a step or reset it. -/
inductive Input (β : Type) where
  | devices (move : β → β)
  | set_hardware_interrupt_lines (lines : β → U8)
  | set_cp0_condition (condition : β → Bool)
  | step
  | reset

/-- What an input makes of a processor and its bus, with the event of a step. -/
def take_input (bus : PhysicalBus β) (cpu : R3000) (bus_state : β) :
    Input β → Option (Except StepError StepEvent) × R3000 × β
  | .devices move => (none, cpu, move bus_state)
  | .set_hardware_interrupt_lines lines => (none, cpu.set_hardware_interrupt_lines (lines bus_state), bus_state)
  | .set_cp0_condition condition => (none, cpu.set_cp0_condition (condition bus_state), bus_state)
  | .step =>
    let (event, cpu, bus_state) := cpu.step bus bus_state
    (some event, cpu, bus_state)
  | .reset => (none, cpu.reset, bus_state)

/-- The events of a run, with the processor and the bus it ends in. -/
def run_inputs (bus : PhysicalBus β) : List (Input β) → R3000 → β → List (Option (Except StepError StepEvent)) × R3000 × β
  | [], cpu, bus_state => ([], cpu, bus_state)
  | input :: inputs, cpu, bus_state =>
    let (event, cpu, bus_state) := cpu.take_input bus bus_state input
    let (events, cpu, bus_state) := run_inputs bus inputs cpu bus_state
    (event :: events, cpu, bus_state)

/-- Two processors that agree in all but their caches of lookups and decoded words. -/
structure Twins (backend : se_float.Backend) (cpu cpu' : R3000) : Prop where
  paired : Paired cpu cpu'
  twin : cpu'.state = { cpu.state with mmu := cpu'.state.mmu }
  resumes : Resumes backend cpu.state cpu'.state.mmu

namespace Twins

variable {backend : se_float.Backend} {cpu cpu' : R3000}

/-- A snapshot holds nothing that twins differ in. -/
theorem snapshot (h : Twins backend cpu cpu') : cpu'.snapshot = cpu.snapshot := by
  have hline := h.resumes.line
  have hclone : cpu'.state.mmu.clone = cpu.state.mmu.clone := by
    unfold Mmu.clone
    unfold Mmu.line at hline
    simp only [DelayLine.mk.injEq, List.cons.injEq, and_true] at hline
    obtain ⟨hentries, hview, holdest, hnewest⟩ := hline
    rw [hentries, hview, Prod.ext holdest hnewest]
  unfold R3000.snapshot
  rw [h.paired.cp0_condition, h.twin, hclone]

theorem take_input (h : Twins backend cpu cpu') (bus : PhysicalBus β) (bus_state : β) (input : Input β) :
    ∃ event after after' bus_after, cpu.take_input bus bus_state input = (event, after, bus_after) ∧
      cpu'.take_input bus bus_state input = (event, after', bus_after) ∧ Twins backend after after' := by
  cases input with
  | devices move => exact ⟨_, _, _, _, rfl, rfl, h⟩
  | set_hardware_interrupt_lines lines =>
    refine ⟨_, _, _, _, rfl, rfl, h.paired.with_states _ _, ?_, h.resumes.same ⟨rfl, rfl, rfl, rfl, rfl⟩⟩
    exact congrArg (fun state : State => state.set_hardware_interrupt_lines (lines bus_state)) h.twin
  | set_cp0_condition condition =>
    exact ⟨_, _, _, _, rfl, rfl, ⟨rfl, h.paired.coherent, h.paired.coherent'⟩, h.twin, h.resumes⟩
  | step =>
    have hbus : bus.Alike bus (fun left right => left = right) (fun _ => True) fun _ => True :=
      ⟨fun _ _ hstates _ _ => hstates ▸ ⟨rfl, rfl⟩, fun _ _ hstates _ _ => hstates ▸ ⟨rfl, rfl⟩⟩
    obtain ⟨event, after, after', twin, bus_after, _, hleft, hright, hpaired, htwin, hleaves, rfl⟩ :=
      step_abreast h.paired (Resumes.simulation backend) h.resumes h.twin hbus (rfl : bus_state = bus_state)
    have hresumes : Resumes backend after.state twin := by
      cases event with
      | error error => exact hleaves
      | ok event => cases event <;> exact hleaves
    have hmmu : after'.state.mmu = twin := congrArg State.mmu htwin
    refine ⟨some event, after, after', bus_after, ?_, ?_, hpaired, hmmu ▸ htwin, hmmu ▸ hresumes⟩
    · exact congrArg (fun result : StepResult β => (some result.1, result.2)) hleft
    · exact congrArg (fun result : StepResult β => (some result.1, result.2)) hright
  | reset =>
    have hentries : cpu'.state.mmu.entries = cpu.state.mmu.entries := congrArg DelayLine.main h.resumes.line
    refine ⟨_, _, _, _, rfl, rfl, h.paired.with_states _ _, ?_, ?_⟩
    · exact congrArg (fun state : State => state.reset.synchronize_cp1_interrupt) h.twin
    · refine ⟨⟨h.resumes.sound.lookups.reset, h.resumes.sound.geometry⟩, h.resumes.twin_lookups.reset, ?_,
        h.resumes.backend⟩
      show cpu'.state.mmu.reset.line = cpu.state.mmu.reset.line
      rw [Mmu.reset_line, Mmu.reset_line, hentries]

theorem run_inputs (h : Twins backend cpu cpu') (bus : PhysicalBus β) (inputs : List (Input β)) (bus_state : β) :
    ∃ events after after' bus_after, cpu.run_inputs bus inputs bus_state = (events, after, bus_after) ∧
      cpu'.run_inputs bus inputs bus_state = (events, after', bus_after) ∧ Twins backend after after' := by
  induction inputs generalizing cpu cpu' bus_state with
  | nil => exact ⟨_, _, _, _, rfl, rfl, h⟩
  | cons input inputs ih =>
    obtain ⟨event, after, after', bus_after, hleft, hright, hafter⟩ := h.take_input bus bus_state input
    obtain ⟨events, last, last', bus_last, hrun, hrun', hlast⟩ := ih hafter bus_after
    unfold R3000.run_inputs
    rw [hleft, hright]
    dsimp only
    rw [hrun, hrun']
    exact ⟨_, _, _, _, rfl, rfl, hlast⟩

end Twins

/-- A reachable processor is its own twin. -/
theorem Reachable.twins {config : R3000Config} {cpu : R3000} {branch : Option U32}
    (h : Reachable β config cpu branch) : Twins config.floating_point_backend cpu cpu := by
  have hcoherent := h.invariant.2
  refine ⟨⟨rfl, hcoherent, hcoherent⟩, rfl, ?_⟩
  clear hcoherent
  induction h with
  | new =>
    have hgeometry : Caches.Geometry (State.new config).caches :=
      ⟨Cache.new_geometry config.valid_instruction_cache config.valid_instruction_refill,
        Cache.new_geometry config.valid_data_cache config.valid_data_refill⟩
    exact ⟨⟨Mmu.cachesSound_new, hgeometry⟩, Mmu.cachesSound_new, rfl, rfl⟩
  | @step cpu branch bus bus_state hcpu ih =>
    have hcoherent := hcpu.invariant.2
    have htwins : Twins config.floating_point_backend cpu cpu := ⟨⟨rfl, hcoherent, hcoherent⟩, rfl, ih⟩
    obtain ⟨event, after, after', bus_after, hleft, -, hafter⟩ := htwins.take_input bus bus_state .step
    have hstep : (cpu.step bus bus_state).2.1 = after := congrArg (fun result => result.2.1) hleft
    rw [hstep]
    exact ⟨hafter.resumes.sound, hafter.resumes.sound.lookups, rfl, hafter.resumes.backend⟩
  | reset _ ih =>
    exact ⟨⟨ih.sound.lookups.reset, ih.sound.geometry⟩, ih.sound.lookups.reset, rfl, ih.backend⟩
  | set_cp0_condition condition _ ih => exact ih
  | set_hardware_interrupt_lines lines _ ih => exact ih.same ⟨rfl, rfl, rfl, rfl, rfl⟩
  | restore_snapshot _ _ ih ih' =>
    exact ⟨⟨Mmu.cachesSound_clone _, ih'.sound.geometry⟩, Mmu.cachesSound_clone _, rfl, ih.backend⟩

/-- A processor restored from a snapshot of another of its configuration is a
twin of the one the snapshot was taken of. -/
theorem Reachable.twins_of_restore_snapshot {config : R3000Config} {cpu cpu' : R3000} {branch branch' : Option U32}
    (h : Reachable β config cpu branch) (h' : Reachable β config cpu' branch') :
    Twins config.floating_point_backend cpu (cpu'.restore_snapshot cpu.snapshot) := by
  obtain ⟨⟨-, hcoherent, -⟩, -, hresumes⟩ := h.twins
  obtain ⟨⟨-, hcoherent', -⟩, -, hresumes'⟩ := h'.twins
  refine ⟨⟨rfl, hcoherent, hcoherent'⟩, ?_, hresumes.sound, Mmu.cachesSound_clone _, rfl, hresumes.backend⟩
  have hbackend : cpu.state.cp1.restore_backend cpu'.state.cp1.backend = cpu.state.cp1 := by
    rw [hresumes'.backend, ← hresumes.backend]
    rfl
  unfold R3000.restore_snapshot R3000.snapshot State.restore_floating_point_backend
  dsimp only
  rw [hbackend]

/-- A restored processor goes on as the one its snapshot was taken of, whatever
the machine around it does, although a snapshot holds neither cache of lookups
and no decoded word. -/
theorem restored_runs_on {config : R3000Config} {cpu cpu' : R3000} {branch branch' : Option U32}
    (h : Reachable β config cpu branch) (h' : Reachable β config cpu' branch') (bus : PhysicalBus β)
    (inputs : List (Input β)) (bus_state : β) :
    let run := cpu.run_inputs bus inputs bus_state
    let restored_run := (cpu'.restore_snapshot cpu.snapshot).run_inputs bus inputs bus_state
    restored_run.1 = run.1 ∧ restored_run.2.2 = run.2.2 ∧ restored_run.2.1.snapshot = run.2.1.snapshot := by
  obtain ⟨events, after, after', bus_after, hleft, hright, hafter⟩ :=
    (h.twins_of_restore_snapshot h').run_inputs bus inputs bus_state
  rw [hleft, hright]
  exact ⟨rfl, rfl, hafter.snapshot⟩

/-- A processor that has run from a page of zeros, restored into a new one. -/
theorem restored_runs_on_into_new :
    let bus := Cache.bounded_memory 0x20000000
    let memory : Nat → U8 := fun _ => 0
    let cpu := ((R3000.new (TEST_CONFIG default)).step bus memory).2.1
    let inputs : List (Input (Nat → U8)) :=
      [.step, .set_hardware_interrupt_lines fun _ => 2, .step, .reset, .devices fun _ _ => 1, .step]
    let run := cpu.run_inputs bus inputs memory
    let restored_run := ((R3000.new (TEST_CONFIG default)).restore_snapshot cpu.snapshot).run_inputs bus inputs memory
    restored_run.1 = run.1 ∧ restored_run.2.2 = run.2.2 ∧ restored_run.2.1.snapshot = run.2.1.snapshot :=
  restored_runs_on (Reachable.new.step (Cache.bounded_memory 0x20000000) fun _ => 0) .new _ _ _

end R3000

end se_cpu
