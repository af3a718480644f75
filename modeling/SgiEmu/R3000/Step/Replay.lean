import SgiEmu.R3000.Step.Registers
import Mathlib.Data.List.ReduceOption

open se_core se_core.bus se_cpu.cp0 se_cpu.decode se_cpu.state

namespace se_cpu

/-! ## Replays -/

/-- General registers after the writes of some instructions, in program order. -/
def replay (gpr : Vector U32 32) (log : List (Option GprWrite)) : Vector U32 32 :=
  log.reduceOption.foldl GprWrite.apply gpr

/-- What the last of some instructions writes late. -/
def preceding_delayed (log : List (Option GprWrite)) : Option GprWrite :=
  log.getLast?.join.filter GprWrite.delayed

/-- The log without what its last instruction writes late. -/
def without_preceding_delayed (log : List (Option GprWrite)) : List (Option GprWrite) :=
  if (preceding_delayed log).isSome then log.dropLast else log

theorem replay_concat (gpr : Vector U32 32) (log : List (Option GprWrite)) (write : Option GprWrite) :
    replay gpr (log ++ [write]) = write.elim (replay gpr log) (GprWrite.apply (replay gpr log)) := by
  unfold replay
  rw [List.reduceOption_append, List.foldl_append]
  cases write <;> rfl

theorem preceding_delayed_concat (log : List (Option GprWrite)) (write : Option GprWrite) :
    preceding_delayed (log ++ [write]) = write.filter GprWrite.delayed := by
  unfold preceding_delayed
  rw [List.getLast?_concat, Option.join_some]

theorem replay_without_concat (gpr : Vector U32 32) (log : List (Option GprWrite))
    (write : Option GprWrite) :
    replay gpr (without_preceding_delayed (log ++ [write])) =
      (write.filter fun write => !write.delayed).elim (replay gpr log) (GprWrite.apply (replay gpr log)) := by
  unfold without_preceding_delayed
  rw [preceding_delayed_concat, List.dropLast_concat]
  cases write with
  | none => exact replay_concat gpr log none
  | some write =>
    cases hdelayed : write.delayed with
    | true => simp [Option.filter, hdelayed]
    | false => simp [Option.filter, hdelayed, replay_concat]

/-- The replay of a log is that without the last instruction's late write, and
then that write. -/
theorem replay_eq_without (gpr : Vector U32 32) (log : List (Option GprWrite)) :
    replay gpr log = (preceding_delayed log).elim (replay gpr (without_preceding_delayed log))
      (GprWrite.apply (replay gpr (without_preceding_delayed log))) := by
  rcases List.eq_nil_or_concat' log with rfl | ⟨front, write, rfl⟩
  · rfl
  · rw [preceding_delayed_concat, replay_without_concat, replay_concat]
    cases write with
    | none => rfl
    | some write => cases hdelayed : write.delayed <;> simp [Option.filter, hdelayed]

theorem GprWrite.apply_zero (gpr : Vector U32 32) (write : GprWrite) : (apply gpr write)[0] = gpr[0] := by
  unfold apply
  split
  · rename_i hindex
    exact Vector.getElem_setIfInBounds_ne _ hindex
  · rfl

theorem replay_zero (gpr : Vector U32 32) (log : List (Option GprWrite)) : (replay gpr log)[0] = gpr[0] := by
  unfold replay
  generalize log.reduceOption = writes
  induction writes generalizing gpr with
  | nil => rfl
  | cons write rest ih => rw [List.foldl_cons, ih, write.apply_zero]

/-! ## The log of a run -/

variable {β : Type}

namespace R3000

/-- What a step adds to the log: an entry for the instruction it completed or
the exception it entered, nothing when it failed and is tried again. -/
def step_log (cpu : R3000) (bus : PhysicalBus β) (bus_state : β) : List (Option GprWrite) :=
  match (cpu.step bus bus_state).1 with
  | .ok _ =>
    match cpu.fetched bus bus_state with
    | some (ready, instruction, bus_ready) => [instruction.gpr_write ready bus bus_ready]
    | none => [none]
  | .error _ => []

end R3000

/-- What the machine does with its processor between resets. -/
inductive CpuInput (β : Type) where
  | step (bus : PhysicalBus β) (bus_state : β)
  | set_cp0_condition (condition : Bool)
  | set_hardware_interrupt_lines (lines : U8)

namespace R3000

def perform (cpu : R3000) : CpuInput β → R3000
  | .step bus bus_state => (cpu.step bus bus_state).2.1
  | .set_cp0_condition condition => cpu.set_cp0_condition condition
  | .set_hardware_interrupt_lines lines => cpu.set_hardware_interrupt_lines lines

def input_log (cpu : R3000) : CpuInput β → List (Option GprWrite)
  | .step bus bus_state => cpu.step_log bus bus_state
  | .set_cp0_condition _ | .set_hardware_interrupt_lines _ => []

def run (cpu : R3000) (inputs : List (CpuInput β)) : R3000 := inputs.foldl perform cpu

/-- The register writes of a run's instructions, in program order. -/
def log (cpu : R3000) : List (CpuInput β) → List (Option GprWrite)
  | [] => []
  | input :: rest => cpu.input_log input ++ (cpu.perform input).log rest

end R3000

namespace R3000

theorem finish_wrote {gpr : Vector U32 32} {write : Option GprWrite} (cpu : R3000) {executed : State}
    {outcome : InstructionResult} (h : Writes gpr write outcome executed) (bus_state : β) {event : StepEvent}
    (hevent : (cpu.finish executed outcome bus_state).1 = .ok event) :
    Wrote gpr write (cpu.finish executed outcome bus_state).2.1.state := by
  match outcome with
  | .ok (.Completed (delayed_resume_pc, effect)) =>
    refine SameRegisters.wrote (State.synchronize_cp1_interrupt_same_program _).registers ?_
    exact State.complete_instruction_wrote h.1 h.2 delayed_resume_pc
  | .ok (.Exception exception) =>
    obtain ⟨hcommitted, rfl⟩ := h
    refine SameRegisters.wrote (State.synchronize_cp1_interrupt_same_program _).registers ?_
    rw [← hcommitted]
    exact executed.take_exception_wrote exception
  | .error error => cases hevent

/-- An executed instruction that completes or excepts makes the write it names. -/
theorem execute_wrote (cpu : R3000) (ready : State) (instruction : Instruction) (bus : PhysicalBus β)
    (bus_ready : β) {event : StepEvent}
    (hevent : (cpu.execute ready instruction bus bus_ready).1 = .ok event) :
    Wrote ready.committed_gpr (instruction.gpr_write ready bus bus_ready)
      (cpu.execute ready instruction bus bus_ready).2.1.state := by
  unfold execute at hevent ⊢
  cases instruction with
  | Alu instruction =>
    have hwrites := alu.execute_writes ready instruction
    dsimp only at hevent ⊢
    cases hresult : alu.execute ready instruction with
    | mk result executed =>
      rw [hresult] at hwrites hevent
      cases result with
      | ok done => exact cpu.finish_wrote hwrites bus_ready hevent
      | error exception =>
        have hnone : Instruction.gpr_write (.Alu instruction) ready bus bus_ready = none := by
          show Option.map _ _ = none
          rw [hwrites.2]
          rfl
        have hexcepted : Writes ready.committed_gpr
            (Instruction.gpr_write (.Alu instruction) ready bus bus_ready) (.ok (.Exception exception))
            executed := ⟨hwrites.1, hnone⟩
        exact cpu.finish_wrote hexcepted bus_ready hevent
  | Control instruction =>
    exact cpu.finish_wrote (control.execute_writes ready instruction _) bus_ready hevent
  | Cp0 instruction =>
    exact cpu.finish_wrote (cp0.execute_writes ready instruction cpu.cp0_condition) bus_ready hevent
  | Cp1 instruction =>
    have hwrites := cp1.execute_writes ready instruction bus bus_ready
    dsimp only at hevent ⊢
    cases hresult : cp1.execute ready instruction bus bus_ready with
    | mk result rest =>
      rw [hresult] at hwrites hevent
      obtain ⟨executed, bus_state'⟩ := rest
      have hsame := executed.synchronize_cp1_interrupt_same_program.registers
      match result with
      | .error error => cases hevent
      | .ok (outcome, exception_raised) =>
        obtain ⟨hwritten, hraised⟩ := hwrites
        have hsynchronized : Writes ready.committed_gpr
            (Instruction.gpr_write (.Cp1 instruction) ready bus bus_ready) (.ok outcome)
            executed.synchronize_cp1_interrupt := by
          match outcome with
          | .Completed (_, effect) => exact ⟨hsame.committed.trans hwritten.1, hwritten.2⟩
          | .Exception _ => exact ⟨hsame.committed.trans hwritten.1, hwritten.2⟩
        dsimp only at hevent ⊢
        split
        · rename_i htrapped
          have hnone : Instruction.gpr_write (.Cp1 instruction) ready bus bus_ready = none :=
            hraised (Bool.and_eq_true_iff.mp htrapped).1
          have hcommitted : executed.synchronize_cp1_interrupt.committed_gpr = ready.committed_gpr := by
            rw [hnone] at hsynchronized
            match outcome with
            | .Completed (_, effect) => exact hsynchronized.1
            | .Exception _ => exact hsynchronized.1
          refine SameRegisters.wrote (State.synchronize_cp1_interrupt_same_program _).registers ?_
          rw [hnone, ← hcommitted]
          exact executed.synchronize_cp1_interrupt.take_exception_wrote .Interrupt
        · rename_i htrapped
          rw [if_neg htrapped] at hevent
          exact cpu.finish_wrote hsynchronized bus_state' hevent
  | Memory instruction =>
    have hwrites := load_store.execute_writes ready instruction bus bus_ready
    dsimp only at hevent ⊢
    cases hresult : load_store.execute ready instruction bus bus_ready with
    | mk result rest =>
      rw [hresult] at hwrites hevent
      obtain ⟨executed, bus_state'⟩ := rest
      match result with
      | .error error => cases hevent
      | .ok (.Completed effect) =>
        have hwritten : Writes _ _ (.ok (.Completed (none, effect))) executed := hwrites
        exact cpu.finish_wrote hwritten bus_state' hevent
      | .ok (.Exception exception) =>
        have hwritten : Writes _ _ (.ok (.Exception exception)) executed := hwrites
        exact cpu.finish_wrote hwritten bus_state' hevent
  | Syscall =>
    have hwritten : Writes ready.committed_gpr none (.ok (.Exception .Syscall)) ready := ⟨rfl, rfl⟩
    exact cpu.finish_wrote hwritten bus_ready hevent
  | Breakpoint =>
    have hwritten : Writes ready.committed_gpr none (.ok (.Exception .Breakpoint)) ready := ⟨rfl, rfl⟩
    exact cpu.finish_wrote hwritten bus_ready hevent

/-- The registers across a step: as its log entry says, or untouched when it failed. -/
inductive Logged (cpu : R3000) : List (Option GprWrite) → State → Prop where
  | entry {after : State} (write : Option GprWrite) (h : Wrote cpu.state.committed_gpr write after) :
    Logged cpu [write] after
  | untouched {after : State} (h : SameRegisters cpu.state after) : Logged cpu [] after

theorem step_logged (cpu : R3000) (bus : PhysicalBus β) (bus_state : β) :
    cpu.Logged (cpu.step_log bus bus_state) (cpu.step bus bus_state).2.1.state := by
  have hfollows := cpu.step_follows bus bus_state
  have hspec := step_spec bus cpu bus_state
  unfold step_log
  unfold Stepped.Result at hspec
  cases hevent : (cpu.step bus bus_state).1 with
  | error error =>
    rw [hevent] at hspec
    refine .untouched ?_
    generalize (cpu.step bus bus_state).2.1.state = after at hspec ⊢
    generalize (cpu.step bus bus_state).2.2 = bus_after at hspec
    cases hspec with
    | shut_down _ => exact ⟨rfl, rfl⟩
    | failed _ _ _ hready hfailed =>
      exact (hready.frame.1.trans (hfailed.elim LookupsOnly.same_program ShutDown.same_program)).registers
  | ok event =>
    dsimp only
    cases hfetched : cpu.fetched bus bus_state with
    | none =>
      rw [hfetched] at hfollows
      unfold Follows at hfollows
      rw [hevent] at hfollows
      refine .entry none ?_
      generalize (cpu.step bus bus_state).2.1.state = after at hfollows ⊢
      cases hfollows with
      | excepted exception backed_out hsame =>
        refine SameRegisters.wrote (State.synchronize_cp1_interrupt_same_program _).registers ?_
        rw [← hsame.registers.committed]
        exact backed_out.take_exception_wrote exception
    | some fetched =>
      obtain ⟨ready, instruction, bus_ready⟩ := fetched
      rw [hfetched] at hfollows
      obtain ⟨hready, cpu', -, hstep⟩ := hfollows
      rw [hstep] at hevent ⊢
      refine .entry _ ?_
      rw [← hready.frame.1.registers.committed]
      exact cpu'.execute_wrote ready instruction bus bus_ready hevent

/-- The invariant of a run: the registers hold every logged write but the last
instruction's late one, and that one is in flight. -/
structure Replays (gpr : Vector U32 32) (log : List (Option GprWrite)) (state : State) : Prop where
  gpr : state.gpr = replay gpr (without_preceding_delayed log)
  pending : pending_write state = preceding_delayed log

theorem Replays.committed {gpr : Vector U32 32} {log : List (Option GprWrite)} {state : State}
    (h : Replays gpr log state) : state.committed_gpr = replay gpr log := by
  rw [State.committed_gpr_eq, h.pending, h.gpr, ← replay_eq_without]

theorem Replays.same {gpr : Vector U32 32} {log : List (Option GprWrite)} {state state' : State}
    (h : Replays gpr log state) (hsame : SameRegisters state state') : Replays gpr log state' where
  gpr := hsame.1.trans h.gpr
  pending := by
    unfold pending_write
    rw [hsame.2]
    exact h.pending

theorem Replays.logged {gpr : Vector U32 32} {log entries : List (Option GprWrite)} {cpu : R3000}
    {after : State} (h : Replays gpr log cpu.state) (hlogged : cpu.Logged entries after) :
    Replays gpr (log ++ entries) after := by
  cases hlogged with
  | entry write hwrote =>
    refine ⟨?_, ?_⟩
    · rw [hwrote.gpr, h.committed, replay_without_concat]
    · rw [hwrote.pending, preceding_delayed_concat]
  | untouched hsame =>
    rw [List.append_nil]
    exact h.same hsame

theorem Replays.run {gpr : Vector U32 32} {log : List (Option GprWrite)} {cpu : R3000}
    (h : Replays gpr log cpu.state) (inputs : List (CpuInput β)) :
    Replays gpr (log ++ cpu.log inputs) (cpu.run inputs).state := by
  induction inputs generalizing cpu log with
  | nil =>
    rw [R3000.log, List.append_nil]
    exact h
  | cons input rest ih =>
    rw [R3000.log, ← List.append_assoc]
    refine ih ?_
    cases input with
    | step bus bus_state => exact h.logged (cpu.step_logged bus bus_state)
    | set_cp0_condition condition => exact h.logged (.untouched ⟨rfl, rfl⟩)
    | set_hardware_interrupt_lines lines => exact h.logged (.untouched ⟨rfl, rfl⟩)

/-- A write already in flight when a run starts counts as its first entry. -/
def initial_log (state : State) : List (Option GprWrite) := (pending_write state).toList.map some

theorem initial_replays (state : State) : Replays state.gpr (initial_log state) state := by
  cases hpending : pending_write state with
  | none =>
    have hlog : initial_log state = [] := by simp [initial_log, hpending]
    rw [hlog]
    exact ⟨rfl, hpending⟩
  | some write =>
    have hdelayed : write.delayed = true := by
      unfold pending_write at hpending
      obtain ⟨pending, -, rfl⟩ := Option.map_eq_some_iff.mp hpending
      cases pending.load_merge_bypass <;> rfl
    have hlog : initial_log state = [some write] := by simp [initial_log, hpending]
    rw [hlog]
    refine ⟨?_, ?_⟩
    · simp [without_preceding_delayed, preceding_delayed, hdelayed, replay]
    · simp [preceding_delayed, Option.filter, hdelayed, hpending]

/-- The write an unaligned load merges with: the last instruction's late one,
if it was a memory load to the register. -/
def merged_write (log : List (Option GprWrite)) (index : Nat) : Option GprWrite :=
  (preceding_delayed log).filter fun write => write.source = .Load ∧ write.index = index ∧ index ≠ 0

theorem Replays.read_gpr {gpr : Vector U32 32} {log : List (Option GprWrite)} {state : State}
    (h : Replays gpr log state) (index : Nat) :
    state.read_gpr index =
      if index = 0 then 0 else (replay gpr (without_preceding_delayed log))[index]! := by
  rw [State.read_gpr, h.gpr]

theorem Replays.read_gpr_for_load_merge {gpr : Vector U32 32} {log : List (Option GprWrite)} {state : State}
    (h : Replays gpr log state) (index : Nat) :
    state.read_gpr_for_load_merge index =
      (merged_write log index).elim (state.read_gpr index) GprWrite.value := by
  unfold State.read_gpr_for_load_merge merged_write
  rw [← h.pending]
  unfold pending_write
  by_cases hzero : index = 0
  · cases state.pending_gpr_write <;> simp [hzero, State.read_gpr]
  · cases state.pending_gpr_write with
    | none => simp [hzero]
    | some write =>
      by_cases hindex : write.index = index <;> cases hbypass : write.load_merge_bypass <;>
        simp [Option.filter, hzero, hindex, hbypass]

/-- The general registers of every run are the replay of its instructions'
writes, and what an instruction reads is that replay without the late write of
the one before it, but for the unaligned loads. -/
theorem run_gpr_replay (cpu : R3000) (inputs : List (CpuInput β)) :
    let log := initial_log cpu.state ++ cpu.log inputs
    let after := cpu.run inputs
    after.state.committed_gpr = replay cpu.state.gpr log ∧
    after.state.gpr[0] = cpu.state.gpr[0] ∧
    ∀ (bus : PhysicalBus β) (bus_state : β) (ready : State) (instruction : Instruction) (bus_ready : β),
      after.fetched bus bus_state = some (ready, instruction, bus_ready) →
        ready.read_gpr 0 = 0 ∧ ready.read_gpr_for_load_merge 0 = 0 ∧
        ∀ index, index ≠ 0 →
          ready.read_gpr index = (replay cpu.state.gpr (without_preceding_delayed log))[index]! ∧
          ready.read_gpr_for_load_merge index =
            (merged_write log index).elim (ready.read_gpr index) GprWrite.value := by
  intro log after
  have hreplays : Replays cpu.state.gpr log after.state := (initial_replays cpu.state).run inputs
  refine ⟨hreplays.committed, ?_, ?_⟩
  · simp only [hreplays.gpr, replay_zero]
  · intro bus bus_state ready instruction bus_ready hfetched
    have hfollows := after.step_follows bus bus_state
    rw [hfetched] at hfollows
    have hready : Replays cpu.state.gpr log ready := hreplays.same hfollows.1.frame.1.registers
    refine ⟨rfl, rfl, fun index hindex => ⟨?_, hready.read_gpr_for_load_merge index⟩⟩
    rw [hready.read_gpr, if_neg hindex]

end R3000

end se_cpu
