import SgiEmu.Runtime.Worker.Execute
import SgiEmu.Runtime.Worker.Replaced

open se_core se_core.storage se_machine se_runtime.record

namespace se_runtime.runtime

variable {host : Host}

/-! ## Workers that differ in what no session sees -/

/-- Two workers with the same machine in the same session. -/
structure SameSession (worker other : Worker host.toPlatform) : Prop where
  machine : other.machine = worker.machine
  cpu_clock : other.cpu_clock = worker.cpu_clock
  virtual_instant : other.virtual_instant = worker.virtual_instant
  position : other.position = worker.position
  completed_instructions : other.completed_instructions = worker.completed_instructions
  mode : other.mode = worker.mode
  preserved_nonvolatile_state : other.preserved_nonvolatile_state = worker.preserved_nonvolatile_state
  machine_generation : other.machine_generation = worker.machine_generation
  breakpoints : other.breakpoints = worker.breakpoints

namespace SameSession

variable {worker other third : Worker host.toPlatform}

theorem refl (worker : Worker host.toPlatform) : SameSession worker worker := ⟨rfl, rfl, rfl, rfl, rfl, rfl, rfl, rfl, rfl⟩

theorem trans (h : SameSession worker other) (hthird : SameSession other third) : SameSession worker third :=
  ⟨hthird.machine.trans h.machine, hthird.cpu_clock.trans h.cpu_clock, hthird.virtual_instant.trans h.virtual_instant,
    hthird.position.trans h.position, hthird.completed_instructions.trans h.completed_instructions,
    hthird.mode.trans h.mode, hthird.preserved_nonvolatile_state.trans h.preserved_nonvolatile_state,
    hthird.machine_generation.trans h.machine_generation, hthird.breakpoints.trans h.breakpoints⟩

theorem deliver_output (h : worker.deliver_output = some other) : SameSession worker other := by
  obtain ⟨outputs, -, rfl⟩ := Worker.deliver_output_cases h
  exact ⟨rfl, rfl, rfl, rfl, rfl, rfl, rfl, rfl, rfl⟩

theorem queue_current_outputs (worker : Worker host.toPlatform) : SameSession worker worker.queue_current_outputs := by
  obtain ⟨frontend_output, hqueued⟩ := Worker.queue_current_outputs_eq worker
  rw [hqueued]
  exact ⟨rfl, rfl, rfl, rfl, rfl, rfl, rfl, rfl, rfl⟩

theorem flush_machine_output (h : Station.flush_machine_output worker = some other) : SameSession worker other := by
  obtain ⟨drained, hdrained, hdelivered⟩ := Option.bind_eq_some_iff.mp h
  refine SameSession.trans ?_ (deliver_output hdelivered)
  unfold Station.drain_network_output at hdrained
  split at hdrained
  · cases hdrained
    exact refl worker
  · obtain ⟨machine, -, hdrained⟩ := Option.bind_eq_some_iff.mp hdrained
    split at hdrained
    · cases hdrained
      exact ⟨rfl, rfl, rfl, rfl, rfl, rfl, rfl, rfl, rfl⟩
    · cases hdrained

theorem pause_for_breakpoint {paused : Bool} (h : Station.pause_for_breakpoint worker = (paused, other)) :
    SameSession worker other := by
  unfold Station.pause_for_breakpoint at h
  split at h
  · cases h
    exact ⟨rfl, rfl, rfl, rfl, rfl, rfl, rfl, rfl, rfl⟩
  · dsimp only at h
    split at h
    · cases h
      exact ⟨rfl, rfl, rfl, rfl, rfl, rfl, rfl, rfl, rfl⟩
    · split at h
      · cases h
        exact ⟨rfl, rfl, rfl, rfl, rfl, rfl, rfl, rfl, rfl⟩
      · cases h
        exact refl worker

end SameSession

/-! ## Invariants of execution -/

namespace Station

variable {Inv : Station host → Prop} {Expected : Surroundings → Prop}
  {instruction : Surroundings → Station host → Option (Except String Unit × Station host)}
  {station next : Station host}

/-- A breakpoint can only end a run, and a worker that does not pause is in the state it was in. -/
theorem pause_for_breakpoint_running {paused : Bool} {worker ready : Worker host.toPlatform}
    (h : pause_for_breakpoint worker = (paused, ready)) :
    (ready.state = .Running → worker.state = .Running) ∧ (paused = false → ready.state = worker.state) := by
  unfold pause_for_breakpoint at h
  split at h
  · cases h
    exact ⟨nofun, nofun⟩
  · dsimp only at h
    split at h
    · cases h
      exact ⟨id, fun _ => rfl⟩
    · split at h
      · cases h
        exact ⟨nofun, nofun⟩
      · cases h
        exact ⟨id, fun _ => rfl⟩

/-- What holds between the instructions of a batch: whatever an instruction of a running
worker keeps, and the handling of its error. -/
theorem execute_instructions_keeps
    (hfree : ∀ {station worker}, Inv station → SameSession station.worker worker →
      (worker.state = .Running → station.worker.state = .Running) → Inv (station.with_worker worker))
    (hok : ∀ {around station next}, Expected around → Inv station → station.worker.state = .Running →
      instruction around station = some (.ok (), next) → Inv next)
    (herror : ∀ {around station next last error}, Expected around → Inv station → station.worker.state = .Running →
      instruction around station = some (.error error, next) →
        handle_execution_error around next error = some last → Inv last)
    {count : Nat} {around : Nat → Surroundings} (haround : ∀ index, Expected (around index)) (h : Inv station)
    (hrunning : station.worker.state = .Running)
    (hexecute : execute_instructions instruction count around station = some next) : Inv next := by
  induction count generalizing around station with
  | zero =>
    cases hexecute
    exact h
  | succ count ih =>
    unfold execute_instructions at hexecute
    split at hexecute
    · case _ worker hpaused =>
      cases hexecute
      exact hfree h (.pause_for_breakpoint hpaused) (pause_for_breakpoint_running hpaused).1
    · case _ worker hready =>
      obtain ⟨hrests, hstate⟩ := pause_for_breakpoint_running hready
      have hbefore := hfree h (.pause_for_breakpoint hready) hrests
      have hgoing := (hstate rfl).trans hrunning
      obtain ⟨⟨result, executed⟩, hinstruction, hexecute⟩ := Option.bind_eq_some_iff.mp hexecute
      cases result with
      | ok =>
        have hafter : Inv (executed.with_worker { executed.worker with last_error := none }.advance_revision) :=
          hfree (hok (haround 0) hbefore hgoing hinstruction) ⟨rfl, rfl, rfl, rfl, rfl, rfl, rfl, rfl, rfl⟩ id
        dsimp only at hexecute
        split at hexecute
        · case isTrue hrunning => exact ih (fun index => haround (index + 1)) hafter hrunning hexecute
        · cases hexecute
          exact hafter
      | error error =>
        obtain ⟨handled, hhandled, hexecute⟩ := Option.bind_eq_some_iff.mp hexecute
        cases hexecute
        exact hfree (herror (haround 0) hbefore hgoing hinstruction hhandled) ⟨rfl, rfl, rfl, rfl, rfl, rfl, rfl, rfl, rfl⟩ nofun

/-- Output leaves a running worker running and a paused one paused. -/
theorem flush_machine_output_state {worker flushed : Worker host.toPlatform}
    (h : flush_machine_output worker = some flushed) : flushed.state = worker.state := by
  obtain ⟨drained, hdrained, hdelivered⟩ := Option.bind_eq_some_iff.mp h
  obtain ⟨outputs, -, rfl⟩ := Worker.deliver_output_cases hdelivered
  unfold drain_network_output at hdrained
  split at hdrained
  · cases hdrained
    rfl
  · obtain ⟨machine, -, hdrained⟩ := Option.bind_eq_some_iff.mp hdrained
    split at hdrained
    · cases hdrained
      rfl
    · cases hdrained

/-- A single step keeps what its instruction keeps. -/
theorem step_once_keeps {around : Surroundings} {result : Except CommandRejection RuntimeStatus}
    (hfree : ∀ {station worker}, Inv station → SameSession station.worker worker →
      (worker.state = .Running → station.worker.state = .Running) → Inv (station.with_worker worker))
    (hok : ∀ {station next}, Inv station → station.worker.require_runnable = .ok () →
      execute_instruction around station = some (.ok (), next) → Inv next)
    (herror : ∀ {station next flushed last error}, Inv station → station.worker.require_runnable = .ok () →
      execute_instruction around station = some (.error error, next) → SameSession next.worker flushed →
        flushed.state = next.worker.state → handle_execution_error around (next.with_worker flushed) error = some last →
          Inv last)
    (h : Inv station) (hstep : step_once around station = some (result, next)) : Inv next := by
  unfold step_once at hstep
  split at hstep
  · cases hstep
    exact h
  · case _ hrunnable =>
    split at hstep
    · cases hstep
      exact h
    · obtain ⟨⟨executed, after⟩, hexecuted, hstep⟩ := Option.bind_eq_some_iff.mp hstep
      obtain ⟨flushed, hflushed, hstep⟩ := Option.bind_eq_some_iff.mp hstep
      obtain ⟨finished, hfinished, hstep⟩ := Option.bind_eq_some_iff.mp hstep
      cases hstep
      have hsame := SameSession.flush_machine_output hflushed
      have hstate := flush_machine_output_state hflushed
      refine @hfree finished _ ?_ ⟨rfl, rfl, rfl, rfl, rfl, rfl, rfl, rfl, rfl⟩ nofun
      cases executed with
      | ok =>
        cases hfinished
        have hkept : Inv (after.with_worker { flushed with last_error := none }) :=
          hfree (hok h hrunnable hexecuted) (hsame.trans ⟨rfl, rfl, rfl, rfl, rfl, rfl, rfl, rfl, rfl⟩) fun hrunning =>
            hstate.symm.trans hrunning
        exact hkept
      | error error => exact herror h hrunnable hexecuted hsame hstate hfinished

end Station

/-! ## The course of a session -/

/-- How the mode of a worker goes on until it is configured again. -/
inductive Proceeds : ActiveMode → ActiveMode → Prop where
  | same (mode : ActiveMode) : Proceeds mode mode
  | recorded (session after : RecordingSession) : Proceeds (.Recording session) (.Recording after)
  | ended (session : RecordingSession) : Proceeds (.Recording session) .RecordCompleted
  | replayed (session : ReplaySession) (cursor : Nat) : Proceeds (.Replaying session) (.Replaying { session with cursor })
  | completed (session : ReplaySession) (cursor : Nat) :
    Proceeds (.Replaying session) (.ReplayCompleted { session with cursor })
  | diverged (session : ReplaySession) (cursor : Nat) (reason : String) :
    Proceeds (.Replaying session) (.ReplayDiverged { session with cursor } reason)

namespace Proceeds

variable {before mode after : ActiveMode}

/-- Going on twice is going on: an ended session stays as it ended. -/
theorem trans (h : Proceeds before mode) (hafter : Proceeds mode after) : Proceeds before after := by
  cases h with
  | same => exact hafter
  | recorded session middle =>
    cases hafter with
    | same => exact .recorded session middle
    | recorded _ last => exact .recorded session last
    | ended => exact .ended session
  | ended session =>
    cases hafter with
    | same => exact .ended session
  | replayed session middle =>
    cases hafter with
    | same => exact .replayed session middle
    | replayed _ cursor => exact .replayed session cursor
    | completed _ cursor => exact .completed session cursor
    | diverged _ cursor reason => exact .diverged session cursor reason
  | completed session cursor =>
    cases hafter with
    | same => exact .completed session cursor
  | diverged session cursor reason =>
    cases hafter with
    | same => exact .diverged session cursor reason

/-- A replay stays one, completed or diverged, and nothing else becomes one. -/
theorem is_replay (h : Proceeds before after) : after.is_replay = before.is_replay := by
  cases h <;> rfl

/-- Recording begins with a configuration only. -/
theorem not_recording (h : Proceeds before after) (hbefore : before.is_recording = false) :
    after.is_recording = false := by
  cases h with
  | same => exact hbefore
  | recorded | ended => cases hbefore
  | replayed | completed | diverged => rfl

end Proceeds

/-- What no step of a session changes. -/
structure Onward (worker after : Worker host.toPlatform) : Prop where
  mode : Proceeds worker.mode after.mode
  machine_generation : after.machine_generation = worker.machine_generation
  preserved_nonvolatile_state : after.preserved_nonvolatile_state = worker.preserved_nonvolatile_state
  breakpoints : after.breakpoints = worker.breakpoints

namespace Onward

variable {worker after last : Worker host.toPlatform} {faults : FileFaults} {around : Surroundings}

theorem refl (worker : Worker host.toPlatform) : Onward worker worker := ⟨.same _, rfl, rfl, rfl⟩

/-- What no session sees is part of no session's course. -/
theorem of_same (h : SameSession worker after) : Onward worker after :=
  ⟨h.mode.symm ▸ .same _, h.machine_generation, h.preserved_nonvolatile_state, h.breakpoints⟩

theorem trans (h : Onward worker after) (hlast : Onward after last) : Onward worker last :=
  ⟨h.mode.trans hlast.mode, hlast.machine_generation.trans h.machine_generation,
    hlast.preserved_nonvolatile_state.trans h.preserved_nonvolatile_state, hlast.breakpoints.trans h.breakpoints⟩

/-! ### Ends -/

/-- A failed recording has ended. -/
theorem set_record_failure {session : RecordingSession} (hmode : worker.mode = .Recording session) (reason : String) :
    Onward worker (worker.set_record_failure reason) := by
  refine ⟨?_, rfl, rfl, rfl⟩
  rw [hmode]
  exact .ended session

theorem check_record_failure (worker : Worker host.toPlatform) : Onward worker worker.check_record_failure := by
  unfold Worker.check_record_failure
  split
  · case _ session hmode =>
    split
    · exact set_record_failure hmode _
    · exact refl worker
  · exact refl worker

theorem set_replay_divergence (worker : Worker host.toPlatform) (reason : String) :
    Onward worker (worker.set_replay_divergence reason) := by
  unfold Worker.set_replay_divergence
  split
  · case _ session hmode =>
    refine ⟨?_, rfl, rfl, rfl⟩
    rw [hmode]
    exact .diverged session session.cursor reason
  · exact refl worker

theorem complete_replay (worker : Worker host.toPlatform) : Onward worker worker.complete_replay := by
  unfold Worker.complete_replay
  split
  · case _ session hmode =>
    refine ⟨?_, rfl, rfl, rfl⟩
    rw [hmode]
    exact .completed session session.cursor
  · exact refl worker

/-- A failure ends a recording, lets a replay diverge, and is nothing to a plain session. -/
theorem fail_session (worker : Worker host.toPlatform) (reason : String) : Onward worker (worker.fail_session reason) := by
  unfold Worker.fail_session
  split
  · case _ session hmode => exact set_record_failure hmode reason
  · case _ session hmode =>
    refine ⟨?_, rfl, rfl, rfl⟩
    rw [hmode]
    exact .diverged session session.cursor reason
  · exact refl worker

theorem check_replay_storage_failure (worker : Worker host.toPlatform) (storage : Option IoError) :
    Onward worker (worker.check_replay_storage_failure storage) := by
  unfold Worker.check_replay_storage_failure
  split
  · exact set_replay_divergence worker _
  · exact refl worker

/-- Stopping ends the recording, whether or not its file could be finished. -/
theorem stop_recording {outcome : RecordOutcome} {result : Except CommandRejection RuntimeStatus}
    (h : worker.stop_recording faults outcome = some (result, after)) : Onward worker after := by
  unfold Worker.stop_recording at h
  split at h
  · case _ session hmode =>
    obtain ⟨machine, -, h⟩ := Option.map_eq_some_iff.mp h
    dsimp only at h
    split at h
    · cases h
      exact set_record_failure hmode _
    · cases h
      refine ⟨?_, rfl, rfl, rfl⟩
      rw [hmode]
      exact .ended session
  · cases h
    exact refl worker

/-- A network that fails takes the recording that relies on it along. -/
theorem fail_network {reason : String} (h : worker.fail_network faults reason = some after) : Onward worker after := by
  unfold Worker.fail_network at h
  split at h
  · obtain rfl := Option.some.inj h
    exact refl worker
  · dsimp only at h
    split at h
    · obtain ⟨⟨answer, stopped⟩, hstopped, rfl⟩ := Option.map_eq_some_iff.mp h
      have hended := stop_recording hstopped
      exact ⟨hended.mode, hended.machine_generation, hended.preserved_nonvolatile_state, hended.breakpoints⟩
    · obtain rfl := Option.some.inj h
      exact ⟨.same _, rfl, rfl, rfl⟩

/-- A network session that does not start may end the recording that was running. -/
theorem replace_network {config : Option host.NatConfig} {result : Except CommandRejection Unit}
    (h : worker.replace_network faults config = some (result, after)) : Onward worker after := by
  unfold Worker.replace_network at h
  dsimp only at h
  split at h
  · cases h
    exact ⟨.same _, rfl, rfl, rfl⟩
  · split at h
    · cases h
      exact ⟨.same _, rfl, rfl, rfl⟩
    · obtain ⟨failed, hfailed, hanswer⟩ := Option.map_eq_some_iff.mp h
      cases hanswer
      have hended := fail_network hfailed
      exact ⟨hended.mode, hended.machine_generation, hended.preserved_nonvolatile_state, hended.breakpoints⟩

/-! ### Recording -/

theorem report_storage_error (worker : Worker host.toPlatform) (storage : Option IoError) :
    Onward worker (worker.report_storage_error storage) := by
  unfold Worker.report_storage_error
  split
  · case _ session error hmode =>
    refine ⟨?_, rfl, rfl, rfl⟩
    rw [hmode]
    exact .recorded session _
  · exact refl worker

/-- An entry that cannot be written fails in its session, which is still recording. -/
theorem append {action : TimelineAction} {result : Except RecordError Unit}
    (h : Station.append faults worker action = (result, after)) : Onward worker after := by
  unfold Station.append at h
  split at h
  · case _ session hmode =>
    obtain ⟨-, rfl⟩ := Prod.mk.inj h
    refine ⟨?_, rfl, rfl, rfl⟩
    rw [hmode]
    exact .recorded session _
  · obtain ⟨-, rfl⟩ := Prod.mk.inj h
    exact refl worker

theorem record_machine_input {input : MachineInput} {result : Except RecordError Unit}
    (h : Station.record_machine_input faults worker input = (result, after)) : Onward worker after := by
  unfold Station.record_machine_input at h
  split at h
  · split at h
    · cases h
      exact refl worker
    · exact append h
  · exact append h

theorem record_checkpoint {result : Except RecordError Unit}
    (h : Station.record_checkpoint faults worker = some (result, after)) : Onward worker after := by
  unfold Station.record_checkpoint at h
  split at h
  · obtain ⟨machine, -, happend⟩ := Option.map_eq_some_iff.mp h
    exact append happend
  · cases h
    exact refl worker

theorem with_session (worker : Worker host.toPlatform) (change : RecordingSession → RecordingSession) :
    Onward worker (Station.with_session worker change) := by
  unfold Station.with_session
  split
  · case _ session hmode =>
    refine ⟨?_, rfl, rfl, rfl⟩
    rw [hmode]
    exact .recorded session _
  · exact refl worker

theorem record_checkpoint_if_due {result : Except RecordError Unit}
    (h : Station.record_checkpoint_if_due faults worker = some (result, after)) : Onward worker after := by
  unfold Station.record_checkpoint_if_due at h
  split at h
  · split at h
    · split at h
      · case _ hrecorded =>
        cases h
        exact (record_checkpoint hrecorded).trans (with_session _ _)
      · exact record_checkpoint h
    · cases h
      exact refl worker
  · cases h
    exact refl worker

/-! ### Inputs and output -/

/-- Offering an input to the machine records it when the machine consumes it. -/
theorem try_receive_input {input : MachineInput} {result : Except String MachineInputResult}
    (h : Station.try_receive_input faults worker input = some (result, after)) : Onward worker after := by
  obtain ⟨machine, -, h⟩ := Option.map_eq_some_iff.mp h
  have hreceived : Onward worker { worker with machine := some (host.try_receive_input machine input).2 } :=
    ⟨.same _, rfl, rfl, rfl⟩
  dsimp only at h
  split at h
  · cases h
    exact hreceived
  · cases h
    exact hreceived
  · split at h
    · case _ hrecorded =>
      cases h
      exact hreceived.trans (record_machine_input hrecorded)
    · case _ hrecorded =>
      cases h
      exact hreceived.trans (record_machine_input hrecorded)

theorem accept_live_input {input : MachineInput} {result : Except CommandRejection Unit}
    (h : Station.accept_live_input faults worker input = some (result, after)) : Onward worker after := by
  obtain ⟨⟨received, accepted⟩, hreceived, hafter⟩ := Option.map_eq_some_iff.mp h
  have haccepted := try_receive_input hreceived
  cases received with
  | error error =>
    cases hafter
    exact haccepted
  | ok answer =>
    cases answer with
    | WouldBlock =>
      cases hafter
      exact haccepted
    | Consumed =>
      cases hafter
      exact ⟨haccepted.mode, haccepted.machine_generation, haccepted.preserved_nonvolatile_state, haccepted.breakpoints⟩

theorem deliver_output (h : worker.deliver_output = some after) : Onward worker after := by
  obtain ⟨outputs, -, rfl⟩ := Worker.deliver_output_cases h
  exact ⟨.same _, rfl, rfl, rfl⟩

theorem queue_current_outputs (worker : Worker host.toPlatform) : Onward worker worker.queue_current_outputs := by
  obtain ⟨frontend_output, hqueued⟩ := Worker.queue_current_outputs_eq worker
  rw [hqueued]
  exact ⟨.same _, rfl, rfl, rfl⟩

/-- A reset begins the clock again and leaves the session where it was. -/
theorem reset_machine (h : worker.reset_machine = some after) : Onward worker after ∧ after.mode = worker.mode := by
  obtain ⟨machine, -, h⟩ := Option.bind_eq_some_iff.mp h
  obtain ⟨clock, -, h⟩ := Option.bind_eq_some_iff.mp h
  obtain rfl := Option.some.inj h
  refine ⟨trans ?_ (queue_current_outputs _), ?_⟩
  · exact ⟨.same _, rfl, rfl, rfl⟩
  · obtain ⟨frontend_output, hqueued⟩ := Worker.queue_current_outputs_eq
      { worker with
        machine := some (host.reset machine)
        cpu_clock := some clock.reset
        virtual_instant := 0
        pending_network_input := none
        frontend_output := []
        last_error := none
        ignore_breakpoint_once := none }
    rw [hqueued]

/-! ### Replay -/

/-- Replaying an action changes the machine and not the cursor. -/
theorem replay_action {action : TimelineAction} {result : Except String Unit}
    (h : worker.replay_action action = some (result, after)) : Onward worker after ∧ after.mode = worker.mode := by
  cases action with
  | MachineInput input =>
    obtain ⟨machine, -, h⟩ := Option.map_eq_some_iff.mp h
    dsimp only at h
    split at h
    · cases h
      exact ⟨⟨.same _, rfl, rfl, rfl⟩, rfl⟩
    · cases h
      exact ⟨⟨.same _, rfl, rfl, rfl⟩, rfl⟩
    · cases h
      exact ⟨⟨.same _, rfl, rfl, rfl⟩, rfl⟩
  | Reset =>
    change (if _ then _ else _) = _ at h
    split at h
    · obtain ⟨reset, hreset, h⟩ := Option.map_eq_some_iff.mp h
      cases h
      obtain ⟨hkept, hmode⟩ := reset_machine hreset
      exact ⟨⟨hkept.mode, hkept.machine_generation, hkept.preserved_nonvolatile_state, hkept.breakpoints⟩, hmode⟩
    · cases h
      exact ⟨refl worker, rfl⟩
  | Checkpoint digest =>
    obtain ⟨machine, -, h⟩ := Option.map_eq_some_iff.mp h
    split at h
    · cases h
      exact ⟨refl worker, rfl⟩
    · cases h
      exact ⟨refl worker, rfl⟩

/-- The entries of a boundary only move the cursor of the replay, one by one. -/
theorem replay_entries {session : ReplaySession} {entries : List TimelineEntry} {result : Except String Unit}
    (h : worker.replay_entries session entries = some (result, after)) (hmode : worker.mode = .Replaying session) :
    Onward worker after ∧ ∃ cursor, after.mode = .Replaying { session with cursor } := by
  induction entries generalizing session worker with
  | nil =>
    cases h
    exact ⟨refl _, session.cursor, hmode⟩
  | cons entry entries ih =>
    have hadvanced : Onward worker { worker with mode := .Replaying session.advance } := by
      refine ⟨?_, rfl, rfl, rfl⟩
      rw [hmode]
      exact .replayed session (session.cursor + 1)
    unfold Worker.replay_entries at h
    split at h
    · cases h
      exact ⟨refl _, session.cursor, hmode⟩
    · split at h
      · split at h
        · cases h
        · case _ haction =>
          cases h
          obtain ⟨hacted, hsame⟩ := replay_action haction
          exact ⟨hadvanced.trans hacted, session.cursor + 1, hsame⟩
        · case _ haction =>
          obtain ⟨hacted, hsame⟩ := replay_action haction
          obtain ⟨hrest, cursor, hcursor⟩ := ih h hsame
          exact ⟨(hadvanced.trans hacted).trans hrest, cursor, hcursor⟩
      · cases h
        exact ⟨refl _, session.cursor, hmode⟩

/-- A replay completes at its footer, once everything is verified. -/
theorem finish_replay_boundary {session : ReplaySession} {result : Except String Unit}
    (h : worker.finish_replay_boundary session = some (result, after)) : Onward worker after := by
  unfold Worker.finish_replay_boundary at h
  split at h
  · cases h
    exact refl worker
  · split at h
    · cases h
      exact refl worker
    · split at h
      · cases h
        exact refl worker
      · split at h
        · cases h
          exact refl worker
        · obtain ⟨verified, -, h⟩ := Option.map_eq_some_iff.mp h
          cases verified with
          | error reason =>
            cases h
            exact refl worker
          | ok =>
            cases h
            exact complete_replay worker

/-- A boundary moves the cursor on, and the last one completes the replay. -/
theorem process_replay_boundary {result : Except String Unit} (h : worker.process_replay_boundary = some (result, after)) :
    Onward worker after := by
  unfold Worker.process_replay_boundary at h
  split at h
  · case _ session hmode =>
    split at h
    · case _ hentries =>
      have hreplayed := (replay_entries hentries hmode).1
      split at h
      · exact hreplayed.trans (finish_replay_boundary h)
      · cases h
        exact hreplayed
    · exact (replay_entries h hmode).1
  · cases h
    exact refl worker

/-! ### Instructions -/

theorem finish_machine_instruction
    {advance_time : host.Machine → Nat → MachineOutput host.VideoOutput → host.Machine × MachineOutput host.VideoOutput}
    (h : Worker.finish_machine_instruction advance_time worker = some after) : Onward worker after := by
  obtain ⟨clock, -, h⟩ := Option.bind_eq_some_iff.mp h
  obtain ⟨machine, -, h⟩ := Option.bind_eq_some_iff.mp h
  obtain rfl := Option.some.inj h
  exact ⟨.same _, rfl, rfl, rfl⟩

/-- An instruction is part of no session but for the storage error a recording notes. -/
theorem execute_machine_instruction {result : Except String Unit}
    (h : Station.execute_machine_instruction around worker = some (result, after)) : Onward worker after := by
  obtain ⟨machine, -, h⟩ := Option.bind_eq_some_iff.mp h
  split at h
  · cases h
    refine trans ?_ (report_storage_error _ _)
    exact ⟨.same _, rfl, rfl, rfl⟩
  · obtain ⟨finished, hfinished, h⟩ := Option.bind_eq_some_iff.mp h
    cases h
    have hran := finish_machine_instruction hfinished
    exact trans ⟨hran.mode, hran.machine_generation, hran.preserved_nonvolatile_state, hran.breakpoints⟩
      (report_storage_error _ _)

/-- A position that overflows fails the session. -/
theorem advance_session_position {goes_on : Bool} (h : Station.advance_session_position worker = (goes_on, after)) :
    Onward worker after := by
  unfold Station.advance_session_position at h
  split at h
  · cases h
    exact ⟨.same _, rfl, rfl, rfl⟩
  · cases h
    exact fail_session worker _

end Onward

namespace Station

variable {station next : Station host} {around : Surroundings}

theorem fail_network_onward {faults : FileFaults} {reason : String} (h : station.fail_network faults reason = some next) :
    Onward station.worker next.worker := by
  obtain ⟨failed, hfailed, rfl⟩ := Option.map_eq_some_iff.mp h
  exact .fail_network hfailed

theorem stop_recording_onward {faults : FileFaults} {outcome : RecordOutcome}
    {result : Except CommandRejection RuntimeStatus} (h : station.stop_recording faults outcome = some (result, next)) :
    Onward station.worker next.worker := by
  obtain ⟨⟨answer, stopped⟩, hstopped, hnext⟩ := Option.map_eq_some_iff.mp h
  cases hnext
  exact .stop_recording hstopped

theorem replace_network_onward {faults : FileFaults} {config : Option host.NatConfig} {result : Except CommandRejection Unit}
    (h : station.replace_network faults config = some (result, next)) : Onward station.worker next.worker := by
  obtain ⟨⟨answer, replaced⟩, hreplaced, hnext⟩ := Option.map_eq_some_iff.mp h
  cases hnext
  exact .replace_network hreplaced

theorem take_failure_onward (h : take_failure around station = some next) : Onward station.worker next.worker := by
  unfold take_failure at h
  split at h
  · exact fail_network_onward h
  · cases h
    exact .refl _

/-- The network's boundary offers at most one input, which fails the session when it is refused. -/
theorem process_network_boundary_onward (h : process_network_boundary around station = some next) :
    Onward station.worker next.worker := by
  unfold process_network_boundary at h
  split at h
  · cases h
    exact .refl _
  · obtain ⟨pending, -, h⟩ := Option.bind_eq_some_iff.mp h
    have hwaiting : ∀ pending_network_input : Option MachineInput,
        Onward station.worker { station.worker with pending_network_input } := fun _ => ⟨.same _, rfl, rfl, rfl⟩
    dsimp only at h
    split at h
    · have hended := take_failure_onward h
      exact (hwaiting _).trans hended
    · case _ input =>
      obtain ⟨machine, -, h⟩ := Option.bind_eq_some_iff.mp h
      split at h
      · cases h
        exact (hwaiting _).trans (.fail_session _ _)
      · have hended := take_failure_onward h
        exact (hwaiting _).trans hended
      · obtain ⟨⟨result, received⟩, hreceived, h⟩ := Option.bind_eq_some_iff.mp h
        have hoffered := (hwaiting none).trans (.try_receive_input hreceived)
        split at h
        · case _ heq =>
          cases heq
          cases h
          exact hoffered.trans (.fail_session _ _)
        · case _ heq =>
          cases heq
          have hheld : Onward station.worker { received with pending_network_input := some input } :=
            hoffered.trans ⟨.same _, rfl, rfl, rfl⟩
          exact hheld.trans (take_failure_onward h)
        · case _ heq =>
          cases heq
          exact hoffered.trans (take_failure_onward h)

theorem execute_normal_instruction_onward {result : Except String Unit}
    (h : execute_normal_instruction around station = some (result, next)) : Onward station.worker next.worker := by
  obtain ⟨⟨answer, executed⟩, hexecuted, h⟩ := Option.bind_eq_some_iff.mp h
  have hran := Onward.execute_machine_instruction hexecuted
  split at h
  · case _ heq =>
    cases heq
    cases h
    exact hran
  · case _ heq =>
    cases heq
    obtain ⟨bounded, hbounded, h⟩ := Option.bind_eq_some_iff.mp h
    cases h
    exact hran.trans (process_network_boundary_onward hbounded)

/-- A recorded instruction appends what its boundary brought, and a checkpoint when one is due. -/
theorem execute_recording_instruction_onward {result : Except String Unit}
    (h : execute_recording_instruction around station = some (result, next)) : Onward station.worker next.worker := by
  obtain ⟨⟨answer, executed⟩, hexecuted, h⟩ := Option.bind_eq_some_iff.mp h
  have hran := Onward.execute_machine_instruction hexecuted
  split at h
  · case _ heq =>
    cases heq
    cases h
    exact hran
  · case _ heq =>
    cases heq
    split at h
    · case _ hadvanced =>
      cases h
      exact hran.trans (.advance_session_position hadvanced)
    · case _ hadvanced =>
      obtain ⟨bounded, hbounded, h⟩ := Option.bind_eq_some_iff.mp h
      have hbefore := (hran.trans (.advance_session_position hadvanced)).trans (process_network_boundary_onward hbounded)
      obtain ⟨⟨recorded, checked⟩, hchecked, h⟩ := Option.bind_eq_some_iff.mp h
      have hkept := (hbefore.trans (.check_record_failure _)).trans (.record_checkpoint_if_due hchecked)
      split at h
      · case _ heq =>
        cases heq
        cases h
        exact hkept.trans (.fail_session _ _)
      · case _ heq =>
        cases heq
        cases h
        exact hkept

theorem finish_replay_instruction_onward {worker after : Worker host.toPlatform}
    (h : finish_replay_instruction worker = some after) : Onward worker after := by
  unfold finish_replay_instruction at h
  split at h
  · obtain ⟨⟨result, bounded⟩, hbounded, rfl⟩ := Option.map_eq_some_iff.mp h
    have hkept := Onward.process_replay_boundary hbounded
    cases result with
    | ok => exact hkept
    | error reason => exact hkept.trans (.set_replay_divergence _ _)
  · cases h
    exact .refl _

/-- A replayed instruction moves along the timeline, or diverges from it. -/
theorem execute_replay_instruction_onward {result : Except String Unit}
    (h : execute_replay_instruction around station = some (result, next)) : Onward station.worker next.worker := by
  obtain ⟨machine, -, h⟩ := Option.bind_eq_some_iff.mp h
  have hmachine : ∀ machine : Option host.Machine, Onward station.worker { station.worker with machine } :=
    fun _ => ⟨.same _, rfl, rfl, rfl⟩
  split at h
  · cases h
    exact hmachine _
  · dsimp only at h
    split at h
    · cases h
      exact (hmachine _).trans (.set_replay_divergence _ _)
    · obtain ⟨finished, hfinished, h⟩ := Option.bind_eq_some_iff.mp h
      have hran := (hmachine _).trans (.finish_machine_instruction hfinished)
      split at h
      · case _ hadvanced =>
        cases h
        exact hran.trans (.advance_session_position hadvanced)
      · case _ hadvanced =>
        obtain ⟨bounded, hbounded, h⟩ := Option.bind_eq_some_iff.mp h
        cases h
        exact ((hran.trans (.advance_session_position hadvanced)).trans (.check_replay_storage_failure _ _)).trans
          (finish_replay_instruction_onward hbounded)

/-- One instruction of any session goes on with it. -/
theorem execute_instruction_onward {result : Except String Unit}
    (h : execute_instruction around station = some (result, next)) : Onward station.worker next.worker := by
  unfold execute_instruction at h
  split at h
  · exact execute_normal_instruction_onward h
  · exact execute_normal_instruction_onward h
  · exact execute_recording_instruction_onward h
  · exact execute_replay_instruction_onward h
  · cases h
    exact .refl _
  · cases h
    exact .refl _

/-- An error of the machine ends a recording with its footer, and a replay as its footer foretells.
-/
theorem handle_execution_error_onward {error : String} (h : handle_execution_error around station error = some next) :
    Onward station.worker next.worker := by
  unfold handle_execution_error at h
  dsimp only at h
  have hchecked : Onward station.worker
      (({ station.worker with last_error := some error }.check_record_failure).check_replay_storage_failure around.storage) := by
    refine Onward.trans ?_ (.check_replay_storage_failure _ _)
    refine Onward.trans ?_ (.check_record_failure _)
    exact ⟨.same _, rfl, rfl, rfl⟩
  generalize Worker.check_replay_storage_failure _ _ = worker at h hchecked
  split at h
  · split at h
    · obtain ⟨verified, -, h⟩ := Option.map_eq_some_iff.mp h
      cases verified with
      | ok =>
        cases h
        exact hchecked.trans (.complete_replay _)
      | error reason =>
        cases h
        exact hchecked.trans (.set_replay_divergence _ _)
    · cases h
      exact hchecked.trans (.set_replay_divergence _ _)
  · obtain ⟨⟨answer, stopped⟩, hstopped, h⟩ := Option.bind_eq_some_iff.mp h
    have hended := hchecked.trans (stop_recording_onward hstopped)
    split at h
    · case _ heq =>
      cases heq
      cases h
      exact ⟨hended.mode, hended.machine_generation, hended.preserved_nonvolatile_state, hended.breakpoints⟩
    · case _ heq =>
      cases heq
      cases h
      exact hended
  · cases h
    exact hchecked

/-! ### Execution -/

/-- A single step goes on with the session, the output it flushes included. -/
theorem step_once_onward {result : Except CommandRejection RuntimeStatus} (h : step_once around station = some (result, next)) :
    Onward station.worker next.worker := by
  refine @step_once_keeps host (fun reached => Onward station.worker reached.worker) station next around result
    ?_ ?_ ?_ (.refl _) h
  · exact fun hreached hsame _ => hreached.trans (.of_same hsame)
  · exact fun hreached _ hexecuted => hreached.trans (execute_instruction_onward hexecuted)
  · intro before executed flushed last error hreached _ hexecuted hsame _ hhandled
    have hran := (hreached.trans (execute_instruction_onward hexecuted)).trans (.of_same hsame)
    exact hran.trans (handle_execution_error_onward hhandled)

theorem execute_instructions_onward
    {instruction : Surroundings → Station host → Option (Except String Unit × Station host)}
    (honward : ∀ {around station result next}, instruction around station = some (result, next) →
      Onward station.worker next.worker)
    {count : Nat} {around : Nat → Surroundings} (hrunning : station.worker.state = .Running)
    (h : execute_instructions instruction count around station = some next) : Onward station.worker next.worker := by
  refine @execute_instructions_keeps host (fun reached => Onward station.worker reached.worker) (fun _ => True) instruction
    station next ?_ ?_ ?_ count around (fun _ => trivial) (.refl _) hrunning h
  · exact fun hreached hsame _ => hreached.trans (.of_same hsame)
  · exact fun _ hreached _ hexecuted => hreached.trans (honward hexecuted)
  · exact fun _ hreached _ hexecuted hhandled =>
      (hreached.trans (honward hexecuted)).trans (handle_execution_error_onward hhandled)

/-- A batch goes on with the session: each of its instructions does, and so do the pauses between
them. -/
theorem execute_batch_onward {around : Nat → Surroundings} (hrunning : station.worker.state = .Running)
    (h : execute_batch around station = some next) : Onward station.worker next.worker := by
  obtain ⟨executed, hexecuted, h⟩ := Option.bind_eq_some_iff.mp h
  obtain ⟨flushed, hflushed, h⟩ := Option.bind_eq_some_iff.mp h
  cases h
  refine Onward.trans ?_ (.of_same (.flush_machine_output hflushed))
  unfold execute_session_batch at hexecuted
  split at hexecuted
  · exact execute_instructions_onward execute_normal_instruction_onward hrunning hexecuted
  · exact execute_instructions_onward execute_normal_instruction_onward hrunning hexecuted
  · exact execute_instructions_onward execute_recording_instruction_onward hrunning hexecuted
  · exact execute_instructions_onward execute_replay_instruction_onward hrunning hexecuted
  · cases hexecuted
    exact .refl _
  · cases hexecuted
    exact .refl _

/-! ### Commands -/

/-- A reset is an entry of its own, and a checkpoint follows it. -/
theorem reset_recorded_onward {result : Except CommandRejection RuntimeStatus}
    (h : reset_recorded around station = some (result, next)) : Onward station.worker next.worker := by
  unfold reset_recorded at h
  split at h
  · case _ happend =>
    cases h
    exact .append happend
  · case _ happend =>
    obtain ⟨reset, hreset, h⟩ := Option.bind_eq_some_iff.mp h
    obtain ⟨⟨recorded, checked⟩, hchecked, h⟩ := Option.bind_eq_some_iff.mp h
    have hkept := (Onward.append happend).trans (Onward.reset_machine hreset).1
    have hrecorded := Onward.record_checkpoint hchecked
    have hreached : Onward station.worker checked :=
      hkept.trans
        ⟨hrecorded.mode, hrecorded.machine_generation, hrecorded.preserved_nonvolatile_state, hrecorded.breakpoints⟩
    split at h
    · case _ heq =>
      cases heq
      cases h
      exact hreached
    · case _ heq =>
      cases heq
      obtain ⟨delivered, hdelivered, h⟩ := Option.bind_eq_some_iff.mp h
      cases h
      have hlast := Onward.deliver_output hdelivered
      exact (hreached.trans (.with_session _ _)).trans
        ⟨hlast.mode, hlast.machine_generation, hlast.preserved_nonvolatile_state, hlast.breakpoints⟩

theorem reset_onward {result : Except CommandRejection RuntimeStatus} (h : reset around station = some (result, next)) :
    Onward station.worker next.worker := by
  unfold reset at h
  split at h
  · cases h
    exact .refl _
  · split at h
    · cases h
      exact .refl _
    · split at h
      · exact reset_recorded_onward h
      · split at h
        · cases h
        · case _ hreplace =>
          cases h
          exact replace_network_onward hreplace
        · case _ hreplace => exact (replace_network_onward hreplace).trans (reset_recorded_onward h)

/-- An input from the front end is recorded like any other, or refused. -/
theorem machine_input_onward {worker after : Worker host.toPlatform} {handle : EndpointHandle}
    {payload : MachineInputPayload} {result : Except CommandRejection RuntimeStatus}
    (h : machine_input around worker handle payload = some (result, after)) : Onward worker after := by
  unfold machine_input at h
  split at h
  · cases h
    exact .refl _
  · split at h
    · cases h
      exact .refl _
    · obtain ⟨⟨answer, accepted⟩, haccepted, h⟩ := Option.map_eq_some_iff.mp h
      have hkept := Onward.accept_live_input haccepted
      cases answer with
      | error rejection =>
        cases h
        exact hkept
      | ok =>
        cases h
        exact hkept

theorem change_media_onward (worker : Worker host.toPlatform) (handle : RuntimeMediaHandle)
    (change : host.Machine → Except MachineMediaError Unit × host.Machine) :
    Onward worker (change_media worker handle change).2 := by
  unfold change_media
  split
  · exact .refl _
  · split
    · exact ⟨.same _, rfl, rfl, rfl⟩
    · exact ⟨.same _, rfl, rfl, rfl⟩

/-- Taking a snapshot changes nothing of the replay it is taken of. -/
theorem create_replay_snapshot_onward {record : RecordIdentity} {worker after : Worker host.toPlatform}
    {result : Except CommandRejection RuntimeStatus} (h : create_replay_snapshot around record worker = some (result, after)) :
    Onward worker after := by
  obtain ⟨snapshot, -, h⟩ := Option.map_eq_some_iff.mp h
  cases snapshot with
  | error rejection =>
    cases h
    exact .refl _
  | ok snapshot =>
    dsimp only at h
    split at h
    · cases h
      exact .refl _
    · cases h
      exact ⟨.same _, rfl, rfl, rfl⟩

/-- Shutting down closes a recording that is still open. -/
theorem shutdown_onward {state : Option host.MachineNonvolatileState} (h : shutdown around station = some (state, next)) :
    Onward station.worker next.worker := by
  obtain ⟨closed, hclosed, h⟩ := Option.bind_eq_some_iff.mp h
  cases h
  unfold close_recording at hclosed
  split at hclosed
  · obtain ⟨⟨answer, stopped⟩, hstopped, rfl⟩ := Option.map_eq_some_iff.mp hclosed
    have hended := stop_recording_onward hstopped
    exact ⟨hended.mode, hended.machine_generation, hended.preserved_nonvolatile_state, hended.breakpoints⟩
  · cases hclosed
    exact ⟨.same _, rfl, rfl, rfl⟩

/-! ### Configurations -/

/-- What is prepared for a configuration: its session, its clock and what they are installed as. -/
theorem prepare_cases {faults : FileFaults} {worker : Worker host.toPlatform}
    {configuration : RuntimeConfiguration host.toPlatform} {installation : Installation host.toPlatform}
    (h : worker.prepare faults configuration = some (.ok installation)) :
    worker.mode.is_recording = false ∧ (worker.mode.is_replay = true → configuration.is_normal = true) ∧
      ∃ session cpu_clock, worker.next_session faults configuration = .ok session ∧
        CpuClock.new (host.cpu_frequency_hz session.machine) = some cpu_clock ∧
        worker.next_installation configuration cpu_clock session = .ok installation := by
  unfold Worker.prepare at h
  split at h
  · cases h
  · case isFalse hrecording =>
    split at h
    · cases h
    · case isFalse hreplay =>
      split at h
      · cases h
      · split at h
        · cases h
        · split at h
          · cases h
          · case _ session hsession =>
            obtain ⟨cpu_clock, hclock, hinstallation⟩ := Option.map_eq_some_iff.mp h
            refine ⟨Bool.eq_false_iff.mpr hrecording, fun his => ?_, session, cpu_clock, hsession, hclock, hinstallation⟩
            rw [his, Bool.true_and, Bool.not_eq_true, Bool.not_eq_false'] at hreplay
            exact hreplay

/-- A session without a snapshot begins at the start, and one with a snapshot where it was taken. -/
theorem next_installation_cases {worker : Worker host.toPlatform} {configuration : RuntimeConfiguration host.toPlatform}
    {cpu_clock : CpuClock} {session : NextSession host.toPlatform} {installation : Installation host.toPlatform}
    (h : worker.next_installation configuration cpu_clock session = .ok installation) :
    installation.mode = session.mode ∧
      installation.preserved_nonvolatile_state = session.preserved_nonvolatile_state ∧
      match session.restore_state with
      | none =>
        installation.machine = session.machine ∧ installation.cpu_clock = cpu_clock ∧ installation.virtual_instant = 0 ∧
          installation.position = .default
      | some restore =>
        host.restore_snapshot session.machine restore.machine = (.ok (), installation.machine) ∧
          cpu_clock.restore_remainder restore.cpu_clock_remainder = .ok installation.cpu_clock ∧
          host.machine_state_fingerprint installation.machine = restore.machine_fingerprint ∧
          installation.virtual_instant = restore.virtual_instant ∧ installation.position = restore.position ∧
          installation.completed_instructions = restore.completed_instructions := by
  unfold Worker.next_installation at h
  dsimp only at h
  split at h
  · case _ hrestore =>
    cases h
    rw [hrestore]
    exact ⟨rfl, rfl, rfl, rfl, rfl, rfl⟩
  · case _ restore hrestore =>
    rw [hrestore]
    split at h
    · cases h
    · case _ clock hclock =>
      split at h
      · cases h
      · case _ machine hmachine =>
        split at h
        · cases h
        · case isFalse hfingerprint =>
          cases h
          exact ⟨rfl, rfl, hmachine, hclock, not_not.mp hfingerprint, rfl, rfl, rfl⟩

/-- A session starts at a boundary: a replay may complete or diverge there at once. -/
theorem start_session_onward {worker after : Worker host.toPlatform} (h : worker.start_session = some after) :
    Onward worker after := by
  obtain ⟨⟨result, bounded⟩, hbounded, rfl⟩ := Option.map_eq_some_iff.mp h
  have hkept := Onward.process_replay_boundary hbounded
  cases result with
  | ok => exact hkept
  | error reason => exact hkept.trans (.set_replay_divergence _ _)

/-- What `configure` leaves: the worker as it was, the one whose network session did not
start, or the one whose session started. -/
theorem configure_cases {faults : FileFaults} {worker after : Worker host.toPlatform}
    {configuration : RuntimeConfiguration host.toPlatform} {result : Except CommandRejection RuntimeStatus}
    (h : worker.configure faults configuration = some (result, after)) :
    (after = worker ∧ ∃ rejection, result = .error rejection ∧
        worker.prepare faults configuration = some (.error rejection)) ∨
      ∃ installation, worker.prepare faults configuration = some (.ok installation) ∧
        ((∃ rejection, result = .error rejection ∧
            worker.replace_network faults installation.network_config = some (.error rejection, after)) ∨
          ∃ replaced started, result = .ok after.status ∧
            worker.replace_network faults installation.network_config = some (.ok (), replaced) ∧
            (replaced.install installation).start_session = some started ∧ SameSession started after ∧
            after.state = started.state ∧ after.network_error = started.network_error ∧ after.frontend_output = []) := by
  unfold Worker.configure at h
  split at h
  · cases h
  · case _ rejection hprepare =>
    cases h
    exact .inl ⟨rfl, rejection, rfl, hprepare⟩
  · case _ installation hprepare =>
    split at h
    · cases h
    · case _ rejection _ hreplace =>
      cases h
      exact .inr ⟨installation, hprepare, .inl ⟨rejection, rfl, hreplace⟩⟩
    · case _ replaced hreplace =>
      split at h
      · obtain ⟨started, hstarted, h⟩ := Option.bind_eq_some_iff.mp h
        obtain ⟨delivered, hdelivered, h⟩ := Option.bind_eq_some_iff.mp h
        cases h
        refine .inr ⟨installation, hprepare, .inr ⟨replaced, started, rfl, hreplace, hstarted, ?_, ?_⟩⟩
        · refine SameSession.trans ?_ (.deliver_output hdelivered)
          refine SameSession.trans ?_ (.queue_current_outputs _)
          exact ⟨rfl, rfl, rfl, rfl, rfl, rfl, rfl, rfl, rfl⟩
        · obtain ⟨outputs, -, rfl⟩ := Worker.deliver_output_cases hdelivered
          obtain ⟨frontend_output, hqueued⟩ := Worker.queue_current_outputs_eq started.advance_revision
          rw [hqueued]
          exact ⟨rfl, rfl, rfl⟩
      · cases h

/-! ### Runs -/

/-- Neither another session nor another breakpoint. -/
def Command.stays : Command host → Bool
  | .Configure _ | .ToggleBreakpoint _ => false
  | _ => true

/-- Every command but the two that are set aside goes on with the session. -/
theorem handle_command_onward {command : Command host} {answer : Reply host} (hstays : command.stays)
    (h : handle_command around station command = some (answer, next)) : Onward station.worker next.worker := by
  cases command with
  | Configure | ToggleBreakpoint => cases hstays
  | NetworkFailure generation reason =>
    change (if _ then _ else _) = _ at h
    split at h
    · obtain ⟨failed, hfailed, h⟩ := Option.map_eq_some_iff.mp h
      cases h
      exact fail_network_onward hfailed
    · cases h
      exact .refl _
  | Run =>
    cases h
    change Onward station.worker (run station.worker).2
    unfold run
    split
    · exact .refl _
    · exact ⟨.same _, rfl, rfl, rfl⟩
  | Reset =>
    obtain ⟨⟨result, reached⟩, hreset, h⟩ := Option.map_eq_some_iff.mp h
    cases h
    exact (reset_onward hreset).trans (.check_record_failure _)
  | Pause =>
    cases h
    change Onward station.worker (pause station.worker).2
    unfold pause
    split
    · exact .refl _
    · exact ⟨.same _, rfl, rfl, rfl⟩
  | Step =>
    obtain ⟨⟨result, reached⟩, hstep, h⟩ := Option.map_eq_some_iff.mp h
    cases h
    exact step_once_onward hstep
  | StopRecording =>
    obtain ⟨⟨result, reached⟩, hstopped, h⟩ := Option.map_eq_some_iff.mp h
    cases h
    exact (stop_recording_onward hstopped).trans (.check_record_failure _)
  | CreateReplaySnapshot record =>
    obtain ⟨⟨result, reached⟩, hcreated, h⟩ := Option.map_eq_some_iff.mp h
    cases h
    exact create_replay_snapshot_onward hcreated
  | Status =>
    cases h
    exact .refl _
  | RefreshOutputs =>
    obtain ⟨reached, hdelivered, h⟩ := Option.map_eq_some_iff.mp h
    cases h
    exact (Onward.queue_current_outputs _).trans (.deliver_output hdelivered)
  | MachineInput handle payload =>
    obtain ⟨⟨result, reached⟩, hinput, h⟩ := Option.map_eq_some_iff.mp h
    cases h
    exact (machine_input_onward hinput).trans (.check_record_failure _)
  | InsertMedia handle medium =>
    cases h
    exact change_media_onward _ _ _
  | EjectMedia handle force =>
    cases h
    exact change_media_onward _ _ _
  | SetOutputHandler =>
    cases h
    exact ⟨.same _, rfl, rfl, rfl⟩
  | ClearOutputHandler =>
    cases h
    exact ⟨.same _, rfl, rfl, rfl⟩
  | Shutdown =>
    obtain ⟨⟨state, reached⟩, hshutdown, h⟩ := Option.map_eq_some_iff.mp h
    cases h
    exact shutdown_onward hshutdown

/-- A turn in which no other session and no other breakpoint is set. -/
def Event.stays : Event host → Bool
  | .Command _ command => command.stays
  | .Batch _ => true

/-- A turn of the worker goes on with the session it found. -/
theorem turn_onward {event : Event host} (hstays : event.stays) (h : turn station event = some next) :
    Onward station.worker next.worker := by
  cases event with
  | Command around command =>
    obtain ⟨⟨answer, reached⟩, hhandled, rfl⟩ := Option.map_eq_some_iff.mp h
    exact handle_command_onward hstays hhandled
  | Batch around =>
    change (if _ then _ else _) = _ at h
    split at h
    · case isTrue hrunning => exact execute_batch_onward hrunning h
    · cases h
      exact .refl _

end Station

end se_runtime.runtime
