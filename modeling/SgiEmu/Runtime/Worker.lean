import SgiEmu.Core.Time
import SgiEmu.Machine.Output
import SgiEmu.Runtime.Record

open se_core se_core.time se_machine se_runtime.record

namespace se_runtime.runtime

/-- What the worker runs and reaches on the host: machines, their snapshots and retained
state, the codec of Records and network sessions. -/
structure Platform where
  Machine : Type
  MachineSnapshot : Type
  MachineNonvolatileState : Type
  VideoOutput : Type
  NatConfig : Type
  NetworkSession : Type
  RecordManifest : Type
  codec : RecordCodec RecordManifest
  endpoint_catalog : Machine → EndpointCatalog
  cpu_frequency_hz : Machine → Nat
  nonvolatile_state : Machine → MachineNonvolatileState
  restore_nonvolatile_state : Machine → MachineNonvolatileState → Nat → Machine
  restore_snapshot : Machine → MachineSnapshot → Except String Unit × Machine
  machine_state_fingerprint : Machine → List U8
  try_receive_input : Machine → MachineInput → Except MachineInputError MachineInputResult × Machine
  reset : Machine → Machine
  publish_current_outputs : Machine → MachineOutput VideoOutput → MachineOutput VideoOutput
  validate : NatConfig → Except String Unit
  start : NatConfig → Except String NetworkSession

/-! ## Sessions -/

structure CpuClock where
  frequency_hz : Nat
  whole_attoseconds_per_cycle : Nat
  remainder_per_cycle : Nat
  accumulated_remainder : Nat
deriving DecidableEq, Repr

/-- None where the constructor panics. -/
def CpuClock.new (frequency_hz : Nat) : Option CpuClock :=
  if frequency_hz = 0 then none
  else
    some
      { frequency_hz
        whole_attoseconds_per_cycle := ATTOSECONDS_PER_SECOND / frequency_hz
        remainder_per_cycle := ATTOSECONDS_PER_SECOND % frequency_hz
        accumulated_remainder := 0 }

def CpuClock.reset (clock : CpuClock) : CpuClock := { clock with accumulated_remainder := 0 }

def CpuClock.restore_remainder (clock : CpuClock) (remainder : Nat) : Except String CpuClock :=
  if clock.frequency_hz ≤ remainder then .error "Replay snapshot CPU clock remainder is out of range"
  else .ok { clock with accumulated_remainder := remainder }

def CHECKPOINT_INTERVAL : U64 := 1000000

structure RecordingSession where
  recorder : RecorderInner
  next_checkpoint_instruction : Option U64
deriving DecidableEq, Repr

def RecordingSession.new (recorder : RecorderInner) : RecordingSession :=
  { recorder, next_checkpoint_instruction := some CHECKPOINT_INTERVAL }

/-- The timeline of a Replay and the place of the next entry. -/
structure ReplaySession where
  timeline : List TimelineEntry
  cursor : Nat
  footer : RecordFooter
deriving DecidableEq, Repr

namespace ReplaySession

def next_entry (session : ReplaySession) : Option TimelineEntry := session.timeline[session.cursor]?

def advance (session : ReplaySession) : ReplaySession := { session with cursor := session.cursor + 1 }

def timeline_consumed (session : ReplaySession) : Bool := session.cursor == session.timeline.length

end ReplaySession

inductive ActiveMode where
  | Normal
  | Recording (session : RecordingSession)
  | RecordCompleted
  | Replaying (session : ReplaySession)
  | ReplayCompleted (session : ReplaySession)
  | ReplayDiverged (session : ReplaySession) (reason : String)
deriving DecidableEq, Repr

inductive RuntimeMode where
  | Normal
  | Recording
  | RecordCompleted
  | Replaying
  | ReplayCompleted
  | ReplayDiverged
deriving DecidableEq, Repr

namespace ActiveMode

def public_mode : ActiveMode → RuntimeMode
  | Normal => .Normal
  | Recording _ => .Recording
  | RecordCompleted => .RecordCompleted
  | Replaying _ => .Replaying
  | ReplayCompleted _ => .ReplayCompleted
  | ReplayDiverged .. => .ReplayDiverged

def is_replay : ActiveMode → Bool
  | Replaying _ | ReplayCompleted _ | ReplayDiverged .. => true
  | _ => false

def is_recording : ActiveMode → Bool
  | Recording _ => true
  | _ => false

/-- `replay_final_position` of a status. -/
def final_position : ActiveMode → Option ExecutionPosition
  | Replaying session | ReplayCompleted session | ReplayDiverged session _ => some session.footer.position
  | _ => none

end ActiveMode

/-! ## The worker -/

inductive RuntimeState where
  | Unconfigured
  | Paused
  | Running
deriving DecidableEq, Repr

inductive CommandRejection where
  | General (reason : String)
  | StaleEndpoint
  | UnknownEndpoint
  | EndpointKindMismatch
  | EndpointDirectionMismatch
deriving DecidableEq, Repr

structure RuntimeStatus where
  can_execute : Bool
  state : RuntimeState
  revision : U64
  machine_generation : U64
  completed_instructions : U64
  mode : RuntimeMode
  position : ExecutionPosition
  replay_final_position : Option ExecutionPosition
  session_error : Option String
  last_error : Option String
deriving DecidableEq, Repr

inductive RuntimeOutputPayload (Video : Type) where
  | Serial (bytes : List U8)
  | Video (video : Video)
deriving DecidableEq, Repr

structure RuntimeOutput (Video : Type) where
  generation : U64
  key : EndpointKey
  payload : RuntimeOutputPayload Video
deriving DecidableEq, Repr

/-- An output handler is what it has been given so far. -/
structure Worker (platform : Platform) where
  network : Option platform.NetworkSession
  network_config : Option platform.NatConfig
  network_generation : U64
  network_error : Option String
  network_endpoint : Option EndpointKey
  pending_network_input : Option MachineInput
  machine : Option platform.Machine
  cpu_clock : Option CpuClock
  virtual_instant : Nat
  frontend_output : MachineOutput platform.VideoOutput
  output_handler : Option (List (List (RuntimeOutput platform.VideoOutput)))
  machine_generation : U64
  state : RuntimeState
  mode : ActiveMode
  position : ExecutionPosition
  preserved_nonvolatile_state : Option platform.MachineNonvolatileState
  revision : U64
  completed_instructions : U64
  last_error : Option String
  session_error : Option String
  breakpoints : List U32
  ignore_breakpoint_once : Option U32

variable {platform : Platform}

namespace Worker

def require_machine (worker : Worker platform) : Except CommandRejection Unit :=
  if worker.machine.isSome then .ok () else .error (.General "no machine is configured")

def require_runnable (worker : Worker platform) : Except CommandRejection Unit :=
  match worker.require_machine with
  | .error rejection => .error rejection
  | .ok () =>
    match worker.network_error with
    | some error => .error (.General error)
    | none =>
      match worker.mode with
      | .ReplayCompleted _ => .error (.General "replay is complete")
      | .ReplayDiverged .. => .error (.General "replay has diverged")
      | _ => .ok ()

def status (worker : Worker platform) : RuntimeStatus :=
  { can_execute := worker.require_runnable.isOk
    state := worker.state
    revision := worker.revision
    machine_generation := worker.machine_generation
    completed_instructions := worker.completed_instructions
    mode := worker.mode.public_mode
    position := worker.position
    replay_final_position := worker.mode.final_position
    session_error :=
      match worker.mode with
      | .ReplayDiverged _ reason => some reason
      | _ => worker.session_error
    last_error := worker.network_error.or worker.last_error }

def advance_revision (worker : Worker platform) : Worker platform := { worker with revision := worker.revision + 1 }

/-- The state of execution while it stands still. -/
def stopped (worker : Worker platform) : RuntimeState := if worker.machine.isSome then .Paused else .Unconfigured

/-! ## Ends of a session -/

def set_record_failure (worker : Worker platform) (reason : String) : Worker platform :=
  { worker with state := .Paused, mode := .RecordCompleted, session_error := some reason }.advance_revision

def set_replay_divergence (worker : Worker platform) (reason : String) : Worker platform :=
  match worker.mode with
  | .Replaying session =>
    { worker with state := .Paused, session_error := some reason, mode := .ReplayDiverged session reason }.advance_revision
  | _ => worker

def complete_replay (worker : Worker platform) : Worker platform :=
  match worker.mode with
  | .Replaying session =>
    { worker with state := .Paused, session_error := none, mode := .ReplayCompleted session }.advance_revision
  | _ => worker

/-- None where the machine of a Recording is missing. -/
def stop_recording (faults : FileFaults) (worker : Worker platform) (outcome : RecordOutcome) :
    Option (Except CommandRejection RuntimeStatus × Worker platform) :=
  match worker.mode with
  | .Recording session =>
    worker.machine.map fun machine =>
      let footer := { position := worker.position, outcome, final_fingerprint := platform.machine_state_fingerprint machine }
      match (session.recorder.finalize platform.codec faults footer).1 with
      | .error error => (.error (.General error.to_string), worker.set_record_failure error.to_string)
      | .ok () =>
        let worker := { worker with mode := .RecordCompleted, session_error := none }.advance_revision
        (.ok worker.status, worker)
  | _ => some (.error (.General "no recording is active"), worker)

/-! ## The network -/

def fail_network (faults : FileFaults) (worker : Worker platform) (reason : String) : Option (Worker platform) :=
  if worker.network_error.isSome then some worker
  else
    let worker := { worker with network_error := some reason, state := worker.stopped }
    if worker.mode.is_recording then
      (worker.stop_recording faults (.HostNetworkError reason)).map fun stopped => stopped.2.advance_revision
    else some worker.advance_revision

/-- The old session is gone before the new one starts. -/
def replace_network (faults : FileFaults) (worker : Worker platform) (config : Option platform.NatConfig) :
    Option (Except CommandRejection Unit × Worker platform) :=
  let worker := { worker with state := worker.stopped, network_generation := worker.network_generation + 1, network := none }
  match config with
  | none => some (.ok (), worker)
  | some config =>
    match platform.start config with
    | .ok network => some (.ok (), { worker with network := some network })
    | .error error =>
      let reason := s!"NAT initialization failed: {error}"
      (worker.fail_network faults reason).map fun worker => (.error (.General reason), worker)

/-- The command that a failing session sends. -/
def network_failure (faults : FileFaults) (worker : Worker platform) (generation : U64) (reason : String) :
    Option (Worker platform) :=
  if generation = worker.network_generation ∧ worker.network.isSome ∧ worker.mode.is_replay = false then
    worker.fail_network faults reason
  else some worker

/-! ## Output -/

/-- The outputs that a frontend sees, in the order of the catalog, and the entries that no
endpoint of it claims; none where an output does not fit its endpoint. -/
def collect_outputs (generation : U64) :
    EndpointCatalog → MachineOutput platform.VideoOutput →
      Option (List (RuntimeOutput platform.VideoOutput) × MachineOutput platform.VideoOutput)
  | [], entries => some ([], entries)
  | descriptor :: descriptors, entries =>
    match entries.find? fun entry => entry.1 == descriptor.key with
    | none => collect_outputs generation descriptors entries
    | some (key, payload) =>
      let entries := entries.eraseP fun entry => entry.1 == descriptor.key
      if descriptor.kind = payload.kind ∧ descriptor.direction.accepts_output then
        match payload with
        | .Serial bytes =>
          (collect_outputs generation descriptors entries).map fun rest => (⟨generation, key, .Serial bytes⟩ :: rest.1, rest.2)
        | .Video video =>
          (collect_outputs generation descriptors entries).map fun rest => (⟨generation, key, .Video video⟩ :: rest.1, rest.2)
        | .Ethernet _ => collect_outputs generation descriptors entries
      else none

def deliver_output_entries (worker : Worker platform) (entries : MachineOutput platform.VideoOutput) :
    Option (Worker platform) := do
  let machine ← worker.machine
  let (output, left) ← collect_outputs worker.machine_generation (platform.endpoint_catalog machine) entries
  if left.isEmpty then
    if output.isEmpty then some worker
    else some { worker with output_handler := worker.output_handler.map fun given => given ++ [output] }
  else none

def deliver_output (worker : Worker platform) : Option (Worker platform) :=
  if worker.frontend_output.isEmpty then some worker
  else deliver_output_entries { worker with frontend_output := [] } worker.frontend_output

def queue_current_outputs (worker : Worker platform) : Worker platform :=
  match worker.machine with
  | some machine => { worker with frontend_output := platform.publish_current_outputs machine worker.frontend_output }
  | none => worker

def reset_machine (worker : Worker platform) : Option (Worker platform) := do
  let machine ← worker.machine
  let cpu_clock ← worker.cpu_clock
  some
    { worker with
      machine := some (platform.reset machine)
      cpu_clock := some cpu_clock.reset
      virtual_instant := 0
      pending_network_input := none
      frontend_output := []
      last_error := none
      ignore_breakpoint_once := none }.queue_current_outputs

/-! ## Replay -/

/-- What a text says about where the worker is. -/
def at_position (position : ExecutionPosition) : String :=
  s!"epoch {position.epoch.toNat}, instruction {position.completed_instructions.toNat}"

def replay_action (worker : Worker platform) : TimelineAction → Option (Except String Unit × Worker platform)
  | .MachineInput input =>
    worker.machine.map fun machine =>
      let received := platform.try_receive_input machine input
      let worker := { worker with machine := some received.2 }
      match received.1 with
      | .ok .Consumed => (.ok (), worker)
      | .ok .WouldBlock => (.error s!"Replay machine input would block at {at_position worker.position}", worker)
      | .error error =>
        (.error s!"Replay machine input is invalid at {at_position worker.position}: {error.to_string}", worker)
  | .Reset =>
    if worker.position.epoch.toNat + 1 < 2 ^ 64 then
      worker.reset_machine.map fun worker =>
        (.ok (), { worker with position := { epoch := worker.position.epoch + 1, completed_instructions := 0 } })
    else some (.error "Replay epoch counter overflow", worker)
  | .Checkpoint digest =>
    worker.machine.map fun machine =>
      if platform.machine_state_fingerprint machine = digest then (.ok (), worker)
      else (.error s!"Replay checkpoint mismatch at {at_position worker.position}", worker)

/-- The loop of `process_replay_boundary` over the entries from the cursor on. -/
def replay_entries (session : ReplaySession) (worker : Worker platform) :
    List TimelineEntry → Option (Except String Unit × Worker platform)
  | [] => some (.ok (), worker)
  | entry :: entries =>
    if entry.position < worker.position then
      some (.error s!"Replay passed Timeline entry at {at_position entry.position}", worker)
    else if entry.position = worker.position then
      match replay_action { worker with mode := .Replaying session.advance } entry.action with
      | none => none
      | some (.error reason, worker) => some (.error reason, worker)
      | some (.ok (), worker) => replay_entries session.advance worker entries
    else some (.ok (), worker)

def verify_replay_final_fingerprint (session : ReplaySession) (worker : Worker platform) : Option (Except String Unit) :=
  worker.machine.map fun machine =>
    if platform.machine_state_fingerprint machine = session.footer.final_fingerprint then .ok ()
    else .error s!"Replay final fingerprint mismatch at {at_position worker.position}"

/-- The end of `process_replay_boundary`, where no entry is due. -/
def finish_replay_boundary (session : ReplaySession) (worker : Worker platform) :
    Option (Except String Unit × Worker platform) :=
  if session.footer.position < worker.position then some (.error "Replay passed its final position", worker)
  else if worker.position ≠ session.footer.position then some (.ok (), worker)
  else if session.timeline_consumed = false then
    some (.error "Replay reached its footer before consuming the Timeline", worker)
  else
    match session.footer.outcome with
    | .ExecutionError .. => some (.ok (), worker)
    | _ =>
      (worker.verify_replay_final_fingerprint session).map fun
        | .error reason => (.error reason, worker)
        | .ok () => (.ok (), worker.complete_replay)

def process_replay_boundary (worker : Worker platform) : Option (Except String Unit × Worker platform) :=
  match worker.mode with
  | .Replaying session =>
    match replay_entries session worker (session.timeline.drop session.cursor) with
    | some (.ok (), worker) =>
      match worker.mode with
      | .Replaying session => worker.finish_replay_boundary session
      | _ => some (.ok (), worker)
    | interrupted => interrupted
  | _ => some (.ok (), worker)

end Worker

end se_runtime.runtime
