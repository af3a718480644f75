import SgiEmu.Runtime.Worker

open se_core se_machine se_runtime.record

namespace se_runtime.runtime

/-! ## Configurations -/

/-- The point of a Replay that a snapshot restores. -/
structure ReplayRestoreState (platform : Platform) where
  position : ExecutionPosition
  completed_instructions : U64
  virtual_instant : Nat
  cpu_clock_remainder : Nat
  machine_fingerprint : List U8
  machine : platform.MachineSnapshot

/-- A parsed Record with the place where its Replay starts. -/
structure SnapshotReplayer (platform : Platform) extends Replayer platform.RecordManifest where
  initial_cursor : Nat
  restore_state : Option (ReplayRestoreState platform)

def SnapshotReplayer.into_session {platform : Platform} (replayer : SnapshotReplayer platform) :
    ReplaySession × Option (ReplayRestoreState platform) :=
  ({ timeline := replayer.timeline, cursor := replayer.initial_cursor, footer := replayer.footer }, replayer.restore_state)

inductive RuntimeConfigurationMode (platform : Platform) where
  | Normal (config : platform.NatConfig)
  | Recording (recorder : RecorderInner) (config : platform.NatConfig)
  | Replaying (replayer : SnapshotReplayer platform)

structure RuntimeConfiguration (platform : Platform) where
  machine : platform.Machine
  mode : RuntimeConfigurationMode platform

variable {platform : Platform} {faults : FileFaults}

namespace RuntimeConfiguration

def is_normal (configuration : RuntimeConfiguration platform) : Bool :=
  match configuration.mode with
  | .Normal _ => true
  | _ => false

def is_replaying (configuration : RuntimeConfiguration platform) : Bool :=
  match configuration.mode with
  | .Replaying _ => true
  | _ => false

def ethernet_endpoints (configuration : RuntimeConfiguration platform) : List EndpointKey :=
  ((platform.endpoint_catalog configuration.machine).filter fun descriptor => descriptor.kind == .Ethernet).map (·.key)

/-- The network session that the configuration asks for, if its machine has an endpoint for it. -/
def next_network (configuration : RuntimeConfiguration platform) : Option platform.NatConfig :=
  match configuration.mode with
  | .Normal config | .Recording _ config => configuration.ethernet_endpoints.head?.map fun _ => config
  | .Replaying _ => none

def validate_network (configuration : RuntimeConfiguration platform) : Except CommandRejection Unit :=
  match configuration.mode with
  | .Normal config | .Recording _ config => (platform.validate config).mapError .General
  | .Replaying _ => .ok ()

end RuntimeConfiguration

/-- What is installed once nothing can be rejected any more. -/
structure Installation (platform : Platform) where
  machine : platform.Machine
  network_config : Option platform.NatConfig
  network_endpoint : Option EndpointKey
  mode : ActiveMode
  preserved_nonvolatile_state : Option platform.MachineNonvolatileState
  cpu_clock : CpuClock
  virtual_instant : Nat
  position : ExecutionPosition
  completed_instructions : U64

/-- A machine with its session, before a snapshot is restored into it. -/
structure NextSession (platform : Platform) where
  machine : platform.Machine
  mode : ActiveMode
  preserved_nonvolatile_state : Option platform.MachineNonvolatileState
  restore_state : Option (ReplayRestoreState platform)

namespace Worker

variable {worker other before after : Worker platform} {configuration : RuntimeConfiguration platform}

def retained_state (worker : Worker platform) : Option platform.MachineNonvolatileState :=
  worker.preserved_nonvolatile_state.or (worker.machine.map platform.nonvolatile_state)

def next_session (faults : FileFaults) (worker : Worker platform) (configuration : RuntimeConfiguration platform) :
    Except CommandRejection (NextSession platform) :=
  let machine := configuration.machine
  match configuration.mode with
  | .Normal _ =>
    let machine :=
      match worker.retained_state with
      | some state => platform.restore_nonvolatile_state machine state 0
      | none => machine
    .ok { machine, mode := .Normal, preserved_nonvolatile_state := none, restore_state := none }
  | .Recording recorder _ =>
    let digest := platform.machine_state_fingerprint machine
    match recorder.append platform.codec faults { position := .default, action := .Checkpoint digest } with
    | (.error error, _) => .error (.General error.to_string)
    | (.ok (), recorder) =>
      .ok
        { machine
          mode := .Recording (.new recorder)
          preserved_nonvolatile_state := some (worker.retained_state.getD (platform.nonvolatile_state machine))
          restore_state := none }
  | .Replaying replayer =>
    let (session, restore_state) := replayer.into_session
    .ok { machine, mode := .Replaying session, preserved_nonvolatile_state := worker.retained_state, restore_state }

/-- The clock of the new machine, and the snapshot restored into it. -/
def next_installation (worker : Worker platform) (configuration : RuntimeConfiguration platform)
    (cpu_clock : CpuClock) (next : NextSession platform) : Except CommandRejection (Installation platform) :=
  let installation :=
    { machine := next.machine
      network_config := configuration.next_network
      network_endpoint := configuration.ethernet_endpoints.head?
      mode := next.mode
      preserved_nonvolatile_state := next.preserved_nonvolatile_state
      cpu_clock
      virtual_instant := 0
      position := .default
      completed_instructions := worker.completed_instructions }
  match next.restore_state with
  | none => .ok installation
  | some restore =>
    match cpu_clock.restore_remainder restore.cpu_clock_remainder with
    | .error reason => .error (.General reason)
    | .ok cpu_clock =>
      match platform.restore_snapshot next.machine restore.machine with
      | (.error error, _) => .error (.General error)
      | (.ok (), machine) =>
        if platform.machine_state_fingerprint machine ≠ restore.machine_fingerprint then
          .error (.General "Replay snapshot machine fingerprint mismatch")
        else
          .ok
            { installation with
              machine
              cpu_clock
              virtual_instant := restore.virtual_instant
              position := restore.position
              completed_instructions := restore.completed_instructions }

/-- `configure` up to `replace_network`, where it only reads the worker; none where the
clock of the machine panics. -/
def prepare (faults : FileFaults) (worker : Worker platform) (configuration : RuntimeConfiguration platform) :
    Option (Except CommandRejection (Installation platform)) :=
  if worker.mode.is_recording then
    some (.error (.General "the current recording must be stopped before configuring another machine"))
  else if worker.mode.is_replay && !configuration.is_normal then
    some (.error (.General "the current Replay must be stopped before starting another session"))
  else if decide (1 < configuration.ethernet_endpoints.length) && !configuration.is_replaying then
    some (.error (.General "host NAT supports only one Ethernet endpoint"))
  else
    match configuration.validate_network with
    | .error rejection => some (.error rejection)
    | .ok () =>
      match worker.next_session faults configuration with
      | .error rejection => some (.error rejection)
      | .ok next =>
        (CpuClock.new (platform.cpu_frequency_hz next.machine)).map fun cpu_clock =>
          worker.next_installation configuration cpu_clock next

/-- The assignments of `configure`. -/
def install (worker : Worker platform) (next : Installation platform) : Worker platform :=
  { worker with
    network_config := next.network_config
    network_endpoint := next.network_endpoint
    pending_network_input := none
    network_error := none
    cpu_clock := some next.cpu_clock
    machine := some next.machine
    virtual_instant := next.virtual_instant
    frontend_output := []
    machine_generation := worker.machine_generation + 1
    state := .Paused
    mode := next.mode
    position := next.position
    completed_instructions := next.completed_instructions
    preserved_nonvolatile_state := next.preserved_nonvolatile_state
    last_error := none
    session_error := none
    breakpoints := []
    ignore_breakpoint_once := none }

/-- The boundary at which a Replay starts; a divergence there is one of the new session. -/
def start_session (worker : Worker platform) : Option (Worker platform) :=
  worker.process_replay_boundary.map fun
    | (.error reason, worker) => worker.set_replay_divergence reason
    | (.ok (), worker) => worker

def configure (faults : FileFaults) (worker : Worker platform) (configuration : RuntimeConfiguration platform) :
    Option (Except CommandRejection RuntimeStatus × Worker platform) :=
  match worker.prepare faults configuration with
  | none => none
  | some (.error rejection) => some (.error rejection, worker)
  | some (.ok next) =>
    match worker.replace_network faults next.network_config with
    | none => none
    | some (.error rejection, worker) => some (.error rejection, worker)
    | some (.ok (), worker) =>
      if worker.machine_generation.toNat + 1 < 2 ^ 64 then do
        let worker ← (worker.install next).start_session
        let worker ← worker.advance_revision.queue_current_outputs.deliver_output
        some (.ok worker.status, worker)
      else none

end Worker

end se_runtime.runtime
