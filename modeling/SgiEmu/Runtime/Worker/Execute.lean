import SgiEmu.Runtime.Catalog
import SgiEmu.Runtime.Worker.Configure
import SgiEmu.Runtime.Worker.CpuClock

open se_core se_core.storage se_machine se_runtime.record

/-- A storage adapter's failure is latched like one of the recorder's own. -/
def se_runtime.record.RecorderInner.report_storage_error (error : IoError) (inner : RecorderInner) : RecorderInner :=
  if inner.active && inner.failure.isNone then { inner with failure := some s!"host storage error: {error.message}" }
  else inner

namespace se_runtime.runtime

/-! ## The host -/

/-- A stable name of a removable slot. -/
abbrev MediaSlotKey : Type := String

inductive MachineMediaError where
  | UnknownSlot
  | MediumAlreadyPresent
  | MediumNotPresent
  | MediumRemovalPrevented
  | InvalidMedium
  | Busy
deriving DecidableEq, Repr

/-- The platform of a worker that executes. How the reads of the machine's storage end is
up to the host: with an error, if there is one, which the storage adapter also reports. -/
structure Host extends Platform where
  Medium : Type
  execution_address : Machine → U32
  execute_instruction : Option IoError → Machine → Except String Unit × Machine
  advance_time : Option IoError → Machine → Nat → MachineOutput VideoOutput → Machine × MachineOutput VideoOutput
  input_readiness : Machine → MachineInput → Except MachineInputError MachineInputReadiness
  snapshot : Machine → Except String MachineSnapshot
  media_slots : Machine → List MediaSlotKey
  insert_media : Machine → MediaSlotKey → Medium → Except MachineMediaError Unit × Machine
  eject_media : Machine → MediaSlotKey → Bool → Except MachineMediaError Unit × Machine

/-- What the host does during one instruction or one command: its storage reads, the state
of the network session's queues, and how the file operations on a Record or a snapshot end. -/
structure Surroundings where
  storage : Option IoError
  has_pending_work : Bool
  frame : Option (List U8)
  failure : Option String
  input_faults : FileFaults
  checkpoint_faults : FileFaults
  finalize_faults : FileFaults
  snapshot_failure : Option RecordError

/-- A worker and the file at its Record's path. -/
structure Station (host : Host) where
  worker : Worker host.toPlatform
  disk : Option (List U8)

/-- The worker before its first command; none where the clock of its machine panics. -/
def Worker.new {platform : Platform} (machine : Option platform.Machine) : Option (Worker platform) := do
  let cpu_clock ←
    match machine with
    | some machine => (CpuClock.new (platform.cpu_frequency_hz machine)).map some
    | none => some none
  some
    { network := none
      network_config := none
      network_generation := 0
      network_error := none
      network_endpoint := machine.bind fun machine =>
        ((platform.endpoint_catalog machine).find? fun descriptor => descriptor.kind == .Ethernet).map (·.key)
      pending_network_input := none
      machine
      cpu_clock
      virtual_instant := 0
      frontend_output := []
      output_handler := none
      machine_generation := if machine.isSome then 1 else 0
      state := if machine.isSome then .Paused else .Unconfigured
      mode := .Normal
      position := .default
      preserved_nonvolatile_state := none
      revision := 0
      completed_instructions := 0
      last_error := none
      session_error := none
      breakpoints := []
      ignore_breakpoint_once := none }

/-! ## Checkpoints -/

namespace RecordingSession

def checkpoint_due (session : RecordingSession) (position : ExecutionPosition) : Bool :=
  session.next_checkpoint_instruction == some position.completed_instructions

def advance_checkpoint_deadline (session : RecordingSession) : RecordingSession :=
  { session with
    next_checkpoint_instruction :=
      match session.next_checkpoint_instruction with
      | some deadline =>
        if deadline.toNat + CHECKPOINT_INTERVAL.toNat < 2 ^ 64 then some (deadline + CHECKPOINT_INTERVAL) else none
      | none => none }

def reset_checkpoint_deadline (session : RecordingSession) : RecordingSession :=
  { session with next_checkpoint_instruction := some CHECKPOINT_INTERVAL }

end RecordingSession

variable {host : Host}

/-! ## Ends of a session -/

/-- The footer that `stop_recording` writes. -/
def Worker.footer (worker : Worker host.toPlatform) (machine : host.Machine) (outcome : RecordOutcome) : RecordFooter :=
  { position := worker.position, outcome, final_fingerprint := host.machine_state_fingerprint machine }

/-- The file that `stop_recording` commits, if it does. -/
def Worker.committed (faults : FileFaults) (worker : Worker host.toPlatform) (outcome : RecordOutcome) :
    Option (List U8) :=
  match worker.mode, worker.machine with
  | .Recording session, some machine =>
    match session.recorder.finalize host.codec faults (worker.footer machine outcome) with
    | (.ok (), recorder) => recorder.committed
    | (.error _, _) => none
  | _, _ => none

namespace Worker

variable (worker : Worker host.toPlatform)

/-- The adapter of a Recording machine's storage tells the recorder what went wrong. -/
def report_storage_error (storage : Option IoError) : Worker host.toPlatform :=
  match worker.mode, storage with
  | .Recording session, some error =>
    { worker with mode := .Recording { session with recorder := session.recorder.report_storage_error error } }
  | _, _ => worker

def check_record_failure : Worker host.toPlatform :=
  match worker.mode with
  | .Recording session =>
    match session.recorder.failure with
    | some reason => worker.set_record_failure reason
    | none => worker
  | _ => worker

/-- The adapter of a Replay machine's storage retains its first failure. -/
def check_replay_storage_failure (storage : Option IoError) : Worker host.toPlatform :=
  match storage with
  | some error => worker.set_replay_divergence s!"host storage error: {error.message}"
  | none => worker

def fail_session (reason : String) : Worker host.toPlatform :=
  match worker.mode with
  | .Recording _ => worker.set_record_failure reason
  | .Replaying session =>
    { worker with state := .Paused, session_error := some reason, mode := .ReplayDiverged session reason }.advance_revision
  | _ => worker

end Worker

namespace Station

def with_worker (station : Station host) (worker : Worker host.toPlatform) : Station host := { station with worker }

def stop_recording (faults : FileFaults) (station : Station host) (outcome : RecordOutcome) :
    Option (Except CommandRejection RuntimeStatus × Station host) :=
  (station.worker.stop_recording faults outcome).map fun stopped =>
    (stopped.1, { worker := stopped.2, disk := (station.worker.committed faults outcome).or station.disk })

def fail_network (faults : FileFaults) (station : Station host) (reason : String) : Option (Station host) :=
  (station.worker.fail_network faults reason).map fun worker =>
    { worker
      disk :=
        if station.worker.network_error.isSome then station.disk
        else (station.worker.committed faults (.HostNetworkError reason)).or station.disk }

/-- A session that does not start ends a Recording as a failing one does. -/
def replace_network (faults : FileFaults) (station : Station host) (config : Option host.NatConfig) :
    Option (Except CommandRejection Unit × Station host) :=
  (station.worker.replace_network faults config).map fun replaced =>
    (replaced.1,
      { worker := replaced.2
        disk :=
          match config.map host.start with
          | some (.error error) =>
            if station.worker.network_error.isSome then station.disk
            else
              (station.worker.committed faults (.HostNetworkError s!"NAT initialization failed: {error}")).or station.disk
          | _ => station.disk })

/-! ## Recording -/

/-- An entry of the timeline, where one is recorded. -/
def append (faults : FileFaults) (worker : Worker host.toPlatform) (action : TimelineAction) :
    Except RecordError Unit × Worker host.toPlatform :=
  match worker.mode with
  | .Recording session =>
    let appended := session.recorder.append host.codec faults { position := worker.position, action }
    (appended.1, { worker with mode := .Recording { session with recorder := appended.2 } })
  | _ => (.ok (), worker)

/-- A frame that is too long for a Record is refused before the recorder sees it. -/
def record_machine_input (faults : FileFaults) (worker : Worker host.toPlatform) (input : MachineInput) :
    Except RecordError Unit × Worker host.toPlatform :=
  match worker.mode, input.payload with
  | .Recording _, .EthernetFrame bytes =>
    if se_machine.MAX_ETHERNET_FRAME_BYTES < bytes.length then
      (.error (invalid_record "Ethernet frame exceeds its allocation bound"), worker)
    else append faults worker (.MachineInput input)
  | _, _ => append faults worker (.MachineInput input)

/-- None where the machine of a Recording is missing. -/
def record_checkpoint (faults : FileFaults) (worker : Worker host.toPlatform) :
    Option (Except RecordError Unit × Worker host.toPlatform) :=
  match worker.mode with
  | .Recording _ =>
    worker.machine.map fun machine => append faults worker (.Checkpoint (host.machine_state_fingerprint machine))
  | _ => some (.ok (), worker)

/-- The worker with its recording session changed, if it has one. -/
def with_session (worker : Worker host.toPlatform) (change : RecordingSession → RecordingSession) :
    Worker host.toPlatform :=
  match worker.mode with
  | .Recording session => { worker with mode := .Recording (change session) }
  | _ => worker

def record_checkpoint_if_due (faults : FileFaults) (worker : Worker host.toPlatform) :
    Option (Except RecordError Unit × Worker host.toPlatform) :=
  match worker.mode with
  | .Recording session =>
    if session.checkpoint_due worker.position then
      match record_checkpoint faults worker with
      | some (.ok (), worker) => some (.ok (), with_session worker RecordingSession.advance_checkpoint_deadline)
      | result => result
    else some (.ok (), worker)
  | _ => some (.ok (), worker)

/-! ## Inputs -/

/-- An input that the machine has consumed is written before anything else happens. -/
def try_receive_input (faults : FileFaults) (worker : Worker host.toPlatform) (input : MachineInput) :
    Option (Except String MachineInputResult × Worker host.toPlatform) :=
  worker.machine.map fun machine =>
    let received := host.try_receive_input machine input
    let worker := { worker with machine := some received.2 }
    match received.1 with
    | .error error => (.error error.to_string, worker)
    | .ok .WouldBlock => (.ok .WouldBlock, worker)
    | .ok .Consumed =>
      match record_machine_input faults worker input with
      | (.error error, worker) => (.error error.to_string, worker)
      | (.ok (), worker) => (.ok .Consumed, worker)

def accept_live_input (faults : FileFaults) (worker : Worker host.toPlatform) (input : MachineInput) :
    Option (Except CommandRejection Unit × Worker host.toPlatform) :=
  (try_receive_input faults worker input).map fun
    | (.error error, worker) => (.error (.General error), worker)
    | (.ok .WouldBlock, worker) => (.error (.General "machine input would block"), worker)
    | (.ok .Consumed, worker) => (.ok (), worker.advance_revision)

/-! ## The network -/

/-- The input that waits for the machine: the one held, or the oldest frame of the host. -/
def pending_input (around : Surroundings) (worker : Worker host.toPlatform) : Option (Option MachineInput) :=
  match worker.pending_network_input with
  | some input => some (some input)
  | none =>
    if worker.network.isSome then
      match around.frame with
      | some bytes => worker.network_endpoint.map fun endpoint => some { endpoint, payload := .EthernetFrame bytes }
      | none => some none
    else some none

/-- The end of a boundary: a failure of the network session is taken. -/
def take_failure (around : Surroundings) (station : Station host) : Option (Station host) :=
  match station.worker.network.isSome, around.failure with
  | true, some failure => station.fail_network around.finalize_faults failure
  | _, _ => some station

/-- Offers the pending input to a machine that says it is ready for it. -/
def process_pending_network_boundary (around : Surroundings) (station : Station host) : Option (Station host) := do
  let pending_network_input ← pending_input around station.worker
  let worker := { station.worker with pending_network_input }
  match pending_network_input with
  | none => take_failure around (station.with_worker worker)
  | some input =>
    let machine ← worker.machine
    match host.input_readiness machine input with
    | .error error => some (station.with_worker (worker.fail_session error.to_string))
    | .ok .WouldBlock => take_failure around (station.with_worker worker)
    | .ok .Ready =>
      let worker := { worker with pending_network_input := none }
      match ← try_receive_input around.input_faults worker input with
      | (.error error, worker) => some (station.with_worker (worker.fail_session error))
      | (.ok .WouldBlock, worker) =>
        take_failure around (station.with_worker { worker with pending_network_input := some input })
      | (.ok .Consumed, worker) => take_failure around (station.with_worker worker)

def process_network_boundary (around : Surroundings) (station : Station host) : Option (Station host) :=
  if station.worker.pending_network_input.isNone && !(station.worker.network.isSome && around.has_pending_work) then
    some station
  else process_pending_network_boundary around station

/-! ## Output -/

def is_ethernet (entry : EndpointKey × EndpointOutput host.VideoOutput) : Bool :=
  match entry.2 with
  | .Ethernet _ => true
  | _ => false

def sends_frames (catalog : EndpointCatalog) (key : EndpointKey) : Bool :=
  match catalog.get key with
  | some descriptor => descriptor.kind == .Ethernet && descriptor.direction.accepts_output
  | none => false

/-- The frames go to the network session; none where an endpoint does not have them. -/
def drain_network_output (worker : Worker host.toPlatform) : Option (Worker host.toPlatform) :=
  if worker.frontend_output.isEmpty then some worker
  else do
    let machine ← worker.machine
    if (worker.frontend_output.filter is_ethernet).all fun entry => sends_frames (host.endpoint_catalog machine) entry.1 then
      some { worker with frontend_output := worker.frontend_output.filter fun entry => !is_ethernet entry }
    else none

def flush_machine_output (worker : Worker host.toPlatform) : Option (Worker host.toPlatform) :=
  (drain_network_output worker).bind Worker.deliver_output

/-! ## Instructions -/

def execute_machine_instruction (around : Surroundings) (worker : Worker host.toPlatform) :
    Option (Except String Unit × Worker host.toPlatform) := do
  let machine ← worker.machine
  match host.execute_instruction around.storage machine with
  | (.error error, machine) =>
    some (.error error, Worker.report_storage_error { worker with machine := some machine } around.storage)
  | (.ok (), machine) =>
    let worker ← Worker.finish_machine_instruction (host.advance_time around.storage) { worker with machine := some machine }
    some (.ok (), worker.report_storage_error around.storage)

/-- Whether the session goes on. -/
def advance_session_position (worker : Worker host.toPlatform) : Bool × Worker host.toPlatform :=
  if worker.position.completed_instructions.toNat + 1 < 2 ^ 64 then
    (true,
      { worker with
        position := { worker.position with completed_instructions := worker.position.completed_instructions + 1 } })
  else (false, worker.fail_session "Record/Replay instruction counter overflow")

def execute_normal_instruction (around : Surroundings) (station : Station host) :
    Option (Except String Unit × Station host) := do
  match ← execute_machine_instruction around station.worker with
  | (.error error, worker) => some (.error error, station.with_worker worker)
  | (.ok (), worker) =>
    let station ← process_network_boundary around (station.with_worker worker)
    some (.ok (), station)

def execute_recording_instruction (around : Surroundings) (station : Station host) :
    Option (Except String Unit × Station host) := do
  match ← execute_machine_instruction around station.worker with
  | (.error error, worker) => some (.error error, station.with_worker worker)
  | (.ok (), worker) =>
    match advance_session_position worker with
    | (false, worker) => some (.ok (), station.with_worker worker)
    | (true, worker) =>
      let station ← process_network_boundary around (station.with_worker worker)
      match ← record_checkpoint_if_due around.checkpoint_faults station.worker.check_record_failure with
      | (.error error, worker) => some (.ok (), station.with_worker (worker.fail_session error.to_string))
      | (.ok (), worker) => some (.ok (), station.with_worker worker)

/-- The session's place is where only the instruction that failed is left. -/
def expects_execution_error (worker : Worker host.toPlatform) : Bool :=
  match worker.mode with
  | .Replaying session =>
    worker.position == session.footer.position && session.timeline_consumed &&
      match session.footer.outcome with
      | .ExecutionError .. => true
      | _ => false
  | _ => false

/-- Where the next entry or the end of the session is due. -/
def replay_boundary_due (worker : Worker host.toPlatform) : Bool :=
  match worker.mode with
  | .Replaying session =>
    match session.next_entry with
    | some entry =>
      !decide (worker.position < if session.footer.position < entry.position then session.footer.position else entry.position)
    | none => !decide (worker.position < session.footer.position)
  | _ => false

/-- The boundary after an instruction of a Replay. -/
def finish_replay_instruction (worker : Worker host.toPlatform) : Option (Worker host.toPlatform) :=
  if replay_boundary_due worker then
    worker.process_replay_boundary.map fun
      | (.error reason, worker) => worker.set_replay_divergence reason
      | (.ok (), worker) => worker
  else some worker

def execute_replay_instruction (around : Surroundings) (station : Station host) :
    Option (Except String Unit × Station host) := do
  let worker := station.worker
  let machine ← worker.machine
  match host.execute_instruction around.storage machine with
  | (.error error, machine) => some (.error error, station.with_worker { worker with machine := some machine })
  | (.ok (), machine) =>
    let executed := { worker with machine := some machine }
    if expects_execution_error worker then
      some (.ok (), station.with_worker (executed.set_replay_divergence
        "Replay expected the recorded execution error, but the instruction succeeded"))
    else
      let worker ← Worker.finish_machine_instruction (host.advance_time around.storage) executed
      match advance_session_position worker with
      | (false, worker) => some (.ok (), station.with_worker worker)
      | (true, worker) =>
        let worker ← finish_replay_instruction (worker.check_replay_storage_failure around.storage)
        some (.ok (), station.with_worker worker)

/-! ## Failing instructions -/

def hex_digit (value : Nat) : Char := if value % 16 < 10 then Char.ofNat (48 + value % 16) else Char.ofNat (87 + value % 16)

/-- `{address:08x}`. -/
def hex_address (address : U32) : String :=
  String.ofList ((List.range 8).reverse.map fun digit => hex_digit (address.toNat / 16 ^ digit))

/-- The text with which an error that was not recorded ends a Replay. -/
def unexpected_error (address : U32) (error : String) : String :=
  s!"unexpected execution error at 0x{hex_address address}: {error}"

/-- The session's Record ends in this error at this address. -/
def expected_error (worker : Worker host.toPlatform) (session : ReplaySession) (address : U32) (error : String) : Bool :=
  worker.position == session.footer.position && session.timeline_consumed &&
    decide (session.footer.outcome = .ExecutionError address error)

def handle_execution_error (around : Surroundings) (station : Station host) (error : String) : Option (Station host) :=
  let address := (station.worker.machine.map host.execution_address).getD 0
  let worker :=
    ({ station.worker with last_error := some error }.check_record_failure).check_replay_storage_failure around.storage
  match worker.mode with
  | .Replaying session =>
    if expected_error worker session address error then
      (worker.verify_replay_final_fingerprint session).map fun
        | .ok () => station.with_worker worker.complete_replay
        | .error reason => station.with_worker (worker.set_replay_divergence reason)
    else some (station.with_worker (worker.set_replay_divergence (unexpected_error address error)))
  | .Recording _ => do
    match ← (station.with_worker worker).stop_recording around.finalize_faults (.ExecutionError address error) with
    | (.error (.General reason), station) =>
      some (station.with_worker { station.worker with session_error := some reason })
    | (_, station) => some station
  | _ => some (station.with_worker worker)

/-! ## Execution -/

/-- The instruction of the session that is active. -/
def execute_instruction (around : Surroundings) (station : Station host) : Option (Except String Unit × Station host) :=
  match station.worker.mode.public_mode with
  | .Normal | .RecordCompleted => execute_normal_instruction around station
  | .Recording => execute_recording_instruction around station
  | .Replaying => execute_replay_instruction around station
  | .ReplayCompleted | .ReplayDiverged => some (.ok (), station)

def finish_step (around : Surroundings) (station : Station host) : Except String Unit → Option (Station host)
  | .ok () => some (station.with_worker { station.worker with last_error := none })
  | .error error => handle_execution_error around station error

def step_once (around : Surroundings) (station : Station host) :
    Option (Except CommandRejection RuntimeStatus × Station host) :=
  match station.worker.require_runnable with
  | .error rejection => some (.error rejection, station)
  | .ok () =>
    if station.worker.state = .Running then
      some (.error (.General "single-step requires a paused machine"), station)
    else do
      let (result, station) ← execute_instruction around station
      let worker ← flush_machine_output station.worker
      let station ← finish_step around (station.with_worker worker) result
      let worker := { station.worker with state := .Paused, ignore_breakpoint_once := none }.advance_revision
      some (.ok worker.status, station.with_worker worker)

/-- Whether execution pauses before the next instruction. -/
def pause_for_breakpoint (worker : Worker host.toPlatform) : Bool × Worker host.toPlatform :=
  match worker.machine with
  | none => (true, { worker with state := .Unconfigured })
  | some machine =>
    let address := host.execution_address machine
    if worker.ignore_breakpoint_once = some address then (false, { worker with ignore_breakpoint_once := none })
    else if address ∈ worker.breakpoints then (true, { worker with state := .Paused }.advance_revision)
    else (false, worker)

def EXECUTION_BATCH_SIZE : Nat := 1024

/-- The loop of a batch, over as many instructions as are left of it. -/
def execute_instructions
    (instruction : Surroundings → Station host → Option (Except String Unit × Station host)) :
    Nat → (Nat → Surroundings) → Station host → Option (Station host)
  | 0, _, station => some station
  | count + 1, around, station =>
    match pause_for_breakpoint station.worker with
    | (true, worker) => some (station.with_worker worker)
    | (false, worker) => do
      match ← instruction (around 0) (station.with_worker worker) with
      | (.ok (), station) =>
        let worker := { station.worker with last_error := none }.advance_revision
        if worker.state = .Running then
          execute_instructions instruction count (fun index => around (index + 1)) (station.with_worker worker)
        else some (station.with_worker worker)
      | (.error error, station) =>
        let station ← handle_execution_error (around 0) station error
        some (station.with_worker { station.worker with state := .Paused }.advance_revision)

/-- The instruction is chosen once for the whole batch. -/
def execute_session_batch (around : Nat → Surroundings) (station : Station host) : Option (Station host) :=
  match station.worker.mode.public_mode with
  | .Normal | .RecordCompleted => execute_instructions execute_normal_instruction EXECUTION_BATCH_SIZE around station
  | .Recording => execute_instructions execute_recording_instruction EXECUTION_BATCH_SIZE around station
  | .Replaying => execute_instructions execute_replay_instruction EXECUTION_BATCH_SIZE around station
  | .ReplayCompleted | .ReplayDiverged => some station

def execute_batch (around : Nat → Surroundings) (station : Station host) : Option (Station host) := do
  let station ← execute_session_batch around station
  let worker ← flush_machine_output station.worker
  some (station.with_worker worker)

/-! ## Snapshots -/

/-- What a snapshot only stores: the machine and the clocks of its execution. -/
structure SnapshotState (host : Host) where
  completed_instructions : U64
  virtual_instant : Nat
  cpu_clock_remainder : Nat
  machine : host.MachineSnapshot

def TimelineAction.is_checkpoint : TimelineAction → Bool
  | .Checkpoint _ => true
  | _ => false

/-- Where the last checkpoint before the cursor stands. -/
def last_checkpoint (timeline : List TimelineEntry) (cursor : Nat) : Option ExecutionPosition :=
  ((timeline.take cursor).reverse.find? fun entry => TimelineAction.is_checkpoint entry.action).map (·.position)

/-- The snapshot of a paused Replay; none where the machine's clock is missing. -/
def replay_snapshot (record : RecordIdentity) (worker : Worker host.toPlatform) :
    Option (Except CommandRejection (ReplaySnapshot (SnapshotState host))) :=
  if worker.state ≠ .Paused then some (.error (.General "Replay must be paused before creating a snapshot"))
  else
    match worker.mode with
    | .Replaying session =>
      match worker.machine with
      | none => some (.error (.General "no machine is configured"))
      | some machine =>
        match host.snapshot machine with
        | .error error => some (.error (.General error))
        | .ok snapshot =>
          worker.cpu_clock.map fun cpu_clock =>
            .ok
              { record
                position := worker.position
                timeline_cursor := session.cursor
                last_verified_checkpoint := last_checkpoint session.timeline session.cursor
                machine_fingerprint := host.machine_state_fingerprint machine
                pc := host.execution_address machine
                state :=
                  { completed_instructions := worker.completed_instructions
                    virtual_instant := worker.virtual_instant
                    cpu_clock_remainder := cpu_clock.accumulated_remainder
                    machine := snapshot } }
    | _ => some (.error (.General "no active Replay is available for a snapshot"))

/-- The worker's part of a snapshot, whose file the host stores or fails to store. -/
def create_replay_snapshot (around : Surroundings) (record : RecordIdentity) (worker : Worker host.toPlatform) :
    Option (Except CommandRejection RuntimeStatus × Worker host.toPlatform) :=
  (replay_snapshot record worker).map fun
    | .error rejection => (.error rejection, worker)
    | .ok _ =>
      match around.snapshot_failure with
      | some error => (.error (.General error.to_string), worker)
      | none => (.ok worker.advance_revision.status, worker.advance_revision)

/-! ## Commands -/

structure EndpointHandle where
  generation : U64
  key : EndpointKey
deriving DecidableEq, Repr

structure RuntimeMediaHandle where
  generation : U64
  key : MediaSlotKey
deriving DecidableEq, Repr

inductive RuntimeMediaError where
  | StaleHandle
  | UnknownSlot
  | MutationUnavailable
  | MediumAlreadyPresent
  | MediumNotPresent
  | MediumRemovalPrevented
  | InvalidMedium
  | Busy
deriving DecidableEq, Repr

def media_rejection : MachineMediaError → RuntimeMediaError
  | .UnknownSlot => .UnknownSlot
  | .MediumAlreadyPresent => .MediumAlreadyPresent
  | .MediumNotPresent => .MediumNotPresent
  | .MediumRemovalPrevented => .MediumRemovalPrevented
  | .InvalidMedium => .InvalidMedium
  | .Busy => .Busy

/-- The commands that do more than read the worker. -/
inductive Command (host : Host) where
  | NetworkFailure (generation : U64) (reason : String)
  | Configure (configuration : RuntimeConfiguration host.toPlatform)
  | Run
  | Reset
  | Pause
  | Step
  | StopRecording
  | CreateReplaySnapshot (record : RecordIdentity)
  | Status
  | RefreshOutputs
  | ToggleBreakpoint (address : U32)
  | MachineInput (handle : EndpointHandle) (payload : MachineInputPayload)
  | InsertMedia (handle : RuntimeMediaHandle) (medium : host.Medium)
  | EjectMedia (handle : RuntimeMediaHandle) (force : Bool)
  | SetOutputHandler
  | ClearOutputHandler
  | Shutdown

/-- What a command is answered with. -/
inductive Reply (host : Host) where
  | Nothing
  | Status (result : Except CommandRejection RuntimeStatus)
  | Media (result : Except RuntimeMediaError RuntimeStatus)
  | Shutdown (state : Option host.MachineNonvolatileState)

def require_manual_reset (worker : Worker host.toPlatform) : Except CommandRejection Unit :=
  match worker.require_machine with
  | .error rejection => .error rejection
  | .ok () =>
    if worker.mode.is_replay then .error (.General "manual reset is disabled during replay") else .ok ()

def require_live_input (worker : Worker host.toPlatform) : Except CommandRejection Unit :=
  match worker.require_machine with
  | .error rejection => .error rejection
  | .ok () =>
    if worker.mode.is_replay then .error (.General "live machine input is disabled during replay") else .ok ()

def validate_handle (worker : Worker host.toPlatform) (handle : EndpointHandle) (kind : EndpointKind) :
    Except CommandRejection Unit :=
  if handle.generation ≠ worker.machine_generation then .error .StaleEndpoint
  else
    match worker.machine with
    | none => .error .UnknownEndpoint
    | some machine =>
      match (host.endpoint_catalog machine).get handle.key with
      | none => .error .UnknownEndpoint
      | some descriptor =>
        if descriptor.kind ≠ kind then .error .EndpointKindMismatch
        else if descriptor.direction.accepts_input then .ok () else .error .EndpointDirectionMismatch

/-- The machine that a host media change reaches. -/
def require_media_change (worker : Worker host.toPlatform) (handle : RuntimeMediaHandle) :
    Except RuntimeMediaError host.Machine :=
  match worker.machine with
  | none => .error .UnknownSlot
  | some machine =>
    if handle.generation ≠ worker.machine_generation then .error .StaleHandle
    else if handle.key ∉ host.media_slots machine then .error .UnknownSlot
    else
      match worker.mode with
      | .Normal => .ok machine
      | _ => .error .MutationUnavailable

/-- A change of media that the machine makes or refuses. -/
def change_media (worker : Worker host.toPlatform) (handle : RuntimeMediaHandle)
    (change : host.Machine → Except MachineMediaError Unit × host.Machine) :
    Except RuntimeMediaError RuntimeStatus × Worker host.toPlatform :=
  match require_media_change worker handle with
  | .error error => (.error error, worker)
  | .ok machine =>
    match change machine with
    | (.error error, machine) => (.error (media_rejection error), { worker with machine := some machine })
    | (.ok (), machine) =>
      let worker := { worker with machine := some machine }.advance_revision
      (.ok worker.status, worker)

/-- Execution begins past a breakpoint at which it stands. -/
def run (worker : Worker host.toPlatform) : Except CommandRejection RuntimeStatus × Worker host.toPlatform :=
  match worker.require_runnable with
  | .error rejection => (.error rejection, worker)
  | .ok () =>
    let address := (worker.machine.map host.execution_address).filter fun current => current ∈ worker.breakpoints
    let worker := { worker with ignore_breakpoint_once := address, state := .Running }.advance_revision
    (.ok worker.status, worker)

def pause (worker : Worker host.toPlatform) : Except CommandRejection RuntimeStatus × Worker host.toPlatform :=
  match worker.require_machine with
  | .error rejection => (.error rejection, worker)
  | .ok () =>
    let worker := { worker with state := .Paused, ignore_breakpoint_once := none }.advance_revision
    (.ok worker.status, worker)

def toggle_breakpoint (worker : Worker host.toPlatform) (address : U32) :
    Except CommandRejection RuntimeStatus × Worker host.toPlatform :=
  match worker.require_machine with
  | .error rejection => (.error rejection, worker)
  | .ok () =>
    let breakpoints :=
      if address ∈ worker.breakpoints then worker.breakpoints.filter (· ≠ address) else address :: worker.breakpoints
    let worker := { worker with breakpoints }.advance_revision
    (.ok worker.status, worker)

/-- A reset after the network session of the machine was started anew. -/
def reset_recorded (around : Surroundings) (station : Station host) :
    Option (Except CommandRejection RuntimeStatus × Station host) := do
  match append around.input_faults station.worker .Reset with
  | (.error error, worker) => some (.error (.General error.to_string), station.with_worker worker)
  | (.ok (), worker) =>
    let worker ← worker.reset_machine
    let position :=
      if worker.mode.is_recording then { epoch := worker.position.epoch + 1, completed_instructions := 0 }
      else worker.position
    let worker := { worker with network_error := none, position, state := .Paused }
    match ← record_checkpoint around.checkpoint_faults worker with
    | (.error error, worker) => some (.error (.General error.to_string), station.with_worker worker)
    | (.ok (), worker) =>
      let worker := (with_session worker RecordingSession.reset_checkpoint_deadline).advance_revision
      let worker ← worker.deliver_output
      some (.ok worker.status, station.with_worker worker)

def reset (around : Surroundings) (station : Station host) :
    Option (Except CommandRejection RuntimeStatus × Station host) :=
  match require_manual_reset station.worker with
  | .error rejection => some (.error rejection, station)
  | .ok () =>
    if station.worker.mode.is_recording && decide (2 ^ 64 ≤ station.worker.position.epoch.toNat + 1) then
      some (.error (.General "Record epoch counter overflow"), station)
    else
      match station.worker.network_config with
      | none => reset_recorded around station
      | some config =>
        match station.replace_network around.finalize_faults (some config) with
        | none => none
        | some (.error rejection, station) => some (.error rejection, station)
        | some (.ok (), station) => reset_recorded around station

/-- A live input for the machine whose endpoint the handle names. -/
def machine_input (around : Surroundings) (worker : Worker host.toPlatform) (handle : EndpointHandle)
    (payload : MachineInputPayload) : Option (Except CommandRejection RuntimeStatus × Worker host.toPlatform) :=
  match require_live_input worker with
  | .error rejection => some (.error rejection, worker)
  | .ok () =>
    match validate_handle worker handle payload.kind with
    | .error rejection => some (.error rejection, worker)
    | .ok () =>
      (accept_live_input around.input_faults worker { endpoint := handle.key, payload }).map fun
        | (.error rejection, worker) => (.error rejection, worker)
        | (.ok (), worker) => (.ok worker.status, worker)

def close_recording (around : Surroundings) (station : Station host) : Option (Station host) :=
  if station.worker.mode.is_recording then (station.stop_recording around.finalize_faults .Shutdown).map (·.2)
  else some station

/-- The state that the worker leaves to its owner. -/
def shutdown (around : Surroundings) (station : Station host) :
    Option (Option host.MachineNonvolatileState × Station host) := do
  let station ← close_recording around (station.with_worker { station.worker with network := none })
  some (station.worker.retained_state, station)

/-- A reply about the worker alone. -/
def reply (station : Station host) (answered : Except CommandRejection RuntimeStatus × Worker host.toPlatform) :
    Reply host × Station host :=
  (.Status answered.1, station.with_worker answered.2)

/-- A reply after which a failure of the recorder ends the Recording. -/
def reply_checked (answered : Except CommandRejection RuntimeStatus × Station host) : Reply host × Station host :=
  (.Status answered.1, answered.2.with_worker answered.2.worker.check_record_failure)

def handle_command (around : Surroundings) (station : Station host) : Command host → Option (Reply host × Station host)
  | .NetworkFailure generation reason =>
    if generation = station.worker.network_generation ∧ station.worker.network.isSome ∧
        station.worker.mode.is_replay = false then
      (station.fail_network around.finalize_faults reason).map fun station => (.Nothing, station)
    else some (.Nothing, station)
  | .Configure configuration =>
    (station.worker.configure around.checkpoint_faults configuration).map (reply station)
  | .Run => some (reply station (run station.worker))
  | .Reset => (reset around station).map reply_checked
  | .Pause => some (reply station (pause station.worker))
  | .Step => (step_once around station).map fun answered => (.Status answered.1, answered.2)
  | .StopRecording => (station.stop_recording around.finalize_faults .UserStopped).map reply_checked
  | .CreateReplaySnapshot record => (create_replay_snapshot around record station.worker).map (reply station)
  | .Status => some (.Status (.ok station.worker.status), station)
  | .RefreshOutputs =>
    station.worker.queue_current_outputs.deliver_output.map fun worker => reply station (.ok worker.status, worker)
  | .ToggleBreakpoint address => some (reply station (toggle_breakpoint station.worker address))
  | .MachineInput handle payload =>
    (machine_input around station.worker handle payload).map fun answered =>
      reply_checked (answered.1, station.with_worker answered.2)
  | .InsertMedia handle medium =>
    let changed := change_media station.worker handle fun machine => host.insert_media machine handle.key medium
    some (.Media changed.1, station.with_worker changed.2)
  | .EjectMedia handle force =>
    let changed := change_media station.worker handle fun machine => host.eject_media machine handle.key force
    some (.Media changed.1, station.with_worker changed.2)
  | .SetOutputHandler =>
    let worker := { station.worker with output_handler := some [] }
    some (reply station (.ok worker.status, worker))
  | .ClearOutputHandler =>
    let worker := { station.worker with output_handler := none }
    some (reply station (.ok worker.status, worker))
  | .Shutdown => (shutdown around station).map fun answered => (.Shutdown answered.1, answered.2)

/-! ## Runs -/

/-- A turn of the worker's loop. -/
inductive Event (host : Host) where
  | Command (around : Surroundings) (command : Command host)
  | Batch (around : Nat → Surroundings)

/-- A batch is executed only while the worker is running. -/
def turn (station : Station host) : Event host → Option (Station host)
  | .Command around command => (handle_command around station command).map (·.2)
  | .Batch around => if station.worker.state = .Running then execute_batch around station else some station

def turns (station : Station host) : List (Event host) → Option (Station host)
  | [] => some station
  | event :: events => (turn station event).bind fun next => next.turns events

end Station

end se_runtime.runtime
