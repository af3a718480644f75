import SgiEmu.Machine.Receive
import SgiEmu.Network.Session

open se_core se_machine se_machine.ip12 se_network.queue se_network.session

namespace se_runtime.network

variable {M : Type}

/-! ## A session at the instruction boundaries -/

/-- Where the runtime stands in `process_network_boundary`. -/
inductive BoundarySection where
  /-- Between boundaries, where the machine executes. -/
  | Instruction
  /-- In `try_receive_frame`, before it loads the bits. -/
  | Receive
  /-- In `try_receive_frame`, before it takes the mutex. -/
  | Pop
  /-- In `try_receive_frame`, holding `rx`, before its bit is cleared. -/
  | ClearReceive (frame : Option (List U8))
  /-- Before the readiness of the held input is tested. -/
  | Deliver
  /-- In `take_failure`, before it loads the bits. -/
  | Failure
  /-- In `take_failure`, before it takes the mutex. -/
  | TakeFailure
deriving DecidableEq, Repr

/-- A network session, its worker, and the part of the runtime its boundaries use. -/
structure Session (M : Type) where
  shared : Shared
  worker : WorkerSection
  boundary : BoundarySection
  pending_network_input : Option MachineInput
  machine : M
  network_error : Option String

namespace Session

/-- A session right after its start, for a machine that holds no input of an older one. -/
def start (machine : M) : Session M :=
  { shared := .default, worker := .Idle, boundary := .Instruction, pending_network_input := none, machine
    network_error := none }

/-- No section holds the receive queue's mutex. -/
def rx_free (session : Session M) : Prop :=
  session.worker ≠ .PublishFrame ∧ ∀ frame, session.boundary ≠ .ClearReceive frame

/-- The worker is outside the sections that hold the failure's mutex. -/
def failure_free (session : Session M) : Prop :=
  session.worker ≠ .PublishFailure ∧ session.worker ≠ .Stop

/-- The input the runtime makes of a frame, for the endpoint its session is bound to. -/
def network_input (frame : List U8) : MachineInput :=
  { endpoint := "ethernet.0", payload := .EthernetFrame frame }

/-- The test that opens a boundary. -/
def process_network_boundary (session : Session M) : Session M :=
  if session.pending_network_input.isNone && !session.shared.has_pending_work then session
  else if session.pending_network_input.isNone then { session with boundary := .Receive }
  else { session with boundary := .Deliver }

/-- The load of `try_receive_frame`. -/
def load_receive (session : Session M) : Session M :=
  if session.shared.receive_pending then { session with boundary := .Pop } else { session with boundary := .Deliver }

/-- Holds the frame that left the queue, if one did. -/
def hold (session : Session M) (frame : Option (List U8)) : Session M :=
  { session with
    boundary := .Deliver
    pending_network_input := (frame.map network_input).or session.pending_network_input }

/-- The section of `try_receive_frame`, up to the `fetch_and` where it empties the queue. -/
def try_receive_frame (session : Session M) : Session M :=
  let (frame, shared) := session.shared.pop_received_frame
  if shared.rx.is_empty then { session with shared, boundary := .ClearReceive frame }
  else hold { session with shared } frame

/-- The end of a boundary whose session has failed. -/
def fail_session (session : Session M) : Session M := { session with boundary := .Instruction }

def fail_network (session : Session M) (reason : String) : Session M :=
  if session.network_error.isSome then session else { session with network_error := some reason }

/-- What a step of a session shows. -/
inductive Event where
  | Accepted (frame : List U8)
  | Consumed (input : MachineInput)
  | Latched (reason : String)
  | Reported (reason : String)
deriving DecidableEq, Repr

/-- The delivery of the held input, and the acceptance that a Recording writes down, which
may fail once the machine has consumed it. -/
def deliver (routing : InputRouting M) (session : Session M) (recorded : Bool) : List Event × Session M :=
  match session.pending_network_input with
  | none => ([], { session with boundary := .Failure })
  | some input =>
    match routing.input_readiness session.machine input with
    | .error _ => ([], session.fail_session)
    | .ok .WouldBlock => ([], { session with boundary := .Failure })
    | .ok .Ready =>
      match routing.try_receive_input session.machine input with
      | (.error _, machine) => ([], fail_session { session with machine, pending_network_input := none })
      | (.ok .WouldBlock, machine) => ([], { session with machine, boundary := .Failure })
      | (.ok .Consumed, machine) =>
        if recorded then ([.Consumed input], { session with machine, pending_network_input := none, boundary := .Failure })
        else ([.Consumed input], fail_session { session with machine, pending_network_input := none })

/-- The load of `take_failure`. -/
def load_failure (session : Session M) : Session M :=
  if session.shared.failure_pending then { session with boundary := .TakeFailure }
  else { session with boundary := .Instruction }

/-- The section of `take_failure`, and what the runtime does with its answer. -/
def take_failure (session : Session M) : List Event × Session M :=
  let (failure, shared) := session.shared.acknowledge_failure
  let session := { session with shared, boundary := .Instruction }
  match failure with
  | some reason => ([.Reported reason], session.fail_network reason)
  | none => ([], session)

end Session

open Session

/-- One step of the worker or of the runtime: a section of a mutex up to its atomic
operation, an atomic operation, or an instruction of the machine. -/
inductive Step (routing : InputRouting M) : Session M → List Event → Session M → Prop where
  | push_received_frame (session) (bytes : List U8) (hidle : session.worker = .Idle) (hfree : session.rx_free) :
    Step routing session
      (if (session.shared.push_received_frame bytes).1 then [.Accepted bytes] else [])
      { session with
        worker := (session.shared.push_received_frame bytes).2.1
        shared := (session.shared.push_received_frame bytes).2.2 }
  | publish_frame (session) (hpublish : session.worker = .PublishFrame) :
    Step routing session [] { session with worker := .Idle, shared := session.shared.fetch_or RECEIVE_PENDING }
  | latch_failure (session) (reason : String) (hidle : session.worker = .Idle) :
    Step routing session [.Latched reason]
      { session with
        worker := (session.shared.latch_failure reason).1
        shared := (session.shared.latch_failure reason).2 }
  | publish_failure (session) (hpublish : session.worker = .PublishFailure) :
    Step routing session [] { session with worker := .Stop, shared := session.shared.fetch_or FAILURE_PENDING }
  | stop (session) (hstop : session.worker = .Stop) :
    Step routing session [] { session with worker := .Idle, shared := { session.shared with stopped := true } }
  | instruction (session) (machine : M) (hinstruction : session.boundary = .Instruction) :
    Step routing session [] { session with machine }
  | process_network_boundary (session) (hinstruction : session.boundary = .Instruction) :
    Step routing session [] session.process_network_boundary
  | load_receive (session) (hreceive : session.boundary = .Receive) : Step routing session [] session.load_receive
  | try_receive_frame (session) (hpop : session.boundary = .Pop) (hfree : session.rx_free) :
    Step routing session [] session.try_receive_frame
  | clear_receive (session) (frame : Option (List U8)) (hclear : session.boundary = .ClearReceive frame) :
    Step routing session []
      (hold { session with shared := session.shared.fetch_and (~~~RECEIVE_PENDING) } frame)
  | deliver (session) (recorded : Bool) (hdeliver : session.boundary = .Deliver) :
    Step routing session (session.deliver routing recorded).1 (session.deliver routing recorded).2
  | load_failure (session) (hfailure : session.boundary = .Failure) : Step routing session [] session.load_failure
  | take_failure (session) (htake : session.boundary = .TakeFailure) (hfree : session.failure_free) :
    Step routing session session.take_failure.1 session.take_failure.2

/-- A run of one session, with what it shows. -/
inductive Run (routing : InputRouting M) (machine : M) : List Event → Session M → Prop where
  | start : Run routing machine [] (Session.start machine)
  | step {trace events : List Event} {session next : Session M} :
    Run routing machine trace session → Step routing session events next → Run routing machine (trace ++ events) next

end se_runtime.network
