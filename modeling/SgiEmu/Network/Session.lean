import SgiEmu.Network.Queue

open se_core se_network.queue

namespace se_network.session

def RECEIVE_PENDING : U8 := 1#8
def FAILURE_PENDING : U8 := 2#8

/-- What the worker and the runtime share: the receive queue and the terminal failure
behind their mutexes, and the readiness bits of both in one atomic word. The transmit
queue has its own mutex and no readiness bit. -/
structure Shared where
  rx : FrameQueue
  failure : Option String
  pending : U8
  stopped : Bool
deriving DecidableEq, Repr

namespace Shared

def default : Shared := { rx := .default, failure := none, pending := 0, stopped := false }

/-! ## Atomic operations -/

def fetch_or (shared : Shared) (bits : U8) : Shared := { shared with pending := shared.pending ||| bits }

def fetch_and (shared : Shared) (bits : U8) : Shared := { shared with pending := shared.pending &&& bits }

/-- `NetworkSession::has_pending_work`. -/
def has_pending_work (shared : Shared) : Bool := shared.pending != 0

def receive_pending (shared : Shared) : Bool := shared.pending &&& RECEIVE_PENDING != 0

def failure_pending (shared : Shared) : Bool := shared.pending &&& FAILURE_PENDING != 0

theorem fetch_or_receive (shared : Shared) : (shared.fetch_or RECEIVE_PENDING).receive_pending = true ∧
    (shared.fetch_or RECEIVE_PENDING).failure_pending = shared.failure_pending := by
  simp only [fetch_or, receive_pending, failure_pending]
  generalize shared.pending = pending
  revert pending
  decide

theorem fetch_or_failure (shared : Shared) : (shared.fetch_or FAILURE_PENDING).failure_pending = true ∧
    (shared.fetch_or FAILURE_PENDING).receive_pending = shared.receive_pending := by
  simp only [fetch_or, receive_pending, failure_pending]
  generalize shared.pending = pending
  revert pending
  decide

theorem fetch_and_receive (shared : Shared) : (shared.fetch_and (~~~RECEIVE_PENDING)).receive_pending = false ∧
    (shared.fetch_and (~~~RECEIVE_PENDING)).failure_pending = shared.failure_pending := by
  simp only [fetch_and, receive_pending, failure_pending]
  generalize shared.pending = pending
  revert pending
  decide

theorem fetch_and_failure (shared : Shared) : (shared.fetch_and (~~~FAILURE_PENDING)).failure_pending = false ∧
    (shared.fetch_and (~~~FAILURE_PENDING)).receive_pending = shared.receive_pending := by
  simp only [fetch_and, receive_pending, failure_pending]
  generalize shared.pending = pending
  revert pending
  decide

/-- A set bit makes the runtime look. -/
theorem has_pending_work_of_failure {shared : Shared} (h : shared.failure_pending = true) :
    shared.has_pending_work = true := by
  unfold failure_pending at h
  unfold has_pending_work
  generalize shared.pending = pending at h ⊢
  revert pending
  decide

end Shared

/-! ## The worker -/

/-- Where the worker stands: outside its sections, or inside one with the operations
that remain before it releases the mutex. -/
inductive WorkerSection where
  | Idle
  /-- In `push_received_frame`, holding `rx`, before the `fetch_or`. -/
  | PublishFrame
  /-- In `latch_failure`, holding `failure`, before the `fetch_or`. -/
  | PublishFailure
  /-- In `latch_failure`, holding `failure`, before `stopped` is stored. -/
  | Stop
deriving DecidableEq, Repr

namespace Shared

/-- `push_received_frame` up to its `fetch_or`. -/
def push_received_frame (shared : Shared) (bytes : List U8) : Bool × WorkerSection × Shared :=
  let was_empty := shared.rx.is_empty
  let (accepted, rx) := shared.rx.push bytes
  (accepted, if accepted && was_empty then .PublishFrame else .Idle, { shared with rx })

/-- `latch_failure` up to its `fetch_or`. -/
def latch_failure (shared : Shared) (reason : String) : WorkerSection × Shared :=
  if shared.failure.isNone then (.PublishFailure, { shared with failure := some reason }) else (.Stop, shared)

/-- The section of `try_receive_frame` up to the test that may clear its bit. -/
def pop_received_frame (shared : Shared) : Option (List U8) × Shared :=
  let (frame, rx) := shared.rx.pop
  (frame, { shared with rx })

/-- The section of `take_failure`, whose one atomic operation decides it. -/
def acknowledge_failure (shared : Shared) : Option String × Shared :=
  (if shared.failure_pending then shared.failure else none, shared.fetch_and (~~~FAILURE_PENDING))

end Shared

end se_network.session
