import SgiEmu.Device.Wd33c93b
import SgiEmu.Device.Scsi.Phase

open se_core se_device.scsi se_device.wd33c93b

namespace se_machine.ip12

/-- The part of a DMA window the controller sees. -/
structure DmaWindow where
  byte_count : Nat
  to_memory : Bool
deriving DecidableEq, Repr

/-- The board's DMA engine as the SCSI transfers use it. -/
structure DmaEngine (δ : Type) where
  next_window : δ → Option DmaWindow × δ
  /-- Writes a chunk to the window's buffer and consumes its bytes. -/
  store : δ → List U8 → Bool × δ
  /-- Reads a chunk from the window's buffer. -/
  load : δ → Nat → Option (List U8) × δ
  consume : δ → Nat → Bool × δ
  finish : δ → δ
  stop : δ → δ

/-- How servicing a request or moving a payload can fail. -/
inductive ScsiFault where
  | Controller (fault : WdFault)
  /-- An assertion of the board on the data-out path. -/
  | Assertion
deriving DecidableEq, Repr

/-- The SCSI side of the board: controller, bus, latched request and DMA engine. -/
structure ScsiPath (τ μ δ : Type) where
  wd : Wd33c93b
  bus : ScsiBus τ μ
  pending : Option WdRequest
  engine : δ

namespace ScsiPath

variable {τ μ δ : Type} [ScsiTarget τ] [StorageMedium μ] (dma : DmaEngine δ)

/-! ## Payload transfers -/

def stop_scsi_dma (path : ScsiPath τ μ δ) : ScsiPath τ μ δ := { path with engine := dma.stop path.engine }

/-- Ends a window. The source stops the DMA where the controller fails, which here
ends the run. -/
def finish_scsi_dma_window (path : ScsiPath τ μ δ) (status : Option ScsiStatus) :
    Except ScsiFault (ScsiPath τ μ δ) :=
  match path.wd.finish_dma path.bus status with
  | .error fault => .error (.Controller fault)
  | .ok (wd, bus) => .ok { path with wd, bus, engine := dma.finish path.engine }

/-- Accepts a chunk of a Data In transfer: memory and DMA engine first, then the
controller's counter. -/
def accept_data_in (bytes : List U8) (state : δ × Wd33c93b) : Bool × δ × Wd33c93b :=
  match dma.store state.1 bytes with
  | (false, engine) => (false, engine, state.2)
  | (true, engine) =>
    match state.2.consume_transfer_bytes bytes.length with
    | none => (false, engine, state.2)
    | some wd => (true, engine, wd)

/-- Moves Data In chunks. Every chunk but the last has a byte, so that as many turns
as bytes remain are enough. -/
def transfer_scsi_data_in : (turns : Nat) → ScsiPath τ μ δ → (wd_bytes_remaining : Nat) →
    Except ScsiFault (ScsiPath τ μ δ)
  | 0, path, _ => .ok path
  | turns + 1, path, wd_bytes_remaining =>
    match dma.next_window path.engine with
    | (none, engine) => .ok { path with engine }
    | (some window, engine) =>
      let path := { path with engine }
      if !window.to_memory then .ok (path.stop_scsi_dma dma)
      else
        match path.bus.transfer_data_in (min window.byte_count wd_bytes_remaining) (accept_data_in dma)
            (path.engine, path.wd) with
        | (.error _, bus, engine, wd) => .ok ({ path with bus, engine, wd }.stop_scsi_dma dma)
        | (.ok .Rejected, bus, engine, wd) => .ok ({ path with bus, engine, wd }.stop_scsi_dma dma)
        | (.ok (.More transferred _), bus, engine, wd) =>
          let path := { path with bus, engine, wd }
          if wd_bytes_remaining - transferred = 0 then path.finish_scsi_dma_window dma none
          else transfer_scsi_data_in turns path (wd_bytes_remaining - transferred)
        | (.ok (.Complete _ status), bus, engine, wd) =>
          { path with bus, engine, wd }.finish_scsi_dma_window dma (some status)

/-- Takes delivered bytes off the counters, which have them. -/
def advance_scsi_data_out (path : ScsiPath τ μ δ) (transferred : Nat) : Except ScsiFault (ScsiPath τ μ δ) :=
  match dma.consume path.engine transferred with
  | (false, _) => .error .Assertion
  | (true, engine) =>
    match path.wd.consume_transfer_bytes transferred with
    | none => .error .Assertion
    | some wd => .ok { path with engine, wd }

def transfer_scsi_data_out : (turns : Nat) → ScsiPath τ μ δ → (wd_bytes_remaining : Nat) →
    Except ScsiFault (ScsiPath τ μ δ)
  | 0, path, _ => .ok path
  | turns + 1, path, wd_bytes_remaining =>
    match dma.next_window path.engine with
    | (none, engine) => .ok { path with engine }
    | (some window, engine) =>
      let path := { path with engine }
      if window.to_memory then .ok (path.stop_scsi_dma dma)
      else
        match path.bus.transfer_data_out (min window.byte_count wd_bytes_remaining)
            (fun byte_count engine => dma.load engine byte_count) path.engine with
        | (.error _, bus, engine) => .ok ({ path with bus, engine }.stop_scsi_dma dma)
        | (.ok .Rejected, bus, engine) => .ok ({ path with bus, engine }.stop_scsi_dma dma)
        | (.ok (.More transferred _), bus, engine) =>
          match { path with bus, engine }.advance_scsi_data_out dma transferred with
          | .error fault => .error fault
          | .ok path =>
            if wd_bytes_remaining < transferred then .error .Assertion
            else if wd_bytes_remaining - transferred = 0 then path.finish_scsi_dma_window dma none
            else transfer_scsi_data_out turns path (wd_bytes_remaining - transferred)
        | (.ok (.Complete transferred status), bus, engine) =>
          if transferred = 0 then { path with bus, engine }.finish_scsi_dma_window dma (some status)
          else
            match { path with bus, engine }.advance_scsi_data_out dma transferred with
            | .error fault => .error fault
            | .ok path => path.finish_scsi_dma_window dma (some status)

def transfer_scsi_data (path : ScsiPath τ μ δ) (direction : ScsiDataDirection) (wd_bytes_remaining : Nat) :
    Except ScsiFault (ScsiPath τ μ δ) :=
  if wd_bytes_remaining = 0 then path.finish_scsi_dma_window dma none
  else
    match direction with
    | .In => transfer_scsi_data_in dma wd_bytes_remaining path wd_bytes_remaining
    | .Out => transfer_scsi_data_out dma wd_bytes_remaining path wd_bytes_remaining

def transfer_active_scsi_data (path : ScsiPath τ μ δ) (wd_bytes_remaining : Nat) : Except ScsiFault (ScsiPath τ μ δ) :=
  match path.bus.active_data_direction with
  | some direction => path.transfer_scsi_data dma direction wd_bytes_remaining
  | none => .ok (path.stop_scsi_dma dma)

/-! ## Events -/

/-- Latches the request of a register access, and answers a software reset. -/
def handle_scsi_register_write (path : ScsiPath τ μ δ) : ScsiPath τ μ δ :=
  let completed := path.wd.take_reset_completion
  let path := { path with wd := completed.2 }
  let path := if completed.1 then { path with pending := none, bus := path.bus.cancel_transaction } else path
  match path.wd.take_request with
  | (none, _) => path
  | (some request, wd) => { path with wd, pending := some request }

def process_scsi_event (path : ScsiPath τ μ δ) : Except ScsiFault (ScsiPath τ μ δ) :=
  match path.pending with
  | none => .ok path
  | some request =>
    match path.wd.service_request request path.bus with
    | .error fault => .error (.Controller fault)
    | .ok (.Idle, wd, bus) => .ok { path with wd, bus, pending := none }
    | .ok (.Dma direction byte_count, wd, bus) =>
      { path with wd, bus, pending := none }.transfer_scsi_data dma direction byte_count
    | .ok (.SelectionWait _, wd, bus) =>
      .ok { path with wd := wd.take_request.2, bus, pending := wd.take_request.1 }

/-- What reaches the SCSI side of the board: register accesses of the guest, the
scheduled SCSI event, accesses to the DMA engine, and the reset of the channel. -/
inductive ScsiEvent (δ : Type) where
  | ReadPort (port : Port)
  | WritePort (port : Port) (value : U8)
  | Service
  | AccessEngine (access : δ → δ)
  | ResetChannel

/-- The transfer an access to the DMA engine resumes. -/
def handle_hpc1_outputs (path : ScsiPath τ μ δ) : Except ScsiFault (ScsiPath τ μ δ) :=
  if path.wd.dma_pending then path.transfer_active_scsi_data dma path.wd.remaining_transfer_bytes else .ok path

def step (path : ScsiPath τ μ δ) : ScsiEvent δ → Except ScsiFault (ScsiPath τ μ δ)
  | .ReadPort port => .ok { path with wd := (path.wd.read_port port).2 }.handle_scsi_register_write
  | .WritePort port value =>
    match path.wd.write port value with
    | none => .ok path
    | some wd => .ok { path with wd }.handle_scsi_register_write
  | .Service => path.process_scsi_event dma
  | .AccessEngine access => { path with engine := access path.engine }.handle_hpc1_outputs dma
  | .ResetChannel => .ok { path with wd := path.wd.reset, pending := none, bus := path.bus.cancel_transaction }

def run (path : ScsiPath τ μ δ) : List (ScsiEvent δ) → Except ScsiFault (ScsiPath τ μ δ)
  | [] => .ok path
  | event :: events =>
    match path.step dma event with
    | .error fault => .error fault
    | .ok path => path.run events

/-- A constructed board with the given targets. -/
def new (clock_hz : Nat) (targets : Vector (Option (TargetAttachment τ μ)) TARGET_SLOT_COUNT) (engine : δ) :
    ScsiPath τ μ δ :=
  { wd := Wd33c93b.new clock_hz, bus := ScsiBus.with_targets targets, pending := none, engine }

end ScsiPath

end se_machine.ip12
