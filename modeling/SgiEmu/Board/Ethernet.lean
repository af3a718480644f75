import SgiEmu.Device.Hpc1.Ethernet
import SgiEmu.Device.Seeq8003

open se_core se_device.hpc1 se_device.seeq8003

namespace se_machine.ip12

/-! ## The Ethernet path

The HPC1 channel and the controller it feeds, with the board wiring that carries
requests, completions and the reset level between them. -/

structure EthernetPath where
  hpc1 : EthernetChannel
  seeq8003 : Seeq8003
deriving DecidableEq, Repr

/-- Everything that moves the path: guest register accesses, a frame arriving,
the passage of time on either chip, and one serviced request, for which local
memory answers a byte read with `none` where it faults and a write with `accepted`. -/
inductive EthernetEvent where
  | WriteTransmitStatus (offset : Nat) (data : List U8)
  | WriteControl (offset : Nat) (data : List U8)
  | WriteTransmitRegister (register : EthernetChannel.TransmitRegister) (offset : Nat) (data : List U8)
  | WriteReceiveStatus (offset : Nat) (data : List U8)
  | WriteReceiveRegister (register : EthernetChannel.ReceiveRegister) (offset : Nat) (data : List U8)
  | WriteTimer (value : U32)
  | WriteTransmitCommand (value : U8)
  | ReadTransmitStatus
  | ReceiveFrame (bytes : List U8) (status : U8) (interrupt : Bool)
  | AdvanceHpc1 (elapsed ticks : Nat)
  | AdvanceController (elapsed : Nat)
  | Service (memory : U32 → Option U8) (accepted : Bool)

/-- The bytes of one DMA read, or its fault. -/
def read_dma (memory : U32 → Option U8) (address : U32) (length : Nat) : Option (List U8) :=
  (List.range length).mapM fun index => memory (address + BitVec.ofNat 32 index)

namespace EthernetPath

def new : EthernetPath := { hpc1 := .new, seeq8003 := .new }

/-- The channel's reset output drives the controller's reset input. -/
def handle_hpc1_outputs (path : EthernetPath) : EthernetPath :=
  if path.hpc1.reset_output_pending then
    { hpc1 := { path.hpc1 with reset_output_pending := false }, seeq8003 := .new }
  else path

/-- Hands a finished transmission's status back to the channel. -/
def complete_transmit (path : EthernetPath) : EthernetPath :=
  let interrupt := path.seeq8003.transmit_interrupt
  let acknowledged := path.seeq8003.acknowledge_transmit
  { hpc1 := path.hpc1.complete_transmit acknowledged.1 interrupt, seeq8003 := acknowledged.2 }

/-- Takes a finished frame off the controller and completes its descriptor. -/
def transfer_ethernet_signals (path : EthernetPath) : EthernetPath :=
  match path.seeq8003.take_transmitted_frame with
  | (none, _) => path
  | (some _, seeq8003) => complete_transmit { path with seeq8003 }

/-- Services at most one request; `none` where the board's assertion fails. -/
def service_ethernet_request (path : EthernetPath) (memory : U32 → Option U8) (accepted : Bool) :
    Option EthernetPath :=
  match path.hpc1.next_request path.seeq8003.transmit_ready with
  | (none, hpc1) => some { path with hpc1 }
  | (some (.Read address length kind), hpc1) =>
    some { path with hpc1 := hpc1.complete_read kind (read_dma memory address length) }
  | (some (.Write _ bytes kind), hpc1) =>
    some { path with hpc1 := hpc1.complete_write kind bytes.length accepted }
  | (some (.Transmit frame), hpc1) =>
    match path.seeq8003.transmit frame with
    | (true, seeq8003) => some { hpc1, seeq8003 }
    | (false, _) => none
  | (some .Underflow, hpc1) => some (complete_transmit { hpc1, seeq8003 := path.seeq8003.transmit_underflow })

def step (path : EthernetPath) : EthernetEvent → Option EthernetPath
  | .WriteTransmitStatus offset data => some { path with hpc1 := path.hpc1.write_transmit_status offset data }
  | .WriteControl offset data => some (handle_hpc1_outputs { path with hpc1 := path.hpc1.write_control offset data })
  | .WriteTransmitRegister register offset data =>
    some { path with hpc1 := path.hpc1.write_transmit_register register offset data }
  | .WriteReceiveStatus offset data => some { path with hpc1 := path.hpc1.write_receive_status offset data }
  | .WriteReceiveRegister register offset data =>
    some { path with hpc1 := path.hpc1.write_receive_register register offset data }
  | .WriteTimer value => some { path with hpc1 := path.hpc1.write_timer value }
  | .WriteTransmitCommand value => some { path with seeq8003 := { path.seeq8003 with transmit_command := value } }
  | .ReadTransmitStatus => some { path with seeq8003 := path.seeq8003.acknowledge_transmit.2 }
  | .ReceiveFrame bytes status interrupt =>
    some { path with hpc1 := path.hpc1.accept_receive_frame bytes status interrupt }
  | .AdvanceHpc1 elapsed ticks => some { path with hpc1 := path.hpc1.advance_time elapsed ticks }
  | .AdvanceController elapsed =>
    some (transfer_ethernet_signals { path with seeq8003 := path.seeq8003.advance_time elapsed })
  | .Service memory accepted => path.service_ethernet_request memory accepted

end EthernetPath

end se_machine.ip12
