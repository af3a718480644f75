import SgiEmu.Board.Ethernet

open se_core se_device.hpc1 se_device.seeq8003

namespace se_device.hpc1

def EthernetRequest.is_write : EthernetRequest → Bool
  | .Write .. => true
  | _ => false

/-- The requests the attached controller is given. -/
def EthernetRequest.to_controller : EthernetRequest → Bool
  | .Transmit _ => true
  | .Underflow => true
  | _ => false

end se_device.hpc1

namespace se_machine.ip12

/-! ## The channel and the board around it

What moves a channel while the guest leaves its registers alone, whatever the
controller and the memory it is connected to answer. -/

inductive DmaEvent where
  /-- One request is served: by memory, or by the controller, which answers an
  underflow with a status at once. -/
  | Serve (transmitter_ready : Bool) (memory : U32 → Option U8) (accepted : Bool) (status : U8) (interrupt : Bool)
  | Advance (elapsed ticks : Nat)
  | ReceiveFrame (bytes : List U8) (status : U8) (interrupt_requested : Bool)
  /-- The controller is done with the packet it was handed. -/
  | CompleteTransmit (status : U8) (interrupt : Bool)

end se_machine.ip12

namespace se_device.hpc1.EthernetChannel

open se_machine.ip12

/-- The requests of a channel that is neither held in reset nor busy. -/
def ready_to_serve (channel : EthernetChannel) : Bool :=
  !channel.held_in_reset && channel.dma_delay_attoseconds == 0

/-- What a request is answered: by memory, or by the controller. -/
def answer (channel : EthernetChannel) (request : Option EthernetRequest) (memory : U32 → Option U8) (accepted : Bool)
    (status : U8) (interrupt : Bool) : EthernetChannel :=
  match request with
  | some (.Read address length kind) => channel.complete_read kind (read_dma memory address length)
  | some (.Write _ bytes kind) => channel.complete_write kind bytes.length accepted
  | some .Underflow => channel.complete_transmit status interrupt
  | some (.Transmit _) | none => channel

def serve (channel : EthernetChannel) (transmitter_ready : Bool) (memory : U32 → Option U8) (accepted : Bool)
    (status : U8) (interrupt : Bool) : Option EthernetRequest × EthernetChannel :=
  let (request, channel) := channel.next_request transmitter_ready
  (request, channel.answer request memory accepted status interrupt)

/-- One event, with the request it serves. -/
def dma_step (channel : EthernetChannel) : DmaEvent → Option EthernetRequest × EthernetChannel
  | .Serve transmitter_ready memory accepted status interrupt =>
    channel.serve transmitter_ready memory accepted status interrupt
  | .Advance elapsed ticks => (none, channel.advance_time elapsed ticks)
  | .ReceiveFrame bytes status interrupt_requested =>
    (none, channel.accept_receive_frame bytes status interrupt_requested)
  | .CompleteTransmit status interrupt =>
    (none, if channel.transmit_inflight.isSome then channel.complete_transmit status interrupt else channel)

/-- Whether an event serves the channel while it has time for a request. -/
def serves (channel : EthernetChannel) : DmaEvent → Bool
  | .Serve .. => channel.ready_to_serve
  | _ => false

end se_device.hpc1.EthernetChannel

namespace se_machine.ip12.EthernetPath

/-- The board serves its channel's requests so. -/
theorem service_ethernet_request_serve {path next : EthernetPath} {memory : U32 → Option U8} {accepted : Bool}
    (h : path.service_ethernet_request memory accepted = some next) :
    let reported := path.seeq8003.transmit_underflow
    next.hpc1 = (path.hpc1.serve path.seeq8003.transmit_ready memory accepted reported.acknowledge_transmit.1
      reported.transmit_interrupt).2 := by
  intro reported
  unfold service_ethernet_request at h
  unfold EthernetChannel.serve
  generalize path.hpc1.next_request path.seeq8003.transmit_ready = asked at h ⊢
  obtain ⟨request, hpc1⟩ := asked
  cases request with
  | none =>
    obtain rfl := Option.some.inj h
    rfl
  | some request =>
    cases request with
    | Read address length kind =>
      obtain rfl := Option.some.inj h
      rfl
    | Write address bytes kind =>
      obtain rfl := Option.some.inj h
      rfl
    | Underflow =>
      obtain rfl := Option.some.inj h
      rfl
    | Transmit frame =>
      dsimp only at h
      split at h
      · obtain rfl := Option.some.inj h
        rfl
      · cases h

end se_machine.ip12.EthernetPath
