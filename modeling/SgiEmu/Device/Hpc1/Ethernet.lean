import SgiEmu.Core.Time
import SgiEmu.Device.Register

open se_core se_core.time

namespace se_device.hpc1

def ETHERNET_CURRENT_BUFFER_POINTER_MASK : U32 := 0x8fffffff#32
def ETHERNET_ADDRESS_MASK : U32 := 0x0fffffff#32
def ETHERNET_TRANSMIT_BYTE_COUNT_MASK : U32 := 0x80009fff#32
def ETHERNET_BYTE_COUNT_MASK : U32 := 0x00001fff#32
def ETHERNET_RESET_CHANNEL : U32 := 0x01#32
def ETHERNET_TRANSMIT_STATUS_BITS : U32 := 0x00ff0000#32
def ETHERNET_RECEIVE_STATUS_BITS : U32 := 0x0000ff00#32
def ETHERNET_CONTROL_BITS : U32 := 0x0f#32
def ETHERNET_TIMER_COUNT_MASK : U32 := 0x00fffff0#32
def ETHERNET_TIMER_EXPIRED : U32 := 0x01000000#32
def ETHERNET_TIMER_COUNT_SHIFT : Nat := 4
def ETHERNET_TRANSMIT_ACTIVE : U32 := 0x00400000#32
def ETHERNET_TRANSMIT_SUCCESS : U32 := 0x00080000#32
def ETHERNET_RECEIVE_ACTIVE : U32 := 0x00004000#32
def ETHERNET_TRANSMIT_END_OF_PACKET : U32 := 1#32 <<< 31
def ETHERNET_RECEIVE_OWNED : U32 := 1#32 <<< 31
def ETHERNET_BUFFER_END_OF_CHAIN : U32 := 1#32 <<< 31
def ETHERNET_TRANSMIT_INTERRUPT_ENABLE : U32 := 0x8000#32
def ETHERNET_INTERRUPT : U32 := 0x02#32
def ETHERNET_LOOPBACK_DISABLE : U32 := 0x04#32
def ETHERNET_OVERFLOW : U32 := 0x08#32

def HPC_CLOCK_FREQUENCY : Nat := 33000000
def MAX_ETHERNET_FRAME_BYTES : Nat := 16384

/-- One DMA cycle rounded up to whole attoseconds. -/
def ETHERNET_DMA_CYCLE_ATTOSECONDS : Nat :=
  (ATTOSECONDS_PER_SECOND + HPC_CLOCK_FREQUENCY - 1) / HPC_CLOCK_FREQUENCY

inductive EthernetReadKind where
  | TransmitDescriptor
  | TransmitData
  | ReceiveDescriptor
deriving DecidableEq, Repr

inductive EthernetWriteKind where
  | ReceiveData
  | ReceiveCompletion
deriving DecidableEq, Repr

/-- One bounded operation requested by the Ethernet DMA controller. -/
inductive EthernetRequest where
  | Read (address : U32) (length : Nat) (kind : EthernetReadKind)
  | Write (address : U32) (bytes : List U8) (kind : EthernetWriteKind)
  | Transmit (frame : List U8)
  | Underflow
deriving DecidableEq, Repr

inductive EthernetTxStage where
  | Idle
  | Descriptor
  | Data
  | Send
  | Wire
  | Fault
deriving DecidableEq, Repr

inductive EthernetRxStage where
  | Idle
  | Descriptor
  | Data
  | Completion
deriving DecidableEq, Repr

/-- Descriptor signals belonging to the packet already submitted to the controller. -/
structure EthernetTransmitContext where
  first_descriptor : U32
  next_descriptor : U32
  end_of_chain : Bool
  interrupt_requested : Bool
  dma_attached : Bool
deriving DecidableEq, Repr

/-- Ethernet register state and in-flight descriptor progress. The diagnostic
FIFO, which no DMA decision reads, is left out. -/
structure EthernetChannel where
  transmit_stage : EthernetTxStage
  transmit_inflight : Option EthernetTransmitContext
  receive_stage : EthernetRxStage
  transmit_frame : List U8
  receive_frame : List U8
  receive_offset : Nat
  receive_interrupt_requested : Bool
  receive_overflow : Bool
  transmit_end_of_packet : Bool
  transmit_end_of_chain : Bool
  transmit_interrupt_requested : Bool
  transmit_first_descriptor : Bool
  receive_end_of_ring : Bool
  dma_delay_attoseconds : Nat
  transmit_interrupt_delay_attoseconds : Option Nat
  receive_interrupt_waiting : Bool
  prefer_receive : Bool
  current_transmit_buffer_pointer : U32
  next_transmit_descriptor_pointer : U32
  transmit_byte_count : U32
  current_transmit_descriptor_pointer : U32
  current_packet_first_transmit_descriptor_pointer : U32
  previous_packet_first_transmit_descriptor_pointer : U32
  timer_count : Nat
  timer_expired : Bool
  transmit_status : U32
  receive_status : U32
  control : U32
  receive_byte_count : U32
  current_receive_buffer_pointer : U32
  next_receive_descriptor_pointer : U32
  current_receive_descriptor_pointer : U32
  reset_output_pending : Bool
deriving DecidableEq, Repr

namespace EthernetChannel

def new : EthernetChannel :=
  { transmit_stage := .Idle, transmit_inflight := none, receive_stage := .Idle, transmit_frame := []
    receive_frame := [], receive_offset := 0, receive_interrupt_requested := false, receive_overflow := false
    transmit_end_of_packet := false, transmit_end_of_chain := false, transmit_interrupt_requested := false
    transmit_first_descriptor := true, receive_end_of_ring := false, dma_delay_attoseconds := 0
    transmit_interrupt_delay_attoseconds := none, receive_interrupt_waiting := false, prefer_receive := false
    current_transmit_buffer_pointer := 0, next_transmit_descriptor_pointer := 0, transmit_byte_count := 0
    current_transmit_descriptor_pointer := 0, current_packet_first_transmit_descriptor_pointer := 0
    previous_packet_first_transmit_descriptor_pointer := 0, timer_count := 0, timer_expired := false
    transmit_status := 0, receive_status := 0, control := 0, receive_byte_count := 0
    current_receive_buffer_pointer := 0, next_receive_descriptor_pointer := 0
    current_receive_descriptor_pointer := 0, reset_output_pending := false }

def transmit_active (channel : EthernetChannel) : Bool :=
  channel.transmit_status &&& ETHERNET_TRANSMIT_ACTIVE != 0

def receive_active (channel : EthernetChannel) : Bool :=
  channel.receive_status &&& ETHERNET_RECEIVE_ACTIVE != 0

/-- The reset level the guest holds the channel in. -/
def held_in_reset (channel : EthernetChannel) : Bool := channel.control &&& ETHERNET_RESET_CHANNEL != 0

def reset_data_path (channel : EthernetChannel) : EthernetChannel := { new with control := channel.control }

/-! ## Register writes -/

def write_timer (channel : EthernetChannel) (value : U32) : EthernetChannel :=
  let timer_count := ((value &&& ETHERNET_TIMER_COUNT_MASK) >>> ETHERNET_TIMER_COUNT_SHIFT).toNat
  { channel with
    timer_count
    timer_expired := value &&& ETHERNET_TIMER_EXPIRED != 0 || timer_count == 0 }

def advance_timer (channel : EthernetChannel) (ticks : Nat) : EthernetChannel :=
  if channel.timer_expired || channel.timer_count == 0 then channel
  else if channel.timer_count ≤ ticks then { channel with timer_count := 0, timer_expired := true }
  else { channel with timer_count := channel.timer_count - ticks }

/-- A STOP detaches the packet on the wire; a START restarts an idle channel. -/
def write_transmit_status (channel : EthernetChannel) (offset : Nat) (data : List U8) : EthernetChannel :=
  let channel :=
    { channel with
      transmit_status := masked_write channel.transmit_status offset data ETHERNET_TRANSMIT_STATUS_BITS }
  if !channel.transmit_active then
    { channel with
      transmit_inflight := channel.transmit_inflight.map fun context => { context with dma_attached := false }
      transmit_stage := .Idle
      transmit_frame := [] }
  else if channel.transmit_stage = .Idle then
    { channel with transmit_first_descriptor := true, transmit_stage := .Descriptor }
  else channel

def write_receive_status (channel : EthernetChannel) (offset : Nat) (data : List U8) : EthernetChannel :=
  let channel :=
    { channel with receive_status := masked_write channel.receive_status offset data ETHERNET_RECEIVE_STATUS_BITS }
  if !channel.receive_active then { channel with receive_stage := .Idle, receive_frame := [] } else channel

def write_control (channel : EthernetChannel) (offset : Nat) (data : List U8) : EthernetChannel :=
  let old_control := channel.control
  let control :=
    if offset + data.length = 4 then
      let value := masked_write 0 offset data ETHERNET_CONTROL_BITS
      (old_control &&& ~~~(value &&& (ETHERNET_INTERRUPT ||| ETHERNET_OVERFLOW))
          &&& ~~~(ETHERNET_RESET_CHANNEL ||| ETHERNET_LOOPBACK_DISABLE))
        ||| (value &&& (ETHERNET_RESET_CHANNEL ||| ETHERNET_LOOPBACK_DISABLE))
    else old_control
  let channel := { channel with control }
  if old_control &&& ETHERNET_RESET_CHANNEL = 0 ∧ channel.held_in_reset then
    { channel.reset_data_path with reset_output_pending := true }
  else channel

/-- The plain registers of the transmit side, each stored under its own mask. -/
inductive TransmitRegister where
  | CurrentBufferPointer
  | NextDescriptorPointer
  | ByteCount
  | CurrentDescriptorPointer
  | CurrentPacketFirstDescriptorPointer
  | PreviousPacketFirstDescriptorPointer
deriving DecidableEq, Repr

def write_transmit_register (channel : EthernetChannel) (register : TransmitRegister) (offset : Nat)
    (data : List U8) : EthernetChannel :=
  match register with
  | .CurrentBufferPointer =>
    { channel with
      current_transmit_buffer_pointer :=
        masked_write channel.current_transmit_buffer_pointer offset data ETHERNET_CURRENT_BUFFER_POINTER_MASK }
  | .NextDescriptorPointer =>
    { channel with
      next_transmit_descriptor_pointer :=
        masked_write channel.next_transmit_descriptor_pointer offset data ETHERNET_ADDRESS_MASK }
  | .ByteCount =>
    { channel with
      transmit_byte_count := masked_write channel.transmit_byte_count offset data ETHERNET_TRANSMIT_BYTE_COUNT_MASK }
  | .CurrentDescriptorPointer =>
    { channel with
      current_transmit_descriptor_pointer :=
        masked_write channel.current_transmit_descriptor_pointer offset data ETHERNET_ADDRESS_MASK }
  | .CurrentPacketFirstDescriptorPointer =>
    { channel with
      current_packet_first_transmit_descriptor_pointer :=
        masked_write channel.current_packet_first_transmit_descriptor_pointer offset data ETHERNET_ADDRESS_MASK }
  | .PreviousPacketFirstDescriptorPointer =>
    { channel with
      previous_packet_first_transmit_descriptor_pointer :=
        masked_write channel.previous_packet_first_transmit_descriptor_pointer offset data ETHERNET_ADDRESS_MASK }

/-- The plain registers of the receive side. -/
inductive ReceiveRegister where
  | ByteCount
  | CurrentBufferPointer
  | NextDescriptorPointer
  | CurrentDescriptorPointer
deriving DecidableEq, Repr

def write_receive_register (channel : EthernetChannel) (register : ReceiveRegister) (offset : Nat)
    (data : List U8) : EthernetChannel :=
  match register with
  | .ByteCount =>
    { channel with receive_byte_count := masked_write channel.receive_byte_count offset data ETHERNET_BYTE_COUNT_MASK }
  | .CurrentBufferPointer =>
    { channel with
      current_receive_buffer_pointer :=
        masked_write channel.current_receive_buffer_pointer offset data ETHERNET_CURRENT_BUFFER_POINTER_MASK }
  | .NextDescriptorPointer =>
    { channel with
      next_receive_descriptor_pointer :=
        masked_write channel.next_receive_descriptor_pointer offset data ETHERNET_ADDRESS_MASK }
  | .CurrentDescriptorPointer =>
    { channel with
      current_receive_descriptor_pointer :=
        masked_write channel.current_receive_descriptor_pointer offset data ETHERNET_ADDRESS_MASK }

/-! ## Requests -/

/-- Accepts one completed controller receive transfer, or drops it. -/
def accept_receive_frame (channel : EthernetChannel) (bytes : List U8) (status : U8) (interrupt_requested : Bool) :
    EthernetChannel :=
  let channel :=
    { channel with
      receive_status := (channel.receive_status &&& ETHERNET_RECEIVE_ACTIVE) ||| (status.setWidth 32 <<< 8) }
  if !channel.receive_active || channel.receive_stage != .Idle || MAX_ETHERNET_FRAME_BYTES < bytes.length
      || channel.held_in_reset then
    channel
  else
    { channel with
      receive_frame := bytes ++ [status]
      receive_offset := 0
      receive_interrupt_requested := interrupt_requested
      receive_overflow := false
      receive_stage := .Descriptor }

/-- The receive request of the present stage; `again` is the call an exhausted
buffer makes for its completion. -/
def receive_request_from (again : EthernetChannel → Option EthernetRequest × EthernetChannel)
    (channel : EthernetChannel) : Option EthernetRequest × EthernetChannel :=
  if !channel.receive_active then (none, { channel with receive_stage := .Idle })
  else
    match channel.receive_stage with
    | .Idle => (none, channel)
    | .Descriptor => (some (.Read channel.next_receive_descriptor_pointer 12 .ReceiveDescriptor), channel)
    | .Data =>
      let length := min (min channel.receive_byte_count.toNat 32) (channel.receive_frame.length - channel.receive_offset)
      if length = 0 then
        again
          { channel with
            receive_overflow := channel.receive_offset < channel.receive_frame.length
            receive_stage := .Completion }
      else
        (some (.Write (channel.current_receive_buffer_pointer &&& ETHERNET_ADDRESS_MASK)
          ((channel.receive_frame.drop channel.receive_offset).take length) .ReceiveData), channel)
    | .Completion =>
      (some (.Write channel.current_receive_descriptor_pointer
        (to_be_bytes (channel.receive_byte_count &&& ETHERNET_BYTE_COUNT_MASK)).toList .ReceiveCompletion), channel)

def receive_request (channel : EthernetChannel) : Option EthernetRequest × EthernetChannel :=
  receive_request_from (receive_request_from fun channel => (none, channel)) channel

/-- Where an exhausted transmit buffer leads, with the interrupt it raises. -/
def leave_data (channel : EthernetChannel) : EthernetChannel :=
  { channel with
    transmit_stage :=
      if channel.transmit_end_of_packet then .Send else if channel.transmit_end_of_chain then .Fault else .Descriptor
    transmit_interrupt_delay_attoseconds :=
      if channel.transmit_interrupt_requested && !channel.transmit_end_of_packet then
        some ETHERNET_DMA_CYCLE_ATTOSECONDS
      else channel.transmit_interrupt_delay_attoseconds }

def transmit_length (channel : EthernetChannel) : Nat :=
  min (channel.transmit_byte_count &&& ETHERNET_BYTE_COUNT_MASK).toNat 32

/-- The transmit request of the present stage; `again` is the call an exhausted
buffer makes for the stage it leads to. -/
def transmit_request_from (ready : Bool) (again : EthernetChannel → Option EthernetRequest × EthernetChannel)
    (channel : EthernetChannel) : Option EthernetRequest × EthernetChannel :=
  -- a restarted channel waits for the existing controller transaction
  if channel.transmit_inflight.isSome then (none, channel)
  else if channel.transmit_stage = .Fault then (some .Underflow, { channel with transmit_stage := .Idle })
  else if !channel.transmit_active then (none, channel)
  else
    match channel.transmit_stage with
    | .Idle | .Wire | .Fault => (none, channel)
    | .Descriptor => (some (.Read channel.next_transmit_descriptor_pointer 12 .TransmitDescriptor), channel)
    | .Data =>
      if channel.transmit_length = 0 then again channel.leave_data
      else
        (some (.Read (channel.current_transmit_buffer_pointer &&& ETHERNET_ADDRESS_MASK) channel.transmit_length
          .TransmitData), channel)
    | .Send =>
      if ready then
        (some (.Transmit channel.transmit_frame),
          { channel with
            transmit_inflight := some
              { first_descriptor := channel.current_packet_first_transmit_descriptor_pointer
                next_descriptor := channel.next_transmit_descriptor_pointer
                end_of_chain := channel.transmit_end_of_chain
                interrupt_requested := channel.transmit_interrupt_requested
                dma_attached := true }
            transmit_stage := .Wire
            transmit_frame := [] })
      else (none, channel)

def transmit_request (ready : Bool) (channel : EthernetChannel) : Option EthernetRequest × EthernetChannel :=
  transmit_request_from ready (transmit_request_from ready fun channel => (none, channel)) channel

/-- The next bounded operation; the two directions take turns. -/
def next_request (channel : EthernetChannel) (transmitter_ready : Bool) : Option EthernetRequest × EthernetChannel :=
  if channel.held_in_reset || channel.dma_delay_attoseconds != 0 then (none, channel)
  else
    let receive_first := channel.prefer_receive
    let channel := { channel with prefer_receive := !receive_first }
    if receive_first then
      match channel.receive_request with
      | (some request, channel) => (some request, channel)
      | (none, channel) => channel.transmit_request transmitter_ready
    else
      match channel.transmit_request transmitter_ready with
      | (some request, channel) => (some request, channel)
      | (none, channel) => channel.receive_request

/-! ## Completions -/

def fail_receive (channel : EthernetChannel) : EthernetChannel :=
  { channel with
    receive_status := channel.receive_status &&& ~~~ETHERNET_RECEIVE_ACTIVE
    receive_stage := .Idle
    receive_frame := [] }

def fail_read (channel : EthernetChannel) (kind : EthernetReadKind) : EthernetChannel :=
  match kind with
  | .ReceiveDescriptor => channel.fail_receive
  | _ =>
    { channel with
      transmit_status := channel.transmit_status &&& ~~~ETHERNET_TRANSMIT_ACTIVE
      transmit_stage := .Fault
      transmit_frame := [] }

/-- Cycles a completed transfer keeps the DMA engine busy. -/
def dma_delay (length : Nat) : Nat := ETHERNET_DMA_CYCLE_ATTOSECONDS * ((length + 3) / 4)

def load_receive_descriptor (channel : EthernetChannel) (control buffer next : U32) : EthernetChannel :=
  if control &&& ETHERNET_RECEIVE_OWNED = 0 then channel.fail_receive
  else
    { channel with
      current_receive_descriptor_pointer := channel.next_receive_descriptor_pointer
      next_receive_descriptor_pointer := next
      receive_byte_count := BitVec.ofNat 32 ((control &&& ETHERNET_BYTE_COUNT_MASK).toNat - 2)
      current_receive_buffer_pointer :=
        (buffer &&& ETHERNET_BUFFER_END_OF_CHAIN)
          ||| (((buffer &&& ETHERNET_ADDRESS_MASK) + 2) &&& ETHERNET_ADDRESS_MASK)
      receive_end_of_ring := buffer &&& ETHERNET_BUFFER_END_OF_CHAIN != 0
      receive_stage := .Data }

def load_transmit_descriptor (channel : EthernetChannel) (control buffer next : U32) : EthernetChannel :=
  { channel with
    current_transmit_descriptor_pointer := channel.next_transmit_descriptor_pointer
    next_transmit_descriptor_pointer := next
    current_packet_first_transmit_descriptor_pointer :=
      if channel.transmit_first_descriptor then channel.next_transmit_descriptor_pointer
      else channel.current_packet_first_transmit_descriptor_pointer
    transmit_first_descriptor := false
    transmit_byte_count := control &&& ETHERNET_TRANSMIT_BYTE_COUNT_MASK
    current_transmit_buffer_pointer := buffer &&& ETHERNET_CURRENT_BUFFER_POINTER_MASK
    transmit_end_of_packet := control &&& ETHERNET_TRANSMIT_END_OF_PACKET != 0
    transmit_end_of_chain := buffer &&& ETHERNET_BUFFER_END_OF_CHAIN != 0
    transmit_interrupt_requested := control &&& ETHERNET_TRANSMIT_INTERRUPT_ENABLE != 0
    transmit_stage := .Data }

def gather_transmit_data (channel : EthernetChannel) (data : List U8) : EthernetChannel :=
  { channel with
    transmit_frame := channel.transmit_frame ++ data
    current_transmit_buffer_pointer :=
      (channel.current_transmit_buffer_pointer &&& ETHERNET_BUFFER_END_OF_CHAIN)
        ||| (((channel.current_transmit_buffer_pointer &&& ETHERNET_ADDRESS_MASK) + BitVec.ofNat 32 data.length)
          &&& ETHERNET_ADDRESS_MASK)
    transmit_byte_count :=
      (channel.transmit_byte_count &&& ~~~ETHERNET_BYTE_COUNT_MASK)
        ||| BitVec.ofNat 32 ((channel.transmit_byte_count &&& ETHERNET_BYTE_COUNT_MASK).toNat - data.length) }

/-- Completes a RAM read. A missing result indicates a PIC1 DMA fault. -/
def complete_read (channel : EthernetChannel) (kind : EthernetReadKind) (data : Option (List U8)) :
    EthernetChannel :=
  match data with
  | none => channel.fail_read kind
  | some data =>
    let channel := { channel with dma_delay_attoseconds := dma_delay data.length }
    let control := be_word data 0
    let buffer := be_word data 4
    let next := be_word data 8 &&& ETHERNET_ADDRESS_MASK
    match kind with
    | .TransmitData =>
      if MAX_ETHERNET_FRAME_BYTES < channel.transmit_frame.length + data.length then channel.fail_read kind
      else channel.gather_transmit_data data
    | .ReceiveDescriptor =>
      if data.length ≠ 12 then channel.fail_read kind else channel.load_receive_descriptor control buffer next
    | .TransmitDescriptor =>
      if data.length ≠ 12 then channel.fail_read kind else channel.load_transmit_descriptor control buffer next

def finish_receive (channel : EthernetChannel) : EthernetChannel :=
  let raise := channel.receive_interrupt_requested && channel.timer_expired
  { channel with
    receive_status :=
      if channel.receive_end_of_ring || channel.receive_overflow then
        channel.receive_status &&& ~~~ETHERNET_RECEIVE_ACTIVE
      else channel.receive_status
    control :=
      channel.control ||| (if channel.receive_overflow then ETHERNET_OVERFLOW ||| ETHERNET_INTERRUPT else 0)
        ||| (if raise then ETHERNET_INTERRUPT else 0)
    receive_interrupt_waiting :=
      if channel.receive_interrupt_requested then !channel.timer_expired else channel.receive_interrupt_waiting
    receive_frame := []
    receive_stage := .Idle }

/-- Completes a RAM write, publishing ownership only after all frame bytes. -/
def complete_write (channel : EthernetChannel) (kind : EthernetWriteKind) (length : Nat) (success : Bool) :
    EthernetChannel :=
  let channel := { channel with dma_delay_attoseconds := dma_delay length }
  if !success then channel.fail_receive
  else
    match kind with
    | .ReceiveData =>
      { channel with
        receive_offset := channel.receive_offset + length
        receive_byte_count := BitVec.ofNat 32 (channel.receive_byte_count.toNat - length)
        current_receive_buffer_pointer :=
          (channel.current_receive_buffer_pointer &&& ETHERNET_BUFFER_END_OF_CHAIN)
            ||| (((channel.current_receive_buffer_pointer &&& ETHERNET_ADDRESS_MASK) + BitVec.ofNat 32 length)
              &&& ETHERNET_ADDRESS_MASK) }
    | .ReceiveCompletion => channel.finish_receive

/-- Captures controller completion and schedules the separate host interrupt. -/
def complete_transmit (channel : EthernetChannel) (status : U8) (interrupt : Bool) : EthernetChannel :=
  let continue_dma := channel.transmit_active
  let context := channel.transmit_inflight
  let status_field : U32 := status.setWidth 32 <<< 16
  let interrupt_requested :=
    match context with
    | some context => context.interrupt_requested
    | none => channel.transmit_interrupt_requested
  let successful := status_field &&& ETHERNET_TRANSMIT_SUCCESS != 0
  let channel :=
    { channel with
      transmit_inflight := none
      transmit_interrupt_delay_attoseconds :=
        if interrupt_requested || (!successful && interrupt) then some ETHERNET_DMA_CYCLE_ATTOSECONDS
        else channel.transmit_interrupt_delay_attoseconds }
  match context with
  | some { dma_attached := false, .. } =>
    -- publishes the old result without changing a restarted channel
    { channel with transmit_status := (channel.transmit_status &&& ETHERNET_TRANSMIT_ACTIVE) ||| status_field }
  | _ =>
    let previous :=
      match context with
      | some context =>
        if successful then context.first_descriptor else channel.previous_packet_first_transmit_descriptor_pointer
      | none => channel.previous_packet_first_transmit_descriptor_pointer
    let end_of_chain :=
      match context with
      | some context => context.end_of_chain
      | none => true
    let channel :=
      { channel with
        previous_packet_first_transmit_descriptor_pointer := previous, transmit_first_descriptor := true }
    if successful && !end_of_chain && continue_dma then
      { channel with
        transmit_status := status_field ||| ETHERNET_TRANSMIT_ACTIVE, transmit_stage := .Descriptor }
    else { channel with transmit_status := status_field, transmit_stage := .Idle }

/-- The time until the receive timer expires, given the phase of the HPC clock. -/
def timer_deadline (channel : EthernetChannel) (clock_phase : Nat) : Option Nat :=
  if !channel.timer_expired && channel.timer_count != 0 then
    some ((channel.timer_count * ATTOSECONDS_PER_SECOND - clock_phase + HPC_CLOCK_FREQUENCY - 1) / HPC_CLOCK_FREQUENCY)
  else none

/-- Whether a request waits for the DMA engine. -/
def dma_work (channel : EthernetChannel) (transmitter_ready : Bool) : Bool :=
  channel.receive_stage != .Idle ||
    (channel.transmit_inflight.isNone &&
      match channel.transmit_stage with
      | .Descriptor | .Data | .Fault => true
      | .Send => transmitter_ready
      | .Idle | .Wire => false)

/-- The next DMA, interrupt or receive-delay deadline. -/
def time_until_event (channel : EthernetChannel) (transmitter_ready : Bool) (clock_phase : Nat) : Option Nat :=
  if channel.held_in_reset then none
  else
    ([if channel.dma_work transmitter_ready then some channel.dma_delay_attoseconds else none,
      channel.transmit_interrupt_delay_attoseconds,
      channel.timer_deadline clock_phase,
      if channel.timer_expired && channel.receive_interrupt_waiting then some 0 else none].filterMap id).min?

def advance_time (channel : EthernetChannel) (elapsed ticks : Nat) : EthernetChannel :=
  let channel := channel.advance_timer ticks
  let due : Bool :=
    match channel.transmit_interrupt_delay_attoseconds with
    | some delay => delay ≤ elapsed
    | none => false
  let receive_due := channel.timer_expired && channel.receive_interrupt_waiting
  { channel with
    dma_delay_attoseconds := channel.dma_delay_attoseconds - elapsed
    transmit_interrupt_delay_attoseconds :=
      if due then none else channel.transmit_interrupt_delay_attoseconds.map (· - elapsed)
    control := if due || receive_due then channel.control ||| ETHERNET_INTERRUPT else channel.control
    receive_interrupt_waiting := channel.receive_interrupt_waiting && !channel.timer_expired }

end EthernetChannel

end se_device.hpc1
