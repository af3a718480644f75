import SgiEmu.Core.Bus
import SgiEmu.Device.Register
import SgiEmu.Device.Seeq8003
import Mathlib.Tactic.Common

open se_core se_core.bus se_core.time

namespace se_device.seeq8003

def REGISTER_BYTES : Nat := 4
def REGISTER_COUNT : Nat := 8
def RECEIVE_COMMAND_SLOT : Nat := 6
def TRANSMIT_COMMAND_SLOT : Nat := 7
def BANK_SELECT_MASK : U8 := 0x60#8

/-- A frame and its controller status presented to the attached DMA engine. -/
structure ReceivedFrame where
  bytes : List U8
  status : U8
  interrupt : Bool
deriving DecidableEq, Repr

/-- A frame on the receive wire, with its physical errors. -/
structure IncomingFrame extends WireFrame where
  errors : U8
deriving DecidableEq, Repr

/-- The whole controller: the transmit half, the receive half and the latches. -/
structure Controller extends Seeq8003 where
  station_address : Vector U8 6
  multicast_low : Vector U8 6
  multicast_high : Vector U8 2
  inter_packet_gap : U8
  control : U8
  receive_command : U8
  receive_status : U8
  receive_interrupt : Bool
  receiving : Option IncomingFrame
  received : Option ReceivedFrame
  receive_gap : Nat

/-- The register and the offset into it that a transaction selects. -/
def register_transaction (address length : Nat) : Except BusError (Nat × Nat) :=
  if ¬(1 ≤ length ∧ length ≤ 4) then .error .InvalidTransaction
  else if 2 ^ 64 ≤ address + length then .error .InvalidTransaction
  else if REGISTER_COUNT * REGISTER_BYTES ≤ address ∨ REGISTER_COUNT * REGISTER_BYTES < address + length then
    .error .HardwareFault
  else if address / REGISTER_BYTES ≠ (address + length - 1) / REGISTER_BYTES then .error .UnimplementedAccess
  else .ok (address / REGISTER_BYTES, address % REGISTER_BYTES)

namespace Controller

def new : Controller :=
  { Seeq8003.new with
    station_address := Vector.replicate 6 0, multicast_low := Vector.replicate 6 0, multicast_high := Vector.replicate 2 0
    inter_packet_gap := 0, control := 0, receive_command := 0, receive_status := OLD_DEVICE_STATUS
    receive_interrupt := false, receiving := none, received := none, receive_gap := 0 }

def reset (_controller : Controller) : Controller := new

/-! ## Registers -/

/-- Reads and acknowledges the receive status. -/
def acknowledge_receive (controller : Controller) : U8 × Controller :=
  (controller.receive_status,
    { controller with
      receive_status := controller.receive_status ||| OLD_DEVICE_STATUS, receive_interrupt := false })

def acknowledge_transmit (controller : Controller) : U8 × Controller :=
  let acknowledged := controller.toSeeq8003.acknowledge_transmit
  (acknowledged.1, { controller with toSeeq8003 := acknowledged.2 })

/-- Reads registers without acknowledging status or interrupts. -/
def debug_read (address length : Nat) (controller : Controller) : Except BusError (List U8) :=
  match register_transaction address length with
  | .error error => .error error
  | .ok (slot, offset) =>
    let value : U8 :=
      if slot = 0 then OLD_DEVICE_STATUS
      else if slot = RECEIVE_COMMAND_SLOT then controller.receive_status
      else if slot = TRANSMIT_COMMAND_SLOT then controller.transmit_status
      else 0
    .ok (((to_be_bytes (value.setWidth 32)).toList.drop offset).take length)

/-- A read that ends with the low lane of a command register acknowledges its status. -/
def read (address length : Nat) (controller : Controller) : Except BusError (List U8) × Controller :=
  match register_transaction address length with
  | .error error => (.error error, controller)
  | .ok (slot, offset) =>
    let bytes := controller.debug_read address length
    if offset + length = 4 ∧ slot = RECEIVE_COMMAND_SLOT then (bytes, controller.acknowledge_receive.2)
    else if offset + length = 4 ∧ slot = TRANSMIT_COMMAND_SLOT then (bytes, controller.acknowledge_transmit.2)
    else (bytes, controller)

def write_banked_register (slot : Nat) (value : U8) (controller : Controller) : Controller :=
  match (controller.transmit_command &&& BANK_SELECT_MASK).toNat with
  | 0x00 => { controller with station_address := controller.station_address.setIfInBounds slot value }
  | 0x20 => { controller with multicast_low := controller.multicast_low.setIfInBounds slot value }
  | 0x40 =>
    match slot with
    | 0 | 1 => { controller with multicast_high := controller.multicast_high.setIfInBounds slot value }
    | 2 => { controller with inter_packet_gap := value }
    | 3 => { controller with control := value }
    | _ => controller
  | _ => controller

/-- Writes the low lane of a register; a transaction without it has no effect. -/
def write (address : Nat) (data : List U8) (controller : Controller) : Except BusError Unit × Controller :=
  match register_transaction address data.length with
  | .error error => (.error error, controller)
  | .ok (slot, offset) =>
    let low_lane := 3
    if low_lane < offset ∨ offset + data.length ≤ low_lane then (.ok (), controller)
    else
      let value := data[low_lane - offset]?.getD 0
      if slot = RECEIVE_COMMAND_SLOT then (.ok (), { controller with receive_command := value })
      else if slot = TRANSMIT_COMMAND_SLOT then (.ok (), { controller with transmit_command := value })
      else (.ok (), controller.write_banked_register slot value)

/-! ## Frames -/

def receive_ready (controller : Controller) : Bool := controller.receiving.isNone && controller.receive_gap == 0

/-- Starts reception; the flag tells whether the link took the frame. -/
def receive (bytes : List U8) (errors : U8) (controller : Controller) : Bool × Controller :=
  if !controller.receive_ready || MAX_FRAME_BYTES < bytes.length then (false, controller)
  else (true, { controller with receiving := some { bytes, remaining := wire_time bytes.length, errors := errors &&& 7 } })

def transmit (bytes : List U8) (controller : Controller) : Bool × Controller :=
  let taken := controller.toSeeq8003.transmit bytes
  (taken.1, { controller with toSeeq8003 := taken.2 })

def matches_address (bytes : List U8) (controller : Controller) : Bool :=
  if bytes.length < 6 then false
  else
    let destination := bytes.take 6
    match (controller.receive_command >>> 6).toNat with
    | 0 => false
    | 1 => true
    | 2 => destination == controller.station_address.toList || destination == List.replicate 6 0xff
    | _ => destination == controller.station_address.toList || destination[0]?.getD 0 &&& 1 != 0

/-- Takes a frame off the wire: its status, and the frame where it is wanted. -/
def finish_receive (frame : IncomingFrame) (controller : Controller) : Controller :=
  if !controller.matches_address frame.bytes || controller.receive_status &&& OLD_DEVICE_STATUS == 0 then controller
  else
    let errors := frame.errors ||| (if frame.bytes.length < 60 then 8 else 0)
    let status := 0x10 ||| errors ||| (if errors &&& 0x0b = 0 then 0x20 else 0)
    let interrupt_conditions := if errors &&& 1 ≠ 0 then status &&& ~~~0x10 else status
    let interrupt := interrupt_conditions &&& controller.receive_command &&& 0x3f != 0
    let controller :=
      { controller with
        receive_status := status ||| (if interrupt then 0 else OLD_DEVICE_STATUS), receive_interrupt := interrupt }
    if errors &&& 0x0b &&& ~~~controller.receive_command != 0 || controller.received.isSome then controller
    else { controller with received := some { bytes := frame.bytes, status, interrupt } }

/-- Advances the receive half. -/
def advance_receive (elapsed : Nat) (controller : Controller) : Controller :=
  let receive_gap := controller.receive_gap - elapsed
  match controller.receiving with
  | none => { controller with receive_gap }
  | some frame =>
    if elapsed < frame.remaining then
      { controller with receive_gap, receiving := some { frame with remaining := frame.remaining - elapsed } }
    else
      finish_receive frame
        { controller with receiving := none, receive_gap := INTERFRAME_GAP - (elapsed - frame.remaining) }

/-- Advances frame transmission, reception, and interframe gaps. -/
def advance_time (elapsed : Nat) (controller : Controller) : Controller :=
  let controller := controller.advance_receive elapsed
  { controller with toSeeq8003 := controller.toSeeq8003.advance_time elapsed }

/-- The next transition of the link. -/
def time_until_event (controller : Controller) : Option Nat :=
  ([controller.receiving.map (·.remaining), controller.transmitting.map (·.remaining),
    if controller.receive_gap ≠ 0 then some controller.receive_gap else none,
    if controller.transmit_gap ≠ 0 then some controller.transmit_gap else none].filterMap id).min?

def take_received_frame (controller : Controller) : Option ReceivedFrame × Controller :=
  (controller.received, { controller with received := none })

def take_transmitted_frame (controller : Controller) : Option (List U8) × Controller :=
  let taken := controller.toSeeq8003.take_transmitted_frame
  (taken.1, { controller with toSeeq8003 := taken.2 })

def transmit_underflow (controller : Controller) : Controller :=
  { controller with toSeeq8003 := controller.toSeeq8003.transmit_underflow }

end Controller

end se_device.seeq8003
