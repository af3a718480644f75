import SgiEmu.Core.Word
import SgiEmu.Core.Time

open se_core se_core.time

namespace se_device.seeq8003

def OLD_DEVICE_STATUS : U8 := 0x80#8
def MAX_FRAME_BYTES : Nat := 16384
def BYTE_TIME : Nat := ATTOSECONDS_PER_SECOND * 8 / 10000000
def INTERFRAME_GAP : Nat := BYTE_TIME * 12

structure WireFrame where
  bytes : List U8
  remaining : Nat
deriving DecidableEq, Repr

/-- The transmit half of the controller. -/
structure Seeq8003 where
  transmit_command : U8
  transmit_status : U8
  transmit_interrupt : Bool
  transmitting : Option WireFrame
  transmitted : Option (List U8)
  transmit_gap : Nat
deriving DecidableEq, Repr

def wire_time (length : Nat) : Nat := (length + 8 + 4) * BYTE_TIME

namespace Seeq8003

def new : Seeq8003 :=
  { transmit_command := 0, transmit_status := OLD_DEVICE_STATUS, transmit_interrupt := false
    transmitting := none, transmitted := none, transmit_gap := 0 }

def transmit_ready (seeq : Seeq8003) : Bool :=
  seeq.transmitting.isNone && seeq.transmitted.isNone && seeq.transmit_gap == 0

/-- Starts transmission; the flag tells whether the packet was taken. -/
def transmit (seeq : Seeq8003) (bytes : List U8) : Bool × Seeq8003 :=
  if !seeq.transmit_ready || MAX_FRAME_BYTES < bytes.length then (false, seeq)
  else (true, { seeq with transmitting := some { bytes, remaining := wire_time bytes.length } })

/-- Whether the packet on the wire ends within `elapsed`. -/
def transmit_ends (seeq : Seeq8003) (elapsed : Nat) : Bool :=
  match seeq.transmitting with
  | none => false
  | some frame => frame.remaining ≤ elapsed

def advance_time (seeq : Seeq8003) (elapsed : Nat) : Seeq8003 :=
  let transmit_gap := seeq.transmit_gap - elapsed
  match seeq.transmitting with
  | none => { seeq with transmit_gap }
  | some frame =>
    if elapsed < frame.remaining then
      { seeq with transmit_gap, transmitting := some { frame with remaining := frame.remaining - elapsed } }
    else
      { seeq with
        transmitting := none
        transmit_gap := INTERFRAME_GAP - (elapsed - frame.remaining)
        transmit_status := 0x08
        transmit_interrupt := seeq.transmit_command &&& 0x08 != 0
        transmitted := some frame.bytes }

def take_transmitted_frame (seeq : Seeq8003) : Option (List U8) × Seeq8003 :=
  (seeq.transmitted, { seeq with transmitted := none })

/-- Reads and acknowledges the transmit status. -/
def acknowledge_transmit (seeq : Seeq8003) : U8 × Seeq8003 :=
  (seeq.transmit_status,
    { seeq with transmit_status := seeq.transmit_status ||| OLD_DEVICE_STATUS, transmit_interrupt := false })

def transmit_underflow (seeq : Seeq8003) : Seeq8003 :=
  { seeq with
    transmitting := none
    transmit_status := 1
    transmit_interrupt := seeq.transmit_command &&& 1 != 0 }

end Seeq8003

end se_device.seeq8003
