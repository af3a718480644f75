import SgiEmu.Device.Hpc1.Ethernet

open se_core se_core.time

namespace se_device.hpc1

def FREE_RUNNING_COUNTER_MODULUS : Nat := 1 <<< 24

/-- The HPC1 as its clock moves it: the Ethernet channel, the free-running
counter and the phase both share. No time passes for the other channels. -/
structure Hpc1 where
  ethernet : EthernetChannel
  free_running_counter : Nat
  clock_phase : Nat
deriving DecidableEq, Repr

namespace Hpc1

def new : Hpc1 := { ethernet := .new, free_running_counter := 0, clock_phase := 0 }

/-- The ticks of a duration's partial second, scaled to attoseconds. -/
def scaled_partial (hpc1 : Hpc1) (elapsed : Nat) : Nat :=
  elapsed % ATTOSECONDS_PER_SECOND * HPC_CLOCK_FREQUENCY + hpc1.clock_phase

/-- The ticks of a duration's whole seconds, as far as the counter sees them. -/
def whole_ticks (elapsed : Nat) : Nat :=
  (elapsed / ATTOSECONDS_PER_SECOND % FREE_RUNNING_COUNTER_MODULUS) *
    (HPC_CLOCK_FREQUENCY % FREE_RUNNING_COUNTER_MODULUS)

/-- Advances the 33 MHz clock domain by guest virtual time. -/
def advance_time (hpc1 : Hpc1) (elapsed : Nat) : Hpc1 :=
  let whole_seconds := elapsed / ATTOSECONDS_PER_SECOND
  let partial_ticks := hpc1.scaled_partial elapsed / ATTOSECONDS_PER_SECOND
  let wrapping_ticks :=
    (whole_ticks elapsed + partial_ticks % FREE_RUNNING_COUNTER_MODULUS) % FREE_RUNNING_COUNTER_MODULUS
  -- any whole second outlasts the receive timer
  let timer_ticks := if whole_seconds = 0 then partial_ticks else 2 ^ 128 - 1
  { ethernet := hpc1.ethernet.advance_time elapsed timer_ticks
    free_running_counter := (hpc1.free_running_counter + wrapping_ticks) % FREE_RUNNING_COUNTER_MODULUS
    clock_phase := hpc1.scaled_partial elapsed % ATTOSECONDS_PER_SECOND }

def ethernet_time_until_event (hpc1 : Hpc1) (transmitter_ready : Bool) : Option Nat :=
  hpc1.ethernet.time_until_event transmitter_ready hpc1.clock_phase

end Hpc1

/-- Everything that moves the HPC1's Ethernet channel and clock. -/
inductive Hpc1Event where
  | Reset
  | WriteTransmitStatus (offset : Nat) (data : List U8)
  | WriteControl (offset : Nat) (data : List U8)
  | WriteTransmitRegister (register : EthernetChannel.TransmitRegister) (offset : Nat) (data : List U8)
  | WriteReceiveStatus (offset : Nat) (data : List U8)
  | WriteReceiveRegister (register : EthernetChannel.ReceiveRegister) (offset : Nat) (data : List U8)
  | WriteTimer (value : U32)
  | ReceiveFrame (bytes : List U8) (status : U8) (interrupt_requested : Bool)
  | NextRequest (transmitter_ready : Bool)
  | CompleteRead (kind : EthernetReadKind) (data : Option (List U8))
  | CompleteWrite (kind : EthernetWriteKind) (length : Nat) (success : Bool)
  | CompleteTransmit (status : U8) (interrupt : Bool)
  | TakeReset
  | AdvanceTime (elapsed : Nat)

namespace Hpc1

def step (hpc1 : Hpc1) : Hpc1Event → Hpc1
  | .Reset => new
  | .WriteTransmitStatus offset data => { hpc1 with ethernet := hpc1.ethernet.write_transmit_status offset data }
  | .WriteControl offset data => { hpc1 with ethernet := hpc1.ethernet.write_control offset data }
  | .WriteTransmitRegister register offset data =>
    { hpc1 with ethernet := hpc1.ethernet.write_transmit_register register offset data }
  | .WriteReceiveStatus offset data => { hpc1 with ethernet := hpc1.ethernet.write_receive_status offset data }
  | .WriteReceiveRegister register offset data =>
    { hpc1 with ethernet := hpc1.ethernet.write_receive_register register offset data }
  | .WriteTimer value => { hpc1 with ethernet := hpc1.ethernet.write_timer value }
  | .ReceiveFrame bytes status interrupt_requested =>
    { hpc1 with ethernet := hpc1.ethernet.accept_receive_frame bytes status interrupt_requested }
  | .NextRequest transmitter_ready => { hpc1 with ethernet := (hpc1.ethernet.next_request transmitter_ready).2 }
  | .CompleteRead kind data => { hpc1 with ethernet := hpc1.ethernet.complete_read kind data }
  | .CompleteWrite kind length success => { hpc1 with ethernet := hpc1.ethernet.complete_write kind length success }
  | .CompleteTransmit status interrupt => { hpc1 with ethernet := hpc1.ethernet.complete_transmit status interrupt }
  | .TakeReset => { hpc1 with ethernet := { hpc1.ethernet with reset_output_pending := false } }
  | .AdvanceTime elapsed => hpc1.advance_time elapsed

def run (hpc1 : Hpc1) (events : List Hpc1Event) : Hpc1 := events.foldl step hpc1

end Hpc1

end se_device.hpc1
