import SgiEmu.Core.Bus
import SgiEmu.Core.Time
import SgiEmu.Library.Timing

open Library.Timing se_core se_core.bus se_core.time

namespace se_device.z85230

def RECEIVE_CHARACTER_AVAILABLE : U8 := 1#8
def TRANSMIT_BUFFER_EMPTY : U8 := 0x04#8
def ALL_SENT : U8 := 1#8
def TRANSMIT_INTERRUPT_ENABLE : U8 := 0x02#8
def TRANSMIT_INTERRUPT_FIFO_EMPTY : U8 := 0x20#8
def ASYNC_EIGHT_BIT_RESIDUE : U8 := 0x06#8
def PARITY_ERROR : U8 := 0x10#8
def RECEIVE_OVERRUN_ERROR : U8 := 0x20#8
def CRC_FRAMING_ERROR : U8 := 0x40#8
def END_OF_FRAME : U8 := 0x80#8
def LATCHED_RECEIVE_ERRORS : U8 := PARITY_ERROR ||| RECEIVE_OVERRUN_ERROR
def RECEIVER_ENABLE : U8 := 1#8
def AUTO_ENABLE : U8 := 0x20#8
def TRANSMITTER_ENABLE : U8 := 0x08#8
def LOCAL_LOOPBACK : U8 := 0x10#8
def MASTER_INTERRUPT_ENABLE : U8 := 0x08#8
def SOFTWARE_INTERRUPT_ACKNOWLEDGE : U8 := 0x20#8
def SDLC_STATUS_FIFO_ENABLE : U8 := 0x04#8
def EXTENDED_READ_ENABLE : U8 := 0x40#8
def RECEIVE_FIFO_BYTES : Nat := 8
def TRANSMIT_FIFO_BYTES : Nat := 4
def RESET_WRITE_REGISTERS : Vector U8 16 :=
  #v[0x00, 0x00, 0x00, 0x00, 0x04, 0x00, 0x00, 0x00, 0x00, 0x00, 0x00, 0x08, 0x00, 0x00, 0x00, 0xf8]
def RESET_WRITE_REGISTER_PRIME_SEVEN : U8 := 0x20#8

inductive Channel where
  | A | B
deriving DecidableEq, Repr

/-- A non-zero `u64` frequency. -/
abbrev ClockHz := { hz : Nat // 0 < hz ∧ hz < 0x10000000000000000 }

structure ActiveCharacter where
  value : U8
  remaining_attoseconds : Delay
  local_loopback : Bool

structure ReceiveCharacter where
  value : U8
  status : U8
deriving DecidableEq, Repr

/-- One channel; its FIFOs are lists, oldest entry first. -/
structure ChannelState where
  selected_register : Fin 16
  write_registers : Vector U8 16
  write_register_prime_seven : U8
  receive_fifo : List ReceiveCharacter
  first_character_interrupt_armed : Bool
  receive_error_latch : U8
  receive_fifo_locked : Bool
  transmit_fifo : List U8
  transmit_interrupt_pending : Bool
  active_character : Option ActiveCharacter
  timing_remainder : Nat

/-- The half bits of the stop condition; synchronous modes have none. -/
def stop_half_bits (wr4 : U8) : Option Nat :=
  match (wr4 >>> 2 &&& 3).toNat with
  | 0 => none
  | 1 => some 2
  | 2 => some 3
  | _ => some 4

def data_bits (wr5 : U8) : Nat :=
  match (wr5 >>> 5 &&& 3).toNat with
  | 0 => 5
  | 1 => 7
  | 2 => 6
  | _ => 8

def clock_factor (wr4 : U8) : Nat :=
  match (wr4 >>> 6).toNat with
  | 0 => 1
  | 1 => 16
  | 2 => 32
  | _ => 64

def parity_half_bits (wr4 : U8) : Nat := if wr4 &&& 1 = 0 then 0 else 2

theorem data_bits_ge (wr5 : U8) : 5 ≤ data_bits wr5 := by
  unfold data_bits
  split <;> omega

theorem clock_factor_pos (wr4 : U8) : 1 ≤ clock_factor wr4 := by
  unfold clock_factor
  split <;> omega

theorem frame_units_ge (wr4 wr5 : U8) (stop time_constant : Nat) :
    24 ≤ (2 + data_bits wr5 * 2 + parity_half_bits wr4 + stop) * (time_constant + 2) * clock_factor wr4 := by
  have hbits : 12 ≤ 2 + data_bits wr5 * 2 + parity_half_bits wr4 + stop := by
    have := data_bits_ge wr5
    omega
  have hconstant : 2 ≤ time_constant + 2 := by omega
  exact Nat.mul_le_mul (Nat.mul_le_mul hbits hconstant) (clock_factor_pos wr4)

/-- The time a frame of so many clock units takes with the remainder carried into it. -/
def character_delay (units : { units : Nat // 24 ≤ units }) (timing_remainder : Nat) (clock_hz : ClockHz) : Delay :=
  ⟨(units.val * ATTOSECONDS_PER_SECOND + timing_remainder) / clock_hz.val, by
    have hunits : 24 * ATTOSECONDS_PER_SECOND ≤ units.val * ATTOSECONDS_PER_SECOND := Nat.mul_le_mul_right _ units.property
    have hclock : clock_hz.val ≤ 24 * ATTOSECONDS_PER_SECOND :=
      Nat.le_trans (Nat.le_of_lt clock_hz.property.2) (by decide)
    apply Nat.div_pos _ clock_hz.property.1
    exact Nat.le_trans hclock (Nat.le_trans hunits (Nat.le_add_right _ _))⟩

def dcd_asserted : Bool := true
def cts_asserted : Bool := true

namespace ChannelState

def new : ChannelState :=
  { selected_register := 0, write_registers := RESET_WRITE_REGISTERS
    write_register_prime_seven := RESET_WRITE_REGISTER_PRIME_SEVEN, receive_fifo := []
    first_character_interrupt_armed := false, receive_error_latch := 0, receive_fifo_locked := false
    transmit_fifo := [], transmit_interrupt_pending := false, active_character := none, timing_remainder := 0 }

def write_register (channel : ChannelState) (register : Fin 16) : U8 := channel.write_registers.get register

def take_selected_register (channel : ChannelState) : Fin 16 × ChannelState :=
  (channel.selected_register, { channel with selected_register := 0 })

def select_register (value : U8) (channel : ChannelState) : ChannelState :=
  let register := (value &&& 7).toNat
  let register := if value >>> 3 &&& 7 = 1 then register + 8 else register
  { channel with selected_register := Fin.ofNat 16 register }

def read_register_zero (channel : ChannelState) : U8 :=
  (if channel.receive_fifo.length ≠ 0 then RECEIVE_CHARACTER_AVAILABLE else 0) |||
    (if channel.transmit_fifo.length < TRANSMIT_FIFO_BYTES then TRANSMIT_BUFFER_EMPTY else 0)

def read_register_one (channel : ChannelState) : U8 :=
  let status := (match channel.receive_fifo with
    | [] => ASYNC_EIGHT_BIT_RESIDUE
    | character :: _ => character.status) ||| channel.receive_error_latch
  if channel.transmit_fifo.length = 0 ∧ channel.active_character.isNone then status ||| ALL_SENT else status

def read_register_fifteen (channel : ChannelState) : U8 := channel.write_register 15 &&& 0xfa

def receive_interrupt_mode (channel : ChannelState) : Nat := (channel.write_register 1 >>> 3 &&& 3).toNat

theorem register_lt (register : Fin 16) : register.val < 16 := register.isLt

def set_write_register (register : Fin 16) (value : U8) (channel : ChannelState) : ChannelState :=
  let channel := { channel with write_registers := channel.write_registers.set register value }
  if register = 1 then
    { channel with first_character_interrupt_armed := channel.receive_interrupt_mode == 1 }
  else channel

def local_loopback_enabled (channel : ChannelState) : Bool := channel.write_register 14 &&& LOCAL_LOOPBACK != 0

def receiver_enabled (channel : ChannelState) : Bool :=
  let wr3 := channel.write_register 3
  wr3 &&& RECEIVER_ENABLE != 0 && (wr3 &&& AUTO_ENABLE == 0 || dcd_asserted)

/-- A character that finds the FIFO full overwrites the newest one. -/
def receive_character (value : U8) (channel : ChannelState) : ChannelState :=
  if channel.receive_fifo.length = RECEIVE_FIFO_BYTES then
    { channel with
      receive_fifo := channel.receive_fifo.dropLast ++
        [{ value, status := ASYNC_EIGHT_BIT_RESIDUE ||| RECEIVE_OVERRUN_ERROR }] }
  else { channel with receive_fifo := channel.receive_fifo ++ [{ value, status := ASYNC_EIGHT_BIT_RESIDUE }] }

def receive_external_character (value : U8) (channel : ChannelState) : ChannelState :=
  if channel.local_loopback_enabled || !channel.receiver_enabled then channel else channel.receive_character value

def receive_local_loopback (value : U8) (channel : ChannelState) : ChannelState :=
  if channel.write_register 3 &&& RECEIVER_ENABLE ≠ 0 then channel.receive_character value else channel

def special_receive_condition_mask (channel : ChannelState) : U8 :=
  let mask := RECEIVE_OVERRUN_ERROR ||| CRC_FRAMING_ERROR ||| END_OF_FRAME
  if channel.write_register 1 &&& 0x04 ≠ 0 then mask ||| PARITY_ERROR else mask

def read_data (channel : ChannelState) : U8 × ChannelState :=
  match channel.receive_fifo with
  | [] => (0, channel)
  | character :: rest =>
    if channel.receive_fifo_locked then (character.value, channel)
    else
      let mode := channel.receive_interrupt_mode
      let special_condition := character.status &&& channel.special_receive_condition_mask
      let channel :=
        { channel with receive_error_latch := channel.receive_error_latch ||| character.status &&& LATCHED_RECEIVE_ERRORS }
      if (mode = 1 ∨ mode = 3) ∧ special_condition ≠ 0 then
        (character.value, { channel with receive_fifo_locked := true, first_character_interrupt_armed := false })
      else
        (character.value,
          { channel with
            receive_fifo := rest
            first_character_interrupt_armed := channel.first_character_interrupt_armed && mode != 1 })

def peek_data (channel : ChannelState) : U8 :=
  match channel.receive_fifo with
  | [] => 0
  | character :: _ => character.value

def receive_interrupt_threshold (channel : ChannelState) : Nat :=
  if channel.write_register_prime_seven &&& 0x08 = 0 then 1 else 4

def special_receive_condition_within (count : Nat) (channel : ChannelState) : Bool :=
  channel.receive_error_latch &&& channel.special_receive_condition_mask != 0 ||
    (channel.receive_fifo.take count).any fun character =>
      character.status &&& channel.special_receive_condition_mask != 0

def special_receive_interrupt_pending (channel : ChannelState) : Bool :=
  channel.receive_fifo_locked || channel.receive_error_latch &&& channel.special_receive_condition_mask != 0

def receive_interrupt_pending (channel : ChannelState) : Bool :=
  match channel.receive_interrupt_mode with
  | 0 => false
  | 1 =>
    channel.special_receive_interrupt_pending ||
      channel.first_character_interrupt_armed && channel.receive_fifo.length != 0
  | 2 =>
    let threshold := channel.receive_interrupt_threshold
    decide (threshold ≤ channel.receive_fifo.length) || channel.special_receive_condition_within threshold
  | _ => channel.special_receive_interrupt_pending

def receive_interrupt_is_special (channel : ChannelState) : Bool :=
  match channel.receive_interrupt_mode with
  | 0 => false
  | 2 => channel.special_receive_condition_within channel.receive_interrupt_threshold
  | _ => channel.special_receive_interrupt_pending

def enable_interrupt_on_next_receive_character (channel : ChannelState) : ChannelState :=
  { channel with first_character_interrupt_armed := true }

def reset_receive_errors (channel : ChannelState) : ChannelState :=
  let mode := channel.receive_interrupt_mode
  let unread_special_character := (mode == 1 || mode == 3) &&
    (channel.receive_fifo.take 1).any fun character => character.status &&& channel.special_receive_condition_mask != 0
  { channel with
    receive_fifo :=
      if channel.receive_fifo_locked || unread_special_character then channel.receive_fifo.drop 1
      else channel.receive_fifo
    receive_error_latch := 0, receive_fifo_locked := false }

/-- Queues a byte to transmit; the flag tells whether there was room. -/
def write_data (value : U8) (channel : ChannelState) : Bool × ChannelState :=
  if channel.transmit_fifo.length = TRANSMIT_FIFO_BYTES then (false, channel)
  else (true, { channel with transmit_interrupt_pending := false, transmit_fifo := channel.transmit_fifo ++ [value] })

/-- The length of a frame in clock units, if the transmitter runs. -/
def frame_units (channel : ChannelState) : Option { units : Nat // 24 ≤ units } :=
  let wr4 := channel.write_register 4
  let wr5 := channel.write_register 5
  if wr5 &&& TRANSMITTER_ENABLE = 0 ∨ (channel.write_register 3 &&& AUTO_ENABLE ≠ 0 ∧ !cts_asserted) ∨
      channel.write_register 11 &&& 0x18 ≠ 0x10 ∨ channel.write_register 14 &&& 1 = 0 then none
  else
    let time_constant := (channel.write_register 13 ++ channel.write_register 12).toNat
    (stop_half_bits wr4).map fun stop =>
      ⟨(2 + data_bits wr5 * 2 + parity_half_bits wr4 + stop) * (time_constant + 2) * clock_factor wr4,
        frame_units_ge wr4 wr5 stop time_constant⟩

/-- Begins the next character of an idle transmitter; the flag tells whether one began. -/
def start_transmitter (clock_hz : ClockHz) (channel : ChannelState) : Bool × ChannelState :=
  match channel.active_character, channel.transmit_fifo, channel.frame_units with
  | none, value :: transmit_fifo, some frame_units =>
    (true,
      { channel with
        transmit_fifo
        timing_remainder :=
          (frame_units.val * ATTOSECONDS_PER_SECOND + channel.timing_remainder) % clock_hz.val
        active_character := some
          { value, remaining_attoseconds := character_delay frame_units channel.timing_remainder clock_hz
            local_loopback := channel.local_loopback_enabled } })
  | _, _, _ => (false, channel)

def transmit_interrupt_enabled (channel : ChannelState) : Bool :=
  channel.write_register 1 &&& TRANSMIT_INTERRUPT_ENABLE != 0

def latch_transmit_interrupt_if_ready (channel : ChannelState) : ChannelState :=
  if !channel.transmit_interrupt_enabled then channel
  else
    let fifo_ready :=
      if channel.write_register_prime_seven &&& TRANSMIT_INTERRUPT_FIFO_EMPTY ≠ 0 then
        channel.transmit_fifo.length == 0
      else decide (channel.transmit_fifo.length < TRANSMIT_FIFO_BYTES)
    { channel with transmit_interrupt_pending := channel.transmit_interrupt_pending || fifo_ready }

def reset_transmit_interrupt_pending (channel : ChannelState) : ChannelState :=
  { channel with transmit_interrupt_pending := false }

/-- One turn of the loop of `advance_time` and what it does when a character ends. -/
def process (clock_hz : ClockHz) : Process ChannelState U8 where
  settle channel :=
    let started := channel.start_transmitter clock_hz
    if started.1 then started.2.latch_transmit_interrupt_if_ready else channel
  deadline channel := channel.active_character.map (·.remaining_attoseconds)
  wait elapsed channel :=
    { channel with
      active_character := channel.active_character.bind fun active =>
        (active.remaining_attoseconds.pass elapsed).map fun remaining_attoseconds =>
          { active with remaining_attoseconds } }
  fire _ channel :=
    match channel.active_character with
    | none => ([], channel)
    | some active =>
      let channel := { channel with active_character := none }.latch_transmit_interrupt_if_ready
      ([active.value], if active.local_loopback then channel.receive_local_loopback active.value else channel)

def advance_time (clock_hz : ClockHz) (elapsed : Nat) (channel : ChannelState) : List U8 × ChannelState :=
  (process clock_hz).advance elapsed channel

end ChannelState

inductive InterruptSource where
  | AReceive | ATransmit | BReceive | BTransmit
deriving DecidableEq, Repr

namespace InterruptSource

def PRIORITY_ORDER : List InterruptSource := [.AReceive, .ATransmit, .BReceive, .BTransmit]

def channel : InterruptSource → Channel
  | .AReceive | .ATransmit => .A
  | .BReceive | .BTransmit => .B

def pending_mask : InterruptSource → U8
  | .AReceive => 0x20
  | .ATransmit => 0x10
  | .BReceive => 0x04
  | .BTransmit => 0x02

def normal_vector_status : InterruptSource → U8
  | .AReceive => 0b110
  | .ATransmit => 0b100
  | .BReceive => 0b010
  | .BTransmit => 0b000

end InterruptSource

structure Z85230 where
  clock_hz : ClockHz
  channel_a : ChannelState
  channel_b : ChannelState
  interrupt_vector : U8
  master_interrupt_control : U8
  /-- The sources under service. -/
  interrupt_under_service : List InterruptSource

inductive Port where
  | Control (channel : Channel)
  | Data (channel : Channel)

def decode_port (address : Nat) (length : Nat) : Except BusError Port :=
  if ¬(1 ≤ length ∧ length ≤ 4) then .error .InvalidTransaction
  else if length ≠ 1 then .error .UnimplementedAccess
  else match address with
    | 0x03 => .ok (.Control .B)
    | 0x07 => .ok (.Data .B)
    | 0x0b => .ok (.Control .A)
    | 0x0f => .ok (.Data .A)
    | _ => .error .UnimplementedAccess

namespace Z85230

def new (clock_hz : ClockHz) : Z85230 :=
  { clock_hz, channel_a := .new, channel_b := .new, interrupt_vector := 0, master_interrupt_control := 0
    interrupt_under_service := [] }

def channel (serial : Z85230) : Channel → ChannelState
  | .A => serial.channel_a
  | .B => serial.channel_b

def set_channel (channel : Channel) (state : ChannelState) (serial : Z85230) : Z85230 :=
  match channel with
  | .A => { serial with channel_a := state }
  | .B => { serial with channel_b := state }

def reset_except_master_interrupt_control (serial : Z85230) : Z85230 :=
  { serial with channel_a := .new, channel_b := .new, interrupt_vector := 0, interrupt_under_service := [] }

def reset (serial : Z85230) : Z85230 :=
  { serial.reset_except_master_interrupt_control with master_interrupt_control := 0 }

def receive_character (channel : Channel) (value : U8) (serial : Z85230) : Z85230 :=
  serial.set_channel channel ((serial.channel channel).receive_external_character value)

def interrupt_requested (source : InterruptSource) (serial : Z85230) : Bool :=
  let channel := serial.channel source.channel
  match source with
  | .AReceive | .BReceive => channel.receive_interrupt_pending
  | .ATransmit | .BTransmit => channel.transmit_interrupt_pending && channel.transmit_interrupt_enabled

/-- The first source in priority order that asks for service, unless one before it is being served. -/
def highest_pending_interrupt (serial : Z85230) : Option InterruptSource :=
  (InterruptSource.PRIORITY_ORDER.find? fun source =>
    serial.interrupt_under_service.contains source || serial.interrupt_requested source).filter fun source =>
      !serial.interrupt_under_service.contains source

def interrupt_asserted (serial : Z85230) : Bool :=
  serial.master_interrupt_control &&& MASTER_INTERRUPT_ENABLE != 0 && serial.highest_pending_interrupt.isSome

def interrupt_pending_register (serial : Z85230) : U8 :=
  InterruptSource.PRIORITY_ORDER.foldl (fun value source =>
    let channel := serial.channel source.channel
    let pending := match source with
      | .AReceive | .BReceive => channel.receive_interrupt_pending
      | .ATransmit | .BTransmit => channel.transmit_interrupt_pending
    if pending then value ||| source.pending_mask else value) 0

def interrupt_vector_status (serial : Z85230) (source : InterruptSource) : U8 :=
  let status := source.normal_vector_status
  match source with
  | .AReceive | .BReceive =>
    if (serial.channel source.channel).receive_interrupt_is_special then status ||| 1 else status
  | .ATransmit | .BTransmit => status

def read_interrupt_vector (channel : Channel) (serial : Z85230) : U8 :=
  match channel with
  | .A => serial.interrupt_vector
  | .B =>
    let status := (serial.highest_pending_interrupt.map fun source => serial.interrupt_vector_status source).getD 0b011
    if serial.master_interrupt_control &&& 0x10 ≠ 0 then serial.interrupt_vector &&& 0x8f ||| status <<< 4
    else serial.interrupt_vector &&& 0xf1 ||| status <<< 1

def register_value (channel : Channel) (register : Fin 16) (serial : Z85230) : U8 :=
  let state := serial.channel channel
  let extended_read := state.write_register_prime_seven &&& EXTENDED_READ_ENABLE ≠ 0
  let fifo_status := state.write_register 15 &&& SDLC_STATUS_FIFO_ENABLE ≠ 0
  match register.val with
  | 0 => state.read_register_zero
  | 1 => state.read_register_one
  | 2 => serial.read_interrupt_vector channel
  | 3 => if channel = .A then serial.interrupt_pending_register else 0
  | 4 => if extended_read then state.write_register 4 else state.read_register_zero
  | 5 => if extended_read then state.write_register 5 else state.read_register_one
  | 6 => if fifo_status then 0 else serial.read_interrupt_vector channel
  | 7 => if ¬fifo_status ∧ channel = .A then serial.interrupt_pending_register else 0
  | 8 => state.peek_data
  | 9 => if extended_read then state.write_register 3 else state.write_register 13
  | 10 => 0
  | 11 => if extended_read then state.write_register 10 else state.read_register_fifteen
  | 12 | 13 => state.write_register register
  | 14 => if extended_read then state.write_register_prime_seven else state.write_register 10
  | 15 => state.read_register_fifteen
  | _ => 0

def read_control (channel : Channel) (serial : Z85230) : U8 × Z85230 :=
  let (register, state) := (serial.channel channel).take_selected_register
  let serial := serial.set_channel channel state
  let (value, serial) :=
    if register = 8 then
      let (value, state) := (serial.channel channel).read_data
      (value, serial.set_channel channel state)
    else (serial.register_value channel register, serial)
  if channel = .B ∧ register = 2 ∧ serial.master_interrupt_control &&& SOFTWARE_INTERRUPT_ACKNOWLEDGE ≠ 0 then
    match serial.highest_pending_interrupt with
    | some source => (value, { serial with interrupt_under_service := source :: serial.interrupt_under_service })
    | none => (value, serial)
  else (value, serial)

/-- Reads one byte from a channel control or data port. -/
def read (address length : Nat) (serial : Z85230) : Except BusError U8 × Z85230 :=
  match decode_port address length with
  | .error error => (.error error, serial)
  | .ok (.Control channel) =>
    let (value, serial) := serial.read_control channel
    (.ok value, serial)
  | .ok (.Data channel) =>
    let (value, state) := (serial.channel channel).read_data
    (.ok value, serial.set_channel channel state)

def reset_highest_interrupt_under_service (serial : Z85230) : Z85230 :=
  match InterruptSource.PRIORITY_ORDER.find? serial.interrupt_under_service.contains with
  | some source => { serial with interrupt_under_service := serial.interrupt_under_service.filter (· ≠ source) }
  | none => serial

def reset_channel_interrupts_under_service (channel : Channel) (serial : Z85230) : Z85230 :=
  { serial with interrupt_under_service := serial.interrupt_under_service.filter (·.channel ≠ channel) }

def execute_command (channel : Channel) (value : U8) (serial : Z85230) : Z85230 :=
  match (value >>> 3 &&& 7).toNat with
  | 4 => serial.set_channel channel (serial.channel channel).enable_interrupt_on_next_receive_character
  | 5 => serial.set_channel channel (serial.channel channel).reset_transmit_interrupt_pending
  | 6 => serial.set_channel channel (serial.channel channel).reset_receive_errors
  | 7 => serial.reset_highest_interrupt_under_service
  | _ => serial

def write_master_interrupt_control (value : U8) (serial : Z85230) : Z85230 :=
  let serial := match (value &&& 0xc0).toNat with
    | 0x40 => ({ serial with channel_b := .new } : Z85230).reset_channel_interrupts_under_service .B
    | 0x80 => ({ serial with channel_a := .new } : Z85230).reset_channel_interrupts_under_service .A
    | 0xc0 => serial.reset_except_master_interrupt_control
    | _ => serial
  { serial with master_interrupt_control := value &&& 0x3f }

def start_transmitter (channel : Channel) (serial : Z85230) : Z85230 :=
  serial.set_channel channel ((serial.channel channel).start_transmitter serial.clock_hz).2

/-- Writes the register a control port has selected. -/
def write_selected (channel : Channel) (register : Fin 16) (value : U8) (serial : Z85230) : Z85230 :=
  if register = 2 then { serial with interrupt_vector := value }
  else if register = 9 then serial.write_master_interrupt_control value
  else if register = 7 ∧ (serial.channel channel).write_register 15 &&& 1 ≠ 0 then
    serial.set_channel channel { serial.channel channel with write_register_prime_seven := value }
  else serial.set_channel channel ((serial.channel channel).set_write_register register value)

def write_control (channel : Channel) (value : U8) (serial : Z85230) : Z85230 :=
  let register := (serial.channel channel).selected_register
  if register = 0 then
    (serial.set_channel channel ((serial.channel channel).select_register value)).execute_command channel value
  else
    let serial := serial.set_channel channel { serial.channel channel with selected_register := 0 }
    (serial.write_selected channel register value).start_transmitter channel

/-- Writes one byte to a channel control or data port. -/
def write (address : Nat) (data : List U8) (serial : Z85230) : Except BusError Unit × Z85230 :=
  match decode_port address data.length with
  | .error error => (.error error, serial)
  | .ok (.Control channel) => (.ok (), serial.write_control channel (data[0]?.getD 0))
  | .ok (.Data channel) =>
    let (accepted, state) := (serial.channel channel).write_data (data[0]?.getD 0)
    let serial := serial.set_channel channel state
    (.ok (), if accepted then serial.start_transmitter channel else serial)

/-- Advances both transmitters and reports completed characters. -/
def advance_time (elapsed : Nat) (serial : Z85230) : List (Channel × U8) × Z85230 :=
  let a := serial.channel_a.advance_time serial.clock_hz elapsed
  let b := serial.channel_b.advance_time serial.clock_hz elapsed
  (a.1.map (Prod.mk .A) ++ b.1.map (Prod.mk .B), { serial with channel_a := a.2, channel_b := b.2 })

def time_until_event (serial : Z85230) : Option Delay :=
  earliest (serial.channel_a.active_character.map (·.remaining_attoseconds))
    (serial.channel_b.active_character.map (·.remaining_attoseconds))

end Z85230

end se_device.z85230
