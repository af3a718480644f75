import Mathlib.Algebra.Ring.Nat
import SgiEmu.Core.Time
import SgiEmu.Core.Word

open se_core se_core.time

namespace se_device.pic1

def DESCRIPTOR_ADDRESS_MASK : U32 := 0x0fffffff#32
def GRAPHICS_DMA_CLOCK_HZ : Nat := 33000000

/-- `ATTOSECONDS_PER_SECOND.div_ceil(GRAPHICS_DMA_CLOCK_HZ)`. -/
def GRAPHICS_DMA_CYCLE_ATTOSECONDS : Nat :=
  (ATTOSECONDS_PER_SECOND + GRAPHICS_DMA_CLOCK_HZ - 1) / GRAPHICS_DMA_CLOCK_HZ

def GRAPHICS_DMA_DESCRIPTOR_CYCLES : Nat := 5
def GRAPHICS_DMA_DESCRIPTOR_BYTES : Nat := 20
def GRAPHICS_DMA_PAGE_BYTES : Nat := 4096
def GRAPHICS_DMA_STRIDE_INCREMENT : U32 := 1#32 <<< 31
def GRAPHICS_DMA_FULL_PAGE : U32 := 1#32 <<< 30
def GRAPHICS_DMA_GRAPHICS_STRIDE_SHIFT : Nat := 16
def GRAPHICS_DMA_LAST_DESCRIPTOR : U32 := 1#32 <<< 15
def GRAPHICS_DMA_LINE_INCREMENT : U32 := 1#32 <<< 14
def GRAPHICS_DMA_MODE_SHIFT : Nat := 12
def GRAPHICS_DMA_MODE_MASK : U32 := 0x03#32
def GRAPHICS_DMA_WIDTH_MASK : U32 := 0x0fff#32

inductive GraphicsDmaDirection where
  | MemoryToGio
  | GioToMemory
deriving DecidableEq, Repr

/-- One bounded board operation requested by the channel. -/
inductive GraphicsDmaRequest where
  | ReadDescriptor (address : U32)
  | TransferLine (direction : GraphicsDmaDirection) (memory_address gio_address : U32) (length : Nat)
deriving DecidableEq, Repr

inductive GraphicsDmaStage where
  | Idle
  | WaitingForSync
  | Descriptor
  | Line
deriving DecidableEq, Repr

/-- Graphics-channel registers and active descriptor progress. Times are in attoseconds;
the two of the source are `u128`. -/
structure GraphicsDmaChannel where
  buffer_address : U32
  buffer_length : U32
  destination_address : U32
  stride : U32
  stage : GraphicsDmaStage
  delay_attoseconds : Nat
  elapsed_credit_attoseconds : Nat
  descriptor_address : U32
  line_memory_address : U32
  line_gio_address : U32
  line_width : U16
  line_transfer_bytes : U16
  memory_line_increment : U32
  gio_line_increment : U32
  lines_remaining : Nat
  next_descriptor_address : U32
  last_descriptor : Bool
  direction : GraphicsDmaDirection
  error : Bool
deriving DecidableEq, Repr

/-- The five words of a descriptor. -/
structure GraphicsDescriptor where
  buffer_address : U32
  buffer_length : U32
  destination_address : U32
  stride : U32
  next_descriptor : U32
deriving DecidableEq, Repr

namespace GraphicsDescriptor

def from_be_bytes (bytes : Vector U8 20) : GraphicsDescriptor :=
  { buffer_address := se_core.from_be_bytes #v[bytes[0], bytes[1], bytes[2], bytes[3]]
    buffer_length := se_core.from_be_bytes #v[bytes[4], bytes[5], bytes[6], bytes[7]]
    destination_address := se_core.from_be_bytes #v[bytes[8], bytes[9], bytes[10], bytes[11]]
    stride := se_core.from_be_bytes #v[bytes[12], bytes[13], bytes[14], bytes[15]]
    next_descriptor := se_core.from_be_bytes #v[bytes[16], bytes[17], bytes[18], bytes[19]] }

/-- Accumulation and the remaining undefined mode have no direction. -/
def direction (descriptor : GraphicsDescriptor) : Option GraphicsDmaDirection :=
  match ((descriptor.buffer_length >>> GRAPHICS_DMA_MODE_SHIFT) &&& GRAPHICS_DMA_MODE_MASK).toNat with
  | 0 => some .MemoryToGio
  | 2 => some .GioToMemory
  | _ => none

def line_width (descriptor : GraphicsDescriptor) : U32 :=
  if descriptor.buffer_length &&& GRAPHICS_DMA_FULL_PAGE ≠ 0 then BitVec.ofNat 32 GRAPHICS_DMA_PAGE_BYTES
  else descriptor.buffer_length &&& GRAPHICS_DMA_WIDTH_MASK

end GraphicsDescriptor

def gio_transfer_bytes (line_width : U32) : U32 := BitVec.ofNat 32 ((line_width.toNat + 3) / 4 * 4)

def line_delay_attoseconds (transfer_bytes : Nat) : Nat :=
  let words := transfer_bytes / 4
  let words := if words = 0 then 1 else words
  GRAPHICS_DMA_CYCLE_ATTOSECONDS * words

/-- The low twelve bits as a signed number. -/
def sign_extend_12 (value : U32) : I32 := (value.setWidth 12).signExtend 32

namespace GraphicsDmaChannel

def new : GraphicsDmaChannel :=
  { buffer_address := 0, buffer_length := 0, destination_address := 0, stride := 0, stage := .Idle
    delay_attoseconds := 0, elapsed_credit_attoseconds := 0, descriptor_address := 0, line_memory_address := 0
    line_gio_address := 0, line_width := 0, line_transfer_bytes := 0, memory_line_increment := 0
    gio_line_increment := 0, lines_remaining := 0, next_descriptor_address := 0, last_descriptor := false
    direction := .MemoryToGio, error := false }

def idle (channel : GraphicsDmaChannel) : Bool := channel.stage == .Idle

/-- The stages whose delay runs. -/
def timed (channel : GraphicsDmaChannel) : Bool := channel.stage == .Descriptor || channel.stage == .Line

def set_delay (channel : GraphicsDmaChannel) (delay_attoseconds : Nat) : GraphicsDmaChannel :=
  let consumed := min delay_attoseconds channel.elapsed_credit_attoseconds
  { channel with
    delay_attoseconds := delay_attoseconds - consumed
    elapsed_credit_attoseconds := channel.elapsed_credit_attoseconds - consumed }

def arm_descriptor_fetch (channel : GraphicsDmaChannel) : GraphicsDmaChannel :=
  set_delay { channel with stage := .Descriptor } (GRAPHICS_DMA_CYCLE_ATTOSECONDS * GRAPHICS_DMA_DESCRIPTOR_CYCLES)

def finish (channel : GraphicsDmaChannel) (error : Bool) : GraphicsDmaChannel :=
  { channel with stage := .Idle, delay_attoseconds := 0, error, elapsed_credit_attoseconds := 0 }

def start (channel : GraphicsDmaChannel) (descriptor_address : U32) (sync_enabled sync_asserted : Bool) :
    GraphicsDmaChannel :=
  if !channel.idle then channel
  else
    let channel := { channel with error := false, elapsed_credit_attoseconds := 0, descriptor_address }
    if sync_enabled && !sync_asserted then { channel with stage := .WaitingForSync, delay_attoseconds := 0 }
    else channel.arm_descriptor_fetch

def time_until_event (channel : GraphicsDmaChannel) : Option Nat :=
  if channel.timed then some channel.delay_attoseconds else none

/-- The largest `u128`. -/
def U128_MAX : Nat := 2 ^ 128 - 1

def advance_time (channel : GraphicsDmaChannel) (elapsed : Nat) : GraphicsDmaChannel :=
  if !channel.timed then channel
  else if elapsed ≥ channel.delay_attoseconds then
    { channel with
      elapsed_credit_attoseconds :=
        min (channel.elapsed_credit_attoseconds + (elapsed - channel.delay_attoseconds)) U128_MAX
      delay_attoseconds := 0 }
  else { channel with delay_attoseconds := channel.delay_attoseconds - elapsed }

/-- A descriptor is fetched from a word address and within one page. -/
def misplaced (address : U32) : Bool :=
  address.toNat % 4 != 0 ||
    decide ((address &&& BitVec.ofNat 32 (GRAPHICS_DMA_PAGE_BYTES - 1)).toNat >
      GRAPHICS_DMA_PAGE_BYTES - GRAPHICS_DMA_DESCRIPTOR_BYTES)

def next_request (channel : GraphicsDmaChannel) : Option GraphicsDmaRequest × GraphicsDmaChannel :=
  if channel.delay_attoseconds ≠ 0 then (none, channel)
  else
    match channel.stage with
    | .Descriptor =>
      if misplaced channel.descriptor_address then (none, channel.finish true)
      else (some (.ReadDescriptor channel.descriptor_address), channel)
    | .Line =>
      (some (.TransferLine channel.direction channel.line_memory_address channel.line_gio_address
        channel.line_transfer_bytes.toNat), channel)
    | .Idle | .WaitingForSync => (none, channel)

def complete_descriptor (channel : GraphicsDmaChannel) (descriptor : Option (Vector U8 20)) : GraphicsDmaChannel :=
  match descriptor with
  | none => channel.finish true
  | some bytes =>
    let descriptor := GraphicsDescriptor.from_be_bytes bytes
    let channel :=
      { channel with
        buffer_address := descriptor.buffer_address
        buffer_length := descriptor.buffer_length
        destination_address := descriptor.destination_address
        stride := descriptor.stride }
    match descriptor.direction with
    | none => channel.finish true
    | some direction =>
      let line_width := descriptor.line_width
      let line_transfer_bytes := gio_transfer_bytes line_width
      let host_stride := sign_extend_12 (descriptor.stride >>> GRAPHICS_DMA_GRAPHICS_STRIDE_SHIFT)
      let graphics_stride := sign_extend_12 (descriptor.buffer_length >>> GRAPHICS_DMA_GRAPHICS_STRIDE_SHIFT)
      let memory_line_increment := line_width + host_stride
      let gio_line_increment :=
        (if descriptor.buffer_length &&& GRAPHICS_DMA_LINE_INCREMENT ≠ 0 then line_width else 0) +
          (if descriptor.buffer_length &&& GRAPHICS_DMA_STRIDE_INCREMENT ≠ 0 then graphics_stride else 0)
      set_delay
        { channel with
          direction
          line_memory_address := descriptor.buffer_address
          line_gio_address := descriptor.destination_address
          line_width := line_width.setWidth 16
          line_transfer_bytes := line_transfer_bytes.setWidth 16
          memory_line_increment
          gio_line_increment
          lines_remaining := (descriptor.stride.setWidth 16).toNat + 1
          next_descriptor_address := descriptor.next_descriptor &&& DESCRIPTOR_ADDRESS_MASK
          last_descriptor := descriptor.buffer_length &&& GRAPHICS_DMA_LAST_DESCRIPTOR != 0
          stage := .Line }
        (line_delay_attoseconds line_transfer_bytes.toNat)

def complete_line (channel : GraphicsDmaChannel) (success : Bool) : GraphicsDmaChannel :=
  if !success then channel.finish true
  else if channel.lines_remaining > 1 then
    set_delay
      { channel with
        lines_remaining := channel.lines_remaining - 1
        line_memory_address := channel.line_memory_address + channel.memory_line_increment
        line_gio_address := channel.line_gio_address + channel.gio_line_increment }
      (line_delay_attoseconds channel.line_transfer_bytes.toNat)
  else if channel.last_descriptor then channel.finish false
  else arm_descriptor_fetch { channel with descriptor_address := channel.next_descriptor_address }

end GraphicsDmaChannel

end se_device.pic1
