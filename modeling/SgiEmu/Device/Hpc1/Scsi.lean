import SgiEmu.Device.Register

open se_core

namespace se_device.hpc1

def SCSI_TO_MEMORY : U8 := 0x10#8
def SCSI_START_DMA : U8 := 0x80#8
def SCSI_BYTE_COUNT_MASK : U32 := 0x1fff#32
def SCSI_ADDRESS_MASK : U32 := 0x0fffffff#32
def SCSI_DESCRIPTOR_END : U32 := 1#32 <<< 31

/-- One active region of the SCSI descriptor chain. -/
structure ScsiDmaWindow where
  buffer_address : U32
  byte_count : Nat
  to_memory : Bool
deriving DecidableEq, Repr

/-- The descriptor state of the SCSI channel. The diagnostic FIFO and the reset
output, which no transfer reads, are left out. -/
structure ScsiChannel where
  byte_count : Nat
  current_buffer_address : U32
  next_descriptor_pointer : U32
  descriptor_end : Bool
  descriptor_loaded : Bool
  descriptor_fetch_pending : Bool
  control : U8
deriving DecidableEq, Repr

namespace ScsiChannel

variable {channel next : ScsiChannel}

def take_scsi_descriptor_fetch (channel : ScsiChannel) : Option U32 × ScsiChannel :=
  if !channel.descriptor_fetch_pending then (none, channel)
  else (some channel.next_descriptor_pointer, { channel with descriptor_fetch_pending := false })

/-- Loads one big-endian descriptor: count, buffer and next pointer. -/
def load_scsi_descriptor (channel : ScsiChannel) (descriptor : List U8) : ScsiChannel :=
  let count := be_word descriptor 0
  let buffer := be_word descriptor 4
  let next := be_word descriptor 8
  { channel with
    byte_count := (count &&& SCSI_BYTE_COUNT_MASK).toNat
    current_buffer_address := buffer &&& SCSI_ADDRESS_MASK
    next_descriptor_pointer := next &&& SCSI_ADDRESS_MASK
    descriptor_end := buffer &&& SCSI_DESCRIPTOR_END != 0
    descriptor_loaded := true
    descriptor_fetch_pending := false }

def scsi_dma_window (channel : ScsiChannel) : Option ScsiDmaWindow :=
  if channel.control &&& SCSI_START_DMA = 0 ∨ !channel.descriptor_loaded ∨ channel.byte_count = 0 then none
  else
    some
      { buffer_address := channel.current_buffer_address, byte_count := channel.byte_count
        to_memory := channel.control &&& SCSI_TO_MEMORY != 0 }

/-- Advances the cursor over a chunk, if the descriptor has its bytes. -/
def consume_scsi_dma_bytes (channel : ScsiChannel) (byte_count : Nat) : Option ScsiChannel :=
  if byte_count > channel.byte_count then none
  else
    let channel :=
      { channel with
        byte_count := channel.byte_count - byte_count
        current_buffer_address := (channel.current_buffer_address + BitVec.ofNat 32 byte_count) &&& SCSI_ADDRESS_MASK }
    if channel.byte_count = 0 then
      if channel.descriptor_end then
        some { channel with descriptor_loaded := false, control := channel.control &&& ~~~SCSI_START_DMA }
      else some { channel with descriptor_loaded := false, descriptor_fetch_pending := true }
    else some channel

/-- Ends a short transfer; the descriptor keeps its residual. -/
def finish_scsi_dma (channel : ScsiChannel) : ScsiChannel :=
  { channel with control := channel.control &&& ~~~SCSI_START_DMA, descriptor_fetch_pending := false }

def stop_scsi_dma (channel : ScsiChannel) : ScsiChannel :=
  { channel with control := channel.control &&& ~~~SCSI_START_DMA, descriptor_fetch_pending := false }

/-! ## Consumed bytes -/

/-- A consumed chunk is what the descriptor loses. -/
theorem consume_scsi_dma_bytes_count {byte_count : Nat} (h : channel.consume_scsi_dma_bytes byte_count = some next) :
    channel.byte_count = next.byte_count + byte_count := by
  unfold consume_scsi_dma_bytes at h
  split at h
  case isTrue => simp at h
  case isFalse hfits =>
    dsimp only at h
    have hfits : byte_count ≤ channel.byte_count := Nat.le_of_not_gt hfits
    split at h
    · split at h
      · obtain rfl := Option.some.inj h
        exact (Nat.sub_add_cancel hfits).symm
      · obtain rfl := Option.some.inj h
        exact (Nat.sub_add_cancel hfits).symm
    · obtain rfl := Option.some.inj h
      exact (Nat.sub_add_cancel hfits).symm

theorem consume_scsi_dma_bytes_some {byte_count : Nat} (h : byte_count ≤ channel.byte_count) :
    ∃ next, channel.consume_scsi_dma_bytes byte_count = some next := by
  unfold consume_scsi_dma_bytes
  rw [if_neg (Nat.not_lt_of_le h)]
  dsimp only
  split
  · split
    · exact ⟨_, rfl⟩
    · exact ⟨_, rfl⟩
  · exact ⟨_, rfl⟩

end ScsiChannel

end se_device.hpc1
