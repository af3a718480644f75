import SgiEmu.Board.Memory
import SgiEmu.Board.Scsi
import SgiEmu.Device.Hpc1.Scsi
import SgiEmu.Device.Scsi.Chunk

open se_core se_device.hpc1 se_device.pic1 se_device.scsi se_device.wd33c93b

namespace se_machine.ip12

/-! ## The DMA engine of the board

The SCSI channel of HPC1, and the memory its chain and its buffers lie in. -/

structure ScsiDma where
  hpc1 : ScsiChannel
  memory : LocalMemory
  pic1 : Pic1

namespace ScsiDma

variable {dma next : ScsiDma} {bytes : List U8}

def stop_scsi_dma (dma : ScsiDma) : ScsiDma := { dma with hpc1 := dma.hpc1.stop_scsi_dma }

/-- The active window, or that of the next descriptor. A loaded descriptor without a
window stops the channel, so that one fetch is enough. -/
def next_scsi_dma_window (dma : ScsiDma) : Option ScsiDmaWindow × ScsiDma :=
  match dma.hpc1.scsi_dma_window with
  | some window => (some window, dma)
  | none =>
    match dma.hpc1.take_scsi_descriptor_fetch with
    | (none, _) => (none, dma)
    | (some descriptor_address, hpc1) =>
      match dma.memory.read_dma dma.pic1 descriptor_address 12 with
      | (none, pic1) => (none, { dma with hpc1, pic1 }.stop_scsi_dma)
      | (some descriptor, pic1) =>
        let loaded := { dma with hpc1 := hpc1.load_scsi_descriptor descriptor, pic1 }
        match loaded.hpc1.scsi_dma_window with
        | none => (none, loaded.stop_scsi_dma)
        | some window => (some window, loaded)

/-- Writes a chunk to the buffer, then advances the cursor. A chunk is no longer than
its window, so that its length fits the count's width. -/
def store (dma : ScsiDma) (bytes : List U8) : Bool × ScsiDma :=
  match dma.memory.write_dma dma.pic1 dma.hpc1.current_buffer_address bytes with
  | (false, memory, pic1) => (false, { dma with memory, pic1 })
  | (true, memory, pic1) =>
    match dma.hpc1.consume_scsi_dma_bytes bytes.length with
    | none => (false, { dma with memory, pic1 })
    | some hpc1 => (true, { hpc1, memory, pic1 })

def load (dma : ScsiDma) (byte_count : Nat) : Option (List U8) × ScsiDma :=
  match dma.memory.read_dma dma.pic1 dma.hpc1.current_buffer_address byte_count with
  | (data, pic1) => (data, { dma with pic1 })

def consume (dma : ScsiDma) (byte_count : Nat) : Bool × ScsiDma :=
  match dma.hpc1.consume_scsi_dma_bytes byte_count with
  | none => (false, dma)
  | some hpc1 => (true, { dma with hpc1 })

/-- The channel and memory in the place of the board's DMA engine. -/
def engine : DmaEngine ScsiDma where
  next_window dma :=
    match dma.next_scsi_dma_window with
    | (window, dma) =>
      (window.map fun window => { byte_count := window.byte_count, to_memory := window.to_memory }, dma)
  store := store
  load := load
  consume := consume
  finish dma := { dma with hpc1 := dma.hpc1.finish_scsi_dma }
  stop := stop_scsi_dma

/-! ## Windows -/

/-- The bytes left in the loaded descriptor. -/
def held (dma : ScsiDma) : Nat := if dma.hpc1.descriptor_loaded then dma.hpc1.byte_count else 0

/-- A window is the loaded descriptor's, at its cursor. -/
structure Opens (dma : ScsiDma) (window : DmaWindow) : Prop where
  count : window.byte_count = dma.hpc1.byte_count
  loaded : dma.hpc1.descriptor_loaded = true

/-- How the engine comes to a window: it had it, or it ran out of its descriptor and
loaded the next. -/
structure Fetches (dma : ScsiDma) (loaded : Nat) (next : ScsiDma) : Prop where
  count : dma.held + loaded = next.held
  memory : next.memory = dma.memory

theorem opens_of_window {window : ScsiDmaWindow} (h : dma.hpc1.scsi_dma_window = some window) :
    dma.Opens { byte_count := window.byte_count, to_memory := window.to_memory } := by
  unfold ScsiChannel.scsi_dma_window at h
  split at h
  case isTrue => simp at h
  case isFalse hopen =>
    obtain rfl := Option.some.inj h
    refine ⟨rfl, ?_⟩
    by_contra hunloaded
    apply hopen
    exact Or.inr (Or.inl (by simpa using hunloaded))

/-- A started channel without a window has used up its descriptor. -/
theorem held_eq_zero (hstarted : dma.hpc1.control &&& SCSI_START_DMA ≠ 0) (h : dma.hpc1.scsi_dma_window = none) :
    dma.held = 0 := by
  unfold ScsiChannel.scsi_dma_window at h
  split at h
  case isFalse => simp at h
  case isTrue hclosed =>
    unfold held
    split
    case isTrue hloaded =>
      obtain hstopped | hunloaded | hzero := hclosed
      · exact absurd hstopped hstarted
      · rw [hloaded] at hunloaded
        simp at hunloaded
      · exact hzero
    case isFalse => rfl

theorem started_of_window {channel : ScsiChannel} {window : ScsiDmaWindow} (h : channel.scsi_dma_window = some window) :
    channel.control &&& SCSI_START_DMA ≠ 0 := by
  intro hstopped
  unfold ScsiChannel.scsi_dma_window at h
  rw [if_pos (Or.inl hstopped)] at h
  simp at h

theorem next_window_some {window : DmaWindow} (h : engine.next_window dma = (some window, next)) :
    next.Opens window ∧ ∃ loaded, dma.Fetches loaded next := by
  have hnext : ∃ opened, dma.next_scsi_dma_window = (some opened, next) ∧
      window = { byte_count := opened.byte_count, to_memory := opened.to_memory } := by
    simp only [engine] at h
    cases hfound : dma.next_scsi_dma_window with
    | mk found after =>
      rw [hfound] at h
      cases found with
      | none => simp at h
      | some opened =>
        simp only [Option.map_some, Prod.mk.injEq, Option.some.injEq] at h
        obtain ⟨rfl, rfl⟩ := h
        exact ⟨opened, rfl, rfl⟩
  obtain ⟨opened, hnext, rfl⟩ := hnext
  unfold next_scsi_dma_window at hnext
  split at hnext
  case h_1 hwindow =>
    simp only [Prod.mk.injEq, Option.some.injEq] at hnext
    obtain ⟨rfl, rfl⟩ := hnext
    exact ⟨opens_of_window hwindow, 0, rfl, rfl⟩
  case h_2 hwindow =>
    unfold ScsiChannel.take_scsi_descriptor_fetch at hnext
    split at hnext
    case h_1 => simp at hnext
    case h_2 address hpc1 hfetch =>
      split at hnext
      case h_1 => simp at hnext
      case h_2 descriptor pic1 hread =>
        dsimp only at hnext
        split at hnext
        case h_1 => simp at hnext
        case h_2 found hloaded =>
          simp only [Prod.mk.injEq, Option.some.injEq] at hnext
          obtain ⟨rfl, rfl⟩ := hnext
          have hcontrol : hpc1.control = dma.hpc1.control := by
            split at hfetch
            · simp at hfetch
            · obtain ⟨-, rfl⟩ := Prod.mk.inj hfetch
              rfl
          have hstarted : dma.hpc1.control &&& SCSI_START_DMA ≠ 0 := by
            have hopened : (hpc1.load_scsi_descriptor descriptor).control &&& SCSI_START_DMA ≠ 0 := started_of_window hloaded
            rw [← hcontrol]
            exact hopened
          refine ⟨opens_of_window hloaded,
            held { dma with hpc1 := hpc1.load_scsi_descriptor descriptor, pic1 }, ?_, rfl⟩
          rw [held_eq_zero hstarted hwindow, Nat.zero_add]

/-- A chain that gives no window has changed nothing in memory. -/
theorem next_window_none (h : engine.next_window dma = (none, next)) : next.memory = dma.memory := by
  have hnext : dma.next_scsi_dma_window.2 = next := (Prod.mk.inj h).2
  unfold next_scsi_dma_window at hnext
  split at hnext
  case h_1 =>
    obtain rfl := hnext
    rfl
  case h_2 =>
    split at hnext
    case h_1 =>
      obtain rfl := hnext
      rfl
    case h_2 =>
      split at hnext
      case h_1 =>
        obtain rfl := hnext
        rfl
      case h_2 =>
        dsimp only at hnext
        split at hnext
        case h_1 =>
          obtain rfl := hnext
          rfl
        case h_2 =>
          obtain rfl := hnext
          rfl

/-! ## Chunks -/

/-- A chunk in memory at the cursor, which has advanced over it: laid out there by a
read of the target, taken from there by a write. -/
structure Moves (dma : ScsiDma) (bytes : List U8) (direction : ScsiDataDirection) (next : ScsiDma) : Prop where
  consumed : dma.hpc1.consume_scsi_dma_bytes bytes.length = some next.hpc1
  stored : direction = .In →
    LocalMemory.Stored dma.memory dma.pic1 dma.hpc1.current_buffer_address bytes next.memory
  loaded : direction = .Out →
    LocalMemory.Loaded dma.memory dma.pic1 dma.hpc1.current_buffer_address bytes ∧ next.memory = dma.memory

/-- A faulted access: nothing but the error latch of PIC1 changes. -/
structure Faults (dma next : ScsiDma) : Prop where
  hpc1 : next.hpc1 = dma.hpc1
  memory : next.memory = dma.memory

theorem held_of_consumed {channel : ScsiChannel} {byte_count : Nat} (hloaded : dma.hpc1.descriptor_loaded = true)
    (h : dma.hpc1.consume_scsi_dma_bytes byte_count = some channel) :
    dma.held = (if channel.descriptor_loaded then channel.byte_count else 0) + byte_count := by
  have hcount := ScsiChannel.consume_scsi_dma_bytes_count h
  have hkept : channel.descriptor_loaded = true ∨ channel.byte_count = 0 := by
    unfold ScsiChannel.consume_scsi_dma_bytes at h
    split at h
    · simp at h
    · dsimp only at h
      split at h
      case isTrue hzero =>
        split at h
        · obtain rfl := Option.some.inj h
          exact Or.inr hzero
        · obtain rfl := Option.some.inj h
          exact Or.inr hzero
      case isFalse =>
        obtain rfl := Option.some.inj h
        exact Or.inl hloaded
  unfold held
  rw [if_pos hloaded]
  split
  · exact hcount
  case isFalse hunloaded =>
    obtain hkept | hzero := hkept
    · exact absurd hkept hunloaded
    · omega

/-- A chunk that fits the window is stored whole, or faults. -/
theorem store_cases (hfits : bytes.length ≤ dma.hpc1.byte_count) :
    (∃ next, dma.store bytes = (false, next) ∧ dma.Faults next) ∨
      ∃ next, dma.store bytes = (true, next) ∧ dma.Moves bytes .In next := by
  unfold store
  obtain hfault | ⟨memory, hwritten, hstored⟩ :=
    dma.memory.write_dma_cases dma.pic1 dma.hpc1.current_buffer_address bytes
  · rw [hfault]
    exact Or.inl ⟨_, rfl, rfl, rfl⟩
  · obtain ⟨channel, hconsumed⟩ := ScsiChannel.consume_scsi_dma_bytes_some hfits
    rw [hwritten]
    simp only [hconsumed]
    refine Or.inr ⟨_, rfl, hconsumed, fun _ => hstored, ?_⟩
    rintro ⟨⟩

/-- A DMA access to no bytes faults. -/
theorem dma_module_empty (memory : LocalMemory) (pic1 : Pic1) (address : U32) :
    memory.dma_module pic1 address 0 = none := by
  simp [LocalMemory.dma_module, Pic1.decode_memory]

theorem stored_nonempty {memory after : LocalMemory} {pic1 : Pic1} {address : U32}
    (h : LocalMemory.Stored memory pic1 address bytes after) : bytes ≠ [] := by
  rintro rfl
  cases h with
  | laid_out index offset ram hmodule hfits =>
    rw [List.length_nil, dma_module_empty] at hmodule
    simp at hmodule

theorem loaded_nonempty {memory : LocalMemory} {pic1 : Pic1} {address : U32}
    (h : LocalMemory.Loaded memory pic1 address bytes) : bytes ≠ [] := by
  rintro rfl
  obtain ⟨index, offset, ram, hmodule, _⟩ := h
  rw [List.length_nil, dma_module_empty] at hmodule
  simp at hmodule

theorem load_cases (dma : ScsiDma) (byte_count : Nat) :
    (∃ next, dma.load byte_count = (none, next) ∧ dma.Faults next) ∨
      ∃ data, dma.load byte_count = (some data, dma) ∧ data.length = byte_count ∧
        LocalMemory.Loaded dma.memory dma.pic1 dma.hpc1.current_buffer_address data := by
  unfold load
  obtain hfault | ⟨data, hread, hlength, hloaded⟩ :=
    dma.memory.read_dma_cases dma.pic1 dma.hpc1.current_buffer_address byte_count
  · rw [hfault]
    exact Or.inl ⟨_, rfl, rfl, rfl⟩
  · rw [hread]
    exact Or.inr ⟨data, rfl, hlength, hloaded⟩

end ScsiDma

end se_machine.ip12
