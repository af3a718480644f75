import SgiEmu.Board.Ethernet.Receive
import SgiEmu.Board.Memory

open se_core se_device se_device.hpc1 Library.Mask

namespace se_machine.ip12

/-! ## Addresses of 28 bits -/

/-- An offset into a buffer whose address has 28 bits. -/
def wrapped (buffer : U32) (offset : Nat) : U32 := (buffer + BitVec.ofNat 32 offset) &&& ETHERNET_ADDRESS_MASK

theorem wrapped_toNat (buffer : U32) (offset : Nat) : (wrapped buffer offset).toNat = (buffer.toNat + offset) % 2 ^ 28 := by
  unfold wrapped
  rw [toNat_and_low (show ETHERNET_ADDRESS_MASK.toNat = 2 ^ 28 - 1 by decide), BitVec.toNat_add, BitVec.toNat_ofNat]
  omega

theorem wrapped_add (buffer : U32) (offset more : Nat) :
    wrapped (wrapped buffer offset) more = wrapped buffer (offset + more) := by
  apply BitVec.eq_of_toNat_eq
  rw [wrapped_toNat, wrapped_toNat, wrapped_toNat]
  omega

theorem wrapped_mask (buffer : U32) (offset : Nat) : wrapped (buffer &&& ETHERNET_ADDRESS_MASK) offset = wrapped buffer offset := by
  apply BitVec.eq_of_toNat_eq
  rw [wrapped_toNat, wrapped_toNat, toNat_and_low (show ETHERNET_ADDRESS_MASK.toNat = 2 ^ 28 - 1 by decide)]
  omega

/-- A pointer register keeps its flag beside the address it advances to. -/
theorem advanced_pointer (flag address : U32) (offset : Nat) :
    ((flag &&& ETHERNET_BUFFER_END_OF_CHAIN) |||
        (((address &&& ETHERNET_ADDRESS_MASK) + BitVec.ofNat 32 offset) &&& ETHERNET_ADDRESS_MASK)) &&&
      ETHERNET_ADDRESS_MASK = wrapped address offset := by
  have hflag : flag &&& ETHERNET_BUFFER_END_OF_CHAIN &&& ETHERNET_ADDRESS_MASK = 0 := by
    rw [BitVec.and_assoc, show ETHERNET_BUFFER_END_OF_CHAIN &&& ETHERNET_ADDRESS_MASK = 0 by decide]
    exact BitVec.and_zero
  rw [or_and_of_disjoint_left hflag, BitVec.and_assoc, BitVec.and_self]
  exact wrapped_mask address offset

/-! ## One frame on its way into a descriptor -/

/-- A frame with its status byte, and the descriptor that takes it. -/
structure Reception where
  bytes : List U8
  pointer : U32
  descriptor : List U8

namespace Reception

def control (reception : Reception) : U32 := be_word reception.descriptor 0

def buffer (reception : Reception) : U32 := be_word reception.descriptor 4

def next (reception : Reception) : U32 := be_word reception.descriptor 8 &&& ETHERNET_ADDRESS_MASK

/-- The bytes the buffer has room for behind the two it leaves alone. -/
def capacity (reception : Reception) : Nat := (reception.control &&& ETHERNET_BYTE_COUNT_MASK).toNat - 2

def total (reception : Reception) : Nat := min reception.bytes.length reception.capacity

def overflows (reception : Reception) : Bool := decide (reception.capacity < reception.bytes.length)

def end_of_ring (reception : Reception) : Bool := reception.buffer &&& ETHERNET_BUFFER_END_OF_CHAIN != 0

/-- Where a byte is stored: chunks of 32 bytes lie at wrapped addresses. -/
def place (reception : Reception) (index : Nat) : U32 :=
  wrapped reception.buffer (2 + 32 * (index / 32)) + BitVec.ofNat 32 (index % 32)

/-- The bytes that fit, in order, each with its address. -/
def placed (reception : Reception) : List (U32 × U8) :=
  (reception.bytes.take reception.total).mapIdx fun index byte => (reception.place index, byte)

/-- The write that gives the descriptor back, with what is left of its count. -/
def completion (reception : Reception) : EthernetRequest :=
  .Write reception.pointer (to_be_bytes (BitVec.ofNat 32 (reception.capacity - reception.total))).toList
    .ReceiveCompletion

/-- Inside a chunk the address does not wrap unless the chunk runs over the end. -/
theorem place_eq_wrapped (reception : Reception) (index : Nat)
    (h : (wrapped reception.buffer (2 + 32 * (index / 32))).toNat + index % 32 < 2 ^ 28) :
    reception.place index = wrapped reception.buffer (2 + index) := by
  unfold place
  apply BitVec.eq_of_toNat_eq
  rw [wrapped_toNat] at h
  rw [BitVec.toNat_add, BitVec.toNat_ofNat, wrapped_toNat, wrapped_toNat]
  omega

/-! ## The states a frame passes through -/

/-- The channel waits for its descriptor. -/
structure Awaiting (reception : Reception) (half : ReceiveHalf) : Prop where
  stage : half.stage = .Descriptor
  frame : half.frame = reception.bytes
  offset : half.offset = 0
  active : half.active = true
  running : half.held_in_reset = false
  pointer : half.next_descriptor_pointer = reception.pointer

/-- The channel has stored `count` bytes. -/
structure Storing (reception : Reception) (half : ReceiveHalf) (count : Nat) : Prop where
  stage : half.stage = .Data
  frame : half.frame = reception.bytes
  offset : half.offset = count
  active : half.active = true
  running : half.held_in_reset = false
  byte_count : half.byte_count = BitVec.ofNat 32 (reception.capacity - count)
  buffer : half.current_buffer_pointer &&& ETHERNET_ADDRESS_MASK = wrapped reception.buffer (2 + count)
  end_of_ring : half.end_of_ring = reception.end_of_ring
  pointer : half.current_descriptor_pointer = reception.pointer
  next : half.next_descriptor_pointer = reception.next
  le_total : count ≤ reception.total
  aligned : 32 ∣ count ∨ count = reception.total

/-- The frame is in memory and its descriptor is given back. -/
structure Received (reception : Reception) (half : ReceiveHalf) : Prop where
  stage : half.stage = .Idle
  active : half.active = !(reception.end_of_ring || reception.overflows)
  running : half.held_in_reset = false
  next : half.next_descriptor_pointer = reception.next

variable {reception : Reception} {channel : EthernetChannel}

theorem capacity_lt (reception : Reception) : reception.capacity < 2 ^ 13 := by
  unfold capacity
  rw [toNat_and_low (show ETHERNET_BYTE_COUNT_MASK.toNat = 2 ^ 13 - 1 by decide)]
  omega

/-- The descriptor arrives. -/
theorem Awaiting.served (h : reception.Awaiting channel.receive_half)
    (howned : reception.control &&& ETHERNET_RECEIVE_OWNED ≠ 0) (hlength : reception.descriptor.length = 12)
    {memory : U32 → Option U8} (hmemory : read_dma memory reception.pointer 12 = some reception.descriptor)
    (accepted : Bool) (status : U8) (interrupt : Bool) :
    let asked := channel.receive_request
    asked.1 = some (.Read reception.pointer 12 .ReceiveDescriptor) ∧
      reception.Storing (asked.2.answer asked.1 memory accepted status interrupt).receive_half 0 ∧
      (asked.2.answer asked.1 memory accepted status interrupt).overflow_raised = channel.overflow_raised := by
  have hstage : channel.receive_stage = .Descriptor := h.stage
  have hactive : channel.receive_active = true := h.active
  have hpointer : channel.next_receive_descriptor_pointer = reception.pointer := h.pointer
  intro asked
  have hasked : asked = (some (.Read reception.pointer 12 .ReceiveDescriptor), channel) := by
    rw [← hpointer]
    exact EthernetChannel.receive_request_descriptor hactive hstage
  have hanswer : asked.2.answer asked.1 memory accepted status interrupt =
      EthernetChannel.load_receive_descriptor
        { channel with dma_delay_attoseconds := EthernetChannel.dma_delay reception.descriptor.length }
        reception.control reception.buffer reception.next := by
    rw [hasked]
    show channel.complete_read .ReceiveDescriptor (read_dma memory reception.pointer 12) = _
    rw [hmemory]
    unfold EthernetChannel.complete_read
    dsimp only
    rw [if_neg (not_not_intro hlength)]
    rfl
  rw [hanswer]
  unfold EthernetChannel.load_receive_descriptor
  rw [if_neg howned]
  refine ⟨by rw [hasked], ⟨rfl, h.frame, h.offset, hactive, h.running, ?_, ?_, rfl, hpointer, rfl,
    Nat.zero_le _, .inl (Nat.dvd_zero _)⟩, rfl⟩
  · rw [Nat.sub_zero]
    rfl
  · exact advanced_pointer reception.buffer reception.buffer 2

/-- The size of the next chunk. -/
theorem Storing.chunk_length {count : Nat} (h : reception.Storing channel.receive_half count) :
    min (min channel.receive_byte_count.toNat 32) (channel.receive_frame.length - channel.receive_offset) =
      min 32 (reception.total - count) := by
  have hcapacity := reception.capacity_lt
  have hbytes : channel.receive_byte_count.toNat = reception.capacity - count := by
    rw [show channel.receive_byte_count = BitVec.ofNat 32 (reception.capacity - count) from h.byte_count,
      BitVec.toNat_ofNat, Nat.mod_eq_of_lt (by omega)]
  have hframe : channel.receive_frame = reception.bytes := h.frame
  have hoffset : channel.receive_offset = count := h.offset
  have htotal := h.le_total
  rw [hbytes, hframe, hoffset]
  unfold total at htotal ⊢
  omega

/-- The bytes of a write, each with its address. -/
def stored (address : U32) (bytes : List U8) : List (U32 × U8) :=
  bytes.mapIdx fun index byte => (address + BitVec.ofNat 32 index, byte)

/-- A chunk stores the next bytes where they belong. -/
theorem stored_chunk (reception : Reception) {count : Nat} (haligned : 32 ∣ count) :
    reception.placed.take (count + min 32 (reception.total - count)) =
      reception.placed.take count ++
        stored (wrapped reception.buffer (2 + count))
          ((reception.bytes.drop count).take (min 32 (reception.total - count))) := by
  have htotal : reception.total ≤ reception.bytes.length := Nat.min_le_left _ _
  rw [List.take_add]
  congr 1
  unfold placed stored
  refine List.ext_getElem ?_ fun index hleft hright => ?_
  · simp only [List.length_take, List.length_drop, List.length_mapIdx]
    omega
  · have hindex : index < 32 := by
      simp only [List.length_mapIdx, List.length_take] at hright
      omega
    simp only [List.getElem_take, List.getElem_drop, List.getElem_mapIdx, Prod.mk.injEq, and_true, place]
    obtain ⟨chunk, rfl⟩ := haligned
    rw [show (32 * chunk + index) / 32 = chunk by omega, show (32 * chunk + index) % 32 = index by omega]

/-- A chunk of the frame is stored. -/
theorem Storing.served {count : Nat} (h : reception.Storing channel.receive_half count) (hcount : count < reception.total)
    (memory : U32 → Option U8) (status : U8) (interrupt : Bool) :
    let asked := channel.receive_request
    let address := wrapped reception.buffer (2 + count)
    let bytes := (reception.bytes.drop count).take (min 32 (reception.total - count))
    asked.1 = some (.Write address bytes .ReceiveData) ∧
      reception.placed.take (count + min 32 (reception.total - count)) =
        reception.placed.take count ++ stored address bytes ∧
      reception.Storing (asked.2.answer asked.1 memory true status interrupt).receive_half
        (count + min 32 (reception.total - count)) ∧
      (asked.2.answer asked.1 memory true status interrupt).overflow_raised = channel.overflow_raised := by
  intro asked address bytes
  have hstage : channel.receive_stage = .Data := h.stage
  have hactive : channel.receive_active = true := h.active
  have hframe : channel.receive_frame = reception.bytes := h.frame
  have hoffset : channel.receive_offset = count := h.offset
  have hbuffer : channel.current_receive_buffer_pointer &&& ETHERNET_ADDRESS_MASK = address := h.buffer
  have hlength := h.chunk_length
  have hsome : min 32 (reception.total - count) ≠ 0 := by omega
  have haligned : 32 ∣ count := h.aligned.resolve_right (Nat.ne_of_lt hcount)
  have htotal : reception.total ≤ reception.bytes.length := Nat.min_le_left _ _
  have hasked : asked = (some (.Write address bytes .ReceiveData), channel) := by
    show channel.receive_request_from _ = _
    rw [EthernetChannel.receive_request_from_data _ hactive hstage]
    dsimp only
    rw [hlength, if_neg hsome, hbuffer, hframe, hoffset]
  have hbytes : bytes.length = min 32 (reception.total - count) := by
    simp only [bytes, List.length_take, List.length_drop]
    omega
  refine ⟨by rw [hasked], reception.stored_chunk haligned, ?_, by rw [hasked]; rfl⟩
  rw [hasked]
  show reception.Storing (channel.complete_write .ReceiveData bytes.length true).receive_half _
  rw [hbytes]
  refine ⟨hstage, hframe, ?_, hactive, h.running, ?_, ?_, h.end_of_ring, h.pointer, h.next, by omega, by omega⟩
  · show channel.receive_offset + _ = _
    rw [hoffset]
  · show BitVec.ofNat 32 (channel.receive_byte_count.toNat - _) = _
    have hcapacity := reception.capacity_lt
    rw [show channel.receive_byte_count = BitVec.ofNat 32 (reception.capacity - count) from h.byte_count,
      BitVec.toNat_ofNat, Nat.mod_eq_of_lt (by omega), Nat.sub_sub]
  · show ((channel.current_receive_buffer_pointer &&& ETHERNET_BUFFER_END_OF_CHAIN) ||| _) &&& _ = _
    rw [advanced_pointer, ← wrapped_mask, hbuffer, ← Nat.add_assoc]
    exact wrapped_add _ _ _

/-- What the end of a frame leaves of the status and control bits. -/
theorem finish_receive_spec (channel : EthernetChannel) :
    channel.finish_receive.receive_active =
        (channel.receive_active && !(channel.receive_end_of_ring || channel.receive_overflow)) ∧
      channel.finish_receive.held_in_reset = channel.held_in_reset ∧
      channel.finish_receive.overflow_raised = (channel.overflow_raised || channel.receive_overflow) := by
  have hinterrupt : ∀ raise : Bool, (if raise then ETHERNET_INTERRUPT else 0) &&& ETHERNET_OVERFLOW = 0 ∧
      (if raise then ETHERNET_INTERRUPT else 0) &&& ETHERNET_RESET_CHANNEL = 0 := by decide
  have hoverflow : ∀ overflow : Bool,
      (if overflow then ETHERNET_OVERFLOW ||| ETHERNET_INTERRUPT else 0) &&& ETHERNET_RESET_CHANNEL = 0 ∧
        (if overflow then ETHERNET_OVERFLOW ||| ETHERNET_INTERRUPT else 0) &&& ETHERNET_OVERFLOW =
          if overflow then ETHERNET_OVERFLOW else 0 := by decide
  obtain ⟨hinterrupt, hinterrupt'⟩ := hinterrupt (channel.receive_interrupt_requested && channel.timer_expired)
  obtain ⟨hoverflow, hoverflow'⟩ := hoverflow channel.receive_overflow
  unfold EthernetChannel.finish_receive EthernetChannel.receive_active EthernetChannel.held_in_reset
    EthernetChannel.overflow_raised
  dsimp only
  refine ⟨?_, ?_, ?_⟩
  · cases channel.receive_end_of_ring <;> cases channel.receive_overflow <;> simp
  · rw [or_and_of_disjoint hinterrupt', or_and_of_disjoint hoverflow]
  · rw [or_and_of_disjoint hinterrupt, BitVec.and_or_distrib_right, hoverflow']
    cases channel.receive_overflow with
    | false => simp
    | true =>
      have hraised : channel.control &&& ETHERNET_OVERFLOW ||| ETHERNET_OVERFLOW ≠ 0 := by
        intro hzero
        exact absurd (BitVec.or_eq_zero_iff.mp hzero).2 (by decide)
      rw [if_pos rfl, Bool.or_true]
      exact bne_iff_ne.mpr hraised

/-- The last request gives the descriptor back. -/
theorem Storing.finished (h : reception.Storing channel.receive_half reception.total)
    (memory : U32 → Option U8) (status : U8) (interrupt : Bool) :
    let asked := channel.receive_request
    asked.1 = some reception.completion ∧
      reception.Received (asked.2.answer asked.1 memory true status interrupt).receive_half ∧
      (asked.2.answer asked.1 memory true status interrupt).overflow_raised =
        (channel.overflow_raised || reception.overflows) := by
  intro asked
  have hstage : channel.receive_stage = .Data := h.stage
  have hactive : channel.receive_active = true := h.active
  have hframe : channel.receive_frame = reception.bytes := h.frame
  have hoffset : channel.receive_offset = reception.total := h.offset
  have hpointer : channel.current_receive_descriptor_pointer = reception.pointer := h.pointer
  have hring : channel.receive_end_of_ring = reception.end_of_ring := h.end_of_ring
  have hlength := h.chunk_length
  rw [Nat.sub_self, Nat.min_zero] at hlength
  have hcapacity := reception.capacity_lt
  have hresidual : channel.receive_byte_count &&& ETHERNET_BYTE_COUNT_MASK =
      BitVec.ofNat 32 (reception.capacity - reception.total) := by
    apply BitVec.eq_of_toNat_eq
    rw [show channel.receive_byte_count = BitVec.ofNat 32 (reception.capacity - reception.total) from h.byte_count,
      toNat_and_low (show ETHERNET_BYTE_COUNT_MASK.toNat = 2 ^ 13 - 1 by decide), BitVec.toNat_ofNat]
    omega
  have hoverflow : decide (reception.total < reception.bytes.length) = reception.overflows := by
    unfold total overflows
    rw [decide_eq_decide]
    omega
  have hasked : asked = (some reception.completion,
      { channel with receive_overflow := reception.overflows, receive_stage := .Completion }) := by
    show channel.receive_request_from _ = _
    rw [EthernetChannel.receive_request_from_data _ hactive hstage]
    dsimp only
    rw [hlength, if_pos rfl, EthernetChannel.receive_request_from_completion]
    · dsimp only
      rw [hresidual, hpointer, hframe, hoffset, hoverflow]
      rfl
    · exact hactive
    · rfl
  rw [hasked]
  show _ ∧ reception.Received (EthernetChannel.finish_receive _).receive_half ∧
    (EthernetChannel.finish_receive _).overflow_raised = _
  obtain ⟨hactive', hheld, hraised⟩ := finish_receive_spec
    { channel with
      receive_overflow := reception.overflows
      receive_stage := .Completion
      dma_delay_attoseconds :=
        EthernetChannel.dma_delay (to_be_bytes (BitVec.ofNat 32 (reception.capacity - reception.total))).toList.length }
  refine ⟨rfl, ⟨rfl, hactive'.trans ?_, hheld.trans h.running, h.next⟩, hraised⟩
  show (channel.receive_active && !(channel.receive_end_of_ring || reception.overflows)) = _
  rw [hactive, hring, Bool.true_and]

/-! ## Runs -/

/-- Writes of frame bytes that store these bytes, in this order. -/
structure Stores (writes : List EthernetRequest) (bytes : List (U32 × U8)) : Prop where
  data : ∀ write ∈ writes, ∃ address bytes, write = .Write address bytes .ReceiveData
  bytes : (writes.flatMap fun write =>
    match write with
    | .Write address bytes _ => stored address bytes
    | _ => []) = bytes

theorem Stores.append {writes : List EthernetRequest} {placed : List (U32 × U8)} (h : Stores writes placed)
    (address : U32) (bytes : List U8) :
    Stores (writes ++ [.Write address bytes .ReceiveData]) (placed ++ stored address bytes) := by
  constructor
  · intro write hwrite
    rcases List.mem_append.mp hwrite with hwrite | hwrite
    · exact h.data write hwrite
    · exact ⟨address, bytes, List.mem_singleton.mp hwrite⟩
  · rw [List.flatMap_append, h.bytes]
    simp

/-- Where the frame is, given the writes so far and the overflow bit before them. -/
inductive Progress (reception : Reception) (raised : Bool) : List EthernetRequest → EthernetChannel → Prop where
  | awaiting {channel : EthernetChannel} (h : reception.Awaiting channel.receive_half)
      (hraised : channel.overflow_raised = raised) : Progress reception raised [] channel
  | storing {channel : EthernetChannel} {writes : List EthernetRequest} {count : Nat}
      (h : reception.Storing channel.receive_half count) (hstores : Stores writes (reception.placed.take count))
      (hraised : channel.overflow_raised = raised) : Progress reception raised writes channel
  | received {channel : EthernetChannel} {writes : List EthernetRequest}
      (h : reception.Received channel.receive_half) (hstores : Stores writes reception.placed)
      (hraised : channel.overflow_raised = (raised || reception.overflows)) :
      Progress reception raised (writes ++ [reception.completion]) channel

/-- The receive requests still to come. -/
def left (reception : Reception) (channel : EthernetChannel) : Nat :=
  match channel.receive_stage with
  | .Descriptor => (reception.total + 31) / 32 + 2
  | .Data => (reception.total - channel.receive_offset + 31) / 32 + 1
  | .Completion | .Idle => 0

/-- The requests to serve at most, when the transmit side takes every turn it can. -/
def turns (reception : Reception) (channel : EthernetChannel) : Nat :=
  2 * reception.left channel + if channel.prefer_receive then 0 else 1

/-- An event that does not disturb the frame: memory accepts what is written and
holds the descriptor. -/
def Undisturbed (reception : Reception) : DmaEvent → Prop
  | .Serve _ memory accepted _ _ =>
    accepted = true ∧ read_dma memory reception.pointer 12 = some reception.descriptor
  | _ => True

variable {raised : Bool} {writes : List EthernetRequest}

/-- The frame is where its half of the channel says. -/
theorem Progress.of_half (h : reception.Progress raised writes channel) {other : EthernetChannel}
    (hhalf : other.receive_half = channel.receive_half) : reception.Progress raised writes other := by
  have hraised : other.overflow_raised = channel.overflow_raised := congrArg (·.overflow_raised) hhalf
  cases h with
  | awaiting h hbefore => exact .awaiting (hhalf ▸ h) (hraised.trans hbefore)
  | storing h hstores hbefore => exact .storing (hhalf ▸ h) hstores (hraised.trans hbefore)
  | received h hstores hbefore => exact .received (hhalf ▸ h) hstores (hraised.trans hbefore)

theorem left_of_half {other : EthernetChannel} (hhalf : other.receive_half = channel.receive_half) :
    reception.left other = reception.left channel := by
  unfold left
  rw [show other.receive_stage = channel.receive_stage from congrArg (·.stage) hhalf,
    show other.receive_offset = channel.receive_offset from congrArg (·.offset) hhalf]

theorem Progress.receiving (h : reception.Progress raised writes channel) (hbusy : channel.receive_stage ≠ .Idle) :
    channel.receiving := by
  cases h with
  | awaiting h => exact ⟨h.active, hbusy⟩
  | storing h => exact ⟨h.active, hbusy⟩
  | received h => exact absurd h.stage hbusy

/-- A request of the frame that is served brings it on. -/
theorem Progress.served (h : reception.Progress raised writes channel) (hbusy : channel.receive_stage ≠ .Idle)
    (howned : reception.control &&& ETHERNET_RECEIVE_OWNED ≠ 0) (hlength : reception.descriptor.length = 12)
    {memory : U32 → Option U8} (hmemory : read_dma memory reception.pointer 12 = some reception.descriptor)
    (status : U8) (interrupt : Bool) :
    let asked := channel.receive_request
    let after := asked.2.answer asked.1 memory true status interrupt
    reception.Progress raised (writes ++ asked.1.toList.filter EthernetRequest.is_write) after ∧
      reception.left after < reception.left channel := by
  intro asked after
  cases h with
  | awaiting h hraised =>
    obtain ⟨hasked, hafter, hoverflow⟩ := h.served howned hlength hmemory true status interrupt
    have hnone : Stores [] (reception.placed.take 0) := ⟨List.forall_mem_nil _, rfl⟩
    refine ⟨?_, ?_⟩
    · rw [show asked.1 = _ from hasked]
      exact .storing hafter hnone (hoverflow.trans hraised)
    · unfold left
      rw [show after.receive_stage = .Data from hafter.stage, show after.receive_offset = 0 from hafter.offset,
        show channel.receive_stage = .Descriptor from h.stage]
      dsimp only
      omega
  | @storing _ _ count h hstores hraised =>
    rcases Nat.lt_or_eq_of_le h.le_total with hcount | hcount
    · obtain ⟨hasked, hplaced, hafter, hoverflow⟩ := h.served hcount memory status interrupt
      refine ⟨?_, ?_⟩
      · rw [show asked.1 = _ from hasked]
        refine .storing hafter ?_ (hoverflow.trans hraised)
        rw [hplaced]
        exact hstores.append _ _
      · unfold left
        rw [show after.receive_stage = .Data from hafter.stage, show after.receive_offset = _ from hafter.offset,
          show channel.receive_stage = .Data from h.stage, show channel.receive_offset = count from h.offset]
        dsimp only
        omega
    · subst hcount
      obtain ⟨hasked, hafter, hoverflow⟩ := h.finished memory status interrupt
      have hall : reception.placed.take reception.total = reception.placed := by
        apply List.take_of_length_le
        unfold placed
        rw [List.length_mapIdx, List.length_take]
        exact Nat.min_le_left _ _
      refine ⟨?_, ?_⟩
      · rw [show asked.1 = _ from hasked]
        rw [hall] at hstores
        exact .received hafter hstores (by rw [hoverflow, hraised])
      · unfold left
        rw [show after.receive_stage = .Idle from hafter.stage, show channel.receive_stage = .Data from h.stage]
        exact Nat.zero_lt_succ _
  | received h => exact absurd h.stage hbusy

/-- One event: the frame goes on, and every request served while the channel has
time for one uses up a turn. -/
theorem Progress.step (h : reception.Progress raised writes channel) (hbusy : channel.receive_stage ≠ .Idle)
    (howned : reception.control &&& ETHERNET_RECEIVE_OWNED ≠ 0) (hlength : reception.descriptor.length = 12)
    {event : DmaEvent} (hevent : reception.Undisturbed event) :
    let result := channel.dma_step event
    reception.Progress raised (writes ++ result.1.toList.filter EthernetRequest.is_write) result.2 ∧
      reception.turns result.2 + (if channel.serves event then 1 else 0) ≤ reception.turns channel := by
  have hreceiving := h.receiving hbusy
  -- an event that leaves the receive half and whose turn it is
  have hkept : ∀ after : EthernetChannel, after.receive_half = channel.receive_half →
      after.prefer_receive = channel.prefer_receive →
        reception.Progress raised (writes ++ []) after ∧ reception.turns after + 0 ≤ reception.turns channel := by
    intro after hhalf hprefer
    refine ⟨by rw [List.append_nil]; exact h.of_half hhalf, ?_⟩
    unfold turns
    rw [left_of_half hhalf, hprefer, Nat.add_zero]
  cases event with
  | Advance elapsed ticks =>
    refine hkept _ (EthernetChannel.advance_time_receive_half elapsed ticks) ?_
    show (channel.advance_time elapsed ticks).prefer_receive = _
    rw [EthernetChannel.advance_time_eq]
  | ReceiveFrame bytes status interrupt_requested =>
    refine hkept _ (EthernetChannel.accept_receive_frame_receive_half hreceiving.1 hbusy bytes status
      interrupt_requested) ?_
    show (channel.accept_receive_frame bytes status interrupt_requested).prefer_receive = _
    fun_cases EthernetChannel.accept_receive_frame <;> rfl
  | CompleteTransmit status interrupt =>
    show _ ∧ reception.turns (if _ then _ else _) + 0 ≤ _
    split
    · rename_i hinflight
      have hafter : (channel.dma_step (.CompleteTransmit status interrupt)).2 =
          channel.complete_transmit status interrupt := if_pos hinflight
      rw [hafter]
      refine hkept _ (EthernetChannel.complete_transmit_receive_half status interrupt) ?_
      fun_cases EthernetChannel.complete_transmit <;> rfl
    · rename_i hinflight
      have hafter : (channel.dma_step (.CompleteTransmit status interrupt)).2 = channel := if_neg hinflight
      rw [hafter]
      exact hkept channel rfl rfl
  | Serve transmitter_ready memory accepted status interrupt =>
    obtain ⟨rfl, hmemory⟩ := hevent
    intro result
    have hresult : result = ((channel.next_request transmitter_ready).1,
        (channel.next_request transmitter_ready).2.answer (channel.next_request transmitter_ready).1 memory true
          status interrupt) := rfl
    show _ ∧ reception.turns result.2 + (if channel.ready_to_serve then 1 else 0) ≤ _
    cases hready : channel.ready_to_serve with
    | false =>
      have hnone : channel.next_request transmitter_ready = (none, channel) := by
        unfold EthernetChannel.next_request
        unfold EthernetChannel.ready_to_serve at hready
        rw [if_pos]
        cases hheld : channel.held_in_reset with
        | true => rfl
        | false =>
          rw [hheld] at hready
          simpa using hready
      rw [hresult, hnone]
      exact hkept channel rfl rfl
    | true =>
      rw [if_pos rfl]
      rcases EthernetChannel.next_request_receiving hreceiving hready transmitter_ready with
        ⟨turn, hhalf, hasked⟩ | ⟨hprefer, request, after, hasked, hside, hhalf, hturn⟩
      · have hturning := h.of_half hhalf
        have hstill : turn.receive_stage ≠ .Idle := fun hidle => hbusy ((congrArg (·.stage) hhalf).symm.trans hidle)
        obtain ⟨hserved, hleft⟩ := hturning.served hstill howned hlength hmemory status interrupt
        rw [hresult, hasked]
        refine ⟨hserved, ?_⟩
        rw [left_of_half hhalf] at hleft
        unfold turns
        dsimp only
        split <;> split <;> omega
      · -- the transmit side's turn
        obtain ⟨hsame, hkeeps⟩ := @EthernetChannel.answer_transmit_side after request hside memory true status
          interrupt
        have hwrite : request.is_write = false := by
          cases request with
          | Write address bytes kind => exact hside.elim
          | _ => rfl
        rw [hresult, hasked]
        refine ⟨?_, ?_⟩
        · have hnone : (some request).toList.filter EthernetRequest.is_write = [] := by
            rw [Option.toList_some, List.filter_cons_of_neg (by rw [hwrite]; exact Bool.false_ne_true), List.filter_nil]
          rw [hnone, List.append_nil]
          exact h.of_half (hsame.trans hhalf)
        · unfold turns
          rw [left_of_half (hsame.trans hhalf), hkeeps, hturn, hprefer, if_pos rfl, if_neg Bool.false_ne_true]

/-- The requests the channel has served, until the frame is received. -/
def run (channel : EthernetChannel) : List DmaEvent → List EthernetRequest × EthernetChannel
  | [] => ([], channel)
  | event :: rest =>
    if channel.receive_stage = .Idle then ([], channel)
    else
      let served := channel.dma_step event
      let later := run served.2 rest
      (served.1.toList ++ later.1, later.2)

/-- How often the channel is served while it has time for a request, until the
frame is received. -/
def serves (channel : EthernetChannel) : List DmaEvent → Nat
  | [] => 0
  | event :: rest =>
    if channel.receive_stage = .Idle then 0
    else (if channel.serves event then 1 else 0) + serves (channel.dma_step event).2 rest

theorem Progress.run (h : reception.Progress raised writes channel)
    (howned : reception.control &&& ETHERNET_RECEIVE_OWNED ≠ 0) (hlength : reception.descriptor.length = 12)
    {events : List DmaEvent} (hevents : ∀ event ∈ events, reception.Undisturbed event) :
    reception.Progress raised (writes ++ (Reception.run channel events).1.filter EthernetRequest.is_write)
        (Reception.run channel events).2 ∧
      reception.turns (Reception.run channel events).2 + serves channel events ≤ reception.turns channel := by
  induction events generalizing channel writes with
  | nil =>
    refine ⟨?_, Nat.le_refl _⟩
    show reception.Progress raised (writes ++ []) channel
    rw [List.append_nil]
    exact h
  | cons event rest ih =>
    unfold Reception.run serves
    by_cases hidle : channel.receive_stage = .Idle
    · rw [if_pos hidle, if_pos hidle]
      refine ⟨?_, Nat.le_refl _⟩
      show reception.Progress raised (writes ++ []) channel
      rw [List.append_nil]
      exact h
    · rw [if_neg hidle, if_neg hidle]
      obtain ⟨hstep, hturns⟩ := h.step hidle howned hlength (hevents event List.mem_cons_self)
      obtain ⟨hrun, hlater⟩ := ih hstep fun other hother => hevents other (List.mem_cons_of_mem _ hother)
      refine ⟨?_, ?_⟩
      · dsimp only
        rw [List.filter_append, ← List.append_assoc]
        exact hrun
      · dsimp only
        omega

/-- An accepted frame waits for its descriptor. -/
theorem accepted_awaiting {channel : EthernetChannel} (hidle : channel.receive_stage = .Idle)
    (hactive : channel.receive_active = true) (hrunning : channel.held_in_reset = false) {frame : List U8}
    (hframe : frame.length ≤ MAX_ETHERNET_FRAME_BYTES) (status : U8) (interrupt_requested : Bool)
    (descriptor : List U8) :
    let accepted := channel.accept_receive_frame frame status interrupt_requested
    Reception.Awaiting { bytes := frame ++ [status], pointer := channel.next_receive_descriptor_pointer, descriptor }
        accepted.receive_half ∧
      accepted.overflow_raised = channel.overflow_raised := by
  have hkept := @EthernetChannel.status_keeps_active channel status hactive
  intro accepted
  have haccepted : accepted =
      { channel with
        receive_status := (channel.receive_status &&& ETHERNET_RECEIVE_ACTIVE) ||| (status.setWidth 32 <<< 8)
        receive_frame := frame ++ [status]
        receive_offset := 0
        receive_interrupt_requested := interrupt_requested
        receive_overflow := false
        receive_stage := .Descriptor } := by
    have hheld : ({ channel with
        receive_status := (channel.receive_status &&& ETHERNET_RECEIVE_ACTIVE) ||| (status.setWidth 32 <<< 8) } :
      EthernetChannel).held_in_reset = false := hrunning
    show channel.accept_receive_frame frame status interrupt_requested = _
    unfold EthernetChannel.accept_receive_frame
    dsimp only
    rw [if_neg]
    rw [hkept, hheld]
    simp [hidle, Nat.not_lt_of_le hframe]
  rw [haccepted]
  exact ⟨⟨rfl, rfl, rfl, hkept, hrunning, rfl⟩, rfl⟩

end Reception

/-! ## Received frames -/

/-- A frame the channel accepts, served to completion into the descriptor its
pointer names, whatever else the channel serves in between. -/
theorem frame_received {channel : EthernetChannel} (hidle : channel.receive_stage = .Idle)
    (hactive : channel.receive_active = true) (hrunning : channel.held_in_reset = false) {frame : List U8}
    (hframe : frame.length ≤ MAX_ETHERNET_FRAME_BYTES) (status : U8) (interrupt_requested : Bool)
    {descriptor : List U8} (hlength : descriptor.length = 12) {events : List DmaEvent} :
    let reception : Reception :=
      { bytes := frame ++ [status], pointer := channel.next_receive_descriptor_pointer, descriptor }
    let accepted := channel.accept_receive_frame frame status interrupt_requested
    let served := Reception.run accepted events
    let writes := served.1.filter EthernetRequest.is_write
    reception.control &&& ETHERNET_RECEIVE_OWNED ≠ 0 → (∀ event ∈ events, reception.Undisturbed event) →
      (served.2.receive_stage = .Idle →
        (∃ data, writes = data ++ [reception.completion] ∧ Reception.Stores data reception.placed) ∧
        served.2.overflow_raised = (channel.overflow_raised || reception.overflows) ∧
        served.2.receive_active = !(reception.end_of_ring || reception.overflows) ∧
        served.2.next_receive_descriptor_pointer = reception.next) ∧
      (served.2.receive_stage ≠ .Idle →
        (∃ count, Reception.Stores writes (reception.placed.take count)) ∧
        served.2.overflow_raised = channel.overflow_raised ∧ served.2.receive_active = true ∧
        Reception.serves accepted events < 2 * ((reception.total + 31) / 32 + 2)) ∧
      ∀ index, (wrapped reception.buffer (2 + 32 * (index / 32))).toNat + index % 32 < 2 ^ 28 →
        reception.place index = wrapped reception.buffer (2 + index) := by
  intro reception accepted served writes howned hevents
  obtain ⟨hawaiting, hraised⟩ :=
    Reception.accepted_awaiting hidle hactive hrunning hframe status interrupt_requested descriptor
  have hstart : reception.Progress channel.overflow_raised [] accepted := .awaiting hawaiting hraised
  obtain ⟨hprogress, hturns⟩ := hstart.run howned hlength hevents
  have hwrites : [] ++ (Reception.run accepted events).1.filter EthernetRequest.is_write = writes := List.nil_append _
  rw [hwrites] at hprogress
  have hstarted : reception.turns accepted ≤ 2 * ((reception.total + 31) / 32 + 2) + 1 := by
    unfold Reception.turns Reception.left
    rw [show accepted.receive_stage = .Descriptor from hawaiting.stage]
    dsimp only
    split <;> omega
  have hserves : served.2.receive_stage ≠ .Idle → 0 < reception.left served.2 →
      Reception.serves accepted events < 2 * ((reception.total + 31) / 32 + 2) := by
    intro _ hleft
    have hpositive : 2 ≤ reception.turns (Reception.run accepted events).2 := by
      show 2 ≤ reception.turns served.2
      unfold Reception.turns
      omega
    omega
  generalize hall : writes = all at hprogress
  cases hprogress with
  | awaiting h hraised =>
    have hstage : served.2.receive_stage = .Descriptor := h.stage
    have hleft : 0 < reception.left served.2 := by
      unfold Reception.left
      rw [hstage]
      exact Nat.zero_lt_succ _
    refine ⟨fun hdone => absurd (hstage.symm.trans hdone) (by decide), fun hbusy => ?_,
      reception.place_eq_wrapped⟩
    exact ⟨⟨0, List.forall_mem_nil _, rfl⟩, hraised, h.active, hserves hbusy hleft⟩
  | @storing _ _ count h hstores hraised =>
    have hstage : served.2.receive_stage = .Data := h.stage
    have hleft : 0 < reception.left served.2 := by
      unfold Reception.left
      rw [hstage]
      exact Nat.zero_lt_succ _
    refine ⟨fun hdone => absurd (hstage.symm.trans hdone) (by decide), fun hbusy => ?_,
      reception.place_eq_wrapped⟩
    exact ⟨⟨count, hstores⟩, hraised, h.active, hserves hbusy hleft⟩
  | @received _ data h hstores hraised =>
    refine ⟨fun _ => ?_, fun hbusy => absurd h.stage hbusy, reception.place_eq_wrapped⟩
    exact ⟨⟨data, rfl, hstores⟩, hraised, h.active, h.next⟩

/-- An active channel whose next descriptor is at address 0x1000. -/
def receiving_channel : EthernetChannel :=
  { EthernetChannel.new with receive_status := ETHERNET_RECEIVE_ACTIVE, next_receive_descriptor_pointer := 0x1000#32 }

/-- A memory that holds a descriptor at address 0x1000. -/
def descriptor_memory (descriptor : List U8) (address : U32) : Option U8 :=
  some ((descriptor[(address - 0x1000#32).toNat]?).getD 0)

/-- Three requests, each served once the one before is over. -/
def three_requests (memory : U32 → Option U8) : List DmaEvent :=
  let serve : DmaEvent := .Serve false memory true 0 false
  [serve, .Advance 1000000000000 0, serve, .Advance 1000000000000 0, serve]

/-- A frame of three bytes, with its status, in a buffer of ten bytes. -/
theorem frame_received_three_bytes :
    let descriptor : List U8 := [0x80, 0, 0, 10, 0, 0, 0x20, 0, 0, 0, 0x30, 0]
    let reception : Reception := { bytes := [1, 2, 3] ++ [0x20], pointer := 0x1000#32, descriptor }
    let accepted := receiving_channel.accept_receive_frame [1, 2, 3] 0x20 false
    let served := Reception.run accepted (three_requests (descriptor_memory descriptor))
    ∃ data, served.1.filter EthernetRequest.is_write = data ++ [reception.completion] ∧
      Reception.Stores data reception.placed := by
  intro descriptor reception accepted served
  have hreceived := frame_received (show receiving_channel.receive_stage = .Idle by decide)
    (show receiving_channel.receive_active = true by decide)
    (show receiving_channel.held_in_reset = false by decide)
    (show ([1, 2, 3] : List U8).length ≤ MAX_ETHERNET_FRAME_BYTES by decide) 0x20 false
    (show descriptor.length = 12 by decide) (show reception.control &&& ETHERNET_RECEIVE_OWNED ≠ 0 by decide)
    (show ∀ event ∈ three_requests (descriptor_memory descriptor), reception.Undisturbed event by
      unfold three_requests
      simp only [List.forall_mem_cons]
      exact ⟨⟨rfl, by decide⟩, trivial, ⟨rfl, by decide⟩, trivial, ⟨rfl, by decide⟩, List.forall_mem_nil _⟩)
  exact (hreceived.1 (by decide +kernel)).1

/-- A chunk that runs over the end of the 28-bit range goes on behind it, where
a bank of local memory at the range's end takes it. -/
theorem frame_received_past_end :
    let descriptor : List U8 := [0x80, 0, 0, 34, 0x0f, 0xff, 0xff, 0xf0, 0, 0, 0x30, 0]
    let frame : List U8 := List.replicate 31 0x55
    let reception : Reception := { bytes := frame ++ [0x20], pointer := 0x1000#32, descriptor }
    let accepted := receiving_channel.accept_receive_frame frame 0x20 false
    let served := Reception.run accepted (three_requests (descriptor_memory descriptor))
    let bank : LocalMemory := { modules := #v[some { byte_len := 8 * 1024 * 1024, bytes := fun _ => 0 }, none, none, none] }
    let pic1 : se_device.pic1.Pic1 := { memory_descriptors := #v[0x013f, 0xffff, 0xffff, 0xffff], address_error_pending := false }
    served.2.receive_stage = .Idle ∧ (bank.write_dma pic1 0x0ffffff2#32 reception.bytes).1 = true ∧
      ¬ ∃ data, served.1.filter EthernetRequest.is_write = data ++ [reception.completion] ∧
        Reception.Stores data ((reception.bytes.take reception.total).mapIdx fun index byte =>
          (wrapped reception.buffer (2 + index), byte)) := by
  intro descriptor frame reception accepted served bank pic1
  refine ⟨by decide +kernel, by decide +kernel, ?_⟩
  rintro ⟨data, hdata, hstores⟩
  have hwrites : served.1.filter EthernetRequest.is_write =
      [.Write 0x0ffffff2#32 reception.bytes .ReceiveData] ++ [reception.completion] := by decide +kernel
  obtain ⟨rfl, -⟩ := List.append_inj' (hwrites.symm.trans hdata) rfl
  exact absurd hstores.bytes (by decide +kernel)

end se_machine.ip12
