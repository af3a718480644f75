import SgiEmu.Board.Ethernet.Reception

open se_core se_device se_device.hpc1 se_machine.ip12 Library.Mask

namespace se_device.hpc1

/-! ## The transmit half of a channel -/

/-- What the transmit side of a channel gathers a packet with. -/
structure TransmitHalf where
  stage : EthernetTxStage
  inflight : Option EthernetTransmitContext
  frame : List U8
  end_of_packet : Bool
  end_of_chain : Bool
  active : Bool
  byte_count : U32
  current_buffer_pointer : U32
  next_descriptor_pointer : U32
  held_in_reset : Bool
deriving DecidableEq, Repr

namespace EthernetChannel

def transmit_half (channel : EthernetChannel) : TransmitHalf :=
  { stage := channel.transmit_stage
    inflight := channel.transmit_inflight
    frame := channel.transmit_frame
    end_of_packet := channel.transmit_end_of_packet
    end_of_chain := channel.transmit_end_of_chain
    active := channel.transmit_active
    byte_count := channel.transmit_byte_count
    current_buffer_pointer := channel.current_transmit_buffer_pointer
    next_descriptor_pointer := channel.next_transmit_descriptor_pointer
    held_in_reset := channel.held_in_reset }

variable {channel : EthernetChannel}

theorem receive_request_transmit_half : channel.receive_request.2.transmit_half = channel.transmit_half := by
  have hfrom : ∀ (again : EthernetChannel → Option EthernetRequest × EthernetChannel) (channel : EthernetChannel),
      (∀ channel, (again channel).2.transmit_half = channel.transmit_half) →
        (channel.receive_request_from again).2.transmit_half = channel.transmit_half := by
    intro again channel hagain
    fun_cases receive_request_from
    case case4 => exact hagain _
    all_goals rfl
  exact hfrom _ _ fun channel => hfrom _ _ fun _ => rfl

theorem receive_request_prefer : channel.receive_request.2.prefer_receive = channel.prefer_receive := by
  have hfrom : ∀ (again : EthernetChannel → Option EthernetRequest × EthernetChannel) (channel : EthernetChannel),
      (∀ channel, (again channel).2.prefer_receive = channel.prefer_receive) →
        (channel.receive_request_from again).2.prefer_receive = channel.prefer_receive := by
    intro again channel hagain
    fun_cases receive_request_from
    case case4 => exact hagain _
    all_goals rfl
  exact hfrom _ _ fun channel => hfrom _ _ fun _ => rfl

theorem finish_receive_transmit_half : channel.finish_receive.transmit_half = channel.transmit_half := by
  have hheld := (Reception.finish_receive_spec channel).2.1
  unfold transmit_half
  rw [hheld]
  rfl

theorem complete_write_transmit_half (kind : EthernetWriteKind) (length : Nat) (success : Bool) :
    (channel.complete_write kind length success).transmit_half = channel.transmit_half := by
  cases success with
  | false => rfl
  | true =>
    cases kind with
    | ReceiveData => rfl
    | ReceiveCompletion => exact finish_receive_transmit_half

theorem complete_write_prefer (kind : EthernetWriteKind) (length : Nat) (success : Bool) :
    (channel.complete_write kind length success).prefer_receive = channel.prefer_receive := by
  cases success <;> cases kind <;> rfl

theorem complete_receive_read_transmit_half (data : Option (List U8)) :
    (channel.complete_read .ReceiveDescriptor data).transmit_half = channel.transmit_half := by
  cases data with
  | none => rfl
  | some data =>
    unfold complete_read load_receive_descriptor
    dsimp only
    split
    · rfl
    · split <;> rfl

/-- An answer to the receive side leaves the transmit side and whose turn it is. -/
theorem answer_receive_side {request : EthernetRequest} (hside : ReceiveSide request) (memory : U32 → Option U8)
    (accepted : Bool) (status : U8) (interrupt : Bool) :
    (channel.answer (some request) memory accepted status interrupt).transmit_half = channel.transmit_half ∧
      (channel.answer (some request) memory accepted status interrupt).prefer_receive = channel.prefer_receive := by
  cases request with
  | Read address length kind =>
    obtain rfl : kind = .ReceiveDescriptor := hside
    exact ⟨complete_receive_read_transmit_half _, complete_read_prefer _ _⟩
  | Write address bytes kind =>
    exact ⟨complete_write_transmit_half kind bytes.length accepted, complete_write_prefer kind bytes.length accepted⟩
  | Transmit frame => exact hside.elim
  | Underflow => exact hside.elim

theorem accept_receive_frame_transmit_half (bytes : List U8) (status : U8) (interrupt_requested : Bool) :
    (channel.accept_receive_frame bytes status interrupt_requested).transmit_half = channel.transmit_half := by
  fun_cases accept_receive_frame <;> rfl

theorem advance_time_transmit_half (elapsed ticks : Nat) :
    (channel.advance_time elapsed ticks).transmit_half = channel.transmit_half := by
  have hheld : (channel.advance_time elapsed ticks).held_in_reset = channel.held_in_reset :=
    congrArg ReceiveHalf.held_in_reset (advance_time_receive_half elapsed ticks)
  unfold transmit_half
  rw [hheld, advance_time_eq]
  rfl

/-- How the transmit side fares when the channel is asked: it waits for the
other side, or it is asked itself, alone or with an answer for the other side. -/
inductive TransmitTurn (ready : Bool) (channel : EthernetChannel) : Option EthernetRequest × EthernetChannel → Prop where
  | waits (request : EthernetRequest) (after : EthernetChannel) (hside : ReceiveSide request)
      (hhalf : after.transmit_half = channel.transmit_half) (hturn : channel.prefer_receive = true)
      (hnext : after.prefer_receive = false) : TransmitTurn ready channel (some request, after)
  | asked (turn : EthernetChannel) (hhalf : turn.transmit_half = channel.transmit_half)
      (hnext : turn.prefer_receive = !channel.prefer_receive) : TransmitTurn ready channel (turn.transmit_request ready)
  | passes (turn : EthernetChannel) (request : Option EthernetRequest) (after : EthernetChannel)
      (hhalf : turn.transmit_half = channel.transmit_half) (hnone : (turn.transmit_request ready).1 = none)
      (hside : ∀ asked, request = some asked → ReceiveSide asked)
      (hafter : after.transmit_half = (turn.transmit_request ready).2.transmit_half)
      (hturn : channel.prefer_receive = false) (hnext : after.prefer_receive = true) :
      TransmitTurn ready channel (request, after)

theorem next_request_transmit_turn (hready : channel.ready_to_serve = true) (ready : Bool) :
    TransmitTurn ready channel (channel.next_request ready) := by
  have hidle : (channel.held_in_reset || channel.dma_delay_attoseconds != 0) = false := by
    unfold ready_to_serve at hready
    simp only [Bool.and_eq_true, Bool.not_eq_true', beq_iff_eq] at hready
    simp [hready]
  unfold next_request
  rw [hidle, if_neg Bool.false_ne_true]
  dsimp only
  cases hprefer : channel.prefer_receive with
  | true =>
    rw [if_pos rfl]
    have hhalf : ({ channel with prefer_receive := !true } : EthernetChannel).receive_request.2.transmit_half =
        channel.transmit_half := receive_request_transmit_half
    have hnext : ({ channel with prefer_receive := !true } : EthernetChannel).receive_request.2.prefer_receive = false :=
      receive_request_prefer
    have hside := @receive_request_side { channel with prefer_receive := !true }
    split
    · rename_i request after heq
      rw [heq] at hhalf hnext hside
      exact .waits request after (hside request rfl) hhalf hprefer hnext
    · rename_i after heq
      rw [heq] at hhalf hnext
      exact .asked after hhalf (by rw [hprefer]; exact hnext)
  | false =>
    rw [if_neg Bool.false_ne_true]
    have hhalf : ({ channel with prefer_receive := !false } : EthernetChannel).transmit_half = channel.transmit_half := rfl
    split
    · rename_i request after heq
      rw [← heq]
      exact .asked _ hhalf (by rw [hprefer])
    · rename_i after heq
      have hturn := @transmit_request_prefer { channel with prefer_receive := !false } ready
      rw [heq] at hturn
      refine .passes _ _ _ hhalf (by rw [heq]) (@receive_request_side after) ?_ hprefer ?_
      · rw [heq]
        exact receive_request_transmit_half
      · exact receive_request_prefer.trans hturn

end EthernetChannel

end se_device.hpc1

namespace se_machine.ip12

/-! ## Packets in a descriptor chain -/

/-- The bytes of a buffer, or none where one of them cannot be read. Chunks of
32 bytes lie at wrapped addresses. -/
def fragment_bytes (memory : U32 → Option U8) (buffer : U32) (count : Nat) : Option (List U8) :=
  (List.range count).mapM fun index => memory (wrapped buffer (32 * (index / 32)) + BitVec.ofNat 32 (index % 32))

/-- What comes of a packet. -/
inductive PacketOutcome where
  | sent (frame : List U8) (next : U32) (end_of_chain : Bool)
  | underflow
deriving DecidableEq, Repr

/-- The request a packet ends with. -/
def PacketOutcome.request : PacketOutcome → EthernetRequest
  | .sent frame _ _ => .Transmit frame
  | .underflow => .Underflow

/-- The reads a buffer takes. -/
def chunks (count : Nat) : Nat := (count + 31) / 32

/-- A transmit descriptor. -/
structure TransmitDescriptor where
  control : U32
  buffer : U32
  next : U32

namespace TransmitDescriptor

def parse (data : List U8) : TransmitDescriptor :=
  { control := be_word data 0, buffer := be_word data 4, next := be_word data 8 &&& ETHERNET_ADDRESS_MASK }

def read (memory : U32 → Option U8) (pointer : U32) : Option TransmitDescriptor :=
  (read_dma memory pointer 12).map parse

variable (descriptor : TransmitDescriptor)

def count : Nat := (descriptor.control &&& ETHERNET_BYTE_COUNT_MASK).toNat

def end_of_packet : Bool := descriptor.control &&& ETHERNET_TRANSMIT_END_OF_PACKET != 0

def end_of_chain : Bool := descriptor.buffer &&& ETHERNET_BUFFER_END_OF_CHAIN != 0

def bytes (memory : U32 → Option U8) : Option (List U8) := fragment_bytes memory descriptor.buffer descriptor.count

end TransmitDescriptor

/-- The packet that begins at a descriptor, behind bytes that are gathered
already, comes to an outcome after some requests: its fragments in chain order up
to the first one that ends the packet, or an underflow where one cannot be read,
the frame grows too long, or the chain ends first. -/
inductive Gathers (memory : U32 → Option U8) : U32 → List U8 → PacketOutcome → Nat → Prop where
  | unreadable {pointer : U32} {frame : List U8} (hread : TransmitDescriptor.read memory pointer = none) :
      Gathers memory pointer frame .underflow 2
  | fault {pointer : U32} {frame : List U8} {descriptor : TransmitDescriptor}
      (hread : TransmitDescriptor.read memory pointer = some descriptor) (hbytes : descriptor.bytes memory = none) :
      Gathers memory pointer frame .underflow (1 + (chunks descriptor.count + 1))
  | oversize {pointer : U32} {frame bytes : List U8} {descriptor : TransmitDescriptor}
      (hread : TransmitDescriptor.read memory pointer = some descriptor) (hbytes : descriptor.bytes memory = some bytes)
      (hlong : MAX_ETHERNET_FRAME_BYTES < (frame ++ bytes).length) :
      Gathers memory pointer frame .underflow (1 + (chunks descriptor.count + 1))
  | complete {pointer : U32} {frame bytes : List U8} {descriptor : TransmitDescriptor}
      (hread : TransmitDescriptor.read memory pointer = some descriptor) (hbytes : descriptor.bytes memory = some bytes)
      (hfits : ¬MAX_ETHERNET_FRAME_BYTES < (frame ++ bytes).length) (hpacket : descriptor.end_of_packet = true) :
      Gathers memory pointer frame (.sent (frame ++ bytes) descriptor.next descriptor.end_of_chain)
        (1 + (chunks descriptor.count + 1))
  | cut {pointer : U32} {frame bytes : List U8} {descriptor : TransmitDescriptor}
      (hread : TransmitDescriptor.read memory pointer = some descriptor) (hbytes : descriptor.bytes memory = some bytes)
      (hfits : ¬MAX_ETHERNET_FRAME_BYTES < (frame ++ bytes).length) (hpacket : descriptor.end_of_packet = false)
      (hchain : descriptor.end_of_chain = true) :
      Gathers memory pointer frame .underflow (1 + (chunks descriptor.count + 1))
  | more {pointer : U32} {frame bytes : List U8} {descriptor : TransmitDescriptor} {outcome : PacketOutcome}
      {requests : Nat}
      (hread : TransmitDescriptor.read memory pointer = some descriptor) (hbytes : descriptor.bytes memory = some bytes)
      (hfits : ¬MAX_ETHERNET_FRAME_BYTES < (frame ++ bytes).length) (hpacket : descriptor.end_of_packet = false)
      (hchain : descriptor.end_of_chain = false)
      (hrest : Gathers memory descriptor.next (frame ++ bytes) outcome requests) :
      Gathers memory pointer frame outcome (1 + (chunks descriptor.count + requests))

/-- How the packet goes on once the bytes of a fragment are known. -/
def Continues (memory : U32 → Option U8) (frame : List U8) (bytes : Option (List U8)) (end_of_packet end_of_chain : Bool)
    (next : U32) (outcome : PacketOutcome) (requests : Nat) : Prop :=
  match bytes with
  | none => outcome = .underflow ∧ requests = 1
  | some bytes =>
    if MAX_ETHERNET_FRAME_BYTES < (frame ++ bytes).length then outcome = .underflow ∧ requests = 1
    else if end_of_packet then outcome = .sent (frame ++ bytes) next end_of_chain ∧ requests = 1
    else if end_of_chain then outcome = .underflow ∧ requests = 1
    else Gathers memory next (frame ++ bytes) outcome requests

variable {memory : U32 → Option U8} {pointer : U32} {frame : List U8} {outcome : PacketOutcome} {requests : Nat}

theorem gathers_unreadable (hread : TransmitDescriptor.read memory pointer = none) :
    Gathers memory pointer frame outcome requests ↔ outcome = .underflow ∧ requests = 2 := by
  constructor
  · intro h
    cases h with
    | unreadable => exact ⟨rfl, rfl⟩
    | fault hsome => cases hread.symm.trans hsome
    | oversize hsome => cases hread.symm.trans hsome
    | complete hsome => cases hread.symm.trans hsome
    | cut hsome => cases hread.symm.trans hsome
    | more hsome => cases hread.symm.trans hsome
  · rintro ⟨rfl, rfl⟩
    exact .unreadable hread

theorem gathers_readable {descriptor : TransmitDescriptor}
    (hread : TransmitDescriptor.read memory pointer = some descriptor) :
    Gathers memory pointer frame outcome requests ↔
      ∃ rest, requests = 1 + (chunks descriptor.count + rest) ∧
        Continues memory frame (descriptor.bytes memory) descriptor.end_of_packet descriptor.end_of_chain
          descriptor.next outcome rest := by
  constructor
  · intro h
    cases h with
    | unreadable hnone => cases hread.symm.trans hnone
    | fault hsome hbytes =>
      obtain rfl := Option.some.inj (hread.symm.trans hsome)
      refine ⟨1, rfl, ?_⟩
      rw [hbytes]
      exact ⟨rfl, rfl⟩
    | oversize hsome hbytes hlong =>
      obtain rfl := Option.some.inj (hread.symm.trans hsome)
      refine ⟨1, rfl, ?_⟩
      rw [hbytes]
      simp only [Continues, if_pos hlong, and_self]
    | complete hsome hbytes hfits hpacket =>
      obtain rfl := Option.some.inj (hread.symm.trans hsome)
      refine ⟨1, rfl, ?_⟩
      rw [hbytes, hpacket]
      simp only [Continues, if_neg hfits, if_true, and_self]
    | cut hsome hbytes hfits hpacket hchain =>
      obtain rfl := Option.some.inj (hread.symm.trans hsome)
      refine ⟨1, rfl, ?_⟩
      rw [hbytes, hpacket, hchain]
      simp only [Continues, if_neg hfits, Bool.false_eq_true, if_false, if_true, and_self]
    | more hsome hbytes hfits hpacket hchain hrest =>
      obtain rfl := Option.some.inj (hread.symm.trans hsome)
      refine ⟨_, rfl, ?_⟩
      rw [hbytes, hpacket, hchain]
      simp only [Continues, if_neg hfits, Bool.false_eq_true, if_false]
      exact hrest
  · rintro ⟨rest, rfl, h⟩
    cases hbytes : descriptor.bytes memory with
    | none =>
      rw [hbytes] at h
      obtain ⟨rfl, rfl⟩ := h
      exact .fault hread hbytes
    | some bytes =>
      rw [hbytes] at h
      unfold Continues at h
      dsimp only at h
      split at h
      · rename_i hlong
        obtain ⟨rfl, rfl⟩ := h
        exact .oversize hread hbytes hlong
      · rename_i hfits
        cases hpacket : descriptor.end_of_packet with
        | true =>
          rw [hpacket, if_pos rfl] at h
          obtain ⟨rfl, rfl⟩ := h
          exact .complete hread hbytes hfits hpacket
        | false =>
          rw [hpacket, if_neg Bool.false_ne_true] at h
          cases hchain : descriptor.end_of_chain with
          | true =>
            rw [hchain, if_pos rfl] at h
            obtain ⟨rfl, rfl⟩ := h
            exact .cut hread hbytes hfits hpacket hchain
          | false =>
            rw [hchain, if_neg Bool.false_ne_true] at h
            exact .more hread hbytes hfits hpacket hchain h

/-- A packet has one outcome. -/
theorem Gathers.unique (h : Gathers memory pointer frame outcome requests) {other : PacketOutcome} {count : Nat}
    (hother : Gathers memory pointer frame other count) : outcome = other := by
  induction h generalizing count with
  | unreadable hread => exact ((gathers_unreadable hread).mp hother).1.symm
  | fault hread hbytes =>
    obtain ⟨rest, -, hrest⟩ := (gathers_readable hread).mp hother
    rw [hbytes] at hrest
    exact hrest.1.symm
  | oversize hread hbytes hlong =>
    obtain ⟨rest, -, hrest⟩ := (gathers_readable hread).mp hother
    rw [hbytes] at hrest
    simp only [Continues, if_pos hlong] at hrest
    exact hrest.1.symm
  | complete hread hbytes hfits hpacket =>
    obtain ⟨rest, -, hrest⟩ := (gathers_readable hread).mp hother
    rw [hbytes, hpacket] at hrest
    simp only [Continues, if_neg hfits, if_true] at hrest
    exact hrest.1.symm
  | cut hread hbytes hfits hpacket hchain =>
    obtain ⟨rest, -, hrest⟩ := (gathers_readable hread).mp hother
    rw [hbytes, hpacket, hchain] at hrest
    simp only [Continues, if_neg hfits, Bool.false_eq_true, if_false, if_true] at hrest
    exact hrest.1.symm
  | more hread hbytes hfits hpacket hchain _ ih =>
    obtain ⟨rest, -, hrest⟩ := (gathers_readable hread).mp hother
    rw [hbytes, hpacket, hchain] at hrest
    simp only [Continues, if_neg hfits, Bool.false_eq_true, if_false] at hrest
    exact ih hrest

/-! ## Fragments -/

/-- A buffer's bytes depend on its address alone. -/
theorem fragment_bytes_mask (memory : U32 → Option U8) (buffer : U32) (count : Nat) :
    fragment_bytes memory (buffer &&& ETHERNET_ADDRESS_MASK) count = fragment_bytes memory buffer count := by
  unfold fragment_bytes
  simp only [wrapped_mask]

theorem mapM_congr {α β : Type} {f g : α → Option β} {list : List α} (h : ∀ element ∈ list, f element = g element) :
    list.mapM f = list.mapM g := by
  induction list with
  | nil => rfl
  | cons head tail ih =>
    rw [List.mapM_cons, List.mapM_cons, h head List.mem_cons_self,
      ih fun element helement => h element (List.mem_cons_of_mem _ helement)]

/-- A buffer is read chunk by chunk. -/
theorem fragment_bytes_chunk (memory : U32 → Option U8) (buffer : U32) (count : Nat) :
    fragment_bytes memory buffer count =
      (read_dma memory (buffer &&& ETHERNET_ADDRESS_MASK) (min count 32)).bind fun chunk =>
        (fragment_bytes memory (wrapped buffer (min count 32)) (count - min count 32)).map (chunk ++ ·) := by
  have hrange : List.range count = List.range (min count 32) ++
      (List.range (count - min count 32)).map (min count 32 + ·) := by
    rw [← List.range_add, Nat.add_sub_cancel' (Nat.min_le_left _ _)]
  have hhead : (List.range (min count 32)).mapM (fun index =>
        memory (wrapped buffer (32 * (index / 32)) + BitVec.ofNat 32 (index % 32))) =
      read_dma memory (buffer &&& ETHERNET_ADDRESS_MASK) (min count 32) := by
    apply mapM_congr
    intro index hindex
    have hlt : index < 32 := by
      have := List.mem_range.mp hindex
      omega
    have hzero : wrapped buffer 0 = buffer &&& ETHERNET_ADDRESS_MASK := by
      unfold wrapped
      rw [BitVec.add_zero]
    rw [Nat.div_eq_of_lt hlt, Nat.mod_eq_of_lt hlt, Nat.mul_zero, hzero]
  have htail : (List.range (count - min count 32)).mapM (fun index =>
        memory (wrapped buffer (32 * ((min count 32 + index) / 32)) + BitVec.ofNat 32 ((min count 32 + index) % 32))) =
      fragment_bytes memory (wrapped buffer (min count 32)) (count - min count 32) := by
    apply mapM_congr
    intro index hindex
    have hfull : min count 32 = 32 := by
      have := List.mem_range.mp hindex
      omega
    rw [hfull, wrapped_add, Nat.add_mod_left, Nat.add_div_left index (by decide : 0 < 32), Nat.mul_succ, Nat.add_comm 32]
  unfold fragment_bytes at htail ⊢
  rw [hrange, List.mapM_append, List.mapM_map, hhead]
  apply congrArg (Option.bind _)
  funext chunk
  rw [Option.map_eq_bind]
  exact congrArg (Option.bind · _) htail

end se_machine.ip12
