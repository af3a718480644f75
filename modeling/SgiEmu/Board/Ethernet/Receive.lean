import SgiEmu.Board.Ethernet.Serve
import SgiEmu.Device.Hpc1.Clock
import SgiEmu.Library.Mask

open se_core se_device.hpc1 Library.Mask

namespace se_device.hpc1

/-! ## The receive half of a channel -/

/-- What the receive side of a channel reads and writes; of the control
register, the reset level and the overflow it raises. -/
structure ReceiveHalf where
  stage : EthernetRxStage
  frame : List U8
  offset : Nat
  overflow : Bool
  end_of_ring : Bool
  active : Bool
  byte_count : U32
  current_buffer_pointer : U32
  next_descriptor_pointer : U32
  current_descriptor_pointer : U32
  held_in_reset : Bool
  overflow_raised : Bool
deriving DecidableEq, Repr

namespace EthernetChannel

def overflow_raised (channel : EthernetChannel) : Bool := channel.control &&& ETHERNET_OVERFLOW != 0

def receive_half (channel : EthernetChannel) : ReceiveHalf :=
  { stage := channel.receive_stage
    frame := channel.receive_frame
    offset := channel.receive_offset
    overflow := channel.receive_overflow
    end_of_ring := channel.receive_end_of_ring
    active := channel.receive_active
    byte_count := channel.receive_byte_count
    current_buffer_pointer := channel.current_receive_buffer_pointer
    next_descriptor_pointer := channel.next_receive_descriptor_pointer
    current_descriptor_pointer := channel.current_receive_descriptor_pointer
    held_in_reset := channel.held_in_reset
    overflow_raised := channel.overflow_raised }

variable {channel : EthernetChannel}

theorem transmit_request_from_receive_half (ready : Bool)
    {again : EthernetChannel → Option EthernetRequest × EthernetChannel}
    (hagain : ∀ channel, (again channel).2.receive_half = channel.receive_half) :
    (channel.transmit_request_from ready again).2.receive_half = channel.receive_half := by
  fun_cases transmit_request_from
  case case8 => exact hagain _
  all_goals rfl

theorem transmit_request_receive_half (ready : Bool) :
    (channel.transmit_request ready).2.receive_half = channel.receive_half :=
  transmit_request_from_receive_half ready fun _ => transmit_request_from_receive_half ready fun _ => rfl

/-- Reads of the transmit side. -/
theorem complete_read_receive_half {kind : EthernetReadKind} (hkind : kind ≠ .ReceiveDescriptor)
    (data : Option (List U8)) : (channel.complete_read kind data).receive_half = channel.receive_half := by
  cases kind with
  | ReceiveDescriptor => exact absurd rfl hkind
  | TransmitData =>
    cases data with
    | none => rfl
    | some data =>
      unfold complete_read
      dsimp only
      split <;> rfl
  | TransmitDescriptor =>
    cases data with
    | none => rfl
    | some data =>
      unfold complete_read
      dsimp only
      split <;> rfl

theorem complete_transmit_receive_half (status : U8) (interrupt : Bool) :
    (channel.complete_transmit status interrupt).receive_half = channel.receive_half := by
  fun_cases complete_transmit <;> rfl

theorem advance_time_receive_half (elapsed ticks : Nat) :
    (channel.advance_time elapsed ticks).receive_half = channel.receive_half := by
  -- an interrupt leaves the reset level and the overflow bit
  have hreset : (channel.control ||| ETHERNET_INTERRUPT) &&& ETHERNET_RESET_CHANNEL =
      channel.control &&& ETHERNET_RESET_CHANNEL := or_and_of_disjoint (by decide)
  have hoverflow : (channel.control ||| ETHERNET_INTERRUPT) &&& ETHERNET_OVERFLOW =
      channel.control &&& ETHERNET_OVERFLOW := or_and_of_disjoint (by decide)
  rw [advance_time_eq]
  unfold receive_half held_in_reset overflow_raised raise
  dsimp only
  split
  · rw [hreset, hoverflow]
    rfl
  · rfl

theorem receive_active_mask_eq_twoPow : ETHERNET_RECEIVE_ACTIVE = BitVec.twoPow 32 14 := by decide

theorem receive_active_eq_getLsbD (channel : EthernetChannel) :
    channel.receive_active = channel.receive_status.getLsbD 14 := by
  simp only [receive_active, receive_active_mask_eq_twoPow, BitVec.and_twoPow]
  cases h : channel.receive_status.getLsbD 14 with
  | false => simp
  | true => simp [BitVec.twoPow_eq]

/-- The status of a frame that arrives leaves an active channel active. -/
theorem status_keeps_active {status : U8} (h : channel.receive_active = true) :
    ({ channel with
        receive_status := (channel.receive_status &&& ETHERNET_RECEIVE_ACTIVE) ||| (status.setWidth 32 <<< 8) } :
      EthernetChannel).receive_active = true := by
  rw [receive_active_eq_getLsbD] at h ⊢
  rw [BitVec.getLsbD_or, BitVec.getLsbD_and, h, receive_active_mask_eq_twoPow]
  simp

/-- A frame that arrives while another one is received is dropped. -/
theorem accept_receive_frame_receive_half (hactive : channel.receive_active = true)
    (hbusy : channel.receive_stage ≠ .Idle) (bytes : List U8) (status : U8) (interrupt_requested : Bool) :
    (channel.accept_receive_frame bytes status interrupt_requested).receive_half = channel.receive_half := by
  have hkept := @status_keeps_active channel status hactive
  unfold accept_receive_frame
  dsimp only
  rw [if_pos (by simp [hbusy])]
  unfold receive_half
  rw [hkept, hactive]
  rfl

/-! ## Receive requests by stage -/

theorem receive_request_descriptor (hactive : channel.receive_active = true)
    (hstage : channel.receive_stage = .Descriptor) :
    channel.receive_request = (some (.Read channel.next_receive_descriptor_pointer 12 .ReceiveDescriptor), channel) := by
  unfold receive_request receive_request_from
  rw [hactive, hstage]
  rfl

theorem receive_request_from_data (again : EthernetChannel → Option EthernetRequest × EthernetChannel)
    (hactive : channel.receive_active = true) (hstage : channel.receive_stage = .Data) :
    channel.receive_request_from again =
      let length := min (min channel.receive_byte_count.toNat 32) (channel.receive_frame.length - channel.receive_offset)
      if length = 0 then
        again
          { channel with
            receive_overflow := channel.receive_offset < channel.receive_frame.length
            receive_stage := .Completion }
      else
        (some (.Write (channel.current_receive_buffer_pointer &&& ETHERNET_ADDRESS_MASK)
          ((channel.receive_frame.drop channel.receive_offset).take length) .ReceiveData), channel) := by
  unfold receive_request_from
  rw [hactive, hstage]
  rfl

theorem receive_request_from_completion (again : EthernetChannel → Option EthernetRequest × EthernetChannel)
    (hactive : channel.receive_active = true) (hstage : channel.receive_stage = .Completion) :
    channel.receive_request_from again =
      (some (.Write channel.current_receive_descriptor_pointer
        (to_be_bytes (channel.receive_byte_count &&& ETHERNET_BYTE_COUNT_MASK)).toList .ReceiveCompletion), channel) := by
  unfold receive_request_from
  rw [hactive, hstage]
  rfl

/-! ## Taking turns -/

/-- Requests of the transmit side. -/
def TransmitSide : EthernetRequest → Prop
  | .Read _ _ kind => kind ≠ .ReceiveDescriptor
  | .Write .. => False
  | .Transmit _ => True
  | .Underflow => True

theorem transmit_request_from_side (ready : Bool) {again : EthernetChannel → Option EthernetRequest × EthernetChannel}
    (hagain : ∀ channel request, (again channel).1 = some request → TransmitSide request)
    {request : EthernetRequest} (h : (channel.transmit_request_from ready again).1 = some request) :
    TransmitSide request := by
  revert h
  fun_cases transmit_request_from
  case case8 =>
    intro h
    exact hagain _ _ h
  all_goals
    intro h
    cases h <;> simp [TransmitSide]

theorem transmit_request_side (ready : Bool) {request : EthernetRequest}
    (h : (channel.transmit_request ready).1 = some request) : TransmitSide request :=
  transmit_request_from_side ready
    (fun _ _ h => transmit_request_from_side ready (fun _ _ h => by cases h) h) h

theorem transmit_request_prefer (ready : Bool) :
    (channel.transmit_request ready).2.prefer_receive = channel.prefer_receive := by
  have hfrom : ∀ (again : EthernetChannel → Option EthernetRequest × EthernetChannel) (channel : EthernetChannel),
      (∀ channel, (again channel).2.prefer_receive = channel.prefer_receive) →
        (channel.transmit_request_from ready again).2.prefer_receive = channel.prefer_receive := by
    intro again channel hagain
    fun_cases transmit_request_from
    case case8 => exact hagain _
    all_goals rfl
  exact hfrom _ _ fun channel => hfrom _ _ fun _ => rfl

theorem complete_read_prefer (kind : EthernetReadKind) (data : Option (List U8)) :
    (channel.complete_read kind data).prefer_receive = channel.prefer_receive := by
  have hfail : ∀ (channel : EthernetChannel) kind, (channel.fail_read kind).prefer_receive = channel.prefer_receive := by
    intro channel kind
    cases kind <;> rfl
  cases data with
  | none => exact hfail channel kind
  | some data =>
    unfold complete_read load_receive_descriptor
    dsimp only
    split
    · split
      · exact hfail _ _
      · rfl
    · split
      · exact hfail _ _
      · split <;> rfl
    · split
      · exact hfail _ _
      · rfl

/-- An answer to the transmit side leaves the receive side and whose turn it is. -/
theorem answer_transmit_side {request : EthernetRequest} (hside : TransmitSide request) (memory : U32 → Option U8)
    (accepted : Bool) (status : U8) (interrupt : Bool) :
    (channel.answer (some request) memory accepted status interrupt).receive_half = channel.receive_half ∧
      (channel.answer (some request) memory accepted status interrupt).prefer_receive = channel.prefer_receive := by
  cases request with
  | Read address length kind =>
    exact ⟨complete_read_receive_half hside _, complete_read_prefer kind _⟩
  | Write address bytes kind => exact hside.elim
  | Transmit frame => exact ⟨rfl, rfl⟩
  | Underflow =>
    refine ⟨complete_transmit_receive_half status interrupt, ?_⟩
    show (channel.complete_transmit status interrupt).prefer_receive = _
    fun_cases complete_transmit <;> rfl

/-- Whether the receive side can ask for something. -/
def receiving (channel : EthernetChannel) : Prop := channel.receive_active = true ∧ channel.receive_stage ≠ .Idle

theorem receive_request_some (h : channel.receiving) : channel.receive_request.1.isSome = true := by
  obtain ⟨hactive, hbusy⟩ := h
  cases hstage : channel.receive_stage with
  | Idle => exact absurd hstage hbusy
  | Descriptor =>
    rw [receive_request_descriptor hactive hstage]
    rfl
  | Data =>
    show (channel.receive_request_from _).1.isSome = true
    rw [receive_request_from_data _ hactive hstage]
    dsimp only
    split
    · rw [receive_request_from_completion]
      · rfl
      · exact hactive
      · rfl
    · rfl
  | Completion =>
    show (channel.receive_request_from _).1.isSome = true
    rw [receive_request_from_completion _ hactive hstage]
    rfl

theorem receiving_of_half {other : EthernetChannel} (hhalf : other.receive_half = channel.receive_half)
    (h : channel.receiving) : other.receiving :=
  ⟨(congrArg (·.active) hhalf).trans h.1, fun hidle => h.2 ((congrArg (·.stage) hhalf).symm.trans hidle)⟩

/-- A channel that receives a frame and is served asks for that frame, unless it
is the transmit side's turn and that side has something to ask. -/
theorem next_request_receiving (h : channel.receiving) (hready : channel.ready_to_serve = true)
    (transmitter_ready : Bool) :
    (∃ turn : EthernetChannel, turn.receive_half = channel.receive_half ∧
        channel.next_request transmitter_ready = turn.receive_request) ∨
      (channel.prefer_receive = false ∧
        ∃ request after, channel.next_request transmitter_ready = (some request, after) ∧ TransmitSide request ∧
          after.receive_half = channel.receive_half ∧ after.prefer_receive = true) := by
  have hidle : (channel.held_in_reset || channel.dma_delay_attoseconds != 0) = false := by
    unfold ready_to_serve at hready
    simp only [Bool.and_eq_true, Bool.not_eq_true', beq_iff_eq] at hready
    simp [hready]
  unfold next_request
  rw [hidle, if_neg Bool.false_ne_true]
  dsimp only
  cases hprefer : channel.prefer_receive with
  | true =>
    rw [if_pos rfl]
    refine .inl ⟨{ channel with prefer_receive := !true }, rfl, ?_⟩
    have hsome : ({ channel with prefer_receive := !true } : EthernetChannel).receive_request.1.isSome = true :=
      receive_request_some (receiving_of_half rfl h)
    split
    · rename_i heq
      exact heq.symm
    · rename_i heq
      rw [heq] at hsome
      cases hsome
  | false =>
    rw [if_neg Bool.false_ne_true]
    have hhalf : (({ channel with prefer_receive := !false } : EthernetChannel).transmit_request
        transmitter_ready).2.receive_half = channel.receive_half := transmit_request_receive_half transmitter_ready
    have hturn : (({ channel with prefer_receive := !false } : EthernetChannel).transmit_request
        transmitter_ready).2.prefer_receive = true := transmit_request_prefer transmitter_ready
    have hside := @transmit_request_side { channel with prefer_receive := !false } transmitter_ready
    split
    · rename_i request after heq
      rw [heq] at hhalf hturn hside
      exact .inr ⟨rfl, request, after, rfl, hside rfl, hhalf, hturn⟩
    · rename_i after heq
      rw [heq] at hhalf
      exact .inl ⟨after, hhalf, rfl⟩

end EthernetChannel

end se_device.hpc1
