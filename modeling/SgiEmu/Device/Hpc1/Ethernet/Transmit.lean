import SgiEmu.Device.Hpc1.Ethernet

open se_core

namespace se_device.hpc1

namespace EthernetChannel

/-! ## What the transmit fields say of one another -/

/-- The stages a channel can be in, given whether a packet is at the controller
(and still attached to the DMA) and whether the channel is ACTIVE. -/
def stage_allowed : (attached : Option Bool) → (active : Bool) → EthernetTxStage → Prop
  | some true, active, stage => active = true ∧ stage = .Wire
  | some false, true, stage => stage = .Descriptor
  | some false, false, stage => stage = .Idle
  | none, true, stage => stage = .Descriptor ∨ stage = .Data ∨ stage = .Send
  | none, false, stage => stage = .Idle ∨ stage = .Fault

/-- Whether the packet at the controller, if any, still belongs to the DMA. -/
def attached (channel : EthernetChannel) : Option Bool := channel.transmit_inflight.map (·.dma_attached)

structure TransmitConsistent (channel : EthernetChannel) : Prop where
  stage : stage_allowed channel.attached channel.transmit_active channel.transmit_stage
  frame : channel.transmit_frame.length ≤ MAX_ETHERNET_FRAME_BYTES

/-- Two channels whose transmit sides a receive operation cannot tell apart. -/
structure SameTransmit (a b : EthernetChannel) : Prop where
  status : a.transmit_status = b.transmit_status
  stage : a.transmit_stage = b.transmit_stage
  inflight : a.transmit_inflight = b.transmit_inflight
  frame : a.transmit_frame = b.transmit_frame
  reset_output : a.reset_output_pending = b.reset_output_pending

namespace SameTransmit

variable {a b c : EthernetChannel}

theorem refl (a : EthernetChannel) : SameTransmit a a := ⟨rfl, rfl, rfl, rfl, rfl⟩

theorem trans (hab : SameTransmit a b) (hbc : SameTransmit b c) : SameTransmit a c :=
  ⟨hab.status.trans hbc.status, hab.stage.trans hbc.stage, hab.inflight.trans hbc.inflight,
    hab.frame.trans hbc.frame, hab.reset_output.trans hbc.reset_output⟩

theorem active (h : SameTransmit a b) : a.transmit_active = b.transmit_active := by
  simp only [transmit_active, h.status]

theorem attached (h : SameTransmit a b) : a.attached = b.attached := by
  simp only [EthernetChannel.attached, h.inflight]

theorem consistent (h : SameTransmit a b) (hb : b.TransmitConsistent) : a.TransmitConsistent := by
  constructor
  · rw [h.attached, h.active, h.stage]
    exact hb.stage
  · rw [h.frame]
    exact hb.frame

end SameTransmit

/-! ## The ACTIVE bit -/

theorem active_mask_eq_twoPow : ETHERNET_TRANSMIT_ACTIVE = BitVec.twoPow 32 22 := by decide

theorem transmit_active_eq_getLsbD (channel : EthernetChannel) :
    channel.transmit_active = channel.transmit_status.getLsbD 22 := by
  simp only [transmit_active, active_mask_eq_twoPow, BitVec.and_twoPow]
  cases h : channel.transmit_status.getLsbD 22 with
  | false => simp
  | true => simp [BitVec.twoPow_eq]

/-- Status bits of a completed packet leave the ACTIVE bit alone. -/
theorem getLsbD_status_field (status : U8) (h : status.getLsbD 6 = false) :
    (status.setWidth 32 <<< 16 : U32).getLsbD 22 = false := by
  rw [BitVec.getLsbD_shiftLeft, BitVec.getLsbD_setWidth]
  simpa using h

theorem getLsbD_active : ETHERNET_TRANSMIT_ACTIVE.getLsbD 22 = true := by decide

/-! ## Guest writes -/

variable {channel : EthernetChannel}

theorem new_consistent : new.TransmitConsistent := by
  constructor
  · have hactive : new.transmit_active = false := by decide
    rw [hactive]
    exact Or.inl rfl
  · exact Nat.zero_le _

/-- A STOP leaves every packet detached and the stage Idle; a START moves only
an idle channel, so it must not meet a fault that waits to be reported. -/
theorem write_transmit_status_consistent (h : channel.TransmitConsistent) (offset : Nat) (data : List U8)
    (hcalm : (channel.write_transmit_status offset data).transmit_active = true → channel.transmit_stage ≠ .Fault) :
    (channel.write_transmit_status offset data).TransmitConsistent := by
  obtain ⟨hstage, hframe⟩ := h
  revert hcalm
  fun_cases write_transmit_status
  case case1 channel' hstop =>
    intro _
    have hinactive : channel'.transmit_active = false := by simpa using hstop
    constructor
    · simp only [transmit_active] at hinactive
      simp only [attached, transmit_active, hinactive, Option.map_map]
      cases channel'.transmit_inflight with
      | none => exact Or.inl rfl
      | some context => rfl
    · exact Nat.zero_le _
  case case2 channel' hstart hidle =>
    intro _
    have hactive : channel'.transmit_active = true := by simpa using hstart
    constructor
    · have hattached : channel.attached ≠ some true := by
        intro hattached
        rw [hattached] at hstage
        exact absurd (hidle.symm.trans hstage.2) (by simp)
      simp only [transmit_active] at hactive
      simp only [attached, transmit_active, hactive]
      cases hpacket : channel.transmit_inflight with
      | none => exact Or.inl rfl
      | some context =>
        have hdetached : context.dma_attached = false := by
          simpa [attached, hpacket] using hattached
        simp [hdetached, stage_allowed]
    · exact hframe
  case case3 channel' hstart hidle =>
    intro hcalm
    have hactive : channel'.transmit_active = true := by simpa using hstart
    have hfault : channel.transmit_stage ≠ .Fault := hcalm hactive
    refine ⟨?_, hframe⟩
    have hsame : channel'.attached = channel.attached := rfl
    have hkept : channel'.transmit_stage = channel.transmit_stage := rfl
    rw [hactive, hsame, hkept]
    rw [hkept] at hidle
    cases hpacket : channel.attached with
    | none =>
      rw [hpacket] at hstage
      cases hold : channel.transmit_active with
      | true => simpa [hold] using hstage
      | false =>
        rw [hold] at hstage
        rcases hstage with hstage | hstage
        · exact absurd hstage hidle
        · exact absurd hstage hfault
    | some attached =>
      rw [hpacket] at hstage
      cases attached with
      | true => exact ⟨rfl, hstage.2⟩
      | false =>
        cases hold : channel.transmit_active with
        | true => simpa [hold] using hstage
        | false =>
          rw [hold] at hstage
          exact absurd hstage hidle

theorem write_control_consistent (h : channel.TransmitConsistent) (offset : Nat) (data : List U8) :
    (channel.write_control offset data).TransmitConsistent := by
  fun_cases write_control
  case case1 => exact ⟨new_consistent.stage, new_consistent.frame⟩
  case case2 => exact ⟨h.stage, h.frame⟩

/-! ## Operations of the receive side -/

theorem write_transmit_register_same (register : TransmitRegister) (offset : Nat) (data : List U8) :
    SameTransmit (channel.write_transmit_register register offset data) channel := by
  cases register with
  | _ => exact ⟨rfl, rfl, rfl, rfl, rfl⟩

theorem write_receive_register_same (register : ReceiveRegister) (offset : Nat) (data : List U8) :
    SameTransmit (channel.write_receive_register register offset data) channel := by
  cases register with
  | _ => exact ⟨rfl, rfl, rfl, rfl, rfl⟩

theorem write_receive_status_same (offset : Nat) (data : List U8) :
    SameTransmit (channel.write_receive_status offset data) channel := by
  fun_cases write_receive_status
  case case1 => exact ⟨rfl, rfl, rfl, rfl, rfl⟩
  case case2 => exact ⟨rfl, rfl, rfl, rfl, rfl⟩

theorem write_timer_same (value : U32) : SameTransmit (channel.write_timer value) channel :=
  ⟨rfl, rfl, rfl, rfl, rfl⟩

theorem advance_timer_same (ticks : Nat) : SameTransmit (channel.advance_timer ticks) channel := by
  fun_cases advance_timer
  all_goals exact ⟨rfl, rfl, rfl, rfl, rfl⟩

theorem advance_time_same (elapsed ticks : Nat) : SameTransmit (channel.advance_time elapsed ticks) channel := by
  have htimer := channel.advance_timer_same ticks
  exact ⟨htimer.status, htimer.stage, htimer.inflight, htimer.frame, htimer.reset_output⟩

theorem accept_receive_frame_same (bytes : List U8) (status : U8) (interrupt : Bool) :
    SameTransmit (channel.accept_receive_frame bytes status interrupt) channel := by
  fun_cases accept_receive_frame
  case case1 => exact ⟨rfl, rfl, rfl, rfl, rfl⟩
  case case2 => exact ⟨rfl, rfl, rfl, rfl, rfl⟩

theorem fail_receive_same : SameTransmit channel.fail_receive channel := ⟨rfl, rfl, rfl, rfl, rfl⟩

theorem load_receive_descriptor_same (control buffer next : U32) :
    SameTransmit (channel.load_receive_descriptor control buffer next) channel := by
  fun_cases load_receive_descriptor
  case case1 => exact ⟨rfl, rfl, rfl, rfl, rfl⟩
  case case2 => exact ⟨rfl, rfl, rfl, rfl, rfl⟩

theorem complete_receive_read_same (data : Option (List U8)) :
    SameTransmit (channel.complete_read .ReceiveDescriptor data) channel := by
  cases data with
  | none => exact fail_receive_same
  | some data =>
    simp only [complete_read]
    split
    · exact ⟨rfl, rfl, rfl, rfl, rfl⟩
    · have hload := @load_receive_descriptor_same { channel with dma_delay_attoseconds := dma_delay data.length }
        (be_word data 0) (be_word data 4) (be_word data 8 &&& ETHERNET_ADDRESS_MASK)
      exact ⟨hload.status, hload.stage, hload.inflight, hload.frame, hload.reset_output⟩

theorem complete_write_same (kind : EthernetWriteKind) (length : Nat) (success : Bool) :
    SameTransmit (channel.complete_write kind length success) channel := by
  fun_cases complete_write
  all_goals exact ⟨rfl, rfl, rfl, rfl, rfl⟩

theorem receive_request_from_same (again : EthernetChannel → Option EthernetRequest × EthernetChannel)
    (hagain : ∀ channel : EthernetChannel, SameTransmit (again channel).2 channel) :
    SameTransmit (channel.receive_request_from again).2 channel := by
  fun_cases receive_request_from
  case case4 =>
    exact (hagain _).trans ⟨rfl, rfl, rfl, rfl, rfl⟩
  all_goals exact ⟨rfl, rfl, rfl, rfl, rfl⟩

theorem receive_request_same : SameTransmit channel.receive_request.2 channel :=
  receive_request_from_same _ fun _ => receive_request_from_same _ fun _ => SameTransmit.refl _

/-- Requests of the receive side. -/
def ReceiveSide : EthernetRequest → Prop
  | .Read _ _ kind => kind = .ReceiveDescriptor
  | .Write _ _ _ => True
  | .Transmit _ => False
  | .Underflow => False

theorem receive_request_from_side (again : EthernetChannel → Option EthernetRequest × EthernetChannel)
    (hagain : ∀ channel request, (again channel).1 = some request → ReceiveSide request)
    (request : EthernetRequest) (h : (channel.receive_request_from again).1 = some request) :
    ReceiveSide request := by
  revert h
  fun_cases receive_request_from
  case case4 =>
    intro h
    exact hagain _ _ h
  all_goals
    intro h
    simp only [Option.some.injEq, reduceCtorEq] at h
    try subst h
    try simp [ReceiveSide]

theorem receive_request_side (request : EthernetRequest) (h : channel.receive_request.1 = some request) :
    ReceiveSide request := by
  refine receive_request_from_side _ (fun channel request h => ?_) request h
  exact receive_request_from_side _ (fun channel request h => by simp at h) request h

/-! ## What one request can do -/

/-- The results of asking a consistent channel for its next request. -/
inductive RequestOutcome (ready : Bool) (before : EthernetChannel) :
    Option EthernetRequest × EthernetChannel → Prop
  /-- Nothing, or a request of the receive side. -/
  | other (request : Option EthernetRequest) (after : EthernetChannel)
      (hside : ∀ asked, request = some asked → ReceiveSide asked)
      (hafter : after.TransmitConsistent) (hactive : after.transmit_active = before.transmit_active)
      (hinflight : after.transmit_inflight = before.transmit_inflight)
      (hreset : after.reset_output_pending = before.reset_output_pending) :
      RequestOutcome ready before (request, after)
  /-- The packet being gathered needs its descriptor or its bytes. -/
  | read (address : U32) (length : Nat) (kind : EthernetReadKind) (after : EthernetChannel)
      (hkind : kind ≠ .ReceiveDescriptor) (hafter : after.TransmitConsistent)
      (hactive : after.transmit_active = true) (hinflight : after.transmit_inflight = none)
      (hbefore : before.transmit_inflight = none) (hreset : after.reset_output_pending = before.reset_output_pending) :
      RequestOutcome ready before (some (.Read address length kind), after)
  | transmit (frame : List U8) (after : EthernetChannel) (hready : ready = true)
      (hframe : frame.length ≤ MAX_ETHERNET_FRAME_BYTES) (hafter : after.TransmitConsistent)
      (hactive : after.transmit_active = true) (hinflight : after.transmit_inflight.isSome = true)
      (hbefore : before.transmit_inflight = none) (hreset : after.reset_output_pending = before.reset_output_pending) :
      RequestOutcome ready before (some (.Transmit frame), after)
  /-- A fault is reported; only an inactive channel was already waiting to. -/
  | underflow (after : EthernetChannel) (hframe : after.transmit_frame.length ≤ MAX_ETHERNET_FRAME_BYTES)
      (hinflight : after.transmit_inflight = none) (hbefore : before.transmit_inflight = none)
      (hwaiting : before.transmit_active = true → before.transmit_stage ≠ .Fault)
      (hreset : after.reset_output_pending = before.reset_output_pending) :
      RequestOutcome ready before (some .Underflow, after)

theorem consistent_none (h : channel.TransmitConsistent) (hinflight : channel.transmit_inflight = none)
    (hactive : channel.transmit_active = true) :
    channel.transmit_stage = .Descriptor ∨ channel.transmit_stage = .Data ∨ channel.transmit_stage = .Send := by
  have hstage := h.stage
  simpa [attached, hinflight, hactive, stage_allowed] using hstage

theorem outcome_none (ready : Bool) (h : channel.TransmitConsistent) : RequestOutcome ready channel (none, channel) :=
  .other none channel (by simp) h rfl rfl rfl

theorem transmit_request_from_outcome (ready : Bool) (again : EthernetChannel → Option EthernetRequest × EthernetChannel)
    (h : channel.TransmitConsistent)
    (hagain : channel.transmit_stage = .Data → channel.transmit_inflight = none → channel.transmit_active = true →
      RequestOutcome ready channel (again channel.leave_data)) :
    RequestOutcome ready channel (channel.transmit_request_from ready again) := by
  unfold transmit_request_from
  split
  case isTrue => exact outcome_none ready h
  case isFalse hinflight =>
    have hnone : channel.transmit_inflight = none := by simpa using hinflight
    split
    case isTrue hfault =>
      refine .underflow _ h.frame hnone hnone (fun hactive _ => ?_) rfl
      have hstage := consistent_none h hnone hactive
      simp [hfault] at hstage
    case isFalse hfault =>
      split
      case isTrue => exact outcome_none ready h
      case isFalse hinactive =>
        have hactive : channel.transmit_active = true := by simpa using hinactive
        split
        · exact outcome_none ready h
        · exact outcome_none ready h
        · exact outcome_none ready h
        · exact .read _ _ _ _ (by simp) h hactive hnone hnone rfl
        case h_5 hdata =>
          split
          · exact hagain hdata hnone hactive
          · exact .read _ _ _ _ (by simp) h hactive hnone hnone rfl
        · split
          case isTrue hready =>
            refine .transmit _ _ hready h.frame ⟨?_, Nat.zero_le _⟩ hactive rfl hnone rfl
            exact ⟨hactive, rfl⟩
          case isFalse => exact outcome_none ready h

/-- An exhausted buffer leads to the next stage, or to the underflow of a chain
that ended inside a packet. -/
theorem transmit_request_outcome (ready : Bool) (h : channel.TransmitConsistent) :
    RequestOutcome ready channel (channel.transmit_request ready) := by
  refine transmit_request_from_outcome ready _ h fun hdata hnone hactive => ?_
  have hleft : channel.leave_data.transmit_inflight = none := hnone
  have hkept : channel.leave_data.transmit_active = true := hactive
  by_cases hfault : channel.leave_data.transmit_stage = .Fault
  · have hrequest : channel.leave_data.transmit_request_from ready (fun channel => (none, channel)) =
        (some .Underflow, { channel.leave_data with transmit_stage := .Idle }) := by
      simp [transmit_request_from, hleft, hfault]
    rw [hrequest]
    exact .underflow _ h.frame hnone hnone (fun _ => by simp [hdata]) rfl
  · have hleave : channel.leave_data.TransmitConsistent := by
      refine ⟨?_, h.frame⟩
      simp only [attached, hleft, hkept]
      simp only [leave_data] at hfault ⊢
      simp only [stage_allowed, Option.map_none]
      split
      · exact Or.inr (Or.inr rfl)
      · split
        case isTrue hpacket hchain => simp [hpacket, hchain] at hfault
        · exact Or.inl rfl
    have houtcome := transmit_request_from_outcome ready (fun channel => (none, channel)) hleave
      (fun hstage _ _ => by
        simp only [leave_data] at hstage
        split at hstage
        · simp at hstage
        · split at hstage
          · simp at hstage
          · simp at hstage)
    generalize channel.leave_data.transmit_request_from ready (fun channel => (none, channel)) = result at houtcome
    cases houtcome with
    | other request after hside hafter hafterActive hinflight hreset =>
      exact .other request after hside hafter (hafterActive.trans rfl) (hinflight.trans rfl) (hreset.trans rfl)
    | read address length kind after hkind hafter hafterActive hinflight _ hreset =>
      exact .read address length kind after hkind hafter hafterActive hinflight hnone (hreset.trans rfl)
    | transmit frame after hready hframe hafter hafterActive hinflight _ hreset =>
      exact .transmit frame after hready hframe hafter hafterActive hinflight hnone (hreset.trans rfl)
    | underflow after hframe hinflight _ _ hreset =>
      exact .underflow after hframe hinflight hnone (fun _ => by simp [hdata]) (hreset.trans rfl)

theorem RequestOutcome.of_same {ready : Bool} {before : EthernetChannel}
    {result : Option EthernetRequest × EthernetChannel} (h : RequestOutcome ready channel result)
    (hsame : SameTransmit channel before) : RequestOutcome ready before result := by
  cases h with
  | other request after hside hafter hactive hinflight hreset =>
    exact .other request after hside hafter (hactive.trans hsame.active) (hinflight.trans hsame.inflight)
      (hreset.trans hsame.reset_output)
  | read address length kind after hkind hafter hactive hinflight hbefore hreset =>
    exact .read address length kind after hkind hafter hactive hinflight (hsame.inflight.symm.trans hbefore)
      (hreset.trans hsame.reset_output)
  | transmit frame after hready hframe hafter hactive hinflight hbefore hreset =>
    exact .transmit frame after hready hframe hafter hactive hinflight (hsame.inflight.symm.trans hbefore)
      (hreset.trans hsame.reset_output)
  | underflow after hframe hinflight hbefore hwaiting hreset =>
    refine .underflow after hframe hinflight (hsame.inflight.symm.trans hbefore) (fun hactive => ?_)
      (hreset.trans hsame.reset_output)
    rw [← hsame.stage]
    exact hwaiting (hsame.active.trans hactive)

theorem next_request_outcome (ready : Bool) (h : channel.TransmitConsistent) :
    RequestOutcome ready channel (channel.next_request ready) := by
  unfold next_request
  split
  · exact outcome_none ready h
  · have hturn : SameTransmit { channel with prefer_receive := !channel.prefer_receive } channel :=
      ⟨rfl, rfl, rfl, rfl, rfl⟩
    dsimp only
    split
    · -- the receive side first
      have hreceive := @receive_request_same { channel with prefer_receive := !channel.prefer_receive }
      have hside := @receive_request_side { channel with prefer_receive := !channel.prefer_receive }
      split
      case h_1 request after heq =>
        rw [heq] at hreceive hside
        exact .other _ _ hside (hreceive.consistent (hturn.consistent h)) hreceive.active hreceive.inflight
          hreceive.reset_output
      case h_2 after heq =>
        rw [heq] at hreceive
        have hsame := hreceive.trans hturn
        exact (transmit_request_outcome ready (hsame.consistent h)).of_same hsame
    · -- the transmit side first
      have houtcome := (transmit_request_outcome ready (hturn.consistent h)).of_same hturn
      split
      case h_1 request after heq => rwa [heq] at houtcome
      case h_2 after heq =>
        rw [heq] at houtcome
        cases houtcome with
        | other _ _ _ hafter hactive hinflight hreset =>
          have hreceive := @receive_request_same after
          exact .other _ _ (@receive_request_side after) (hreceive.consistent hafter)
            (hreceive.active.trans hactive) (hreceive.inflight.trans hinflight) (hreceive.reset_output.trans hreset)

/-! ## Completions -/

/-- A failed transmit read leaves an inactive channel with a fault to report. -/
theorem fail_read_consistent (hinflight : channel.transmit_inflight = none) (kind : EthernetReadKind)
    (hkind : kind ≠ .ReceiveDescriptor) :
    (channel.fail_read kind).TransmitConsistent ∧ (channel.fail_read kind).transmit_stage = .Fault := by
  have hinactive : (channel.fail_read kind).transmit_active = false := by
    rw [transmit_active_eq_getLsbD]
    cases kind with
    | ReceiveDescriptor => exact absurd rfl hkind
    | _ => simp [fail_read, getLsbD_active]
  have hpacket : (channel.fail_read kind).attached = none := by
    cases kind with
    | ReceiveDescriptor => exact absurd rfl hkind
    | _ => simp [fail_read, attached, hinflight]
  cases kind with
  | ReceiveDescriptor => exact absurd rfl hkind
  | _ =>
    refine ⟨⟨?_, Nat.zero_le _⟩, rfl⟩
    rw [hpacket, hinactive]
    exact Or.inr rfl

/-- A transmit read that succeeds goes on gathering an active packet; one that
fails leaves a fault. -/
theorem complete_transmit_read (h : channel.TransmitConsistent) (hactive : channel.transmit_active = true)
    (hinflight : channel.transmit_inflight = none) (kind : EthernetReadKind) (hkind : kind ≠ .ReceiveDescriptor)
    (data : Option (List U8)) :
    (channel.complete_read kind data).TransmitConsistent ∧
      (channel.complete_read kind data).transmit_inflight = none ∧
      ((channel.complete_read kind data).transmit_active = true ∨
        (channel.complete_read kind data).transmit_stage = .Fault) := by
  have hstages := consistent_none h hinflight hactive
  have hfailed (delay : Nat) :
      let failed := ({ channel with dma_delay_attoseconds := delay }).fail_read kind
      failed.TransmitConsistent ∧ failed.transmit_inflight = none ∧
        (failed.transmit_active = true ∨ failed.transmit_stage = .Fault) := by
    have hfail := @fail_read_consistent { channel with dma_delay_attoseconds := delay } hinflight kind hkind
    refine ⟨hfail.1, ?_, Or.inr hfail.2⟩
    cases kind with
    | ReceiveDescriptor => exact absurd rfl hkind
    | _ => exact hinflight
  cases data with
  | none => exact hfailed channel.dma_delay_attoseconds
  | some data =>
    cases kind with
    | ReceiveDescriptor => exact absurd rfl hkind
    | TransmitDescriptor =>
      simp only [complete_read]
      split
      · exact hfailed _
      · refine ⟨⟨?_, h.frame⟩, hinflight, Or.inl hactive⟩
        simp only [transmit_active] at hactive
        simp only [attached, load_transmit_descriptor, hinflight, transmit_active, hactive]
        exact Or.inr (Or.inl rfl)
    | TransmitData =>
      simp only [complete_read]
      split
      · exact hfailed _
      case isFalse hlength =>
        refine ⟨⟨?_, ?_⟩, hinflight, Or.inl hactive⟩
        · simp only [transmit_active] at hactive
          simp only [attached, gather_transmit_data, hinflight, transmit_active, hactive]
          exact hstages
        · simpa [gather_transmit_data] using hlength

theorem complete_read_reset_output (kind : EthernetReadKind) (data : Option (List U8)) :
    (channel.complete_read kind data).reset_output_pending = channel.reset_output_pending := by
  have hfail (channel : EthernetChannel) : (channel.fail_read kind).reset_output_pending = channel.reset_output_pending := by
    cases kind with
    | _ => rfl
  fun_cases complete_read
  case case5 => exact (load_receive_descriptor_same _ _ _).reset_output
  all_goals first | rfl | exact hfail _

theorem complete_transmit_inflight (status : U8) (interrupt : Bool) :
    (channel.complete_transmit status interrupt).transmit_inflight = none := by
  fun_cases complete_transmit
  all_goals rfl

theorem complete_transmit_reset_output (status : U8) (interrupt : Bool) :
    (channel.complete_transmit status interrupt).reset_output_pending = channel.reset_output_pending := by
  fun_cases complete_transmit
  all_goals rfl

/-- The completion of a packet that is still the channel's own, or the report
of a fault: the channel goes on with its chain, or stops. -/
theorem complete_transmit_own (hframe : channel.transmit_frame.length ≤ MAX_ETHERNET_FRAME_BYTES)
    (hown : channel.attached ≠ some false) (status : U8) (interrupt : Bool) (hstatus : status.getLsbD 6 = false) :
    (channel.complete_transmit status interrupt).TransmitConsistent := by
  have hfield := getLsbD_status_field status hstatus
  have hnone := @complete_transmit_inflight channel status interrupt
  refine ⟨?_, ?_⟩
  · rw [attached, hnone, transmit_active_eq_getLsbD]
    revert hown
    fun_cases complete_transmit
    case case1 hdetached =>
      intro hown
      have hinflight : channel.transmit_inflight = _ := hdetached
      exact absurd (by rw [attached, hinflight]; rfl) hown
    case case2 =>
      intro _
      dsimp only
      rw [BitVec.getLsbD_or, getLsbD_active, Bool.or_true]
      exact Or.inl rfl
    case case3 =>
      intro _
      dsimp only
      rw [hfield]
      exact Or.inl rfl
  · fun_cases complete_transmit
    all_goals exact hframe

/-- The completion of a packet a STOP detached publishes its status only. -/
theorem complete_transmit_detached (context : EthernetTransmitContext) (hinflight : channel.transmit_inflight = some context)
    (hdetached : context.dma_attached = false) (status : U8) (interrupt : Bool) (hstatus : status.getLsbD 6 = false) :
    (channel.complete_transmit status interrupt).transmit_active = channel.transmit_active ∧
      ∃ delay, channel.complete_transmit status interrupt =
        { channel with
          transmit_inflight := none
          transmit_interrupt_delay_attoseconds := delay
          transmit_status := (channel.transmit_status &&& ETHERNET_TRANSMIT_ACTIVE) ||| status.setWidth 32 <<< 16 } := by
  obtain ⟨first, next, chain, requested, still⟩ := context
  subst hdetached
  refine ⟨?_, _, by simp only [complete_transmit, hinflight]; rfl⟩
  have hfield := getLsbD_status_field status hstatus
  rw [transmit_active_eq_getLsbD, transmit_active_eq_getLsbD]
  simp only [complete_transmit, hinflight]
  rw [BitVec.getLsbD_or, BitVec.getLsbD_and, getLsbD_active, hfield, Bool.and_true, Bool.or_false]

end EthernetChannel

end se_device.hpc1
