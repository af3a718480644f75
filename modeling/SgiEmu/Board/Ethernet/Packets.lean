import SgiEmu.Board.Ethernet.Fragments
import SgiEmu.Board.Ethernet.Transmit

open se_core se_device se_device.hpc1 Library.Mask

namespace se_machine.ip12

/-! ## Runs without guest accesses -/

/-- An event that finds this memory, if it reads any. -/
def DmaEvent.Reads (memory : U32 → Option U8) : DmaEvent → Prop
  | .Serve _ found _ _ _ => found = memory
  | _ => True

/-- Whether the controller can take a packet in this event. -/
def DmaEvent.takes : DmaEvent → Bool
  | .Serve transmitter_ready .. => transmitter_ready
  | _ => true

end se_machine.ip12

namespace se_device.hpc1.EthernetChannel

open se_machine.ip12

/-- What the controller is given in a run, and the channel after it. -/
def handed (channel : EthernetChannel) : List DmaEvent → List EthernetRequest × EthernetChannel
  | [] => ([], channel)
  | event :: rest =>
    let served := channel.dma_step event
    let later := served.2.handed rest
    (served.1.toList.filter EthernetRequest.to_controller ++ later.1, later.2)

/-- How often the channel is served while it has time for a request and no packet
is at the controller. -/
def free_serves (channel : EthernetChannel) : List DmaEvent → Nat
  | [] => 0
  | event :: rest =>
    (if channel.serves event && channel.transmit_inflight.isNone then 1 else 0) + (channel.dma_step event).2.free_serves rest

/-- The controller can take a packet whenever it has none. -/
def taken_when_free (channel : EthernetChannel) : List DmaEvent → Bool
  | [] => true
  | event :: rest => (event.takes || channel.transmit_inflight.isSome) && (channel.dma_step event).2.taken_when_free rest

/-- A packet begins at the next descriptor, in a channel that runs. -/
structure Started (channel : EthernetChannel) : Prop where
  consistent : channel.TransmitConsistent
  stage : channel.transmit_stage = .Descriptor
  running : channel.held_in_reset = false

end se_device.hpc1.EthernetChannel

namespace se_machine.ip12

/-- What the controller has been given for the finished packets of a chain, and
where the packet behind them begins, with the bytes it begins with. -/
inductive Packets (memory : U32 → Option U8) (first : U32) (frame : List U8) : List EthernetRequest → U32 → List U8 → Prop where
  | begin : Packets memory first frame [] first frame
  | sent {handed : List EthernetRequest} {pointer : U32} {gathered bytes : List U8} {next : U32} {requests : Nat}
      (hpackets : Packets memory first frame handed pointer gathered)
      (hsent : Gathers memory pointer gathered (.sent bytes next false) requests) :
      Packets memory first frame (handed ++ [.Transmit bytes]) next []

/-- What the controller may be given for a chain: packets, then perhaps the
outcome of one more, behind which there is nothing. -/
inductive Handed (memory : U32 → Option U8) (first : U32) (frame : List U8) : List EthernetRequest → Prop where
  | packets {handed : List EthernetRequest} {pointer : U32} {gathered : List U8}
      (hpackets : Packets memory first frame handed pointer gathered) : Handed memory first frame handed
  | last {handed : List EthernetRequest} {pointer : U32} {gathered : List U8} {outcome : PacketOutcome} {requests : Nat}
      (hpackets : Packets memory first frame handed pointer gathered)
      (hlast : Gathers memory pointer gathered outcome requests) : Handed memory first frame (handed ++ [outcome.request])

end se_machine.ip12

namespace se_device.hpc1.EthernetChannel

open se_machine.ip12

/-- The controller is given the packets of the chain, as the chain says, and
each one's outcome once the channel has been served often enough. -/
def GathersPackets (channel : EthernetChannel) : Prop :=
  ∀ (memory : U32 → Option U8) (events later : List DmaEvent), (∀ event ∈ events ++ later, event.Reads memory) →
    let reached := (channel.handed events).2
    Handed memory channel.next_transmit_descriptor_pointer [] (channel.handed events).1 ∧
      (reached.transmit_stage = .Descriptor →
        Packets memory channel.next_transmit_descriptor_pointer [] (channel.handed events).1
            reached.next_transmit_descriptor_pointer [] ∧
          ∀ outcome requests, Gathers memory reached.next_transmit_descriptor_pointer [] outcome requests →
            reached.taken_when_free later = true → 2 * requests + 1 < reached.free_serves later →
              (reached.handed later).1.head? = some outcome.request)

end se_device.hpc1.EthernetChannel

namespace se_machine.ip12

variable {memory : U32 → Option U8} {channel : EthernetChannel}

/-! ## One serve -/

/-- A channel that is served leaves its transmit side alone, or asks it. -/
inductive TransmitServed (memory : U32 → Option U8) (ready : Bool) (channel : EthernetChannel) :
    List EthernetRequest × EthernetChannel → Prop where
  | waits {after : EthernetChannel} (hhalf : after.transmit_half = channel.transmit_half)
      (hturn : channel.ready_to_serve = true → channel.prefer_receive = true ∧ after.prefer_receive = false)
      (hbusy : channel.ready_to_serve = false → after.prefer_receive = channel.prefer_receive) :
      TransmitServed memory ready channel ([], after)
  | asked {turn after : EthernetChannel} (hready : channel.ready_to_serve = true)
      (hhalf : turn.transmit_half = channel.transmit_half) (hnext : after.prefer_receive = !channel.prefer_receive)
      {accepted : Bool} {status : U8} {interrupt : Bool}
      (hafter : after.transmit_half = ((turn.transmit_request ready).2.answer (turn.transmit_request ready).1 memory
        accepted status interrupt).transmit_half) :
      TransmitServed memory ready channel
        ((turn.transmit_request ready).1.toList.filter EthernetRequest.to_controller, after)

theorem receive_side_not_handed {request : EthernetRequest} (hside : EthernetChannel.ReceiveSide request) :
    (some request).toList.filter EthernetRequest.to_controller = [] := by
  cases request with
  | Read address length kind => rfl
  | Write address bytes kind => rfl
  | Transmit frame => exact hside.elim
  | Underflow => exact hside.elim

theorem serve_transmit (channel : EthernetChannel) (ready : Bool) (memory : U32 → Option U8) (accepted : Bool)
    (status : U8) (interrupt : Bool) :
    let served := channel.serve ready memory accepted status interrupt
    TransmitServed memory ready channel (served.1.toList.filter EthernetRequest.to_controller, served.2) := by
  intro served
  have hserved : served = ((channel.next_request ready).1,
      (channel.next_request ready).2.answer (channel.next_request ready).1 memory accepted status interrupt) := rfl
  cases hready : channel.ready_to_serve with
  | false =>
    have hnone : channel.next_request ready = (none, channel) := by
      unfold EthernetChannel.next_request
      unfold EthernetChannel.ready_to_serve at hready
      rw [if_pos]
      cases hheld : channel.held_in_reset with
      | true => rfl
      | false =>
        rw [hheld] at hready
        simpa using hready
    rw [hserved, hnone]
    refine .waits rfl ?_ fun _ => rfl
    rw [hready]
    nofun
  | true =>
    have hturn := EthernetChannel.next_request_transmit_turn hready ready
    rw [hserved]
    generalize channel.next_request ready = asked at hturn
    cases hturn with
    | waits request after hside hhalf hturn hnext =>
      obtain ⟨hsame, hprefer⟩ := @EthernetChannel.answer_receive_side after request hside memory accepted status interrupt
      dsimp only
      rw [receive_side_not_handed hside]
      refine .waits (hsame.trans hhalf) (fun _ => ⟨hturn, hprefer.trans hnext⟩) ?_
      rw [hready]
      nofun
    | asked turn hhalf hnext =>
      refine .asked hready hhalf ?_ rfl
      have hturn := @EthernetChannel.transmit_request_prefer turn ready
      have hside := @EthernetChannel.transmit_request_side turn ready
      cases hrequest : (turn.transmit_request ready).1 with
      | none => exact hturn.trans hnext
      | some request =>
        obtain ⟨-, hprefer⟩ := @EthernetChannel.answer_transmit_side (turn.transmit_request ready).2 request
          (hside hrequest) memory accepted status interrupt
        exact hprefer.trans (hturn.trans hnext)
    | passes turn request after hhalf hnone hside hafter hturn hnext =>
      have hanswer : (after.answer request memory accepted status interrupt).transmit_half = after.transmit_half ∧
          (after.answer request memory accepted status interrupt).prefer_receive = after.prefer_receive := by
        cases request with
        | none => exact ⟨rfl, rfl⟩
        | some request => exact EthernetChannel.answer_receive_side (hside request rfl) memory accepted status interrupt
      have hrequests : request.toList.filter EthernetRequest.to_controller =
          (turn.transmit_request ready).1.toList.filter EthernetRequest.to_controller := by
        rw [hnone]
        cases request with
        | none => rfl
        | some request => exact receive_side_not_handed (hside request rfl)
      dsimp only
      rw [hrequests]
      refine @TransmitServed.asked memory ready channel turn _ hready hhalf ?_ accepted status interrupt ?_
      · rw [hanswer.2, hnext, hturn]
        rfl
      · rw [hanswer.1, hafter, hnone]
        rfl

theorem transmit_request_inflight {context : EthernetTransmitContext}
    (hinflight : channel.transmit_half.inflight = some context) (ready : Bool) :
    channel.transmit_request ready = (none, channel) := by
  unfold EthernetChannel.transmit_request EthernetChannel.transmit_request_from
  rw [show channel.transmit_inflight = some context from hinflight]
  rfl

theorem transmit_request_idle (hstage : channel.transmit_half.stage = .Idle) (ready : Bool) :
    channel.transmit_request ready = (none, channel) := by
  unfold EthernetChannel.transmit_request EthernetChannel.transmit_request_from
  rw [show channel.transmit_stage = .Idle from hstage]
  dsimp only
  split
  · rfl
  · rw [if_neg nofun]
    split
    · rfl
    · rfl

/-! ## Where the chain is -/

/-- A packet is gathered that has begun at this descriptor, behind these bytes. A
packet of an older chain may still be at the controller: then no read is made. -/
structure Gathered (memory : U32 → Option U8) (pointer : U32) (gathered : List U8) (half : TransmitHalf) : Prop where
  gathering : half.Gathering
  waits : ∀ context, half.inflight = some context → context.dma_attached = false ∧ half.stage = .Descriptor
  begins : half.stage = .Descriptor → half.next_descriptor_pointer = pointer ∧ half.frame = gathered
  remaining : ∀ outcome, (∃ requests, Remaining memory half outcome requests) ↔
    ∃ requests, Gathers memory pointer gathered outcome requests

/-- How far a chain has come, given what the controller has been handed. -/
inductive ChainAt (memory : U32 → Option U8) (first : U32) (frame : List U8) : List EthernetRequest → TransmitHalf → Prop where
  | gathering {handed : List EthernetRequest} {pointer : U32} {gathered : List U8} {half : TransmitHalf}
      (hpackets : Packets memory first frame handed pointer gathered) (hgathered : Gathered memory pointer gathered half) :
      ChainAt memory first frame handed half
  | wire {handed : List EthernetRequest} {pointer : U32} {gathered bytes : List U8} {half : TransmitHalf}
      {context : EthernetTransmitContext} {requests : Nat}
      (hpackets : Packets memory first frame handed pointer gathered)
      (hsent : Gathers memory pointer gathered (.sent bytes half.next_descriptor_pointer context.end_of_chain) requests)
      (hinflight : half.inflight = some context) (hattached : context.dma_attached = true) (hframe : half.frame = [])
      (hstage : half.stage = .Wire) : ChainAt memory first frame (handed ++ [.Transmit bytes]) half
  | stopped {handed : List EthernetRequest} {pointer : U32} {gathered : List U8} {half : TransmitHalf}
      {outcome : PacketOutcome} {requests : Nat} (hpackets : Packets memory first frame handed pointer gathered)
      (hlast : Gathers memory pointer gathered outcome requests) (hstage : half.stage = .Idle)
      (hnone : half.inflight = none) : ChainAt memory first frame (handed ++ [outcome.request]) half

variable {first : U32} {frame : List U8} {handed : List EthernetRequest}

theorem ChainAt.to_handed {half : TransmitHalf} (h : ChainAt memory first frame handed half) : Handed memory first frame handed := by
  cases h with
  | gathering hpackets => exact .packets hpackets
  | wire hpackets hsent => exact .last hpackets hsent
  | stopped hpackets hlast => exact .last hpackets hlast

/-- A packet that begins begins where the finished ones end. -/
theorem ChainAt.packet_begins {half : TransmitHalf} (h : ChainAt memory first frame handed half) (hstage : half.stage = .Descriptor) :
    Packets memory first frame handed half.next_descriptor_pointer half.frame ∧
      Gathered memory half.next_descriptor_pointer half.frame half := by
  cases h with
  | gathering hpackets hgathered =>
    obtain ⟨hpointer, hframe⟩ := hgathered.begins hstage
    rw [hpointer, hframe]
    exact ⟨hpackets, hgathered⟩
  | wire _ _ _ _ _ hwire => exact absurd (hwire.symm.trans hstage) (by decide)
  | stopped _ _ hidle => exact absurd (hidle.symm.trans hstage) (by decide)

/-- A packet whose descriptor is not read yet. -/
theorem gathered_of_descriptor {half : TransmitHalf} (h : half.Gathering) (hstage : half.stage = .Descriptor)
    (hwaits : ∀ context, half.inflight = some context → context.dma_attached = false) :
    Gathered memory half.next_descriptor_pointer half.frame half := by
  refine ⟨h, fun context hinflight => ⟨hwaits context hinflight, hstage⟩, fun _ => ⟨rfl, rfl⟩, fun outcome => ?_⟩
  constructor
  · rintro ⟨requests, hremaining⟩
    exact ⟨requests, (remaining_descriptor hstage _ _).mp hremaining⟩
  · rintro ⟨requests, hgathers⟩
    exact ⟨requests, (remaining_descriptor hstage _ _).mpr hgathers⟩

/-- A request of the transmit side and its answer bring the chain on. -/
theorem ChainAt.asked (h : ChainAt memory first frame handed channel.transmit_half) (ready accepted : Bool) (status : U8)
    (interrupt : Bool) :
    let asked := channel.transmit_request ready
    ChainAt memory first frame (handed ++ asked.1.toList.filter EthernetRequest.to_controller)
      (asked.2.answer asked.1 memory accepted status interrupt).transmit_half := by
  intro asked
  have hrests : asked = (none, channel) → ChainAt memory first frame
      (handed ++ asked.1.toList.filter EthernetRequest.to_controller)
      (asked.2.answer asked.1 memory accepted status interrupt).transmit_half := by
    intro hnone
    rw [hnone]
    show ChainAt memory first frame (handed ++ []) channel.transmit_half
    rw [List.append_nil]
    exact h
  cases h with
  | wire hpackets hsent hinflight => exact hrests (transmit_request_inflight hinflight ready)
  | stopped hpackets hlast hstage hnone => exact hrests (transmit_request_idle hstage ready)
  | @gathering _ pointer gathered _ hpackets hgathered =>
    cases hinflight : channel.transmit_half.inflight with
    | some context => exact hrests (transmit_request_inflight hinflight ready)
    | none =>
      have hasked : Asked memory ready channel.transmit_half asked :=
        transmit_request_asked hgathered.gathering hinflight ready
      have houtcome : ∀ {outcome requests}, Remaining memory channel.transmit_half outcome requests →
          ∃ requests, Gathers memory pointer gathered outcome requests := by
        intro outcome requests hremaining
        exact (hgathered.remaining outcome).mp ⟨requests, hremaining⟩
      generalize asked = result at hasked hrests
      cases hasked with
      | reads hgoes =>
        show ChainAt memory first frame (handed ++ []) _
        rw [List.append_nil]
        refine .gathering hpackets ⟨hgoes.gathering, ?_, fun hstage => absurd hstage hgoes.begun, fun outcome => ?_⟩
        · intro context hsome
          exact absurd (hgoes.alone.symm.trans hsome) nofun
        · rw [← hgathered.remaining outcome]
          constructor
          · rintro ⟨requests, hremaining⟩
            exact hgoes.back outcome requests hremaining
          · rintro ⟨requests, hremaining⟩
            obtain ⟨fewer, -, hfewer⟩ := hgoes.forth outcome requests hremaining
            exact ⟨fewer, hfewer⟩
      | @waits after _ hgathering hnone hbegun hsame =>
        show ChainAt memory first frame (handed ++ []) after.transmit_half
        rw [List.append_nil]
        refine .gathering hpackets ⟨hgathering, ?_, fun hstage => absurd hstage hbegun, fun outcome => ?_⟩
        · intro context hsome
          exact absurd (hnone.symm.trans hsome) nofun
        · rw [← hgathered.remaining outcome]
          exact exists_congr fun requests => hsame outcome requests
      | @sends after context hattached hchain hafter hremaining =>
        show ChainAt memory first frame (handed ++ [.Transmit channel.transmit_half.frame]) after.transmit_half
        obtain ⟨requests, hsent⟩ := houtcome hremaining
        rw [hafter]
        rw [← hchain] at hsent
        exact .wire hpackets hsent rfl hattached rfl rfl
      | @reports after hnone hremaining =>
        obtain ⟨requests, hlast⟩ := houtcome hremaining
        have hidle : (after.complete_transmit status interrupt).transmit_half.stage = .Idle ∧
            (after.complete_transmit status interrupt).transmit_half.inflight = none := by
          unfold EthernetChannel.complete_transmit
          rw [show after.transmit_inflight = none from hnone]
          simp [EthernetChannel.transmit_half]
        exact .stopped hpackets hlast hidle.1 hidle.2

/-- The controller is done with a packet of an older chain. -/
theorem complete_detached {context : EthernetTransmitContext} (hinflight : channel.transmit_inflight = some context)
    (hdetached : context.dma_attached = false) (hactive : channel.transmit_active = true) (status : U8)
    (interrupt : Bool) :
    (channel.complete_transmit status interrupt).transmit_half = { channel.transmit_half with inflight := none } := by
  have hkept : ((channel.transmit_status &&& ETHERNET_TRANSMIT_ACTIVE ||| (status.setWidth 32 : U32) <<< 16) &&&
      ETHERNET_TRANSMIT_ACTIVE != 0) = channel.transmit_active := by
    have hbit := EthernetChannel.transmit_active_eq_getLsbD { channel with
      transmit_status := channel.transmit_status &&& ETHERNET_TRANSMIT_ACTIVE ||| (status.setWidth 32 : U32) <<< 16 }
    rw [EthernetChannel.transmit_active_eq_getLsbD] at hactive ⊢
    rw [hactive]
    refine hbit.trans ?_
    rw [BitVec.getLsbD_or, BitVec.getLsbD_and, hactive, EthernetChannel.getLsbD_active]
    rfl
  unfold EthernetChannel.complete_transmit
  rw [hinflight]
  obtain ⟨first, next, chain, requested, attached⟩ := context
  obtain rfl : attached = false := hdetached
  unfold EthernetChannel.transmit_half EthernetChannel.transmit_active
  dsimp only
  rw [hkept]
  rfl

/-- The controller is done with the packet of the chain: the chain goes on, or stops. -/
theorem complete_attached {context : EthernetTransmitContext} (hinflight : channel.transmit_inflight = some context)
    (hattached : context.dma_attached = true) (status : U8) (interrupt : Bool) :
    let after := (channel.complete_transmit status interrupt).transmit_half
    after.inflight = none ∧ after.frame = channel.transmit_frame ∧
      after.next_descriptor_pointer = channel.next_transmit_descriptor_pointer ∧
      (after.stage = .Idle ∨ after.stage = .Descriptor ∧ after.active = true ∧ context.end_of_chain = false) := by
  have hactive : ∀ field : U32, ((field ||| ETHERNET_TRANSMIT_ACTIVE) &&& ETHERNET_TRANSMIT_ACTIVE != 0) = true := by
    intro field
    rw [bne_iff_ne]
    intro hzero
    have hbit := congrArg (·.getLsbD 22) hzero
    simp only [BitVec.getLsbD_and, BitVec.getLsbD_or, EthernetChannel.getLsbD_active] at hbit
    simp at hbit
  intro after
  have hafter : after = (channel.complete_transmit status interrupt).transmit_half := rfl
  unfold EthernetChannel.complete_transmit at hafter
  rw [hinflight] at hafter
  obtain ⟨first, next, chain, requested, attached⟩ := context
  obtain rfl : attached = true := hattached
  dsimp only at hafter ⊢
  split at hafter
  · rename_i hgoes
    rw [hafter]
    simp only [Bool.and_eq_true, Bool.not_eq_true'] at hgoes
    exact ⟨rfl, rfl, rfl, .inr ⟨rfl, hactive _, hgoes.1.2⟩⟩
  · rw [hafter]
    exact ⟨rfl, rfl, rfl, .inl rfl⟩

theorem ChainAt.complete (h : ChainAt memory first frame handed channel.transmit_half) (status : U8) (interrupt : Bool) :
    ChainAt memory first frame handed
      (channel.dma_step (.CompleteTransmit status interrupt)).2.transmit_half := by
  cases hinflight : channel.transmit_inflight with
  | none =>
    have hkept : (channel.dma_step (.CompleteTransmit status interrupt)).2 = channel := by
      apply if_neg
      rw [hinflight]
      decide
    rw [hkept]
    exact h
  | some context =>
    have hcompleted : (channel.dma_step (.CompleteTransmit status interrupt)).2 = channel.complete_transmit status interrupt := by
      apply if_pos
      rw [hinflight]
      rfl
    rw [hcompleted]
    cases h with
    | stopped _ _ _ hnone => exact absurd (hinflight.symm.trans hnone) nofun
    | gathering hpackets hgathered =>
      obtain ⟨hdetached, hstage⟩ := hgathered.waits context hinflight
      obtain ⟨hgathering, -, hbegins, hremaining⟩ := hgathered
      have hactive : channel.transmit_active = true := hgathering.active (by rw [hstage]; decide)
      rw [complete_detached hinflight hdetached hactive]
      refine .gathering hpackets ⟨⟨hgathering.not_idle, hgathering.not_wire, hgathering.active, hgathering.fits⟩, nofun,
        hbegins, hremaining⟩
    | @wire handed _ _ bytes _ wired requests hpackets hsent hwired hattached hframe =>
      obtain rfl : context = wired := Option.some.inj (hinflight.symm.trans hwired)
      obtain ⟨hnone, hkept, hpointer, hends⟩ := complete_attached hinflight hattached status interrupt
      rcases hends with hidle | ⟨hdescriptor, hactive, hchain⟩
      · exact .stopped hpackets hsent hidle hnone
      · rw [hchain] at hsent
        have hempty : (channel.complete_transmit status interrupt).transmit_half.frame = [] := hkept.trans hframe
        have hbegins := hpackets.sent hsent
        rw [← show _ = channel.transmit_half.next_descriptor_pointer from hpointer, ← hempty] at hbegins
        refine .gathering hbegins (gathered_of_descriptor ⟨?_, ?_, fun _ => hactive, ?_⟩ hdescriptor ?_)
        · rw [hdescriptor]
          decide
        · rw [hdescriptor]
          decide
        · rw [hempty]
          exact Nat.zero_le _
        · intro context hsome
          exact absurd (hnone.symm.trans hsome) nofun

/-- One event. -/
theorem ChainAt.step (h : ChainAt memory first frame handed channel.transmit_half) {event : DmaEvent} (hevent : event.Reads memory) :
    ChainAt memory first frame (handed ++ (channel.dma_step event).1.toList.filter EthernetRequest.to_controller)
      (channel.dma_step event).2.transmit_half := by
  cases event with
  | Advance elapsed ticks =>
    show ChainAt memory first frame (handed ++ []) (channel.advance_time elapsed ticks).transmit_half
    rw [List.append_nil, EthernetChannel.advance_time_transmit_half]
    exact h
  | ReceiveFrame bytes status interrupt_requested =>
    show ChainAt memory first frame (handed ++ [])
      (channel.accept_receive_frame bytes status interrupt_requested).transmit_half
    rw [List.append_nil, EthernetChannel.accept_receive_frame_transmit_half]
    exact h
  | CompleteTransmit status interrupt =>
    have hcomplete := h.complete status interrupt
    rw [← List.append_nil handed] at hcomplete
    exact hcomplete
  | Serve ready found accepted status interrupt =>
    obtain rfl : found = memory := hevent
    have hserved := serve_transmit channel ready found accepted status interrupt
    show ChainAt found first frame (handed ++ (channel.serve ready found accepted status interrupt).1.toList.filter _)
      (channel.serve ready found accepted status interrupt).2.transmit_half
    generalize channel.serve ready found accepted status interrupt = served at hserved ⊢
    obtain ⟨request, after⟩ := served
    dsimp only at hserved ⊢
    generalize request.toList.filter EthernetRequest.to_controller = given at hserved ⊢
    cases hserved with
    | waits hhalf =>
      rw [List.append_nil, hhalf]
      exact h
    | @asked turn _ _ hhalf _ accepted status interrupt hafter =>
      rw [hafter]
      rw [← hhalf] at h
      exact h.asked ready accepted status interrupt

theorem ChainAt.run (h : ChainAt memory first frame handed channel.transmit_half) {events : List DmaEvent}
    (hevents : ∀ event ∈ events, event.Reads memory) :
    ChainAt memory first frame (handed ++ (channel.handed events).1) (channel.handed events).2.transmit_half := by
  induction events generalizing channel handed with
  | nil =>
    show ChainAt memory first frame (handed ++ []) channel.transmit_half
    rw [List.append_nil]
    exact h
  | cons event rest ih =>
    have hrun := ih (h.step (hevents event List.mem_cons_self)) fun other hother =>
      hevents other (List.mem_cons_of_mem _ hother)
    rw [List.append_assoc] at hrun
    exact hrun

/-! ## The outcome is handed over -/

theorem Continues.unique {frame : List U8} {bytes : Option (List U8)} {end_of_packet end_of_chain : Bool} {next : U32}
    {outcome other : PacketOutcome} {requests count : Nat}
    (h : Continues memory frame bytes end_of_packet end_of_chain next outcome requests)
    (hother : Continues memory frame bytes end_of_packet end_of_chain next other count) : outcome = other := by
  cases bytes with
  | none => exact h.1.trans hother.1.symm
  | some bytes =>
    unfold Continues at h hother
    dsimp only at h hother
    split at h
    · rename_i hlong
      rw [if_pos hlong] at hother
      exact h.1.trans hother.1.symm
    · rename_i hfits
      rw [if_neg hfits] at hother
      cases end_of_packet with
      | true => exact h.1.trans hother.1.symm
      | false =>
        cases end_of_chain with
        | true => exact h.1.trans hother.1.symm
        | false => exact h.unique hother

theorem Remaining.unique {half : TransmitHalf} {outcome other : PacketOutcome} {requests count : Nat}
    (h : Remaining memory half outcome requests) (hother : Remaining memory half other count) : outcome = other := by
  unfold Remaining at h hother
  cases hstage : half.stage with
  | Descriptor =>
    rw [hstage] at h hother
    exact h.unique hother
  | Data =>
    rw [hstage] at h hother
    obtain ⟨rest, -, h⟩ := h
    obtain ⟨rest', -, hother⟩ := hother
    exact h.unique hother
  | Send =>
    rw [hstage] at h hother
    exact h.1.trans hother.1.symm
  | Fault =>
    rw [hstage] at h hother
    exact h.1.trans hother.1.symm
  | Idle =>
    rw [hstage] at h
    exact h.elim
  | Wire =>
    rw [hstage] at h
    exact h.elim

/-- The requests to serve at most, when the receive side takes every turn it can. -/
def turns (channel : EthernetChannel) (requests : Nat) : Nat :=
  2 * requests + if channel.transmit_inflight.isSome || channel.prefer_receive then 1 else 0

/-- A packet on its way to its outcome, so many requests from it. -/
structure Coming (memory : U32 → Option U8) (half : TransmitHalf) (outcome : PacketOutcome) (requests : Nat) : Prop where
  gathering : half.Gathering
  waits : ∀ context, half.inflight = some context → context.dma_attached = false ∧ half.stage = .Descriptor
  remaining : Remaining memory half outcome requests

variable {outcome : PacketOutcome} {requests : Nat}

theorem Coming.asked (h : Coming memory channel.transmit_half outcome requests)
    (hnone : channel.transmit_half.inflight = none) (ready accepted : Bool) (status : U8) (interrupt : Bool) :
    let asked := channel.transmit_request ready
    let given := asked.1.toList.filter EthernetRequest.to_controller
    let after := asked.2.answer asked.1 memory accepted status interrupt
    given = [outcome.request] ∨ given = [] ∧ ∃ fewer, Coming memory after.transmit_half outcome fewer ∧
      after.transmit_half.inflight = none ∧ (ready = true → fewer < requests) := by
  intro asked
  have hasked : Asked memory ready channel.transmit_half asked := transmit_request_asked h.gathering hnone ready
  have halone : ∀ half : TransmitHalf, half.inflight = none → ∀ context, half.inflight = some context →
      context.dma_attached = false ∧ half.stage = .Descriptor := by
    intro half hnone context hsome
    exact absurd (hnone.symm.trans hsome) nofun
  clear_value asked
  cases hasked with
  | reads hgoes =>
    obtain ⟨fewer, hless, hremaining⟩ := hgoes.forth outcome requests h.remaining
    exact .inr ⟨rfl, fewer, ⟨hgoes.gathering, halone _ hgoes.alone, hremaining⟩, hgoes.alone, fun _ => hless⟩
  | waits hready hgathering hnone hbegun hsame =>
    refine .inr ⟨rfl, requests, ⟨hgathering, halone _ hnone, (hsame _ _).mpr h.remaining⟩, hnone, ?_⟩
    intro htrue
    exact absurd (hready.symm.trans htrue) nofun
  | sends hattached hchain hafter hremaining =>
    rw [h.remaining.unique hremaining]
    exact .inl rfl
  | reports hnone hremaining =>
    rw [h.remaining.unique hremaining]
    exact .inl rfl

/-- An event hands the outcome over, or brings the packet nearer to it. -/
theorem Coming.step (h : Coming memory channel.transmit_half outcome requests) {event : DmaEvent}
    (hevent : event.Reads memory) (htaken : (event.takes || channel.transmit_inflight.isSome) = true) :
    let given := (channel.dma_step event).1.toList.filter EthernetRequest.to_controller
    let after := (channel.dma_step event).2
    given = [outcome.request] ∨ given = [] ∧ ∃ fewer, Coming memory after.transmit_half outcome fewer ∧
      turns after fewer + (if channel.serves event && channel.transmit_inflight.isNone then 1 else 0) ≤
        turns channel requests := by
  intro given after
  -- an event that leaves the transmit half and whose turn it is
  have hkept : ∀ other : EthernetChannel, other.transmit_half = channel.transmit_half →
      other.prefer_receive = channel.prefer_receive → ∃ fewer, Coming memory other.transmit_half outcome fewer ∧
        turns other fewer ≤ turns channel requests := by
    intro other hhalf hprefer
    refine ⟨requests, by rw [hhalf]; exact h, ?_⟩
    unfold turns
    rw [show other.transmit_inflight = channel.transmit_inflight from congrArg (·.inflight) hhalf, hprefer]
  cases event with
  | Advance elapsed ticks =>
    refine .inr ⟨rfl, hkept _ (EthernetChannel.advance_time_transmit_half elapsed ticks) ?_⟩
    show (channel.advance_time elapsed ticks).prefer_receive = _
    rw [EthernetChannel.advance_time_eq]
  | ReceiveFrame bytes status interrupt_requested =>
    refine .inr ⟨rfl, hkept _ (EthernetChannel.accept_receive_frame_transmit_half bytes status interrupt_requested) ?_⟩
    show (channel.accept_receive_frame bytes status interrupt_requested).prefer_receive = _
    fun_cases EthernetChannel.accept_receive_frame <;> rfl
  | CompleteTransmit status interrupt =>
    refine .inr ⟨rfl, ?_⟩
    cases hinflight : channel.transmit_inflight with
    | none =>
      have hsame : after = channel := by
        apply if_neg
        rw [hinflight]
        decide
      rw [hsame]
      exact hkept channel rfl rfl
    | some context =>
      have hcompleted : after = channel.complete_transmit status interrupt := by
        apply if_pos
        rw [hinflight]
        rfl
      obtain ⟨hdetached, hstage⟩ := h.waits context hinflight
      have hactive : channel.transmit_active = true := h.gathering.active (by rw [hstage]; decide)
      have hhalf := complete_detached hinflight hdetached hactive status interrupt
      rw [hcompleted]
      refine ⟨requests, ?_, ?_⟩
      · rw [hhalf]
        exact ⟨⟨h.gathering.not_idle, h.gathering.not_wire, h.gathering.active, h.gathering.fits⟩, by simp, h.remaining⟩
      · unfold turns
        rw [hinflight, Option.isSome_some, Bool.true_or, if_pos rfl]
        show _ + 0 ≤ _
        split <;> omega
  | Serve ready found accepted status interrupt =>
    obtain rfl : found = memory := hevent
    have hserved : TransmitServed found ready channel (given, after) :=
      serve_transmit channel ready found accepted status interrupt
    clear_value given after
    cases hserved with
    | waits hhalf hturn hbusy =>
      refine .inr ⟨rfl, requests, by rw [hhalf]; exact h, ?_⟩
      have hinflight : after.transmit_inflight = channel.transmit_inflight := congrArg (·.inflight) hhalf
      unfold turns
      rw [hinflight]
      show _ + (if channel.ready_to_serve && _ then 1 else 0) ≤ _
      cases hready : channel.ready_to_serve with
      | false =>
        rw [hbusy hready]
        exact Nat.le_refl _
      | true =>
        rw [(hturn hready).1, (hturn hready).2]
        cases channel.transmit_inflight with
        | none => exact Nat.le_refl _
        | some context => exact Nat.le_refl _
    | @asked turn _ hready hhalf hnext accepted' status' interrupt' hafter =>
      cases hinflight : channel.transmit_inflight with
      | some context =>
        have hwaiting : turn.transmit_half.inflight = some context := by
          rw [hhalf]
          exact hinflight
        have hsame : after.transmit_half = channel.transmit_half := by
          rw [hafter, transmit_request_inflight hwaiting]
          exact hhalf
        refine .inr ⟨by rw [transmit_request_inflight hwaiting]; rfl, requests, by rw [hsame]; exact h, ?_⟩
        unfold turns
        rw [show after.transmit_inflight = some context from (congrArg (·.inflight) hsame).trans hinflight, hinflight]
        exact Nat.le_of_eq (by simp)
      | none =>
        have hready' : ready = true := by
          rw [hinflight] at htaken
          simpa [DmaEvent.takes] using htaken
        rw [← hhalf] at h
        have hfree : turn.transmit_half.inflight = none := by
          rw [hhalf]
          exact hinflight
        rcases h.asked hfree ready accepted' status' interrupt' with hgiven | ⟨hgiven, fewer, hcoming, hnone, hfewer⟩
        · exact .inl hgiven
        · refine .inr ⟨hgiven, fewer, by rw [hafter]; exact hcoming, ?_⟩
          have hless := hfewer hready'
          have hone : ∀ flag : Bool, (if flag then 1 else 0 : Nat) ≤ 1 := by decide
          have hcount := hone (channel.serves (.Serve ready found accepted status interrupt) && (none : Option EthernetTransmitContext).isNone)
          unfold turns
          rw [show after.transmit_inflight = none from (congrArg (·.inflight) hafter).trans hnone, hnext, hinflight]
          cases channel.prefer_receive with
          | false =>
            show 2 * fewer + 1 + _ ≤ 2 * requests + 0
            omega
          | true =>
            show 2 * fewer + 0 + _ ≤ 2 * requests + 1
            omega

/-- Served often enough, the packet's outcome is handed over first. -/
theorem Coming.run (h : Coming memory channel.transmit_half outcome requests) {events : List DmaEvent}
    (hevents : ∀ event ∈ events, event.Reads memory) (htaken : channel.taken_when_free events = true)
    (hserves : turns channel requests < channel.free_serves events) :
    (channel.handed events).1.head? = some outcome.request := by
  induction events generalizing channel requests with
  | nil => exact absurd hserves (Nat.not_lt_zero _)
  | cons event rest ih =>
    unfold EthernetChannel.taken_when_free at htaken
    unfold EthernetChannel.free_serves at hserves
    rw [Bool.and_eq_true] at htaken
    unfold EthernetChannel.handed
    dsimp only
    rcases h.step (hevents event List.mem_cons_self) htaken.1 with hgiven | ⟨hgiven, fewer, hcoming, hfewer⟩
    · rw [hgiven]
      rfl
    · rw [hgiven, List.nil_append]
      apply ih hcoming fun other hother => hevents other (List.mem_cons_of_mem _ hother)
      · exact htaken.2
      · omega

/-! ## Started channels -/

theorem started_gathered (h : channel.Started) :
    Gathered memory channel.next_transmit_descriptor_pointer channel.transmit_frame channel.transmit_half := by
  have hstage := h.consistent.stage
  rw [h.stage] at hstage
  have hspec : channel.transmit_active = true ∧ channel.attached ≠ some true := by
    cases hattached : channel.attached with
    | none =>
      cases hactive : channel.transmit_active with
      | true => exact ⟨rfl, nofun⟩
      | false =>
        rw [hattached, hactive] at hstage
        rcases hstage with hstage | hstage <;> cases hstage
    | some attached =>
      rw [hattached] at hstage
      cases attached with
      | true => cases hstage.2
      | false =>
        cases hactive : channel.transmit_active with
        | true => exact ⟨rfl, nofun⟩
        | false =>
          rw [hactive] at hstage
          cases hstage
  obtain ⟨hactive, hattached⟩ := hspec
  have hdescriptor : channel.transmit_half.stage = .Descriptor := h.stage
  refine gathered_of_descriptor ⟨?_, ?_, fun _ => hactive, h.consistent.frame⟩ hdescriptor ?_
  · rw [hdescriptor]
    decide
  · rw [hdescriptor]
    decide
  · intro context hinflight
    rw [← Bool.not_eq_true]
    intro hdma
    apply hattached
    show channel.transmit_inflight.map (·.dma_attached) = some true
    rw [show channel.transmit_inflight = some context from hinflight, Option.map_some, hdma]

/-- A packet that begins in a run comes to its outcome. -/
theorem Gathered.run (h : Gathered memory channel.next_transmit_descriptor_pointer frame channel.transmit_half)
    {events : List DmaEvent} (hevents : ∀ event ∈ events, event.Reads memory)
    (htaken : channel.taken_when_free events = true)
    (hgathers : Gathers memory channel.next_transmit_descriptor_pointer frame outcome requests)
    (hstage : channel.transmit_half.stage = .Descriptor)
    (hserves : 2 * requests + 1 < channel.free_serves events) :
    (channel.handed events).1.head? = some outcome.request := by
  obtain ⟨-, hframe⟩ := h.begins hstage
  have hcoming : Coming memory channel.transmit_half outcome requests := by
    refine ⟨h.gathering, h.waits, (remaining_descriptor hstage _ _).mpr ?_⟩
    rw [hframe]
    exact hgathers
  apply hcoming.run hevents htaken
  unfold turns
  split <;> omega

/-- Only the first packet can begin with bytes of an older one. -/
theorem Packets.gathered_eq_nil {pointer : U32} {gathered : List U8} (h : Packets memory first [] handed pointer gathered) :
    gathered = [] := by
  cases h with
  | begin => rfl
  | sent => rfl

theorem gathers_of_frame_empty (h : channel.Started) (hempty : channel.transmit_frame = []) : channel.GathersPackets := by
  intro memory events later hevents reached
  have hat : ChainAt memory channel.next_transmit_descriptor_pointer [] [] channel.transmit_half := by
    refine .gathering .begin ?_
    rw [← hempty]
    exact started_gathered h
  have hrun := hat.run fun event hevent => hevents event (List.mem_append_left _ hevent)
  rw [List.nil_append] at hrun
  refine ⟨hrun.to_handed, fun hstage => ?_⟩
  obtain ⟨hpackets, hgathered⟩ := hrun.packet_begins hstage
  have hnil : reached.transmit_half.frame = [] := hpackets.gathered_eq_nil
  rw [hnil] at hpackets hgathered
  refine ⟨hpackets, fun outcome requests hgathers htaken hserves => ?_⟩
  exact hgathered.run (fun event hevent => hevents event (List.mem_append_right _ hevent)) htaken hgathers hstage hserves

theorem dma_step_held (channel : EthernetChannel) (event : DmaEvent) :
    (channel.dma_step event).2.held_in_reset = channel.held_in_reset := by
  cases event with
  | Advance elapsed ticks => exact congrArg (·.held_in_reset) (EthernetChannel.advance_time_transmit_half elapsed ticks)
  | ReceiveFrame bytes status interrupt_requested =>
    exact congrArg (·.held_in_reset)
      (EthernetChannel.accept_receive_frame_transmit_half bytes status interrupt_requested)
  | CompleteTransmit status interrupt =>
    show (if channel.transmit_inflight.isSome then channel.complete_transmit status interrupt else channel).held_in_reset = _
    split
    · exact congrArg (·.held_in_reset) (EthernetChannel.complete_transmit_receive_half status interrupt)
    · rfl
  | Serve ready found accepted status interrupt =>
    let after := (channel.serve ready found accepted status interrupt).2
    obtain ⟨given, hserved⟩ : ∃ given, TransmitServed found ready channel (given, after) :=
      ⟨_, serve_transmit channel ready found accepted status interrupt⟩
    show after.held_in_reset = _
    clear_value after
    cases hserved with
    | waits hhalf => exact congrArg (·.held_in_reset) hhalf
    | @asked turn _ _ hhalf _ accepted status interrupt hafter =>
      have hasked : (turn.transmit_request ready).2.held_in_reset = turn.held_in_reset :=
        congrArg (·.held_in_reset) (EthernetChannel.transmit_request_receive_half ready)
      have hturn : turn.held_in_reset = channel.held_in_reset := congrArg (·.held_in_reset) hhalf
      refine (congrArg (·.held_in_reset) hafter).trans (Eq.trans ?_ (hasked.trans hturn))
      cases hrequest : (turn.transmit_request ready).1 with
      | none => rfl
      | some request =>
        obtain ⟨hsame, -⟩ := @EthernetChannel.answer_transmit_side (turn.transmit_request ready).2 request
          (EthernetChannel.transmit_request_side ready hrequest) found accepted status interrupt
        exact congrArg (·.held_in_reset) hsame

/-- A channel that runs can be served as often as one likes. -/
theorem exists_served (memory : U32 → Option U8) (count : Nat) (hrunning : channel.held_in_reset = false) :
    ∃ events : List DmaEvent, (∀ event ∈ events, event.Reads memory) ∧ channel.taken_when_free events = true ∧
      count ≤ channel.free_serves events := by
  induction count generalizing channel with
  | zero => exact ⟨[], List.forall_mem_nil _, rfl, Nat.le_refl _⟩
  | succ count ih =>
    let completed := (channel.dma_step (.CompleteTransmit 0 false)).2
    let waited := (completed.dma_step (.Advance completed.dma_delay_attoseconds 0)).2
    let served := (waited.dma_step (.Serve true memory true 0 false)).2
    have hheld : waited.held_in_reset = false := by
      rw [dma_step_held, dma_step_held]
      exact hrunning
    have hserved : served.held_in_reset = false := by
      rw [dma_step_held]
      exact hheld
    obtain ⟨events, hevents, htaken, hcount⟩ := ih hserved
    have hfree : completed.transmit_inflight = none := by
      show (if channel.transmit_inflight.isSome then channel.complete_transmit 0 false else channel).transmit_inflight = none
      split
      · exact EthernetChannel.complete_transmit_inflight _ _
      · rename_i hnone
        exact Option.not_isSome_iff_eq_none.mp hnone
    have hfree' : waited.transmit_inflight = none :=
      (congrArg (·.inflight) (EthernetChannel.advance_time_transmit_half completed.dma_delay_attoseconds 0)).trans hfree
    have hready : waited.ready_to_serve = true := by
      have hdelay : waited.dma_delay_attoseconds = 0 := by
        show (completed.advance_time completed.dma_delay_attoseconds 0).dma_delay_attoseconds = 0
        rw [EthernetChannel.advance_time_eq]
        exact Nat.sub_self _
      unfold EthernetChannel.ready_to_serve
      rw [hheld, hdelay]
      rfl
    refine ⟨.CompleteTransmit 0 false :: .Advance completed.dma_delay_attoseconds 0 ::
      .Serve true memory true 0 false :: events, ?_, ?_, ?_⟩
    · simp only [List.forall_mem_cons]
      exact ⟨trivial, trivial, rfl, hevents⟩
    · show ((true || _) && ((true || _) && ((true || _) && served.taken_when_free events))) = true
      rw [htaken]
      rfl
    · show _ ≤ 0 + (0 + ((if waited.ready_to_serve && waited.transmit_inflight.isNone then 1 else 0) +
        served.free_serves events))
      rw [hready, hfree']
      show _ ≤ 0 + (0 + (1 + _))
      omega

/-- A descriptor of no bytes that ends its packet and its chain. -/
def empty_descriptor : List U8 := [0x80, 0, 0, 0, 0x80, 0, 0, 0, 0, 0, 0, 0]

/-- A memory that holds the empty descriptor at an address. -/
def empty_packet_memory (pointer address : U32) : Option U8 := empty_descriptor[(address - pointer).toNat]?

theorem empty_packet_read (pointer : U32) :
    TransmitDescriptor.read (empty_packet_memory pointer) pointer = some (TransmitDescriptor.parse empty_descriptor) := by
  have hbytes : read_dma (empty_packet_memory pointer) pointer 12 = read_dma (empty_packet_memory 0) 0 12 := by
    apply mapM_congr
    intro index _
    unfold empty_packet_memory
    rw [BitVec.add_comm, BitVec.add_sub_cancel, BitVec.add_comm, BitVec.add_sub_cancel]
  unfold TransmitDescriptor.read
  rw [hbytes]
  rfl

/-- The empty packet comes to the bytes it begins with. -/
theorem empty_packet_gathers (pointer : U32) {frame : List U8} (hfits : frame.length ≤ MAX_ETHERNET_FRAME_BYTES) :
    Gathers (empty_packet_memory pointer) pointer frame (.sent frame 0 true) 2 := by
  have hsent := @Gathers.complete (empty_packet_memory pointer) pointer frame [] _ (empty_packet_read pointer) rfl
    (by rw [List.append_nil]; exact Nat.not_lt_of_le hfits) (by decide)
  rw [List.append_nil] at hsent
  exact hsent

theorem frame_empty_of_gathers (h : channel.Started) (hgathers : channel.GathersPackets) : channel.transmit_frame = [] := by
  let pointer := channel.next_transmit_descriptor_pointer
  obtain ⟨events, hevents, htaken, hcount⟩ := exists_served (empty_packet_memory pointer) 6 h.running
  have hfits : channel.transmit_frame.length ≤ MAX_ETHERNET_FRAME_BYTES := h.consistent.frame
  have hleaks : (channel.handed events).1.head? = some (.Transmit channel.transmit_frame) :=
    (started_gathered h).run hevents htaken (empty_packet_gathers pointer hfits) h.stage hcount
  have hempty : (channel.handed events).1.head? = some (.Transmit []) :=
    ((hgathers (empty_packet_memory pointer) [] events hevents).2 h.stage).2 _ _
      (empty_packet_gathers pointer (Nat.zero_le _)) htaken hcount
  exact EthernetRequest.Transmit.inj (Option.some.inj (hleaks.symm.trans hempty))

/-! ## Chains of packets -/

/-- A started channel hands over every packet of its chain, gathered in chain
order from that packet's buffers alone, just where it begins without bytes left
from an older chain. -/
theorem packets_gathered (h : channel.Started) : channel.GathersPackets ↔ channel.transmit_frame = [] :=
  ⟨frame_empty_of_gathers h, gathers_of_frame_empty h⟩

/-- A channel that is started after a reset. -/
theorem packets_gathered_after_reset :
    let channel := EthernetChannel.new.write_transmit_status 0 [0, 0x40, 0, 0]
    channel.Started ∧ channel.GathersPackets := by
  intro channel
  have hstarted : channel.Started :=
    ⟨EthernetChannel.write_transmit_status_consistent EthernetChannel.new_consistent 0 _ fun _ => by decide, by decide,
      by decide⟩
  exact ⟨hstarted, (packets_gathered hstarted).mpr (by decide)⟩

/-- A memory that holds at 0x1000 a descriptor of four bytes that ends its chain
inside the packet. -/
def cut_memory (address : U32) : Option U8 :=
  some ((([0, 0, 0, 4, 0x80, 0, 0x20, 0, 0, 0, 0, 0] : List U8)[(address - 0x1000#32).toNat]?).getD 0x55)

/-- A chain that ends inside its packet; once that is reported, a START. -/
def restart_after_cut : List EthernetEvent :=
  [.WriteTransmitRegister .NextDescriptorPointer 0 [0, 0, 0x10, 0],
    .WriteTransmitStatus 0 [0, 0x40, 0, 0],
    .Service cut_memory true,
    .AdvanceHpc1 (3 * ETHERNET_DMA_CYCLE_ATTOSECONDS) 0,
    .Service cut_memory true,
    .AdvanceHpc1 ETHERNET_DMA_CYCLE_ATTOSECONDS 0,
    .Service cut_memory true,
    .WriteTransmitStatus 0 [0, 0x40, 0, 0]]

/-- The next chain's first packet begins with the bytes of the cut one. -/
theorem packets_gathered_after_cut :
    ¬ ∀ events path, EthernetPath.new.run events = some path → path.hpc1.Started → path.hpc1.GathersPackets := by
  intro h
  obtain ⟨path, hrun, hpath⟩ :=
    EthernetPath.run_consistent EthernetPath.new_consistent restart_after_cut (by decide +kernel)
  have hreached : (EthernetPath.new.run restart_after_cut).all (fun path =>
      path.hpc1.transmit_stage == .Descriptor && !path.hpc1.held_in_reset &&
        path.hpc1.transmit_frame == [0x55, 0x55, 0x55, 0x55]) = true := by decide +kernel
  rw [hrun, Option.all_some] at hreached
  simp only [Bool.and_eq_true, beq_iff_eq, Bool.not_eq_true'] at hreached
  obtain ⟨⟨hstage, hrunning⟩, hframe⟩ := hreached
  have hstarted : path.hpc1.Started := ⟨hpath.channel, hstage, hrunning⟩
  have hempty := frame_empty_of_gathers hstarted (h restart_after_cut path hrun hstarted)
  rw [hframe] at hempty
  cases hempty

end se_machine.ip12
