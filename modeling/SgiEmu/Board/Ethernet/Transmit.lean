import SgiEmu.Board.Ethernet
import SgiEmu.Device.Hpc1.Ethernet.Transmit

open se_core se_device.hpc1 se_device.seeq8003

namespace se_machine.ip12

namespace EthernetPath

/-! ## Runs -/

def run (path : EthernetPath) : List EthernetEvent → Option EthernetPath
  | [] => some path
  | event :: events => (path.step event).bind fun next => next.run events

/-- Whether the guest writes the ACTIVE bit, as a START does. -/
def starts (path : EthernetPath) : EthernetEvent → Bool
  | .WriteTransmitStatus offset data => (path.hpc1.write_transmit_status offset data).transmit_active
  | _ => false

/-- Whether the guest stops the channel or asserts its reset. -/
def stops (path : EthernetPath) : EthernetEvent → Bool
  | .WriteTransmitStatus offset data => !(path.hpc1.write_transmit_status offset data).transmit_active
  | .WriteControl offset data => !path.hpc1.held_in_reset && (path.hpc1.write_control offset data).held_in_reset
  | _ => false

/-- Whether the packet at the controller, still the channel's own, completes. -/
def completes (path : EthernetPath) : EthernetEvent → Bool
  | .AdvanceController elapsed => path.hpc1.attached == some true && path.seeq8003.transmit_ends elapsed
  | _ => false

/-- Whether the packet being gathered faults: in one of its reads, or at the end
of a chain that does not end the packet. -/
def faults (path : EthernetPath) : EthernetEvent → Bool
  | .Service memory _ =>
    match path.hpc1.next_request path.seeq8003.transmit_ready with
    | (some (.Read address length kind), hpc1) =>
      kind != .ReceiveDescriptor && (hpc1.complete_read kind (read_dma memory address length)).transmit_stage == .Fault
    | (some .Underflow, _) => path.hpc1.transmit_stage != .Fault
    | _ => false
  | _ => false

/-- What may end a started channel's activity. -/
def ends (path : EthernetPath) (event : EthernetEvent) : Bool :=
  path.stops event || path.completes event || path.faults event

/-- A run in which nothing ends the activity. -/
def uninterrupted (path : EthernetPath) : List EthernetEvent → Bool
  | [] => true
  | event :: events =>
    !path.ends event &&
      match path.step event with
      | some next => next.uninterrupted events
      | none => true

/-- A run that writes no START between a fault and the report of its underflow. -/
def starts_after_reports (path : EthernetPath) : List EthernetEvent → Bool
  | [] => true
  | event :: events =>
    !(path.starts event && path.hpc1.transmit_stage == .Fault) &&
      match path.step event with
      | some next => next.starts_after_reports events
      | none => true

/-! ## The invariant of the path -/

structure Consistent (path : EthernetPath) : Prop where
  channel : path.hpc1.TransmitConsistent
  reset_output : path.hpc1.reset_output_pending = false
  one_packet : path.seeq8003.transmitting.isSome = path.hpc1.transmit_inflight.isSome
  delivered : path.seeq8003.transmitted = none

variable {path : EthernetPath}

theorem new_consistent : new.Consistent := ⟨EthernetChannel.new_consistent, rfl, rfl, rfl⟩

/-- An operation that leaves the transmit side alone. -/
theorem Consistent.of_same (h : path.Consistent) {hpc1 : EthernetChannel}
    (hsame : EthernetChannel.SameTransmit hpc1 path.hpc1) : ({ path with hpc1 } : EthernetPath).Consistent := by
  refine ⟨hsame.consistent h.channel, hsame.reset_output.trans h.reset_output, ?_, h.delivered⟩
  rw [hsame.inflight]
  exact h.one_packet

/-- A step that keeps the invariant and, where nothing ends it, the activity. -/
def StepsWell (path : EthernetPath) (event : EthernetEvent) (next : EthernetPath) : Prop :=
  next.Consistent ∧
    (path.hpc1.transmit_active = true → path.ends event = false → next.hpc1.transmit_active = true)

theorem stepsWell_of_same (h : path.Consistent) (event : EthernetEvent) {hpc1 : EthernetChannel}
    (hsame : EthernetChannel.SameTransmit hpc1 path.hpc1) : path.StepsWell event { path with hpc1 } :=
  ⟨h.of_same hsame, fun hactive _ => hsame.active.trans hactive⟩

/-! ### Guest writes -/

theorem write_transmit_status_stepsWell (h : path.Consistent) (offset : Nat) (data : List U8)
    (hcalm : path.starts (.WriteTransmitStatus offset data) = true → path.hpc1.transmit_stage ≠ .Fault) :
    path.StepsWell (.WriteTransmitStatus offset data)
      { path with hpc1 := path.hpc1.write_transmit_status offset data } := by
  have hchannel := EthernetChannel.write_transmit_status_consistent h.channel offset data hcalm
  refine ⟨⟨hchannel, ?_, ?_, h.delivered⟩, ?_⟩
  · show (path.hpc1.write_transmit_status offset data).reset_output_pending = false
    have hreset := h.reset_output
    fun_cases EthernetChannel.write_transmit_status
    all_goals exact hreset
  · show _ = (path.hpc1.write_transmit_status offset data).transmit_inflight.isSome
    have hpacket := h.one_packet
    fun_cases EthernetChannel.write_transmit_status
    · simpa using hpacket
    · exact hpacket
    · exact hpacket
  · intro _ hends
    simpa [ends, stops, completes, faults] using hends

theorem write_control_stepsWell (h : path.Consistent) (offset : Nat) (data : List U8) :
    path.StepsWell (.WriteControl offset data)
      (handle_hpc1_outputs { path with hpc1 := path.hpc1.write_control offset data }) := by
  have hends : path.ends (.WriteControl offset data) =
      (!path.hpc1.held_in_reset && (path.hpc1.write_control offset data).held_in_reset) := by
    simp [ends, stops, completes, faults]
  have hchannel := EthernetChannel.write_control_consistent h.channel offset data
  revert hchannel
  rw [StepsWell, hends]
  fun_cases EthernetChannel.write_control
  case case1 control channel hedge reset =>
    intro hchannel
    refine ⟨⟨⟨hchannel.stage, hchannel.frame⟩, rfl, rfl, rfl⟩, fun _ hheld => ?_⟩
    have hbefore : path.hpc1.held_in_reset = false := by
      simpa [EthernetChannel.held_in_reset] using hedge.1
    have hafter : channel.held_in_reset = true := hedge.2
    rw [hbefore] at hheld
    exact absurd (hafter.symm.trans hheld) (by simp)
  case case2 control channel hedge =>
    intro hchannel
    have hpending : channel.reset_output_pending = false := h.reset_output
    have hkept : handle_hpc1_outputs { path with hpc1 := channel } = { path with hpc1 := channel } := by
      simp [handle_hpc1_outputs, hpending]
    rw [hkept]
    exact ⟨h.of_same ⟨rfl, rfl, rfl, rfl, rfl⟩, fun hactive _ => hactive⟩

/-! ### The controller -/

/-- How time leaves the packet on the wire: still sending, or just sent. -/
theorem advance_time_cases (seeq : Seeq8003) (elapsed : Nat) :
    (seeq.transmit_ends elapsed = false ∧ (seeq.advance_time elapsed).transmitted = seeq.transmitted ∧
        (seeq.advance_time elapsed).transmitting.isSome = seeq.transmitting.isSome) ∨
      (seeq.transmit_ends elapsed = true ∧ seeq.transmitting.isSome = true ∧
        (seeq.advance_time elapsed).transmitting = none ∧ (seeq.advance_time elapsed).transmit_status = 0x08 ∧
          ∃ frame, (seeq.advance_time elapsed).transmitted = some frame) := by
  cases hwire : seeq.transmitting with
  | none =>
    left
    simp [Seeq8003.transmit_ends, Seeq8003.advance_time, hwire]
  | some frame =>
    by_cases hsending : elapsed < frame.remaining
    · left
      simp [Seeq8003.transmit_ends, Seeq8003.advance_time, hwire, hsending]
    · right
      have hsent : frame.remaining ≤ elapsed := by omega
      simp [Seeq8003.transmit_ends, Seeq8003.advance_time, hwire, hsending, hsent]

/-- Completing whatever the channel and the controller agree on. -/
theorem complete_transmit_consistent (hreset : path.hpc1.reset_output_pending = false)
    (hwire : path.seeq8003.transmitting = none) (hdelivered : path.seeq8003.transmitted = none)
    (hchannel : (path.hpc1.complete_transmit path.seeq8003.transmit_status
      path.seeq8003.transmit_interrupt).TransmitConsistent) :
    path.complete_transmit.Consistent := by
  refine ⟨hchannel, ?_, ?_, hdelivered⟩
  · exact (EthernetChannel.complete_transmit_reset_output _ _).trans hreset
  · show path.seeq8003.transmitting.isSome = (path.hpc1.complete_transmit _ _).transmit_inflight.isSome
    rw [EthernetChannel.complete_transmit_inflight, hwire]
    rfl

theorem stage_of_detached (h : path.Consistent) (hdetached : path.hpc1.attached = some false) :
    path.hpc1.transmit_stage = if path.hpc1.transmit_active then .Descriptor else .Idle := by
  have hstage := h.channel.stage
  rw [hdetached] at hstage
  cases hactive : path.hpc1.transmit_active with
  | true => simpa [hactive, EthernetChannel.stage_allowed] using hstage
  | false => simpa [hactive, EthernetChannel.stage_allowed] using hstage

/-- A detached completion leaves the channel consistent without its packet. -/
theorem complete_detached_consistent (h : path.Consistent) (hdetached : path.hpc1.attached = some false)
    (status : U8) (interrupt : Bool) (hstatus : status.getLsbD 6 = false) :
    (path.hpc1.complete_transmit status interrupt).TransmitConsistent ∧
      (path.hpc1.complete_transmit status interrupt).transmit_active = path.hpc1.transmit_active := by
  obtain ⟨context, hinflight, hcontext⟩ : ∃ context, path.hpc1.transmit_inflight = some context ∧
      context.dma_attached = false := by
    simpa [EthernetChannel.attached] using hdetached
  obtain ⟨hactive, delay, heq⟩ :=
    EthernetChannel.complete_transmit_detached context hinflight hcontext status interrupt hstatus
  refine ⟨⟨?_, ?_⟩, hactive⟩
  · rw [hactive, EthernetChannel.attached, EthernetChannel.complete_transmit_inflight, heq]
    show EthernetChannel.stage_allowed none path.hpc1.transmit_active path.hpc1.transmit_stage
    rw [stage_of_detached h hdetached]
    cases path.hpc1.transmit_active with
    | true => exact Or.inl rfl
    | false => exact Or.inl rfl
  · rw [heq]
    exact h.channel.frame

theorem advance_controller_stepsWell (h : path.Consistent) (elapsed : Nat) :
    path.StepsWell (.AdvanceController elapsed)
      (transfer_ethernet_signals { path with seeq8003 := path.seeq8003.advance_time elapsed }) := by
  obtain ⟨hends, hdelivered, hwire⟩ | ⟨hends, hwire, hsent, hstatus, frame, hframe⟩ :=
    advance_time_cases path.seeq8003 elapsed
  · have hnone := hdelivered.trans h.delivered
    have hkept : transfer_ethernet_signals { path with seeq8003 := path.seeq8003.advance_time elapsed } =
        { path with seeq8003 := path.seeq8003.advance_time elapsed } := by
      simp [transfer_ethernet_signals, Seeq8003.take_transmitted_frame, hnone]
    rw [hkept]
    exact ⟨⟨h.channel, h.reset_output, hwire.trans h.one_packet, hnone⟩, fun hactive _ => hactive⟩
  · have hkept : transfer_ethernet_signals { path with seeq8003 := path.seeq8003.advance_time elapsed } =
        complete_transmit { path with seeq8003 := { path.seeq8003.advance_time elapsed with transmitted := none } } := by
      simp [transfer_ethernet_signals, Seeq8003.take_transmitted_frame, hframe]
    rw [hkept]
    have hsome : path.hpc1.transmit_inflight.isSome = true := h.one_packet.symm.trans hwire
    have hgood : (0x08#8).getLsbD 6 = false := by decide
    obtain ⟨context, hinflight⟩ := Option.isSome_iff_exists.mp hsome
    by_cases hattached : context.dma_attached = true
    · have hown : path.hpc1.attached = some true := by simp [EthernetChannel.attached, hinflight, hattached]
      refine ⟨?_, fun _ hquiet => ?_⟩
      · refine complete_transmit_consistent h.reset_output hsent rfl ?_
        simp only [hstatus]
        exact EthernetChannel.complete_transmit_own h.channel.frame (by simp [hown]) _ _ hgood
      · simp [ends, completes, hown, hends] at hquiet
    · have hdetached : path.hpc1.attached = some false := by simp [EthernetChannel.attached, hinflight, hattached]
      have hafter := complete_detached_consistent h hdetached 0x08 (path.seeq8003.advance_time elapsed).transmit_interrupt
        hgood
      refine ⟨?_, fun hactive _ => ?_⟩
      · refine complete_transmit_consistent h.reset_output hsent rfl ?_
        simp only [hstatus]
        exact hafter.1
      · simp only [complete_transmit, Seeq8003.acknowledge_transmit, hstatus]
        exact hafter.2.trans hactive

/-! ### Serviced requests -/

theorem complete_receive_side_stepsWell (h : path.Consistent) (event : EthernetEvent) (after hpc1 : EthernetChannel)
    (hafter : after.TransmitConsistent) (hactive : after.transmit_active = path.hpc1.transmit_active)
    (hinflight : after.transmit_inflight = path.hpc1.transmit_inflight)
    (hreset : after.reset_output_pending = path.hpc1.reset_output_pending)
    (hsame : EthernetChannel.SameTransmit hpc1 after) :
    path.StepsWell event { path with hpc1 } := by
  refine ⟨⟨hsame.consistent hafter, ?_, ?_, h.delivered⟩, fun hbefore _ => ?_⟩
  · exact hsame.reset_output.trans (hreset.trans h.reset_output)
  · rw [hsame.inflight, hinflight]
    exact h.one_packet
  · exact hsame.active.trans (hactive.trans hbefore)

/-- Whatever is requested, the service keeps the invariant, and the controller
takes every packet it is handed. -/
theorem service_stepsWell (h : path.Consistent) (memory : U32 → Option U8) (accepted : Bool) :
    ∃ next, path.service_ethernet_request memory accepted = some next ∧
      path.StepsWell (.Service memory accepted) next := by
  have houtcome := EthernetChannel.next_request_outcome path.seeq8003.transmit_ready h.channel
  have hfaults : path.faults (.Service memory accepted) =
      match path.hpc1.next_request path.seeq8003.transmit_ready with
      | (some (.Read address length kind), hpc1) =>
        kind != .ReceiveDescriptor &&
          (hpc1.complete_read kind (read_dma memory address length)).transmit_stage == .Fault
      | (some .Underflow, _) => path.hpc1.transmit_stage != .Fault
      | _ => false := rfl
  unfold service_ethernet_request
  generalize path.hpc1.next_request path.seeq8003.transmit_ready = result at houtcome hfaults
  cases houtcome with
  | other request after hside hafter hactive hinflight hreset =>
    cases request with
    | none =>
      exact ⟨_, rfl, complete_receive_side_stepsWell h _ after _ hafter hactive hinflight hreset (.refl _)⟩
    | some request =>
      have hside := hside request rfl
      cases request with
      | Read address length kind =>
        have hkind : kind = .ReceiveDescriptor := hside
        subst hkind
        exact ⟨_, rfl, complete_receive_side_stepsWell h _ after _ hafter hactive hinflight hreset
          (EthernetChannel.complete_receive_read_same _)⟩
      | Write address bytes kind =>
        exact ⟨_, rfl, complete_receive_side_stepsWell h _ after _ hafter hactive hinflight hreset
          (EthernetChannel.complete_write_same kind bytes.length accepted)⟩
      | Transmit frame => exact hside.elim
      | Underflow => exact hside.elim
  | read address length kind after hkind hafter hactive hinflight hbefore hreset =>
    obtain ⟨hconsistent, hnone, hgoes⟩ :=
      EthernetChannel.complete_transmit_read hafter hactive hinflight kind hkind (read_dma memory address length)
    refine ⟨_, rfl, ⟨hconsistent, ?_, ?_, h.delivered⟩, fun _ hquiet => ?_⟩
    · exact (EthernetChannel.complete_read_reset_output kind _).trans (hreset.trans h.reset_output)
    · show path.seeq8003.transmitting.isSome = (after.complete_read _ _).transmit_inflight.isSome
      rw [hnone, h.one_packet, hbefore]
    · rcases hgoes with hgoes | hgoes
      · exact hgoes
      · simp [ends, hfaults, hkind, hgoes] at hquiet
  | transmit frame after hready hframe hafter hactive hinflight hbefore hreset =>
    have htaken : path.seeq8003.transmit frame = (true,
        { path.seeq8003 with transmitting := some { bytes := frame, remaining := wire_time frame.length } }) := by
      have hfits : ¬ MAX_FRAME_BYTES < frame.length := Nat.not_lt.mpr hframe
      simp [Seeq8003.transmit, hready, hfits]
    simp only [htaken]
    refine ⟨_, rfl, ⟨hafter, hreset.trans h.reset_output, ?_, h.delivered⟩, fun _ _ => hactive⟩
    exact hinflight.symm
  | underflow after hframe hinflight hbefore hwaiting hreset =>
    refine ⟨_, rfl, ?_, fun hactive hquiet => ?_⟩
    · refine complete_transmit_consistent (hreset.trans h.reset_output) rfl h.delivered ?_
      have hstatus : (1#8).getLsbD 6 = false := by decide
      exact EthernetChannel.complete_transmit_own hframe (by simp [EthernetChannel.attached, hinflight]) _ _ hstatus
    · have hnot := hwaiting hactive
      simp [ends, hfaults, hnot] at hquiet

/-! ### Every step -/

theorem step_spec (h : path.Consistent) (event : EthernetEvent)
    (hcalm : path.starts event = true → path.hpc1.transmit_stage ≠ .Fault) :
    ∃ next, path.step event = some next ∧ path.StepsWell event next := by
  cases event with
  | WriteTransmitStatus offset data => exact ⟨_, rfl, write_transmit_status_stepsWell h offset data hcalm⟩
  | WriteControl offset data => exact ⟨_, rfl, write_control_stepsWell h offset data⟩
  | WriteTransmitRegister register offset data =>
    exact ⟨_, rfl, stepsWell_of_same h _ (EthernetChannel.write_transmit_register_same register offset data)⟩
  | WriteReceiveStatus offset data =>
    exact ⟨_, rfl, stepsWell_of_same h _ (EthernetChannel.write_receive_status_same offset data)⟩
  | WriteReceiveRegister register offset data =>
    exact ⟨_, rfl, stepsWell_of_same h _ (EthernetChannel.write_receive_register_same register offset data)⟩
  | WriteTimer value => exact ⟨_, rfl, stepsWell_of_same h _ (EthernetChannel.write_timer_same value)⟩
  | WriteTransmitCommand value =>
    exact ⟨_, rfl, ⟨h.channel, h.reset_output, h.one_packet, h.delivered⟩, fun hactive _ => hactive⟩
  | ReadTransmitStatus =>
    exact ⟨_, rfl, ⟨h.channel, h.reset_output, h.one_packet, h.delivered⟩, fun hactive _ => hactive⟩
  | ReceiveFrame bytes status interrupt =>
    exact ⟨_, rfl, stepsWell_of_same h _ (EthernetChannel.accept_receive_frame_same bytes status interrupt)⟩
  | AdvanceHpc1 elapsed ticks =>
    exact ⟨_, rfl, stepsWell_of_same h _ (EthernetChannel.advance_time_same elapsed ticks)⟩
  | AdvanceController elapsed => exact ⟨_, rfl, advance_controller_stepsWell h elapsed⟩
  | Service memory accepted => exact service_stepsWell h memory accepted

theorem starts_stage_ne_fault (h : path.Consistent) (hactive : path.hpc1.transmit_active = true) :
    path.hpc1.transmit_stage ≠ .Fault := by
  intro hfault
  have hstage := h.channel.stage
  rw [hactive, hfault] at hstage
  rcases hattached : path.hpc1.attached with _ | attached
  · simp [hattached, EthernetChannel.stage_allowed] at hstage
  · cases attached with
    | true => simp [hattached, EthernetChannel.stage_allowed] at hstage
    | false => simp [hattached, EthernetChannel.stage_allowed] at hstage

/-- Until something ends it, the activity of a channel lasts. -/
theorem run_active (h : path.Consistent) (hactive : path.hpc1.transmit_active = true) (events : List EthernetEvent)
    (hquiet : path.uninterrupted events = true) :
    ∃ last, path.run events = some last ∧ last.Consistent ∧ last.hpc1.transmit_active = true := by
  induction events generalizing path with
  | nil => exact ⟨path, rfl, h, hactive⟩
  | cons event events ih =>
    obtain ⟨next, hstep, hnext, hkept⟩ := step_spec h event fun _ => starts_stage_ne_fault h hactive
    simp only [uninterrupted, hstep, Bool.and_eq_true, Bool.not_eq_true'] at hquiet
    obtain ⟨last, hrun, hlast⟩ := ih hnext (hkept hactive hquiet.1) hquiet.2
    exact ⟨last, by simp [run, hstep, hrun], hlast⟩

theorem run_consistent (h : path.Consistent) (events : List EthernetEvent)
    (hcalm : path.starts_after_reports events = true) :
    ∃ last, path.run events = some last ∧ last.Consistent := by
  induction events generalizing path with
  | nil => exact ⟨path, rfl, h⟩
  | cons event events ih =>
    simp only [starts_after_reports, Bool.and_eq_true, Bool.not_eq_true', Bool.and_eq_false_iff] at hcalm
    have hfault : path.starts event = true → path.hpc1.transmit_stage ≠ .Fault := by
      intro hstarts
      simpa [hstarts] using hcalm.1
    obtain ⟨next, hstep, hnext, _⟩ := step_spec h event hfault
    rw [hstep] at hcalm
    obtain ⟨last, hrun, hlast⟩ := ih hnext hcalm.2
    exact ⟨last, by simp [run, hstep, hrun], hlast⟩

/-! ## What a reached state promises -/

/-- The transmit side is sound: one packet at most is in flight, the stages agree
with ACTIVE, a started channel keeps running until something ends it, and a
detached packet completes without touching the restarted channel. -/
structure TransmitSound (path : EthernetPath) : Prop where
  one_packet : path.seeq8003.transmitting.isSome = path.hpc1.transmit_inflight.isSome
  accepted : ∀ event, (path.step event).isSome = true
  stage_active : path.hpc1.transmit_stage ∈ [.Descriptor, .Data, .Send] → path.hpc1.transmit_active = true
  active_stage : path.hpc1.transmit_active = true → path.hpc1.transmit_inflight = none → path.hpc1.transmit_stage ≠ .Idle
  start_kept : path.hpc1.transmit_active = true → ∀ events, path.uninterrupted events = true →
    ∃ last, path.run events = some last ∧ last.hpc1.transmit_active = true ∧
      (last.hpc1.transmit_inflight = none → last.hpc1.transmit_stage ∈ [.Descriptor, .Data, .Send])
  detached : ∀ elapsed, path.hpc1.attached = some false → ∃ next,
    path.step (.AdvanceController elapsed) = some next ∧
      next.hpc1.transmit_active = path.hpc1.transmit_active ∧
      next.hpc1.transmit_stage = path.hpc1.transmit_stage ∧
      next.hpc1.transmit_frame = path.hpc1.transmit_frame ∧
      next.hpc1.current_transmit_descriptor_pointer = path.hpc1.current_transmit_descriptor_pointer ∧
      next.hpc1.next_transmit_descriptor_pointer = path.hpc1.next_transmit_descriptor_pointer ∧
      next.hpc1.current_packet_first_transmit_descriptor_pointer =
        path.hpc1.current_packet_first_transmit_descriptor_pointer ∧
      next.hpc1.previous_packet_first_transmit_descriptor_pointer =
        path.hpc1.previous_packet_first_transmit_descriptor_pointer

theorem step_isSome (h : path.Consistent) (event : EthernetEvent) : (path.step event).isSome = true := by
  cases hstarts : path.starts event with
  | false =>
    obtain ⟨next, hstep, _⟩ := step_spec h event fun h => absurd (h.symm.trans hstarts) (by simp)
    simp [hstep]
  | true =>
    cases event with
    | WriteTransmitStatus offset data => rfl
    | _ => simp [starts] at hstarts

theorem Consistent.gathering_stage (h : path.Consistent) (hactive : path.hpc1.transmit_active = true)
    (hinflight : path.hpc1.transmit_inflight = none) :
    path.hpc1.transmit_stage ∈ [.Descriptor, .Data, .Send] := by
  simpa using EthernetChannel.consistent_none h.channel hinflight hactive

theorem Consistent.stage_active (h : path.Consistent)
    (hstage : path.hpc1.transmit_stage ∈ [.Descriptor, .Data, .Send]) : path.hpc1.transmit_active = true := by
  have hallowed := h.channel.stage
  cases hactive : path.hpc1.transmit_active with
  | true => rfl
  | false =>
    rw [hactive] at hallowed
    simp only [List.mem_cons, List.not_mem_nil, or_false] at hstage
    rcases hattached : path.hpc1.attached with _ | attached
    · simp only [hattached, EthernetChannel.stage_allowed] at hallowed
      rcases hallowed with hallowed | hallowed
      · simp [hallowed] at hstage
      · simp [hallowed] at hstage
    · cases attached with
      | true => simp [hattached, EthernetChannel.stage_allowed] at hallowed
      | false =>
        simp only [hattached, EthernetChannel.stage_allowed] at hallowed
        simp [hallowed] at hstage

/-- Time moves a detached packet's completion past the restarted channel. -/
theorem advance_controller_detached (h : path.Consistent) (elapsed : Nat) (hdetached : path.hpc1.attached = some false) :
    ∃ next, path.step (.AdvanceController elapsed) = some next ∧
      next.hpc1.transmit_active = path.hpc1.transmit_active ∧
      ∃ inflight delay status, next.hpc1 =
        { path.hpc1 with
          transmit_inflight := inflight, transmit_interrupt_delay_attoseconds := delay, transmit_status := status } := by
  refine ⟨_, rfl, ?_⟩
  obtain ⟨_, hdelivered, _⟩ | ⟨_, _, _, hstatus, frame, hframe⟩ := advance_time_cases path.seeq8003 elapsed
  · have hnone := hdelivered.trans h.delivered
    simp only [transfer_ethernet_signals, Seeq8003.take_transmitted_frame, hnone]
    exact ⟨trivial, _, _, _, rfl⟩
  · obtain ⟨context, hinflight, hcontext⟩ : ∃ context, path.hpc1.transmit_inflight = some context ∧
        context.dma_attached = false := by
      simpa [EthernetChannel.attached] using hdetached
    have hgood : (0x08#8).getLsbD 6 = false := by decide
    obtain ⟨hactive, delay, heq⟩ := EthernetChannel.complete_transmit_detached context hinflight hcontext 0x08
      (path.seeq8003.advance_time elapsed).transmit_interrupt hgood
    simp only [transfer_ethernet_signals, Seeq8003.take_transmitted_frame, hframe, complete_transmit,
      Seeq8003.acknowledge_transmit, hstatus]
    exact ⟨hactive, _, _, _, heq⟩

theorem Consistent.sound (h : path.Consistent) : path.TransmitSound := by
  constructor
  case one_packet => exact h.one_packet
  case accepted => exact step_isSome h
  case stage_active => exact h.stage_active
  case active_stage =>
    intro hactive hinflight hidle
    have hstage := h.gathering_stage hactive hinflight
    simp [hidle] at hstage
  case start_kept =>
    intro hactive events hquiet
    obtain ⟨last, hrun, hlast, hkept⟩ := run_active h hactive events hquiet
    exact ⟨last, hrun, hkept, hlast.gathering_stage hkept⟩
  case detached =>
    intro elapsed hdetached
    obtain ⟨next, hstep, hactive, inflight, delay, status, heq⟩ := advance_controller_detached h elapsed hdetached
    refine ⟨next, hstep, hactive, ?_⟩
    rw [heq]
    exact ⟨rfl, rfl, rfl, rfl, rfl, rfl⟩

/-- In every run that starts no channel between a fault and its report, every
state reached is sound. -/
theorem run_transmit_sound (events : List EthernetEvent) (hreports : new.starts_after_reports events = true) :
    ∃ path, new.run events = some path ∧ path.TransmitSound := by
  obtain ⟨path, hrun, hpath⟩ := run_consistent new_consistent events hreports
  exact ⟨path, hrun, hpath.sound⟩

/-- A memory that holds at 0x1000 the descriptor of a packet of four bytes, which
is also the next one. -/
def packet_memory (address : U32) : Option U8 :=
  some ((([0x80, 0, 0, 4, 0, 0, 0x20, 0, 0, 0, 0x10, 0] : List U8)[(address - 0x1000#32).toNat]?).getD 0x55)

/-- The descriptor and the bytes of a packet are read, and it goes to the controller. -/
def gather_packet : List EthernetEvent :=
  [.Service packet_memory true, .AdvanceHpc1 (3 * ETHERNET_DMA_CYCLE_ATTOSECONDS) 0, .Service packet_memory true,
    .AdvanceHpc1 ETHERNET_DMA_CYCLE_ATTOSECONDS 0, .Service packet_memory true]

/-- A packet that ends on the wire, and one whose channel is stopped and started
again before it ends. -/
def restarted_between_packets : List EthernetEvent :=
  [.WriteTransmitRegister .NextDescriptorPointer 0 [0, 0, 0x10, 0], .WriteTransmitStatus 0 [0, 0x40, 0, 0]] ++
    gather_packet ++ [.AdvanceController (10 ^ 15), .AdvanceController (10 ^ 15)] ++ gather_packet ++
    [.WriteTransmitStatus 0 [0, 0, 0, 0], .WriteTransmitStatus 0 [0, 0x40, 0, 0], .AdvanceController (10 ^ 15)] ++ gather_packet

/-- The channel is active and its packet on the wire; the packet is over; the next
one is on the wire; it is stopped, then started, with the old packet detached; the
old packet is over. -/
theorem run_transmit_sound_restarted :
    new.starts_after_reports restarted_between_packets = true ∧
      ([7, 8, 14, 15, 16, 17].map fun count => (new.run (restarted_between_packets.take count)).map fun path =>
        (path.hpc1.transmit_active, path.hpc1.attached)) =
          [some (true, some true), some (true, none), some (true, some true), some (false, some false),
            some (true, some false), some (true, none)] ∧
      ∃ path, new.run restarted_between_packets = some path ∧ path.TransmitSound :=
  ⟨by decide +kernel, by decide +kernel, run_transmit_sound _ (by decide +kernel)⟩

/-- A faulting descriptor, then a receive descriptor whose transfer delays the
report of the fault, and a START meanwhile. -/
def restart_before_report : List EthernetEvent :=
  [.WriteTransmitRegister .NextDescriptorPointer 0 [0, 0, 0x10, 0],
    .WriteTransmitStatus 0 [0, 0x40, 0, 0],
    .WriteReceiveStatus 0 [0, 0, 0x40, 0],
    .ReceiveFrame [1, 2, 3] 0x20 false,
    .Service (fun _ => none) true,
    .Service (fun _ => some 0x80) true,
    .WriteTransmitStatus 0 [0, 0x40, 0, 0]]

/-- What follows the START: time passes, and the old fault is reported. -/
def report_after_restart : List EthernetEvent :=
  [.AdvanceHpc1 (3 * ETHERNET_DMA_CYCLE_ATTOSECONDS) 0, .Service (fun _ => none) true]

/-- The report of the old fault stops the restarted channel. -/
theorem restart_before_report_lost :
    ¬ ∀ events path, new.run events = some path → path.TransmitSound := by
  intro h
  have hrun : (new.run restart_before_report).any (fun path =>
      path.hpc1.transmit_active && path.uninterrupted report_after_restart &&
        (path.run report_after_restart).all (!·.hpc1.transmit_active)) = true := by decide
  obtain ⟨path, hpath, hlost⟩ := (Option.any_eq_true _ _).mp hrun
  simp only [Bool.and_eq_true] at hlost
  obtain ⟨⟨hactive, hquiet⟩, hstopped⟩ := hlost
  obtain ⟨last, hlast, hkept, _⟩ := (h _ path hpath).start_kept hactive report_after_restart hquiet
  simp [hlast, hkept] at hstopped

end EthernetPath

end se_machine.ip12
