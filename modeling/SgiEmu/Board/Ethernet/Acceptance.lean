import SgiEmu.Board.Ethernet.Serve
import SgiEmu.Board.Ethernet.Transmit
import SgiEmu.Device.Seeq8003.Frames

open se_core se_device.hpc1 se_device.seeq8003

namespace se_device.hpc1.EthernetChannel

/-! ## The frame that is gathered fits the controller -/

/-- What has been gathered of a packet is no longer than a frame. -/
def Fits (channel : EthernetChannel) : Prop := channel.transmit_frame.length ≤ MAX_ETHERNET_FRAME_BYTES

variable {channel other : EthernetChannel}

theorem SameTransmit.fits (hsame : SameTransmit other channel) (h : channel.Fits) : other.Fits := by
  unfold Fits
  rw [hsame.frame]
  exact h

theorem fits_of_frame (hframe : other.transmit_frame = channel.transmit_frame ∨ other.transmit_frame = []) (h : channel.Fits) :
    other.Fits := by
  unfold Fits
  obtain hsame | hempty := hframe
  · rw [hsame]
    exact h
  · rw [hempty]
    exact Nat.zero_le _

/-- A write to the status may start a packet afresh, and adds no byte to it. -/
theorem write_transmit_status_frame (offset : Nat) (data : List U8) :
    (channel.write_transmit_status offset data).transmit_frame = channel.transmit_frame ∨
      (channel.write_transmit_status offset data).transmit_frame = [] := by
  fun_cases write_transmit_status
  · exact Or.inr rfl
  · exact Or.inl rfl
  · exact Or.inl rfl

/-- A write to the control register may drop the packet in progress, and adds no byte to it. -/
theorem write_control_frame (offset : Nat) (data : List U8) :
    (channel.write_control offset data).transmit_frame = channel.transmit_frame ∨
      (channel.write_control offset data).transmit_frame = [] := by
  fun_cases write_control
  · exact Or.inr rfl
  · exact Or.inl rfl

theorem fail_read_frame (kind : EthernetReadKind) :
    (channel.fail_read kind).transmit_frame = channel.transmit_frame ∨ (channel.fail_read kind).transmit_frame = [] := by
  cases kind with
  | ReceiveDescriptor => exact Or.inl rfl
  | TransmitDescriptor => exact Or.inr rfl
  | TransmitData => exact Or.inr rfl

/-- Bytes are gathered only where they fit. -/
theorem complete_read_fits (kind : EthernetReadKind) (data : Option (List U8)) (h : channel.Fits) :
    (channel.complete_read kind data).Fits := by
  fun_cases complete_read
  · exact fits_of_frame (fail_read_frame kind) h
  · exact fits_of_frame (fail_read_frame _) h
  · case case3 hlength =>
    unfold Fits gather_transmit_data
    rw [List.length_append]
    exact Nat.le_of_not_lt hlength
  · exact fits_of_frame (fail_read_frame _) h
  · exact (load_receive_descriptor_same _ _ _).fits h
  · exact fits_of_frame (fail_read_frame _) h
  · exact h

theorem complete_transmit_frame (status : U8) (interrupt : Bool) :
    (channel.complete_transmit status interrupt).transmit_frame = channel.transmit_frame := by
  fun_cases complete_transmit
  all_goals rfl

/-- What a request tells of a packet: it is handed over as it was gathered, to a
controller that is ready. -/
structure Requests (ready : Bool) (channel : EthernetChannel) (asked : Option EthernetRequest × EthernetChannel) : Prop where
  packet : ∀ frame, asked.1 = some (.Transmit frame) → ready = true ∧ frame = channel.transmit_frame
  frame : asked.2.transmit_frame = channel.transmit_frame ∨ asked.2.transmit_frame = []

theorem requests_none (ready : Bool) (channel : EthernetChannel) : Requests ready channel (none, channel) :=
  ⟨nofun, Or.inl rfl⟩

theorem Requests.of_frame {ready : Bool} {asked : Option EthernetRequest × EthernetChannel} (h : Requests ready other asked)
    (hframe : other.transmit_frame = channel.transmit_frame) : Requests ready channel asked :=
  ⟨fun frame hasked => hframe ▸ h.packet frame hasked, hframe ▸ h.frame⟩

/-- One round of the transmit side: what it asks is asked of the packet as gathered. -/
theorem transmit_request_from_requests (ready : Bool) (again : EthernetChannel → Option EthernetRequest × EthernetChannel)
    (hagain : ∀ channel : EthernetChannel, Requests ready channel (again channel)) :
    Requests ready channel (channel.transmit_request_from ready again) := by
  unfold transmit_request_from
  split
  · exact requests_none ready channel
  · split
    · exact ⟨nofun, Or.inl rfl⟩
    · split
      · exact requests_none ready channel
      · split
        · exact requests_none ready channel
        · exact requests_none ready channel
        · exact requests_none ready channel
        · exact ⟨nofun, Or.inl rfl⟩
        · split
          · exact (hagain _).of_frame rfl
          · exact ⟨nofun, Or.inl rfl⟩
        · split
          · case isTrue hready =>
            refine ⟨fun frame hasked => ⟨hready, ?_⟩, Or.inr rfl⟩
            injection hasked with hasked
            injection hasked with hframe
            exact hframe.symm
          · exact requests_none ready channel

theorem transmit_request_requests (ready : Bool) (channel : EthernetChannel) :
    Requests ready channel (channel.transmit_request ready) :=
  transmit_request_from_requests ready _ fun _ => transmit_request_from_requests ready _ fun _ => requests_none ready _

theorem receive_request_requests (ready : Bool) (channel : EthernetChannel) :
    Requests ready channel channel.receive_request :=
  ⟨fun _ hasked => (receive_request_side _ hasked).elim, Or.inl receive_request_same.frame⟩

/-- The next request of either side, whichever goes first, hands over the packet as gathered. -/
theorem next_request_requests (ready : Bool) (channel : EthernetChannel) :
    Requests ready channel (channel.next_request ready) := by
  unfold next_request
  split
  · exact requests_none ready channel
  · dsimp only
    split
    · have hreceive := receive_request_requests ready { channel with prefer_receive := !channel.prefer_receive }
      split
      · case h_1 request after hasked =>
        rw [hasked] at hreceive
        exact hreceive.of_frame rfl
      · case h_2 after hasked =>
        have hframe := (@receive_request_same { channel with prefer_receive := !channel.prefer_receive }).frame
        rw [hasked] at hframe
        exact (transmit_request_requests ready after).of_frame hframe
    · have htransmit := transmit_request_requests ready { channel with prefer_receive := !channel.prefer_receive }
      split
      · case h_1 request after hasked =>
        rw [hasked] at htransmit
        exact htransmit.of_frame rfl
      · case h_2 after hasked =>
        rw [hasked] at htransmit
        refine ⟨fun _ hpacket => (receive_request_side _ hpacket).elim, ?_⟩
        rw [receive_request_same.frame]
        exact htransmit.frame

end se_device.hpc1.EthernetChannel

namespace se_machine.ip12.EthernetPath

open EthernetChannel

variable {path next : EthernetPath} {events : List EthernetEvent}

/-! ## The board's assertion -/

theorem handle_hpc1_outputs_fits (h : path.hpc1.Fits) : path.handle_hpc1_outputs.hpc1.Fits := by
  unfold handle_hpc1_outputs
  split <;> exact h

theorem complete_transmit_fits (h : path.hpc1.Fits) : path.complete_transmit.hpc1.Fits :=
  fits_of_frame (Or.inl (complete_transmit_frame _ _)) h

theorem transfer_ethernet_signals_fits (h : path.hpc1.Fits) : path.transfer_ethernet_signals.hpc1.Fits := by
  unfold transfer_ethernet_signals
  split
  · exact h
  · exact complete_transmit_fits h

/-- The controller takes every packet that is requested of it. -/
def TakesPackets (path : EthernetPath) : Prop :=
  ∀ frame after, path.hpc1.next_request path.seeq8003.transmit_ready = (some (.Transmit frame), after) →
    (path.seeq8003.transmit frame).1 = true

/-- A packet that fits is accepted by a controller that is ready for it. -/
theorem takes_packets (h : path.hpc1.Fits) : path.TakesPackets := by
  intro frame after hasked
  have hrequests := next_request_requests path.seeq8003.transmit_ready path.hpc1
  obtain ⟨hready, hframe⟩ := hrequests.packet frame (congrArg Prod.fst hasked)
  have hlength : ¬MAX_FRAME_BYTES < frame.length := by
    rw [hframe]
    exact Nat.not_lt.mpr h
  unfold Seeq8003.transmit
  rw [hready, if_neg]
  simpa using hlength

/-- A request that is served leaves a packet that fits, whatever the memory and the controller
answer. -/
theorem serve_fits {channel : EthernetChannel} (h : channel.Fits) (transmitter_ready : Bool) (memory : U32 → Option U8)
    (accepted : Bool) (status : U8) (interrupt : Bool) :
    (channel.serve transmitter_ready memory accepted status interrupt).2.Fits := by
  have hafter := fits_of_frame (next_request_requests transmitter_ready channel).frame h
  unfold EthernetChannel.serve
  generalize channel.next_request transmitter_ready = asked at hafter ⊢
  obtain ⟨request, after⟩ := asked
  cases request with
  | none => exact hafter
  | some request =>
    cases request with
    | Read address length kind => exact complete_read_fits kind _ hafter
    | Write address bytes kind => exact (complete_write_same kind _ accepted).fits hafter
    | Underflow => exact fits_of_frame (Or.inl (complete_transmit_frame _ _)) hafter
    | Transmit frame => exact hafter

/-- Serving a request of a packet that fits never runs into the assertion. -/
theorem service_fits (h : path.hpc1.Fits) (memory : U32 → Option U8) (accepted : Bool) :
    ∃ next, path.service_ethernet_request memory accepted = some next ∧ next.hpc1.Fits := by
  have htakes := takes_packets h
  unfold TakesPackets at htakes
  have hserved : ∃ next, path.service_ethernet_request memory accepted = some next := by
    unfold service_ethernet_request
    generalize path.hpc1.next_request path.seeq8003.transmit_ready = asked at htakes ⊢
    obtain ⟨request, after⟩ := asked
    cases request with
    | none => exact ⟨_, rfl⟩
    | some request =>
      cases request with
      | Read address length kind => exact ⟨_, rfl⟩
      | Write address bytes kind => exact ⟨_, rfl⟩
      | Underflow => exact ⟨_, rfl⟩
      | Transmit frame =>
        have htaken := htakes frame after rfl
        dsimp only
        split
        · exact ⟨_, rfl⟩
        · case h_2 hrefused =>
          rw [hrefused] at htaken
          cases htaken
  obtain ⟨next, hnext⟩ := hserved
  refine ⟨next, hnext, ?_⟩
  rw [service_ethernet_request_serve hnext]
  exact serve_fits h ..

/-- One event keeps the packet in progress short enough, and the assertion holds. -/
theorem step_fits (h : path.hpc1.Fits) (event : EthernetEvent) : ∃ next, path.step event = some next ∧ next.hpc1.Fits := by
  cases event with
  | WriteTransmitStatus offset data => exact ⟨_, rfl, fits_of_frame (write_transmit_status_frame offset data) h⟩
  | WriteControl offset data =>
    exact ⟨_, rfl, handle_hpc1_outputs_fits (fits_of_frame (write_control_frame offset data) h)⟩
  | WriteTransmitRegister register offset data => exact ⟨_, rfl, (write_transmit_register_same register offset data).fits h⟩
  | WriteReceiveStatus offset data => exact ⟨_, rfl, (write_receive_status_same offset data).fits h⟩
  | WriteReceiveRegister register offset data => exact ⟨_, rfl, (write_receive_register_same register offset data).fits h⟩
  | WriteTimer value => exact ⟨_, rfl, (write_timer_same value).fits h⟩
  | WriteTransmitCommand value => exact ⟨_, rfl, h⟩
  | ReadTransmitStatus => exact ⟨_, rfl, h⟩
  | ReceiveFrame bytes status interrupt => exact ⟨_, rfl, (accept_receive_frame_same bytes status interrupt).fits h⟩
  | AdvanceHpc1 elapsed ticks => exact ⟨_, rfl, (advance_time_same elapsed ticks).fits h⟩
  | AdvanceController elapsed => exact ⟨_, rfl, transfer_ethernet_signals_fits h⟩
  | Service memory accepted => exact service_fits h memory accepted

/-- Whatever happens, the assertion does not fail. -/
theorem run_fits (h : path.hpc1.Fits) (events : List EthernetEvent) : ∃ last, path.run events = some last ∧ last.hpc1.Fits := by
  induction events generalizing path with
  | nil => exact ⟨path, rfl, h⟩
  | cons event rest ih =>
    obtain ⟨next, hstep, hnext⟩ := step_fits h event
    obtain ⟨last, hrun, hlast⟩ := ih hnext
    refine ⟨last, ?_, hlast⟩
    rw [run, hstep]
    exact hrun

theorem fits_new : new.hpc1.Fits := Nat.zero_le _

end se_machine.ip12.EthernetPath

namespace se_machine.ip12

open Library.Delivery

/-- The link of the controller, in any state: time is additive, and the next
transition is the one announced; behind an accepted frame each direction is ready
again after the wire time and the gap, and a frame accepted for transmission is
handed over once and as it is. No run of the path to it fails its assertion. -/
structure LinkLaws : Prop where
  additive : ∀ (controller : Controller) (first second : Nat),
    (controller.advance_time first).advance_time second = controller.advance_time (first + second)
  announced : ∀ controller : Controller, controller.Announces
  delivered : ∀ operations : List Operation,
    follow [] (Controller.new.log Operation.transmit_notes operations) = some (Controller.new.run operations).in_flight
  transmitted : ∀ (controller : Controller) (bytes : List U8) (operations : List Operation) (taken : List (List U8)),
    (controller.transmit bytes).1 = true →
      (controller.transmit bytes).2.log Operation.transmit_notes operations = taken.map .Sent →
      ((controller.transmit bytes).2.run operations).TransmitsOnce bytes (elapsed_time operations) taken
  received : ∀ (controller : Controller) (bytes : List U8) (errors : U8) (operations : List Operation),
    (controller.receive bytes errors).1 = true →
      (controller.receive bytes errors).2.log Operation.receive_notes operations = [] →
      (((controller.receive bytes errors).2.run operations).receive_ready = true ↔
        wire_time bytes.length + INTERFRAME_GAP ≤ elapsed_time operations)
  accepted : ∀ events : List EthernetEvent, ∃ path, EthernetPath.new.run events = some path ∧ path.TakesPackets

theorem link_laws : LinkLaws := by
  constructor
  case additive => exact Controller.advance_time_add
  case announced => exact Controller.announces
  case delivered =>
    intro operations
    exact (@Controller.run_follow .new (fun _ => rfl) operations).2
  case transmitted =>
    intro controller bytes operations taken haccepted hnotes
    have hlast := Controller.run_outgoing (Controller.outgoing_transmit haccepted) operations hnotes
    rw [Nat.zero_add, List.nil_append] at hlast
    exact Controller.Outgoing.transmits_once hlast
  case received =>
    intro controller bytes errors operations haccepted hnotes
    rw [Controller.receive_ready_iff, Controller.run_receive_left operations hnotes,
      Controller.receive_left_receive haccepted]
    exact Nat.sub_eq_zero_iff_le
  case accepted =>
    intro events
    obtain ⟨path, hrun, hfits⟩ := EthernetPath.run_fits EthernetPath.fits_new events
    exact ⟨path, hrun, EthernetPath.takes_packets hfits⟩

end se_machine.ip12
