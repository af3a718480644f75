import SgiEmu.Device.Z85230

open Library.Timing se_core se_core.bus se_core.time

namespace se_device.z85230

namespace ChannelState

variable {clock_hz : ClockHz} {channel other : ChannelState} {active : ActiveCharacter} {next : Delay} {elapsed : Nat}

/-- An idle transmitter has nothing that it could begin. -/
def Settled (clock_hz : ClockHz) (channel : ChannelState) : Prop := (channel.start_transmitter clock_hz).1 = false

/-- The channels agree in all that the transmitter's start looks at. -/
def SameTransmitter (channel other : ChannelState) : Prop :=
  other.active_character = channel.active_character ∧ other.transmit_fifo = channel.transmit_fifo ∧
    other.write_registers = channel.write_registers

theorem settled_iff :
    channel.Settled clock_hz ↔
      channel.active_character ≠ none ∨ channel.transmit_fifo = [] ∨ channel.frame_units = none := by
  unfold Settled start_transmitter
  cases channel.active_character with
  | some active => simp only [ne_eq, reduceCtorEq, not_false_eq_true, true_or]
  | none =>
    cases channel.transmit_fifo with
    | nil => simp only [true_or, or_true]
    | cons value rest => cases channel.frame_units <;> simp

theorem SameTransmitter.frame_units (h : SameTransmitter channel other) : other.frame_units = channel.frame_units := by
  unfold ChannelState.frame_units write_register
  rw [h.2.2]

theorem SameTransmitter.settled (h : SameTransmitter channel other) (hsettled : channel.Settled clock_hz) :
    other.Settled clock_hz := by
  rw [settled_iff, h.1, h.2.1, h.frame_units]
  exact settled_iff.mp hsettled

theorem settled_new : new.Settled clock_hz := rfl

/-- Starting the transmitter settles a channel. -/
theorem settled_start_transmitter (channel : ChannelState) : (channel.start_transmitter clock_hz).2.Settled clock_hz := by
  by_cases h : channel.Settled clock_hz
  · have hsame : (channel.start_transmitter clock_hz).2 = channel := by
      unfold Settled start_transmitter at h
      unfold start_transmitter
      split at h
      · cases h
      · rfl
    rw [hsame]
    exact h
  · rw [settled_iff]
    apply Or.inl
    unfold Settled start_transmitter at h
    unfold start_transmitter
    split at h
    · exact Option.some_ne_none _
    · exact absurd rfl h

theorem latch_same (channel : ChannelState) : SameTransmitter channel channel.latch_transmit_interrupt_if_ready := by
  unfold latch_transmit_interrupt_if_ready
  split <;> exact ⟨rfl, rfl, rfl⟩

theorem receive_character_same (value : U8) (channel : ChannelState) :
    SameTransmitter channel (channel.receive_character value) := by
  unfold receive_character
  split <;> exact ⟨rfl, rfl, rfl⟩

theorem receive_external_character_same (value : U8) (channel : ChannelState) :
    SameTransmitter channel (channel.receive_external_character value) := by
  unfold receive_external_character
  split
  · exact ⟨rfl, rfl, rfl⟩
  · exact receive_character_same value channel

theorem read_data_same (channel : ChannelState) : SameTransmitter channel channel.read_data.2 := by
  unfold read_data
  cases channel.receive_fifo with
  | nil => exact ⟨rfl, rfl, rfl⟩
  | cons character rest =>
    dsimp only
    split
    · exact ⟨rfl, rfl, rfl⟩
    · split <;> exact ⟨rfl, rfl, rfl⟩

/-! The timed loop of a transmitter. -/

theorem settle_eq (h : channel.Settled clock_hz) : (process clock_hz).settle channel = channel := by
  simp only [process, show (channel.start_transmitter clock_hz).1 = false from h, Bool.false_eq_true, if_false]

theorem settled_of_settle (h : (process clock_hz).settle channel = channel) : channel.Settled clock_hz := by
  by_cases hstarted : (channel.start_transmitter clock_hz).1 = true
  · have hsettled := (latch_same _).settled (@settled_start_transmitter clock_hz channel)
    simp only [process, hstarted, if_true] at h
    rw [h] at hsettled
    exact hsettled
  · exact Bool.eq_false_iff.mpr hstarted

theorem settled_settle (channel : ChannelState) : ((process clock_hz).settle channel).Settled clock_hz := by
  by_cases hstarted : (channel.start_transmitter clock_hz).1 = true
  · simp only [process, hstarted, if_true]
    exact (latch_same _).settled (settled_start_transmitter channel)
  · have hsettled : channel.Settled clock_hz := Bool.eq_false_iff.mpr hstarted
    rw [settle_eq hsettled]
    exact hsettled

theorem deadline_eq_some (h : (process clock_hz).deadline channel = some next) :
    ∃ active, channel.active_character = some active ∧ active.remaining_attoseconds = next := by
  cases hactive : channel.active_character with
  | none => simp only [process, hactive, Option.map_none, reduceCtorEq] at h
  | some active =>
    simp only [process, hactive, Option.map_some, Option.some.injEq] at h
    exact ⟨active, rfl, h⟩

theorem wait_some (h : channel.active_character = some active) (hbefore : elapsed < active.remaining_attoseconds.val) :
    (process clock_hz).wait elapsed channel =
      { channel with
        active_character := some { active with
          remaining_attoseconds := ⟨active.remaining_attoseconds.val - elapsed, Nat.sub_pos_of_lt hbefore⟩ } } := by
  simp only [process, h, Option.bind_some, pass_of_lt hbefore, Option.map_some]

theorem process_lawful (clock_hz : ClockHz) : (process clock_hz).Lawful where
  settle_settle := by
    intro channel
    exact settle_eq (settled_settle channel)
  settle_wait := by
    intro channel next elapsed _ hdeadline hbefore
    obtain ⟨active, hactive, rfl⟩ := deadline_eq_some hdeadline
    rw [wait_some hactive hbefore]
    exact settle_eq (settled_iff.mpr (Or.inl (Option.some_ne_none _)))
  deadline_wait := by
    intro channel next elapsed hdeadline hbefore
    obtain ⟨active, hactive, rfl⟩ := deadline_eq_some hdeadline
    rw [wait_some hactive hbefore, pass_of_lt hbefore]
    rfl
  wait_wait := by
    intro channel next first second hdeadline hbefore
    obtain ⟨active, hactive, rfl⟩ := deadline_eq_some hdeadline
    have hfirst : first < active.remaining_attoseconds.val := by omega
    have hsecond : second < active.remaining_attoseconds.val - first := by omega
    rw [wait_some hactive hfirst, wait_some rfl hsecond, wait_some hactive hbefore]
    simp only [Nat.sub_sub]
  fire_wait := by
    intro channel next elapsed hbefore hdeadline
    obtain ⟨active, hactive, rfl⟩ := deadline_eq_some hdeadline
    rw [wait_some hactive hbefore]
    simp only [process, hactive]

theorem deadline_wait (h : Before elapsed (channel.active_character.map (·.remaining_attoseconds))) :
    ((process clock_hz).wait elapsed channel).active_character.map (·.remaining_attoseconds) =
      passed (channel.active_character.map (·.remaining_attoseconds)) elapsed := by
  cases hactive : channel.active_character with
  | none => simp only [process, hactive, Option.bind_none, Option.map_none, passed]
  | some active =>
    rw [hactive] at h
    have hbefore := before_some.mp h
    rw [wait_some hactive hbefore]
    exact (pass_of_lt hbefore).symm

/-- Before its character ends a settled transmitter only waits. -/
theorem advance_time_before (h : channel.Settled clock_hz)
    (hbefore : Before elapsed (channel.active_character.map (·.remaining_attoseconds))) :
    channel.advance_time clock_hz elapsed = ([], (process clock_hz).wait elapsed channel) := by
  have hsettle := settle_eq h
  cases hactive : channel.active_character with
  | none =>
    have hidle : (process clock_hz).wait elapsed channel = channel := by
      obtain ⟨⟩ := channel
      cases hactive
      rfl
    have hdeadline : (process clock_hz).deadline ((process clock_hz).settle channel) = none := by
      rw [hsettle]
      simp only [process, hactive, Option.map_none]
    rw [advance_time, Process.advance_none hdeadline, hsettle, hidle]
  | some active =>
    rw [hactive] at hbefore
    have hdeadline : (process clock_hz).deadline ((process clock_hz).settle channel) =
        some active.remaining_attoseconds := by
      rw [hsettle]
      simp only [process, hactive, Option.map_some]
    rw [advance_time, Process.advance_before hdeadline (before_some.mp hbefore), hsettle]

theorem receive_character_wait (value : U8) (elapsed : Nat) (channel : ChannelState) :
    ((process clock_hz).wait elapsed channel).receive_character value =
      (process clock_hz).wait elapsed (channel.receive_character value) := by
  by_cases hfull : channel.receive_fifo.length = RECEIVE_FIFO_BYTES
  · have hwaiting : ((process clock_hz).wait elapsed channel).receive_fifo.length = RECEIVE_FIFO_BYTES := hfull
    rw [receive_character, receive_character, if_pos hfull, if_pos hwaiting]
    rfl
  · have hwaiting : ¬((process clock_hz).wait elapsed channel).receive_fifo.length = RECEIVE_FIFO_BYTES := hfull
    rw [receive_character, receive_character, if_neg hfull, if_neg hwaiting]
    rfl

theorem receive_external_character_wait (value : U8) (elapsed : Nat) (channel : ChannelState) :
    ((process clock_hz).wait elapsed channel).receive_external_character value =
      (process clock_hz).wait elapsed (channel.receive_external_character value) := by
  by_cases hoff : (channel.local_loopback_enabled || !channel.receiver_enabled) = true
  · have hwaiting : (((process clock_hz).wait elapsed channel).local_loopback_enabled ||
        !((process clock_hz).wait elapsed channel).receiver_enabled) = true := hoff
    rw [receive_external_character, receive_external_character, if_pos hoff, if_pos hwaiting]
  · have hwaiting : ¬(((process clock_hz).wait elapsed channel).local_loopback_enabled ||
        !((process clock_hz).wait elapsed channel).receiver_enabled) = true := hoff
    rw [receive_external_character, receive_external_character, if_neg hoff, if_neg hwaiting, receive_character_wait]

theorem settled_advance_time (elapsed : Nat) (channel : ChannelState) :
    (channel.advance_time clock_hz elapsed).2.Settled clock_hz :=
  settled_of_settle (Process.settle_advance (process_lawful clock_hz) elapsed channel)

end ChannelState

namespace Z85230

variable {serial : Z85230} {elapsed : Nat}

/-- Neither transmitter is idle with a character that it could begin. -/
structure Settled (serial : Z85230) : Prop where
  channel : ∀ channel, (serial.channel channel).Settled serial.clock_hz

theorem channel_set_channel (channel other : Channel) (state : ChannelState) (serial : Z85230) :
    (serial.set_channel channel state).channel other = if other = channel then state else serial.channel other := by
  cases channel <;> cases other <;> rfl

theorem clock_hz_set_channel (channel : Channel) (state : ChannelState) (serial : Z85230) :
    (serial.set_channel channel state).clock_hz = serial.clock_hz := by
  cases channel <;> rfl

theorem settled_new (clock_hz : ClockHz) : (new clock_hz).Settled where
  channel channel := by cases channel <;> rfl

theorem settled_set_channel (h : serial.Settled) {channel : Channel} {state : ChannelState}
    (hstate : state.Settled serial.clock_hz) : (serial.set_channel channel state).Settled where
  channel other := by
    rw [channel_set_channel, clock_hz_set_channel]
    split
    · exact hstate
    · exact h.channel other

theorem settled_same (h : serial.Settled) {channel : Channel} {state : ChannelState}
    (hsame : (serial.channel channel).SameTransmitter state) : (serial.set_channel channel state).Settled :=
  settled_set_channel h (hsame.settled (h.channel channel))

theorem settled_reset (serial : Z85230) : serial.reset.Settled where
  channel channel := by cases channel <;> rfl

theorem settled_receive_character (h : serial.Settled) (channel : Channel) (value : U8) :
    (serial.receive_character channel value).Settled :=
  settled_same h (ChannelState.receive_external_character_same value _)

/-- Only the channels and the clock matter. -/
theorem Settled.congr (h : serial.Settled) {other : Z85230} (hclock : other.clock_hz = serial.clock_hz)
    (ha : other.channel_a = serial.channel_a) (hb : other.channel_b = serial.channel_b) : other.Settled where
  channel channel := by
    have hchannel := h.channel channel
    rw [hclock]
    cases channel with
    | A =>
      rw [show other.channel .A = serial.channel .A from ha]
      exact hchannel
    | B =>
      rw [show other.channel .B = serial.channel .B from hb]
      exact hchannel

theorem settled_read_data (h : serial.Settled) (channel : Channel) :
    (serial.set_channel channel (serial.channel channel).read_data.2).Settled :=
  settled_same h (ChannelState.read_data_same _)

theorem settled_read_control (h : serial.Settled) (channel : Channel) : (serial.read_control channel).2.Settled := by
  have hselected : (serial.set_channel channel (serial.channel channel).take_selected_register.2).Settled :=
    settled_same h ⟨rfl, rfl, rfl⟩
  unfold read_control
  dsimp only
  split
  · have hread := settled_read_data hselected channel
    split
    · split
      · exact hread.congr rfl rfl rfl
      · exact hread
    · exact hread
  · split
    · split
      · exact hselected.congr rfl rfl rfl
      · exact hselected
    · exact hselected

theorem settled_read (h : serial.Settled) (address length : Nat) : (serial.read address length).2.Settled := by
  unfold read
  cases decode_port address length with
  | error error => exact h
  | ok port =>
    cases port with
    | Control channel => exact settled_read_control h channel
    | Data channel => exact settled_read_data h channel

theorem settled_execute_command (h : serial.Settled) (channel : Channel) (value : U8) :
    (serial.execute_command channel value).Settled := by
  unfold execute_command
  split
  · exact settled_same h ⟨rfl, rfl, rfl⟩
  · exact settled_same h ⟨rfl, rfl, rfl⟩
  · exact settled_same h ⟨rfl, rfl, rfl⟩
  · unfold reset_highest_interrupt_under_service
    split
    · exact h.congr rfl rfl rfl
    · exact h
  · exact h

/-- All but the channel that a start settles. -/
theorem settled_start_transmitter {channel : Channel}
    (h : ∀ other, other ≠ channel → (serial.channel other).Settled serial.clock_hz) :
    (serial.start_transmitter channel).Settled where
  channel other := by
    unfold start_transmitter
    rw [channel_set_channel, clock_hz_set_channel]
    split
    · exact ChannelState.settled_start_transmitter _
    · rename_i hother
      exact h other hother

theorem write_selected_others (h : serial.Settled) {channel other : Channel} (hother : other ≠ channel)
    (register : Fin 16) (value : U8) :
    ((serial.write_selected channel register value).channel other).Settled
      (serial.write_selected channel register value).clock_hz := by
  unfold write_selected
  split
  · exact (h.congr rfl rfl rfl).channel other
  · split
    · unfold write_master_interrupt_control
      dsimp only
      split
      · cases other with
        | A => exact h.channel .A
        | B => exact ChannelState.settled_new
      · cases other with
        | A => exact ChannelState.settled_new
        | B => exact h.channel .B
      · cases other <;> exact ChannelState.settled_new
      · exact (h.congr rfl rfl rfl).channel other
    · split <;> rw [channel_set_channel, clock_hz_set_channel, if_neg hother] <;> exact h.channel other

theorem settled_write_control (h : serial.Settled) (channel : Channel) (value : U8) :
    (serial.write_control channel value).Settled := by
  unfold write_control
  dsimp only
  split
  · apply settled_execute_command
    exact settled_same h ⟨rfl, rfl, rfl⟩
  · apply settled_start_transmitter
    intro other hother
    apply write_selected_others _ hother
    exact settled_same h ⟨rfl, rfl, rfl⟩

theorem settled_write (h : serial.Settled) (address : Nat) (data : List U8) : (serial.write address data).2.Settled := by
  unfold write
  cases decode_port address data.length with
  | error error => exact h
  | ok port =>
    cases port with
    | Control channel => exact settled_write_control h channel _
    | Data channel =>
      dsimp only
      split
      · apply settled_start_transmitter
        intro other hother
        rw [channel_set_channel, clock_hz_set_channel, if_neg hother]
        exact h.channel other
      · rename_i hfull
        apply settled_same h
        unfold ChannelState.write_data at hfull ⊢
        split
        · exact ⟨rfl, rfl, rfl⟩
        · rename_i hroom
          rw [if_neg hroom] at hfull
          exact absurd rfl hfull

theorem settled_advance_time (elapsed : Nat) (serial : Z85230) : (serial.advance_time elapsed).2.Settled where
  channel channel := by cases channel <;> exact ChannelState.settled_advance_time _ _

/-- Lets time pass in which no character ends. -/
def wait (elapsed : Nat) (serial : Z85230) : Z85230 :=
  { serial with
    channel_a := (ChannelState.process serial.clock_hz).wait elapsed serial.channel_a
    channel_b := (ChannelState.process serial.clock_hz).wait elapsed serial.channel_b }

/-- Before its next character ends the controller only waits. -/
theorem advance_time_before (h : serial.Settled) (hbefore : Before elapsed serial.time_until_event) :
    serial.advance_time elapsed = ([], serial.wait elapsed) := by
  obtain ⟨ha, hb⟩ := before_earliest.mp hbefore
  have ha := ChannelState.advance_time_before (h.channel .A) ha
  have hb := ChannelState.advance_time_before (h.channel .B) hb
  simp only [channel] at ha hb
  simp only [advance_time, ha, hb, List.map_nil, List.append_nil, wait]

theorem time_until_event_wait (hbefore : Before elapsed serial.time_until_event) :
    (serial.wait elapsed).time_until_event = passed serial.time_until_event elapsed := by
  obtain ⟨ha, hb⟩ := before_earliest.mp hbefore
  have hpassed := passed_earliest hbefore
  rw [← @ChannelState.deadline_wait serial.clock_hz _ _ ha, ← @ChannelState.deadline_wait serial.clock_hz _ _ hb] at hpassed
  exact hpassed

/-- A character that arrives does not disturb the transmitters. -/
theorem receive_character_wait (channel : Channel) (value : U8) (elapsed : Nat) (serial : Z85230) :
    (serial.wait elapsed).receive_character channel value = (serial.receive_character channel value).wait elapsed := by
  cases channel with
  | A =>
    have h := @ChannelState.receive_external_character_wait serial.clock_hz value elapsed serial.channel_a
    exact congrArg (fun state => { serial.wait elapsed with channel_a := state }) h
  | B =>
    have h := @ChannelState.receive_external_character_wait serial.clock_hz value elapsed serial.channel_b
    exact congrArg (fun state => { serial.wait elapsed with channel_b := state }) h

theorem time_until_event_receive_character (channel : Channel) (value : U8) (serial : Z85230) :
    (serial.receive_character channel value).time_until_event = serial.time_until_event := by
  have hsame := ChannelState.receive_external_character_same value (serial.channel channel)
  unfold time_until_event
  cases channel with
  | A => exact congrArg (fun active : Option ActiveCharacter => earliest (active.map _) _) hsame.1
  | B => exact congrArg (fun active : Option ActiveCharacter => earliest _ (active.map _)) hsame.1

theorem advance_time_add (hbefore : (serial.advance_time elapsed).1 = []) (more : Nat) :
    (serial.advance_time elapsed).2.advance_time more = serial.advance_time (elapsed + more) := by
  obtain ⟨ha, hb⟩ := List.append_eq_nil_iff.mp hbefore
  have ha := List.map_eq_nil_iff.mp ha
  have hb := List.map_eq_nil_iff.mp hb
  have hadd_a := Process.advance_add (ChannelState.process_lawful serial.clock_hz) elapsed more serial.channel_a
  have hadd_b := Process.advance_add (ChannelState.process_lawful serial.clock_hz) elapsed more serial.channel_b
  unfold ChannelState.advance_time at ha hb
  rw [ha, List.nil_append] at hadd_a
  rw [hb, List.nil_append] at hadd_b
  simp only [advance_time, ChannelState.advance_time, hadd_a, hadd_b]

end Z85230

end se_device.z85230
