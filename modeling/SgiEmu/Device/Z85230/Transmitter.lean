import SgiEmu.Device.Z85230.Timing
import SgiEmu.Library.Delivery
import Mathlib.Tactic.FieldSimp
import Mathlib.Tactic.Linarith

open Library.Delivery Library.Timing se_core se_core.bus se_core.time

namespace se_device.z85230

namespace ChannelState

variable {clock_hz : ClockHz} {channel other : ChannelState} {active : ActiveCharacter} {next : Delay} {elapsed : Nat}

/-- The bytes accepted and not sent yet, the one on the line first. -/
def in_flight (channel : ChannelState) : List U8 :=
  (channel.active_character.map (·.value)).toList ++ channel.transmit_fifo

theorem SameTransmitter.in_flight (h : SameTransmitter channel other) : other.in_flight = channel.in_flight := by
  unfold ChannelState.in_flight
  rw [h.1, h.2.1]

theorem start_transmitter_idle (h : channel.Settled clock_hz) : (channel.start_transmitter clock_hz).2 = channel := by
  unfold Settled start_transmitter at h
  unfold start_transmitter
  split at h
  · cases h
  · rfl

/-- What a start does, if there is one. -/
theorem start_transmitter_cases (clock_hz : ClockHz) (channel : ChannelState) :
    (channel.Settled clock_hz ∧ channel.start_transmitter clock_hz = (false, channel)) ∨
      ∃ value rest units, channel.active_character = none ∧ channel.transmit_fifo = value :: rest ∧
        channel.frame_units = some units ∧
        channel.start_transmitter clock_hz =
          (true,
            { channel with
              transmit_fifo := rest
              timing_remainder := (units.val * ATTOSECONDS_PER_SECOND + channel.timing_remainder) % clock_hz.val
              active_character := some
                { value, remaining_attoseconds := character_delay units channel.timing_remainder clock_hz
                  local_loopback := channel.local_loopback_enabled } }) := by
  unfold Settled start_transmitter
  split
  · case h_1 value rest units hactive hfifo hunits => exact Or.inr ⟨value, rest, units, hactive, hfifo, hunits, rfl⟩
  · exact Or.inl ⟨rfl, rfl⟩

/-- A start moves the first byte from the queue to the line. -/
theorem in_flight_start_transmitter (channel : ChannelState) :
    (channel.start_transmitter clock_hz).2.in_flight = channel.in_flight := by
  obtain ⟨-, hstart⟩ | ⟨value, rest, units, hactive, hfifo, -, hstart⟩ := channel.start_transmitter_cases clock_hz
  · rw [hstart]
  · rw [hstart]
    unfold in_flight
    rw [hactive, hfifo]
    rfl

theorem in_flight_settle (channel : ChannelState) : ((process clock_hz).settle channel).in_flight = channel.in_flight := by
  simp only [process]
  split
  · rw [(latch_same _).in_flight, in_flight_start_transmitter]
  · rfl

theorem receive_local_loopback_same (value : U8) (channel : ChannelState) :
    SameTransmitter channel (channel.receive_local_loopback value) := by
  unfold receive_local_loopback
  split
  · exact receive_character_same value channel
  · exact ⟨rfl, rfl, rfl⟩

theorem fire_same (h : channel.active_character = some active) (next : Delay) :
    ((process clock_hz).fire next channel).1 = [active.value] ∧
      SameTransmitter { channel with active_character := none } ((process clock_hz).fire next channel).2 := by
  have hlatch := latch_same { channel with active_character := none }
  simp only [process, h]
  refine ⟨trivial, ?_⟩
  split
  · have hloop := receive_local_loopback_same active.value
      { channel with active_character := none }.latch_transmit_interrupt_if_ready
    exact ⟨hloop.1.trans hlatch.1, hloop.2.1.trans hlatch.2.1, hloop.2.2.trans hlatch.2.2⟩
  · exact hlatch

/-- Time sends the bytes in flight, first come first. -/
theorem follow_advance_time (elapsed : Nat) (channel : ChannelState) :
    follow channel.in_flight ((channel.advance_time clock_hz elapsed).1.map .Sent) =
      some (channel.advance_time clock_hz elapsed).2.in_flight := by
  refine @Process.advance_keeps _ _ (process clock_hz) channel
    (fun sent state => follow channel.in_flight (sent.map .Sent) = some state.in_flight) ?_ ?_ ?_
    (process_lawful clock_hz).settle_settle [] rfl elapsed
  · intro sent state h
    rw [in_flight_settle]
    exact h
  · intro sent state next elapsed hdeadline hbefore h
    obtain ⟨active, hactive, rfl⟩ := deadline_eq_some hdeadline
    rw [wait_some hactive hbefore, h]
    unfold in_flight
    rw [hactive]
    rfl
  · intro sent state next hdeadline h
    obtain ⟨active, hactive, rfl⟩ := deadline_eq_some hdeadline
    obtain ⟨hsent, hsame⟩ := @fire_same clock_hz _ _ hactive active.remaining_attoseconds
    have hflight : state.in_flight = active.value :: state.transmit_fifo := by
      unfold in_flight
      rw [hactive]
      rfl
    rw [hsent, List.map_append, follow_append, h, hsame.in_flight, hflight]
    exact follow_sent active.value state.transmit_fifo

/-- The channels agree in the line, the queue and the remainder of the time. -/
def SameLine (channel other : ChannelState) : Prop :=
  other.active_character = channel.active_character ∧ other.transmit_fifo = channel.transmit_fifo ∧
    other.timing_remainder = channel.timing_remainder

/-- What a channel makes of the notes of an operation that takes no time, before the
transmitter starts. -/
inductive Takes (channel other : ChannelState) : List (Note U8) → Prop where
  | nothing (h : SameLine channel other) : Takes channel other []
  | accepted (value : U8) (hactive : other.active_character = channel.active_character)
      (hfifo : other.transmit_fifo = channel.transmit_fifo ++ [value])
      (hremainder : other.timing_remainder = channel.timing_remainder) : Takes channel other [.Accepted value]
  | reset (hactive : other.active_character = none) (hfifo : other.transmit_fifo = []) (hremainder : other.timing_remainder = 0) :
      Takes channel other [.Reset]

variable {notes : List (Note U8)} {middle : ChannelState}

theorem SameLine.refl (channel : ChannelState) : SameLine channel channel := ⟨rfl, rfl, rfl⟩

theorem SameLine.trans (h : SameLine channel other) (hmore : SameLine other middle) : SameLine channel middle :=
  ⟨hmore.1.trans h.1, hmore.2.1.trans h.2.1, hmore.2.2.trans h.2.2⟩

theorem SameLine.takes (h : SameLine channel other) (htakes : Takes other middle notes) : Takes channel middle notes := by
  cases htakes with
  | nothing hsame => exact .nothing (h.trans hsame)
  | accepted value hactive hfifo hremainder =>
    refine .accepted value (hactive.trans h.1) ?_ (hremainder.trans h.2.2)
    rw [hfifo, h.2.1]
  | reset hactive hfifo hremainder => exact .reset hactive hfifo hremainder

theorem Takes.follow (h : Takes channel other notes) : follow channel.in_flight notes = some other.in_flight := by
  cases h with
  | nothing h =>
    unfold in_flight
    rw [h.1, h.2.1]
    rfl
  | accepted value hactive hfifo _ =>
    unfold in_flight
    rw [hactive, hfifo, ← List.append_assoc]
    rfl
  | reset hactive hfifo _ =>
    unfold in_flight
    rw [hactive, hfifo]
    rfl

/-- The remainder of the time is less than a tick of the clock. -/
def Phased (clock_hz : ClockHz) (channel : ChannelState) : Prop := channel.timing_remainder < clock_hz.val

theorem phased_start_transmitter (h : channel.Phased clock_hz) : (channel.start_transmitter clock_hz).2.Phased clock_hz := by
  obtain ⟨-, hstart⟩ | ⟨value, rest, units, -, -, -, hstart⟩ := channel.start_transmitter_cases clock_hz
  · rw [hstart]
    exact h
  · rw [hstart]
    exact Nat.mod_lt _ clock_hz.property.1

theorem Takes.phased (h : Takes channel other notes) (hphased : channel.Phased clock_hz) : other.Phased clock_hz := by
  unfold Phased at hphased ⊢
  cases h with
  | nothing h => rwa [h.2.2]
  | accepted _ _ _ hremainder => rwa [hremainder]
  | reset _ _ hremainder =>
    rw [hremainder]
    exact clock_hz.property.1

/-- A character on the line stays there as it is, unless the channel is reset. -/
theorem Takes.on_line (h : Takes channel other notes) (hactive : channel.active_character = some active) :
    other.active_character = some active ∧ other.timing_remainder = channel.timing_remainder ∨ other.active_character = none ∧
      other.Settled clock_hz := by
  cases h with
  | nothing h => exact Or.inl ⟨h.1.trans hactive, h.2.2⟩
  | accepted _ hsame _ hremainder => exact Or.inl ⟨hsame.trans hactive, hremainder⟩
  | reset hidle hfifo _ => exact Or.inr ⟨hidle, settled_iff.mpr (Or.inr (Or.inl hfifo))⟩

theorem latch_line (channel : ChannelState) : SameLine channel channel.latch_transmit_interrupt_if_ready := by
  unfold latch_transmit_interrupt_if_ready
  split <;> exact ⟨rfl, rfl, rfl⟩

theorem receive_character_line (value : U8) (channel : ChannelState) : SameLine channel (channel.receive_character value) := by
  unfold receive_character
  split <;> exact ⟨rfl, rfl, rfl⟩

theorem receive_external_character_line (value : U8) (channel : ChannelState) :
    SameLine channel (channel.receive_external_character value) := by
  unfold receive_external_character
  split
  · exact SameLine.refl channel
  · exact receive_character_line value channel

theorem read_data_line (channel : ChannelState) : SameLine channel channel.read_data.2 := by
  unfold read_data
  cases channel.receive_fifo with
  | nil => exact SameLine.refl channel
  | cons character rest =>
    dsimp only
    split
    · exact SameLine.refl channel
    · split <;> exact ⟨rfl, rfl, rfl⟩

theorem fire_line (h : channel.active_character = some active) (next : Delay) :
    SameLine { channel with active_character := none } ((process clock_hz).fire next channel).2 := by
  simp only [process, h]
  split
  · unfold receive_local_loopback
    split
    · exact (latch_line _).trans (receive_character_line _ _)
    · exact latch_line _
  · exact latch_line _

/-! ## Characters back to back -/

/-- The clock ticks, times an attosecond's, until the line is free for another
character; a channel that has one begins it at once. -/
def outstanding (clock_hz : ClockHz) (units : Nat) (channel : ChannelState) : Nat :=
  match channel.active_character with
  | some active => clock_hz.val * active.remaining_attoseconds.val
  | none => units * ATTOSECONDS_PER_SECOND

theorem start_transmitter_units (channel : ChannelState) :
    (channel.start_transmitter clock_hz).2.frame_units = channel.frame_units := by
  obtain ⟨-, hstart⟩ | ⟨value, rest, units, -, -, -, hstart⟩ := channel.start_transmitter_cases clock_hz
  · rw [hstart]
  · rw [hstart]
    rfl

/-- A start loses no time: what the delay leaves out is carried. -/
theorem outstanding_start_transmitter {units : { units : Nat // 24 ≤ units }} (h : channel.frame_units = some units) :
    outstanding clock_hz units (channel.start_transmitter clock_hz).2 +
        (channel.start_transmitter clock_hz).2.timing_remainder =
      outstanding clock_hz units channel + channel.timing_remainder := by
  obtain ⟨-, hstart⟩ | ⟨value, rest, frame, hactive, -, hunits, hstart⟩ := channel.start_transmitter_cases clock_hz
  · rw [hstart]
  · rw [h] at hunits
    cases hunits
    rw [hstart]
    unfold outstanding
    rw [hactive]
    exact Nat.div_add_mod _ _

theorem latch_units (channel : ChannelState) : channel.latch_transmit_interrupt_if_ready.frame_units = channel.frame_units :=
  (latch_same channel).frame_units

/-- Busy or out of bytes: the accounts of a channel that sends characters of one
length back to back. -/
def Accounts (clock_hz : ClockHz) (units : { units : Nat // 24 ≤ units }) (start : Nat) (sent spent : Nat)
    (channel : ChannelState) : Prop :=
  channel.frame_units = some units ∧
    (channel.active_character = none ∧ channel.transmit_fifo = [] ∨
      clock_hz.val * spent + outstanding clock_hz units channel + channel.timing_remainder =
        start + sent * (units.val * ATTOSECONDS_PER_SECOND))

namespace Accounts

variable {units : { units : Nat // 24 ≤ units }} {start sent spent : Nat}

theorem settle (h : Accounts clock_hz units start sent spent channel) :
    Accounts clock_hz units start sent spent ((process clock_hz).settle channel) := by
  by_cases hsettled : channel.Settled clock_hz
  · rw [settle_eq hsettled]
    exact h
  · have hstarted : (channel.start_transmitter clock_hz).1 = true := Bool.eq_true_of_not_eq_false hsettled
    simp only [process, hstarted, if_true]
    refine ⟨(latch_units _).trans ((start_transmitter_units channel).trans h.1), Or.inr ?_⟩
    rcases h.2 with ⟨_, hempty⟩ | haccounts
    · exact absurd (settled_iff.mpr (Or.inr (Or.inl hempty))) hsettled
    · have hsame := latch_line (channel.start_transmitter clock_hz).2
      have hstart := @outstanding_start_transmitter clock_hz channel units h.1
      unfold outstanding at hstart haccounts ⊢
      rw [hsame.1, hsame.2.2]
      omega

theorem idle (h : Accounts clock_hz units start sent spent channel) (hdeadline : (process clock_hz).deadline channel = none)
    (hsettle : (process clock_hz).settle channel = channel) (elapsed : Nat) :
    Accounts clock_hz units start sent (spent + elapsed) channel := by
  have hactive : channel.active_character = none := Option.map_eq_none_iff.mp hdeadline
  refine ⟨h.1, Or.inl ⟨hactive, ?_⟩⟩
  rcases settled_iff.mp (settled_of_settle hsettle) with hbusy | hempty | hdisabled
  · exact absurd hactive hbusy
  · exact hempty
  · rw [h.1] at hdisabled
    cases hdisabled

theorem wait (h : Accounts clock_hz units start sent spent channel) (hactive : channel.active_character = some active)
    (hbefore : elapsed < active.remaining_attoseconds.val) :
    Accounts clock_hz units start sent (spent + elapsed) ((process clock_hz).wait elapsed channel) := by
  rw [wait_some hactive hbefore]
  refine ⟨h.1, Or.inr ?_⟩
  rcases h.2 with ⟨hidle, _⟩ | haccounts
  · rw [hactive] at hidle
    cases hidle
  · unfold outstanding at haccounts ⊢
    rw [hactive] at haccounts
    have hsplit : clock_hz.val * (spent + elapsed) + clock_hz.val * (active.remaining_attoseconds.val - elapsed) =
        clock_hz.val * spent + clock_hz.val * active.remaining_attoseconds.val := by
      rw [← Nat.mul_add, ← Nat.mul_add]
      exact congrArg (clock_hz.val * ·) (by omega)
    dsimp only at haccounts ⊢
    omega

theorem fire (h : Accounts clock_hz units start sent spent channel) (hactive : channel.active_character = some active) :
    Accounts clock_hz units start (sent + 1) (spent + active.remaining_attoseconds.val)
      ((process clock_hz).fire active.remaining_attoseconds channel).2 := by
  have hline := @fire_line clock_hz _ _ hactive active.remaining_attoseconds
  refine ⟨?_, Or.inr ?_⟩
  · have hunits := (@fire_same clock_hz _ _ hactive active.remaining_attoseconds).2.frame_units
    exact hunits.trans h.1
  · rcases h.2 with ⟨hidle, _⟩ | haccounts
    · rw [hactive] at hidle
      cases hidle
    · unfold outstanding at haccounts ⊢
      rw [hactive] at haccounts
      rw [hline.1, hline.2.2, Nat.mul_add, Nat.add_mul]
      dsimp only at haccounts ⊢
      omega

theorem advance_time (h : Accounts clock_hz units start sent spent channel) (elapsed : Nat) :
    Accounts clock_hz units start (sent + (channel.advance_time clock_hz elapsed).1.length) (spent + elapsed)
      (channel.advance_time clock_hz elapsed).2 := by
  refine @Process.advance_keeps_time _ _ (process clock_hz) channel
    (fun log spent state => Accounts clock_hz units start (sent + log.length) spent state) ?_ ?_ ?_ ?_
    (process_lawful clock_hz).settle_settle [] spent h elapsed
  · intro log spent state h
    exact h.settle
  · intro log spent state elapsed hdeadline hsettle h
    exact h.idle hdeadline hsettle elapsed
  · intro log spent state next elapsed hdeadline hbefore h
    obtain ⟨active, hactive, rfl⟩ := deadline_eq_some hdeadline
    exact h.wait hactive hbefore
  · intro log spent state next hdeadline h
    obtain ⟨active, hactive, rfl⟩ := deadline_eq_some hdeadline
    rw [(fire_same hactive _).1, List.length_append, ← Nat.add_assoc]
    exact h.fire hactive

end Accounts

/-- A channel busy at both ends of a stretch of time, at one character length. -/
theorem advance_time_accounts {units : { units : Nat // 24 ≤ units }} {last : ActiveCharacter}
    (hunits : channel.frame_units = some units) (hactive : channel.active_character = some active)
    (hlast : (channel.advance_time clock_hz elapsed).2.active_character = some last) :
    clock_hz.val * elapsed + clock_hz.val * last.remaining_attoseconds.val +
        (channel.advance_time clock_hz elapsed).2.timing_remainder =
      clock_hz.val * active.remaining_attoseconds.val + channel.timing_remainder +
        (channel.advance_time clock_hz elapsed).1.length * (units.val * ATTOSECONDS_PER_SECOND) := by
  have hstart : Accounts clock_hz units (clock_hz.val * active.remaining_attoseconds.val + channel.timing_remainder) 0 0
      channel := by
    refine ⟨hunits, Or.inr ?_⟩
    unfold outstanding
    rw [hactive]
    dsimp only
    omega
  obtain ⟨-, ⟨hidle, -⟩ | haccounts⟩ := hstart.advance_time elapsed
  · rw [hlast] at hidle
    cases hidle
  · unfold outstanding at haccounts
    rw [hlast, Nat.zero_add, Nat.zero_add] at haccounts
    exact haccounts

theorem phased_advance_time (h : channel.Phased clock_hz) (elapsed : Nat) :
    (channel.advance_time clock_hz elapsed).2.Phased clock_hz := by
  refine @Process.advance_keeps _ _ (process clock_hz) channel (fun _ state => state.Phased clock_hz) ?_ ?_ ?_
    (process_lawful clock_hz).settle_settle [] h elapsed
  · intro _ state h
    simp only [process]
    split
    · unfold Phased
      rw [(latch_line _).2.2]
      exact phased_start_transmitter h
    · exact h
  · intro _ state next elapsed _ _ h
    exact h
  · intro _ state next hdeadline h
    obtain ⟨active, hactive, rfl⟩ := deadline_eq_some hdeadline
    unfold Phased
    rw [(fire_line hactive _).2.2]
    exact h

end ChannelState

/-! ## Operations of the controller -/

inductive Operation where
  | write (address : Nat) (data : List U8)
  | read (address length : Nat)
  | receive_character (channel : Channel) (value : U8)
  | reset
  | advance_time (elapsed : Nat)

namespace Operation

/-- The characters an operation outputs and the controller after it. -/
def apply (serial : Z85230) : Operation → List (Channel × U8) × Z85230
  | .write address data => ([], (serial.write address data).2)
  | .read address length => ([], (serial.read address length).2)
  | .receive_character channel value => ([], serial.receive_character channel value)
  | .reset => ([], serial.reset)
  | .advance_time elapsed => serial.advance_time elapsed

def elapsed : Operation → Nat
  | .advance_time elapsed => elapsed
  | _ => 0

end Operation

/-- The characters of one channel among those output. -/
def of_channel (channel : Channel) (output : List (Channel × U8)) : List U8 :=
  (output.filter (·.1 = channel)).map Prod.snd

/-- Whether a value for write register 9 resets a channel. -/
def resets (value : U8) (channel : Channel) : Bool :=
  match (value &&& 0xc0).toNat with
  | 0x40 => channel = .B
  | 0x80 => channel = .A
  | 0xc0 => true
  | _ => false

/-- What an operation shows of a channel's transmitter. -/
def Operation.notes (serial : Z85230) (channel : Channel) : Operation → List (Note U8)
  | .write address data =>
    match decode_port address data.length with
    | .ok (.Data port) =>
      if port = channel ∧ ((serial.channel port).write_data (data[0]?.getD 0)).1 then [.Accepted (data[0]?.getD 0)] else []
    | .ok (.Control port) =>
      if (serial.channel port).selected_register = 9 ∧ resets (data[0]?.getD 0) channel then [.Reset] else []
    | .error _ => []
  | .reset => [.Reset]
  | .advance_time elapsed => (of_channel channel (serial.advance_time elapsed).1).map .Sent
  | _ => []

namespace Z85230

open ChannelState

variable {serial : Z85230}

theorem line_set_channel (channel : Channel) {port : Channel} {state : ChannelState} (h : SameLine (serial.channel port) state) :
    SameLine (serial.channel channel) ((serial.set_channel port state).channel channel) := by
  rw [channel_set_channel]
  split
  · case isTrue heq =>
    rw [heq]
    exact h
  · exact SameLine.refl _

theorem execute_command_line (serial : Z85230) (port : Channel) (value : U8) (channel : Channel) :
    SameLine (serial.channel channel) ((serial.execute_command port value).channel channel) := by
  unfold execute_command
  split
  · apply line_set_channel channel
    exact ⟨rfl, rfl, rfl⟩
  · apply line_set_channel channel
    exact ⟨rfl, rfl, rfl⟩
  · apply line_set_channel channel
    exact ⟨rfl, rfl, rfl⟩
  · unfold reset_highest_interrupt_under_service
    split <;> exact SameLine.refl _
  · exact SameLine.refl _

theorem takes_new (channel : ChannelState) : Takes channel .new [.Reset] := .reset rfl rfl rfl

theorem write_master_interrupt_control_takes (serial : Z85230) (value : U8) (channel : Channel) :
    Takes (serial.channel channel) ((serial.write_master_interrupt_control value).channel channel)
      (if resets value channel then [.Reset] else []) := by
  unfold write_master_interrupt_control resets
  generalize (value &&& 0xc0).toNat = code
  dsimp only
  split
  · cases channel
    · exact .nothing ⟨rfl, rfl, rfl⟩
    · exact takes_new _
  · cases channel
    · exact takes_new _
    · exact .nothing ⟨rfl, rfl, rfl⟩
  · cases channel <;> exact takes_new _
  · split
    all_goals first | contradiction | exact .nothing (SameLine.refl _)

theorem write_selected_takes (serial : Z85230) (port : Channel) (register : Fin 16) (value : U8) (channel : Channel) :
    Takes (serial.channel channel) ((serial.write_selected port register value).channel channel)
      (if register = 9 ∧ resets value channel then [.Reset] else []) := by
  unfold write_selected
  by_cases hmaster : register = 9
  · subst hmaster
    simp only [show ¬(9 : Fin 16) = 2 by decide, if_false, if_true, true_and]
    exact write_master_interrupt_control_takes serial value channel
  · simp only [hmaster, false_and, if_false]
    split
    · exact .nothing (SameLine.refl _)
    · split
      · apply Takes.nothing
        apply line_set_channel channel
        exact ⟨rfl, rfl, rfl⟩
      · apply Takes.nothing
        apply line_set_channel channel
        unfold set_write_register
        split <;> exact SameLine.refl _

theorem read_control_line (serial : Z85230) (port channel : Channel) :
    SameLine (serial.channel channel) ((serial.read_control port).2.channel channel) := by
  have hselected : SameLine (serial.channel channel)
      ((serial.set_channel port (serial.channel port).take_selected_register.2).channel channel) := by
    apply line_set_channel channel
    exact ⟨rfl, rfl, rfl⟩
  have hread := hselected.trans (@line_set_channel _ channel port _ (read_data_line _))
  unfold read_control
  dsimp only
  split
  · split
    · split <;> exact hread
    · exact hread
  · split
    · split <;> exact hselected
    · exact hselected

theorem clock_hz_write_selected (serial : Z85230) (port : Channel) (register : Fin 16) (value : U8) :
    (serial.write_selected port register value).clock_hz = serial.clock_hz := by
  unfold write_selected
  split
  · rfl
  · split
    · unfold write_master_interrupt_control
      split <;> rfl
    · split <;> exact clock_hz_set_channel _ _ _

/-- A start is one of its channel alone. -/
theorem channel_start_transmitter (serial : Z85230) (port channel : Channel) :
    (serial.start_transmitter port).channel channel = serial.channel channel ∨
      (serial.start_transmitter port).channel channel = ((serial.channel channel).start_transmitter serial.clock_hz).2 := by
  unfold start_transmitter
  rw [channel_set_channel]
  split
  · case isTrue heq =>
    rw [heq]
    exact Or.inr rfl
  · exact Or.inl rfl

theorem write_control_takes (serial : Z85230) (port : Channel) (value : U8) (channel : Channel) :
    ∃ middle, Takes (serial.channel channel) middle
        (if (serial.channel port).selected_register = 9 ∧ resets value channel then [.Reset] else []) ∧
      ((serial.write_control port value).channel channel = middle ∨
        (serial.write_control port value).channel channel = (middle.start_transmitter serial.clock_hz).2) := by
  unfold write_control
  by_cases hselect : (serial.channel port).selected_register = 0
  · have hline : SameLine (serial.channel channel)
        ((serial.set_channel port ((serial.channel port).select_register value)).channel channel) := by
      apply line_set_channel channel
      exact ⟨rfl, rfl, rfl⟩
    simp only [hselect, if_true, show ¬(0 : Fin 16) = 9 by decide, false_and, if_false]
    exact ⟨_, .nothing (hline.trans (execute_command_line _ port _ channel)), Or.inl rfl⟩
  · have hline : SameLine (serial.channel channel)
        ((serial.set_channel port { serial.channel port with selected_register := 0 }).channel channel) := by
      apply line_set_channel channel
      exact ⟨rfl, rfl, rfl⟩
    have hstart := channel_start_transmitter
      ((serial.set_channel port { serial.channel port with selected_register := 0 }).write_selected port
        (serial.channel port).selected_register value) port channel
    rw [clock_hz_write_selected, clock_hz_set_channel] at hstart
    simp only [hselect, if_false]
    exact ⟨_, hline.takes (write_selected_takes _ port _ value channel), hstart⟩

theorem write_data_takes (serial : Z85230) (port : Channel) (value : U8) (channel : Channel) :
    Takes (serial.channel channel) ((serial.set_channel port ((serial.channel port).write_data value).2).channel channel)
      (if port = channel ∧ ((serial.channel port).write_data value).1 then [.Accepted value] else []) := by
  by_cases hfull : (serial.channel port).transmit_fifo.length = TRANSMIT_FIFO_BYTES
  · have hwrite : (serial.channel port).write_data value = (false, serial.channel port) := if_pos hfull
    simp only [hwrite, Bool.false_eq_true, and_false, if_false]
    exact .nothing (line_set_channel channel (SameLine.refl _))
  · have hwrite : (serial.channel port).write_data value =
        (true, { serial.channel port with
          transmit_interrupt_pending := false, transmit_fifo := (serial.channel port).transmit_fifo ++ [value] }) :=
      if_neg hfull
    rw [hwrite, channel_set_channel]
    by_cases hport : channel = port
    · subst hport
      rw [if_pos rfl, if_pos ⟨rfl, rfl⟩]
      exact .accepted value rfl rfl rfl
    · rw [if_neg hport, if_neg (fun h => hport h.1.symm)]
      exact .nothing (SameLine.refl _)

/-- An operation that takes no time is noted, and then a transmitter may start. -/
theorem untimed_takes (serial : Z85230) (operation : Operation) (h : ∀ elapsed, operation ≠ .advance_time elapsed)
    (channel : Channel) :
    ∃ middle, Takes (serial.channel channel) middle (operation.notes serial channel) ∧
      ((operation.apply serial).2.channel channel = middle ∨
        (operation.apply serial).2.channel channel = (middle.start_transmitter serial.clock_hz).2) := by
  cases operation with
  | advance_time elapsed => exact absurd rfl (h elapsed)
  | reset => exact ⟨.new, takes_new _, Or.inl (by cases channel <;> rfl)⟩
  | receive_character port value =>
    exact ⟨_, .nothing (line_set_channel channel (receive_external_character_line value _)), Or.inl rfl⟩
  | read address length =>
    refine ⟨_, .nothing ?_, Or.inl rfl⟩
    simp only [Operation.apply, read]
    cases decode_port address length with
    | error error => exact SameLine.refl _
    | ok port =>
      cases port with
      | Control port => exact read_control_line serial port channel
      | Data port => exact line_set_channel channel (read_data_line _)
  | write address data =>
    simp only [Operation.apply, Operation.notes, write]
    cases decode_port address data.length with
    | error error => exact ⟨_, .nothing (SameLine.refl _), Or.inl rfl⟩
    | ok port =>
      cases port with
      | Control port => exact write_control_takes serial port _ channel
      | Data port =>
        refine ⟨_, write_data_takes serial port _ channel, ?_⟩
        dsimp only
        split
        · have hstart := channel_start_transmitter
            (serial.set_channel port ((serial.channel port).write_data (data[0]?.getD 0)).2) port channel
          rw [clock_hz_set_channel] at hstart
          exact hstart
        · exact Or.inl rfl

theorem clock_hz_read_control (serial : Z85230) (port : Channel) : (serial.read_control port).2.clock_hz = serial.clock_hz := by
  have hselected := clock_hz_set_channel port (serial.channel port).take_selected_register.2 serial
  have hread (state : ChannelState) := (clock_hz_set_channel port state _).trans hselected
  unfold read_control
  dsimp only
  split
  · split
    · split <;> exact hread _
    · exact hread _
  · split
    · split <;> exact hselected
    · exact hselected

theorem clock_hz_execute_command (serial : Z85230) (port : Channel) (value : U8) :
    (serial.execute_command port value).clock_hz = serial.clock_hz := by
  unfold execute_command
  split
  · exact clock_hz_set_channel _ _ _
  · exact clock_hz_set_channel _ _ _
  · exact clock_hz_set_channel _ _ _
  · unfold reset_highest_interrupt_under_service
    split <;> rfl
  · rfl

theorem clock_hz_start_transmitter (serial : Z85230) (port : Channel) :
    (serial.start_transmitter port).clock_hz = serial.clock_hz := clock_hz_set_channel _ _ _

theorem clock_hz_write_control (serial : Z85230) (port : Channel) (value : U8) :
    (serial.write_control port value).clock_hz = serial.clock_hz := by
  unfold write_control
  dsimp only
  split
  · rw [clock_hz_execute_command, clock_hz_set_channel]
  · rw [clock_hz_start_transmitter, clock_hz_write_selected, clock_hz_set_channel]

theorem clock_hz_apply (operation : Operation) (serial : Z85230) : (operation.apply serial).2.clock_hz = serial.clock_hz := by
  cases operation with
  | advance_time elapsed => rfl
  | reset => rfl
  | receive_character port value => exact clock_hz_set_channel _ _ _
  | read address length =>
    simp only [Operation.apply, read]
    cases decode_port address length with
    | error error => rfl
    | ok port =>
      cases port with
      | Data port => exact clock_hz_set_channel _ _ _
      | Control port => exact clock_hz_read_control serial port
  | write address data =>
    simp only [Operation.apply, write]
    cases decode_port address data.length with
    | error error => rfl
    | ok port =>
      cases port with
      | Control port => exact clock_hz_write_control serial port _
      | Data port =>
        dsimp only
        split
        · rw [clock_hz_start_transmitter, clock_hz_set_channel]
        · exact clock_hz_set_channel _ _ _

/-- Time passes on each channel by itself. -/
theorem advance_time_channel (elapsed : Nat) (serial : Z85230) (channel : Channel) :
    of_channel channel (serial.advance_time elapsed).1 = ((serial.channel channel).advance_time serial.clock_hz elapsed).1 ∧
      (serial.advance_time elapsed).2.channel channel =
        ((serial.channel channel).advance_time serial.clock_hz elapsed).2 := by
  cases channel <;>
    simp [of_channel, advance_time, Z85230.channel, List.filter_append, List.filter_map, Function.comp_def]

end Z85230

/-! ## Runs -/

/-- The characters output over a run and the controller after it. -/
def run (serial : Z85230) : List Operation → List (Channel × U8) × Z85230
  | [] => ([], serial)
  | operation :: operations =>
    let step := operation.apply serial
    let rest := run step.2 operations
    (step.1 ++ rest.1, rest.2)

/-- The notes of a run on a channel. -/
def log (serial : Z85230) (channel : Channel) : List Operation → List (Note U8)
  | [] => []
  | operation :: operations => operation.notes serial channel ++ log (operation.apply serial).2 channel operations

/-- A channel sends characters of one length, without a pause, all through a run. -/
def BackToBack (channel : Channel) (units : { units : Nat // 24 ≤ units }) (serial : Z85230) (operations : List Operation) : Prop :=
  ((serial.channel channel).active_character.isSome = true ∧ (serial.channel channel).frame_units = some units) ∧
    match operations with
    | [] => True
    | operation :: operations => BackToBack channel units (operation.apply serial).2 operations

/-- The time until the character on the line ends. -/
def line_time (channel : ChannelState) : Nat := (channel.active_character.map (·.remaining_attoseconds.val)).getD 0

open ChannelState Z85230

variable {serial : Z85230} {channel : Channel} {units : { units : Nat // 24 ≤ units }} {operations : List Operation}

theorem eq_advance_time_or_untimed (operation : Operation) :
    (∃ elapsed, operation = .advance_time elapsed) ∨ ∀ elapsed, operation ≠ .advance_time elapsed := by
  cases operation with
  | advance_time elapsed => exact Or.inl ⟨elapsed, rfl⟩
  | write | read | receive_character | reset => exact Or.inr nofun

theorem follow_apply (serial : Z85230) (channel : Channel) (operation : Operation) :
    follow (serial.channel channel).in_flight (operation.notes serial channel) =
      some ((operation.apply serial).2.channel channel).in_flight := by
  rcases eq_advance_time_or_untimed operation with ⟨elapsed, rfl⟩ | huntimed
  · have hchannel := advance_time_channel elapsed serial channel
    simp only [Operation.notes, Operation.apply]
    rw [hchannel.1, hchannel.2]
    exact follow_advance_time elapsed _
  · obtain ⟨middle, htakes, hmiddle | hstart⟩ := untimed_takes serial operation huntimed channel
    · rw [hmiddle]
      exact htakes.follow
    · rw [hstart, in_flight_start_transmitter]
      exact htakes.follow

theorem follow_log (serial : Z85230) (channel : Channel) (operations : List Operation) :
    follow (serial.channel channel).in_flight (log serial channel operations) =
      some ((run serial operations).2.channel channel).in_flight := by
  induction operations generalizing serial with
  | nil => rfl
  | cons operation operations ih =>
    rw [log, follow_append, follow_apply]
    exact ih _

theorem phased_apply (h : (serial.channel channel).Phased serial.clock_hz) (operation : Operation) :
    ((operation.apply serial).2.channel channel).Phased (operation.apply serial).2.clock_hz := by
  rw [clock_hz_apply]
  rcases eq_advance_time_or_untimed operation with ⟨elapsed, rfl⟩ | huntimed
  · simp only [Operation.apply, (advance_time_channel elapsed serial channel).2]
    exact phased_advance_time h elapsed
  · obtain ⟨middle, htakes, hmiddle | hstart⟩ := untimed_takes serial operation huntimed channel
    · rw [hmiddle]
      exact htakes.phased h
    · rw [hstart]
      exact phased_start_transmitter (htakes.phased h)

theorem settled_apply (h : serial.Settled) (operation : Operation) : (operation.apply serial).2.Settled := by
  cases operation with
  | write address data => exact settled_write h address data
  | read address length => exact settled_read h address length
  | receive_character channel value => exact settled_receive_character h channel value
  | reset => exact settled_reset serial
  | advance_time elapsed => exact Z85230.settled_advance_time elapsed serial

/-- One operation of a channel that is busy before and after it. -/
theorem accounts_apply {active last : ActiveCharacter} (hunits : (serial.channel channel).frame_units = some units)
    (hactive : (serial.channel channel).active_character = some active) (operation : Operation)
    (hlast : ((operation.apply serial).2.channel channel).active_character = some last) :
    serial.clock_hz.val * operation.elapsed + serial.clock_hz.val * last.remaining_attoseconds.val +
        ((operation.apply serial).2.channel channel).timing_remainder =
      serial.clock_hz.val * active.remaining_attoseconds.val + (serial.channel channel).timing_remainder +
        (of_channel channel (operation.apply serial).1).length * (units.val * ATTOSECONDS_PER_SECOND) := by
  rcases eq_advance_time_or_untimed operation with ⟨elapsed, rfl⟩ | huntimed
  · have hchannel := advance_time_channel elapsed serial channel
    simp only [Operation.apply, hchannel.1, hchannel.2, Operation.elapsed] at hlast ⊢
    exact advance_time_accounts hunits hactive hlast
  · have hquiet : operation.elapsed = 0 ∧ (operation.apply serial).1 = [] := by
      cases operation with
      | advance_time elapsed => exact absurd rfl (huntimed elapsed)
      | write | read | receive_character | reset => exact ⟨rfl, rfl⟩
    have hkept : ((operation.apply serial).2.channel channel).active_character = some active ∧
        ((operation.apply serial).2.channel channel).timing_remainder = (serial.channel channel).timing_remainder := by
      obtain ⟨middle, htakes, hafter⟩ := untimed_takes serial operation huntimed channel
      rcases @Takes.on_line serial.clock_hz _ _ _ _ htakes hactive with ⟨hsame, hremainder⟩ | ⟨hidle, hsettled⟩
      · have hstart := @start_transmitter_idle serial.clock_hz middle
          (settled_iff.mpr (Or.inl (by rw [hsame]; exact Option.some_ne_none _)))
        rw [hstart, or_self] at hafter
        rw [hafter]
        exact ⟨hsame, hremainder⟩
      · rw [start_transmitter_idle hsettled, or_self] at hafter
        rw [hafter, hidle] at hlast
        cases hlast
    rw [hkept.1] at hlast
    cases hlast
    rw [hquiet.1, hquiet.2, hkept.2]
    simp only [of_channel, List.filter_nil, List.map_nil, List.length_nil, Nat.mul_zero, Nat.zero_mul, Nat.zero_add, Nat.add_zero]

theorem line_time_some {state : ChannelState} {active : ActiveCharacter} (h : state.active_character = some active) :
    line_time state = active.remaining_attoseconds.val := by
  unfold line_time
  rw [h]
  rfl

theorem BackToBack.busy (h : BackToBack channel units serial operations) :
    ∃ active, (serial.channel channel).active_character = some active := by
  unfold BackToBack at h
  exact Option.isSome_iff_exists.mp h.1.1

/-- The accounts of a run without a pause. -/
theorem accounts_run (h : BackToBack channel units serial operations) :
    serial.clock_hz.val * (operations.map Operation.elapsed).sum +
          serial.clock_hz.val * line_time ((run serial operations).2.channel channel) +
        ((run serial operations).2.channel channel).timing_remainder =
      serial.clock_hz.val * line_time (serial.channel channel) + (serial.channel channel).timing_remainder +
        (of_channel channel (run serial operations).1).length * (units.val * ATTOSECONDS_PER_SECOND) := by
  induction operations generalizing serial with
  | nil => simp [run, of_channel]
  | cons operation operations ih =>
    have hrest : BackToBack channel units (operation.apply serial).2 operations := by
      unfold BackToBack at h
      exact h.2
    have hunits : (serial.channel channel).frame_units = some units := by
      unfold BackToBack at h
      exact h.1.2
    obtain ⟨active, hactive⟩ := h.busy
    obtain ⟨last, hlast⟩ := hrest.busy
    have hstep := accounts_apply hunits hactive operation hlast
    have hrun := ih hrest
    have houtput : (of_channel channel (run serial (operation :: operations)).1).length =
        (of_channel channel (operation.apply serial).1).length +
          (of_channel channel (run (operation.apply serial).2 operations).1).length := by
      simp [run, of_channel]
    rw [clock_hz_apply, line_time_some hlast] at hrun
    rw [List.map_cons, List.sum_cons, houtput, line_time_some hactive, Nat.mul_add, Nat.add_mul]
    simp only [run]
    omega

/-- The controller after a run from its reset state. -/
def after (clock_hz : ClockHz) (operations : List Operation) : Z85230 := (run (.new clock_hz) operations).2

/-- What holds of the controller in every state. -/
structure Kept (clock_hz : ClockHz) (serial : Z85230) : Prop where
  settled : serial.Settled
  clock : serial.clock_hz = clock_hz
  phased : ∀ channel, (serial.channel channel).Phased clock_hz

theorem Kept.apply {clock_hz : ClockHz} (h : Kept clock_hz serial) (operation : Operation) :
    Kept clock_hz (operation.apply serial).2 where
  settled := settled_apply h.settled operation
  clock := (clock_hz_apply operation serial).trans h.clock
  phased channel := by
    have hphased := h.phased channel
    rw [← h.clock] at hphased
    have hnext := phased_apply hphased operation
    rw [clock_hz_apply, h.clock] at hnext
    exact hnext

theorem Kept.over_run {clock_hz : ClockHz} (h : Kept clock_hz serial) (operations : List Operation) :
    Kept clock_hz (run serial operations).2 := by
  induction operations generalizing serial with
  | nil => exact h
  | cons operation operations ih => exact ih (h.apply operation)

theorem kept_after (clock_hz : ClockHz) (operations : List Operation) : Kept clock_hz (after clock_hz operations) := by
  have hnew : Kept clock_hz (.new clock_hz) :=
    ⟨Z85230.settled_new clock_hz, rfl, fun channel => by cases channel <;> exact clock_hz.property.1⟩
  exact hnew.over_run operations

/-- Characters sent back to back take, up to less than an attosecond, the time that
their number and their length say. -/
theorem Kept.no_drift {clock_hz : ClockHz} (h : Kept clock_hz serial) (hsent : BackToBack channel units serial operations) :
    |((operations.map Operation.elapsed).sum + line_time ((run serial operations).2.channel channel) -
          line_time (serial.channel channel) : ℚ) -
        (of_channel channel (run serial operations).1).length *
          ((units.val * ATTOSECONDS_PER_SECOND : ℚ) / clock_hz.val)| < 1 := by
  have haccounts := accounts_run hsent
  have hfirst := h.phased channel
  have hlast := (h.over_run operations).phased channel
  rw [h.clock] at haccounts
  unfold Phased at hfirst hlast
  generalize (operations.map Operation.elapsed).sum = elapsed at *
  generalize line_time ((run serial operations).2.channel channel) = last at *
  generalize line_time (serial.channel channel) = first at *
  generalize (of_channel channel (run serial operations).1).length = sent at *
  generalize ((run serial operations).2.channel channel).timing_remainder = left at *
  generalize (serial.channel channel).timing_remainder = carried at *
  generalize ATTOSECONDS_PER_SECOND = second at *
  have hpositive : (0 : ℚ) < clock_hz.val := by exact_mod_cast clock_hz.property.1
  have haccounts : (clock_hz.val * elapsed + clock_hz.val * last + left : ℚ) =
      clock_hz.val * first + carried + sent * (units.val * second) := by exact_mod_cast haccounts
  have hfirst : (carried : ℚ) < clock_hz.val := by exact_mod_cast hfirst
  have hlast : (left : ℚ) < clock_hz.val := by exact_mod_cast hlast
  have hdifference : (elapsed + last - first : ℚ) - sent * ((units.val * second : ℚ) / clock_hz.val) =
      (carried - left) / clock_hz.val := by
    field_simp
    linarith
  have hcarried : (0 : ℚ) ≤ carried := Nat.cast_nonneg carried
  have hleft : (0 : ℚ) ≤ left := Nat.cast_nonneg left
  rw [hdifference, abs_lt, lt_div_iff₀ hpositive, div_lt_iff₀ hpositive]
  constructor <;> linarith

/-- A channel sends every byte it accepts once and in order, unless it is reset first;
it never stalls, sends what is on the line when its time has come, drifts by less than
an attosecond, and does not mind how time is cut up. -/
theorem sends_every_byte (clock_hz : ClockHz) (operations : List Operation) (channel : Channel) :
    follow [] (log (.new clock_hz) channel operations) = some ((after clock_hz operations).channel channel).in_flight ∧
      (((after clock_hz operations).channel channel).active_character = none →
        ((after clock_hz operations).channel channel).transmit_fifo = [] ∨
          ((after clock_hz operations).channel channel).frame_units = none) ∧
      (∀ active, ((after clock_hz operations).channel channel).active_character = some active →
        (of_channel channel ((after clock_hz operations).advance_time active.remaining_attoseconds.val).1).head? =
          some active.value) ∧
      (∀ units more, BackToBack channel units (after clock_hz operations) more →
        |((more.map Operation.elapsed).sum + line_time ((run (after clock_hz operations) more).2.channel channel) -
              line_time ((after clock_hz operations).channel channel) : ℚ) -
            (of_channel channel (run (after clock_hz operations) more).1).length *
              ((units.val * ATTOSECONDS_PER_SECOND : ℚ) / clock_hz.val)| < 1) ∧
      ∀ first second,
        of_channel channel ((after clock_hz operations).advance_time (first + second)).1 =
            of_channel channel ((after clock_hz operations).advance_time first).1 ++
              of_channel channel (((after clock_hz operations).advance_time first).2.advance_time second).1 ∧
          ((after clock_hz operations).advance_time (first + second)).2 =
            (((after clock_hz operations).advance_time first).2.advance_time second).2 := by
  have hkept := kept_after clock_hz operations
  refine ⟨?_, ?_, ?_, ?_, ?_⟩
  · have hlog := follow_log (.new clock_hz) channel operations
    rw [show ((Z85230.new clock_hz).channel channel).in_flight = [] by cases channel <;> rfl] at hlog
    exact hlog
  · intro hidle
    rcases settled_iff.mp (hkept.settled.channel channel) with hbusy | hrest
    · exact absurd hidle hbusy
    · exact hrest
  · intro active hactive
    have hsettle := settle_eq (hkept.settled.channel channel)
    have hdeadline : (process (after clock_hz operations).clock_hz).deadline
        ((process (after clock_hz operations).clock_hz).settle ((after clock_hz operations).channel channel)) =
          some active.remaining_attoseconds := by
      rw [hsettle]
      simp only [process, hactive, Option.map_some]
    rw [(advance_time_channel _ _ channel).1, ChannelState.advance_time,
      Process.advance_after hdeadline (Nat.le_refl _), hsettle, (fire_same hactive _).1]
    rfl
  · intro units more hsent
    exact hkept.no_drift hsent
  · intro first second
    have hadd (channel : Channel) := Process.advance_add (process_lawful (after clock_hz operations).clock_hz) first second
      ((after clock_hz operations).channel channel)
    have hfirst := advance_time_channel first (after clock_hz operations) channel
    constructor
    · rw [(advance_time_channel _ _ channel).1, (advance_time_channel _ _ channel).1, (advance_time_channel _ _ channel).1,
        hfirst.2]
      exact congrArg Prod.fst (hadd channel)
    · have ha := congrArg Prod.snd (hadd .A)
      have hb := congrArg Prod.snd (hadd .B)
      simp only [Z85230.advance_time, ChannelState.advance_time, Z85230.channel] at ha hb ⊢
      rw [ha, hb]

/-- The fastest clock, at which a character of five bits takes an attosecond and a half. -/
def fastest : ClockHz := ⟨0xffffffffffffffff, by decide, by decide⟩

/-- Sets channel A up to transmit and queues three bytes. -/
def three_bytes : List Operation :=
  [.write 0x0b [5], .write 0x0b [8], .write 0x0b [0x0b], .write 0x0b [0x10], .write 0x0b [0x0e], .write 0x0b [1],
    .write 0x0f [10], .write 0x0f [20], .write 0x0f [30]]

theorem sends_every_byte_three :
    |(([.advance_time 1, .write 0x0f [40], .advance_time 2].map Operation.elapsed).sum +
          line_time ((run (after fastest three_bytes) [.advance_time 1, .write 0x0f [40], .advance_time 2]).2.channel .A) -
          line_time ((after fastest three_bytes).channel .A) : ℚ) -
        (of_channel .A (run (after fastest three_bytes) [.advance_time 1, .write 0x0f [40], .advance_time 2]).1).length *
          (((28 : Nat) * ATTOSECONDS_PER_SECOND : ℚ) / fastest.val)| < 1 := by
  refine (sends_every_byte fastest three_bytes .A).2.2.2.1 ⟨28, by decide⟩ _ ?_
  refine ⟨⟨?_, ?_⟩, ⟨?_, ?_⟩, ⟨?_, ?_⟩, ⟨?_, ?_⟩, trivial⟩ <;> decide +kernel

end se_device.z85230
