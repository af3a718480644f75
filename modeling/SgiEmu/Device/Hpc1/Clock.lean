import SgiEmu.Device.Hpc1
import SgiEmu.Device.Hpc1.Ethernet.Transmit
import SgiEmu.Library.Divider

open se_core se_core.time Library

namespace se_device.hpc1

/-! ## The channel in time -/

/-- What some ticks leave of the receive timer: its count and whether it has expired. -/
def timer_left (timer : Nat × Bool) (ticks : Nat) : Nat × Bool :=
  if timer.2 || timer.1 == 0 then timer else if timer.1 ≤ ticks then (0, true) else (timer.1 - ticks, timer.2)

theorem timer_left_add (timer : Nat × Bool) (ticks more : Nat) :
    timer_left (timer_left timer ticks) more = timer_left timer (ticks + more) := by
  obtain ⟨count, expired⟩ := timer
  by_cases hstopped : (expired || count == 0) = true
  · have hsame : ∀ ticks, timer_left (count, expired) ticks = (count, expired) := fun ticks => if_pos hstopped
    rw [hsame, hsame, hsame]
  · have hrunning : ∀ ticks, timer_left (count, expired) ticks =
        if count ≤ ticks then (0, true) else (count - ticks, expired) := fun ticks => if_neg hstopped
    rw [hrunning, hrunning]
    by_cases hexpires : count ≤ ticks
    · rw [if_pos hexpires, if_pos (Nat.le_add_right_of_le hexpires)]
      rfl
    · rw [if_neg hexpires]
      simp only [Bool.or_eq_true, beq_iff_eq, not_or] at hstopped
      have hleft : ¬(expired || count - ticks == 0) = true := by
        simp only [hstopped.1, Bool.false_eq_true, Bool.or_eq_true, beq_iff_eq, false_or]
        omega
      unfold timer_left
      rw [if_neg hleft]
      dsimp only
      by_cases hlater : count ≤ ticks + more
      · rw [if_pos hlater, if_pos (by omega)]
      · rw [if_neg hlater, if_neg (by omega), Nat.sub_sub]

/-- More ticks than the timer counts are as good as any. -/
theorem timer_left_enough {timer : Nat × Bool} {ticks more : Nat} (hticks : timer.1 ≤ ticks)
    (hmore : timer.1 ≤ more) : timer_left timer ticks = timer_left timer more := by
  unfold timer_left
  rw [if_pos hticks, if_pos hmore]

theorem timer_left_le (timer : Nat × Bool) (ticks : Nat) : (timer_left timer ticks).1 ≤ timer.1 := by
  unfold timer_left
  split
  · exact Nat.le_refl _
  · split
    · exact Nat.zero_le _
    · exact Nat.sub_le _ _

/-- A running timer has expired once its count of ticks has come. -/
theorem timer_left_expired {count : Nat} (hcount : count ≠ 0) (ticks : Nat) :
    (timer_left (count, false) ticks).2 = decide (count ≤ ticks) := by
  unfold timer_left
  rw [if_neg (by simpa using hcount)]
  dsimp only
  split
  · exact (decide_eq_true ‹_›).symm
  · exact (decide_eq_false ‹_›).symm

/-- Whether a delay is over. -/
def delay_due (delay : Option Nat) (elapsed : Nat) : Bool :=
  match delay with
  | some delay => delay ≤ elapsed
  | none => false

/-- What is left of a delay. -/
def delay_left (delay : Option Nat) (elapsed : Nat) : Option Nat :=
  if delay_due delay elapsed then none else delay.map (· - elapsed)

theorem delay_left_add (delay : Option Nat) (first second : Nat) :
    delay_left (delay_left delay first) second = delay_left delay (first + second) ∧
      delay_due delay (first + second) = (delay_due delay first || delay_due (delay_left delay first) second) := by
  unfold delay_left delay_due
  cases delay with
  | none => exact ⟨rfl, rfl⟩
  | some delay =>
    by_cases hfirst : delay ≤ first
    · simp [hfirst, Nat.le_add_right_of_le hfirst]
    · by_cases hsecond : delay ≤ first + second
      · have hrest : delay - first ≤ second := by omega
        simp [hfirst, hsecond]
        omega
      · have hrest : ¬delay - first ≤ second := by omega
        simp [hfirst, hsecond, Nat.sub_sub]
        omega

def raise (control : U32) (due : Bool) : U32 := if due then control ||| ETHERNET_INTERRUPT else control

/-- An interrupt raised twice is raised once. -/
theorem raise_raise (control : U32) (first second : Bool) :
    raise (raise control first) second = raise control (first || second) := by
  unfold raise
  cases first <;> cases second <;> simp [BitVec.or_assoc]

/-- An expired timer stays expired. -/
theorem timer_left_mono {timer : Nat × Bool} (h : timer.2 = true) (ticks : Nat) : timer_left timer ticks = timer := by
  unfold timer_left
  rw [if_pos (by rw [h, Bool.true_or])]

namespace EthernetChannel

def timer_state (channel : EthernetChannel) : Nat × Bool := (channel.timer_count, channel.timer_expired)

/-- An advanced channel: its timer, its delays, and the interrupts they raise. -/
theorem advance_time_eq (channel : EthernetChannel) (elapsed ticks : Nat) :
    channel.advance_time elapsed ticks =
      let timer := timer_left channel.timer_state ticks
      { channel with
        timer_count := timer.1
        timer_expired := timer.2
        dma_delay_attoseconds := channel.dma_delay_attoseconds - elapsed
        transmit_interrupt_delay_attoseconds := delay_left channel.transmit_interrupt_delay_attoseconds elapsed
        control := raise channel.control
          (delay_due channel.transmit_interrupt_delay_attoseconds elapsed ||
            (timer.2 && channel.receive_interrupt_waiting))
        receive_interrupt_waiting := channel.receive_interrupt_waiting && !timer.2 } := by
  unfold advance_time advance_timer timer_left timer_state
  dsimp only
  split
  · rfl
  · split <;> rfl

/-- An interrupt that waits for the timer is raised when it expires, in the
first part of a stretch of time or in the second. -/
theorem waiting_add (waiting : Bool) {expired later : Bool} (h : expired = true → later = true) :
    (waiting && !expired && !later) = (waiting && !later) ∧
      (later && waiting) = (expired && waiting || later && (waiting && !expired)) := by
  cases expired with
  | false => simp
  | true => simp [h rfl]

/-- Time that passes in two parts leaves the channel where it does in one. -/
theorem advance_time_add (channel : EthernetChannel) (first second ticks more : Nat) :
    (channel.advance_time first ticks).advance_time second more =
      channel.advance_time (first + second) (ticks + more) := by
  obtain ⟨hleft, hdue⟩ := delay_left_add channel.transmit_interrupt_delay_attoseconds first second
  have htimer := timer_left_add channel.timer_state ticks more
  have hmono : (timer_left channel.timer_state ticks).2 = true →
      (timer_left (timer_left channel.timer_state ticks) more).2 = true := by
    intro hexpired
    rw [timer_left_mono hexpired, hexpired]
  obtain ⟨hwaits, hraised⟩ := waiting_add channel.receive_interrupt_waiting hmono
  have hdue_or : ∀ first second expired later : Bool,
      (first || expired || (second || later)) = (first || second || (expired || later)) := by decide
  rw [advance_time_eq channel first, advance_time_eq channel (first + second), advance_time_eq, ← htimer]
  simp only [timer_state, Prod.eta, hleft, hdue, raise_raise, Nat.sub_sub] at hwaits hraised ⊢
  rw [hwaits, hdue_or, ← hraised]

end EthernetChannel

/-! ## The 33 MHz clock -/

/-- Every programmable count of the receive timer is below this. -/
def TIMER_COUNT_LIMIT : Nat := 1 <<< 20

/-- The HPC clock as a divider of virtual time. -/
def hpc_clock : Divider :=
  { numerator := HPC_CLOCK_FREQUENCY
    denominator := ATTOSECONDS_PER_SECOND
    numerator_pos := by decide
    denominator_pos := attoseconds_per_second_pos }

namespace Hpc1

structure WellFormed (hpc1 : Hpc1) : Prop where
  timer : hpc1.ethernet.timer_count < TIMER_COUNT_LIMIT
  counter : hpc1.free_running_counter < FREE_RUNNING_COUNTER_MODULUS
  phase : hpc1.clock_phase < ATTOSECONDS_PER_SECOND

variable {hpc1 : Hpc1}

/-- The whole seconds of a duration and the ticks of its rest are its ticks. -/
theorem ticks_eq (hpc1 : Hpc1) (elapsed : Nat) :
    hpc_clock.ticks hpc1.clock_phase elapsed =
      elapsed / ATTOSECONDS_PER_SECOND * HPC_CLOCK_FREQUENCY +
        hpc1.scaled_partial elapsed / ATTOSECONDS_PER_SECOND ∧
    hpc_clock.carried hpc1.clock_phase elapsed = hpc1.scaled_partial elapsed % ATTOSECONDS_PER_SECOND := by
  have hpos : 0 < ATTOSECONDS_PER_SECOND := by decide
  have hsplit : hpc1.clock_phase + elapsed * HPC_CLOCK_FREQUENCY = hpc1.scaled_partial elapsed +
      ATTOSECONDS_PER_SECOND * (elapsed / ATTOSECONDS_PER_SECOND * HPC_CLOCK_FREQUENCY) := by
    have hdivided := Nat.mod_add_div elapsed ATTOSECONDS_PER_SECOND
    calc hpc1.clock_phase + elapsed * HPC_CLOCK_FREQUENCY
        = hpc1.clock_phase + (elapsed % ATTOSECONDS_PER_SECOND +
            ATTOSECONDS_PER_SECOND * (elapsed / ATTOSECONDS_PER_SECOND)) * HPC_CLOCK_FREQUENCY := by rw [hdivided]
      _ = hpc1.scaled_partial elapsed +
            ATTOSECONDS_PER_SECOND * (elapsed / ATTOSECONDS_PER_SECOND * HPC_CLOCK_FREQUENCY) := by
          unfold scaled_partial
          rw [Nat.add_mul, Nat.mul_assoc]
          omega
  unfold Divider.ticks Divider.carried
  show (hpc1.clock_phase + elapsed * HPC_CLOCK_FREQUENCY) / ATTOSECONDS_PER_SECOND = _ ∧
    (hpc1.clock_phase + elapsed * HPC_CLOCK_FREQUENCY) % ATTOSECONDS_PER_SECOND = _
  rw [hsplit, Nat.add_mul_div_left _ _ hpos, Nat.add_mul_mod_self_left]
  exact ⟨Nat.add_comm _ _, rfl⟩

/-- What the counter adds is all the ticks, as far as its bits go. -/
theorem wrapping_ticks_eq (hpc1 : Hpc1) (elapsed : Nat) :
    (whole_ticks elapsed + hpc1.scaled_partial elapsed / ATTOSECONDS_PER_SECOND % FREE_RUNNING_COUNTER_MODULUS) %
        FREE_RUNNING_COUNTER_MODULUS =
      hpc_clock.ticks hpc1.clock_phase elapsed % FREE_RUNNING_COUNTER_MODULUS := by
  unfold whole_ticks
  rw [(hpc1.ticks_eq elapsed).1, Nat.add_mod, ← Nat.mul_mod, Nat.mod_mod, ← Nat.add_mod]

/-- The ticks the receive timer is given expire it when the ticks that passed do. -/
theorem advance_timer_ticks (h : hpc1.WellFormed) (elapsed : Nat) :
    timer_left hpc1.ethernet.timer_state
        (if elapsed / ATTOSECONDS_PER_SECOND = 0 then hpc1.scaled_partial elapsed / ATTOSECONDS_PER_SECOND
          else 2 ^ 128 - 1) =
      timer_left hpc1.ethernet.timer_state (hpc_clock.ticks hpc1.clock_phase elapsed) := by
  have hlimit : hpc1.ethernet.timer_state.1 < TIMER_COUNT_LIMIT := h.timer
  have hsecond : TIMER_COUNT_LIMIT ≤ HPC_CLOCK_FREQUENCY := by decide
  have hmax : TIMER_COUNT_LIMIT ≤ 2 ^ 128 - 1 := by decide
  rw [(hpc1.ticks_eq elapsed).1]
  split
  · rw [show elapsed / ATTOSECONDS_PER_SECOND = 0 by assumption, Nat.zero_mul, Nat.zero_add]
  · have hwhole : HPC_CLOCK_FREQUENCY ≤ elapsed / ATTOSECONDS_PER_SECOND * HPC_CLOCK_FREQUENCY :=
      Nat.le_mul_of_pos_left _ (Nat.pos_of_ne_zero ‹_›)
    have hticks : TIMER_COUNT_LIMIT ≤ elapsed / ATTOSECONDS_PER_SECOND * HPC_CLOCK_FREQUENCY +
        hpc1.scaled_partial elapsed / ATTOSECONDS_PER_SECOND :=
      Nat.le_add_right_of_le (Nat.le_trans hsecond hwhole)
    have hcount := Nat.le_of_lt hlimit
    exact timer_left_enough (Nat.le_trans hcount hmax) (Nat.le_trans hcount hticks)

theorem advance_time_eq (h : hpc1.WellFormed) (elapsed : Nat) :
    hpc1.advance_time elapsed =
      { ethernet := hpc1.ethernet.advance_time elapsed (hpc_clock.ticks hpc1.clock_phase elapsed)
        free_running_counter :=
          (hpc1.free_running_counter + hpc_clock.ticks hpc1.clock_phase elapsed) % FREE_RUNNING_COUNTER_MODULUS
        clock_phase := hpc_clock.carried hpc1.clock_phase elapsed } := by
  unfold advance_time
  dsimp only
  rw [wrapping_ticks_eq, Nat.add_mod_mod, (hpc1.ticks_eq elapsed).2, EthernetChannel.advance_time_eq,
    EthernetChannel.advance_time_eq, advance_timer_ticks h]

theorem advance_time_well_formed (h : hpc1.WellFormed) (elapsed : Nat) : (hpc1.advance_time elapsed).WellFormed := by
  rw [advance_time_eq h]
  refine ⟨?_, Nat.mod_lt _ (by decide), hpc_clock.carried_lt _ _⟩
  rw [EthernetChannel.advance_time_eq]
  exact Nat.lt_of_le_of_lt (timer_left_le _ _) h.timer

theorem advance_time_add (h : hpc1.WellFormed) (first second : Nat) :
    (hpc1.advance_time first).advance_time second = hpc1.advance_time (first + second) := by
  rw [advance_time_eq (advance_time_well_formed h first), advance_time_eq h, advance_time_eq h]
  simp only [EthernetChannel.advance_time_add, Nat.mod_add_mod, Nat.add_assoc, Divider.ticks_add,
    Divider.carried_add]

/-- Any way of cutting a stretch of time up leaves the same state. -/
theorem advance_time_sum (h : hpc1.WellFormed) (first : Nat) (rest : List Nat) :
    rest.foldl advance_time (hpc1.advance_time first) = hpc1.advance_time (first + rest.sum) := by
  induction rest generalizing first with
  | nil => rfl
  | cons next rest ih =>
    rw [List.foldl_cons, advance_time_add h, ih, List.sum_cons, Nat.add_assoc]

/-! ## The receive timer's deadline -/

/-- A running timer expires at its deadline. -/
theorem timer_expired_iff (h : hpc1.WellFormed) {deadline : Nat}
    (hdeadline : hpc1.ethernet.timer_deadline hpc1.clock_phase = some deadline) (elapsed : Nat) :
    (hpc1.advance_time elapsed).ethernet.timer_expired = decide (deadline ≤ elapsed) := by
  unfold EthernetChannel.timer_deadline at hdeadline
  split at hdeadline
  case isFalse => cases hdeadline
  case isTrue hrunning =>
    obtain rfl := Option.some.inj hdeadline
    simp only [Bool.and_eq_true, Bool.not_eq_true', bne_iff_ne] at hrunning
    obtain ⟨hunexpired, hcount⟩ := hrunning
    have hexact := hpc_clock.wait_le hpc1.clock_phase elapsed hpc1.ethernet.timer_count
    rw [advance_time_eq h, EthernetChannel.advance_time_eq]
    unfold EthernetChannel.timer_state
    rw [hunexpired]
    show (timer_left _ _).2 = _
    rw [timer_left_expired hcount]
    exact decide_eq_decide.mpr hexact.symm

/-- The reported event is the timer's deadline unless another comes first. -/
theorem time_until_event_le_timer {deadline : Nat}
    (hdeadline : hpc1.ethernet.timer_deadline hpc1.clock_phase = some deadline)
    (hheld : hpc1.ethernet.held_in_reset = false) (transmitter_ready : Bool) :
    ∃ event, hpc1.ethernet_time_until_event transmitter_ready = some event ∧ event ≤ deadline ∧
      (hpc1.ethernet.dma_work transmitter_ready = false →
        hpc1.ethernet.transmit_interrupt_delay_attoseconds = none → event = deadline) := by
  have hunexpired : hpc1.ethernet.timer_expired = false := by
    unfold EthernetChannel.timer_deadline at hdeadline
    split at hdeadline
    case isFalse => cases hdeadline
    case isTrue hrunning =>
      simp only [Bool.and_eq_true, Bool.not_eq_true'] at hrunning
      exact hrunning.1
  unfold ethernet_time_until_event EthernetChannel.time_until_event
  rw [hheld, if_neg Bool.false_ne_true, hdeadline, hunexpired]
  generalize hpc1.ethernet.transmit_interrupt_delay_attoseconds = delay
  cases hpc1.ethernet.dma_work transmitter_ready with
  | true =>
    refine ⟨_, rfl, ?_, nofun⟩
    cases delay with
    | none => exact Nat.min_le_right _ _
    | some delay => exact Nat.min_le_right _ _
  | false =>
    cases delay with
    | none => exact ⟨_, rfl, Nat.le_refl _, fun _ _ => rfl⟩
    | some delay => exact ⟨_, rfl, Nat.min_le_right delay deadline, nofun⟩

end Hpc1

/-! ## Runs -/

namespace EthernetChannel

variable {channel : EthernetChannel}

theorem write_timer_limit (value : U32) : (channel.write_timer value).timer_count < TIMER_COUNT_LIMIT := by
  have hmask : (value &&& ETHERNET_TIMER_COUNT_MASK).toNat ≤ ETHERNET_TIMER_COUNT_MASK.toNat := by
    rw [BitVec.toNat_and]
    exact Nat.and_le_right
  have hlimit : ETHERNET_TIMER_COUNT_MASK.toNat / 2 ^ 4 < TIMER_COUNT_LIMIT := by decide
  show ((value &&& ETHERNET_TIMER_COUNT_MASK) >>> 4).toNat < _
  rw [BitVec.toNat_ushiftRight, Nat.shiftRight_eq_div_pow]
  exact Nat.lt_of_le_of_lt (Nat.div_le_div_right hmask) hlimit

theorem write_transmit_status_timer (offset : Nat) (data : List U8) :
    (channel.write_transmit_status offset data).timer_count = channel.timer_count := by
  unfold write_transmit_status
  dsimp only
  split
  · rfl
  · split <;> rfl

theorem write_receive_status_timer (offset : Nat) (data : List U8) :
    (channel.write_receive_status offset data).timer_count = channel.timer_count := by
  unfold write_receive_status
  dsimp only
  split <;> rfl

theorem write_control_timer (offset : Nat) (data : List U8) :
    (channel.write_control offset data).timer_count ≤ channel.timer_count := by
  unfold write_control
  dsimp only
  generalize (if offset + data.length = 4 then _ else channel.control) = control
  split
  · exact Nat.zero_le _
  · exact Nat.le_refl _

theorem accept_receive_frame_timer (bytes : List U8) (status : U8) (interrupt_requested : Bool) :
    (channel.accept_receive_frame bytes status interrupt_requested).timer_count = channel.timer_count := by
  unfold accept_receive_frame
  dsimp only
  split <;> rfl

theorem receive_request_timer : channel.receive_request.2.timer_count = channel.timer_count := by
  have hfrom : ∀ (again : EthernetChannel → Option EthernetRequest × EthernetChannel) (channel : EthernetChannel),
      (∀ channel, (again channel).2.timer_count = channel.timer_count) →
        (receive_request_from again channel).2.timer_count = channel.timer_count := by
    intro again channel hagain
    unfold receive_request_from
    split
    · rfl
    · split
      · rfl
      · rfl
      · dsimp only
        split
        · exact hagain _
        · rfl
      · rfl
  unfold receive_request
  exact hfrom _ _ fun channel => hfrom _ _ fun _ => rfl

theorem transmit_request_timer (ready : Bool) :
    (channel.transmit_request ready).2.timer_count = channel.timer_count := by
  have hfrom : ∀ (again : EthernetChannel → Option EthernetRequest × EthernetChannel) (channel : EthernetChannel),
      (∀ channel, (again channel).2.timer_count = channel.timer_count) →
        (transmit_request_from ready again channel).2.timer_count = channel.timer_count := by
    intro again channel hagain
    unfold transmit_request_from
    split
    · rfl
    · split
      · rfl
      · split
        · rfl
        · split
          · rfl
          · rfl
          · rfl
          · rfl
          · split
            · exact hagain _
            · rfl
          · split <;> rfl
  unfold transmit_request
  exact hfrom _ _ fun channel => hfrom _ _ fun _ => rfl

theorem next_request_timer (transmitter_ready : Bool) :
    (channel.next_request transmitter_ready).2.timer_count = channel.timer_count := by
  unfold next_request
  split
  · rfl
  · dsimp only
    split
    · have hreceive := @receive_request_timer { channel with prefer_receive := !channel.prefer_receive }
      split
      · rename_i heq
        rw [heq] at hreceive
        exact hreceive
      · rename_i heq
        rw [heq] at hreceive
        exact (transmit_request_timer _).trans hreceive
    · have htransmit := @transmit_request_timer { channel with prefer_receive := !channel.prefer_receive }
        transmitter_ready
      split
      · rename_i heq
        rw [heq] at htransmit
        exact htransmit
      · rename_i heq
        rw [heq] at htransmit
        exact receive_request_timer.trans htransmit

theorem fail_read_timer (kind : EthernetReadKind) : (channel.fail_read kind).timer_count = channel.timer_count := by
  cases kind <;> rfl

theorem complete_read_timer (kind : EthernetReadKind) (data : Option (List U8)) :
    (channel.complete_read kind data).timer_count = channel.timer_count := by
  unfold complete_read
  cases data with
  | none => exact fail_read_timer kind
  | some data =>
    dsimp only
    split
    · split
      · exact fail_read_timer .TransmitData
      · rfl
    · split
      · exact fail_read_timer .ReceiveDescriptor
      · unfold load_receive_descriptor
        split <;> rfl
    · split
      · exact fail_read_timer .TransmitDescriptor
      · rfl

theorem complete_write_timer (kind : EthernetWriteKind) (length : Nat) (success : Bool) :
    (channel.complete_write kind length success).timer_count = channel.timer_count := by
  unfold complete_write
  dsimp only
  split
  · rfl
  · cases kind <;> rfl

theorem complete_transmit_timer (status : U8) (interrupt : Bool) :
    (channel.complete_transmit status interrupt).timer_count = channel.timer_count := by
  fun_cases complete_transmit <;> rfl

end EthernetChannel

namespace Hpc1

variable {hpc1 : Hpc1}

theorem new_well_formed : new.WellFormed := ⟨by decide, by decide, by decide⟩

/-- An operation of the channel that does not raise the timer's count. -/
theorem WellFormed.with_ethernet (h : hpc1.WellFormed) {ethernet : EthernetChannel}
    (hle : ethernet.timer_count ≤ hpc1.ethernet.timer_count) : ({ hpc1 with ethernet } : Hpc1).WellFormed :=
  ⟨Nat.lt_of_le_of_lt hle h.timer, h.counter, h.phase⟩

theorem step_well_formed (h : hpc1.WellFormed) (event : Hpc1Event) : (hpc1.step event).WellFormed := by
  cases event with
  | Reset => exact new_well_formed
  | WriteTransmitStatus offset data =>
    exact h.with_ethernet (Nat.le_of_eq (EthernetChannel.write_transmit_status_timer offset data))
  | WriteControl offset data => exact h.with_ethernet (EthernetChannel.write_control_timer offset data)
  | WriteTransmitRegister register offset data =>
    apply h.with_ethernet
    cases register <;> exact Nat.le_refl _
  | WriteReceiveStatus offset data =>
    exact h.with_ethernet (Nat.le_of_eq (EthernetChannel.write_receive_status_timer offset data))
  | WriteReceiveRegister register offset data =>
    apply h.with_ethernet
    cases register <;> exact Nat.le_refl _
  | WriteTimer value => exact ⟨EthernetChannel.write_timer_limit value, h.counter, h.phase⟩
  | ReceiveFrame bytes status interrupt_requested =>
    exact h.with_ethernet (Nat.le_of_eq (EthernetChannel.accept_receive_frame_timer bytes status interrupt_requested))
  | NextRequest transmitter_ready =>
    exact h.with_ethernet (Nat.le_of_eq (EthernetChannel.next_request_timer transmitter_ready))
  | CompleteRead kind data => exact h.with_ethernet (Nat.le_of_eq (EthernetChannel.complete_read_timer kind data))
  | CompleteWrite kind length success =>
    exact h.with_ethernet (Nat.le_of_eq (EthernetChannel.complete_write_timer kind length success))
  | CompleteTransmit status interrupt =>
    exact h.with_ethernet (Nat.le_of_eq (EthernetChannel.complete_transmit_timer status interrupt))
  | TakeReset => exact h.with_ethernet (Nat.le_refl _)
  | AdvanceTime elapsed => exact advance_time_well_formed h elapsed

theorem run_well_formed (h : hpc1.WellFormed) (events : List Hpc1Event) : (hpc1.run events).WellFormed := by
  unfold run
  induction events generalizing hpc1 with
  | nil => exact h
  | cons event rest ih => exact ih (step_well_formed h event)

/-- The intermediate products of an advance fit 128 bits. -/
theorem advance_time_fits (h : hpc1.WellFormed) (elapsed : Nat) :
    hpc1.scaled_partial elapsed < 2 ^ 128 ∧ whole_ticks elapsed + FREE_RUNNING_COUNTER_MODULUS < 2 ^ 128 ∧
      hpc1.ethernet.timer_count * ATTOSECONDS_PER_SECOND + HPC_CLOCK_FREQUENCY < 2 ^ 128 := by
  have hpartial : elapsed % ATTOSECONDS_PER_SECOND < ATTOSECONDS_PER_SECOND := Nat.mod_lt _ (by decide)
  have hwhole : elapsed / ATTOSECONDS_PER_SECOND % FREE_RUNNING_COUNTER_MODULUS < FREE_RUNNING_COUNTER_MODULUS :=
    Nat.mod_lt _ (by decide)
  refine ⟨?_, ?_, ?_⟩
  · have hscaled : elapsed % ATTOSECONDS_PER_SECOND * HPC_CLOCK_FREQUENCY ≤
        ATTOSECONDS_PER_SECOND * HPC_CLOCK_FREQUENCY := Nat.mul_le_mul_right _ (Nat.le_of_lt hpartial)
    have hlimit : ATTOSECONDS_PER_SECOND * HPC_CLOCK_FREQUENCY + ATTOSECONDS_PER_SECOND < 2 ^ 128 := by decide
    exact Nat.lt_trans (Nat.add_lt_add_of_le_of_lt hscaled h.phase) hlimit
  · have hscaled : whole_ticks elapsed ≤
        FREE_RUNNING_COUNTER_MODULUS * (HPC_CLOCK_FREQUENCY % FREE_RUNNING_COUNTER_MODULUS) :=
      Nat.mul_le_mul_right _ (Nat.le_of_lt hwhole)
    have hlimit : FREE_RUNNING_COUNTER_MODULUS * (HPC_CLOCK_FREQUENCY % FREE_RUNNING_COUNTER_MODULUS) +
        FREE_RUNNING_COUNTER_MODULUS < 2 ^ 128 := by decide
    exact Nat.lt_of_le_of_lt (Nat.add_le_add_right hscaled _) hlimit
  · have hscaled : hpc1.ethernet.timer_count * ATTOSECONDS_PER_SECOND ≤
        TIMER_COUNT_LIMIT * ATTOSECONDS_PER_SECOND := Nat.mul_le_mul_right _ (Nat.le_of_lt h.timer)
    have hlimit : TIMER_COUNT_LIMIT * ATTOSECONDS_PER_SECOND + HPC_CLOCK_FREQUENCY < 2 ^ 128 := by decide
    exact Nat.lt_of_le_of_lt (Nat.add_le_add_right hscaled _) hlimit

end Hpc1

end se_device.hpc1
