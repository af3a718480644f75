import SgiEmu.Board.Graphics.Fragmentation

open se_core se_device.pic1 Library.Clocked

namespace se_device.pic1.GraphicsDescriptor

variable (descriptor : GraphicsDescriptor)

/-! ## What a descriptor asks for -/

/-- The bytes of a line, rounded up to words. -/
def transfer_bytes : Nat := (descriptor.line_width.toNat + 3) / 4 * 4

def memory_line_increment : U32 :=
  descriptor.line_width + sign_extend_12 (descriptor.stride >>> GRAPHICS_DMA_GRAPHICS_STRIDE_SHIFT)

def gio_line_increment : U32 :=
  (if descriptor.buffer_length &&& GRAPHICS_DMA_LINE_INCREMENT ≠ 0 then descriptor.line_width else 0) +
    (if descriptor.buffer_length &&& GRAPHICS_DMA_STRIDE_INCREMENT ≠ 0 then
      sign_extend_12 (descriptor.buffer_length >>> GRAPHICS_DMA_GRAPHICS_STRIDE_SHIFT)
    else 0)

/-- The low half of the stride, and one. -/
def lines : Nat := (descriptor.stride.setWidth 16).toNat + 1

def last : Bool := descriptor.buffer_length &&& GRAPHICS_DMA_LAST_DESCRIPTOR != 0

def next : U32 := descriptor.next_descriptor &&& DESCRIPTOR_ADDRESS_MASK

theorem line_width_le : descriptor.line_width.toNat ≤ GRAPHICS_DMA_PAGE_BYTES := by
  unfold line_width
  split
  · decide
  · rw [BitVec.toNat_and]
    exact Nat.le_trans Nat.and_le_right (by decide)

theorem transfer_bytes_eq : ((gio_transfer_bytes descriptor.line_width).setWidth 16).toNat = descriptor.transfer_bytes := by
  have hwidth := descriptor.line_width_le
  unfold GRAPHICS_DMA_PAGE_BYTES at hwidth
  unfold gio_transfer_bytes transfer_bytes
  rw [BitVec.toNat_setWidth, BitVec.toNat_ofNat]
  omega

end se_device.pic1.GraphicsDescriptor

namespace se_machine.ip12

open GraphicsDmaChannel

/-! ## Chains -/

/-- The transfer of one line of a descriptor. -/
def line_event (descriptor : GraphicsDescriptor) (direction : GraphicsDmaDirection) (line : Nat) (success : Bool) :
    GraphicsEvent :=
  .TransferLine direction (descriptor.buffer_address + BitVec.ofNat 32 line * descriptor.memory_line_increment)
    (descriptor.destination_address + BitVec.ofNat 32 line * descriptor.gio_line_increment) descriptor.transfer_bytes
    success

/-- How far a chain has come. -/
inductive ChainPhase where
  | Reading (address : U32)
  | Lines (descriptor : GraphicsDescriptor) (direction : GraphicsDmaDirection) (line : Nat)
  | Ended (error : Bool)

/-- The descriptor reads and line transfers of a chain from its first descriptor on. -/
inductive Chain (start : U32) : List GraphicsEvent → ChainPhase → Prop where
  | start : Chain start [] (.Reading start)
  | misplaced {events : List GraphicsEvent} {address : U32} :
    Chain start events (.Reading address) → misplaced address = true → Chain start events (.Ended true)
  | unreadable {events : List GraphicsEvent} {address : U32} :
    Chain start events (.Reading address) → GraphicsDmaChannel.misplaced address = false →
    Chain start (events ++ [.ReadDescriptor address none]) (.Ended true)
  | mode {events : List GraphicsEvent} {address : U32} {bytes : Vector U8 20} :
    Chain start events (.Reading address) → GraphicsDmaChannel.misplaced address = false →
    (GraphicsDescriptor.from_be_bytes bytes).direction = none →
    Chain start (events ++ [.ReadDescriptor address (some bytes)]) (.Ended true)
  | read {events : List GraphicsEvent} {address : U32} {bytes : Vector U8 20} {direction : GraphicsDmaDirection} :
    Chain start events (.Reading address) → GraphicsDmaChannel.misplaced address = false →
    (GraphicsDescriptor.from_be_bytes bytes).direction = some direction →
    Chain start (events ++ [.ReadDescriptor address (some bytes)])
      (.Lines (GraphicsDescriptor.from_be_bytes bytes) direction 0)
  | fault {events : List GraphicsEvent} {descriptor : GraphicsDescriptor} {direction : GraphicsDmaDirection} {line : Nat} :
    Chain start events (.Lines descriptor direction line) →
    Chain start (events ++ [line_event descriptor direction line false]) (.Ended true)
  | line {events : List GraphicsEvent} {descriptor : GraphicsDescriptor} {direction : GraphicsDmaDirection} {line : Nat} :
    Chain start events (.Lines descriptor direction line) → line + 1 < descriptor.lines →
    Chain start (events ++ [line_event descriptor direction line true]) (.Lines descriptor direction (line + 1))
  | next {events : List GraphicsEvent} {descriptor : GraphicsDescriptor} {direction : GraphicsDmaDirection} {line : Nat} :
    Chain start events (.Lines descriptor direction line) → line + 1 = descriptor.lines → descriptor.last = false →
    Chain start (events ++ [line_event descriptor direction line true]) (.Reading descriptor.next)
  | last {events : List GraphicsEvent} {descriptor : GraphicsDescriptor} {direction : GraphicsDmaDirection} {line : Nat} :
    Chain start events (.Lines descriptor direction line) → line + 1 = descriptor.lines → descriptor.last = true →
    Chain start (events ++ [line_event descriptor direction line true]) (.Ended false)

/-- The channel stands where the chain does. -/
def At : ChainPhase → GraphicsDmaChannel → Prop
  | .Reading address, channel =>
    (channel.stage = .Descriptor ∨ channel.stage = .WaitingForSync) ∧ channel.descriptor_address = address
  | .Lines descriptor direction line, channel =>
    channel.stage = .Line ∧ channel.direction = direction ∧
      channel.line_memory_address = descriptor.buffer_address + BitVec.ofNat 32 line * descriptor.memory_line_increment ∧
      channel.line_gio_address = descriptor.destination_address + BitVec.ofNat 32 line * descriptor.gio_line_increment ∧
      channel.line_transfer_bytes.toNat = descriptor.transfer_bytes ∧
      channel.memory_line_increment = descriptor.memory_line_increment ∧
      channel.gio_line_increment = descriptor.gio_line_increment ∧
      channel.lines_remaining + line = descriptor.lines ∧ 0 < channel.lines_remaining ∧
      channel.last_descriptor = descriptor.last ∧ channel.next_descriptor_address = descriptor.next
  | .Ended error, channel => channel.stage = .Idle ∧ channel.error = error

/-- A chain has come so far and the channel stands there. -/
def Follows (start : U32) (events : List GraphicsEvent) (channel : GraphicsDmaChannel) : Prop :=
  ∃ phase, Chain start events phase ∧ At phase channel

theorem At.with_times {phase : ChainPhase} {channel : GraphicsDmaChannel} (h : At phase channel) (delay credit : Nat) :
    At phase (channel.with_times delay credit) := by
  cases phase <;> exact h

theorem add_line (base increment : U32) (line : Nat) :
    base + BitVec.ofNat 32 line * increment + increment = base + BitVec.ofNat 32 (line + 1) * increment := by
  rw [BitVec.ofNat_add, BitVec.add_mul, BitVec.add_assoc]
  congr 1
  congr 1
  exact (BitVec.one_mul increment).symm

namespace GraphicsPath

variable {ε : Type} {board : GraphicsBoard ε} {path : GraphicsPath ε} {start : U32} {events : List GraphicsEvent}

/-- One service follows the chain. -/
theorem service_follows (hdue : path.due = true) (h : Follows start events path.channel) :
    Follows start (events ++ (path.service_graphics_dma_request board).1)
      (path.service_graphics_dma_request board).2.channel := by
  obtain ⟨htimed, hdelay⟩ := due_iff.mp hdue
  obtain ⟨phase, hchain, hat⟩ := h
  cases phase with
  | Ended error =>
    obtain ⟨hstage, _⟩ := hat
    simp [timed, hstage] at htimed
  | Reading address =>
    obtain ⟨hstage | hstage, rfl⟩ := hat
    · by_cases hmisplaced : misplaced path.channel.descriptor_address = true
      · rw [service_misplaced hdelay hstage hmisplaced, List.append_nil]
        exact ⟨_, .misplaced hchain hmisplaced, rfl, rfl⟩
      · have hplaced := Bool.eq_false_iff.mpr hmisplaced
        rw [service_descriptor hdelay hstage hplaced]
        dsimp only
        cases hread : (board.read_dma path.env path.channel.descriptor_address 20).1 with
        | none => exact ⟨_, .unreadable hchain hplaced, rfl, rfl⟩
        | some bytes =>
          cases hdirection : (GraphicsDescriptor.from_be_bytes bytes).direction with
          | none =>
            refine ⟨_, .mode hchain hplaced hdirection, ?_⟩
            simp only [complete_descriptor, hdirection]
            exact ⟨rfl, rfl⟩
          | some direction =>
            refine ⟨_, .read hchain hplaced hdirection, ?_⟩
            have hbytes := (GraphicsDescriptor.from_be_bytes bytes).transfer_bytes_eq
            simp only [complete_descriptor, hdirection]
            refine ⟨rfl, rfl, ?_, ?_, hbytes, rfl, rfl, rfl, Nat.succ_pos _, rfl, rfl⟩
            · rw [BitVec.ofNat_eq_ofNat, BitVec.zero_mul, BitVec.add_zero]
              rfl
            · rw [BitVec.ofNat_eq_ofNat, BitVec.zero_mul, BitVec.add_zero]
              rfl
    · simp [timed, hstage] at htimed
  | Lines descriptor direction line =>
    obtain ⟨hstage, rfl, hmemory, hgio, hlength, hmemory_increment, hgio_increment, hlines, hpositive, hlast, hnext⟩ := hat
    rw [service_line hdelay hstage, hmemory, hgio, hlength]
    dsimp only
    cases (transfer_line board path).1 with
    | false => exact ⟨_, .fault hchain, rfl, rfl⟩
    | true =>
      unfold complete_line
      simp only [Bool.not_true, Bool.false_eq_true, if_false]
      by_cases hmore : path.channel.lines_remaining > 1
      · rw [if_pos hmore]
        refine ⟨_, .line hchain (by omega), hstage, rfl, ?_, ?_, hlength, hmemory_increment, hgio_increment, ?_, ?_, hlast,
          hnext⟩
        · simp only [set_delay, hmemory, hmemory_increment]
          exact add_line _ _ _
        · simp only [set_delay, hgio, hgio_increment]
          exact add_line _ _ _
        · simp only [set_delay]
          omega
        · simp only [set_delay]
          omega
      · rw [if_neg hmore]
        have hend : line + 1 = descriptor.lines := by omega
        by_cases hfinal : path.channel.last_descriptor = true
        · rw [if_pos hfinal]
          exact ⟨_, .last hchain hend (hlast.symm.trans hfinal), rfl, rfl⟩
        · rw [if_neg hfinal]
          have hfinal := Bool.eq_false_iff.mpr hfinal
          refine ⟨_, .next hchain hend (hlast.symm.trans hfinal), Or.inl rfl, ?_⟩
          exact hnext

theorem serve_follows (h : Follows start events path.channel) :
    Follows start (events ++ (path.serve board).1) (path.serve board).2.channel := by
  induction hmeasure : path.measure using Nat.strongRecOn generalizing path events with
  | ind credit ih =>
    by_cases hdue : path.due = true
    · have hserviced := @service_follows ε board path start events hdue h
      have hless := @service_measure ε board path hdue
      rw [hmeasure] at hless
      have hrest := ih _ hless hserviced rfl
      rw [List.append_assoc] at hrest
      rw [serve_due hdue]
      exact hrest
    · rw [serve_idle hdue, List.append_nil]
      exact h

theorem run_follows {pieces : List Nat} (h : Follows start events path.channel) :
    Follows start (events ++ (path.run board pieces).1) (path.run board pieces).2.channel := by
  induction pieces generalizing path events with
  | nil =>
    rw [run, List.append_nil]
    exact h
  | cons elapsed rest ih =>
    have hadvanced : Follows start events (path.channel.advance_time elapsed) := by
      obtain ⟨phase, hchain, hat⟩ := h
      refine ⟨phase, hchain, ?_⟩
      unfold advance_time
      split
      · exact hat
      · split
        · exact hat.with_times _ _
        · exact hat.with_times _ _
    have hfirst : Follows start (events ++ (path.elapse_time board elapsed).1) (path.elapse_time board elapsed).2.channel :=
      serve_follows hadvanced
    have hrest := ih hfirst
    rw [List.append_assoc] at hrest
    exact hrest

/-! ## A chain from its start -/

theorem start_settled {channel : GraphicsDmaChannel} (hidle : channel.idle = true) (address : U32)
    (sync_enabled sync_asserted : Bool) : (channel.start address sync_enabled sync_asserted).Settled := by
  unfold GraphicsDmaChannel.start
  rw [hidle]
  simp only [Bool.not_true, Bool.false_eq_true, if_false]
  split
  · exact ⟨rfl, by simp [timed]⟩
  · exact settled_set_delay rfl rfl (by decide)

theorem start_follows {channel : GraphicsDmaChannel} (hidle : channel.idle = true) (address : U32)
    (sync_enabled sync_asserted : Bool) : Follows address [] (channel.start address sync_enabled sync_asserted) := by
  refine ⟨_, .start, ?_⟩
  unfold GraphicsDmaChannel.start
  rw [hidle]
  simp only [Bool.not_true, Bool.false_eq_true, if_false]
  split
  · exact ⟨Or.inr rfl, rfl⟩
  · exact ⟨Or.inl rfl, rfl⟩

/-- An ended chain stays ended. -/
theorem run_idle (hidle : path.channel.idle = true) (pieces : List Nat) : path.run board pieces = ([], path) := by
  have htimed : path.channel.timed = false := by
    unfold idle at hidle
    have hstage : path.channel.stage = .Idle := by simpa using hidle
    unfold timed
    rw [hstage]
    rfl
  induction pieces with
  | nil => rfl
  | cons elapsed rest ih =>
    have hadvanced : ({ path with channel := path.channel.advance_time elapsed } : GraphicsPath ε) = path := by
      simp only [advance_time, htimed, Bool.not_false, if_true]
    have hlater : path.due ≠ true := by
      rw [Ne, due_iff, htimed]
      simp
    have hfirst : path.elapse_time board elapsed = ([], path) := by
      unfold elapse_time
      rw [hadvanced, serve_idle hlater]
    rw [run, hfirst]
    dsimp only
    rw [ih]
    rfl

/-! ## Progress -/

/-- No delay of the channel is longer: a line length is a `u16`. -/
def LONGEST_DELAY_ATTOSECONDS : Nat := GRAPHICS_DMA_CYCLE_ATTOSECONDS * 2 ^ 14

theorem line_delay_le {transfer_bytes : Nat} (h : transfer_bytes < 2 ^ 16) :
    line_delay_attoseconds transfer_bytes ≤ LONGEST_DELAY_ATTOSECONDS := by
  unfold line_delay_attoseconds LONGEST_DELAY_ATTOSECONDS
  dsimp only
  apply Nat.mul_le_mul_left
  split <;> omega

theorem set_delay_le (channel : GraphicsDmaChannel) {delay : Nat} (h : delay ≤ LONGEST_DELAY_ATTOSECONDS) :
    (channel.set_delay delay).delay_attoseconds ≤ LONGEST_DELAY_ATTOSECONDS :=
  Nat.le_trans (Nat.sub_le _ _) h

theorem complete_line_le (channel : GraphicsDmaChannel) (success : Bool) :
    (channel.complete_line success).delay_attoseconds ≤ LONGEST_DELAY_ATTOSECONDS := by
  unfold complete_line
  split
  case isTrue => exact Nat.zero_le _
  case isFalse =>
    split
    case isTrue => exact set_delay_le _ (line_delay_le channel.line_transfer_bytes.isLt)
    case isFalse =>
      split
      case isTrue => exact Nat.zero_le _
      case isFalse => exact set_delay_le _ (by decide)

theorem complete_descriptor_le (channel : GraphicsDmaChannel) (descriptor : Option (Vector U8 20)) :
    (channel.complete_descriptor descriptor).delay_attoseconds ≤ LONGEST_DELAY_ATTOSECONDS := by
  cases descriptor with
  | none => exact Nat.zero_le _
  | some bytes =>
    unfold complete_descriptor
    dsimp only
    cases (GraphicsDescriptor.from_be_bytes bytes).direction with
    | none => exact Nat.zero_le _
    | some direction =>
      apply set_delay_le
      apply line_delay_le
      have hwidth := (GraphicsDescriptor.from_be_bytes bytes).line_width_le
      unfold GRAPHICS_DMA_PAGE_BYTES at hwidth
      unfold gio_transfer_bytes
      rw [BitVec.toNat_ofNat]
      omega

/-- A service shows a request or ends the channel, and the delay that follows is no longer
than the longest. -/
theorem service_progress (hdue : path.due = true) :
    (path.service_graphics_dma_request board).2.channel.delay_attoseconds ≤ LONGEST_DELAY_ATTOSECONDS ∧
      ((path.service_graphics_dma_request board).1 ≠ [] ∨
        (path.service_graphics_dma_request board).2.channel.timed = false) := by
  obtain ⟨htimed, hdelay⟩ := due_iff.mp hdue
  cases hstage : path.channel.stage with
  | Idle => simp [timed, hstage] at htimed
  | WaitingForSync => simp [timed, hstage] at htimed
  | Descriptor =>
    by_cases hmisplaced : misplaced path.channel.descriptor_address = true
    · rw [service_misplaced hdelay hstage hmisplaced]
      exact ⟨Nat.zero_le _, Or.inr rfl⟩
    · rw [service_descriptor hdelay hstage (Bool.eq_false_iff.mpr hmisplaced)]
      exact ⟨complete_descriptor_le _ _, Or.inl (List.cons_ne_nil _ _)⟩
  | Line =>
    rw [service_line hdelay hstage]
    exact ⟨complete_line_le _ _, Or.inl (List.cons_ne_nil _ _)⟩

/-- A clock that stands still for no longer than the longest delay. -/
def Soon (clock : Clock (GraphicsPath ε)) : Prop :=
  Bare clock ∧ ∀ delay, clock.remaining = some delay → delay.val ≤ LONGEST_DELAY_ATTOSECONDS

theorem soon_clock_of (hsettled : path.channel.Settled)
    (hdelay : path.channel.delay_attoseconds ≤ LONGEST_DELAY_ATTOSECONDS) : Soon (clock_of path) := by
  refine ⟨bare_clock_of hsettled, fun delay hremaining => ?_⟩
  by_cases htimed : path.channel.timed = true
  · rw [remaining_of_timed hsettled htimed] at hremaining
    cases hremaining
    exact hdelay
  · rw [remaining_of_untimed hsettled htimed] at hremaining
    cases hremaining

theorem soon_fire {clock : Clock (GraphicsPath ε)} (h : Soon clock) (hremaining : clock.remaining ≠ none) :
    Soon (fire board clock.state).2 ∧
      ((fire board clock.state).1 ≠ [] ∨ (fire board clock.state).2.remaining = none) := by
  have htimed := h.1.2.mpr hremaining
  have hdue : (clock.state.with_times 0 0).due = true := due_iff.mpr ⟨htimed, rfl⟩
  have hsettled := (@service_credit ε board clock.state htimed 0).2
  obtain ⟨hdelay, hprogress⟩ := @service_progress ε board _ hdue
  rw [h.1.1] at hsettled hdelay hprogress
  refine ⟨soon_clock_of hsettled hdelay, hprogress.imp_right fun hended => ?_⟩
  exact remaining_of_untimed hsettled (Bool.eq_false_iff.mp hended)

/-- Time goes on serving the chain: after any number of longest delays the channel has
served as many requests, or it stands idle or waits for the retrace signal. -/
theorem run_progress {pieces : List Nat} (hsettled : path.channel.Settled)
    (hdelay : path.channel.delay_attoseconds ≤ LONGEST_DELAY_ATTOSECONDS)
    (hbound : ∀ elapsed ∈ pieces, elapsed ≤ U128_MAX) {count : Nat}
    (helapsed : count * LONGEST_DELAY_ATTOSECONDS ≤ pieces.sum) :
    count ≤ (path.run board pieces).1.length ∨ (path.run board pieces).2.channel.timed = false := by
  have hsoon := soon_clock_of hsettled hdelay
  have hbare := @bare_elapse ε board pieces.sum _ hsoon.1
  rw [run_eq hsettled hbound]
  refine (elapse_progress (fun h => h.2 _) soon_fire hsoon helapsed).imp_right fun hended => ?_
  exact Bool.eq_false_iff.mpr fun htimed => hbare.2.mp htimed hended

/-- However the same time is cut into pieces, the channel serves the same requests with the
same results and ends in the same state; the requests are those of the chain of descriptors
from the start address, and a chain that has ended is idle, with DMAERR exactly when it
faulted, and serves nothing more. -/
theorem run_fragmented (board : GraphicsBoard ε) {channel : GraphicsDmaChannel} (hidle : channel.idle = true) (env : ε)
    (address : U32) (sync_enabled sync_asserted : Bool) {first second : List Nat}
    (hfirst : ∀ elapsed ∈ first, elapsed ≤ U128_MAX) (hsecond : ∀ elapsed ∈ second, elapsed ≤ U128_MAX)
    (hsum : first.sum = second.sum) :
    let path : GraphicsPath ε := { channel := channel.start address sync_enabled sync_asserted, env }
    path.run board first = path.run board second ∧
      Follows address (path.run board first).1 (path.run board first).2.channel ∧
      ((path.run board first).2.channel.idle = true →
        ∀ pieces, (path.run board first).2.run board pieces = ([], (path.run board first).2)) := by
  intro path
  have hsettled : path.channel.Settled := start_settled hidle address sync_enabled sync_asserted
  refine ⟨?_, ?_, fun hended pieces => run_idle hended pieces⟩
  · rw [run_eq hsettled hfirst, run_eq hsettled hsecond, hsum]
  · have hstart : Follows address [] path.channel := start_follows hidle address sync_enabled sync_asserted
    exact run_follows hstart

/-- A board with two descriptors in memory, the first of two lines of eight bytes and the
second of one, and a device that answers every read and keeps no write. -/
def two_descriptors_board : GraphicsBoard (List (U32 × List U8)) where
  Slot := Unit
  route address := some ((), address)
  read_dma written address length :=
    if address = 0x1000#32 then
      (some (Vector.ofFn fun byte : Fin length => [0x00, 0x00, 0x40, 0x00, 0x80, 0x10, 0x20, 0x08, 0x1f, 0x00, 0x00, 0x00,
        0x00, 0x08, 0x00, 0x01, 0x00, 0x00, 0x20, 0x00].getD byte 0), written)
    else if address = 0x2000#32 then
      (some (Vector.ofFn fun byte : Fin length => [0x00, 0x00, 0x60, 0x00, 0x00, 0x00, 0xa0, 0x05, 0x1f, 0x00, 0x01, 0x00,
        0x00, 0x00, 0x00, 0x00, 0x00, 0x00, 0x10, 0x00].getD byte 0), written)
    else (none, written)
  write_dma written address bytes := (true, written ++ [(address, bytes)])
  gio_read_dma written _ address length := (some (Vector.replicate length (address.setWidth 8)), written)
  gio_write_dma written _ _ _ := (true, written)

/-- Two descriptors served over a second, in one piece and in five that end inside the
delays: the same requests, in the order of the chain, and an idle channel after the last. -/
theorem run_fragmented_two_descriptors :
    let path : GraphicsPath (List (U32 × List U8)) :=
      { channel := GraphicsDmaChannel.new.start 0x1000#32 false false, env := [] }
    let whole := path.run two_descriptors_board [1000000000000000000]
    whole = path.run two_descriptors_board [1, 151515151519, 60606060608, 303030303030, 999999484848484842] ∧
      Follows 0x1000#32 whole.1 whole.2.channel ∧
      (∀ pieces, whole.2.run two_descriptors_board pieces = ([], whole.2)) ∧
      whole.1.map (fun event => match event with
        | .ReadDescriptor address _ => (address, 0)
        | .TransferLine _ memory_address _ length _ => (memory_address, length)) =
        [(0x1000#32, 0), (0x4000#32, 8), (0x4010#32, 8), (0x2000#32, 0), (0x6000#32, 8)] := by
  have hrun := @run_fragmented _ two_descriptors_board GraphicsDmaChannel.new rfl [] 0x1000#32 false false
    [1000000000000000000] [1, 151515151519, 60606060608, 303030303030, 999999484848484842] (by decide) (by decide)
    (by decide)
  exact ⟨hrun.1, hrun.2.1, hrun.2.2 (by decide +kernel), by decide +kernel⟩

end GraphicsPath

end se_machine.ip12
