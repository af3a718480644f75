import SgiEmu.Board.Graphics
import SgiEmu.Library.Clocked

open se_core se_device.pic1 Library.Clocked

namespace se_device.pic1.GraphicsDmaChannel

variable {channel : GraphicsDmaChannel}

/-! ## Delay and credit -/

/-- The channel with other times. -/
def with_times (channel : GraphicsDmaChannel) (delay_attoseconds elapsed_credit_attoseconds : Nat) :
    GraphicsDmaChannel :=
  { channel with delay_attoseconds, elapsed_credit_attoseconds }

/-- What a credit leaves of the delay a channel has been given. -/
def settle (channel : GraphicsDmaChannel) (credit : Nat) : GraphicsDmaChannel :=
  if channel.timed then
    channel.with_times (channel.delay_attoseconds - min channel.delay_attoseconds credit)
      (credit - min channel.delay_attoseconds credit)
  else channel

theorem cycle_pos : 0 < GRAPHICS_DMA_CYCLE_ATTOSECONDS := by decide

theorem line_delay_pos (transfer_bytes : Nat) : 0 < line_delay_attoseconds transfer_bytes := by
  unfold line_delay_attoseconds
  dsimp only
  apply Nat.mul_pos cycle_pos
  split
  · exact Nat.one_pos
  · omega

/-- A channel between its events: no credit is left, and only a delay that runs is set. -/
structure Settled (channel : GraphicsDmaChannel) : Prop where
  credit : channel.elapsed_credit_attoseconds = 0
  delay : channel.timed = true ↔ 0 < channel.delay_attoseconds

theorem settled_finish (channel : GraphicsDmaChannel) (error : Bool) : (channel.finish error).Settled :=
  ⟨rfl, by simp [finish, timed]⟩

theorem settled_set_delay {delay : Nat} (hcredit : channel.elapsed_credit_attoseconds = 0) (htimed : channel.timed = true)
    (hdelay : 0 < delay) : (channel.set_delay delay).Settled := by
  refine ⟨?_, ?_⟩
  · simp only [set_delay, hcredit, Nat.min_zero, Nat.sub_zero]
  · simp only [set_delay, hcredit, Nat.min_zero, Nat.sub_zero, timed] at htimed ⊢
    exact iff_of_true htimed hdelay

/-- Setting a delay over a credit settles the delay set without one. -/
theorem set_delay_credit {bare : GraphicsDmaChannel} {delay credit : Nat}
    (hchannel : channel = bare.with_times bare.delay_attoseconds credit) (hbare : bare.elapsed_credit_attoseconds = 0)
    (htimed : bare.timed = true) : channel.set_delay delay = (bare.set_delay delay).settle credit := by
  have hset : (bare.set_delay delay).timed = true := htimed
  unfold settle
  rw [if_pos hset, hchannel]
  simp only [set_delay, with_times, hbare, Nat.min_zero, Nat.sub_zero]

theorem complete_line_credit (channel : GraphicsDmaChannel) (success : Bool) (credit : Nat) (hline : channel.stage = .Line) :
    (channel.with_times 0 credit).complete_line success = ((channel.with_times 0 0).complete_line success).settle credit ∧
      ((channel.with_times 0 0).complete_line success).Settled := by
  have htimed : channel.timed = true := by
    unfold timed
    rw [hline]
    rfl
  unfold complete_line
  by_cases hsuccess : success = true
  · subst hsuccess
    simp only [Bool.not_true, Bool.false_eq_true, if_false]
    by_cases hlines : channel.lines_remaining > 1
    · have hmore : (channel.with_times 0 credit).lines_remaining > 1 := hlines
      have hmore0 : (channel.with_times 0 0).lines_remaining > 1 := hlines
      rw [if_pos hmore, if_pos hmore0]
      refine ⟨?_, settled_set_delay rfl htimed (line_delay_pos _)⟩
      exact set_delay_credit rfl rfl htimed
    · have hlast : ¬(channel.with_times 0 credit).lines_remaining > 1 := hlines
      have hlast0 : ¬(channel.with_times 0 0).lines_remaining > 1 := hlines
      rw [if_neg hlast, if_neg hlast0]
      by_cases hend : channel.last_descriptor = true
      · have hend1 : (channel.with_times 0 credit).last_descriptor = true := hend
        have hend0 : (channel.with_times 0 0).last_descriptor = true := hend
        rw [if_pos hend1, if_pos hend0]
        exact ⟨rfl, settled_finish _ _⟩
      · have hend1 : ¬(channel.with_times 0 credit).last_descriptor = true := hend
        have hend0 : ¬(channel.with_times 0 0).last_descriptor = true := hend
        rw [if_neg hend1, if_neg hend0]
        refine ⟨?_, settled_set_delay rfl rfl (by decide)⟩
        exact set_delay_credit rfl rfl rfl
  · have hfault : success = false := Bool.eq_false_iff.mpr hsuccess
    subst hfault
    exact ⟨rfl, settled_finish _ _⟩

theorem complete_descriptor_credit (channel : GraphicsDmaChannel) (descriptor : Option (Vector U8 20)) (credit : Nat) :
    (channel.with_times 0 credit).complete_descriptor descriptor =
        ((channel.with_times 0 0).complete_descriptor descriptor).settle credit ∧
      ((channel.with_times 0 0).complete_descriptor descriptor).Settled := by
  cases descriptor with
  | none => exact ⟨rfl, settled_finish _ _⟩
  | some bytes =>
    unfold complete_descriptor
    dsimp only
    cases (GraphicsDescriptor.from_be_bytes bytes).direction with
    | none => exact ⟨rfl, settled_finish _ _⟩
    | some direction =>
      dsimp only
      refine ⟨?_, settled_set_delay rfl rfl (line_delay_pos _)⟩
      exact set_delay_credit rfl rfl rfl

end se_device.pic1.GraphicsDmaChannel

namespace se_machine.ip12.GraphicsPath

open GraphicsDmaChannel

variable {ε : Type} {board : GraphicsBoard ε} {path : GraphicsPath ε}

/-! ## One service -/

theorem service_misplaced (hdelay : path.channel.delay_attoseconds = 0) (hstage : path.channel.stage = .Descriptor)
    (hmisplaced : misplaced path.channel.descriptor_address = true) :
    path.service_graphics_dma_request board = ([], { path with channel := path.channel.finish true }) := by
  simp only [service_graphics_dma_request, next_request, hdelay, hstage, hmisplaced, ne_eq, not_true_eq_false, if_false,
    if_true]

theorem service_descriptor (hdelay : path.channel.delay_attoseconds = 0) (hstage : path.channel.stage = .Descriptor)
    (hplaced : misplaced path.channel.descriptor_address = false) :
    path.service_graphics_dma_request board =
      ([.ReadDescriptor path.channel.descriptor_address (board.read_dma path.env path.channel.descriptor_address 20).1],
        { channel := path.channel.complete_descriptor (board.read_dma path.env path.channel.descriptor_address 20).1
          env := (board.read_dma path.env path.channel.descriptor_address 20).2 }) := by
  simp only [service_graphics_dma_request, next_request, hdelay, hstage, hplaced, ne_eq, not_true_eq_false, if_false,
    Bool.false_eq_true]

/-- The transfer of the line the channel stands at. -/
def transfer_line (board : GraphicsBoard ε) (path : GraphicsPath ε) : Bool × ε :=
  board.transfer_graphics_dma_line path.env path.channel.direction path.channel.line_memory_address
    path.channel.line_gio_address path.channel.line_transfer_bytes.toNat

theorem service_line (hdelay : path.channel.delay_attoseconds = 0) (hstage : path.channel.stage = .Line) :
    path.service_graphics_dma_request board =
      ([.TransferLine path.channel.direction path.channel.line_memory_address path.channel.line_gio_address
          path.channel.line_transfer_bytes.toNat (transfer_line board path).1],
        { channel := path.channel.complete_line (transfer_line board path).1, env := (transfer_line board path).2 }) := by
  simp only [service_graphics_dma_request, next_request, hdelay, hstage, ne_eq, not_true_eq_false, if_false,
    transfer_line]

/-- The path with other times in its channel. -/
def with_times (path : GraphicsPath ε) (delay credit : Nat) : GraphicsPath ε :=
  { path with channel := path.channel.with_times delay credit }

/-- What a credit leaves of the delay of the channel. -/
def settle (path : GraphicsPath ε) (credit : Nat) : GraphicsPath ε :=
  { path with channel := path.channel.settle credit }

/-- A service over a credit does what it does without one, and spends the credit on the
delay that follows. -/
theorem service_credit (htimed : path.channel.timed = true) (credit : Nat) :
    (path.with_times 0 credit).service_graphics_dma_request board =
        (((path.with_times 0 0).service_graphics_dma_request board).1,
          ((path.with_times 0 0).service_graphics_dma_request board).2.settle credit) ∧
      ((path.with_times 0 0).service_graphics_dma_request board).2.channel.Settled := by
  cases hstage : path.channel.stage with
  | Idle => simp [timed, hstage] at htimed
  | WaitingForSync => simp [timed, hstage] at htimed
  | Descriptor =>
    by_cases hmisplaced : misplaced path.channel.descriptor_address = true
    · rw [@service_misplaced ε board (path.with_times 0 credit) rfl hstage hmisplaced,
        @service_misplaced ε board (path.with_times 0 0) rfl hstage hmisplaced]
      exact ⟨rfl, settled_finish _ _⟩
    · have hplaced := Bool.eq_false_iff.mpr hmisplaced
      rw [@service_descriptor ε board (path.with_times 0 credit) rfl hstage hplaced,
        @service_descriptor ε board (path.with_times 0 0) rfl hstage hplaced]
      obtain ⟨hcredit, hsettled⟩ := complete_descriptor_credit path.channel
        (board.read_dma path.env path.channel.descriptor_address 20).1 credit
      refine ⟨?_, hsettled⟩
      exact congrArg (fun channel => ([GraphicsEvent.ReadDescriptor path.channel.descriptor_address
        (board.read_dma path.env path.channel.descriptor_address 20).1],
        ({ channel, env := (board.read_dma path.env path.channel.descriptor_address 20).2 } : GraphicsPath ε))) hcredit
  | Line =>
    rw [@service_line ε board (path.with_times 0 credit) rfl hstage, @service_line ε board (path.with_times 0 0) rfl hstage]
    obtain ⟨hcredit, hsettled⟩ := complete_line_credit path.channel (transfer_line board path).1 credit hstage
    refine ⟨?_, hsettled⟩
    exact congrArg (fun channel => ([GraphicsEvent.TransferLine path.channel.direction path.channel.line_memory_address
      path.channel.line_gio_address path.channel.line_transfer_bytes.toNat (transfer_line board path).1],
      ({ channel, env := (transfer_line board path).2 } : GraphicsPath ε))) hcredit

end se_machine.ip12.GraphicsPath
