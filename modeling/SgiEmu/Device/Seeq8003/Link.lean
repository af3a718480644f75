import SgiEmu.Device.Seeq8003.Controller
import Mathlib.Tactic.Common

open se_core se_core.bus se_core.time

namespace se_device.seeq8003

/-- What is left of a frame on the wire. -/
def WireFrame.lower (elapsed : Nat) (frame : WireFrame) : WireFrame :=
  { frame with remaining := frame.remaining - elapsed }

def IncomingFrame.lower (elapsed : Nat) (frame : IncomingFrame) : IncomingFrame :=
  { frame with remaining := frame.remaining - elapsed }

namespace Seeq8003

variable {seeq : Seeq8003} {frame : WireFrame} {elapsed : Nat}

theorem advance_time_none (h : seeq.transmitting = none) (elapsed : Nat) :
    seeq.advance_time elapsed = { seeq with transmit_gap := seeq.transmit_gap - elapsed } := by
  unfold advance_time
  rw [h]

theorem advance_time_before (h : seeq.transmitting = some frame) (hbefore : elapsed < frame.remaining) :
    seeq.advance_time elapsed =
      { seeq with transmit_gap := seeq.transmit_gap - elapsed, transmitting := some (frame.lower elapsed) } := by
  unfold advance_time
  rw [h]
  exact if_pos hbefore

theorem advance_time_after (h : seeq.transmitting = some frame) (hafter : frame.remaining ≤ elapsed) :
    seeq.advance_time elapsed =
      { seeq with
        transmitting := none
        transmit_gap := INTERFRAME_GAP - (elapsed - frame.remaining)
        transmit_status := 0x08
        transmit_interrupt := seeq.transmit_command &&& 0x08 != 0
        transmitted := some frame.bytes } := by
  unfold advance_time
  rw [h]
  exact if_neg (Nat.not_lt.mpr hafter)

theorem advance_time_add (seeq : Seeq8003) (first second : Nat) :
    (seeq.advance_time first).advance_time second = seeq.advance_time (first + second) := by
  cases hwire : seeq.transmitting with
  | none =>
    have hgap := Nat.sub_sub seeq.transmit_gap first second
    rw [advance_time_none hwire first, advance_time_none hwire (first + second), advance_time_none]
    · rw [hgap]
    · exact hwire
  | some frame =>
    by_cases hsending : first < frame.remaining
    · rw [advance_time_before hwire hsending]
      by_cases hlater : second < frame.remaining - first
      · have htotal : first + second < frame.remaining := by omega
        rw [advance_time_before rfl hlater, advance_time_before hwire htotal]
        simp only [WireFrame.lower, Nat.sub_sub]
      · have htotal : frame.remaining ≤ first + second := by omega
        have hover : second - (frame.remaining - first) = first + second - frame.remaining := by omega
        rw [advance_time_after rfl (Nat.le_of_not_lt hlater), advance_time_after hwire htotal]
        simp only [WireFrame.lower, hover]
    · -- The frame ends in the first piece, and the rest of the time is the gap's.
      have hsent : frame.remaining ≤ first := Nat.le_of_not_lt hsending
      have htotal : frame.remaining ≤ first + second := Nat.le_add_right_of_le hsent
      have hgap : INTERFRAME_GAP - (first - frame.remaining) - second =
          INTERFRAME_GAP - (first + second - frame.remaining) := by omega
      rw [advance_time_after hwire hsent, advance_time_none rfl, advance_time_after hwire htotal]
      simp only [hgap]

end Seeq8003

namespace Controller

variable {controller : Controller} {frame : IncomingFrame} {elapsed : Nat}

/-! ## The receive half -/

/-- The receive half as a frame leaves the wire. -/
def finished (frame : IncomingFrame) (gap : Nat) (controller : Controller) : Controller :=
  finish_receive frame { controller with receiving := none, receive_gap := gap }

theorem advance_receive_none (h : controller.receiving = none) (elapsed : Nat) :
    controller.advance_receive elapsed = { controller with receive_gap := controller.receive_gap - elapsed } := by
  unfold advance_receive
  rw [h]

theorem advance_receive_before (h : controller.receiving = some frame) (hbefore : elapsed < frame.remaining) :
    controller.advance_receive elapsed =
      { controller with receive_gap := controller.receive_gap - elapsed, receiving := some (frame.lower elapsed) } := by
  unfold advance_receive
  rw [h]
  exact if_pos hbefore

theorem advance_receive_after (h : controller.receiving = some frame) (hafter : frame.remaining ≤ elapsed) :
    controller.advance_receive elapsed = controller.finished frame (INTERFRAME_GAP - (elapsed - frame.remaining)) := by
  unfold advance_receive
  rw [h]
  exact if_neg (Nat.not_lt.mpr hafter)

/-- The transmitter, the receive wire and its gap do not enter the judgement of a
frame, which leaves them alone. -/
theorem finish_receive_update (frame : IncomingFrame) (receiving : Option IncomingFrame) (gap : Nat) (line : Seeq8003)
    (controller : Controller) :
    finish_receive frame { controller with receiving, receive_gap := gap, toSeeq8003 := line } =
      { controller.finish_receive frame with receiving, receive_gap := gap, toSeeq8003 := line } := by
  let errors := frame.errors ||| (if frame.bytes.length < 60 then 8 else 0)
  by_cases hunwanted :
    (!controller.matches_address frame.bytes || controller.receive_status &&& OLD_DEVICE_STATUS == 0) = true
  · have hleft : controller.finish_receive frame = _ := if_pos hunwanted
    rw [hleft]
    exact if_pos hunwanted
  · by_cases hlost : (errors &&& 0x0b &&& ~~~controller.receive_command != 0 || controller.received.isSome) = true
    · have hjudged : controller.finish_receive frame = _ := (if_neg hunwanted).trans (if_pos hlost)
      rw [hjudged]
      exact (if_neg hunwanted).trans (if_pos hlost)
    · have hreceived : controller.finish_receive frame = _ := (if_neg hunwanted).trans (if_neg hlost)
      rw [hreceived]
      exact (if_neg hunwanted).trans (if_neg hlost)

theorem finish_receive_wire (frame : IncomingFrame) (controller : Controller) :
    (controller.finish_receive frame).receiving = controller.receiving ∧
      (controller.finish_receive frame).receive_gap = controller.receive_gap ∧
      (controller.finish_receive frame).toSeeq8003 = controller.toSeeq8003 := by
  have hsame : controller.finish_receive frame =
      { controller.finish_receive frame with
        receiving := controller.receiving, receive_gap := controller.receive_gap, toSeeq8003 := controller.toSeeq8003 } :=
    finish_receive_update frame controller.receiving controller.receive_gap controller.toSeeq8003 controller
  exact ⟨congrArg (·.receiving) hsame, congrArg (·.receive_gap) hsame, congrArg (·.toSeeq8003) hsame⟩

theorem finished_receiving (frame : IncomingFrame) (gap : Nat) (controller : Controller) :
    (controller.finished frame gap).receiving = none := (finish_receive_wire frame _).1

theorem finished_receive_gap (frame : IncomingFrame) (gap : Nat) (controller : Controller) :
    (controller.finished frame gap).receive_gap = gap := (finish_receive_wire frame _).2.1

theorem finished_gap (frame : IncomingFrame) (gap other : Nat) (controller : Controller) :
    { controller.finished frame gap with receive_gap := other } = controller.finished frame other := by
  have hwire := finish_receive_wire frame { controller with receiving := none, receive_gap := gap }
  have hother : controller.finished frame other = _ := finish_receive_update frame none other controller.toSeeq8003
    { controller with receiving := none, receive_gap := gap }
  rw [hother]
  unfold finished
  simp only [hwire]

theorem advance_receive_add (controller : Controller) (first second : Nat) :
    (controller.advance_receive first).advance_receive second = controller.advance_receive (first + second) := by
  cases hwire : controller.receiving with
  | none =>
    have hgap := Nat.sub_sub controller.receive_gap first second
    rw [advance_receive_none hwire first, advance_receive_none hwire (first + second), advance_receive_none]
    · rw [hgap]
    · exact hwire
  | some frame =>
    by_cases hcoming : first < frame.remaining
    · rw [advance_receive_before hwire hcoming]
      by_cases hlater : second < frame.remaining - first
      · have htotal : first + second < frame.remaining := by omega
        rw [advance_receive_before rfl hlater, advance_receive_before hwire htotal]
        simp only [IncomingFrame.lower, Nat.sub_sub]
      · have htotal : frame.remaining ≤ first + second := by omega
        have hover : second - (frame.remaining - first) = first + second - frame.remaining := by omega
        rw [advance_receive_after rfl (Nat.le_of_not_lt hlater), advance_receive_after hwire htotal]
        simp only [IncomingFrame.lower, hover]
        rfl
    · have hcame : frame.remaining ≤ first := Nat.le_of_not_lt hcoming
      have htotal : frame.remaining ≤ first + second := Nat.le_add_right_of_le hcame
      have hgap : INTERFRAME_GAP - (first - frame.remaining) - second =
          INTERFRAME_GAP - (first + second - frame.remaining) := by omega
      rw [advance_receive_after hwire hcame, advance_receive_none (finished_receiving frame _ _),
        advance_receive_after hwire htotal, finished_receive_gap, hgap]
      exact finished_gap frame _ _ controller

theorem advance_receive_line (controller : Controller) (elapsed : Nat) (line : Seeq8003) :
    advance_receive elapsed { controller with toSeeq8003 := line } =
      { controller.advance_receive elapsed with toSeeq8003 := line } := by
  obtain hwire | ⟨frame, hwire⟩ := Option.eq_none_or_eq_some controller.receiving
  · rw [advance_receive_none hwire, advance_receive_none]
    exact hwire
  · by_cases hcoming : elapsed < frame.remaining
    · rw [advance_receive_before hwire hcoming, advance_receive_before _ hcoming]
      exact hwire
    · have hcame := Nat.le_of_not_lt hcoming
      rw [advance_receive_after hwire hcame, advance_receive_after _ hcame]
      · have hwire := finish_receive_wire frame { controller with
            receiving := none, receive_gap := INTERFRAME_GAP - (elapsed - frame.remaining) }
        have hline := finish_receive_update frame none (INTERFRAME_GAP - (elapsed - frame.remaining)) line
          { controller with receiving := none, receive_gap := INTERFRAME_GAP - (elapsed - frame.remaining) }
        unfold finished
        rw [hline]
        simp only [hwire]
      · exact hwire

theorem advance_receive_toSeeq8003 (controller : Controller) (elapsed : Nat) :
    (controller.advance_receive elapsed).toSeeq8003 = controller.toSeeq8003 := by
  cases hwire : controller.receiving with
  | none => rw [advance_receive_none hwire]
  | some frame =>
    by_cases hcoming : elapsed < frame.remaining
    · rw [advance_receive_before hwire hcoming]
    · rw [advance_receive_after hwire (Nat.le_of_not_lt hcoming)]
      exact (finish_receive_wire frame _).2.2

/-! ## Both halves -/

theorem advance_time_eq (controller : Controller) (elapsed : Nat) :
    controller.advance_time elapsed =
      { controller.advance_receive elapsed with toSeeq8003 := controller.toSeeq8003.advance_time elapsed } := by
  have hline := congrArg (Seeq8003.advance_time · elapsed) (controller.advance_receive_toSeeq8003 elapsed)
  exact congrArg (fun line => { controller.advance_receive elapsed with toSeeq8003 := line }) hline

/-- Time passes the same in one piece and in two. -/
theorem advance_time_add (controller : Controller) (first second : Nat) :
    (controller.advance_time first).advance_time second = controller.advance_time (first + second) := by
  rw [advance_time_eq controller first, advance_time_eq controller (first + second), advance_time_eq, advance_receive_line,
    advance_receive_add, Seeq8003.advance_time_add]

/-! ## The next transition -/

/-- The time left to whatever is under way on the link. -/
inductive Pending (controller : Controller) : Nat → Prop where
  | receiving {frame : IncomingFrame} (h : controller.receiving = some frame) : Pending controller frame.remaining
  | transmitting {frame : WireFrame} (h : controller.transmitting = some frame) : Pending controller frame.remaining
  | receive_gap (h : controller.receive_gap ≠ 0) : Pending controller controller.receive_gap
  | transmit_gap (h : controller.transmit_gap ≠ 0) : Pending controller controller.transmit_gap

theorem pending_iff (controller : Controller) (next : Nat) :
    next ∈ [controller.receiving.map (·.remaining), controller.transmitting.map (·.remaining),
        if controller.receive_gap ≠ 0 then some controller.receive_gap else none,
        if controller.transmit_gap ≠ 0 then some controller.transmit_gap else none].filterMap id ↔
      controller.Pending next := by
  simp only [List.mem_filterMap, List.mem_cons, List.not_mem_nil, or_false, id]
  constructor
  · rintro ⟨_, rfl | rfl | rfl | rfl, h⟩
    · obtain ⟨frame, hframe, rfl⟩ := Option.map_eq_some_iff.mp h
      exact .receiving hframe
    · obtain ⟨frame, hframe, rfl⟩ := Option.map_eq_some_iff.mp h
      exact .transmitting hframe
    · obtain ⟨hgap, hleft⟩ := Option.ite_none_right_eq_some.mp h
      cases hleft
      exact .receive_gap hgap
    · obtain ⟨hgap, hleft⟩ := Option.ite_none_right_eq_some.mp h
      cases hleft
      exact .transmit_gap hgap
  · intro h
    cases h with
    | receiving h => exact ⟨_, Or.inl rfl, Option.map_eq_some_iff.mpr ⟨_, h, rfl⟩⟩
    | transmitting h => exact ⟨_, Or.inr (Or.inl rfl), Option.map_eq_some_iff.mpr ⟨_, h, rfl⟩⟩
    | receive_gap h => exact ⟨_, Or.inr (Or.inr (Or.inl rfl)), if_pos h⟩
    | transmit_gap h => exact ⟨_, Or.inr (Or.inr (Or.inr rfl)), if_pos h⟩

theorem time_until_event_some {next : Nat} :
    controller.time_until_event = some next ↔ controller.Pending next ∧ ∀ other, controller.Pending other → next ≤ other := by
  simp only [← pending_iff]
  exact List.min?_eq_some_iff

theorem time_until_event_none : controller.time_until_event = none ↔ ∀ other, ¬controller.Pending other := by
  simp only [← pending_iff]
  exact List.min?_eq_none_iff.trans List.eq_nil_iff_forall_not_mem

/-- What is under way on the link. -/
def link_state (controller : Controller) : Bool × Bool × Bool × Bool :=
  (controller.receiving.isSome, controller.receive_gap == 0, controller.transmitting.isSome, controller.transmit_gap == 0)

/-- The controller later, where nothing under way has come to its end. -/
def wait (elapsed : Nat) (controller : Controller) : Controller :=
  { controller with
    receiving := controller.receiving.map (·.lower elapsed)
    receive_gap := controller.receive_gap - elapsed
    transmitting := controller.transmitting.map (·.lower elapsed)
    transmit_gap := controller.transmit_gap - elapsed }

/-- Nothing under way ends within the time. -/
def Waits (controller : Controller) (elapsed : Nat) : Prop := ∀ other, controller.Pending other → elapsed < other

theorem advance_time_waits (h : controller.Waits elapsed) : controller.advance_time elapsed = controller.wait elapsed := by
  have hreceive : controller.advance_receive elapsed =
      { controller with
        receiving := controller.receiving.map (·.lower elapsed), receive_gap := controller.receive_gap - elapsed } := by
    cases hwire : controller.receiving with
    | none =>
      rw [advance_receive_none hwire, hwire]
      rfl
    | some frame =>
      rw [advance_receive_before hwire (h _ (.receiving hwire))]
      rfl
  have htransmit : controller.toSeeq8003.advance_time elapsed =
      { controller.toSeeq8003 with
        transmitting := controller.transmitting.map (·.lower elapsed)
        transmit_gap := controller.transmit_gap - elapsed } := by
    cases hwire : controller.transmitting with
    | none =>
      rw [Seeq8003.advance_time_none hwire, hwire]
      rfl
    | some frame =>
      rw [Seeq8003.advance_time_before hwire (h _ (.transmitting hwire))]
      rfl
  rw [advance_time_eq, hreceive, htransmit]
  rfl

theorem link_state_wait (h : controller.Waits elapsed) : (controller.wait elapsed).link_state = controller.link_state := by
  have hgap : ∀ gap, (gap ≠ 0 → elapsed < gap) → (gap - elapsed == 0) = (gap == 0) := by
    intro gap hleft
    by_cases hzero : gap = 0
    · rw [hzero, Nat.zero_sub]
    · have hpositive := Nat.sub_pos_of_lt (hleft hzero)
      rw [beq_eq_false_iff_ne.mpr hzero, beq_eq_false_iff_ne.mpr (Nat.ne_of_gt hpositive)]
  unfold link_state wait
  dsimp only
  rw [Option.isSome_map, Option.isSome_map, hgap _ fun hgap => h _ (.receive_gap hgap),
    hgap _ fun hgap => h _ (.transmit_gap hgap)]

/-- The next transition comes nearer as time passes. -/
theorem time_until_event_wait {next : Nat} (h : controller.time_until_event = some next) (hbefore : elapsed < next) :
    (controller.wait elapsed).time_until_event = some (next - elapsed) := by
  obtain ⟨hpending, hfirst⟩ := time_until_event_some.mp h
  refine time_until_event_some.mpr ⟨?_, ?_⟩
  · cases hpending with
    | @receiving frame hframe =>
      exact @Pending.receiving (controller.wait elapsed) (frame.lower elapsed) (Option.map_eq_some_iff.mpr ⟨frame, hframe, rfl⟩)
    | @transmitting frame hframe =>
      exact @Pending.transmitting (controller.wait elapsed) (frame.lower elapsed) (Option.map_eq_some_iff.mpr ⟨frame, hframe, rfl⟩)
    | receive_gap _ => exact .receive_gap (Nat.ne_of_gt (Nat.sub_pos_of_lt hbefore))
    | transmit_gap _ => exact .transmit_gap (Nat.ne_of_gt (Nat.sub_pos_of_lt hbefore))
  · intro other hother
    have hleft : ∀ gap, gap - elapsed ≠ 0 → gap ≠ 0 := by
      intro gap hgap
      omega
    have hlowered : ∃ before, controller.Pending before ∧ other = before - elapsed := by
      cases hother with
      | receiving hframe =>
        obtain ⟨frame, hbefore, rfl⟩ := Option.map_eq_some_iff.mp hframe
        exact ⟨frame.remaining, .receiving hbefore, rfl⟩
      | transmitting hframe =>
        obtain ⟨frame, hbefore, rfl⟩ := Option.map_eq_some_iff.mp hframe
        exact ⟨frame.remaining, .transmitting hbefore, rfl⟩
      | receive_gap hgap => exact ⟨controller.receive_gap, .receive_gap (hleft _ hgap), rfl⟩
      | transmit_gap hgap => exact ⟨controller.transmit_gap, .transmit_gap (hleft _ hgap), rfl⟩
    obtain ⟨before, hbefore, rfl⟩ := hlowered
    exact Nat.sub_le_sub_right (hfirst before hbefore) elapsed

/-- The pending end of a frame or a gap is one, when its time has come. -/
theorem link_state_at {next : Nat} (h : controller.Pending next) :
    (controller.advance_time next).link_state ≠ controller.link_state := by
  intro hsame
  rw [advance_time_eq] at hsame
  obtain ⟨hreceiving, hreceive_gap, htransmitting, htransmit_gap⟩ :
      (controller.advance_receive next).receiving.isSome = controller.receiving.isSome ∧
        ((controller.advance_receive next).receive_gap == 0) = (controller.receive_gap == 0) ∧
        (controller.toSeeq8003.advance_time next).transmitting.isSome = controller.transmitting.isSome ∧
        ((controller.toSeeq8003.advance_time next).transmit_gap == 0) = (controller.transmit_gap == 0) := by
    simpa only [link_state, Prod.mk.injEq] using hsame
  have hreceived : ∀ frame, controller.receiving = some frame → next < frame.remaining := by
    intro frame hframe
    refine Nat.lt_of_not_le fun hended => ?_
    rw [advance_receive_after hframe hended, finished_receiving, hframe] at hreceiving
    cases hreceiving
  have htransmitted : ∀ frame, controller.transmitting = some frame → next < frame.remaining := by
    intro frame hframe
    refine Nat.lt_of_not_le fun hended => ?_
    rw [Seeq8003.advance_time_after hframe hended, hframe] at htransmitting
    cases htransmitting
  cases h with
  | receiving hframe => exact Nat.lt_irrefl _ (hreceived _ hframe)
  | transmitting hframe => exact Nat.lt_irrefl _ (htransmitted _ hframe)
  | receive_gap hgap =>
    have hended : (controller.advance_receive controller.receive_gap).receive_gap = 0 := by
      obtain hwire | ⟨frame, hwire⟩ := Option.eq_none_or_eq_some controller.receiving
      · rw [advance_receive_none hwire]
        exact Nat.sub_self _
      · rw [advance_receive_before hwire (hreceived frame hwire)]
        exact Nat.sub_self _
    rw [hended, beq_eq_false_iff_ne.mpr hgap] at hreceive_gap
    cases hreceive_gap
  | transmit_gap hgap =>
    have hended : (controller.toSeeq8003.advance_time controller.transmit_gap).transmit_gap = 0 := by
      obtain hwire | ⟨frame, hwire⟩ := Option.eq_none_or_eq_some controller.transmitting
      · rw [Seeq8003.advance_time_none hwire]
        exact Nat.sub_self _
      · rw [Seeq8003.advance_time_before hwire (htransmitted frame hwire)]
        exact Nat.sub_self _
    rw [hended, beq_eq_false_iff_ne.mpr hgap] at htransmit_gap
    cases htransmit_gap

/-- The next transition is announced exactly: until then the counters run down and
nothing else happens, and then the link changes. -/
structure Announces (controller : Controller) : Prop where
  idle : controller.time_until_event = none → ∀ elapsed, controller.advance_time elapsed = controller
  waits : ∀ next, controller.time_until_event = some next → ∀ elapsed, elapsed < next →
    controller.advance_time elapsed = controller.wait elapsed ∧
      (controller.wait elapsed).link_state = controller.link_state ∧
      (controller.wait elapsed).time_until_event = some (next - elapsed)
  changes : ∀ next, controller.time_until_event = some next →
    (controller.advance_time next).link_state ≠ controller.link_state

theorem announces (controller : Controller) : controller.Announces := by
  constructor
  case idle =>
    intro h elapsed
    have hnothing := time_until_event_none.mp h
    have hreceiving : controller.receiving = none := by
      refine Option.eq_none_iff_forall_ne_some.mpr fun frame hframe => ?_
      exact hnothing _ (.receiving hframe)
    have htransmitting : controller.transmitting = none := by
      refine Option.eq_none_iff_forall_ne_some.mpr fun frame hframe => ?_
      exact hnothing _ (.transmitting hframe)
    have hgap : ∀ gap, (gap ≠ 0 → controller.Pending gap) → gap - elapsed = gap := by
      intro gap hpending
      by_cases hzero : gap = 0
      · rw [hzero, Nat.zero_sub]
      · exact absurd (hpending hzero) (hnothing gap)
    rw [advance_time_eq, advance_receive_none hreceiving, Seeq8003.advance_time_none htransmitting, hgap _ .receive_gap,
      hgap _ .transmit_gap]
  case waits =>
    intro next h elapsed hbefore
    have hwaits : controller.Waits elapsed := fun other hother =>
      Nat.lt_of_lt_of_le hbefore ((time_until_event_some.mp h).2 other hother)
    exact ⟨advance_time_waits hwaits, link_state_wait hwaits, time_until_event_wait h hbefore⟩
  case changes =>
    intro next h
    exact link_state_at (time_until_event_some.mp h).1

end Controller

end se_device.seeq8003
