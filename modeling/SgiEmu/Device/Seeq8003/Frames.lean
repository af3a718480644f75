import SgiEmu.Device.Seeq8003.Link
import SgiEmu.Library.Delivery

open Library.Delivery se_core se_core.bus se_core.time

namespace se_device.seeq8003

/-! ## Operations of the controller -/

inductive Operation where
  | reset
  | read (address length : Nat)
  | write (address : Nat) (data : List U8)
  | receive (bytes : List U8) (errors : U8)
  | transmit (bytes : List U8)
  | advance_time (elapsed : Nat)
  | take_received_frame
  | take_transmitted_frame
  | acknowledge_receive
  | acknowledge_transmit
  | transmit_underflow

namespace Operation

def apply (controller : Controller) : Operation → Controller
  | .reset => controller.reset
  | .read address length => (controller.read address length).2
  | .write address data => (controller.write address data).2
  | .receive bytes errors => (controller.receive bytes errors).2
  | .transmit bytes => (controller.transmit bytes).2
  | .advance_time elapsed => controller.advance_time elapsed
  | .take_received_frame => controller.take_received_frame.2
  | .take_transmitted_frame => controller.take_transmitted_frame.2
  | .acknowledge_receive => controller.acknowledge_receive.2
  | .acknowledge_transmit => controller.acknowledge_transmit.2
  | .transmit_underflow => controller.transmit_underflow

def elapsed : Operation → Nat
  | .advance_time elapsed => elapsed
  | _ => 0

/-- What an operation shows of the transmitter; an underflow is a reset of the frame
on the wire, if there is one. -/
def transmit_notes (controller : Controller) : Operation → List (Note (List U8))
  | .reset => [.Reset]
  | .transmit bytes => if (controller.transmit bytes).1 then [.Accepted bytes] else []
  | .take_transmitted_frame => (controller.take_transmitted_frame.1.map .Sent).toList
  | .transmit_underflow => if controller.transmitting.isSome then [.Reset] else []
  | _ => []

/-- What an operation shows of the link the receiver listens to. -/
def receive_notes (controller : Controller) : Operation → List (Note (List U8))
  | .reset => [.Reset]
  | .receive bytes errors => if (controller.receive bytes errors).1 then [.Accepted bytes] else []
  | _ => []

end Operation

/-- The controller after some operations. -/
def Controller.run (controller : Controller) (operations : List Operation) : Controller :=
  operations.foldl Operation.apply controller

/-- The notes of some operations. -/
def Controller.log (notes : Controller → Operation → List (Note (List U8))) (controller : Controller) :
    List Operation → List (Note (List U8))
  | [] => []
  | operation :: rest => notes controller operation ++ (operation.apply controller).log notes rest

def elapsed_time (operations : List Operation) : Nat := (operations.map Operation.elapsed).sum

namespace Seeq8003

/-- What an operation makes of the transmitter's wire, in the time it takes. -/
inductive Moves (seeq other : Seeq8003) : Nat → List (Note (List U8)) → Prop where
  | keeps (hwire : other.transmitting = seeq.transmitting) (hready : other.transmitted = seeq.transmitted)
      (hgap : other.transmit_gap = seeq.transmit_gap) : Moves seeq other 0 []
  | accepted (bytes : List U8) (hready : seeq.transmit_ready = true)
      (hother : other = { seeq with transmitting := some { bytes, remaining := wire_time bytes.length } }) :
      Moves seeq other 0 [.Accepted bytes]
  | taken (bytes : List U8) (hsent : seeq.transmitted = some bytes) (hother : other = { seeq with transmitted := none }) :
      Moves seeq other 0 [.Sent bytes]
  | reset (hother : other = .new) : Moves seeq other 0 [.Reset]
  | underflow (hwire : seeq.transmitting.isSome = true) (hother : other = seeq.transmit_underflow) :
      Moves seeq other 0 [.Reset]
  | passes (elapsed : Nat) (hother : other = seeq.advance_time elapsed) : Moves seeq other elapsed []

variable {seeq other : Seeq8003} {bytes : List U8} {elapsed : Nat} {notes : List (Note (List U8))}

theorem transmit_ready_iff :
    seeq.transmit_ready = true ↔ seeq.transmitting = none ∧ seeq.transmitted = none ∧ seeq.transmit_gap = 0 := by
  unfold transmit_ready
  rw [Bool.and_eq_true, Bool.and_eq_true, Option.isNone_iff_eq_none, Option.isNone_iff_eq_none, beq_iff_eq, and_assoc]

/-! ## Every frame once -/

/-- The frames accepted and not taken yet, the finished one first. -/
def in_flight (seeq : Seeq8003) : List (List U8) :=
  seeq.transmitted.toList ++ (seeq.transmitting.map (·.bytes)).toList

/-- Nothing waits to be taken while a frame is on the wire. -/
def OneFrame (seeq : Seeq8003) : Prop := seeq.transmitting.isSome = true → seeq.transmitted = none

/-- Time moves a frame along the wire and neither adds nor loses one. -/
theorem advance_time_in_flight (h : seeq.OneFrame) (elapsed : Nat) :
    (seeq.advance_time elapsed).OneFrame ∧ (seeq.advance_time elapsed).in_flight = seeq.in_flight := by
  unfold OneFrame in_flight at *
  obtain hwire | ⟨frame, hwire⟩ := Option.eq_none_or_eq_some seeq.transmitting
  · rw [advance_time_none hwire]
    exact ⟨h, rfl⟩
  · have hnone : seeq.transmitted = none := h (congrArg Option.isSome hwire)
    by_cases hsending : elapsed < frame.remaining
    · rw [advance_time_before hwire hsending, hnone, hwire]
      exact ⟨fun _ => rfl, rfl⟩
    · rw [advance_time_after hwire (Nat.le_of_not_lt hsending), hnone, hwire]
      refine ⟨nofun, rfl⟩

/-- The transmitter is a queue of at most one frame. -/
theorem Moves.follow (hmoves : Moves seeq other elapsed notes) (h : seeq.OneFrame) :
    other.OneFrame ∧ follow seeq.in_flight notes = some other.in_flight := by
  cases hmoves with
  | keeps hwire hready hgap =>
    unfold OneFrame in_flight at *
    rw [hwire, hready]
    exact ⟨h, rfl⟩
  | accepted bytes hready hother =>
    obtain ⟨hwire, hnone, -⟩ := transmit_ready_iff.mp hready
    subst hother
    unfold OneFrame in_flight
    rw [hwire, hnone]
    exact ⟨fun _ => rfl, rfl⟩
  | taken bytes hsent hother =>
    subst hother
    refine ⟨fun _ => rfl, ?_⟩
    unfold in_flight
    rw [hsent]
    exact follow_sent bytes _
  | reset hother =>
    subst hother
    exact ⟨nofun, rfl⟩
  | underflow hwire hother =>
    subst hother
    have hnone := h hwire
    unfold OneFrame in_flight transmit_underflow
    rw [hnone]
    exact ⟨nofun, rfl⟩
  | passes elapsed hother =>
    subst hother
    obtain ⟨hone, hflight⟩ := advance_time_in_flight h elapsed
    exact ⟨hone, congrArg some hflight.symm⟩

/-! ## The way of a frame -/

/-- A frame accepted some time ago: it is on the wire, then waits to be taken, and
then it is gone; behind it the gap runs down. -/
inductive Outgoing (bytes : List U8) (spent : Nat) : List (List U8) → Seeq8003 → Prop where
  | on_wire {seeq : Seeq8003} (hspent : spent < wire_time bytes.length)
      (hwire : seeq.transmitting = some { bytes, remaining := wire_time bytes.length - spent })
      (hready : seeq.transmitted = none) : Outgoing bytes spent [] seeq
  | waiting {seeq : Seeq8003} (hspent : wire_time bytes.length ≤ spent) (hwire : seeq.transmitting = none)
      (hready : seeq.transmitted = some bytes)
      (hgap : seeq.transmit_gap = wire_time bytes.length + INTERFRAME_GAP - spent) : Outgoing bytes spent [] seeq
  | gone {seeq : Seeq8003} (hspent : wire_time bytes.length ≤ spent) (hwire : seeq.transmitting = none)
      (hready : seeq.transmitted = none)
      (hgap : seeq.transmit_gap = wire_time bytes.length + INTERFRAME_GAP - spent) : Outgoing bytes spent [bytes] seeq

theorem wire_time_pos (length : Nat) : 0 < wire_time length := by
  have hbyte : 0 < BYTE_TIME := by decide +kernel
  exact Nat.mul_pos (by omega) hbyte

variable {spent : Nat} {sent : List (List U8)}

theorem Outgoing.advance_time (h : Outgoing bytes spent sent seeq) (elapsed : Nat) :
    Outgoing bytes (spent + elapsed) sent (seeq.advance_time elapsed) := by
  cases h with
  | on_wire hspent hwire hready =>
    by_cases hsending : elapsed < wire_time bytes.length - spent
    · rw [advance_time_before hwire hsending]
      refine .on_wire (by omega) ?_ hready
      simp only [WireFrame.lower, Nat.sub_sub]
    · have hsent := Nat.le_of_not_lt hsending
      rw [advance_time_after hwire hsent]
      refine .waiting (by omega) rfl rfl ?_
      dsimp only
      omega
  | waiting hspent hwire hready hgap =>
    rw [advance_time_none hwire]
    refine .waiting (Nat.le_add_right_of_le hspent) hwire hready ?_
    dsimp only
    omega
  | gone hspent hwire hready hgap =>
    rw [advance_time_none hwire]
    refine .gone (Nat.le_add_right_of_le hspent) hwire hready ?_
    dsimp only
    omega

/-- A move of the transmitter takes the frame further on its way, and out once at most. -/
theorem Outgoing.moves (h : Outgoing bytes spent sent seeq) {taken : List (List U8)}
    (hmoves : Moves seeq other elapsed notes) (hnotes : notes = taken.map .Sent) :
    Outgoing bytes (spent + elapsed) (sent ++ taken) other := by
  cases hmoves with
  | keeps hwire hready hgap =>
    rw [List.map_eq_nil_iff.mp hnotes.symm, List.append_nil]
    cases h with
    | on_wire hspent hbefore hnone => exact .on_wire hspent (hwire.trans hbefore) (hready.trans hnone)
    | waiting hspent hbefore hsome hleft => exact .waiting hspent (hwire.trans hbefore) (hready.trans hsome) (hgap.trans hleft)
    | gone hspent hbefore hnone hleft => exact .gone hspent (hwire.trans hbefore) (hready.trans hnone) (hgap.trans hleft)
  | accepted bytes hready hother =>
    cases taken with
    | nil => cases hnotes
    | cons first rest => cases hnotes
  | reset hother =>
    cases taken with
    | nil => cases hnotes
    | cons first rest => cases hnotes
  | underflow hwire hother =>
    cases taken with
    | nil => cases hnotes
    | cons first rest => cases hnotes
  | taken frame hsent hother =>
    obtain rfl : taken = [frame] := by
      cases taken with
      | nil => cases hnotes
      | cons first rest =>
        injection hnotes with hfirst hrest
        injection hfirst with hfirst
        rw [hfirst, List.map_eq_nil_iff.mp hrest.symm]
    subst hother
    cases h with
    | on_wire _ _ hnone =>
      rw [hsent] at hnone
      cases hnone
    | waiting hspent hbefore hsome hleft =>
      obtain rfl : frame = bytes := Option.some.inj (hsent.symm.trans hsome)
      exact .gone hspent hbefore rfl hleft
    | gone _ _ hnone _ =>
      rw [hsent] at hnone
      cases hnone
  | passes elapsed hother =>
    rw [List.map_eq_nil_iff.mp hnotes.symm, List.append_nil]
    subst hother
    exact h.advance_time elapsed

end Seeq8003

namespace Controller

open Seeq8003

variable {controller other : Controller} {bytes : List U8}

/-- A register transaction leaves both wires alone. -/
structure SameLink (controller other : Controller) : Prop where
  receiving : other.receiving = controller.receiving
  receive_gap : other.receive_gap = controller.receive_gap
  transmitting : other.transmitting = controller.transmitting
  transmitted : other.transmitted = controller.transmitted
  transmit_gap : other.transmit_gap = controller.transmit_gap

theorem SameLink.moves (h : SameLink controller other) : Moves controller.toSeeq8003 other.toSeeq8003 0 [] :=
  .keeps h.transmitting h.transmitted h.transmit_gap

theorem read_same (address length : Nat) (controller : Controller) :
    SameLink controller (controller.read address length).2 := by
  unfold read
  cases register_transaction address length with
  | error error => exact ⟨rfl, rfl, rfl, rfl, rfl⟩
  | ok found =>
    dsimp only
    split
    · exact ⟨rfl, rfl, rfl, rfl, rfl⟩
    · split <;> exact ⟨rfl, rfl, rfl, rfl, rfl⟩

theorem write_banked_register_same (slot : Nat) (value : U8) (controller : Controller) :
    SameLink controller (controller.write_banked_register slot value) := by
  unfold write_banked_register
  split
  · exact ⟨rfl, rfl, rfl, rfl, rfl⟩
  · exact ⟨rfl, rfl, rfl, rfl, rfl⟩
  · split <;> exact ⟨rfl, rfl, rfl, rfl, rfl⟩
  · exact ⟨rfl, rfl, rfl, rfl, rfl⟩

theorem write_same (address : Nat) (data : List U8) (controller : Controller) :
    SameLink controller (controller.write address data).2 := by
  unfold write
  cases register_transaction address data.length with
  | error error => exact ⟨rfl, rfl, rfl, rfl, rfl⟩
  | ok found =>
    dsimp only
    split
    · exact ⟨rfl, rfl, rfl, rfl, rfl⟩
    · split
      · exact ⟨rfl, rfl, rfl, rfl, rfl⟩
      · split
        · exact ⟨rfl, rfl, rfl, rfl, rfl⟩
        · exact write_banked_register_same _ _ controller

theorem receive_cases (bytes : List U8) (errors : U8) (controller : Controller) :
    controller.receive bytes errors = (false, controller) ∨
      controller.receive bytes errors =
        (true, { controller with
          receiving := some { bytes, remaining := wire_time bytes.length, errors := errors &&& 7 } }) := by
  unfold receive
  split
  · exact Or.inl rfl
  · exact Or.inr rfl

theorem receive_line (bytes : List U8) (errors : U8) (controller : Controller) :
    (controller.receive bytes errors).2.toSeeq8003 = controller.toSeeq8003 := by
  obtain hrefused | haccepted := receive_cases bytes errors controller
  · rw [hrefused]
  · rw [haccepted]

/-- Every operation is one of the transmitter's moves, and is noted as such. -/
theorem transmit_moves (controller : Controller) (operation : Operation) :
    Moves controller.toSeeq8003 (operation.apply controller).toSeeq8003 operation.elapsed
      (operation.transmit_notes controller) := by
  cases operation with
  | reset => exact .reset rfl
  | read address length => exact (read_same address length controller).moves
  | write address data => exact (write_same address data controller).moves
  | receive bytes errors =>
    have hline := receive_line bytes errors controller
    exact .keeps (congrArg (·.transmitting) hline) (congrArg (·.transmitted) hline) (congrArg (·.transmit_gap) hline)
  | transmit bytes =>
    by_cases hrefused : (!controller.toSeeq8003.transmit_ready || MAX_FRAME_BYTES < bytes.length) = true
    · have hnone : controller.toSeeq8003.transmit bytes = (false, controller.toSeeq8003) := if_pos hrefused
      simp only [Operation.apply, Operation.transmit_notes, Controller.transmit, hnone]
      exact .keeps rfl rfl rfl
    · have htaken : controller.toSeeq8003.transmit bytes = (true, _) := if_neg hrefused
      simp only [Operation.apply, Operation.transmit_notes, Controller.transmit, htaken]
      simp only [Bool.or_eq_true, Bool.not_eq_true', not_or, Bool.not_eq_false] at hrefused
      exact .accepted bytes hrefused.1 rfl
  | advance_time elapsed =>
    apply Moves.passes elapsed
    rw [Operation.apply, advance_time_eq]
  | take_received_frame => exact .keeps rfl rfl rfl
  | take_transmitted_frame =>
    cases hsent : controller.transmitted with
    | none =>
      simp only [Operation.transmit_notes, Controller.take_transmitted_frame, Seeq8003.take_transmitted_frame, hsent]
      exact .keeps rfl hsent.symm rfl
    | some bytes =>
      simp only [Operation.transmit_notes, Controller.take_transmitted_frame, Seeq8003.take_transmitted_frame, hsent]
      exact .taken bytes hsent rfl
  | acknowledge_receive => exact .keeps rfl rfl rfl
  | acknowledge_transmit => exact .keeps rfl rfl rfl
  | transmit_underflow =>
    cases hwire : controller.transmitting with
    | none =>
      simp only [Operation.transmit_notes, hwire]
      exact .keeps hwire.symm rfl rfl
    | some frame =>
      simp only [Operation.transmit_notes, hwire]
      exact .underflow (congrArg Option.isSome hwire) rfl

/-! ## Runs -/

/-- Over any operations the transmitter is the queue its notes describe. -/
theorem run_follow (h : controller.OneFrame) (operations : List Operation) :
    (controller.run operations).OneFrame ∧
      follow controller.in_flight (controller.log Operation.transmit_notes operations) =
        some (controller.run operations).in_flight := by
  induction operations generalizing controller with
  | nil => exact ⟨h, rfl⟩
  | cons operation rest ih =>
    obtain ⟨hone, hfollow⟩ := (controller.transmit_moves operation).follow h
    obtain ⟨hlast, hrest⟩ := ih hone
    refine ⟨hlast, ?_⟩
    rw [Controller.log, follow_append, hfollow]
    exact hrest

/-- A frame on its way is followed over any operations that note nothing but frames taken. -/
theorem run_outgoing {spent : Nat} {sent taken : List (List U8)} (h : Outgoing bytes spent sent controller.toSeeq8003)
    (operations : List Operation) (hnotes : controller.log Operation.transmit_notes operations = taken.map .Sent) :
    Outgoing bytes (spent + elapsed_time operations) (sent ++ taken) (controller.run operations).toSeeq8003 := by
  induction operations generalizing controller spent sent taken with
  | nil =>
    rw [List.map_eq_nil_iff.mp hnotes.symm, List.append_nil]
    exact h
  | cons operation rest ih =>
    obtain ⟨first, later, rfl, hfirst, hlater⟩ := List.map_eq_append_iff.mp hnotes.symm
    have hstep := h.moves (controller.transmit_moves operation) hfirst.symm
    have hrest := ih hstep hlater.symm
    rwa [Nat.add_assoc, List.append_assoc] at hrest

/-- A frame accepted by the transmitter, later: it has been taken at most once and as
it was, it can be taken once its time on the wire is over, and behind the gap the
transmitter takes another. -/
structure TransmitsOnce (bytes : List U8) (spent : Nat) (taken : List (List U8)) (controller : Controller) : Prop where
  once : taken = [] ∨ taken = [bytes] ∧ wire_time bytes.length ≤ spent
  next : controller.take_transmitted_frame.1 = if wire_time bytes.length ≤ spent ∧ taken = [] then some bytes else none
  ready : controller.transmit_ready = true ↔ wire_time bytes.length + INTERFRAME_GAP ≤ spent ∧ taken = [bytes]

theorem Outgoing.transmits_once {spent : Nat} {taken : List (List U8)} (h : Outgoing bytes spent taken controller.toSeeq8003) :
    TransmitsOnce bytes spent taken controller := by
  have hready := @transmit_ready_iff controller.toSeeq8003
  cases h with
  | on_wire hspent hwire hnone =>
    rw [hwire] at hready
    refine ⟨Or.inl rfl, ?_, ?_⟩
    · rw [if_neg fun h => Nat.not_le.mpr hspent h.1]
      exact hnone
    · exact hready.trans ⟨fun h => (nomatch h.1), fun h => (nomatch h.2)⟩
  | waiting hspent hwire hsome hgap =>
    rw [hsome] at hready
    refine ⟨Or.inl rfl, ?_, ?_⟩
    · rw [if_pos ⟨hspent, rfl⟩]
      exact hsome
    · exact hready.trans ⟨fun h => (nomatch h.2.1), fun h => (nomatch h.2)⟩
  | gone hspent hwire hnone hgap =>
    refine ⟨Or.inr ⟨rfl, hspent⟩, ?_, ?_⟩
    · rw [if_neg fun h => (nomatch h.2)]
      exact hnone
    · rw [hready, hgap]
      refine ⟨fun h => ⟨Nat.le_of_sub_eq_zero h.2.2, rfl⟩, fun h => ⟨hwire, hnone, Nat.sub_eq_zero_of_le h.1⟩⟩

theorem outgoing_transmit (h : (controller.transmit bytes).1 = true) :
    Outgoing bytes 0 [] (controller.transmit bytes).2.toSeeq8003 := by
  have hmoves := controller.transmit_moves (.transmit bytes)
  rw [Operation.transmit_notes, if_pos h] at hmoves
  cases hmoves with
  | accepted _ hready hother =>
    have hline : (controller.transmit bytes).2.toSeeq8003 = _ := hother
    rw [hline]
    exact .on_wire (wire_time_pos _) rfl (transmit_ready_iff.mp hready).2.1

/-- The time until the receiver is ready. -/
def receive_left (controller : Controller) : Nat :=
  match controller.receiving with
  | some frame => frame.remaining + INTERFRAME_GAP
  | none => controller.receive_gap

theorem receive_left_none (h : controller.receiving = none) : controller.receive_left = controller.receive_gap := by
  unfold receive_left
  rw [h]

theorem receive_left_some {frame : IncomingFrame} (h : controller.receiving = some frame) :
    controller.receive_left = frame.remaining + INTERFRAME_GAP := by
  unfold receive_left
  rw [h]

theorem SameLink.receive_left (h : SameLink controller other) : other.receive_left = controller.receive_left := by
  unfold Controller.receive_left
  rw [h.receiving, h.receive_gap]

/-- The receiver is ready once nothing is left of the frame and the gap behind it. -/
theorem receive_ready_iff : controller.receive_ready = true ↔ controller.receive_left = 0 := by
  have hgap : 0 < INTERFRAME_GAP := by decide +kernel
  unfold receive_ready
  rw [Bool.and_eq_true, Option.isNone_iff_eq_none, beq_iff_eq]
  obtain hwire | ⟨frame, hwire⟩ := Option.eq_none_or_eq_some controller.receiving
  · rw [receive_left_none hwire]
    exact and_iff_right hwire
  · rw [receive_left_some hwire, hwire]
    exact ⟨fun h => (nomatch h.1), fun h => by omega⟩

theorem receive_left_advance_time (controller : Controller) (elapsed : Nat) :
    (controller.advance_time elapsed).receive_left = controller.receive_left - elapsed := by
  have hline : (controller.advance_time elapsed).receive_left = (controller.advance_receive elapsed).receive_left := by
    rw [advance_time_eq]
    rfl
  rw [hline]
  obtain hwire | ⟨frame, hwire⟩ := Option.eq_none_or_eq_some controller.receiving
  · rw [receive_left_none hwire, advance_receive_none hwire]
    exact receive_left_none hwire
  · rw [receive_left_some hwire]
    by_cases hcoming : elapsed < frame.remaining
    · rw [advance_receive_before hwire hcoming, receive_left_some rfl]
      simp only [IncomingFrame.lower]
      omega
    · rw [advance_receive_after hwire (Nat.le_of_not_lt hcoming), receive_left_none (finished_receiving _ _ _),
        finished_receive_gap]
      omega

/-- Unless the link takes another frame or is reset, only time brings the receiver
nearer to the next. -/
theorem receive_left_apply {operation : Operation} (h : operation.receive_notes controller = []) :
    (operation.apply controller).receive_left = controller.receive_left - operation.elapsed := by
  cases operation with
  | reset => cases h
  | read address length => exact (read_same address length controller).receive_left
  | write address data => exact (write_same address data controller).receive_left
  | receive bytes errors =>
    obtain hrefused | haccepted := receive_cases bytes errors controller
    · rw [Operation.apply, hrefused]
      rfl
    · rw [Operation.receive_notes, haccepted] at h
      cases h
  | advance_time elapsed => exact receive_left_advance_time controller elapsed
  | transmit bytes => rfl
  | take_received_frame => rfl
  | take_transmitted_frame => rfl
  | acknowledge_receive => rfl
  | acknowledge_transmit => rfl
  | transmit_underflow => rfl

/-- Over operations that leave the link alone the receiver counts down by the time they take. -/
theorem run_receive_left (operations : List Operation) (h : controller.log Operation.receive_notes operations = []) :
    (controller.run operations).receive_left = controller.receive_left - elapsed_time operations := by
  induction operations generalizing controller with
  | nil => rfl
  | cons operation rest ih =>
    obtain ⟨hfirst, hrest⟩ := List.append_eq_nil_iff.mp h
    have hlast := ih hrest
    rwa [receive_left_apply hfirst, Nat.sub_sub] at hlast

/-- An accepted frame occupies the receiver for its wire time and the gap. -/
theorem receive_left_receive {errors : U8} (h : (controller.receive bytes errors).1 = true) :
    (controller.receive bytes errors).2.receive_left = wire_time bytes.length + INTERFRAME_GAP := by
  obtain hrefused | haccepted := receive_cases bytes errors controller
  · rw [hrefused] at h
    cases h
  · rw [haccepted]
    rfl

end Controller

end se_device.seeq8003
