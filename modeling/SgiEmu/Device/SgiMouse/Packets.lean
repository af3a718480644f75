import SgiEmu.Device.SgiMouse
import Mathlib.Algebra.Ring.Prod
import Mathlib.Algebra.Ring.Int.Defs
import Mathlib.Algebra.BigOperators.Group.List.Basic

open Library.Timing se_core se_core.time

namespace se_device.sgi_mouse

/-! ## Segments in order -/

namespace Segment

def buttons : Segment → U8
  | .Motion buttons _ _ => buttons
  | .Button buttons => buttons

def motion : Segment → Int × Int
  | .Motion _ dx dy => (dx, dy)
  | .Button _ => (0, 0)

/-- The button state and the motion that a packet of the segment reports. -/
def report (segment : Segment) : U8 × Int × Int := (segment.buttons, segment.motion)

/-- Puts a segment in front of others; motion joins motion under the same buttons. -/
def join : Segment → List Segment → List Segment
  | .Motion buttons dx dy, .Motion other x y :: rest =>
    if buttons = other then .Motion buttons (dx + x) (dy + y) :: rest
    else .Motion buttons dx dy :: .Motion other x y :: rest
  | segment, rest => segment :: rest

end Segment

/-- The segments with adjacent motion under one button state added up. -/
def coalesce (segments : List Segment) : List Segment := segments.foldr Segment.join []

variable {first second rest : List Segment}

theorem join_join (buttons : U8) (dx dy x y : Int) (rest : List Segment) :
    Segment.join (.Motion buttons dx dy) (Segment.join (.Motion buttons x y) rest) =
      Segment.join (.Motion buttons (dx + x) (dy + y)) rest := by
  cases rest with
  | nil => simp only [Segment.join, if_pos]
  | cons segment rest =>
    cases segment with
    | Button other => simp only [Segment.join, if_pos]
    | Motion other u v =>
      by_cases hsame : buttons = other
      · simp only [Segment.join, hsame, if_pos, Int.add_assoc]
      · simp only [Segment.join, hsame, if_neg, if_pos, not_false_eq_true]

theorem coalesce_join_append (segment : Segment) (first second : List Segment) :
    coalesce (segment.join first ++ second) = segment.join (coalesce (first ++ second)) := by
  cases segment with
  | Button buttons => rfl
  | Motion buttons dx dy =>
    cases first with
    | nil => rfl
    | cons next rest =>
      cases next with
      | Button other => rfl
      | Motion other x y =>
        by_cases hsame : buttons = other
        · subst hsame
          simp only [Segment.join, if_pos, List.cons_append]
          exact (join_join buttons dx dy x y (coalesce (rest ++ second))).symm
        · simp only [Segment.join, hsame, if_neg, not_false_eq_true]
          rfl

theorem coalesce_coalesce_append (first second : List Segment) :
    coalesce (coalesce first ++ second) = coalesce (first ++ second) := by
  induction first with
  | nil => rfl
  | cons segment first ih =>
    calc coalesce (segment.join (coalesce first) ++ second)
      _ = segment.join (coalesce (coalesce first ++ second)) := coalesce_join_append _ _ _
      _ = segment.join (coalesce (first ++ second)) := by rw [ih]

theorem coalesce_append_right (h : coalesce first = coalesce second) (rest : List Segment) :
    coalesce (first ++ rest) = coalesce (second ++ rest) := by
  rw [← coalesce_coalesce_append first, h, coalesce_coalesce_append]

theorem coalesce_append_left (h : coalesce first = coalesce second) (start : List Segment) :
    coalesce (start ++ first) = coalesce (start ++ second) := by
  unfold coalesce at h ⊢
  rw [List.foldr_append, List.foldr_append, h]

theorem motion_join (segment : Segment) (rest : List Segment) :
    ((segment.join rest).map Segment.motion).sum = segment.motion + (rest.map Segment.motion).sum := by
  cases segment with
  | Button buttons => rfl
  | Motion buttons dx dy =>
    cases rest with
    | nil => rfl
    | cons next rest =>
      cases next with
      | Button other => rfl
      | Motion other x y =>
        by_cases hsame : buttons = other
        · simp only [Segment.join, hsame, if_pos, List.map_cons, List.sum_cons, ← add_assoc]
          rfl
        · simp only [Segment.join, hsame, if_neg, not_false_eq_true]
          rfl

/-- Joining motions loses none of it. -/
theorem motion_coalesce (segments : List Segment) :
    ((coalesce segments).map Segment.motion).sum = (segments.map Segment.motion).sum := by
  induction segments with
  | nil => rfl
  | cons segment rest ih =>
    calc ((segment.join (coalesce rest)).map Segment.motion).sum
      _ = segment.motion + ((coalesce rest).map Segment.motion).sum := motion_join _ _
      _ = segment.motion + (rest.map Segment.motion).sum := by rw [ih]

/-! ## Inputs and what they supply -/

inductive Input where
  | move_relative (delta_x delta_y : I32)
  | set_button_state (button : SgiMouseButton) (pressed : Bool)
  | advance_time (elapsed : Nat)

def Input.motion : Input → Int × Int
  | .move_relative delta_x delta_y => (delta_x.toInt, delta_y.toInt)
  | _ => (0, 0)

def Input.apply (mouse : SgiMouse) : Input → List U8 × SgiMouse
  | .move_relative delta_x delta_y => ([], mouse.move_relative delta_x delta_y)
  | .set_button_state button pressed => ([], mouse.set_button_state button pressed)
  | .advance_time elapsed => mouse.advance_time elapsed

/-- The bytes sent over a run and the mouse after it. -/
def run (mouse : SgiMouse) : List Input → List U8 × SgiMouse
  | [] => ([], mouse)
  | input :: inputs =>
    let step := input.apply mouse
    let rest := run step.2 inputs
    (step.1 ++ rest.1, rest.2)

/-- The button state once a button is pressed or released. -/
def switched (button : SgiMouseButton) (pressed : Bool) (buttons : U8) : U8 :=
  if pressed then buttons ||| button.mask else buttons &&& ~~~button.mask

/-- The motions supplied, each under the button state in force, and the transitions
of that state, in order. -/
def supplied (buttons : U8) : List Input → List Segment
  | [] => []
  | .move_relative delta_x delta_y :: inputs =>
    if delta_x = 0 ∧ delta_y = 0 then supplied buttons inputs
    else .Motion buttons delta_x.toInt delta_y.toInt :: supplied buttons inputs
  | .set_button_state button pressed :: inputs =>
    if switched button pressed buttons = buttons then supplied buttons inputs
    else .Button (switched button pressed buttons) :: supplied (switched button pressed buttons) inputs
  | .advance_time _ :: inputs => supplied buttons inputs

theorem motion_supplied (buttons : U8) (inputs : List Input) :
    ((supplied buttons inputs).map Segment.motion).sum = (inputs.map Input.motion).sum := by
  induction inputs generalizing buttons with
  | nil => rfl
  | cons input inputs ih =>
    cases input with
    | move_relative delta_x delta_y =>
      unfold supplied
      split
      case isTrue hstill =>
        rw [ih, hstill.1, hstill.2]
        exact (zero_add _).symm
      case isFalse =>
        rw [List.map_cons, List.sum_cons, List.map_cons, List.sum_cons, ih]
        rfl
    | set_button_state button pressed =>
      unfold supplied
      split
      · rw [ih]
        exact (zero_add _).symm
      · rw [List.map_cons, List.sum_cons, List.map_cons, List.sum_cons, ih]
        rfl
    | advance_time elapsed =>
      unfold supplied
      rw [ih]
      exact (zero_add _).symm

/-! ## Packets -/

/-- The button state and the motion that the five bytes of a packet report. -/
def report (bytes : Vector U8 5) : U8 × Int × Int :=
  (~~~bytes[0] &&& 7, bytes[1].toInt + bytes[3].toInt, bytes[2].toInt + bytes[4].toInt)

/-- What is left of the packet being sent, from the byte on the line on. -/
def SgiMouse.in_progress (mouse : SgiMouse) : List U8 :=
  (mouse.active.map (·.value)).toList ++
    match mouse.packet with
    | none => []
    | some packet => packet.bytes.toList.drop packet.next

def masked (buttons : U8) : Prop := buttons &&& 7 = buttons

/-- The packets begun so far carry, with the segments queued, what was supplied. -/
structure Carries (supplied : List Segment) (packets : List (Vector U8 5)) (carried : List Segment) (output : List U8)
    (mouse : SgiMouse) : Prop where
  bytes : output ++ mouse.in_progress = packets.flatMap Vector.toList
  begun : ∀ active packet, mouse.active = some active → mouse.packet = some packet → packet.next ≠ 0
  reported : packets.map report = carried.map Segment.report
  order : coalesce (carried ++ mouse.pending) = coalesce supplied
  pressed : masked mouse.buttons
  queued : ∀ segment ∈ mouse.pending, masked segment.buttons

theorem reported_buttons {buttons : U8} (h : masked buttons) : ~~~(0x80 ||| (~~~buttons &&& 0x07)) &&& 7 = buttons := by
  unfold masked at h
  revert buttons
  decide +kernel

theorem switched_eq_iff (button : SgiMouseButton) (pressed : Bool) (buttons : U8) :
    switched button pressed buttons = buttons ↔ (buttons &&& button.mask != 0) = pressed := by
  revert buttons
  cases button <;> cases pressed <;> decide +kernel

theorem masked_switched (button : SgiMouseButton) (pressed : Bool) {buttons : U8} (h : masked buttons) :
    masked (switched button pressed buttons) := by
  unfold masked at h ⊢
  revert buttons
  cases button <;> cases pressed <;> decide +kernel

theorem split_axis_spec (value : Int) :
    (BitVec.ofInt 8 (split_axis value).1).toInt + (BitVec.ofInt 8 (split_axis value).2.1).toInt = (split_axis value).2.2 := by
  have hsample (value : Int) : (BitVec.ofInt 8 (max (-128) (min value 127))).toInt = max (-128) (min value 127) := by
    rw [BitVec.toInt_ofInt_eq_self] <;> omega
  simp only [split_axis, hsample]

variable {log added pending : List Segment} {packets : List (Vector U8 5)} {carried : List Segment} {output : List U8}
  {mouse : SgiMouse} {packet : Packet} {active : ActiveByte}

theorem next_val (h : packet.next.val + 1 ≠ 5) : (packet.next + 1).val = packet.next.val + 1 := by
  have hbound := packet.next.isLt
  rw [Fin.val_add]
  exact Nat.mod_eq_of_lt (by omega)

/-- A byte that goes on the line is still of the packet being sent. -/
theorem in_progress_start_byte (mouse : SgiMouse) (packet : Packet) :
    (mouse.start_byte packet).in_progress = packet.bytes.toList.drop packet.next := by
  have hbound : packet.next.val < packet.bytes.toList.length := by simp
  have hdrop : packet.bytes.toList.drop packet.next =
      packet.bytes.get packet.next :: packet.bytes.toList.drop (packet.next.val + 1) :=
    List.drop_eq_getElem_cons hbound
  rw [hdrop]
  by_cases hlast : packet.next.val + 1 = 5
  · have hrest : packet.bytes.toList.drop (packet.next.val + 1) = [] := by
      rw [hlast]
      exact List.drop_of_length_le (by simp)
    rw [hrest]
    simp only [SgiMouse.in_progress, SgiMouse.start_byte, hlast, if_pos]
    rfl
  · simp only [SgiMouse.in_progress, SgiMouse.start_byte, hlast, if_neg, not_false_eq_true]
    rw [next_val hlast]
    rfl

theorem next_start_byte {following : Packet} (h : (mouse.start_byte packet).packet = some following) :
    following.next ≠ 0 := by
  unfold SgiMouse.start_byte at h
  by_cases hlast : packet.next.val + 1 = 5
  · simp only [hlast, if_pos, reduceCtorEq] at h
  · simp only [hlast, if_neg, not_false_eq_true, Option.some.injEq] at h
    subst h
    intro hzero
    have hvalue := (next_val hlast).symm.trans (congrArg Fin.val hzero)
    exact absurd hvalue (Nat.succ_ne_zero _)

theorem materialize_button {buttons : U8} {rest : List Segment} (h : mouse.pending = .Button buttons :: rest) :
    mouse.materialize_packet =
      { mouse with pending := rest, packet := some { bytes := #v[0x80 ||| (~~~buttons &&& 0x07), 0, 0, 0, 0], next := 0 } } := by
  unfold SgiMouse.materialize_packet
  rw [h]
  rfl

theorem materialize_motion {buttons : U8} {dx dy : Int} {rest : List Segment} (h : mouse.pending = .Motion buttons dx dy :: rest) :
    mouse.materialize_packet =
      { mouse with
        pending :=
          if dx ≠ (split_axis dx).2.2 ∨ dy ≠ (split_axis dy).2.2 then
            .Motion buttons (dx - (split_axis dx).2.2) (dy - (split_axis dy).2.2) :: rest
          else rest
        packet := some
          { bytes := #v[0x80 ||| (~~~buttons &&& 0x07), .ofInt 8 (split_axis dx).1, .ofInt 8 (split_axis dy).1,
              .ofInt 8 (split_axis dx).2.1, .ofInt 8 (split_axis dy).2.1], next := 0 } } := by
  unfold SgiMouse.materialize_packet
  rw [h]

namespace Carries

theorem supply (h : Carries log packets carried output mouse) {buttons : U8} (hbuttons : masked buttons)
    (horder : coalesce pending = coalesce (mouse.pending ++ added)) (hqueued : ∀ segment ∈ pending, masked segment.buttons) :
    Carries (log ++ added) packets carried output { mouse with buttons, pending } where
  bytes := h.bytes
  begun := h.begun
  reported := h.reported
  order :=
    calc coalesce (carried ++ pending)
      _ = coalesce (carried ++ (mouse.pending ++ added)) := coalesce_append_left horder carried
      _ = coalesce (carried ++ mouse.pending ++ added) := by rw [List.append_assoc]
      _ = coalesce (log ++ added) := coalesce_append_right h.order added
  pressed := hbuttons
  queued := hqueued

theorem start_byte (h : Carries log packets carried output mouse) (hactive : mouse.active = none)
    (hpacket : mouse.packet = some packet) : Carries log packets carried output (mouse.start_byte packet) where
  bytes := by
    have hprogress : mouse.in_progress = packet.bytes.toList.drop packet.next := by
      simp only [SgiMouse.in_progress, hactive, hpacket, Option.map_none, Option.toList_none, List.nil_append]
    rw [in_progress_start_byte, ← hprogress]
    exact h.bytes
  begun := fun _ _ _ hfollowing => next_start_byte hfollowing
  reported := h.reported
  order := h.order
  pressed := h.pressed
  queued := h.queued

/-- The next packet takes its part of the first segment. -/
theorem begin_packet (h : Carries log packets carried output mouse) (segment : Segment) (hactive : mouse.active = none)
    (hidle : mouse.in_progress = []) {bytes : Vector U8 5} (hreport : report bytes = segment.report)
    (horder : coalesce (segment :: pending) = coalesce mouse.pending)
    (hqueued : ∀ segment ∈ pending, masked segment.buttons) :
    Carries log (packets ++ [bytes]) (carried ++ [segment]) output
      { mouse with pending, packet := some { bytes, next := 0 } } where
  bytes := by
    have hbytes := h.bytes
    rw [hidle, List.append_nil] at hbytes
    rw [hbytes, List.flatMap_append, List.flatMap_singleton]
    simp only [SgiMouse.in_progress, hactive]
    rfl
  begun := by
    intro active _ hsome
    rw [hactive] at hsome
    cases hsome
  reported := by rw [List.map_append, List.map_append, h.reported, List.map_singleton, List.map_singleton, hreport]
  order :=
    calc coalesce (carried ++ [segment] ++ pending)
      _ = coalesce (carried ++ segment :: pending) := by rw [List.append_assoc, List.singleton_append]
      _ = coalesce (carried ++ mouse.pending) := coalesce_append_left horder carried
      _ = coalesce log := h.order
  pressed := h.pressed
  queued := hqueued

theorem materialize_packet (h : Carries log packets carried output mouse) (hactive : mouse.active = none)
    (hpacket : mouse.packet = none) :
    ∃ packets carried, Carries log packets carried output mouse.materialize_packet := by
  have hidle : mouse.in_progress = [] := by
    simp only [SgiMouse.in_progress, hactive, hpacket, Option.map_none, Option.toList_none, List.append_nil]
  cases hpending : mouse.pending with
  | nil =>
    unfold SgiMouse.materialize_packet
    rw [hpending]
    exact ⟨packets, carried, h⟩
  | cons segment rest =>
    have hqueued := List.forall_mem_cons.mp (hpending ▸ h.queued)
    cases segment with
    | Button pressed =>
      rw [materialize_button hpending]
      refine ⟨_, _, h.begin_packet (.Button pressed) hactive hidle ?_ ?_ hqueued.2⟩
      · exact congrArg (·, (0, 0)) (reported_buttons hqueued.1)
      · rw [hpending]
    | Motion pressed dx dy =>
      rw [materialize_motion hpending]
      refine ⟨_, _, h.begin_packet (.Motion pressed (split_axis dx).2.2 (split_axis dy).2.2) hactive hidle ?_ ?_ ?_⟩
      · exact Prod.ext (reported_buttons hqueued.1) (Prod.ext (split_axis_spec dx) (split_axis_spec dy))
      · rw [hpending]
        by_cases hleft : dx ≠ (split_axis dx).2.2 ∨ dy ≠ (split_axis dy).2.2
        · rw [if_pos hleft]
          refine (join_join _ _ _ _ _ (coalesce rest)).trans ?_
          rw [add_sub_cancel, add_sub_cancel]
          rfl
        · rw [if_neg hleft]
          rw [not_or, not_not, not_not] at hleft
          rw [← hleft.1, ← hleft.2]
      · split
        · exact List.forall_mem_cons.mpr ⟨hqueued.1, hqueued.2⟩
        · exact hqueued.2

theorem ensure_active (h : Carries log packets carried output mouse) :
    ∃ packets carried, Carries log packets carried output mouse.ensure_active := by
  unfold SgiMouse.ensure_active
  cases hactive : mouse.active with
  | some active => exact ⟨packets, carried, h⟩
  | none =>
    cases hpacket : mouse.packet with
    | some packet =>
      dsimp only
      rw [hpacket]
      exact ⟨packets, carried, h.start_byte hactive hpacket⟩
    | none =>
      dsimp only
      obtain ⟨packets, carried, hbegun⟩ := h.materialize_packet hactive hpacket
      have hidle : mouse.materialize_packet.active = none := by
        unfold SgiMouse.materialize_packet
        split
        · exact hactive
        · exact hactive
      cases hnext : mouse.materialize_packet.packet with
      | none => exact ⟨packets, carried, hbegun⟩
      | some packet => exact ⟨packets, carried, hbegun.start_byte hidle hnext⟩

theorem wait (h : Carries log packets carried output mouse) (hactive : mouse.active = some active) (left : Delay) :
    Carries log packets carried output { mouse with active := some { active with remaining_attoseconds := left } } where
  bytes := by
    have hbytes := h.bytes
    simp only [SgiMouse.in_progress, hactive, Option.map_some] at hbytes ⊢
    exact hbytes
  begun := fun _ packet _ hpacket => h.begun active packet hactive hpacket
  reported := h.reported
  order := h.order
  pressed := h.pressed
  queued := h.queued

theorem fire (h : Carries log packets carried output mouse) (hactive : mouse.active = some active) :
    Carries log packets carried (output ++ [active.value]) { mouse with active := none } where
  bytes := by
    have hbytes := h.bytes
    simp only [SgiMouse.in_progress, hactive, Option.map_some, Option.toList_some] at hbytes
    rw [← hbytes, List.append_assoc]
    rfl
  begun := nofun
  reported := h.reported
  order := h.order
  pressed := h.pressed
  queued := h.queued

theorem advance_time (h : Carries log packets carried output mouse) (elapsed : Nat) :
    ∃ packets carried, Carries log packets carried (output ++ (mouse.advance_time elapsed).1) (mouse.advance_time elapsed).2 := by
  refine @Process.advance_keeps _ _ SgiMouse.process mouse
    (fun output mouse => ∃ packets carried, Carries log packets carried output mouse) ?_ ?_ ?_
    SgiMouse.process_lawful.settle_settle output ⟨packets, carried, h⟩ elapsed
  · rintro output mouse ⟨packets, carried, h⟩
    exact h.ensure_active
  · rintro output mouse next elapsed hdeadline hbefore ⟨packets, carried, h⟩
    obtain ⟨active, hactive, rfl⟩ := SgiMouse.deadline_eq_some hdeadline
    rw [SgiMouse.wait_some hactive hbefore]
    exact ⟨packets, carried, h.wait hactive _⟩
  · rintro output mouse next hdeadline ⟨packets, carried, h⟩
    obtain ⟨active, hactive, rfl⟩ := SgiMouse.deadline_eq_some hdeadline
    simp only [SgiMouse.process, hactive, Option.map_some, Option.toList_some]
    exact ⟨packets, carried, h.fire hactive⟩

end Carries

/-! ## Runs -/

theorem checked_add_some {value delta next : Int} (h : SgiMouse.checked_add value delta = some next) :
    next = value + delta := by
  unfold SgiMouse.checked_add at h
  split at h
  · exact (Option.some.inj h).symm
  · cases h

/-- Motion is queued on its own or joins the last segment. -/
theorem move_relative_spec (delta_x delta_y : I32) (mouse : SgiMouse) :
    ∃ pending, mouse.move_relative delta_x delta_y = { mouse with pending } ∧
      coalesce pending = coalesce (mouse.pending ++ supplied mouse.buttons [.move_relative delta_x delta_y]) ∧
      ∀ segment ∈ pending, segment.buttons = mouse.buttons ∨ segment ∈ mouse.pending := by
  by_cases hstill : delta_x = 0 ∧ delta_y = 0
  · refine ⟨mouse.pending, by rw [SgiMouse.move_relative, if_pos hstill], ?_, fun _ => Or.inr⟩
    rw [supplied, if_pos hstill, supplied, List.append_nil]
  have hseparate : ∀ segment ∈ mouse.pending ++ [.Motion mouse.buttons delta_x.toInt delta_y.toInt],
      segment.buttons = mouse.buttons ∨ segment ∈ mouse.pending := by
    intro segment hsegment
    rcases List.mem_append.mp hsegment with hold | hnew
    · exact Or.inr hold
    · rw [List.mem_singleton.mp hnew]
      exact Or.inl rfl
  unfold SgiMouse.move_relative supplied
  rw [if_neg hstill, if_neg hstill, supplied]
  dsimp only
  split
  · case h_1 buttons dx dy hlast =>
    split
    · case h_1 next_dx next_dy hnext_x hnext_y =>
      split
      · case isTrue hsame =>
        have hpending := List.dropLast_append_getLast? _ hlast
        refine ⟨_, rfl, ?_, fun segment hsegment => ?_⟩
        · rw [checked_add_some hnext_x, checked_add_some hnext_y, ← hsame]
          nth_rewrite 2 [← hpending]
          rw [List.append_assoc]
          refine coalesce_append_left ?_ _
          simp only [List.singleton_append, coalesce, List.foldr_cons, List.foldr_nil, Segment.join, if_pos]
        · rcases List.mem_append.mp hsegment with hold | hnew
          · exact Or.inr (List.dropLast_subset _ hold)
          · rw [List.mem_singleton.mp hnew]
            exact Or.inl hsame
      · exact ⟨_, rfl, rfl, hseparate⟩
    · exact ⟨_, rfl, rfl, hseparate⟩
  · exact ⟨_, rfl, rfl, hseparate⟩

theorem set_button_state_spec (button : SgiMouseButton) (pressed : Bool) (mouse : SgiMouse) :
    mouse.set_button_state button pressed =
      { mouse with
        buttons := switched button pressed mouse.buttons
        pending := mouse.pending ++ supplied mouse.buttons [.set_button_state button pressed] } := by
  have hiff := switched_eq_iff button pressed mouse.buttons
  unfold SgiMouse.set_button_state supplied
  by_cases hheld : (mouse.buttons &&& button.mask != 0) = pressed
  · rw [if_pos (hiff.mpr hheld), hiff.mpr hheld, supplied, List.append_nil]
    exact if_pos (beq_iff_eq.mpr hheld)
  · rw [if_neg (fun h => hheld (hiff.mp h)), supplied]
    exact if_neg (fun h => hheld (beq_iff_eq.mp h))

theorem ensure_active_buttons (mouse : SgiMouse) : mouse.ensure_active.buttons = mouse.buttons := by
  obtain ⟨buttons, pending, packet, active, remainder⟩ := mouse
  cases active with
  | some active => rfl
  | none =>
    cases packet with
    | some packet => rfl
    | none =>
      cases pending with
      | nil => rfl
      | cons segment pending => rfl

theorem advance_time_buttons (elapsed : Nat) (mouse : SgiMouse) : (mouse.advance_time elapsed).2.buttons = mouse.buttons := by
  refine @Process.advance_keeps _ _ SgiMouse.process mouse (fun _ state => state.buttons = mouse.buttons) ?_ ?_ ?_
    SgiMouse.process_lawful.settle_settle [] rfl elapsed
  · intro _ state h
    exact (ensure_active_buttons state).trans h
  · intro _ state _ _ _ _ h
    exact h
  · intro _ state _ _ h
    exact h

/-- The button state an input leaves. -/
def Input.switch (buttons : U8) : Input → U8
  | .set_button_state button pressed => switched button pressed buttons
  | _ => buttons

theorem supplied_cons (buttons : U8) (input : Input) (inputs : List Input) :
    supplied buttons (input :: inputs) = supplied buttons [input] ++ supplied (input.switch buttons) inputs := by
  cases input with
  | move_relative delta_x delta_y =>
    by_cases hstill : delta_x = 0 ∧ delta_y = 0
    · simp only [supplied, hstill, and_self, if_pos]
      rfl
    · simp only [supplied, hstill, if_neg, not_false_eq_true]
      rfl
  | set_button_state button pressed =>
    by_cases hheld : switched button pressed buttons = buttons
    · simp only [supplied, hheld, if_pos, Input.switch]
      rfl
    · simp only [supplied, hheld, if_neg, not_false_eq_true, Input.switch]
      rfl
  | advance_time elapsed => rfl

theorem masked_supplied {buttons : U8} (h : masked buttons) (input : Input) :
    ∀ segment ∈ supplied buttons [input], masked segment.buttons := by
  cases input with
  | move_relative delta_x delta_y =>
    unfold supplied
    split
    · exact nofun
    · exact List.forall_mem_cons.mpr ⟨h, nofun⟩
  | set_button_state button pressed =>
    unfold supplied
    split
    · exact nofun
    · exact List.forall_mem_cons.mpr ⟨masked_switched button pressed h, nofun⟩
  | advance_time elapsed => exact nofun

theorem Carries.apply (h : Carries log packets carried output mouse) (input : Input) :
    (input.apply mouse).2.buttons = input.switch mouse.buttons ∧
      ∃ packets carried, Carries (log ++ supplied mouse.buttons [input]) packets carried
        (output ++ (input.apply mouse).1) (input.apply mouse).2 := by
  cases input with
  | move_relative delta_x delta_y =>
    obtain ⟨pending, hmove, horder, hbuttons⟩ := move_relative_spec delta_x delta_y mouse
    have hqueued : ∀ segment ∈ pending, masked segment.buttons := by
      intro segment hsegment
      rcases hbuttons segment hsegment with heq | hold
      · rw [heq]
        exact h.pressed
      · exact h.queued segment hold
    simp only [Input.apply, hmove, List.append_nil]
    exact ⟨rfl, packets, carried, h.supply h.pressed horder hqueued⟩
  | set_button_state button pressed =>
    simp only [Input.apply, set_button_state_spec, List.append_nil]
    refine ⟨rfl, packets, carried, h.supply (masked_switched button pressed h.pressed) rfl ?_⟩
    exact List.forall_mem_append.mpr ⟨h.queued, masked_supplied h.pressed _⟩
  | advance_time elapsed =>
    obtain ⟨packets, carried, hsent⟩ := h.advance_time elapsed
    refine ⟨advance_time_buttons elapsed mouse, packets, carried, ?_⟩
    rw [supplied, supplied, List.append_nil]
    exact hsent

theorem Carries.run (h : Carries log packets carried output mouse) (inputs : List Input) :
    ∃ packets carried, Carries (log ++ supplied mouse.buttons inputs) packets carried
      (output ++ (run mouse inputs).1) (run mouse inputs).2 := by
  induction inputs generalizing log packets carried output mouse with
  | nil =>
    refine ⟨packets, carried, ?_⟩
    rw [supplied, sgi_mouse.run, List.append_nil, List.append_nil]
    exact h
  | cons input inputs ih =>
    obtain ⟨hbuttons, packets, carried, hstep⟩ := h.apply input
    have hrest := ih hstep
    rw [hbuttons, List.append_assoc, List.append_assoc, ← supplied_cons] at hrest
    exact hrest

theorem Carries.in_progress_length (h : Carries log packets carried output mouse) : mouse.in_progress.length ≤ 5 := by
  unfold SgiMouse.in_progress
  cases hpacket : mouse.packet with
  | none => cases mouse.active <;> simp
  | some packet =>
    have hlength : packet.bytes.toList.length = 5 := by simp
    cases hactive : mouse.active with
    | none =>
      simp only [Option.map_none, Option.toList_none, List.nil_append, List.length_drop]
      omega
    | some active =>
      have hbegun := Fin.pos_iff_ne_zero.mpr (h.begun active packet hactive hpacket)
      have hpositive : 0 < packet.next.val := hbegun
      simp only [Option.map_some, Option.toList_some, List.singleton_append, List.length_cons, List.length_drop]
      omega

/-- One list of inputs after another. -/
theorem run_append (mouse : SgiMouse) (first second : List Input) :
    run mouse (first ++ second) =
      ((run mouse first).1 ++ (run (run mouse first).2 second).1, (run (run mouse first).2 second).2) := by
  induction first generalizing mouse with
  | nil => rfl
  | cons input first ih =>
    rw [List.cons_append, run, ih, run]
    simp only [List.append_assoc]

/-- Time that passes in pieces is the time that passes in all. -/
theorem run_pieces (mouse : SgiMouse) (piece : Nat) (pieces : List Nat) :
    run mouse ((piece :: pieces).map .advance_time) = run mouse [.advance_time (piece :: pieces).sum] := by
  induction pieces generalizing piece mouse with
  | nil => rfl
  | cons next pieces ih =>
    have hadd := Process.advance_add SgiMouse.process_lawful piece (next :: pieces).sum mouse
    rw [List.map_cons, run, ih]
    simp only [run, Input.apply, List.append_nil, List.sum_cons, SgiMouse.advance_time] at hadd ⊢
    rw [hadd]

end se_device.sgi_mouse
