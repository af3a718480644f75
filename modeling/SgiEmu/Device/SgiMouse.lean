import SgiEmu.Core.Time
import SgiEmu.Core.Word
import SgiEmu.Library.Timing

open Library.Timing se_core se_core.time

namespace se_device.sgi_mouse

def BAUD : Nat := 4800
def FRAME_BITS : Nat := 10

inductive SgiMouseButton where
  | Left | Middle | Right
deriving DecidableEq, Repr

def SgiMouseButton.mask : SgiMouseButton → U8
  | .Left => 1 <<< 2
  | .Middle => 1 <<< 1
  | .Right => 1

inductive Segment where
  | Motion (buttons : U8) (dx dy : Int)
  | Button (buttons : U8)
deriving DecidableEq, Repr

structure Packet where
  bytes : Vector U8 5
  next : Fin 5

structure ActiveByte where
  value : U8
  remaining_attoseconds : Delay

/-- The three-button mouse protocol endpoint. -/
structure SgiMouse where
  buttons : U8
  pending : List Segment
  packet : Option Packet
  active : Option ActiveByte
  timing_remainder : Nat

/-- Clamps a displacement to what two `i8` samples carry; the third component is
what they carry of it. -/
def split_axis (value : Int) : Int × Int × Int :=
  let clamp (value : Int) : Int := max (-128) (min value 127)
  let first := clamp value
  let second := clamp (value - first)
  (first, second, first + second)

/-- The time a frame takes with the remainder carried into it. -/
def frame_delay (timing_remainder : Nat) : Delay :=
  ⟨(FRAME_BITS * ATTOSECONDS_PER_SECOND + timing_remainder) / BAUD, by
    apply Nat.div_pos _ (by decide)
    exact Nat.le_trans (by decide) (Nat.le_add_right _ _)⟩

namespace SgiMouse

def new : SgiMouse := { buttons := 0, pending := [], packet := none, active := none, timing_remainder := 0 }

def reset (_mouse : SgiMouse) : SgiMouse := new

/-- `checked_add` on `i64`. -/
def checked_add (value delta : Int) : Option Int :=
  if -0x8000000000000000 ≤ value + delta ∧ value + delta < 0x8000000000000000 then some (value + delta) else none

/-- Queues relative motion; motion under the buttons of the last segment joins it. -/
def move_relative (delta_x delta_y : I32) (mouse : SgiMouse) : SgiMouse :=
  if delta_x = 0 ∧ delta_y = 0 then mouse
  else
    let separate :=
      { mouse with pending := mouse.pending ++ [.Motion mouse.buttons delta_x.toInt delta_y.toInt] }
    match mouse.pending.getLast? with
    | some (.Motion buttons dx dy) =>
      match checked_add dx delta_x.toInt, checked_add dy delta_y.toInt with
      | some next_dx, some next_dy =>
        if buttons = mouse.buttons then
          { mouse with pending := mouse.pending.dropLast ++ [.Motion buttons next_dx next_dy] }
        else separate
      | _, _ => separate
    | _ => separate

/-- Applies a physical button state; a duplicate state is ignored. -/
def set_button_state (button : SgiMouseButton) (pressed : Bool) (mouse : SgiMouse) : SgiMouse :=
  let was_pressed := mouse.buttons &&& button.mask != 0
  if was_pressed == pressed then mouse
  else
    let buttons := if pressed then mouse.buttons ||| button.mask else mouse.buttons &&& ~~~button.mask
    { mouse with buttons, pending := mouse.pending ++ [.Button buttons] }

/-- Builds the packet of the next segment; motion it cannot carry stays pending. -/
def materialize_packet (mouse : SgiMouse) : SgiMouse :=
  match mouse.pending with
  | [] => mouse
  | segment :: pending =>
    let (buttons, dx, dy) := match segment with
      | .Button buttons => (buttons, 0, 0)
      | .Motion buttons dx dy => (buttons, dx, dy)
    let (x1, x2, used_x) := split_axis dx
    let (y1, y2, used_y) := split_axis dy
    let pending := match segment with
      | .Button _ => pending
      | .Motion _ _ _ =>
        if dx ≠ used_x ∨ dy ≠ used_y then .Motion buttons (dx - used_x) (dy - used_y) :: pending else pending
    { mouse with
      pending
      packet := some
        { bytes := #v[0x80 ||| (~~~buttons &&& 0x07), .ofInt 8 x1, .ofInt 8 y1, .ofInt 8 x2, .ofInt 8 y2], next := 0 } }

/-- Puts the next byte of a packet on the line. -/
def start_byte (packet : Packet) (mouse : SgiMouse) : SgiMouse :=
  { mouse with
    packet := if packet.next.val + 1 = 5 then none else some { packet with next := packet.next + 1 }
    timing_remainder := (FRAME_BITS * ATTOSECONDS_PER_SECOND + mouse.timing_remainder) % BAUD
    active := some
      { value := packet.bytes.get packet.next, remaining_attoseconds := frame_delay mouse.timing_remainder } }

def ensure_active (mouse : SgiMouse) : SgiMouse :=
  match mouse.active with
  | some _ => mouse
  | none =>
    let mouse := match mouse.packet with
      | some _ => mouse
      | none => mouse.materialize_packet
    match mouse.packet with
    | none => mouse
    | some packet => mouse.start_byte packet

/-- One turn of the loop of `advance_time` and what it does at the next event. -/
def process : Process SgiMouse U8 where
  settle := ensure_active
  deadline mouse := mouse.active.map (·.remaining_attoseconds)
  wait elapsed mouse :=
    { mouse with
      active := mouse.active.bind fun active =>
        (active.remaining_attoseconds.pass elapsed).map fun remaining_attoseconds =>
          { active with remaining_attoseconds } }
  fire _ mouse :=
    ((mouse.active.map (·.value)).toList, { mouse with active := none })

/-- Advances mouse protocol time and reports completed characters. -/
def advance_time : Nat → SgiMouse → List U8 × SgiMouse := process.advance

def time_until_event (mouse : SgiMouse) : Option Delay :=
  match mouse.active with
  | some active => some active.remaining_attoseconds
  | none => if mouse.packet.isSome ∨ mouse.pending ≠ [] then some (frame_delay mouse.timing_remainder) else none

variable {mouse : SgiMouse} {active : ActiveByte} {next : Delay} {elapsed : Nat}

theorem ensure_active_some (h : mouse.active = some active) : mouse.ensure_active = mouse := by
  unfold ensure_active
  rw [h]

/-- After `ensure_active` the mouse has nothing to send or a byte on the line. -/
theorem ensure_active_cases (mouse : SgiMouse) :
    (mouse.time_until_event = none ∧ mouse.ensure_active = mouse ∧ mouse.active = none) ∨
      ∃ active, mouse.time_until_event = some active.remaining_attoseconds ∧ mouse.ensure_active.active = some active := by
  obtain ⟨buttons, pending, packet, active, remainder⟩ := mouse
  cases active with
  | some active => exact Or.inr ⟨active, rfl, rfl⟩
  | none =>
    cases packet with
    | some packet => exact Or.inr ⟨_, rfl, rfl⟩
    | none =>
      cases pending with
      | nil => exact Or.inl ⟨rfl, rfl, rfl⟩
      | cons segment pending => exact Or.inr ⟨_, rfl, rfl⟩

theorem deadline_eq_some (h : process.deadline mouse = some next) :
    ∃ active, mouse.active = some active ∧ active.remaining_attoseconds = next := by
  cases hactive : mouse.active with
  | none =>
    simp only [process, hactive, Option.map_none, reduceCtorEq] at h
  | some active =>
    simp only [process, hactive, Option.map_some, Option.some.injEq] at h
    exact ⟨active, rfl, h⟩

theorem wait_some (h : mouse.active = some active) (hbefore : elapsed < active.remaining_attoseconds.val) :
    process.wait elapsed mouse =
      { mouse with
        active := some { active with
          remaining_attoseconds := ⟨active.remaining_attoseconds.val - elapsed, Nat.sub_pos_of_lt hbefore⟩ } } := by
  simp only [process, h, Option.bind_some, pass_of_lt hbefore, Option.map_some]

theorem process_lawful : process.Lawful where
  settle_settle := by
    intro mouse
    obtain ⟨_, hidle, _⟩ | ⟨active, _, hactive⟩ := ensure_active_cases mouse
    · simp only [process, hidle]
    · exact ensure_active_some hactive
  settle_wait := by
    intro mouse next elapsed _ hdeadline hbefore
    obtain ⟨active, hactive, rfl⟩ := deadline_eq_some hdeadline
    rw [wait_some hactive hbefore]
    rfl
  deadline_wait := by
    intro mouse next elapsed hdeadline hbefore
    obtain ⟨active, hactive, rfl⟩ := deadline_eq_some hdeadline
    rw [wait_some hactive hbefore, pass_of_lt hbefore]
    rfl
  wait_wait := by
    intro mouse next first second hdeadline hbefore
    obtain ⟨active, hactive, rfl⟩ := deadline_eq_some hdeadline
    have hfirst : first < active.remaining_attoseconds.val := by omega
    have hsecond : second < active.remaining_attoseconds.val - first := by omega
    rw [wait_some hactive hfirst, wait_some rfl hsecond, wait_some hactive hbefore]
    simp only [Nat.sub_sub]
  fire_wait := by
    intro mouse next elapsed hbefore hdeadline
    obtain ⟨active, hactive, rfl⟩ := deadline_eq_some hdeadline
    rw [wait_some hactive hbefore]
    simp only [process, hactive, Option.map_some]

theorem time_until_event_settle (mouse : SgiMouse) : process.deadline (process.settle mouse) = mouse.time_until_event := by
  obtain ⟨htime, hidle, hactive⟩ | ⟨active, htime, hactive⟩ := ensure_active_cases mouse
  · simp only [process, hidle, hactive, htime, Option.map_none]
  · simp only [process, hactive, htime, Option.map_some]

end SgiMouse

end se_device.sgi_mouse
