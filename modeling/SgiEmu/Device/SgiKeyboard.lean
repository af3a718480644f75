import SgiEmu.Core.Time
import SgiEmu.Core.Word
import SgiEmu.Library.Timing

open Library.Timing se_core se_core.time

namespace se_device.sgi_keyboard

def BAUD : Nat := 600
def FRAME_BITS : Nat := 11
def REPEAT_RATE : Nat := 28

def REPEAT_DELAY_ATTOSECONDS : Delay := ⟨13 * ATTOSECONDS_PER_SECOND / 20, by decide⟩

/-- A physical key on the fixed US SGI Indigo keyboard. -/
inductive SgiKey where
  | LeftControl | CapsLock | RightShift | LeftShift | Escape | Digit1 | Tab | KeyQ | KeyA | KeyS | Digit2 | Digit3
  | KeyW | KeyE | KeyD | KeyF | KeyZ | KeyX | Digit4 | Digit5 | KeyR | KeyT | KeyG | KeyH | KeyC | KeyV | Digit6
  | Digit7 | KeyY | KeyU | KeyJ | KeyK | KeyB | KeyN | Digit8 | Digit9 | KeyI | KeyO | KeyL | Semicolon | KeyM
  | Comma | Digit0 | Minus | KeyP | LeftBracket | Apostrophe | Enter | Period | Slash | Equal | Grave | RightBracket
  | Backslash | Keypad1 | Keypad0 | Backspace | Delete | Keypad4 | Keypad2 | Keypad3 | KeypadPeriod | Keypad7
  | Keypad8 | Keypad5 | Keypad6 | ArrowLeft | ArrowDown | Keypad9 | KeypadMinus | ArrowRight | ArrowUp | KeypadEnter
  | Space | LeftAlt | RightAlt | RightControl | F1 | F2 | F3 | F4 | F5 | F6 | F7 | F8 | F9 | F10 | F11 | F12
  | PrintScreen | ScrollLock | Pause | Insert | Home | PageUp | End | PageDown | NumLock | KeypadSlash
  | KeypadAsterisk | KeypadPlus
deriving DecidableEq, Repr

namespace SgiKey

/-- `key as u8` -/
def code : SgiKey → Nat
  | .LeftControl => 2 | .CapsLock => 3 | .RightShift => 4 | .LeftShift => 5 | .Escape => 6 | .Digit1 => 7
  | .Tab => 8 | .KeyQ => 9 | .KeyA => 10 | .KeyS => 11 | .Digit2 => 13 | .Digit3 => 14 | .KeyW => 15 | .KeyE => 16
  | .KeyD => 17 | .KeyF => 18 | .KeyZ => 19 | .KeyX => 20 | .Digit4 => 21 | .Digit5 => 22 | .KeyR => 23
  | .KeyT => 24 | .KeyG => 25 | .KeyH => 26 | .KeyC => 27 | .KeyV => 28 | .Digit6 => 29 | .Digit7 => 30
  | .KeyY => 31 | .KeyU => 32 | .KeyJ => 33 | .KeyK => 34 | .KeyB => 35 | .KeyN => 36 | .Digit8 => 37
  | .Digit9 => 38 | .KeyI => 39 | .KeyO => 40 | .KeyL => 41 | .Semicolon => 42 | .KeyM => 43 | .Comma => 44
  | .Digit0 => 45 | .Minus => 46 | .KeyP => 47 | .LeftBracket => 48 | .Apostrophe => 49 | .Enter => 50
  | .Period => 51 | .Slash => 52 | .Equal => 53 | .Grave => 54 | .RightBracket => 55 | .Backslash => 56
  | .Keypad1 => 57 | .Keypad0 => 58 | .Backspace => 60 | .Delete => 61 | .Keypad4 => 62 | .Keypad2 => 63
  | .Keypad3 => 64 | .KeypadPeriod => 65 | .Keypad7 => 66 | .Keypad8 => 67 | .Keypad5 => 68 | .Keypad6 => 69
  | .ArrowLeft => 72 | .ArrowDown => 73 | .Keypad9 => 74 | .KeypadMinus => 75 | .ArrowRight => 79 | .ArrowUp => 80
  | .KeypadEnter => 81 | .Space => 82 | .LeftAlt => 83 | .RightAlt => 84 | .RightControl => 85 | .F1 => 86
  | .F2 => 87 | .F3 => 88 | .F4 => 89 | .F5 => 90 | .F6 => 91 | .F7 => 92 | .F8 => 93 | .F9 => 94 | .F10 => 95
  | .F11 => 96 | .F12 => 97 | .PrintScreen => 98 | .ScrollLock => 99 | .Pause => 100 | .Insert => 101 | .Home => 102
  | .PageUp => 103 | .End => 104 | .PageDown => 105 | .NumLock => 106 | .KeypadSlash => 107 | .KeypadAsterisk => 108
  | .KeypadPlus => 109

def repeatable : SgiKey → Bool
  | .LeftControl | .RightControl | .LeftShift | .RightShift | .LeftAlt | .RightAlt | .CapsLock | .Escape | .Tab
  | .KeypadEnter | .PrintScreen | .ScrollLock | .Pause | .Insert | .Home | .PageUp | .End | .PageDown | .NumLock => false
  | _ => true

end SgiKey

structure ActiveByte where
  value : U8
  remaining_attoseconds : Delay

structure TimedOutput where
  queued : List U8
  active : Option ActiveByte
  timing_remainder : Nat

/-- The time a frame takes with the remainder carried into it. -/
def frame_delay (timing_remainder : Nat) : Delay :=
  ⟨(FRAME_BITS * ATTOSECONDS_PER_SECOND + timing_remainder) / BAUD, by
    apply Nat.div_pos _ (by decide)
    exact Nat.le_trans (by decide) (Nat.le_add_right _ _)⟩

namespace TimedOutput

def new : TimedOutput := { queued := [], active := none, timing_remainder := 0 }

def push (output : TimedOutput) (value : U8) : TimedOutput := { output with queued := output.queued ++ [value] }

def ensure_active (output : TimedOutput) : TimedOutput :=
  match output.active, output.queued with
  | some _, _ => output
  | none, [] => output
  | none, value :: queued =>
    { queued
      active := some { value, remaining_attoseconds := frame_delay output.timing_remainder }
      timing_remainder := (FRAME_BITS * ATTOSECONDS_PER_SECOND + output.timing_remainder) % BAUD }

def time_until_event (output : TimedOutput) : Option Delay :=
  match output.active, output.queued with
  | some active, _ => some active.remaining_attoseconds
  | none, [] => none
  | none, _ :: _ => some (frame_delay output.timing_remainder)

def elapse_active (elapsed : Nat) (active : ActiveByte) (output : TimedOutput) : List U8 × TimedOutput :=
  match active.remaining_attoseconds.pass elapsed with
  | some remaining_attoseconds => ([], { output with active := some { active with remaining_attoseconds } })
  | none => ([active.value], { output with active := none })

def elapse (elapsed : Nat) (output : TimedOutput) : List U8 × TimedOutput :=
  let output := output.ensure_active
  match output.active with
  | none => ([], output)
  | some active => output.elapse_active elapsed active

end TimedOutput

/-- The keyboard protocol endpoint. -/
structure SgiKeyboard where
  pressed : Vector U64 2
  output : TimedOutput
  repeat_enabled : Bool
  repeat_candidate : Option SgiKey
  repeat_remaining_attoseconds : Option Delay
  repeat_timing_remainder : Nat
  click_disabled : Bool
  leds : Vector Bool 7

namespace SgiKeyboard

def new : SgiKeyboard :=
  { pressed := #v[0, 0], output := .new, repeat_enabled := false, repeat_candidate := none, repeat_remaining_attoseconds := none
    repeat_timing_remainder := 0, click_disabled := false, leds := .replicate 7 false }

def reset (_keyboard : SgiKeyboard) : SgiKeyboard := new

def stop_repeat (keyboard : SgiKeyboard) : SgiKeyboard :=
  { keyboard with repeat_candidate := none, repeat_remaining_attoseconds := none, repeat_timing_remainder := 0 }

/-- Applies a physical key state; a duplicate state is ignored. -/
def set_key_state (key : SgiKey) (pressed : Bool) (keyboard : SgiKeyboard) : SgiKeyboard :=
  let word := Fin.ofNat 2 (key.code / 64)
  let mask : U64 := 1 <<< (key.code % 64)
  let was_pressed := keyboard.pressed.get word &&& mask != 0
  if was_pressed == pressed then keyboard
  else if pressed then
    let keyboard : SgiKeyboard :=
      { keyboard with
        pressed := keyboard.pressed.set word (keyboard.pressed.get word ||| mask)
        output := keyboard.output.push (.ofNat 8 key.code) }
    if keyboard.repeat_enabled && key.repeatable then
      { keyboard with
        repeat_candidate := some key, repeat_remaining_attoseconds := some REPEAT_DELAY_ATTOSECONDS
        repeat_timing_remainder := 0 }
    else keyboard
  else
    let keyboard : SgiKeyboard :=
      { keyboard with
        pressed := keyboard.pressed.set word (keyboard.pressed.get word &&& ~~~mask)
        output := keyboard.output.push (.ofNat 8 key.code ||| 0x80) }
    if keyboard.repeat_candidate = some key then
      keyboard.stop_repeat
    else keyboard

/-- Receives a command character from the host. -/
def receive_command (command : U8) (keyboard : SgiKeyboard) : SgiKeyboard :=
  let leds := keyboard.leds
  if command &&& 1 = 0 then
    let repeat_enabled := command.getLsbD 7
    let output := if command.getLsbD 4 then (keyboard.output.push 0x6e).push 0 else keyboard.output
    let keyboard :=
      if keyboard.repeat_enabled && !repeat_enabled then
        keyboard.stop_repeat
      else keyboard
    { keyboard with
      click_disabled := command.getLsbD 3, output, repeat_enabled
      leds := (leds.set 0 (command.getLsbD 5)).set 1 (command.getLsbD 6) }
  else
    let leds := if command.getLsbD 1 then (leds.set 0 (!leds[0])).set 1 (!leds[1]) else leds
    { keyboard with
      leds := ((((leds.set 2 (command.getLsbD 2)).set 3 (command.getLsbD 3)).set 4 (command.getLsbD 4)).set 5
        (command.getLsbD 5)).set 6 (command.getLsbD 6) }

/-- Queues the repeated key and starts the next repeat period. -/
def repeat_key (keyboard : SgiKeyboard) : SgiKeyboard :=
  match keyboard.repeat_candidate with
  | none => { keyboard with repeat_remaining_attoseconds := none }
  | some key =>
    let numerator := ATTOSECONDS_PER_SECOND + keyboard.repeat_timing_remainder
    { keyboard with
      output := keyboard.output.push (.ofNat 8 key.code)
      repeat_timing_remainder := numerator % REPEAT_RATE
      repeat_remaining_attoseconds := some ⟨numerator / REPEAT_RATE, by
        apply Nat.div_pos _ (by decide)
        exact Nat.le_trans (by decide) (Nat.le_add_right _ _)⟩ }

/-- One turn of the loop of `advance_time` and what it does at the next event. -/
def process : Process SgiKeyboard U8 where
  settle keyboard := { keyboard with output := keyboard.output.ensure_active }
  deadline keyboard := earliest keyboard.output.time_until_event keyboard.repeat_remaining_attoseconds
  wait elapsed keyboard :=
    { keyboard with
      output := (keyboard.output.elapse elapsed).2
      repeat_remaining_attoseconds := passed keyboard.repeat_remaining_attoseconds elapsed }
  fire next keyboard :=
    let due := keyboard.output.elapse next.val
    let keyboard := { keyboard with output := due.2 }
    match keyboard.repeat_remaining_attoseconds with
    | none => (due.1, keyboard)
    | some remaining =>
      match remaining.pass next.val with
      | some left => (due.1, { keyboard with repeat_remaining_attoseconds := some left })
      | none => (due.1, keyboard.repeat_key)

/-- Advances keyboard protocol time and reports completed characters. -/
def advance_time : Nat → SgiKeyboard → List U8 × SgiKeyboard := process.advance

def time_until_event (keyboard : SgiKeyboard) : Option Delay :=
  earliest keyboard.output.time_until_event keyboard.repeat_remaining_attoseconds

end SgiKeyboard

namespace TimedOutput

variable {output : TimedOutput} {active : ActiveByte} {elapsed : Nat}

theorem ensure_active_some (h : output.active = some active) : output.ensure_active = output := by
  unfold ensure_active
  rw [h]

/-- After `ensure_active` an output is idle or has a character on the line. -/
theorem ensure_active_cases (output : TimedOutput) :
    (output.time_until_event = none ∧ output.ensure_active = output ∧ output.active = none) ∨
      ∃ active, output.time_until_event = some active.remaining_attoseconds ∧ output.ensure_active.active = some active := by
  obtain ⟨queued, active, remainder⟩ := output
  cases active with
  | some active => exact Or.inr ⟨active, rfl, rfl⟩
  | none =>
    cases queued with
    | nil => exact Or.inl ⟨rfl, rfl, rfl⟩
    | cons value queued => exact Or.inr ⟨_, rfl, rfl⟩

theorem ensure_active_ensure_active (output : TimedOutput) : output.ensure_active.ensure_active = output.ensure_active := by
  obtain ⟨_, hidle, _⟩ | ⟨active, _, hactive⟩ := ensure_active_cases output
  · rw [hidle, hidle]
  · exact ensure_active_some hactive

theorem time_until_event_ensure_active (output : TimedOutput) :
    output.ensure_active.time_until_event = output.time_until_event := by
  obtain ⟨_, hidle, _⟩ | ⟨active, htime, hactive⟩ := ensure_active_cases output
  · rw [hidle]
  · unfold time_until_event at htime ⊢
    rw [hactive, htime]

theorem elapse_some (h : output.ensure_active.active = some active) (elapsed : Nat) :
    output.elapse elapsed = output.ensure_active.elapse_active elapsed active := by
  unfold elapse
  simp only [h]

/-- Before its next character ends an output only waits. -/
theorem elapse_before (h : Before elapsed output.time_until_event) :
    (output.elapse elapsed).1 = [] ∧
      (output.elapse elapsed).2.time_until_event = passed output.time_until_event elapsed ∧
      (output.elapse elapsed).2.ensure_active = (output.elapse elapsed).2 ∧
      ∀ more, (output.elapse elapsed).2.elapse more = output.elapse (elapsed + more) := by
  obtain ⟨htime, hidle, hactive⟩ | ⟨active, htime, hactive⟩ := ensure_active_cases output
  · have helapse : ∀ elapsed, output.elapse elapsed = ([], output) := by
      intro elapsed
      unfold elapse
      simp only [hidle, hactive]
    simp only [helapse, htime, hidle]
    exact ⟨trivial, rfl, trivial, fun _ => trivial⟩
  · rw [htime] at h ⊢
    have hbefore := before_some.mp h
    have hwait : output.elapse elapsed =
        ([], { output.ensure_active with
                active := some { active with
                  remaining_attoseconds := ⟨active.remaining_attoseconds.val - elapsed, Nat.sub_pos_of_lt hbefore⟩ } }) := by
      rw [elapse_some hactive, elapse_active, pass_of_lt hbefore]
    rw [hwait]
    refine ⟨rfl, (pass_of_lt hbefore).symm, rfl, ?_⟩
    intro more
    rw [elapse_some hactive, elapse_some rfl]
    simp only [elapse_active, pass_pass hbefore]
    cases active.remaining_attoseconds.pass (elapsed + more) <;> rfl

end TimedOutput

namespace SgiKeyboard

theorem process_lawful : process.Lawful where
  settle_settle := by
    intro keyboard
    simp only [process, TimedOutput.ensure_active_ensure_active]
  settle_wait := by
    intro keyboard next elapsed _ hdeadline hbefore
    have h : Before elapsed (process.deadline keyboard) := hdeadline ▸ before_some.mpr hbefore
    obtain ⟨_, _, hsettled, _⟩ := TimedOutput.elapse_before (before_earliest.mp h).1
    simp only [process, hsettled]
  deadline_wait := by
    intro keyboard next elapsed hdeadline hbefore
    have h : Before elapsed (process.deadline keyboard) := hdeadline ▸ before_some.mpr hbefore
    obtain ⟨_, htime, _, _⟩ := TimedOutput.elapse_before (before_earliest.mp h).1
    have hpassed := passed_earliest h
    rw [← htime] at hpassed
    exact hpassed.trans (congrArg (passed · elapsed) hdeadline)
  wait_wait := by
    intro keyboard next first second hdeadline hbefore
    have h : Before first (process.deadline keyboard) := hdeadline ▸ before_some.mpr (by omega)
    obtain ⟨_, _, _, hmore⟩ := TimedOutput.elapse_before (before_earliest.mp h).1
    simp only [process, hmore, passed_passed (before_earliest.mp h).2]
  fire_wait := by
    intro keyboard next elapsed hbefore hdeadline
    have h : Before elapsed (process.deadline keyboard) := hdeadline ▸ before_some.mpr hbefore
    obtain ⟨_, _, _, hmore⟩ := TimedOutput.elapse_before (before_earliest.mp h).1
    have hnext : elapsed + (next.val - elapsed) = next.val := by omega
    have hrepeat := (before_earliest.mp h).2
    simp only [process, hmore, hnext]
    cases hremaining : keyboard.repeat_remaining_attoseconds with
    | none => rfl
    | some remaining =>
      rw [hremaining] at hrepeat
      have hless := before_some.mp hrepeat
      simp only [passed, Option.bind_some, pass_of_lt hless, pass_pass hless, hnext]
      cases remaining.pass next.val <;> rfl

theorem time_until_event_settle (keyboard : SgiKeyboard) :
    process.deadline (process.settle keyboard) = keyboard.time_until_event := by
  simp only [process, time_until_event, TimedOutput.time_until_event_ensure_active]

end SgiKeyboard

end se_device.sgi_keyboard
