import SgiEmu.Device.SgiKeyboard
import SgiEmu.Device.SgiMouse
import SgiEmu.Device.Z85230
import SgiEmu.Library.Lockstep

open Library.Lockstep Library.Timing se_core se_core.bus se_device.sgi_keyboard se_device.sgi_mouse se_device.z85230

namespace se_machine.ip12

/-- A character that one of the machines hands over: the keyboard and the mouse
to the controller, and the controller to what its channel is wired to. -/
inductive Character where
  | Keyboard (value : U8)
  | Mouse (value : U8)
  | Serial (channel : Channel) (value : U8)
deriving DecidableEq, Repr

/-- The first serial controller with the keyboard on its channel A and the mouse
on its channel B. -/
structure Serial0 where
  sgi_keyboard : Option SgiKeyboard
  sgi_mouse : Option SgiMouse
  serial : Z85230

namespace Serial0

def time_until_event (board : Serial0) : Option Delay :=
  earliest (earliest (board.sgi_keyboard.bind SgiKeyboard.time_until_event)
    (board.sgi_mouse.bind SgiMouse.time_until_event)) board.serial.time_until_event

def advance_keyboard (elapsed : Nat) : Option SgiKeyboard → List U8 × Option SgiKeyboard
  | none => ([], none)
  | some keyboard =>
    let due := keyboard.advance_time elapsed
    (due.1, some due.2)

def advance_mouse (elapsed : Nat) : Option SgiMouse → List U8 × Option SgiMouse
  | none => ([], none)
  | some mouse =>
    let due := mouse.advance_time elapsed
    (due.1, some due.2)

/-- What a completed character of the controller does to the keyboard. -/
def deliver (keyboard : Option SgiKeyboard) : Channel × U8 → Option SgiKeyboard
  | (.A, value) => keyboard.map (SgiKeyboard.receive_command value)
  | (.B, _) => keyboard

/-- One step of the loop of `synchronize_serial_time`. -/
def advance (elapsed : Nat) (board : Serial0) : List Character × Serial0 :=
  let keyboard := advance_keyboard elapsed board.sgi_keyboard
  let serial := keyboard.1.foldl (fun serial value => serial.receive_character .A value) board.serial
  let mouse := advance_mouse elapsed board.sgi_mouse
  let serial := mouse.1.foldl (fun serial value => serial.receive_character .B value) serial
  let sent := serial.advance_time elapsed
  (keyboard.1.map .Keyboard ++ mouse.1.map .Mouse ++ sent.1.map fun (channel, value) => .Serial channel value,
    { sgi_keyboard := sent.1.foldl deliver keyboard.2, sgi_mouse := mouse.2, serial := sent.2 })

def system : System Serial0 Character where
  deadline := time_until_event
  advance := advance

/-- Brings the serial path to the present: the characters handed over, each with
its instant, and the state. -/
def synchronize_serial_time (now elapsed : Nat) (board : Serial0) : List (Nat × Character) × Serial0 :=
  system.run now elapsed board

def new (keyboard mouse : Bool) (clock_hz : ClockHz) : Serial0 :=
  { sgi_keyboard := if keyboard then some .new else none
    sgi_mouse := if mouse then some .new else none
    serial := .new clock_hz }

def reset (board : Serial0) : Serial0 :=
  { sgi_keyboard := board.sgi_keyboard.map .reset
    sgi_mouse := board.sgi_mouse.map .reset
    serial := board.serial.reset }

/-- What the machine does to its first serial path. -/
inductive Operation where
  | Reset
  | SetKeyState (key : SgiKey) (pressed : Bool)
  | MoveMouse (delta_x delta_y : I32)
  | SetMouseButtonState (button : SgiMouseButton) (pressed : Bool)
  | Read (address length : Nat)
  | Write (address : Nat) (data : List U8)
  | Synchronize (elapsed : Nat)

def operate (board : Serial0) : Operation → Serial0
  | .Reset => board.reset
  | .SetKeyState key pressed => { board with sgi_keyboard := board.sgi_keyboard.map (.set_key_state key pressed) }
  | .MoveMouse delta_x delta_y => { board with sgi_mouse := board.sgi_mouse.map (.move_relative delta_x delta_y) }
  | .SetMouseButtonState button pressed =>
    { board with sgi_mouse := board.sgi_mouse.map (.set_button_state button pressed) }
  | .Read address length => { board with serial := (board.serial.read address length).2 }
  | .Write address data => { board with serial := (board.serial.write address data).2 }
  | .Synchronize elapsed => (board.synchronize_serial_time 0 elapsed).2

/-- The states that operations lead to from a new serial path. -/
inductive Reachable : Serial0 → Prop where
  | new (keyboard mouse : Bool) (clock_hz : ClockHz) : Reachable (new keyboard mouse clock_hz)
  | operate {board : Serial0} (h : Reachable board) (operation : Operation) : Reachable (board.operate operation)

end Serial0

end se_machine.ip12
