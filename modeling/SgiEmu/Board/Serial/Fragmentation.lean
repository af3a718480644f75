import SgiEmu.Board.Serial
import SgiEmu.Device.Z85230.Timing

open Library.Lockstep Library.Timing se_core se_core.bus se_device.sgi_keyboard se_device.sgi_mouse se_device.z85230

namespace se_machine.ip12.Serial0

variable {board : Serial0} {keyboard : Option SgiKeyboard} {mouse : Option SgiMouse} {elapsed : Nat} {next : Delay}

theorem advance_keyboard_waits (h : Before elapsed (keyboard.bind SgiKeyboard.time_until_event)) :
    (advance_keyboard elapsed keyboard).1 = [] ∧
      (advance_keyboard elapsed keyboard).2.bind SgiKeyboard.time_until_event =
        passed (keyboard.bind SgiKeyboard.time_until_event) elapsed ∧
      ∀ more, advance_keyboard more (advance_keyboard elapsed keyboard).2 = advance_keyboard (elapsed + more) keyboard := by
  cases keyboard with
  | none => exact ⟨rfl, rfl, fun _ => rfl⟩
  | some keyboard =>
    rw [Option.bind_some, ← SgiKeyboard.time_until_event_settle] at h ⊢
    obtain ⟨hquiet, hpassed⟩ := Process.advance_waits SgiKeyboard.process_lawful h
    refine ⟨hquiet, hpassed, ?_⟩
    intro more
    have hadd := Process.advance_add SgiKeyboard.process_lawful elapsed more keyboard
    rw [hquiet, List.nil_append] at hadd
    simp only [advance_keyboard, SgiKeyboard.advance_time, hadd]

theorem advance_mouse_waits (h : Before elapsed (mouse.bind SgiMouse.time_until_event)) :
    (advance_mouse elapsed mouse).1 = [] ∧
      (advance_mouse elapsed mouse).2.bind SgiMouse.time_until_event =
        passed (mouse.bind SgiMouse.time_until_event) elapsed ∧
      ∀ more, advance_mouse more (advance_mouse elapsed mouse).2 = advance_mouse (elapsed + more) mouse := by
  cases mouse with
  | none => exact ⟨rfl, rfl, fun _ => rfl⟩
  | some mouse =>
    have hdeadline : Before elapsed (SgiMouse.process.deadline (SgiMouse.process.settle mouse)) := by
      rw [SgiMouse.time_until_event_settle]
      exact h
    obtain ⟨hquiet, hpassed⟩ := Process.advance_waits SgiMouse.process_lawful hdeadline
    refine ⟨hquiet, ?_, ?_⟩
    · have hsettled := Process.settle_advance SgiMouse.process_lawful elapsed mouse
      have htime := SgiMouse.time_until_event_settle (SgiMouse.process.advance elapsed mouse).2
      rw [hsettled, hpassed, SgiMouse.time_until_event_settle] at htime
      exact htime.symm
    · intro more
      have hadd := Process.advance_add SgiMouse.process_lawful elapsed more mouse
      rw [hquiet, List.nil_append] at hadd
      simp only [advance_mouse, SgiMouse.advance_time, hadd]

/-- Before the first of the three deadlines each machine only waits, on its own. -/
theorem advance_before (h : board.serial.Settled) (hbefore : Before elapsed board.time_until_event) :
    board.advance elapsed =
      ([], { sgi_keyboard := (advance_keyboard elapsed board.sgi_keyboard).2
             sgi_mouse := (advance_mouse elapsed board.sgi_mouse).2
             serial := board.serial.wait elapsed }) := by
  obtain ⟨hdevices, hserial⟩ := before_earliest.mp hbefore
  obtain ⟨hkeyboard, hmouse⟩ := before_earliest.mp hdevices
  have hkeyboard := (advance_keyboard_waits hkeyboard).1
  have hmouse := (advance_mouse_waits hmouse).1
  have hserial := Z85230.advance_time_before h hserial
  simp only [advance, hkeyboard, hmouse, hserial, List.foldl_nil, List.map_nil, List.append_nil]

/-- The characters of a device arrive at the controller. -/
def receive (channel : Channel) (values : List U8) (serial : Z85230) : Z85230 :=
  values.foldl (fun serial value => serial.receive_character channel value) serial

/-- Arrivals leave the transmitters as they are. -/
theorem receive_spec {channel : Channel} (values : List U8) {serial : Z85230} (h : serial.Settled) :
    (receive channel values serial).Settled ∧ (receive channel values serial).time_until_event = serial.time_until_event ∧
      ∀ elapsed, receive channel values (serial.wait elapsed) = (receive channel values serial).wait elapsed := by
  induction values generalizing serial with
  | nil => exact ⟨h, rfl, fun _ => rfl⟩
  | cons value values ih =>
    obtain ⟨hsettled, htime, hwait⟩ := ih (Z85230.settled_receive_character h channel value)
    refine ⟨hsettled, htime.trans (Z85230.time_until_event_receive_character channel value serial), ?_⟩
    intro elapsed
    have hfirst := Z85230.receive_character_wait channel value elapsed serial
    exact (congrArg (receive channel values) hfirst).trans (hwait elapsed)

/-- Time the controller has waited counts towards the step that follows it. -/
theorem advance_time_wait {serial : Z85230} (h : serial.Settled) (hbefore : Before elapsed serial.time_until_event)
    (more : Nat) : (serial.wait elapsed).advance_time more = serial.advance_time (elapsed + more) := by
  have hquiet := Z85230.advance_time_before h hbefore
  have hadd := Z85230.advance_time_add (congrArg Prod.fst hquiet) more
  rw [hquiet] at hadd
  exact hadd

theorem system_lawful : system.Lawful fun board => board.serial.Settled where
  keeps := by
    intro board elapsed _
    exact Z85230.settled_advance_time elapsed _
  waits := by
    intro board next elapsed h hdeadline hless
    have hbefore : Before elapsed board.time_until_event := by
      rw [show board.time_until_event = some next from hdeadline]
      exact before_some.mpr hless
    obtain ⟨hdevices, hserial⟩ := before_earliest.mp hbefore
    obtain ⟨hkeyboard, hmouse⟩ := before_earliest.mp hdevices
    have hstep : system.advance elapsed board = _ := advance_before h hbefore
    rw [hstep]
    refine ⟨rfl, ?_⟩
    have hpassed := passed_earliest hbefore
    rw [← passed_earliest hdevices, ← (advance_keyboard_waits hkeyboard).2.1, ← (advance_mouse_waits hmouse).2.1,
      ← Z85230.time_until_event_wait hserial] at hpassed
    exact hpassed.trans (congrArg (passed · elapsed) hdeadline)
  joins := by
    intro board next first second h hdeadline hless _
    have hbefore : Before first board.time_until_event := by
      rw [show board.time_until_event = some next from hdeadline]
      exact before_some.mpr hless
    obtain ⟨hdevices, hserial⟩ := before_earliest.mp hbefore
    obtain ⟨hkeyboard, hmouse⟩ := before_earliest.mp hdevices
    have hkeyboard := (advance_keyboard_waits hkeyboard).2.2 second
    have hmouse := (advance_mouse_waits hmouse).2.2 second
    have hstep : system.advance first board = _ := advance_before h hbefore
    rw [hstep]
    -- What arrives at the end of the second step may as well arrive before the first.
    obtain ⟨htyped, htime, hwait⟩ :=
      @receive_spec .A (advance_keyboard (first + second) board.sgi_keyboard).1 board.serial h
    obtain ⟨hmoved, htime', hwait'⟩ :=
      @receive_spec .B (advance_mouse (first + second) board.sgi_mouse).1 _ htyped
    rw [← htime, ← htime'] at hserial
    have hsent := advance_time_wait hmoved hserial second
    rw [← hwait', ← hwait] at hsent
    simp only [system, advance, hkeyboard, hmouse]
    simp only [receive] at hsent
    rw [hsent]

theorem Reachable.settled (h : Reachable board) : board.serial.Settled := by
  induction h with
  | new keyboard mouse clock_hz => exact Z85230.settled_new clock_hz
  | @operate board _ operation ih =>
    cases operation with
    | Reset => exact Z85230.settled_reset _
    | SetKeyState key pressed => exact ih
    | MoveMouse delta_x delta_y => exact ih
    | SetMouseButtonState button pressed => exact ih
    | Read address length => exact Z85230.settled_read ih address length
    | Write address data => exact Z85230.settled_write ih address data
    | Synchronize elapsed => exact System.run_keeps system_lawful 0 elapsed ih

/-- The loop of the serial path ends, and its time may be given in any two parts:
the three machines end in the same state, and the same characters pass between
them in the same order and at the same instants. -/
theorem synchronize_serial_time_fragmented (h : Reachable board) (now first second : Nat) :
    system.Runs now (first + second) board (board.synchronize_serial_time now (first + second)).1
        (board.synchronize_serial_time now (first + second)).2 ∧
      board.synchronize_serial_time now (first + second) =
        ((board.synchronize_serial_time now first).1 ++
            ((board.synchronize_serial_time now first).2.synchronize_serial_time (now + first) second).1,
          ((board.synchronize_serial_time now first).2.synchronize_serial_time (now + first) second).2) :=
  ⟨System.runs_run now (first + second) board, System.run_add system_lawful now first second h.settled⟩

/-- Channel A programmed for 600 baud, a key pressed and a command for the
keyboard: to repeat keys and to answer with its configuration. -/
def typing : List Operation :=
  [.Write 0x0b [4], .Write 0x0b [0x44], .Write 0x0b [3], .Write 0x0b [0xc1], .Write 0x0b [5], .Write 0x0b [0x68],
    .Write 0x0b [0x0b], .Write 0x0b [0x10], .Write 0x0b [0x0c], .Write 0x0b [0xbe], .Write 0x0b [0x0e], .Write 0x0b [1],
    .SetKeyState .KeyA true, .Write 0x0f [0x90]]

def typing_board : Serial0 := typing.foldl operate (new true true ⟨3686400, by decide⟩)

theorem Reachable.operate_all (h : Reachable board) (operations : List Operation) :
    Reachable (operations.foldl Serial0.operate board) := by
  induction operations generalizing board with
  | nil => exact h
  | cons operation operations ih => exact ih (h.operate operation)

/-- The command arrives after a sixtieth of a second, the key while the second part
runs, and then the two characters of the configuration. -/
theorem synchronize_serial_time_fragmented_typing :
    (typing_board.synchronize_serial_time 0 (17500 * 10 ^ 12 + 42500 * 10 ^ 12)).1 =
        [(16666666666666666, .Serial .A 0x90), (18333333333333333, .Keyboard 0x0a), (36666666666666666, .Keyboard 0x6e),
          (55000000000000000, .Keyboard 0)] ∧
      (typing_board.synchronize_serial_time 0 (17500 * 10 ^ 12)).1 = [(16666666666666666, .Serial .A 0x90)] ∧
      system.Runs 0 (17500 * 10 ^ 12 + 42500 * 10 ^ 12) typing_board
        (typing_board.synchronize_serial_time 0 (17500 * 10 ^ 12 + 42500 * 10 ^ 12)).1
        (typing_board.synchronize_serial_time 0 (17500 * 10 ^ 12 + 42500 * 10 ^ 12)).2 ∧
      typing_board.synchronize_serial_time 0 (17500 * 10 ^ 12 + 42500 * 10 ^ 12) =
        ((typing_board.synchronize_serial_time 0 (17500 * 10 ^ 12)).1 ++
            ((typing_board.synchronize_serial_time 0 (17500 * 10 ^ 12)).2.synchronize_serial_time (0 + 17500 * 10 ^ 12)
              (42500 * 10 ^ 12)).1,
          ((typing_board.synchronize_serial_time 0 (17500 * 10 ^ 12)).2.synchronize_serial_time (0 + 17500 * 10 ^ 12)
            (42500 * 10 ^ 12)).2) :=
  ⟨by decide +kernel, by decide +kernel,
    synchronize_serial_time_fragmented (Reachable.operate_all (.new true true ⟨3686400, by decide⟩) typing) 0
      (17500 * 10 ^ 12) (42500 * 10 ^ 12)⟩

end se_machine.ip12.Serial0
