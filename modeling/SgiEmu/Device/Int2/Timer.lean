import Mathlib.Tactic.Common
import SgiEmu.Core.Bus

open se_core se_core.bus

namespace se_device.int2

def ATTOSECONDS_PER_TICK : Nat := 1000000000000
def COUNTER_ZERO_ENCODING : Nat := 1 <<< 16

inductive CounterId where
  | Zero
  | One
  | Two
deriving DecidableEq, Repr

def CounterId.index : CounterId → Fin 3
  | .Zero => 0
  | .One => 1
  | .Two => 2

def CounterId.interrupt_index : CounterId → Option (Fin 2)
  | .Zero => some 0
  | .One => some 1
  | .Two => none

structure TimerOutputs where
  counter_0 : Bool
  counter_1 : Bool
deriving DecidableEq, Repr

inductive CounterMode where
  | Mode1
  | Mode2
deriving DecidableEq, Repr

structure LatchedCount where
  value : U16
  read_high : Bool
deriving DecidableEq, Repr

inductive CounterState where
  | Unconfigured
  | AwaitingCount (mode : CounterMode) (low_byte : Option U8)
  | WaitingForGate (reload : Nat)
  | RateGenerator (reload remaining : Nat)
  | Quiescent
deriving DecidableEq, Repr

structure Counter where
  state : CounterState
  latched : Option LatchedCount
deriving DecidableEq, Repr

/-! ## One counter

A refused access leaves its counter as it was. -/

def encode_counter (value : Nat) : U16 :=
  if value = COUNTER_ZERO_ENCODING then 0 else BitVec.ofNat 16 value

namespace Counter

def new : Counter := { state := .Unconfigured, latched := none }

def configure (mode : CounterMode) : Counter := { state := .AwaitingCount mode none, latched := none }

def quiesce : Counter := { state := .Quiescent, latched := none }

def write (counter : Counter) (value : U8) : Except BusError Counter :=
  match counter.state with
  | .AwaitingCount mode none => .ok { counter with state := .AwaitingCount mode (some value) }
  | .AwaitingCount mode (some low_byte) =>
    let encoded := (value ++ low_byte : U16).toNat
    let reload := if encoded = 0 then COUNTER_ZERO_ENCODING else encoded
    if mode = .Mode2 ∧ reload = 1 then .error .UnimplementedAccess
    else
      .ok
        { state :=
            match mode with
            | .Mode1 => .WaitingForGate reload
            | .Mode2 => .RateGenerator reload reload
          latched := none }
  | _ => .error .UnimplementedAccess

def latch (counter : Counter) : Except BusError Counter :=
  let hold (value : Nat) : Counter :=
    { counter with latched := some (counter.latched.getD { value := encode_counter value, read_high := false }) }
  match counter.state with
  | .WaitingForGate reload => .ok (hold reload)
  | .RateGenerator _ remaining => .ok (hold remaining)
  | _ => .error .UnimplementedAccess

def peek (counter : Counter) : Except BusError U8 :=
  match counter.latched with
  | none => .error .UnimplementedAccess
  | some latch => .ok (if latch.read_high then latch.value.extractLsb' 8 8 else latch.value.extractLsb' 0 8)

def read (counter : Counter) : Except BusError (U8 × Counter) :=
  match counter.latched with
  | none => .error .UnimplementedAccess
  | some latch =>
    counter.peek.map fun value =>
      (value, { counter with latched := if latch.read_high then none else some { latch with read_high := true } })

/-- The terminal counts some input pulses make, and the counter after them. -/
def advance (counter : Counter) (input_pulses : Nat) : Nat × Counter :=
  match counter.state with
  | .RateGenerator reload remaining =>
    if input_pulses < remaining then
      (0, { counter with state := .RateGenerator reload (remaining - input_pulses) })
    else
      let after_first_output := input_pulses - remaining
      let position := after_first_output % reload
      (1 + after_first_output / reload,
        { counter with state := .RateGenerator reload (if position = 0 then reload else reload - position) })
  | _ => (0, counter)

def rate_generator_state (counter : Counter) : Option (Nat × Nat) :=
  match counter.state with
  | .RateGenerator reload remaining => some (reload, remaining)
  | _ => none

/-- The output some input pulses make, whether one is due on the next pulse
after them, and the counter: a terminal count puts out on the pulse after it. -/
def advance_with_deferred_output (counter : Counter) (input_pulses : Nat) (output_due : Bool) :
    Bool × Bool × Counter :=
  if input_pulses = 0 then (false, output_due, counter)
  else
    let (output, output_due) : Bool × Bool :=
      match counter.rate_generator_state with
      | some (reload, remaining) =>
        if remaining ≤ input_pulses then
          let after_first_terminal := input_pulses - remaining
          (output_due || after_first_terminal != 0, after_first_terminal % reload == 0)
        else (output_due, false)
      | none => (output_due, false)
    (output, output_due, (counter.advance input_pulses).2)

end Counter

/-! ## The timer -/

inductive ControlCommand where
  | Latch (counter : CounterId)
  | Configure (counter : CounterId) (mode : CounterMode)
  | Quiesce (counter : CounterId)
deriving DecidableEq, Repr

def ControlCommand.decode (value : U8) : Except BusError ControlCommand := do
  let counter ←
    match (value >>> 6).toNat with
    | 0 => .ok CounterId.Zero
    | 1 => .ok CounterId.One
    | 2 => .ok CounterId.Two
    | _ => .error BusError.UnimplementedAccess
  let read_write := value >>> 4 &&& 3#8
  if read_write = 0 then return .Latch counter
  if read_write ≠ 3 ∨ value &&& 1#8 ≠ 0 then .error .UnimplementedAccess
  match (value >>> 1 &&& 7#8).toNat with
  | 1 => return .Configure counter .Mode1
  | 2 => return .Configure counter .Mode2
  | 4 => return .Quiesce counter
  | _ => .error .UnimplementedAccess

structure ProgrammableTimer where
  counters : Vector Counter 3
  deferred_outputs : Vector Bool 2
  oscillator_phase : Nat
deriving DecidableEq, Repr

namespace ProgrammableTimer

def new : ProgrammableTimer :=
  { counters := #v[.new, .new, .new], deferred_outputs := #v[false, false], oscillator_phase := 0 }

def counter (timer : ProgrammableTimer) (id : CounterId) : Counter := timer.counters[id.index]

def set_counter (timer : ProgrammableTimer) (id : CounterId) (counter : Counter) : ProgrammableTimer :=
  { timer with counters := timer.counters.set id.index counter }

def deferred_output (timer : ProgrammableTimer) (index : Fin 2) : Bool := timer.deferred_outputs[index]

def clear_deferred_output (timer : ProgrammableTimer) (counter : CounterId) : ProgrammableTimer :=
  match counter.interrupt_index with
  | some index => { timer with deferred_outputs := timer.deferred_outputs.set index false }
  | none => timer

def write_control (timer : ProgrammableTimer) (value : U8) : Except BusError ProgrammableTimer := do
  match ← ControlCommand.decode value with
  | .Latch counter => return timer.set_counter counter (← (timer.counter counter).latch)
  | .Configure counter mode =>
    return (timer.set_counter counter (.configure mode)).clear_deferred_output counter
  | .Quiesce counter => return (timer.set_counter counter .quiesce).clear_deferred_output counter

def write_counter (timer : ProgrammableTimer) (counter : CounterId) (value : U8) :
    Except BusError ProgrammableTimer := do
  return timer.set_counter counter (← (timer.counter counter).write value)

def read_counter (timer : ProgrammableTimer) (counter : CounterId) : Except BusError (U8 × ProgrammableTimer) := do
  let (value, read) ← (timer.counter counter).read
  return (value, timer.set_counter counter read)

/-- Counter 2 counts the oscillator; its terminal counts clock the other two. -/
def advance_time (timer : ProgrammableTimer) (elapsed : Nat) : TimerOutputs × ProgrammableTimer :=
  let elapsed_ticks := elapsed / ATTOSECONDS_PER_TICK
  let partial_attoseconds := elapsed % ATTOSECONDS_PER_TICK
  let combined_phase := timer.oscillator_phase + partial_attoseconds
  let ticks := elapsed_ticks + combined_phase / ATTOSECONDS_PER_TICK
  let (counter_2_outputs, counter_2) := (timer.counter .Two).advance ticks
  let (output_0, due_0, counter_0) :=
    (timer.counter .Zero).advance_with_deferred_output counter_2_outputs (getElem timer.deferred_outputs 0 Nat.zero_lt_two)
  let (output_1, due_1, counter_1) :=
    (timer.counter .One).advance_with_deferred_output counter_2_outputs (getElem timer.deferred_outputs 1 Nat.one_lt_two)
  ({ counter_0 := output_0, counter_1 := output_1 },
    { counters := #v[counter_0, counter_1, counter_2]
      deferred_outputs := #v[due_0, due_1]
      oscillator_phase := combined_phase % ATTOSECONDS_PER_TICK })

def time_until_output (timer : ProgrammableTimer) (counter : CounterId) : Option Nat := do
  let interrupt_index ← counter.interrupt_index
  let (counter_2_reload, counter_2_remaining) ← (timer.counter .Two).rate_generator_state
  let ticks ←
    if timer.deferred_outputs[interrupt_index] then some counter_2_remaining
    else do
      let (_, downstream_remaining) ← (timer.counter counter).rate_generator_state
      some (counter_2_remaining + downstream_remaining * counter_2_reload)
  return ticks * ATTOSECONDS_PER_TICK - timer.oscillator_phase

end ProgrammableTimer

end se_device.int2
