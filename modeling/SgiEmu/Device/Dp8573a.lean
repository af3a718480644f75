import SgiEmu.Core.Bus
import SgiEmu.Core.Time
import SgiEmu.Device.Register

open se_core se_core.bus se_core.time

namespace se_device.dp8573a

def REGISTER_COUNT : Nat := 32
def BANKED_REGISTER_COUNT : Nat := 4

def MAIN_STATUS : Nat := 0x00
def PERIODIC_FLAG : Nat := 0x03
def TIME_SAVE_CONTROL : Nat := 0x04
def HUNDREDTHS : Nat := 0x05
def SECONDS : Nat := 0x06
def MINUTES : Nat := 0x07
def HOURS : Nat := 0x08
def DAY_OF_MONTH : Nat := 0x09
def MONTH : Nat := 0x0a
def YEAR : Nat := 0x0b
def DAY_OF_WEEK : Nat := 0x0e
def SECONDS_COMPARE : Nat := 0x13
def DAY_OF_WEEK_COMPARE : Nat := 0x18
def SECONDS_SAVE : Nat := 0x19
def MONTH_SAVE : Nat := 0x1d
def PAGE_ONE_RAM : Nat := 0x1e

def REAL_TIME_MODE : Nat := 0
def INTERRUPT_CONTROL_0 : Nat := 2
def INTERRUPT_CONTROL_1 : Nat := 3

def MAIN_RAM_AND_SELECT : U8 := 0xf0
def REGISTER_SELECT : U8 := 0x40
def ALARM_PENDING : U8 := 0x08
def PERIODIC_PENDING : U8 := 0x04

def TIME_SAVE_ENABLE : U8 := 0x80
def HOUR_MODE_12 : U8 := 0x04
def CLOCK_START : U8 := 0x08

def PERIODIC_MINUTE : U8 := 0x01
def PERIODIC_TEN_SECONDS : U8 := 0x02
def PERIODIC_SECOND : U8 := 0x04
def PERIODIC_HUNDRED_MILLISECONDS : U8 := 0x08
def PERIODIC_TEN_MILLISECONDS : U8 := 0x10
def PERIODIC_MILLISECOND : U8 := 0x20
def PERIODIC_EVENT_BITS : U8 := 0x3f
def OSCILLATOR_FAILED : U8 := 0x40
def TEST_ENABLE : U8 := 0x80

def ALARM_COMPARE_BITS : U8 := 0x3f
def ALARM_INTERRUPT_ENABLE : U8 := 0x40

def ATTOSECONDS_PER_MILLISECOND : Nat := ATTOSECONDS_PER_SECOND / 1000
def SECONDS_PER_DAY : Nat := 24 * 60 * 60
def CALENDAR_CYCLE_DAYS : Nat := 700 * 365 + 175

def decode_bcd (value : U8) : Option Nat :=
  if (value >>> 4).toNat ≤ 9 ∧ (value &&& 0x0f).toNat ≤ 9 then
    some ((value >>> 4).toNat * 10 + (value &&& 0x0f).toNat)
  else none

def encode_bcd (value : Nat) : U8 := BitVec.ofNat 8 (value / 10 * 16 + value % 10)

def days_in_month (month leap_year : Nat) : Nat :=
  if month = 2 then if leap_year = 0 then 29 else 28
  else if month = 4 ∨ month = 6 ∨ month = 9 ∨ month = 11 then 30
  else 31

/-- An hour of the day as the 12-hour counter shows it, and whether it is PM. -/
def hour_12 (hour : Nat) : Nat × Bool :=
  if hour = 0 then (12, false)
  else if hour ≤ 11 then (hour, false)
  else if hour = 12 then (12, true)
  else (hour - 12, true)

def pm_bit (afternoon : Bool) : U8 := if afternoon then 0x80 else 0

def decode_hour (raw : U8) (hour_mode_12 : Bool) : Option Nat :=
  if !hour_mode_12 then (decode_bcd (raw &&& 0x3f)).filter (· ≤ 23)
  else
    ((decode_bcd (raw &&& 0x1f)).filter fun hour => 1 ≤ hour && hour ≤ 12).map fun hour =>
      match hour == 12, raw &&& 0x80 != 0 with
      | true, false => 0
      | true, true => 12
      | false, false => hour
      | false, true => hour + 12

def encode_hour (hour : Nat) (hour_mode_12 : Bool) : U8 :=
  if !hour_mode_12 then encode_bcd hour else encode_bcd (hour_12 hour).1 ||| pm_bit (hour_12 hour).2

def crosses_cyclic_target (current steps period : Nat) : Bool := steps != 0 && period - current % period ≤ steps

/-! ## Counters and registers -/

/-- The state of the clock but for its sub-millisecond phase. -/
structure Counters where
  registers : Vector U8 REGISTER_COUNT
  alternate_control_registers : Vector U8 BANKED_REGISTER_COUNT
  millisecond_within_hundredth : Nat
  oscillator_failed : Bool
  single_supply : Bool
  alarm_match_active : Bool
deriving DecidableEq, Repr

namespace Counters

def register (rtc : Counters) (index : Nat) : U8 := rtc.registers[index]?.getD 0

def control (rtc : Counters) (index : Nat) : U8 := rtc.alternate_control_registers[index]?.getD 0

def set_register (rtc : Counters) (index : Nat) (value : U8) : Counters :=
  { rtc with registers := rtc.registers.setIfInBounds index value }

def set_control (rtc : Counters) (index : Nat) (value : U8) : Counters :=
  { rtc with alternate_control_registers := rtc.alternate_control_registers.setIfInBounds index value }

def running (rtc : Counters) : Bool := rtc.control REAL_TIME_MODE &&& CLOCK_START != 0

def hour_mode_12 (rtc : Counters) : Bool := rtc.control REAL_TIME_MODE &&& HOUR_MODE_12 != 0

def alternate_bank_selected (rtc : Counters) : Bool := rtc.register MAIN_STATUS &&& REGISTER_SELECT != 0

def time_save_enabled (rtc : Counters) : Bool := rtc.register TIME_SAVE_CONTROL &&& TIME_SAVE_ENABLE != 0

/-- Whether the logical interrupt output is asserted. -/
def interrupt_asserted (rtc : Counters) : Bool :=
  rtc.register MAIN_STATUS &&& PERIODIC_PENDING != 0
    || rtc.register MAIN_STATUS &&& ALARM_PENDING != 0
      && rtc.control INTERRUPT_CONTROL_1 &&& ALARM_INTERRUPT_ENABLE != 0

def counter_mask (rtc : Counters) (register : Nat) : U8 :=
  if register = SECONDS ∨ register = MINUTES then 0x7f
  else if register = HOURS ∧ rtc.hour_mode_12 then 0x9f
  else if register = HOURS ∨ register = DAY_OF_MONTH then 0x3f
  else if register = MONTH then 0x1f
  else if register = DAY_OF_WEEK then 0x07
  else 0xff

def copy_time_save (rtc : Counters) (destination source : Nat) : Counters :=
  let mask := rtc.counter_mask source
  rtc.set_register destination (rtc.register destination &&& ~~~mask ||| rtc.register source &&& mask)

def copy_all_time_save_registers (rtc : Counters) : Counters :=
  (List.range' SECONDS (MONTH - SECONDS + 1)).foldl
    (fun rtc source => rtc.copy_time_save (source - SECONDS + SECONDS_SAVE) source) rtc

def current_alarm_matches (rtc : Counters) : Bool :=
  let enables := rtc.control INTERRUPT_CONTROL_1 &&& ALARM_COMPARE_BITS
  enables != 0 && (List.range 6).all fun offset =>
    let counter := if offset = 5 then DAY_OF_WEEK else SECONDS + offset
    let mask := rtc.counter_mask counter
    enables &&& (1 <<< offset) == 0
      || rtc.register counter &&& mask == rtc.register (SECONDS_COMPARE + offset) &&& mask

def recompute_alarm_match (rtc : Counters) : Counters :=
  let matched := rtc.current_alarm_matches
  let rtc :=
    if matched && !rtc.alarm_match_active then
      rtc.set_register MAIN_STATUS (rtc.register MAIN_STATUS ||| ALARM_PENDING)
    else rtc
  { rtc with alarm_match_active := matched }

def raise_periodic_events (rtc : Counters) (events : U8) : Counters :=
  let rtc := rtc.set_register PERIODIC_FLAG (rtc.register PERIODIC_FLAG ||| events)
  if events &&& rtc.control INTERRUPT_CONTROL_0 != 0 then
    rtc.set_register MAIN_STATUS (rtc.register MAIN_STATUS ||| PERIODIC_PENDING)
  else rtc

/-! ## Ticking -/

/-- Advances one BCD counter: its new value, and whether it wrapped. A counter
that does not decode stays. -/
def increment_bcd_register (rtc : Counters) (register : Nat) (mask : U8) (minimum maximum : Nat) :
    Option (Nat × Bool) × Counters :=
  let raw := rtc.register register
  match (decode_bcd (raw &&& mask)).filter fun value => minimum ≤ value && value ≤ maximum with
  | none => (none, rtc)
  | some value =>
    let wrapped := value == maximum
    let next := if wrapped then minimum else value + 1
    (some (next, wrapped), rtc.set_register register (raw &&& ~~~mask ||| encode_bcd next &&& mask))

def days_in_current_month (rtc : Counters) : Nat :=
  match decode_bcd (rtc.register MONTH &&& 0x1f) with
  | some month => days_in_month month (rtc.control REAL_TIME_MODE &&& 0x03).toNat
  | none => 31

/-- The year and the leap counter, in the low bits of the real-time mode. -/
def advance_year (rtc : Counters) : Counters :=
  let rtc := (rtc.increment_bcd_register YEAR 0xff 0 99).2
  let mode := rtc.control REAL_TIME_MODE
  rtc.set_control REAL_TIME_MODE (mode &&& ~~~0x03 ||| ((mode &&& 0x03) + 1) &&& 0x03)

def advance_day (rtc : Counters) : Counters :=
  match rtc.increment_bcd_register DAY_OF_MONTH 0x3f 1 rtc.days_in_current_month with
  | (none, rtc) => rtc
  | (some (_, month_carry), rtc) =>
    let rtc := (rtc.increment_bcd_register DAY_OF_WEEK 0x07 1 7).2
    if !month_carry then rtc
    else
      match rtc.increment_bcd_register MONTH 0x1f 1 12 with
      | (some (_, true), rtc) => rtc.advance_year
      | (_, rtc) => rtc

def advance_12_hour_counter (rtc : Counters) : Counters :=
  let raw := rtc.register HOURS
  match (decode_bcd (raw &&& 0x1f)).filter fun hour => 1 ≤ hour && hour ≤ 12 with
  | none => rtc
  | some hour =>
    let was_pm := raw &&& 0x80 != 0
    let next_hour := if hour = 11 then 12 else if hour = 12 then 1 else hour + 1
    let next_pm := if hour = 11 then !was_pm else was_pm
    let rtc := rtc.set_register HOURS (raw &&& ~~~0x9f ||| encode_bcd next_hour ||| pm_bit next_pm)
    if hour == 11 && was_pm then rtc.advance_day else rtc

def advance_hour (rtc : Counters) : Counters :=
  if rtc.hour_mode_12 then rtc.advance_12_hour_counter
  else
    match rtc.increment_bcd_register HOURS 0x3f 0 23 with
    | (some (_, true), rtc) => rtc.advance_day
    | (_, rtc) => rtc

def finish_clock_change (rtc : Counters) : Counters :=
  (if rtc.time_save_enabled then rtc.copy_all_time_save_registers else rtc).recompute_alarm_match

/-- The events of a second, and the counters after it. -/
def advance_second (rtc : Counters) : U8 × Counters :=
  match rtc.increment_bcd_register SECONDS 0x7f 0 59 with
  | (none, rtc) => (0, rtc.finish_clock_change)
  | (some (seconds, minute_carry), rtc) =>
    let events := if seconds % 10 = 0 then PERIODIC_TEN_SECONDS else 0
    if !minute_carry then (events, rtc.finish_clock_change)
    else
      let rtc :=
        match rtc.increment_bcd_register MINUTES 0x7f 0 59 with
        | (some (_, true), rtc) => rtc.advance_hour
        | (_, rtc) => rtc
      (events ||| PERIODIC_MINUTE, rtc.finish_clock_change)

def advance_hundredth (rtc : Counters) : U8 × Counters :=
  match rtc.increment_bcd_register HUNDREDTHS 0xff 0 99 with
  | (none, rtc) => (0, rtc)
  | (some (value, wrapped), rtc) =>
    let events := if value % 10 = 0 then PERIODIC_HUNDRED_MILLISECONDS else 0
    if !wrapped then (events, rtc)
    else
      let advanced := rtc.advance_second
      (events ||| PERIODIC_SECOND ||| advanced.1, advanced.2)

def advance_millisecond (rtc : Counters) : Counters :=
  if rtc.millisecond_within_hundredth + 1 = 10 then
    let advanced := { rtc with millisecond_within_hundredth := 0 }.advance_hundredth
    advanced.2.raise_periodic_events (PERIODIC_MILLISECOND ||| PERIODIC_TEN_MILLISECONDS ||| advanced.1)
  else
    { rtc with millisecond_within_hundredth := rtc.millisecond_within_hundredth + 1 }.raise_periodic_events
      PERIODIC_MILLISECOND

def advance_milliseconds (rtc : Counters) : Nat → Counters
  | 0 => rtc
  | count + 1 => rtc.advance_millisecond.advance_milliseconds count

/-! ## Offline time

The same advance over many milliseconds in closed form, for a clock whose counters
all decode. -/

end Counters

structure CalendarDate where
  day_of_month : Nat
  month : Nat
  year : Nat
  day_of_week : Nat
  leap_year : Nat
deriving DecidableEq, Repr

namespace CalendarDate

def advance (date : CalendarDate) : CalendarDate :=
  let date := { date with day_of_week := date.day_of_week % 7 + 1 }
  if date.day_of_month < days_in_month date.month date.leap_year then
    { date with day_of_month := date.day_of_month + 1 }
  else if date.month < 12 then { date with day_of_month := 1, month := date.month + 1 }
  else
    { date with day_of_month := 1, month := 1, year := (date.year + 1) % 100, leap_year := (date.leap_year + 1) % 4 }

def advance_days (date : CalendarDate) : Nat → CalendarDate
  | 0 => date
  | count + 1 => date.advance.advance_days count

end CalendarDate

structure ClockState where
  hundredths : Nat
  seconds : Nat
  minutes : Nat
  hour : Nat
  date : CalendarDate
deriving DecidableEq, Repr

namespace ClockState

def decode (rtc : Counters) : Option ClockState := do
  let hundredths ← (decode_bcd (rtc.register HUNDREDTHS)).filter (· ≤ 99)
  let seconds ← (decode_bcd (rtc.register SECONDS &&& 0x7f)).filter (· ≤ 59)
  let minutes ← (decode_bcd (rtc.register MINUTES &&& 0x7f)).filter (· ≤ 59)
  let hour ← decode_hour (rtc.register HOURS) rtc.hour_mode_12
  let month ← (decode_bcd (rtc.register MONTH &&& 0x1f)).filter fun value => 1 ≤ value && value ≤ 12
  let year ← decode_bcd (rtc.register YEAR)
  let leap_year := (rtc.control REAL_TIME_MODE &&& 0x03).toNat
  let day_of_month ← (decode_bcd (rtc.register DAY_OF_MONTH &&& 0x3f)).filter fun value =>
    1 ≤ value && value ≤ days_in_month month leap_year
  let day_of_week ← (decode_bcd (rtc.register DAY_OF_WEEK &&& 0x07)).filter fun value => 1 ≤ value && value ≤ 7
  some { hundredths, seconds, minutes, hour, date := { day_of_month, month, year, day_of_week, leap_year } }

def seconds_of_day (clock : ClockState) : Nat := clock.hour * 3600 + clock.minutes * 60 + clock.seconds

end ClockState

namespace Counters

def set_bcd_counter (rtc : Counters) (register : Nat) (mask : U8) (value : Nat) : Counters :=
  rtc.set_register register (rtc.register register &&& ~~~mask ||| encode_bcd value &&& mask)

def advance_days (rtc : Counters) : Nat → Counters
  | 0 => rtc
  | count + 1 => rtc.advance_day.advance_days count

def advance_clock_seconds (rtc : Counters) (clock : ClockState) (seconds : Nat) : Counters :=
  let total_seconds := clock.seconds_of_day + seconds
  let seconds_of_day := total_seconds % SECONDS_PER_DAY
  let hour := seconds_of_day / 3600
  let rtc := rtc.set_bcd_counter SECONDS 0x7f (seconds_of_day % 60)
  let rtc := rtc.set_bcd_counter MINUTES 0x7f (seconds_of_day / 60 % 60)
  let rtc :=
    if rtc.hour_mode_12 then
      rtc.set_register HOURS
        (rtc.register HOURS &&& ~~~0x9f ||| encode_bcd (hour_12 hour).1 ||| pm_bit (hour_12 hour).2)
    else rtc.set_bcd_counter HOURS 0x3f hour
  rtc.advance_days (total_seconds / SECONDS_PER_DAY % CALENDAR_CYCLE_DAYS)

def enabled (rtc : Counters) (bit : Nat) : Bool := rtc.control INTERRUPT_CONTROL_1 &&& (1 <<< bit) != 0

def seconds_until_selected_alarm_field_changes (rtc : Counters) (clock : ClockState) : Nat :=
  if rtc.enabled 0 then 1
  else if rtc.enabled 1 then 60 - clock.seconds
  else if rtc.enabled 2 then (60 - clock.minutes) * 60 - clock.seconds
  else if rtc.enabled 3 || rtc.enabled 5 then SECONDS_PER_DAY - clock.seconds_of_day
  else
    (days_in_month clock.date.month clock.date.leap_year - clock.date.day_of_month + 1) * SECONDS_PER_DAY
      - clock.seconds_of_day

def alarm_date_matches (rtc : Counters) (date : CalendarDate) : Bool :=
  let fields : List (Nat × Nat × U8) := [(3, date.day_of_month, 0x3f), (4, date.month, 0x1f), (5, date.day_of_week, 0x07)]
  fields.all fun (bit, value, mask) =>
    !rtc.enabled bit || encode_bcd value &&& mask == rtc.register (SECONDS_COMPARE + bit) &&& mask

def alarm_time_fields_valid (rtc : Counters) : Bool :=
  let second := (decode_bcd (rtc.register SECONDS_COMPARE &&& 0x7f)).any (· ≤ 59)
  let minute := (decode_bcd (rtc.register (SECONDS_COMPARE + 1) &&& 0x7f)).any (· ≤ 59)
  let hour := (decode_hour (rtc.register (SECONDS_COMPARE + 2)) rtc.hour_mode_12).isSome
  (!rtc.enabled 0 || second) && (!rtc.enabled 1 || minute) && (!rtc.enabled 2 || hour)

def alarm_time_matches (rtc : Counters) (seconds_of_day : Nat) : Bool :=
  let fields : List (Nat × U8 × U8) :=
    [(0, encode_bcd (seconds_of_day % 60), 0x7f), (1, encode_bcd (seconds_of_day / 60 % 60), 0x7f),
      (2, encode_hour (seconds_of_day / 3600) rtc.hour_mode_12, rtc.counter_mask HOURS)]
  fields.all fun (bit, value, mask) =>
    !rtc.enabled bit || value &&& mask == rtc.register (SECONDS_COMPARE + bit) &&& mask

def alarm_time_matches_in_range (rtc : Counters) (lower upper : Nat) : Bool :=
  if lower > upper || !rtc.alarm_time_fields_valid then false
  else if lower == 0 && upper == SECONDS_PER_DAY - 1 then true
  else (List.range' lower (upper - lower + 1)).any rtc.alarm_time_matches

/-- The search over the days from `day` on, of which `count` are left. -/
def alarm_matches_on_days (rtc : Counters) (first_absolute last_absolute : Nat) :
    (count day : Nat) → CalendarDate → Bool
  | 0, _, _ => false
  | count + 1, day, date =>
    let lower := if day = first_absolute / SECONDS_PER_DAY then first_absolute % SECONDS_PER_DAY else 0
    let upper := if day = last_absolute / SECONDS_PER_DAY then last_absolute % SECONDS_PER_DAY else SECONDS_PER_DAY - 1
    (rtc.alarm_date_matches date && rtc.alarm_time_matches_in_range lower upper)
      || rtc.alarm_matches_on_days first_absolute last_absolute count (day + 1) date.advance

def alarm_matches_in_range (rtc : Counters) (clock : ClockState) (first last : Nat) : Bool :=
  let first_absolute := clock.seconds_of_day + first
  let last_absolute := clock.seconds_of_day + last
  let first_day := first_absolute / SECONDS_PER_DAY
  let limited_last_day := min (last_absolute / SECONDS_PER_DAY) (first_day + CALENDAR_CYCLE_DAYS)
  rtc.alarm_matches_on_days first_absolute last_absolute (limited_last_day + 1 - first_day) first_day
    (clock.date.advance_days (first_day % CALENDAR_CYCLE_DAYS))

/-- Whether the alarm comparison rises within the given seconds. -/
def alarm_edge_during (rtc : Counters) (clock : ClockState) (seconds : Nat) : Bool :=
  if seconds = 0 || rtc.control INTERRUPT_CONTROL_1 &&& ALARM_COMPARE_BITS == 0 then false
  else if rtc.alarm_match_active then
    let first_change := rtc.seconds_until_selected_alarm_field_changes clock
    if seconds ≤ first_change then false else rtc.alarm_matches_in_range clock (first_change + 1) seconds
  else rtc.alarm_matches_in_range clock 1 seconds

/-- The seconds part of an offline advance: its events and the counters after it. -/
def advance_offline_seconds (rtc : Counters) (clock : ClockState) (second_steps : Nat) : U8 × Counters :=
  if second_steps = 0 then (0, rtc)
  else
    let ten := if crosses_cyclic_target clock.seconds second_steps 10 then PERIODIC_TEN_SECONDS else 0
    let minute := if crosses_cyclic_target clock.seconds second_steps 60 then PERIODIC_MINUTE else 0
    let alarm_edge := rtc.alarm_edge_during clock second_steps
    let rtc := rtc.advance_clock_seconds clock second_steps
    let rtc := if rtc.time_save_enabled then rtc.copy_all_time_save_registers else rtc
    let alarm_matches := rtc.current_alarm_matches
    let rtc := if alarm_edge then rtc.set_register MAIN_STATUS (rtc.register MAIN_STATUS ||| ALARM_PENDING) else rtc
    (PERIODIC_SECOND ||| ten ||| minute, { rtc with alarm_match_active := alarm_matches })

def advance_offline_milliseconds (rtc : Counters) (milliseconds : Nat) : Counters :=
  if milliseconds = 0 || !rtc.running then rtc
  else
    match ClockState.decode rtc with
    | none => rtc
    | some clock =>
      let total_milliseconds := rtc.millisecond_within_hundredth + milliseconds
      let hundredth_steps := total_milliseconds / 10
      let rtc := { rtc with millisecond_within_hundredth := total_milliseconds % 10 }
      if hundredth_steps = 0 then rtc.raise_periodic_events PERIODIC_MILLISECOND
      else
        let hundred :=
          if crosses_cyclic_target clock.hundredths hundredth_steps 10 then PERIODIC_HUNDRED_MILLISECONDS else 0
        let total_hundredths := clock.hundredths + hundredth_steps
        let rtc := rtc.set_bcd_counter HUNDREDTHS 0xff (total_hundredths % 100)
        let advanced := rtc.advance_offline_seconds clock (total_hundredths / 100)
        advanced.2.raise_periodic_events
          (PERIODIC_MILLISECOND ||| PERIODIC_TEN_MILLISECONDS ||| hundred ||| advanced.1)

end Counters

/-! ## The device -/

/-- A clock within its current millisecond. -/
structure Dp8573a where
  counters : Counters
  prescaler_phase_attoseconds : Nat
  phase_lt : prescaler_phase_attoseconds < ATTOSECONDS_PER_MILLISECOND
deriving DecidableEq, Repr

/-- State retained on battery power, as its constructor validates it. -/
structure Dp8573aBatteryState extends Dp8573a where
  millisecond_lt : counters.millisecond_within_hundredth < 10
deriving DecidableEq, Repr

namespace Counters

def write_main_status (rtc : Counters) (value : U8) : Counters :=
  let pending :=
    rtc.register MAIN_STATUS &&& (ALARM_PENDING ||| PERIODIC_PENDING) &&& ~~~(value &&& (ALARM_PENDING ||| PERIODIC_PENDING))
  rtc.set_register MAIN_STATUS (value &&& MAIN_RAM_AND_SELECT ||| pending)

def write_time_save_control (rtc : Counters) (value : U8) : Counters :=
  let was_enabled := rtc.time_save_enabled
  let rtc := rtc.set_register TIME_SAVE_CONTROL value
  if was_enabled || rtc.time_save_enabled then rtc.copy_all_time_save_registers else rtc

def write_counter (rtc : Counters) (register : Nat) (value : U8) : Counters :=
  let in_range := SECONDS ≤ register && register ≤ MONTH
  let rtc := rtc.set_register register value
  let rtc :=
    if rtc.time_save_enabled && in_range then rtc.copy_time_save (register - SECONDS + SECONDS_SAVE) register else rtc
  if in_range || register == DAY_OF_WEEK then rtc.recompute_alarm_match else rtc

def read_register (rtc : Counters) (register : Nat) : U8 :=
  if register = MAIN_STATUS then rtc.register MAIN_STATUS &&& 0xfc ||| if rtc.interrupt_asserted then 1 else 0
  else if (register = 1 ∨ register = 2) ∧ !rtc.alternate_bank_selected then 0
  else if (1 ≤ register ∧ register ≤ 4) ∧ rtc.alternate_bank_selected then rtc.control (register - 1)
  else if register = PERIODIC_FLAG then
    rtc.register PERIODIC_FLAG &&& ~~~OSCILLATOR_FAILED ||| if rtc.oscillator_failed then OSCILLATOR_FAILED else 0
  else if 0x0f ≤ register ∧ register ≤ 0x12 then 0
  else if register = PAGE_ONE_RAM ∧ !rtc.alternate_bank_selected then 0
  else rtc.register register

end Counters

namespace Dp8573a

/-- The RTC in its power-on state. -/
def new : Dp8573a :=
  { counters :=
      { registers := Vector.replicate REGISTER_COUNT 0
        alternate_control_registers := Vector.replicate BANKED_REGISTER_COUNT 0
        millisecond_within_hundredth := 0
        oscillator_failed := true
        single_supply := false
        alarm_match_active := false }
    prescaler_phase_attoseconds := 0
    phase_lt := by decide }

/-- Restores retained state and advances a running clock by the offline time. -/
def restore_battery_state (state : Dp8573aBatteryState) (offline_milliseconds : Nat) : Dp8573a :=
  { state.toDp8573a with counters := state.counters.advance_offline_milliseconds offline_milliseconds }

def write_alternate_control (rtc : Dp8573a) (register : Nat) (value : U8) : Dp8573a :=
  if register = REAL_TIME_MODE then
    let was_running := rtc.counters.running
    let is_running := value &&& CLOCK_START != 0
    let counters := rtc.counters.set_control REAL_TIME_MODE value
    let stopped := was_running && !is_running
    let counters := if stopped then { counters with millisecond_within_hundredth := 0 } else counters
    let counters := if is_running then { counters with oscillator_failed := false } else counters
    let counters := if counters.time_save_enabled then counters.copy_all_time_save_registers else counters
    let counters := counters.recompute_alarm_match
    if stopped then { counters, prescaler_phase_attoseconds := 0, phase_lt := by decide } else { rtc with counters }
  else if register = INTERRUPT_CONTROL_1 then
    { rtc with counters := (rtc.counters.set_control register value).recompute_alarm_match }
  else { rtc with counters := rtc.counters.set_control register value }

def write_register (rtc : Dp8573a) (register : Nat) (value : U8) : Dp8573a :=
  let counters := rtc.counters
  if register = MAIN_STATUS then { rtc with counters := counters.write_main_status value }
  else if (1 ≤ register ∧ register ≤ 4) ∧ counters.alternate_bank_selected then
    rtc.write_alternate_control (register - 1) value
  else if register = 1 ∨ register = 2 then rtc
  else if register = PERIODIC_FLAG then
    { rtc with
      counters :=
        { counters.set_register PERIODIC_FLAG
            (counters.register PERIODIC_FLAG &&& PERIODIC_EVENT_BITS ||| value &&& TEST_ENABLE) with
          single_supply := value &&& OSCILLATOR_FAILED != 0 } }
  else if register = TIME_SAVE_CONTROL then { rtc with counters := counters.write_time_save_control value }
  else if (HUNDREDTHS ≤ register ∧ register ≤ YEAR) ∨ register = DAY_OF_WEEK then
    { rtc with counters := counters.write_counter register value }
  else if register = 0x0d then { rtc with counters := counters.set_register register (value &&& 0x03) }
  else if 0x0f ≤ register ∧ register ≤ 0x12 then rtc
  else if SECONDS_COMPARE ≤ register ∧ register ≤ DAY_OF_WEEK_COMPARE then
    { rtc with counters := (counters.set_register register value).recompute_alarm_match }
  else if SECONDS_SAVE ≤ register ∧ register ≤ MONTH_SAVE then
    let counters := counters.set_register register value
    { rtc with
      counters :=
        if counters.time_save_enabled then counters.copy_time_save register (register - SECONDS_SAVE + SECONDS)
        else counters }
  else if register = PAGE_ONE_RAM ∧ !counters.alternate_bank_selected then rtc
  else { rtc with counters := counters.set_register register value }

def decode_register (address length : Nat) : Except BusError Nat :=
  if !(1 ≤ length && length ≤ 4) then .error .InvalidTransaction
  else if (length = 1 ∧ address % 4 = 3) ∨ (length = 4 ∧ address % 4 = 0) then
    if address / 4 < REGISTER_COUNT then .ok (address / 4) else .error .UnimplementedAccess
  else .error .UnimplementedAccess

/-- The bytes of a transaction that reads a register. -/
def transaction_value (value : U8) (length : Nat) : List U8 := List.replicate (length - 1) 0 ++ [value]

/-- Reads one RTC transaction, which clears the periodic flags it reads. -/
def read (rtc : Dp8573a) (address length : Nat) : Except BusError (List U8) × Dp8573a :=
  match decode_register address length with
  | .error error => (.error error, rtc)
  | .ok register =>
    let value := rtc.counters.read_register register
    let cleared :=
      if register = PERIODIC_FLAG ∧ !rtc.counters.alternate_bank_selected then
        rtc.counters.set_register PERIODIC_FLAG (rtc.counters.register PERIODIC_FLAG &&& ~~~PERIODIC_EVENT_BITS)
      else rtc.counters
    (.ok (transaction_value value length), { rtc with counters := cleared })

def write (rtc : Dp8573a) (address : Nat) (data : List U8) : Except BusError Unit × Dp8573a :=
  match decode_register address data.length with
  | .error error => (.error error, rtc)
  | .ok register => (.ok (), rtc.write_register register (data[data.length - 1]?.getD 0))

def running (rtc : Dp8573a) : Bool := rtc.counters.running

/-- Advances a running clock by guest virtual time. -/
def advance_time (rtc : Dp8573a) (elapsed : Nat) : Dp8573a :=
  if !rtc.running then rtc
  else
    let phase := rtc.prescaler_phase_attoseconds + elapsed % ATTOSECONDS_PER_MILLISECOND
    { counters :=
        rtc.counters.advance_milliseconds (elapsed / ATTOSECONDS_PER_MILLISECOND + phase / ATTOSECONDS_PER_MILLISECOND)
      prescaler_phase_attoseconds := phase % ATTOSECONDS_PER_MILLISECOND
      phase_lt := Nat.mod_lt _ (by decide) }

/-- The virtual time until the next millisecond of a running clock. -/
def time_until_event (rtc : Dp8573a) : Option Nat :=
  if !rtc.running then none else some (ATTOSECONDS_PER_MILLISECOND - rtc.prescaler_phase_attoseconds)

end Dp8573a

end se_device.dp8573a
