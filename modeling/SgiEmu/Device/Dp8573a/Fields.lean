import SgiEmu.Device.Dp8573a.Clock

open se_core

namespace se_device.dp8573a

/-! ## Fields of the registers

A counter shows its value in the bits of its mask, and keeps the other bits of its
register. -/

/-- A register whose masked bits are replaced. -/
def blend (mask old new : U8) : U8 := old &&& ~~~mask ||| new &&& mask

section Blend

variable (mask old new : U8)

theorem blend_and_not : blend mask old new &&& ~~~mask = old &&& ~~~mask := by
  ext i hi
  simp only [blend, BitVec.getElem_and, BitVec.getElem_or, BitVec.getElem_not]
  cases old[i] <;> cases new[i] <;> cases mask[i] <;> rfl

theorem blend_self : blend mask old (old &&& mask) = old := by
  ext i hi
  simp only [blend, BitVec.getElem_and, BitVec.getElem_or, BitVec.getElem_not]
  cases old[i] <;> cases mask[i] <;> rfl

variable {mask} in
/-- Bits inside the mask are the new ones. -/
theorem blend_and_inside {other : U8} (h : other &&& mask = other) : blend mask old new &&& other = new &&& other := by
  ext i hi
  have hbit := congrArg (fun value : U8 => value[i]) h
  simp only [BitVec.getElem_and] at hbit
  simp only [blend, BitVec.getElem_and, BitVec.getElem_or, BitVec.getElem_not]
  cases hother : other[i] <;> cases hmask : mask[i] <;> simp_all

variable {mask} in
/-- Bits outside the mask are the old ones. -/
theorem blend_and_outside {other : U8} (h : mask &&& other = 0) : blend mask old new &&& other = old &&& other := by
  ext i hi
  have hbit := congrArg (fun value : U8 => value[i]) h
  simp only [BitVec.getElem_and] at hbit
  simp only [blend, BitVec.getElem_and, BitVec.getElem_or, BitVec.getElem_not]
  cases hother : other[i] <;> cases hmask : mask[i] <;> simp_all

theorem blend_and : blend mask old new &&& mask = new &&& mask := blend_and_inside old new (BitVec.and_self)

end Blend

inductive Field where
  | Hundredths
  | Seconds
  | Minutes
  | Hours
  | DayOfMonth
  | Month
  | Year
  | DayOfWeek
deriving DecidableEq, Repr

namespace Field

def index : Field → Nat
  | .Hundredths => HUNDREDTHS
  | .Seconds => SECONDS
  | .Minutes => MINUTES
  | .Hours => HOURS
  | .DayOfMonth => DAY_OF_MONTH
  | .Month => MONTH
  | .Year => YEAR
  | .DayOfWeek => DAY_OF_WEEK

def mask (hour_mode_12 : Bool) : Field → U8
  | .Hundredths => 0xff
  | .Seconds => 0x7f
  | .Minutes => 0x7f
  | .Hours => if hour_mode_12 then 0x9f else 0x3f
  | .DayOfMonth => 0x3f
  | .Month => 0x1f
  | .Year => 0xff
  | .DayOfWeek => 0x07

theorem index_injective {f g : Field} (h : f.index = g.index) : f = g := by
  cases f <;> cases g <;> first | rfl | exact absurd h (by decide)

theorem index_lt (f : Field) : f.index < REGISTER_COUNT := by cases f <;> decide

end Field

/-- What a clock shows in a field. -/
def ClockState.code (hour_mode_12 : Bool) (clock : ClockState) : Field → U8
  | .Hundredths => encode_bcd clock.hundredths
  | .Seconds => encode_bcd clock.seconds
  | .Minutes => encode_bcd clock.minutes
  | .Hours => encode_hour clock.hour hour_mode_12
  | .DayOfMonth => encode_bcd clock.date.day_of_month
  | .Month => encode_bcd clock.date.month
  | .Year => encode_bcd clock.date.year
  | .DayOfWeek => encode_bcd clock.date.day_of_week

/-- Two digits encode what they decode to. -/
theorem decode_encode_bcd {value : Nat} (h : value ≤ 99) : decode_bcd (encode_bcd value) = some value := by
  have hall : ∀ value < 100, decode_bcd (encode_bcd value) = some value := by decide
  exact hall value (by omega)

theorem encode_decode_bcd {raw : U8} {value : Nat} (h : decode_bcd raw = some value) : encode_bcd value = raw := by
  have hall : ∀ raw : U8, (decode_bcd raw).all (fun value => encode_bcd value == raw) = true := by decide +kernel
  simpa [h] using hall raw

/-- The hour register holds the code of the hour it decodes to, in its own mode. -/
theorem encode_decode_hour {raw : U8} {hour_mode_12 : Bool} {hour : Nat} (h : decode_hour raw hour_mode_12 = some hour) :
    encode_hour hour hour_mode_12 = raw &&& Field.mask hour_mode_12 .Hours := by
  have hall : ∀ (hour_mode_12 : Bool) (raw : U8), (decode_hour raw hour_mode_12).all (fun hour =>
      encode_hour hour hour_mode_12 == raw &&& Field.mask hour_mode_12 .Hours) = true := by decide +kernel
  simpa [h] using hall hour_mode_12 raw

theorem decode_hour_lt {raw : U8} {hour_mode_12 : Bool} {hour : Nat} (h : decode_hour raw hour_mode_12 = some hour) :
    hour < 24 := by
  have hall : ∀ (hour_mode_12 : Bool) (raw : U8), (decode_hour raw hour_mode_12).all (· < 24) = true := by decide +kernel
  simpa [h] using hall hour_mode_12 raw

theorem encode_bcd_fits_7f {value : Nat} (h : value < 80) : encode_bcd value &&& 0x7f = encode_bcd value := by
  have hall : ∀ value < 80, encode_bcd value &&& 0x7f = encode_bcd value := by decide
  exact hall value h

theorem encode_bcd_fits_3f {value : Nat} (h : value < 40) : encode_bcd value &&& 0x3f = encode_bcd value := by
  have hall : ∀ value < 40, encode_bcd value &&& 0x3f = encode_bcd value := by decide
  exact hall value h

theorem encode_bcd_fits_1f {value : Nat} (h : value < 20) : encode_bcd value &&& 0x1f = encode_bcd value := by
  have hall : ∀ value < 20, encode_bcd value &&& 0x1f = encode_bcd value := by decide
  exact hall value h

theorem encode_bcd_fits_07 {value : Nat} (h : value < 8) : encode_bcd value &&& 0x07 = encode_bcd value := by
  have hall : ∀ value < 8, encode_bcd value &&& 0x07 = encode_bcd value := by decide
  exact hall value h

theorem encode_bcd_fits_ff (value : Nat) : encode_bcd value &&& 0xff = encode_bcd value := by
  have hones : (0xff : U8) = BitVec.allOnes 8 := by decide
  rw [hones, BitVec.and_allOnes]

namespace Counters

variable {base rtc counters : Counters} {clock clock' : ClockState}

theorem register_set_self {index : Nat} (h : index < REGISTER_COUNT) (value : U8) :
    (rtc.set_register index value).register index = value := by simp [set_register, register, h]

/-- Writing a register leaves the others. -/
theorem register_set_other {index other : Nat} (h : index ≠ other) (value : U8) :
    (rtc.set_register index value).register other = rtc.register other := by
  simp [set_register, register, h]

theorem control_set_self {index : Nat} (h : index < BANKED_REGISTER_COUNT) (value : U8) :
    (rtc.set_control index value).control index = value := by simp [set_control, control, h]

theorem control_set_other {index other : Nat} (h : index ≠ other) (value : U8) :
    (rtc.set_control index value).control other = rtc.control other := by
  simp [set_control, control, h]

/-! ## Showing a clock -/

/-- The registers of `base`, their counters at a clock. -/
structure Shows (base : Counters) (clock : ClockState) (rtc : Counters) : Prop where
  field : ∀ f : Field, rtc.register f.index =
    blend (f.mask base.hour_mode_12) (base.register f.index) (clock.code base.hour_mode_12 f)
  mode : rtc.control REAL_TIME_MODE = blend 0x03 (base.control REAL_TIME_MODE) (BitVec.ofNat 8 clock.date.leap_year)
  control : ∀ index, index ≠ REAL_TIME_MODE → rtc.control index = base.control index

/-- What the counters leave alone. -/
structure Frame (rtc next : Counters) : Prop where
  register : ∀ index, (∀ f : Field, f.index ≠ index) → next.register index = rtc.register index
  millisecond : next.millisecond_within_hundredth = rtc.millisecond_within_hundredth
  oscillator : next.oscillator_failed = rtc.oscillator_failed
  supply : next.single_supply = rtc.single_supply
  alarm : next.alarm_match_active = rtc.alarm_match_active

/-- From `rtc`, only the counters have moved on to a clock. -/
structure Moved (base rtc : Counters) (clock : ClockState) (next : Counters) : Prop where
  shows : Shows base clock next
  frame : Frame rtc next

theorem Shows.hour_mode_12 (h : Shows base clock rtc) : rtc.hour_mode_12 = base.hour_mode_12 := by
  unfold Counters.hour_mode_12
  rw [h.mode, blend_and_outside _ _ (by decide)]

/-- The leap year of the clock is the low two bits of the real-time mode. -/
theorem Shows.leap_year (h : Shows base clock rtc) (hleap : clock.date.leap_year < 4) :
    (rtc.control REAL_TIME_MODE &&& 0x03).toNat = clock.date.leap_year := by
  have hall : ∀ leap_year < 4, (BitVec.ofNat 8 leap_year &&& (0x03 : U8)).toNat = leap_year := by decide
  rw [h.mode, blend_and]
  exact hall _ hleap

theorem Shows.moved (h : Shows base clock rtc) : Moved base rtc clock rtc :=
  ⟨h, fun _ _ => rfl, rfl, rfl, rfl, rfl⟩

/-- Setting one counter moves the clock on in that field. -/
theorem Moved.set_field (h : Moved base rtc clock counters) (f : Field)
    (hsame : ∀ g, g ≠ f → clock'.code base.hour_mode_12 g = clock.code base.hour_mode_12 g)
    (hleap : clock'.date.leap_year = clock.date.leap_year) :
    Moved base rtc clock' (counters.set_register f.index
      (blend (f.mask base.hour_mode_12) (base.register f.index) (clock'.code base.hour_mode_12 f))) := by
  refine ⟨⟨fun g => ?_, ?_, h.shows.control⟩, fun index hindex => ?_, h.frame.millisecond, h.frame.oscillator,
    h.frame.supply, h.frame.alarm⟩
  · by_cases heq : g = f
    · subst heq
      exact register_set_self g.index_lt _
    · rw [register_set_other (fun hindex => heq (Field.index_injective hindex).symm), h.shows.field, hsame g heq]
  · rw [hleap]
    exact h.shows.mode
  · rw [register_set_other (hindex f)]
    exact h.frame.register index hindex

/-- A counter that decodes counts on. -/
theorem Moved.increment (h : Moved base rtc clock counters) (f : Field) {mask : U8} {value minimum maximum : Nat}
    (hmask : f.mask base.hour_mode_12 = mask) (hcode : clock.code base.hour_mode_12 f = encode_bcd value)
    (hminimum : minimum ≤ value) (hmaximum : value ≤ maximum) (hlimit : maximum ≤ 99)
    (hfits : encode_bcd value &&& mask = encode_bcd value)
    (hnext : clock'.code base.hour_mode_12 f = encode_bcd (if value = maximum then minimum else value + 1))
    (hsame : ∀ g, g ≠ f → clock'.code base.hour_mode_12 g = clock.code base.hour_mode_12 g)
    (hleap : clock'.date.leap_year = clock.date.leap_year) :
    ∃ next, counters.increment_bcd_register f.index mask minimum maximum =
        (some (if value = maximum then minimum else value + 1, value == maximum), next) ∧ Moved base rtc clock' next := by
  have hraw : counters.register f.index &&& mask = encode_bcd value := by
    rw [h.shows.field, hmask, blend_and, hcode, hfits]
  have hkept : counters.register f.index &&& ~~~mask = base.register f.index &&& ~~~mask := by
    rw [h.shows.field, hmask, blend_and_not]
  have hdecoded : (decode_bcd (counters.register f.index &&& mask)).filter
      (fun value => minimum ≤ value && value ≤ maximum) = some value := by
    rw [hraw, decode_encode_bcd (Nat.le_trans hmaximum hlimit)]
    simp [hminimum, hmaximum]
  refine ⟨_, ?_, h.set_field f hsame hleap⟩
  unfold increment_bcd_register
  simp only [hdecoded, beq_iff_eq, hkept, hmask, hnext]
  rfl

end Counters

end se_device.dp8573a
