import Mathlib.Algebra.Ring.Nat
import Mathlib.Tactic.Common

/-! A clock divided by a rational number. The remainder is carried, so that no
fraction of a tick is lost however the time is cut up. -/

namespace Library

/-- Ticks come `numerator / denominator` to a unit of time. -/
structure Divider where
  numerator : Nat
  denominator : Nat
  numerator_pos : 0 < numerator
  denominator_pos : 0 < denominator

namespace Divider

variable (divider : Divider) {phase : Nat}

/-- The ticks in a stretch of time that begins `phase` into a tick. -/
def ticks (phase elapsed : Nat) : Nat := (phase + elapsed * divider.numerator) / divider.denominator

/-- How far into a tick the stretch ends. -/
def carried (phase elapsed : Nat) : Nat := (phase + elapsed * divider.numerator) % divider.denominator

/-- The time until `count` ticks have come. -/
def wait (phase count : Nat) : Nat :=
  (count * divider.denominator - phase + divider.numerator - 1) / divider.numerator

theorem carried_lt (phase elapsed : Nat) : divider.carried phase elapsed < divider.denominator :=
  Nat.mod_lt _ divider.denominator_pos

/-- Nothing is lost: ticks and remainder make up the time. -/
theorem ticks_mul_add_carried (phase elapsed : Nat) :
    divider.ticks phase elapsed * divider.denominator + divider.carried phase elapsed =
      phase + elapsed * divider.numerator := Nat.div_add_mod' _ _

theorem ticks_zero (h : phase < divider.denominator) : divider.ticks phase 0 = 0 := by
  unfold ticks
  rw [Nat.zero_mul, Nat.add_zero, Nat.div_eq_of_lt h]

theorem carried_zero (h : phase < divider.denominator) : divider.carried phase 0 = phase := by
  unfold carried
  rw [Nat.zero_mul, Nat.add_zero, Nat.mod_eq_of_lt h]

/-- The time after a first stretch, counted in ticks and in what is carried. -/
theorem phase_add (phase elapsed more : Nat) :
    phase + (elapsed + more) * divider.numerator =
      (divider.carried phase elapsed + more * divider.numerator) +
        divider.denominator * divider.ticks phase elapsed := by
  have hmade := divider.ticks_mul_add_carried phase elapsed
  rw [Nat.mul_comm] at hmade
  rw [Nat.add_mul]
  omega

theorem ticks_add (phase elapsed more : Nat) :
    divider.ticks phase (elapsed + more) =
      divider.ticks phase elapsed + divider.ticks (divider.carried phase elapsed) more := by
  unfold ticks
  rw [phase_add, Nat.add_mul_div_left _ _ divider.denominator_pos]
  exact Nat.add_comm _ _

theorem carried_add (phase elapsed more : Nat) :
    divider.carried phase (elapsed + more) = divider.carried (divider.carried phase elapsed) more := by
  unfold carried
  rw [phase_add, Nat.add_mul_mod_self_left]
  rfl

/-- One unit of time comes to the whole ticks of the quotient and what the remainder adds. -/
theorem phase_one (phase : Nat) : phase + 1 * divider.numerator =
    (phase + divider.numerator % divider.denominator) +
      divider.denominator * (divider.numerator / divider.denominator) := by
  have hsplit := Nat.mod_add_div divider.numerator divider.denominator
  omega

/-- The quotient and the remainder of the division are enough to count one unit at a time:
a carry is one more tick. -/
theorem ticks_one (h : phase < divider.denominator) : divider.ticks phase 1 =
    divider.numerator / divider.denominator +
      (if divider.denominator ≤ phase + divider.numerator % divider.denominator then 1 else 0) := by
  have hpart := Nat.mod_lt divider.numerator divider.denominator_pos
  unfold ticks
  rw [phase_one, Nat.add_mul_div_left _ _ divider.denominator_pos, Nat.add_comm]
  congr 1
  split
  case isTrue hcarry => exact Nat.div_eq_of_lt_le (by omega) (by omega)
  case isFalse hcarry => exact Nat.div_eq_of_lt (by omega)

theorem carried_one (h : phase < divider.denominator) : divider.carried phase 1 =
    if divider.denominator ≤ phase + divider.numerator % divider.denominator
    then phase + divider.numerator % divider.denominator - divider.denominator
    else phase + divider.numerator % divider.denominator := by
  have hpart := Nat.mod_lt divider.numerator divider.denominator_pos
  unfold carried
  rw [phase_one, Nat.add_mul_mod_self_left]
  split
  case isTrue hcarry => rw [Nat.mod_eq_sub_mod hcarry, Nat.mod_eq_of_lt (by omega)]
  case isFalse hcarry => exact Nat.mod_eq_of_lt (by omega)

/-- The wait for some ticks is exact. -/
theorem wait_le (phase elapsed count : Nat) :
    divider.wait phase count ≤ elapsed ↔ count ≤ divider.ticks phase elapsed := by
  have hpos := divider.numerator_pos
  unfold wait ticks
  rw [Nat.le_div_iff_mul_le divider.denominator_pos, Nat.div_le_iff_le_mul_add_pred hpos,
    Nat.mul_comm divider.numerator]
  omega

end Divider

end Library
