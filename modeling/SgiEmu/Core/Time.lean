import Mathlib.Tactic.Common

namespace se_core.time

/-- The number of attoseconds in one second. Durations and instants of guest
virtual time are natural numbers of attoseconds. -/
def ATTOSECONDS_PER_SECOND : Nat := 1000000000000000000

theorem attoseconds_per_second_pos : 0 < ATTOSECONDS_PER_SECOND := by decide

end se_core.time
