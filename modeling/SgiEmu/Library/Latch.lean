import Mathlib.Tactic.Common

/-! A latch that the rising edges of a signal set. Between the events that write the
latch itself, it tells whether the signal has risen. -/

namespace Library.Latch

/-- The signal is low at a moment and high at the next, within so many moments. -/
def Rises (signal : Nat → Bool) (moments : Nat) : Prop :=
  ∃ passed < moments, signal passed = false ∧ signal (passed + 1) = true

section Signal

variable {signal latch : Nat → Bool} {moments : Nat}

theorem rises_succ : Rises signal (moments + 1) ↔
    Rises signal moments ∨ (signal moments = false ∧ signal (moments + 1) = true) := by
  constructor
  · rintro ⟨passed, hlt, hrises⟩
    rcases Nat.lt_succ_iff_lt_or_eq.mp hlt with hbefore | rfl
    · exact .inl ⟨passed, hbefore, hrises⟩
    · exact .inr hrises
  · rintro (⟨passed, hlt, hrises⟩ | hrises)
    · exact ⟨passed, Nat.lt_succ_of_lt hlt, hrises⟩
    · exact ⟨moments, Nat.lt_succ_self moments, hrises⟩

/-- A latch that every moment sets at an edge, and only then, holds every edge. -/
theorem latched_iff
    (hmoment : ∀ passed < moments, latch (passed + 1) = (latch passed || !signal passed && signal (passed + 1))) :
    latch moments = true ↔ latch 0 = true ∨ Rises signal moments := by
  induction moments with
  | zero =>
    constructor
    · exact .inl
    · rintro (hstart | ⟨passed, hlt, _⟩)
      · exact hstart
      · exact absurd hlt (Nat.not_lt_zero passed)
  | succ moments ih =>
    rw [rises_succ, ← or_assoc, ← ih fun passed hlt => hmoment passed (Nat.lt_succ_of_lt hlt),
      hmoment moments (Nat.lt_succ_self moments)]
    simp only [Bool.or_eq_true, Bool.and_eq_true, Bool.not_eq_true']

end Signal

section Run

variable {State Event : Type} {step : State → Event → State} {Inv : State → Prop} {latch : State → Bool}
  {writes rises : State → Event → Prop}

/-- Something happens at an event of a run. -/
def Occurs (step : State → Event → State) (happens : State → Event → Prop) : State → List Event → Prop
  | _, [] => False
  | state, event :: events => happens state event ∨ Occurs step happens (step state event) events

theorem run_keeps (hkeeps : ∀ state event, Inv state → Inv (step state event)) {state : State} (h : Inv state)
    (events : List Event) : Inv (events.foldl step state) := by
  induction events generalizing state with
  | nil => exact h
  | cons event events ih => exact ih (hkeeps state event h)

/-- While no event writes the latch, a run sets it exactly when the signal rises at some event. -/
theorem run_latched_iff (hkeeps : ∀ state event, Inv state → Inv (step state event))
    (hevent : ∀ state event, Inv state → ¬writes state event →
      (latch (step state event) = true ↔ latch state = true ∨ rises state event))
    {state : State} (h : Inv state) {events : List Event} (hquiet : ¬Occurs step writes state events) :
    latch (events.foldl step state) = true ↔ latch state = true ∨ Occurs step rises state events := by
  induction events generalizing state with
  | nil => simp [Occurs]
  | cons event events ih =>
    obtain ⟨hfirst, hrest⟩ := not_or.mp hquiet
    rw [List.foldl_cons, ih (hkeeps state event h) hrest, hevent state event h hfirst, Occurs, or_assoc]

end Run

end Library.Latch
