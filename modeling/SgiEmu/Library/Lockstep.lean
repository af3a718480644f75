import SgiEmu.Library.Timing

open Library.Timing

namespace Library.Lockstep

variable {σ ω : Type}

/-- Machines that run together: when the next of them has something to do, and
what a piece of time does to all of them. -/
structure System (σ ω : Type) where
  deadline : σ → Option Delay
  advance : Nat → σ → List ω × σ

/-- Runs from event to event; what happens is noted with the instant it happens at. -/
def System.run (system : System σ ω) (now remaining : Nat) (state : σ) : List (Nat × ω) × σ :=
  if remaining = 0 then ([], state)
  else
    match system.deadline state with
    | none => ([], state)
    | some next =>
      let step := min remaining next.val
      let due := system.advance step state
      let rest := system.run (now + step) (remaining - step) due.2
      (due.1.map (Prod.mk (now + step)) ++ rest.1, rest.2)
termination_by remaining
decreasing_by
  have hpositive := Nat.pos_of_ne_zero ‹remaining ≠ 0›
  exact Nat.sub_lt hpositive (Nat.lt_min.mpr ⟨hpositive, next.property⟩)

/-- The loop turn by turn: it ends when the time is used up or nothing is due. -/
inductive System.Runs (system : System σ ω) : Nat → Nat → σ → List (Nat × ω) → σ → Prop where
  | done (now : Nat) (state : σ) : Runs system now 0 state [] state
  | idle {now remaining : Nat} {state : σ} (hremaining : remaining ≠ 0) (h : system.deadline state = none) :
    Runs system now remaining state [] state
  | turn {now remaining : Nat} {state last : σ} {next : Delay} {rest : List (Nat × ω)} (hremaining : remaining ≠ 0)
    (h : system.deadline state = some next)
    (hrest : Runs system (now + min remaining next.val) (remaining - min remaining next.val)
      (system.advance (min remaining next.val) state).2 rest last) :
    Runs system now remaining state
      ((system.advance (min remaining next.val) state).1.map (Prod.mk (now + min remaining next.val)) ++ rest) last

/-- The states of `Inv` are kept, and before the deadline time only passes. -/
structure System.Lawful (system : System σ ω) (Inv : σ → Prop) : Prop where
  keeps : ∀ state elapsed, Inv state → Inv (system.advance elapsed state).2
  waits : ∀ state next elapsed, Inv state → system.deadline state = some next → elapsed < next.val →
    (system.advance elapsed state).1 = [] ∧ system.deadline (system.advance elapsed state).2 = next.pass elapsed
  joins : ∀ state next first second, Inv state → system.deadline state = some next → first < next.val →
    first + second ≤ next.val →
    system.advance second (system.advance first state).2 = system.advance (first + second) state

namespace System

variable {system : System σ ω} {Inv : σ → Prop} {state : σ} {next : Delay} {remaining : Nat}

theorem run_zero (now : Nat) (state : σ) : system.run now 0 state = ([], state) := by
  rw [run]
  exact if_pos rfl

theorem run_none (h : system.deadline state = none) (now remaining : Nat) :
    system.run now remaining state = ([], state) := by
  rw [run]
  split
  · rfl
  · rw [h]

theorem run_some (h : system.deadline state = some next) (hremaining : remaining ≠ 0) (now : Nat) :
    system.run now remaining state =
      ((system.advance (min remaining next.val) state).1.map (Prod.mk (now + min remaining next.val)) ++
          (system.run (now + min remaining next.val) (remaining - min remaining next.val)
            (system.advance (min remaining next.val) state).2).1,
        (system.run (now + min remaining next.val) (remaining - min remaining next.val)
          (system.advance (min remaining next.val) state).2).2) := by
  rw [run]
  rw [if_neg hremaining]
  simp only [h]

/-- The loop ends from every state. -/
theorem runs_run (now remaining : Nat) (state : σ) :
    system.Runs now remaining state (system.run now remaining state).1 (system.run now remaining state).2 := by
  induction remaining using Nat.strongRecOn generalizing now state with
  | ind remaining ih =>
    by_cases hzero : remaining = 0
    · rw [hzero, run_zero]
      exact .done now state
    · cases hdeadline : system.deadline state with
      | none =>
        rw [run_none hdeadline]
        exact .idle hzero hdeadline
      | some next =>
        have hpositive := next.property
        rw [run_some hdeadline hzero]
        apply System.Runs.turn hzero hdeadline
        apply ih
        omega

theorem run_keeps (lawful : system.Lawful Inv) (now remaining : Nat) (h : Inv state) :
    Inv (system.run now remaining state).2 := by
  induction remaining using Nat.strongRecOn generalizing now state with
  | ind remaining ih =>
    by_cases hzero : remaining = 0
    · rw [hzero, run_zero]
      exact h
    · cases hdeadline : system.deadline state with
      | none =>
        rw [run_none hdeadline]
        exact h
      | some next =>
        have hpositive := next.property
        have hless : remaining - min remaining next.val < remaining := by omega
        rw [run_some hdeadline hzero]
        exact ih _ hless _ (lawful.keeps _ _ h)

/-- A run in one piece and a run in two show the same at the same instants. -/
theorem run_add (lawful : system.Lawful Inv) (now first second : Nat) (h : Inv state) :
    system.run now (first + second) state =
      ((system.run now first state).1 ++ (system.run (now + first) second (system.run now first state).2).1,
        (system.run (now + first) second (system.run now first state).2).2) := by
  induction first using Nat.strongRecOn generalizing now state with
  | ind first ih =>
    by_cases hzero : first = 0
    · rw [hzero, run_zero]
      simp only [Nat.zero_add, Nat.add_zero, List.nil_append]
    · cases hdeadline : system.deadline state with
      | none => simp only [run_none hdeadline, List.append_nil]
      | some next =>
        have hpositive := next.property
        have htotal : first + second ≠ 0 := by omega
        by_cases hfirst : first < next.val
        · -- The first piece only waits, and the second step is what is left of the whole one.
          have hmin : min first next.val = first := by omega
          obtain ⟨houtput, hleft⟩ := lawful.waits _ _ _ h hdeadline hfirst
          rw [run_some hdeadline hzero, hmin, Nat.sub_self, run_zero, houtput]
          by_cases hsecond : second = 0
          · rw [hsecond, run_zero, Nat.add_zero, run_some hdeadline hzero, hmin, Nat.sub_self, run_zero, houtput]
            rfl
          · rw [pass_of_lt hfirst] at hleft
            have hstep : min (first + second) next.val = first + min second (next.val - first) := by omega
            have hrest : first + second - (first + min second (next.val - first)) =
                second - min second (next.val - first) := by omega
            have hjoin := lawful.joins _ _ first (min second (next.val - first)) h hdeadline hfirst (by omega)
            rw [run_some hdeadline htotal, run_some hleft hsecond, hstep, hrest, hjoin, Nat.add_assoc]
            rfl
        · have hmin : min first next.val = next.val := by omega
          have hstep : min (first + second) next.val = next.val := by omega
          have hrest : first + second - next.val = first - next.val + second := by omega
          have hless : first - next.val < first := by omega
          have hnow : now + next.val + (first - next.val) = now + first := by omega
          rw [run_some hdeadline htotal, run_some hdeadline hzero, hmin, hstep, hrest,
            ih _ hless _ (lawful.keeps _ _ h), hnow]
          simp only [List.append_assoc]

end System

end Library.Lockstep
