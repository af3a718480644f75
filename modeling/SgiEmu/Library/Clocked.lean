import Mathlib.Algebra.Ring.Nat
import Mathlib.Tactic.Common

namespace Library.Clocked

variable {σ ω : Type}

/-- A process that stands still until its next event, if it has one. -/
structure Clock (σ : Type) where
  state : σ
  remaining : Option { delay : Nat // 0 < delay }

/-- What the event of a state shows and when the next one follows. -/
abbrev Fire (σ ω : Type) := σ → List ω × Clock σ

/-- Lets time pass, firing each event as it is reached. -/
def elapse (fire : Fire σ ω) (elapsed : Nat) (clock : Clock σ) : List ω × Clock σ :=
  match clock.remaining with
  | none => ([], clock)
  | some delay =>
    if h : elapsed < delay.val then
      ([], { clock with remaining := some ⟨delay.val - elapsed, Nat.sub_pos_of_lt h⟩ })
    else
      let rest := elapse fire (elapsed - delay.val) (fire clock.state).2
      ((fire clock.state).1 ++ rest.1, rest.2)
termination_by elapsed
decreasing_by exact Nat.sub_lt (Nat.lt_of_lt_of_le delay.property (Nat.le_of_not_lt h)) delay.property

variable {fire : Fire σ ω} {clock : Clock σ} {delay : { delay : Nat // 0 < delay }} {elapsed : Nat}

theorem elapse_none (h : clock.remaining = none) (elapsed : Nat) : elapse fire elapsed clock = ([], clock) := by
  unfold elapse
  rw [h]

theorem elapse_before (h : clock.remaining = some delay) (hbefore : elapsed < delay.val) :
    elapse fire elapsed clock =
      ([], { clock with remaining := some ⟨delay.val - elapsed, Nat.sub_pos_of_lt hbefore⟩ }) := by
  unfold elapse
  rw [h]
  simp only [hbefore, dif_pos]

theorem elapse_after (h : clock.remaining = some delay) (hafter : delay.val ≤ elapsed) :
    elapse fire elapsed clock =
      ((fire clock.state).1 ++ (elapse fire (elapsed - delay.val) (fire clock.state).2).1,
        (elapse fire (elapsed - delay.val) (fire clock.state).2).2) := by
  rw [elapse]
  rw [h]
  simp only [Nat.not_lt.mpr hafter, dif_neg, not_false_eq_true]

/-- Time passes the same in one piece and in two. -/
theorem elapse_add (first second : Nat) (clock : Clock σ) :
    elapse fire (first + second) clock =
      ((elapse fire first clock).1 ++ (elapse fire second (elapse fire first clock).2).1,
        (elapse fire second (elapse fire first clock).2).2) := by
  induction first using Nat.strongRecOn generalizing clock with
  | ind first ih =>
    cases hremaining : clock.remaining with
    | none => simp only [elapse_none hremaining, List.nil_append]
    | some delay =>
      have hpositive := delay.property
      by_cases hfirst : first < delay.val
      · -- The first piece ends before the event; the second may reach it.
        rw [elapse_before hremaining hfirst]
        dsimp only
        by_cases hsecond : second < delay.val - first
        · have htotal : first + second < delay.val := by omega
          rw [elapse_before hremaining htotal, elapse_before rfl hsecond]
          simp only [List.append_nil, Nat.sub_sub]
        · have htotal : delay.val ≤ first + second := by omega
          have hleft : first + second - delay.val = second - (delay.val - first) := by omega
          have hreached : elapse fire second ⟨clock.state, some ⟨delay.val - first, Nat.sub_pos_of_lt hfirst⟩⟩ = _ :=
            elapse_after rfl (Nat.le_of_not_lt hsecond)
          rw [elapse_after hremaining htotal, hreached, hleft]
          rfl
      · have hreached : delay.val ≤ first := Nat.le_of_not_lt hfirst
        have htotal : delay.val ≤ first + second := Nat.le_add_right_of_le hreached
        have hleft : first + second - delay.val = first - delay.val + second := by omega
        have hless : first - delay.val < first := by omega
        rw [elapse_after hremaining htotal, elapse_after hremaining hreached, hleft, ih _ hless]
        simp only [List.append_assoc]

/-- An event in the future does not happen in no time. -/
theorem elapse_zero (clock : Clock σ) : elapse fire 0 clock = ([], clock) := by
  cases hremaining : clock.remaining with
  | none => exact elapse_none hremaining 0
  | some delay =>
    rw [elapse_before hremaining delay.property]
    obtain ⟨state, remaining⟩ := clock
    cases hremaining
    rfl

/-- While the next event stays within a bound, and every event shows something or is the
last, enough time shows any number of events or reaches the last one. -/
theorem elapse_progress {Kept : Clock σ → Prop} {bound : Nat}
    (hsoon : ∀ {clock delay}, Kept clock → clock.remaining = some delay → delay.val ≤ bound)
    (hfire : ∀ {clock}, Kept clock → clock.remaining ≠ none →
      Kept (fire clock.state).2 ∧ ((fire clock.state).1 ≠ [] ∨ (fire clock.state).2.remaining = none))
    (hkept : Kept clock) {count : Nat} (helapsed : count * bound ≤ elapsed) :
    count ≤ (elapse fire elapsed clock).1.length ∨ (elapse fire elapsed clock).2.remaining = none := by
  induction count generalizing clock elapsed with
  | zero => exact Or.inl (Nat.zero_le _)
  | succ count ih =>
    cases hremaining : clock.remaining with
    | none =>
      rw [elapse_none hremaining]
      exact Or.inr hremaining
    | some delay =>
      have hdelay : delay.val ≤ bound := hsoon hkept hremaining
      have hreached : delay.val ≤ elapsed := by
        rw [Nat.succ_mul] at helapsed
        omega
      have hleft : count * bound ≤ elapsed - delay.val := by
        rw [Nat.succ_mul] at helapsed
        omega
      obtain ⟨hnext, hshown | hended⟩ := hfire hkept (hremaining ▸ Option.some_ne_none delay)
      · rw [elapse_after hremaining hreached, List.length_append]
        have hone := List.length_pos_iff.mpr hshown
        refine (ih hnext hleft).imp_left fun hcount => ?_
        omega
      · rw [elapse_after hremaining hreached, elapse_none hended]
        exact Or.inr hended

end Library.Clocked
