import Mathlib.Tactic.Common

namespace Library.Timing

/-- A wait that is not over. -/
abbrev Delay := { duration : Nat // 0 < duration }

/-- What is left of a wait, if it is not over. -/
def Delay.pass (delay : Delay) (elapsed : Nat) : Option Delay :=
  if h : elapsed < delay.val then some ⟨delay.val - elapsed, Nat.sub_pos_of_lt h⟩ else none

def passed (deadline : Option Delay) (elapsed : Nat) : Option Delay :=
  deadline.bind (·.pass elapsed)

/-- The time `elapsed` ends before the deadline. -/
def Before (elapsed : Nat) (deadline : Option Delay) : Prop :=
  ∀ delay, deadline = some delay → elapsed < delay.val

def earliest : Option Delay → Option Delay → Option Delay
  | none, second => second
  | some first, none => some first
  | some first, some second => if first.val ≤ second.val then some first else some second

variable {delay : Delay} {first second deadline : Option Delay} {elapsed : Nat}

theorem pass_of_lt (h : elapsed < delay.val) : delay.pass elapsed = some ⟨delay.val - elapsed, Nat.sub_pos_of_lt h⟩ :=
  dif_pos h

theorem pass_pass (h : elapsed < delay.val) (more : Nat) :
    Delay.pass ⟨delay.val - elapsed, Nat.sub_pos_of_lt h⟩ more = delay.pass (elapsed + more) := by
  unfold Delay.pass
  by_cases hmore : elapsed + more < delay.val
  · have hleft : more < delay.val - elapsed := by omega
    simp only [hmore, hleft, dif_pos, Nat.sub_sub]
  · have hleft : ¬more < delay.val - elapsed := by omega
    simp only [hmore, hleft, dif_neg, not_false_eq_true]

theorem before_none : Before elapsed none := by
  intro delay h
  cases h

theorem before_some : Before elapsed (some delay) ↔ elapsed < delay.val := by
  constructor
  · intro h
    exact h delay rfl
  · intro h other hother
    cases hother
    exact h

theorem before_earliest : Before elapsed (earliest first second) ↔ Before elapsed first ∧ Before elapsed second := by
  cases first with
  | none => exact ⟨fun h => ⟨before_none, h⟩, And.right⟩
  | some first =>
    cases second with
    | none => exact ⟨fun h => ⟨h, before_none⟩, And.left⟩
    | some second =>
      simp only [earliest]
      split <;> simp only [before_some] <;> omega

theorem passed_earliest (h : Before elapsed (earliest first second)) :
    earliest (passed first elapsed) (passed second elapsed) = passed (earliest first second) elapsed := by
  obtain ⟨hfirst, hsecond⟩ := before_earliest.mp h
  cases first with
  | none => rfl
  | some first =>
    have hfirst := pass_of_lt (before_some.mp hfirst)
    cases second with
    | none =>
      simp only [passed, earliest, Option.bind_none, Option.bind_some, hfirst]
    | some second =>
      have hsecond := pass_of_lt (before_some.mp hsecond)
      simp only [passed, earliest, Option.bind_some, hfirst, hsecond]
      have hiff : first.val - elapsed ≤ second.val - elapsed ↔ first.val ≤ second.val := by
        have := before_some.mp (before_earliest.mp h).1
        have := before_some.mp (before_earliest.mp h).2
        omega
      by_cases hle : first.val ≤ second.val
      · rw [if_pos (hiff.mpr hle), if_pos hle, Option.bind_some, hfirst]
      · rw [if_neg (fun h => hle (hiff.mp h)), if_neg hle, Option.bind_some, hsecond]

theorem passed_passed (h : Before elapsed deadline) (more : Nat) :
    passed (passed deadline elapsed) more = passed deadline (elapsed + more) := by
  cases deadline with
  | none => rfl
  | some delay =>
    have hbefore := before_some.mp h
    simp only [passed, Option.bind_some, pass_of_lt hbefore, pass_pass hbefore]

variable {σ ω : Type}

/-- A timed loop: begin what can begin, and then wait for the next event or let
it happen and begin again. -/
structure Process (σ ω : Type) where
  settle : σ → σ
  deadline : σ → Option Delay
  wait : Nat → σ → σ
  fire : Delay → σ → List ω × σ

/-- Lets time pass, firing each event as it is reached. -/
def Process.advance (process : Process σ ω) (elapsed : Nat) (state : σ) : List ω × σ :=
  match process.deadline (process.settle state) with
  | none => ([], process.settle state)
  | some next =>
    if _h : elapsed < next.val then ([], process.wait elapsed (process.settle state))
    else
      let due := process.fire next (process.settle state)
      let rest := process.advance (elapsed - next.val) due.2
      (due.1 ++ rest.1, rest.2)
termination_by elapsed
decreasing_by exact Nat.sub_lt (Nat.lt_of_lt_of_le next.property (Nat.le_of_not_lt _h)) next.property

/-- Waiting is only waiting: it brings the deadline nearer and changes nothing
that happens then. -/
structure Process.Lawful (process : Process σ ω) : Prop where
  settle_settle : ∀ state, process.settle (process.settle state) = process.settle state
  settle_wait : ∀ state next elapsed, process.settle state = state → process.deadline state = some next →
    elapsed < next.val → process.settle (process.wait elapsed state) = process.wait elapsed state
  deadline_wait : ∀ state next elapsed, process.deadline state = some next → elapsed < next.val →
    process.deadline (process.wait elapsed state) = next.pass elapsed
  wait_wait : ∀ state next first second, process.deadline state = some next → first + second < next.val →
    process.wait second (process.wait first state) = process.wait (first + second) state
  fire_wait : ∀ state next elapsed (h : elapsed < next.val), process.deadline state = some next →
    process.fire ⟨next.val - elapsed, Nat.sub_pos_of_lt h⟩ (process.wait elapsed state) = process.fire next state

namespace Process

variable {process : Process σ ω} {state : σ} {next : Delay}

theorem advance_none (h : process.deadline (process.settle state) = none) :
    process.advance elapsed state = ([], process.settle state) := by
  rw [advance]
  rw [h]

theorem advance_before (h : process.deadline (process.settle state) = some next) (hbefore : elapsed < next.val) :
    process.advance elapsed state = ([], process.wait elapsed (process.settle state)) := by
  rw [advance]
  rw [h]
  simp only [hbefore, dif_pos]

theorem advance_after (h : process.deadline (process.settle state) = some next) (hafter : next.val ≤ elapsed) :
    process.advance elapsed state =
      ((process.fire next (process.settle state)).1 ++
          (process.advance (elapsed - next.val) (process.fire next (process.settle state)).2).1,
        (process.advance (elapsed - next.val) (process.fire next (process.settle state)).2).2) := by
  rw [advance]
  rw [h]
  simp only [Nat.not_lt.mpr hafter, dif_neg, not_false_eq_true]

/-- Nothing happens before the deadline, which comes nearer. -/
theorem advance_waits (lawful : process.Lawful) (h : Before elapsed (process.deadline (process.settle state))) :
    (process.advance elapsed state).1 = [] ∧
      process.deadline (process.advance elapsed state).2 = passed (process.deadline (process.settle state)) elapsed := by
  cases hdeadline : process.deadline (process.settle state) with
  | none =>
    rw [advance_none hdeadline]
    exact ⟨rfl, hdeadline⟩
  | some next =>
    have hbefore := h next hdeadline
    rw [advance_before hdeadline hbefore]
    exact ⟨rfl, lawful.deadline_wait _ _ _ hdeadline hbefore⟩

theorem settle_advance (lawful : process.Lawful) (elapsed : Nat) (state : σ) :
    process.settle (process.advance elapsed state).2 = (process.advance elapsed state).2 := by
  induction elapsed using Nat.strongRecOn generalizing state with
  | ind elapsed ih =>
    cases hdeadline : process.deadline (process.settle state) with
    | none =>
      rw [advance_none hdeadline]
      exact lawful.settle_settle state
    | some next =>
      have hpositive := next.property
      by_cases hbefore : elapsed < next.val
      · rw [advance_before hdeadline hbefore]
        exact lawful.settle_wait _ _ _ (lawful.settle_settle state) hdeadline hbefore
      · have hless : elapsed - next.val < elapsed := by omega
        rw [advance_after hdeadline (Nat.le_of_not_lt hbefore)]
        exact ih _ hless _

/-- Time passes the same in one piece and in two. -/
theorem advance_add (lawful : process.Lawful) (first second : Nat) (state : σ) :
    process.advance (first + second) state =
      ((process.advance first state).1 ++ (process.advance second (process.advance first state).2).1,
        (process.advance second (process.advance first state).2).2) := by
  induction first using Nat.strongRecOn generalizing state with
  | ind first ih =>
    have hsettled := lawful.settle_settle state
    cases hdeadline : process.deadline (process.settle state) with
    | none =>
      have hagain : process.deadline (process.settle (process.settle state)) = none := by rw [hsettled, hdeadline]
      rw [advance_none hdeadline, advance_none hdeadline, advance_none hagain, hsettled]
      rfl
    | some next =>
      have hpositive := next.property
      by_cases hfirst : first < next.val
      · -- The first piece ends before the event; the second may reach it.
        have hwait := lawful.settle_wait _ _ _ hsettled hdeadline hfirst
        have hleft : process.deadline (process.settle (process.wait first (process.settle state))) =
            some ⟨next.val - first, Nat.sub_pos_of_lt hfirst⟩ := by
          rw [hwait, lawful.deadline_wait _ _ _ hdeadline hfirst, pass_of_lt hfirst]
        rw [advance_before hdeadline hfirst]
        by_cases hsecond : second < next.val - first
        · have htotal : first + second < next.val := by omega
          rw [advance_before hdeadline htotal, advance_before hleft hsecond, hwait,
            lawful.wait_wait _ _ _ _ hdeadline htotal]
          rfl
        · have htotal : next.val ≤ first + second := by omega
          have hrest : first + second - next.val = second - (next.val - first) := by omega
          rw [advance_after hdeadline htotal, advance_after hleft (Nat.le_of_not_lt hsecond), hwait,
            lawful.fire_wait _ _ _ hfirst hdeadline, hrest]
          rfl
      · have hreached : next.val ≤ first := Nat.le_of_not_lt hfirst
        have htotal : next.val ≤ first + second := Nat.le_add_right_of_le hreached
        have hrest : first + second - next.val = first - next.val + second := by omega
        have hless : first - next.val < first := by omega
        rw [advance_after hdeadline htotal, advance_after hdeadline hreached, hrest, ih _ hless]
        simp only [List.append_assoc]

/-- What each turn of the loop keeps of the output, the time spent and the state, a
run of it keeps. -/
theorem advance_keeps_time {Keeps : List ω → Nat → σ → Prop}
    (hsettle : ∀ log spent state, Keeps log spent state → Keeps log spent (process.settle state))
    (hidle : ∀ log spent state elapsed, process.deadline state = none → process.settle state = state →
      Keeps log spent state → Keeps log (spent + elapsed) state)
    (hwait : ∀ log spent state next elapsed, process.deadline state = some next → elapsed < next.val →
      Keeps log spent state → Keeps log (spent + elapsed) (process.wait elapsed state))
    (hfire : ∀ log spent state next, process.deadline state = some next → Keeps log spent state →
      Keeps (log ++ (process.fire next state).1) (spent + next.val) (process.fire next state).2)
    (hagain : ∀ state, process.settle (process.settle state) = process.settle state)
    {log : List ω} {spent : Nat} (h : Keeps log spent state) (elapsed : Nat) :
    Keeps (log ++ (process.advance elapsed state).1) (spent + elapsed) (process.advance elapsed state).2 := by
  induction elapsed using Nat.strongRecOn generalizing log spent state with
  | ind elapsed ih =>
    have hsettled := hsettle _ _ _ h
    cases hdeadline : process.deadline (process.settle state) with
    | none =>
      rw [advance_none hdeadline, List.append_nil]
      exact hidle _ _ _ _ hdeadline (hagain state) hsettled
    | some next =>
      have hpositive := next.property
      by_cases hbefore : elapsed < next.val
      · rw [advance_before hdeadline hbefore, List.append_nil]
        exact hwait _ _ _ _ _ hdeadline hbefore hsettled
      · have hless : elapsed - next.val < elapsed := by omega
        have hspent : spent + elapsed = spent + next.val + (elapsed - next.val) := by omega
        rw [advance_after hdeadline (Nat.le_of_not_lt hbefore), ← List.append_assoc, hspent]
        exact ih _ hless (hfire _ _ _ _ hdeadline hsettled)

/-- What each turn of the loop keeps of the output so far and the state, a run of
it keeps. -/
theorem advance_keeps {Keeps : List ω → σ → Prop} (hsettle : ∀ log state, Keeps log state → Keeps log (process.settle state))
    (hwait : ∀ log state next elapsed, process.deadline state = some next → elapsed < next.val → Keeps log state →
      Keeps log (process.wait elapsed state))
    (hfire : ∀ log state next, process.deadline state = some next → Keeps log state →
      Keeps (log ++ (process.fire next state).1) (process.fire next state).2)
    (hagain : ∀ state, process.settle (process.settle state) = process.settle state)
    {log : List ω} (h : Keeps log state) (elapsed : Nat) :
    Keeps (log ++ (process.advance elapsed state).1) (process.advance elapsed state).2 :=
  @advance_keeps_time _ _ process state (fun log _ state => Keeps log state) (fun log _ => hsettle log)
    (fun _ _ _ _ _ _ h => h) (fun log _ => hwait log) (fun log _ => hfire log) hagain log 0 h elapsed

end Process

end Library.Timing
