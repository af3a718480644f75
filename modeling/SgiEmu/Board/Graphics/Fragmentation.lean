import SgiEmu.Board.Graphics.Service

open se_core se_device.pic1 Library.Clocked

namespace se_machine.ip12.GraphicsPath

open GraphicsDmaChannel

variable {ε : Type} {board : GraphicsBoard ε} {path : GraphicsPath ε}

/-! ## Servicing what is due -/

theorem due_iff : path.due = true ↔ path.channel.timed = true ∧ path.channel.delay_attoseconds = 0 := by
  unfold due time_until_event
  by_cases htimed : path.channel.timed = true
  · simp [htimed]
  · simp [htimed]

theorem with_times_eq {delay credit : Nat} (hdelay : delay = path.channel.delay_attoseconds)
    (hcredit : credit = path.channel.elapsed_credit_attoseconds) : path.with_times delay credit = path := by
  subst hdelay hcredit
  rfl

/-- A path that is due is its core with its credit. -/
theorem with_times_of_due (hdue : path.due = true) : path.with_times 0 path.channel.elapsed_credit_attoseconds = path :=
  with_times_eq (due_iff.mp hdue).2.symm rfl

/-- How much credit is left to a path that is due. -/
def measure (path : GraphicsPath ε) : Nat := if path.due then path.channel.elapsed_credit_attoseconds + 1 else 0

theorem service_measure (hdue : path.due = true) : (path.service_graphics_dma_request board).2.measure < path.measure := by
  obtain ⟨htimed, _⟩ := due_iff.mp hdue
  obtain ⟨hservice, hsettled⟩ := @service_credit ε board path htimed path.channel.elapsed_credit_attoseconds
  rw [with_times_of_due hdue] at hservice
  rw [hservice]
  generalize ((path.with_times 0 0).service_graphics_dma_request board).2 = next at hsettled
  have hbefore : path.measure = path.channel.elapsed_credit_attoseconds + 1 := by
    unfold measure
    rw [if_pos hdue]
  rw [hbefore]
  unfold measure
  split
  case isFalse => omega
  case isTrue hnext =>
    obtain ⟨hnext_timed, hnext_delay⟩ := due_iff.mp hnext
    simp only [settle, GraphicsDmaChannel.settle] at hnext_timed hnext_delay ⊢
    by_cases hcore : next.channel.timed = true
    · rw [if_pos hcore] at hnext_delay ⊢
      have hpositive := hsettled.delay.mp hcore
      simp only [GraphicsDmaChannel.with_times] at hnext_delay ⊢
      omega
    · rw [if_neg hcore] at hnext_timed
      exact absurd hnext_timed hcore

/-- Services requests until none is due. -/
def serve (board : GraphicsBoard ε) (path : GraphicsPath ε) : List GraphicsEvent × GraphicsPath ε :=
  if _hdue : path.due = true then
    let next := path.service_graphics_dma_request board
    let rest := serve board next.2
    (next.1 ++ rest.1, rest.2)
  else ([], path)
termination_by path.measure
decreasing_by exact service_measure _hdue

theorem serve_due (hdue : path.due = true) :
    path.serve board =
      ((path.service_graphics_dma_request board).1 ++ ((path.service_graphics_dma_request board).2.serve board).1,
        ((path.service_graphics_dma_request board).2.serve board).2) := by
  rw [serve, dif_pos hdue]

theorem serve_idle (hdue : path.due ≠ true) : path.serve board = ([], path) := by
  rw [serve, dif_neg hdue]

/-- Lets time pass and then services every request that has become due. -/
def elapse_time (board : GraphicsBoard ε) (path : GraphicsPath ε) (elapsed : Nat) : List GraphicsEvent × GraphicsPath ε :=
  serve board { path with channel := path.channel.advance_time elapsed }

/-- Elapsed time in pieces, each followed by servicing what is due. -/
def run (board : GraphicsBoard ε) (path : GraphicsPath ε) : List Nat → List GraphicsEvent × GraphicsPath ε
  | [] => ([], path)
  | elapsed :: rest =>
    let first := path.elapse_time board elapsed
    let last := run board first.2 rest
    (first.1 ++ last.1, last.2)

/-! ## The channel as a clock -/

/-- A settled path as a state and the time to its next event. -/
def clock_of (path : GraphicsPath ε) : Clock (GraphicsPath ε) :=
  { state := path.with_times 0 0
    remaining := if h : 0 < path.channel.delay_attoseconds then some ⟨path.channel.delay_attoseconds, h⟩ else none }

def path_of (clock : Clock (GraphicsPath ε)) : GraphicsPath ε :=
  clock.state.with_times ((clock.remaining.map Subtype.val).getD 0) 0

def fire (board : GraphicsBoard ε) : Fire (GraphicsPath ε) GraphicsEvent :=
  fun path => ((path.service_graphics_dma_request board).1, clock_of (path.service_graphics_dma_request board).2)

theorem path_of_clock_of (h : path.channel.Settled) : path_of (clock_of path) = path := by
  have hremaining : ((clock_of path).remaining.map Subtype.val).getD 0 = path.channel.delay_attoseconds := by
    unfold clock_of
    by_cases hdelay : 0 < path.channel.delay_attoseconds
    · rw [dif_pos hdelay]
      rfl
    · rw [dif_neg hdelay]
      exact (Nat.eq_zero_of_not_pos hdelay).symm
  unfold path_of
  rw [hremaining]
  exact with_times_eq rfl h.credit.symm

theorem remaining_of_timed (h : path.channel.Settled) (htimed : path.channel.timed = true) :
    (clock_of path).remaining = some ⟨path.channel.delay_attoseconds, h.delay.mp htimed⟩ := by
  unfold clock_of
  rw [dif_pos (h.delay.mp htimed)]

theorem remaining_of_untimed (h : path.channel.Settled) (htimed : path.channel.timed ≠ true) :
    (clock_of path).remaining = none := by
  unfold clock_of
  rw [dif_neg (mt h.delay.mpr htimed)]

/-- Servicing over a credit is letting the credit elapse after the event. -/
theorem serve_credit (credit : Nat) (htimed : path.channel.timed = true) :
    (path.with_times 0 credit).serve board =
        ((fire board (path.with_times 0 0)).1 ++ (elapse (fire board) credit (fire board (path.with_times 0 0)).2).1,
          path_of (elapse (fire board) credit (fire board (path.with_times 0 0)).2).2) ∧
      ((path.with_times 0 credit).serve board).2.channel.Settled := by
  induction credit using Nat.strongRecOn generalizing path with
  | ind credit ih =>
    have hdue : (path.with_times 0 credit).due = true := due_iff.mpr ⟨htimed, rfl⟩
    obtain ⟨hservice, hsettled⟩ := @service_credit ε board path htimed credit
    rw [serve_due hdue, hservice]
    unfold fire
    dsimp only
    generalize ((path.with_times 0 0).service_graphics_dma_request board).1 = events
    generalize ((path.with_times 0 0).service_graphics_dma_request board).2 = next at hsettled ⊢
    by_cases hnext : next.channel.timed = true
    · have hremaining := remaining_of_timed hsettled hnext
      by_cases hcredit : credit < next.channel.delay_attoseconds
      · -- The credit runs out before the next event.
        have hsettle : next.settle credit = next.with_times (next.channel.delay_attoseconds - credit) 0 := by
          simp only [settle, GraphicsDmaChannel.settle, hnext, if_true, with_times, Nat.min_eq_right (Nat.le_of_lt hcredit),
            Nat.sub_self]
        have hlater : (next.settle credit).due ≠ true := by
          rw [hsettle, Ne, due_iff]
          rintro ⟨_, hzero⟩
          simp only [with_times, GraphicsDmaChannel.with_times] at hzero
          omega
        rw [serve_idle hlater, elapse_before hremaining hcredit, hsettle]
        refine ⟨rfl, rfl, ?_⟩
        exact iff_of_true hnext (Nat.sub_pos_of_lt hcredit)
      · have hreached := Nat.le_of_not_lt hcredit
        have hpositive := hsettled.delay.mp hnext
        have hsettle : next.settle credit = next.with_times 0 (credit - next.channel.delay_attoseconds) := by
          simp only [settle, GraphicsDmaChannel.settle, hnext, if_true, with_times, Nat.min_eq_left hreached, Nat.sub_self]
        obtain ⟨hserve, hserved⟩ := @ih (credit - next.channel.delay_attoseconds) (by omega) next hnext
        rw [hsettle, elapse_after hremaining hreached]
        refine ⟨?_, hserved⟩
        rw [hserve]
        rfl
    · have hremaining := remaining_of_untimed hsettled hnext
      have hsettle : next.settle credit = next := by
        simp only [settle, GraphicsDmaChannel.settle, hnext, if_false, Bool.false_eq_true]
      have hlater : next.due ≠ true := by
        rw [Ne, due_iff]
        exact fun hdue => hnext hdue.1
      rw [hsettle, serve_idle hlater, elapse_none hremaining, path_of_clock_of hsettled]
      exact ⟨rfl, hsettled⟩

/-- A clock whose state keeps no time of its own. -/
def Bare (clock : Clock (GraphicsPath ε)) : Prop :=
  clock.state.with_times 0 0 = clock.state ∧ (clock.state.channel.timed = true ↔ clock.remaining ≠ none)

theorem bare_clock_of (h : path.channel.Settled) : Bare (clock_of path) := by
  refine ⟨rfl, ?_⟩
  by_cases htimed : path.channel.timed = true
  · rw [remaining_of_timed h htimed]
    exact iff_of_true htimed (Option.some_ne_none _)
  · rw [remaining_of_untimed h htimed]
    exact iff_of_false htimed (by simp)

theorem clock_of_path_of {clock : Clock (GraphicsPath ε)} (h : Bare clock) : clock_of (path_of clock) = clock := by
  obtain ⟨state, remaining⟩ := clock
  have hstate : (path_of ⟨state, remaining⟩).with_times 0 0 = state := h.1
  unfold clock_of
  rw [hstate]
  cases remaining with
  | none => rfl
  | some delay =>
    have hdelay : 0 < (path_of ⟨state, some delay⟩).channel.delay_attoseconds := delay.property
    rw [dif_pos hdelay]
    rfl

theorem bare_fire (htimed : path.channel.timed = true) : Bare (fire board (path.with_times 0 0)).2 :=
  bare_clock_of (service_credit htimed 0).2

theorem bare_elapse (elapsed : Nat) {clock : Clock (GraphicsPath ε)} (h : Bare clock) :
    Bare (elapse (fire board) elapsed clock).2 := by
  induction elapsed using Nat.strongRecOn generalizing clock with
  | ind elapsed ih =>
    cases hremaining : clock.remaining with
    | none =>
      rw [elapse_none hremaining]
      exact h
    | some delay =>
      have htimed : clock.state.channel.timed = true := by
        apply h.2.mpr
        rw [hremaining]
        exact Option.some_ne_none _
      by_cases hbefore : elapsed < delay.val
      · rw [elapse_before hremaining hbefore]
        exact ⟨h.1, iff_of_true htimed (Option.some_ne_none _)⟩
      · have hafter := Nat.le_of_not_lt hbefore
        have hpositive := delay.property
        have hfired := @bare_fire ε board clock.state htimed
        rw [h.1] at hfired
        rw [elapse_after hremaining hafter]
        exact ih _ (by omega) hfired

/-- On a settled path the code lets time pass as the clock does. -/
theorem elapse_time_eq {elapsed : Nat} (h : path.channel.Settled) (hbound : elapsed ≤ U128_MAX) :
    path.elapse_time board elapsed =
        ((elapse (fire board) elapsed (clock_of path)).1, path_of (elapse (fire board) elapsed (clock_of path)).2) ∧
      (path.elapse_time board elapsed).2.channel.Settled := by
  unfold elapse_time
  by_cases htimed : path.channel.timed = true
  · have hremaining := remaining_of_timed h htimed
    by_cases hreached : path.channel.delay_attoseconds ≤ elapsed
    · have hadvanced : ({ path with channel := path.channel.advance_time elapsed } : GraphicsPath ε) =
          path.with_times 0 (elapsed - path.channel.delay_attoseconds) := by
        have hcredit : min (0 + (elapsed - path.channel.delay_attoseconds)) U128_MAX =
            elapsed - path.channel.delay_attoseconds := by omega
        simp only [advance_time, htimed, Bool.not_true, Bool.false_eq_true, if_false, ge_iff_le, hreached, if_true,
          h.credit, hcredit, with_times, GraphicsDmaChannel.with_times]
      obtain ⟨hserve, hsettled⟩ := @serve_credit ε board path (elapsed - path.channel.delay_attoseconds) htimed
      rw [hadvanced, elapse_after hremaining hreached]
      exact ⟨hserve, hsettled⟩
    · have hbefore := Nat.lt_of_not_le hreached
      have hadvanced : ({ path with channel := path.channel.advance_time elapsed } : GraphicsPath ε) =
          path.with_times (path.channel.delay_attoseconds - elapsed) 0 := by
        simp only [advance_time, htimed, Bool.not_true, Bool.false_eq_true, if_false, ge_iff_le, hreached, with_times,
          GraphicsDmaChannel.with_times, h.credit]
      have hlater : (path.with_times (path.channel.delay_attoseconds - elapsed) 0).due ≠ true := by
        rw [Ne, due_iff]
        rintro ⟨_, hzero⟩
        simp only [with_times, GraphicsDmaChannel.with_times] at hzero
        omega
      rw [hadvanced, serve_idle hlater, elapse_before hremaining hbefore]
      refine ⟨rfl, rfl, ?_⟩
      exact iff_of_true htimed (Nat.sub_pos_of_lt hbefore)
  · have hadvanced : ({ path with channel := path.channel.advance_time elapsed } : GraphicsPath ε) = path := by
      simp only [advance_time, htimed, Bool.not_false, if_true]
    have hlater : path.due ≠ true := by
      rw [Ne, due_iff]
      exact fun hdue => htimed hdue.1
    rw [hadvanced, serve_idle hlater, elapse_none (remaining_of_untimed h htimed), path_of_clock_of h]
    exact ⟨rfl, h⟩

/-- In pieces of any size the code does what the clock does in one. -/
theorem run_eq {pieces : List Nat} (h : path.channel.Settled) (hbound : ∀ elapsed ∈ pieces, elapsed ≤ U128_MAX) :
    path.run board pieces =
      ((elapse (fire board) pieces.sum (clock_of path)).1, path_of (elapse (fire board) pieces.sum (clock_of path)).2) := by
  induction pieces generalizing path with
  | nil =>
    rw [List.sum_nil, elapse_zero, path_of_clock_of h]
    rfl
  | cons elapsed rest ih =>
    obtain ⟨hfirst, hsettled⟩ := @elapse_time_eq ε board path elapsed h (hbound elapsed List.mem_cons_self)
    have hrest := ih hsettled fun piece hmem => hbound piece (List.mem_cons_of_mem elapsed hmem)
    rw [hfirst] at hrest
    dsimp only at hrest
    rw [clock_of_path_of (bare_elapse elapsed (bare_clock_of h))] at hrest
    rw [run, List.sum_cons, elapse_add, hfirst, hrest]

end se_machine.ip12.GraphicsPath
