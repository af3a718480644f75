import Mathlib.Tactic.Common

/-! A view of a quantity that follows its updates a fixed number of boundaries late. -/

namespace Library

/-- A quantity, a view of it that lags behind, and the updates between the two,
the oldest first. A boundary without an update still takes a place in the line. -/
structure DelayLine (σ ω : Type*) where
  main : σ
  view : σ
  pending : List (Option ω)

namespace DelayLine

variable {σ ω : Type*} (update : σ → ω → σ)

/-- What a boundary does to a quantity when the update it makes, if any, arrives. -/
def arrive (quantity : σ) (update? : Option ω) : σ := update?.elim quantity (update quantity)

/-- The quantity the view arrives at once everything in the line is in. -/
def flattened (line : DelayLine σ ω) : σ := line.pending.foldl (arrive update) line.view

/-- One boundary: its update enters the line and the oldest one leaves it. -/
def advance (line : DelayLine σ ω) (entering : Option ω) : DelayLine σ ω :=
  match line.pending ++ [entering] with
  | oldest :: pending => { main := arrive update line.main entering, view := arrive update line.view oldest, pending }
  | [] => line

variable {update}

theorem advance_main (line : DelayLine σ ω) (entering : Option ω) :
    (line.advance update entering).main = arrive update line.main entering := by
  cases hpending : line.pending <;> simp [advance, hpending]

theorem advance_view (line : DelayLine σ ω) (entering : Option ω) :
    ((line.pending ++ [entering]).take 1).foldl (arrive update) line.view =
      (line.advance update entering).view := by
  cases hpending : line.pending <;> simp [advance, hpending]

theorem advance_pending (line : DelayLine σ ω) (entering : Option ω) :
    (line.advance update entering).pending = (line.pending ++ [entering]).drop 1 := by
  cases hpending : line.pending <;> simp [advance, hpending]

theorem advance_flattened (line : DelayLine σ ω) (entering : Option ω) :
    (line.advance update entering).flattened update = arrive update (line.flattened update) entering := by
  unfold flattened
  rw [← advance_view, advance_pending, ← List.foldl_append, List.take_append_drop, List.foldl_append]
  rfl

/-- The line is behind by exactly what is in it. -/
def Settled (update : σ → ω → σ) (line : DelayLine σ ω) : Prop := line.flattened update = line.main

theorem Settled.advance {line : DelayLine σ ω} (h : line.Settled update) (entering : Option ω) :
    (line.advance update entering).Settled update := by
  unfold Settled
  rw [advance_flattened, advance_main, show line.flattened update = line.main from h]

/-- After some boundaries the view has taken as many updates off the front of
the line, those that entered last at its end. -/
theorem run_view_pending (entering : List (Option ω)) (line : DelayLine σ ω) :
    (entering.foldl (DelayLine.advance update) line).view =
        ((line.pending ++ entering).take entering.length).foldl (arrive update) line.view ∧
      (entering.foldl (DelayLine.advance update) line).pending =
        (line.pending ++ entering).drop entering.length := by
  induction entering generalizing line with
  | nil => simp
  | cons first rest ih =>
    obtain ⟨hview, hpending⟩ := ih (line.advance update first)
    have hline : (line.pending ++ [first]).drop 1 ++ rest = (line.pending ++ first :: rest).drop 1 := by
      cases line.pending <;> simp
    have hfront : (line.pending ++ first :: rest).take (rest.length + 1) =
        (line.pending ++ [first]).take 1 ++ ((line.pending ++ first :: rest).drop 1).take rest.length := by
      cases line.pending <;> simp
    rw [advance_pending, hline] at hview hpending
    refine ⟨?_, ?_⟩
    · rw [List.foldl_cons, hview, ← advance_view, ← List.foldl_append, List.length_cons, hfront]
    · rw [List.foldl_cons, hpending, List.drop_drop, List.length_cons, Nat.add_comm]

/-- Once as many boundaries have passed as the line is long, the view is the
quantity as it stood before them. -/
theorem Settled.run_view {line : DelayLine σ ω} (h : line.Settled update) {entering : List (Option ω)}
    (hlength : entering.length = line.pending.length) :
    (entering.foldl (DelayLine.advance update) line).view = line.main := by
  rw [(run_view_pending entering line).1, hlength, List.take_left']
  · exact h
  · rfl

/-- Boundaries without an update drain the line from its end. -/
theorem advance_drained {line : DelayLine σ ω} {count : Nat}
    (h : ∀ update? ∈ line.pending.drop (count + 1), update? = none) :
    ∀ update? ∈ (line.advance update none).pending.drop count, update? = none := by
  intro update? hmem
  rw [advance_pending, List.drop_drop, Nat.add_comm, List.drop_append, List.mem_append] at hmem
  obtain hold | hnew := hmem
  · exact h update? hold
  · exact List.mem_singleton.mp (List.mem_of_mem_drop hnew)

/-- A drained line has nothing the view lacks. -/
theorem Settled.view_of_drained {line : DelayLine σ ω} (h : line.Settled update)
    (hdrained : ∀ update? ∈ line.pending, update? = none) : line.view = line.main := by
  have hflat : ∀ (pending : List (Option ω)) (view : σ), (∀ update? ∈ pending, update? = none) →
      pending.foldl (arrive update) view = view := by
    intro pending view hpending
    induction pending with
    | nil => rfl
    | cons first rest ih =>
      obtain rfl : first = none := hpending first List.mem_cons_self
      exact ih fun update? hmem => hpending update? (List.mem_cons_of_mem _ hmem)
  rw [← h, flattened, hflat line.pending line.view hdrained]

end DelayLine

end Library
