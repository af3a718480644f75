import Mathlib.Logic.Function.Basic

/-! Assignments made one after another. Where none of them overwrites what a later
one reads, they leave what they would leave if all of them were made at once. -/

namespace Library

/-- Items that assign to a place, or to none, a value computed from the places
they read. -/
structure Scatter (Item Place Value : Type) where
  target : Item → Option Place
  reads : Item → Place → Prop
  value : Item → (Place → Value) → Value
  value_congr : ∀ item state other, (∀ place, reads item place → state place = other place) →
    value item state = value item other

namespace Scatter

variable {Item Place Value : Type} [DecidableEq Place] (scatter : Scatter Item Place Value)

/-- The state behind one assignment. -/
def assign (state : Place → Value) (item : Item) : Place → Value :=
  match scatter.target item with
  | none => state
  | some place => Function.update state place (scatter.value item state)

/-- No place is assigned to before a later item reads it or assigns to it. -/
def Ordered (items : List Item) : Prop :=
  items.Pairwise fun earlier later => ∀ place, scatter.target earlier = some place →
    ¬scatter.reads later place ∧ scatter.target later ≠ some place

variable {scatter} {items : List Item} {item other : Item} {state : Place → Value} {place : Place}

theorem assign_of_ne (h : scatter.target item ≠ some place) : scatter.assign state item place = state place := by
  unfold assign
  cases htarget : scatter.target item with
  | none => rfl
  | some assigned =>
    apply Function.update_of_ne
    rintro rfl
    exact h htarget

theorem assign_target (h : scatter.target item = some place) :
    scatter.assign state item place = scatter.value item state := by
  unfold assign
  rw [h]
  exact Function.update_self ..

/-- An assignment to places that an item does not read. -/
theorem value_assign (h : ∀ place, scatter.target item = some place → ¬scatter.reads other place) :
    scatter.value other (scatter.assign state item) = scatter.value other state := by
  apply scatter.value_congr
  intro place hreads
  apply assign_of_ne
  intro htarget
  exact h place htarget hreads

/-- Places that no item assigns to stay as they are. -/
theorem foldl_assign_of_ne (h : ∀ item ∈ items, scatter.target item ≠ some place) :
    items.foldl scatter.assign state place = state place := by
  induction items generalizing state with
  | nil => rfl
  | cons first rest ih =>
    rw [List.foldl_cons, ih fun item hitem => h item (List.mem_cons_of_mem _ hitem)]
    exact assign_of_ne (h first List.mem_cons_self)

/-- Every item computes its value from the state before the first assignment. -/
theorem foldl_assign_target (hordered : scatter.Ordered items) (hitem : item ∈ items)
    (htarget : scatter.target item = some place) :
    items.foldl scatter.assign state place = scatter.value item state := by
  induction items generalizing state with
  | nil => cases hitem
  | cons first rest ih =>
    obtain ⟨hfirst, hrest⟩ := List.pairwise_cons.mp hordered
    rw [List.foldl_cons]
    rcases List.mem_cons.mp hitem with rfl | hitem
    · rw [foldl_assign_of_ne fun later hlater => (hfirst later hlater place htarget).2]
      exact assign_target htarget
    · rw [ih hrest hitem]
      exact value_assign fun assigned hassigned => (hfirst item hitem assigned hassigned).1

end Scatter

end Library
