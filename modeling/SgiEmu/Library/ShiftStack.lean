import Mathlib.Tactic.Common

/-! Stacks of a fixed number of levels, whose oldest level a push shifts out. -/

namespace Library.ShiftStack

variable {σ α : Type*}

/-- A system over states `σ` that holds `capacity` levels of a shift stack:
what its steps do to the level at each distance from the top. -/
structure System (σ α : Type*) where
  capacity : Nat
  level : σ → Nat → Option α
  keep : σ → σ → Prop
  enter : σ → σ → Prop
  leave : σ → σ → Prop
  level_keep : ∀ {s s'}, keep s s' → ∀ i, level s' i = level s i
  level_enter : ∀ {s s'}, enter s s' → ∀ i, i + 1 < capacity → level s' (i + 1) = level s i
  level_leave : ∀ {s s'}, leave s s' → ∀ i, i + 1 < capacity → level s' i = level s (i + 1)

/-- Well-nested executions that never stand more than `depth` levels above
where they began. -/
inductive Balanced (system : System σ α) : Nat → σ → σ → Prop where
  | refl (depth : Nat) (s : σ) : Balanced system depth s s
  | keep {depth : Nat} {s s' s'' : σ} (hkeep : system.keep s s') (hrest : Balanced system depth s' s'') :
    Balanced system depth s s''
  | nest {depth : Nat} {s s₁ s₂ s₃ s' : σ} (henter : system.enter s s₁)
    (hinner : Balanced system depth s₁ s₂) (hleave : system.leave s₂ s₃)
    (hrest : Balanced system (depth + 1) s₃ s') : Balanced system (depth + 1) s s'

/-- A balanced execution of depth `d` disturbs only the `d` oldest levels. -/
theorem Balanced.level_eq {system : System σ α} {depth : Nat} {s s' : σ}
    (h : Balanced system depth s s') :
    ∀ i, i + depth < system.capacity → system.level s' i = system.level s i := by
  induction h with
  | refl depth s => exact fun _ _ => rfl
  | keep hkeep _ ih => exact fun i hi => (ih i hi).trans (system.level_keep hkeep i)
  | @nest depth s s₁ s₂ s₃ s' henter _ hleave _ ihinner ihrest =>
    intro i hi
    calc system.level s' i
        = system.level s₃ i := ihrest i hi
      _ = system.level s₂ (i + 1) := system.level_leave hleave i (by omega)
      _ = system.level s₁ (i + 1) := ihinner (i + 1) (by omega)
      _ = system.level s i := system.level_enter henter i (by omega)

/-- What an entry put on top is still on top after any balanced execution that
stays within the remaining levels. -/
theorem Balanced.top_eq {system : System σ α} {depth : Nat} {s s' : σ}
    (h : Balanced system depth s s') (hdepth : depth < system.capacity) :
    system.level s' 0 = system.level s 0 :=
  h.level_eq 0 (by omega)

end Library.ShiftStack
