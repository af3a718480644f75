import Mathlib.Order.Lattice
import Mathlib.Tactic.Common

/-! A system that runs by itself from one moment to the next and takes entries in between,
and the journal of the entries it took. Whoever starts where the journal starts and takes
every entry when it is due goes the same way. -/

namespace Library

/-- A run or an entry that the system refuses leads nowhere. -/
structure Journaled (Config Entry Moment : Type*) [LinearOrder Moment] where
  now : Config → Moment
  due : Entry → Moment
  run : Config → Option Config
  take : Config → Entry → Option Config
  now_lt_run : ∀ {config next : Config}, run config = some next → now config < now next
  now_le_take : ∀ {config next : Config} {entry : Entry}, take config entry = some next → now config ≤ now next

namespace Journaled

variable {Config Entry Moment : Type*} [LinearOrder Moment] {system : Journaled Config Entry Moment}
  {start config next last : Config} {entry : Entry} {entries more : List Entry} {runs further : Nat}

/-- The way from one configuration to another, with the entries taken and the number of runs. -/
inductive History (system : Journaled Config Entry Moment) : Config → List Entry → Nat → Config → Prop where
  | nil (config : Config) : History system config [] 0 config
  | run {config next last : Config} {entries : List Entry} {runs : Nat} (hrun : system.run config = some next)
    (htail : History system next entries runs last) : History system config entries (runs + 1) last
  | take {config next last : Config} {entry : Entry} {entries : List Entry} {runs : Nat}
    (hdue : system.due entry = system.now config) (htake : system.take config entry = some next)
    (htail : History system next entries runs last) : History system config (entry :: entries) runs last

namespace History

theorem trans (h : system.History start entries runs config) (hmore : system.History config more further last) :
    system.History start (entries ++ more) (runs + further) last := by
  induction h with
  | nil =>
    rw [Nat.zero_add]
    exact hmore
  | run hrun _ ih =>
    rw [Nat.succ_add]
    exact .run hrun (ih hmore)
  | take hdue htake _ ih => exact .take hdue htake (ih hmore)

theorem snoc_run (h : system.History start entries runs config) (hrun : system.run config = some next) :
    system.History start entries (runs + 1) next := by
  have hmore := h.trans (.run hrun (.nil next))
  rw [List.append_nil] at hmore
  exact hmore

theorem snoc_take (h : system.History start entries runs config) (hdue : system.due entry = system.now config)
    (htake : system.take config entry = some next) : system.History start (entries ++ [entry]) runs next :=
  h.trans (.take hdue htake (.nil next))

theorem now_le (h : system.History start entries runs last) : system.now start ≤ system.now last := by
  induction h with
  | nil => exact le_refl _
  | run hrun _ ih => exact le_trans (le_of_lt (system.now_lt_run hrun)) ih
  | take _ htake _ ih => exact le_trans (system.now_le_take htake) ih

theorem now_le_due (h : system.History start entries runs last) :
    ∀ entry ∈ entries, system.now start ≤ system.due entry := by
  induction h with
  | nil => exact fun _ hmember => nomatch hmember
  | run hrun _ ih => exact fun entry hmember => le_trans (le_of_lt (system.now_lt_run hrun)) (ih entry hmember)
  | take hdue htake _ ih =>
    intro entry hmember
    cases hmember with
    | head => exact le_of_eq hdue.symm
    | tail _ hmember => exact le_trans (system.now_le_take htake) (ih entry hmember)

theorem due_le_now (h : system.History start entries runs last) :
    ∀ entry ∈ entries, system.due entry ≤ system.now last := by
  induction h with
  | nil => exact fun _ hmember => nomatch hmember
  | run _ _ ih => exact ih
  | take hdue htake htail ih =>
    intro entry hmember
    cases hmember with
    | head => exact le_trans (le_of_eq hdue) (le_trans (system.now_le_take htake) htail.now_le)
    | tail _ hmember => exact ih entry hmember

/-- A journal is in the order in which its entries are due. -/
theorem sorted (h : system.History start entries runs last) :
    entries.Pairwise fun before after => system.due before ≤ system.due after := by
  induction h with
  | nil => exact .nil
  | run _ _ ih => exact ih
  | take hdue htake htail ih =>
    refine .cons (fun entry hmember => ?_) ih
    exact le_trans (le_of_eq hdue) (le_trans (system.now_le_take htake) (htail.now_le_due entry hmember))

/-- An entry that is due is the next thing on the way. -/
theorem take_due (h : system.History config (entry :: entries) runs last) (hdue : system.due entry = system.now config) :
    ∃ next, system.take config entry = some next ∧ system.History next entries runs last := by
  cases h with
  | run hrun htail =>
    have hlate := htail.now_le_due entry List.mem_cons_self
    exact absurd (lt_of_lt_of_le (system.now_lt_run hrun) hlate) (hdue ▸ lt_irrefl _)
  | take _ htake htail => exact ⟨_, htake, htail⟩

/-- Where no entry is due, the way ends at this moment or goes on by a run. -/
theorem run_until_due (h : system.History config entries runs last)
    (hnext : ∀ entry ∈ entries.head?, system.due entry ≠ system.now config) :
    (entries = [] ∧ runs = 0 ∧ config = last) ∨
      ∃ further next, runs = further + 1 ∧ system.run config = some next ∧ system.now config < system.now last ∧
        system.History next entries further last := by
  cases h with
  | nil => exact .inl ⟨rfl, rfl, rfl⟩
  | run hrun htail => exact .inr ⟨_, _, rfl, hrun, lt_of_lt_of_le (system.now_lt_run hrun) htail.now_le, htail⟩
  | take hdue => exact absurd hdue (hnext _ rfl)

end History

end Journaled

end Library
