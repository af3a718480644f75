import Mathlib.Tactic.Common

/-! Flat memories and the plain store of a run of cells. -/

namespace Library.ByteMemory

variable {α : Type*} {memory : Nat → α} {address : Nat} {data : List α}

/-- The memory with `data` laid out from `address` on. -/
def store (memory : Nat → α) (address : Nat) (data : List α) : Nat → α := fun cell =>
  if address ≤ cell then (data[cell - address]?).getD (memory cell) else memory cell

theorem store_inside {i : Nat} (hi : i < data.length) : store memory address data (address + i) = data[i] := by
  have hcell : address + i - address = i := by omega
  simp only [store, Nat.le_add_right, if_true, hcell, List.getElem?_eq_getElem hi, Option.getD_some]

theorem store_outside {cell : Nat} (h : cell < address ∨ address + data.length ≤ cell) :
    store memory address data cell = memory cell := by
  unfold store
  split
  · have hnone : data[cell - address]? = none := List.getElem?_eq_none (by omega)
    rw [hnone, Option.getD_none]
  · rfl

/-- Two memories agree as soon as they agree inside the stored run and outside it. -/
theorem eq_store {memory' : Nat → α}
    (hinside : ∀ i (hi : i < data.length), memory' (address + i) = data[i])
    (houtside : ∀ cell, cell < address ∨ address + data.length ≤ cell → memory' cell = memory cell) :
    memory' = store memory address data := by
  funext cell
  by_cases hcell : address ≤ cell ∧ cell < address + data.length
  · obtain ⟨i, rfl⟩ := Nat.exists_eq_add_of_le hcell.1
    have hi : i < data.length := by omega
    rw [hinside i hi, store_inside hi]
  · have hout : cell < address ∨ address + data.length ≤ cell := by omega
    rw [houtside cell hout, store_outside hout]

@[simp]
theorem store_nil : store memory address [] = memory := by
  symm
  refine eq_store (fun i hi => ?_) fun _ _ => rfl
  exact absurd hi (Nat.not_lt_zero i)

/-- Storing two runs one behind the other is storing them together. -/
theorem store_store (rest : List α) :
    store (store memory address data) (address + data.length) rest = store memory address (data ++ rest) := by
  refine eq_store (fun i hi => ?_) fun cell hcell => ?_
  · rw [List.length_append] at hi
    by_cases hlt : i < data.length
    · rw [store_outside (by omega), store_inside hlt, List.getElem_append_left hlt]
    · obtain ⟨j, rfl⟩ := Nat.exists_eq_add_of_le (Nat.le_of_not_lt hlt)
      rw [← Nat.add_assoc, store_inside (by omega), List.getElem_append_right (by omega)]
      congr 1
      omega
  · rw [List.length_append] at hcell
    rw [store_outside (by omega), store_outside (by omega)]

/-! ## Loading a run -/

/-- The `length` cells from `address` on. -/
def load (memory : Nat → α) (address length : Nat) : List α :=
  (List.range length).map fun i => memory (address + i)

@[simp]
theorem load_length (memory : Nat → α) (address length : Nat) : (load memory address length).length = length := by
  simp only [load, List.length_map, List.length_range]

theorem load_getElem? {length i : Nat} (hi : i < length) :
    (load memory address length)[i]? = some (memory (address + i)) := by
  simp only [load, List.getElem?_map, List.getElem?_range hi, Option.map_some]

/-- A run depends only on the cells in it. -/
theorem load_congr {memory' : Nat → α} {length : Nat} (h : ∀ i < length, memory' (address + i) = memory (address + i)) :
    load memory' address length = load memory address length := by
  unfold load
  refine List.map_congr_left fun i hi => ?_
  exact h i (List.mem_range.mp hi)

/-- A list that holds the cells of a run one by one is the run. -/
theorem eq_load {run : List α} {length : Nat} (hlength : run.length = length)
    (hcells : ∀ i < length, run[i]? = some (memory (address + i))) : run = load memory address length := by
  refine List.ext_getElem? fun i => ?_
  by_cases hi : i < length
  · rw [hcells i hi, load_getElem? hi]
  · rw [List.getElem?_eq_none (by omega), List.getElem?_eq_none (by rw [load_length]; omega)]

end Library.ByteMemory
