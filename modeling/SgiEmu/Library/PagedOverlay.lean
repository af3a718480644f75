import SgiEmu.Library.ByteMemory

/-! A flat memory seen through an overlay of pages: a cell is read from its
page when the page is present and long enough, and from the base otherwise. -/

namespace Library.PagedOverlay

open Library.ByteMemory

variable {α : Type*} {page_size : Nat} {pages : Nat → Option (List α)} {base : Nat → α}

def view (page_size : Nat) (pages : Nat → Option (List α)) (base : Nat → α) (cell : Nat) : α :=
  ((pages (cell / page_size)).bind fun page => page[cell % page_size]?).getD (base cell)

/-- Overwrites `data.length` cells of a page from `start` on. -/
def splice (page : List α) (start : Nat) (data : List α) : List α :=
  page.take start ++ data ++ page.drop (start + data.length)

theorem splice_length {page data : List α} {start : Nat} (hfit : start + data.length ≤ page.length) :
    (splice page start data).length = page.length := by
  simp only [splice, List.length_append, List.length_take, List.length_drop]
  omega

theorem splice_getElem? {page data : List α} {start : Nat} (hfit : start + data.length ≤ page.length)
    (i : Nat) :
    (splice page start data)[i]? =
      if start ≤ i ∧ i < start + data.length then data[i - start]? else page[i]? := by
  unfold splice
  have htake : (page.take start).length = start := List.length_take_of_le (by omega)
  by_cases hbefore : i < start
  · rw [if_neg (by omega), List.append_assoc, List.getElem?_append_left (by omega),
      List.getElem?_take_of_lt hbefore]
  · by_cases hinside : i < start + data.length
    · rw [if_pos (by omega), List.getElem?_append_left (by rw [List.length_append]; omega),
        List.getElem?_append_right (by omega), htake]
    · rw [if_neg (by omega), List.getElem?_append_right (by rw [List.length_append]; omega),
        List.length_append, htake, List.getElem?_drop]
      congr 1
      omega

theorem view_at (hpage : 0 < page_size) {index j : Nat} (hj : j < page_size) :
    view page_size pages base (index * page_size + j) =
      ((pages index).bind fun page => page[j]?).getD (base (index * page_size + j)) := by
  have hdiv : (index * page_size + j) / page_size = index := by
    rw [Nat.mul_comm, Nat.mul_add_div hpage, Nat.div_eq_of_lt hj, Nat.add_zero]
  have hmod : (index * page_size + j) % page_size = j := by
    rw [Nat.mul_comm, Nat.mul_add_mod, Nat.mod_eq_of_lt hj]
  rw [view, hdiv, hmod]

/-- Installing a page that shows what the view shows, with a run of its cells
overwritten, is storing that run. -/
theorem view_splice (hpage : 0 < page_size) {index start : Nat} {page data : List α}
    (hlength : page.length ≤ page_size) (hfit : start + data.length ≤ page.length)
    (hshows : ∀ j < page_size,
      (page[j]?).getD (base (index * page_size + j)) = view page_size pages base (index * page_size + j)) :
    view page_size (fun i => if i = index then some (splice page start data) else pages i) base =
      store (view page_size pages base) (index * page_size + start) data := by
  refine eq_store (fun i hi => ?_) fun cell hcell => ?_
  · have hj : start + i < page_size := by omega
    have hrun : start + i - start = i := by omega
    rw [Nat.add_assoc, view_at hpage hj, if_pos rfl, Option.bind_some, splice_getElem? hfit,
      if_pos (by omega), hrun, List.getElem?_eq_getElem hi, Option.getD_some]
  · by_cases hindex : cell / page_size = index
    · have hj : cell % page_size < page_size := Nat.mod_lt cell hpage
      have hsplit : cell = index * page_size + cell % page_size := by
        rw [← hindex, Nat.mul_comm]
        exact (Nat.div_add_mod cell page_size).symm
      rw [hsplit, view_at hpage hj, if_pos rfl, Option.bind_some, splice_getElem? hfit,
        if_neg (by omega), hshows _ hj]
    · simp only [view, hindex, if_false]

end Library.PagedOverlay
