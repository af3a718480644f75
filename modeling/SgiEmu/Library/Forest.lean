import Mathlib.Data.List.Nodup

/-! Forests that are listed node by node, each with the key of its parent. -/

namespace Library.Forest

variable {α κ : Type} {key : α → κ} {parent : α → Option κ} {seen other : List κ} {nodes first second : List α}

/-- Every parent is a key seen before, or that of a node listed earlier. -/
def ParentsFirst (key : α → κ) (parent : α → Option κ) (seen : List κ) : List α → Prop
  | [] => True
  | node :: nodes => (∀ owner, parent node = some owner → owner ∈ seen) ∧ ParentsFirst key parent (key node :: seen) nodes

/-- More keys seen do no harm. -/
theorem ParentsFirst.mono (h : ParentsFirst key parent seen nodes) (hseen : seen ⊆ other) :
    ParentsFirst key parent other nodes := by
  induction nodes generalizing seen other with
  | nil => trivial
  | cons node nodes ih =>
    obtain ⟨hnode, hnodes⟩ := h
    exact ⟨fun owner howner => hseen (hnode owner howner), ih hnodes (List.cons_subset_cons _ hseen)⟩

theorem ParentsFirst.append (hfirst : ParentsFirst key parent seen first)
    (hsecond : ParentsFirst key parent (first.map key ++ seen) second) : ParentsFirst key parent seen (first ++ second) := by
  induction first generalizing seen with
  | nil => exact hsecond
  | cons node first ih =>
    obtain ⟨hnode, hnodes⟩ := hfirst
    refine ⟨hnode, ih hnodes (hsecond.mono ?_)⟩
    intro owner howner
    simp only [List.map_cons, List.cons_append, List.mem_cons, List.mem_append] at howner ⊢
    tauto

/-- What the listing says of a node anywhere in it. -/
theorem ParentsFirst.earlier (h : ParentsFirst key parent seen nodes) {before after : List α} {node : α}
    (hnodes : nodes = before ++ node :: after) {owner : κ} (howner : parent node = some owner) :
    owner ∈ before.map key ∨ owner ∈ seen := by
  induction before generalizing seen nodes with
  | nil =>
    rw [hnodes] at h
    exact .inr (h.1 owner howner)
  | cons listed before ih =>
    rw [hnodes] at h
    obtain ⟨-, hrest⟩ := h
    have hearlier := ih hrest rfl
    simp only [List.map_cons, List.mem_cons] at hearlier ⊢
    tauto

end Library.Forest
