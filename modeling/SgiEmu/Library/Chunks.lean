import Mathlib.Data.List.Basic

namespace Library.Chunks

variable {α β γ : Type}

/-- A proper prefix of a sequence of chunks ends inside one of them, or right before it. -/
theorem prefix_flatten_cases {chunks : List (List α)} {front : List α} (hfront : front <+: chunks.flatten)
    (hproper : front ≠ chunks.flatten) :
    ∃ before chunk after torn,
      chunks = before ++ chunk :: after ∧ front = before.flatten ++ torn ∧ torn <+: chunk ∧ torn ≠ chunk := by
  induction chunks generalizing front with
  | nil =>
    rw [List.flatten_nil] at hfront hproper
    exact absurd (List.prefix_nil.mp hfront) hproper
  | cons chunk chunks ih =>
    rw [List.flatten_cons] at hfront hproper
    obtain ⟨tail, htail⟩ := hfront
    obtain ⟨middle, hchunk, hmiddle⟩ | ⟨middle, hrest, hmiddle⟩ := List.append_eq_append_iff.mp htail
    · by_cases hwhole : front = chunk
      · subst hwhole
        have hrest : ([] : List α) ≠ chunks.flatten := by
          intro hnil
          rw [← hnil, List.append_nil] at hproper
          exact hproper rfl
        obtain ⟨before, next, after, torn, hchunks, hfront, htorn⟩ := ih List.nil_prefix hrest
        refine ⟨front :: before, next, after, torn, ?_, ?_, htorn⟩
        · rw [hchunks, List.cons_append]
        · rw [List.flatten_cons, List.append_assoc, ← hfront, List.append_nil]
      · exact ⟨[], chunk, chunks, front, rfl, rfl, ⟨middle, hchunk.symm⟩, hwhole⟩
    · subst hrest
      have hprefix : middle <+: chunks.flatten := ⟨tail, hmiddle.symm⟩
      have hmiddle : middle ≠ chunks.flatten := by
        rintro rfl
        exact hproper rfl
      obtain ⟨before, next, after, torn, hchunks, hfront, htorn⟩ := ih hprefix hmiddle
      refine ⟨chunk :: before, next, after, torn, ?_, ?_, htorn⟩
      · rw [hchunks, List.cons_append]
      · rw [List.flatten_cons, List.append_assoc, ← hfront]

/-! ## Layouts -/

/-- How values are written one after the other: whatever follows a value that was
written, reading takes off that value and leaves what follows. -/
structure Layout (α γ : Type) where
  write : α → List γ
  read : List γ → Option (α × List γ)
  read_write (value : α) (rest : List γ) : read (write value ++ rest) = some (value, rest)

namespace Layout

/-- The value is the letter. -/
def letter : Layout γ γ where
  write value := [value]
  read
    | [] => none
    | value :: rest => some (value, rest)
  read_write _ _ := rfl

/-- A value laid out as another that determines it. -/
def map (layout : Layout α γ) (to_layout : β → α) (of_layout : α → β)
    (h : ∀ value, of_layout (to_layout value) = value) : Layout β γ where
  write value := layout.write (to_layout value)
  read letters := (layout.read letters).map fun (value, rest) => (of_layout value, rest)
  read_write value rest := by
    rw [layout.read_write, Option.map_some]
    dsimp only
    rw [h]

def pair (first : Layout α γ) (second : Layout β γ) : Layout (α × β) γ where
  write value := first.write value.1 ++ second.write value.2
  read letters :=
    match first.read letters with
    | none => none
    | some (value, rest) => (second.read rest).map fun (other, rest) => ((value, other), rest)
  read_write value rest := by
    rw [List.append_assoc, first.read_write]
    dsimp only
    rw [second.read_write, Option.map_some]

/-- A number in unary, up to a letter that stops it. -/
def read_unary [DecidableEq γ] (stop : γ) (number : Nat) : List γ → Option (Nat × List γ)
  | [] => none
  | letter :: rest => if letter = stop then some (number, rest) else read_unary stop (number + 1) rest

theorem read_unary_replicate [DecidableEq γ] {one stop : γ} (hne : one ≠ stop) (number more : Nat) (rest : List γ) :
    read_unary stop number (List.replicate more one ++ stop :: rest) = some (number + more, rest) := by
  induction more generalizing number with
  | zero => rw [List.replicate_zero, List.nil_append, read_unary, if_pos rfl, Nat.add_zero]
  | succ more ih => rw [List.replicate_succ, List.cons_append, read_unary, if_neg hne, ih, Nat.add_right_comm, Nat.add_assoc]

def unary [DecidableEq γ] (one stop : γ) (hne : one ≠ stop) : Layout Nat γ where
  write number := List.replicate number one ++ [stop]
  read := read_unary stop 0
  read_write number rest := by
    rw [List.append_assoc, List.singleton_append, read_unary_replicate hne, Nat.zero_add]

def read_times (layout : Layout α γ) : Nat → List γ → Option (List α × List γ)
  | 0, letters => some ([], letters)
  | count + 1, letters =>
    match layout.read letters with
    | none => none
    | some (value, rest) => (layout.read_times count rest).map fun (values, rest) => (value :: values, rest)

theorem read_times_flatMap (layout : Layout α γ) (values : List α) (rest : List γ) :
    layout.read_times values.length (values.flatMap layout.write ++ rest) = some (values, rest) := by
  induction values with
  | nil => rfl
  | cons value values ih =>
    rw [List.flatMap_cons, List.append_assoc, List.length_cons, read_times, layout.read_write]
    dsimp only
    rw [ih, Option.map_some]

/-- As many values as the number before them says. -/
def many (counts : Layout Nat γ) (layout : Layout α γ) : Layout (List α) γ where
  write values := counts.write values.length ++ values.flatMap layout.write
  read letters :=
    match counts.read letters with
    | none => none
    | some (count, rest) => layout.read_times count rest
  read_write values rest := by
    rw [List.append_assoc, counts.read_write]
    exact layout.read_times_flatMap values rest

/-- A value or none, as a list of at most one. -/
def optional (counts : Layout Nat γ) (layout : Layout α γ) : Layout (Option α) γ :=
  (counts.many layout).map Option.toList List.head? fun value => by
    cases value with
    | none => rfl
    | some value => rfl

theorem length_pair (first : Layout α γ) (second : Layout β γ) (value : α × β) :
    ((first.pair second).write value).length = (first.write value.1).length + (second.write value.2).length :=
  List.length_append

theorem length_unary [DecidableEq γ] {one stop : γ} (hne : one ≠ stop) (number : Nat) :
    ((unary one stop hne).write number).length = number + 1 := by
  unfold unary
  rw [List.length_append, List.length_replicate, List.length_singleton]

/-- Values of one length are as long together as they are many. -/
theorem length_many (counts : Layout Nat γ) {layout : Layout α γ} {values : List α} {length : Nat}
    (h : ∀ value ∈ values, (layout.write value).length = length) :
    ((counts.many layout).write values).length = (counts.write values.length).length + values.length * length := by
  have hlengths : (values.map fun value => (layout.write value).length) = List.replicate values.length length := by
    rw [List.map_congr_left h, List.map_const']
  unfold many
  rw [List.length_append, List.length_flatMap, hlengths, List.sum_replicate_nat]

/-- What was written alone reads back whole. -/
theorem read_alone (layout : Layout α γ) (value : α) : layout.read (layout.write value) = some (value, []) := by
  have h := layout.read_write value []
  rwa [List.append_nil] at h

end Layout

end Library.Chunks
