import Mathlib.Data.Nat.ModEq
import Mathlib.Tactic.Common

/-! A ring buffer in an array: the entries from the head on, as many as the length
says. Arithmetic that underflows and an index out of range yield `none`. -/

namespace Library

structure Ring (α : Type) (n : Nat) where
  entries : Vector α n
  head : Nat
  length : Nat

namespace Ring

variable {α : Type} {n : Nat} [NeZero n] {ring next : Ring α n} {value : α}

/-- The place of the entry so far behind the head. -/
def slot (ring : Ring α n) (offset : Nat) : Fin n := Fin.ofNat n (ring.head + offset)

/-- The entries in order, oldest first. -/
def contents (ring : Ring α n) : List α := (List.range ring.length).map fun offset => ring.entries[ring.slot offset]

def put (offset : Nat) (value : α) (ring : Ring α n) : Ring α n :=
  { ring with entries := ring.entries.set (ring.slot offset).val value (ring.slot offset).isLt }

def front (ring : Ring α n) : Option α := ring.entries[ring.head]?

/-- Puts an entry behind the newest. -/
def push (value : α) (ring : Ring α n) : Ring α n :=
  { ring.put ring.length value with length := ring.length + 1 }

/-- Puts an entry in place of the newest. -/
def replace_newest (value : α) (ring : Ring α n) : Option (Ring α n) :=
  if ring.head + ring.length = 0 then none
  else
    let entry := Fin.ofNat n (ring.head + ring.length - 1)
    some { ring with entries := ring.entries.set entry.val value entry.isLt }

/-- Drops the oldest entry. -/
def pop (ring : Ring α n) : Option (Ring α n) :=
  if ring.length = 0 then none else some { ring with head := (ring.head + 1) % n, length := ring.length - 1 }

structure InRange (ring : Ring α n) : Prop where
  head : ring.head < n
  length : ring.length ≤ n

theorem contents_length (ring : Ring α n) : ring.contents.length = ring.length := by
  unfold contents
  rw [List.length_map, List.length_range]

theorem slot_inj {first second : Nat} (hfirst : first < n) (hsecond : second < n) (h : ring.slot first = ring.slot second) :
    first = second := by
  have hmod : (ring.head + first) % n = (ring.head + second) % n := congrArg Fin.val h
  have hmod := Nat.ModEq.add_left_cancel' ring.head hmod
  rwa [Nat.ModEq, Nat.mod_eq_of_lt hfirst, Nat.mod_eq_of_lt hsecond] at hmod

/-- Writing one entry leaves the others. -/
theorem put_entry {offset other : Nat} (hoffset : offset < n) (hother : other < n) :
    (ring.put offset value).entries[ring.slot other] = if other = offset then value else ring.entries[ring.slot other] := by
  unfold put
  simp only [Fin.getElem_fin, Vector.getElem_set]
  by_cases hsame : other = offset
  · subst hsame
    rw [if_pos rfl, if_pos rfl]
  · rw [if_neg hsame, if_neg]
    intro hslot
    exact hsame (slot_inj hother hoffset (Fin.ext hslot.symm))

theorem contents_push (hlength : ring.length < n) : (ring.push value).contents = ring.contents ++ [value] := by
  have hlast : (ring.put ring.length value).entries[ring.slot ring.length] = value := by
    rw [put_entry hlength hlength, if_pos rfl]
  have hothers : ∀ offset ∈ List.range ring.length,
      (ring.put ring.length value).entries[ring.slot offset] = ring.entries[ring.slot offset] := by
    intro offset hoffset
    have hbefore := List.mem_range.mp hoffset
    rw [put_entry hlength (Nat.lt_trans hbefore hlength), if_neg (Nat.ne_of_lt hbefore)]
  calc (ring.push value).contents
    _ = (List.range (ring.length + 1)).map fun offset => (ring.put ring.length value).entries[ring.slot offset] := rfl
    _ = ring.contents ++ [value] := by
      rw [List.range_succ, List.map_append, List.map_congr_left hothers, List.map_singleton, hlast]
      rfl

theorem InRange.push (h : ring.InRange) (hlength : ring.length < n) : (ring.push value).InRange := ⟨h.head, hlength⟩

theorem replace_newest_spec (h : ring.InRange) (hlength : 0 < ring.length) :
    ∃ next, ring.replace_newest value = some next ∧ next.InRange ∧ next.contents = ring.contents.dropLast ++ [value] ∧
      next.length = ring.length := by
  have hsum : ring.head + ring.length ≠ 0 := by omega
  have hbound : ring.length - 1 < n := Nat.lt_of_lt_of_le (Nat.sub_lt hlength Nat.one_pos) h.length
  have hentry : Fin.ofNat n (ring.head + ring.length - 1) = ring.slot (ring.length - 1) := by
    unfold slot
    rw [Nat.add_sub_assoc hlength]
  refine ⟨ring.put (ring.length - 1) value, ?_, ⟨h.head, h.length⟩, ?_, rfl⟩
  · unfold replace_newest
    rw [if_neg hsum, hentry]
    rfl
  · obtain ⟨before, hbefore⟩ := Nat.exists_eq_succ_of_ne_zero (Nat.pos_iff_ne_zero.mp hlength)
    have hothers : ∀ offset ∈ List.range before,
        (ring.put before value).entries[ring.slot offset] = ring.entries[ring.slot offset] := by
      intro offset hoffset
      have hless := List.mem_range.mp hoffset
      rw [put_entry (by omega) (by omega), if_neg (Nat.ne_of_lt hless)]
    have hlast : (ring.put before value).entries[ring.slot before] = value := by
      rw [put_entry (by omega) (by omega), if_pos rfl]
    rw [hbefore, Nat.succ_sub_one]
    have hcontents : (ring.put before value).contents =
        (List.range (before + 1)).map fun offset => (ring.put before value).entries[ring.slot offset] := by
      unfold contents
      rw [show (ring.put before value).length = before + 1 from hbefore]
      rfl
    rw [hcontents, contents, hbefore, List.range_succ, List.map_append, List.map_congr_left hothers, List.map_singleton, hlast,
      List.map_append, List.map_singleton, List.dropLast_concat]

theorem pop_spec (h : ring.InRange) (hlength : 0 < ring.length) :
    ∃ next, ring.pop = some next ∧ next.InRange ∧ next.contents = ring.contents.tail := by
  have hmod : (ring.head + 1) % n < n := Nat.mod_lt _ (Nat.pos_of_neZero n)
  have hbound := h.length
  refine ⟨_, if_neg (Nat.pos_iff_ne_zero.mp hlength), ⟨hmod, by dsimp only; omega⟩, ?_⟩
  obtain ⟨before, hbefore⟩ := Nat.exists_eq_succ_of_ne_zero (Nat.pos_iff_ne_zero.mp hlength)
  have hslot (offset : Nat) : Fin.ofNat n ((ring.head + 1) % n + offset) = ring.slot (offset + 1) := by
    apply Fin.ext
    unfold slot
    simp only [Fin.val_ofNat, Nat.mod_add_mod]
    exact congrArg (· % n) (by omega)
  unfold contents slot
  dsimp only
  rw [hbefore, Nat.succ_sub_one, List.range_succ_eq_map, List.map_cons, List.tail_cons, List.map_map]
  apply List.map_congr_left
  intro offset _
  simp only [hslot, Function.comp_apply]
  rfl

theorem front_spec (h : ring.InRange) {first : α} {rest : List α} (hcontents : ring.contents = first :: rest) :
    ring.front = some first := by
  have hlength : 0 < ring.length := by
    rw [← contents_length, hcontents]
    exact Nat.succ_pos _
  obtain ⟨before, hbefore⟩ := Nat.exists_eq_succ_of_ne_zero (Nat.pos_iff_ne_zero.mp hlength)
  have hslot : (ring.slot 0).val = ring.head := Nat.mod_eq_of_lt h.head
  unfold contents at hcontents
  rw [hbefore, List.range_succ_eq_map, List.map_cons, List.cons.injEq] at hcontents
  unfold front
  rw [Vector.getElem?_eq_getElem h.head, ← hcontents.1]
  simp only [Fin.getElem_fin, hslot]

end Ring

end Library
