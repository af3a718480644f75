import Mathlib.Tactic.Common

/-! Memo tables whose slots carry the generation that filled them. -/

namespace Library.Generation

variable {κ ν : Type*}

/-- A slot filled for `key` at generation `stamp` may be consulted at
generation `now`: it is no younger than `now`, and if it is exactly as young
then it holds what `f` answers for its key. -/
def Fresh (f : κ → ν) (now stamp : Nat) (key : κ) (value : ν) : Prop :=
  stamp ≤ now ∧ (stamp = now → value = f key)

theorem Fresh.hit {f : κ → ν} {now stamp : Nat} {key : κ} {value : ν}
    (h : Fresh f now stamp key value) (hstamp : stamp = now) : value = f key :=
  h.2 hstamp

theorem fresh_of_lt {f : κ → ν} {now stamp : Nat} {key : κ} {value : ν} (hlt : stamp < now) :
    Fresh f now stamp key value :=
  ⟨Nat.le_of_lt hlt, fun heq => absurd heq (Nat.ne_of_lt hlt)⟩

theorem fresh_insert (f : κ → ν) (now : Nat) (key : κ) : Fresh f now now key (f key) :=
  ⟨Nat.le_refl now, fun _ => rfl⟩

/-- Raising the generation keeps every slot consultable, whatever function the
table memoises from then on. -/
theorem Fresh.expire {f g : κ → ν} {now later stamp : Nat} {key : κ} {value : ν}
    (h : Fresh f now stamp key value) (hlater : now < later) : Fresh g later stamp key value :=
  fresh_of_lt (Nat.lt_of_le_of_lt h.1 hlater)

end Library.Generation
