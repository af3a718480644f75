import Mathlib.Logic.Function.Basic
import SgiEmu.Core.Word

open se_core

namespace se_device.lg1.vram

def WIDTH : Nat := 1024
def HEIGHT : Nat := 816
def DISPLAY_WIDTH : Nat := 1024
def DISPLAY_HEIGHT : Nat := 768

/-- Significant bits retained by the overlay and CID planes. -/
def AUXILIARY_MASK : U8 := 0x03#8

/-- The drawing plane group selected by the `aux2` register. -/
inductive PlaneGroup where
  | None | Pixel | Overlay | Cid
deriving DecidableEq, Repr

namespace PlaneGroup

def from_aux2 (aux2 : U32) : PlaneGroup :=
  match (aux2 >>> 29 &&& 3).toNat with
  | 1 => .Pixel
  | 2 => .Overlay
  | 3 => .Cid
  | _ => .None

def value_mask : PlaneGroup → U8
  | .None => 0
  | .Pixel => 0xff
  | .Overlay | .Cid => AUXILIARY_MASK

end PlaneGroup

/-- The frame buffer planes, each a byte for every storage index. -/
structure Vram where
  pixel : Nat → U8
  overlay : Nat → U8
  cid : Nat → U8
  display_dirty : Bool

/-- The storage index of a coordinate inside the frame buffer. -/
def index (x y : Nat) : Option Nat :=
  if WIDTH ≤ x ∨ HEIGHT ≤ y then none else some (y * WIDTH + x)

namespace Vram

def new : Vram := { pixel := fun _ => 0, overlay := fun _ => 0, cid := fun _ => 0, display_dirty := false }

def plane (vram : Vram) : PlaneGroup → Nat → U8
  | .None => fun _ => 0
  | .Pixel => vram.pixel
  | .Overlay => vram.overlay
  | .Cid => vram.cid

def set_plane (group : PlaneGroup) (index : Nat) (value : U8) (vram : Vram) : Vram :=
  match group with
  | .None => vram
  | .Pixel => { vram with pixel := Function.update vram.pixel index value }
  | .Overlay => { vram with overlay := Function.update vram.overlay index value }
  | .Cid => { vram with cid := Function.update vram.cid index value }

/-- Reads one plane value; zero outside the stored area. -/
def read (group : PlaneGroup) (x y : Nat) (vram : Vram) : U8 :=
  match index x y with
  | none => 0
  | some index => vram.plane group index

/-- Applies one masked plane write; coordinates outside storage are discarded. -/
def write_masked (group : PlaneGroup) (x y : Nat) (value write_mask : U8) (vram : Vram) : Vram :=
  match index x y with
  | none => vram
  | some index =>
    let mask := write_mask &&& group.value_mask
    if mask = 0 then vram
    else
      let previous := vram.plane group index
      let updated := (previous &&& ~~~mask) ||| (value &&& mask)
      let vram := vram.set_plane group index updated
      if previous ≠ updated ∧ y < DISPLAY_HEIGHT ∧ (group = .Pixel ∨ group = .Overlay) then
        { vram with display_dirty := true }
      else vram

def clear_display_dirty (vram : Vram) : Vram := { vram with display_dirty := false }

/-- The buffers show the same on the displayed scan lines. -/
def SameDisplay (first second : Vram) : Prop :=
  ∀ x y, x < DISPLAY_WIDTH → y < DISPLAY_HEIGHT →
    second.pixel (y * WIDTH + x) = first.pixel (y * WIDTH + x) ∧
      second.overlay (y * WIDTH + x) = first.overlay (y * WIDTH + x)

/-- Every plane holds values of its own width. -/
def Stored (vram : Vram) : Prop := ∀ group position, vram.plane group position &&& ~~~group.value_mask = 0

variable {vram next : Vram}

theorem stored_new : Stored new := by
  intro group position
  cases group <;> exact BitVec.zero_and

theorem plane_set_plane (group : PlaneGroup) (position : Nat) (value : U8) (vram : Vram) (other : PlaneGroup) (at_position : Nat) :
    (vram.set_plane group position value).plane other at_position =
      if other = group ∧ group ≠ .None ∧ at_position = position then value else vram.plane other at_position := by
  cases group <;> cases other <;> simp [set_plane, plane, Function.update_apply]

/-- What a masked write leaves in a place. -/
theorem plane_write_masked (group : PlaneGroup) (x y : Nat) (value write_mask : U8) (vram : Vram) (other : PlaneGroup)
    (position : Nat) :
    (vram.write_masked group x y value write_mask).plane other position =
      if other = group ∧ index x y = some position then
        (vram.plane group position &&& ~~~(write_mask &&& group.value_mask)) ||| (value &&& (write_mask &&& group.value_mask))
      else vram.plane other position := by
  unfold write_masked
  cases hindex : index x y with
  | none => simp
  | some target =>
    dsimp only
    have hdirty : ∀ (dirty : Prop) [Decidable dirty] (written : Vram),
        (if dirty then { written with display_dirty := true } else written).plane other position =
          written.plane other position := by
      intro dirty _ written
      split
      · cases other <;> rfl
      · rfl
    by_cases hmask : write_mask &&& group.value_mask = 0
    · rw [if_pos hmask, hmask]
      split
      · rename_i hsame
        have hkept : vram.plane group position &&& ~~~0 ||| value &&& 0 = vram.plane group position :=
          (congrArg _ BitVec.and_zero).trans (BitVec.or_zero.trans BitVec.and_allOnes)
        rw [hsame.1, hkept]
      · rfl
    · have hgroup : group ≠ .None := by
        rintro rfl
        exact hmask BitVec.and_zero
      rw [if_neg hmask, hdirty, plane_set_plane]
      by_cases hsame : other = group ∧ position = target
      · obtain ⟨rfl, rfl⟩ := hsame
        rw [if_pos ⟨rfl, hgroup, rfl⟩, if_pos ⟨rfl, rfl⟩]
      · rw [if_neg fun h => hsame ⟨h.1, h.2.2⟩, if_neg fun h => hsame ⟨h.1, (Option.some.inj h.2).symm⟩]

theorem merged_stored {previous value write_mask value_mask : U8} (h : previous &&& ~~~value_mask = 0) :
    ((previous &&& ~~~(write_mask &&& value_mask)) ||| (value &&& (write_mask &&& value_mask))) &&& ~~~value_mask = 0 := by
  apply BitVec.eq_of_getLsbD_eq
  intro bit hbit
  have hprevious := congrArg (fun word => BitVec.getLsbD word bit) h
  simp only [BitVec.getLsbD_and, BitVec.getLsbD_or, BitVec.getLsbD_not, hbit, decide_true, Bool.true_and] at hprevious ⊢
  cases hmask : value_mask.getLsbD bit with
  | true => simp
  | false => simp_all

theorem stored_write_masked {group : PlaneGroup} {x y : Nat} {value write_mask : U8} (h : Stored vram) :
    Stored (vram.write_masked group x y value write_mask) := by
  intro other position
  rw [plane_write_masked]
  split
  · rename_i hsame
    obtain ⟨rfl, _⟩ := hsame
    exact merged_stored (h other position)
  · exact h other position

theorem SameDisplay.refl (vram : Vram) : SameDisplay vram vram := fun _ _ _ _ => ⟨rfl, rfl⟩

theorem SameDisplay.trans {last : Vram} (h : SameDisplay vram next) (hlast : SameDisplay next last) :
    SameDisplay vram last := by
  intro x y hx hy
  obtain ⟨hpixel, hoverlay⟩ := h x y hx hy
  obtain ⟨hpixel', hoverlay'⟩ := hlast x y hx hy
  exact ⟨hpixel'.trans hpixel, hoverlay'.trans hoverlay⟩

theorem sameDisplay_set_plane {group : PlaneGroup} {position : Nat} {value : U8}
    (h : vram.plane group position = value ∨ DISPLAY_HEIGHT * WIDTH ≤ position ∨ (group ≠ .Pixel ∧ group ≠ .Overlay)) :
    SameDisplay vram (vram.set_plane group position value) := by
  intro x y hx hy
  have hinside : y * WIDTH + x < DISPLAY_HEIGHT * WIDTH := by
    simp only [DISPLAY_WIDTH, DISPLAY_HEIGHT, WIDTH] at hx hy ⊢
    omega
  cases group with
  | None => exact ⟨rfl, rfl⟩
  | Cid => exact ⟨rfl, rfl⟩
  | Pixel =>
    refine ⟨?_, rfl⟩
    obtain hsame | hbelow | hother := h
    · exact congrFun (Function.update_eq_self_iff.mpr hsame.symm) _
    · exact Function.update_of_ne (by omega) _ _
    · exact absurd rfl hother.1
  | Overlay =>
    refine ⟨rfl, ?_⟩
    obtain hsame | hbelow | hother := h
    · exact congrFun (Function.update_eq_self_iff.mpr hsame.symm) _
    · exact Function.update_of_ne (by omega) _ _
    · exact absurd rfl hother.2

theorem display_dirty_set_plane (group : PlaneGroup) (position : Nat) (value : U8) (vram : Vram) :
    (vram.set_plane group position value).display_dirty = vram.display_dirty := by
  cases group <;> rfl

/-- A write that leaves the buffer clean changes nothing that is displayed. -/
theorem write_masked_clean {group : PlaneGroup} {x y : Nat} {value write_mask : U8}
    (h : (vram.write_masked group x y value write_mask).display_dirty = false) :
    vram.display_dirty = false ∧ SameDisplay vram (vram.write_masked group x y value write_mask) := by
  unfold write_masked at h ⊢
  cases hindex : index x y with
  | none =>
    rw [hindex] at h
    exact ⟨h, SameDisplay.refl vram⟩
  | some position =>
    rw [hindex] at h
    dsimp only at h ⊢
    split at h
    · rename_i hmask
      rw [if_pos hmask]
      exact ⟨h, SameDisplay.refl vram⟩
    · rename_i hmask
      rw [if_neg hmask]
      split at h
      · cases h
      · rename_i hvisible
        rw [if_neg hvisible]
        rw [display_dirty_set_plane] at h
        refine ⟨h, sameDisplay_set_plane ?_⟩
        by_contra hchanged
        rw [not_or, not_or, not_and_or, not_not, not_not, Nat.not_le] at hchanged
        obtain ⟨hvalue, hposition, hgroup⟩ := hchanged
        have hy : y < DISPLAY_HEIGHT := by
          unfold index at hindex
          split at hindex
          · cases hindex
          · cases hindex
            simp only [DISPLAY_HEIGHT, WIDTH] at hposition ⊢
            omega
        exact hvisible ⟨hvalue, hy, hgroup⟩

end Vram

/-! ## Programs of the raster engine -/

/-- What a command does to the frame buffer, access by access. `overflow` is an
unsigned operation on coordinates that leaves the word; where that is not checked the
command goes on with what the operation wraps to. -/
inductive Raster (α : Type) where
  | done (value : α)
  | read (group : PlaneGroup) (x y : Nat) (next : U8 → Raster α)
  | write (group : PlaneGroup) (x y : Nat) (value write_mask : U8) (next : Raster α)
  | overflow (wrapped : Raster α)

namespace Raster

variable {α β : Type}

def bind (program : Raster α) (continuation : α → Raster β) : Raster β :=
  match program with
  | done value => continuation value
  | read group x y next => read group x y fun value => (next value).bind continuation
  | write group x y value write_mask next => write group x y value write_mask (next.bind continuation)
  | overflow wrapped => overflow (wrapped.bind continuation)

instance monad : Monad Raster where
  pure := done
  bind := bind

/-- Runs a program. With `checks` an overflow is a panic, and nothing is returned. -/
def run (checks : Bool) : Raster α → Vram → Option α × Vram
  | done value, vram => (some value, vram)
  | read group x y next, vram => (next (vram.read group x y)).run checks vram
  | write group x y value write_mask next, vram => next.run checks (vram.write_masked group x y value write_mask)
  | overflow wrapped, vram => if checks then (none, vram) else wrapped.run checks vram

theorem run_bind (checks : Bool) (program : Raster α) (continuation : α → Raster β) {vram next : Vram} {value : α}
    (h : program.run checks vram = (some value, next)) :
    (program >>= continuation).run checks vram = (continuation value).run checks next := by
  change (program.bind continuation).run checks vram = _
  induction program generalizing vram with
  | done result =>
    cases h
    rfl
  | read group x y following ih => exact ih _ h
  | write group x y result write_mask following ih => exact ih h
  | overflow wrapped ih =>
    cases checks with
    | true => cases h
    | false => exact ih h

theorem run_bind_none (checks : Bool) (program : Raster α) (continuation : α → Raster β) {vram next : Vram}
    (h : program.run checks vram = (none, next)) : (program >>= continuation).run checks vram = (none, next) := by
  change (program.bind continuation).run checks vram = _
  induction program generalizing vram with
  | done result => cases h
  | read group x y following ih => exact ih _ h
  | write group x y result write_mask following ih => exact ih h
  | overflow wrapped ih =>
    cases checks with
    | true =>
      cases h
      rfl
    | false => exact ih h

theorem stored_run {checks : Bool} {program : Raster α} {vram : Vram} (h : vram.Stored) :
    (program.run checks vram).2.Stored := by
  induction program generalizing vram with
  | done value => exact h
  | read group x y next ih => exact ih _ h
  | write group x y value write_mask next ih => exact ih (Vram.stored_write_masked h)
  | overflow wrapped ih =>
    cases checks with
    | true => exact h
    | false => exact ih h

/-- Nothing overflows, whatever the buffer holds, and what is returned satisfies `post`. -/
def Safe (post : α → Prop) : Raster α → Prop
  | done value => post value
  | read _ _ _ next => ∀ value, (next value).Safe post
  | write _ _ _ _ _ next => next.Safe post
  | overflow _ => False

theorem Safe.imp {program : Raster α} {post weaker : α → Prop} (h : program.Safe post)
    (himp : ∀ value, post value → weaker value) : program.Safe weaker := by
  induction program with
  | done value => exact himp value h
  | read group x y next ih => exact fun value => ih value (h value)
  | write group x y value write_mask next ih => exact ih h
  | overflow wrapped => exact h.elim

theorem safe_bind {program : Raster α} {continuation : α → Raster β} {middle : α → Prop} {post : β → Prop}
    (h : program.Safe middle) (hcontinuation : ∀ value, middle value → (continuation value).Safe post) :
    (program >>= continuation).Safe post := by
  change (program.bind continuation).Safe post
  induction program with
  | done value => exact hcontinuation value h
  | read group x y next ih => exact fun value => ih value (h value)
  | write group x y value write_mask next ih => exact ih h
  | overflow wrapped => exact h.elim

theorem safe_run {program : Raster α} {post : α → Prop} (h : program.Safe post) (checks : Bool) (vram : Vram) :
    ∃ value, (program.run checks vram).1 = some value ∧ post value := by
  induction program generalizing vram with
  | done value => exact ⟨value, rfl, h⟩
  | read group x y next ih => exact ih _ (h _) vram
  | write group x y value write_mask next ih => exact ih h _
  | overflow wrapped => exact h.elim

/-- A program that leaves the buffer clean changes nothing that is displayed. -/
theorem run_clean {checks : Bool} {program : Raster α} {vram : Vram}
    (h : (program.run checks vram).2.display_dirty = false) :
    vram.display_dirty = false ∧ Vram.SameDisplay vram (program.run checks vram).2 := by
  induction program generalizing vram with
  | done value => exact ⟨h, Vram.SameDisplay.refl vram⟩
  | read group x y next ih => exact ih _ h
  | write group x y value write_mask next ih =>
    obtain ⟨hwritten, hrest⟩ := ih h
    obtain ⟨hclean, hfirst⟩ := Vram.write_masked_clean hwritten
    exact ⟨hclean, hfirst.trans hrest⟩
  | overflow wrapped ih =>
    cases checks with
    | true => exact ⟨h, Vram.SameDisplay.refl vram⟩
    | false => exact ih h

end Raster

end se_device.lg1.vram
