import Mathlib.Tactic.IntervalCases
import SgiEmu.Device.Lg1.Access
import SgiEmu.Device.Lg1.Block
import SgiEmu.Device.Lg1.Caching

open se_core se_core.bus se_device.lg1.vram

namespace se_device.lg1.rex1

namespace Rex1

/-! ## Restored pixels -/

/-- The buffer `after` shows `target` in the cells, and else what `before` shows. -/
structure Restored (group : PlaneGroup) (target : Nat → U8) (cells : Nat → Prop) (before after : Vram) : Prop where
  inside : ∀ position, cells position → after.plane group position = target position
  outside : ∀ position, ¬cells position → after.plane group position = before.plane group position
  others : ∀ other position, other ≠ group → after.plane other position = before.plane other position

theorem Restored.none {group : PlaneGroup} {target : Nat → U8} {cells : Nat → Prop} (h : ∀ position, ¬cells position)
    (vram : Vram) : Restored group target cells vram vram :=
  ⟨fun position hcell => absurd hcell (h position), fun _ _ => rfl, fun _ _ _ => rfl⟩

theorem Restored.congr {group : PlaneGroup} {target : Nat → U8} {cells cells' : Nat → Prop} {before after : Vram}
    (h : Restored group target cells before after) (hcells : ∀ position, cells' position ↔ cells position) :
    Restored group target cells' before after :=
  ⟨fun position hcell => h.inside position ((hcells position).mp hcell),
    fun position hcell => h.outside position fun hinside => hcell ((hcells position).mpr hinside), h.others⟩

/-- Cells restored in two steps. -/
theorem Restored.trans {group : PlaneGroup} {target : Nat → U8} {first second cells : Nat → Prop} {before middle after : Vram}
    (hfirst : Restored group target first before middle) (hsecond : Restored group target second middle after)
    (hcells : ∀ position, cells position ↔ first position ∨ second position) :
    Restored group target cells before after := by
  constructor
  · intro position hcell
    by_cases hlast : second position
    · exact hsecond.inside position hlast
    · rw [hsecond.outside position hlast]
      exact hfirst.inside position (((hcells position).mp hcell).resolve_right hlast)
  · intro position hcell
    have hboth := fun h => hcell ((hcells position).mpr h)
    rw [hsecond.outside position fun h => hboth (.inr h), hfirst.outside position fun h => hboth (.inl h)]
  · intro other position hother
    rw [hsecond.others other position hother, hfirst.others other position hother]

variable {rex : Rex1}

/-- One buffer, read and written as it is: only the pixel planes are split in two. -/
def SingleBuffer (group : PlaneGroup) (rex : Rex1) : Prop :=
  group ≠ .Pixel ∨ rex.next.aux1 &&& AUX1_DOUBLE_BUFFER = 0

theorem run_read_pixel (checks : Bool) {group : PlaneGroup} (hsingle : rex.SingleBuffer group)
    (hxywin : rex.config.xywin.toNat ≤ 0x0fff0fff) {x y : Nat} (hx : x ≤ 0xfff) (hy : y ≤ 0xfff) (vram : Vram) :
    (rex.read_pixel group x y).run checks vram = (some (sample group vram (storage rex.config.xywin x y)), vram) := by
  have hcell : (rex.framebuffer_coordinate x y).run checks vram = (some (cell rex.config.xywin x y), vram) := by
    rw [framebuffer_coordinate_eq (by omega) (by omega) hxywin]
    rfl
  unfold read_pixel
  rw [Raster.run_bind checks _ _ hcell]
  unfold storage
  cases cell rex.config.xywin x y with
  | none => rfl
  | some place =>
    have hvalue : ∀ pixel, rex.read_pixel_value group pixel = pixel := fun pixel => if_pos hsingle
    change (some (rex.read_pixel_value group (vram.read group place.1 place.2)), vram) = _
    rw [hvalue]
    unfold Vram.read
    dsimp only [Option.bind_some]
    cases index place.1 place.2 <;> rfl

/-- Copy raster op, full write mask, no color compare, no screen masks, one buffer. -/
structure Copies (group : PlaneGroup) (rex : Rex1) : Prop where
  source_rop : rex.next.source_rop = 3
  rwmask : rex.next.rwmask.setWidth 8 = (0xff : U8)
  colorcomp : rex.next.has CMD_COLORCOMP = false
  masks : rex.next.aux2 &&& AUX2_SCREEN_MASK_ENABLES = 0
  single : rex.SingleBuffer group

theorem restored_pixel {group : PlaneGroup} {target : Nat → U8} {x y : Nat} {source : U8} {vram : Vram}
    (hstored : vram.Stored) (hsource : ∀ position, index x y = some position → source = target position)
    (htarget : ∀ position, target position &&& ~~~group.value_mask = 0) :
    Restored group target (fun position => index x y = some position) vram (vram.write_masked group x y source 0xff) := by
  have hmask : ∀ mask : U8, 0xff &&& mask = mask := fun mask => BitVec.allOnes_and
  constructor
  · intro position hcell
    have hplane := htarget position
    rw [Vram.plane_write_masked, if_pos ⟨rfl, hcell⟩, hmask, hstored group position, hsource position hcell]
    apply BitVec.eq_of_getLsbD_eq
    intro bit hbit
    have hsourcebit := congrArg (fun word => BitVec.getLsbD word bit) hplane
    simp only [BitVec.getLsbD_and, BitVec.getLsbD_or, BitVec.getLsbD_not, hbit, decide_true, Bool.true_and] at hsourcebit ⊢
    cases hset : group.value_mask.getLsbD bit <;> simp_all
  · intro position hcell
    rw [Vram.plane_write_masked, if_neg fun h => hcell h.2]
  · intro other position hother
    rw [Vram.plane_write_masked, if_neg fun h => hother h.1]

theorem run_write_pixel (checks : Bool) {group : PlaneGroup} (hcopies : rex.Copies group)
    (hxywin : rex.config.xywin.toNat ≤ 0x0fff0fff) {target : Nat → U8} {x y : Nat} (hx : x ≤ 0xfff) (hy : y ≤ 0xfff) {source : U8} {vram : Vram} (hstored : vram.Stored)
    (hsource : ∀ position, storage rex.config.xywin x y = some position → source = target position)
    (htarget : ∀ position, target position &&& ~~~group.value_mask = 0) :
    ∃ after, (rex.write_pixel group x y source).run checks vram = (some (), after) ∧ after.Stored ∧
      Restored group target (fun position => storage rex.config.xywin x y = some position) vram after := by
  have hcell : (rex.framebuffer_coordinate x y).run checks vram = (some (cell rex.config.xywin x y), vram) := by
    rw [framebuffer_coordinate_eq (by omega) (by omega) hxywin]
    rfl
  unfold write_pixel
  rw [Raster.run_bind checks _ _ hcell]
  unfold storage at hsource ⊢
  cases hplace : cell rex.config.xywin x y with
  | none => exact ⟨vram, rfl, hstored, Restored.none (fun _ h => nomatch h) vram⟩
  | some place =>
    rw [hplace] at hsource
    dsimp only [Option.bind_some] at hsource ⊢
    have hvisible : rex.screen_masks_admit place.1 place.2 = true := by
      unfold screen_masks_admit
      exact if_pos hcopies.masks
    have hraw : rex.source_pixel_value group source = source :=
      if_neg fun h => hcopies.single.elim (absurd h.1) h.2
    have hpasses : ∀ destination, rex.color_comparison_passes source destination = true := by
      intro destination
      unfold color_comparison_passes
      rw [hcopies.colorcomp]
      rfl
    have hwrite : ∀ result, rex.stored_pixel_write group result = (result, 0xff) := by
      intro result
      unfold stored_pixel_write
      rw [hcopies.rwmask]
      exact if_pos hcopies.single
    have hlogic : ∀ destination, logic_operation rex.next.source_rop source destination = source := by
      intro destination
      rw [hcopies.source_rop]
      rfl
    refine ⟨vram.write_masked group place.1 place.2 source 0xff, ?_, Vram.stored_write_masked hstored, ?_⟩
    · change (if !rex.screen_masks_admit place.1 place.2 then Raster.done () else
        Raster.read group place.1 place.2 fun raw_destination =>
          if !rex.color_comparison_passes (rex.source_pixel_value group source)
              (rex.read_pixel_value group raw_destination) then .done ()
          else
            let written := rex.stored_pixel_write group (logic_operation rex.next.source_rop
              (rex.source_pixel_value group source) (rex.read_pixel_value group raw_destination))
            .write group place.1 place.2 written.1 written.2 (.done ())).run checks vram = _
      rw [hvisible]
      simp only [hraw, hpasses, hwrite, hlogic]
      rfl
    · exact restored_pixel hstored hsource htarget

end Rex1

/-! ## Lanes -/

theorem full_byte (bit : Nat) : (0xff : U32).getLsbD bit = decide (bit < 8) := by
  have hfull : (0xff : U32) = (BitVec.allOnes 8).setWidth 32 := rfl
  rw [hfull, BitVec.getLsbD_setWidth, BitVec.getLsbD_allOnes]
  by_cases hbit : bit < 8
  · rw [decide_eq_true hbit, decide_eq_true (by omega)]
    rfl
  · rw [decide_eq_false hbit, Bool.and_false]

/-- A lane that is put into a word is read back, and the other lanes stay. -/
theorem lane_byte_insert (latch : U32) (pixel : U8) {lane other : Nat} (hlane : lane < 4) (hother : other < 4) :
    Rex1.lane_byte ((latch &&& ~~~((0xff : U32) <<< (8 * (PACKED_PIXELS - 1 - lane)))) |||
        pixel.setWidth 32 <<< (8 * (PACKED_PIXELS - 1 - lane))) other =
      if other = lane then pixel else Rex1.lane_byte latch other := by
  have hpacked : PACKED_PIXELS = 4 := rfl
  unfold Rex1.lane_byte
  rw [hpacked, Nat.mod_eq_of_lt hother]
  apply BitVec.eq_of_getLsbD_eq
  intro bit hbit
  have hword : 8 * (4 - 1 - other) + bit < 32 := by omega
  simp only [BitVec.getLsbD_setWidth, BitVec.getLsbD_ushiftRight, BitVec.getLsbD_or, BitVec.getLsbD_and,
    BitVec.getLsbD_not, BitVec.getLsbD_shiftLeft, full_byte, decide_eq_true hword, decide_eq_true hbit, Bool.true_and]
  by_cases hsame : other = lane
  · have hbelow : ¬8 * (4 - 1 - lane) + bit < 8 * (4 - 1 - lane) := by omega
    rw [if_pos hsame, hsame, decide_eq_false hbelow, Nat.add_sub_cancel_left, decide_eq_true hbit]
    simp
    omega
  · rw [if_neg hsame, BitVec.getLsbD_setWidth, BitVec.getLsbD_ushiftRight, decide_eq_true hbit, Bool.true_and]
    by_cases hbelow : 8 * (4 - 1 - other) + bit < 8 * (4 - 1 - lane)
    · rw [decide_eq_true hbelow]
      simp
    · have habove : ¬8 * (4 - 1 - other) + bit - 8 * (4 - 1 - lane) < 8 := by omega
      have hpixel : pixel.getLsbD (8 * (4 - 1 - other) + bit - 8 * (4 - 1 - lane)) = false :=
        BitVec.getLsbD_of_ge pixel _ (by omega)
      rw [decide_eq_false habove, hpixel]
      simp

/-! ## The traversal of a block -/

/-- The registers hold the block, for a command that continues it. -/
structure Programmed (block : Block) (rex : Rex1) : Prop where
  blocks : rex.blocks = true
  start_x : rex.integer_x = block.start_x
  end_x : rex.end_x = block.end_x
  end_y : rex.end_y = block.end_y
  xywin : rex.config.xywin.toNat ≤ 0x0fff0fff

namespace Rex1

variable {rex : Rex1} {block : Block}

/-- Where the lanes of a word end: further on in the row, or at the start of the next. -/
def lanes_end (block : Block) (lanes : Nat) (at_word : Nat × Nat) : Nat × Nat :=
  if at_word.1 + lanes < block.width then (at_word.1 + lanes, at_word.2)
  else (0, min (at_word.2 + 1) (block.height - 1))

theorem lanes_end_zero {i j : Nat} (hcolumn : i < block.width) : lanes_end block 0 (i, j) = (i, j) := if_pos hcolumn

theorem lanes_end_last {i j : Nat} (lanes : Nat) (hlast : i + 1 = block.width) :
    lanes_end block (lanes + 1) (i, j) = (0, min (j + 1) (block.height - 1)) := if_neg (by dsimp only; omega)

theorem lanes_end_next {i j : Nat} (lanes : Nat) : lanes_end block (lanes + 1) (i, j) = lanes_end block lanes (i + 1, j) := by
  unfold lanes_end
  dsimp only
  rw [Nat.add_assoc, Nat.add_comm 1 lanes]

/-- The step from the last column of a row to the next row. -/
theorem row_end {α : Type} (hblock : block.Drawable) {j : Nat} (hrow : j < block.height) (continuation : Nat → Raster α) :
    (if block.row j ≠ block.end_y then
        coordinate_after (decide (block.row j ≤ block.end_y)) (block.row j) >>= continuation
      else continuation (block.row j)) = continuation (block.row (min (j + 1) (block.height - 1))) := by
  have hlast : block.row j = block.end_y ↔ j + 1 = block.height := Block.along_eq_last hrow
  by_cases hend : block.row j = block.end_y
  · have hj : min (j + 1) (block.height - 1) = j := by
      have hheight := hlast.mp hend
      omega
    rw [if_neg (not_not.mpr hend), hj]
  · have hnext : j + 1 < block.height := by
      have hheight := mt hlast.mpr hend
      omega
    have hj : min (j + 1) (block.height - 1) = j + 1 := by omega
    have hstep : coordinate_after (decide (block.row j ≤ block.end_y)) (block.row j) = .done (block.row (j + 1)) :=
      Block.step_along hblock.traversable.end_y hnext (Block.direction_along hnext)
    rw [if_pos hend, hj, hstep]
    rfl

/-- The test of a lane for the end of its row. -/
theorem at_end_iff {i : Nat} (hcolumn : i < block.width) :
    (true && decide (block.column i = block.end_x)) = true ↔ i + 1 = block.width := by
  have hlast : block.column i = block.end_x ↔ i + 1 = block.width := Block.along_eq_last hcolumn
  rw [Bool.true_and, decide_eq_true_iff, hlast]

/-- The lanes of a word that is read. -/
theorem run_read_lanes (checks : Bool) (hblock : block.Drawable) (h : Programmed block rex) {group : PlaneGroup}
    (hsingle : rex.SingleBuffer group) (vram : Vram) {remaining lane i j : Nat} {latch : U32} (hlane : lane + remaining ≤ 4)
    (hcolumn : i < block.width) (hrow : j < block.height) :
    ∃ word,
      (rex.read_lanes_loop group true (decide (block.start_x ≤ block.end_x)) (decide (block.row j ≤ block.end_y))
          remaining lane latch (block.column i) (block.row j)).run checks vram =
        (some (word, block.column (lanes_end block remaining (i, j)).1, block.row (lanes_end block remaining (i, j)).2), vram) ∧
      (∀ k < remaining, i + k < block.width →
        lane_byte word (lane + k) = sample group vram (storage rex.config.xywin (block.column (i + k)) (block.row j))) ∧
      ∀ k < lane, lane_byte word k = lane_byte latch k := by
  induction remaining generalizing lane i latch with
  | zero =>
    refine ⟨latch, ?_, fun k hk => absurd hk (Nat.not_lt_zero k), fun _ _ => rfl⟩
    rw [lanes_end_zero hcolumn]
    rfl
  | succ remaining ih =>
    have hread := run_read_pixel checks hsingle h.xywin (column_le hblock.within hcolumn) (row_le hblock.within hrow) vram
    have hinserted := fun other (hother : other < 4) =>
      lane_byte_insert latch (sample group vram (storage rex.config.xywin (block.column i) (block.row j))) (by omega : lane < 4) hother
    unfold read_lanes_loop
    rw [Raster.run_bind checks _ _ hread]
    dsimp only
    rw [h.end_x, h.end_y, h.start_x]
    generalize (latch &&& ~~~((0xff : U32) <<< (8 * (PACKED_PIXELS - 1 - lane)))) ||| _ = inserted at hinserted ⊢
    by_cases hend : i + 1 = block.width
    · rw [if_pos ((at_end_iff hcolumn).mpr hend), row_end hblock hrow, lanes_end_last remaining hend, column_zero]
      refine ⟨inserted, rfl, ?_, ?_⟩
      · intro k hk hinside
        obtain rfl : k = 0 := by omega
        rw [Nat.add_zero, Nat.add_zero, hinserted lane (by omega), if_pos rfl]
      · intro k hk
        rw [hinserted k (by omega), if_neg (by omega)]
    · have hlast := mt (at_end_iff hcolumn).mp hend
      have hnext : i + 1 < block.width := by omega
      have hdirection : (!(true && !decide (block.start_x ≤ block.end_x))) = decide (block.start_x ≤ block.end_x) := by
        rw [Bool.true_and, Bool.not_not]
      rw [if_neg hlast, hdirection, column_step hblock.traversable hnext, lanes_end_next]
      obtain ⟨word, hrun, hlanes, hkept⟩ := @ih (lane + 1) (i + 1) inserted (by omega) hnext
      refine ⟨word, hrun, ?_, ?_⟩
      · intro k hk hinside
        cases k with
        | zero => rw [Nat.add_zero, Nat.add_zero, hkept lane (by omega), hinserted lane (by omega), if_pos rfl]
        | succ k =>
          have hshift : ∀ start, start + (k + 1) = start + 1 + k := by omega
          rw [hshift, hshift i]
          exact hlanes k (by omega) (by omega)
      · intro k hk
        rw [hkept k (by omega), hinserted k (by omega), if_neg (by omega)]

/-- The lanes of a word that is written. -/
theorem run_write_lanes (checks : Bool) (hblock : block.Drawable) (h : Programmed block rex) {group : PlaneGroup} (hcopies : rex.Copies group)
    {target : Nat → U8} (htarget : ∀ position, target position &&& ~~~group.value_mask = 0) (stop_on_x : Bool)
    {vram : Vram} (hstored : vram.Stored) {remaining lane i j : Nat} (hcolumn : i < block.width) (hrow : j < block.height)
    (hvalues : ∀ k < remaining, i + k < block.width → ∀ position,
      storage rex.config.xywin (block.column (i + k)) (block.row j) = some position →
        lane_byte rex.next.rwaux1 (lane + k) = target position) :
    ∃ after,
      (rex.write_lanes_loop group true stop_on_x (decide (block.start_x ≤ block.end_x))
          (decide (block.row j ≤ block.end_y)) remaining lane (block.column i) (block.row j)).run checks vram =
        (some (block.column (lanes_end block remaining (i, j)).1, block.row (lanes_end block remaining (i, j)).2, false),
          after) ∧
      after.Stored ∧
      Restored group target
        (fun position => ∃ k < remaining, i + k < block.width ∧
          storage rex.config.xywin (block.column (i + k)) (block.row j) = some position) vram after := by
  induction remaining generalizing lane i vram with
  | zero =>
    refine ⟨vram, ?_, hstored, Restored.none ?_ vram⟩
    · rw [lanes_end_zero hcolumn]
      rfl
    · rintro position ⟨k, hk, _⟩
      exact Nat.not_lt_zero k hk
  | succ remaining ih =>
    have hfirst : ∀ position, storage rex.config.xywin (block.column i) (block.row j) = some position →
        lane_byte rex.next.rwaux1 lane = target position := hvalues 0 (by omega) hcolumn
    obtain ⟨middle, hwrite, hmiddle, hpixel⟩ :=
      run_write_pixel checks hcopies h.xywin (column_le hblock.within hcolumn) (row_le hblock.within hrow) hstored hfirst htarget
    unfold write_lanes_loop
    dsimp only
    rw [if_neg (by simp), Raster.run_bind checks _ _ hwrite]
    rw [h.end_x, h.end_y, h.start_x]
    by_cases hend : i + 1 = block.width
    · rw [if_pos ((at_end_iff hcolumn).mpr hend), row_end hblock hrow, lanes_end_last remaining hend, column_zero]
      refine ⟨middle, rfl, hmiddle, hpixel.congr ?_⟩
      intro position
      constructor
      · rintro ⟨k, hk, hinside, hplace⟩
        obtain rfl : k = 0 := by omega
        exact hplace
      · intro hplace
        exact ⟨0, by omega, hcolumn, hplace⟩
    · have hlast := mt (at_end_iff hcolumn).mp hend
      have hnext : i + 1 < block.width := by omega
      have hshift : ∀ start k, start + (k + 1) = start + 1 + k := by omega
      have hrest : ∀ k < remaining, i + 1 + k < block.width → ∀ position,
          storage rex.config.xywin (block.column (i + 1 + k)) (block.row j) = some position →
            lane_byte rex.next.rwaux1 (lane + 1 + k) = target position := by
        intro k hk hinside position hplace
        rw [← hshift] at hinside hplace ⊢
        exact hvalues (k + 1) (by omega) hinside position hplace
      obtain ⟨after, hrun, hafter, hrestored⟩ := ih hmiddle hnext hrest
      rw [if_neg hlast, if_neg (by simp), column_step hblock.traversable hnext, lanes_end_next]
      refine ⟨after, hrun, hafter, hpixel.trans hrestored ?_⟩
      intro position
      constructor
      · rintro ⟨k, hk, hinside, hplace⟩
        cases k with
        | zero => exact .inl hplace
        | succ k =>
          rw [hshift] at hinside hplace
          exact .inr ⟨k, by omega, hinside, hplace⟩
      · rintro (hplace | ⟨k, hk, hinside, hplace⟩)
        · exact ⟨0, by omega, hcolumn, hplace⟩
        · rw [← hshift] at hinside hplace
          exact ⟨k + 1, by omega, hinside, hplace⟩

/-! ## The commands of a block -/

/-- A word of the block comes next. -/
structure At (block : Block) (at_word : Nat × Nat) (rex : Rex1) : Prop where
  xsave : rex.next.xsave = block.column at_word.1
  row : rex.integer_y = block.row at_word.2

/-- The registers read the block. -/
structure Reads (block : Block) (group : PlaneGroup) (rex : Rex1) : Prop where
  programmed : Programmed block rex
  opcode : (rex.next.command &&& OPCODE_MASK).toNat = 3
  selected : PlaneGroup.from_aux2 rex.next.aux2 = group
  single : rex.SingleBuffer group

/-- The registers write host pixels to the block. -/
structure Writes (block : Block) (group : PlaneGroup) (rex : Rex1) : Prop where
  programmed : Programmed block rex
  opcode : (rex.next.command &&& OPCODE_MASK).toNat = 1
  selected : PlaneGroup.from_aux2 rex.next.aux2 = group
  coloraux : rex.next.shares CMD_COLORAUX = true
  rgbmode : rex.next.has CMD_RGBMODE = false
  copies : rex.Copies group

/-- The registers after a word of the block. -/
def continued (block : Block) (word : U32) (at_word : Nat × Nat) (rex : Rex1) : Rex1 :=
  latch_next_context
    { rex with
      next :=
        { rex.next with
          rwaux1 := word, xsave := block.column at_word.1, ystart := start_register (block.row at_word.2) } }

theorem at_continued (hblock : block.Drawable) (word : U32) {at_word : Nat × Nat} (hinside : block.Inside at_word)
    (rex : Rex1) : At block at_word (rex.continued block word at_word) := by
  have hrow := row_le hblock.within hinside.2
  refine ⟨rfl, ?_⟩
  change start_register (block.row at_word.2) / COORDINATE_UNIT = block.row at_word.2
  unfold start_register COORDINATE_UNIT
  omega

theorem Programmed.continued (h : Programmed block rex) (word : U32) (at_word : Nat × Nat) :
    Programmed block (rex.continued block word at_word) := ⟨h.blocks, h.start_x, h.end_x, h.end_y, h.xywin⟩

theorem Reads.continued {group : PlaneGroup} (h : Reads block group rex) (word : U32) (at_word : Nat × Nat) :
    Reads block group (rex.continued block word at_word) :=
  ⟨Programmed.continued h.programmed word at_word, h.opcode, h.selected, h.single⟩

theorem Writes.continued {group : PlaneGroup} (h : Writes block group rex) (word : U32) (at_word : Nat × Nat) :
    Writes block group (rex.continued block word at_word) :=
  ⟨Programmed.continued h.programmed word at_word, h.opcode, h.selected, h.coloraux, h.rgbmode,
    ⟨h.copies.source_rop, h.copies.rwmask, h.copies.colorcomp, h.copies.masks, h.copies.single⟩⟩

/-- Every flag of a continued block is set in its command. -/
theorem block_flag (h : rex.blocks = true) {flag : U32}
    (hflag : (CMD_BLOCK ||| CMD_QUADMODE ||| CMD_XYCONTINUE) &&& flag = flag) : rex.next.command &&& flag = flag := by
  have hblocks : rex.next.command &&& (CMD_BLOCK ||| CMD_QUADMODE ||| CMD_XYCONTINUE) =
      CMD_BLOCK ||| CMD_QUADMODE ||| CMD_XYCONTINUE := eq_of_beq h
  rw [← hflag, ← BitVec.and_assoc, hblocks]

theorem has_xycontinue (h : rex.blocks = true) : rex.next.has CMD_XYCONTINUE = true := by
  have hcontinue : rex.next.command &&& CMD_XYCONTINUE = CMD_XYCONTINUE := block_flag h (by decide)
  unfold Registers.has
  rw [hcontinue]
  rfl

theorem not_tiled (h : rex.blocks = true) : rex.tiled = false := by
  apply Bool.eq_false_iff.mpr
  intro htiled
  have hset : rex.next.command &&& CMD_BLOCK = CMD_BLOCK := block_flag h (by decide)
  have hclear := congrArg (· &&& CMD_BLOCK) (eq_of_beq htiled)
  rw [BitVec.and_assoc] at hclear
  have hclear' : rex.next.command &&& CMD_BLOCK = 0 := hclear
  rw [hset] at hclear'
  exact absurd hclear' (by decide)

/-- A command that reads the next word. -/
theorem run_read (checks : Bool) (hblock : block.Drawable) {group : PlaneGroup} (h : Reads block group rex)
    {at_word : Nat × Nat} (hat : At block at_word rex) (hinside : block.Inside at_word) (vram : Vram) :
    ∃ word, rex.execute.run checks vram = (some (rex.continued block word (block.next_word at_word)), vram) ∧
      ∀ k < 4, at_word.1 + k < block.width →
        lane_byte word k = sample group vram (storage rex.config.xywin (block.column (at_word.1 + k)) (block.row at_word.2)) := by
  have hp := h.programmed
  have hblocks : (rex.next.command &&& (CMD_BLOCK ||| CMD_QUADMODE ||| CMD_XYCONTINUE) ==
      CMD_BLOCK ||| CMD_QUADMODE ||| CMD_XYCONTINUE) = true := hp.blocks
  have hlane : 0 + PACKED_PIXELS ≤ 4 := by decide
  obtain ⟨word, hlanes, hvalues, _⟩ :=
    @run_read_lanes rex block checks hblock hp group h.single vram PACKED_PIXELS 0 _ _ rex.next.rwaux1 hlane hinside.1
      hinside.2
  have hread : rex.read_packed_pixels.run checks vram =
      (some { rex with
        next :=
          { rex.next with
            rwaux1 := word, xsave := block.column (block.next_word at_word).1
            ystart := start_register (block.row (block.next_word at_word).2) } }, vram) := by
    unfold read_packed_pixels
    dsimp only
    rw [hblocks, if_pos (has_xycontinue hp.blocks), hat.xsave, hat.row, hp.start_x, hp.end_x, hp.end_y, h.selected,
      Raster.run_bind checks _ _ hlanes]
    rfl
  refine ⟨word, ?_, ?_⟩
  · unfold execute
    rw [h.opcode]
    exact Raster.run_bind checks _ _ hread
  · intro k hk hroom
    have hvalue := hvalues k hk hroom
    rwa [Nat.zero_add] at hvalue

/-- The storage that the lanes of a word cover. -/
def span (block : Block) (xywin : U32) (at_word : Nat × Nat) (position : Nat) : Prop :=
  ∃ k < 4, at_word.1 + k < block.width ∧ storage xywin (block.column (at_word.1 + k)) (block.row at_word.2) = some position

/-- A command that writes the next word. -/
theorem run_write (checks : Bool) (hblock : block.Drawable) {group : PlaneGroup} (h : Writes block group rex)
    {at_word : Nat × Nat} (hat : At block at_word rex) (hinside : block.Inside at_word) {target : Nat → U8}
    (htarget : ∀ position, target position &&& ~~~group.value_mask = 0) {vram : Vram} (hstored : vram.Stored)
    (hvalues : ∀ k < 4, at_word.1 + k < block.width → ∀ position,
      storage rex.config.xywin (block.column (at_word.1 + k)) (block.row at_word.2) = some position →
        lane_byte rex.next.rwaux1 k = target position) :
    ∃ after, rex.execute.run checks vram =
        (some (rex.continued block rex.next.rwaux1 (block.next_word at_word)), after) ∧
      after.Stored ∧ Restored group target (span block rex.config.xywin at_word) vram after := by
  have hp := h.programmed
  have hblocks : (rex.next.command &&& (CMD_BLOCK ||| CMD_QUADMODE ||| CMD_XYCONTINUE) ==
      CMD_BLOCK ||| CMD_QUADMODE ||| CMD_XYCONTINUE) = true := hp.blocks
  have hlanes : ∀ k < PACKED_PIXELS, at_word.1 + k < block.width → ∀ position,
      storage rex.config.xywin (block.column (at_word.1 + k)) (block.row at_word.2) = some position →
        lane_byte rex.next.rwaux1 (0 + k) = target position := by
    intro k hk hroom position hplace
    rw [Nat.zero_add]
    exact hvalues k hk hroom position hplace
  obtain ⟨after, hrun, hafter, hrestored⟩ :=
    run_write_lanes checks hblock hp h.copies htarget (rex.next.has CMD_STOPONX) hstored hinside.1 hinside.2 hlanes
  have hwrite : (rex.write_packed_pixels group rex.next.xsave rex.integer_y).run checks vram =
      (some { rex with
        next :=
          { rex.next with
            xsave := block.column (block.next_word at_word).1
            ystart := start_register (block.row (block.next_word at_word).2) } }, after) := by
    have htiled : ¬(rex.next.command &&& (CMD_BLOCK ||| CMD_QUADMODE ||| CMD_XYCONTINUE ||| CMD_STOPONX) =
        CMD_QUADMODE ||| CMD_STOPONX) := beq_eq_false_iff_ne.mp (not_tiled hp.blocks)
    unfold write_packed_pixels
    dsimp only
    rw [if_neg htiled, hblocks, hat.xsave, hat.row, hp.start_x, hp.end_x, hp.end_y, Raster.run_bind checks _ _ hrun]
    rfl
  refine ⟨after, ?_, hafter, hrestored⟩
  have hdraw : rex.draw.run checks vram = (some { rex with
      next :=
        { rex.next with
          xsave := block.column (block.next_word at_word).1
          ystart := start_register (block.row (block.next_word at_word).2) } }, after) := by
    unfold draw draw_from
    dsimp only
    rw [if_pos (has_xycontinue hp.blocks), if_pos h.coloraux, if_neg (Bool.eq_false_iff.mp h.rgbmode), h.selected]
    exact hwrite
  unfold execute
  rw [h.opcode]
  exact Raster.run_bind checks _ _ hdraw

/-! ## The words of a block -/

variable {xywin : U32}

/-- The storage that a number of words covers. -/
def visited (block : Block) (xywin : U32) : Nat → Nat × Nat → Nat → Prop
  | 0, _, _ => False
  | words + 1, at_word, position =>
    span block xywin at_word position ∨ visited block xywin words (block.next_word at_word) position

/-- The storage of the block. -/
def covers (block : Block) (xywin : U32) (position : Nat) : Prop :=
  ∃ x y, block.Contains x y ∧ storage xywin x y = some position

theorem covers_iff {position : Nat} :
    covers block xywin position ↔
      ∃ i < block.width, ∃ j < block.height, storage xywin (block.column i) (block.row j) = some position := by
  constructor
  · rintro ⟨x, y, ⟨hx, hy⟩, hplace⟩
    obtain ⟨i, hi, rfl⟩ := Block.exists_along.mpr hx
    obtain ⟨j, hj, rfl⟩ := Block.exists_along.mpr hy
    exact ⟨i, hi, j, hj, hplace⟩
  · rintro ⟨i, hi, j, hj, hplace⟩
    exact ⟨_, _, ⟨Block.exists_along.mp ⟨i, hi, rfl⟩, Block.exists_along.mp ⟨j, hj, rfl⟩⟩, hplace⟩

theorem covers_of_visited {words : Nat} {at_word : Nat × Nat} {position : Nat} (hinside : block.Inside at_word)
    (h : visited block xywin words at_word position) : covers block xywin position := by
  induction words generalizing at_word with
  | zero => exact h.elim
  | succ words ih =>
    obtain ⟨k, _, hroom, hplace⟩ | hlater := h
    · exact covers_iff.mpr ⟨_, hroom, _, hinside.2, hplace⟩
    · exact ih (Block.inside_next hinside) hlater

/-- From a word on, the rest of its row and every later row are visited. -/
theorem visited_rest {words c j i i_row : Nat} {position : Nat} (hi : i < block.width) (hrow : i_row < block.height)
    (hplace : storage xywin (block.column i) (block.row i_row) = some position) (hc : 4 * c < block.width)
    (hj : j < block.height) (hahead : i_row = j ∧ 4 * c ≤ i ∨ j < i_row)
    (hwords : words = ((block.width + 3) / 4 - c) + (block.height - 1 - j) * ((block.width + 3) / 4)) :
    visited block xywin words (4 * c, j) position := by
  induction words generalizing c j with
  | zero => omega
  | succ words ih =>
    by_cases hspan : i_row = j ∧ 4 * c ≤ i ∧ i < 4 * c + 4
    · obtain ⟨rfl, hfrom, hto⟩ := hspan
      have hcolumn : 4 * c + (i - 4 * c) = i := by omega
      refine .inl ⟨i - 4 * c, by omega, ?_, ?_⟩
      · dsimp only
        omega
      · dsimp only
        rw [hcolumn]
        exact hplace
    · refine .inr ?_
      by_cases hroom : 4 * c + 4 < block.width
      · have hnext : block.next_word (4 * c, j) = (4 * (c + 1), j) := if_pos hroom
        rw [hnext]
        exact ih (by omega) hj (by omega) (by omega)
      · have hlater : j < i_row := by omega
        have hj' : min (j + 1) (block.height - 1) = j + 1 := by omega
        have hnext : block.next_word (4 * c, j) = (4 * 0, j + 1) := by
          unfold Block.next_word
          rw [if_neg hroom, hj']
        have hrows : block.height - 1 - j = block.height - 1 - (j + 1) + 1 := by omega
        rw [hrows, Nat.succ_mul] at hwords
        rw [hnext]
        exact ih (by omega) (by omega) (by omega) (by omega)

/-- The words of a block visit exactly its storage. -/
theorem visited_iff_covers (position : Nat) :
    visited block xywin block.words (0, 0) position ↔ covers block xywin position := by
  have hwidth : 0 < block.width := Block.extent_pos _ _
  have hheight : 0 < block.height := Block.extent_pos _ _
  constructor
  · exact covers_of_visited ⟨hwidth, hheight⟩
  · intro hcovers
    obtain ⟨i, hi, j, hj, hplace⟩ := covers_iff.mp hcovers
    have hrows : block.height = block.height - 1 - 0 + 1 := by omega
    have hwords : block.words = ((block.width + 3) / 4 - 0) + (block.height - 1 - 0) * ((block.width + 3) / 4) := by
      have hall : block.words = (block.height - 1 - 0 + 1) * ((block.width + 3) / 4) :=
        congrArg (· * ((block.width + 3) / 4)) hrows
      rw [hall, Nat.succ_mul]
      omega
    exact @visited_rest block xywin block.words 0 0 i j position hi hj hplace hwidth hheight (by omega) hwords

/-- The words hold what the planes show, lane by lane. -/
def Carries (block : Block) (xywin : U32) (shown : Option Nat → U8) : Nat × Nat → List U32 → Prop
  | _, [] => True
  | at_word, word :: words =>
    (∀ k < 4, at_word.1 + k < block.width →
        lane_byte word k = shown (storage xywin (block.column (at_word.1 + k)) (block.row at_word.2))) ∧
      Carries block xywin shown (block.next_word at_word) words

end Rex1

end se_device.lg1.rex1

namespace se_device.lg1.Lg1

open se_device.lg1.rex1

/-- The bytes of host words. -/
def bytes_of : List U32 → List U8
  | [] => []
  | word :: words => (to_be_bytes word).toList ++ bytes_of words

theorem from_be_bytes_to_be_bytes (word : U32) :
    from_be_bytes #v[word.extractLsb' 24 8, word.extractLsb' 16 8, word.extractLsb' 8 8, word.extractLsb' 0 8] = word := by
  apply BitVec.eq_of_getLsbD_eq
  intro bit hbit
  change (word.extractLsb' 24 8 ++ word.extractLsb' 16 8 ++ word.extractLsb' 8 8 ++ word.extractLsb' 0 8).getLsbD bit = _
  simp only [BitVec.getLsbD_append, BitVec.getLsbD_extractLsb']
  by_cases hlow : bit < 8
  · simp [hlow]
  · have hsecond : 8 + (bit - 8) = bit := by omega
    by_cases hmiddle : bit - 8 < 8
    · simp [hlow, hmiddle, hsecond]
    · have hthird : 16 + (bit - 8 - 8) = bit := by omega
      by_cases hhigh : bit - 8 - 8 < 8
      · simp [hlow, hmiddle, hhigh, hthird]
      · have hfourth : 24 + (bit - 8 - 8 - 8) = bit := by omega
        have hlast : bit - 8 - 8 - 8 < 8 := by omega
        simp [hlow, hmiddle, hhigh, hlast, hfourth]

variable {checks : Bool} {block : Block} {group : PlaneGroup}

theorem read_words_block (hblock : block.Drawable) {words : Nat} {board : Lg1} {at_word : Nat × Nat}
    (hreads : Rex1.Reads block group board.rex) (hat : Rex1.At block at_word board.rex) (hinside : block.Inside at_word) :
    ∃ list last, board.read_words checks words = some (bytes_of list, last) ∧ last.vram = board.vram ∧
      list.length = words ∧
      ∀ first rest, list = first :: rest → first = board.rex.current.rwaux1 ∧
        Rex1.Carries block board.rex.config.xywin (Rex1.sample group board.vram) at_word rest := by
  induction words generalizing board at_word with
  | zero => exact ⟨[], board, rfl, rfl, rfl, fun _ _ h => nomatch h⟩
  | succ words ih =>
    obtain ⟨word, hrun, hlanes⟩ := Rex1.run_read checks hblock hreads hat hinside board.vram
    have hnext_inside := Block.inside_next hinside
    obtain ⟨list, last, hwords, hvram, hlength, hcarries⟩ :=
      @ih { board with rex := board.rex.continued block word (block.next_word at_word) } _
        (hreads.continued word _) (Rex1.at_continued hblock word hnext_inside board.rex) hnext_inside
    have hcommand : board.command checks board.rex.read_host_data_go = some (board.rex.current.rwaux1,
        { board with rex := board.rex.continued block word (block.next_word at_word) }) := by
      have hread : board.rex.read_host_data_go.run checks board.vram =
          (some (board.rex.current.rwaux1, board.rex.continued block word (block.next_word at_word)), board.vram) :=
        Raster.run_bind checks _ _ hrun
      unfold command
      dsimp only
      rw [hread]
      rfl
    refine ⟨board.rex.current.rwaux1 :: list, last, ?_, hvram, by rw [List.length_cons, hlength], ?_⟩
    · unfold read_words
      rw [hcommand, Option.bind_eq_bind, Option.bind_some]
      dsimp only
      rw [hwords]
      rfl
    · intro first rest hlist
      cases hlist
      refine ⟨rfl, ?_⟩
      cases list with
      | nil => trivial
      | cons first rest =>
        obtain ⟨hfirst, hrest⟩ := hcarries first rest rfl
        have hword : first = word := hfirst
        subst hword
        exact ⟨hlanes, hrest⟩

theorem write_words_block (hblock : block.Drawable) {target : Nat → U8}
    (htarget : ∀ position, target position &&& ~~~group.value_mask = 0) {shown : Option Nat → U8}
    (hshown : ∀ position, shown (some position) = target position) {words : List U32} {board : Lg1} {at_word : Nat × Nat}
    (hwrites : Rex1.Writes block group board.rex) (hat : Rex1.At block at_word board.rex) (hinside : block.Inside at_word)
    (hstored : board.vram.Stored) (hcarries : Rex1.Carries block board.rex.config.xywin shown at_word words) :
    ∃ last, board.write_words checks (bytes_of words) = some last ∧
      Rex1.Restored group target (Rex1.visited block board.rex.config.xywin words.length at_word) board.vram last.vram := by
  induction words generalizing board at_word with
  | nil => exact ⟨board, rfl, Rex1.Restored.none (fun _ => id) board.vram⟩
  | cons word words ih =>
    obtain ⟨hword, hrest⟩ := hcarries
    have hloaded : Rex1.Writes block group { board.rex with next := { board.rex.next with rwaux1 := word } } :=
      ⟨⟨hwrites.programmed.blocks, hwrites.programmed.start_x, hwrites.programmed.end_x, hwrites.programmed.end_y,
          hwrites.programmed.xywin⟩, hwrites.opcode, hwrites.selected, hwrites.coloraux, hwrites.rgbmode,
        ⟨hwrites.copies.source_rop, hwrites.copies.rwmask, hwrites.copies.colorcomp, hwrites.copies.masks,
          hwrites.copies.single⟩⟩
    have hvalues : ∀ k < 4, at_word.1 + k < block.width → ∀ position,
        Rex1.storage board.rex.config.xywin (block.column (at_word.1 + k)) (block.row at_word.2) = some position →
          Rex1.lane_byte word k = target position := by
      intro k hk hroom position hplace
      rw [hword k hk hroom, hplace, hshown]
    obtain ⟨after, hrun, hafter, hrestored⟩ :=
      Rex1.run_write checks hblock hloaded ⟨hat.xsave, hat.row⟩ hinside htarget hstored hvalues
    have hnext_inside := Block.inside_next hinside
    obtain ⟨last, hwords, hlast⟩ :=
      @ih { board with rex := board.rex.continued block word (block.next_word at_word), vram := after } _
        (hwrites.continued word _) (Rex1.at_continued hblock word hnext_inside board.rex) hnext_inside hafter hrest
    refine ⟨last, ?_, hrestored.trans hlast fun _ => Iff.rfl⟩
    have hcommand : board.command checks (do
        let rex ← board.rex.write_host_data_go word
        .done ((), rex)) =
          some ((), { board with rex := board.rex.continued block word (block.next_word at_word), vram := after }) := by
      have hwrite : (do
          let rex ← board.rex.write_host_data_go word
          Raster.done ((), rex)).run checks board.vram =
            (some ((), board.rex.continued block word (block.next_word at_word)), after) :=
        Raster.run_bind checks _ _ hrun
      unfold command
      dsimp only
      rw [hwrite]
      rfl
    have hbytes : bytes_of (word :: words) = word.extractLsb' 24 8 :: word.extractLsb' 16 8 :: word.extractLsb' 8 8 ::
        word.extractLsb' 0 8 :: bytes_of words := rfl
    rw [hbytes]
    unfold write_words
    rw [from_be_bytes_to_be_bytes, hcommand]
    exact hwords

/-! ## Single accesses and DMA -/

/-- The host-data GO port. -/
def HOST_PORT : U64 := 0x3f0870

/-- The words that single reads of the port present. -/
def read_accesses (checks : Bool) : Nat → Lg1 → Option (List U8 × Lg1)
  | 0, board => some ([], board)
  | words + 1, board => do
    match ← board.read checks HOST_PORT 4 with
    | (.ok data, board) =>
      let (rest, board) ← read_accesses checks words board
      some (data ++ rest, board)
    | (.error _, _) => none

/-- Writes of the port, word by word. -/
def write_accesses (checks : Bool) : List U8 → Lg1 → Option Lg1
  | first :: second :: third :: fourth :: data, board => do
    match ← board.write checks HOST_PORT [first, second, third, fourth] with
    | (.ok (), board) => write_accesses checks data board
    | (.error _, _) => none
  | _, board => some board

/-- How host words reach the board. -/
inductive HostPort where
  | Go | Dma
deriving DecidableEq, Repr

/-- Reads a number of host words. -/
def read_host (checks : Bool) (port : HostPort) (words : Nat) (board : Lg1) : Option (List U8 × Lg1) :=
  match port with
  | .Go => board.read_accesses checks words
  | .Dma =>
    match board.read_dma checks HOST_PORT (4 * words) with
    | some (.ok data, board) => some (data, board)
    | _ => none

/-- Writes host words. -/
def write_host (checks : Bool) (port : HostPort) (data : List U8) (board : Lg1) : Option Lg1 :=
  match port with
  | .Go => board.write_accesses checks data
  | .Dma =>
    match board.write_dma checks HOST_PORT data with
    | some (.ok (), board) => some board
    | _ => none

theorem register_offset_host : register_offset HOST_PORT 4 = .ok (some 0x870) := rfl

theorem decode_host : decode 0x870 = some (.DrawingGo RWAUX1) := rfl

theorem read_host_port (checks : Bool) (board : Lg1) :
    board.read checks HOST_PORT 4 = (board.command checks board.rex.read_host_data_go).map
      fun result => (.ok (to_be_bytes result.1).toList, result.2) := by
  have hgo : board.rex.read_drawing_go RWAUX1 = board.rex.read_host_data_go := if_pos rfl
  unfold read
  rw [register_offset_host]
  dsimp only
  rw [decode_host]
  dsimp only
  rw [hgo]

theorem read_accesses_eq (checks : Bool) (words : Nat) (board : Lg1) :
    board.read_accesses checks words = board.read_words checks words := by
  induction words generalizing board with
  | zero => rfl
  | succ words ih =>
    unfold read_accesses read_words
    rw [read_host_port]
    cases board.command checks board.rex.read_host_data_go with
    | none => rfl
    | some result => exact congrArg (Option.bind · _) (ih result.2)

theorem command_execute {α : Type} (checks : Bool) (rex : Rex1) (value : α) (board : Lg1) :
    board.command checks (do
      let rex ← rex.execute
      .done (value, rex)) =
        (rex.execute.run checks board.vram).1.map fun rex' =>
          (value, { board with rex := rex', vram := (rex.execute.run checks board.vram).2 }) := by
  rcases hrun : rex.execute.run checks board.vram with ⟨result, vram⟩
  unfold command
  cases result with
  | none =>
    rw [Raster.run_bind_none checks _ _ hrun]
    rfl
  | some result =>
    rw [Raster.run_bind checks _ _ hrun]
    rfl

theorem write_host_port (checks : Bool) (first second third fourth : U8) (board : Lg1) :
    board.write checks HOST_PORT [first, second, third, fourth] = board.command checks (do
      let rex ← board.rex.write_host_data_go (from_be_bytes #v[first, second, third, fourth])
      .done (.ok (), rex)) := by
  have hlength : [first, second, third, fourth].length = 4 := rfl
  unfold write
  rw [hlength, register_offset_host]
  dsimp only [word_of]
  rw [decode_host]
  rfl

theorem write_accesses_eq (checks : Bool) (data : List U8) (board : Lg1) :
    board.write_accesses checks data = board.write_words checks data := by
  induction data, board using write_words.induct with
  | case1 first second third fourth data board ih =>
    unfold write_accesses write_words
    rw [write_host_port]
    unfold Rex1.write_host_data_go
    rw [command_execute, command_execute]
    rcases Raster.run checks _ board.vram with ⟨result, vram⟩
    cases result with
    | none => rfl
    | some rex => exact ih _
  | case2 data board hshort =>
    rw [write_accesses, write_words]
    · exact hshort
    · exact hshort

theorem read_host_eq (checks : Bool) (port : HostPort) (words : Nat) (board : Lg1) :
    board.read_host checks port words = board.read_words checks words := by
  cases port with
  | Go => exact read_accesses_eq checks words board
  | Dma =>
    have hport : ¬HOST_PORT.toNat ≠ GRAPHICS_DMA_PORT := by decide
    have hwhole : ¬4 * words % 4 ≠ 0 := by omega
    have hwords : 4 * words / 4 = words := by omega
    unfold read_host read_dma
    dsimp only
    rw [if_neg hport, if_neg hwhole, hwords]
    cases board.read_words checks words <;> rfl

theorem write_host_eq (checks : Bool) (port : HostPort) {data : List U8} (hdata : data.length % 4 = 0) (board : Lg1) :
    board.write_host checks port data = board.write_words checks data := by
  cases port with
  | Go => exact write_accesses_eq checks data board
  | Dma =>
    have hport : ¬HOST_PORT.toNat ≠ GRAPHICS_DMA_PORT := by decide
    unfold write_host write_dma
    dsimp only
    rw [if_neg hport, if_neg (not_not.mpr hdata)]
    cases board.write_words checks data <;> rfl

theorem length_bytes_of (words : List U32) : (bytes_of words).length = 4 * words.length := by
  induction words with
  | nil => rfl
  | cons word words ih =>
    unfold bytes_of
    rw [List.length_append, ih, Vector.length_toList, List.length_cons]
    omega

/-- A block that is read as words and written back over whatever was drawn in
between shows again what it showed, and nothing else changes. The first word
that is read is left out, since a read presents what an earlier command fetched. -/
theorem save_under {checks : Bool} {block : Block} {group : PlaneGroup} {saved drawn : Lg1} (hblock : block.Drawable)
    (hsaved : Reachable checks saved) (hdrawn : Reachable checks drawn)
    (hreads : Rex1.Reads block group saved.rex) (hread_at : Rex1.At block (0, 0) saved.rex)
    (hwrites : Rex1.Writes block group drawn.rex) (hwrite_at : Rex1.At block (0, 0) drawn.rex)
    (hwindow : drawn.rex.config.xywin = saved.rex.config.xywin) (source destination : HostPort) :
    ∃ data after last,
      saved.read_host checks source (block.words + 1) = some (data, after) ∧ after.vram = saved.vram ∧
        drawn.write_host checks destination (data.drop 4) = some last ∧
        Rex1.Restored group (saved.vram.plane group) (Rex1.covers block saved.rex.config.xywin) drawn.vram last.vram := by
  have hinside : block.Inside (0, 0) := ⟨Block.extent_pos _ _, Block.extent_pos _ _⟩
  obtain ⟨list, after, hread, hvram, hlength, hcarries⟩ :=
    @read_words_block checks block group hblock (block.words + 1) saved _ hreads hread_at hinside
  obtain ⟨first, rest, rfl⟩ := List.exists_cons_of_length_eq_add_one hlength
  obtain ⟨_, hcarried⟩ := hcarries first rest rfl
  rw [← hwindow] at hcarried
  obtain ⟨last, hwritten, hrestored⟩ := @write_words_block checks block group hblock _
    (hsaved.stored group) _ (fun _ => rfl) rest drawn _ hwrites hwrite_at hinside hdrawn.stored hcarried
  have hrest : rest.length = block.words := by
    rw [List.length_cons] at hlength
    omega
  refine ⟨bytes_of (first :: rest), after, last, ?_, hvram, ?_, ?_⟩
  · rw [read_host_eq]
    exact hread
  · have hdropped : (bytes_of (first :: rest)).drop 4 = bytes_of rest := rfl
    have hwhole : (bytes_of rest).length % 4 = 0 := by
      rw [length_bytes_of]
      omega
    rw [hdropped, write_host_eq checks destination hwhole]
    exact hwritten
  · rw [hrest, hwindow] at hrestored
    exact hrestored.congr fun position => (Rex1.visited_iff_covers position).symm

theorem reachable_perform {access : Access} {board next : Lg1} (h : Reachable checks board)
    (hperform : board.perform checks access = some next) : Reachable checks next := by
  cases access with
  | read address length =>
    obtain ⟨result, hread, rfl⟩ := Option.map_eq_some_iff.mp hperform
    exact h.step (.read hread)
  | write address data =>
    obtain ⟨result, hwrite, rfl⟩ := Option.map_eq_some_iff.mp hperform
    exact h.step (.write hwrite)
  | read_dma address length =>
    obtain ⟨result, hread, rfl⟩ := Option.map_eq_some_iff.mp hperform
    exact h.step (.read_dma hread)
  | write_dma address data =>
    obtain ⟨result, hwrite, rfl⟩ := Option.map_eq_some_iff.mp hperform
    exact h.step (.write_dma hwrite)

theorem reachable_run {accesses : List Access} {board next : Lg1} (h : Reachable checks board)
    (hrun : board.run checks accesses = some next) : Reachable checks next := by
  induction accesses generalizing board with
  | nil =>
    cases hrun
    exact h
  | cons access accesses ih =>
    obtain ⟨middle, hperform, hrest⟩ := Option.bind_eq_some_iff.mp hrun
    exact ih (reachable_perform h hperform) hrest

/-! ### Two rows of the overlay planes -/

/-- Six columns and two rows, from the last corner to the first. -/
def overlay_block : Block := ⟨5, 3, 0, 2⟩

/-- Goes back to the start of the block. -/
def overlay_start : List Access := [.write 0x3f000c [0, 0, 0, 5], .write 0x3f001c [0, 0, 0, 3]]

/-- Selects the overlay planes with double buffering on, and shows a picture in the
block. -/
def overlay_picture : List Access :=
  [.write 0x3f47fc [8, 0, 8, 0], .write 0x3f47a8 [0x40, 0, 0, 0], .write 0x3f0078 [0, 0, 0xff, 0xff],
    .write 0x3f0004 [0, 0, 0, 0x2c], .write 0x3f0084 [0, 0, 0, 0], .write 0x3f0088 [0, 0, 0, 2]] ++ overlay_start ++
  [.write 0x3f0000 [0x30, 0x20, 0, 0xa9], .write 0x3f0870 [1, 2, 3, 0], .write 0x3f0870 [3, 1, 0, 0],
    .write 0x3f0870 [2, 2, 0, 1], .write 0x3f0870 [1, 3, 0, 0]] ++ overlay_start ++ [.write 0x3f0000 [0, 0, 0, 0xab]]

/-- Reads the block, fills it with one color and prepares to write it back. -/
def overlay_menu : List Access :=
  [.read_dma HOST_PORT 20] ++ overlay_start ++ [.write 0x3f0038 [0, 0, 0, 2], .write 0x3f0800 [0x30, 0, 3, 0x29]] ++
    overlay_start ++ [.write 0x3f0000 [0x30, 0x20, 0, 0xa9]]

def overlay_saved : Lg1 := (new.run true overlay_picture).getD new

def overlay_drawn : Lg1 := (overlay_saved.run true overlay_menu).getD new

theorem run_getD {accesses : List Access} {board default : Lg1} (h : (board.run true accesses).isSome = true) :
    board.run true accesses = some ((board.run true accesses).getD default) := by
  obtain ⟨next, hnext⟩ := Option.isSome_iff_exists.mp h
  rw [hnext, Option.getD_some]

theorem overlay_saved_run : new.run true overlay_picture = some overlay_saved := run_getD (by decide +kernel)

theorem overlay_drawn_run : overlay_saved.run true overlay_menu = some overlay_drawn := run_getD (by decide +kernel)

/-- A row of six columns, read by DMA and written back by single accesses; in between
it shows the fill. -/
theorem save_under_overlay :
    new.run true overlay_picture = some overlay_saved ∧ overlay_saved.run true overlay_menu = some overlay_drawn ∧
      (List.range 6).map (fun x => overlay_saved.vram.read .Overlay x 3) = [1, 3, 0, 3, 2, 1] ∧
      (List.range 6).map (fun x => overlay_drawn.vram.read .Overlay x 3) = [2, 2, 2, 2, 2, 2] ∧
      ∃ data after last,
        overlay_saved.read_host true .Dma 5 = some (data, after) ∧ after.vram = overlay_saved.vram ∧
          overlay_drawn.write_host true .Go (data.drop 4) = some last ∧
          Rex1.Restored .Overlay (overlay_saved.vram.plane .Overlay)
            (Rex1.covers overlay_block overlay_saved.rex.config.xywin) overlay_drawn.vram last.vram := by
  refine ⟨overlay_saved_run, overlay_drawn_run, by decide +kernel, by decide +kernel, ?_⟩
  have hsaved := reachable_run (.new : Reachable true new) overlay_saved_run
  have hdrawn := reachable_run hsaved overlay_drawn_run
  have hblock : overlay_block.Drawable := ⟨by decide, by decide, by decide, by decide⟩
  have hoverlay : PlaneGroup.Overlay ≠ .Pixel := by decide
  have hreads : Rex1.Reads overlay_block .Overlay overlay_saved.rex :=
    ⟨⟨by decide +kernel, by decide +kernel, by decide +kernel, by decide +kernel, by decide +kernel⟩, by decide +kernel,
      by decide +kernel, .inl hoverlay⟩
  have hwrites : Rex1.Writes overlay_block .Overlay overlay_drawn.rex :=
    ⟨⟨by decide +kernel, by decide +kernel, by decide +kernel, by decide +kernel, by decide +kernel⟩, by decide +kernel,
      by decide +kernel, by decide +kernel, by decide +kernel,
      ⟨by decide +kernel, by decide +kernel, by decide +kernel, by decide +kernel, .inl hoverlay⟩⟩
  exact save_under hblock hsaved hdrawn hreads ⟨by decide +kernel, by decide +kernel⟩ hwrites
    ⟨by decide +kernel, by decide +kernel⟩ (by decide +kernel) .Dma .Go

/-- With two buffers of four bits a read presents one of them, so the pixel `0xf0`
comes back as zero after another pixel was drawn over it. -/
theorem save_under_loses_buffer :
    ∃ saved after drawn last : Lg1, ∃ data,
      new.run true [.write 0x3f47fc [8, 0, 8, 0], .write 0x3f47a8 [0x20, 0, 0, 0], .write 0x3f0078 [0, 0, 0xff, 0xff],
          .write 0x3f0038 [0, 0, 0, 0xf0], .write 0x3f0800 [0x30, 0, 0, 1], .write 0x3f0004 [0, 0, 0, 0x2c],
          .write 0x3f0000 [0, 0, 0, 0xab]] = some saved ∧
        saved.read_host true .Go 2 = some (data, after) ∧
        after.run true [.write 0x3f0004 [0, 0, 0, 0], .write 0x3f0038 [0, 0, 0, 0], .write 0x3f0800 [0x30, 0, 0, 1],
          .write 0x3f0004 [0, 0, 0, 0x2c], .write 0x3f0000 [0x30, 0x20, 0, 0xa9]] = some drawn ∧
        drawn.write_host true .Go (data.drop 4) = some last ∧
        (drawn.rex.next.source_rop = 3 ∧ drawn.rex.next.rwmask = 0xffff ∧
          drawn.rex.next.has CMD_COLORCOMP = false ∧ drawn.rex.next.aux2 &&& AUX2_SCREEN_MASK_ENABLES = 0) ∧
        Rex1.covers ⟨0, 0, 0, 0⟩ saved.rex.config.xywin 0 ∧
        saved.vram.plane .Pixel 0 = 0xf0 ∧ last.vram.plane .Pixel 0 = 0 := by
  refine ⟨_, _, _, _, _, rfl, rfl, rfl, rfl, ⟨rfl, rfl, rfl, rfl⟩, ?_, by decide, by decide⟩
  exact ⟨0, 0, ⟨by decide, by decide⟩, by decide⟩

end se_device.lg1.Lg1
