import SgiEmu.Device.Lg1.Access
import SgiEmu.Device.Lg1.Caching

open se_core se_core.bus se_device.lg1.rex1 se_device.lg1.vram

namespace se_device.lg1.vram.Raster

variable {α β : Type}

/-- What a program returns, if it returns, satisfies `post`, whatever overflows on the way. -/
def Leaves (post : α → Prop) : Raster α → Prop
  | done value => post value
  | read _ _ _ next => ∀ value, (next value).Leaves post
  | write _ _ _ _ _ next => next.Leaves post
  | overflow wrapped => wrapped.Leaves post

/-- Only the end of a program decides what it returns. -/
theorem leaves_bind {program : Raster α} {continuation : α → Raster β} {post : β → Prop}
    (h : ∀ value, (continuation value).Leaves post) : (program >>= continuation).Leaves post := by
  change (program.bind continuation).Leaves post
  induction program with
  | done value => exact h value
  | read group x y next ih => exact ih
  | write group x y value write_mask next ih => exact ih
  | overflow wrapped ih => exact ih

theorem leaves_map {program : Raster α} {continuation : α → Raster β} {middle : α → Prop} {post : β → Prop}
    (h : program.Leaves middle) (hcontinuation : ∀ value, middle value → (continuation value).Leaves post) :
    (program >>= continuation).Leaves post := by
  change (program.bind continuation).Leaves post
  induction program with
  | done value => exact hcontinuation value h
  | read group x y next ih => exact fun value => ih value (h value)
  | write group x y value write_mask next ih => exact ih h
  | overflow wrapped ih => exact ih h

theorem leaves_run {program : Raster α} {post : α → Prop} (h : program.Leaves post) {checks : Bool} {vram : Vram}
    {value : α} (hrun : (program.run checks vram).1 = some value) : post value := by
  induction program generalizing vram with
  | done result =>
    obtain rfl := Option.some.inj hrun
    exact h
  | read group x y next ih => exact ih _ (h _) hrun
  | write group x y result write_mask next ih => exact ih h hrun
  | overflow wrapped ih =>
    cases checks with
    | true => cases hrun
    | false => exact ih h hrun

end se_device.lg1.vram.Raster

namespace se_device.lg1.rex1.Rex1

/-- The end coordinates and the window origin keep the width of their registers,
and the start row that of a word; a continued column may lie anywhere. -/
structure Held (rex : Rex1) : Prop where
  ystart : rex.next.ystart ≤ U32_MAX
  xendf : rex.next.xendf ≤ 0x007ff800
  yendf : rex.next.yendf ≤ 0x007ff800
  xywin : rex.config.xywin.toNat ≤ 0x0fff0fff

variable {rex : Rex1}

theorem Held.new : Held new := ⟨by decide, by decide, by decide, by decide⟩

theorem Held.with_ystart (h : Held rex) {ystart : Nat} (hystart : ystart ≤ U32_MAX) :
    Held { rex with next := { rex.next with ystart } } :=
  ⟨hystart, h.xendf, h.yendf, h.xywin⟩

theorem Held.with_xsave (h : Held rex) (xsave : Nat) : Held { rex with next := { rex.next with xsave } } :=
  ⟨h.ystart, h.xendf, h.yendf, h.xywin⟩

theorem Held.with_rwaux1 (h : Held rex) (rwaux1 : U32) : Held { rex with next := { rex.next with rwaux1 } } :=
  ⟨h.ystart, h.xendf, h.yendf, h.xywin⟩

theorem Held.integer_y (h : Held rex) : rex.integer_y ≤ 0x1ffff := by
  have hystart := h.ystart
  have hmax : U32_MAX = 0xffffffff := rfl
  unfold Rex1.integer_y COORDINATE_UNIT
  omega

theorem Held.end_x (h : Held rex) : rex.end_x ≤ 0xfff := by
  have hxendf := h.xendf
  unfold Rex1.end_x END_UNIT
  omega

theorem Held.end_y (h : Held rex) : rex.end_y ≤ 0xfff := by
  have hyendf := h.yendf
  unfold Rex1.end_y END_UNIT
  omega

theorem start_register_le_max (y : Nat) : start_register y ≤ U32_MAX := by
  have hmax : U32_MAX = 0xffffffff := rfl
  unfold start_register
  omega

theorem next_row_le_max (y end_y : Nat) : next_row y end_y ≤ U32_MAX := by
  have hmax : U32_MAX = 0xffffffff := rfl
  unfold next_row
  omega

/-! ## Commands -/

theorem held_draw_pattern (h : Held rex) (group : PlaneGroup) (start_x y : Nat) :
    (rex.draw_pattern group start_x y).Leaves Held := by
  unfold draw_pattern
  apply Raster.leaves_bind
  intro x
  split
  · exact (h.with_ystart (next_row_le_max y _)).with_xsave _
  · exact h.with_xsave x

theorem held_draw_line_stipple (h : Held rex) (group : PlaneGroup) (start_x y : Nat) :
    (rex.draw_line_stipple group start_x y).Leaves Held := by
  unfold draw_line_stipple
  apply Raster.leaves_bind
  intro _
  dsimp only
  split
  · exact (h.with_ystart (next_row_le_max y _)).with_xsave _
  · exact h

theorem held_write_packed_pixels (h : Held rex) (group : PlaneGroup) (start_x start_y : Nat) :
    (rex.write_packed_pixels group start_x start_y).Leaves Held := by
  unfold write_packed_pixels
  dsimp only
  split
  · apply Raster.leaves_bind
    intro _
    exact h.with_xsave _
  · apply Raster.leaves_bind
    rintro ⟨x, y, span_complete⟩
    exact (h.with_ystart (start_register_le_max y)).with_xsave _

theorem held_write_host_rgb_pixel (h : Held rex) (group : PlaneGroup) (x y : Nat) :
    (rex.write_host_rgb_pixel group x y).Leaves Held := by
  unfold write_host_rgb_pixel
  apply Raster.leaves_bind
  intro _
  dsimp only
  split
  · split
    · apply Raster.leaves_bind
      intro next_y
      exact (h.with_xsave rex.integer_x).with_ystart (start_register_le_max next_y)
    · exact h.with_xsave _
  · split
    · exact h.with_xsave _
    · exact h.with_xsave _

theorem held_read_packed_pixels (h : Held rex) : rex.read_packed_pixels.Leaves Held := by
  unfold read_packed_pixels
  apply Raster.leaves_bind
  rintro ⟨latch, x, y⟩
  exact ((h.with_rwaux1 latch).with_xsave x).with_ystart (start_register_le_max y)

theorem held_draw_from (h : Held rex) (group : PlaneGroup) (start_x start_y : Nat) :
    (rex.draw_from group start_x start_y).Leaves Held := by
  have hkept : ∀ program : Raster Unit, (program >>= fun _ => Raster.done rex).Leaves Held :=
    fun _ => Raster.leaves_bind fun _ => h
  unfold draw_from
  dsimp only
  split
  · split
    · exact held_write_host_rgb_pixel h group start_x start_y
    · exact held_write_packed_pixels h group start_x start_y
  · split
    · exact held_draw_pattern h group start_x start_y
    · split
      · exact hkept _
      · split
        · exact hkept _
        · split
          · exact held_draw_line_stipple h group start_x start_y
          · split
            · exact hkept _
            · split
              · exact hkept _
              · exact hkept _

/-- What one command does: the registers keep their widths, also where a coordinate
leaves the word. -/
theorem held_execute (h : Held rex) : rex.execute.Leaves Held := by
  have hlatch : ∀ after : Rex1, Held after → (Raster.done after.latch_next_context).Leaves Held := fun _ hafter =>
    ⟨hafter.ystart, hafter.xendf, hafter.yendf, hafter.xywin⟩
  unfold execute
  dsimp only
  split
  · refine Raster.leaves_map ?_ hlatch
    unfold draw
    dsimp only
    split
    · exact held_draw_from h _ _ _
    · exact held_draw_from (h.with_xsave _) _ _ _
  · exact Raster.leaves_map (held_read_packed_pixels h) hlatch
  · exact hlatch rex h

/-! ## Register windows -/

/-- Every coordinate register masks what is written to it. -/
theorem Held.write_drawing (h : Held rex) (offset : Nat) (value : U32) : Held (rex.write_drawing offset value) := by
  have hmax : U32_MAX = 0xffffffff := rfl
  have hinteger : (value &&& 0xfff).toNat ≤ 0xfff := Nat.and_le_right
  have hfraction : (value &&& 0x007fffff).toNat ≤ 0x007fffff := Nat.and_le_right
  have hfull : (value &&& 0x07ffffff).toNat ≤ 0x07ffffff := Nat.and_le_right
  have hend : (value &&& 0x007ff800).toNat ≤ 0x007ff800 := Nat.and_le_right
  unfold Rex1.write_drawing Registers.write
  split
  case h_7 => exact ⟨h.ystart, hend, h.yendf, h.xywin⟩
  case h_8 => exact h.with_ystart (by unfold COORDINATE_UNIT; omega)
  case h_9 => exact h.with_ystart (by omega)
  case h_10 => exact h.with_ystart (by omega)
  case h_11 => exact ⟨h.ystart, h.xendf, hend, h.xywin⟩
  case h_34 =>
    refine ⟨h.ystart, ?_, h.yendf, h.xywin⟩
    dsimp only [END_UNIT]
    omega
  case h_35 =>
    refine ⟨h.ystart, h.xendf, ?_, h.xywin⟩
    dsimp only [END_UNIT]
    omega
  all_goals exact ⟨h.ystart, h.xendf, h.yendf, h.xywin⟩

theorem Held.write_config (h : Held rex) (offset : Nat) (value : U32) : Held (rex.write_config offset value).2 := by
  have hxywin : (value &&& 0x0fff0fff).toNat ≤ 0x0fff0fff := Nat.and_le_right
  unfold Rex1.write_config
  dsimp only
  split
  case h_16 => exact ⟨h.ystart, h.xendf, h.yendf, hxywin⟩
  all_goals exact ⟨h.ystart, h.xendf, h.yendf, h.xywin⟩

theorem Held.complete_config_read (h : Held rex) (port : PeripheralPort) (value : U8) :
    Held (rex.complete_config_read port value) := by
  cases port <;> exact ⟨h.ystart, h.xendf, h.yendf, h.xywin⟩

theorem held_paired {α : Type} (h : Held rex) (value : α) :
    Raster.Leaves (fun result : α × Rex1 => result.2.Held) (do
      let rex ← rex.execute
      .done (value, rex)) :=
  Raster.leaves_map (held_execute h) fun _ hafter => hafter

theorem held_read_drawing_go (h : Held rex) (offset : Nat) :
    (rex.read_drawing_go offset).Leaves fun result => result.2.Held := by
  unfold read_drawing_go
  split
  · exact held_paired h _
  · exact Raster.leaves_map (held_execute h) fun _ hafter => hafter

end se_device.lg1.rex1.Rex1

namespace se_device.lg1.Lg1

variable {checks : Bool} {board next : Lg1}

theorem command_held {α : Type} {program : Raster (α × Rex1)} (h : program.Leaves fun result => result.2.Held) {value : α}
    (hcommand : board.command checks program = some (value, next)) : next.rex.Held := by
  unfold command at hcommand
  dsimp only at hcommand
  obtain ⟨result, hrun, heq⟩ := Option.map_eq_some_iff.mp hcommand
  cases heq
  exact Raster.leaves_run h hrun

theorem read_held {address : U64} {length : Nat} {result : Except BusError (List U8)} (h : board.rex.Held)
    (hread : board.read checks address length = some (result, next)) : next.rex.Held := by
  unfold read at hread
  split at hread
  · cases hread
    exact h
  · cases hread
    exact h
  · split at hread
    · cases hread
      exact h
    · obtain ⟨⟨value, after⟩, hcommand, heq⟩ := Option.map_eq_some_iff.mp hread
      cases heq
      exact command_held (Rex1.held_read_drawing_go h _) hcommand
    · cases hread
      exact h
    · cases hread
      exact h
    · dsimp only at hread
      split at hread
      · rename_i port _
        cases hread
        have hperipheral : (board.read_peripheral port).2.rex.Held := by
          rw [read_peripheral_rex]
          exact h
        exact hperipheral.complete_config_read port _
      · cases hread
        exact h
    · cases hread
      exact h

theorem write_held {address : U64} {data : List U8} {result : Except BusError Unit} (h : board.rex.Held)
    (hwrite : board.write checks address data = some (result, next)) : next.rex.Held := by
  unfold write at hwrite
  split at hwrite
  · cases hwrite
    exact h
  · cases hwrite
    exact h
  · split at hwrite
    · cases hwrite
      exact h
    · split at hwrite
      · cases hwrite
        exact h.write_drawing _ _
      · exact command_held (Rex1.held_paired (h.write_drawing _ _) _) hwrite
      · cases hwrite
        exact ⟨h.ystart, h.xendf, h.yendf, h.xywin⟩
      · cases hwrite
        exact h.write_config _ _
      · dsimp only at hwrite
        split at hwrite
        · cases hwrite
          rw [write_peripheral_rex]
          exact h.write_config _ _
        · cases hwrite
          exact h.write_config _ _
      · cases hwrite
        exact h

theorem read_words_held {words : Nat} {data : List U8} (h : board.rex.Held)
    (hread : board.read_words checks words = some (data, next)) : next.rex.Held := by
  induction words generalizing board data with
  | zero =>
    cases hread
    exact h
  | succ words ih =>
    unfold read_words at hread
    obtain ⟨⟨value, middle⟩, hcommand, hread⟩ := Option.bind_eq_some_iff.mp hread
    obtain ⟨⟨rest, after⟩, hrest, hread⟩ := Option.bind_eq_some_iff.mp hread
    cases hread
    exact ih (command_held (Rex1.held_paired h _) hcommand) hrest

theorem write_words_held {data : List U8} (h : board.rex.Held) (hwrite : board.write_words checks data = some next) :
    next.rex.Held := by
  induction data, board using write_words.induct with
  | case1 first second third fourth data board ih =>
    unfold write_words at hwrite
    obtain ⟨⟨value, middle⟩, hcommand, hwrite⟩ := Option.bind_eq_some_iff.mp hwrite
    exact ih middle (command_held (Rex1.held_paired (h.with_rwaux1 _) _) hcommand) hwrite
  | case2 data board hshort =>
    rw [write_words] at hwrite
    · cases hwrite
      exact h
    · exact hshort

theorem read_dma_held {address : U64} {length : Nat} {result : Except BusError (List U8)} (h : board.rex.Held)
    (hread : board.read_dma checks address length = some (result, next)) : next.rex.Held := by
  unfold read_dma at hread
  split at hread
  · cases hread
    exact h
  · split at hread
    · cases hread
      exact h
    · obtain ⟨⟨data, after⟩, hwords, heq⟩ := Option.map_eq_some_iff.mp hread
      cases heq
      exact read_words_held h hwords

theorem write_dma_held {address : U64} {data : List U8} {result : Except BusError Unit} (h : board.rex.Held)
    (hwrite : board.write_dma checks address data = some (result, next)) : next.rex.Held := by
  unfold write_dma at hwrite
  split at hwrite
  · cases hwrite
    exact h
  · split at hwrite
    · cases hwrite
      exact h
    · obtain ⟨after, hwords, heq⟩ := Option.map_eq_some_iff.mp hwrite
      cases heq
      exact write_words_held h hwords

theorem advance_time_rex (elapsed : Nat) (board : Lg1) : (board.advance_time elapsed).rex = board.rex := by
  unfold advance_time
  dsimp only
  split
  · rfl
  · split
    · rfl
    · split <;> rfl

/-- What one step of the board preserves. -/
theorem Step.held (hstep : Step checks board next) (h : board.rex.Held) : next.rex.Held := by
  cases hstep with
  | reset => exact Rex1.Held.new
  | take_display_update => exact h
  | advance_time elapsed =>
    rw [advance_time_rex]
    exact h
  | read hread => exact read_held h hread
  | write hwrite => exact write_held h hwrite
  | read_dma hread => exact read_dma_held h hread
  | write_dma hwrite => exact write_dma_held h hwrite

/-- What a whole run preserves. -/
theorem Reachable.held (h : Reachable checks board) : board.rex.Held := by
  induction h with
  | new => exact Rex1.Held.new
  | step _ hstep ih => exact hstep.held ih
  | restore _ _ _ ih => exact ih

end se_device.lg1.Lg1
