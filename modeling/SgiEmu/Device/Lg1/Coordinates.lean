import SgiEmu.Device.Lg1

open se_core se_core.bus se_device.lg1.vram

namespace se_device.lg1.rex1

/-! ## Stepping a coordinate -/

/-- The coordinate lies between where its loop starts and where it stops. -/
def Between (start stop x : Nat) : Prop := min start stop ≤ x ∧ x ≤ max start stop

theorem coordinate_sum_safe {x y : Nat} (h : x + y ≤ U32_MAX) : (coordinate_sum x y).Safe fun sum => sum = x + y := by
  unfold coordinate_sum
  rw [if_pos h]
  exact rfl

theorem coordinate_before_safe {x : Nat} (h : 0 < x) : (coordinate_before x).Safe fun before => before = x - 1 := by
  unfold coordinate_before
  rw [if_pos h]
  exact rfl

theorem coordinate_after_safe {ascending : Bool} {x : Nat} (hup : ascending = true → x < U32_MAX)
    (hdown : ascending = false → 0 < x) :
    (coordinate_after ascending x).Safe fun after => after = if ascending then x + 1 else x - 1 := by
  unfold coordinate_after
  cases ascending with
  | true => exact coordinate_sum_safe (hup rfl)
  | false => exact coordinate_before_safe (hdown rfl)

/-- A step toward the stop stays between. -/
theorem step_between {start stop x : Nat} (h : Between start stop x) (hstop : x ≠ stop)
    (hbound : max start stop ≤ 0xffff) :
    (coordinate_after (decide (start ≤ stop)) x).Safe (Between start stop) := by
  obtain ⟨hlow, hhigh⟩ := h
  have hmax : U32_MAX = 0xffffffff := rfl
  apply (coordinate_after_safe _ _).imp
  · intro after hafter
    rw [hafter]
    by_cases hascending : start ≤ stop
    · rw [decide_eq_true hascending, if_pos rfl]
      constructor <;> omega
    · rw [decide_eq_false hascending, if_neg Bool.false_ne_true]
      constructor <;> omega
  · intro _
    omega
  · intro hdescending
    have hstart : ¬start ≤ stop := of_decide_eq_false hdescending
    omega

/-- A row is stepped toward the last one. -/
theorem step_row {y end_y : Nat} (hy : y ≤ 0xfff) (hend : end_y ≤ 0xfff) (hstop : y ≠ end_y) :
    (coordinate_after (decide (y ≤ end_y)) y).Safe (· ≤ 0xfff) := by
  have hbetween : Between y end_y y := ⟨Nat.min_le_left _ _, Nat.le_max_left _ _⟩
  apply (step_between hbetween hstop (by omega)).imp
  intro after hafter
  have hhigh := hafter.2
  omega

/-! ## Lanes of a host word -/

/-- Nothing stops the lanes of a word: the rectangle's end lies behind, or there
is no rectangle and the command does not stop on X. -/
def lanes_free (rectangle stop_on_x ascending : Bool) (x end_x : Nat) : Prop :=
  if rectangle then if ascending then end_x < x else x < end_x else stop_on_x = false

/-- Lanes that nothing stops have room before the edge. -/
def lanes_fit (rectangle stop_on_x ascending : Bool) (remaining x end_x : Nat) : Prop :=
  lanes_free rectangle stop_on_x ascending x end_x → if ascending then x + remaining ≤ 0xfff else remaining ≤ x

instance lanes_free_decidable (rectangle stop_on_x ascending : Bool) (x end_x : Nat) :
    Decidable (lanes_free rectangle stop_on_x ascending x end_x) :=
  inferInstanceAs (Decidable (if rectangle then if ascending then end_x < x else x < end_x else stop_on_x = false))

instance lanes_fit_decidable (rectangle stop_on_x ascending : Bool) (remaining x end_x : Nat) :
    Decidable (lanes_fit rectangle stop_on_x ascending remaining x end_x) :=
  inferInstanceAs (Decidable (lanes_free rectangle stop_on_x ascending x end_x →
    if ascending then x + remaining ≤ 0xfff else remaining ≤ x))

/-- One lane that does not end the word. -/
theorem lane_step {rectangle stop_on_x ascending : Bool} {remaining x end_x : Nat} (hx : x ≤ 0xfff) (hend : end_x ≤ 0xfff)
    (hfit : lanes_fit rectangle stop_on_x ascending (remaining + 1) x end_x)
    (hstop : (rectangle || stop_on_x) = true → x ≠ end_x)
    (hahead : rectangle = false → stop_on_x = true → if ascending then x ≤ end_x else end_x ≤ x) :
    (coordinate_after ascending x).Safe fun after =>
      after ≤ 0xfff ∧ lanes_fit rectangle stop_on_x ascending remaining after end_x := by
  have hmax : U32_MAX = 0xffffffff := rfl
  unfold lanes_fit lanes_free at hfit ⊢
  apply (coordinate_after_safe _ _).imp
  · intro after hafter
    subst hafter
    cases rectangle <;> cases stop_on_x <;> cases ascending <;> simp at hfit hstop hahead ⊢ <;> omega
  · intro _
    omega
  · intro hdescending
    subst hdescending
    cases rectangle <;> cases stop_on_x <;> simp at hfit hstop hahead <;> omega

/-! ## The coordinate registers -/

/-- The continuation and start coordinates keep the width of their registers. -/
structure Registers.InRange (registers : Registers) : Prop where
  xsave : registers.xsave ≤ 0xfff
  xstart : registers.xstart ≤ 0x07ffffff
  ystart : registers.ystart ≤ 0x07ffffff

namespace Rex1

/-- Both contexts are in range, and so are the registers that no command changes. -/
structure Bounded (rex : Rex1) : Prop where
  current : rex.current.InRange
  next : rex.next.InRange
  xendf : rex.next.xendf ≤ 0x007ff800
  yendf : rex.next.yendf ≤ 0x007ff800
  xywin : rex.config.xywin.toNat ≤ 0x0fff0fff

variable {rex : Rex1}

theorem Bounded.new : Bounded new :=
  ⟨⟨by decide, by decide, by decide⟩, ⟨by decide, by decide, by decide⟩, by decide, by decide, by decide⟩

theorem Bounded.integer_x (h : Bounded rex) : rex.integer_x ≤ 0xfff := by
  have hxstart := h.next.xstart
  unfold Rex1.integer_x COORDINATE_UNIT
  omega

theorem Bounded.integer_y (h : Bounded rex) : rex.integer_y ≤ 0xfff := by
  have hystart := h.next.ystart
  unfold Rex1.integer_y COORDINATE_UNIT
  omega

theorem Bounded.end_x (h : Bounded rex) : rex.end_x ≤ 0xfff := by
  have hxendf := h.xendf
  unfold Rex1.end_x END_UNIT
  omega

theorem Bounded.end_y (h : Bounded rex) : rex.end_y ≤ 0xfff := by
  have hyendf := h.yendf
  unfold Rex1.end_y END_UNIT
  omega

theorem Bounded.with_xsave (h : Bounded rex) {xsave : Nat} (hxsave : xsave ≤ 0xfff) :
    Bounded { rex with next := { rex.next with xsave } } :=
  ⟨h.current, ⟨hxsave, h.next.xstart, h.next.ystart⟩, h.xendf, h.yendf, h.xywin⟩

theorem Bounded.with_ystart (h : Bounded rex) {ystart : Nat} (hystart : ystart ≤ 0x07ffffff) :
    Bounded { rex with next := { rex.next with ystart } } :=
  ⟨h.current, ⟨h.next.xsave, h.next.xstart, hystart⟩, h.xendf, h.yendf, h.xywin⟩

theorem Bounded.with_rwaux1 (h : Bounded rex) (rwaux1 : U32) : Bounded { rex with next := { rex.next with rwaux1 } } :=
  ⟨h.current, ⟨h.next.xsave, h.next.xstart, h.next.ystart⟩, h.xendf, h.yendf, h.xywin⟩

theorem start_register_le {y : Nat} (hy : y ≤ 0xfff) : start_register y ≤ 0x07ffffff := by
  unfold start_register COORDINATE_UNIT
  omega

/-! ## Pixels -/

/-- The column of the window origin is the upper half of its register. -/
theorem window_column_le (xywin : U32) : (xywin >>> 16).toNat ≤ xywin.toNat := by
  rw [BitVec.toNat_ushiftRight, Nat.shiftRight_eq_div_pow]
  exact Nat.div_le_self _ _

theorem framebuffer_coordinate_safe (h : Bounded rex) {x y : Nat} (hx : x ≤ 0xffff) (hy : y ≤ 0xffff) :
    (rex.framebuffer_coordinate x y).Safe fun _ => True := by
  have hmax : U32_MAX = 0xffffffff := rfl
  have hxywin := h.xywin
  have hwindow := window_column_le rex.config.xywin
  unfold framebuffer_coordinate
  apply Raster.safe_bind (coordinate_sum_safe (by omega))
  intro column _
  apply Raster.safe_bind (coordinate_sum_safe (by omega))
  intro row _
  dsimp only
  split <;> exact trivial

theorem read_pixel_safe (h : Bounded rex) (group : PlaneGroup) {x y : Nat} (hx : x ≤ 0xffff) (hy : y ≤ 0xffff) :
    (rex.read_pixel group x y).Safe fun _ => True := by
  unfold read_pixel
  apply Raster.safe_bind (framebuffer_coordinate_safe h hx hy)
  intro place _
  cases place with
  | none => exact trivial
  | some place => exact fun _ => trivial

theorem write_pixel_safe (h : Bounded rex) (group : PlaneGroup) {x y : Nat} (source : U8) (hx : x ≤ 0xffff)
    (hy : y ≤ 0xffff) : (rex.write_pixel group x y source).Safe fun _ => True := by
  unfold write_pixel
  apply Raster.safe_bind (framebuffer_coordinate_safe h hx hy)
  intro place _
  cases place with
  | none => exact trivial
  | some place =>
    dsimp only
    split
    · exact trivial
    · intro raw_destination
      dsimp only
      split <;> exact trivial

theorem pattern_pixel_safe (h : Bounded rex) (group : PlaneGroup) (set opaque_pattern : Bool) (shade_step : Nat)
    {x y : Nat} (hx : x ≤ 0xffff) (hy : y ≤ 0xffff) :
    (rex.pattern_pixel group set opaque_pattern shade_step x y).Safe fun _ => True := by
  unfold pattern_pixel
  split
  · exact write_pixel_safe h group _ hx hy
  · split
    · exact write_pixel_safe h group _ hx hy
    · exact trivial

/-! ## Commands that leave the coordinates alone -/

theorem step_coordinate_le (coordinate : Nat) (step : Int) : step_coordinate coordinate step ≤ 0x07ffffff :=
  Nat.and_le_right

theorem draw_line_loop_safe (h : Bounded rex) (group : PlaneGroup) (x_major : Bool) (end_major : Nat) (major_step : Int)
    {budget pixel x y : Nat} (hx : x ≤ 0x07ffffff) (hy : y ≤ 0x07ffffff) :
    (rex.draw_line_loop group x_major end_major major_step budget pixel x y).Safe fun _ => True := by
  induction budget generalizing pixel x y with
  | zero => exact trivial
  | succ budget ih =>
    have hpixel_x : x / COORDINATE_UNIT ≤ 0xffff := by
      unfold COORDINATE_UNIT
      omega
    have hpixel_y : y / COORDINATE_UNIT ≤ 0xffff := by
      unfold COORDINATE_UNIT
      omega
    have hrest : ∀ (_ : Unit),
        (if (if x_major then x / COORDINATE_UNIT else y / COORDINATE_UNIT) = end_major then Raster.done ()
        else rex.draw_line_loop group x_major end_major major_step budget (pixel + 1)
          (step_coordinate x (if x_major then major_step else signed_minor_slope rex.next.minorslope))
          (step_coordinate y (if x_major then signed_minor_slope rex.next.minorslope else major_step))).Safe
        fun _ => True := by
      intro _
      by_cases hend : (if x_major then x / COORDINATE_UNIT else y / COORDINATE_UNIT) = end_major
      · rw [if_pos hend]
        exact trivial
      · rw [if_neg hend]
        exact ih (step_coordinate_le _ _) (step_coordinate_le _ _)
    unfold draw_line_loop
    dsimp only
    split
    · exact Raster.safe_bind (write_pixel_safe h group _ hpixel_x hpixel_y) fun _ _ => hrest ()
    · split
      · exact Raster.safe_bind (write_pixel_safe h group _ hpixel_x hpixel_y) fun _ _ => hrest ()
      · exact hrest ()

theorem draw_line_safe (h : Bounded rex) (group : PlaneGroup) (x_major : Bool) (end_major : Nat) :
    (rex.draw_line group x_major end_major).Safe fun _ => True :=
  draw_line_loop_safe h group x_major end_major _ h.next.xstart h.next.ystart

theorem signed_coordinate_le (value : U32) : signed_coordinate value ≤ 0x07ff := by
  have hvalue : (value &&& 0x07ff).toNat ≤ 0x07ff := Nat.and_le_right
  unfold signed_coordinate
  dsimp only
  split <;> omega

theorem rectangle_source_safe (h : Bounded rex) (group : PlaneGroup) (shade_step : Nat) {x y : Nat} (hx : x ≤ 0xfff)
    (hy : y ≤ 0xfff) : (rex.rectangle_source group shade_step x y).Safe fun _ => True := by
  have hcolumn := signed_coordinate_le (rex.next.xymove >>> 16)
  have hrow := signed_coordinate_le rex.next.xymove
  unfold rectangle_source
  split
  · dsimp only
    split
    · exact read_pixel_safe h group (by omega) (by omega)
    · exact trivial
  · exact trivial

theorem draw_rectangle_loop_safe (h : Bounded rex) (group : PlaneGroup) {start_x start_y end_x end_y : Nat}
    (hstart_x : start_x ≤ 0xfff) (hstart_y : start_y ≤ 0xfff) (hend_x : end_x ≤ 0xfff) (hend_y : end_y ≤ 0xfff)
    {budget shade_step x y : Nat} (hx : Between start_x end_x x) (hy : Between start_y end_y y) :
    (rex.draw_rectangle_loop group start_x start_y end_x end_y budget shade_step x y).Safe fun _ => True := by
  induction budget generalizing shade_step x y with
  | zero => exact trivial
  | succ budget ih =>
    have hx' : x ≤ 0xfff := Nat.le_trans hx.2 (by omega)
    have hy' : y ≤ 0xfff := Nat.le_trans hy.2 (by omega)
    unfold draw_rectangle_loop
    apply Raster.safe_bind (rectangle_source_safe h group shade_step hx' hy')
    intro source _
    apply Raster.safe_bind (write_pixel_safe h group source (by omega) (by omega))
    intro _ _
    split
    · rename_i hcolumn
      exact Raster.safe_bind (step_between hx hcolumn (by omega)) fun _ hnext => ih hnext hy
    · split
      · exact trivial
      · rename_i hrow
        refine Raster.safe_bind (step_between hy hrow (by omega)) fun _ hnext => ih ?_ hnext
        exact ⟨Nat.min_le_left _ _, Nat.le_max_left _ _⟩

theorem draw_rectangle_safe (h : Bounded rex) (group : PlaneGroup) {start_x start_y end_x end_y : Nat}
    (hstart_x : start_x ≤ 0xfff) (hstart_y : start_y ≤ 0xfff) (hend_x : end_x ≤ 0xfff) (hend_y : end_y ≤ 0xfff) :
    (rex.draw_rectangle group start_x start_y end_x end_y).Safe fun _ => True :=
  draw_rectangle_loop_safe h group hstart_x hstart_y hend_x hend_y ⟨Nat.min_le_left _ _, Nat.le_max_left _ _⟩
    ⟨Nat.min_le_left _ _, Nat.le_max_left _ _⟩

theorem draw_line_stipple_loop_safe (h : Bounded rex) (group : PlaneGroup) {start_x y : Nat} (hstart_x : start_x ≤ 0xfff)
    (hy : y ≤ 0xfff) {budget pixel x : Nat} (hx : Between start_x rex.end_x x) :
    (rex.draw_line_stipple_loop group (start_x ≤ rex.end_x) y budget pixel x).Safe fun _ => True := by
  induction budget generalizing pixel x with
  | zero => exact trivial
  | succ budget ih =>
    have hend := h.end_x
    have hx' : x ≤ 0xfff := Nat.le_trans hx.2 (by omega)
    unfold draw_line_stipple_loop
    apply Raster.safe_bind (pattern_pixel_safe h group _ _ pixel (by omega) (by omega))
    intro _ _
    split
    · exact trivial
    · rename_i hcolumn
      exact Raster.safe_bind (step_between hx hcolumn (by omega)) fun _ hnext => ih hnext

theorem write_tile_loop_safe (h : Bounded rex) (group : PlaneGroup) {y : Nat} (hy : y ≤ 0xfff) {budget pixel x : Nat}
    (hx : Between rex.integer_x rex.end_x x) :
    (rex.write_tile_loop group (rex.integer_x ≤ rex.end_x) y budget pixel x).Safe fun _ => True := by
  induction budget generalizing pixel x with
  | zero => exact trivial
  | succ budget ih =>
    have hstart := h.integer_x
    have hend := h.end_x
    have hx' : x ≤ 0xfff := Nat.le_trans hx.2 (by omega)
    unfold write_tile_loop
    apply Raster.safe_bind (write_pixel_safe h group _ (by omega) (by omega))
    intro _ _
    split
    · exact trivial
    · rename_i hcolumn
      exact Raster.safe_bind (step_between hx hcolumn (by omega)) fun _ hnext => ih hnext

/-! ## Commands that store where the next one continues -/

/-- The last row of all has no row after it. -/
def row_fits (y end_y : Nat) : Prop := end_y < y ∨ y < 0xfff

theorem next_row_le {y end_y : Nat} (hy : y ≤ 0xfff) (hfits : row_fits y end_y) : next_row y end_y ≤ 0x07ffffff := by
  have hmax : U32_MAX = 0xffffffff := rfl
  unfold row_fits at hfits
  unfold next_row COORDINATE_UNIT
  split <;> omega

theorem draw_pattern_loop_safe (h : Bounded rex) (group : PlaneGroup) {y : Nat} (hy : y ≤ 0xfff) {remaining bit x : Nat}
    (hx : x + remaining ≤ 0xffff) :
    (rex.draw_pattern_loop group y remaining bit x).Safe fun after =>
      after ≤ x + remaining ∧ (rex.next.has CMD_STOPONX = true → after ≤ max x (rex.end_x + 1)) := by
  have hmax : U32_MAX = 0xffffffff := rfl
  induction remaining generalizing bit x with
  | zero => exact ⟨Nat.le_refl _, fun _ => Nat.le_max_left _ _⟩
  | succ remaining ih =>
    unfold draw_pattern_loop
    split
    · exact ⟨Nat.le_add_right _ _, fun _ => Nat.le_max_left _ _⟩
    · rename_i hcontinue
      apply Raster.safe_bind (pattern_pixel_safe h group _ _ bit (by omega) (by omega))
      intro _ _
      apply Raster.safe_bind (coordinate_sum_safe (by omega))
      intro after hafter
      subst hafter
      apply (ih (by omega)).imp
      intro last hlast
      refine ⟨by omega, fun hstop => ?_⟩
      have hinside : ¬rex.end_x < x := by
        intro hpast
        exact hcontinue (Bool.and_eq_true_iff.mpr ⟨hstop, decide_eq_true hpast⟩)
      have hreached := hlast.2 hstop
      omega

/-- The pixels of a Z pattern. -/
def pattern_length (rex : Rex1) : Nat := if rex.next.has CMD_LENGTH32 then 32 else 16

/-- The span of a Z pattern leaves the continuation registers in range. -/
def pattern_fits (start_x y : Nat) (rex : Rex1) : Prop :=
  if rex.next.has CMD_STOPONX = true then
    if rex.next.has CMD_BLOCK = true then rex.end_x < start_x + rex.pattern_length → row_fits y rex.end_y
    else start_x + rex.pattern_length ≤ 0xfff ∨ rex.end_x < 0xfff
  else start_x + rex.pattern_length ≤ 0xfff

/-- A Z pattern whose span fits leaves every coordinate in range, those of its continuation included. -/
theorem draw_pattern_safe (h : Bounded rex) (group : PlaneGroup) {start_x y : Nat} (hstart_x : start_x ≤ 0xfff)
    (hy : y ≤ 0xfff) (hfits : rex.pattern_fits start_x y) : (rex.draw_pattern group start_x y).Safe Bounded := by
  have hlength : rex.pattern_length ≤ 32 := by
    unfold pattern_length
    split <;> omega
  have hend := h.end_x
  unfold draw_pattern
  change (rex.draw_pattern_loop group y rex.pattern_length 0 start_x >>= _).Safe Bounded
  apply Raster.safe_bind (draw_pattern_loop_safe h group hy (by omega))
  intro after hafter
  obtain ⟨hspan, hstop⟩ := hafter
  unfold pattern_fits at hfits
  split
  · rename_i hrow
    obtain ⟨hrow, hpast⟩ := Bool.and_eq_true_iff.mp hrow
    obtain ⟨hblock, hstoponx⟩ := Bool.and_eq_true_iff.mp hrow
    have hpast := of_decide_eq_true hpast
    rw [if_pos hstoponx, if_pos hblock] at hfits
    exact (h.with_ystart (next_row_le hy (hfits (by omega)))).with_xsave h.integer_x
  · rename_i hrow
    apply h.with_xsave
    by_cases hstoponx : rex.next.has CMD_STOPONX = true
    · have hreached := hstop hstoponx
      rw [if_pos hstoponx] at hfits
      by_cases hblock : rex.next.has CMD_BLOCK = true
      · rw [hblock, hstoponx, Bool.and_self, Bool.true_and, decide_eq_true_eq] at hrow
        omega
      · rw [if_neg hblock] at hfits
        omega
    · rw [if_neg hstoponx] at hfits
      omega

/-- The command steps a row at the end of a stippled span. -/
def stipple_rows : U32 := CMD_BLOCK ||| CMD_QUADMODE ||| CMD_XYCONTINUE ||| CMD_STOPONX

/-- A stippled span only moves on to the next row, for which there is room. -/
theorem draw_line_stipple_safe (h : Bounded rex) (group : PlaneGroup) {start_x y : Nat} (hstart_x : start_x ≤ 0xfff)
    (hy : y ≤ 0xfff) (hfits : rex.next.command &&& stipple_rows = stipple_rows → row_fits y rex.end_y) :
    (rex.draw_line_stipple group start_x y).Safe Bounded := by
  unfold draw_line_stipple
  have hspan : Between start_x rex.end_x start_x := ⟨Nat.min_le_left _ _, Nat.le_max_left _ _⟩
  apply Raster.safe_bind (draw_line_stipple_loop_safe h group hstart_x hy hspan)
  intro _ _
  dsimp only
  split
  · rename_i hrows
    exact (h.with_ystart (next_row_le hy (hfits hrows))).with_xsave h.integer_x
  · exact h

/-- A host word that is repeated as a tile. -/
def tiled (rex : Rex1) : Bool :=
  rex.next.command &&& (CMD_BLOCK ||| CMD_QUADMODE ||| CMD_XYCONTINUE ||| CMD_STOPONX) == CMD_QUADMODE ||| CMD_STOPONX

/-- A continued block: its lanes wrap from row to row. -/
def blocks (rex : Rex1) : Bool :=
  rex.next.command &&& (CMD_BLOCK ||| CMD_QUADMODE ||| CMD_XYCONTINUE) == CMD_BLOCK ||| CMD_QUADMODE ||| CMD_XYCONTINUE

/-- The lanes of a host word are written one by one, each where there is room for it. -/
theorem write_lanes_loop_safe (h : Bounded rex) (group : PlaneGroup) {rectangle stop_on_x x_ascending : Bool}
    {remaining lane x y : Nat} (hx : x ≤ 0xfff) (hy : y ≤ 0xfff)
    (hfit : lanes_fit rectangle stop_on_x x_ascending remaining x rex.end_x) :
    (rex.write_lanes_loop group rectangle stop_on_x x_ascending (y ≤ rex.end_y) remaining lane x y).Safe
      fun after => after.1 ≤ 0xfff ∧ after.2.1 ≤ 0xfff := by
  induction remaining generalizing lane x with
  | zero => exact ⟨hx, hy⟩
  | succ remaining ih =>
    unfold write_lanes_loop
    dsimp only
    by_cases hahead :
        (!rectangle && stop_on_x && if x_ascending then decide (rex.end_x < x) else decide (x < rex.end_x)) = true
    · rw [if_pos hahead]
      exact ⟨hx, hy⟩
    · rw [if_neg hahead]
      apply Raster.safe_bind (write_pixel_safe h group _ (by omega) (by omega))
      intro _ _
      split
      · split
        · rename_i hrow
          exact Raster.safe_bind (step_row hy h.end_y hrow) fun _ hnext => ⟨h.integer_x, hnext⟩
        · exact ⟨h.integer_x, hy⟩
      · rename_i hrectangle
        split
        · exact ⟨hx, hy⟩
        · rename_i hspan
          refine Raster.safe_bind (lane_step hx h.end_x hfit ?_ ?_) fun _ hnext => ih hnext.1 hnext.2
          · intro hguided hstop
            cases rectangle <;> simp_all
          · intro hfree hstop
            cases x_ascending <;> simp_all

theorem write_packed_pixels_safe (h : Bounded rex) (group : PlaneGroup) {start_x start_y : Nat} (hstart_x : start_x ≤ 0xfff)
    (hstart_y : start_y ≤ 0xfff)
    (hfits : rex.tiled = false →
      lanes_fit rex.blocks (rex.next.has CMD_STOPONX) (rex.integer_x ≤ rex.end_x) PACKED_PIXELS start_x rex.end_x) :
    (rex.write_packed_pixels group start_x start_y).Safe Bounded := by
  unfold write_packed_pixels
  dsimp only
  split
  · have htile : Between rex.integer_x rex.end_x rex.integer_x := ⟨Nat.min_le_left _ _, Nat.le_max_left _ _⟩
    apply Raster.safe_bind (write_tile_loop_safe h group hstart_y htile)
    intro _ _
    exact h.with_xsave h.integer_x
  · rename_i htiled
    have hlanes := hfits (beq_eq_false_iff_ne.mpr htiled)
    apply Raster.safe_bind (write_lanes_loop_safe h group hstart_x hstart_y hlanes)
    intro after hafter
    obtain ⟨x, y, span_complete⟩ := after
    refine (h.with_ystart (start_register_le hafter.2)).with_xsave ?_
    split
    · exact h.integer_x
    · exact hafter.1

theorem write_host_rgb_pixel_safe (h : Bounded rex) (group : PlaneGroup) {x y : Nat} (hx : x ≤ 0xfff) (hy : y ≤ 0xfff) :
    (rex.write_host_rgb_pixel group x y).Safe Bounded := by
  unfold write_host_rgb_pixel
  apply Raster.safe_bind (write_pixel_safe h group _ (by omega) (by omega))
  intro _ _
  dsimp only
  split
  · split
    · rename_i hrow
      have hdirection : decide (y < rex.end_y) = decide (y ≤ rex.end_y) := by
        rw [decide_eq_decide]
        omega
      rw [hdirection]
      apply Raster.safe_bind (step_row hy h.end_y hrow)
      intro next_y hnext
      exact (h.with_xsave h.integer_x).with_ystart (start_register_le hnext)
    · exact h.with_xsave h.integer_x
  · split
    · exact h.with_xsave Nat.and_le_right
    · exact h.with_xsave Nat.and_le_right

/-- The lanes of a host word are read one by one, each where there is room for it. -/
theorem read_lanes_loop_safe (h : Bounded rex) (group : PlaneGroup) {rectangle x_ascending : Bool}
    {remaining lane x y : Nat} {latch : U32} (hx : x ≤ 0xfff) (hy : y ≤ 0xfff)
    (hfit : lanes_fit rectangle false (!(rectangle && !x_ascending)) remaining x rex.end_x) :
    (rex.read_lanes_loop group rectangle x_ascending (y ≤ rex.end_y) remaining lane latch x y).Safe
      fun after => after.2.1 ≤ 0xfff ∧ after.2.2 ≤ 0xfff := by
  induction remaining generalizing lane latch x with
  | zero => exact ⟨hx, hy⟩
  | succ remaining ih =>
    unfold read_lanes_loop
    apply Raster.safe_bind (read_pixel_safe h group (by omega) (by omega))
    intro pixel _
    dsimp only
    split
    · split
      · rename_i hrow
        exact Raster.safe_bind (step_row hy h.end_y hrow) fun _ hnext => ⟨h.integer_x, hnext⟩
      · exact ⟨h.integer_x, hy⟩
    · rename_i hrectangle
      refine Raster.safe_bind (lane_step hx h.end_x hfit ?_ ?_) fun _ hnext => ih hnext.1 hnext.2
      · intro hguided hstop
        cases rectangle <;> simp_all
      · intro _ hstop
        cases hstop

/-- Where a command starts on its row. -/
def start_x (rex : Rex1) : Nat := if rex.next.has CMD_XYCONTINUE then rex.next.xsave else rex.integer_x

theorem Bounded.start_x (h : Bounded rex) : rex.start_x ≤ 0xfff := by
  unfold Rex1.start_x
  split
  · exact h.next.xsave
  · exact h.integer_x

/-- A pixel read finds room for the four lanes of its word. -/
def read_fits (rex : Rex1) : Prop :=
  lanes_fit rex.blocks false (!(rex.blocks && !decide (rex.integer_x ≤ rex.end_x))) PACKED_PIXELS rex.start_x rex.end_x

theorem read_packed_pixels_safe (h : Bounded rex) (hfits : rex.read_fits) : rex.read_packed_pixels.Safe Bounded := by
  unfold read_packed_pixels
  apply Raster.safe_bind (read_lanes_loop_safe h _ h.start_x h.integer_y hfits)
  intro after hafter
  obtain ⟨latch, x, y⟩ := after
  exact ((h.with_rwaux1 latch).with_xsave hafter.1).with_ystart (start_register_le hafter.2)

/-- A drawing command finds room for what it draws from its start. -/
def draw_fits (start_x y : Nat) (rex : Rex1) : Prop :=
  if rex.next.shares CMD_COLORAUX = true then
    rex.next.has CMD_RGBMODE = false → rex.tiled = false →
      lanes_fit rex.blocks (rex.next.has CMD_STOPONX) (rex.integer_x ≤ rex.end_x) PACKED_PIXELS start_x rex.end_x
  else if rex.next.has CMD_ENZPATTERN = true then rex.pattern_fits start_x y
  else
    let stipple := CMD_ENLSPATTERN ||| CMD_QUADMODE ||| CMD_STOPONX
    rex.next.command &&& stipple = stipple → rex.next.command &&& stipple_rows = stipple_rows → row_fits y rex.end_y

/-- Every kind of drawing command, from where it starts. -/
theorem draw_from_safe (h : Bounded rex) (group : PlaneGroup) {start_x y : Nat} (hx : start_x ≤ 0xfff) (hy : y ≤ 0xfff)
    (hfits : rex.draw_fits start_x y) : (rex.draw_from group start_x y).Safe Bounded := by
  unfold draw_fits at hfits
  unfold draw_from
  dsimp only at hfits ⊢
  split
  · rename_i hcoloraux
    rw [if_pos hcoloraux] at hfits
    split
    · exact write_host_rgb_pixel_safe h group hx hy
    · rename_i hrgbmode
      exact write_packed_pixels_safe h group hx hy (hfits (Bool.eq_false_iff.mpr hrgbmode))
  · rename_i hcoloraux
    rw [if_neg hcoloraux] at hfits
    split
    · rename_i hzpattern
      rw [if_pos hzpattern] at hfits
      exact draw_pattern_safe h group hx hy hfits
    · rename_i hzpattern
      rw [if_neg hzpattern] at hfits
      split
      · exact Raster.safe_bind (draw_line_safe h group true _) fun _ _ => h
      · split
        · exact Raster.safe_bind (draw_line_safe h group false _) fun _ _ => h
        · split
          · rename_i hstipple
            exact draw_line_stipple_safe h group hx hy (hfits hstipple)
          · split
            · exact Raster.safe_bind (draw_rectangle_safe h group hx hy h.end_x hy) fun _ _ => h
            · split
              · exact Raster.safe_bind (draw_rectangle_safe h group hx hy h.end_x h.end_y) fun _ _ => h
              · exact Raster.safe_bind (write_pixel_safe h group _ (by omega) (by omega)) fun _ _ => h

/-- A drawing command that finds room leaves its coordinates in range. -/
theorem draw_safe (h : Bounded rex) (hfits : rex.draw_fits rex.start_x rex.integer_y) : rex.draw.Safe Bounded := by
  unfold draw
  dsimp only
  unfold start_x at hfits
  split
  · rename_i hcontinue
    rw [if_pos hcontinue] at hfits
    exact draw_from_safe h _ h.next.xsave h.integer_y hfits
  · rename_i hcontinue
    rw [if_neg hcontinue] at hfits
    exact draw_from_safe (h.with_xsave h.integer_x) _ h.integer_x h.integer_y hfits

/-- The command that the registers hold keeps its coordinates in range. -/
def fits (rex : Rex1) : Prop :=
  match (rex.next.command &&& OPCODE_MASK).toNat with
  | 1 => rex.draw_fits rex.start_x rex.integer_y
  | 3 => rex.read_fits
  | _ => True

/-- What one command does: nothing overflows, and the coordinates stay in range. -/
theorem execute_safe (h : Bounded rex) (hfits : rex.fits) : rex.execute.Safe Bounded := by
  have hlatch : ∀ after : Rex1, Bounded after → Bounded after.latch_next_context := fun after hafter =>
    ⟨hafter.next, hafter.next, hafter.xendf, hafter.yendf, hafter.xywin⟩
  unfold fits at hfits
  unfold execute
  dsimp only
  split
  · rename_i hopcode
    rw [hopcode] at hfits
    exact Raster.safe_bind (draw_safe h hfits) hlatch
  · rename_i hopcode
    rw [hopcode] at hfits
    exact Raster.safe_bind (read_packed_pixels_safe h hfits) hlatch
  · exact hlatch rex h

end Rex1

end se_device.lg1.rex1
