import SgiEmu.Device.Lg1.Rectangle.Drawn

open se_core se_device.lg1.vram

namespace se_device.lg1.vram.Raster

/-- Programs one after another. -/
def all : List (Raster Unit) → Raster Unit
  | [] => .done ()
  | first :: rest => do
    first
    all rest

end se_device.lg1.vram.Raster

namespace se_device.lg1.rex1

/-! ## Slopes -/

theorem slope_bits (word : U32) : (word &&& 0x1ffff).toNat = word.toNat % 0x20000 :=
  Nat.and_two_pow_sub_one_eq_mod word.toNat 17

theorem signed_minor_slope_eq (word : U32) :
    signed_minor_slope word =
      if word.toNat % 0x20000 < 0x10000 then ((word.toNat % 0x20000 : Nat) : Int) else (word.toNat % 0x20000 : Nat) - 0x20000 := by
  have hbits := slope_bits word
  have htest : (word &&& 0x1ffff &&& 0x10000 = 0) ↔ word.toNat % 0x20000 < 0x10000 := by
    have hpow : word &&& 0x1ffff &&& 0x10000 = if (word &&& 0x1ffff).getLsbD 16 then 0x10000 else 0 :=
      BitVec.and_twoPow (word &&& 0x1ffff) 16
    have hbit : (word &&& 0x1ffff).getLsbD 16 = decide ((word &&& 0x1ffff).toNat / 0x10000 % 2 = 1) :=
      Nat.testBit_eq_decide_div_mod_eq
    rw [hpow, hbit, hbits]
    by_cases hset : word.toNat % 0x20000 / 0x10000 % 2 = 1
    · simp only [hset, decide_true, if_true]
      refine iff_of_false (by decide) ?_
      omega
    · simp only [hset, decide_false, Bool.false_eq_true, if_false]
      refine iff_of_true trivial ?_
      omega
  unfold signed_minor_slope
  dsimp only
  rw [hbits]
  by_cases hpositive : word.toNat % 0x20000 < 0x10000
  · rw [if_pos (htest.mpr hpositive), if_pos hpositive]
  · rw [if_neg fun h => hpositive (htest.mp h), if_neg hpositive]

/-- A slope is written as a sign and a magnitude of sixteen bits. -/
theorem signed_minor_slope_write (value : U32) :
    signed_minor_slope (minor_slope value) =
      if value.getLsbD 31 then -((value &&& 0xffff).toNat : Int) else signed_minor_slope value := by
  have hmagnitude : (value &&& 0xffff).toNat < 0x10000 := by
    have hle : (value &&& 0xffff).toNat ≤ 0xffff := Nat.and_le_right
    omega
  have hsign : value &&& 0x8001ffff &&& 0x80000000 = if value.getLsbD 31 then 0x80000000 else 0 := by
    have hmask : (0x8001ffff &&& 0x80000000 : U32) = 0x80000000 := rfl
    rw [BitVec.and_assoc, hmask]
    exact BitVec.and_twoPow value 31
  cases hnegative : value.getLsbD 31 with
  | true =>
    rw [hnegative, if_pos rfl] at hsign
    have hslope : value &&& 0x8001ffff &&& 0xfffeffff = 0x80000000 ||| (value &&& 0xffff) := by
      have hkept : value &&& 0x80000000 = if value.getLsbD 31 then 0x80000000 else 0 := BitVec.and_twoPow value 31
      have hmask : (0x8001ffff &&& 0xfffeffff : U32) = 0x80000000 ||| 0xffff := rfl
      rw [BitVec.and_assoc, hmask, BitVec.and_or_distrib_left, hkept, hnegative, if_pos rfl]
    have hnumber : (value &&& 0x8001ffff &&& 0xfffeffff).toNat = 0x80000000 + (value &&& 0xffff).toNat := by
      rw [hslope]
      have hbelow : (value &&& 0xffff).toNat < 2 ^ 31 := Nat.lt_trans hmagnitude (by decide)
      exact (Nat.two_pow_add_eq_or_of_lt hbelow 1).symm
    have hstored : (minor_slope value).toNat = (0x100000000 - (0x80000000 + (value &&& 0xffff).toNat)) % 0x20000 := by
      unfold minor_slope
      dsimp only
      have hnegated : ∀ word : U32, ~~~word + 1 = -word := fun word => (BitVec.neg_eq_not_add word).symm
      rw [hsign, if_pos (by decide), slope_bits, hnegated, BitVec.toNat_neg, hnumber]
      omega
    rw [signed_minor_slope_eq, hstored, if_pos rfl]
    split <;> omega
  | false =>
    rw [hnegative, if_neg Bool.false_ne_true] at hsign
    have hstored : (minor_slope value).toNat % 0x20000 = value.toNat % 0x20000 := by
      have hmask : (0x8001ffff &&& 0x1ffff : U32) = 0x1ffff := rfl
      unfold minor_slope
      dsimp only
      rw [hsign, if_neg (by decide), BitVec.and_assoc, hmask, slope_bits, Nat.mod_mod]
    rw [signed_minor_slope_eq, signed_minor_slope_eq, hstored]
    rfl

/-! ## Coordinates of a vector -/

/-- One more than the largest 12.15 coordinate. -/
def COORDINATE_SPAN : Nat := FULL_COORDINATE_MASK + 1

namespace Rex1

variable {rex : Rex1}

/-- A step is taken in the range of the coordinates. -/
theorem step_coordinate_eq (coordinate : Nat) (step : Int) :
    step_coordinate coordinate step = (((coordinate : Int) + step) % COORDINATE_SPAN).toNat := by
  have hspan : (COORDINATE_SPAN : Int) = 0x8000000 := rfl
  have hmask : ∀ value : Nat, value &&& FULL_COORDINATE_MASK = value % 0x8000000 :=
    fun value => Nat.and_two_pow_sub_one_eq_mod value 27
  unfold step_coordinate
  rw [hmask, hspan]
  omega

/-- The first major coordinate of a vector. -/
def start_major (x_major : Bool) (rex : Rex1) : Nat := if x_major then rex.integer_x else rex.integer_y

/-- The coordinates of a pixel of a vector: the major one that many from the start,
and the minor one that many slopes from it, in the range of the coordinates. -/
def vector_point (x_major : Bool) (end_major pixel : Nat) (rex : Rex1) : Nat × Nat :=
  let major := Block.along (rex.start_major x_major) end_major pixel
  let start_minor := if x_major then rex.next.ystart else rex.next.xstart
  let minor := (((start_minor : Int) + pixel * signed_minor_slope rex.next.minorslope) % COORDINATE_SPAN).toNat / COORDINATE_UNIT
  if x_major then (major, minor) else (minor, major)

/-- The pattern shows a pixel in the foreground: bit `31 - (pixel / repeat) % length`. -/
def pattern_shows (pixel : Nat) (rex : Rex1) : Bool :=
  let pattern_length := (rex.next.lsmode >>> 16 &&& 0x0f).toNat + 17
  let pattern_repeat := max (rex.next.lsmode >>> 8 &&& 0xff).toNat 1
  !rex.next.has CMD_ENLSPATTERN || rex.next.lspattern.getLsbD (31 - pixel / pattern_repeat % pattern_length)

/-- The pixel of a vector: foreground, background or nothing. -/
def vector_pixel (group : PlaneGroup) (x_major : Bool) (end_major : Nat) (rex : Rex1) (pixel : Nat) : Raster Unit :=
  let point := rex.vector_point x_major end_major pixel
  rex.pattern_pixel group (rex.pattern_shows pixel) (rex.next.shares CMD_LSOPAQUE) pixel point.1 point.2

/-- One turn of the loop: a pixel, and the rest unless it is the last. -/
theorem draw_line_turn (group : PlaneGroup) (x_major : Bool) (end_major : Nat) (major_step : Int) (budget pixel x y : Nat)
    (rex : Rex1) :
    rex.draw_line_loop group x_major end_major major_step (budget + 1) pixel x y =
      rex.pattern_pixel group (rex.pattern_shows pixel) (rex.next.shares CMD_LSOPAQUE) pixel (x / COORDINATE_UNIT)
          (y / COORDINATE_UNIT) >>= fun _ =>
        if (if x_major then x / COORDINATE_UNIT else y / COORDINATE_UNIT) = end_major then .done ()
        else
          rex.draw_line_loop group x_major end_major major_step budget (pixel + 1)
            (step_coordinate x (if x_major then major_step else signed_minor_slope rex.next.minorslope))
            (step_coordinate y (if x_major then signed_minor_slope rex.next.minorslope else major_step)) := by
  have hshows : (!rex.next.has CMD_ENLSPATTERN || rex.next.lspattern.getLsbD
      (31 - pixel / max (rex.next.lsmode >>> 8 &&& 0xff).toNat 1 % ((rex.next.lsmode >>> 16 &&& 0x0f).toNat + 17))) =
        rex.pattern_shows pixel := rfl
  conv_lhs => unfold draw_line_loop
  unfold pattern_pixel
  dsimp only
  rw [hshows]
  cases rex.pattern_shows pixel with
  | true => rfl
  | false =>
    cases rex.next.shares CMD_LSOPAQUE with
    | true => rfl
    | false => rfl

/-! ## Coordinates that address the same pixel -/

theorem cell_congr (xywin : U32) {x y other_x other_y : Nat} (hx : x % 0x1000 = other_x % 0x1000)
    (hy : y % 0x1000 = other_y % 0x1000) : cell xywin x y = cell xywin other_x other_y := by
  have hmask : ∀ value : Nat, value &&& FRAMEBUFFER_COORDINATE_MASK = value % 0x1000 :=
    fun value => Nat.and_two_pow_sub_one_eq_mod value 12
  unfold cell
  simp only [hmask]
  rw [Nat.add_mod x, Nat.add_mod y, hx, hy, ← Nat.add_mod, ← Nat.add_mod]

theorem write_pixel_congr (h : Held rex) (group : PlaneGroup) (source : U8) {x y other_x other_y : Nat} (hx : x ≤ 0xffffff)
    (hy : y ≤ 0xffffff) (hother_x : other_x ≤ 0xffffff) (hother_y : other_y ≤ 0xffffff)
    (hcolumn : x % 0x1000 = other_x % 0x1000) (hrow : y % 0x1000 = other_y % 0x1000) :
    rex.write_pixel group x y source = rex.write_pixel group other_x other_y source := by
  rw [write_pixel_eq h group source hx hy, write_pixel_eq h group source hother_x hother_y,
    cell_congr rex.config.xywin hcolumn hrow]

theorem source_color_congr (shade_step : Nat) {x y other_x other_y : Nat} (hcolumn : x % 0x1000 = other_x % 0x1000)
    (hrow : y % 0x1000 = other_y % 0x1000) :
    rex.source_color shade_step x y = rex.source_color shade_step other_x other_y := by
  have hdither_x : x % 4 = other_x % 4 := by omega
  have hdither_y : y % 4 = other_y % 4 := by omega
  unfold source_color rgb_pixel
  simp only [hdither_x, hdither_y]

/-- The drawing address generators have twelve bits. -/
theorem pattern_pixel_congr (h : Held rex) (group : PlaneGroup) (shown behind : Bool) (shade_step : Nat)
    {x y other_x other_y : Nat} (hx : x ≤ 0xffffff) (hy : y ≤ 0xffffff) (hother_x : other_x ≤ 0xffffff)
    (hother_y : other_y ≤ 0xffffff) (hcolumn : x % 0x1000 = other_x % 0x1000) (hrow : y % 0x1000 = other_y % 0x1000) :
    rex.pattern_pixel group shown behind shade_step x y = rex.pattern_pixel group shown behind shade_step other_x other_y := by
  unfold pattern_pixel
  rw [source_color_congr shade_step hcolumn hrow, write_pixel_congr h group _ hx hy hother_x hother_y hcolumn hrow,
    write_pixel_congr h group _ hx hy hother_x hother_y hcolumn hrow]

/-! ## The pixels of a vector -/

/-- Where the loop is before a pixel: the major register has taken that many whole
steps, and the minor register that many slopes, but for what leaves its range. -/
structure AtPixel (x_major : Bool) (end_major pixel x y : Nat) (rex : Rex1) : Prop where
  major : (if x_major then x else y) / COORDINATE_UNIT = Block.along (rex.start_major x_major) end_major pixel
  minor : ((if x_major then y else x : Nat) : Int) % COORDINATE_SPAN =
    (((if x_major then rex.next.ystart else rex.next.xstart : Nat) : Int) + pixel * signed_minor_slope rex.next.minorslope) %
      COORDINATE_SPAN
  columns : x ≤ U32_MAX
  rows : y ≤ U32_MAX

/-- A whole step of the major register inside the range of the coordinates. -/
theorem step_major {first last pixel register : Nat} (hfirst : first ≤ 0x1000) (hlast : last ≤ 0xfff)
    (hregister : register / COORDINATE_UNIT = Block.along first last pixel) (hleft : pixel + 1 < Block.extent first last) :
    step_coordinate register (if first ≤ last then (COORDINATE_UNIT : Int) else -(COORDINATE_UNIT : Int)) / COORDINATE_UNIT =
      Block.along first last (pixel + 1) := by
  have hspan : (COORDINATE_SPAN : Int) = 0x8000000 := rfl
  have hunit : (COORDINATE_UNIT : Nat) = 0x8000 := rfl
  rw [step_coordinate_eq, hspan]
  unfold Block.extent at hleft
  unfold Block.along at hregister ⊢
  rw [hunit] at hregister ⊢
  split
  · case isTrue hascending =>
    rw [if_pos hascending] at hregister
    omega
  · case isFalse hdescending =>
    rw [if_neg hdescending] at hregister
    omega

/-- A vector starts at a coordinate, or in the row behind the last one, which a
continued pattern may leave to it. -/
structure Startable (rex : Rex1) : Prop where
  xstart : rex.next.xstart ≤ FULL_COORDINATE_MASK
  ystart : rex.next.ystart ≤ COORDINATE_SPAN

theorem Startable.start_major (h : Startable rex) (x_major : Bool) : rex.start_major x_major ≤ 0x1000 := by
  obtain ⟨hx, hy⟩ := h
  have hmask : FULL_COORDINATE_MASK = 0x7ffffff := rfl
  have hspan : COORDINATE_SPAN = 0x8000000 := rfl
  cases x_major with
  | true =>
    change rex.next.xstart / 0x8000 ≤ 0x1000
    omega
  | false =>
    change rex.next.ystart / 0x8000 ≤ 0x1000
    omega

theorem Startable.at_start (h : Startable rex) (x_major : Bool) (end_major : Nat) :
    AtPixel x_major end_major 0 rex.next.xstart rex.next.ystart rex := by
  obtain ⟨hx, hy⟩ := h
  have hmask : FULL_COORDINATE_MASK = 0x7ffffff := rfl
  have hspan : COORDINATE_SPAN = 0x8000000 := rfl
  have hmax : U32_MAX = 0xffffffff := rfl
  have halong : ∀ first, Block.along first end_major 0 = first := by
    intro first
    unfold Block.along
    split <;> rfl
  refine ⟨?_, ?_, by omega, by omega⟩
  · rw [halong]
    cases x_major <;> rfl
  · rw [Nat.cast_zero, zero_mul, add_zero]

variable {x_major : Bool} {end_major pixel x y : Nat}

/-- What one turn of the loop makes of the registers. -/
theorem AtPixel.step (h : AtPixel x_major end_major pixel x y rex) (hstart : rex.start_major x_major ≤ 0x1000)
    (hend : end_major ≤ 0xfff) (hleft : pixel + 1 < Block.extent (rex.start_major x_major) end_major) :
    let major_step : Int := if rex.start_major x_major ≤ end_major then COORDINATE_UNIT else -COORDINATE_UNIT
    AtPixel x_major end_major (pixel + 1)
      (step_coordinate x (if x_major then major_step else signed_minor_slope rex.next.minorslope))
      (step_coordinate y (if x_major then signed_minor_slope rex.next.minorslope else major_step)) rex := by
  intro major_step
  have hmax : FULL_COORDINATE_MASK ≤ U32_MAX := by decide
  have hwithin : ∀ coordinate step, step_coordinate coordinate step ≤ U32_MAX :=
    fun coordinate step => Nat.le_trans (step_coordinate_le coordinate step) hmax
  have hminor : ∀ (register start : Nat),
      (register : Int) % COORDINATE_SPAN =
          ((start : Int) + pixel * signed_minor_slope rex.next.minorslope) % COORDINATE_SPAN →
        ((step_coordinate register (signed_minor_slope rex.next.minorslope) : Nat) : Int) % COORDINATE_SPAN =
          ((start : Int) + (pixel + 1 : Nat) * signed_minor_slope rex.next.minorslope) % COORDINATE_SPAN := by
    intro register start hregister
    have hspan : (0 : Int) < COORDINATE_SPAN := by decide
    rw [step_coordinate_eq, Int.toNat_of_nonneg (Int.emod_nonneg _ hspan.ne'), Int.emod_emod_of_dvd _ dvd_rfl,
      Int.add_emod, hregister, ← Int.add_emod, Nat.cast_succ, add_mul, one_mul, add_assoc]
  obtain ⟨hmajor, hregister, -, -⟩ := h
  cases x_major with
  | true => exact ⟨step_major hstart hend hmajor hleft, hminor y _ hregister, hwithin _ _, hwithin _ _⟩
  | false => exact ⟨step_major hstart hend hmajor hleft, hminor x _ hregister, hwithin _ _, hwithin _ _⟩

theorem integer_part_le {register : Nat} (h : register ≤ U32_MAX) : register / COORDINATE_UNIT ≤ 0xffffff := by
  have hmax : U32_MAX = 0xffffffff := rfl
  unfold COORDINATE_UNIT
  omega

/-- A register out of range addresses the pixel that it does in it. -/
theorem integer_part_wrapped (register : Nat) :
    ((register : Int) % COORDINATE_SPAN).toNat / COORDINATE_UNIT = register / COORDINATE_UNIT % 0x1000 := by
  have hspan : (COORDINATE_SPAN : Int) = 0x8000000 := rfl
  rw [hspan]
  unfold COORDINATE_UNIT
  omega

/-- The loop draws the pixel that it is at. -/
theorem AtPixel.draws (h : AtPixel x_major end_major pixel x y rex) (hheld : Held rex) (group : PlaneGroup) :
    rex.pattern_pixel group (rex.pattern_shows pixel) (rex.next.shares CMD_LSOPAQUE) pixel (x / COORDINATE_UNIT)
        (y / COORDINATE_UNIT) = rex.vector_pixel group x_major end_major pixel := by
  obtain ⟨hmajor, hminor, hx, hy⟩ := h
  have hcolumn := integer_part_le hx
  have hrow := integer_part_le hy
  have hwrapped : ∀ register, register / COORDINATE_UNIT % 0x1000 ≤ 0xffffff := by
    intro register
    have hlt := Nat.mod_lt (register / COORDINATE_UNIT) (show 0 < 0x1000 by decide)
    omega
  unfold vector_pixel
  cases x_major with
  | true =>
    have hpoint : rex.vector_point true end_major pixel =
        (x / COORDINATE_UNIT, ((y : Int) % COORDINATE_SPAN).toNat / COORDINATE_UNIT) :=
      congrArg₂ (fun major minor => (major, Int.toNat minor / COORDINATE_UNIT)) hmajor.symm hminor.symm
    rw [hpoint, integer_part_wrapped]
    exact pattern_pixel_congr hheld group _ _ pixel hcolumn hrow hcolumn (hwrapped y) rfl (Nat.mod_mod _ _).symm
  | false =>
    have hpoint : rex.vector_point false end_major pixel =
        (((x : Int) % COORDINATE_SPAN).toNat / COORDINATE_UNIT, y / COORDINATE_UNIT) :=
      congrArg₂ (fun major minor => (Int.toNat minor / COORDINATE_UNIT, major)) hmajor.symm hminor.symm
    rw [hpoint, integer_part_wrapped]
    exact pattern_pixel_congr hheld group _ _ pixel hcolumn hrow (hwrapped x) hrow (Nat.mod_mod _ _).symm rfl

/-- The loop ends at the last pixel. -/
theorem AtPixel.ends (h : AtPixel x_major end_major pixel x y rex)
    (hpixel : pixel < Block.extent (rex.start_major x_major) end_major) :
    (if x_major then x / COORDINATE_UNIT else y / COORDINATE_UNIT) = end_major ↔
      pixel + 1 = Block.extent (rex.start_major x_major) end_major := by
  have hmajor := h.major
  rw [apply_ite (· / COORDINATE_UNIT)] at hmajor
  rw [hmajor]
  unfold Block.extent at hpixel ⊢
  unfold Block.along
  split <;> omega

/-- The loop from a pixel on draws that pixel and all that follow. -/
theorem draw_line_loop_eq (hheld : Held rex) (hstart : rex.start_major x_major ≤ 0x1000) (hend : end_major ≤ 0xfff)
    (group : PlaneGroup) {left budget : Nat} (h : AtPixel x_major end_major pixel x y rex)
    (hleft : pixel + (left + 1) = Block.extent (rex.start_major x_major) end_major) (hbudget : left < budget) :
    let major_step : Int := if rex.start_major x_major ≤ end_major then COORDINATE_UNIT else -COORDINATE_UNIT
    rex.draw_line_loop group x_major end_major major_step budget pixel x y =
      Raster.all ((List.range' pixel (left + 1)).map (rex.vector_pixel group x_major end_major)) := by
  intro major_step
  induction left generalizing budget pixel x y with
  | zero =>
    cases budget with
    | zero => cases hbudget
    | succ budget =>
      have hends := (h.ends (by omega)).mpr hleft
      rw [draw_line_turn, h.draws hheld, if_pos hends]
      rfl
  | succ left ih =>
    cases budget with
    | zero => cases hbudget
    | succ budget =>
      have hgoes_on : ¬(if x_major then x / COORDINATE_UNIT else y / COORDINATE_UNIT) = end_major := by
        rw [h.ends (by omega)]
        omega
      have hrest := ih (h.step hstart hend (by omega)) (by omega) (Nat.lt_of_succ_lt_succ hbudget)
      rw [draw_line_turn, h.draws hheld, if_neg hgoes_on, hrest]
      rfl

/-- A vector draws one pixel for each major coordinate from its start to its end. -/
theorem draw_line_eq (hheld : Held rex) (hstart : Startable rex) (group : PlaneGroup) (x_major : Bool) {end_major : Nat}
    (hend : end_major ≤ 0xfff) :
    rex.draw_line group x_major end_major =
      Raster.all ((List.range (Block.extent (rex.start_major x_major) end_major)).map
        (rex.vector_pixel group x_major end_major)) := by
  have hmajor := hstart.start_major x_major
  obtain ⟨left, hleft⟩ : ∃ left, 0 + (left + 1) = Block.extent (rex.start_major x_major) end_major := by
    have hpositive := Block.extent_pos (rex.start_major x_major) end_major
    exact ⟨Block.extent (rex.start_major x_major) end_major - 1, by omega⟩
  have hbudget : left < MAX_COMMAND_PIXELS := by
    have hmax : MAX_COMMAND_PIXELS = 0x200000 := rfl
    unfold Block.extent at hleft
    omega
  have hloop := draw_line_loop_eq hheld hmajor hend group (hstart.at_start x_major end_major) hleft hbudget
  rw [← hleft, Nat.zero_add, List.range_eq_range']
  exact hloop

/-! ## The pixels of a stippled span -/

/-- The pixel of a stippled span, with bit `31 - pixel % length` of the pattern. -/
def stipple_pixel (group : PlaneGroup) (start_x y : Nat) (rex : Rex1) (pixel : Nat) : Raster Unit :=
  let length := (rex.next.lsmode >>> 16 &&& 0x0f).toNat + 17
  rex.pattern_pixel group (rex.next.lspattern.getLsbD (31 - pixel % length)) (rex.next.shares CMD_LSOPAQUE) pixel
    (Block.along start_x rex.end_x pixel) y

theorem along_eq_last {first last pixel : Nat} (h : pixel < Block.extent first last) :
    Block.along first last pixel = last ↔ pixel + 1 = Block.extent first last := by
  unfold Block.extent at h ⊢
  unfold Block.along
  split <;> omega

theorem coordinate_after_along {first last pixel : Nat} (hlast : last ≤ U32_MAX) (h : pixel + 1 < Block.extent first last) :
    coordinate_after (first ≤ last) (Block.along first last pixel) = .done (Block.along first last (pixel + 1)) := by
  unfold Block.extent at h
  unfold Block.along coordinate_after coordinate_sum coordinate_before
  by_cases hascending : first ≤ last
  · simp only [hascending, decide_true, if_true]
    rw [if_pos (by omega), Nat.add_assoc]
  · simp only [hascending, decide_false, Bool.false_eq_true, if_false]
    rw [if_pos (by omega), Nat.sub_sub]

theorem draw_line_stipple_loop_eq (hend : rex.end_x ≤ U32_MAX) (group : PlaneGroup) (start_x y : Nat) {pixel left budget : Nat}
    (hleft : pixel + (left + 1) = Block.extent start_x rex.end_x) (hbudget : left < budget) :
    rex.draw_line_stipple_loop group (start_x ≤ rex.end_x) y budget pixel (Block.along start_x rex.end_x pixel) =
      Raster.all ((List.range' pixel (left + 1)).map (rex.stipple_pixel group start_x y)) := by
  induction left generalizing pixel budget with
  | zero =>
    cases budget with
    | zero => cases hbudget
    | succ budget =>
      have hlast := (along_eq_last (by omega)).mpr hleft
      unfold draw_line_stipple_loop
      rw [if_pos hlast]
      rfl
  | succ left ih =>
    cases budget with
    | zero => cases hbudget
    | succ budget =>
      have hgoes_on : ¬Block.along start_x rex.end_x pixel = rex.end_x := by
        rw [along_eq_last (by omega)]
        omega
      have hrest := @ih (pixel + 1) budget (by omega) (Nat.lt_of_succ_lt_succ hbudget)
      unfold draw_line_stipple_loop
      rw [if_neg hgoes_on, coordinate_after_along hend (by omega)]
      exact congrArg (fun rest => rex.stipple_pixel group start_x y pixel >>= fun _ => rest) hrest

/-- A span of no more pixels than a command may touch is drawn whole. -/
theorem draw_line_stipple_eq (hend : rex.end_x ≤ U32_MAX) (group : PlaneGroup) (start_x y : Nat)
    (hspan : Block.extent start_x rex.end_x ≤ MAX_COMMAND_PIXELS) :
    rex.draw_line_stipple_loop group (start_x ≤ rex.end_x) y MAX_COMMAND_PIXELS 0 start_x =
      Raster.all ((List.range (Block.extent start_x rex.end_x)).map (rex.stipple_pixel group start_x y)) := by
  obtain ⟨left, hleft⟩ : ∃ left, 0 + (left + 1) = Block.extent start_x rex.end_x := by
    have hpositive := Block.extent_pos start_x rex.end_x
    exact ⟨Block.extent start_x rex.end_x - 1, by omega⟩
  have hloop := draw_line_stipple_loop_eq hend group start_x y hleft (by omega : left < MAX_COMMAND_PIXELS)
  have hfirst : Block.along start_x rex.end_x 0 = start_x := by
    unfold Block.along
    split <;> rfl
  rw [hfirst] at hloop
  rw [← hleft, Nat.zero_add, List.range_eq_range']
  exact hloop

/-! ## Commands -/

theorem Startable.started (h : Startable rex) : Startable rex.started := by
  unfold Rex1.started
  split
  · exact h
  · exact ⟨h.xstart, h.ystart⟩

theorem Held.started (h : Held rex) : Held rex.started := by
  unfold Rex1.started
  split
  · exact h
  · exact h.with_xsave _

/-- A drawing command that takes its pixels neither from the host nor from the Z pattern. -/
def Colored (rex : Rex1) : Prop :=
  (rex.next.command &&& OPCODE_MASK).toNat = 1 ∧ rex.next.shares CMD_COLORAUX = false ∧ rex.next.has CMD_ENZPATTERN = false

instance colored_decidable (rex : Rex1) : Decidable rex.Colored := inferInstanceAs (Decidable (_ ∧ _))

/-- Whether a vector command is X-major; none for other commands. -/
def vector (rex : Rex1) : Option Bool :=
  let line_mode := rex.next.command &&& (CMD_XMAJOR ||| CMD_QUADMODE ||| CMD_STOPONX ||| CMD_STOPONY)
  if rex.Colored then
    if line_mode = CMD_XMAJOR ||| CMD_STOPONX then some true else if line_mode = CMD_STOPONY then some false else none
  else none

/-- The command draws a span that the line stipple selects. -/
def StippledSpan (rex : Rex1) : Prop :=
  let stipple := CMD_ENLSPATTERN ||| CMD_QUADMODE ||| CMD_STOPONX
  rex.Colored ∧ rex.vector = none ∧ rex.next.command &&& stipple = stipple

/-- Where the next span of a stippled rectangle starts. -/
def after_span (y : Nat) (rex : Rex1) : Rex1 :=
  if rex.next.command &&& stipple_rows = stipple_rows then
    { rex with next := { rex.next with ystart := next_row y rex.end_y, xsave := rex.integer_x } }
  else rex

/-- The coordinate that a vector ends at. -/
def vector_end (x_major : Bool) (rex : Rex1) : Nat := if x_major then rex.end_x else rex.end_y

theorem execute_draw (hopcode : (rex.next.command &&& OPCODE_MASK).toNat = 1) :
    rex.execute = (rex.started.draw_from (.from_aux2 rex.next.aux2) rex.start_x rex.integer_y >>= fun drawn =>
      .done drawn.latch_next_context) := by
  have hexecute : rex.execute = rex.draw >>= fun drawn => .done drawn.latch_next_context := by
    unfold execute
    rw [hopcode]
    rfl
  rw [hexecute]
  unfold draw started start_x
  cases rex.next.has CMD_XYCONTINUE <;> rfl

theorem draw_from_vector {group : PlaneGroup} {start_x start_y : Nat} (h : rex.vector = some x_major) :
    rex.draw_from group start_x start_y = (rex.draw_line group x_major (rex.vector_end x_major) >>= fun _ => .done rex) := by
  unfold vector at h
  dsimp only at h
  split at h
  · case isTrue hcolored =>
    obtain ⟨-, hcoloraux, hpattern⟩ := hcolored
    unfold draw_from
    dsimp only
    rw [hcoloraux, if_neg Bool.false_ne_true, hpattern, if_neg Bool.false_ne_true]
    split at h
    · case isTrue hmajor =>
      cases h
      rw [if_pos hmajor]
      rfl
    · case isFalse hmajor =>
      obtain ⟨hminor, hx_major⟩ := Option.ite_none_right_eq_some.mp h
      cases hx_major
      rw [if_neg hmajor, if_pos hminor]
      rfl
  · cases h

theorem draw_from_stipple {group : PlaneGroup} {start_x start_y : Nat} (h : rex.StippledSpan) :
    rex.draw_from group start_x start_y = rex.draw_line_stipple group start_x start_y := by
  obtain ⟨hcolored, hvector, hstipple⟩ := h
  unfold vector at hvector
  dsimp only at hvector
  rw [if_pos hcolored] at hvector
  obtain ⟨-, hcoloraux, hpattern⟩ := hcolored
  unfold draw_from
  dsimp only
  rw [hcoloraux, if_neg Bool.false_ne_true, hpattern, if_neg Bool.false_ne_true]
  split at hvector
  · cases hvector
  · case isFalse hmajor =>
    rw [if_neg hmajor]
    split at hvector
    · cases hvector
    · case isFalse hminor => rw [if_neg hminor, if_pos hstipple]

/-- A command that starts at its X register leaves the pixels of a vector where they are. -/
theorem started_vector_pixel (group : PlaneGroup) (x_major : Bool) (end_major : Nat) :
    rex.started.vector_pixel group x_major end_major = rex.vector_pixel group x_major end_major := by
  unfold started
  split <;> rfl

theorem started_stipple_pixel (group : PlaneGroup) (start_x y : Nat) :
    rex.started.stipple_pixel group start_x y = rex.stipple_pixel group start_x y := by
  unfold started
  split <;> rfl

theorem started_draw_line (hheld : Held rex) (hstart : Startable rex) (group : PlaneGroup) (x_major : Bool) :
    rex.started.draw_line group x_major (rex.vector_end x_major) =
      Raster.all ((List.range (Block.extent (rex.start_major x_major) (rex.vector_end x_major))).map
        (rex.vector_pixel group x_major (rex.vector_end x_major))) := by
  have hend : rex.vector_end x_major ≤ 0xfff := by
    cases x_major with
    | true => exact hheld.end_x
    | false => exact hheld.end_y
  have hmajor : rex.started.start_major x_major = rex.start_major x_major := by
    unfold started
    split <;> rfl
  rw [draw_line_eq hheld.started hstart.started group x_major hend, hmajor, started_vector_pixel]

theorem started_draw_line_stipple (hheld : Held rex) (group : PlaneGroup) {start_x : Nat} (y : Nat)
    (hspan : Block.extent start_x rex.end_x ≤ MAX_COMMAND_PIXELS) :
    rex.started.draw_line_stipple group start_x y =
      (Raster.all ((List.range (Block.extent start_x rex.end_x)).map (rex.stipple_pixel group start_x y)) >>= fun _ =>
        .done (rex.started.after_span y)) := by
  have hmax : 0xfff ≤ U32_MAX := by decide
  have hend : rex.started.end_x = rex.end_x := by
    unfold started
    split <;> rfl
  have hloop := @draw_line_stipple_eq rex.started (hend ▸ Nat.le_trans hheld.end_x hmax) group start_x y (hend.symm ▸ hspan)
  unfold draw_line_stipple
  rw [hloop, hend, started_stipple_pixel]
  congr 1
  funext _
  exact (apply_ite Raster.done _ _ _).symm

/-- A vector draws one pixel for each major coordinate from its start to its end and
nothing else, and a stippled span one for each of its columns. -/
structure DrawsVectors (rex : Rex1) : Prop where
  vector : ∀ x_major, rex.vector = some x_major →
    rex.execute =
      (Raster.all ((List.range (Block.extent (rex.start_major x_major) (rex.vector_end x_major))).map
        (rex.vector_pixel (.from_aux2 rex.next.aux2) x_major (rex.vector_end x_major))) >>= fun _ =>
          .done rex.started.latch_next_context)
  stipple : rex.StippledSpan → Block.extent rex.start_x rex.end_x ≤ MAX_COMMAND_PIXELS →
    rex.execute =
      (Raster.all ((List.range (Block.extent rex.start_x rex.end_x)).map
        (rex.stipple_pixel (.from_aux2 rex.next.aux2) rex.start_x rex.integer_y)) >>= fun _ =>
          .done (rex.started.after_span rex.integer_y).latch_next_context)
  slope : ∀ value, signed_minor_slope (minor_slope value) =
    if value.getLsbD 31 then -((value &&& 0xffff).toNat : Int) else signed_minor_slope value

theorem vector_opcode (h : rex.vector = some x_major) : (rex.next.command &&& OPCODE_MASK).toNat = 1 := by
  unfold vector at h
  dsimp only at h
  split at h
  · case isTrue hcolored => exact hcolored.1
  · cases h

theorem started_vector (h : rex.vector = some x_major) : rex.started.vector = some x_major := by
  unfold started
  split <;> exact h

theorem started_stippled_span (h : rex.StippledSpan) : rex.started.StippledSpan := by
  unfold started
  split <;> exact h

theorem vectors_drawn (hheld : Held rex) (hstart : Startable rex) : DrawsVectors rex := by
  refine ⟨?_, ?_, signed_minor_slope_write⟩
  · intro x_major hvector
    have hend : rex.started.vector_end x_major = rex.vector_end x_major := by
      unfold started
      split <;> rfl
    rw [execute_draw (vector_opcode hvector), draw_from_vector (started_vector hvector), hend,
      started_draw_line hheld hstart, Raster.bind_assoc]
    rfl
  · intro hstipple hspan
    rw [execute_draw hstipple.1.1, draw_from_stipple (started_stippled_span hstipple),
      started_draw_line_stipple hheld _ _ hspan, Raster.bind_assoc]
    rfl

/-- A dashed line down to the left, of half a column each row. -/
def dashed_line : Rex1 :=
  { new with next := { new.next with
      command := 1 ||| CMD_STOPONY ||| CMD_ENLSPATTERN, xstart := 5 * COORDINATE_UNIT, yendf := 8 * END_UNIT,
      minorslope := minor_slope 0x80004000, lspattern := 0xf0f0f0f0 } }

theorem vectors_drawn_dashed_line : dashed_line.vector = some false ∧ DrawsVectors dashed_line :=
  ⟨by decide, vectors_drawn ⟨by decide, by decide, by decide, by decide⟩ ⟨by decide, by decide⟩⟩

example : (List.range 9).map (dashed_line.vector_point false 8) =
    [(5, 0), (4, 1), (4, 2), (3, 3), (3, 4), (2, 5), (2, 6), (1, 7), (1, 8)] := by decide

end Rex1

end se_device.lg1.rex1
