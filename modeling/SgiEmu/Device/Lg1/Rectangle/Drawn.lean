import Mathlib.Data.List.Pairwise
import SgiEmu.Device.Lg1.Rectangle

open se_core se_device.lg1.vram Library

namespace se_device.lg1.rex1

namespace Rex1

variable {rex : Rex1} {block : Block}

/-! ## Rectangle commands -/

/-- The row a block ends in: its first one for a span, the end register's for a
rectangle; none for other commands. -/
def last_row (start_y : Nat) (rex : Rex1) : Option Nat :=
  let quad := CMD_BLOCK ||| CMD_QUADMODE ||| CMD_STOPONX ||| CMD_STOPONY
  if rex.next.command &&& quad = CMD_QUADMODE ||| CMD_STOPONX then some start_y
  else if rex.next.command &&& quad = quad then some rex.end_y
  else none

/-- The command draws neither host pixels nor a pattern nor a line. -/
def Plain (rex : Rex1) : Prop :=
  let line_mode := rex.next.command &&& (CMD_XMAJOR ||| CMD_QUADMODE ||| CMD_STOPONX ||| CMD_STOPONY)
  let stipple := CMD_ENLSPATTERN ||| CMD_QUADMODE ||| CMD_STOPONX
  rex.next.shares CMD_COLORAUX = false ∧ rex.next.has CMD_ENZPATTERN = false ∧
    line_mode ≠ CMD_XMAJOR ||| CMD_STOPONX ∧ line_mode ≠ CMD_STOPONY ∧ rex.next.command &&& stipple ≠ stipple

instance plain_decidable (rex : Rex1) : Decidable rex.Plain := inferInstanceAs (Decidable (_ ∧ _))

/-- The block of a rectangle command or of a span command. -/
def rectangle (rex : Rex1) : Option Block :=
  if (rex.next.command &&& OPCODE_MASK).toNat = 1 ∧ rex.Plain then
    (rex.last_row rex.integer_y).map fun end_y =>
      { start_x := if rex.next.has CMD_XYCONTINUE then rex.next.xsave else rex.integer_x
        start_y := rex.integer_y
        end_x := rex.end_x
        end_y }
  else none

/-- The registers a drawing command works with. -/
def started (rex : Rex1) : Rex1 :=
  if rex.next.has CMD_XYCONTINUE then rex else { rex with next := { rex.next with xsave := rex.integer_x } }

/-- The pixels of a block do not depend on where the next command continues. -/
theorem draw_rectangle_with_xsave (group : PlaneGroup) (start_x start_y end_x end_y xsave : Nat) (rex : Rex1) :
    draw_rectangle group start_x start_y end_x end_y { rex with next := { rex.next with xsave } } =
      rex.draw_rectangle group start_x start_y end_x end_y := by
  have hloop : ∀ budget shade_step x y,
      draw_rectangle_loop group start_x start_y end_x end_y { rex with next := { rex.next with xsave } } budget shade_step x y =
        draw_rectangle_loop group start_x start_y end_x end_y rex budget shade_step x y := by
    intro budget
    induction budget with
    | zero => intros; rfl
    | succ budget ih =>
      intro shade_step x y
      unfold draw_rectangle_loop
      simp only [ih]
      rfl
  exact hloop _ _ _ _

theorem draw_from_block {group : PlaneGroup} {start_x start_y end_y : Nat} (hplain : rex.Plain)
    (hrow : rex.last_row start_y = some end_y) :
    rex.draw_from group start_x start_y = (rex.draw_rectangle group start_x start_y rex.end_x end_y >>= fun _ => .done rex) := by
  obtain ⟨hcoloraux, hpattern, hmajor, hminor, hstipple⟩ := hplain
  unfold last_row at hrow
  unfold draw_from
  dsimp only at hrow ⊢
  rw [hcoloraux, if_neg Bool.false_ne_true, hpattern, if_neg Bool.false_ne_true, if_neg hmajor, if_neg hminor,
    if_neg hstipple]
  split at hrow
  · rename_i hspan
    obtain rfl := Option.some.inj hrow
    rw [if_pos hspan]
  · rename_i hspan
    rw [if_neg hspan]
    split at hrow
    · rename_i hrectangle
      obtain rfl := Option.some.inj hrow
      rw [if_pos hrectangle]
    · cases hrow

/-- A rectangle command draws its block. -/
theorem execute_rectangle (hblock : rex.rectangle = some block) :
    rex.execute =
      (rex.draw_rectangle (.from_aux2 rex.next.aux2) block.start_x block.start_y block.end_x block.end_y >>= fun _ =>
        .done rex.started.latch_next_context) := by
  unfold rectangle at hblock
  split at hblock
  · rename_i hcommand
    obtain ⟨hopcode, hplain⟩ := hcommand
    obtain ⟨end_y, hrow, rfl⟩ := Option.map_eq_some_iff.mp hblock
    have hexecute : rex.execute = rex.draw >>= fun drawn => .done drawn.latch_next_context := by
      unfold execute
      rw [hopcode]
      rfl
    rw [hexecute]
    unfold draw started
    dsimp only
    split
    · rw [draw_from_block hplain hrow, Raster.bind_assoc]
      rfl
    · have hdrawn := @draw_from_block { rex with next := { rex.next with xsave := rex.integer_x } }
        (.from_aux2 rex.next.aux2) rex.integer_x rex.integer_y end_y hplain hrow
      rw [hdrawn, Raster.bind_assoc, draw_rectangle_with_xsave]
      rfl
  · cases hblock

/-- A block with this many pixels lies far below the end of the word. -/
theorem rectangle_within (h : Held rex) (hblock : rex.rectangle = some block) (hpixels : block.pixels ≤ MAX_COMMAND_PIXELS) :
    block.Within 0xffffff := by
  have hmax : MAX_COMMAND_PIXELS = 0x200000 := rfl
  have hheight : 0 < block.height := Block.extent_pos _ _
  have hwidth : block.width ≤ block.pixels := Nat.le_mul_of_pos_right _ hheight
  have hinteger := h.integer_y
  have hend_x := h.end_x
  have hend_y := h.end_y
  unfold rectangle at hblock
  split at hblock
  · obtain ⟨end_y, hrow, rfl⟩ := Option.map_eq_some_iff.mp hblock
    unfold Block.width Block.extent at hwidth
    dsimp only at hwidth
    refine ⟨?_, ?_, ?_, ?_⟩
    · dsimp only
      omega
    · dsimp only
      omega
    · dsimp only
      omega
    · unfold last_row at hrow
      dsimp only at hrow ⊢
      split at hrow
      · obtain rfl := Option.some.inj hrow
        omega
      · split at hrow
        · obtain rfl := Option.some.inj hrow
          omega
        · cases hrow
  · cases hblock

/-! ## What a rectangle command leaves -/

/-- Every pixel of the block, where it is stored, has its source combined with
what was there before; nothing else is changed. -/
structure Drawn (group : PlaneGroup) (block : Block) (source : Nat → Nat → U8) (before after : Vram) (rex : Rex1) : Prop where
  inside : ∀ x y position, block.Contains x y → rex.drawn_at x y = some position →
    after.plane group position = rex.pixel_written group (source x y) (before.plane group position)
  outside : ∀ position, (∀ x y, block.Contains x y → rex.drawn_at x y ≠ some position) →
    after.plane group position = before.plane group position
  others : ∀ other ≠ group, after.plane other = before.plane other

/-- The source of a pixel: the color, or a sample of what the plane shows. -/
def pixel_source (group : PlaneGroup) (block : Block) (shown : Nat → U8) (x y : Nat) (rex : Rex1) : U8 :=
  if rex.next.shares CMD_LOGICSRC then rex.copied group shown x y
  else rex.source_color (Block.distance block.start_x x) x y

/-- The command returns; it stores to each place once, and draws its block from
the samples that the frame buffer held before it. -/
def Draws (checks : Bool) (block : Block) (rex : Rex1) : Prop :=
  ∀ vram, ∃ after, rex.execute.run checks vram = (some rex.started.latch_next_context, after) ∧
    (rex.execute.stores checks vram).Nodup ∧
      let group := PlaneGroup.from_aux2 rex.next.aux2
      rex.Drawn group block (rex.pixel_source group block (vram.plane group)) vram after

/-- No pixel is drawn before a pixel that copies it. -/
def Ahead (block : Block) (rex : Rex1) : Prop :=
  ∀ x y later_x later_y, block.Contains x y → block.Contains later_x later_y →
    block.number x y < block.number later_x later_y →
      ∀ position, rex.drawn_at x y = some position → rex.source_at later_x later_y ≠ some position

/-- No two pixels of the block are stored in one place. -/
def Apart (block : Block) (rex : Rex1) : Prop :=
  ∀ x y other_x other_y position, block.Contains x y → block.Contains other_x other_y →
    rex.drawn_at x y = some position → rex.drawn_at other_x other_y = some position → x = other_x ∧ y = other_y

theorem contains_column_row {n : Nat} (hn : n < block.pixels) :
    block.Contains (block.column (n % block.width)) (block.row (n / block.width)) := Block.contains_iff.mpr ⟨n, hn, rfl, rfl⟩

theorem number_of_place (hapart : rex.Apart block) {m n : Nat} (hm : m < block.pixels) (hn : n < block.pixels)
    {position : Nat} (h : rex.numbered_place block m = some position) (hother : rex.numbered_place block n = some position) :
    m = n := by
  obtain ⟨hx, hy⟩ := hapart _ _ _ _ position (contains_column_row hm) (contains_column_row hn) h hother
  rw [← Block.number_column_row hm, hx, hy, Block.number_column_row hn]

/-- The places of the pixels, one after another, are different just where the
pixels are apart. -/
theorem places_nodup : (rex.places_from block 0).Nodup ↔ rex.Apart block := by
  unfold places_from
  rw [List.nodup_flatMap]
  constructor
  · rintro ⟨-, hdisjoint⟩ x y other_x other_y position hcontains hother hplace hother_place
    obtain ⟨m, hm, rfl, rfl⟩ := Block.contains_iff.mp hcontains
    obtain ⟨n, hn, rfl, rfl⟩ := Block.contains_iff.mp hother
    have hsame : m = n := by
      by_contra hne
      have hrange : ∀ k < block.pixels, k ∈ List.range' 0 (block.pixels - 0) := fun k hk =>
        List.mem_range'_1.mpr ⟨Nat.zero_le k, by omega⟩
      have hsymmetric : Std.Symm (Function.onFun List.Disjoint fun n => (rex.numbered_place block n).toList) :=
        ⟨fun _ _ h _ hplace hother => h hother hplace⟩
      exact hdisjoint.forall (hrange m hm) (hrange n hn) hne (Option.mem_toList.mpr hplace)
        (Option.mem_toList.mpr hother_place)
    subst hsame
    exact ⟨rfl, rfl⟩
  · intro hapart
    constructor
    · intro n _
      cases rex.numbered_place block n with
      | none => exact List.nodup_nil
      | some place => exact List.nodup_singleton place
    · refine List.Pairwise.imp_of_mem ?_ List.pairwise_lt_range'
      intro m n hm hn hlt place hplace hother
      rw [List.mem_range'_1] at hm hn
      have hsame := number_of_place hapart (by omega) (by omega) (Option.mem_toList.mp hplace) (Option.mem_toList.mp hother)
      omega

/-- The pixels are drawn in an order in which no one reads what is overwritten. -/
theorem pixel_scatter_ordered (hapart : rex.Apart block) (group : PlaneGroup)
    (hahead : rex.next.shares CMD_LOGICSRC = true → rex.Ahead block) :
    (rex.pixel_scatter group block).Ordered (List.range' 0 block.pixels) := by
  refine List.Pairwise.imp_of_mem ?_ List.pairwise_lt_range'
  intro m n hm hn hlt position hplace
  rw [List.mem_range'_1] at hm hn
  have hother : rex.numbered_place block n ≠ some position := by
    intro hsame
    have heq := number_of_place hapart (by omega) (by omega) hplace hsame
    omega
  refine ⟨?_, hother⟩
  rintro (hown | ⟨hcopies, hsource⟩)
  · exact hother hown
  · refine hahead hcopies _ _ _ _ (contains_column_row (by omega)) (contains_column_row (by omega)) ?_ position hplace hsource
    rw [Block.number_column_row (by omega), Block.number_column_row (by omega)]
    exact hlt

theorem numbered_source_eq (group : PlaneGroup) (shown : Nat → U8) (n : Nat) (rex : Rex1) :
    rex.numbered_source group block shown n =
      rex.pixel_source group block shown (block.column (n % block.width)) (block.row (n / block.width)) := by
  have hdistance : Block.distance block.start_x (block.column (n % block.width)) = n % block.width :=
    Block.distance_along (block.mod_lt_width n)
  unfold numbered_source pixel_source
  rw [hdistance]

/-- What a rectangle command does, pixel after pixel. -/
theorem run_rectangle (checks : Bool) (h : Held rex) (hblock : rex.rectangle = some block)
    (hpixels : block.pixels ≤ MAX_COMMAND_PIXELS) (vram : Vram) :
    let group := PlaneGroup.from_aux2 rex.next.aux2
    ∃ after, rex.execute.run checks vram = (some rex.started.latch_next_context, after) ∧
      rex.Covers (rex.places_from block 0) (rex.execute.stores checks vram) ∧
      after.plane group = (List.range' 0 block.pixels).foldl (rex.pixel_scatter group block).assign (vram.plane group) ∧
      ∀ other ≠ group, after.plane other = vram.plane other := by
  intro group
  have hwithin := rectangle_within h hblock hpixels
  have hsome : 0 < block.pixels := Nat.mul_pos block.width_pos (Block.extent_pos _ _)
  obtain ⟨after, hrun, hstores, hplane, hothers⟩ :=
    run_rectangle_loop checks h hwithin group hsome (show block.pixels - 0 ≤ MAX_COMMAND_PIXELS from hpixels) vram
  rw [Nat.zero_mod, Nat.zero_div, column_zero, row_zero] at hrun hstores
  have hdraw : (rex.draw_rectangle group block.start_x block.start_y block.end_x block.end_y).run checks vram =
      (some (), after) := hrun
  rw [execute_rectangle hblock]
  refine ⟨after, ?_, ?_, hplane, hothers⟩
  · rw [Raster.run_bind checks _ _ hdraw]
    rfl
  · rw [Raster.stores_bind checks _ _ hdraw]
    show rex.Covers _ (_ ++ [])
    rw [List.append_nil]
    exact hstores

/-- A scatter that reads nothing it has overwritten draws the block. -/
theorem drawn_of_scatter {group : PlaneGroup} {before after : Vram}
    (hordered : (rex.pixel_scatter group block).Ordered (List.range' 0 block.pixels))
    (hplane : after.plane group =
      (List.range' 0 block.pixels).foldl (rex.pixel_scatter group block).assign (before.plane group))
    (hothers : ∀ other ≠ group, after.plane other = before.plane other) :
    rex.Drawn group block (rex.pixel_source group block (before.plane group)) before after := by
  refine ⟨?_, ?_, hothers⟩
  · intro x y position hcontains hplace
    obtain ⟨n, hn, rfl, rfl⟩ := Block.contains_iff.mp hcontains
    have hmember : n ∈ List.range' 0 block.pixels := List.mem_range'_1.mpr ⟨Nat.zero_le n, by omega⟩
    rw [hplane, Scatter.foldl_assign_target hordered hmember hplace, ← numbered_source_eq]
    show rex.pixel_written group _ (((rex.numbered_place block n).map (before.plane group)).getD 0) = _
    rw [show rex.numbered_place block n = some position from hplace]
    rfl
  · intro position houtside
    rw [hplane]
    apply Scatter.foldl_assign_of_ne
    intro n hmember
    rw [List.mem_range'_1] at hmember
    exact houtside _ _ (contains_column_row (by omega))

/-- A rectangle or span command draws its block where the pixels of the block are
apart, and, but for a color comparison that may hold a second drawing back, only there. -/
theorem rectangle_drawn (checks : Bool) (h : Held rex) (hblock : rex.rectangle = some block)
    (hpixels : block.pixels ≤ MAX_COMMAND_PIXELS) (hahead : rex.next.shares CMD_LOGICSRC = true → rex.Ahead block) :
    (rex.Apart block → rex.Draws checks block) ∧
      (rex.next.has CMD_COLORCOMP = false → (rex.Draws checks block ↔ rex.Apart block)) := by
  have hdraws : rex.Apart block → rex.Draws checks block := by
    intro hapart vram
    obtain ⟨after, hrun, hstores, hplane, hothers⟩ := run_rectangle checks h hblock hpixels vram
    refine ⟨after, hrun, (places_nodup.mpr hapart).sublist hstores.1, ?_⟩
    exact drawn_of_scatter (pixel_scatter_ordered hapart _ hahead) hplane hothers
  refine ⟨hdraws, fun hall => ⟨fun h' => ?_, hdraws⟩⟩
  obtain ⟨after, hrun, hstores, -⟩ := run_rectangle checks h hblock hpixels Vram.new
  obtain ⟨drawn, -, honce, -⟩ := h' Vram.new
  rw [hstores.2 hall] at honce
  exact places_nodup.mp honce

theorem lt_of_extent {first last coordinate other : Nat} (h : min first last ≤ coordinate ∧ coordinate ≤ max first last)
    (hother : min first last ≤ other ∧ other ≤ max first last) (hextent : Block.extent first last ≤ 0x1000) :
    coordinate < other + 0x1000 := by
  unfold Block.extent at hextent
  omega

/-- A block of at most 4096 columns and rows keeps its pixels apart. -/
theorem apart_of_extent (hwidth : block.width ≤ 0x1000) (hheight : block.height ≤ 0x1000) : rex.Apart block := by
  rintro x y other_x other_y position ⟨hx, hy⟩ ⟨hother_x, hother_y⟩ hplace hother
  have hnear : Near x y other_x other_y :=
    ⟨lt_of_extent hx hother_x hwidth, lt_of_extent hother_x hx hwidth, lt_of_extent hy hother_y hheight,
      lt_of_extent hother_y hy hheight⟩
  exact storage_injective hnear (storage_of_drawn_at hplace) (storage_of_drawn_at hother)

theorem near_of_le {x y other_x other_y : Nat} (hx : x ≤ 0xfff) (hy : y ≤ 0xfff) (hother_x : other_x ≤ 0xfff)
    (hother_y : other_y ≤ 0xfff) : Near x y other_x other_y :=
  ⟨by omega, by omega, by omega, by omega⟩

/-- A coordinate that lies ahead is at a larger distance. -/
theorem distance_ahead {first last coordinate other : Nat} {offset : Int}
    (h : min first last ≤ coordinate ∧ coordinate ≤ max first last)
    (hother : min first last ≤ other ∧ other ≤ max first last) (hoffset : (coordinate : Int) = other + offset)
    (hup : 0 < offset → first ≤ last) (hdown : offset < 0 → last ≤ first) :
    Block.distance first coordinate = Block.distance first other + offset.natAbs := by
  unfold Block.distance
  obtain hnegative | hzero | hpositive := lt_trichotomy offset 0
  · have hdirection := hdown hnegative
    omega
  · omega
  · have hdirection := hup hpositive
    omega

/-- Samples that lie ahead in the direction of the traversal are not overwritten
too early. -/
theorem ahead_of_direction (hblock : block.Drawable)
    (hsource : ∀ x y : Nat, block.Contains x y →
      0 ≤ x + signed_coordinate (rex.next.xymove >>> 16) ∧ x + signed_coordinate (rex.next.xymove >>> 16) ≤ 0xfff ∧
        0 ≤ y + signed_coordinate rex.next.xymove ∧ y + signed_coordinate rex.next.xymove ≤ 0xfff)
    (hdown : 0 < signed_coordinate rex.next.xymove → block.start_y ≤ block.end_y)
    (hup : signed_coordinate rex.next.xymove < 0 → block.end_y ≤ block.start_y)
    (hright : signed_coordinate rex.next.xymove = 0 → 0 < signed_coordinate (rex.next.xymove >>> 16) →
      block.start_x ≤ block.end_x)
    (hleft : signed_coordinate rex.next.xymove = 0 → signed_coordinate (rex.next.xymove >>> 16) < 0 →
      block.end_x ≤ block.start_x) : rex.Ahead block := by
  intro x y later_x later_y hcontains hlater hnumber position hplace hcopied
  obtain ⟨hleft_edge, hright_edge, htop, hbottom⟩ := hsource later_x later_y hlater
  have hx : x ≤ 0xfff := Nat.le_trans hcontains.1.2 (Nat.max_le.mpr ⟨hblock.start_x, hblock.end_x⟩)
  have hy : y ≤ 0xfff := Nat.le_trans hcontains.2.2 (Nat.max_le.mpr ⟨hblock.start_y, hblock.end_y⟩)
  unfold source_at at hcopied
  dsimp only at hcopied
  rw [if_pos ⟨hleft_edge, htop⟩] at hcopied
  generalize signed_coordinate (rex.next.xymove >>> 16) = column_offset at *
  generalize signed_coordinate rex.next.xymove = row_offset at *
  obtain ⟨hsame_x, hsame_y⟩ := storage_injective (near_of_le hx hy (by omega) (by omega)) (storage_of_drawn_at hplace) hcopied
  have hcolumn_offset : (x : Int) = later_x + column_offset := by omega
  have hrow_offset : (y : Int) = later_y + row_offset := by omega
  by_cases hrow : row_offset = 0
  · -- in one row
    have hdistance := distance_ahead hcontains.1 hlater.1 hcolumn_offset (hright hrow) (hleft hrow)
    have hsame : y = later_y := by omega
    unfold Block.number at hnumber
    rw [hsame] at hnumber
    omega
  · have hdistance := distance_ahead hcontains.2 hlater.2 hrow_offset hdown hup
    have hearlier : block.number later_x later_y < block.number x y := Block.number_lt_of_row hlater (by omega)
    exact absurd hearlier (Nat.lt_asymm hnumber)

/-- A span of three pixels that copies the pixels to the right of its own. -/
def copying_span : Rex1 :=
  { Rex1.new with
    next :=
      { Registers.default with
        command := 1 ||| CMD_QUADMODE ||| CMD_STOPONX
        shared_command_flags := CMD_LOGICSRC
        source_rop := 3
        xendf := 2 * END_UNIT
        xymove := 0x00010000
        rwmask := 0xff
        aux2 := 0x20000000 }
    config := { ConfigRegisters.default with xywin := 0x08000800 } }

theorem copying_span_held : copying_span.Held := ⟨by decide, by decide, by decide, by decide⟩

theorem copying_span_ahead : copying_span.Ahead ⟨0, 0, 2, 0⟩ := by
  have hcolumn : signed_coordinate (copying_span.next.xymove >>> 16) = 1 := by decide
  have hrow : signed_coordinate copying_span.next.xymove = 0 := by decide
  apply ahead_of_direction ⟨by decide, by decide, by decide, by decide⟩
  · rintro x y ⟨⟨_, hx⟩, _, hy⟩
    rw [hcolumn, hrow]
    dsimp only at hx hy
    omega
  · intro _
    exact Nat.le_refl 0
  · intro _
    exact Nat.le_refl 0
  · intro _ _
    exact Nat.zero_le 2
  · intro _ hleft
    rw [hcolumn] at hleft
    omega

/-- The span copies as if all of its samples had been taken first. -/
theorem rectangle_drawn_copying : copying_span.Draws true ⟨0, 0, 2, 0⟩ ∧ copying_span.Apart ⟨0, 0, 2, 0⟩ := by
  obtain ⟨hdraws, hiff⟩ := rectangle_drawn true copying_span_held
    (show copying_span.rectangle = some ⟨0, 0, 2, 0⟩ from rfl) (by decide) fun _ => copying_span_ahead
  have hapart : copying_span.Apart ⟨0, 0, 2, 0⟩ := apart_of_extent (by decide) (by decide)
  exact ⟨(hiff (by decide)).mpr hapart, hapart⟩

/-- Accesses that continue past the last column with a Z pattern, and then program
a span from there back to column 0 that inverts what it draws. -/
def continuing_span : List Lg1.Access :=
  [.write 0x3f000c [0, 0, 0x0f, 0xff], .write 0x3f0078 [0, 0, 0, 0xff], .write 0x3f47fc [8, 0, 8, 0],
    .write 0x3f47a8 [0x20, 0, 0, 0x11], .write 0x3f0038 [0, 0, 0, 0xff], .write 0x3f0800 [0, 0, 4, 1],
    .write 0x3f0000 [0x60, 0, 1, 0xa1]]

/-- The span reaches columns 4096 and 0, which are stored in one place: it inverts
that place twice. -/
theorem rectangle_drawn_twice : ∃ board, Lg1.new.run true continuing_span = some board ∧
    board.rex.rectangle = some ⟨0x100f, 0, 0, 0⟩ ∧ Block.pixels ⟨0x100f, 0, 0, 0⟩ ≤ MAX_COMMAND_PIXELS ∧
      board.rex.next.shares CMD_LOGICSRC = false ∧ ¬board.rex.Draws true ⟨0x100f, 0, 0, 0⟩ := by
  obtain ⟨board, hrun⟩ : ∃ board, Lg1.new.run true continuing_span = some board := ⟨_, rfl⟩
  have hblock : (Lg1.new.run true continuing_span).bind (fun board => board.rex.rectangle) = some ⟨0x100f, 0, 0, 0⟩ := rfl
  have hplain : (Lg1.new.run true continuing_span).map (fun board => board.rex.next.shares CMD_LOGICSRC) = some false := rfl
  -- the byte where the span ends: what the span leaves there, and what its pixel is to leave
  have hkept : (Lg1.new.run true continuing_span).map (fun board =>
      (board.rex.drawn_at 0 0, (board.rex.execute.run true Vram.new).2.pixel 0)) = some (some 0, 0) := by decide +kernel
  have hinverted : (Lg1.new.run true continuing_span).map (fun board =>
      (PlaneGroup.from_aux2 board.rex.next.aux2, board.rex.pixel_written .Pixel
        (board.rex.pixel_source .Pixel ⟨0x100f, 0, 0, 0⟩ Vram.new.pixel 0 0) 0)) = some (.Pixel, 0xff) := by decide +kernel
  rw [hrun] at hblock hplain hkept hinverted
  obtain ⟨hplace, hkept⟩ := Prod.ext_iff.mp (Option.some.inj hkept)
  obtain ⟨hgroup, hinverted⟩ := Prod.ext_iff.mp (Option.some.inj hinverted)
  refine ⟨board, hrun, hblock, by decide, Option.some.inj hplain, fun hdraws => ?_⟩
  obtain ⟨after, hexecuted, -, hinside, -⟩ := hdraws Vram.new
  have hdrawn := hinside 0 0 0 ⟨⟨by decide, by decide⟩, by decide, by decide⟩ hplace
  dsimp only at hgroup hkept hinverted
  rw [hgroup] at hdrawn
  rw [hexecuted] at hkept
  exact absurd (hkept.symm.trans (hdrawn.trans hinverted)) (by decide)

end Rex1

end se_device.lg1.rex1
