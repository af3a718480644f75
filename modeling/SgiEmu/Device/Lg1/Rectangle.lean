import Mathlib.Data.List.Nodup
import SgiEmu.Device.Lg1.Block
import SgiEmu.Device.Lg1.Held
import SgiEmu.Library.Mask
import SgiEmu.Library.Scatter

open se_core se_device.lg1.vram Library

namespace se_device.lg1.vram.Raster

variable {α β : Type}

/-- The places in storage that a program writes, in order. -/
def stores (checks : Bool) : Raster α → Vram → List Nat
  | done _, _ => []
  | read group x y next, vram => (next (vram.read group x y)).stores checks vram
  | write group x y value write_mask next, vram =>
    (index x y).toList ++ next.stores checks (vram.write_masked group x y value write_mask)
  | overflow wrapped, vram => if checks then [] else wrapped.stores checks vram

theorem stores_bind (checks : Bool) (program : Raster α) (continuation : α → Raster β) {vram next : Vram} {value : α}
    (h : program.run checks vram = (some value, next)) :
    (program >>= continuation).stores checks vram = program.stores checks vram ++ (continuation value).stores checks next := by
  change (program.bind continuation).stores checks vram = _
  induction program generalizing vram with
  | done result =>
    cases h
    rfl
  | read group x y following ih => exact ih _ h
  | write group x y result write_mask following ih =>
    change _ ++ (following.bind continuation).stores checks _ = _
    rw [ih h]
    exact (List.append_assoc _ _ _).symm
  | overflow wrapped ih =>
    cases checks with
    | true => cases h
    | false => exact ih h

theorem bind_assoc {γ : Type} (program : Raster α) (first : α → Raster β) (second : β → Raster γ) :
    (program >>= first) >>= second = program >>= fun value => first value >>= second := by
  change (program.bind first).bind second = program.bind fun value => (first value).bind second
  induction program with
  | done value => rfl
  | read group x y next ih => exact congrArg (read group x y) (funext ih)
  | write group x y value write_mask next ih => exact congrArg (write group x y value write_mask) ih
  | overflow wrapped ih => exact congrArg overflow ih

end se_device.lg1.vram.Raster

namespace se_device.lg1.rex1

/-! ## The order of a traversal -/

namespace Block

def distance (first coordinate : Nat) : Nat := max first coordinate - min first coordinate

/-- The number of pixels that come before one. -/
def number (block : Block) (x y : Nat) : Nat := distance block.start_y y * block.width + distance block.start_x x

def pixels (block : Block) : Nat := block.width * block.height

variable {block : Block}

theorem distance_along {first last steps : Nat} (h : steps < extent first last) :
    distance first (along first last steps) = steps := by
  unfold extent at h
  unfold distance along
  split <;> omega

theorem width_pos (block : Block) : 0 < block.width := extent_pos _ _

theorem mod_lt_width (block : Block) (n : Nat) : n % block.width < block.width := Nat.mod_lt _ block.width_pos

theorem div_lt_height {n : Nat} (h : n < block.pixels) : n / block.width < block.height := Nat.div_lt_of_lt_mul h

theorem number_column_row {n : Nat} (h : n < block.pixels) :
    block.number (block.column (n % block.width)) (block.row (n / block.width)) = n := by
  unfold number column row
  rw [distance_along (div_lt_height h), distance_along (block.mod_lt_width n)]
  exact Nat.div_add_mod' n block.width

theorem distance_lt {first last coordinate : Nat} (h : min first last ≤ coordinate ∧ coordinate ≤ max first last) :
    distance first coordinate < extent first last := by
  unfold distance extent
  omega

/-- A pixel in an earlier row comes first. -/
theorem number_lt_of_row {x y other_x other_y : Nat} (hcontains : block.Contains x y)
    (h : distance block.start_y y < distance block.start_y other_y) : block.number x y < block.number other_x other_y := by
  have hx : distance block.start_x x < block.width := distance_lt hcontains.1
  have hrows : (distance block.start_y y + 1) * block.width ≤ distance block.start_y other_y * block.width :=
    Nat.mul_le_mul_right _ h
  rw [Nat.succ_mul] at hrows
  unfold number
  omega

/-- The next pixel lies in the same row. -/
theorem next_column {n : Nat} (h : n % block.width + 1 < block.width) :
    (n + 1) % block.width = n % block.width + 1 ∧ (n + 1) / block.width = n / block.width := by
  have hsplit : n + 1 = block.width * (n / block.width) + (n % block.width + 1) := by
    rw [← Nat.add_assoc, Nat.div_add_mod]
  rw [hsplit, Nat.mul_add_mod, Nat.mul_add_div block.width_pos, Nat.mod_eq_of_lt h, Nat.div_eq_of_lt h]
  exact ⟨rfl, Nat.add_zero _⟩

/-- The next pixel begins the next row. -/
theorem next_row {n : Nat} (h : n % block.width + 1 = block.width) :
    n + 1 = block.width * (n / block.width + 1) ∧ (n + 1) % block.width = 0 ∧
      (n + 1) / block.width = n / block.width + 1 := by
  have hsplit : n + 1 = block.width * (n / block.width + 1) := by
    rw [Nat.mul_succ]
    conv_lhs => rw [← Nat.div_add_mod n block.width]
    omega
  refine ⟨hsplit, ?_, ?_⟩
  · rw [hsplit, Nat.mul_mod_right]
  · rw [hsplit, Nat.mul_div_cancel_left _ block.width_pos]

/-- The numbers enumerate the pixels of the block. -/
theorem contains_iff {x y : Nat} : block.Contains x y ↔
    ∃ n < block.pixels, block.column (n % block.width) = x ∧ block.row (n / block.width) = y := by
  constructor
  · rintro ⟨hx, hy⟩
    obtain ⟨i, hi, rfl⟩ := exists_along.mpr hx
    obtain ⟨j, hj, rfl⟩ := exists_along.mpr hy
    have hi' : i < block.width := hi
    have hj' : j < block.height := hj
    refine ⟨j * block.width + i, ?_, ?_, ?_⟩
    · calc
        j * block.width + i < j * block.width + block.width := by omega
        _ = (j + 1) * block.width := (Nat.succ_mul j _).symm
        _ ≤ block.height * block.width := Nat.mul_le_mul_right _ hj'
        _ = block.pixels := Nat.mul_comm _ _
    · rw [Nat.mul_comm, Nat.mul_add_mod, Nat.mod_eq_of_lt hi']
      rfl
    · rw [Nat.mul_comm, Nat.mul_add_div block.width_pos, Nat.div_eq_of_lt hi', Nat.add_zero]
      rfl
  · rintro ⟨n, hn, rfl, rfl⟩
    exact ⟨exists_along.mp ⟨_, block.mod_lt_width n, rfl⟩, exists_along.mp ⟨_, div_lt_height hn, rfl⟩⟩

end Block

namespace Rex1

/-! ## What a command does to a pixel -/

/-- The byte that a pixel leaves, given its source and the byte before it. -/
def pixel_written (group : PlaneGroup) (source old : U8) (rex : Rex1) : U8 :=
  let source := rex.source_pixel_value group source
  let destination := rex.read_pixel_value group old
  if rex.color_comparison_passes source destination then
    let written := rex.stored_pixel_write group (logic_operation rex.next.source_rop source destination)
    (old &&& ~~~(written.2 &&& group.value_mask)) ||| (written.1 &&& (written.2 &&& group.value_mask))
  else old

/-- Where a pixel is stored; none outside the storage and where the screen masks
keep it out. -/
def drawn_at (x y : Nat) (rex : Rex1) : Option Nat :=
  (cell rex.config.xywin x y).bind fun place => if rex.screen_masks_admit place.1 place.2 then index place.1 place.2 else none

/-- Where the pixel is stored whose sample a copied pixel takes. -/
def source_at (x y : Nat) (rex : Rex1) : Option Nat :=
  let source_x := (x : Int) + signed_coordinate (rex.next.xymove >>> 16)
  let source_y := (y : Int) + signed_coordinate rex.next.xymove
  if 0 ≤ source_x ∧ 0 ≤ source_y then storage rex.config.xywin source_x.toNat source_y.toNat else none

/-- The source of a copied pixel, when the plane shows this. -/
def copied (group : PlaneGroup) (shown : Nat → U8) (x y : Nat) (rex : Rex1) : U8 :=
  match rex.source_at x y with
  | none => 0
  | some position => rex.read_pixel_value group (shown position)

variable {rex : Rex1}

theorem signed_coordinate_bounds (value : U32) : -0x800 ≤ signed_coordinate value ∧ signed_coordinate value < 0x800 := by
  have hlt : (value &&& 0x07ff).toNat < 0x800 := by
    rw [Library.Mask.toNat_and_low (show (0x07ff : U32).toNat = 2 ^ 11 - 1 by decide)]
    omega
  unfold signed_coordinate
  dsimp only
  split <;> omega

theorem read_pixel_value_zero (group : PlaneGroup) (rex : Rex1) : rex.read_pixel_value group 0 = 0 := by
  unfold read_pixel_value
  split
  · rfl
  · split <;> rfl

/-- The source of a pixel is read, and nothing is written. -/
theorem run_rectangle_source (checks : Bool) (h : Held rex) (group : PlaneGroup) (shade_step : Nat) {x y : Nat}
    (hx : x ≤ 0xffffff) (hy : y ≤ 0xffffff) (vram : Vram) :
    (rex.rectangle_source group shade_step x y).run checks vram =
        (some (if rex.next.shares CMD_LOGICSRC then rex.copied group (vram.plane group) x y
          else rex.source_color shade_step x y), vram) ∧
      (rex.rectangle_source group shade_step x y).stores checks vram = [] := by
  have hmax : U32_MAX = 0xffffffff := rfl
  have hcolumn := signed_coordinate_bounds (rex.next.xymove >>> 16)
  have hrow := signed_coordinate_bounds rex.next.xymove
  unfold rectangle_source
  cases rex.next.shares CMD_LOGICSRC with
  | false => exact ⟨rfl, rfl⟩
  | true =>
    rw [if_pos rfl, if_pos rfl]
    unfold copied source_at
    dsimp only
    generalize hsource_x : (x : Int) + signed_coordinate (rex.next.xymove >>> 16) = source_x
    generalize hsource_y : (y : Int) + signed_coordinate rex.next.xymove = source_y
    by_cases hinside : 0 ≤ source_x ∧ 0 ≤ source_y
    · rw [if_pos hinside, if_pos (by omega)]
      have hplace := framebuffer_coordinate_eq (show source_x.toNat ≤ 0x1ffffff by omega)
        (show source_y.toNat ≤ 0x1ffffff by omega) h.xywin
      unfold read_pixel storage
      rw [hplace]
      cases hcell : cell rex.config.xywin source_x.toNat source_y.toNat with
      | none => exact ⟨rfl, rfl⟩
      | some place =>
        refine ⟨?_, rfl⟩
        change (some (rex.read_pixel_value group (vram.read group place.1 place.2)), vram) = _
        unfold Vram.read
        cases hindex : index place.1 place.2 with
        | none =>
          dsimp only [Option.bind_some]
          rw [hindex, read_pixel_value_zero]
        | some position =>
          dsimp only [Option.bind_some]
          rw [hindex]
    · rw [if_neg hinside, if_neg (by omega)]
      exact ⟨rfl, rfl⟩

/-- The write of a pixel that the screen masks admit. -/
def admitted_write (group : PlaneGroup) (column row : Nat) (source : U8) (rex : Rex1) : Raster Unit :=
  .read group column row fun raw_destination =>
    let source := rex.source_pixel_value group source
    let destination := rex.read_pixel_value group raw_destination
    if !rex.color_comparison_passes source destination then .done ()
    else
      let written := rex.stored_pixel_write group (logic_operation rex.next.source_rop source destination)
      .write group column row written.1 written.2 (.done ())

theorem write_pixel_eq (h : Held rex) (group : PlaneGroup) (source : U8) {x y : Nat} (hx : x ≤ 0xffffff)
    (hy : y ≤ 0xffffff) : rex.write_pixel group x y source =
      match cell rex.config.xywin x y with
      | none => .done ()
      | some place =>
        if rex.screen_masks_admit place.1 place.2 then rex.admitted_write group place.1 place.2 source else .done () := by
  have hplace := framebuffer_coordinate_eq (show x ≤ 0x1ffffff by omega) (show y ≤ 0x1ffffff by omega) h.xywin
  unfold write_pixel
  rw [hplace]
  cases cell rex.config.xywin x y with
  | none => rfl
  | some place =>
    change (if !rex.screen_masks_admit place.1 place.2 then Raster.done () else rex.admitted_write group place.1 place.2 source) = _
    dsimp only
    cases rex.screen_masks_admit place.1 place.2 with
    | true => rfl
    | false => rfl

/-- The places are stored to one after another, but for those that a color
comparison holds back. -/
def Covers (places stored : List Nat) (rex : Rex1) : Prop :=
  stored.Sublist places ∧ (rex.next.has CMD_COLORCOMP = false → stored = places)

theorem covers_nil (rex : Rex1) : rex.Covers [] [] := ⟨List.Sublist.refl _, fun _ => rfl⟩

theorem Covers.append {places stored later_places later : List Nat} (h : rex.Covers places stored)
    (hlater : rex.Covers later_places later) : rex.Covers (places ++ later_places) (stored ++ later) :=
  ⟨h.1.append hlater.1, fun hall => by rw [h.2 hall, hlater.2 hall]⟩

theorem run_admitted_write (checks : Bool) (group : PlaneGroup) (column row : Nat) (source : U8) (rex : Rex1) (vram : Vram) :
    ∃ after, (rex.admitted_write group column row source).run checks vram = (some (), after) ∧
      rex.Covers (index column row).toList ((rex.admitted_write group column row source).stores checks vram) ∧
      (∀ position, after.plane group position = if index column row = some position then
        rex.pixel_written group source (vram.plane group position) else vram.plane group position) ∧
      ∀ other ≠ group, after.plane other = vram.plane other := by
  have hread : ∀ position, index column row = some position → vram.read group column row = vram.plane group position := by
    intro position hindex
    unfold Vram.read
    rw [hindex]
  unfold admitted_write pixel_written
  dsimp only [Raster.run, Raster.stores]
  generalize hraw : vram.read group column row = raw at hread
  by_cases hpasses : rex.color_comparison_passes (rex.source_pixel_value group source) (rex.read_pixel_value group raw) = true
  · rw [hpasses, Bool.not_true, if_neg Bool.false_ne_true]
    refine ⟨_, rfl, ?_, fun position => ?_, fun other hother => ?_⟩
    · show rex.Covers _ ((index column row).toList ++ [])
      rw [List.append_nil]
      exact ⟨List.Sublist.refl _, fun _ => rfl⟩
    · rw [Vram.plane_write_masked]
      split
      · rename_i hplace
        rw [if_pos hplace.2, ← hread position hplace.2, if_pos hpasses]
      · rename_i hplace
        rw [if_neg fun hindex => hplace ⟨rfl, hindex⟩]
    · funext position
      rw [Vram.plane_write_masked, if_neg fun hplace => hother hplace.1]
  · rw [Bool.not_eq_true] at hpasses
    rw [hpasses, Bool.not_false, if_pos rfl]
    refine ⟨vram, rfl, ⟨List.nil_sublist _, fun hall => ?_⟩, fun position => ?_, fun _ _ => rfl⟩
    · unfold color_comparison_passes at hpasses
      rw [hall] at hpasses
      cases hpasses
    split
    · rename_i hindex
      rw [← hread position hindex, hpasses, if_neg Bool.false_ne_true]
    · rfl

/-- A pixel is written where it is stored, if at all. -/
theorem run_drawn_pixel (checks : Bool) (h : Held rex) (group : PlaneGroup) (source : U8) {x y : Nat} (hx : x ≤ 0xffffff)
    (hy : y ≤ 0xffffff) (vram : Vram) :
    ∃ after, (rex.write_pixel group x y source).run checks vram = (some (), after) ∧
      rex.Covers (rex.drawn_at x y).toList ((rex.write_pixel group x y source).stores checks vram) ∧
      (∀ position, after.plane group position = if rex.drawn_at x y = some position then
        rex.pixel_written group source (vram.plane group position) else vram.plane group position) ∧
      ∀ other ≠ group, after.plane other = vram.plane other := by
  rw [write_pixel_eq h group source hx hy]
  cases hcell : cell rex.config.xywin x y with
  | none =>
    have hdrawn : rex.drawn_at x y = none := by
      unfold drawn_at
      rw [hcell]
      rfl
    rw [hdrawn]
    exact ⟨vram, rfl, rex.covers_nil, fun _ => (if_neg nofun).symm, fun _ _ => rfl⟩
  | some place =>
    have hdrawn : rex.drawn_at x y = if rex.screen_masks_admit place.1 place.2 then index place.1 place.2 else none := by
      unfold drawn_at
      rw [hcell]
      rfl
    rw [hdrawn]
    dsimp only
    by_cases hadmitted : rex.screen_masks_admit place.1 place.2 = true
    · rw [if_pos hadmitted, if_pos hadmitted]
      exact run_admitted_write checks group place.1 place.2 source rex vram
    · rw [if_neg hadmitted, if_neg hadmitted]
      exact ⟨vram, rfl, rex.covers_nil, fun _ => (if_neg nofun).symm, fun _ _ => rfl⟩

/-! ## Places -/

theorem window_injective {origin first second : Nat} (hfirst : first < second + 0x1000) (hsecond : second < first + 0x1000)
    (h : (first + origin) &&& FRAMEBUFFER_COORDINATE_MASK = (second + origin) &&& FRAMEBUFFER_COORDINATE_MASK) :
    first = second := by
  have hmask : FRAMEBUFFER_COORDINATE_MASK = 2 ^ 12 - 1 := rfl
  rw [hmask, Nat.and_two_pow_sub_one_eq_mod, Nat.and_two_pow_sub_one_eq_mod] at h
  omega

/-- Pixels less than 4096 columns and rows apart. -/
structure Near (x y other_x other_y : Nat) : Prop where
  right : x < other_x + 0x1000
  left : other_x < x + 0x1000
  below : y < other_y + 0x1000
  above : other_y < y + 0x1000

/-- A window maps pixels that are near each other to different places. -/
theorem cell_injective {xywin : U32} {x y other_x other_y : Nat} {place : Nat × Nat} (hnear : Near x y other_x other_y)
    (h : cell xywin x y = some place) (hother : cell xywin other_x other_y = some place) : x = other_x ∧ y = other_y := by
  unfold cell at h hother
  dsimp only at h hother
  split at h
  · cases h
  · split at hother
    · cases hother
    · have hplace := Option.some.inj (h.trans hother.symm)
      rw [Prod.mk.injEq] at hplace
      have hcolumn : (x + (xywin >>> 16).toNat) &&& FRAMEBUFFER_COORDINATE_MASK =
          (other_x + (xywin >>> 16).toNat) &&& FRAMEBUFFER_COORDINATE_MASK := by omega
      have hrow : (y + xywin.toNat) &&& FRAMEBUFFER_COORDINATE_MASK =
          (other_y + xywin.toNat) &&& FRAMEBUFFER_COORDINATE_MASK := by omega
      exact ⟨window_injective hnear.right hnear.left hcolumn, window_injective hnear.below hnear.above hrow⟩

theorem index_injective {x y other_x other_y position : Nat} (h : index x y = some position)
    (hother : index other_x other_y = some position) : x = other_x ∧ y = other_y := by
  have hwidth : WIDTH = 1024 := rfl
  unfold index at h hother
  split at h
  · cases h
  · split at hother
    · cases hother
    · have hposition := Option.some.inj (h.trans hother.symm)
      rw [hwidth] at *
      omega

theorem storage_injective {xywin : U32} {x y other_x other_y position : Nat} (hnear : Near x y other_x other_y)
    (h : storage xywin x y = some position) (hother : storage xywin other_x other_y = some position) : x = other_x ∧ y = other_y := by
  obtain ⟨place, hplace, hindex⟩ := Option.bind_eq_some_iff.mp h
  obtain ⟨other, hother_place, hother_index⟩ := Option.bind_eq_some_iff.mp hother
  have hsame : place = other := Prod.ext_iff.mpr (index_injective hindex hother_index)
  rw [hsame] at hplace
  exact cell_injective hnear hplace hother_place

theorem storage_of_drawn_at {x y position : Nat} (h : rex.drawn_at x y = some position) :
    storage rex.config.xywin x y = some position := by
  obtain ⟨place, hplace, hadmitted⟩ := Option.bind_eq_some_iff.mp h
  split at hadmitted
  · exact Option.bind_eq_some_iff.mpr ⟨place, hplace, hadmitted⟩
  · cases hadmitted

/-! ## A command as a scatter -/

variable {block : Block}

/-- The source of the pixel with a number, when the plane shows this. -/
def numbered_source (group : PlaneGroup) (block : Block) (shown : Nat → U8) (n : Nat) (rex : Rex1) : U8 :=
  if rex.next.shares CMD_LOGICSRC then rex.copied group shown (block.column (n % block.width)) (block.row (n / block.width))
  else rex.source_color (n % block.width) (block.column (n % block.width)) (block.row (n / block.width))

def numbered_place (block : Block) (n : Nat) (rex : Rex1) : Option Nat :=
  rex.drawn_at (block.column (n % block.width)) (block.row (n / block.width))

/-- The pixels of a block by their numbers: each reads its own place, and the
place it copies. -/
def pixel_scatter (group : PlaneGroup) (block : Block) (rex : Rex1) : Scatter Nat Nat U8 where
  target n := rex.numbered_place block n
  reads n position := rex.numbered_place block n = some position ∨
    rex.next.shares CMD_LOGICSRC = true ∧
      rex.source_at (block.column (n % block.width)) (block.row (n / block.width)) = some position
  value n shown := rex.pixel_written group (rex.numbered_source group block shown n)
    (((rex.numbered_place block n).map shown).getD 0)
  value_congr := by
    intro n shown other hsame
    have hsource : rex.numbered_source group block shown n = rex.numbered_source group block other n := by
      unfold numbered_source copied
      split
      · rename_i hcopies
        split
        · rfl
        · rename_i position hplace
          rw [hsame position (.inr ⟨hcopies, hplace⟩)]
      · rfl
    have hold : (rex.numbered_place block n).map shown = (rex.numbered_place block n).map other := by
      apply Option.map_congr
      intro position hplace
      exact hsame position (.inl hplace)
    rw [hsource, hold]

/-- One turn of the loops. -/
theorem run_rectangle_turn (checks : Bool) (h : Held rex) (hblock : block.Within 0xffffff) (group : PlaneGroup) {n : Nat}
    (hn : n < block.pixels) (vram : Vram) :
    let turn : Raster Unit := do
      let source ← rex.rectangle_source group (n % block.width) (block.column (n % block.width)) (block.row (n / block.width))
      rex.write_pixel group (block.column (n % block.width)) (block.row (n / block.width)) source
    ∃ after, turn.run checks vram = (some (), after) ∧
      rex.Covers (rex.numbered_place block n).toList (turn.stores checks vram) ∧
      after.plane group = (rex.pixel_scatter group block).assign (vram.plane group) n ∧
      ∀ other ≠ group, after.plane other = vram.plane other := by
  have hcolumn := column_le hblock (block.mod_lt_width n)
  have hrow := row_le hblock (Block.div_lt_height hn)
  intro turn
  obtain ⟨hsource, hquiet⟩ := run_rectangle_source checks h group (n % block.width) hcolumn hrow vram
  obtain ⟨after, hrun, hstores, hplane, hothers⟩ :=
    run_drawn_pixel checks h group (rex.numbered_source group block (vram.plane group) n) hcolumn hrow vram
  refine ⟨after, ?_, ?_, ?_, hothers⟩
  · rw [Raster.run_bind checks _ _ hsource]
    exact hrun
  · rw [Raster.stores_bind checks _ _ hsource, hquiet, List.nil_append]
    exact hstores
  · funext position
    rw [hplane]
    by_cases hplace : rex.numbered_place block n = some position
    · have hvalue := @Scatter.assign_target _ _ _ _ (rex.pixel_scatter group block) n (vram.plane group) position hplace
      rw [hvalue]
      show _ = rex.pixel_written group (rex.numbered_source group block (vram.plane group) n)
        (((rex.numbered_place block n).map (vram.plane group)).getD 0)
      rw [hplace]
      exact if_pos hplace
    · have hkept := @Scatter.assign_of_ne _ _ _ _ (rex.pixel_scatter group block) n (vram.plane group) position hplace
      rw [hkept]
      exact if_neg hplace

/-- The places of the pixels from one number on. -/
def places_from (block : Block) (n : Nat) (rex : Rex1) : List Nat :=
  (List.range' n (block.pixels - n)).flatMap fun n => (rex.numbered_place block n).toList

theorem range'_from {n : Nat} (hn : n < block.pixels) :
    List.range' n (block.pixels - n) = n :: List.range' (n + 1) (block.pixels - (n + 1)) := by
  rw [show block.pixels - n = block.pixels - (n + 1) + 1 by omega, List.range'_succ]

/-- The loops, from the pixel with a number to the last one. -/
theorem run_rectangle_loop (checks : Bool) (h : Held rex) (hblock : block.Within 0xffffff) (group : PlaneGroup) {n budget : Nat}
    (hn : n < block.pixels) (hbudget : block.pixels - n ≤ budget) (vram : Vram) :
    let program := rex.draw_rectangle_loop group block.start_x block.start_y block.end_x block.end_y budget
      (n % block.width) (block.column (n % block.width)) (block.row (n / block.width))
    ∃ after, program.run checks vram = (some (), after) ∧
      rex.Covers (rex.places_from block n) (program.stores checks vram) ∧
      after.plane group = (List.range' n (block.pixels - n)).foldl (rex.pixel_scatter group block).assign (vram.plane group) ∧
      ∀ other ≠ group, after.plane other = vram.plane other := by
  induction budget generalizing n vram with
  | zero => omega
  | succ budget ih =>
    intro program
    obtain ⟨middle, hturn, hstored, hplane, hothers⟩ := run_rectangle_turn checks h hblock group hn vram
    have hcolumn : block.column (n % block.width) = block.end_x ↔ n % block.width + 1 = block.width :=
      Block.along_eq_last (block.mod_lt_width n)
    have hrow : block.row (n / block.width) = block.end_y ↔ n / block.width + 1 = block.height :=
      Block.along_eq_last (Block.div_lt_height hn)
    -- what is left once this pixel is done
    have hrest : ∀ rest : Raster Unit, program = (do
          let source ← rex.rectangle_source group (n % block.width) (block.column (n % block.width)) (block.row (n / block.width))
          rex.write_pixel group (block.column (n % block.width)) (block.row (n / block.width)) source
          rest) →
        (∃ after, rest.run checks middle = (some (), after) ∧
          rex.Covers (rex.places_from block (n + 1)) (rest.stores checks middle) ∧
          after.plane group = (List.range' (n + 1) (block.pixels - (n + 1))).foldl (rex.pixel_scatter group block).assign
            (middle.plane group) ∧ ∀ other ≠ group, after.plane other = middle.plane other) →
        ∃ after, program.run checks vram = (some (), after) ∧
          rex.Covers (rex.places_from block n) (program.stores checks vram) ∧
          after.plane group = (List.range' n (block.pixels - n)).foldl (rex.pixel_scatter group block).assign
            (vram.plane group) ∧ ∀ other ≠ group, after.plane other = vram.plane other := by
      rintro rest hprogram ⟨after, hrun, hstores, hlater, hkept⟩
      rw [hprogram, ← Raster.bind_assoc]
      refine ⟨after, ?_, ?_, ?_, fun other hother => (hkept other hother).trans (hothers other hother)⟩
      · rw [Raster.run_bind checks _ _ hturn]
        exact hrun
      · rw [Raster.stores_bind checks _ _ hturn]
        unfold places_from
        rw [range'_from hn, List.flatMap_cons]
        exact hstored.append hstores
      · rw [range'_from hn, List.foldl_cons, ← hplane]
        exact hlater
    by_cases hend : n % block.width + 1 = block.width
    · obtain ⟨hnext, hfirst, hbelow⟩ := Block.next_row hend
      by_cases hlast : n / block.width + 1 = block.height
      · -- the last pixel of the block
        have hpixels : block.pixels - (n + 1) = 0 := by
          unfold Block.pixels
          rw [hnext, hlast, Nat.sub_self]
        refine hrest (.done ()) ?_ ⟨middle, rfl, ?_, ?_, fun _ _ => rfl⟩
        · show draw_rectangle_loop _ _ _ _ _ _ (budget + 1) _ _ _ = _
          unfold draw_rectangle_loop
          rw [if_neg (not_not_intro (hcolumn.mpr hend)), if_pos (hrow.mpr hlast)]
        · unfold places_from
          rw [hpixels]
          exact rex.covers_nil
        · rw [hpixels]
          rfl
      · have hinside : n + 1 < block.pixels := by
          have hheight := Block.div_lt_height hn
          rw [hnext]
          exact Nat.mul_lt_mul_of_pos_left (by omega) block.width_pos
        have hstep : coordinate_after (decide (block.start_y ≤ block.end_y)) (block.row (n / block.width)) =
            .done (block.row (n / block.width + 1)) := by
          have hheight := Block.div_lt_height hn
          exact Block.step_along hblock.end_y (by unfold Block.height at *; omega) rfl
        obtain hafter := ih hinside (by omega) middle
        rw [hfirst, hbelow, column_zero] at hafter
        refine hrest _ ?_ hafter
        show draw_rectangle_loop _ _ _ _ _ _ (budget + 1) _ _ _ = _
        conv_lhs => unfold draw_rectangle_loop
        rw [if_neg (not_not_intro (hcolumn.mpr hend)), if_neg (fun hy => hlast (hrow.mp hy)), hstep]
        rfl
    · have hroom : n % block.width + 1 < block.width := by
        have hwidth := block.mod_lt_width n
        omega
      obtain ⟨hnext, hsame⟩ := Block.next_column hroom
      have hinside : n + 1 < block.pixels := by
        have hheight := Block.div_lt_height hn
        have hsplit := Nat.div_add_mod n block.width
        have hrows : block.width * (n / block.width + 1) ≤ block.pixels := Nat.mul_le_mul_left _ hheight
        rw [Nat.mul_succ] at hrows
        omega
      obtain hafter := ih hinside (by omega) middle
      rw [hnext, hsame] at hafter
      refine hrest _ ?_ hafter
      show draw_rectangle_loop _ _ _ _ _ _ (budget + 1) _ _ _ = _
      conv_lhs => unfold draw_rectangle_loop
      rw [if_pos (fun hx => hend (hcolumn.mp hx)), column_step hblock hroom]
      rfl

end Rex1

end se_device.lg1.rex1
