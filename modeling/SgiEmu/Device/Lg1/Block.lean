import SgiEmu.Device.Lg1.Coordinates

open se_core se_device.lg1.vram

namespace se_device.lg1.rex1

/-! ## Blocks -/

/-- A block by the corners its traversal starts and ends at. -/
structure Block where
  start_x : Nat
  start_y : Nat
  end_x : Nat
  end_y : Nat

namespace Block

/-- A drawing coordinate inside the block, its edges included. -/
def Contains (block : Block) (x y : Nat) : Prop :=
  (min block.start_x block.end_x ≤ x ∧ x ≤ max block.start_x block.end_x) ∧
    min block.start_y block.end_y ≤ y ∧ y ≤ max block.start_y block.end_y

/-- The number of coordinates from the first to the last one, both included. -/
def extent (first last : Nat) : Nat := max first last - min first last + 1

/-- The coordinate at a distance from the first one. -/
def along (first last distance : Nat) : Nat := if first ≤ last then first + distance else first - distance

def width (block : Block) : Nat := extent block.start_x block.end_x
def height (block : Block) : Nat := extent block.start_y block.end_y
def column (block : Block) (i : Nat) : Nat := along block.start_x block.end_x i
def row (block : Block) (j : Nat) : Nat := along block.start_y block.end_y j

/-- `rows * ceil(width / 4)` -/
def words (block : Block) : Nat := block.height * ((block.width + 3) / 4)

/-- The block lies in the coordinates of the drawing registers. -/
structure Drawable (block : Block) : Prop where
  start_x : block.start_x ≤ 0xfff
  start_y : block.start_y ≤ 0xfff
  end_x : block.end_x ≤ 0xfff
  end_y : block.end_y ≤ 0xfff

/-- The corners of the block do not lie past a limit. -/
structure Within (limit : Nat) (block : Block) : Prop where
  start_x : block.start_x ≤ limit
  start_y : block.start_y ≤ limit
  end_x : block.end_x ≤ limit
  end_y : block.end_y ≤ limit

/-- Where the word after one starts: distances of its first column and of its row. -/
def next_word (block : Block) (at_word : Nat × Nat) : Nat × Nat :=
  if at_word.1 + 4 < block.width then (at_word.1 + 4, at_word.2) else (0, min (at_word.2 + 1) (block.height - 1))

/-- A word starts inside the block. -/
def Inside (block : Block) (at_word : Nat × Nat) : Prop := at_word.1 < block.width ∧ at_word.2 < block.height

theorem Within.mono {block : Block} {limit wider : Nat} (h : block.Within limit) (hwider : limit ≤ wider) :
    block.Within wider :=
  ⟨Nat.le_trans h.start_x hwider, Nat.le_trans h.start_y hwider, Nat.le_trans h.end_x hwider, Nat.le_trans h.end_y hwider⟩

theorem Drawable.within {block : Block} (h : block.Drawable) : block.Within 0xfff :=
  ⟨h.start_x, h.start_y, h.end_x, h.end_y⟩

theorem Drawable.traversable {block : Block} (h : block.Drawable) : block.Within 0xffffff := h.within.mono (by decide)

theorem extent_pos (first last : Nat) : 0 < extent first last := Nat.succ_pos _

theorem inside_next {block : Block} {at_word : Nat × Nat} (h : block.Inside at_word) : block.Inside (block.next_word at_word) := by
  have hwidth : 0 < block.width := extent_pos _ _
  have hheight : 0 < block.height := extent_pos _ _
  have hcolumn := h.1
  have hrow := h.2
  unfold next_word
  split
  · rename_i hroom
    exact ⟨hroom, hrow⟩
  · exact ⟨hwidth, by dsimp only; omega⟩

theorem along_le {first last distance limit : Nat} (hfirst : first ≤ limit) (hlast : last ≤ limit)
    (h : distance < extent first last) : along first last distance ≤ limit := by
  unfold extent at h
  unfold along
  split <;> omega

/-- The distances enumerate the coordinates between the first and the last one. -/
theorem exists_along {first last coordinate : Nat} :
    (∃ distance < extent first last, along first last distance = coordinate) ↔
      min first last ≤ coordinate ∧ coordinate ≤ max first last := by
  unfold extent along
  by_cases hascending : first ≤ last
  · constructor
    · rintro ⟨distance, hdistance, rfl⟩
      rw [if_pos hascending]
      omega
    · intro hbetween
      refine ⟨coordinate - first, by omega, ?_⟩
      rw [if_pos hascending]
      omega
  · constructor
    · rintro ⟨distance, hdistance, rfl⟩
      rw [if_neg hascending]
      omega
    · intro hbetween
      refine ⟨first - coordinate, by omega, ?_⟩
      rw [if_neg hascending]
      omega

/-- The last coordinate is the one at the full distance. -/
theorem along_eq_last {first last distance : Nat} (h : distance < extent first last) :
    along first last distance = last ↔ distance + 1 = extent first last := by
  unfold extent at h ⊢
  unfold along
  split <;> omega

/-- One step toward the last coordinate. -/
theorem step_along {first last distance : Nat} {ascending : Bool} (hlast : last ≤ 0xffffff)
    (h : distance + 1 < extent first last) (hascending : ascending = decide (first ≤ last)) :
    coordinate_after ascending (along first last distance) = .done (along first last (distance + 1)) := by
  have hmax : U32_MAX = 0xffffffff := rfl
  unfold extent at h
  subst hascending
  unfold along coordinate_after coordinate_sum coordinate_before
  by_cases hdirection : first ≤ last
  · rw [decide_eq_true hdirection, if_pos rfl, if_pos hdirection, if_pos hdirection, if_pos (by omega), Nat.add_assoc]
  · rw [decide_eq_false hdirection, if_neg Bool.false_ne_true, if_neg hdirection, if_neg hdirection, if_pos (by omega),
      Nat.sub_sub]

/-- A step within a block goes the way the whole block does. -/
theorem direction_along {first last distance : Nat} (h : distance + 1 < extent first last) :
    decide (along first last distance ≤ last) = decide (first ≤ last) := by
  unfold extent at h
  unfold along
  rw [decide_eq_decide]
  split <;> omega

end Block

namespace Rex1

/-! ## Pixels of the block -/

/-- Where the frame buffer keeps a drawing coordinate, in a window with its origin. -/
def cell (xywin : U32) (x y : Nat) : Option (Nat × Nat) :=
  let x := (x + (xywin >>> 16).toNat) &&& FRAMEBUFFER_COORDINATE_MASK
  let y := (y + xywin.toNat) &&& FRAMEBUFFER_COORDINATE_MASK
  if x < FRAMEBUFFER_COORDINATE_BIAS ∨ y < FRAMEBUFFER_COORDINATE_BIAS then none
  else some (x - FRAMEBUFFER_COORDINATE_BIAS, y - FRAMEBUFFER_COORDINATE_BIAS)

/-- The storage index of a drawing coordinate; none outside the frame buffer. -/
def storage (xywin : U32) (x y : Nat) : Option Nat := (cell xywin x y).bind fun place => index place.1 place.2

/-- What a plane shows at a storage index. -/
def sample (group : PlaneGroup) (vram : Vram) : Option Nat → U8
  | none => 0
  | some position => vram.plane group position

variable {rex : Rex1}

theorem framebuffer_coordinate_eq {x y : Nat} (hx : x ≤ 0x1ffffff) (hy : y ≤ 0x1ffffff)
    (hxywin : rex.config.xywin.toNat ≤ 0x0fff0fff) : rex.framebuffer_coordinate x y = .done (cell rex.config.xywin x y) := by
  have hmax : U32_MAX = 0xffffffff := rfl
  have hwindow := window_column_le rex.config.xywin
  have hcolumn : coordinate_sum x (rex.config.xywin >>> 16).toNat = .done (x + (rex.config.xywin >>> 16).toNat) :=
    if_pos (by omega)
  have hrow : coordinate_sum y rex.config.xywin.toNat = .done (y + rex.config.xywin.toNat) := if_pos (by omega)
  unfold framebuffer_coordinate cell
  rw [hcolumn, hrow]
  change (if _ then Raster.done none else Raster.done (some _)) = Raster.done (if _ then none else some _)
  split <;> rfl

/-! ## The traversal of a block -/

variable {block : Block}

theorem column_le {limit : Nat} (hblock : block.Within limit) {i : Nat} (h : i < block.width) : block.column i ≤ limit :=
  Block.along_le hblock.start_x hblock.end_x h

theorem row_le {limit : Nat} (hblock : block.Within limit) {j : Nat} (h : j < block.height) : block.row j ≤ limit :=
  Block.along_le hblock.start_y hblock.end_y h

theorem column_zero (block : Block) : block.column 0 = block.start_x := by
  unfold Block.column Block.along
  split <;> rfl

theorem row_zero (block : Block) : block.row 0 = block.start_y := by
  unfold Block.row Block.along
  split <;> rfl

theorem column_step (hblock : block.Within 0xffffff) {i : Nat} (hnext : i + 1 < block.width) :
    coordinate_after (decide (block.start_x ≤ block.end_x)) (block.column i) = .done (block.column (i + 1)) :=
  Block.step_along hblock.end_x hnext rfl

end Rex1

end se_device.lg1.rex1
