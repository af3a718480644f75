import SgiEmu.Device.Lg1.Bt479
import SgiEmu.Device.Lg1.Vc1
import SgiEmu.Device.Lg1.Vram

open se_core se_device.lg1.bt479 se_device.lg1.vc1 se_device.lg1.vram

namespace se_device.lg1.display

def CURSOR_EXTENT : Nat := 32
def CURSOR_PLANE_BYTES : Nat := 128
def CURSOR_ROW_BYTES : Nat := 4
def OVERLAY_PALETTE_BASE : Nat := 0x310

/-- Red, green, blue and alpha. -/
abbrev Rgba := U8 × U8 × U8 × U8

abbrev Column := Fin vc1.DISPLAY_WIDTH
abbrev ScanLine := Fin vc1.DISPLAY_HEIGHT

/-- A finished picture, a color for every column and scan line. -/
abbrev Frame := Column → ScanLine → Rgba

def opaque_color (color : Color) : Rgba := (color.1, color.2.1, color.2.2, 0xff)

/-- The palette index that a display mode and a byte of the pixel plane select. -/
def color_index (mode : U16) (pixel : U8) : Nat :=
  if mode &&& 1 = 0 then ((mode >>> 2 &&& 0x03) <<< 8 ||| pixel.setWidth 16).toNat
  else
    let pixel := if mode &&& 2 = 0 then pixel &&& 0x0f else pixel >>> 4
    ((mode &&& 0x000c) <<< 6 ||| (mode &&& 0x00f0) ||| pixel.setWidth 16).toNat

/-- What the planes show at one place, below the cursor. -/
def plane_color (vram : Vram) (vc1 : Vc1) (dac : Bt479) (x : Column) (y : ScanLine) : Rgba :=
  let overlay := vram.overlay (y * WIDTH + x) &&& 0x03
  if overlay = 0 then
    let identifier := vc1.fill_display_identifiers y x &&& 0x1f
    opaque_color (dac.color (color_index (vc1.display_mode identifier.toNat) (vram.pixel (y * WIDTH + x))))
  else opaque_color (dac.color (OVERLAY_PALETTE_BASE ||| overlay.toNat))

/-- What the cursor shows at one place; nothing where it is transparent. -/
def cursor_color (cursor : Cursor) (dac : Bt479) (x : Column) (y : ScanLine) : Option Rgba :=
  let row := (y : Int) - cursor.top
  let column := (x : Int) - cursor.left
  if 0 ≤ row ∧ row < CURSOR_EXTENT ∧ 0 ≤ column ∧ column < CURSOR_EXTENT then
    let byte := row.toNat * CURSOR_ROW_BYTES + column.toNat / 8
    let shift := 7 - column.toNat % 8
    match (cursor.bitmap byte).getLsbD shift, (cursor.bitmap (CURSOR_PLANE_BYTES + byte)).getLsbD shift with
    | true, false => some (opaque_color (dac.color (cursor.palette_base ||| 1)))
    | false, true => some (opaque_color (dac.color (cursor.palette_base ||| 2)))
    | _, _ => none
  else none

/-- Composes one complete frame. -/
def compose (vram : Vram) (vc1 : Vc1) (dac : Bt479) : Frame := fun x y =>
  match vc1.cursor.bind fun cursor => cursor_color cursor dac x y with
  | some color => color
  | none => plane_color vram vc1 dac x y

/-- Composition reads the displayed planes, the picture of the controller and the palette. -/
theorem compose_congr {vram vram' : Vram} {vc1 vc1' : Vc1} {dac dac' : Bt479} (hvram : Vram.SameDisplay vram vram')
    (hvc1 : Vc1.SamePicture vc1 vc1') (hdac : dac'.palette = dac.palette) :
    compose vram' vc1' dac' = compose vram vc1 dac := by
  have hcolor : ∀ index, dac'.color index = dac.color index := by
    intro index
    unfold Bt479.color
    rw [hdac]
  have hplane : ∀ x y, plane_color vram' vc1' dac' x y = plane_color vram vc1 dac x y := by
    intro x y
    obtain ⟨hpixel, hoverlay⟩ := hvram x y x.isLt y.isLt
    unfold plane_color
    rw [hpixel, hoverlay, hvc1.fill_display_identifiers]
    simp only [hcolor, hvc1.display_mode]
  have hcursor : ∀ cursor x y, cursor_color cursor dac' x y = cursor_color cursor dac x y := by
    intro cursor x y
    unfold cursor_color
    simp only [hcolor]
  funext x y
  unfold compose
  rw [hvc1.cursor, hplane]
  simp only [hcursor]

end se_device.lg1.display
