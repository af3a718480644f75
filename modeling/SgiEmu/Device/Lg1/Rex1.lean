import SgiEmu.Device.Lg1.Vram

open se_core se_device.lg1.vram

namespace se_device.lg1.rex1

def DRAWING_END : Nat := 0x008c
def DUMMY : Nat := 0x07fc
def GO_OFFSET : Nat := 0x0800
def CONFIG_BASE : Nat := 0x4790
def CONFIG_END : Nat := 0x4800
def RWAUX1 : Nat := 0x0070

def OPCODE_MASK : U32 := 0x07
def CMD_BLOCK : U32 := 0x00000008
def CMD_LENGTH32 : U32 := 0x00000010
def CMD_QUADMODE : U32 := 0x00000020
def CMD_XMAJOR : U32 := 0x00000040
def CMD_XYCONTINUE : U32 := 0x00000080
def CMD_STOPONX : U32 := 0x00000100
def CMD_STOPONY : U32 := 0x00000200
def CMD_ENZPATTERN : U32 := 0x00000400
def CMD_ENLSPATTERN : U32 := 0x00000800
def CMD_RGBMODE : U32 := 0x00004000
def CMD_DITHER : U32 := 0x00008000
def CMD_COLORCOMP : U32 := 0x00010000
def CMD_SHADE : U32 := 0x00020000
def CMD_LOGICSRC : U32 := 0x00080000
def CMD_COLORAUX : U32 := 0x00200000
def CMD_LSOPAQUE : U32 := 0x00400000
def CMD_ZOPAQUE : U32 := 0x00800000
def CMD_SHARED_FLAGS : U32 := CMD_LOGICSRC ||| CMD_COLORAUX ||| CMD_LSOPAQUE ||| CMD_ZOPAQUE
def XSTATE_COLORAUX : U32 := 0x10000000
def XSTATE_LOGICSRC : U32 := 0x20000000
def XSTATE_LSOPAQUE : U32 := 0x40000000
def XSTATE_ZOPAQUE : U32 := 0x80000000
def AUX1_WRITE_BUFFER_ZERO : U32 := 0x004
def AUX1_WRITE_BUFFER_ONE : U32 := 0x008
def AUX1_READ_BUFFER_ONE : U32 := 0x010
def AUX1_DOUBLE_BUFFER : U32 := 0x020
def AUX1_COLORCOMPLT : U32 := 0x040
def AUX1_COLORCOMPEQ : U32 := 0x080
def AUX1_COLORCOMPGT : U32 := 0x100
def AUX1_DITHERRANGE : U32 := 0x200
def AUX2_SCREEN_MASK_ENABLES : U32 := 0x0f
/-- `1 << COORDINATE_FRACTION_BITS` -/
def COORDINATE_UNIT : Nat := 0x8000
/-- `1 << END_FRACTION_BITS` -/
def END_UNIT : Nat := 0x800
def COLOR_FRACTION_BITS : Nat := 11
def FRAMEBUFFER_COORDINATE_BIAS : Nat := 0x0800
def FRAMEBUFFER_COORDINATE_MASK : Nat := 0x0fff
def FULL_COORDINATE_MASK : Nat := 0x07ffffff
def MAX_COLOR : Int := 0x7ffff
def PACKED_PIXELS : Nat := 4
def MAX_COMMAND_PIXELS : Nat := 0x200000
def U32_MAX : Nat := 0xffffffff

def DITHER_MATRIX : Vector (Vector U8 4) 4 :=
  #v[#v[0, 8, 2, 10], #v[12, 4, 14, 6], #v[3, 11, 1, 9], #v[15, 7, 13, 5]]

/-- The drawing registers of one context. The coordinates are `u32` values held as
natural numbers. -/
structure Registers where
  command : U32
  aux1 : U32
  xstate : U32
  source_rop : U32
  shared_command_flags : U32
  xstart : Nat
  ystart : Nat
  xendf : Nat
  yendf : Nat
  xsave : Nat
  minorslope : U32
  xymove : U32
  color : Vector U32 3
  color_slope : Vector U32 3
  colorback : U32
  zpattern : U32
  lspattern : U32
  lsmode : U32
  aweight : U32
  rwaux1 : U32
  rwaux2 : U32
  rwmask : U32
  smask1x : U32
  smask1y : U32
  aux2 : U32

def command_flags_from_xstate (value : U32) : U32 :=
  (if value &&& XSTATE_COLORAUX ≠ 0 then CMD_COLORAUX else 0) |||
    (if value &&& XSTATE_LOGICSRC ≠ 0 then CMD_LOGICSRC else 0) |||
    (if value &&& XSTATE_LSOPAQUE ≠ 0 then CMD_LSOPAQUE else 0) |||
    (if value &&& XSTATE_ZOPAQUE ≠ 0 then CMD_ZOPAQUE else 0)

/-- What diagnostics read back of a minor slope, which is written as sign and magnitude. -/
def minor_slope (value : U32) : U32 :=
  let slope := value &&& 0x8001ffff
  let slope := if slope &&& 0x80000000 ≠ 0 then ~~~(slope &&& 0xfffeffff) + 1 else slope
  slope &&& 0x0001ffff

/-- What diagnostics read back of a color slope. -/
def color_slope (value : U32) : U32 :=
  let slope := value &&& 0x801fffff
  let slope := if slope &&& 0x80000000 ≠ 0 then ~~~(slope &&& 0xffefffff) + 1 else slope
  ((slope &&& 0x00080000) <<< 1) ||| (slope &&& 0x001fffff)

def signed_color_slope (value : U32) : Int :=
  let value := value &&& 0x001fffff
  if value &&& 0x00100000 = 0 then value.toNat else (value.toNat : Int) - 0x00200000

def signed_minor_slope (value : U32) : Int :=
  let value := value &&& 0x0001ffff
  if value &&& 0x00010000 = 0 then value.toNat else (value.toNat : Int) - 0x00020000

namespace Registers

def default : Registers :=
  { command := 0, aux1 := 0, xstate := 0, source_rop := 0, shared_command_flags := 0, xstart := 0, ystart := 0
    xendf := 0, yendf := 0, xsave := 0, minorslope := 0, xymove := 0, color := #v[0, 0, 0], color_slope := #v[0, 0, 0]
    colorback := 0, zpattern := 0, lspattern := 0, lsmode := 0, aweight := 0, rwaux1 := 0, rwaux2 := 0, rwmask := 0
    smask1x := 0, smask1y := 0, aux2 := 0 }

def write_xstart (value : Nat) (registers : Registers) : Registers :=
  { registers with xstart := value, xsave := value / COORDINATE_UNIT }

def read (offset : Nat) (registers : Registers) : U32 :=
  match offset with
  | 0x0000 => registers.command
  | 0x0004 => registers.aux1
  | 0x0008 => registers.xstate
  | 0x000c => .ofNat 32 (registers.xstart / COORDINATE_UNIT)
  | 0x0010 => .ofNat 32 (registers.xstart / 16)
  | 0x0014 => .ofNat 32 registers.xstart
  | 0x0018 => .ofNat 32 registers.xendf
  | 0x001c => .ofNat 32 (registers.ystart / COORDINATE_UNIT)
  | 0x0020 => .ofNat 32 (registers.ystart / 16)
  | 0x0024 => .ofNat 32 registers.ystart
  | 0x0028 => .ofNat 32 registers.yendf
  | 0x002c => .ofNat 32 registers.xsave
  | 0x0030 => registers.minorslope
  | 0x0034 => registers.xymove
  | 0x0038 => registers.color[0] >>> COLOR_FRACTION_BITS
  | 0x003c => registers.color[0]
  | 0x0040 => registers.color[1] >>> COLOR_FRACTION_BITS
  | 0x0044 => registers.color[1]
  | 0x0048 => registers.color[2] >>> COLOR_FRACTION_BITS
  | 0x004c => registers.color[2]
  | 0x0050 => registers.color_slope[0]
  | 0x0054 => registers.color_slope[1]
  | 0x0058 => registers.color_slope[2]
  | 0x005c => registers.colorback
  | 0x0060 => registers.zpattern
  | 0x0064 => registers.lspattern
  | 0x0068 => registers.lsmode
  | 0x006c => registers.aweight
  | 0x0070 => registers.rwaux1
  | 0x0074 => registers.rwaux2
  | 0x0078 => registers.rwmask
  | 0x007c => registers.smask1x
  | 0x0080 => registers.smask1y
  | 0x0084 => .ofNat 32 (registers.xendf / END_UNIT)
  | 0x0088 => .ofNat 32 (registers.yendf / END_UNIT)
  | _ => 0

def write (offset : Nat) (value : U32) (registers : Registers) : Registers :=
  match offset with
  | 0x0000 =>
    { registers with
      command := value, source_rop := value >>> 28 &&& 0x0f, shared_command_flags := value &&& CMD_SHARED_FLAGS }
  | 0x0004 => { registers with aux1 := value &&& 0x3ff }
  | 0x0008 =>
    { registers with
      xstate := value
      color := registers.color.set 0 ((value &&& 0xff) <<< COLOR_FRACTION_BITS)
      colorback := value >>> 8 &&& 0xff
      rwmask := (registers.rwmask &&& 0xff00) ||| (value >>> 16 &&& 0xff)
      source_rop := value >>> 24 &&& 0x0f
      shared_command_flags := command_flags_from_xstate value }
  | 0x000c => registers.write_xstart ((value &&& 0xfff).toNat * COORDINATE_UNIT)
  | 0x0010 => registers.write_xstart ((value &&& 0x007fffff).toNat * 16)
  | 0x0014 => registers.write_xstart (value &&& 0x07ffffff).toNat
  | 0x0018 => { registers with xendf := (value &&& 0x007ff800).toNat }
  | 0x001c => { registers with ystart := (value &&& 0xfff).toNat * COORDINATE_UNIT }
  | 0x0020 => { registers with ystart := (value &&& 0x007fffff).toNat * 16 }
  | 0x0024 => { registers with ystart := (value &&& 0x07ffffff).toNat }
  | 0x0028 => { registers with yendf := (value &&& 0x007ff800).toNat }
  | 0x002c => { registers with xsave := (value &&& 0xfff).toNat }
  | 0x0030 => { registers with minorslope := minor_slope value }
  | 0x0034 => { registers with xymove := value &&& 0x07ff07ff }
  | 0x0038 => { registers with color := registers.color.set 0 ((value &&& 0xff) <<< COLOR_FRACTION_BITS) }
  | 0x003c => { registers with color := registers.color.set 0 (value &&& 0x000fffff) }
  | 0x0040 => { registers with color := registers.color.set 1 ((value &&& 0xff) <<< COLOR_FRACTION_BITS) }
  | 0x0044 => { registers with color := registers.color.set 1 (value &&& 0x000fffff) }
  | 0x0048 => { registers with color := registers.color.set 2 ((value &&& 0xff) <<< COLOR_FRACTION_BITS) }
  | 0x004c => { registers with color := registers.color.set 2 (value &&& 0x000fffff) }
  | 0x0050 => { registers with color_slope := registers.color_slope.set 0 (rex1.color_slope value) }
  | 0x0054 => { registers with color_slope := registers.color_slope.set 1 (rex1.color_slope value) }
  | 0x0058 => { registers with color_slope := registers.color_slope.set 2 (rex1.color_slope value) }
  | 0x005c => { registers with colorback := value &&& 0xff }
  | 0x0060 => { registers with zpattern := value }
  | 0x0064 => { registers with lspattern := value }
  | 0x0068 => { registers with lsmode := value &&& 0x000fffff }
  | 0x006c => { registers with aweight := value }
  | 0x0070 => { registers with rwaux1 := value }
  | 0x0074 => { registers with rwaux2 := value }
  | 0x0078 => { registers with rwmask := value &&& 0xffff }
  | 0x007c => { registers with smask1x := value &&& 0x03ff03ff }
  | 0x0080 => { registers with smask1y := value &&& 0x03ff03ff }
  | 0x0084 => { registers with xendf := (value &&& 0xfff).toNat * END_UNIT }
  | 0x0088 => { registers with yendf := (value &&& 0xfff).toNat * END_UNIT }
  | _ => registers

/-- The flag is set in the command. -/
def has (registers : Registers) (flag : U32) : Bool := registers.command &&& flag != 0

/-- The flag is set in the state that commands share with XSTATE. -/
def shares (registers : Registers) (flag : U32) : Bool := registers.shared_command_flags &&& flag != 0

end Registers

/-- Registers that exist once per board. -/
structure ConfigRegisters where
  smask2x : U32
  smask2y : U32
  smask3x : U32
  smask3y : U32
  smask4x : U32
  smask4y : U32
  diagvram : U32
  diagcid : U32
  wclock : U32
  rwdac : U32
  configsel : U32
  rwvc1 : U32
  configmode : U32
  xywin : U32

def ConfigRegisters.default : ConfigRegisters :=
  { smask2x := 0, smask2y := 0, smask3x := 0, smask3y := 0, smask4x := 0, smask4y := 0, diagvram := 0, diagcid := 0
    wclock := 0, rwdac := 0, configsel := 0, rwvc1 := 0, configmode := 0, xywin := 0 }

inductive PeripheralPort where
  | Dac | Vc1 | Clock
deriving DecidableEq, Repr

/-- The action a configuration access requires from the board. -/
inductive ConfigAccess where
  | None
  | Write (port : PeripheralPort) (value : U8)
  | Read (port : PeripheralPort)
deriving DecidableEq, Repr

structure Rex1 where
  current : Registers
  next : Registers
  config : ConfigRegisters
  dummy : U32

/-! ## Pixels -/

def pack_rgb (red green blue : U8) : U8 := (red &&& 0xe0) ||| (blue >>> 3 &&& 0x18) ||| green >>> 5

def pack_double_buffer_rgb (red green blue : U8) : U8 :=
  (red >>> 4 &&& 0x08) ||| (green >>> 5 &&& 0x06) ||| blue >>> 7

def dither_rgb_component (value : U8) (stored_bits : Nat) (threshold : U8) : U8 :=
  let scaled := value >>> (4 - stored_bits) - value >>> 4
  scaled >>> 4 + if threshold < scaled &&& 0x0f then 1 else 0

def logic_operation (operation : U32) (source destination : U8) : U8 :=
  match (operation &&& 0x0f).toNat with
  | 0x0 => 0
  | 0x1 => source &&& destination
  | 0x2 => source &&& ~~~destination
  | 0x3 => source
  | 0x4 => ~~~source &&& destination
  | 0x5 => destination
  | 0x6 => source ^^^ destination
  | 0x7 => source ||| destination
  | 0x8 => ~~~(source ||| destination)
  | 0x9 => ~~~(source ^^^ destination)
  | 0xa => ~~~destination
  | 0xb => source ||| ~~~destination
  | 0xc => ~~~source
  | 0xd => ~~~source ||| destination
  | 0xe => ~~~(source &&& destination)
  | _ => 0xff

/-- Sign-extends an eleven-bit XYMOVE coordinate. -/
def signed_coordinate (value : U32) : Int :=
  let value := value &&& 0x07ff
  if value &&& 0x0400 = 0 then value.toNat else (value.toNat : Int) - 0x0800

/-! ## Unsigned operations on coordinates -/

/-- `x + y` -/
def coordinate_sum (x y : Nat) : Raster Nat :=
  if x + y ≤ U32_MAX then .done (x + y) else .overflow (.done (x + y - (U32_MAX + 1)))

/-- `x - 1` -/
def coordinate_before (x : Nat) : Raster Nat := if 0 < x then .done (x - 1) else .overflow (.done U32_MAX)

/-- `if ascending { x + 1 } else { x - 1 }` -/
def coordinate_after (ascending : Bool) (x : Nat) : Raster Nat :=
  if ascending then coordinate_sum x 1 else coordinate_before x

namespace Rex1

def new : Rex1 := { current := .default, next := .default, config := .default, dummy := 0 }

def reset (_rex : Rex1) : Rex1 := new

def latch_next_context (rex : Rex1) : Rex1 := { rex with current := rex.next }

/-- Maps a drawing coordinate into the stored frame buffer. -/
def framebuffer_coordinate (x y : Nat) (rex : Rex1) : Raster (Option (Nat × Nat)) := do
  let x ← coordinate_sum x (rex.config.xywin >>> 16).toNat
  let y ← coordinate_sum y rex.config.xywin.toNat
  let x := x &&& FRAMEBUFFER_COORDINATE_MASK
  let y := y &&& FRAMEBUFFER_COORDINATE_MASK
  if x < FRAMEBUFFER_COORDINATE_BIAS ∨ y < FRAMEBUFFER_COORDINATE_BIAS then .done none
  else .done (some (x - FRAMEBUFFER_COORDINATE_BIAS, y - FRAMEBUFFER_COORDINATE_BIAS))

def color_component (component : Fin 3) (shade_step : Nat) (rex : Rex1) : U8 :=
  let color : Int := (rex.next.color.get component).toNat
  let color :=
    if rex.next.has CMD_SHADE then color + signed_color_slope (rex.next.color_slope.get component) * shade_step else color
  .ofInt 8 (max 0 (min color MAX_COLOR) / 0x800)

def rgb_pixel (red green blue : U8) (x y : Nat) (rex : Rex1) : U8 :=
  let double_buffer := rex.next.aux1 &&& AUX1_DOUBLE_BUFFER ≠ 0
  if !rex.next.has CMD_DITHER || rex.next.aux1 &&& AUX1_DITHERRANGE == 0 then
    if double_buffer then pack_double_buffer_rgb red green blue else pack_rgb red green blue
  else
    let threshold := (DITHER_MATRIX.get ⟨y % 4, Nat.mod_lt y (Nat.zero_lt_succ 3)⟩).get ⟨x % 4, Nat.mod_lt x (Nat.zero_lt_succ 3)⟩
    if double_buffer then
      dither_rgb_component red 1 threshold <<< 3 ||| dither_rgb_component green 2 threshold <<< 1 |||
        dither_rgb_component blue 1 threshold
    else
      dither_rgb_component red 3 threshold <<< 5 ||| dither_rgb_component blue 2 threshold <<< 3 |||
        dither_rgb_component green 3 threshold

/-- The color a drawing command writes at one step. -/
def source_color (shade_step x y : Nat) (rex : Rex1) : U8 :=
  let red := rex.color_component 0 shade_step
  if !rex.next.has CMD_RGBMODE then red
  else rex.rgb_pixel red (rex.color_component 1 shade_step) (rex.color_component 2 shade_step) x y

def screen_masks_admit (x y : Nat) (rex : Rex1) : Bool :=
  let aux2 := rex.next.aux2
  let bounded (bounds : U32) (value : Nat) : Bool :=
    decide ((bounds &&& 0x03ff).toNat ≤ value) && decide (value ≤ (bounds >>> 16 &&& 0x03ff).toNat)
  let inside (bounds : U32 × U32) : Bool := bounded bounds.1 x && bounded bounds.2 y
  let admits_inside (index : Nat) : Bool := aux2.getLsbD (index + 4)
  let others : List (Nat × U32 × U32) :=
    [(1, rex.config.smask2x, rex.config.smask2y), (2, rex.config.smask3x, rex.config.smask3y),
      (3, rex.config.smask4x, rex.config.smask4y)]
  let enabled := others.filter fun mask => aux2.getLsbD mask.1
  let inside_masks := enabled.filter fun mask => admits_inside mask.1
  let outside_masks := enabled.filter fun mask => !admits_inside mask.1
  if aux2 &&& AUX2_SCREEN_MASK_ENABLES = 0 then true
  else if aux2.getLsbD 0 && inside (rex.next.smask1x, rex.next.smask1y) != admits_inside 0 then false
  else if outside_masks.any fun mask => inside mask.2 then false
  else inside_masks.isEmpty || inside_masks.any fun mask => inside mask.2

/-- The logical pixel that reads and read-modify-write drawing use. -/
def read_pixel_value (group : PlaneGroup) (pixel : U8) (rex : Rex1) : U8 :=
  if group ≠ .Pixel ∨ rex.next.aux1 &&& AUX1_DOUBLE_BUFFER = 0 then pixel
  else if rex.next.aux1 &&& AUX1_READ_BUFFER_ONE = 0 then pixel &&& 0x0f
  else pixel >>> 4

def source_pixel_value (group : PlaneGroup) (pixel : U8) (rex : Rex1) : U8 :=
  if group = .Pixel ∧ rex.next.aux1 &&& AUX1_DOUBLE_BUFFER ≠ 0 then pixel &&& 0x0f else pixel

/-- Routes a logical result and write mask to the selected pixel buffers. -/
def stored_pixel_write (group : PlaneGroup) (result : U8) (rex : Rex1) : U8 × U8 :=
  let write_mask := rex.next.rwmask.setWidth 8
  if group ≠ .Pixel ∨ rex.next.aux1 &&& AUX1_DOUBLE_BUFFER = 0 then (result, write_mask)
  else
    let logical_result := result &&& 0x0f
    let logical_mask := write_mask &&& 0x0f
    (logical_result ||| logical_result <<< 4,
      (if rex.next.aux1 &&& AUX1_WRITE_BUFFER_ZERO ≠ 0 then logical_mask else 0) |||
        if rex.next.aux1 &&& AUX1_WRITE_BUFFER_ONE ≠ 0 then logical_mask <<< 4 else 0)

def color_comparison_passes (source destination : U8) (rex : Rex1) : Bool :=
  !rex.next.has CMD_COLORCOMP ||
    (rex.next.aux1 &&& AUX1_COLORCOMPLT != 0 && decide (source < destination)) ||
    (rex.next.aux1 &&& AUX1_COLORCOMPEQ != 0 && source == destination) ||
    (rex.next.aux1 &&& AUX1_COLORCOMPGT != 0 && decide (destination < source))

def read_pixel (group : PlaneGroup) (x y : Nat) (rex : Rex1) : Raster U8 := do
  match ← rex.framebuffer_coordinate x y with
  | none => .done 0
  | some (x, y) => .read group x y fun pixel => .done (rex.read_pixel_value group pixel)

/-- Applies the logic operation and write mask for one pixel. -/
def write_pixel (group : PlaneGroup) (x y : Nat) (source : U8) (rex : Rex1) : Raster Unit := do
  match ← rex.framebuffer_coordinate x y with
  | none => .done ()
  | some (x, y) =>
    if !rex.screen_masks_admit x y then .done ()
    else
      .read group x y fun raw_destination =>
        let source := rex.source_pixel_value group source
        let destination := rex.read_pixel_value group raw_destination
        if !rex.color_comparison_passes source destination then .done ()
        else
          let (result, write_mask) := rex.stored_pixel_write group (logic_operation rex.next.source_rop source destination)
          .write group x y result write_mask (.done ())

/-! ## Drawing commands -/

def integer_x (rex : Rex1) : Nat := rex.next.xstart / COORDINATE_UNIT
def integer_y (rex : Rex1) : Nat := rex.next.ystart / COORDINATE_UNIT
def end_x (rex : Rex1) : Nat := rex.next.xendf / END_UNIT
def end_y (rex : Rex1) : Nat := rex.next.yendf / END_UNIT

/-- `wrapping_add_signed`, masked to the width of a coordinate. -/
def step_coordinate (coordinate : Nat) (step : Int) : Nat :=
  (((coordinate : Int) + step) % 0x100000000).toNat &&& FULL_COORDINATE_MASK

/-- The loop of `draw_line`, with the pixels left of its budget. -/
def draw_line_loop (group : PlaneGroup) (x_major : Bool) (end_major : Nat) (major_step : Int) (rex : Rex1) :
    (budget pixel x y : Nat) → Raster Unit
  | 0, _, _, _ => .done ()
  | budget + 1, pixel, x, y => do
    let pixel_x := x / COORDINATE_UNIT
    let pixel_y := y / COORDINATE_UNIT
    let pattern_length := (rex.next.lsmode >>> 16 &&& 0x0f).toNat + 17
    let pattern_repeat := max (rex.next.lsmode >>> 8 &&& 0xff).toNat 1
    let pattern_set := !rex.next.has CMD_ENLSPATTERN ||
      rex.next.lspattern.getLsbD (31 - pixel / pattern_repeat % pattern_length)
    if pattern_set then rex.write_pixel group pixel_x pixel_y (rex.source_color pixel pixel_x pixel_y)
    else if rex.next.shares CMD_LSOPAQUE then rex.write_pixel group pixel_x pixel_y (rex.next.colorback.setWidth 8)
    else .done ()
    if (if x_major then pixel_x else pixel_y) = end_major then .done ()
    else
      let minor_step := signed_minor_slope rex.next.minorslope
      draw_line_loop group x_major end_major major_step rex budget (pixel + 1)
        (step_coordinate x (if x_major then major_step else minor_step))
        (step_coordinate y (if x_major then minor_step else major_step))

/-- Draws one aliased vector. -/
def draw_line (group : PlaneGroup) (x_major : Bool) (end_major : Nat) (rex : Rex1) : Raster Unit :=
  let start_major := if x_major then rex.integer_x else rex.integer_y
  let major_step : Int := if start_major ≤ end_major then COORDINATE_UNIT else -COORDINATE_UNIT
  rex.draw_line_loop group x_major end_major major_step MAX_COMMAND_PIXELS 0 rex.next.xstart rex.next.ystart

/-- The source of one pixel of a rectangle: a sample of the frame buffer or the color. -/
def rectangle_source (group : PlaneGroup) (shade_step x y : Nat) (rex : Rex1) : Raster U8 :=
  if rex.next.shares CMD_LOGICSRC then
    let source_x := (x : Int) + signed_coordinate (rex.next.xymove >>> 16)
    let source_y := (y : Int) + signed_coordinate rex.next.xymove
    if 0 ≤ source_x ∧ source_x ≤ U32_MAX ∧ 0 ≤ source_y ∧ source_y ≤ U32_MAX then
      rex.read_pixel group source_x.toNat source_y.toNat
    else .done 0
  else .done (rex.source_color shade_step x y)

/-- The loops of `draw_rectangle`, one turn for each pixel of its budget. -/
def draw_rectangle_loop (group : PlaneGroup) (start_x start_y end_x end_y : Nat) (rex : Rex1) :
    (budget shade_step x y : Nat) → Raster Unit
  | 0, _, _, _ => .done ()
  | budget + 1, shade_step, x, y => do
    let source ← rex.rectangle_source group shade_step x y
    rex.write_pixel group x y source
    if x ≠ end_x then
      let x ← coordinate_after (start_x ≤ end_x) x
      draw_rectangle_loop group start_x start_y end_x end_y rex budget (shade_step + 1) x y
    else if y = end_y then .done ()
    else
      let y ← coordinate_after (start_y ≤ end_y) y
      draw_rectangle_loop group start_x start_y end_x end_y rex budget 0 start_x y

def draw_rectangle (group : PlaneGroup) (start_x start_y end_x end_y : Nat) (rex : Rex1) : Raster Unit :=
  rex.draw_rectangle_loop group start_x start_y end_x end_y MAX_COMMAND_PIXELS 0 start_x start_y

/-- `u32::saturating_add(1)` away from the end or `saturating_sub(1)` back to it, and
the shift into a start register, which drops what leaves the word. -/
def next_row (y end_y : Nat) : Nat :=
  ((if end_y < y then y - 1 else min (y + 1) U32_MAX) * COORDINATE_UNIT) % 0x100000000

/-- One pixel of a pattern: the color where its bit is set, and else the
background where the command is opaque. -/
def pattern_pixel (group : PlaneGroup) (set opaque_pattern : Bool) (shade_step x y : Nat) (rex : Rex1) : Raster Unit :=
  if set then rex.write_pixel group x y (rex.source_color shade_step x y)
  else if opaque_pattern then rex.write_pixel group x y (rex.next.colorback.setWidth 8)
  else .done ()

/-- The loop of `draw_pattern`; returns where it ends. -/
def draw_pattern_loop (group : PlaneGroup) (y : Nat) (rex : Rex1) : (remaining bit x : Nat) → Raster Nat
  | 0, _, x => .done x
  | remaining + 1, bit, x =>
    if rex.next.has CMD_STOPONX && decide (rex.end_x < x) then .done x
    else do
      rex.pattern_pixel group (rex.next.zpattern.getLsbD (31 - bit)) (rex.next.shares CMD_ZOPAQUE) bit x y
      let x ← coordinate_sum x 1
      draw_pattern_loop group y rex remaining (bit + 1) x

/-- Draws one span whose pixels the Z pattern selects. -/
def draw_pattern (group : PlaneGroup) (start_x y : Nat) (rex : Rex1) : Raster Rex1 := do
  let length := if rex.next.has CMD_LENGTH32 then 32 else 16
  let x ← rex.draw_pattern_loop group y length 0 start_x
  if rex.next.has CMD_BLOCK && rex.next.has CMD_STOPONX && decide (rex.end_x < x) then
    .done { rex with next := { rex.next with ystart := next_row y rex.end_y, xsave := rex.integer_x } }
  else .done { rex with next := { rex.next with xsave := x } }

/-- The loop of `draw_line_stipple`. -/
def draw_line_stipple_loop (group : PlaneGroup) (ascending : Bool) (y : Nat) (rex : Rex1) :
    (budget pixel x : Nat) → Raster Unit
  | 0, _, _ => .done ()
  | budget + 1, pixel, x => do
    let length := (rex.next.lsmode >>> 16 &&& 0x0f).toNat + 17
    rex.pattern_pixel group (rex.next.lspattern.getLsbD (31 - pixel % length)) (rex.next.shares CMD_LSOPAQUE) pixel x y
    if x = rex.end_x then .done ()
    else
      let x ← coordinate_after ascending x
      draw_line_stipple_loop group ascending y rex budget (pixel + 1) x

/-- Draws one span that the line stipple pattern selects. -/
def draw_line_stipple (group : PlaneGroup) (start_x y : Nat) (rex : Rex1) : Raster Rex1 := do
  rex.draw_line_stipple_loop group (start_x ≤ rex.end_x) y MAX_COMMAND_PIXELS 0 start_x
  let rows := CMD_BLOCK ||| CMD_QUADMODE ||| CMD_XYCONTINUE ||| CMD_STOPONX
  if rex.next.command &&& rows = rows then
    .done { rex with next := { rex.next with ystart := next_row y rex.end_y, xsave := rex.integer_x } }
  else .done rex

/-- The byte of a host word that a lane carries. -/
def lane_byte (packed : U32) (lane : Nat) : U8 :=
  (packed >>> (8 * (PACKED_PIXELS - 1 - lane % PACKED_PIXELS))).setWidth 8

/-- The loop that repeats a host word as a tile. -/
def write_tile_loop (group : PlaneGroup) (ascending : Bool) (y : Nat) (rex : Rex1) : (budget pixel x : Nat) → Raster Unit
  | 0, _, _ => .done ()
  | budget + 1, pixel, x => do
    rex.write_pixel group x y (lane_byte rex.next.rwaux1 pixel)
    if x = rex.end_x then .done ()
    else
      let x ← coordinate_after ascending x
      write_tile_loop group ascending y rex budget (pixel + 1) x

/-- The loop over the lanes of a host word; returns the coordinates it ends at and
whether it completed the span. -/
def write_lanes_loop (group : PlaneGroup) (rectangle stop_on_x x_ascending y_ascending : Bool) (rex : Rex1) :
    (remaining lane x y : Nat) → Raster (Nat × Nat × Bool)
  | 0, _, x, y => .done (x, y, false)
  | remaining + 1, lane, x, y =>
    let past_end := if x_ascending then decide (rex.end_x < x) else decide (x < rex.end_x)
    if !rectangle && stop_on_x && past_end then .done (x, y, true)
    else do
      rex.write_pixel group x y (lane_byte rex.next.rwaux1 lane)
      if rectangle && decide (x = rex.end_x) then
        if y ≠ rex.end_y then
          let y ← coordinate_after y_ascending y
          .done (rex.integer_x, y, false)
        else .done (rex.integer_x, y, false)
      else if !rectangle && stop_on_x && decide (x = rex.end_x) then .done (x, y, true)
      else
        let x ← coordinate_after x_ascending x
        write_lanes_loop group rectangle stop_on_x x_ascending y_ascending rex remaining (lane + 1) x y

/-- `value << COORDINATE_FRACTION_BITS`. -/
def start_register (coordinate : Nat) : Nat := coordinate * COORDINATE_UNIT % 0x100000000

/-- Writes packed host pixels into the frame buffer. -/
def write_packed_pixels (group : PlaneGroup) (start_x start_y : Nat) (rex : Rex1) : Raster Rex1 :=
  let tiled := CMD_BLOCK ||| CMD_QUADMODE ||| CMD_XYCONTINUE ||| CMD_STOPONX
  let blocks := CMD_BLOCK ||| CMD_QUADMODE ||| CMD_XYCONTINUE
  let origin_x := rex.integer_x
  let x_ascending := decide (origin_x ≤ rex.end_x)
  if rex.next.command &&& tiled = CMD_QUADMODE ||| CMD_STOPONX then do
    rex.write_tile_loop group x_ascending start_y MAX_COMMAND_PIXELS 0 origin_x
    .done { rex with next := { rex.next with xsave := origin_x } }
  else do
    let (x, y, span_complete) ← rex.write_lanes_loop group (rex.next.command &&& blocks == blocks)
      (rex.next.has CMD_STOPONX) x_ascending (start_y ≤ rex.end_y) PACKED_PIXELS 0 start_x start_y
    .done
      { rex with
        next := { rex.next with xsave := if span_complete then origin_x else x, ystart := start_register y } }

/-- Writes one host-supplied RGB pixel and advances the rectangle address. -/
def write_host_rgb_pixel (group : PlaneGroup) (x y : Nat) (rex : Rex1) : Raster Rex1 := do
  let rgb := rex.next.rwaux1
  rex.write_pixel group x y
    (rex.rgb_pixel ((rgb >>> 16).setWidth 8) ((rgb >>> 8).setWidth 8) (rgb.setWidth 8) x y)
  let blocks := CMD_BLOCK ||| CMD_XYCONTINUE
  let rectangle := rex.next.command &&& blocks == blocks
  if rectangle && decide (x = rex.end_x) then
    let rex' := { rex with next := { rex.next with xsave := rex.integer_x } }
    if y ≠ rex.end_y then
      let next_y ← coordinate_after (y < rex.end_y) y
      .done { rex' with next := { rex'.next with ystart := start_register next_y } }
    else .done rex'
  else if rectangle && decide (rex.end_x < rex.integer_x) then
    .done { rex with next := { rex.next with xsave := (x + U32_MAX) % 0x100000000 &&& FRAMEBUFFER_COORDINATE_MASK } }
  else .done { rex with next := { rex.next with xsave := (x + 1) % 0x100000000 &&& FRAMEBUFFER_COORDINATE_MASK } }

/-- The loop over the lanes of a host word that is read. -/
def read_lanes_loop (group : PlaneGroup) (rectangle x_ascending y_ascending : Bool) (rex : Rex1) :
    (remaining lane : Nat) → (latch : U32) → (x y : Nat) → Raster (U32 × Nat × Nat)
  | 0, _, latch, x, y => .done (latch, x, y)
  | remaining + 1, lane, latch, x, y => do
    let pixel ← rex.read_pixel group x y
    let shift := 8 * (PACKED_PIXELS - 1 - lane)
    let latch := (latch &&& ~~~((0xff : U32) <<< shift)) ||| pixel.setWidth 32 <<< shift
    if rectangle && decide (x = rex.end_x) then
      if y ≠ rex.end_y then
        let y ← coordinate_after y_ascending y
        .done (latch, rex.integer_x, y)
      else .done (latch, rex.integer_x, y)
    else
      let x ← coordinate_after (!(rectangle && !x_ascending)) x
      read_lanes_loop group rectangle x_ascending y_ascending rex remaining (lane + 1) latch x y

/-- Reads four packed pixels into the host data latch. -/
def read_packed_pixels (rex : Rex1) : Raster Rex1 := do
  let blocks := CMD_BLOCK ||| CMD_QUADMODE ||| CMD_XYCONTINUE
  let x := if rex.next.has CMD_XYCONTINUE then rex.next.xsave else rex.integer_x
  let (latch, x, y) ← rex.read_lanes_loop (.from_aux2 rex.next.aux2) (rex.next.command &&& blocks == blocks)
    (rex.integer_x ≤ rex.end_x) (rex.integer_y ≤ rex.end_y) PACKED_PIXELS 0 rex.next.rwaux1 x rex.integer_y
  .done { rex with next := { rex.next with rwaux1 := latch, xsave := x, ystart := start_register y } }

/-- A drawing command whose start coordinates are known. -/
def draw_from (group : PlaneGroup) (start_x start_y : Nat) (rex : Rex1) : Raster Rex1 :=
  let command := rex.next.command
  let line_mode := command &&& (CMD_XMAJOR ||| CMD_QUADMODE ||| CMD_STOPONX ||| CMD_STOPONY)
  let stipple := CMD_ENLSPATTERN ||| CMD_QUADMODE ||| CMD_STOPONX
  let quad := CMD_BLOCK ||| CMD_QUADMODE ||| CMD_STOPONX ||| CMD_STOPONY
  if rex.next.shares CMD_COLORAUX then
    if rex.next.has CMD_RGBMODE then rex.write_host_rgb_pixel group start_x start_y
    else rex.write_packed_pixels group start_x start_y
  else if rex.next.has CMD_ENZPATTERN then rex.draw_pattern group start_x start_y
  else if line_mode = CMD_XMAJOR ||| CMD_STOPONX then do
    rex.draw_line group true rex.end_x
    .done rex
  else if line_mode = CMD_STOPONY then do
    rex.draw_line group false rex.end_y
    .done rex
  else if command &&& stipple = stipple then rex.draw_line_stipple group start_x start_y
  else if command &&& quad = CMD_QUADMODE ||| CMD_STOPONX then do
    rex.draw_rectangle group start_x start_y rex.end_x start_y
    .done rex
  else if command &&& quad = quad then do
    rex.draw_rectangle group start_x start_y rex.end_x rex.end_y
    .done rex
  else do
    rex.write_pixel group start_x start_y (rex.source_color 0 start_x start_y)
    .done rex

/-- Runs one drawing command. -/
def draw (rex : Rex1) : Raster Rex1 :=
  let group := PlaneGroup.from_aux2 rex.next.aux2
  if rex.next.has CMD_XYCONTINUE then rex.draw_from group rex.next.xsave rex.integer_y
  else { rex with next := { rex.next with xsave := rex.integer_x } }.draw_from group rex.integer_x rex.integer_y

/-- Runs the command of the working context and latches the result. -/
def execute (rex : Rex1) : Raster Rex1 := do
  let rex ← match (rex.next.command &&& OPCODE_MASK).toNat with
    | 1 => rex.draw
    | 3 => rex.read_packed_pixels
    | _ => .done rex
  .done rex.latch_next_context

/-! ## Register windows -/

def read_drawing (offset : Nat) (rex : Rex1) : U32 := rex.current.read offset

def write_drawing (offset : Nat) (value : U32) (rex : Rex1) : Rex1 := { rex with next := rex.next.write offset value }

def write_drawing_go (offset : Nat) (value : U32) (rex : Rex1) : Raster Rex1 := (rex.write_drawing offset value).execute

def write_host_data_go (value : U32) (rex : Rex1) : Raster Rex1 :=
  { rex with next := { rex.next with rwaux1 := value } }.execute

/-- Presents what the register held before the command runs. -/
def read_host_data_go (rex : Rex1) : Raster (U32 × Rex1) := do
  let next ← rex.execute
  .done (rex.current.rwaux1, next)

def read_drawing_go (offset : Nat) (rex : Rex1) : Raster (U32 × Rex1) :=
  if offset = RWAUX1 then rex.read_host_data_go
  else do
    let next ← rex.execute
    .done (next.current.read offset, next)

def read_config (offset : Nat) (rex : Rex1) : U32 × ConfigAccess :=
  match offset with
  | 0x4790 => (rex.config.smask2x, .None)
  | 0x4794 => (rex.config.smask2y, .None)
  | 0x4798 => (rex.config.smask3x, .None)
  | 0x479c => (rex.config.smask3y, .None)
  | 0x47a0 => (rex.config.smask4x, .None)
  | 0x47a4 => (rex.config.smask4y, .None)
  | 0x47a8 => (rex.current.aux2, .None)
  | 0x47d8 => (rex.config.diagvram, .None)
  | 0x47dc => (rex.config.diagcid, .None)
  | 0x47e4 => (rex.config.wclock, .Read .Clock)
  | 0x47e8 => (rex.config.rwdac, .Read .Dac)
  | 0x47ec => (rex.config.configsel, .None)
  | 0x47f0 => (rex.config.rwvc1, .Read .Vc1)
  | 0x47fc => (rex.config.xywin, .None)
  | _ => (0, .None)

def write_config (offset : Nat) (value : U32) (rex : Rex1) : ConfigAccess × Rex1 :=
  let config := rex.config
  match offset with
  | 0x4790 => (.None, { rex with config := { config with smask2x := value &&& 0x03ff03ff } })
  | 0x4794 => (.None, { rex with config := { config with smask2y := value &&& 0x03ff03ff } })
  | 0x4798 => (.None, { rex with config := { config with smask3x := value &&& 0x03ff03ff } })
  | 0x479c => (.None, { rex with config := { config with smask3y := value &&& 0x03ff03ff } })
  | 0x47a0 => (.None, { rex with config := { config with smask4x := value &&& 0x03ff03ff } })
  | 0x47a4 => (.None, { rex with config := { config with smask4y := value &&& 0x03ff03ff } })
  | 0x47a8 => (.None, { rex with next := { rex.next with aux2 := value &&& 0x7fffffff } })
  | 0x47d8 => (.None, { rex with config := { config with diagvram := value } })
  | 0x47dc => (.None, { rex with config := { config with diagcid := value } })
  | 0x47e4 => (.Write .Clock (value.setWidth 8), { rex with config := { config with wclock := value &&& 0xff } })
  | 0x47e8 => (.Write .Dac (value.setWidth 8), { rex with config := { config with rwdac := value &&& 0xff } })
  | 0x47ec => (.None, { rex with config := { config with configsel := value &&& 0x07 } })
  | 0x47f0 => (.Write .Vc1 (value.setWidth 8), { rex with config := { config with rwvc1 := value &&& 0xff } })
  | 0x47f4 => (.None, rex.latch_next_context)
  | 0x47f8 => (.None, { rex with config := { config with configmode := value } })
  | 0x47fc => (.None, { rex with config := { config with xywin := value &&& 0x0fff0fff } })
  | _ => (.None, rex)

/-- Stores the byte that a peripheral returned in its data port. -/
def complete_config_read (port : PeripheralPort) (value : U8) (rex : Rex1) : Rex1 :=
  match port with
  | .Dac => { rex with config := { rex.config with rwdac := value.setWidth 32 } }
  | .Vc1 => { rex with config := { rex.config with rwvc1 := value.setWidth 32 } }
  | .Clock => { rex with config := { rex.config with wclock := value.setWidth 32 } }

end Rex1

end se_device.lg1.rex1
