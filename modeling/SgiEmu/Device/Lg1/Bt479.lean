import Mathlib.Logic.Function.Basic
import SgiEmu.Core.Word

open se_core

namespace se_device.lg1.bt479

def PALETTE_ENTRIES : Nat := 1024
def BANK_ENTRIES : Nat := 256
def OVERLAY_ENTRIES : Nat := 16
def COMMAND_REGISTER_0 : U8 := 0x82#8

/-- Red, green and blue. -/
abbrev Color := U8 × U8 × U8

inductive Selector where
  | WriteAddress | PaletteData | PixelReadMask | ReadAddress | OverlayWriteAddress | OverlayData | ControlData
  | OverlayReadAddress
deriving DecidableEq, Repr

def Selector.from_bits (bits : U8) : Selector :=
  match (bits &&& 7).toNat with
  | 0 => .WriteAddress
  | 1 => .PaletteData
  | 2 => .PixelReadMask
  | 3 => .ReadAddress
  | 4 => .OverlayWriteAddress
  | 5 => .OverlayData
  | 6 => .ControlData
  | _ => .OverlayReadAddress

/-- A color on its way through a data port: the component that comes next, the
red and green bytes of a write, the bytes of a read. -/
structure Transfer where
  component : Nat
  staged : U8 × U8
  prefetched : Color

structure Bt479 where
  palette : Nat → Color
  overlay_palette : Nat → Color
  control : U8 → U8
  address : U8
  overlay_address : U8
  pixel_read_mask : U8
  color_transfer : Transfer
  overlay_transfer : Transfer

namespace Transfer

def new : Transfer := { component := 0, staged := (0, 0), prefetched := (0, 0, 0) }

/-- Holds a red or green byte; blue completes the color. -/
def write (value : U8) (transfer : Transfer) : Option Color × Transfer :=
  match transfer.component with
  | 0 => (none, { transfer with staged := (value, transfer.staged.2), component := 1 })
  | 1 => (none, { transfer with staged := (transfer.staged.1, value), component := 2 })
  | _ => (some (transfer.staged.1, transfer.staged.2, value), { transfer with component := 0 })

/-- The next byte of the prefetched color; the flag tells whether it was blue. -/
def read (transfer : Transfer) : U8 × Bool × Transfer :=
  match transfer.component with
  | 0 => (transfer.prefetched.1, false, { transfer with component := 1 })
  | 1 => (transfer.prefetched.2.1, false, { transfer with component := 2 })
  | _ => (transfer.prefetched.2.2, true, { transfer with component := 0 })

end Transfer

namespace Bt479

def new : Bt479 :=
  { palette := fun _ => (0, 0, 0), overlay_palette := fun _ => (0, 0, 0), control := fun _ => 0, address := 0
    overlay_address := 0, pixel_read_mask := 0, color_transfer := .new, overlay_transfer := .new }

def reset (_dac : Bt479) : Bt479 := new

/-- The displayed color of a ten-bit palette index. -/
def color (dac : Bt479) (index : Nat) : Color := dac.palette (index % PALETTE_ENTRIES)

/-- The palette entry that the host bank and address select. -/
def host_entry (dac : Bt479) : Nat :=
  (dac.control COMMAND_REGISTER_0 >>> 4 &&& 3).toNat * BANK_ENTRIES + dac.address.toNat

def prefetch (dac : Bt479) : Bt479 :=
  { dac with
    color_transfer := { dac.color_transfer with prefetched := dac.palette dac.host_entry }
    address := dac.address + 1 }

def prefetch_overlay (dac : Bt479) : Bt479 :=
  { dac with
    overlay_transfer :=
      { dac.overlay_transfer with prefetched := dac.overlay_palette (dac.overlay_address.toNat % OVERLAY_ENTRIES) }
    overlay_address := dac.overlay_address + 1 }

def write_color (value : U8) (dac : Bt479) : Bool × Bt479 :=
  match dac.color_transfer.write value with
  | (none, color_transfer) => (false, { dac with color_transfer })
  | (some color, color_transfer) =>
    (dac.palette dac.host_entry != color,
      { dac with palette := Function.update dac.palette dac.host_entry color, address := dac.address + 1, color_transfer })

def write_overlay_color (value : U8) (dac : Bt479) : Bt479 :=
  match dac.overlay_transfer.write value with
  | (none, overlay_transfer) => { dac with overlay_transfer }
  | (some color, overlay_transfer) =>
    { dac with
      overlay_palette := Function.update dac.overlay_palette (dac.overlay_address.toNat % OVERLAY_ENTRIES) color
      overlay_address := dac.overlay_address + 1, overlay_transfer }

/-- Writes one byte to a port; the flag tells whether a displayed color changed. -/
def write (selector : Selector) (value : U8) (dac : Bt479) : Bool × Bt479 :=
  match selector with
  | .WriteAddress => (false, { dac with address := value, color_transfer := { dac.color_transfer with component := 0 } })
  | .ReadAddress =>
    (false, { dac with address := value, color_transfer := { dac.color_transfer with component := 0 } }.prefetch)
  | .PaletteData => dac.write_color value
  | .PixelReadMask => (false, { dac with pixel_read_mask := value })
  | .ControlData =>
    (false, { dac with control := Function.update dac.control dac.address value, address := dac.address + 1 })
  | .OverlayWriteAddress =>
    (false, { dac with overlay_address := value, overlay_transfer := { dac.overlay_transfer with component := 0 } })
  | .OverlayReadAddress =>
    (false,
      { dac with
        overlay_address := value
        overlay_transfer := { dac.overlay_transfer with component := 0 } }.prefetch_overlay)
  | .OverlayData => (false, dac.write_overlay_color value)

/-- Reads one byte from a port. -/
def read (selector : Selector) (dac : Bt479) : U8 × Bt479 :=
  match selector with
  | .WriteAddress | .ReadAddress => (dac.address, dac)
  | .PaletteData =>
    match dac.color_transfer.read with
    | (value, true, color_transfer) => (value, { dac with color_transfer }.prefetch)
    | (value, false, color_transfer) => (value, { dac with color_transfer })
  | .PixelReadMask => (dac.pixel_read_mask, dac)
  | .ControlData => (dac.control dac.address, { dac with address := dac.address + 1 })
  | .OverlayWriteAddress | .OverlayReadAddress => (dac.overlay_address, dac)
  | .OverlayData =>
    match dac.overlay_transfer.read with
    | (value, true, overlay_transfer) => (value, { dac with overlay_transfer }.prefetch_overlay)
    | (value, false, overlay_transfer) => (value, { dac with overlay_transfer })

/-- A write that is not reported leaves the displayed colors as they were. -/
theorem palette_write {selector : Selector} {value : U8} {dac : Bt479} (h : (dac.write selector value).1 = false) :
    (dac.write selector value).2.palette = dac.palette := by
  cases selector with
  | PaletteData =>
    unfold write write_color at h ⊢
    dsimp only at h ⊢
    split at h
    · rfl
    · rename_i color color_transfer hwrite
      have hsame : dac.palette dac.host_entry = color := bne_eq_false_iff_eq.mp h
      exact Function.update_eq_self_iff.mpr hsame.symm
  | OverlayData =>
    unfold write write_overlay_color
    dsimp only
    split <;> rfl
  | _ => rfl

theorem palette_read (selector : Selector) (dac : Bt479) : (dac.read selector).2.palette = dac.palette := by
  unfold read
  split
  · rfl
  · rfl
  · split <;> rfl
  · rfl
  · rfl
  · rfl
  · rfl
  · split <;> rfl

end Bt479

end se_device.lg1.bt479
