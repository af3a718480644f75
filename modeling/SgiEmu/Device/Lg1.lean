import SgiEmu.Core.Bus
import SgiEmu.Device.Lg1.Display
import SgiEmu.Device.Lg1.Rex1

open se_core se_core.bus se_device.lg1.bt479 se_device.lg1.display se_device.lg1.rex1
open se_device.lg1.vc1 se_device.lg1.vram

namespace se_device.lg1

def GIO_PIO_BASE : Nat := 0x003f0000
def GIO_PIO_BYTES : Nat := 0x8000
def GIO_PIO_END : Nat := GIO_PIO_BASE + GIO_PIO_BYTES
def GRAPHICS_DMA_PORT : Nat := GIO_PIO_BASE + rex1.GO_OFFSET + rex1.RWAUX1
def BOARD_REVISION : U8 := 1
def MONITOR_CODE : U8 := 0
def CLOCK_SELECTOR_REVISION : U8 := 4

/-- One decoded board register. -/
inductive Register where
  | Drawing (offset : Nat)
  | DrawingGo (offset : Nat)
  | Dummy
  | Config (offset : Nat)
  | ConfigGo (offset : Nat)
deriving DecidableEq, Repr

def decode (offset : Nat) : Option Register :=
  if offset < DRAWING_END then some (.Drawing offset)
  else if offset = DUMMY then some .Dummy
  else if GO_OFFSET ≤ offset ∧ offset - GO_OFFSET < DRAWING_END then some (.DrawingGo (offset - GO_OFFSET))
  else if CONFIG_BASE ≤ offset ∧ offset < CONFIG_END then some (.Config offset)
  else if CONFIG_BASE + GO_OFFSET ≤ offset ∧ offset - GO_OFFSET < CONFIG_END then some (.ConfigGo (offset - GO_OFFSET))
  else none

/-- The register offset that a transaction addresses; none outside the aperture. -/
def register_offset (address : U64) (length : Nat) : Except BusError (Option Nat) :=
  let start := address.toNat
  let stop := start + length
  if length < 1 ∨ 4 < length then .error .InvalidTransaction
  else if 0xffffffffffffffff < stop then .error .InvalidTransaction
  else if stop ≤ GIO_PIO_BASE ∨ GIO_PIO_END ≤ start then .ok none
  else if start < GIO_PIO_BASE ∨ GIO_PIO_END < stop then .error .HardwareFault
  else if length ≠ 4 ∨ start % 4 ≠ 0 then .error .UnimplementedAccess
  else .ok (some (start - GIO_PIO_BASE))

/-- What the board drives onto the monitor. -/
inductive GioDisplayState where
  | NoSignal
  | Blank
  | Active (pixels : Frame)

/-- The LG1 graphics board. -/
structure Lg1 where
  rex : Rex1
  vc1 : Vc1
  dac : Bt479
  vram : Vram
  frame : Option Frame
  composition_dirty : Bool
  display_changed : Bool

namespace Lg1

def new : Lg1 :=
  { rex := .new, vc1 := .new, dac := .new, vram := .new, frame := none, composition_dirty := false
    display_changed := false }

def reset (board : Lg1) : Lg1 :=
  { rex := board.rex.reset, vc1 := board.vc1.reset, dac := board.dac.reset, vram := .new, frame := none
    composition_dirty := false, display_changed := false }

def take_display_update (board : Lg1) : Bool × Lg1 := (board.display_changed, { board with display_changed := false })

def display_state (board : Lg1) : GioDisplayState :=
  match board.vc1.signal_state with
  | .NoSignal => .NoSignal
  | .Blanked => .Blank
  | .Active =>
    match board.frame with
    | some pixels => .Active pixels
    | none => .Blank

/-- Builds the frame that the display path currently produces. -/
def compose_frame (board : Lg1) : Lg1 :=
  { board with
    frame := some (compose board.vram board.vc1 board.dac), vram := board.vram.clear_display_dirty
    composition_dirty := false, display_changed := true }

/-- Advances display timing and composes any frame that completed. -/
def advance_time (elapsed : Nat) (board : Lg1) : Lg1 :=
  let (completed, vc1) := board.vc1.advance_time elapsed
  let board := { board with vc1 }
  if completed = 0 then board
  else if board.vc1.signal_state ≠ .Active then board
  else if board.frame.isSome && !board.composition_dirty && !board.vram.display_dirty then board
  else board.compose_frame

/-- Hands one byte to a peripheral; the flag tells whether composition reads what changed. -/
def deliver (port : PeripheralPort) (value : U8) (board : Lg1) : Bool × Lg1 :=
  let selector := board.rex.config.configsel.setWidth 8
  match port with
  | .Dac =>
    let written := board.dac.write (.from_bits selector) value
    (written.1, { board with dac := written.2 })
  | .Vc1 =>
    let written := board.vc1.write (.from_bits selector) value
    (written.1, { board with vc1 := written.2 })
  | .Clock => (false, board)

/-- Delivers one byte to the peripheral that the configuration bus selects. -/
def write_peripheral (port : PeripheralPort) (value : U8) (board : Lg1) : Lg1 :=
  let before := board.vc1.signal_state
  let delivered := board.deliver port value
  let board := { delivered.2 with composition_dirty := board.composition_dirty || delivered.1 }
  let after := board.vc1.signal_state
  if before = after then board
  else { board with frame := if after = .NoSignal then none else board.frame, display_changed := true }

def read_clock_port (selector : U8) (board : Lg1) : U8 :=
  if selector = CLOCK_SELECTOR_REVISION then BOARD_REVISION ||| MONITOR_CODE <<< 3
  else board.rex.config.wclock.setWidth 8

/-- Reads the next byte that a configuration peripheral presents. -/
def read_peripheral (port : PeripheralPort) (board : Lg1) : U8 × Lg1 :=
  let selector := board.rex.config.configsel.setWidth 8
  match port with
  | .Dac =>
    let presented := board.dac.read (.from_bits selector)
    (presented.1, { board with dac := presented.2 })
  | .Vc1 =>
    let presented := board.vc1.read (.from_bits selector)
    (presented.1, { board with vc1 := presented.2 })
  | .Clock => (board.read_clock_port selector, board)

/-- Runs a drawing command on the frame buffer; nothing is returned when it panics. -/
def command {α : Type} (checks : Bool) (program : Raster (α × Rex1)) (board : Lg1) : Option (α × Lg1) :=
  let (result, vram) := program.run checks board.vram
  result.map fun (value, rex) => (value, { board with rex, vram })

/-- Reads one device-local transaction. -/
def read (checks : Bool) (address : U64) (length : Nat) (board : Lg1) : Option (Except BusError (List U8) × Lg1) :=
  match register_offset address length with
  | .error fault => some (.error fault, board)
  | .ok none => some (.ok (List.replicate length 0), board)
  | .ok (some offset) =>
    match decode offset with
    | some (.Drawing offset) => some (.ok (to_be_bytes (board.rex.read_drawing offset)).toList, board)
    | some (.DrawingGo offset) =>
      (board.command checks (board.rex.read_drawing_go offset)).map fun (value, board) =>
        (.ok (to_be_bytes value).toList, board)
    | some .Dummy => some (.ok (to_be_bytes board.rex.dummy).toList, board)
    | some (.Config offset) => some (.ok (to_be_bytes (board.rex.read_config offset).1).toList, board)
    | some (.ConfigGo offset) =>
      let (value, access) := board.rex.read_config offset
      let board := match access with
        | .Read port =>
          let (received, board) := board.read_peripheral port
          { board with rex := board.rex.complete_config_read port received }
        | _ => board
      some (.ok (to_be_bytes value).toList, board)
    | none => some (.error .UnimplementedAccess, board)

/-- `u32::from_be_bytes(data.try_into())` -/
def word_of (data : List U8) : Except BusError U32 :=
  match data with
  | [first, second, third, fourth] => .ok (from_be_bytes #v[first, second, third, fourth])
  | _ => .error .InvalidTransaction

/-- Writes one device-local transaction. -/
def write (checks : Bool) (address : U64) (data : List U8) (board : Lg1) : Option (Except BusError Unit × Lg1) :=
  match register_offset address data.length with
  | .error fault => some (.error fault, board)
  | .ok none => some (.ok (), board)
  | .ok (some offset) =>
    match word_of data with
    | .error fault => some (.error fault, board)
    | .ok value =>
      match decode offset with
      | some (.Drawing offset) => some (.ok (), { board with rex := board.rex.write_drawing offset value })
      | some (.DrawingGo offset) =>
        (board.command checks do
          let rex ← board.rex.write_drawing_go offset value
          .done (.ok (), rex))
      | some .Dummy => some (.ok (), { board with rex := { board.rex with dummy := value } })
      | some (.Config offset) => some (.ok (), { board with rex := (board.rex.write_config offset value).2 })
      | some (.ConfigGo offset) =>
        let (access, rex) := board.rex.write_config offset value
        let board := { board with rex }
        match access with
        | .Write port byte => some (.ok (), board.write_peripheral port byte)
        | _ => some (.ok (), board)
      | none => some (.error .UnimplementedAccess, board)

/-- One host-data command for each word that is read. -/
def read_words (checks : Bool) : (words : Nat) → Lg1 → Option (List U8 × Lg1)
  | 0, board => some ([], board)
  | words + 1, board => do
    let (value, board) ← board.command checks board.rex.read_host_data_go
    let (rest, board) ← read_words checks words board
    some ((to_be_bytes value).toList ++ rest, board)

def read_dma (checks : Bool) (address : U64) (length : Nat) (board : Lg1) : Option (Except BusError (List U8) × Lg1) :=
  if address.toNat ≠ GRAPHICS_DMA_PORT then some (.error .UnimplementedAccess, board)
  else if length % 4 ≠ 0 then some (.error .InvalidTransaction, board)
  else (board.read_words checks (length / 4)).map fun (data, board) => (.ok data, board)

/-- One host-data command for each word of the stream. -/
def write_words (checks : Bool) : List U8 → Lg1 → Option Lg1
  | first :: second :: third :: fourth :: data, board => do
    let (_, board) ← board.command checks do
      let rex ← board.rex.write_host_data_go (from_be_bytes #v[first, second, third, fourth])
      .done ((), rex)
    write_words checks data board
  | _, board => some board

def write_dma (checks : Bool) (address : U64) (data : List U8) (board : Lg1) : Option (Except BusError Unit × Lg1) :=
  if address.toNat ≠ GRAPHICS_DMA_PORT then some (.error .UnimplementedAccess, board)
  else if data.length % 4 ≠ 0 then some (.error .InvalidTransaction, board)
  else (board.write_words checks data).map fun board => (.ok (), board)

/-- A snapshot is a copy of the board. -/
def snapshot (board : Lg1) : Lg1 := board

def restore_snapshot (snapshot : Lg1) (_board : Lg1) : Lg1 := snapshot

end Lg1

end se_device.lg1
