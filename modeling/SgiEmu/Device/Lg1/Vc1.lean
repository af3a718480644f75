import Mathlib.Logic.Function.Basic
import SgiEmu.Core.Word

open se_core

namespace se_device.lg1.vc1

def SRAM_BYTES : Nat := 0x10000
def CONTROL_BYTES : Nat := 0x100
def XMAP_BYTES : Nat := 0x80
def TEST_BYTES : Nat := 0x08
def VID_EP : Nat := 0x00
def VID_LC : Nat := 0x02
def VID_FC : Nat := 0x10
def DID_EP : Nat := 0x40
def CHIP_REVISION : Nat := 0x05
def CHIP_REVISION_VALUE : U8 := 0x02#8
def SYS_CTRL_VTG : U8 := 0x02#8
def SYS_CTRL_VC1 : U8 := 0x04#8
def SYS_CTRL_DID : U8 := 0x08#8
def SYS_CTRL_CURSOR_DISPLAY : U8 := 0x20#8
def SYS_CTRL_COMPOSITION_MASK : U8 := SYS_CTRL_DID ||| SYS_CTRL_CURSOR_DISPLAY
def CUR_EP : Nat := 0x20
def CUR_XL : Nat := 0x22
def CUR_YL : Nat := 0x24
def CUR_MODE : Nat := 0x26
def CUR_LY : Nat := 0x28
def DID_HOR_MOD : Nat := 0x45
def CURSOR_X_OFFSET : Int := 140
def CURSOR_Y_OFFSET : Int := 39
def SYS_CTRL_RESET : U8 := SYS_CTRL_VTG
def ENTRY_POINTER_ADDRESS : U16 := 0x7fff#16
def DISPLAY_WIDTH : Nat := 1024
def DISPLAY_HEIGHT : Nat := 768
def DEFAULT_TOTAL_LINES : Nat := DISPLAY_HEIGHT
def LINE_PERIOD_ATTOSECONDS : Nat := 19425019425019
def MAX_FRAME_TABLE_ENTRIES : Nat := 256

inductive Selector where
  | Control | XmapMode | Sram | Test | AddressLow | AddressHigh | SystemControl
deriving DecidableEq, Repr

def Selector.from_bits (bits : U8) : Selector :=
  match (bits &&& 7).toNat with
  | 0 => .Control
  | 1 => .XmapMode
  | 2 => .Sram
  | 3 => .Test
  | 4 => .AddressLow
  | 5 => .AddressHigh
  | _ => .SystemControl

inductive SignalState where
  | NoSignal | Blanked | Active
deriving DecidableEq, Repr

/-- The hardware cursor as the display path sees it. -/
structure Cursor where
  left : Int
  top : Int
  palette_base : Nat
  bitmap : Nat → U8

/-- The controller; each bank is a byte for every address. -/
structure Vc1 where
  sram : Nat → U8
  control : Nat → U8
  xmap : Nat → U8
  test : Nat → U8
  system_control : U8
  address : U16
  frame_elapsed : Nat
  frame_counter : U16
  total_lines : Nat

/-- The implemented width of a control register byte. -/
def control_byte_value (address : Nat) (value : U8) : U8 :=
  if address = CUR_XL ∨ address = CUR_LY then value &&& 0x07
  else if address = CUR_YL then value &&& 0x0f
  else if address = DID_HOR_MOD then value &&& 0x07
  else value

/-- Whether frame composition reads a byte of the control bank. -/
def control_byte_affects_composition (address : Nat) : Bool :=
  decide ((CUR_EP ≤ address ∧ address ≤ CUR_MODE + 1) ∨ address = DID_EP ∨ address = DID_EP + 1)

/-- Adds up the line counts of a frame table, at most `entries` of them. -/
def decode_lines (sram : Nat → U8) : (entries offset lines : Nat) → Option Nat
  | 0, _, _ => none
  | entries + 1, offset, lines =>
    if SRAM_BYTES ≤ offset then none
    else if sram offset = 0 then if 0 < lines then some lines else none
    else decode_lines sram entries (offset + 3) (lines + (sram offset).toNat)

def decode_frame_total_lines (sram : Nat → U8) (table : Nat) : Option Nat :=
  decode_lines sram MAX_FRAME_TABLE_ENTRIES (table + 1) 0

/-- `identifiers[start..stop].fill(identifier)`. -/
def fill (start stop : Nat) (identifier : U8) (identifiers : Nat → U8) : Nat → U8 :=
  fun x => if start ≤ x ∧ x < stop then identifier else identifiers x

namespace Vc1

def new : Vc1 :=
  { sram := fun _ => 0, control := fun _ => 0, xmap := fun _ => 0
    test := Function.update (fun _ => 0) CHIP_REVISION CHIP_REVISION_VALUE
    system_control := SYS_CTRL_RESET, address := 0, frame_elapsed := 0, frame_counter := 0
    total_lines := DEFAULT_TOTAL_LINES }

def reset (_vc1 : Vc1) : Vc1 := new

def signal_state (vc1 : Vc1) : SignalState :=
  if vc1.system_control &&& SYS_CTRL_VTG ≠ 0 then .NoSignal
  else if vc1.system_control &&& SYS_CTRL_VC1 = 0 then .Blanked
  else .Active

/-- The XMAP mode of a display identifier. -/
def display_mode (vc1 : Vc1) (identifier : Nat) : U16 :=
  let index := identifier % 32 * 2
  vc1.xmap index ++ vc1.xmap (index + 1)

/-- A control register, high byte first. -/
def control_word (vc1 : Vc1) (address : Nat) : U16 :=
  vc1.control (address % CONTROL_BYTES) ++ vc1.control ((address % CONTROL_BYTES + 1) % CONTROL_BYTES)

/-- A big-endian word of the timing SRAM. -/
def sram_word (vc1 : Vc1) (address : Nat) : Option U16 :=
  if SRAM_BYTES ≤ address + 1 then none else some (vc1.sram address ++ vc1.sram (address + 1))

/-- Walks the entries of a line table: where the next identifier starts and
which one it is, and whether there was one before it. -/
def walk_line (vc1 : Vc1) (address start : Nat) (identifier : U8) (has_boundary : Bool) (identifiers : Nat → U8) :
    (entries : Nat) → Nat → U8
  | 0 => fill start DISPLAY_WIDTH identifier identifiers
  | entries + 1 =>
    match vc1.sram_word address with
    | none => fill start DISPLAY_WIDTH identifier identifiers
    | some encoded =>
      let boundary := min (encoded >>> 5).toNat DISPLAY_WIDTH
      if has_boundary && boundary ≤ start then
        vc1.walk_line (address + 2) start identifier has_boundary identifiers entries
      else
        vc1.walk_line (address + 2) boundary (encoded.setWidth 8 &&& 0x1f) true
          (fill start boundary identifier identifiers) entries

/-- The display identifiers of a displayed scan line. -/
def fill_display_identifiers (vc1 : Vc1) (y : Nat) : Nat → U8 :=
  if vc1.system_control &&& SYS_CTRL_DID = 0 ∨ DISPLAY_HEIGHT ≤ y then fun _ => 0
  else
    let frame_table := (vc1.control_word DID_EP &&& ENTRY_POINTER_ADDRESS).toNat
    match vc1.sram_word (frame_table + y * 2) with
    | none => fun _ => 0
    | some line_table =>
      match vc1.sram_word line_table.toNat with
      | none => fun _ => 0
      | some entry_count =>
        vc1.walk_line (line_table.toNat + 2) 0 0 false (fun _ => 0) (min entry_count.toNat DISPLAY_WIDTH)

/-- The cursor, when its display is enabled. -/
def cursor (vc1 : Vc1) : Option Cursor :=
  if vc1.system_control &&& SYS_CTRL_CURSOR_DISPLAY = 0 then none
  else
    let pointer := (vc1.control_word CUR_EP).toNat
    some
      { left := (vc1.control_word CUR_XL).toNat - CURSOR_X_OFFSET
        top := (vc1.control_word CUR_YL).toNat - CURSOR_Y_OFFSET
        palette_base := (vc1.control_word CUR_MODE >>> 6 &&& 0x03f0).toNat
        bitmap := fun offset => vc1.sram ((pointer + offset) % SRAM_BYTES) }

def frame_period_attoseconds (vc1 : Vc1) : Nat := vc1.total_lines * LINE_PERIOD_ATTOSECONDS

def current_line (vc1 : Vc1) : Nat := min (vc1.frame_elapsed / LINE_PERIOD_ATTOSECONDS) (vc1.total_lines - 1)

def in_vertical_blanking (vc1 : Vc1) : Bool := decide (DISPLAY_HEIGHT ≤ vc1.current_line)

/-- Advances virtual time; returns the number of completed frames. -/
def advance_time (elapsed : Nat) (vc1 : Vc1) : Nat × Vc1 :=
  if vc1.signal_state = .NoSignal then (0, vc1)
  else
    let frame_elapsed := vc1.frame_elapsed + elapsed
    let completed := min (frame_elapsed / vc1.frame_period_attoseconds) 0xffffffff
    (completed,
      { vc1 with
        frame_elapsed := frame_elapsed % vc1.frame_period_attoseconds
        frame_counter := vc1.frame_counter + BitVec.ofNat 16 completed })

def advance_address (vc1 : Vc1) : Vc1 := { vc1 with address := vc1.address + 1 }

/-- Recomputes the line count from the uploaded table. -/
def reload_frame_total_lines (vc1 : Vc1) : Vc1 :=
  let entry_pointer := vc1.control VID_EP ++ vc1.control (VID_EP + 1)
  match decode_frame_total_lines vc1.sram (entry_pointer &&& ENTRY_POINTER_ADDRESS).toNat with
  | none => vc1
  | some lines =>
    { vc1 with total_lines := lines, frame_elapsed := vc1.frame_elapsed % (lines * LINE_PERIOD_ATTOSECONDS) }

/-- Writes one byte to a function; the flag tells whether composition reads what changed. -/
def write (selector : Selector) (value : U8) (vc1 : Vc1) : Bool × Vc1 :=
  match selector with
  | .AddressLow => (false, { vc1 with address := (vc1.address &&& 0xff00) ||| value.setWidth 16 })
  | .AddressHigh => (false, { vc1 with address := (vc1.address &&& 0x00ff) ||| value.setWidth 16 <<< 8 })
  | .SystemControl =>
    ((vc1.system_control ^^^ value) &&& SYS_CTRL_COMPOSITION_MASK != 0, { vc1 with system_control := value })
  | .Control =>
    let address := vc1.address.toNat % CONTROL_BYTES
    let updated := control_byte_value address value
    let changed := vc1.control address != updated && control_byte_affects_composition address
    (changed,
      { vc1 with control := Function.update vc1.control address updated }.advance_address.reload_frame_total_lines)
  | .XmapMode =>
    let index := vc1.address.toNat % XMAP_BYTES
    (vc1.xmap index != value, { vc1 with xmap := Function.update vc1.xmap index value }.advance_address)
  | .Sram =>
    let index := vc1.address.toNat % SRAM_BYTES
    (vc1.sram index != value,
      { vc1 with sram := Function.update vc1.sram index value }.advance_address.reload_frame_total_lines)
  | .Test =>
    (false,
      { vc1 with test := Function.update vc1.test (vc1.address.toNat % TEST_BYTES) value }.advance_address)

/-- A control bank byte, with the live counters in their places. -/
def read_control (vc1 : Vc1) : U8 :=
  let address := vc1.address.toNat % CONTROL_BYTES
  let line := BitVec.ofNat 16 vc1.current_line
  if address = VID_LC then (line >>> 8).setWidth 8
  else if address = VID_LC + 1 then line.setWidth 8
  else if address = VID_FC then (vc1.frame_counter >>> 8).setWidth 8
  else if address = VID_FC + 1 then vc1.frame_counter.setWidth 8
  else vc1.control address

def peek (selector : Selector) (vc1 : Vc1) : U8 :=
  match selector with
  | .AddressLow => vc1.address.setWidth 8
  | .AddressHigh => (vc1.address >>> 8).setWidth 8
  | .SystemControl => vc1.system_control
  | .Control => vc1.read_control
  | .XmapMode => vc1.xmap (vc1.address.toNat % XMAP_BYTES)
  | .Sram => vc1.sram (vc1.address.toNat % SRAM_BYTES)
  | .Test => vc1.test (vc1.address.toNat % TEST_BYTES)

/-- Reads one byte from a function. -/
def read (selector : Selector) (vc1 : Vc1) : U8 × Vc1 :=
  match selector with
  | .AddressLow | .AddressHigh | .SystemControl => (vc1.peek selector, vc1)
  | _ => (vc1.peek selector, vc1.advance_address)

/-! ## What composition reads -/

/-- The controllers agree in all that composition reads. -/
structure SamePicture (first second : Vc1) : Prop where
  sram : second.sram = first.sram
  xmap : second.xmap = first.xmap
  control : ∀ address, control_byte_affects_composition address = true → second.control address = first.control address
  system_control :
    second.system_control &&& SYS_CTRL_COMPOSITION_MASK = first.system_control &&& SYS_CTRL_COMPOSITION_MASK

variable {vc1 next : Vc1}

theorem SamePicture.refl (vc1 : Vc1) : SamePicture vc1 vc1 := ⟨rfl, rfl, fun _ _ => rfl, rfl⟩

theorem SamePicture.trans {last : Vc1} (h : SamePicture vc1 next) (hlast : SamePicture next last) : SamePicture vc1 last where
  sram := hlast.sram.trans h.sram
  xmap := hlast.xmap.trans h.xmap
  control address haffects := (hlast.control address haffects).trans (h.control address haffects)
  system_control := hlast.system_control.trans h.system_control

theorem SamePicture.advance_address (h : SamePicture vc1 next) : SamePicture vc1 next.advance_address :=
  ⟨h.sram, h.xmap, h.control, h.system_control⟩

theorem SamePicture.reload (h : SamePicture vc1 next) : SamePicture vc1 next.reload_frame_total_lines := by
  unfold reload_frame_total_lines
  dsimp only
  split
  · exact h
  · exact ⟨h.sram, h.xmap, h.control, h.system_control⟩

/-- A write that is not reported leaves all that composition reads as it was. -/
theorem samePicture_write {selector : Selector} {value : U8} (h : (vc1.write selector value).1 = false) :
    SamePicture vc1 (vc1.write selector value).2 := by
  cases selector with
  | AddressLow => exact ⟨rfl, rfl, fun _ _ => rfl, rfl⟩
  | AddressHigh => exact ⟨rfl, rfl, fun _ _ => rfl, rfl⟩
  | Test => exact ⟨rfl, rfl, fun _ _ => rfl, rfl⟩
  | SystemControl =>
    refine ⟨rfl, rfl, fun _ _ => rfl, ?_⟩
    have hmask : (vc1.system_control ^^^ value) &&& SYS_CTRL_COMPOSITION_MASK = 0 := bne_eq_false_iff_eq.mp h
    have hdistrib : (vc1.system_control ^^^ value) &&& SYS_CTRL_COMPOSITION_MASK =
        (vc1.system_control &&& SYS_CTRL_COMPOSITION_MASK) ^^^ (value &&& SYS_CTRL_COMPOSITION_MASK) := by
      ext bit hbit
      simp only [BitVec.getElem_and, BitVec.getElem_xor, Bool.and_xor_distrib_right]
    rw [hdistrib] at hmask
    exact (BitVec.xor_eq_zero_iff.mp hmask).symm
  | Control =>
    apply SamePicture.reload
    apply SamePicture.advance_address
    refine ⟨rfl, rfl, ?_, rfl⟩
    intro address haffects
    obtain hsame | hunused := Bool.and_eq_false_iff.mp h
    · exact congrFun (Function.update_eq_self_iff.mpr (bne_eq_false_iff_eq.mp hsame).symm) address
    · apply Function.update_of_ne
      intro heq
      rw [heq, hunused] at haffects
      cases haffects
  | XmapMode =>
    apply SamePicture.advance_address
    exact ⟨rfl, Function.update_eq_self_iff.mpr (bne_eq_false_iff_eq.mp h).symm, fun _ _ => rfl, rfl⟩
  | Sram =>
    apply SamePicture.reload
    apply SamePicture.advance_address
    exact ⟨Function.update_eq_self_iff.mpr (bne_eq_false_iff_eq.mp h).symm, rfl, fun _ _ => rfl, rfl⟩

theorem samePicture_read (selector : Selector) (vc1 : Vc1) : SamePicture vc1 (vc1.read selector).2 := by
  cases selector <;> exact ⟨rfl, rfl, fun _ _ => rfl, rfl⟩

theorem samePicture_advance_time (elapsed : Nat) (vc1 : Vc1) : SamePicture vc1 (vc1.advance_time elapsed).2 := by
  unfold advance_time
  split <;> exact ⟨rfl, rfl, fun _ _ => rfl, rfl⟩

namespace SamePicture

theorem control_word (h : SamePicture vc1 next) {address : Nat}
    (hhigh : control_byte_affects_composition (address % CONTROL_BYTES) = true)
    (hlow : control_byte_affects_composition ((address % CONTROL_BYTES + 1) % CONTROL_BYTES) = true) :
    next.control_word address = vc1.control_word address := by
  unfold Vc1.control_word
  rw [h.control _ hhigh, h.control _ hlow]

theorem sram_word (h : SamePicture vc1 next) (address : Nat) : next.sram_word address = vc1.sram_word address := by
  unfold Vc1.sram_word
  rw [h.sram]

theorem display_mode (h : SamePicture vc1 next) (identifier : Nat) :
    next.display_mode identifier = vc1.display_mode identifier := by
  unfold Vc1.display_mode
  rw [h.xmap]

theorem walk_line (h : SamePicture vc1 next) (entries address start : Nat) (identifier : U8) (has_boundary : Bool)
    (identifiers : Nat → U8) :
    next.walk_line address start identifier has_boundary identifiers entries =
      vc1.walk_line address start identifier has_boundary identifiers entries := by
  induction entries generalizing address start identifier has_boundary identifiers with
  | zero => rfl
  | succ entries ih =>
    unfold Vc1.walk_line
    rw [h.sram_word]
    cases vc1.sram_word address with
    | none => rfl
    | some encoded =>
      dsimp only
      rw [ih, ih]

/-- A bit of the system control that composition reads. -/
theorem bit (h : SamePicture vc1 next) {mask : U8} (hmask : SYS_CTRL_COMPOSITION_MASK &&& mask = mask) :
    next.system_control &&& mask = vc1.system_control &&& mask := by
  rw [← hmask, ← BitVec.and_assoc, ← BitVec.and_assoc, h.system_control]

theorem fill_display_identifiers (h : SamePicture vc1 next) (y : Nat) :
    next.fill_display_identifiers y = vc1.fill_display_identifiers y := by
  unfold Vc1.fill_display_identifiers
  have hpointer : next.control_word DID_EP = vc1.control_word DID_EP := h.control_word (by decide) (by decide)
  have henabled : next.system_control &&& SYS_CTRL_DID = vc1.system_control &&& SYS_CTRL_DID := h.bit (by decide)
  simp only [hpointer, henabled, h.sram_word, h.walk_line]

theorem cursor (h : SamePicture vc1 next) : next.cursor = vc1.cursor := by
  unfold Vc1.cursor
  have hpointer : next.control_word CUR_EP = vc1.control_word CUR_EP := h.control_word (by decide) (by decide)
  have hleft : next.control_word CUR_XL = vc1.control_word CUR_XL := h.control_word (by decide) (by decide)
  have htop : next.control_word CUR_YL = vc1.control_word CUR_YL := h.control_word (by decide) (by decide)
  have hmode : next.control_word CUR_MODE = vc1.control_word CUR_MODE := h.control_word (by decide) (by decide)
  have henabled : next.system_control &&& SYS_CTRL_CURSOR_DISPLAY = vc1.system_control &&& SYS_CTRL_CURSOR_DISPLAY :=
    h.bit (by decide)
  simp only [hpointer, hleft, htop, hmode, henabled, h.sram]

end SamePicture

end Vc1

end se_device.lg1.vc1
