import Mathlib.Data.List.Induction
import Mathlib.Tactic.Ring
import SgiEmu.Device.Nmc93cs46

open se_core

namespace se_device.nmc93cs46

/-! ## Frames on the pins -/

/-- The number whose digits are `bits`, the most significant first. -/
def msb_first (bits : List Bool) : Nat := bits.foldl (fun value bit => 2 * value + bit.toNat) 0

def word (bits : List Bool) : U16 := BitVec.ofNat 16 (msb_first bits)

def READ : List Bool := [true, true, false, false, false]
def WRITE : List Bool := [true, false, true, false, false]
def WRITE_ENABLE : List Bool := [true, false, false, true, true, false, false, false, false, false, false]
def WRITE_DISABLE : List Bool := [true, false, false, false, false, false, false, false, false, false, false]

/-- The operation a frame starts with, start bit included. -/
def operation (frame : List Bool) : List Bool := frame.take 5

/-- The word whose six address bits follow the operation of a frame. -/
def address (frame : List Bool) : Fin WORD_COUNT :=
  ⟨msb_first ((frame.drop 5).take 6) % WORD_COUNT, Nat.mod_lt _ (by decide)⟩

/-- The data bits that follow the command of a frame. -/
def payload (frame : List Bool) : List Bool := frame.drop COMMAND_BITS

/-- The word a complete write frame stores, and where. -/
def written (frame : List Bool) : Option (Fin WORD_COUNT × U16) :=
  if operation frame = WRITE ∧ frame.length = COMMAND_BITS + DATA_BITS then
    some (address frame, word (payload frame))
  else none

/-- An observer of the pins: the clock level, the bits clocked in since chip select
was raised, from the start bit on, whether they enabled writes, and the words
written, the latest first. -/
structure Observer where
  clock : Bool
  frame : List Bool
  enabled : Bool
  writes : List (Fin WORD_COUNT × U16)
deriving DecidableEq

namespace Observer

/-- A rising clock edge under chip select. -/
def rises (observer : Observer) (pins : Pins) : Bool := pins.chip_select && (!observer.clock && pins.clock)

/-- The frame once a bit is clocked in. -/
def clocked (observer : Observer) (data_in : Bool) : List Bool :=
  if observer.frame = [] ∧ data_in = false then [] else observer.frame ++ [data_in]

def edge (observer : Observer) (data_in : Bool) : Observer :=
  let frame := observer.clocked data_in
  { observer with
    frame
    enabled := if frame = WRITE_ENABLE then true else if frame = WRITE_DISABLE then false else observer.enabled
    writes :=
      match written frame with
      | some write => if observer.enabled then write :: observer.writes else observer.writes
      | none => observer.writes }

def after (observer : Observer) (pins : Pins) : Observer :=
  if !pins.chip_select then { observer with clock := pins.clock, frame := [] }
  else if observer.rises pins then { observer.edge pins.data_in with clock := pins.clock }
  else { observer with clock := pins.clock }

/-- A rising edge that completes a write frame while writes are enabled. -/
def CompletesWrite (observer : Observer) (pins : Pins) (address : Fin WORD_COUNT) (value : U16) : Prop :=
  observer.rises pins = true ∧ observer.enabled = true ∧ written (observer.clocked pins.data_in) = some (address, value)

end Observer

/-- What the observer has noted of a history that starts with the clock low. -/
def observed (history : List Pins) : Observer :=
  history.foldl Observer.after { clock := false, frame := [], enabled := false, writes := [] }

/-- The word last written to an address, or else the initial one. -/
def last_stored (contents : Nmc93cs46Contents) (address : Fin WORD_COUNT) : List (Fin WORD_COUNT × U16) → U16
  | [] => contents.get address
  | write :: writes => if write.1 = address then write.2 else last_stored contents address writes

/-! ## Bits -/

theorem msb_first_concat (bits : List Bool) (bit : Bool) : msb_first (bits ++ [bit]) = 2 * msb_first bits + bit.toNat := by
  simp only [msb_first, List.foldl_append, List.foldl_cons, List.foldl_nil]

theorem msb_first_append (first second : List Bool) :
    msb_first (first ++ second) = 2 ^ second.length * msb_first first + msb_first second := by
  induction second using List.reverseRecOn with
  | nil => simp [msb_first]
  | append_singleton second bit ih =>
    rw [← List.append_assoc, msb_first_concat, msb_first_concat, ih, List.length_append, List.length_singleton, Nat.pow_succ, Nat.mul_add]
    ring

theorem msb_first_lt (bits : List Bool) : msb_first bits < 2 ^ bits.length := by
  induction bits using List.reverseRecOn with
  | nil => simp [msb_first]
  | append_singleton bits bit ih =>
    have hbit := Bool.toNat_lt bit
    rw [msb_first_concat, List.length_append, List.length_singleton, Nat.pow_succ]
    omega

theorem word_append (bits : List Bool) (bit : Bool) : word (bits ++ [bit]) = shift_in (word bits) bit := by
  apply BitVec.eq_of_toNat_eq
  have hbit : bit.toNat < 2 ^ 1 := Bool.toNat_lt bit
  have hor := Nat.shiftLeft_add_eq_or_of_lt hbit (msb_first bits % 2 ^ 15)
  have hshift : msb_first bits % 2 ^ 16 * 2 ^ 1 % 2 ^ 16 = (msb_first bits % 2 ^ 15) <<< 1 := by
    rw [Nat.shiftLeft_eq]
    omega
  have hsmall : bit.toNat % 2 ^ 16 = bit.toNat := by omega
  simp only [word, shift_in, msb_first_concat, BitVec.toNat_or, BitVec.toNat_shiftLeft, BitVec.toNat_ofNat]
  rw [Nat.shiftLeft_eq, hshift, hsmall, ← hor, Nat.shiftLeft_eq]
  omega

theorem msb_first_testBit (bits : List Bool) (i : Nat) (hi : i < bits.length) :
    (msb_first bits).testBit (bits.length - 1 - i) = bits[i] := by
  induction bits using List.reverseRecOn with
  | nil => simp at hi
  | append_singleton bits bit ih =>
    simp only [List.length_append, List.length_cons, List.length_nil, Nat.zero_add, Nat.add_sub_cancel] at hi ⊢
    rw [msb_first_concat]
    by_cases hlast : i < bits.length
    · have hhalf : (2 * msb_first bits + bit.toNat) / 2 = msb_first bits := by
        have hbit := Bool.toNat_lt bit
        omega
      have hindex : bits.length - i = bits.length - 1 - i + 1 := by omega
      rw [List.getElem_append_left hlast, hindex, Nat.testBit_succ, hhalf]
      exact ih hlast
    · obtain rfl : i = bits.length := by omega
      simp only [Nat.sub_self, List.getElem_concat_length, Nat.testBit_zero]
      cases bit with
      | false => simp
      | true => simp

/-- The bits of a word, the most significant first. -/
theorem word_bit (bits : List Bool) (hlength : bits.length = DATA_BITS) (i : Nat) (hi : i < bits.length) :
    (word bits).getLsbD (DATA_BITS - 1 - i) = bits[i] := by
  have hbit : DATA_BITS - 1 - i < 16 := Nat.lt_of_le_of_lt (Nat.sub_le _ i) (by decide)
  rw [word, BitVec.getLsbD_ofNat, decide_eq_true hbit, Bool.true_and, ← hlength]
  exact msb_first_testBit bits i hi

/-! ## Commands -/

theorem command_masks {operation address : Nat} (hoperation : operation < 32) (haddress : address < 64) :
    BitVec.ofNat 16 (64 * operation + address) &&& OPERATION_MASK = BitVec.ofNat 16 (64 * operation) ∧
      (BitVec.ofNat 16 (64 * operation + address) &&& ADDRESS_MASK).toNat = address := by
  have hall : ∀ (operation : Fin 32) (address : Fin 64),
      BitVec.ofNat 16 (64 * operation.val + address.val) &&& OPERATION_MASK = BitVec.ofNat 16 (64 * operation.val) ∧
        (BitVec.ofNat 16 (64 * operation.val + address.val) &&& ADDRESS_MASK).toNat = address.val := by
    decide +kernel
  exact hall ⟨operation, hoperation⟩ ⟨address, haddress⟩

/-- The operations by the value of their five bits. -/
theorem operation_bits {bits : List Bool} (hlength : bits.length = 5) :
    (BitVec.ofNat 16 (64 * msb_first bits) = READ_COMMAND ↔ bits = READ) ∧
      (BitVec.ofNat 16 (64 * msb_first bits) = WRITE_COMMAND ↔ bits = WRITE) ∧
      (msb_first bits = 19 ↔ bits = WRITE_ENABLE.take 5) ∧ (msb_first bits = 16 ↔ bits = WRITE_DISABLE.take 5) := by
  have hall : ∀ a b c d e : Bool,
      (BitVec.ofNat 16 (64 * msb_first [a, b, c, d, e]) = READ_COMMAND ↔ [a, b, c, d, e] = READ) ∧
        (BitVec.ofNat 16 (64 * msb_first [a, b, c, d, e]) = WRITE_COMMAND ↔ [a, b, c, d, e] = WRITE) ∧
        (msb_first [a, b, c, d, e] = 19 ↔ [a, b, c, d, e] = WRITE_ENABLE.take 5) ∧
        (msb_first [a, b, c, d, e] = 16 ↔ [a, b, c, d, e] = WRITE_DISABLE.take 5) := by
    decide +kernel
  match bits, hlength with
  | [a, b, c, d, e], _ => exact hall a b c d e

theorem address_bits_zero {bits : List Bool} (hlength : bits.length = 6) :
    msb_first bits = 0 ↔ bits = List.replicate 6 false := by
  have hall : ∀ a b c d e f : Bool,
      msb_first [a, b, c, d, e, f] = 0 ↔ [a, b, c, d, e, f] = List.replicate 6 false := by
    decide +kernel
  match bits, hlength with
  | [a, b, c, d, e, f], _ => exact hall a b c d e f

/-- The commands the EEPROM tells apart, by the bits of a frame. -/
theorem command_bits {frame : List Bool} (hlength : frame.length = COMMAND_BITS) :
    (word frame &&& OPERATION_MASK = READ_COMMAND ↔ operation frame = READ) ∧
      (word frame &&& OPERATION_MASK = WRITE_COMMAND ↔ operation frame = WRITE) ∧
      (word frame &&& OPERATION_MASK = WRITE_ENABLE_COMMAND ∧ word frame = WRITE_ENABLE_COMMAND ↔ frame = WRITE_ENABLE) ∧
      (word frame &&& OPERATION_MASK = WRITE_DISABLE_COMMAND ∧ word frame = WRITE_DISABLE_COMMAND ↔
        frame = WRITE_DISABLE) ∧
      command_address (word frame) = address frame := by
  have heleven : frame.length = 11 := hlength
  have htake : (frame.take 5).length = 5 := by
    rw [List.length_take, heleven]
    rfl
  have hdrop : (frame.drop 5).length = 6 := by rw [List.length_drop, heleven]
  have hoperation : msb_first (frame.take 5) < 32 := by simpa [htake] using msb_first_lt (frame.take 5)
  have haddress : msb_first (frame.drop 5) < 64 := by simpa [hdrop] using msb_first_lt (frame.drop 5)
  have hword : word frame = BitVec.ofNat 16 (64 * msb_first (frame.take 5) + msb_first (frame.drop 5)) := by
    have hsplit := msb_first_append (frame.take 5) (frame.drop 5)
    rw [List.take_append_drop, hdrop] at hsplit
    rw [word, hsplit]
    rfl
  obtain ⟨hmask, hlow⟩ := command_masks hoperation haddress
  obtain ⟨hread, hwrite, henable, hdisable⟩ := operation_bits htake
  have hexact {value : Nat} (hvalue : value < 32) {switch : List Bool} (htail : switch.drop 5 = List.replicate 6 false)
      (hhead : msb_first (frame.take 5) = value ↔ frame.take 5 = switch.take 5)
      (hswitch : word switch = BitVec.ofNat 16 (64 * value)) :
      word frame &&& OPERATION_MASK = word switch ∧ word frame = word switch ↔ frame = switch := by
    constructor
    · rintro ⟨-, hsame⟩
      have hnat := congrArg BitVec.toNat (hword.symm.trans (hsame.trans hswitch))
      simp only [BitVec.toNat_ofNat] at hnat
      have hfirst : frame.take 5 = switch.take 5 := hhead.mp (by omega)
      have hsecond : frame.drop 5 = switch.drop 5 := by
        rw [htail]
        exact (address_bits_zero hdrop).mp (by omega)
      rw [← List.take_append_drop 5 frame, hfirst, hsecond, List.take_append_drop]
    · rintro rfl
      have hzero : msb_first (frame.drop 5) = 0 := (address_bits_zero hdrop).mpr htail
      refine ⟨?_, rfl⟩
      rw [hword, hmask, hzero, Nat.add_zero]
  refine ⟨?_, ?_, ?_, ?_, ?_⟩
  · rw [hword, hmask]
    exact hread
  · rw [hword, hmask]
    exact hwrite
  · exact hexact (by decide) rfl henable rfl
  · exact hexact (by decide) rfl hdisable rfl
  · apply Fin.ext
    have hsix : (frame.drop 5).take 6 = frame.drop 5 := List.take_of_length_le (Nat.le_of_eq hdrop)
    have hvalue : msb_first ((frame.drop 5).take 6) % WORD_COUNT = msb_first (frame.drop 5) := by
      rw [hsix]
      exact Nat.mod_eq_of_lt haddress
    refine Eq.trans ?_ hvalue.symm
    rw [← hlow, ← hword]
    rfl

end se_device.nmc93cs46
