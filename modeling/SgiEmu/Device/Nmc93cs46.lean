import SgiEmu.Core.Word

open se_core

namespace se_device.nmc93cs46

def WORD_COUNT : Nat := 64
def COMMAND_BITS : Nat := 11
def DATA_BITS : Nat := 16

def READ_COMMAND : U16 := 0x0600
def WRITE_COMMAND : U16 := 0x0500
def WRITE_ENABLE_COMMAND : U16 := 0x04c0
def WRITE_DISABLE_COMMAND : U16 := 0x0400
def OPERATION_MASK : U16 := 0x07c0
def ADDRESS_MASK : U16 := 0b111111

/-- Nonvolatile words of the EEPROM. -/
abbrev Nmc93cs46Contents := Vector U16 WORD_COUNT

inductive Transfer where
  | Command (bits : U16) (count : Nat)
  | Read (value : U16) (next_bit : Nat)
  | Write (address : Fin WORD_COUNT) (value : U16) (count : Nat)
  | Ignore
deriving DecidableEq, Repr

/-- A 64-word serial EEPROM. -/
structure Nmc93cs46 where
  words : Vector U16 WORD_COUNT
  transfer : Transfer
  write_enabled : Bool
  chip_select : Bool
  clock : Bool
  data_out : Bool
deriving DecidableEq

/-- The levels of the four serial input pins. -/
structure Pins where
  pre : Bool
  chip_select : Bool
  clock : Bool
  data_in : Bool
deriving DecidableEq, Repr

/-- Shifts a data bit into a register. -/
def shift_in (value : U16) (data_in : Bool) : U16 := value <<< 1 ||| BitVec.ofNat 16 data_in.toNat

/-- The word a command addresses. -/
def command_address (command : U16) : Fin WORD_COUNT :=
  ⟨(command &&& ADDRESS_MASK).toNat, by
    have hmask : (command &&& ADDRESS_MASK).toNat ≤ ADDRESS_MASK.toNat := by
      rw [BitVec.toNat_and]
      exact Nat.and_le_right
    exact Nat.lt_succ_of_le hmask⟩

namespace Nmc93cs46

/-- An erased EEPROM. -/
def new : Nmc93cs46 :=
  { words := Vector.replicate WORD_COUNT 0xffff, transfer := .Command 0 0, write_enabled := false, chip_select := false
    clock := false, data_out := false }

def contents (device : Nmc93cs46) : Nmc93cs46Contents := device.words

/-- Resets the serial interface without erasing stored words. -/
def reset (device : Nmc93cs46) : Nmc93cs46 :=
  { device with
    transfer := .Command 0 0, write_enabled := false, chip_select := false, clock := false, data_out := false }

def restore_contents (device : Nmc93cs46) (contents : Nmc93cs46Contents) : Nmc93cs46 :=
  reset { device with words := contents }

def decode_command (device : Nmc93cs46) (command : U16) : Nmc93cs46 :=
  let address := command_address command
  let operation := command &&& OPERATION_MASK
  let device := { device with data_out := true }
  if operation = READ_COMMAND then { device with transfer := .Read (device.words.get address) 0 }
  else if operation = WRITE_COMMAND then { device with transfer := .Write address 0 0 }
  else if operation = WRITE_ENABLE_COMMAND ∧ command = WRITE_ENABLE_COMMAND then
    { device with write_enabled := true, transfer := .Ignore }
  else if operation = WRITE_DISABLE_COMMAND ∧ command = WRITE_DISABLE_COMMAND then
    { device with write_enabled := false, transfer := .Ignore }
  else { device with transfer := .Ignore }

def clock_rising_edge (device : Nmc93cs46) (data_in : Bool) : Nmc93cs46 :=
  match device.transfer with
  | .Command bits count =>
    if count = 0 ∧ data_in = false then { device with data_out := true }
    else
      let bits := shift_in bits data_in
      if count + 1 = COMMAND_BITS then device.decode_command bits
      else { device with transfer := .Command bits (count + 1), data_out := true }
  | .Read value next_bit =>
    { device with
      data_out := value &&& ((1 : U16) <<< (DATA_BITS - 1 - next_bit)) != 0
      transfer := if next_bit + 1 = DATA_BITS then .Ignore else .Read value (next_bit + 1) }
  | .Write address value count =>
    let value := shift_in value data_in
    if count + 1 = DATA_BITS then
      { device with
        words := if device.write_enabled then device.words.set address value else device.words
        transfer := .Ignore
        data_out := true }
    else { device with transfer := .Write address value (count + 1) }
  | .Ignore => device

/-- Applies the current values of the serial input pins. -/
def drive_pins (device : Nmc93cs46) (pins : Pins) : Nmc93cs46 :=
  if !pins.chip_select then
    { device with transfer := .Command 0 0, chip_select := false, clock := pins.clock, data_out := false }
  else
    let selected :=
      if !device.chip_select then { device with transfer := .Command 0 0, data_out := true } else device
    let rising_edge := !selected.clock && pins.clock
    let driven := { selected with chip_select := true, clock := pins.clock }
    if rising_edge then driven.clock_rising_edge pins.data_in else driven

/-- The level of the data output pin, as `data_out` reports it. -/
def data_out_pin (device : Nmc93cs46) : Bool := device.chip_select && device.data_out

def drive_all (device : Nmc93cs46) (history : List Pins) : Nmc93cs46 := history.foldl drive_pins device

end Nmc93cs46

end se_device.nmc93cs46
