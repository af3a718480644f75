import SgiEmu.Float

open se_core se_float

namespace se_cpu.cp1

def IMPLEMENTATION_REVISION : U32 := 0x00000300#32
def CONTROL_STATUS_WRITABLE_MASK : U32 := 0x0083ffff#32
def CONTROL_STATUS_UNIMPLEMENTED : U32 := 1#32 <<< 17
def CONTROL_STATUS_CAUSE_MASK : U32 := 0x0001f000#32
def CONTROL_STATUS_ENABLE_MASK : U32 := 0x00000f80#32
def CONTROL_STATUS_CONDITION : U32 := 1#32 <<< 23
def CONTROL_STATUS_FLAG_SHIFT : Nat := 2
def CONTROL_STATUS_ENABLE_SHIFT : Nat := 7
def CONTROL_STATUS_CAUSE_SHIFT : Nat := 12
def UNDEFINED_COMPANION_WORD : U32 := 0

structure Fcr31Update where
  cause : ExceptionFlags
  sticky_flags : ExceptionFlags
  unimplemented : Bool
  writeback : Bool
deriving DecidableEq, Repr

structure Cp1 where
  registers : Vector U32 32
  exception_instruction : U32
  control_status : U32
  backend : Backend

namespace Cp1

def new (backend : Backend) : Cp1 :=
  { registers := Vector.replicate 32 0, exception_instruction := 0, control_status := 0, backend }

def read_general_register (cp1 : Cp1) (index : Nat) : U32 := cp1.registers[index]!

def write_general_register (cp1 : Cp1) (index : Nat) (value : U32) : Cp1 :=
  { cp1 with registers := cp1.registers.setIfInBounds index value }

def read_control_register (cp1 : Cp1) (index : Nat) : U32 :=
  match index with
  | 0 => IMPLEMENTATION_REVISION
  | 30 => cp1.exception_instruction
  | 31 => cp1.control_status
  | _ => 0

def write_control_status (cp1 : Cp1) (value : U32) : Cp1 :=
  { cp1 with control_status := value &&& CONTROL_STATUS_WRITABLE_MASK }

def write_control_register (cp1 : Cp1) (index : Nat) (value : U32) : Cp1 :=
  match index with
  | 30 => { cp1 with exception_instruction := value }
  | 31 => cp1.write_control_status value
  | _ => cp1

def condition (cp1 : Cp1) : Bool := cp1.control_status &&& CONTROL_STATUS_CONDITION != 0

def interrupt_asserted (cp1 : Cp1) : Bool :=
  let enabled_causes :=
    ((cp1.control_status &&& CONTROL_STATUS_CAUSE_MASK) >>> 5) &&& cp1.control_status
      &&& CONTROL_STATUS_ENABLE_MASK
  cp1.control_status &&& CONTROL_STATUS_UNIMPLEMENTED != 0 || enabled_causes != 0

def restore_backend (cp1 : Cp1) (backend : Backend) : Cp1 := { cp1 with backend }

def write_condition (cp1 : Cp1) (value : Bool) : Cp1 :=
  if value then { cp1 with control_status := cp1.control_status ||| CONTROL_STATUS_CONDITION }
  else { cp1 with control_status := cp1.control_status &&& ~~~CONTROL_STATUS_CONDITION }

def read_float32 (cp1 : Cp1) (register : Nat) : se_float.Float32 := .from_bits cp1.registers[register]!

/-- `register & !1`. -/
def even_register (register : Nat) : Nat := register - register % 2

def read_float64 (cp1 : Cp1) (register : Nat) : Float64 :=
  let even := even_register register
  .from_bits (cp1.registers[even]!.setWidth 64 ||| (cp1.registers[even ||| 1]!.setWidth 64 <<< 32))

def read_word (cp1 : Cp1) (register : Nat) : U32 := cp1.registers[register]!

/-- Writes a word and, into an even register, the companion its odd neighbour gets. -/
def write_word (cp1 : Cp1) (register : Nat) (value : U32) : Cp1 :=
  let registers :=
    if register &&& 1 = 0 then cp1.registers.setIfInBounds (register ||| 1) UNDEFINED_COMPANION_WORD
    else cp1.registers
  { cp1 with registers := registers.setIfInBounds register value }

/-- The source writes a binary32 value exactly as it writes a word. -/
def write_float32 (cp1 : Cp1) (register : Nat) (value : se_float.Float32) : Cp1 :=
  cp1.write_word register value.to_bits

def write_float64 (cp1 : Cp1) (register : Nat) (value : Float64) : Cp1 :=
  let even := even_register register
  let bits := value.to_bits
  { cp1 with
    registers := (cp1.registers.setIfInBounds even (bits.setWidth 32)).setIfInBounds (even ||| 1)
      ((bits >>> 32).setWidth 32) }

def rounding_mode (cp1 : Cp1) : RoundingMode :=
  match (cp1.control_status &&& 3#32).toNat with
  | 0 => .NearestEven
  | 1 => .TowardZero
  | 2 => .TowardPositive
  | _ => .TowardNegative

def enabled_exceptions (cp1 : Cp1) : ExceptionFlags :=
  .from_bits_retain
    (((cp1.control_status &&& CONTROL_STATUS_ENABLE_MASK) >>> CONTROL_STATUS_ENABLE_SHIFT).setWidth 8)

def unimplemented_update : Fcr31Update :=
  { cause := .empty, sticky_flags := .empty, unimplemented := true, writeback := false }

def classify_invalid (cp1 : Cp1) : Fcr31Update :=
  if cp1.enabled_exceptions.contains .INVALID then
    { cause := .INVALID, sticky_flags := .empty, unimplemented := false, writeback := false }
  else unimplemented_update

def classify_nan (cp1 : Cp1) (signals_invalid : Bool) : Fcr31Update :=
  if signals_invalid then cp1.classify_invalid else unimplemented_update

/-- The operand checks shared by both formats, given the format's predicates. -/
def classify_operands {F : Type} (is_subnormal is_nan is_signaling_nan : F → Bool) (cp1 : Cp1)
    (operands : List F) (signal_any_nan : Bool) : Option Fcr31Update :=
  if operands.any is_subnormal then some unimplemented_update
  else if operands.any is_nan then
    some (cp1.classify_nan (signal_any_nan || operands.any is_signaling_nan))
  else none

def classify_float32_operands : Cp1 → List se_float.Float32 → Bool → Option Fcr31Update :=
  classify_operands se_float.Float32.is_subnormal se_float.Float32.is_nan se_float.Float32.is_signaling_nan

def classify_float64_operands : Cp1 → List Float64 → Bool → Option Fcr31Update :=
  classify_operands Float64.is_subnormal Float64.is_nan Float64.is_signaling_nan

def classify_outcome (cp1 : Cp1) (flags : ExceptionFlags) (tiny : Bool) : Fcr31Update :=
  if flags.contains .INVALID then cp1.classify_invalid
  else if flags.contains .DIVIDE_BY_ZERO || tiny || flags.contains .UNDERFLOW then
    unimplemented_update
  else
    let supported_flags := flags &&& (ExceptionFlags.OVERFLOW ||| ExceptionFlags.INEXACT)
    let enabled := supported_flags &&& cp1.enabled_exceptions
    { cause := supported_flags
      sticky_flags := if enabled.is_empty then supported_flags else .empty
      unimplemented := false
      writeback := enabled.is_empty }

def apply_fcr31_update (cp1 : Cp1) (update : Fcr31Update) : Cp1 :=
  let control_status :=
    cp1.control_status &&& ~~~(CONTROL_STATUS_CAUSE_MASK ||| CONTROL_STATUS_UNIMPLEMENTED)
  let control_status :=
    control_status ||| (update.cause.bits.setWidth 32 <<< CONTROL_STATUS_CAUSE_SHIFT)
  let control_status :=
    control_status ||| (update.sticky_flags.bits.setWidth 32 <<< CONTROL_STATUS_FLAG_SHIFT)
  { cp1 with
    control_status :=
      if update.unimplemented then control_status ||| CONTROL_STATUS_UNIMPLEMENTED
      else control_status }

end Cp1

def comparison_condition (condition : U8) (relation : Relation) : Bool :=
  match relation with
  | .Unordered => condition &&& 1#8 != 0
  | .Equal => condition &&& 2#8 != 0
  | .Less => condition &&& 4#8 != 0
  | .Greater => false

end se_cpu.cp1
