import SgiEmu.Core.Word

open se_core

namespace se_float

/-- A binary32 value stored without applying host floating-point semantics. -/
structure Float32 where
  bits : U32
deriving DecidableEq, Repr, Inhabited

namespace Float32

def from_bits (bits : U32) : Float32 := ⟨bits⟩

def to_bits (value : Float32) : U32 := value.bits

def is_nan (value : Float32) : Bool :=
  value.bits &&& 0x7f800000#32 == 0x7f800000#32 && value.bits &&& 0x007fffff#32 != 0

def is_signaling_nan (value : Float32) : Bool :=
  value.is_nan && value.bits &&& 0x00400000#32 != 0

def is_subnormal (value : Float32) : Bool :=
  value.bits &&& 0x7f800000#32 == 0 && value.bits &&& 0x007fffff#32 != 0

end Float32

/-- A binary64 value stored without applying host floating-point semantics. -/
structure Float64 where
  bits : U64
deriving DecidableEq, Repr, Inhabited

namespace Float64

def from_bits (bits : U64) : Float64 := ⟨bits⟩

def to_bits (value : Float64) : U64 := value.bits

def is_nan (value : Float64) : Bool :=
  value.bits &&& 0x7ff0000000000000#64 == 0x7ff0000000000000#64
    && value.bits &&& 0x000fffffffffffff#64 != 0

def is_signaling_nan (value : Float64) : Bool :=
  value.is_nan && value.bits &&& 0x0008000000000000#64 != 0

def is_subnormal (value : Float64) : Bool :=
  value.bits &&& 0x7ff0000000000000#64 == 0 && value.bits &&& 0x000fffffffffffff#64 != 0

end Float64

inductive RoundingMode where
  | NearestEven
  | TowardZero
  | TowardPositive
  | TowardNegative
deriving DecidableEq, Repr

inductive ComparisonMode where
  | Quiet
  | Signaling
deriving DecidableEq, Repr

inductive Relation where
  | Less
  | Equal
  | Greater
  | Unordered
deriving DecidableEq, Repr, Inhabited

structure ExceptionFlags where
  bits : U8
deriving DecidableEq, Repr, Inhabited

namespace ExceptionFlags

def INEXACT : ExceptionFlags := ⟨1#8⟩
def UNDERFLOW : ExceptionFlags := ⟨1#8 <<< 1⟩
def OVERFLOW : ExceptionFlags := ⟨1#8 <<< 2⟩
def DIVIDE_BY_ZERO : ExceptionFlags := ⟨1#8 <<< 3⟩
def INVALID : ExceptionFlags := ⟨1#8 <<< 4⟩

def empty : ExceptionFlags := ⟨0⟩

def from_bits_retain (bits : U8) : ExceptionFlags := ⟨bits⟩

def is_empty (flags : ExceptionFlags) : Bool := flags.bits == 0

def contains (flags other : ExceptionFlags) : Bool := flags.bits &&& other.bits == other.bits

instance : AndOp ExceptionFlags := ⟨fun flags other => ⟨flags.bits &&& other.bits⟩⟩

instance : OrOp ExceptionFlags := ⟨fun flags other => ⟨flags.bits ||| other.bits⟩⟩

end ExceptionFlags

structure Outcome (α : Type) where
  value : α
  flags : ExceptionFlags
  tiny : Bool
deriving DecidableEq, Repr, Inhabited

/-- The floating-point implementation a configuration selects. Both of the
source's backends leave Rust (Berkeley SoftFloat behind a foreign interface, and
host arithmetic), so an implementation is whatever functions it provides. -/
structure Backend where
  add_f32 : Float32 → Float32 → RoundingMode → Outcome Float32
  add_f64 : Float64 → Float64 → RoundingMode → Outcome Float64
  sub_f32 : Float32 → Float32 → RoundingMode → Outcome Float32
  sub_f64 : Float64 → Float64 → RoundingMode → Outcome Float64
  mul_f32 : Float32 → Float32 → RoundingMode → Outcome Float32
  mul_f64 : Float64 → Float64 → RoundingMode → Outcome Float64
  div_f32 : Float32 → Float32 → RoundingMode → Outcome Float32
  div_f64 : Float64 → Float64 → RoundingMode → Outcome Float64
  abs_f32 : Float32 → Outcome Float32
  abs_f64 : Float64 → Outcome Float64
  neg_f32 : Float32 → Outcome Float32
  neg_f64 : Float64 → Outcome Float64
  convert_float32_to_float64 : Float32 → Outcome Float64
  convert_float64_to_float32 : Float64 → RoundingMode → Outcome Float32
  convert_i32_to_float32 : I32 → RoundingMode → Outcome Float32
  convert_i32_to_float64 : I32 → Outcome Float64
  convert_float32_to_i32 : Float32 → RoundingMode → Outcome I32
  convert_float64_to_i32 : Float64 → RoundingMode → Outcome I32
  compare_f32 : Float32 → Float32 → ComparisonMode → Outcome Relation
  compare_f64 : Float64 → Float64 → ComparisonMode → Outcome Relation
deriving Inhabited

end se_float
