import SgiEmu.Core.Word

open se_core

namespace se_cpu.decode

def COPROCESSOR_TRANSFER_UNUSED_MASK : U32 := 0x7ff#32
def REGIMM_SELECTOR_MASK : Nat := 0x1d

def CP0_TLBR : U32 := 0x42000001#32
def CP0_TLBWI : U32 := 0x42000002#32
def CP0_TLBWR : U32 := 0x42000006#32
def CP0_TLBP : U32 := 0x42000008#32
def CP0_RFE : U32 := 0x42000010#32

inductive AluInstruction where
  | Sll (rd rt shift_amount : Nat)
  | Srl (rd rt shift_amount : Nat)
  | Sra (rd rt shift_amount : Nat)
  | Sllv (rd rt rs : Nat)
  | Srlv (rd rt rs : Nat)
  | Srav (rd rt rs : Nat)
  | Mfhi (rd : Nat)
  | Mthi (rs : Nat)
  | Mflo (rd : Nat)
  | Mtlo (rs : Nat)
  | Mult (rs rt : Nat)
  | Multu (rs rt : Nat)
  | Div (rs rt : Nat)
  | Divu (rs rt : Nat)
  | Add (rd rs rt : Nat)
  | Addu (rd rs rt : Nat)
  | Sub (rd rs rt : Nat)
  | Subu (rd rs rt : Nat)
  | And (rd rs rt : Nat)
  | Or (rd rs rt : Nat)
  | Xor (rd rs rt : Nat)
  | Nor (rd rs rt : Nat)
  | Slt (rd rs rt : Nat)
  | Sltu (rd rs rt : Nat)
  | Addiu (rt rs : Nat) (immediate : U16)
  | Addi (rt rs : Nat) (immediate : U16)
  | Slti (rt rs : Nat) (immediate : U16)
  | Sltiu (rt rs : Nat) (immediate : U16)
  | Andi (rt rs : Nat) (immediate : U16)
  | Ori (rt rs : Nat) (immediate : U16)
  | Xori (rt rs : Nat) (immediate : U16)
  | Lui (rt : Nat) (immediate : U16)
deriving DecidableEq, Repr

inductive ControlInstruction where
  | J (target : U32)
  | Jal (target : U32)
  | Jr (rs : Nat)
  | Jalr (rd rs : Nat)
  | Beq (rs rt : Nat) (offset : U16)
  | Bne (rs rt : Nat) (offset : U16)
  | Blez (rs : Nat) (offset : U16)
  | Bgtz (rs : Nat) (offset : U16)
  | Bltz (rs : Nat) (offset : U16)
  | Bgez (rs : Nat) (offset : U16)
  | Bltzal (rs : Nat) (offset : U16)
  | Bgezal (rs : Nat) (offset : U16)
deriving DecidableEq, Repr

inductive Cp0Instruction where
  | Mfc0 (rt rd : Nat)
  | Cfc0 (rt rd : Nat)
  | Mtc0 (rt rd : Nat)
  | Ctc0 (rt rd : Nat)
  | Bc0f (offset : U16)
  | Bc0t (offset : U16)
  | Tlbr
  | Tlbwi
  | Tlbwr
  | Tlbp
  | Rfe
deriving DecidableEq, Repr

inductive Cp1FloatFormat where
  | Single
  | Double
deriving DecidableEq, Repr

inductive Cp1BinaryOperation where
  | Add
  | Subtract
  | Multiply
  | Divide
deriving DecidableEq, Repr

inductive Cp1UnaryOperation where
  | Absolute
  | Move
  | Negate
deriving DecidableEq, Repr

inductive Cp1Conversion where
  | SingleToDouble
  | WordToDouble
  | DoubleToSingle
  | WordToSingle
  | SingleToWord
  | DoubleToWord
deriving DecidableEq, Repr

inductive Cp1Instruction where
  | Mfc1 (rt rd : Nat)
  | Cfc1 (rt rd : Nat)
  | Mtc1 (rt rd : Nat)
  | Ctc1 (rt rd : Nat)
  | Bc1f (offset : U16)
  | Bc1t (offset : U16)
  | Lwc1 (base ft : Nat) (offset : U16)
  | Swc1 (base ft : Nat) (offset : U16)
  | Binary (operation : Cp1BinaryOperation) (format : Cp1FloatFormat) (ft fs fd : Nat)
  | Unary (operation : Cp1UnaryOperation) (format : Cp1FloatFormat) (fs fd : Nat)
  | Convert (operation : Cp1Conversion) (fs fd : Nat)
  | Compare (format : Cp1FloatFormat) (condition : U8) (fs ft : Nat)
  | UnimplementedOperation
deriving DecidableEq, Repr

inductive MemoryInstruction where
  | Lb (base rt : Nat) (offset : U16)
  | Lbu (base rt : Nat) (offset : U16)
  | Lh (base rt : Nat) (offset : U16)
  | Lhu (base rt : Nat) (offset : U16)
  | Lwl (base rt : Nat) (offset : U16)
  | Lw (base rt : Nat) (offset : U16)
  | Lwr (base rt : Nat) (offset : U16)
  | Sb (base rt : Nat) (offset : U16)
  | Sh (base rt : Nat) (offset : U16)
  | Swl (base rt : Nat) (offset : U16)
  | Sw (base rt : Nat) (offset : U16)
  | Swr (base rt : Nat) (offset : U16)
deriving DecidableEq, Repr

inductive Instruction where
  | Alu (instruction : AluInstruction)
  | Control (instruction : ControlInstruction)
  | Cp0 (instruction : Cp0Instruction)
  | Cp1 (instruction : Cp1Instruction)
  | Memory (instruction : MemoryInstruction)
  | Syscall
  | Breakpoint
deriving DecidableEq, Repr

inductive DecodeResult where
  | Implemented (instruction : Instruction)
  | UnsupportedCoprocessor (unit : Nat)
  | Undefined
  | Reserved
deriving DecidableEq, Repr

/-! ## Fields -/

def opcode (word : U32) : Nat := (word >>> 26).toNat
def function (word : U32) : Nat := (word &&& 0x3f#32).toNat
def rs (word : U32) : Nat := ((word >>> 21) &&& 0x1f#32).toNat
def rt (word : U32) : Nat := ((word >>> 16) &&& 0x1f#32).toNat
def rd (word : U32) : Nat := ((word >>> 11) &&& 0x1f#32).toNat
def shift_amount (word : U32) : Nat := ((word >>> 6) &&& 0x1f#32).toNat
def immediate (word : U32) : U16 := word.setWidth 16
def target (word : U32) : U32 := word &&& 0x03ffffff#32

/-! ## Decoding -/

def alu (instruction : AluInstruction) : DecodeResult := .Implemented (.Alu instruction)
def control (instruction : ControlInstruction) : DecodeResult := .Implemented (.Control instruction)
def cp0 (instruction : Cp0Instruction) : DecodeResult := .Implemented (.Cp0 instruction)
def cp1 (instruction : Cp1Instruction) : DecodeResult := .Implemented (.Cp1 instruction)
def memory (instruction : MemoryInstruction) : DecodeResult := .Implemented (.Memory instruction)

def decode_special (word : U32) : DecodeResult :=
  match function word with
  | 0x00 => alu (.Sll (rd word) (rt word) (shift_amount word))
  | 0x02 => alu (.Srl (rd word) (rt word) (shift_amount word))
  | 0x03 => alu (.Sra (rd word) (rt word) (shift_amount word))
  | 0x04 => alu (.Sllv (rd word) (rt word) (rs word))
  | 0x06 => alu (.Srlv (rd word) (rt word) (rs word))
  | 0x07 => alu (.Srav (rd word) (rt word) (rs word))
  | 0x08 => control (.Jr (rs word))
  | 0x09 => control (.Jalr (rd word) (rs word))
  | 0x0c => .Implemented .Syscall
  | 0x0d => .Implemented .Breakpoint
  | 0x10 => alu (.Mfhi (rd word))
  | 0x11 => alu (.Mthi (rs word))
  | 0x12 => alu (.Mflo (rd word))
  | 0x13 => alu (.Mtlo (rs word))
  | 0x18 => alu (.Mult (rs word) (rt word))
  | 0x19 => alu (.Multu (rs word) (rt word))
  | 0x1a => alu (.Div (rs word) (rt word))
  | 0x1b => alu (.Divu (rs word) (rt word))
  | 0x20 => alu (.Add (rd word) (rs word) (rt word))
  | 0x21 => alu (.Addu (rd word) (rs word) (rt word))
  | 0x22 => alu (.Sub (rd word) (rs word) (rt word))
  | 0x23 => alu (.Subu (rd word) (rs word) (rt word))
  | 0x24 => alu (.And (rd word) (rs word) (rt word))
  | 0x25 => alu (.Or (rd word) (rs word) (rt word))
  | 0x26 => alu (.Xor (rd word) (rs word) (rt word))
  | 0x27 => alu (.Nor (rd word) (rs word) (rt word))
  | 0x2a => alu (.Slt (rd word) (rs word) (rt word))
  | 0x2b => alu (.Sltu (rd word) (rs word) (rt word))
  | _ => .Reserved

def decode_regimm (word : U32) : DecodeResult :=
  match rt word &&& REGIMM_SELECTOR_MASK with
  | 0x00 => control (.Bltz (rs word) (immediate word))
  | 0x01 => control (.Bgez (rs word) (immediate word))
  | 0x10 => control (.Bltzal (rs word) (immediate word))
  | 0x11 => control (.Bgezal (rs word) (immediate word))
  | _ => .Undefined

/-- The five CP0 operations, matched on the whole word. -/
def decode_cp0_operation (word : U32) : DecodeResult :=
  if word = CP0_TLBR then cp0 .Tlbr
  else if word = CP0_TLBWI then cp0 .Tlbwi
  else if word = CP0_TLBWR then cp0 .Tlbwr
  else if word = CP0_TLBP then cp0 .Tlbp
  else if word = CP0_RFE then cp0 .Rfe
  else .Reserved

/-- A register transfer, which must leave the low bits of its word clear. -/
def transfer (word : U32) (instruction : DecodeResult) : DecodeResult :=
  if word &&& COPROCESSOR_TRANSFER_UNUSED_MASK = 0 then instruction else .Undefined

/-- A coprocessor branch on a false or a true condition. -/
def decode_branch (word : U32) (on_false on_true : DecodeResult) : DecodeResult :=
  if rt word = 0 then on_false else if rt word = 1 then on_true else .Undefined

def decode_cp0 (word : U32) : DecodeResult :=
  match rs word with
  | 0x00 => transfer word (cp0 (.Mfc0 (rt word) (rd word)))
  | 0x02 => transfer word (cp0 (.Cfc0 (rt word) (rd word)))
  | 0x04 => transfer word (cp0 (.Mtc0 (rt word) (rd word)))
  | 0x06 => transfer word (cp0 (.Ctc0 (rt word) (rd word)))
  | 0x08 => decode_branch word (cp0 (.Bc0f (immediate word))) (cp0 (.Bc0t (immediate word)))
  | selector => if 0x10 ≤ selector then decode_cp0_operation word else .Reserved

/-- The range guard of the caller excludes every other function, which the
source marks unreachable. -/
def decode_cp1_binary_operation (function : Nat) : Cp1BinaryOperation :=
  match function with
  | 0x00 => .Add
  | 0x01 => .Subtract
  | 0x02 => .Multiply
  | _ => .Divide

/-- Guarded by the range of the caller, as for the binary operations. -/
def decode_cp1_unary_operation (function : Nat) : Cp1UnaryOperation :=
  match function with
  | 0x05 => .Absolute
  | 0x06 => .Move
  | _ => .Negate

/-- The arithmetic instructions of one floating-point format. -/
def decode_cp1_format (word : U32) (format : Cp1FloatFormat) : Option Cp1Instruction :=
  if function word ≤ 0x03 then
    some (.Binary (decode_cp1_binary_operation (function word)) format (rt word) (rd word)
      (shift_amount word))
  else if 0x05 ≤ function word ∧ function word ≤ 0x07 then
    some (.Unary (decode_cp1_unary_operation (function word)) format (rd word) (shift_amount word))
  else if 0x30 ≤ function word then
    some (.Compare format (BitVec.ofNat 8 (function word &&& 0x0f)) (rd word) (rt word))
  else none

def decode_cp1_conversion (word : U32) : Option Cp1Conversion :=
  match rs word, function word with
  | 0x10, 0x21 => some .SingleToDouble
  | 0x14, 0x21 => some .WordToDouble
  | 0x11, 0x20 => some .DoubleToSingle
  | 0x14, 0x20 => some .WordToSingle
  | 0x10, 0x24 => some .SingleToWord
  | 0x11, 0x24 => some .DoubleToWord
  | _, _ => none

def decode_cp1_computational (word : U32) : DecodeResult :=
  let arithmetic :=
    match rs word with
    | 0x10 => decode_cp1_format word .Single
    | 0x11 => decode_cp1_format word .Double
    | _ => none
  let conversion :=
    (decode_cp1_conversion word).map fun operation =>
      Cp1Instruction.Convert operation (rd word) (shift_amount word)
  cp1 ((arithmetic.or conversion).getD .UnimplementedOperation)

def decode_cp1 (word : U32) : DecodeResult :=
  match rs word with
  | 0x00 => transfer word (cp1 (.Mfc1 (rt word) (rd word)))
  | 0x02 => transfer word (cp1 (.Cfc1 (rt word) (rd word)))
  | 0x04 => transfer word (cp1 (.Mtc1 (rt word) (rd word)))
  | 0x06 => transfer word (cp1 (.Ctc1 (rt word) (rd word)))
  | 0x08 => decode_branch word (cp1 (.Bc1f (immediate word))) (cp1 (.Bc1t (immediate word)))
  | selector => if 0x10 ≤ selector then decode_cp1_computational word else .Reserved

def decode_unsupported_coprocessor (word : U32) : DecodeResult :=
  let unit := opcode word - 0x10
  match rs word with
  | 0x00 | 0x02 | 0x04 | 0x06 =>
    if word &&& COPROCESSOR_TRANSFER_UNUSED_MASK = 0 then .UnsupportedCoprocessor unit else .Reserved
  | 0x08 => if rt word = 0 ∨ rt word = 1 then .UnsupportedCoprocessor unit else .Reserved
  | selector => if 0x10 ≤ selector then .UnsupportedCoprocessor unit else .Reserved

-- The module and its function have one name in the source.
set_option linter.dupNamespace false in
def decode (word : U32) : DecodeResult :=
  match opcode word with
  | 0x00 => decode_special word
  | 0x01 => decode_regimm word
  | 0x02 => control (.J (target word))
  | 0x03 => control (.Jal (target word))
  | 0x04 => control (.Beq (rs word) (rt word) (immediate word))
  | 0x05 => control (.Bne (rs word) (rt word) (immediate word))
  | 0x06 => if rt word = 0 then control (.Blez (rs word) (immediate word)) else .Undefined
  | 0x07 => if rt word = 0 then control (.Bgtz (rs word) (immediate word)) else .Undefined
  | 0x08 => alu (.Addi (rt word) (rs word) (immediate word))
  | 0x09 => alu (.Addiu (rt word) (rs word) (immediate word))
  | 0x0a => alu (.Slti (rt word) (rs word) (immediate word))
  | 0x0b => alu (.Sltiu (rt word) (rs word) (immediate word))
  | 0x0c => alu (.Andi (rt word) (rs word) (immediate word))
  | 0x0d => alu (.Ori (rt word) (rs word) (immediate word))
  | 0x0e => alu (.Xori (rt word) (rs word) (immediate word))
  | 0x0f => alu (.Lui (rt word) (immediate word))
  | 0x10 => decode_cp0 word
  | 0x11 => decode_cp1 word
  | 0x12 | 0x13 => decode_unsupported_coprocessor word
  | 0x20 => memory (.Lb (rs word) (rt word) (immediate word))
  | 0x21 => memory (.Lh (rs word) (rt word) (immediate word))
  | 0x22 => memory (.Lwl (rs word) (rt word) (immediate word))
  | 0x23 => memory (.Lw (rs word) (rt word) (immediate word))
  | 0x24 => memory (.Lbu (rs word) (rt word) (immediate word))
  | 0x25 => memory (.Lhu (rs word) (rt word) (immediate word))
  | 0x26 => memory (.Lwr (rs word) (rt word) (immediate word))
  | 0x31 => cp1 (.Lwc1 (rs word) (rt word) (immediate word))
  | 0x32 | 0x33 => .UnsupportedCoprocessor (opcode word - 0x30)
  | 0x28 => memory (.Sb (rs word) (rt word) (immediate word))
  | 0x29 => memory (.Sh (rs word) (rt word) (immediate word))
  | 0x2a => memory (.Swl (rs word) (rt word) (immediate word))
  | 0x2b => memory (.Sw (rs word) (rt word) (immediate word))
  | 0x2e => memory (.Swr (rs word) (rt word) (immediate word))
  | 0x39 => cp1 (.Swc1 (rs word) (rt word) (immediate word))
  | 0x3a | 0x3b => .UnsupportedCoprocessor (opcode word - 0x38)
  | _ => .Reserved

end se_cpu.decode
