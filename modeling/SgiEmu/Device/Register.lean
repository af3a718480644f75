import SgiEmu.Core.Word

open se_core

namespace se_device

/-! Big-endian access to 32-bit device registers. -/

/-- The word four bytes of a transfer hold; absent bytes read zero. -/
def be_word (data : List U8) (start : Nat) : U32 :=
  from_be_bytes #v[data[start]?.getD 0, data[start + 1]?.getD 0, data[start + 2]?.getD 0, data[start + 3]?.getD 0]

/-- Overwrites the bytes of a register a transaction covers. -/
def write_register (value : U32) (offset : Nat) (data : List U8) : U32 :=
  let byte (index : Nat) (old : U8) : U8 :=
    if offset ≤ index ∧ index < offset + data.length then data[index - offset]?.getD old else old
  let bytes := to_be_bytes value
  from_be_bytes #v[byte 0 (bytes.get 0), byte 1 (bytes.get 1), byte 2 (bytes.get 2), byte 3 (bytes.get 3)]

def masked_write (value : U32) (offset : Nat) (data : List U8) (mask : U32) : U32 :=
  write_register value offset data &&& mask

end se_device
