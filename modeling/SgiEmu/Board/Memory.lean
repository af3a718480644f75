import SgiEmu.Core.Bus
import SgiEmu.Core.Storage

open se_core se_core.bus Library.ByteMemory

namespace se_device.pic1

/-- The bank size a memory descriptor programs. -/
def memory_size (descriptor : U16) : Option Nat :=
  match ((descriptor >>> 8) &&& 0xf).toNat with
  | 0x0 => some (4 * 1024 * 1024)
  | 0x1 => some (8 * 1024 * 1024)
  | 0x3 => some (16 * 1024 * 1024)
  | 0x7 => some (32 * 1024 * 1024)
  | 0xf => some (64 * 1024 * 1024)
  | _ => none

/-- The parts of PIC1 a DMA access uses. -/
structure Pic1 where
  memory_descriptors : Vector U16 4
  address_error_pending : Bool
deriving DecidableEq, Repr

namespace Pic1

/-- The bank and the offset in it of a window that holds the whole range. -/
def decode_memory (pic1 : Pic1) (address byte_len : Nat) : Except BusError (Option (Fin 4 × Nat)) :=
  if byte_len = 0 then .error .InvalidTransaction
  else
    match checked_add_u64 address byte_len with
    | none => .error .InvalidTransaction
    | some last =>
      .ok <| (List.finRange 4).findSome? fun index =>
        match memory_size (pic1.memory_descriptors.get index) with
        | none => none
        | some size =>
          let base := (pic1.memory_descriptors.get index &&& 0x3f).toNat <<< 22
          if base ≤ address ∧ last ≤ base + size then some (index, address - base) else none

def report_address_error (pic1 : Pic1) : Pic1 := { pic1 with address_error_pending := true }

end Pic1

end se_device.pic1

namespace se_device.ram

/-- One memory module; the cells from `byte_len` on are never used. -/
structure Ram where
  byte_len : Nat
  bytes : Nat → U8

namespace Ram

/-- The end of a nonempty range inside the storage. -/
def transaction_range (ram : Ram) (address length : Nat) : Except BusError Nat :=
  if length = 0 then .error .InvalidTransaction
  else
    match checked_add_u64 address length with
    | none => .error .InvalidTransaction
    | some last => if ram.byte_len < last then .error .HardwareFault else .ok last

def read (ram : Ram) (address length : Nat) : Except BusError (List U8) :=
  match ram.transaction_range address length with
  | .error fault => .error fault
  | .ok _ => .ok (load ram.bytes address length)

def write (ram : Ram) (address : Nat) (data : List U8) : Except BusError Ram :=
  match ram.transaction_range address data.length with
  | .error fault => .error fault
  | .ok _ => .ok { ram with bytes := store ram.bytes address data }

end Ram

end se_device.ram

namespace se_machine.ip12

open se_device.pic1 se_device.ram

/-- The memory modules behind PIC1. -/
structure LocalMemory where
  modules : Vector (Option Ram) 4

namespace LocalMemory

variable {memory next : LocalMemory} {pic1 pic1' : Pic1} {address : U32} {data : List U8}

/-- The module and offset of a DMA access, where PIC1 decodes it to an installed one. -/
def dma_module (memory : LocalMemory) (pic1 : Pic1) (address : U32) (byte_len : Nat) : Option (Fin 4 × Nat × Ram) :=
  match pic1.decode_memory address.toNat byte_len with
  | .ok (some (index, offset)) => (memory.modules.get index).map fun ram => (index, offset, ram)
  | _ => none

def read_dma (memory : LocalMemory) (pic1 : Pic1) (address : U32) (length : Nat) : Option (List U8) × Pic1 :=
  match memory.dma_module pic1 address length with
  | none => (none, pic1.report_address_error)
  | some (_, offset, ram) =>
    match ram.read offset length with
    | .error _ => (none, pic1.report_address_error)
    | .ok data => (some data, pic1)

theorem module_lt (index : Fin 4) : index.val < 4 := index.isLt

def write_dma (memory : LocalMemory) (pic1 : Pic1) (address : U32) (data : List U8) : Bool × LocalMemory × Pic1 :=
  match memory.dma_module pic1 address data.length with
  | none => (false, memory, pic1.report_address_error)
  | some (index, offset, ram) =>
    match ram.write offset data with
    | .error _ => (false, memory, pic1.report_address_error)
    | .ok ram => (true, { modules := memory.modules.set index.val (some ram) index.isLt }, pic1)

/-- The memory with a run of bytes laid out at the address PIC1 decodes. -/
inductive Stored (memory : LocalMemory) (pic1 : Pic1) (address : U32) (data : List U8) : LocalMemory → Prop
  | laid_out (index : Fin 4) (offset : Nat) (ram : Ram)
      (hmodule : memory.dma_module pic1 address data.length = some (index, offset, ram))
      (hfits : offset + data.length ≤ ram.byte_len) :
      Stored memory pic1 address data
        { modules := memory.modules.set index.val (some { ram with bytes := store ram.bytes offset data }) index.isLt }

/-- The bytes of a run at the address PIC1 decodes. -/
def Loaded (memory : LocalMemory) (pic1 : Pic1) (address : U32) (data : List U8) : Prop :=
  ∃ index offset ram, memory.dma_module pic1 address data.length = some (index, offset, ram) ∧
    offset + data.length ≤ ram.byte_len ∧ data = load ram.bytes offset data.length

theorem transaction_range_ok {ram : Ram} {offset length last : Nat} (h : ram.transaction_range offset length = .ok last) :
    offset + length ≤ ram.byte_len := by
  unfold Ram.transaction_range at h
  split at h
  · simp at h
  · split at h
    · simp at h
    case h_2 end_ hsum =>
      split at h
      · simp at h
      case isFalse hfits =>
        have hend := (checked_add_u64_eq_some.mp hsum).2
        omega

/-- A DMA write lays out all its bytes or leaves the memory alone. -/
theorem write_dma_cases (memory : LocalMemory) (pic1 : Pic1) (address : U32) (data : List U8) :
    memory.write_dma pic1 address data = (false, memory, pic1.report_address_error) ∨
      ∃ next, memory.write_dma pic1 address data = (true, next, pic1) ∧ Stored memory pic1 address data next := by
  unfold write_dma
  cases hmodule : memory.dma_module pic1 address data.length with
  | none => exact Or.inl rfl
  | some decoded =>
    obtain ⟨index, offset, ram⟩ := decoded
    dsimp only
    unfold Ram.write
    cases hrange : ram.transaction_range offset data.length with
    | error fault => exact Or.inl rfl
    | ok last => exact Or.inr ⟨_, rfl, .laid_out index offset ram hmodule (transaction_range_ok hrange)⟩

/-- A DMA read returns the bytes of the whole range, or faults. -/
theorem read_dma_cases (memory : LocalMemory) (pic1 : Pic1) (address : U32) (length : Nat) :
    memory.read_dma pic1 address length = (none, pic1.report_address_error) ∨
      ∃ data, memory.read_dma pic1 address length = (some data, pic1) ∧ data.length = length ∧
        Loaded memory pic1 address data := by
  unfold read_dma
  cases hmodule : memory.dma_module pic1 address length with
  | none => exact Or.inl rfl
  | some decoded =>
    obtain ⟨index, offset, ram⟩ := decoded
    dsimp only
    unfold Ram.read
    cases hrange : ram.transaction_range offset length with
    | error fault => exact Or.inl rfl
    | ok last =>
      have hlength := load_length ram.bytes offset length
      refine Or.inr ⟨load ram.bytes offset length, rfl, hlength, index, offset, ram, ?_, ?_, ?_⟩
      · rw [hlength, hmodule]
      · rw [hlength]
        exact transaction_range_ok hrange
      · rw [hlength]

end LocalMemory

end se_machine.ip12
