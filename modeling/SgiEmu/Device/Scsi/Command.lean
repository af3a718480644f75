import SgiEmu.Core.Storage
import SgiEmu.Device.Register

open se_core

namespace se_device.scsi

def FIXED_SENSE_BYTES : Nat := 18

/-- The status returned by a target command. -/
inductive ScsiStatus where
  | Good
  | CheckCondition
deriving DecidableEq, Repr

def ScsiStatus.byte : ScsiStatus → U8
  | .Good => 0x00
  | .CheckCondition => 0x02

/-- Work requested by one decoded command. -/
inductive ScsiCommandPlan where
  | Complete (status : ScsiStatus) (data_in : List U8)
  | ReadStorage (offset byte_count : Nat)
  | WriteStorage (offset byte_count : Nat)
  | ReceiveDataOut (byte_count : Nat)
  | EjectMedium
deriving DecidableEq, Repr

inductive ScsiBackingRequirement where
  | Fixed (size_bytes : Nat)
  | Removable
deriving DecidableEq, Repr

inductive ScsiMediaChangeOrigin where
  | ColdAttach
  | External
  | GuestCommand
deriving DecidableEq, Repr

structure SenseData where
  key : U8
  asc : U8
  ascq : U8
deriving DecidableEq, Repr

namespace SenseData

def NONE : SenseData := ⟨0, 0, 0⟩
def UNSUPPORTED_OPCODE : SenseData := ⟨5, 0x20, 0⟩
def INVALID_CDB_FIELD : SenseData := ⟨5, 0x24, 0⟩
def INVALID_PARAMETER_LIST : SenseData := ⟨5, 0x26, 0⟩
def LBA_OUT_OF_RANGE : SenseData := ⟨5, 0x21, 0⟩
def WRITE_PROTECTED : SenseData := ⟨7, 0x27, 0⟩
def HOST_IO_ERROR : SenseData := ⟨4, 0x44, 0⟩
def NOT_READY : SenseData := ⟨2, 0x04, 0x02⟩
def MEDIUM_NOT_PRESENT : SenseData := ⟨2, 0x3a, 0⟩
def MEDIUM_CHANGED : SenseData := ⟨6, 0x28, 0⟩
def MEDIUM_REMOVAL_PREVENTED : SenseData := ⟨5, 0x53, 0x02⟩

def fixed_response (sense : SenseData) (allocation_length : U8) : List U8 :=
  [0x70, 0, sense.key, 0, 0, 0, 0, 10, 0, 0, 0, 0, sense.asc, sense.ascq, 0, 0, 0, 0].take allocation_length.toNat

end SenseData

/-- One byte of a command descriptor block long enough to hold it. -/
def cdb_byte (cdb : List U8) (index : Nat) : U8 := cdb[index]?.getD 0

def be_u16 (high low : U8) : Nat := high.toNat * 256 + low.toNat

/-- The 21-bit block address of READ(6) and WRITE(6). -/
def lba_6 (cdb : List U8) : Nat :=
  (from_be_bytes #v[0, cdb_byte cdb 1 &&& 0x1f, cdb_byte cdb 2, cdb_byte cdb 3]).toNat

/-- The block count of READ(6) and WRITE(6), where zero means 256. -/
def block_count_6 (cdb : List U8) : Nat := if cdb_byte cdb 4 = 0 then 256 else (cdb_byte cdb 4).toNat

def lba_10 (cdb : List U8) : Nat :=
  (from_be_bytes #v[cdb_byte cdb 2, cdb_byte cdb 3, cdb_byte cdb 4, cdb_byte cdb 5]).toNat

def block_count_10 (cdb : List U8) : Nat := be_u16 (cdb_byte cdb 7) (cdb_byte cdb 8)

def ascii (text : String) : List U8 := text.toList.map fun character => BitVec.ofNat 8 character.toNat

def complete_good (data_in : List U8) : ScsiCommandPlan := .Complete .Good data_in

end se_device.scsi
