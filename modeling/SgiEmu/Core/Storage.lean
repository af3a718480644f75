import SgiEmu.Core.Word
import SgiEmu.Core.BTreeMap

namespace se_core

/-! ## Offsets and lengths

Offsets, lengths and counters of the source are 64-bit; here they are natural
numbers, and the operations that can leave the range check it. -/

def U64_MAX : Nat := 0xffffffffffffffff

def checked_add_u64 (lhs rhs : Nat) : Option Nat := if lhs + rhs ≤ U64_MAX then some (lhs + rhs) else none

def checked_mul_u64 (lhs rhs : Nat) : Option Nat := if lhs * rhs ≤ U64_MAX then some (lhs * rhs) else none

theorem checked_add_u64_eq_some {lhs rhs sum : Nat} :
    checked_add_u64 lhs rhs = some sum ↔ lhs + rhs ≤ U64_MAX ∧ sum = lhs + rhs := by
  unfold checked_add_u64
  split
  · rename_i h
    simp only [Option.some.injEq, h, true_and]
    exact eq_comm
  · rename_i h
    simp only [reduceCtorEq, h, false_and]

namespace storage

inductive StorageAccess where
  | ReadOnly
  | ReadWrite
deriving DecidableEq, Repr

/-- The kinds of host error the storage code raises itself, and all others. -/
inductive IoErrorKind where
  | InvalidInput
  | UnexpectedEof
  | AlreadyExists
  | Other
deriving DecidableEq, Repr

structure IoError where
  kind : IoErrorKind
  message : String
deriving DecidableEq, Repr

def IoError.other (message : String) : IoError := { kind := .Other, message }

end storage

end se_core
