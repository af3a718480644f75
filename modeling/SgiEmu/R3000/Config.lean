import SgiEmu.Float

open se_float

namespace se_cpu

def MINIMUM_CACHE_BYTES : Nat := 4 * 1024
def MAXIMUM_CACHE_BYTES : Nat := 256 * 1024

def valid_cache_size (bytes : Nat) : Bool :=
  decide (MINIMUM_CACHE_BYTES ≤ bytes) && decide (bytes ≤ MAXIMUM_CACHE_BYTES)
    && bytes &&& (bytes - 1) == 0

def valid_refill_size (bytes : Nat) : Bool :=
  match bytes with
  | 4 | 16 | 32 | 64 | 128 => true
  | _ => false

/-- Static properties of an R3000 and its attached R3010. `R3000Config::new`
panics unless both cache geometries are legal, so every value carries the proof. -/
structure R3000Config where
  frequency_hz : Nat
  instruction_cache_bytes : Nat
  data_cache_bytes : Nat
  instruction_refill_bytes : Nat
  data_refill_bytes : Nat
  partial_store_enabled : Bool
  floating_point_backend : Backend
  valid_frequency : frequency_hz ≠ 0
  valid_instruction_cache : valid_cache_size instruction_cache_bytes = true
  valid_data_cache : valid_cache_size data_cache_bytes = true
  valid_instruction_refill : valid_refill_size instruction_refill_bytes = true
  valid_data_refill : valid_refill_size data_refill_bytes = true

/-- The smallest legal processor, which the source's tests configure. -/
def TEST_CONFIG (floating_point_backend : Backend) : R3000Config :=
  { frequency_hz := 1
    instruction_cache_bytes := 4 * 1024
    data_cache_bytes := 4 * 1024
    instruction_refill_bytes := 4
    data_refill_bytes := 4
    partial_store_enabled := true
    floating_point_backend
    valid_frequency := by decide
    valid_instruction_cache := by decide
    valid_data_cache := by decide
    valid_instruction_refill := rfl
    valid_data_refill := rfl }

end se_cpu
