import SgiEmu.Core.Word

open se_core

namespace se_cpu.cp0

def INDEX_PROBE_FAILURE : U32 := 1#32 <<< 31
def INDEX_INDEX_MASK : U32 := 0x00003f00#32
def ENTRY_LO_VISIBLE_MASK : U32 := 0xffffff00#32
def CONTEXT_VISIBLE_MASK : U32 := 0xfffffffc#32
def CONTEXT_PTE_BASE_MASK : U32 := 0xffe00000#32
def CONTEXT_BAD_VPN_MASK : U32 := 0x001ffffc#32
def ENTRY_HI_VISIBLE_MASK : U32 := 0xffffffc0#32
def ENTRY_HI_VPN_MASK : U32 := 0xfffff000#32
def ENTRY_HI_ASID_MASK : U32 := 0x00000fc0#32

def PRID : U32 := 0x00000230#32
def RANDOM_RESET : U32 := 63#32 <<< 8

def STATUS_BEV : U32 := 1#32 <<< 22
def STATUS_TS : U32 := 1#32 <<< 21
def STATUS_PE : U32 := 1#32 <<< 20
def STATUS_CM : U32 := 1#32 <<< 19
def STATUS_SWC : U32 := 1#32 <<< 17
def STATUS_ISC : U32 := 1#32 <<< 16
def STATUS_KUC : U32 := 1#32 <<< 1
def STATUS_IEC : U32 := 1#32
def STATUS_MODE_STACK_MASK : U32 := 0x3f#32
def STATUS_CU0 : U32 := 1#32 <<< 28
def STATUS_CU_MASK : U32 := 0xf0000000#32
def STATUS_INTERRUPT_CONTROL_MASK : U32 := 0x0000ff01#32
def STATUS_VISIBLE_MASK : U32 := 0xf27fff3f#32
def STATUS_WRITABLE_MASK : U32 := 0xf247ff3f#32

def CAUSE_BD : U32 := 1#32 <<< 31
def CAUSE_CE_SHIFT : Nat := 28
def CAUSE_IP_MASK : U32 := 0x0000ff00#32
def CAUSE_HARDWARE_IP_MASK : U32 := 0x0000fc00#32
def CAUSE_SOFTWARE_IP_MASK : U32 := 0x00000300#32
def CAUSE_VISIBLE_MASK : U32 := 0xb000ff7c#32

def GENERAL_EXCEPTION_VECTOR : U32 := 0x80000080#32
def BOOT_GENERAL_EXCEPTION_VECTOR : U32 := 0xbfc00180#32
def TLB_REFILL_EXCEPTION_VECTOR : U32 := 0x80000000#32
def BOOT_TLB_REFILL_EXCEPTION_VECTOR : U32 := 0xbfc00100#32

inductive TlbFaultKind where
  | Miss
  | Invalid
deriving DecidableEq, Repr

inductive Exception where
  | Interrupt
  | InstructionAddressError (address : U32)
  | LoadAddressError (address : U32)
  | StoreAddressError (address : U32)
  | TlbLoad (address : U32) (fault : TlbFaultKind)
  | TlbStore (address : U32) (fault : TlbFaultKind)
  | TlbModified (address : U32)
  | InstructionBusError
  | DataBusError
  | Syscall
  | Breakpoint
  | ReservedInstruction
  | CoprocessorUnusable (unit : Nat)
  | Overflow
deriving DecidableEq, Repr

structure FunctionalState where
  coprocessor_usable : U32
  interrupt_control : U32
  software_interrupts : U32
deriving DecidableEq, Repr

/-- `IsC|SwC` cache-control bits of one Status view. -/
structure CacheControl where
  isolated : Bool
  swapped : Bool
deriving DecidableEq, Repr

def CacheControl.from_status (status : U32) : CacheControl :=
  { isolated := status &&& STATUS_ISC != 0, swapped := status &&& STATUS_SWC != 0 }

def CacheControl.status_bits (control : CacheControl) : U32 :=
  (if control.isolated then STATUS_ISC else 0) ||| (if control.swapped then STATUS_SWC else 0)

def FunctionalState.from_registers (status cause : U32) : FunctionalState :=
  { coprocessor_usable := status &&& STATUS_CU_MASK
    interrupt_control := status &&& STATUS_INTERRUPT_CONTROL_MASK
    software_interrupts := cause &&& CAUSE_SOFTWARE_IP_MASK }

structure Cp0 where
  index : U32
  random : U32
  entry_lo : U32
  context : U32
  bad_vaddr : U32
  entry_hi : U32
  status : U32
  cause : U32
  epc : U32
  effective : FunctionalState
  pending_functional : Option FunctionalState
deriving DecidableEq, Repr

namespace Cp0

def new : Cp0 :=
  { index := 0
    random := RANDOM_RESET
    entry_lo := 0
    context := 0
    bad_vaddr := 0
    entry_hi := 0
    status := STATUS_BEV
    cause := 0
    epc := 0
    effective := .from_registers STATUS_BEV 0
    pending_functional := none }

def reset (cp0 : Cp0) (interrupted_pc : U32) : Cp0 :=
  let status := (cp0.status ||| STATUS_BEV) &&& ~~~(STATUS_TS ||| STATUS_KUC ||| STATUS_IEC)
  { cp0 with
    status
    epc := interrupted_pc
    random := RANDOM_RESET
    effective := .from_registers status cp0.cause
    pending_functional := none }

def read_register (cp0 : Cp0) (index : Nat) : U32 :=
  match index with
  | 0 => cp0.index &&& (INDEX_PROBE_FAILURE ||| INDEX_INDEX_MASK)
  | 1 => cp0.random &&& INDEX_INDEX_MASK
  | 2 => cp0.entry_lo &&& ENTRY_LO_VISIBLE_MASK
  | 4 => cp0.context &&& CONTEXT_VISIBLE_MASK
  | 8 => cp0.bad_vaddr
  | 10 => cp0.entry_hi &&& ENTRY_HI_VISIBLE_MASK
  | 12 => cp0.status &&& STATUS_VISIBLE_MASK
  | 13 => cp0.cause &&& CAUSE_VISIBLE_MASK
  | 14 => cp0.epc
  | 15 => PRID
  | _ => 0

def status_after_write (cp0 : Cp0) (value : U32) : U32 :=
  let preserved := cp0.status &&& ~~~(STATUS_WRITABLE_MASK ||| STATUS_PE)
  let parity_error := if value &&& STATUS_PE = 0 then cp0.status &&& STATUS_PE else 0
  preserved ||| (value &&& STATUS_WRITABLE_MASK) ||| parity_error

/-- Commits a guest register transfer to the Status register. Clearing `IEc`
disables interrupt recognition at this boundary; every other functional change
waits in `pending_functional`. -/
def write_status (cp0 : Cp0) (value : U32) : Cp0 :=
  let status := cp0.status_after_write value
  let effective :=
    if status &&& STATUS_IEC = 0 then
      { cp0.effective with interrupt_control := cp0.effective.interrupt_control &&& ~~~STATUS_IEC }
    else cp0.effective
  { cp0 with
    status
    effective
    pending_functional := some
      { effective with
        coprocessor_usable := status &&& STATUS_CU_MASK
        interrupt_control := status &&& STATUS_INTERRUPT_CONTROL_MASK } }

def write_cause (cp0 : Cp0) (value : U32) : Cp0 :=
  let cause := (cp0.cause &&& ~~~CAUSE_SOFTWARE_IP_MASK) ||| (value &&& CAUSE_SOFTWARE_IP_MASK)
  { cp0 with
    cause
    pending_functional := some
      { cp0.effective with software_interrupts := cause &&& CAUSE_SOFTWARE_IP_MASK } }

def write_register (cp0 : Cp0) (index : Nat) (value : U32) : Cp0 :=
  match index with
  | 0 => { cp0 with index := (cp0.index &&& INDEX_PROBE_FAILURE) ||| (value &&& INDEX_INDEX_MASK) }
  | 1 | 8 | 15 => cp0
  | 2 => { cp0 with entry_lo := value &&& ENTRY_LO_VISIBLE_MASK }
  | 4 =>
    { cp0 with
      context := (cp0.context &&& ~~~CONTEXT_PTE_BASE_MASK) ||| (value &&& CONTEXT_PTE_BASE_MASK) }
  | 10 => { cp0 with entry_hi := value &&& ENTRY_HI_VISIBLE_MASK }
  | 12 => cp0.write_status value
  | 13 => cp0.write_cause value
  | 14 => { cp0 with epc := value }
  | _ => cp0

def tlb_index (cp0 : Cp0) : Nat := ((cp0.index &&& INDEX_INDEX_MASK) >>> 8).toNat

def random_tlb_index (cp0 : Cp0) : Nat := ((cp0.random &&& INDEX_INDEX_MASK) >>> 8).toNat

def tlb_staging (cp0 : Cp0) : U32 × U32 :=
  (cp0.entry_hi &&& ENTRY_HI_VISIBLE_MASK, cp0.entry_lo &&& ENTRY_LO_VISIBLE_MASK)

def current_asid (cp0 : Cp0) : U8 := ((cp0.entry_hi &&& ENTRY_HI_ASID_MASK) >>> 6).setWidth 8

def is_kernel_mode (cp0 : Cp0) : Bool := cp0.status &&& STATUS_KUC == 0

def is_tlb_shutdown (cp0 : Cp0) : Bool := cp0.status &&& STATUS_TS != 0

/-- The `IsC|SwC` bits the Status register holds. -/
def status_cache_control (cp0 : Cp0) : CacheControl := .from_status cp0.status

def set_status_cache_control (cp0 : Cp0) (control : CacheControl) : Cp0 :=
  let mask := STATUS_ISC ||| STATUS_SWC
  { cp0 with status := (cp0.status &&& ~~~mask) ||| control.status_bits }

/-- The `IsC|SwC` bits a transfer to one CP0 register would store. -/
def cache_control_after_write (cp0 : Cp0) (index : Nat) (value : U32) : Option CacheControl :=
  if index = 12 then some (.from_status (cp0.status_after_write value)) else none

def set_cache_miss (cp0 : Cp0) (miss : Bool) : Cp0 :=
  if miss then { cp0 with status := cp0.status ||| STATUS_CM }
  else { cp0 with status := cp0.status &&& ~~~STATUS_CM }

def enter_tlb_shutdown (cp0 : Cp0) : Cp0 := { cp0 with status := cp0.status ||| STATUS_TS }

def write_tlb_read_result (cp0 : Cp0) (entry_hi entry_lo : U32) : Cp0 :=
  { cp0 with
    entry_hi := entry_hi &&& ENTRY_HI_VISIBLE_MASK
    entry_lo := entry_lo &&& ENTRY_LO_VISIBLE_MASK }

def write_tlb_probe_result (cp0 : Cp0) (index : U32) : Cp0 :=
  { cp0 with index := index &&& (INDEX_PROBE_FAILURE ||| INDEX_INDEX_MASK) }

def is_usable (cp0 : Cp0) : Bool :=
  cp0.status &&& STATUS_KUC == 0 || cp0.effective.coprocessor_usable &&& STATUS_CU0 != 0

def coprocessor_usable (cp0 : Cp0) (unit : Nat) : Bool :=
  cp0.effective.coprocessor_usable &&& (1#32 <<< (28 + unit)) != 0

def set_hardware_interrupt_line (cp0 : Cp0) (input : Nat) (asserted : Bool) : Cp0 :=
  let mask := 1#32 <<< (input + 10)
  if asserted then { cp0 with cause := cp0.cause ||| mask }
  else { cp0 with cause := cp0.cause &&& ~~~mask }

def interrupt_requested (cp0 : Cp0) : Bool :=
  let pending := (cp0.cause &&& CAUSE_HARDWARE_IP_MASK) ||| cp0.effective.software_interrupts
  let control := cp0.effective.interrupt_control
  control &&& STATUS_IEC != 0 && pending &&& control &&& CAUSE_IP_MASK != 0

def commit_pending_functional (cp0 : Cp0) : Cp0 :=
  match cp0.pending_functional with
  | some functional => { cp0 with effective := functional, pending_functional := none }
  | none => cp0

def restore_status (cp0 : Cp0) (value : U32) : Cp0 :=
  let status := (cp0.status &&& ~~~0x0f#32) ||| (value &&& 0x0f#32)
  let interrupt_enable := status &&& STATUS_IEC
  let patch (functional : FunctionalState) : FunctionalState :=
    { functional with
      interrupt_control := (functional.interrupt_control &&& ~~~STATUS_IEC) ||| interrupt_enable }
  { cp0 with
    status
    effective := patch cp0.effective
    pending_functional := cp0.pending_functional.map patch }

def advance_random (cp0 : Cp0) : Cp0 :=
  let current := (cp0.random &&& INDEX_INDEX_MASK) >>> 8
  let next := if current ≤ 8 then 63 else current - 1
  { cp0 with random := next <<< 8 }

/-- The Cause code of an exception, the address it reports as bad, the address
whose translation failed, and whether the refill vector serves it. -/
def exception_parameters : Exception → U32 × Option U32 × Option U32 × Bool
  | .Interrupt => (0, none, none, false)
  | .InstructionAddressError address | .LoadAddressError address => (4, some address, none, false)
  | .StoreAddressError address => (5, some address, none, false)
  | .TlbLoad address fault =>
    (2, some address, some address, fault == .Miss && decide (address < 0x80000000#32))
  | .TlbStore address fault =>
    (3, some address, some address, fault == .Miss && decide (address < 0x80000000#32))
  | .TlbModified address => (1, some address, some address, false)
  | .InstructionBusError => (6, none, none, false)
  | .DataBusError => (7, none, none, false)
  | .Syscall => (8, none, none, false)
  | .Breakpoint => (9, none, none, false)
  | .ReservedInstruction => (10, none, none, false)
  | .CoprocessorUnusable _ => (11, none, none, false)
  | .Overflow => (12, none, none, false)

def exception_coprocessor : Exception → U32
  | .CoprocessorUnusable unit => BitVec.ofNat 32 unit
  | _ => 0

/-- Enters an exception context and returns the vector it starts from. -/
def take_exception (cp0 : Cp0) (exception : Exception) (epc : U32) (in_delay_slot : Bool) : U32 × Cp0 :=
  let coprocessor := exception_coprocessor exception
  let (exception_code, bad_address, tlb_address, use_refill_vector) := exception_parameters exception
  let status :=
    (cp0.status &&& ~~~STATUS_MODE_STACK_MASK) ||| ((cp0.status <<< 2) &&& STATUS_MODE_STACK_MASK)
  let cause :=
    (cp0.cause &&& CAUSE_IP_MASK)
      ||| (if in_delay_slot then CAUSE_BD else 0)
      ||| (coprocessor <<< CAUSE_CE_SHIFT)
      ||| (exception_code <<< 2)
  let mask (functional : FunctionalState) : FunctionalState :=
    { functional with interrupt_control := functional.interrupt_control &&& ~~~STATUS_IEC }
  let vector :=
    match status &&& STATUS_BEV != 0, use_refill_vector with
    | false, false => GENERAL_EXCEPTION_VECTOR
    | false, true => TLB_REFILL_EXCEPTION_VECTOR
    | true, false => BOOT_GENERAL_EXCEPTION_VECTOR
    | true, true => BOOT_TLB_REFILL_EXCEPTION_VECTOR
  (vector,
    { cp0 with
      status
      cause
      epc
      bad_vaddr := bad_address.getD cp0.bad_vaddr
      context := tlb_address.elim cp0.context fun address =>
        (cp0.context &&& CONTEXT_PTE_BASE_MASK) ||| ((address >>> 10) &&& CONTEXT_BAD_VPN_MASK)
      entry_hi := tlb_address.elim cp0.entry_hi fun address =>
        (address &&& ENTRY_HI_VPN_MASK) ||| (cp0.entry_hi &&& ENTRY_HI_ASID_MASK)
      effective := mask cp0.effective
      pending_functional := cp0.pending_functional.map mask })

end Cp0

end se_cpu.cp0
