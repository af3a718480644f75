import SgiEmu.Config.Draft
import SgiEmu.Machine.Input

open se_config se_core se_core.storage

namespace se_machine.ip12

/-! ## Memory -/

inductive Ip12SimmSize where
  | Mib2
  | Mib4
  | Mib8
deriving DecidableEq, Repr

def Ip12SimmSize.simm_mib : Ip12SimmSize → Nat
  | Mib2 => 2
  | Mib4 => 4
  | Mib8 => 8

inductive Ip12MemoryConfigurationError where
  | NoInstalledBank
  | UnsupportedSimmCapacity (bank mib : Nat)
deriving DecidableEq, Repr

/-- Banks A, B and C, of which at least one is populated. -/
structure Ip12MemoryConfiguration where
  a : Option Ip12SimmSize
  b : Option Ip12SimmSize
  c : Option Ip12SimmSize
  populated : a.isSome ∨ b.isSome ∨ c.isSome
deriving DecidableEq, Repr

namespace Ip12MemoryConfiguration

def new (a b c : Option Ip12SimmSize) : Except Ip12MemoryConfigurationError Ip12MemoryConfiguration :=
  if populated : a.isSome ∨ b.isSome ∨ c.isSome then .ok { a, b, c, populated } else .error .NoInstalledBank

def simm_size (bank mib : Nat) : Except Ip12MemoryConfigurationError (Option Ip12SimmSize) :=
  match mib with
  | 0 => .ok none
  | 2 => .ok (some .Mib2)
  | 4 => .ok (some .Mib4)
  | 8 => .ok (some .Mib8)
  | mib => .error (.UnsupportedSimmCapacity bank mib)

def try_from_simm_mib (a b c : Nat) : Except Ip12MemoryConfigurationError Ip12MemoryConfiguration := do
  let a ← simm_size 0 a
  let b ← simm_size 1 b
  let c ← simm_size 2 c
  new a b c

/-- The capacities of banks A, B and C; empty banks are zero. -/
def simm_mib (memory : Ip12MemoryConfiguration) : List Nat :=
  [memory.a, memory.b, memory.c].map fun bank => (bank.map Ip12SimmSize.simm_mib).getD 0

end Ip12MemoryConfiguration

/-! ## Attachments -/

inductive Backend where
  | SoftFloat
  | Native
deriving DecidableEq, Repr

inductive GioSlot where
  | Slot0
  | Slot1
  | Graphics
deriving DecidableEq, Repr

inductive GioDevice where
  | Lg1
deriving DecidableEq, Repr

structure GioAttachment where
  slot : GioSlot
  device : GioDevice
deriving DecidableEq, Repr

inductive ScsiDevice where
  | Disk
  | Cdrom
deriving DecidableEq, Repr

/-- A SCSI device and its medium, which a disk cannot be without. -/
structure ScsiAttachment where
  target : Nat
  lun : Nat
  device : ScsiDevice
  medium : Option ResourceId
  fixed : device = .Disk → medium.isSome
deriving DecidableEq, Repr

namespace ScsiAttachment

def disk (target lun : Nat) (medium : ResourceId) : ScsiAttachment :=
  { target, lun, device := .Disk, medium := some medium, fixed := fun _ => rfl }

def cdrom (target lun : Nat) (medium : Option ResourceId) : ScsiAttachment :=
  { target, lun, device := .Cdrom, medium, fixed := nofun }

end ScsiAttachment

/-- The configurable ports, in their order. -/
inductive Ip12Port where
  | Keyboard
  | Mouse
  | SerialA
  | SerialB
deriving DecidableEq, Repr

def Ip12Port.index : Ip12Port → Nat
  | Keyboard => 0
  | Mouse => 1
  | SerialA => 2
  | SerialB => 3

inductive Ip12Peripheral where
  | SgiKeyboard
  | SgiMouse
  | Vt100Terminal
deriving DecidableEq, Repr

def compatible : Ip12Port → Ip12Peripheral → Bool
  | .Keyboard, .SgiKeyboard | .Mouse, .SgiMouse | .SerialA, .Vt100Terminal | .SerialB, .Vt100Terminal => true
  | _, _ => false

/-- A port and its peripheral; the constructor asserts that they are compatible. -/
structure Ip12PortAttachment where
  port : Ip12Port
  peripheral : Ip12Peripheral
  compatible : compatible port peripheral
deriving DecidableEq, Repr

/-! ## Plans -/

/-- A resource path, its form and where it was configured. -/
structure ResourceRequirement where
  path : String
  kind : ResourceKind
  origin : DiagnosticTarget
deriving DecidableEq, Repr

abbrev ResourceRequirements : Type := BTreeMap ResourceId ResourceRequirement

/-- Ports are unique and canonically ordered. -/
def canonical_ports (port_attachments : List Ip12PortAttachment) : Prop :=
  port_attachments.IsChain fun first second => first.port.index < second.port.index

instance canonical_ports_decidable (port_attachments : List Ip12PortAttachment) :
    Decidable (canonical_ports port_attachments) :=
  inferInstanceAs (Decidable (List.IsChain _ _))

structure Ip12BuildPlan where
  floating_point_backend : Backend
  memory : Ip12MemoryConfiguration
  firmware : ResourceId
  gio : List GioAttachment
  scsi : List ScsiAttachment
  port_attachments : List Ip12PortAttachment
  resources : ResourceRequirements
  ordered : canonical_ports port_attachments

/-- None where the constructor panics. -/
def Ip12BuildPlan.new (floating_point_backend : Backend) (memory : Ip12MemoryConfiguration) (firmware : ResourceId)
    (gio : List GioAttachment) (scsi : List ScsiAttachment) (port_attachments : List Ip12PortAttachment)
    (resources : ResourceRequirements) : Option Ip12BuildPlan :=
  if ordered : canonical_ports port_attachments then
    some { floating_point_backend, memory, firmware, gio, scsi, port_attachments, resources, ordered }
  else none

theorem Ip12BuildPlan.new_ordered (floating_point_backend : Backend) (memory : Ip12MemoryConfiguration) (firmware : ResourceId)
    (gio : List GioAttachment) (scsi : List ScsiAttachment) {port_attachments : List Ip12PortAttachment}
    (resources : ResourceRequirements) (ordered : canonical_ports port_attachments) :
    new floating_point_backend memory firmware gio scsi port_attachments resources =
      some { floating_point_backend, memory, firmware, gio, scsi, port_attachments, resources, ordered } :=
  dif_pos ordered

structure Ip12CompileError where
  diagnostics : List Diagnostic
deriving DecidableEq, Repr

end se_machine.ip12
