import SgiEmu.Core.BTreeMap

open se_core

namespace se_config

/-! ## Drafts -/

abbrev MachineModelId : Type := String
abbrev NodeId : Type := String
abbrev PropertyId : Type := String
abbrev DeviceKindId : Type := String

inductive PropertyValue where
  | Bool (value : Bool)
  | Integer (value : Int)
  | Text (value : String)
deriving DecidableEq, Repr

/-- The user's selections, including those a definition may reject. -/
structure MachineDraft where
  model : MachineModelId
  properties : BTreeMap PropertyId PropertyValue
  attachments : BTreeMap NodeId DeviceKindId

/-- `char::is_whitespace`: the code points with the White_Space property. -/
def is_whitespace (character : Char) : Bool :=
  let code := character.toNat
  (0x09 ≤ code && code ≤ 0x0d) || code == 0x20 || code == 0x85 || code == 0xa0 || code == 0x1680 ||
    (0x2000 ≤ code && code ≤ 0x200a) || code == 0x2028 || code == 0x2029 || code == 0x202f || code == 0x205f ||
    code == 0x3000

/-- `trim().is_empty()`. -/
def blank (text : String) : Bool := text.toList.all is_whitespace

/-! ## Diagnostics -/

inductive DiagnosticSeverity where
  | Warning
  | Error
deriving DecidableEq, Repr

inductive DiagnosticTarget where
  | Global
  | Node (node : NodeId)
  | Property (property : PropertyId)
deriving DecidableEq, Repr

structure Diagnostic where
  severity : DiagnosticSeverity
  code : String
  target : DiagnosticTarget
  message : String
deriving DecidableEq, Repr

/-! ## Views -/

inductive NodeRole where
  | Root
  | Component
  | Slot
  | Device
  | Endpoint
deriving DecidableEq, Repr

inductive PathKind where
  | File
  | Directory
deriving DecidableEq, Repr

structure ChoiceOption where
  value : PropertyValue
  label : String
deriving DecidableEq, Repr

inductive PropertyEditor where
  | Toggle
  | Integer (min max step : Int) (unit : Option String)
  | Text
  | Path (kind : PathKind)
  | Choice (options : List ChoiceOption)
deriving DecidableEq, Repr

structure PropertyView where
  id : PropertyId
  label : String
  value : PropertyValue
  editor : PropertyEditor
deriving DecidableEq, Repr

structure DeviceChoice where
  id : DeviceKindId
  label : String
deriving DecidableEq, Repr

structure AttachmentView where
  allow_empty : Bool
  current : Option DeviceKindId
  choices : List DeviceChoice
deriving DecidableEq, Repr

structure TopologyNode where
  id : NodeId
  parent : Option NodeId
  role : NodeRole
  label : String
  properties : List PropertyView
  attachment : Option AttachmentView
deriving DecidableEq, Repr

/-- A machine definition's projection of one draft. -/
structure ConfigurationView where
  model : MachineModelId
  display_name : String
  nodes : List TopologyNode
  diagnostics : List Diagnostic
deriving DecidableEq, Repr

end se_config
