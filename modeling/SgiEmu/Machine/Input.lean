import SgiEmu.Core.Storage

open se_core se_core.storage

namespace se_machine

/-! ## Resources -/

/-- A stable resource role within one build plan. -/
abbrev ResourceId : Type := String

inductive ResourceKind where
  | Bytes
  | Storage (access : StorageAccess)
deriving DecidableEq, Repr

/-! ## Endpoints -/

abbrev EndpointKey : Type := String

inductive EndpointKind where
  | Serial
  | Keyboard
  | Pointer
  | Ethernet
  | Video
deriving DecidableEq, Repr

inductive EndpointDirection where
  | Input
  | Output
  | Bidirectional
deriving DecidableEq, Repr

def EndpointDirection.accepts_input : EndpointDirection → Bool
  | .Input | .Bidirectional => true
  | .Output => false

structure EndpointDescriptor where
  key : EndpointKey
  kind : EndpointKind
  direction : EndpointDirection
deriving DecidableEq, Repr

/-- Canonically ordered endpoints of one machine topology. -/
abbrev EndpointCatalog : Type := List EndpointDescriptor

def EndpointCatalog.get (catalog : EndpointCatalog) (key : EndpointKey) : Option EndpointDescriptor :=
  catalog.find? fun descriptor => descriptor.key == key

/-! ## Inputs -/

def MAX_ETHERNET_FRAME_BYTES : Nat := 16384

inductive KeyboardNamedKey where
  | LeftControl | RightControl | LeftShift | RightShift | LeftAlt | RightAlt | CapsLock | Escape | Tab
  | Enter | Backspace | Delete | Space | ArrowLeft | ArrowRight | ArrowUp | ArrowDown | Insert | Home
  | End | PageUp | PageDown | PrintScreen | ScrollLock | Pause | NumLock | Semicolon | Comma | Minus
  | LeftBracket | RightBracket | Apostrophe | Period | Slash | Equal | Grave | Backslash | KeypadPeriod
  | KeypadMinus | KeypadPlus | KeypadSlash | KeypadAsterisk | KeypadEnter
deriving DecidableEq, Repr

inductive KeyboardKey where
  | Letter (letter : U8)
  | Digit (digit : U8)
  | KeypadDigit (digit : U8)
  | Function (number : U8)
  | Named (key : KeyboardNamedKey)
deriving DecidableEq, Repr

inductive PointerButton where
  | Left
  | Middle
  | Right
deriving DecidableEq, Repr

inductive MachineInputPayload where
  | SerialByte (value : U8)
  | Keyboard (key : KeyboardKey) (pressed : Bool)
  | PointerMotion (delta_x delta_y : I32)
  | PointerButton (button : PointerButton) (pressed : Bool)
  | EthernetFrame (bytes : List U8)
deriving DecidableEq, Repr

def MachineInputPayload.kind : MachineInputPayload → EndpointKind
  | .SerialByte _ => .Serial
  | .Keyboard .. => .Keyboard
  | .PointerMotion .. | .PointerButton .. => .Pointer
  | .EthernetFrame _ => .Ethernet

/-- One input submitted at a deterministic machine boundary. -/
structure MachineInput where
  endpoint : EndpointKey
  payload : MachineInputPayload
deriving DecidableEq, Repr

inductive MachineInputResult where
  | Consumed
  | WouldBlock
deriving DecidableEq, Repr

inductive MachineInputReadiness where
  | Ready
  | WouldBlock
deriving DecidableEq, Repr

inductive MachineInputError where
  | UnknownEndpoint
  | OutputOnlyEndpoint
  | PayloadKindMismatch
  | UnsupportedKeyboardKey
  | PayloadTooLarge
deriving DecidableEq, Repr

def MachineInputError.to_string : MachineInputError → String
  | .UnknownEndpoint => "unknown machine input endpoint"
  | .OutputOnlyEndpoint => "machine endpoint does not accept input"
  | .PayloadKindMismatch => "machine input payload does not match endpoint kind"
  | .UnsupportedKeyboardKey => "unsupported frontend keyboard key"
  | .PayloadTooLarge => "machine input payload is too large"

def validate_input_allocation (input : MachineInput) : Except MachineInputError Unit :=
  match input.payload with
  | .EthernetFrame bytes =>
    if MAX_ETHERNET_FRAME_BYTES < bytes.length then .error .PayloadTooLarge else .ok ()
  | _ => .ok ()

end se_machine
