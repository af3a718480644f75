import SgiEmu.Machine.Input

open se_core

namespace se_machine.ip12

variable {M : Type}

/-- What input routing asks of the machine behind it. The inputs of the frontend act
through one function; the network boundary submits Ethernet frames alone. -/
structure InputRouting (M : Type) where
  has_sgi_keyboard : M → Bool
  has_sgi_mouse : M → Bool
  has_video_output : M → Bool
  translates_keyboard_key : KeyboardKey → Bool
  ethernet_receive_ready : M → Bool
  receive_ethernet : M → List U8 → Bool × M
  receive_frontend : M → MachineInput → Except MachineInputError MachineInputResult × M

namespace InputRouting

variable (routing : InputRouting M)

def endpoint_catalog (machine : M) : EndpointCatalog :=
  (if routing.has_sgi_keyboard machine then [⟨"keyboard.0", .Keyboard, .Input⟩] else []) ++
    (if routing.has_sgi_mouse machine then [⟨"pointer.0", .Pointer, .Input⟩] else []) ++
    [⟨"serial.external.a", .Serial, .Bidirectional⟩, ⟨"serial.external.b", .Serial, .Bidirectional⟩,
      ⟨"ethernet.0", .Ethernet, .Bidirectional⟩] ++
    (if routing.has_video_output machine then [⟨"video.0", .Video, .Output⟩] else [])

/-- The endpoint the runtime binds a network session to. -/
def single_ethernet_endpoint (machine : M) : Option EndpointKey :=
  ((routing.endpoint_catalog machine).find? fun descriptor => descriptor.kind == .Ethernet).map (·.key)

def endpoint_kind (machine : M) (endpoint : EndpointKey) : Except MachineInputError EndpointKind :=
  if endpoint == "keyboard.0" && routing.has_sgi_keyboard machine then .ok .Keyboard
  else if endpoint == "pointer.0" && routing.has_sgi_mouse machine then .ok .Pointer
  else if endpoint == "serial.external.a" || endpoint == "serial.external.b" then .ok .Serial
  else if endpoint == "ethernet.0" then .ok .Ethernet
  else if endpoint == "video.0" && routing.has_video_output machine then .error .OutputOnlyEndpoint
  else .error .UnknownEndpoint

def validate_input_endpoint (machine : M) (input : MachineInput) : Except MachineInputError Unit :=
  match routing.endpoint_kind machine input.endpoint with
  | .error error => .error error
  | .ok kind => if kind ≠ input.payload.kind then .error .PayloadKindMismatch else .ok ()

def input_readiness (machine : M) (input : MachineInput) : Except MachineInputError MachineInputReadiness :=
  match validate_input_allocation input with
  | .error error => .error error
  | .ok () =>
    match routing.validate_input_endpoint machine input with
    | .error error => .error error
    | .ok () =>
      match input.payload with
      | .Keyboard key _ => if routing.translates_keyboard_key key then .ok .Ready else .error .UnsupportedKeyboardKey
      | .EthernetFrame _ => if routing.ethernet_receive_ready machine then .ok .Ready else .ok .WouldBlock
      | _ => .ok .Ready

def try_receive_input (machine : M) (input : MachineInput) : Except MachineInputError MachineInputResult × M :=
  match validate_input_allocation input with
  | .error error => (.error error, machine)
  | .ok () =>
    match routing.validate_input_endpoint machine input with
    | .error error => (.error error, machine)
    | .ok () =>
      match input.payload with
      | .EthernetFrame bytes =>
        let (consumed, machine) := routing.receive_ethernet machine bytes
        (.ok (if consumed then .Consumed else .WouldBlock), machine)
      | _ => routing.receive_frontend machine input

/-! ## Ethernet frames -/

/-- A frame within the allocation bound at the Ethernet endpoint is never refused with an
error. -/
theorem validate_ethernet_input (machine : M) {bytes : List U8} (h : bytes.length ≤ MAX_ETHERNET_FRAME_BYTES) :
    validate_input_allocation ⟨"ethernet.0", .EthernetFrame bytes⟩ = .ok () ∧
      routing.validate_input_endpoint machine ⟨"ethernet.0", .EthernetFrame bytes⟩ = .ok () := by
  have hbound : ¬MAX_ETHERNET_FRAME_BYTES < bytes.length := Nat.not_lt.mpr h
  refine ⟨?_, rfl⟩
  simp only [validate_input_allocation, hbound, if_false]

theorem input_readiness_ethernet (machine : M) {bytes : List U8} (h : bytes.length ≤ MAX_ETHERNET_FRAME_BYTES) :
    routing.input_readiness machine ⟨"ethernet.0", .EthernetFrame bytes⟩ =
      if routing.ethernet_receive_ready machine then .ok .Ready else .ok .WouldBlock := by
  obtain ⟨hallocation, hendpoint⟩ := routing.validate_ethernet_input machine h
  simp only [input_readiness, hallocation, hendpoint]

theorem try_receive_input_ethernet (machine : M) {bytes : List U8} (h : bytes.length ≤ MAX_ETHERNET_FRAME_BYTES) :
    routing.try_receive_input machine ⟨"ethernet.0", .EthernetFrame bytes⟩ =
      (.ok (if (routing.receive_ethernet machine bytes).1 then .Consumed else .WouldBlock),
        (routing.receive_ethernet machine bytes).2) := by
  obtain ⟨hallocation, hendpoint⟩ := routing.validate_ethernet_input machine h
  simp only [try_receive_input, hallocation, hendpoint]

end InputRouting

end se_machine.ip12
