import SgiEmu.Machine.Plan

open se_config se_core se_core.storage

namespace se_machine.ip12.definition

def MODEL : String := "indigo-ip12"
def GRAPHICS_SLOT : String := "gio.0.slot.graphics"
def LG1 : String := "sgi.gio.lg1"
def SCSI_DISK : String := "scsi.disk"
def SCSI_CDROM : String := "scsi.cdrom"
def SGI_KEYBOARD : String := "sgi.serial.keyboard"
def SGI_MOUSE : String := "sgi.serial.mouse"
def VT100_TERMINAL : String := "terminal.vt100"
def FPU_BACKEND : String := "cpu.0.fpu.0.backend"
def FIRMWARE_PATH : String := "firmware.0.image-path"
def FIRMWARE_IMAGE : ResourceId := "firmware.0.image"
def DISPLAY_NAME : String := "IRIS Indigo (IP12)"

def port_node : Ip12Port → NodeId
  | .Keyboard => "serial.0.channel.a.port"
  | .Mouse => "serial.0.channel.b.port"
  | .SerialA => "serial.1.channel.a.port"
  | .SerialB => "serial.1.channel.b.port"

def port_device_node : Ip12Port → NodeId
  | .Keyboard => "serial.0.channel.a.device"
  | .Mouse => "serial.0.channel.b.device"
  | .SerialA => "serial.1.channel.a.device"
  | .SerialB => "serial.1.channel.b.device"

def memory_bank (bank : Char) : NodeId := s!"memory.bank.{bank}"
def memory_property (bank : Char) : PropertyId := s!"memory.bank.{bank}.simm-mib"
def memory_socket (bank : Char) (socket : Nat) : NodeId := s!"memory.bank.{bank}.socket.{socket}"
def memory_module (bank : Char) (socket : Nat) : NodeId := s!"memory.bank.{bank}.socket.{socket}.module"
def scsi_target (target : Nat) : NodeId := s!"scsi.0.target.{target}"
def scsi_host_adapter : NodeId := "scsi.0.target.0.host-adapter"
def scsi_lun (target lun : Nat) : NodeId := s!"scsi.0.target.{target}.lun.{lun}"
def scsi_device (target lun : Nat) : NodeId := s!"scsi.0.target.{target}.lun.{lun}.device"
def scsi_medium (target lun : Nat) : PropertyId := s!"scsi.0.target.{target}.lun.{lun}.medium-path"

/-- The resource role of a medium. -/
def scsi_medium_image (target lun : Nat) : ResourceId := s!"scsi.0.target.{target}.lun.{lun}.medium"

def scsi_storage_access : ScsiDevice → StorageAccess
  | .Disk => .ReadWrite
  | .Cdrom => .ReadOnly

def scsi_medium_label : ScsiDevice → String
  | .Disk => "Disk image"
  | .Cdrom => "Initial medium"

def node (id : NodeId) (parent : Option NodeId) (role : NodeRole) (label : String) : TopologyNode :=
  { id, parent, role, label, properties := [], attachment := none }

def path_property (id : PropertyId) (label : String) (value : PropertyValue) : PropertyView :=
  { id, label, value, editor := .Path .File }

def unsupported_label (device : DeviceKindId) : String := s!"Unsupported device ({device})"

def error (code : String) (target : DiagnosticTarget) (message : String) : Diagnostic :=
  { severity := .Error, code, target, message }

/-- A projection of a draft, or what one of its methods appends to it. -/
structure Projection where
  nodes : List TopologyNode := []
  diagnostics : List Diagnostic := []
  known_properties : List PropertyId := []
  known_slots : List NodeId := []
  backend : Option Backend := none
  memory : Option Ip12MemoryConfiguration := none
  gio : List GioAttachment := []
  scsi : List ScsiAttachment := []
  port_attachments : List Ip12PortAttachment := []
  resources : List (ResourceId × ResourceRequirement) := []

namespace Projection

/-- What is assigned later replaces what was assigned before. -/
def append (first second : Projection) : Projection :=
  { nodes := first.nodes ++ second.nodes
    diagnostics := first.diagnostics ++ second.diagnostics
    known_properties := first.known_properties ++ second.known_properties
    known_slots := first.known_slots ++ second.known_slots
    backend := second.backend.or first.backend
    memory := second.memory.or first.memory
    gio := first.gio ++ second.gio
    scsi := first.scsi ++ second.scsi
    port_attachments := first.port_attachments ++ second.port_attachments
    resources := first.resources ++ second.resources }

instance : Append Projection := ⟨append⟩

def push (node : TopologyNode) : Projection := { nodes := [node] }

def report (code : String) (target : DiagnosticTarget) (message : String) : Projection :=
  { diagnostics := [error code target message] }

/-- A loop whose body only appends. -/
def each {α : Type} (body : α → Projection) : List α → Projection
  | [] => {}
  | first :: rest => body first ++ each body rest

end Projection

open Projection

def required_value (draft : MachineDraft) (property : PropertyId) (default : PropertyValue) : PropertyValue × Projection :=
  match draft.properties[property]? with
  | some value => (value, { known_properties := [property] })
  | none =>
    (default,
      { known_properties := [property] } ++
        report "ip12.property.missing" (.Property property) "This required property is missing from the draft.")

def cpu (draft : MachineDraft) : Projection :=
  let (value, required) := required_value draft FPU_BACKEND (.Text "softfloat")
  let selected : Projection :=
    match value with
    | .Text backend =>
      if backend = "softfloat" then { backend := some .SoftFloat }
      else if backend = "native" then { backend := some .Native }
      else
        report "ip12.property.unsupported-value" (.Property FPU_BACKEND) "The FPU backend must be softfloat or native."
    | _ => report "ip12.property.invalid-type" (.Property FPU_BACKEND) "The FPU backend must be text."
  push (node "cpu.0" (some MODEL) .Component "CPU 0 — MIPS R3000A @ 33 MHz") ++ required ++ selected ++
    push
      { node "cpu.0.fpu.0" (some "cpu.0") .Component "R3010 FPU" with
        properties :=
          [{ id := FPU_BACKEND
             label := "Emulation backend"
             value
             editor := .Choice [⟨.Text "softfloat", "SoftFloat"⟩, ⟨.Text "native", "Native"⟩] }] }

/-- The value that a bank is projected with. -/
def simm_value (draft : MachineDraft) (bank : Char) : PropertyValue × Projection :=
  required_value draft (memory_property bank) (.Integer (if bank = 'a' then 2 else 0))

/-- The capacity of a bank, if it is one that a SIMM has. -/
def valid_size : PropertyValue → Option Int
  | .Integer size => if size = 0 ∨ size = 2 ∨ size = 4 ∨ size = 8 then some size else none
  | _ => none

def invalid_size (bank : Char) (value : PropertyValue) : Projection :=
  match value with
  | .Integer size =>
    if size = 0 ∨ size = 2 ∨ size = 4 ∨ size = 8 then {}
    else
      report "ip12.property.unsupported-value" (.Property (memory_property bank))
        "A SIMM must be empty or have 2, 4, or 8 MiB."
  | _ => report "ip12.property.invalid-type" (.Property (memory_property bank)) "A SIMM capacity must be an integer."

def simm_choices : List ChoiceOption :=
  [0, 2, 4, 8].map fun size : Int => ⟨.Integer size, if size = 0 then "Empty" else s!"{size} MiB"⟩

/-- A socket of a bank, and its module if the bank is populated. -/
def socket (bank : Char) (size : Option Int) (socket : Nat) : Projection :=
  let socket_id := memory_socket bank socket
  push (node socket_id (some (memory_bank bank)) .Slot s!"SIMM Socket {socket}") ++
    match size.filter fun size => 0 < size with
    | some size => push (node (memory_module bank socket) (some socket_id) .Device s!"{size} MiB SIMM")
    | none => {}

def bank (draft : MachineDraft) (bank : Char) : Projection :=
  let (value, required) := simm_value draft bank
  required ++ invalid_size bank value ++
    push
      { node (memory_bank bank) (some "memory") .Component s!"Bank {bank.toUpper}" with
        properties :=
          [{ id := memory_property bank, label := "SIMM capacity", value, editor := .Choice simm_choices }] } ++
    each (socket bank (valid_size value)) (List.range 4)

def banks : List Char := ['a', 'b', 'c']

def populated (sizes : List (Option Int)) : Bool := sizes.any fun size => size.any fun size => 0 < size

/-- The memory of a machine whose banks all have a capacity. -/
def configured_memory (sizes : List (Option Int)) : Option Ip12MemoryConfiguration :=
  if populated sizes && sizes.all Option.isSome then
    match sizes.map fun size => (size.getD 0).toNat with
    | [a, b, c] => (Ip12MemoryConfiguration.try_from_simm_mib a b c).toOption
    | _ => none
  else none

def memory (draft : MachineDraft) : Projection :=
  let sizes := banks.map fun bank => valid_size (simm_value draft bank).1
  let unpopulated : Projection :=
    if populated sizes then {}
    else
      report "ip12.memory.no-installed-bank" (.Node "memory")
        "At least one memory bank must contain a supported SIMM capacity."
  push (node "memory" (some MODEL) .Component "Memory") ++ each (bank draft) banks ++ unpopulated ++
    { memory := configured_memory sizes }

def unsupported_attachment (slot : NodeId) : Projection :=
  report "ip12.attachment.unsupported-device" (.Node slot) "This device kind is unsupported in this slot."

/-- A configurable slot that may be empty. -/
def slot_node (draft : MachineDraft) (slot parent : NodeId) (role : NodeRole) (label : String) (choices : List DeviceChoice) :
    Projection :=
  { known_slots := [slot] } ++
    push
      { node slot (some parent) role label with
        attachment := some { allow_empty := true, current := draft.attachments[slot]?, choices } }

def gio (draft : MachineDraft) : Projection :=
  push (node "gio.0" (some MODEL) .Component "GIO") ++ push (node "gio.0.slot.0" (some "gio.0") .Slot "Slot 0") ++
    push (node "gio.0.slot.1" (some "gio.0") .Slot "Slot 1") ++
    slot_node draft GRAPHICS_SLOT "gio.0" .Slot "Graphics Slot" [⟨LG1, "LG1 Entry Graphics"⟩] ++
    match draft.attachments[GRAPHICS_SLOT]? with
    | none => {}
    | some device =>
      let supported := device = LG1
      (if supported then {} else unsupported_attachment GRAPHICS_SLOT) ++
        push
          (node "gio.0.slot.graphics.device" (some GRAPHICS_SLOT) .Device
            (if supported then "LG1 Entry Graphics" else unsupported_label device)) ++
        if supported then
          { gio := [{ slot := .Graphics, device := .Lg1 }] } ++
            push
              (node "gio.0.slot.graphics.device.video.0" (some "gio.0.slot.graphics.device") .Endpoint "Video Output 0")
        else {}

/-- The device kinds that a SCSI slot supports. -/
def scsi_device_kind (device : DeviceKindId) : Option ScsiDevice :=
  if device = SCSI_DISK then some .Disk else if device = SCSI_CDROM then some .Cdrom else none

def medium_value (draft : MachineDraft) (target lun : Nat) : PropertyValue :=
  draft.properties[scsi_medium target lun]?.getD (.Text "")

/-- The attachment of a supported device, and the medium it requires. -/
def scsi_attachment (draft : MachineDraft) (target lun : Nat) (device : ScsiDevice) : Projection :=
  let medium := scsi_medium target lun
  match medium_value draft target lun with
  | .Text path =>
    if !blank path then
      let medium_id := scsi_medium_image target lun
      { resources :=
          [(medium_id, { path, kind := .Storage (scsi_storage_access device), origin := .Property medium })]
        scsi :=
          [match device with
            | .Disk => .disk target lun medium_id
            | .Cdrom => .cdrom target lun (some medium_id)] }
    else
      -- Only a removable drive may start without a medium.
      match device with
      | .Disk => report "ip12.scsi.medium-required" (.Property medium) "Select a disk image."
      | .Cdrom => { scsi := [.cdrom target lun none] }
  | _ => report "ip12.property.invalid-type" (.Property medium) "The medium path must be text."

def scsi_logical_unit (draft : MachineDraft) (target lun : Nat) : Projection :=
  let slot := scsi_lun target lun
  let medium := scsi_medium target lun
  { known_properties := [medium] } ++
    slot_node draft slot (scsi_target target) .Slot s!"LUN {lun}"
      [⟨SCSI_DISK, "SCSI Disk"⟩, ⟨SCSI_CDROM, "SCSI CD-ROM"⟩] ++
    match draft.attachments[slot]? with
    | none => {}
    | some device =>
      match scsi_device_kind device with
      | none =>
        unsupported_attachment slot ++
          push (node (scsi_device target lun) (some slot) .Device (unsupported_label device))
      | some kind =>
        let label :=
          match kind with
          | .Disk => "SCSI Disk"
          | .Cdrom => "SCSI CD-ROM"
        scsi_attachment draft target lun kind ++
          push
            { node (scsi_device target lun) (some slot) .Device label with
              properties := [path_property medium (scsi_medium_label kind) (medium_value draft target lun)] }

/-- The targets below the host adapter's. -/
def targets : List Nat := [1, 2, 3, 4, 5, 6, 7]

def scsi_target_node (draft : MachineDraft) (target : Nat) : Projection :=
  push (node (scsi_target target) (some "scsi.0") .Component s!"Target {target}") ++
    each (scsi_logical_unit draft target) (List.range 8)

def scsi (draft : MachineDraft) : Projection :=
  push (node "scsi.0" (some MODEL) .Component "SCSI Controller 0") ++
    push (node (scsi_target 0) (some "scsi.0") .Component "Target 0") ++
    push (node scsi_host_adapter (some (scsi_target 0)) .Device "Host Adapter") ++
    each (scsi_target_node draft) targets

/-- A port of a serial controller, and the one device that it supports. -/
structure SerialPort where
  channel : Char
  port : Ip12Port
  port_label : String
  device_kind : DeviceKindId
  device_label : String

def serial_ports : Nat → List SerialPort
  | 0 =>
    [⟨'a', .Keyboard, "Keyboard Port", SGI_KEYBOARD, "SGI Keyboard"⟩, ⟨'b', .Mouse, "Mouse Port", SGI_MOUSE, "SGI Mouse"⟩]
  | _ =>
    [⟨'a', .SerialA, "Serial Port A", VT100_TERMINAL, "VT100 Terminal"⟩,
      ⟨'b', .SerialB, "Serial Port B", VT100_TERMINAL, "VT100 Terminal"⟩]

def peripheral : Ip12Port → Ip12Peripheral
  | .Keyboard => .SgiKeyboard
  | .Mouse => .SgiMouse
  | .SerialA | .SerialB => .Vt100Terminal

/-- The attachment of a port's peripheral. -/
def port_attachment (port : Ip12Port) : Ip12PortAttachment :=
  { port, peripheral := peripheral port, compatible := by cases port <;> rfl }

def serial_controller (controller : Nat) : NodeId := s!"serial.{controller}"
def serial_channel (controller : Nat) (channel : Char) : NodeId := s!"serial.{controller}.channel.{channel}"

def serial_port (draft : MachineDraft) (controller : Nat) (serial : SerialPort) : Projection :=
  let channel_id := serial_channel controller serial.channel
  let port_id := port_node serial.port
  push (node channel_id (some (serial_controller controller)) .Component s!"Channel {serial.channel.toUpper}") ++
    slot_node draft port_id channel_id .Endpoint serial.port_label [⟨serial.device_kind, serial.device_label⟩] ++
    match draft.attachments[port_id]? with
    | none => {}
    | some device =>
      let supported := device = serial.device_kind
      (if supported then {} else unsupported_attachment port_id) ++
        push
          (node (port_device_node serial.port) (some port_id) .Device
            (if supported then serial.device_label else unsupported_label device)) ++
        if supported then { port_attachments := [port_attachment serial.port] } else {}

def serial (draft : MachineDraft) : Projection :=
  each
    (fun controller =>
      push (node (serial_controller controller) (some MODEL) .Component s!"Serial Controller {controller}") ++
        each (serial_port draft controller) (serial_ports controller))
    [0, 1]

def parallel_and_ethernet : Projection :=
  push (node "parallel.0" (some MODEL) .Endpoint "Parallel Port") ++
    push (node "ethernet.0" (some MODEL) .Component "Ethernet Controller") ++
    push (node "ethernet.0.port.0" (some "ethernet.0") .Endpoint "Ethernet Port 0")

def firmware (draft : MachineDraft) : Projection :=
  let value := draft.properties[FIRMWARE_PATH]?.getD (.Text "")
  let image : Projection :=
    match value with
    | .Text path =>
      if !blank path then
        { resources := [(FIRMWARE_IMAGE, { path, kind := .Bytes, origin := .Property FIRMWARE_PATH })] }
      else report "ip12.firmware.image-required" (.Property FIRMWARE_PATH) "Select a PROM image."
    | _ => report "ip12.property.invalid-type" (.Property FIRMWARE_PATH) "The PROM image path must be text."
  { known_properties := [FIRMWARE_PATH] } ++ image ++
    push
      { node "firmware.0" (some MODEL) .Component "Firmware" with
        properties := [path_property FIRMWARE_PATH "PROM image" value] }

/-- The root of the topology, and the check that the draft is one of this model. -/
def root (draft : MachineDraft) : Projection :=
  push (node MODEL none .Root DISPLAY_NAME) ++
    if draft.model ≠ MODEL then
      report "ip12.model.mismatch" .Global "The draft belongs to a different machine model."
    else {}

/-- Everything that is projected before `finish`. -/
def project (draft : MachineDraft) : Projection :=
  root draft ++ cpu draft ++ memory draft ++ gio draft ++ scsi draft ++ serial draft ++ parallel_and_ethernet ++
    firmware draft

/-- The keys of a draft that nothing of the projection knows. -/
def unknown_keys (draft : MachineDraft) (projection : Projection) : Projection :=
  each
      (fun property =>
        if property ∈ projection.known_properties then {}
        else report "ip12.property.unknown" (.Property property) "This property is not defined by the IP12.")
      (draft.properties.toList.map Prod.fst) ++
    each
      (fun slot =>
        if slot ∈ projection.known_slots then {}
        else
          report "ip12.attachment.unknown-slot" (.Node slot)
            "This slot does not accept a configurable device on the IP12.")
      (draft.attachments.toList.map Prod.fst)

def analyze (draft : MachineDraft) : Projection :=
  let projection := project draft
  projection ++ unknown_keys draft projection

def resolve (draft : MachineDraft) : ConfigurationView :=
  let analysis := analyze draft
  { model := MODEL, display_name := DISPLAY_NAME, nodes := analysis.nodes, diagnostics := analysis.diagnostics }

/-- None where an assertion or an `expect` of the source panics. -/
def compile (draft : MachineDraft) : Option (Except Ip12CompileError Ip12BuildPlan) :=
  let analysis := analyze draft
  let errors := analysis.diagnostics.filter fun diagnostic => diagnostic.severity == .Error
  if !errors.isEmpty then some (.error { diagnostics := errors })
  else do
    let floating_point_backend ← analysis.backend
    let memory ← analysis.memory
    let plan ←
      Ip12BuildPlan.new floating_point_backend memory FIRMWARE_IMAGE analysis.gio analysis.scsi analysis.port_attachments
        (Std.ExtTreeMap.ofList analysis.resources compare)
    some (.ok plan)

end se_machine.ip12.definition
