import SgiEmu.Machine.Definition

open se_config se_core

namespace se_machine.ip12.definition

/-! ## Drafts that compile -/

def backend_name : Backend → String
  | .SoftFloat => "softfloat"
  | .Native => "native"

def port_device_kind : Ip12Port → DeviceKindId
  | .Keyboard => SGI_KEYBOARD
  | .Mouse => SGI_MOUSE
  | .SerialA | .SerialB => VT100_TERMINAL

def ports : List Ip12Port := [.Keyboard, .Mouse, .SerialA, .SerialB]

/-- Every logical unit with a slot, in the order of the plan. -/
def units : List (Nat × Nat) := targets.flatMap fun target => (List.range 8).map fun lun => (target, lun)

def defined_properties : List PropertyId :=
  [FPU_BACKEND] ++ banks.map memory_property ++ units.map (fun unit => scsi_medium unit.1 unit.2) ++ [FIRMWARE_PATH]

def defined_slots : List NodeId :=
  [GRAPHICS_SLOT] ++ units.map (fun unit => scsi_lun unit.1 unit.2) ++ ports.map port_node

/-- A device that a logical unit can have: a disk with its medium, or a drive whose medium, if it has one, is a path. -/
def UnitDevice (draft : MachineDraft) (target lun : Nat) (device : DeviceKindId) : Prop :=
  (device = SCSI_DISK ∧ ∃ path, draft.properties[scsi_medium target lun]? = some (.Text path) ∧ blank path = false) ∨
    (device = SCSI_CDROM ∧ ∀ value, draft.properties[scsi_medium target lun]? = some value → ∃ path, value = .Text path)

/-- A draft with everything that a machine needs, and nothing that it does not have. -/
structure Valid (draft : MachineDraft) : Prop where
  model : draft.model = MODEL
  properties : ∀ property value, draft.properties[property]? = some value → property ∈ defined_properties
  attachments : ∀ slot device, draft.attachments[slot]? = some device → slot ∈ defined_slots
  backend : ∃ backend, draft.properties[FPU_BACKEND]? = some (.Text (backend_name backend))
  simms : ∀ bank ∈ banks, ∃ size ∈ [0, 2, 4, 8], draft.properties[memory_property bank]? = some (.Integer size)
  populated : ∃ bank ∈ banks, ∃ size > 0, draft.properties[memory_property bank]? = some (.Integer size)
  graphics : ∀ device, draft.attachments[GRAPHICS_SLOT]? = some device → device = LG1
  units : ∀ unit ∈ units, ∀ device, draft.attachments[scsi_lun unit.1 unit.2]? = some device →
    UnitDevice draft unit.1 unit.2 device
  ports : ∀ port ∈ ports, ∀ device, draft.attachments[port_node port]? = some device → device = port_device_kind port
  firmware : ∃ path, draft.properties[FIRMWARE_PATH]? = some (.Text path) ∧ blank path = false

/-! ## Parts without a diagnostic -/

namespace Projection

def Clean (projection : Projection) : Prop := projection.diagnostics = []

variable {α : Type} {first second : Projection}

theorem clean_append : Clean (first ++ second) ↔ Clean first ∧ Clean second := List.append_eq_nil_iff

theorem clean_push (node : TopologyNode) : Clean (push node) := rfl

theorem not_clean_report (code : String) (target : DiagnosticTarget) (message : String) : ¬Clean (report code target message) :=
  List.cons_ne_nil _ _

/-- A sequence is clean when each of its items is. -/
theorem clean_each {body : α → Projection} {items : List α} :
    Clean (each body items) ↔ ∀ item ∈ items, Clean (body item) := by
  induction items with
  | nil => exact iff_of_true rfl nofun
  | cons item items ih =>
    rw [List.forall_mem_cons, ← ih]
    exact clean_append

end Projection

open Projection

/-- A required value is clean only when the draft has it: the default stands in and is still an
error. -/
theorem required_value_clean {draft : MachineDraft} {property : PropertyId} {default : PropertyValue} :
    Clean (required_value draft property default).2 ↔
      draft.properties[property]? = some (required_value draft property default).1 := by
  unfold required_value
  cases draft.properties[property]? with
  | some value => exact iff_of_true rfl rfl
  | none => exact iff_of_false (List.cons_ne_nil _ _) nofun

theorem required_value_some {draft : MachineDraft} {property : PropertyId} {value : PropertyValue}
    (h : draft.properties[property]? = some value) (default : PropertyValue) :
    required_value draft property default = (value, { known_properties := [property] }) := by
  unfold required_value
  rw [h]

theorem root_clean {draft : MachineDraft} : Clean (root draft) ↔ draft.model = MODEL := by
  unfold root
  rw [clean_append, and_iff_right (clean_push _)]
  split
  · case isTrue hmodel => exact iff_of_false (not_clean_report _ _ _) hmodel
  · case isFalse hmodel => exact iff_of_true rfl (not_not.mp hmodel)

/-- A processor is clean with the name of a backend that exists. -/
theorem cpu_clean {draft : MachineDraft} :
    Clean (cpu draft) ↔ ∃ backend, draft.properties[FPU_BACKEND]? = some (.Text (backend_name backend)) := by
  unfold cpu
  dsimp only
  rw [clean_append, clean_append, clean_append, and_iff_right (clean_push _), and_iff_left (clean_push _),
    required_value_clean]
  constructor
  · rintro ⟨hvalue, hselected⟩
    rw [hvalue]
    split at hselected
    · case _ name hname =>
      rw [hname]
      by_cases hsoft : name = "softfloat"
      · exact ⟨.SoftFloat, congrArg (fun name => some (PropertyValue.Text name)) hsoft⟩
      · rw [if_neg hsoft] at hselected
        by_cases hnative : name = "native"
        · exact ⟨.Native, congrArg (fun name => some (PropertyValue.Text name)) hnative⟩
        · rw [if_neg hnative] at hselected
          exact absurd hselected (not_clean_report _ _ _)
    · exact absurd hselected (not_clean_report _ _ _)
  · rintro ⟨backend, hvalue⟩
    rw [required_value_some hvalue]
    refine ⟨hvalue, ?_⟩
    dsimp only
    split
    · rfl
    · case isFalse hsoft =>
      cases backend with
      | SoftFloat => exact absurd rfl hsoft
      | Native => rw [backend_name, if_pos rfl]; rfl

/-- A bank is clean with a size that its sockets can hold, none included. -/
theorem bank_clean {draft : MachineDraft} {index : Char} :
    Clean (bank draft index) ↔
      ∃ size ∈ [0, 2, 4, 8], draft.properties[memory_property index]? = some (.Integer size) := by
  have hsockets : ∀ size, Clean (each (socket index size) (List.range 4)) := by
    intro size
    refine clean_each.mpr ?_
    intro socket_index _
    refine clean_append.mpr ⟨clean_push _, ?_⟩
    split <;> rfl
  unfold bank
  dsimp only
  rw [clean_append, clean_append, clean_append, and_iff_left (hsockets _), and_iff_left (clean_push _), simm_value,
    required_value_clean]
  constructor
  · rintro ⟨hvalue, hsize⟩
    rw [hvalue]
    unfold invalid_size at hsize
    split at hsize
    · case _ size hname =>
      rw [hname]
      split at hsize
      · case isTrue hvalid => exact ⟨size, by simpa using hvalid, rfl⟩
      · exact absurd hsize (not_clean_report _ _ _)
    · exact absurd hsize (not_clean_report _ _ _)
  · rintro ⟨size, hsize, hvalue⟩
    rw [required_value_some hvalue]
    refine ⟨hvalue, ?_⟩
    have hvalid : size = 0 ∨ size = 2 ∨ size = 4 ∨ size = 8 := by simpa using hsize
    unfold invalid_size
    dsimp only
    rw [if_pos hvalid]
    rfl

theorem unsupported_attachment_clean {supported : Prop} [Decidable supported] {slot : NodeId} :
    Clean (if supported then {} else unsupported_attachment slot) ↔ supported := by
  split
  · case isTrue h => exact iff_of_true rfl h
  · case isFalse h => exact iff_of_false (not_clean_report _ _ _) h

/-- An empty slot is clean, and one with a device where the device is. -/
theorem attached_clean {draft : MachineDraft} {slot : NodeId} {attached : DeviceKindId → Projection}
    {allowed : DeviceKindId → Prop} (h : ∀ device, Clean (attached device) ↔ allowed device) :
    (Clean (match draft.attachments[slot]? with
        | none => {}
        | some device => attached device)) ↔
      ∀ device, draft.attachments[slot]? = some device → allowed device := by
  cases draft.attachments[slot]? with
  | none => exact iff_of_true rfl nofun
  | some device =>
    simp only [Option.some.injEq, forall_eq']
    exact h device

/-- The graphics slot is clean when it is empty or has an LG1. -/
theorem gio_clean {draft : MachineDraft} :
    Clean (gio draft) ↔ ∀ device, draft.attachments[GRAPHICS_SLOT]? = some device → device = LG1 := by
  unfold gio
  refine (clean_append.trans (and_iff_right ?_)).trans (attached_clean ?_)
  · rfl
  intro device
  dsimp only
  rw [clean_append, clean_append, unsupported_attachment_clean, and_iff_left (clean_push _)]
  refine and_iff_left ?_
  split <;> rfl

/-- A disk needs a medium, a drive only a value that is a path. -/
theorem scsi_attachment_clean {draft : MachineDraft} {target lun : Nat} {device : ScsiDevice} :
    Clean (scsi_attachment draft target lun device) ↔
      ∃ path, medium_value draft target lun = .Text path ∧ (device = .Disk → blank path = false) := by
  unfold scsi_attachment
  dsimp only
  split
  · case _ path hpath =>
    simp only [hpath, PropertyValue.Text.injEq, exists_eq_left']
    cases blank path with
    | false => exact iff_of_true rfl fun _ => rfl
    | true =>
      cases device with
      | Disk => exact iff_of_false (not_clean_report _ _ _) (by simp)
      | Cdrom => exact iff_of_true rfl (by simp)
  · case _ hother =>
    refine iff_of_false (not_clean_report _ _ _) ?_
    rintro ⟨path, hpath, -⟩
    exact hother path hpath

theorem medium_value_disk {draft : MachineDraft} {target lun : Nat} :
    (∃ path, medium_value draft target lun = .Text path ∧ blank path = false) ↔
      ∃ path, draft.properties[scsi_medium target lun]? = some (.Text path) ∧ blank path = false := by
  unfold medium_value
  cases draft.properties[scsi_medium target lun]? with
  | some value => simp only [Option.getD_some, Option.some.injEq]
  | none =>
    refine iff_of_false ?_ nofun
    rintro ⟨path, hpath, hblank⟩
    cases hpath
    cases hblank

/-- A drive without a medium has the empty path. -/
theorem medium_value_cdrom {draft : MachineDraft} {target lun : Nat} :
    (∃ path, medium_value draft target lun = .Text path) ↔
      ∀ value, draft.properties[scsi_medium target lun]? = some value → ∃ path, value = .Text path := by
  unfold medium_value
  cases draft.properties[scsi_medium target lun]? with
  | some value => simp only [Option.getD_some, Option.some.injEq, forall_eq']
  | none => exact iff_of_true ⟨_, rfl⟩ nofun

/-- A logical unit is clean when it is empty or has a device with the medium that it needs. -/
theorem scsi_logical_unit_clean {draft : MachineDraft} {target lun : Nat} :
    Clean (scsi_logical_unit draft target lun) ↔
      ∀ device, draft.attachments[scsi_lun target lun]? = some device → UnitDevice draft target lun device := by
  unfold scsi_logical_unit
  refine (clean_append.trans (and_iff_right ?_)).trans (attached_clean ?_)
  · rfl
  intro device
  have hkinds : SCSI_CDROM ≠ SCSI_DISK := by decide
  unfold UnitDevice scsi_device_kind
  by_cases hdisk : device = SCSI_DISK
  · have hcdrom : ¬device = SCSI_CDROM := fun h => hkinds (h.symm.trans hdisk)
    rw [if_pos hdisk]
    dsimp only
    rw [clean_append, and_iff_left (clean_push _), scsi_attachment_clean, and_iff_right hdisk, ← medium_value_disk,
      or_iff_left fun h => hcdrom h.1]
    simp only [forall_const]
  · rw [if_neg hdisk]
    by_cases hcdrom : device = SCSI_CDROM
    · rw [if_pos hcdrom]
      dsimp only
      rw [clean_append, and_iff_left (clean_push _), scsi_attachment_clean, and_iff_right hcdrom, ← medium_value_cdrom,
        or_iff_right fun h => hdisk h.1]
      simp only [reduceCtorEq, false_imp_iff, and_true]
    · rw [if_neg hcdrom]
      refine iff_of_false (fun h => not_clean_report _ _ _ (clean_append.mp h).1) ?_
      rintro (h | h)
      · exact hdisk h.1
      · exact hcdrom h.1

theorem scsi_clean {draft : MachineDraft} :
    Clean (scsi draft) ↔
      ∀ unit ∈ units, ∀ device, draft.attachments[scsi_lun unit.1 unit.2]? = some device →
        UnitDevice draft unit.1 unit.2 device := by
  unfold scsi
  refine (clean_append.trans (and_iff_right ?_)).trans (clean_each.trans ?_)
  · rfl
  have htarget : ∀ target, Clean (scsi_target_node draft target) ↔
      ∀ lun ∈ List.range 8, Clean (scsi_logical_unit draft target lun) := by
    intro target
    exact clean_append.trans ((and_iff_right (clean_push _)).trans clean_each)
  simp only [htarget, scsi_logical_unit_clean, units, List.forall_mem_flatMap, List.forall_mem_map]

theorem serial_port_clean {draft : MachineDraft} {controller : Nat} {serial : SerialPort} :
    Clean (serial_port draft controller serial) ↔
      ∀ device, draft.attachments[port_node serial.port]? = some device → device = serial.device_kind := by
  unfold serial_port
  refine (clean_append.trans (and_iff_right ?_)).trans (attached_clean ?_)
  · rfl
  intro device
  dsimp only
  rw [clean_append, clean_append, unsupported_attachment_clean, and_iff_left (clean_push _)]
  refine and_iff_left ?_
  split <;> rfl

/-- The serial ports are clean when each is empty or has the device it is for. -/
theorem serial_clean {draft : MachineDraft} :
    Clean (serial draft) ↔
      ∀ port ∈ ports, ∀ device, draft.attachments[port_node port]? = some device → device = port_device_kind port := by
  have hcontroller : ∀ controller,
      Clean (push (node (serial_controller controller) (some MODEL) .Component s!"Serial Controller {controller}") ++
        each (serial_port draft controller) (serial_ports controller)) ↔
        ∀ serial ∈ serial_ports controller, ∀ device, draft.attachments[port_node serial.port]? = some device →
          device = serial.device_kind := by
    intro controller
    refine clean_append.trans ((and_iff_right (clean_push _)).trans (clean_each.trans ?_))
    simp only [serial_port_clean]
  have hlisted : [0, 1].flatMap serial_ports = serial_ports 0 ++ serial_ports 1 := rfl
  unfold serial
  refine (clean_each.trans (forall₂_congr fun controller _ => hcontroller controller)).trans ?_
  rw [← List.forall_mem_flatMap, hlisted]
  simp only [serial_ports, ports, List.cons_append, List.nil_append, List.forall_mem_cons, List.not_mem_nil, false_imp_iff,
    implies_true, port_device_kind]

theorem simm_value_valid {draft : MachineDraft} {index : Char} {size : Int}
    (h : draft.properties[memory_property index]? = some (.Integer size)) (hsize : size ∈ [0, 2, 4, 8]) :
    valid_size (simm_value draft index).1 = some size := by
  have hvalid : size = 0 ∨ size = 2 ∨ size = 4 ∨ size = 8 := by simpa using hsize
  unfold simm_value
  rw [required_value_some h]
  exact if_pos hvalid

/-- The memory is clean when every bank is, and one of them has something in it. -/
theorem memory_clean {draft : MachineDraft} :
    Clean (memory draft) ↔
      (∀ bank ∈ banks, ∃ size ∈ [0, 2, 4, 8], draft.properties[memory_property bank]? = some (.Integer size)) ∧
        ∃ bank ∈ banks, ∃ size > 0, draft.properties[memory_property bank]? = some (.Integer size) := by
  unfold memory
  refine (clean_append.trans (and_iff_left ?_)).trans (clean_append.trans ?_)
  · rfl
  rw [clean_append, and_iff_right (clean_push _), clean_each]
  simp only [bank_clean]
  refine and_congr_right fun hsimms => ?_
  have hpopulated : populated (banks.map fun bank => valid_size (simm_value draft bank).1) ↔
      ∃ bank ∈ banks, ∃ size > 0, draft.properties[memory_property bank]? = some (.Integer size) := by
    rw [populated, List.any_map, List.any_eq_true]
    refine exists_congr fun bank => and_congr_right fun hbank => ?_
    obtain ⟨size, hsize, hvalue⟩ := hsimms bank hbank
    simp only [Function.comp, simm_value_valid hvalue hsize, hvalue, Option.any_some, decide_eq_true_eq, Option.some.injEq,
      PropertyValue.Integer.injEq]
    exact ⟨fun h => ⟨size, h, rfl⟩, fun ⟨_, h, heq⟩ => heq ▸ h⟩
  rw [← hpopulated]
  split
  · case isTrue h => exact iff_of_true rfl h
  · case isFalse h => exact iff_of_false (not_clean_report _ _ _) h

/-- The firmware is clean with a path that is not blank. -/
theorem firmware_clean {draft : MachineDraft} :
    Clean (firmware draft) ↔ ∃ path, draft.properties[FIRMWARE_PATH]? = some (.Text path) ∧ blank path = false := by
  unfold firmware
  dsimp only
  rw [clean_append, clean_append, and_iff_left (clean_push _), and_iff_right (show Clean { known_properties := _ } from rfl)]
  cases draft.properties[FIRMWARE_PATH]? with
  | none => exact iff_of_false (not_clean_report _ _ _) nofun
  | some value =>
    simp only [Option.getD_some, Option.some.injEq]
    cases value with
    | Text path =>
      simp only [PropertyValue.Text.injEq, exists_eq_left']
      cases blank path with
      | false => exact iff_of_true rfl rfl
      | true => exact iff_of_false (not_clean_report _ _ _) nofun
    | Bool value => exact iff_of_false (not_clean_report _ _ _) nofun
    | Integer value => exact iff_of_false (not_clean_report _ _ _) nofun

end se_machine.ip12.definition
