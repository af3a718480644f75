import SgiEmu.Machine.Definition.Validity

open se_config se_core

namespace se_machine.ip12.definition

namespace Projection

/-- What a projection says beyond its nodes and errors. -/
def contents (projection : Projection) : Projection :=
  { projection with
    nodes := []
    diagnostics := projection.diagnostics.filter fun diagnostic => diagnostic.severity != .Error }

variable {α : Type}

/-- Contents add up as the projections do. -/
theorem contents_append (first second : Projection) : (first ++ second).contents = first.contents ++ second.contents := by
  have hdiagnostics := List.filter_append (p := fun diagnostic : Diagnostic => diagnostic.severity != .Error)
    first.diagnostics second.diagnostics
  exact congrArg (fun diagnostics => { (first.contents ++ second.contents) with diagnostics }) hdiagnostics

/-- A node by itself has no contents. -/
theorem contents_push (node : TopologyNode) : (push node).contents = {} := rfl

theorem empty_append (projection : Projection) : {} ++ projection = projection := by
  have hbackend : projection.backend.or none = projection.backend := Option.or_none
  have hmemory : projection.memory.or none = projection.memory := Option.or_none
  change append {} projection = projection
  unfold append
  rw [hbackend, hmemory]
  rfl

theorem append_empty (projection : Projection) : projection ++ {} = projection := by
  change append projection {} = projection
  unfold append
  simp only [List.append_nil, Option.none_or]

theorem append_assoc (first second third : Projection) : first ++ second ++ third = first ++ (second ++ third) := by
  change append (append first second) third = append first (append second third)
  unfold append
  simp only [List.append_assoc, Option.or_assoc]

theorem each_append (body : α → Projection) (first second : List α) :
    each body (first ++ second) = each body first ++ each body second := by
  induction first with
  | nil => exact (empty_append _).symm
  | cons item first ih =>
    change body item ++ each body (first ++ second) = body item ++ each body first ++ each body second
    rw [ih, append_assoc]

/-- Projecting the branches of every root is projecting each root's branches in turn. -/
theorem each_flatMap {β : Type} (body : α → Projection) (branch : β → List α) (roots : List β) :
    each body (roots.flatMap branch) = each (fun root => each body (branch root)) roots := by
  induction roots with
  | nil => rfl
  | cons root roots ih => rw [List.flatMap_cons, each_append, ih, each]

theorem each_map {β : Type} (body : α → Projection) (f : β → α) (items : List β) :
    each body (items.map f) = each (fun item => body (f item)) items := by
  induction items with
  | nil => rfl
  | cons item items ih => rw [List.map_cons, each, ih, each]

/-- The contents of a sequence of projections are those of its items, in the same order. -/
theorem contents_each (body : α → Projection) (items : List α) :
    (each body items).contents = each (fun item => (body item).contents) items := by
  induction items with
  | nil => rfl
  | cons item items ih =>
    unfold each
    rw [contents_append, ih]

theorem each_empty (items : List α) : each (fun _ => {}) items = {} := by
  induction items with
  | nil => rfl
  | cons item items ih =>
    unfold each
    rw [ih]
    exact append_empty {}

end Projection

open Projection

/-- A value asked of the draft makes its property known, whether it is given, defaulted or wrong. -/
theorem required_value_contents (draft : MachineDraft) (property : PropertyId) (default : PropertyValue) :
    (required_value draft property default).2.contents = { known_properties := [property] } := by
  unfold required_value
  split <;> rfl

/-- The machine's root only checks the model, and adds no contents. -/
theorem root_contents (draft : MachineDraft) : (root draft).contents = {} := by
  unfold root
  rw [contents_append, contents_push, empty_append]
  split <;> rfl

/-- The backend that a value selects. -/
def backend_value : PropertyValue → Option Backend
  | .Text name => if name = "softfloat" then some .SoftFloat else if name = "native" then some .Native else none
  | _ => none

/-- The processor contributes its floating-point backend, when the selected value names one. -/
theorem cpu_contents (draft : MachineDraft) :
    (cpu draft).contents =
      { known_properties := [FPU_BACKEND]
        backend := backend_value (required_value draft FPU_BACKEND (.Text "softfloat")).1 } := by
  unfold cpu
  dsimp only
  rw [contents_append, contents_append, contents_append, contents_push, contents_push, required_value_contents, append_empty,
    empty_append]
  generalize (required_value draft FPU_BACKEND (.Text "softfloat")).1 = value
  cases value with
  | Text name =>
    unfold backend_value
    dsimp only
    split
    · rfl
    · split <;> rfl
  | Bool value => rfl
  | Integer value => rfl

/-- A bank only makes its size known: its sockets and its complaint about the size are no contents.
-/
theorem bank_contents (draft : MachineDraft) (index : Char) :
    (bank draft index).contents = { known_properties := [memory_property index] } := by
  have hsockets : ∀ size, (each (socket index size) (List.range 4)).contents = {} := by
    intro size
    have hsocket : ∀ number, (socket index size number).contents = {} := by
      intro number
      unfold socket
      dsimp only
      rw [contents_append, contents_push, empty_append]
      split <;> rfl
    rw [contents_each]
    simp only [hsocket]
    exact each_empty _
  have hinvalid : ∀ value, (invalid_size index value).contents = {} := by
    intro value
    unfold invalid_size
    split
    · split <;> rfl
    · rfl
  unfold bank simm_value
  dsimp only
  rw [contents_append, contents_append, contents_append, hsockets, hinvalid, contents_push, required_value_contents,
    append_empty, append_empty, append_empty]

/-- The memory of a plan is the four sizes, and exists when the banks make a configuration. -/
theorem memory_contents (draft : MachineDraft) :
    (memory draft).contents =
      { known_properties := banks.map memory_property
        memory := configured_memory (banks.map fun bank => valid_size (simm_value draft bank).1) } := by
  have hunpopulated : ∀ populated : Bool,
      (if populated then ({} : Projection)
        else
          report "ip12.memory.no-installed-bank" (.Node "memory")
            "At least one memory bank must contain a supported SIMM capacity.").contents = {} := by
    intro populated
    cases populated <;> rfl
  unfold memory
  dsimp only
  rw [contents_append, contents_append, contents_append, contents_push, contents_each, hunpopulated, empty_append, append_empty]
  simp only [bank_contents]
  exact congrArg (fun memory => ({ known_properties := banks.map memory_property, memory } : Projection)) Option.or_none

theorem slot_node_contents (draft : MachineDraft) (slot parent : NodeId) (role : NodeRole) (label : String)
    (choices : List DeviceChoice) : (slot_node draft slot parent role label choices).contents = { known_slots := [slot] } := rfl

theorem unsupported_attachment_contents {supported : Prop} [Decidable supported] (slot : NodeId) :
    (if supported then ({} : Projection) else unsupported_attachment slot).contents = {} := by
  split <;> rfl

/-- The graphics slot contributes its board when it is an LG1, and nothing for any other attachment.
-/
theorem gio_contents (draft : MachineDraft) :
    (gio draft).contents =
      { known_slots := [GRAPHICS_SLOT]
        gio := if draft.attachments[GRAPHICS_SLOT]? = some LG1 then [{ slot := .Graphics, device := .Lg1 }] else [] } := by
  unfold gio
  rw [contents_append, contents_append, contents_append, contents_append, contents_push, contents_push, contents_push,
    slot_node_contents, empty_append, empty_append, empty_append]
  cases draft.attachments[GRAPHICS_SLOT]? with
  | none => rfl
  | some device =>
    dsimp only
    rw [contents_append, contents_append, unsupported_attachment_contents, contents_push, empty_append, empty_append]
    simp only [Option.some.injEq]
    split <;> rfl

/-- What a logical unit adds to a plan. -/
def unit_contents (draft : MachineDraft) (target lun : Nat) : Projection :=
  match draft.attachments[scsi_lun target lun]?.bind scsi_device_kind with
  | none => {}
  | some kind => (scsi_attachment draft target lun kind).contents

/-- A logical unit has a slot and a medium in every draft; the rest depends on the device attached.
-/
theorem scsi_logical_unit_contents (draft : MachineDraft) (target lun : Nat) :
    (scsi_logical_unit draft target lun).contents =
      { known_properties := [scsi_medium target lun], known_slots := [scsi_lun target lun] } ++
        unit_contents draft target lun := by
  unfold scsi_logical_unit unit_contents
  rw [contents_append, contents_append, slot_node_contents]
  refine congrArg _ ?_
  cases draft.attachments[scsi_lun target lun]? with
  | none => rfl
  | some device =>
    dsimp only [Option.bind_some]
    cases scsi_device_kind device with
    | none => rfl
    | some kind =>
      dsimp only
      rw [contents_append, contents_push, append_empty]

/-- The SCSI bus contributes the logical units of all eight targets, in order. -/
theorem scsi_contents (draft : MachineDraft) :
    (scsi draft).contents =
      each
        (fun unit : Nat × Nat =>
          { known_properties := [scsi_medium unit.1 unit.2], known_slots := [scsi_lun unit.1 unit.2] } ++
            unit_contents draft unit.1 unit.2)
        units := by
  have htarget : ∀ target, (scsi_target_node draft target).contents =
      each (fun lun => (scsi_logical_unit draft target lun).contents) (List.range 8) := by
    intro target
    unfold scsi_target_node
    rw [contents_append, contents_push, empty_append, contents_each]
  unfold scsi units
  rw [contents_append, contents_append, contents_append, contents_push, contents_push, contents_push, empty_append,
    empty_append, empty_append, contents_each, each_flatMap]
  simp only [htarget, each_map, scsi_logical_unit_contents]

/-- A serial port contributes its attachment only when the device is the one the port is for. -/
theorem serial_contents (draft : MachineDraft) :
    (serial draft).contents =
      each
        (fun port =>
          { known_slots := [port_node port]
            port_attachments :=
              if draft.attachments[port_node port]? = some (port_device_kind port) then [port_attachment port] else [] })
        ports := by
  have hport : ∀ controller serial, (serial_port draft controller serial).contents =
      { known_slots := [port_node serial.port]
        port_attachments :=
          if draft.attachments[port_node serial.port]? = some serial.device_kind then [port_attachment serial.port]
          else [] } := by
    intro controller serial
    unfold serial_port
    rw [contents_append, contents_append, contents_push, slot_node_contents, empty_append]
    cases draft.attachments[port_node serial.port]? with
    | none => rfl
    | some device =>
      dsimp only
      rw [contents_append, contents_append, unsupported_attachment_contents, contents_push, empty_append, empty_append]
      simp only [Option.some.injEq]
      split <;> rfl
  unfold serial
  rw [contents_each]
  simp only [contents_append, contents_push, empty_append, contents_each, hport]
  rw [← each_flatMap]
  rfl

/-- The path that a value selects. -/
def text_path : PropertyValue → Option String
  | .Text path => if blank path then none else some path
  | _ => none

/-- A value selects a path when it is a text that is not blank. -/
theorem text_path_eq_some {value : PropertyValue} {path : String} :
    text_path value = some path ↔ value = .Text path ∧ blank path = false := by
  unfold text_path
  cases value with
  | Bool value => exact iff_of_false nofun nofun
  | Integer value => exact iff_of_false nofun nofun
  | Text text =>
    dsimp only
    rw [PropertyValue.Text.injEq]
    cases hblank : blank text with
    | true =>
      refine iff_of_false nofun ?_
      rintro ⟨rfl, hfull⟩
      rw [hblank] at hfull
      cases hfull
    | false =>
      refine Option.some_inj.trans ⟨?_, And.left⟩
      rintro rfl
      exact ⟨rfl, hblank⟩

/-- The path of the PROM image, if the draft has one. -/
def firmware_path (draft : MachineDraft) : Option String := draft.properties[FIRMWARE_PATH]?.bind text_path

/-- The PROM image is a resource of the plan when its path is given. -/
theorem firmware_contents (draft : MachineDraft) :
    (firmware draft).contents =
      { known_properties := [FIRMWARE_PATH]
        resources :=
          ((firmware_path draft).map fun path =>
            (FIRMWARE_IMAGE, ({ path, kind := .Bytes, origin := .Property FIRMWARE_PATH } : ResourceRequirement))).toList } := by
  have hnothing : ({ known_properties := [FIRMWARE_PATH] } : Projection).contents ++ {} = { known_properties := [FIRMWARE_PATH] } :=
    append_empty _
  unfold firmware firmware_path
  dsimp only
  rw [contents_append, contents_append, contents_push, append_empty]
  cases draft.properties[FIRMWARE_PATH]? with
  | none => exact hnothing
  | some value =>
    simp only [Option.getD_some, Option.bind_some, text_path]
    cases value with
    | Text path =>
      dsimp only
      cases blank path with
      | false => rfl
      | true => exact hnothing
    | Bool value => exact hnothing
    | Integer value => exact hnothing

/-- The contents of a draft's projection, part by part: the parallel port and the Ethernet add none.
-/
theorem project_contents (draft : MachineDraft) :
    (project draft).contents =
      (cpu draft).contents ++ (memory draft).contents ++ (gio draft).contents ++ (scsi draft).contents ++
        (serial draft).contents ++ (firmware draft).contents := by
  have hparallel : parallel_and_ethernet.contents = {} := rfl
  unfold project
  rw [contents_append, contents_append, contents_append, contents_append, contents_append, contents_append, contents_append,
    root_contents, empty_append, hparallel, append_empty]

/-- Properties and slots that no part knows are errors only. -/
theorem unknown_keys_contents (draft : MachineDraft) (projection : Projection) :
    (unknown_keys draft projection).contents = {} := by
  have hreported : ∀ {known : Prop} [Decidable known] (code : String) (target : DiagnosticTarget) (message : String),
      (if known then ({} : Projection) else report code target message).contents = {} := by
    intro known _ code target message
    split <;> rfl
  unfold unknown_keys
  rw [contents_append, contents_each, contents_each]
  simp only [hreported, each_empty]
  exact append_empty {}

/-- The analysis adds errors to the projection and leaves the contents. -/
theorem analyze_contents (draft : MachineDraft) : (analyze draft).contents = (project draft).contents := by
  unfold analyze
  rw [contents_append, unknown_keys_contents, append_empty]

end se_machine.ip12.definition
