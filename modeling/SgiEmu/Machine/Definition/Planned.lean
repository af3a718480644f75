import SgiEmu.Machine.Definition.Compiled

open se_config se_core se_core.storage

namespace se_machine.ip12.definition

open Projection

variable {α β κ : Type} {draft : MachineDraft} {plan : Ip12BuildPlan}

/-! ## What a plan has -/

def gio_slot_node : GioSlot → NodeId
  | .Slot0 => "gio.0.slot.0"
  | .Slot1 => "gio.0.slot.1"
  | .Graphics => GRAPHICS_SLOT

/-- The selection of a draft that an attachment of a plan stands for. -/
def gio_selection (attachment : GioAttachment) : NodeId × DeviceKindId :=
  (gio_slot_node attachment.slot,
    match attachment.device with
    | .Lg1 => LG1)

def scsi_kind : ScsiDevice → DeviceKindId
  | .Disk => SCSI_DISK
  | .Cdrom => SCSI_CDROM

def scsi_selection (attachment : ScsiAttachment) : NodeId × DeviceKindId :=
  (scsi_lun attachment.target attachment.lun, scsi_kind attachment.device)

def port_selection (attachment : Ip12PortAttachment) : NodeId × DeviceKindId :=
  (port_node attachment.port,
    match attachment.peripheral with
    | .SgiKeyboard => SGI_KEYBOARD
    | .SgiMouse => SGI_MOUSE
    | .Vt100Terminal => VT100_TERMINAL)

def selections (plan : Ip12BuildPlan) : List (NodeId × DeviceKindId) :=
  plan.gio.map gio_selection ++ plan.scsi.map scsi_selection ++ plan.port_attachments.map port_selection

/-- A resource that a plan requires: the PROM image, or the medium of one of its SCSI devices. -/
inductive Required (draft : MachineDraft) (plan : Ip12BuildPlan) : ResourceId → ResourceRequirement → Prop where
  | firmware {path : String} (configured : draft.properties[FIRMWARE_PATH]? = some (.Text path)) :
    Required draft plan plan.firmware { path, kind := .Bytes, origin := .Property FIRMWARE_PATH }
  | medium {attachment : ScsiAttachment} {id : ResourceId} {path : String} (planned : attachment ∈ plan.scsi)
      (medium : attachment.medium = some id)
      (configured : draft.properties[scsi_medium attachment.target attachment.lun]? = some (.Text path)) :
    Required draft plan id
      { path
        kind := .Storage (scsi_storage_access attachment.device)
        origin := .Property (scsi_medium attachment.target attachment.lun) }

/-- A plan of the machine that a draft describes. -/
structure Plans (draft : MachineDraft) (plan : Ip12BuildPlan) : Prop where
  backend : draft.properties[FPU_BACKEND]? = some (.Text (backend_name plan.floating_point_backend))
  memory : banks.map (fun bank => draft.properties[memory_property bank]?) =
    plan.memory.simm_mib.map fun size : Nat => some (.Integer size)
  firmware : plan.firmware = FIRMWARE_IMAGE
  attachments : (selections plan).Perm draft.attachments.toList
  addresses : (plan.scsi.map fun attachment => (attachment.target, attachment.lun)).Nodup
  media : ∀ attachment ∈ plan.scsi, attachment.medium.isSome ↔
    ∃ path, draft.properties[scsi_medium attachment.target attachment.lun]? = some (.Text path) ∧ blank path = false
  resources : ∀ id requirement, plan.resources[id]? = some requirement ↔ Required draft plan id requirement

/-! ## Planned logical units -/

theorem medium_path_eq_some {target lun : Nat} {path : String} :
    medium_path draft target lun = some path ↔
      draft.properties[scsi_medium target lun]? = some (.Text path) ∧ blank path = false := by
  unfold medium_path
  rw [text_path_eq_some, medium_value]
  cases draft.properties[scsi_medium target lun]? with
  | some value => rw [Option.getD_some, Option.some_inj]
  | none =>
    -- An absent medium is projected as an empty path.
    refine iff_of_false ?_ nofun
    rintro ⟨hempty, hfull⟩
    cases hempty
    cases hfull

theorem firmware_path_eq_some {path : String} :
    firmware_path draft = some path ↔ draft.properties[FIRMWARE_PATH]? = some (.Text path) ∧ blank path = false := by
  unfold firmware_path
  simp only [Option.bind_eq_some_iff, text_path_eq_some, ← and_assoc, exists_and_right, exists_eq_right]

/-- A planned logical unit has the device and the medium of the draft. -/
theorem unit_scsi_eq_some {unit : Nat × Nat} {attachment : ScsiAttachment} (h : unit_scsi draft unit = some attachment) :
    attachment.target = unit.1 ∧ attachment.lun = unit.2 ∧ unit_device draft unit = some attachment.device ∧
      attachment.medium = (medium_path draft unit.1 unit.2).map fun _ => scsi_medium_image unit.1 unit.2 := by
  obtain ⟨device, hdevice, hplanned⟩ := Option.bind_eq_some_iff.mp h
  rw [hdevice]
  cases device with
  | Disk =>
    obtain ⟨path, hpath, rfl⟩ := Option.map_eq_some_iff.mp hplanned
    rw [hpath]
    exact ⟨rfl, rfl, rfl, rfl⟩
  | Cdrom =>
    unfold planned_device at hplanned
    dsimp only at hplanned
    split at hplanned
    · cases hplanned
      exact ⟨rfl, rfl, rfl, rfl⟩
    · cases hplanned

/-- The device of a logical unit with a medium is planned. -/
theorem unit_scsi_of_medium {unit : Nat × Nat} {device : ScsiDevice} {path : String}
    (hdevice : unit_device draft unit = some device) (hpath : medium_path draft unit.1 unit.2 = some path) :
    ∃ attachment, unit_scsi draft unit = some attachment ∧ attachment.device = device := by
  unfold unit_scsi
  rw [hdevice, Option.bind_some]
  cases device with
  | Disk =>
    unfold planned_device
    rw [hpath]
    exact ⟨_, rfl, rfl⟩
  | Cdrom =>
    obtain ⟨htext, -⟩ := text_path_eq_some.mp hpath
    unfold planned_device
    dsimp only
    rw [htext]
    exact ⟨_, rfl, rfl⟩

theorem scsi_device_kind_eq_some {kind : DeviceKindId} {device : ScsiDevice} :
    scsi_device_kind kind = some device ↔ kind = scsi_kind device := by
  constructor
  · intro h
    unfold scsi_device_kind at h
    split at h
    · case isTrue hdisk =>
      cases h
      exact hdisk
    · split at h
      · case isTrue hcdrom =>
        cases h
        exact hcdrom
      · cases h
  · rintro rfl
    cases device with
    | Disk => exact if_pos rfl
    | Cdrom => exact (if_neg (by decide)).trans (if_pos rfl)

theorem unit_device_eq_some {unit : Nat × Nat} {device : ScsiDevice} :
    unit_device draft unit = some device ↔ draft.attachments[scsi_lun unit.1 unit.2]? = some (scsi_kind device) := by
  unfold unit_device
  simp only [Option.bind_eq_some_iff, scsi_device_kind_eq_some, exists_eq_right]

theorem Valid.unit_selection (h : Valid draft) {unit : Nat × Nat} (hunit : unit ∈ ip12.definition.units) :
    (unit_scsi draft unit).map scsi_selection =
      draft.attachments[scsi_lun unit.1 unit.2]?.map (Prod.mk (scsi_lun unit.1 unit.2)) := by
  cases hattached : draft.attachments[scsi_lun unit.1 unit.2]? with
  | none =>
    unfold unit_scsi unit_device
    rw [hattached]
    rfl
  | some kind =>
    have hplanned : ∃ attachment, unit_scsi draft unit = some attachment := by
      obtain ⟨rfl, path, hpath⟩ | ⟨rfl, hmedium⟩ := h.units unit hunit kind hattached
      · have hdevice : unit_device draft unit = some .Disk := unit_device_eq_some.mpr hattached
        obtain ⟨attachment, hattachment, -⟩ := unit_scsi_of_medium hdevice (medium_path_eq_some.mpr hpath)
        exact ⟨attachment, hattachment⟩
      · have hdevice : unit_device draft unit = some .Cdrom := unit_device_eq_some.mpr hattached
        obtain ⟨path, hpath⟩ := medium_value_cdrom.mpr hmedium
        unfold unit_scsi
        rw [hdevice, Option.bind_some, planned_device, hpath]
        exact ⟨_, rfl⟩
    obtain ⟨attachment, hattachment⟩ := hplanned
    obtain ⟨htarget, hlun, hdevice, -⟩ := unit_scsi_eq_some hattachment
    rw [unit_device_eq_some, hattached] at hdevice
    cases hdevice
    rw [hattachment, Option.map_some, Option.map_some, scsi_selection, htarget, hlun]

/-! ## Attachments -/

theorem Valid.gio_selections (h : Valid draft) :
    (analyze draft).gio.map gio_selection =
      [GRAPHICS_SLOT].filterMap fun slot => draft.attachments[slot]?.map (Prod.mk slot) := by
  change (analyze draft).contents.gio.map gio_selection = _
  rw [analyze_contents_eq, List.filterMap_cons]
  cases hattached : draft.attachments[GRAPHICS_SLOT]? with
  | none => rfl
  | some device =>
    obtain rfl := h.graphics device hattached
    rfl

theorem analyze_scsi (draft : MachineDraft) : (analyze draft).scsi = units.filterMap (unit_scsi draft) := by
  change (analyze draft).contents.scsi = _
  rw [analyze_contents_eq, List.filterMap_eq_flatMap_toList]

theorem Valid.scsi_selections (h : Valid draft) :
    (analyze draft).scsi.map scsi_selection =
      (ip12.definition.units.map fun unit => scsi_lun unit.1 unit.2).filterMap fun slot =>
        draft.attachments[slot]?.map (Prod.mk slot) := by
  rw [analyze_scsi, List.map_filterMap, List.filterMap_map]
  exact List.filterMap_congr fun unit hunit => h.unit_selection hunit

theorem analyze_ports (draft : MachineDraft) : (analyze draft).port_attachments = ports.flatMap (attached_port draft) := by
  change (analyze draft).contents.port_attachments = _
  rw [analyze_contents_eq]

theorem Valid.port_selections (h : Valid draft) :
    (analyze draft).port_attachments.map port_selection =
      (ip12.definition.ports.map port_node).filterMap fun slot => draft.attachments[slot]?.map (Prod.mk slot) := by
  rw [analyze_ports, List.map_flatMap, List.filterMap_map, List.filterMap_eq_flatMap_toList]
  refine List.flatMap_congr fun port hport => ?_
  unfold attached_port
  cases hattached : draft.attachments[port_node port]? with
  | none =>
    rw [if_neg nofun]
    simp only [Function.comp, hattached, Option.map_none]
    rfl
  | some device =>
    obtain rfl := h.ports port hport device hattached
    rw [if_pos rfl]
    simp only [Function.comp, hattached, Option.map_some]
    cases port <;> rfl

/-- The ports of a projection are unique and canonically ordered. -/
theorem analyze_ports_canonical (draft : MachineDraft) : canonical_ports (analyze draft).port_attachments := by
  have hlisted : ∀ items : List Ip12Port, (items.flatMap (attached_port draft)).Sublist (items.map port_attachment) := by
    intro items
    induction items with
    | nil => exact List.Sublist.slnil
    | cons port items ih =>
      rw [List.flatMap_cons, List.map_cons]
      unfold attached_port
      split
      · exact ih.cons_cons _
      · exact ih.cons _
  have hordered : (ports.map port_attachment).Pairwise fun first second => first.port.index < second.port.index := by decide
  rw [analyze_ports]
  exact (hordered.sublist (hlisted ports)).isChain

theorem defined_slots_nodup : defined_slots.Nodup :=
  List.Nodup.of_map text_number (by decide +kernel)

/-! ## SCSI addresses and resources -/

/-- The keys of results that have the key of their item are among the keys of the items. -/
theorem filterMap_keys_sublist {f : α → Option β} {key : β → κ} {expected : α → κ}
    (h : ∀ item result, f item = some result → key result = expected item) (items : List α) :
    ((items.filterMap f).map key).Sublist (items.map expected) := by
  induction items with
  | nil => exact List.Sublist.slnil
  | cons item items ih =>
    rw [List.filterMap_cons, List.map_cons]
    cases hresult : f item with
    | none => exact ih.cons _
    | some result =>
      rw [List.map_cons, h item result hresult]
      exact ih.cons_cons _

theorem analyze_addresses (draft : MachineDraft) :
    ((analyze draft).scsi.map fun attachment => (attachment.target, attachment.lun)).Nodup := by
  have hunits : (units.map id).Nodup := by decide
  rw [analyze_scsi]
  refine hunits.sublist (filterMap_keys_sublist ?_ _)
  intro unit attachment hattachment
  obtain ⟨htarget, hlun, -⟩ := unit_scsi_eq_some hattachment
  exact Prod.ext htarget hlun

theorem analyze_resources (draft : MachineDraft) :
    (analyze draft).resources =
      units.filterMap (unit_resource draft) ++
        ((firmware_path draft).map fun path =>
          (FIRMWARE_IMAGE, ({ path, kind := .Bytes, origin := .Property FIRMWARE_PATH } : ResourceRequirement))).toList := by
  change (analyze draft).contents.resources = _
  rw [analyze_contents_eq, List.filterMap_eq_flatMap_toList]

theorem unit_resource_eq_some {unit : Nat × Nat} {resource : ResourceId × ResourceRequirement} :
    unit_resource draft unit = some resource ↔
      ∃ device path, unit_device draft unit = some device ∧ medium_path draft unit.1 unit.2 = some path ∧
        (scsi_medium_image unit.1 unit.2,
          { path, kind := .Storage (scsi_storage_access device), origin := .Property (scsi_medium unit.1 unit.2) }) =
            resource := by
  unfold unit_resource required_medium
  simp only [Option.bind_eq_some_iff, Option.map_eq_some_iff, exists_and_left]

theorem analyze_resources_nodup (draft : MachineDraft) : ((analyze draft).resources.map Prod.fst).Nodup := by
  have hroles : (units.map (fun unit => scsi_medium_image unit.1 unit.2) ++ [FIRMWARE_IMAGE]).Nodup :=
    List.Nodup.of_map text_number (by decide +kernel)
  refine hroles.sublist ?_
  rw [analyze_resources, List.map_append]
  refine (filterMap_keys_sublist ?_ _).append ?_
  · intro unit resource hresource
    obtain ⟨_, _, -, -, rfl⟩ := unit_resource_eq_some.mp hresource
    rfl
  · cases firmware_path draft with
    | none => exact List.nil_sublist _
    | some path => exact List.Sublist.refl _

/-- The resources of an analysis are those that its plan requires. -/
theorem resource_required (hscsi : plan.scsi = (analyze draft).scsi) (hfirmware : plan.firmware = FIRMWARE_IMAGE)
    (hpath : ∃ path, draft.properties[FIRMWARE_PATH]? = some (.Text path) ∧ blank path = false) {id : ResourceId}
    {requirement : ResourceRequirement} :
    (id, requirement) ∈ (analyze draft).resources ↔ Required draft plan id requirement := by
  rw [analyze_scsi] at hscsi
  rw [analyze_resources, List.mem_append, List.mem_filterMap, Option.mem_toList, Option.map_eq_some_iff]
  constructor
  · rintro (⟨unit, hunit, hresource⟩ | ⟨path, hfirmware_path, hresource⟩)
    · obtain ⟨device, path, hdevice, hmedium_path, heq⟩ := unit_resource_eq_some.mp hresource
      cases heq
      obtain ⟨attachment, hattachment, rfl⟩ := unit_scsi_of_medium hdevice hmedium_path
      obtain ⟨htarget, hlun, -, hmedium⟩ := unit_scsi_eq_some hattachment
      rw [hmedium_path, Option.map_some] at hmedium
      have hplanned : attachment ∈ plan.scsi := by
        rw [hscsi]
        exact List.mem_filterMap.mpr ⟨unit, hunit, hattachment⟩
      have hconfigured := (medium_path_eq_some.mp hmedium_path).1
      rw [← htarget, ← hlun] at hconfigured ⊢
      rw [← htarget, ← hlun] at hmedium
      exact .medium hplanned hmedium hconfigured
    · cases hresource
      rw [← hfirmware]
      exact .firmware (firmware_path_eq_some.mp hfirmware_path).1
  · rintro (@⟨path, hconfigured⟩ | @⟨attachment, id, path, hplanned, hmedium, hconfigured⟩)
    · obtain ⟨_, hvalue, hfull⟩ := hpath
      rw [hconfigured] at hvalue
      cases hvalue
      refine .inr ⟨path, firmware_path_eq_some.mpr ⟨hconfigured, hfull⟩, ?_⟩
      rw [hfirmware]
    · rw [hscsi] at hplanned
      obtain ⟨unit, hunit, hattachment⟩ := List.mem_filterMap.mp hplanned
      obtain ⟨htarget, hlun, hdevice, hunit_medium⟩ := unit_scsi_eq_some hattachment
      rw [hunit_medium] at hmedium
      obtain ⟨found, hfound, rfl⟩ := Option.map_eq_some_iff.mp hmedium
      have hvalue := (medium_path_eq_some.mp hfound).1
      rw [htarget, hlun] at hconfigured ⊢
      rw [hconfigured] at hvalue
      cases hvalue
      exact .inl ⟨unit, hunit, unit_resource_eq_some.mpr ⟨_, path, hdevice, hfound, rfl⟩⟩

/-! ## Compilation -/

/-- A configuration compiles when it is valid and to what it says, and fails with the errors that it resolves with. -/
structure Compiles (draft : MachineDraft) : Prop where
  returns : (compile draft).isSome
  accepts : (∃ plan, compile draft = some (.ok plan)) ↔ Valid draft
  plans : ∀ plan, compile draft = some (.ok plan) → Plans draft plan
  rejects : ∀ error, compile draft = some (.error error) →
    error.diagnostics = (resolve draft).diagnostics ∧ error.diagnostics ≠ []
  unique : ((resolve draft).nodes.map (·.id)).Nodup
  parents_first : ∀ before node after, (resolve draft).nodes = before ++ node :: after →
    ∀ owner, node.parent = some owner → owner ∈ before.map (·.id)

theorem compile_invalid (h : ¬Valid draft) :
    compile draft = some (.error { diagnostics := (resolve draft).diagnostics }) ∧ (resolve draft).diagnostics ≠ [] := by
  have hfound : (analyze draft).diagnostics ≠ [] := fun hempty => h (analyze_clean.mp hempty)
  have herrors : ((analyze draft).diagnostics.filter fun diagnostic => diagnostic.severity == .Error) =
      (analyze draft).diagnostics := by
    refine List.filter_eq_self.mpr fun diagnostic hdiagnostic => ?_
    rw [analyze_diagnostics draft hdiagnostic]
    rfl
  refine ⟨?_, hfound⟩
  unfold compile
  dsimp only
  rw [herrors, if_pos]
  · rfl
  · simpa using hfound

/-- The plan of a valid draft is made of the parts of its analysis. -/
theorem Valid.compile (h : Valid draft) :
    ∃ plan : Ip12BuildPlan, definition.compile draft = some (.ok plan) ∧
      (analyze draft).backend = some plan.floating_point_backend ∧ (analyze draft).memory = some plan.memory ∧
      plan.firmware = FIRMWARE_IMAGE ∧ plan.gio = (analyze draft).gio ∧ plan.scsi = (analyze draft).scsi ∧
      plan.port_attachments = (analyze draft).port_attachments ∧
      plan.resources = Std.ExtTreeMap.ofList (analyze draft).resources compare := by
  obtain ⟨backend, hbackend, -⟩ := h.analyze_backend
  obtain ⟨memory, hmemory, -⟩ := h.analyze_memory
  have hclean : (analyze draft).diagnostics = [] := analyze_clean.mpr h
  unfold definition.compile
  dsimp only
  rw [hclean, hbackend, hmemory]
  simp only [Option.bind_eq_bind, Option.bind_some, Ip12BuildPlan.new_ordered _ _ _ _ _ _ (analyze_ports_canonical draft)]
  exact ⟨_, rfl, rfl, rfl, rfl, rfl, rfl, rfl, rfl⟩

theorem Valid.plans (h : Valid draft) (hcompiled : definition.compile draft = some (.ok plan)) : Plans draft plan := by
  obtain ⟨planned, hplanned, hbackend, hmemory, hfirmware, hgio, hscsi, hports, hresources⟩ := h.compile
  rw [hplanned] at hcompiled
  cases hcompiled
  refine ⟨?_, ?_, hfirmware, ?_, ?_, ?_, ?_⟩
  · obtain ⟨backend, hanalyzed, hvalue⟩ := h.analyze_backend
    rw [hanalyzed] at hbackend
    cases hbackend
    exact hvalue
  · obtain ⟨memory, hanalyzed, hvalues⟩ := h.analyze_memory
    rw [hanalyzed] at hmemory
    cases hmemory
    exact hvalues
  · unfold selections
    rw [hgio, hscsi, hports, h.gio_selections, h.scsi_selections, h.port_selections, ← List.filterMap_append,
      ← List.filterMap_append]
    exact BTreeMap.lookups_perm defined_slots_nodup h.attachments
  · rw [hscsi]
    exact analyze_addresses draft
  · intro attachment hattachment
    rw [hscsi, analyze_scsi] at hattachment
    obtain ⟨unit, -, hunit⟩ := List.mem_filterMap.mp hattachment
    obtain ⟨htarget, hlun, -, hmedium⟩ := unit_scsi_eq_some hunit
    rw [hmedium, Option.isSome_map, Option.isSome_iff_exists, htarget, hlun]
    simp only [medium_path_eq_some]
  · intro id requirement
    rw [hresources, BTreeMap.getElem?_ofList (analyze_resources_nodup draft)]
    exact resource_required hscsi hfirmware h.firmware

/-- Compilation returns for every draft: a plan of the machine for a valid one, its errors for any other. -/
theorem compile_sound (draft : MachineDraft) : Compiles draft := by
  have hreturns : (∃ plan, compile draft = some (.ok plan)) ∧ Valid draft ∨
      (∃ error, compile draft = some (.error error)) ∧ ¬Valid draft := by
    by_cases h : Valid draft
    · obtain ⟨plan, hplan, -⟩ := h.compile
      exact .inl ⟨⟨plan, hplan⟩, h⟩
    · exact .inr ⟨⟨_, (compile_invalid h).1⟩, h⟩
  refine ⟨?_, ?_, ?_, ?_, resolve_unique draft, ?_⟩
  · obtain ⟨⟨_, hcompiled⟩, -⟩ | ⟨⟨_, hcompiled⟩, -⟩ := hreturns
    · rw [hcompiled]
      rfl
    · rw [hcompiled]
      rfl
  · obtain ⟨hcompiled, hvalid⟩ | ⟨⟨error, herror⟩, hinvalid⟩ := hreturns
    · exact iff_of_true hcompiled hvalid
    · refine iff_of_false ?_ hinvalid
      rintro ⟨plan, hplan⟩
      rw [herror] at hplan
      cases hplan
  · intro plan hplan
    obtain ⟨-, hvalid⟩ | ⟨⟨error, herror⟩, -⟩ := hreturns
    · exact hvalid.plans hplan
    · rw [herror] at hplan
      cases hplan
  · intro error herror
    obtain ⟨⟨plan, hplan⟩, -⟩ | ⟨-, hinvalid⟩ := hreturns
    · rw [hplan] at herror
      cases herror
    · obtain ⟨hcompiled, hfound⟩ := compile_invalid hinvalid
      rw [hcompiled] at herror
      cases herror
      exact ⟨rfl, hfound⟩
  · intro before node after hnodes owner howner
    exact resolve_parents_first draft hnodes howner

end se_machine.ip12.definition
