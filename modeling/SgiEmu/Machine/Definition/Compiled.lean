import SgiEmu.Machine.Definition.Contents
import SgiEmu.Machine.Definition.Topology

open se_config se_core se_core.storage

namespace se_machine.ip12.definition

open Projection

/-! ## Logical units -/

/-- The path of a medium, if the draft has one. -/
def medium_path (draft : MachineDraft) (target lun : Nat) : Option String := text_path (medium_value draft target lun)

/-- The entry of a supported device. -/
def planned_device (draft : MachineDraft) (target lun : Nat) : ScsiDevice → Option ScsiAttachment
  | .Disk => (medium_path draft target lun).map fun _ => .disk target lun (scsi_medium_image target lun)
  | .Cdrom =>
    match medium_value draft target lun with
    | .Text _ => some (.cdrom target lun ((medium_path draft target lun).map fun _ => scsi_medium_image target lun))
    | _ => none

/-- The medium that a supported device requires. -/
def required_medium (draft : MachineDraft) (target lun : Nat) (device : ScsiDevice) :
    Option (ResourceId × ResourceRequirement) :=
  (medium_path draft target lun).map fun path =>
    (scsi_medium_image target lun,
      { path, kind := .Storage (scsi_storage_access device), origin := .Property (scsi_medium target lun) })

theorem scsi_attachment_contents (draft : MachineDraft) (target lun : Nat) (device : ScsiDevice) :
    (scsi_attachment draft target lun device).contents =
      { scsi := (planned_device draft target lun device).toList
        resources := (required_medium draft target lun device).toList } := by
  unfold scsi_attachment planned_device required_medium medium_path text_path
  cases medium_value draft target lun with
  | Text path =>
    dsimp only
    cases blank path with
    | false => cases device <;> rfl
    | true => cases device <;> rfl
  | Bool value => cases device <;> rfl
  | Integer value => cases device <;> rfl

/-- The supported device of a logical unit. -/
def unit_device (draft : MachineDraft) (unit : Nat × Nat) : Option ScsiDevice :=
  draft.attachments[scsi_lun unit.1 unit.2]?.bind scsi_device_kind

def unit_scsi (draft : MachineDraft) (unit : Nat × Nat) : Option ScsiAttachment :=
  (unit_device draft unit).bind (planned_device draft unit.1 unit.2)

def unit_resource (draft : MachineDraft) (unit : Nat × Nat) : Option (ResourceId × ResourceRequirement) :=
  (unit_device draft unit).bind (required_medium draft unit.1 unit.2)

theorem unit_contents_eq (draft : MachineDraft) (unit : Nat × Nat) :
    unit_contents draft unit.1 unit.2 =
      { scsi := (unit_scsi draft unit).toList, resources := (unit_resource draft unit).toList } := by
  unfold unit_contents unit_scsi unit_resource unit_device
  cases draft.attachments[scsi_lun unit.1 unit.2]?.bind scsi_device_kind with
  | none => rfl
  | some kind => exact scsi_attachment_contents draft unit.1 unit.2 kind

/-! ## What a draft projects -/

/-- The peripheral attached to a port. -/
def attached_port (draft : MachineDraft) (port : Ip12Port) : List Ip12PortAttachment :=
  if draft.attachments[port_node port]? = some (port_device_kind port) then [port_attachment port] else []

theorem each_unit (draft : MachineDraft) (items : List (Nat × Nat)) :
    each
        (fun unit : Nat × Nat =>
          { known_properties := [scsi_medium unit.1 unit.2], known_slots := [scsi_lun unit.1 unit.2] } ++
            unit_contents draft unit.1 unit.2)
        items =
      { known_properties := items.map fun unit => scsi_medium unit.1 unit.2
        known_slots := items.map fun unit => scsi_lun unit.1 unit.2
        scsi := items.flatMap fun unit => (unit_scsi draft unit).toList
        resources := items.flatMap fun unit => (unit_resource draft unit).toList } := by
  induction items with
  | nil => rfl
  | cons unit items ih =>
    rw [each, ih, unit_contents_eq]
    rfl

theorem each_port (draft : MachineDraft) (items : List Ip12Port) :
    each (fun port => { known_slots := [port_node port], port_attachments := attached_port draft port }) items =
      { known_slots := items.map port_node, port_attachments := items.flatMap (attached_port draft) } := by
  induction items with
  | nil => rfl
  | cons port items ih =>
    rw [each, ih]
    rfl

/-- The parts of a projection side by side: each method adds to fields of its own. -/
theorem append_parts (cpu_properties memory_properties scsi_properties firmware_properties : List PropertyId)
    (gio_slots scsi_slots serial_slots : List NodeId) (backend : Option Backend) (memory : Option Ip12MemoryConfiguration)
    (gio : List GioAttachment) (scsi : List ScsiAttachment) (port_attachments : List Ip12PortAttachment)
    (media images : List (ResourceId × ResourceRequirement)) :
    ({ known_properties := cpu_properties, backend } : Projection) ++ { known_properties := memory_properties, memory } ++
        { known_slots := gio_slots, gio } ++
        { known_properties := scsi_properties, known_slots := scsi_slots, scsi, resources := media } ++
        { known_slots := serial_slots, port_attachments } ++
        { known_properties := firmware_properties, resources := images } =
      { known_properties := cpu_properties ++ memory_properties ++ scsi_properties ++ firmware_properties
        known_slots := gio_slots ++ scsi_slots ++ serial_slots
        backend, memory, gio, scsi, port_attachments
        resources := media ++ images } := by
  have happend : ∀ first second : Projection, first ++ second = append first second := fun _ _ => rfl
  simp only [happend, append, List.nil_append, List.append_nil, Option.none_or, Option.or_none]

/-- Everything that compilation uses of a draft. -/
theorem analyze_contents_eq (draft : MachineDraft) :
    (analyze draft).contents =
      { known_properties := defined_properties
        known_slots := defined_slots
        backend := backend_value (required_value draft FPU_BACKEND (.Text "softfloat")).1
        memory := configured_memory (banks.map fun bank => valid_size (simm_value draft bank).1)
        gio := if draft.attachments[GRAPHICS_SLOT]? = some LG1 then [{ slot := .Graphics, device := .Lg1 }] else []
        scsi := units.flatMap fun unit => (unit_scsi draft unit).toList
        port_attachments := ports.flatMap (attached_port draft)
        resources :=
          (units.flatMap fun unit => (unit_resource draft unit).toList) ++
            ((firmware_path draft).map fun path =>
              (FIRMWARE_IMAGE, ({ path, kind := .Bytes, origin := .Property FIRMWARE_PATH } : ResourceRequirement))).toList } := by
  have hserial : (serial draft).contents =
      { known_slots := ports.map port_node, port_attachments := ports.flatMap (attached_port draft) } :=
    (serial_contents draft).trans (each_port draft ports)
  rw [analyze_contents, project_contents, cpu_contents, memory_contents, gio_contents, scsi_contents, hserial,
    firmware_contents, each_unit]
  exact append_parts _ _ _ _ _ _ _ _ _ _ _ _ _ _

theorem analyze_diagnostics (draft : MachineDraft) {diagnostic : Diagnostic}
    (h : diagnostic ∈ (analyze draft).diagnostics) : diagnostic.severity = .Error := by
  have hempty : (analyze draft).contents.diagnostics = [] := by rw [analyze_contents_eq]
  have hfiltered := List.filter_eq_nil_iff.mp hempty diagnostic h
  simpa using hfiltered

theorem project_known_properties (draft : MachineDraft) : (project draft).known_properties = defined_properties := by
  change (project draft).contents.known_properties = _
  rw [← analyze_contents, analyze_contents_eq]

theorem project_known_slots (draft : MachineDraft) : (project draft).known_slots = defined_slots := by
  change (project draft).contents.known_slots = _
  rw [← analyze_contents, analyze_contents_eq]

/-! ## Accepted drafts -/

theorem unknown_keys_clean {draft : MachineDraft} {projection : Projection} :
    Clean (unknown_keys draft projection) ↔
      (∀ property value, draft.properties[property]? = some value → property ∈ projection.known_properties) ∧
        ∀ slot device, draft.attachments[slot]? = some device → slot ∈ projection.known_slots := by
  have hreported : ∀ {known : Prop} [Decidable known] (code : String) (target : DiagnosticTarget) (message : String),
      Clean (if known then {} else report code target message) ↔ known := by
    intro known _ code target message
    split
    · case isTrue h => exact iff_of_true rfl h
    · case isFalse h => exact iff_of_false (not_clean_report _ _ _) h
  unfold unknown_keys
  rw [clean_append, clean_each, clean_each]
  simp only [hreported, List.forall_mem_map, Prod.forall, Std.ExtTreeMap.mem_toList_iff_getElem?_eq_some]

theorem analyze_clean {draft : MachineDraft} : Clean (analyze draft) ↔ Valid draft := by
  unfold analyze
  dsimp only
  rw [clean_append, unknown_keys_clean, project_known_properties, project_known_slots]
  have hparallel : Clean parallel_and_ethernet := rfl
  unfold project
  rw [clean_append, clean_append, clean_append, clean_append, clean_append, clean_append, clean_append, root_clean,
    cpu_clean, memory_clean, gio_clean, scsi_clean, serial_clean, firmware_clean, and_iff_left hparallel]
  constructor
  · rintro ⟨⟨⟨⟨⟨⟨⟨hmodel, hbackend⟩, hsimms, hpopulated⟩, hgraphics⟩, hunits⟩, hports⟩, hfirmware⟩, hproperties, hattachments⟩
    exact ⟨hmodel, hproperties, hattachments, hbackend, hsimms, hpopulated, hgraphics, hunits, hports, hfirmware⟩
  · rintro ⟨hmodel, hproperties, hattachments, hbackend, hsimms, hpopulated, hgraphics, hunits, hports, hfirmware⟩
    exact ⟨⟨⟨⟨⟨⟨⟨hmodel, hbackend⟩, hsimms, hpopulated⟩, hgraphics⟩, hunits⟩, hports⟩, hfirmware⟩, hproperties, hattachments⟩

/-! ## Plans of accepted drafts -/

variable {draft : MachineDraft}

theorem Valid.analyze_backend (h : Valid draft) :
    ∃ backend, (analyze draft).backend = some backend ∧
      draft.properties[FPU_BACKEND]? = some (.Text (backend_name backend)) := by
  obtain ⟨backend, hvalue⟩ := h.backend
  refine ⟨backend, ?_, hvalue⟩
  change (analyze draft).contents.backend = _
  rw [analyze_contents_eq, required_value_some hvalue]
  dsimp only [backend_value]
  cases backend with
  | SoftFloat => exact if_pos rfl
  | Native => exact (if_neg (by decide)).trans (if_pos rfl)

theorem simm_size_valid {size : Int} (hsize : size ∈ [0, 2, 4, 8]) (bank : Nat) :
    ∃ simm, Ip12MemoryConfiguration.simm_size bank size.toNat = .ok simm ∧
      (((simm.map Ip12SimmSize.simm_mib).getD 0 : Nat) : Int) = size ∧ (simm.isSome ↔ 0 < size) := by
  have hvalid : size = 0 ∨ size = 2 ∨ size = 4 ∨ size = 8 := by simpa using hsize
  obtain rfl | rfl | rfl | rfl := hvalid
  · exact ⟨none, rfl, rfl, by decide⟩
  · exact ⟨some .Mib2, rfl, rfl, by decide⟩
  · exact ⟨some .Mib4, rfl, rfl, by decide⟩
  · exact ⟨some .Mib8, rfl, rfl, by decide⟩

/-- Three capacities of which one is not zero make a configuration with these capacities. -/
theorem configured_memory_valid {a b c : Int} (ha : a ∈ [0, 2, 4, 8]) (hb : b ∈ [0, 2, 4, 8]) (hc : c ∈ [0, 2, 4, 8])
    (hpopulated : 0 < a ∨ 0 < b ∨ 0 < c) :
    ∃ memory, configured_memory [some a, some b, some c] = some memory ∧
      memory.simm_mib.map Int.ofNat = [a, b, c] := by
  obtain ⟨first, hfirst, hfirst_mib, hfirst_some⟩ := simm_size_valid ha 0
  obtain ⟨second, hsecond, hsecond_mib, hsecond_some⟩ := simm_size_valid hb 1
  obtain ⟨third, hthird, hthird_mib, hthird_some⟩ := simm_size_valid hc 2
  rw [← hfirst_some, ← hsecond_some, ← hthird_some] at hpopulated
  have hany : populated [some a, some b, some c] = true := by
    rw [hfirst_some, hsecond_some, hthird_some] at hpopulated
    simpa [populated] using hpopulated
  refine ⟨⟨first, second, third, hpopulated⟩, ?_, ?_⟩
  · unfold configured_memory
    rw [hany]
    refine (if_pos rfl).trans ?_
    change (Ip12MemoryConfiguration.try_from_simm_mib a.toNat b.toNat c.toNat).toOption = _
    unfold Ip12MemoryConfiguration.try_from_simm_mib
    rw [hfirst, hsecond, hthird]
    change (Ip12MemoryConfiguration.new first second third).toOption = _
    unfold Ip12MemoryConfiguration.new
    rw [dif_pos hpopulated]
    rfl
  · simp only [Ip12MemoryConfiguration.simm_mib, List.map_cons, List.map_nil, Int.ofNat_eq_natCast, hfirst_mib, hsecond_mib,
      hthird_mib]

theorem Valid.analyze_memory (h : Valid draft) :
    ∃ memory, (analyze draft).memory = some memory ∧
      banks.map (fun bank => draft.properties[memory_property bank]?) =
        memory.simm_mib.map fun size => some (.Integer (size : Int)) := by
  obtain ⟨a, ha, hvalue_a⟩ := h.simms 'a' (by decide)
  obtain ⟨b, hb, hvalue_b⟩ := h.simms 'b' (by decide)
  obtain ⟨c, hc, hvalue_c⟩ := h.simms 'c' (by decide)
  have hpopulated : 0 < a ∨ 0 < b ∨ 0 < c := by
    obtain ⟨bank, hbank, size, hsize, hvalue⟩ := h.populated
    simp only [banks, List.mem_cons, List.not_mem_nil, or_false] at hbank
    obtain rfl | rfl | rfl := hbank
    · rw [hvalue_a] at hvalue
      cases hvalue
      exact .inl hsize
    · rw [hvalue_b] at hvalue
      cases hvalue
      exact .inr (.inl hsize)
    · rw [hvalue_c] at hvalue
      cases hvalue
      exact .inr (.inr hsize)
  obtain ⟨memory, hmemory, hsizes⟩ := configured_memory_valid ha hb hc hpopulated
  refine ⟨memory, ?_, ?_⟩
  · change (analyze draft).contents.memory = _
    rw [analyze_contents_eq]
    have hvalid : (banks.map fun bank => valid_size (simm_value draft bank).1) = [some a, some b, some c] := by
      simp only [banks, List.map_cons, List.map_nil, simm_value_valid hvalue_a ha, simm_value_valid hvalue_b hb,
        simm_value_valid hvalue_c hc]
    dsimp only
    rw [hvalid, hmemory]
  · have hinteger : (memory.simm_mib.map fun size : Nat => some (PropertyValue.Integer (size : Int))) =
        (memory.simm_mib.map Int.ofNat).map fun size => some (PropertyValue.Integer size) := by
      rw [List.map_map]
      rfl
    rw [hinteger, hsizes]
    simp only [banks, List.map_cons, List.map_nil, hvalue_a, hvalue_b, hvalue_c]

end se_machine.ip12.definition
