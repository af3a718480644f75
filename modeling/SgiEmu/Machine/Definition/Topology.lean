import SgiEmu.Library.Forest
import SgiEmu.Machine.Definition

open Library.Forest se_config se_core

namespace se_machine.ip12.definition

/-! ## Identities -/

def bank_identities (bank : Char) : List NodeId :=
  memory_bank bank :: (List.range 4).flatMap fun socket => [memory_socket bank socket, memory_module bank socket]

def target_identities (target : Nat) : List NodeId :=
  scsi_target target :: (List.range 8).flatMap fun lun => [scsi_lun target lun, scsi_device target lun]

def controller_identities (controller : Nat) : List NodeId :=
  serial_controller controller ::
    (serial_ports controller).flatMap fun serial =>
      [serial_channel controller serial.channel, port_node serial.port, port_device_node serial.port]

/-- Every node that a draft can show. -/
def identities : List NodeId :=
  [ MODEL] ++ ["cpu.0", "cpu.0.fpu.0"] ++ ("memory" :: banks.flatMap bank_identities) ++
    ["gio.0", "gio.0.slot.0", "gio.0.slot.1", GRAPHICS_SLOT, "gio.0.slot.graphics.device",
      "gio.0.slot.graphics.device.video.0"] ++
    (["scsi.0", scsi_target 0, scsi_host_adapter] ++ targets.flatMap target_identities) ++
    [0, 1].flatMap controller_identities ++ ["parallel.0", "ethernet.0", "ethernet.0.port.0"] ++ ["firmware.0"]

/-- The bytes of a text as one number, in which distinct texts are told apart at once. -/
def text_number (text : String) : Nat := text.toByteArray.data.toList.foldl (fun number byte => number * 256 + byte.toNat) 0

set_option maxRecDepth 20000 in
theorem identities_nodup : identities.Nodup :=
  have hnumbers : (identities.map text_number).Nodup := by decide +kernel
  List.Nodup.of_map text_number hnumbers

/-! ## Parts of the topology -/

/-- What a method appends: nodes with some of the listed identities, parents first below those seen. -/
structure Grows (seen listed : List NodeId) (projection : Projection) : Prop where
  identities : (projection.nodes.map (·.id)).Sublist listed
  parents : ParentsFirst TopologyNode.id TopologyNode.parent seen projection.nodes

namespace Grows

variable {α : Type} {seen later listed next : List NodeId} {first second : Projection}

theorem silent {projection : Projection} (h : projection.nodes = []) : Grows seen listed projection := by
  refine ⟨?_, ?_⟩
  · rw [h]
    exact List.nil_sublist listed
  · rw [h]
    trivial

theorem push {node : TopologyNode} {id : NodeId} (hid : node.id = id)
    (h : ∀ owner, node.parent = some owner → owner ∈ seen) : Grows seen [id] (Projection.push node) := by
  refine ⟨?_, h, trivial⟩
  rw [← hid]
  exact List.Sublist.refl _

theorem mono {projection : Projection} (h : Grows seen listed projection) (hseen : seen ⊆ later) :
    Grows later listed projection :=
  ⟨h.identities, h.parents.mono hseen⟩

/-- The second part hangs below what was seen and what the first part lists. -/
theorem append (hfirst : Grows seen listed first) (hsecond : Grows (first.nodes.map (·.id) ++ seen) next second) :
    Grows seen (listed ++ next) (first ++ second) := by
  refine ⟨?_, hfirst.parents.append hsecond.parents⟩
  change ((first.nodes ++ second.nodes).map (·.id)).Sublist _
  rw [List.map_append]
  exact hfirst.identities.append hsecond.identities

/-- The second part hangs below one node of the first. -/
theorem below {id : NodeId} (hfirst : Grows seen listed first) (hid : id ∈ first.nodes.map (·.id))
    (hsecond : Grows [id] next second) : Grows seen (listed ++ next) (first ++ second) :=
  hfirst.append (hsecond.mono (List.cons_subset.mpr ⟨List.mem_append_left seen hid, List.nil_subset _⟩))

/-- Both parts hang below what was seen before. -/
theorem beside (hfirst : Grows seen listed first) (hsecond : Grows seen next second) :
    Grows seen (listed ++ next) (first ++ second) :=
  hfirst.append (hsecond.mono (List.subset_append_right _ _))

/-- A method may report without showing anything. -/
theorem reports (hfirst : first.nodes = []) (hsecond : Grows seen next second) : Grows seen next (first ++ second) :=
  (silent hfirst : Grows seen [] first).beside hsecond

theorem quiet (hfirst : Grows seen listed first) (hsecond : second.nodes = []) : Grows seen listed (first ++ second) := by
  have hboth := hfirst.beside (silent hsecond : Grows seen [] second)
  rwa [List.append_nil] at hboth

theorem each {body : α → Projection} {identities : α → List NodeId} (h : ∀ item, Grows seen (identities item) (body item))
    (items : List α) : Grows seen (items.flatMap identities) (Projection.each body items) := by
  induction items with
  | nil => exact silent rfl
  | cons item items ih =>
    rw [List.flatMap_cons]
    exact (h item).beside ih

end Grows

theorem required_value_nodes (draft : MachineDraft) (property : PropertyId) (default : PropertyValue) :
    (required_value draft property default).2.nodes = [] := by
  unfold required_value
  split <;> rfl

theorem invalid_size_nodes (bank : Char) (value : PropertyValue) : (invalid_size bank value).nodes = [] := by
  unfold invalid_size
  split
  · split <;> rfl
  · rfl

theorem slot_node_grows {seen : List NodeId} {parent : NodeId} (hparent : parent ∈ seen) (draft : MachineDraft)
    (slot : NodeId) (role : NodeRole) (label : String) (choices : List DeviceChoice) :
    Grows seen [slot] (slot_node draft slot parent role label choices) := by
  refine Grows.reports rfl (Grows.push rfl ?_)
  intro owner howner
  cases howner
  exact hparent

theorem node_grows {seen : List NodeId} {parent : NodeId} (hparent : parent ∈ seen) (id : NodeId) (role : NodeRole)
    (label : String) : Grows seen [id] (Projection.push (node id (some parent) role label)) := by
  refine Grows.push rfl ?_
  intro owner howner
  cases howner
  exact hparent

theorem root_grows (draft : MachineDraft) : Grows [] [ MODEL] (root draft) := by
  unfold root
  refine Grows.quiet (Grows.push rfl ?_) ?_
  · intro owner howner
    cases howner
  · split <;> rfl

theorem cpu_grows (draft : MachineDraft) : Grows [ MODEL] ["cpu.0", "cpu.0.fpu.0"] (cpu draft) := by
  have hcpu := node_grows (List.mem_singleton_self MODEL) "cpu.0" .Component "CPU 0 — MIPS R3000A @ 33 MHz"
  have hrequired := hcpu.quiet (required_value_nodes draft FPU_BACKEND (.Text "softfloat"))
  unfold cpu
  refine (hrequired.quiet ?_).append (Grows.push rfl ?_)
  · split
    · split
      · rfl
      · split <;> rfl
    · rfl
  · intro owner howner
    cases howner
    exact List.mem_cons_self

theorem socket_grows (bank : Char) (size : Option Int) (index : Nat) :
    Grows [memory_bank bank] [memory_socket bank index, memory_module bank index] (socket bank size index) := by
  unfold socket
  refine (node_grows (List.mem_singleton_self _) _ _ _).append ?_
  split
  · exact node_grows List.mem_cons_self _ _ _
  · exact Grows.silent rfl

theorem bank_grows (draft : MachineDraft) (index : Char) : Grows ["memory"] (bank_identities index) (bank draft index) := by
  have hbank : ∀ properties, Grows ["memory"] [memory_bank index]
      (Projection.push { node (memory_bank index) (some "memory") .Component s!"Bank {index.toUpper}" with properties }) := by
    intro properties
    refine Grows.push rfl ?_
    intro owner howner
    cases howner
    exact List.mem_singleton_self "memory"
  have hsilent : ((simm_value draft index).2 ++ invalid_size index (simm_value draft index).1).nodes = [] := by
    change (simm_value draft index).2.nodes ++ (invalid_size index _).nodes = []
    rw [invalid_size_nodes, List.append_nil]
    exact required_value_nodes _ _ _
  unfold bank
  refine (Grows.reports hsilent (hbank _)).below ?_ (Grows.each (socket_grows index _) _)
  exact List.mem_map.mpr ⟨_, List.mem_append_right _ (List.mem_singleton_self _), rfl⟩

theorem memory_grows (draft : MachineDraft) : Grows [ MODEL] ("memory" :: banks.flatMap bank_identities) (memory draft) := by
  have hmemory := node_grows (List.mem_singleton_self MODEL) "memory" .Component "Memory"
  unfold memory
  refine Grows.quiet (Grows.quiet (hmemory.below (List.mem_singleton_self _) (Grows.each (bank_grows draft) banks)) ?_) rfl
  split <;> rfl

theorem gio_grows (draft : MachineDraft) :
    Grows [ MODEL]
      ["gio.0", "gio.0.slot.0", "gio.0.slot.1", GRAPHICS_SLOT, "gio.0.slot.graphics.device",
        "gio.0.slot.graphics.device.video.0"] (gio draft) := by
  have hgio := node_grows (List.mem_singleton_self MODEL) "gio.0" .Component "GIO"
  have hslots : Grows [ MODEL] ["gio.0", "gio.0.slot.0", "gio.0.slot.1", GRAPHICS_SLOT]
      (Projection.push (node "gio.0" (some MODEL) .Component "GIO") ++
        Projection.push (node "gio.0.slot.0" (some "gio.0") .Slot "Slot 0") ++
        Projection.push (node "gio.0.slot.1" (some "gio.0") .Slot "Slot 1") ++
        slot_node draft GRAPHICS_SLOT "gio.0" .Slot "Graphics Slot" [⟨LG1, "LG1 Entry Graphics"⟩]) :=
    ((hgio.append (node_grows List.mem_cons_self _ _ _)).append (node_grows List.mem_cons_self _ _ _)).append
      (slot_node_grows List.mem_cons_self _ _ _ _ _)
  have hdevice : ∀ label, Grows [GRAPHICS_SLOT] ["gio.0.slot.graphics.device"]
      (Projection.push (node "gio.0.slot.graphics.device" (some GRAPHICS_SLOT) .Device label)) :=
    node_grows (List.mem_singleton_self GRAPHICS_SLOT) _ _
  unfold gio
  refine @Grows.below _ _ _ _ _ GRAPHICS_SLOT hslots ?_ ?_
  · exact List.mem_cons_of_mem _ (List.mem_cons_of_mem _ (List.mem_cons_of_mem _ List.mem_cons_self))
  · split
    · exact Grows.silent rfl
    · case _ device hdevice_kind =>
      have hreported : Grows [GRAPHICS_SLOT] ["gio.0.slot.graphics.device"]
          ((if device = LG1 then {} else unsupported_attachment GRAPHICS_SLOT) ++
            Projection.push
              (node "gio.0.slot.graphics.device" (some GRAPHICS_SLOT) .Device
                (if device = LG1 then "LG1 Entry Graphics" else unsupported_label device))) := by
        refine Grows.reports ?_ (hdevice _)
        split <;> rfl
      refine @Grows.below _ _ _ _ _ "gio.0.slot.graphics.device" hreported ?_ ?_
      · exact List.mem_map.mpr ⟨_, List.mem_append_right _ (List.mem_singleton_self _), rfl⟩
      · split
        · exact Grows.reports rfl (node_grows (List.mem_singleton_self _) _ _ _)
        · exact Grows.silent rfl

theorem scsi_attachment_nodes (draft : MachineDraft) (target lun : Nat) (device : ScsiDevice) :
    (scsi_attachment draft target lun device).nodes = [] := by
  unfold scsi_attachment
  dsimp only
  split
  · split
    · rfl
    · split <;> rfl
  · rfl

theorem scsi_logical_unit_grows (draft : MachineDraft) (target lun : Nat) :
    Grows [scsi_target target] [scsi_lun target lun, scsi_device target lun] (scsi_logical_unit draft target lun) := by
  have hslot : Grows [scsi_target target] [scsi_lun target lun]
      ({ known_properties := [scsi_medium target lun] } ++
        slot_node draft (scsi_lun target lun) (scsi_target target) .Slot s!"LUN {lun}"
          [⟨SCSI_DISK, "SCSI Disk"⟩, ⟨SCSI_CDROM, "SCSI CD-ROM"⟩]) :=
    Grows.reports rfl (slot_node_grows (List.mem_singleton_self _) _ _ _ _ _)
  have hdevice : ∀ label properties, Grows [scsi_lun target lun] [scsi_device target lun]
      (Projection.push { node (scsi_device target lun) (some (scsi_lun target lun)) .Device label with properties }) := by
    intro label properties
    refine Grows.push rfl ?_
    intro owner howner
    cases howner
    exact List.mem_singleton_self _
  unfold scsi_logical_unit
  refine @Grows.below _ _ _ _ _ (scsi_lun target lun) hslot List.mem_cons_self ?_
  split
  · exact Grows.silent rfl
  · split
    · exact Grows.reports rfl (hdevice _ _)
    · exact Grows.reports (scsi_attachment_nodes draft target lun _) (hdevice _ _)

theorem scsi_grows (draft : MachineDraft) :
    Grows [ MODEL] (["scsi.0", scsi_target 0, scsi_host_adapter] ++ targets.flatMap target_identities) (scsi draft) := by
  have htarget : ∀ target, Grows ["scsi.0"] (target_identities target) (scsi_target_node draft target) := by
    intro target
    have hnode := node_grows (List.mem_singleton_self "scsi.0") (scsi_target target) .Component s!"Target {target}"
    unfold scsi_target_node
    exact hnode.below (List.mem_singleton_self _) (Grows.each (scsi_logical_unit_grows draft target) _)
  have hcontroller := node_grows (List.mem_singleton_self MODEL) "scsi.0" .Component "SCSI Controller 0"
  have hadapter := (hcontroller.append (node_grows List.mem_cons_self (scsi_target 0) .Component "Target 0")).append
    (node_grows (List.mem_cons_of_mem _ List.mem_cons_self) scsi_host_adapter .Device "Host Adapter")
  unfold scsi
  exact @Grows.below _ _ _ _ _ "scsi.0" hadapter List.mem_cons_self (Grows.each htarget targets)

theorem serial_port_grows (draft : MachineDraft) (controller : Nat) (serial : SerialPort) :
    Grows [serial_controller controller]
      [serial_channel controller serial.channel, port_node serial.port, port_device_node serial.port]
      (serial_port draft controller serial) := by
  have hchannel := node_grows (List.mem_singleton_self (serial_controller controller))
    (serial_channel controller serial.channel) .Component s!"Channel {serial.channel.toUpper}"
  have hport := hchannel.append (slot_node_grows List.mem_cons_self draft (port_node serial.port) .Endpoint
    serial.port_label [⟨serial.device_kind, serial.device_label⟩])
  unfold serial_port
  refine @Grows.below _ _ _ _ _ (port_node serial.port) hport (List.mem_cons_of_mem _ List.mem_cons_self) ?_
  split
  · exact Grows.silent rfl
  · refine Grows.quiet (Grows.reports ?_ (node_grows (List.mem_singleton_self _) _ _ _)) ?_
    · split <;> rfl
    · split <;> rfl

theorem serial_grows (draft : MachineDraft) : Grows [ MODEL] ([0, 1].flatMap controller_identities) (serial draft) := by
  refine Grows.each ?_ [0, 1]
  intro controller
  have hnode := node_grows (List.mem_singleton_self MODEL) (serial_controller controller) .Component
    s!"Serial Controller {controller}"
  exact hnode.below (List.mem_singleton_self _) (Grows.each (serial_port_grows draft controller) _)

theorem parallel_and_ethernet_grows :
    Grows [ MODEL] ["parallel.0", "ethernet.0", "ethernet.0.port.0"] parallel_and_ethernet :=
  ((node_grows (List.mem_singleton_self _) _ _ _).beside (node_grows (List.mem_singleton_self _) _ _ _)).append
    (node_grows (List.mem_cons_of_mem _ List.mem_cons_self) _ _ _)

theorem firmware_grows (draft : MachineDraft) : Grows [ MODEL] ["firmware.0"] (firmware draft) := by
  unfold firmware
  refine Grows.reports ?_ (Grows.push rfl ?_)
  · change [] ++ Projection.nodes _ = []
    rw [List.nil_append]
    split
    · split <;> rfl
    · rfl
  · intro owner howner
    cases howner
    exact List.mem_singleton_self _

theorem each_nodes_nil {α : Type} {body : α → Projection} (h : ∀ item, (body item).nodes = []) (items : List α) :
    (Projection.each body items).nodes = [] := by
  induction items with
  | nil => rfl
  | cons item items ih =>
    change (body item).nodes ++ (Projection.each body items).nodes = []
    rw [h item, ih]
    rfl

theorem unknown_keys_nodes (draft : MachineDraft) (projection : Projection) : (unknown_keys draft projection).nodes = [] := by
  refine List.append_eq_nil_iff.mpr ⟨each_nodes_nil ?_ _, each_nodes_nil ?_ _⟩
  · intro property
    split <;> rfl
  · intro slot
    split <;> rfl

theorem analyze_grows (draft : MachineDraft) : Grows [] identities (analyze draft) := by
  refine Grows.quiet ?_ (unknown_keys_nodes draft _)
  exact ((((((((root_grows draft).below List.mem_cons_self (cpu_grows draft)).below List.mem_cons_self
    (memory_grows draft)).below List.mem_cons_self (gio_grows draft)).below List.mem_cons_self
    (scsi_grows draft)).below List.mem_cons_self (serial_grows draft)).below List.mem_cons_self
    parallel_and_ethernet_grows).below List.mem_cons_self (firmware_grows draft))

/-! ## The resolved view -/

theorem resolve_unique (draft : MachineDraft) : ((resolve draft).nodes.map (·.id)).Nodup :=
  identities_nodup.sublist (analyze_grows draft).identities

theorem resolve_parents_first (draft : MachineDraft) {before after : List TopologyNode} {node : TopologyNode}
    (hnodes : (resolve draft).nodes = before ++ node :: after) {owner : NodeId} (howner : node.parent = some owner) :
    owner ∈ before.map (·.id) := by
  obtain hearlier | hseen := (analyze_grows draft).parents.earlier hnodes howner
  · exact hearlier
  · cases hseen

end se_machine.ip12.definition
