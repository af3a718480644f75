import SgiEmu.Device.Scsi.Decoding
import SgiEmu.Device.Wd33c93b.Service

open se_core se_device.scsi

namespace se_device.wd33c93b

namespace Wd33c93b

variable {τ μ : Type} [ScsiTarget τ] [StorageMedium μ] {wd : Wd33c93b} {bus : ScsiBus τ μ}

/-! ## Sending a descriptor -/

theorem cdb_byte_append (cdb : List U8) (value : U8) (bytes : List U8) :
    cdb_byte (cdb ++ value :: bytes) 0 = cdb_byte (cdb ++ [value]) 0 := by
  cases cdb with
  | nil => rfl
  | cons opcode rest => rfl

/-- A byte that leaves a descriptor incomplete is only kept. -/
theorem write_command_byte {connection : ScsiConnection} (hconnection : bus.connection = some connection)
    (hphase : connection.phase = .Command) (value : U8)
    (hshort : (connection.cdb ++ [value]).length < scsi.cdb_length (cdb_byte (connection.cdb ++ [value]) 0)) :
    bus.write_information value false = (.ok true, bus.set_connection { connection with cdb := connection.cdb ++ [value] }) := by
  have hbound := ScsiBus.cdb_length_le (cdb_byte (connection.cdb ++ [value]) 0)
  have hroom : connection.cdb.length ≠ 16 := by
    rw [List.length_append] at hshort
    simp only [List.length_singleton] at hshort
    omega
  simp only [ScsiBus.write_information, hconnection, hphase]
  rw [if_neg hroom, if_neg (Nat.ne_of_lt hshort)]

/-- The byte that completes a descriptor starts its command. -/
theorem write_last_command_byte {connection : ScsiConnection} (hconnection : bus.connection = some connection)
    (hphase : connection.phase = .Command) (value : U8)
    (hwhole : (connection.cdb ++ [value]).length = scsi.cdb_length (cdb_byte (connection.cdb ++ [value]) 0))
    (hok : (bus.execute_connected_command { connection with cdb := connection.cdb ++ [value] }).1 = .ok ()) :
    bus.write_information value false =
      (.ok true, (bus.execute_connected_command { connection with cdb := connection.cdb ++ [value] }).2) := by
  have hbound := ScsiBus.cdb_length_le (cdb_byte (connection.cdb ++ [value]) 0)
  have hroom : connection.cdb.length ≠ 16 := by
    rw [List.length_append] at hwhole
    simp only [List.length_singleton] at hwhole
    omega
  simp only [ScsiBus.write_information, hconnection, hphase]
  rw [if_neg hroom, if_pos hwhole]
  rw [hphase] at hok
  generalize bus.execute_connected_command _ = result at hok ⊢
  obtain ⟨outcome, next⟩ := result
  obtain rfl := hok
  rfl

/-- A descriptor shorter than the target expects stays in the connection. -/
theorem write_all_short (bytes : List U8) {connection : ScsiConnection} (hconnection : bus.connection = some connection)
    (hphase : connection.phase = .Command)
    (hshort : (connection.cdb ++ bytes).length < scsi.cdb_length (cdb_byte (connection.cdb ++ bytes) 0)) :
    write_all bus bytes = .ok (bus.set_connection { connection with cdb := connection.cdb ++ bytes }) := by
  induction bytes generalizing bus connection with
  | nil =>
    have hsame : bus.set_connection connection = bus := by
      cases bus
      simp only [ScsiBus.set_connection] at hconnection ⊢
      rw [hconnection]
    simp only [write_all, List.append_nil, hsame]
  | cons value bytes ih =>
    have hfirst : (connection.cdb ++ [value]).length < scsi.cdb_length (cdb_byte (connection.cdb ++ [value]) 0) := by
      rw [cdb_byte_append] at hshort
      simp only [List.length_append, List.length_cons, List.length_nil] at hshort ⊢
      omega
    have hrest := @ih (bus.set_connection { connection with cdb := connection.cdb ++ [value] })
      { connection with cdb := connection.cdb ++ [value] } rfl hphase (by simpa using hshort)
    simp only [write_all, write_command_byte hconnection hphase value hfirst, hrest]
    simp [ScsiBus.set_connection]

/-- A descriptor of the length the target expects starts its command. -/
theorem write_all_whole (bytes : List U8) {connection : ScsiConnection} (hconnection : bus.connection = some connection)
    (hphase : connection.phase = .Command) (hbytes : bytes ≠ [])
    (hwhole : (connection.cdb ++ bytes).length = scsi.cdb_length (cdb_byte (connection.cdb ++ bytes) 0))
    (hok : (bus.execute_connected_command { connection with cdb := connection.cdb ++ bytes }).1 = .ok ()) :
    write_all bus bytes = .ok (bus.execute_connected_command { connection with cdb := connection.cdb ++ bytes }).2 := by
  induction bytes generalizing bus connection with
  | nil => exact absurd rfl hbytes
  | cons value bytes ih =>
    by_cases hlast : bytes = []
    · subst hlast
      simp only [write_all, write_last_command_byte hconnection hphase value hwhole hok]
    · have hfirst : (connection.cdb ++ [value]).length < scsi.cdb_length (cdb_byte (connection.cdb ++ [value]) 0) := by
        have hpositive := List.length_pos_iff.mpr hlast
        rw [cdb_byte_append] at hwhole
        simp only [List.length_append, List.length_cons, List.length_nil] at hwhole ⊢
        omega
      have hrest := @ih (bus.set_connection { connection with cdb := connection.cdb ++ [value] })
        { connection with cdb := connection.cdb ++ [value] } rfl hphase hlast (by simpa using hwhole)
      simp only [List.append_assoc, List.cons_append, List.nil_append] at hrest
      simp only [write_all, write_command_byte hconnection hphase value hfirst]
      exact hrest hok

/-! ## Moving on after the descriptor -/

/-- The bus is past the command phase: in a data phase or in Status, or free with the
command completed. -/
def PastCommand (wd : Wd33c93b) (bus : ScsiBus τ μ) : Prop :=
  bus.Commanded ∨ (bus.phase = none ∧ wd.scsi_status = SELECT_AND_TRANSFER_COMPLETION_STATUS)

omit [ScsiTarget τ] [StorageMedium μ] in
theorem observe_transfer_result_phase {phase : ScsiPhase} (h : bus.phase = some phase) (result : ScsiTransferResult) :
    (bus.observe_transfer_result result).phase = some phase ∨ (bus.observe_transfer_result result).phase = some .Status := by
  obtain ⟨connection, hconnection, _⟩ := ScsiBus.connected_of_phase h
  cases result with
  | Rejected => exact Or.inl h
  | More transferred remaining => exact Or.inl h
  | Complete transferred status => exact Or.inr (ScsiBus.set_status_commanded hconnection status)

/-- A payload byte leaves the bus in Data In, or in Status after the last one. -/
theorem read_data_in_phase {value : Option U8} {next : ScsiBus τ μ} (hphase : bus.phase = some .DataIn)
    (hread : bus.read_information = (.ok value, next)) : next.phase = some .DataIn ∨ next.phase = some .Status := by
  obtain ⟨connection, hconnection, hin⟩ := ScsiBus.connected_of_phase hphase
  simp only [ScsiBus.read_information, hconnection, hin] at hread
  obtain ⟨result, hresult, slot, transfer, _, _, hsame, _⟩ | ⟨error, herror, _⟩ :=
    @ScsiBus.transfer_data_in_spec _ _ (Option U8) bus _ _ 1 (fun bytes _ => (true, bytes[0]?)) none
  all_goals
    generalize bus.transfer_data_in 1 (fun bytes (_ : Option U8) => (true, bytes[0]?)) none = transferred at *
    obtain ⟨outcome, moved, state⟩ := transferred
  · obtain rfl := hresult
    obtain ⟨_, rfl⟩ := Prod.mk.inj hread
    have hmoved : moved.phase = some .DataIn := by
      have hkept : moved.connection = bus.connection := hsame.connection
      rw [ScsiBus.phase, hkept]
      exact hphase
    exact observe_transfer_result_phase hmoved result
  · obtain rfl := herror
    simp at hread

/-- Moving on a combined command calls no decoder and does not go back to the command
phase. -/
theorem pump_past (attempts : Nat) (hcombined : wd.combined = true) (hphase : bus.Commanded) {work : WdWork}
    {wd' : Wd33c93b} {bus' : ScsiBus τ μ} (hpump : wd.pump attempts bus = .ok (work, wd', bus')) :
    ScsiBus.Completes bus bus' ∧ wd'.PastCommand bus' := by
  induction attempts generalizing wd bus with
  | zero =>
    obtain ⟨_, rfl, rfl⟩ : _ ∧ wd = wd' ∧ bus = bus' := by simpa [pump] using hpump
    exact ⟨.refl bus, Or.inl hphase⟩
  | succ attempts ih =>
    have hstays {moved : WdWork} {after : Wd33c93b}
        (heq : (.ok (moved, after, bus) : Except WdFault (WdWork × Wd33c93b × ScsiBus τ μ)) = .ok (work, wd', bus')) :
        ScsiBus.Completes bus bus' ∧ wd'.PastCommand bus' := by
      obtain ⟨_, _, rfl⟩ : _ ∧ _ ∧ bus = bus' := by simpa using heq
      exact ⟨.refl bus, Or.inl hphase⟩
    unfold pump at hpump
    split at hpump
    · exact hstays hpump
    · split at hpump
      case isTrue hstatus =>
        obtain ⟨connection, _, hfinished⟩ := @finish_combined_eq _ _ _ _ wd _ hstatus.2.1
        rw [hfinished] at hpump
        obtain ⟨_, rfl, rfl⟩ : _ ∧ _ = wd' ∧ _ = bus' := by simpa using hpump
        exact ⟨.of_targets rfl, Or.inr ⟨rfl, rfl⟩⟩
      case isFalse hopen =>
        split at hpump
        · exact hstays hpump
        case h_2 phase hpio =>
          split at hpump
          · exact hstays hpump
          case isFalse hempty =>
            split at hpump
            · exact hstays hpump
            case isFalse hends =>
              split at hpump
              · exact hstays hpump
              · split at hpump
                case isTrue hinput =>
                  -- the only input phase left is Data In, as Status ends a combined command
                  have hin : bus.phase = some .DataIn := by
                    obtain ⟨_, hsame⟩ : wd.pio_remaining ≠ 0 ∧ bus.phase = some phase := by simpa using hends
                    obtain hin | hout | hstatus := hphase
                    · exact hin
                    · rw [hout] at hsame
                      obtain rfl := Option.some.inj hsame
                      simp [ScsiPhase.input, ScsiPhase.bits] at hinput
                    · have hnone : wd.input_byte.isNone = true := by simpa using hempty
                      exact absurd ⟨hcombined, hstatus, hnone⟩ hopen
                  have hread := @ScsiBus.read_information_completes _ _ bus _ _
                  split at hpump
                  · simp at hpump
                  case h_2 next hvalue =>
                    rw [hvalue] at hread
                    have hnext : next.Commanded := by
                      rcases read_data_in_phase hin hvalue with hstill | hended
                      · exact Or.inl hstill
                      · exact Or.inr (Or.inr hended)
                    have hpast := @ih { wd with input_byte := none } next hcombined hnext hpump
                    exact ⟨hread.trans hpast.1, hpast.2⟩
                  case h_3 value next hvalue =>
                    rw [hvalue] at hread
                    have hnext : next.Commanded := by
                      rcases read_data_in_phase hin hvalue with hstill | hended
                      · exact Or.inl hstill
                      · exact Or.inr (Or.inr hended)
                    split at hpump
                    · simp at hpump
                    · obtain ⟨_, rfl, rfl⟩ : _ ∧ _ = wd' ∧ _ = bus' := by simpa using hpump
                      exact ⟨hread, Or.inl hnext⟩
                case isFalse => exact hstays hpump

end Wd33c93b

/-! ## Servicing a combined command -/

namespace SelectAndTransferRequest

/-- The logical unit a combined command addresses: with ATN that of its identify
message, without it that of the descriptor, where its group has one. -/
def addressed_lun (request : SelectAndTransferRequest) (attention : Bool) : Nat :=
  if attention then (request.lun &&& 7).toNat
  else if request.cdb.get 0 >>> 5 == 0 then (request.cdb.get 1 >>> 5).toNat
  else 0

def addressed_slot (request : SelectAndTransferRequest) (attention : Bool) : Nat :=
  request.destination_id * LUN_COUNT + request.addressed_lun attention

theorem addressed_lun_lt (request : SelectAndTransferRequest) (attention : Bool) :
    request.addressed_lun attention < LUN_COUNT := by
  unfold addressed_lun
  split
  · have hmask : (request.lun &&& 7).toNat ≤ 7 := by
      rw [BitVec.toNat_and]
      exact Nat.and_le_right
    exact Nat.lt_succ_of_le hmask
  · split
    · have hbyte := (request.cdb.get 1).isLt
      rw [BitVec.toNat_ushiftRight, Nat.shiftRight_eq_div_pow]
      simp only [LUN_COUNT]
      omega
    · decide

end SelectAndTransferRequest

/-- Outside group 4, for which the descriptor registers have no room, controller and
bus agree on the length of a descriptor. -/
theorem cdb_length_eq_bus {opcode : U8} (h : opcode >>> 5 ≠ 4) : cdb_length opcode = scsi.cdb_length opcode := by
  have hgroup : (opcode >>> 5).toNat ≠ 4 := fun heq => h (BitVec.eq_of_toNat_eq heq)
  unfold cdb_length scsi.cdb_length
  split
  · rfl
  · generalize (opcode >>> 5).toNat = group at hgroup
    split
    case h_5 hsix hten hextended htwelve =>
      split
      case h_4 => exact absurd rfl hgroup
      all_goals first | rfl | contradiction
    all_goals rfl

theorem cdb_length_group_4 {opcode : U8} (h : opcode >>> 5 = 4) : cdb_length opcode = 6 ∧ scsi.cdb_length opcode = 16 := by
  have hvendor : ¬(opcode = 0xc4 ∨ opcode = 0xc9) := by
    rintro (rfl | rfl)
    · exact absurd h (by decide)
    · exact absurd h (by decide)
  constructor
  · rw [cdb_length, if_neg hvendor, h]
    rfl
  · rw [scsi.cdb_length, if_neg hvendor, h]
    rfl

namespace Wd33c93b

variable {τ μ : Type} [ScsiTarget τ] [StorageMedium μ] {wd : Wd33c93b} {bus : ScsiBus τ μ}

/-- The connection in which a combined command sends its descriptor. -/
def addressed_connection (wd : Wd33c93b) (request : SelectAndTransferRequest) : ScsiConnection :=
  if wd.attention then
    { ScsiBus.opened_connection request.destination_id false with lun := (request.lun &&& 7).toNat, identified := true }
  else ScsiBus.opened_connection request.destination_id false

/-- With or without the identify message, the selected target gets the descriptor. -/
theorem service_combined_selected (hfree : bus.Free) (request : SelectAndTransferRequest)
    (hpresent : bus.target_present request.destination_id = true) {started : ScsiBus τ μ}
    (hsent : write_all (bus.set_connection (wd.addressed_connection request)) request.bytes = .ok started) :
    ∃ selected : Wd33c93b, selected.combined = wd.combined ∧
      wd.service_combined bus request = (selected.begin_payload started).pump PUMP_ATTEMPTS started := by
  have hnone : bus.phase.isNone = true := by simp [ScsiBus.phase, hfree.1]
  have hselect := hfree.select hpresent wd.attention
  cases hattention : wd.attention with
  | false =>
    simp only [addressed_connection, hattention, Bool.false_eq_true, if_false] at hselect hsent
    refine ⟨{ wd with command_phase := 0x10 }, rfl, ?_⟩
    simp only [service_combined, hnone, if_true, hattention, hselect, Bool.false_eq_true, if_false, hsent]
  | true =>
    simp only [addressed_connection, hattention, if_true] at hselect hsent
    refine ⟨{ wd with command_phase := 0x20, attention := false }, rfl, ?_⟩
    simp only [service_combined, hnone, if_true, hattention, hselect, ScsiBus.identify_opened, hsent]

theorem addressed_connection_lun (request : SelectAndTransferRequest) :
    (ScsiBus.commanded_connection { wd.addressed_connection request with cdb := request.bytes }).lun =
      request.addressed_lun wd.attention := by
  obtain ⟨hopcode, hunit⟩ := request_bytes_get request
  unfold addressed_connection ScsiBus.commanded_connection SelectAndTransferRequest.addressed_lun
  cases wd.attention with
  | false =>
    simp only [Bool.false_eq_true, if_false, ScsiBus.opened_connection, Bool.not_false, Bool.true_and, hopcode, hunit]
    split
    · rfl
    · rfl
  | true => rfl

/-- Outside group 4 a descriptor goes out with the length the target expects. -/
theorem request_bytes_length {request : SelectAndTransferRequest} (hgroup : request.cdb.get 0 >>> 5 ≠ 4) :
    request.bytes.length = scsi.cdb_length (cdb_byte request.bytes 0) := by
  rw [(request_bytes_get request).1, ← cdb_length_eq_bus hgroup, SelectAndTransferRequest.bytes, List.length_take]
  have hlength : cdb_length (request.cdb.get 0) ≤ 12 := by
    unfold cdb_length
    split
    · decide
    · split
      all_goals decide
  simp only [Vector.length_toList]
  exact Nat.min_eq_left hlength

omit [ScsiTarget τ] [StorageMedium μ] in
theorem addressed_connection_fields (request : SelectAndTransferRequest) :
    (wd.addressed_connection request).phase = .Command ∧ (wd.addressed_connection request).cdb = [] ∧
      (wd.addressed_connection request).target_id = request.destination_id := by
  unfold addressed_connection
  split
  · exact ⟨rfl, rfl, rfl⟩
  · exact ⟨rfl, rfl, rfl⟩

/-- The descriptor of a request, sent to the selected target, starts its command. -/
theorem write_request_bytes {request : SelectAndTransferRequest} (hgroup : request.cdb.get 0 >>> 5 ≠ 4)
    (hok : ((bus.set_connection (wd.addressed_connection request)).execute_connected_command
      { wd.addressed_connection request with cdb := request.bytes }).1 = .ok ()) :
    write_all (bus.set_connection (wd.addressed_connection request)) request.bytes =
      .ok ((bus.set_connection (wd.addressed_connection request)).execute_connected_command
        { wd.addressed_connection request with cdb := request.bytes }).2 := by
  obtain ⟨hphase, hcdb, _⟩ := @addressed_connection_fields wd request
  have hlength := request_bytes_length hgroup
  have hbytes : request.bytes ≠ [] := by
    intro hnil
    have hsix := ScsiBus.cdb_length_pos (cdb_byte request.bytes 0)
    rw [← hlength, hnil] at hsix
    simp at hsix
  have hwritten := @write_all_whole _ _ _ _ (bus.set_connection (wd.addressed_connection request)) request.bytes
    (wd.addressed_connection request) rfl hphase hbytes
  rw [hcdb, List.nil_append] at hwritten
  exact hwritten hlength hok

/-- Servicing a combined command, the addressed target decodes the descriptor of the
request, and nobody decodes where that target is missing. -/
theorem service_combined_decodes (hfree : bus.Free) (request : SelectAndTransferRequest)
    (hpresent : bus.target_present request.destination_id = true) (hgroup : request.cdb.get 0 >>> 5 ≠ 4)
    (hcombined : wd.combined = true) :
    ∃ work wd' bus', wd.service_combined bus request = .ok (work, wd', bus') ∧ wd'.PastCommand bus' ∧
      (∀ held, bus.attachment (request.addressed_slot wd.attention) = some held →
        ScsiBus.Decodes (request.addressed_slot wd.attention) request.bytes bus bus') ∧
      (bus.attachment (request.addressed_slot wd.attention) = none → ScsiBus.Completes bus bus') := by
  let whole : ScsiConnection := { wd.addressed_connection request with cdb := request.bytes }
  have htarget : whole.target_id = request.destination_id := (addressed_connection_fields request).2.2
  have hslot : target_slot whole.target_id (ScsiBus.commanded_connection whole).lun =
      some (request.addressed_slot wd.attention) := by
    rw [addressed_connection_lun request, htarget]
    exact ScsiBus.target_slot_eq_some (ScsiBus.target_id_lt_of_present hpresent) (request.addressed_lun_lt wd.attention)
  have hidle : (bus.set_connection (wd.addressed_connection request)).active_transaction = none := hfree.2
  obtain ⟨hok, _, hcommanded⟩ := ScsiBus.execute_connected_command_started hidle hslot
  have hsent := write_request_bytes hgroup hok
  obtain ⟨selected, hselected, hserviced⟩ := service_combined_selected hfree request hpresent hsent
  obtain ⟨work, wd', bus', hresult, _⟩ := @service_combined_serviced _ _ _ _ wd bus hfree.consistent request
    (Or.inl (by simp [ScsiBus.phase, hfree.1]))
  rw [hserviced] at hresult
  obtain ⟨hcompletes, hpast⟩ :=
    @pump_past _ _ _ _ (selected.begin_payload _) _ PUMP_ATTEMPTS (hselected.trans hcombined) hcommanded _ _ _ hresult
  refine ⟨work, wd', bus', hserviced.trans hresult, hpast, fun held hheld => ?_, fun hnone => ?_⟩
  · have hattached : (bus.set_connection (wd.addressed_connection request)).attachment
        (request.addressed_slot wd.attention) = some held := hheld
    have hdecodes : ScsiBus.Decodes (request.addressed_slot wd.attention) request.bytes bus _ :=
      (ScsiBus.execute_connected_command_decodes hidle hslot hattached).of_targets rfl
    exact hdecodes.trans hcompletes
  · have hmissing : (bus.set_connection (wd.addressed_connection request)).attachment
        (request.addressed_slot wd.attention) = none := hnone
    have hselection : ScsiBus.Completes bus (bus.set_connection (wd.addressed_connection request)) := .of_targets rfl
    have hcommand := ScsiBus.execute_connected_command_missing hidle hslot hmissing
    exact (hselection.trans hcommand).trans hcompletes

/-- In the command phase the controller offers the host to send a byte, or reports the
phase; the bus stays. -/
theorem pump_command (attempts : Nat) (hphase : bus.phase = some .Command) (hpio : wd.pio_phase = some .Command) :
    ∃ work wd', wd.pump attempts bus = .ok (work, wd', bus) := by
  cases attempts with
  | zero => exact ⟨_, _, rfl⟩
  | succ attempts =>
    unfold pump
    split
    · exact ⟨_, _, rfl⟩
    · rw [if_neg (by simp [hphase])]
      simp only [hpio]
      split
      · exact ⟨_, _, rfl⟩
      · split
        · exact ⟨_, _, rfl⟩
        · rw [if_neg (by simp), if_neg (by decide)]
          exact ⟨_, _, rfl⟩

/-- A descriptor of group 4 is cut to six bytes, and the target waits for the other ten. -/
theorem service_combined_group_4 (hfree : bus.Free) (request : SelectAndTransferRequest)
    (hpresent : bus.target_present request.destination_id = true) (hgroup : request.cdb.get 0 >>> 5 = 4) :
    ∃ work wd', wd.service_combined bus request =
      .ok (work, wd', bus.set_connection { wd.addressed_connection request with cdb := request.bytes }) := by
  obtain ⟨hphase, hcdb, _⟩ := @addressed_connection_fields wd request
  have hsent := @write_all_short _ _ _ _ (bus.set_connection (wd.addressed_connection request)) request.bytes
    (wd.addressed_connection request) rfl hphase
  have hshort : request.bytes.length < scsi.cdb_length (cdb_byte request.bytes 0) := by
    obtain ⟨hsix, hsixteen⟩ := cdb_length_group_4 hgroup
    have hlength : request.bytes.length ≤ 6 := hsix ▸ List.length_take_le _ _
    rw [(request_bytes_get request).1, hsixteen]
    omega
  rw [hcdb, List.nil_append] at hsent
  obtain ⟨selected, _, hserviced⟩ := service_combined_selected hfree request hpresent (hsent hshort)
  let waiting : ScsiBus τ μ := bus.set_connection { wd.addressed_connection request with cdb := request.bytes }
  have hwaits : waiting.phase = some .Command := congrArg some hphase
  obtain ⟨work, wd', hpumped⟩ := @pump_command _ _ _ _ (selected.begin_payload waiting) waiting PUMP_ATTEMPTS hwaits hwaits
  exact ⟨work, wd', hserviced.trans hpumped⟩

/-! ## Select-And-Transfer -/

/-- The request a Select-And-Transfer latches. -/
def latched_request (wd : Wd33c93b) : SelectAndTransferRequest :=
  { destination_id := (wd.destination_id &&& 0x07).toNat, lun := wd.target_lun &&& 0x07
    transfer_count := wd.transfer_count, cdb := wd.cdb }

/-- Issues a command and services the request it latches. -/
def issue (wd : Wd33c93b) (command : U8) (bus : ScsiBus τ μ) : Except WdFault (WdWork × Wd33c93b × ScsiBus τ μ) :=
  match (wd.execute_command command).take_request with
  | (none, wd) => .ok (.Idle, wd, bus)
  | (some request, wd) => wd.service_request request bus

/-- The slot a Select-And-Transfer addresses. -/
def addressed_slot (wd : Wd33c93b) (command : U8) : Nat :=
  wd.latched_request.addressed_slot (command == SELECT_AND_TRANSFER_WITH_ATN)

theorem issue_select_and_transfer {command : U8} (hcommand : command = 0x08 ∨ command = 0x09) :
    (wd.execute_command command).pending_request = some (.Combined wd.latched_request) ∧
      ∃ issued : Wd33c93b, issued.combined = true ∧ issued.attention = (command == SELECT_AND_TRANSFER_WITH_ATN) ∧
        wd.issue command bus = issued.service_combined bus wd.latched_request := by
  rcases hcommand with rfl | rfl
  · exact ⟨rfl, _, rfl, rfl, rfl⟩
  · exact ⟨rfl, _, rfl, rfl, rfl⟩

/-- The target at a slot decodes one descriptor, no other target decodes, and the bus is
past the command phase. -/
def Dispatched (slot : Nat) (cdb : List U8) (bus : ScsiBus (Decoding τ) μ)
    (result : Except WdFault (WdWork × Wd33c93b × ScsiBus (Decoding τ) μ)) : Prop :=
  ∃ work wd' bus', result = .ok (work, wd', bus') ∧ wd'.PastCommand bus' ∧
    (∃ before, bus.decoded slot = some before ∧ bus'.decoded slot = some (before ++ [cdb])) ∧
    ∀ other, other ≠ slot → bus'.decoded other = bus.decoded other

/-- No target decodes, and the bus is past the command phase. -/
def Declined (bus : ScsiBus (Decoding τ) μ)
    (result : Except WdFault (WdWork × Wd33c93b × ScsiBus (Decoding τ) μ)) : Prop :=
  ∃ work wd' bus', result = .ok (work, wd', bus') ∧ wd'.PastCommand bus' ∧
    ∀ other, bus'.decoded other = bus.decoded other

/-- Every Select-And-Transfer outside group 4 has the descriptor decoded by the target it
addresses, where that is attached, and by nobody elsewhere. -/
theorem select_and_transfer_dispatched (wd : Wd33c93b) {command : U8} (hcommand : command = 0x08 ∨ command = 0x09)
    {bus : ScsiBus (Decoding τ) μ} (hfree : bus.Free)
    (hpresent : bus.target_present wd.latched_request.destination_id = true) (hgroup : wd.cdb.get 0 >>> 5 ≠ 4) :
    (wd.execute_command command).pending_request = some (.Combined wd.latched_request) ∧
      cdb_length (wd.cdb.get 0) = scsi.cdb_length (wd.cdb.get 0) ∧
      ((bus.attachment (wd.addressed_slot command)).isSome = true →
        Dispatched (wd.addressed_slot command) wd.latched_request.bytes bus (wd.issue command bus)) ∧
      (bus.attachment (wd.addressed_slot command) = none → Declined bus (wd.issue command bus)) := by
  obtain ⟨hpending, issued, hcombined, hattention, hissue⟩ := @issue_select_and_transfer _ _ _ _ wd bus command hcommand
  obtain ⟨work, wd', bus', hresult, hpast, hattached, hmissing⟩ :=
    service_combined_decodes hfree wd.latched_request hpresent hgroup hcombined
  rw [hattention] at hattached hmissing
  rw [hissue, hresult]
  refine ⟨hpending, cdb_length_eq_bus hgroup, fun hsome => ?_, fun hnone => ?_⟩
  · obtain ⟨held, hheld⟩ := Option.isSome_iff_exists.mp hsome
    obtain ⟨honce, hothers⟩ := (hattached held hheld).decoded
    exact ⟨work, wd', bus', rfl, hpast, honce, hothers⟩
  · exact ⟨work, wd', bus', rfl, hpast, (hmissing hnone).decoded⟩

/-- A controller with a programmed descriptor. -/
def programmed (cdb : Vector U8 12) : Wd33c93b := { Wd33c93b.new 10000000 with cdb }

theorem slot_zero_lt : 0 < TARGET_SLOT_COUNT := by decide

/-- A lone CD-ROM drive that keeps what it decodes. -/
def decoding_cdrom : ScsiBus (Decoding ScsiTargetSnapshot) MemoryStorage :=
  ScsiBus.with_targets ((Vector.replicate TARGET_SLOT_COUNT none).set 0
    (some { target := { target := .Cdrom .new_empty, decoded := [] }, backing := .Removable none }) slot_zero_lt)

/-- TEST UNIT READY to the drive. -/
theorem select_and_transfer_dispatched_ready :
    Dispatched 0 (List.replicate 6 0) decoding_cdrom ((programmed (Vector.replicate 12 0)).issue 0x09 decoding_cdrom) := by
  have hdispatched := @select_and_transfer_dispatched _ _ _ _ (programmed (Vector.replicate 12 0)) 0x09 (Or.inr rfl)
    decoding_cdrom ⟨rfl, rfl⟩ (by decide) (by decide)
  exact hdispatched.2.2.1 (by decide)

/-- READ(16). -/
def read_16 : Wd33c93b := programmed #v[0x88, 0, 0, 0, 0, 0, 0, 0, 0, 0, 0, 0]

/-- TEST UNIT READY to a logical unit the drive does not have. -/
def missing_unit_ready : Wd33c93b := programmed #v[0, 0x20, 0, 0, 0, 0, 0, 0, 0, 0, 0, 0]

/-- The first descriptor is cut to six bytes, and nobody answers to the second. -/
theorem select_and_transfer_undispatched :
    decoding_cdrom.Free ∧ decoding_cdrom.target_present 0 = true ∧
      (¬ Dispatched (read_16.addressed_slot 0x09) read_16.latched_request.bytes decoding_cdrom
        (read_16.issue 0x09 decoding_cdrom)) ∧
      ¬ Dispatched (missing_unit_ready.addressed_slot 0x09) missing_unit_ready.latched_request.bytes decoding_cdrom
        (missing_unit_ready.issue 0x09 decoding_cdrom) := by
  refine ⟨⟨rfl, rfl⟩, by decide, ?_, ?_⟩
  · rintro ⟨work, wd', bus', hresult, _, ⟨before, _, hafter⟩, _⟩
    have hslot : read_16.addressed_slot 0x09 = 0 := by decide
    have hnothing : (match read_16.issue 0x09 decoding_cdrom with
        | .error _ => none
        | .ok (_, _, bus) => bus.decoded 0) = some [] := by decide
    rw [hresult] at hnothing
    rw [hslot] at hafter
    simp [hafter] at hnothing
  · rintro ⟨_, _, _, _, _, ⟨before, hbefore, _⟩, _⟩
    have hmissing : decoding_cdrom.decoded (missing_unit_ready.addressed_slot 0x09) = none := by decide
    exact absurd (hbefore.symm.trans hmissing) (by simp)

end Wd33c93b

end se_device.wd33c93b
