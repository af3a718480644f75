import SgiEmu.Device.Wd33c93b
import SgiEmu.Device.Scsi.Accepts

open se_core se_device.scsi

namespace se_device.wd33c93b

namespace Wd33c93b

variable {τ μ : Type} [ScsiTarget τ] [StorageMedium μ]

/-! ## When a byte may move -/

/-- Whether the transfer count can take another byte off. -/
def byte_counted (wd : Wd33c93b) : Bool := wd.single_byte || wd.transfer_count != 0

/-- Whether the controller, moved on, takes a byte of an input phase. -/
def pump_reads (wd : Wd33c93b) (bus : ScsiBus τ μ) : Bool :=
  !wd.aborting && wd.input_byte.isNone && !(wd.combined && bus.phase == some .Status) && wd.pio_remaining != 0
    && wd.pio_phase.any fun phase => phase.input && bus.phase == some phase && !(phase == .DataIn && wd.dma_mode)

/-- A byte the controller takes is counted, and a message byte is there. -/
def pump_allowed (wd : Wd33c93b) (bus : ScsiBus τ μ) : Bool :=
  !wd.pump_reads bus || (wd.byte_counted && (bus.phase != some .MessageIn || bus.message_left))

/-- A latched output byte is counted and finds the bus in an output phase, with room
in a message. -/
def output_allowed (wd : Wd33c93b) (bus : ScsiBus τ μ) : Bool :=
  bus.phase.any (!·.input) && wd.pio_phase.all (!·.input) && wd.pio_remaining != 0 && wd.byte_counted
    && (bus.phase != some .MessageOut || bus.message_room)

/-- Whether a request meets the controller and the bus in a state it was made for. -/
def service_allowed (wd : Wd33c93b) (bus : ScsiBus τ μ) : WdRequest → Bool
  | .Combined request => bus.phase.isNone || !wd.resumes bus request || (wd.begin_payload bus).pump_allowed bus
  | .Transfer =>
    { wd with pio_phase := bus.phase, pio_remaining := if wd.single_byte then 1 else wd.transfer_count }.pump_allowed bus
  | .Pump => wd.pump_allowed bus
  | .Attention => wd.ack_asserted || wd.interrupt_pending || !wd.busy || bus.phase != some .MessageIn || wd.pump_allowed bus
  | .Output _ => wd.output_allowed bus
  | .Acknowledge => !(wd.ack_asserted && bus.attention_at_completion (.AcknowledgeMessage wd.attention))
  | _ => true

/-- A payload phase in a DMA mode. -/
def DmaPhase (wd : Wd33c93b) : Prop := wd.dma_mode = true ∧ (wd.pio_phase = some .DataIn ∨ wd.pio_phase = some .DataOut)

/-- What a serviced controller leaves: no fault, a consistent bus, and DMA work only
for a payload. -/
def Serviced (result : Except WdFault (WdWork × Wd33c93b × ScsiBus τ μ)) : Prop :=
  ∃ work wd bus, result = .ok (work, wd, bus) ∧ bus.PhaseConsistent ∧
    ∀ direction byte_count, work = .Dma direction byte_count → wd.DmaPhase

variable {wd : Wd33c93b} {bus : ScsiBus τ μ}

omit [ScsiTarget τ] [StorageMedium μ] in
theorem Serviced.idle (h : bus.PhaseConsistent) (wd : Wd33c93b) :
    Serviced (.ok (.Idle, wd, bus) : Except WdFault (WdWork × Wd33c93b × ScsiBus τ μ)) :=
  ⟨_, _, _, rfl, h, fun _ _ hwork => by simp at hwork⟩

/-- From Status a combined command ends with the status byte and a free bus. -/
theorem finish_combined_eq (hphase : bus.phase = some .Status) :
    ∃ connection, bus.connection = some connection ∧ wd.finish_combined bus =
      .ok (wd.finish_select_and_transfer connection.status.byte, { bus with connection := none }) := by
  obtain ⟨connection, hconnection, hstatus⟩ := ScsiBus.read_status hphase
  have hmessage : (bus.set_connection { connection with phase := .MessageIn, message_in := [0], message_offset := 0 }).read_information =
      (.ok (some 0), bus.set_connection { connection with phase := .MessageIn, message_in := [0], message_offset := 1 }) := rfl
  refine ⟨connection, hconnection, ?_⟩
  simp only [finish_combined, hstatus, hmessage]
  rfl

theorem finish_combined_ok (h : bus.PhaseConsistent) (hphase : bus.phase = some .Status) :
    ∃ wd' bus', wd.finish_combined bus = .ok (wd', bus') ∧ bus'.PhaseConsistent := by
  obtain ⟨connection, hconnection, hfinished⟩ := @finish_combined_eq _ _ _ _ wd _ hphase
  obtain ⟨_, hbus, hstatus⟩ := ScsiBus.connected_of_phase hphase
  have hidle : bus.active_transaction = none := by
    have hfits := h.connected _ hbus
    simpa only [ConnectionFits, hstatus, InformationFits] using hfits
  exact ⟨_, _, hfinished, fun _ => hidle, fun _ hnone => by simp at hnone, fun _ hnone => by simp at hnone⟩

theorem advance_information_byte_ok (hremaining : wd.pio_remaining ≠ 0) (hcounted : wd.byte_counted = true) :
    ∃ wd', wd.advance_information_byte = .ok wd' ∧ wd'.pio_phase = wd.pio_phase := by
  simp only [byte_counted, Bool.or_eq_true, bne_iff_ne] at hcounted
  unfold advance_information_byte
  rw [if_neg hremaining]
  dsimp only
  split
  · exact ⟨_, rfl, rfl⟩
  case isFalse hsingle =>
    have hcount : wd.transfer_count ≠ 0 := by
      rcases hcounted with htrue | hcount
      · exact absurd htrue hsingle
      · exact hcount
    rw [if_neg hcount]
    exact ⟨_, rfl, rfl⟩

theorem pump_serviced (attempts : Nat) (h : bus.PhaseConsistent) (hallowed : wd.pump_allowed bus = true) :
    Serviced (wd.pump attempts bus) := by
  induction attempts generalizing wd bus with
  | zero => exact .idle h wd
  | succ attempts ih =>
    unfold pump
    split
    · exact .idle h _
    case isFalse habort =>
      split
      case isTrue hstatus =>
        obtain ⟨wd', bus', heq, hnext⟩ := @finish_combined_ok _ _ _ _ wd bus h hstatus.2.1
        rw [heq]
        exact .idle hnext wd'
      case isFalse hcombined =>
        split
        · exact .idle h wd
        case h_2 phase hpio =>
          split
          · exact .idle h wd
          case isFalse hstaged =>
            split
            · exact .idle h _
            case isFalse hends =>
              obtain ⟨hremaining, hphase⟩ : wd.pio_remaining ≠ 0 ∧ bus.phase = some phase := by simpa using hends
              split
              case isTrue hdma =>
                refine ⟨_, _, _, rfl, h, fun _ _ _ => ⟨hdma.2, ?_⟩⟩
                rw [hpio]
                rcases hdma.1 with rfl | rfl
                · exact Or.inl rfl
                · exact Or.inr rfl
              case isFalse hprogrammed =>
                split
                case isTrue hinput =>
                  have hempty : wd.input_byte = none := by simpa using hstaged
                  have hactive : wd.aborting = false := by simpa [hempty] using habort
                  have hopen : ¬(wd.combined = true ∧ phase = .Status) := by simpa [hempty, hphase] using hcombined
                  have hreads : wd.pump_reads bus = true := by
                    have hstatus : wd.combined = false ∨ phase ≠ .Status := by
                      cases hc : wd.combined with
                      | false => exact Or.inl rfl
                      | true => exact Or.inr fun heq => hopen ⟨hc, heq⟩
                    have hpayload : phase ≠ .DataIn ∨ wd.dma_mode = false := by
                      cases hd : wd.dma_mode with
                      | false => exact Or.inr rfl
                      | true => exact Or.inl fun heq => hprogrammed ⟨Or.inl heq, hd⟩
                    simpa [pump_reads, hactive, hempty, hpio, hphase, hinput, hremaining] using ⟨hstatus, hpayload⟩
                  simp only [pump_allowed, hreads, Bool.not_true, Bool.false_or, Bool.and_eq_true] at hallowed
                  obtain ⟨hcounted, hmessage⟩ := hallowed
                  have hleft (heq : phase = .MessageIn) : bus.message_left = true := by
                    simpa [hphase, heq] using hmessage
                  obtain ⟨value, next, hread, hnext, hnone⟩ := ScsiBus.read_information_ok h hphase hinput hleft
                  rw [hread]
                  cases value with
                  | none =>
                    refine ih hnext ?_
                    obtain rfl := hnone rfl
                    cases hagain : pump_reads { wd with input_byte := none } next with
                    | false => simp [pump_allowed, hagain]
                    | true =>
                      have hstill : next.phase = some .DataIn := by
                        simp only [pump_reads, hpio, Option.any_some, Bool.and_eq_true, beq_iff_eq] at hagain
                        exact hagain.2.1.2
                      have hagain_counted : byte_counted { wd with input_byte := none } = true := hcounted
                      simp [pump_allowed, hagain_counted, hstill]
                  | some value =>
                    have hadvanced := @advance_information_byte_ok { wd with input_byte := some value } hremaining hcounted
                    obtain ⟨wd', heq, _⟩ := hadvanced
                    simp only [heq]
                    exact .idle hnext wd'
                · exact .idle h _

/-! ## Requests -/

omit [ScsiTarget τ] [StorageMedium μ] in
theorem byte_counted_begin_payload : (wd.begin_payload bus).pio_remaining ≠ 0 → (wd.begin_payload bus).byte_counted = true := by
  intro hremaining
  have hcount : wd.transfer_count ≠ 0 := hremaining
  simp [byte_counted, begin_payload, hcount]

/-- A CDB no longer than the target expects is taken whole. -/
theorem write_all_ok (bytes : List U8) (h : bus.PhaseConsistent) {connection : ScsiConnection}
    (hconnection : bus.connection = some connection) (hphase : connection.phase = .Command)
    (hlength : (connection.cdb ++ bytes).length ≤ scsi.cdb_length (cdb_byte (connection.cdb ++ bytes) 0)) :
    ∃ next, write_all bus bytes = .ok next ∧ next.PhaseConsistent ∧ next.phase ≠ some .MessageIn := by
  induction bytes generalizing bus connection with
  | nil =>
    refine ⟨bus, rfl, h, ?_⟩
    simp [ScsiBus.phase, hconnection, hphase]
  | cons value bytes ih =>
    have hcommand : bus.phase = some .Command := by simp [ScsiBus.phase, hconnection, hphase]
    obtain ⟨consumed, next, hwritten, hnext⟩ := ScsiBus.write_information_ok h hcommand rfl (by simp) value false
    simp only [write_all, hwritten]
    have hbound := ScsiBus.cdb_length_le (cdb_byte connection.cdb 0)
    have hshort : connection.cdb.length < 16 := by
      have hfits := h.connected connection hconnection
      simp only [ConnectionFits, hphase] at hfits
      exact Nat.lt_of_lt_of_le hfits.2 hbound
    simp only [ScsiBus.write_information, hconnection, hphase] at hwritten
    rw [if_neg (by omega)] at hwritten
    split at hwritten
    case isTrue hcomplete =>
      have hlast : bytes = [] := by
        have hsame : cdb_byte (connection.cdb ++ value :: bytes) 0 = cdb_byte (connection.cdb ++ [value]) 0 := by
          cases connection.cdb with
          | nil => rfl
          | cons opcode rest => rfl
        rw [hsame] at hlength
        simp only [List.length_append, List.length_cons, List.length_nil] at hlength hcomplete
        rw [← List.length_eq_zero_iff]
        omega
      subst hlast
      cases hexecuted : bus.execute_connected_command
          { connection with phase := .Command, cdb := connection.cdb ++ [value] } with
      | mk outcome started =>
        rw [hexecuted] at hwritten
        cases outcome with
        | error error => simp at hwritten
        | ok _ =>
          obtain ⟨_, rfl⟩ := Prod.mk.inj hwritten
          have hmoved := ScsiBus.execute_connected_command_phase
            { connection with phase := .Command, cdb := connection.cdb ++ [value] } (congrArg Prod.fst hexecuted)
          rw [hexecuted] at hmoved
          exact ⟨started, rfl, hnext, hmoved⟩
    case isFalse hincomplete =>
      obtain ⟨_, rfl⟩ := Prod.mk.inj hwritten
      refine ih hnext rfl rfl ?_
      simpa using hlength

theorem cdb_length_le_bus (opcode : U8) : cdb_length opcode ≤ scsi.cdb_length opcode := by
  unfold cdb_length scsi.cdb_length
  split
  · exact Nat.le_refl 10
  · split
    case h_5 =>
      split
      all_goals decide
    all_goals simp_all

theorem six_le_cdb_length (opcode : U8) : 6 ≤ cdb_length opcode := by
  unfold cdb_length
  split
  · decide
  · split
    all_goals decide

theorem request_bytes_get (request : SelectAndTransferRequest) :
    cdb_byte request.bytes 0 = request.cdb.get 0 ∧ cdb_byte request.bytes 1 = request.cdb.get 1 := by
  have hlength := six_le_cdb_length (request.cdb.get 0)
  constructor
  · rw [cdb_byte, SelectAndTransferRequest.bytes, List.getElem?_take, if_pos (by omega)]
    simp [Vector.get]
  · rw [cdb_byte, SelectAndTransferRequest.bytes, List.getElem?_take, if_pos (by omega)]
    simp [Vector.get]

theorem request_bytes_fit (request : SelectAndTransferRequest) :
    request.bytes.length ≤ scsi.cdb_length (cdb_byte request.bytes 0) := by
  rw [(request_bytes_get request).1]
  refine Nat.le_trans ?_ (cdb_length_le_bus (request.cdb.get 0))
  exact List.length_take_le _ _

omit [ScsiTarget τ] [StorageMedium μ] in
theorem pump_allowed_of_reads (h : wd.pump_reads bus = false) : wd.pump_allowed bus = true := by simp [pump_allowed, h]

omit [ScsiTarget τ] [StorageMedium μ] in
theorem pump_allowed_of_output (h : wd.pio_phase.all (!·.input) = true) : wd.pump_allowed bus = true := by
  refine pump_allowed_of_reads ?_
  cases hphase : wd.pio_phase with
  | none => simp [pump_reads, hphase]
  | some phase =>
    have houtput : phase.input = false := by simpa [hphase] using h
    simp [pump_reads, hphase, houtput]

omit [ScsiTarget τ] [StorageMedium μ] in
theorem begin_payload_allowed (h : bus.phase ≠ some .MessageIn) : (wd.begin_payload bus).pump_allowed bus = true := by
  by_cases hremaining : (wd.begin_payload bus).pio_remaining = 0
  · exact pump_allowed_of_reads (by simp [pump_reads, hremaining])
  · simp [pump_allowed, byte_counted_begin_payload hremaining, h]

theorem service_combined_serviced (h : bus.PhaseConsistent) (request : SelectAndTransferRequest)
    (hallowed : bus.phase.isNone = true ∨ wd.resumes bus request = false ∨ (wd.begin_payload bus).pump_allowed bus = true) :
    Serviced (wd.service_combined bus request) := by
  unfold service_combined
  split
  case isTrue hfree =>
    have hnone : bus.phase = none := by simpa using hfree
    obtain ⟨found, selected, hselect, hselected, hconnected⟩ :=
      ScsiBus.select_ok h hnone request.destination_id wd.attention
    rw [hselect]
    cases found with
    | false => exact ⟨_, _, _, rfl, hselected, fun _ _ hwork => by simp [wait_for_selection] at hwork⟩
    | true =>
      obtain ⟨connection, hconnection, hcdb, hempty, hreturn, hphase⟩ := hconnected rfl
      -- with or without the identify message, the CDB goes out whole
      have hcommand {wd' : Wd33c93b} {bus' : ScsiBus τ μ} {connection' : ScsiConnection} (h' : bus'.PhaseConsistent)
          (hconnection' : bus'.connection = some connection') (hphase' : connection'.phase = .Command)
          (hcdb' : connection'.cdb = []) :
          ∃ started, write_all bus' request.bytes = .ok started ∧
            Serviced ((wd'.begin_payload started).pump PUMP_ATTEMPTS started) := by
        obtain ⟨started, hwritten, hstarted, hmoved⟩ := write_all_ok request.bytes h' hconnection' hphase' (by
          rw [hcdb', List.nil_append]
          exact request_bytes_fit request)
        exact ⟨started, hwritten, pump_serviced PUMP_ATTEMPTS hstarted (begin_payload_allowed hmoved)⟩
      cases hattention : wd.attention with
      | false =>
        rw [hattention] at hphase
        simp only [Bool.false_eq_true, if_false] at hphase ⊢
        obtain ⟨started, hsent, hserviced⟩ := hcommand hselected hconnection hphase hcdb
        rw [hsent]
        exact hserviced
      | true =>
        rw [hattention] at hphase
        simp only [if_true] at hphase ⊢
        have hidentify : (0x80 ||| request.lun) &&& 0x80 ≠ 0 := by
          intro hzero
          have hbit := congrArg (fun value : U8 => value.getLsbD 7) hzero
          simp at hbit
        have hwritten : selected.write_information (0x80 ||| request.lun) true =
            (.ok true, selected.set_connection { connection with
              message_out := [], lun := ((0x80 ||| request.lun) &&& 7).toNat, identified := true
              phase := connection.return_phase }) := by
          rw [← ScsiBus.finish_identify hempty hidentify]
          simp only [ScsiBus.write_information, hconnection, hphase, hempty, List.length_nil]
          rfl
        have hnext := ScsiBus.write_information_consistent hselected (0x80 ||| request.lun) true
        rw [hwritten] at hnext
        rw [hwritten]
        obtain ⟨started, hsent, hserviced⟩ := hcommand hnext rfl hreturn hcdb
        dsimp only
        rw [hsent]
        exact hserviced
  case isFalse hconnected =>
    split
    · exact .idle h _
    case isFalse hresumes =>
      refine pump_serviced PUMP_ATTEMPTS h ?_
      rcases hallowed with hfree | hrefused | hallowed
      · exact absurd hfree hconnected
      · exact absurd hrefused (by simpa using hresumes)
      · exact hallowed

omit [ScsiTarget τ] [StorageMedium μ] in
theorem service_select_serviced (h : bus.PhaseConsistent) (target_id : Nat) (attention : Bool) :
    Serviced (wd.service_select bus target_id attention) := by
  unfold service_select
  split
  · exact .idle h _
  case isFalse hconnected =>
    have hnone : bus.phase = none := by simpa using hconnected
    obtain ⟨found, selected, hselect, hselected, _⟩ := ScsiBus.select_ok h hnone target_id attention
    rw [hselect]
    cases found with
    | false => exact ⟨_, _, _, rfl, hselected, fun _ _ hwork => by simp [wait_for_selection] at hwork⟩
    | true => exact .idle hselected _

theorem service_output_serviced (h : bus.PhaseConsistent) (value : U8) (hallowed : wd.output_allowed bus = true) :
    Serviced (wd.service_output bus value) := by
  simp only [output_allowed, Bool.and_eq_true, bne_iff_ne] at hallowed
  obtain ⟨⟨⟨⟨houtput, hpio⟩, hremaining⟩, hcounted⟩, hroom⟩ := hallowed
  obtain ⟨phase, hphase, hdirection⟩ : ∃ phase, bus.phase = some phase ∧ phase.input = false := by
    simpa [Option.any_eq_true] using houtput
  obtain ⟨consumed, next, hwritten, hnext⟩ := ScsiBus.write_information_ok h hphase hdirection
    (fun hmessage => by simpa [hphase, hmessage] using hroom) value (wd.pio_remaining == 1)
  unfold service_output
  simp only [hwritten]
  have hkept (released : Wd33c93b) (hreleased : released = wd ∨ released = { wd with attention := false }) :
      released.pio_remaining ≠ 0 ∧ released.byte_counted = true ∧ released.pio_phase = wd.pio_phase := by
    rcases hreleased with rfl | rfl
    · exact ⟨hremaining, hcounted, rfl⟩
    · exact ⟨hremaining, hcounted, rfl⟩
  have hcases : (if wd.pio_phase = some .MessageOut ∧ (wd.pio_remaining == 1) = true then { wd with attention := false }
      else wd) = wd ∨ (if wd.pio_phase = some .MessageOut ∧ (wd.pio_remaining == 1) = true then
      { wd with attention := false } else wd) = { wd with attention := false } := by
    split
    · exact Or.inr rfl
    · exact Or.inl rfl
  obtain ⟨hleft, hreleased, hsame⟩ := hkept _ hcases
  cases consumed with
  | false => exact pump_serviced PUMP_ATTEMPTS hnext (pump_allowed_of_output (by rw [hsame]; exact hpio))
  | true =>
    obtain ⟨advanced, hadvanced, hphase'⟩ := advance_information_byte_ok hleft hreleased
    simp only [hadvanced, if_true]
    exact pump_serviced PUMP_ATTEMPTS hnext (pump_allowed_of_output (by rw [hphase', hsame]; exact hpio))

/-- A request met in a state it was made for is serviced. -/
theorem service_request_serviced (h : bus.PhaseConsistent) (request : WdRequest)
    (hallowed : wd.service_allowed bus request = true) : Serviced (wd.service_request request bus) := by
  cases request with
  | Combined request =>
    simp only [service_allowed, Bool.or_eq_true, Bool.not_eq_true'] at hallowed
    exact service_combined_serviced h request (or_assoc.mp hallowed)
  | Select target_id attention => exact service_select_serviced h target_id attention
  | Transfer =>
    simp only [service_request]
    split
    · exact .idle h _
    · exact pump_serviced PUMP_ATTEMPTS h hallowed
  | Pump => exact pump_serviced PUMP_ATTEMPTS h hallowed
  | Output value => exact service_output_serviced h value hallowed
  | Phase => exact .idle h _
  | Acknowledge =>
    simp only [service_request]
    split
    case isTrue hasserted =>
      simp only [service_allowed, hasserted, Bool.true_and, Bool.not_eq_true'] at hallowed
      exact .idle (ScsiBus.acknowledge_message_consistent h wd.attention hallowed) _
    · exact .idle h _
  | Attention =>
    simp only [service_request]
    split
    · exact .idle h _
    case isFalse hconnected =>
      have hnext := ScsiBus.assert_attention_consistent h
      split
      · exact .idle h _
      case isFalse hasserted =>
        split
        · exact .idle hnext _
        case isFalse hinterrupt =>
          split
          case isTrue hbusy =>
            obtain ⟨phase, hphase⟩ : ∃ phase, bus.phase = some phase := by
              simpa [Option.isNone_iff_eq_none, ← Option.ne_none_iff_exists'] using hconnected
            refine pump_serviced PUMP_ATTEMPTS hnext ?_
            obtain ⟨hsame, rfl⟩ | hmoved := ScsiBus.assert_attention_phase hphase
            · have hopen : wd.pump_allowed bus = true := by
                simpa [service_allowed, hasserted, hinterrupt, hbusy, hphase] using hallowed
              rw [hsame]
              exact hopen
            · refine pump_allowed_of_reads ?_
              cases hpio : wd.pio_phase with
              | none => simp [pump_reads]
              | some phase =>
                by_cases hout : phase = .MessageOut
                · simp [pump_reads, hout, ScsiPhase.input, ScsiPhase.bits]
                · simp [pump_reads, hmoved, Ne.symm hout]
          · exact .idle hnext _
  | Abort => exact .idle h _
  | Disconnect => exact .idle (ScsiBus.cancel_transaction_consistent bus) _
  | Timeout => exact .idle h _

omit [ScsiTarget τ] [StorageMedium μ] in
theorem pump_allowed_of_dma (h : wd.DmaPhase) : wd.pump_allowed bus = true := by
  refine pump_allowed_of_reads ?_
  rcases h.2 with hin | hout
  · simp [pump_reads, hin, h.1]
  · simp [pump_reads, hout, ScsiPhase.input, ScsiPhase.bits]

/-- The end of a payload window needs no condition: in a DMA mode the controller takes
no payload byte. -/
theorem finish_dma_ok (hdma : wd.DmaPhase) (status : Option ScsiStatus) (hnone : status = none → bus.PhaseConsistent)
    (hsome : ∀ ended, status = some ended → (bus.set_status ended).PhaseConsistent) :
    ∃ wd' bus', wd.finish_dma bus status = .ok (wd', bus') ∧ bus'.PhaseConsistent := by
  have hwindow : DmaPhase { wd with pio_remaining := wd.transfer_count } := hdma
  cases status with
  | none =>
    obtain ⟨work, wd', bus', hpumped, hnext, _⟩ :=
      pump_serviced PUMP_ATTEMPTS (hnone rfl) (pump_allowed_of_dma hwindow)
    refine ⟨wd', bus', ?_, hnext⟩
    simp only [finish_dma, hpumped]
  | some ended =>
    obtain ⟨work, wd', bus', hpumped, hnext, _⟩ :=
      pump_serviced PUMP_ATTEMPTS (hsome ended rfl) (pump_allowed_of_dma hwindow)
    refine ⟨wd', bus', ?_, hnext⟩
    simp only [finish_dma, ScsiBus.observe_transfer_result, hpumped]

end Wd33c93b

end se_device.wd33c93b
