import SgiEmu.Device.Scsi.Spec
import SgiEmu.Device.Scsi.Targets

open se_core

namespace se_device.scsi

/-! ## What a phase says of the command -/

/-- What an information phase promises: a data phase has its transaction at the
connected target, and the command phase waits for more of the CDB. -/
def InformationFits (active : Option ScsiTransaction) (connection : ScsiConnection) : ScsiPhase → Prop
  | .DataIn => ∃ transaction, active = some transaction ∧ transaction.transfer.direction = .In ∧
      (address_for_slot transaction.target_slot).1 = connection.target_id
  | .DataOut => ∃ transaction, active = some transaction ∧ transaction.transfer.direction = .Out ∧
      (address_for_slot transaction.target_slot).1 = connection.target_id
  | .Command => active = none ∧ connection.cdb.length < cdb_length (cdb_byte connection.cdb 0)
  | .Status => active = none
  | .MessageOut => False
  | .MessageIn => False

/-- A message phase leads back to its return phase, except that COMMAND COMPLETE
ends the connection. -/
def ConnectionFits (active : Option ScsiTransaction) (connection : ScsiConnection) : Prop :=
  match connection.phase with
  | .MessageOut => InformationFits active connection connection.return_phase
  | .MessageIn =>
    if connection.message_in = [0] then active = none
    else InformationFits active connection connection.return_phase
  | phase => InformationFits active connection phase

namespace ScsiBus

variable {τ μ : Type} {bus : ScsiBus τ μ}

/-- A connection is to a target that exists, and to a logical unit in range. -/
def Addressed (bus : ScsiBus τ μ) : Prop :=
  ∀ connection, bus.connection = some connection →
    bus.target_present connection.target_id = true ∧ connection.lun < LUN_COUNT

structure PhaseConsistent (bus : ScsiBus τ μ) : Prop where
  free : bus.connection = none → bus.active_transaction = none
  connected : ∀ connection, bus.connection = some connection → ConnectionFits bus.active_transaction connection
  addressed : bus.Addressed

/-- The initiator's operations. A transfer is followed by the observation of its
result. -/
inductive InitiatorEvent where
  | Select (target_id : Nat) (attention : Bool)
  | WriteInformation (value : U8) (last : Bool)
  | ReadInformation
  | AcknowledgeMessage (attention : Bool)
  | AssertAttention
  | TransferDataIn (maximum_bytes : Nat) (accept : List U8 → Bool)
  | TransferDataOut (maximum_bytes : Nat) (provided : Option (List U8))
  | CancelTransaction

variable [ScsiTarget τ] [StorageMedium μ]

def observe (result : Except ScsiBusError ScsiTransferResult) (bus : ScsiBus τ μ) : ScsiBus τ μ :=
  match result with
  | .ok result => bus.observe_transfer_result result
  | .error _ => bus

def step (bus : ScsiBus τ μ) : InitiatorEvent → ScsiBus τ μ
  | .Select target_id attention => (bus.select target_id attention).2
  | .WriteInformation value last => (bus.write_information value last).2
  | .ReadInformation => bus.read_information.2
  | .AcknowledgeMessage attention => bus.acknowledge_message attention
  | .AssertAttention => bus.assert_attention
  | .TransferDataIn maximum_bytes accept =>
    let transferred := bus.transfer_data_in maximum_bytes (fun bytes state => (accept bytes, state)) ()
    observe transferred.1 transferred.2.1
  | .TransferDataOut maximum_bytes provided =>
    let transferred := bus.transfer_data_out maximum_bytes (fun _ state => (provided, state)) ()
    observe transferred.1 transferred.2.1
  | .CancelTransaction => bus.cancel_transaction

def run (bus : ScsiBus τ μ) (events : List InitiatorEvent) : ScsiBus τ μ := events.foldl step bus

/-- Whether an acknowledgement raises attention while COMMAND COMPLETE is held,
with a return phase the command has left. -/
def attention_at_completion (bus : ScsiBus τ μ) : InitiatorEvent → Bool
  | .AcknowledgeMessage true =>
    match bus.connection with
    | none => false
    | some connection =>
      connection.phase == .MessageIn && connection.message_in == [0] && connection.return_phase != .Status
  | _ => false

/-- A run that raises attention at no such acknowledgement. -/
def completions_accepted (bus : ScsiBus τ μ) : List InitiatorEvent → Bool
  | [] => true
  | event :: events => !bus.attention_at_completion event && (bus.step event).completions_accepted events

/-! ## Connections -/

theorem ConnectionFits_of_information {active : Option ScsiTransaction} {connection : ScsiConnection}
    (h : InformationFits active connection connection.phase) : ConnectionFits active connection := by
  unfold ConnectionFits
  split
  case h_1 hphase =>
    rw [hphase] at h
    exact h.elim
  case h_2 hphase =>
    rw [hphase] at h
    exact h.elim
  case h_3 => exact h

omit [ScsiTarget τ] [StorageMedium μ] in
theorem target_present_congr {next : ScsiBus τ μ} (h : ∀ slot, (next.attachment slot).isSome = (bus.attachment slot).isSome)
    (target_id : Nat) : next.target_present target_id = bus.target_present target_id := by
  simp only [target_present, h]

omit [ScsiTarget τ] [StorageMedium μ] in
theorem Addressed.set_connection {old connection : ScsiConnection} (h : bus.Addressed)
    (hold : bus.connection = some old) (htarget : connection.target_id = old.target_id)
    (hlun : connection.lun < LUN_COUNT) : (bus.set_connection connection).Addressed := by
  intro other hother
  obtain rfl : connection = other := by simpa [ScsiBus.set_connection] using hother
  refine ⟨?_, hlun⟩
  rw [htarget]
  exact (h old hold).1

omit [ScsiTarget τ] [StorageMedium μ] in
theorem Addressed.of_same {next : ScsiBus τ μ} (h : bus.Addressed) (hsame : SameTopology bus next) :
    next.Addressed := by
  intro connection hconnection
  rw [target_present_congr hsame.occupied]
  exact h connection (hsame.connection.symm.trans hconnection)

omit [ScsiTarget τ] [StorageMedium μ] in
/-- Replacing the connection by one that fits keeps the bus consistent. -/
theorem PhaseConsistent.set_connection {old connection : ScsiConnection} (h : bus.Addressed)
    (hold : bus.connection = some old) (htarget : connection.target_id = old.target_id)
    (hlun : connection.lun < LUN_COUNT) (hfits : ConnectionFits bus.active_transaction connection) :
    (bus.set_connection connection).PhaseConsistent := by
  refine ⟨fun hfree => ?_, fun other hother => ?_, h.set_connection hold htarget hlun⟩
  · simp [ScsiBus.set_connection] at hfree
  · obtain rfl : connection = other := by simpa [ScsiBus.set_connection] using hother
    exact hfits

omit [ScsiTarget τ] [StorageMedium μ] in
/-- Status follows a transaction that has ended. -/
theorem Addressed.set_status (h : bus.Addressed) (hidle : bus.active_transaction = none) (status : ScsiStatus) :
    (bus.set_status status).PhaseConsistent := by
  refine ⟨fun _ => hidle, fun connection hconnection => ?_, fun connection hconnection => ?_⟩
  · obtain ⟨old, hold, rfl⟩ := Option.map_eq_some_iff.mp hconnection
    exact hidle
  · obtain ⟨old, hold, rfl⟩ := Option.map_eq_some_iff.mp hconnection
    exact h old hold

omit [ScsiTarget τ] [StorageMedium μ] in
/-- An information phase follows what it promises. -/
theorem Addressed.set_phase (h : bus.Addressed) {old : ScsiConnection} (hold : bus.connection = some old)
    (phase : ScsiPhase) (hfits : InformationFits bus.active_transaction { old with phase } phase) :
    (bus.set_phase phase).PhaseConsistent := by
  have hnext : (bus.set_phase phase).connection = some { old with phase } := by
    simp only [ScsiBus.set_phase, hold, Option.map_some]
  refine ⟨fun hfree => absurd (hnext.symm.trans hfree) (by simp), fun connection hconnection => ?_,
    fun connection hconnection => ?_⟩
  · obtain rfl : { old with phase } = connection := by simpa using hnext.symm.trans hconnection
    exact ConnectionFits_of_information hfits
  · obtain rfl : { old with phase } = connection := by simpa using hnext.symm.trans hconnection
    exact h old hold

/-! ## Transfers -/

theorem InformationFits_advance {slot : Nat} {transfer rest : ScsiTransfer} {connection : ScsiConnection}
    (hdirection : rest.direction = transfer.direction) {phase : ScsiPhase}
    (h : InformationFits (some ⟨slot, transfer⟩) connection phase) :
    InformationFits (some ⟨slot, rest⟩) connection phase := by
  cases phase with
  | DataIn =>
    obtain ⟨transaction, hactive, hin, htarget⟩ := h
    obtain rfl : ⟨slot, transfer⟩ = transaction := by simpa using hactive
    exact ⟨_, rfl, hdirection.trans hin, htarget⟩
  | DataOut =>
    obtain ⟨transaction, hactive, hout, htarget⟩ := h
    obtain rfl : ⟨slot, transfer⟩ = transaction := by simpa using hactive
    exact ⟨_, rfl, hdirection.trans hout, htarget⟩
  | Command => exact absurd h.1 (by simp)
  | Status => exact absurd (show some _ = none from h) (by simp)
  | MessageOut => exact h
  | MessageIn => exact h

theorem ConnectionFits_advance {slot : Nat} {transfer rest : ScsiTransfer} {connection : ScsiConnection}
    (hdirection : rest.direction = transfer.direction) (h : ConnectionFits (some ⟨slot, transfer⟩) connection) :
    ConnectionFits (some ⟨slot, rest⟩) connection := by
  unfold ConnectionFits at h ⊢
  split at h
  · exact InformationFits_advance hdirection h
  · split at h
    · exact absurd h (by simp)
    case isFalse hresponse =>
      rw [if_neg hresponse]
      exact InformationFits_advance hdirection h
  case h_3 phase hout hin =>
    exact InformationFits_advance hdirection h

omit [ScsiTarget τ] [StorageMedium μ] in
theorem PhaseConsistent.observe {next : ScsiBus τ μ} {direction : ScsiDataDirection} {result : ScsiTransferResult}
    (h : bus.PhaseConsistent) (hadvances : Advances direction bus next result) :
    (next.observe_transfer_result result).PhaseConsistent := by
  obtain ⟨slot, transfer, hactive, hdirection, hsame, ⟨transferred, status, rfl, hended⟩ | ⟨hmore, rest, hrest, hkept⟩⟩ :=
    hadvances
  · exact (h.addressed.of_same hsame).set_status hended status
  · have hobserved : next.observe_transfer_result result = next := by
      cases result with
      | Complete transferred status => exact absurd rfl (hmore transferred status)
      | Rejected => rfl
      | More transferred remaining => rfl
    rw [hobserved]
    refine ⟨fun hfree => ?_, fun connection hconnection => ?_, h.addressed.of_same hsame⟩
    · exact absurd ((h.free (hsame.connection.symm.trans hfree)).symm.trans hactive) (by simp)
    · have hfits := h.connected connection (hsame.connection.symm.trans hconnection)
      rw [hactive] at hfits
      rw [hrest]
      exact ConnectionFits_advance (hkept.trans hdirection.symm) hfits

/-! ## Messages -/

/-- Reading messages changes only the identified logical unit. -/
theorem read_messages_fields (skip : Nat) (bytes : List U8) (connection : ScsiConnection) (response : List U8) :
    ∃ lun identified, (connection.lun < LUN_COUNT → lun < LUN_COUNT) ∧
      (read_messages skip bytes connection response).1 = { connection with lun, identified } := by
  induction bytes generalizing skip connection response with
  | nil => exact ⟨connection.lun, connection.identified, id, by cases skip <;> rfl⟩
  | cons value bytes ih =>
    cases skip with
    | succ skip => exact ih skip connection response
    | zero =>
      simp only [read_messages]
      split
      · have hidentified : (value &&& 7).toNat < LUN_COUNT := by
          have hmask : (value &&& 7).toNat ≤ 7 := by
            rw [BitVec.toNat_and]
            exact Nat.and_le_right
          exact Nat.lt_succ_of_le hmask
        obtain ⟨lun, identified, hbound, heq⟩ :=
          ih 0 { connection with lun := (value &&& 7).toNat, identified := true } response
        exact ⟨lun, identified, fun _ => hbound hidentified, heq⟩
      · split
        · exact ih 4 connection _
        · split
          · exact ih 0 connection response
          · exact ⟨connection.lun, connection.identified, id, rfl⟩

/-- No response of a target is a COMMAND COMPLETE. -/
theorem read_messages_response (skip : Nat) (bytes : List U8) (connection : ScsiConnection) (response : List U8)
    (hresponse : response.head? ≠ some 0) : (read_messages skip bytes connection response).2.head? ≠ some 0 := by
  induction bytes generalizing skip connection response with
  | nil => cases skip <;> exact hresponse
  | cons value bytes ih =>
    cases skip with
    | succ skip => exact ih skip connection response hresponse
    | zero =>
      simp only [read_messages]
      split
      · exact ih 0 _ response hresponse
      · split
        · refine ih 4 connection _ ?_
          cases response with
          | nil => simp
          | cons first response => simpa using hresponse
        · split
          · exact ih 0 connection response hresponse
          · cases response with
            | nil => simp
            | cons first response => simpa using hresponse

theorem InformationFits_congr {active : Option ScsiTransaction} {a b : ScsiConnection} (htarget : b.target_id = a.target_id)
    (hcdb : b.cdb = a.cdb) {phase : ScsiPhase} (h : InformationFits active a phase) : InformationFits active b phase := by
  cases phase with
  | DataIn => simpa only [InformationFits, htarget] using h
  | DataOut => simpa only [InformationFits, htarget] using h
  | Command => simpa only [InformationFits, hcdb] using h
  | Status => exact h
  | MessageOut => exact h
  | MessageIn => exact h

omit [ScsiTarget τ] [StorageMedium μ] in
theorem cancel_transaction_consistent (bus : ScsiBus τ μ) : bus.cancel_transaction.PhaseConsistent :=
  ⟨fun _ => rfl, fun _ hnone => by simp [cancel_transaction] at hnone,
    fun _ hnone => by simp [cancel_transaction] at hnone⟩

omit [ScsiTarget τ] [StorageMedium μ] in
/-- The messages of the initiator lead back to the return phase, to a response, or
to a free bus. -/
theorem finish_message_out_consistent {old connection : ScsiConnection} (h : bus.PhaseConsistent)
    (hold : bus.connection = some old) (hphase : old.phase = .MessageOut)
    (htarget : connection.target_id = old.target_id) (hlun : connection.lun = old.lun) (hcdb : connection.cdb = old.cdb)
    (hreturn : connection.return_phase = old.return_phase) : (bus.finish_message_out connection).PhaseConsistent := by
  have hfits : InformationFits bus.active_transaction old old.return_phase := by
    have hconnected := h.connected old hold
    simpa only [ConnectionFits, hphase] using hconnected
  unfold finish_message_out
  split
  · exact cancel_transaction_consistent bus
  · have hbound : connection.lun < LUN_COUNT := hlun ▸ (h.addressed old hold).2
    obtain ⟨lun, identified, hread, hfields⟩ :=
      read_messages_fields 0 connection.message_out { connection with message_out := [] } []
    have hresponse := read_messages_response 0 connection.message_out { connection with message_out := [] } [] (by simp)
    dsimp only
    split
    · refine .set_connection h.addressed hold ?_ ?_ (ConnectionFits_of_information ?_)
      · rw [hfields]
        exact htarget
      · rw [hfields]
        exact hread hbound
      · rw [hfields]
        dsimp only
        rw [hreturn]
        exact InformationFits_congr htarget hcdb hfits
    case isFalse hnonempty =>
      refine .set_connection h.addressed hold ?_ ?_ ?_
      · rw [hfields]
        exact htarget
      · rw [hfields]
        exact hread hbound
      · have hne : (read_messages 0 connection.message_out { connection with message_out := [] } []).2 ≠ [0] := by
          intro heq
          rw [heq] at hresponse
          simp at hresponse
        simp only [ConnectionFits, if_neg hne]
        rw [hfields]
        dsimp only
        rw [hreturn]
        exact InformationFits_congr htarget hcdb hfits

/-! ## Commands -/

theorem cdb_length_pos (opcode : U8) : 6 ≤ cdb_length opcode := by
  unfold cdb_length
  split
  · decide
  · split
    all_goals decide

theorem target_slot_eq_some {target_id lun : Nat} (htarget : target_id < TARGET_COUNT) (hlun : lun < LUN_COUNT) :
    target_slot target_id lun = some (target_id * LUN_COUNT + lun) := if_pos ⟨htarget, hlun⟩

theorem address_for_target_slot {target_id lun : Nat} (hlun : lun < LUN_COUNT) :
    (address_for_slot (target_id * LUN_COUNT + lun)).1 = target_id := by
  simp only [address_for_slot, LUN_COUNT] at hlun ⊢
  omega

omit [ScsiTarget τ] [StorageMedium μ] in
theorem target_id_lt_of_present {target_id : Nat} (h : bus.target_present target_id = true) :
    target_id < TARGET_COUNT := by
  simp only [target_present, Bool.and_eq_true, decide_eq_true_eq] at h
  exact h.1

omit [ScsiTarget τ] [StorageMedium μ] in
theorem find_first_slot {target_id : Nat} (h : bus.target_present target_id = true) :
    ((List.range' (target_id * 8) 8).find? fun slot => (bus.attachment slot).isSome) = some (bus.first_slot target_id) := by
  have hsome : ((List.range' (target_id * 8) 8).find? fun slot => (bus.attachment slot).isSome).isSome = true := by
    simp only [target_present, Bool.and_eq_true, List.any_eq_true] at h
    obtain ⟨_, lun, hlun, hattached⟩ := h
    rw [List.find?_isSome]
    refine ⟨target_id * 8 + lun, ?_, hattached⟩
    have hbound : lun < 8 := List.mem_range.mp hlun
    simp only [List.mem_range'_1]
    omega
  obtain ⟨slot, hslot⟩ := Option.isSome_iff_exists.mp hsome
  simp only [first_slot, hslot, Option.getD_some]

omit [ScsiTarget τ] [StorageMedium μ] in
theorem first_slot_attached {target_id : Nat} (h : bus.target_present target_id = true) :
    (bus.attachment (bus.first_slot target_id)).isSome = true := by
  have hfound := find_first_slot h
  exact List.find?_some (p := fun slot => (bus.attachment slot).isSome) hfound

omit [ScsiTarget τ] [StorageMedium μ] in
/-- The synthetic response belongs to the connected target. -/
theorem first_slot_address {target_id : Nat} (h : bus.target_present target_id = true) :
    (address_for_slot (bus.first_slot target_id)).1 = target_id := by
  have hmem := List.mem_of_find?_eq_some (find_first_slot h)
  simp only [List.mem_range'_1] at hmem
  simp only [address_for_slot, LUN_COUNT]
  omega

omit [ScsiTarget τ] [StorageMedium μ] in
theorem start_missing_lun_response_consistent (h : bus.Addressed) (hidle : bus.active_transaction = none)
    {old : ScsiConnection} (hold : bus.connection = some old) (cdb : List U8) :
    (bus.start_missing_lun_response old.target_id cdb).PhaseConsistent := by
  unfold start_missing_lun_response
  split
  · exact h.set_status hidle .CheckCondition
  · split
    · exact h.set_status hidle .Good
    · have haddress := first_slot_address (h old hold).1
      exact @Addressed.set_phase _ _ (bus.set_transfer (bus.first_slot old.target_id) _) h _ hold .DataIn
        ⟨_, rfl, rfl, haddress⟩

/-- What a started command leaves fits the phase it enters. -/
theorem StartsTransaction.fits {slot : Nat} {start : ScsiCommandStart} {active : Option ScsiTransaction}
    {connection : ScsiConnection} (h : StartsTransaction slot start active)
    (haddress : (address_for_slot slot).1 = connection.target_id) :
    (∀ byte_count, start = .DataIn byte_count → InformationFits active connection .DataIn) ∧
      ∀ byte_count, start = .DataOut byte_count → InformationFits active connection .DataOut := by
  refine ⟨fun byte_count hstart => ?_, fun byte_count hstart => ?_⟩
  · subst hstart
    obtain ⟨transfer, hactive, hdirection⟩ := h
    exact ⟨_, hactive, hdirection, haddress⟩
  · subst hstart
    obtain ⟨transfer, hactive, hdirection⟩ := h
    exact ⟨_, hactive, hdirection, haddress⟩

/-- A complete CDB always starts, and its phase fits what it started. -/
theorem execute_connected_command_consistent {old connection : ScsiConnection} (h : bus.Addressed)
    (hold : bus.connection = some old) (hidle : bus.active_transaction = none)
    (htarget : connection.target_id = old.target_id) (hlun : connection.lun = old.lun) :
    (bus.execute_connected_command connection).1 = .ok () ∧
      (bus.execute_connected_command connection).2.PhaseConsistent := by
  have hbound : connection.lun < LUN_COUNT := hlun ▸ (h old hold).2
  have hcdb : (cdb_byte connection.cdb 1 >>> 5).toNat < LUN_COUNT := by
    have hbyte := (cdb_byte connection.cdb 1).isLt
    rw [BitVec.toNat_ushiftRight, Nat.shiftRight_eq_div_pow]
    simp only [LUN_COUNT]
    omega
  obtain ⟨addressed, haddressed, htarget', hlun'⟩ : ∃ addressed : ScsiConnection, addressed =
      (if !connection.identified && cdb_byte connection.cdb 0 >>> 5 == 0 then
        { connection with lun := (cdb_byte connection.cdb 1 >>> 5).toNat } else connection) ∧
      addressed.target_id = old.target_id ∧ addressed.lun < LUN_COUNT := by
    refine ⟨_, rfl, ?_, ?_⟩
    · split
      · exact htarget
      · exact htarget
    · split
      · exact hcdb
      · exact hbound
  have hset := h.set_connection hold htarget' hlun'
  have hslot := target_slot_eq_some (target_id_lt_of_present (h old hold).1) hlun'
  rw [← htarget'] at hslot
  obtain ⟨start, hstart, hsame, hstarts⟩ :=
    @start_command_spec _ _ (bus.set_connection addressed) _ _ _ _ _ hslot addressed.cdb hidle
  have hconnection := hsame.connection.trans (show (bus.set_connection addressed).connection = some addressed from rfl)
  have hafter := hset.of_same hsame
  have hfits := hstarts.fits (address_for_target_slot hlun')
  simp only [execute_connected_command, ← haddressed]
  generalize (bus.set_connection addressed).start_command addressed.target_id addressed.lun addressed.cdb = result at *
  obtain ⟨result, next⟩ := result
  simp only at hstart hconnection hafter hfits hstarts
  subst hstart
  cases start with
  | Complete status => exact ⟨rfl, hafter.set_status hstarts status⟩
  | DataIn byte_count =>
    exact ⟨rfl, hafter.set_phase hconnection .DataIn (InformationFits_congr rfl rfl (hfits.1 byte_count rfl))⟩
  | DataOut byte_count =>
    exact ⟨rfl, hafter.set_phase hconnection .DataOut (InformationFits_congr rfl rfl (hfits.2 byte_count rfl))⟩
  | SelectionTimeout =>
    exact ⟨rfl, start_missing_lun_response_consistent hafter hstarts hconnection addressed.cdb⟩

/-! ## Steps -/

theorem write_information_consistent (h : bus.PhaseConsistent) (value : U8) (last : Bool) :
    (bus.write_information value last).2.PhaseConsistent := by
  unfold write_information
  split
  · exact h
  case h_2 connection hconnection =>
    have hfits := h.connected connection hconnection
    have haddressed := h.addressed connection hconnection
    split
    case h_1 hphase =>
      split
      · exact h
      · dsimp only
        split
        · exact finish_message_out_consistent h hconnection hphase rfl rfl rfl rfl
        · refine .set_connection h.addressed hconnection rfl haddressed.2 ?_
          simp only [ConnectionFits, hphase] at hfits ⊢
          exact InformationFits_congr rfl rfl hfits
    case h_2 hphase =>
      simp only [ConnectionFits, hphase] at hfits
      obtain ⟨hidle, hshort⟩ := hfits
      split
      · exact h
      · dsimp only
        split
        · have hexecuted := @execute_connected_command_consistent _ _ bus _ _ _
            { connection with cdb := connection.cdb ++ [value] } h.addressed hconnection hidle rfl rfl
          generalize bus.execute_connected_command { connection with cdb := connection.cdb ++ [value] } = result
            at hexecuted
          obtain ⟨result, next⟩ := result
          obtain ⟨rfl, hnext⟩ := hexecuted
          exact hnext
        case isFalse hincomplete =>
          refine .set_connection h.addressed hconnection rfl haddressed.2 ?_
          simp only [ConnectionFits, hphase]
          refine ⟨hidle, ?_⟩
          have hlength : (connection.cdb ++ [value]).length = connection.cdb.length + 1 := by simp
          simp only at hincomplete ⊢
          have hpos := cdb_length_pos (cdb_byte (connection.cdb ++ [value]) 0)
          cases hcdb : connection.cdb with
          | nil =>
            rw [hcdb] at hpos
            simp only [List.nil_append, List.length_cons, List.length_nil] at hpos ⊢
            omega
          | cons opcode rest =>
            rw [hcdb] at hincomplete hshort hlength
            simp only [cdb_byte, List.cons_append, List.getElem?_cons_zero, Option.getD_some] at *
            omega
    case h_3 hphase =>
      obtain ⟨result, hresult, hadvances⟩ | ⟨error, herror, hkept, _⟩ :=
        @transfer_data_out_spec _ _ _ bus _ _ 1 (fun _ (state : Unit) => (some [value], state)) ()
      all_goals
        generalize bus.transfer_data_out 1 (fun _ (state : Unit) => (some [value], state)) () = transferred at *
        obtain ⟨outcome, next, state⟩ := transferred
      · obtain rfl := hresult
        exact h.observe hadvances
      · obtain rfl := herror
        obtain ⟨rfl, _⟩ : next = bus ∧ state = () := by simpa using hkept
        exact h
    · exact h

theorem read_information_consistent (h : bus.PhaseConsistent) : bus.read_information.2.PhaseConsistent := by
  unfold read_information
  split
  · exact h
  case h_2 connection hconnection =>
    have hfits := h.connected connection hconnection
    have haddressed := h.addressed connection hconnection
    split
    case h_1 hphase =>
      obtain ⟨result, hresult, hadvances⟩ | ⟨error, herror, hkept, _⟩ :=
        @transfer_data_in_spec _ _ (Option U8) bus _ _ 1 (fun bytes _ => (true, bytes[0]?)) none
      all_goals
        generalize bus.transfer_data_in 1 (fun bytes (_ : Option U8) => (true, bytes[0]?)) none = transferred at *
        obtain ⟨outcome, next, state⟩ := transferred
      · obtain rfl := hresult
        exact h.observe hadvances
      · obtain rfl := herror
        obtain ⟨rfl, _⟩ : next = bus ∧ state = none := by simpa using hkept
        exact h
    case h_2 hphase =>
      refine .set_connection h.addressed hconnection rfl haddressed.2 ?_
      simp only [ConnectionFits, hphase] at hfits ⊢
      exact hfits
    case h_3 hphase =>
      split
      · exact h
      · refine .set_connection h.addressed hconnection rfl haddressed.2 ?_
        simp only [ConnectionFits, hphase] at hfits ⊢
        split
        case isTrue hcomplete => rwa [if_pos hcomplete] at hfits
        case isFalse hresponse =>
          rw [if_neg hresponse] at hfits
          exact InformationFits_congr rfl rfl hfits
    · exact h

omit [ScsiTarget τ] [StorageMedium μ] in
/-- An acknowledgement leads on; only attention at COMMAND COMPLETE can lead back
to a phase the command has left. -/
theorem acknowledge_message_consistent (h : bus.PhaseConsistent) (attention : Bool)
    (haccepted : bus.attention_at_completion (.AcknowledgeMessage attention) = false) :
    (bus.acknowledge_message attention).PhaseConsistent := by
  unfold acknowledge_message
  split
  · exact h
  case h_2 connection hconnection =>
    have hfits := h.connected connection hconnection
    have haddressed := h.addressed connection hconnection
    split
    · exact h
    case isFalse hmessage =>
      have hphase : connection.phase = .MessageIn := by simpa using hmessage
      simp only [ConnectionFits, hphase] at hfits
      split
      case isTrue hattention =>
        subst hattention
        refine .set_connection h.addressed hconnection rfl haddressed.2 ?_
        simp only [ConnectionFits]
        refine InformationFits_congr rfl rfl ?_
        split at hfits
        case isTrue hcomplete =>
          have hstatus : connection.return_phase = .Status := by
            simpa [attention_at_completion, hconnection, hphase, hcomplete] using haccepted
          rw [hstatus]
          exact hfits
        case isFalse => exact hfits
      case isFalse =>
        split
        · split
          case isTrue hcomplete =>
            rw [if_pos hcomplete] at hfits
            exact ⟨fun _ => hfits, fun _ hnone => by simp at hnone, fun _ hnone => by simp at hnone⟩
          case isFalse hresponse =>
            rw [if_neg hresponse] at hfits
            exact .set_connection h.addressed hconnection rfl haddressed.2
              (ConnectionFits_of_information (InformationFits_congr rfl rfl hfits))
        · exact h

omit [ScsiTarget τ] [StorageMedium μ] in
theorem assert_attention_consistent (h : bus.PhaseConsistent) : bus.assert_attention.PhaseConsistent := by
  unfold assert_attention
  split
  · exact h
  case h_2 connection hconnection =>
    have hfits := h.connected connection hconnection
    have haddressed := h.addressed connection hconnection
    split
    · exact h
    case isFalse hinformation =>
      refine .set_connection h.addressed hconnection rfl haddressed.2 ?_
      have hphase : InformationFits bus.active_transaction connection connection.phase := by
        unfold ConnectionFits at hfits
        split at hfits
        case h_1 hout => exact absurd (Or.inr hout) hinformation
        case h_2 hin => exact absurd (Or.inl hin) hinformation
        case h_3 => exact hfits
      simp only [ConnectionFits]
      exact InformationFits_congr rfl rfl hphase

omit [ScsiTarget τ] [StorageMedium μ] in
theorem select_consistent (h : bus.PhaseConsistent) (target_id : Nat) (attention : Bool) :
    (bus.select target_id attention).2.PhaseConsistent := by
  unfold select
  split
  · exact h
  case isFalse hfree =>
    have hidle : bus.active_transaction = none := by simp_all
    split
    · exact h
    case isFalse hpresent =>
      have hfound : bus.target_present target_id = true := by simpa using hpresent
      refine ⟨fun hnone => by simp [ScsiBus.set_connection] at hnone, fun connection hconnection => ?_,
        fun connection hconnection => ?_⟩
      all_goals
        simp only [ScsiBus.set_connection, Option.some.injEq] at hconnection
        subst hconnection
      · have hcommand : 0 < cdb_length (cdb_byte [] 0) := by decide
        cases attention with
        | true => exact ⟨hidle, hcommand⟩
        | false => exact ⟨hidle, hcommand⟩
      · exact ⟨hfound, (by decide : (0 : Nat) < LUN_COUNT)⟩

theorem step_consistent (h : bus.PhaseConsistent) (event : InitiatorEvent)
    (haccepted : bus.attention_at_completion event = false) : (bus.step event).PhaseConsistent := by
  cases event with
  | Select target_id attention => exact select_consistent h target_id attention
  | WriteInformation value last => exact write_information_consistent h value last
  | ReadInformation => exact read_information_consistent h
  | AcknowledgeMessage attention => exact acknowledge_message_consistent h attention haccepted
  | AssertAttention => exact assert_attention_consistent h
  | TransferDataIn maximum_bytes accept =>
    simp only [step]
    obtain ⟨result, hresult, hadvances⟩ | ⟨error, herror, hkept, _⟩ :=
      @transfer_data_in_spec _ _ _ bus _ _ maximum_bytes (fun bytes (state : Unit) => (accept bytes, state)) ()
    · rw [hresult]
      exact h.observe hadvances
    · rw [herror, hkept]
      exact h
  | TransferDataOut maximum_bytes provided =>
    simp only [step]
    obtain ⟨result, hresult, hadvances⟩ | ⟨error, herror, hkept, _⟩ :=
      @transfer_data_out_spec _ _ _ bus _ _ maximum_bytes (fun _ (state : Unit) => (provided, state)) ()
    · rw [hresult]
      exact h.observe hadvances
    · rw [herror, hkept]
      exact h
  | CancelTransaction => exact cancel_transaction_consistent bus

theorem run_phase_consistent (h : bus.PhaseConsistent) (events : List InitiatorEvent)
    (haccepted : bus.completions_accepted events = true) : (bus.run events).PhaseConsistent := by
  induction events generalizing bus with
  | nil => exact h
  | cons event events ih =>
    simp only [completions_accepted, Bool.and_eq_true, Bool.not_eq_true'] at haccepted
    exact ih (step_consistent h event haccepted.1) haccepted.2

/-! ## What a reached bus promises -/

/-- The connected phase agrees with the state of the command. -/
structure PhaseSound (bus : ScsiBus τ μ) : Prop where
  data_in : bus.phase = some .DataIn → ∃ connection transaction, bus.connection = some connection ∧
    bus.active_transaction = some transaction ∧ transaction.transfer.direction = .In ∧
    (address_for_slot transaction.target_slot).1 = connection.target_id
  data_out : bus.phase = some .DataOut → ∃ connection transaction, bus.connection = some connection ∧
    bus.active_transaction = some transaction ∧ transaction.transfer.direction = .Out ∧
    (address_for_slot transaction.target_slot).1 = connection.target_id
  command : bus.phase = some .Command → ∃ connection, bus.connection = some connection ∧
    connection.cdb.length < cdb_length (cdb_byte connection.cdb 0)
  connected : bus.active_transaction.isSome = true → bus.connection.isSome = true

omit [ScsiTarget τ] [StorageMedium μ] in
theorem PhaseConsistent.sound (h : bus.PhaseConsistent) : bus.PhaseSound := by
  have hphase (phase : ScsiPhase) (hbus : bus.phase = some phase) :
      ∃ connection, bus.connection = some connection ∧ connection.phase = phase ∧
        ConnectionFits bus.active_transaction connection := by
    obtain ⟨connection, hconnection, hphase⟩ := Option.map_eq_some_iff.mp hbus
    exact ⟨connection, hconnection, hphase, h.connected connection hconnection⟩
  constructor
  case data_in =>
    intro hbus
    obtain ⟨connection, hconnection, hin, hfits⟩ := hphase .DataIn hbus
    simp only [ConnectionFits, hin] at hfits
    obtain ⟨transaction, hactive, hdirection, htarget⟩ := hfits
    exact ⟨connection, transaction, hconnection, hactive, hdirection, htarget⟩
  case data_out =>
    intro hbus
    obtain ⟨connection, hconnection, hout, hfits⟩ := hphase .DataOut hbus
    simp only [ConnectionFits, hout] at hfits
    obtain ⟨transaction, hactive, hdirection, htarget⟩ := hfits
    exact ⟨connection, transaction, hconnection, hactive, hdirection, htarget⟩
  case command =>
    intro hbus
    obtain ⟨connection, hconnection, hcommand, hfits⟩ := hphase .Command hbus
    simp only [ConnectionFits, hcommand] at hfits
    exact ⟨connection, hconnection, hfits.2⟩
  case connected =>
    intro hactive
    by_contra hfree
    have hnone := h.free (by simpa using hfree)
    simp [hnone] at hactive

/-- A free bus with the given targets attached. -/
def with_targets (targets : Vector (Option (TargetAttachment τ μ)) TARGET_SLOT_COUNT) : ScsiBus τ μ :=
  { targets, active_transaction := none, connection := none }

omit [ScsiTarget τ] [StorageMedium μ] in
theorem with_targets_consistent (targets : Vector (Option (TargetAttachment τ μ)) TARGET_SLOT_COUNT) :
    (with_targets targets).PhaseConsistent :=
  ⟨fun _ => rfl, fun _ hnone => by simp [with_targets] at hnone, fun _ hnone => by simp [with_targets] at hnone⟩

/-- Whatever is attached, and in every order of the initiator's operations that
raises no attention at a completion, the phase agrees with the command. -/
theorem run_phase_sound (targets : Vector (Option (TargetAttachment τ μ)) TARGET_SLOT_COUNT)
    (events : List InitiatorEvent) (haccepted : (with_targets targets).completions_accepted events = true) :
    ((with_targets targets).run events).PhaseSound :=
  (run_phase_consistent (with_targets_consistent targets) events haccepted).sound

/-- A lone CD-ROM drive without a disc. -/
def lone_cdrom : Vector (Option (TargetAttachment ScsiTargetSnapshot MemoryStorage)) TARGET_SLOT_COUNT :=
  (Vector.replicate TARGET_SLOT_COUNT none).set 0
    (some { target := .Cdrom .new_empty, backing := .Removable none })

theorem completions_accepted_take {events : List InitiatorEvent} (haccepted : bus.completions_accepted events = true)
    (count : Nat) : bus.completions_accepted (events.take count) = true := by
  induction events generalizing bus count with
  | nil => rw [List.take_nil]; rfl
  | cons event events ih =>
    cases count with
    | zero => rfl
    | succ count =>
      simp only [completions_accepted, Bool.and_eq_true] at haccepted
      simp only [List.take_succ_cons, completions_accepted, Bool.and_eq_true]
      exact ⟨haccepted.1, ih haccepted.2 count⟩

/-- INQUIRY for eight bytes: IDENTIFY, the command, the data in two chunks with a
refused one between them, the status and the COMMAND COMPLETE, which is accepted. -/
def whole_inquiry : List InitiatorEvent :=
  [.Select 0 true, .WriteInformation 0x80 true, .WriteInformation 0x12 false, .WriteInformation 0 false,
    .WriteInformation 0 false, .WriteInformation 0 false, .WriteInformation 8 false, .WriteInformation 0 true,
    .TransferDataIn 5 fun _ => true, .TransferDataIn 5 fun _ => false, .TransferDataIn 5 fun _ => true, .ReadInformation,
    .ReadInformation, .AcknowledgeMessage false]

theorem run_phase_sound_inquiry :
    (with_targets lone_cdrom).completions_accepted whole_inquiry = true ∧
      (List.range 15).map (fun count => ((with_targets lone_cdrom).run (whole_inquiry.take count)).phase) =
        [none, some .MessageOut, some .Command, some .Command, some .Command, some .Command, some .Command, some .Command,
          some .DataIn, some .DataIn, some .DataIn, some .Status, some .MessageIn, some .MessageIn, none] ∧
      ∀ count, ((with_targets lone_cdrom).run (whole_inquiry.take count)).PhaseSound := by
  have haccepted : (with_targets lone_cdrom).completions_accepted whole_inquiry = true := by decide +kernel
  exact ⟨haccepted, by decide +kernel, fun count =>
    run_phase_sound lone_cdrom _ (completions_accepted_take haccepted count)⟩

/-- TEST UNIT READY to its COMMAND COMPLETE, acknowledged with attention, and a
NO OPERATION message. -/
def attention_at_command_complete : List InitiatorEvent :=
  .Select 0 false :: List.replicate 6 (.WriteInformation 0 false)
    ++ [.ReadInformation, .ReadInformation, .AcknowledgeMessage true, .WriteInformation 8 true]

/-- The message leads back to the command phase of a command long complete. -/
theorem attention_at_command_complete_unsound :
    ¬ ∀ (targets : Vector (Option (TargetAttachment ScsiTargetSnapshot MemoryStorage)) TARGET_SLOT_COUNT) events,
      ((with_targets targets).run events).PhaseSound := by
  intro h
  have hsound := h lone_cdrom attention_at_command_complete
  have hphase : ((with_targets lone_cdrom).run attention_at_command_complete).phase = some .Command := by decide
  have hcomplete : ((with_targets lone_cdrom).run attention_at_command_complete).connection.all
      (fun connection => cdb_length (cdb_byte connection.cdb 0) ≤ connection.cdb.length) = true := by decide
  obtain ⟨connection, hconnection, hshort⟩ := hsound.command hphase
  simp only [hconnection, Option.all_some, decide_eq_true_eq] at hcomplete
  omega

end ScsiBus

end se_device.scsi
