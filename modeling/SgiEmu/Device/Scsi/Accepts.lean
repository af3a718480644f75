import SgiEmu.Device.Scsi.Phase

open se_core

namespace se_device.scsi

namespace ScsiBus

variable {τ μ σ : Type} [ScsiTarget τ] [StorageMedium μ] {bus next : ScsiBus τ μ}

/-! ## What a consistent bus accepts -/

/-- Whether a held message has a byte left. -/
def message_left (bus : ScsiBus τ μ) : Bool :=
  bus.connection.any fun connection => connection.message_offset < connection.message_in.length

/-- Whether the initiator's message may grow. -/
def message_room (bus : ScsiBus τ μ) : Bool := bus.connection.any fun connection => connection.message_out.length != 257

omit [ScsiTarget τ] [StorageMedium μ] in
theorem connected_of_phase {phase : ScsiPhase} (h : bus.phase = some phase) :
    ∃ connection, bus.connection = some connection ∧ connection.phase = phase := Option.map_eq_some_iff.mp h

theorem cdb_length_le (opcode : U8) : cdb_length opcode ≤ 16 := by
  unfold cdb_length
  split
  · decide
  · split
    all_goals decide

theorem write_information_ok {phase : ScsiPhase} (h : bus.PhaseConsistent) (hphase : bus.phase = some phase)
    (houtput : phase.input = false) (hroom : phase = .MessageOut → bus.message_room = true) (value : U8) (last : Bool) :
    ∃ consumed next, bus.write_information value last = (.ok consumed, next) ∧ next.PhaseConsistent := by
  obtain ⟨connection, hconnection, rfl⟩ := connected_of_phase hphase
  have hconsistent := write_information_consistent h value last
  have hfits := h.connected connection hconnection
  suffices hok : ∃ consumed, (bus.write_information value last).1 = .ok consumed by
    obtain ⟨consumed, hok⟩ := hok
    exact ⟨consumed, _, Prod.ext hok rfl, hconsistent⟩
  unfold write_information
  simp only [hconnection]
  split
  case h_1 hcase =>
    have hlength : connection.message_out.length ≠ 257 := by simpa [message_room, hconnection] using hroom hcase
    rw [if_neg hlength]
    split
    · exact ⟨true, rfl⟩
    · exact ⟨true, rfl⟩
  case h_2 hcase =>
    simp only [ConnectionFits, hcase] at hfits
    obtain ⟨hidle, hshort⟩ := hfits
    have hbound := cdb_length_le (cdb_byte connection.cdb 0)
    rw [if_neg (by omega)]
    split
    · have hexecuted := @execute_connected_command_consistent _ _ bus _ _ _
        { connection with cdb := connection.cdb ++ [value] } h.addressed hconnection hidle rfl rfl
      generalize bus.execute_connected_command { connection with cdb := connection.cdb ++ [value] } = result at hexecuted
      obtain ⟨result, next⟩ := result
      obtain ⟨rfl, _⟩ := hexecuted
      exact ⟨true, rfl⟩
    · exact ⟨true, rfl⟩
  case h_3 hcase =>
    simp only [ConnectionFits, hcase] at hfits
    obtain ⟨transaction, hactive, hdirection, _⟩ := hfits
    have hout : bus.active_data_direction = some .Out := by simp [active_data_direction, hactive, hdirection]
    obtain ⟨result, hresult, _⟩ | ⟨error, _, _, hother⟩ :=
      @transfer_data_out_spec _ _ _ bus _ _ 1 (fun _ (state : Unit) => (some [value], state)) ()
    · generalize bus.transfer_data_out 1 (fun _ (state : Unit) => (some [value], state)) () = transferred at hresult
      obtain ⟨outcome, next, state⟩ := transferred
      obtain rfl := hresult
      exact ⟨_, rfl⟩
    · exact absurd hout (hother (by simp))
  case h_4 hmessage hcommand hdata =>
    cases hcase : connection.phase with
    | MessageOut => exact absurd hcase hmessage
    | Command => exact absurd hcase hcommand
    | DataOut => exact absurd hcase hdata
    | DataIn => simp [hcase, ScsiPhase.input, ScsiPhase.bits] at houtput
    | Status => simp [hcase, ScsiPhase.input, ScsiPhase.bits] at houtput
    | MessageIn => simp [hcase, ScsiPhase.input, ScsiPhase.bits] at houtput

theorem read_information_ok {phase : ScsiPhase} (h : bus.PhaseConsistent) (hphase : bus.phase = some phase)
    (hinput : phase.input = true) (hmessage : phase = .MessageIn → bus.message_left = true) :
    ∃ value next, bus.read_information = (.ok value, next) ∧ next.PhaseConsistent ∧
      (value = none → phase = .DataIn) := by
  obtain ⟨connection, hconnection, rfl⟩ := connected_of_phase hphase
  have hconsistent := read_information_consistent h
  have hfits := h.connected connection hconnection
  suffices hok : ∃ value, bus.read_information.1 = .ok value ∧ (value = none → connection.phase = .DataIn) by
    obtain ⟨value, hok, hnone⟩ := hok
    exact ⟨value, _, Prod.ext hok rfl, hconsistent, hnone⟩
  unfold read_information
  simp only [hconnection]
  cases hcase : connection.phase with
  | DataIn =>
    simp only [ConnectionFits, hcase] at hfits
    obtain ⟨transaction, hactive, hdirection, _⟩ := hfits
    have hin : bus.active_data_direction = some .In := by simp [active_data_direction, hactive, hdirection]
    obtain ⟨result, hresult, _⟩ | ⟨error, _, _, hother⟩ :=
      @transfer_data_in_spec _ _ (Option U8) bus _ _ 1 (fun bytes _ => (true, bytes[0]?)) none
    · generalize bus.transfer_data_in 1 (fun bytes (_ : Option U8) => (true, bytes[0]?)) none = transferred at hresult
      obtain ⟨outcome, next, state⟩ := transferred
      obtain rfl := hresult
      exact ⟨_, rfl, fun _ => rfl⟩
    · exact absurd hin (hother (by simp))
  | Status => exact ⟨_, rfl, by simp⟩
  | MessageIn =>
    have hleft : connection.message_offset < connection.message_in.length := by
      simpa [message_left, hconnection] using hmessage hcase
    simp only [List.getElem?_eq_getElem hleft]
    exact ⟨_, rfl, by simp⟩
  | MessageOut => simp [hcase, ScsiPhase.input, ScsiPhase.bits] at hinput
  | Command => simp [hcase, ScsiPhase.input, ScsiPhase.bits] at hinput
  | DataOut => simp [hcase, ScsiPhase.input, ScsiPhase.bits] at hinput

/-- Reading the status leads to a held COMMAND COMPLETE. -/
theorem read_status (h : bus.phase = some .Status) :
    ∃ connection, bus.connection = some connection ∧ bus.read_information =
      (.ok (some connection.status.byte),
        bus.set_connection { connection with phase := .MessageIn, message_in := [0], message_offset := 0 }) := by
  obtain ⟨connection, hconnection, hphase⟩ := connected_of_phase h
  exact ⟨connection, hconnection, by simp only [read_information, hconnection, hphase]⟩

omit [ScsiTarget τ] [StorageMedium μ] in
/-- A consistent bus without a connection can be selected. -/
theorem select_ok (h : bus.PhaseConsistent) (hfree : bus.phase = none) (target_id : Nat) (attention : Bool) :
    ∃ found next, bus.select target_id attention = (.ok found, next) ∧ next.PhaseConsistent ∧
      (found = true → ∃ connection, next.connection = some connection ∧ connection.cdb = [] ∧
        connection.message_out = [] ∧ connection.return_phase = .Command ∧
        connection.phase = if attention then .MessageOut else .Command) := by
  have hconsistent := select_consistent h target_id attention
  have hconnection : bus.connection = none := Option.map_eq_none_iff.mp hfree
  have hidle := h.free hconnection
  unfold select at hconsistent ⊢
  simp only [hconnection, hidle, Option.isSome_none, Bool.or_self, Bool.false_eq_true, if_false] at hconsistent ⊢
  by_cases habsent : (!bus.target_present target_id) = true
  · rw [if_pos habsent] at hconsistent ⊢
    exact ⟨false, bus, rfl, hconsistent, by simp⟩
  · rw [if_neg habsent] at hconsistent ⊢
    exact ⟨true, _, rfl, hconsistent, fun _ => ⟨_, rfl, rfl, rfl, rfl, rfl⟩⟩

omit [ScsiTarget τ] [StorageMedium μ] in
/-- An identify message sent alone names the logical unit and leads back. -/
theorem finish_identify {connection : ScsiConnection} (hempty : connection.message_out = [])
    {value : U8} (hidentify : value &&& 0x80 ≠ 0) :
    bus.finish_message_out { connection with message_out := connection.message_out ++ [value] } =
      bus.set_connection
        { connection with
          message_out := [], lun := (value &&& 7).toNat, identified := true, phase := connection.return_phase } := by
  have hno_abort : value ≠ 6 := by
    rintro rfl
    exact hidentify (by decide)
  have hread : read_messages 0 [value] { connection with message_out := [] } [] =
      ({ connection with message_out := [], lun := (value &&& 7).toNat, identified := true }, []) := by
    unfold read_messages
    rw [if_pos hidentify]
    rfl
  simp only [finish_message_out, hempty, List.nil_append, List.cons.injEq, and_true, if_neg hno_abort, hread,
    List.isEmpty_nil, if_true]

omit [ScsiTarget τ] [StorageMedium μ] in
/-- Attention is deferred during a message and leads to Message Out elsewhere. -/
theorem assert_attention_phase {phase : ScsiPhase} (hphase : bus.phase = some phase) :
    (bus.assert_attention = bus ∧ phase = .MessageIn) ∨ bus.assert_attention.phase = some .MessageOut := by
  obtain ⟨connection, hconnection, rfl⟩ := connected_of_phase hphase
  unfold assert_attention
  simp only [hconnection]
  by_cases hin : connection.phase = .MessageIn
  · rw [if_pos (Or.inl hin)]
    exact Or.inl ⟨rfl, hin⟩
  · refine Or.inr ?_
    by_cases hout : connection.phase = .MessageOut
    · rw [if_pos (Or.inr hout), hphase, hout]
    · rw [if_neg (by simp [hin, hout])]
      rfl

omit [ScsiTarget τ] [StorageMedium μ] in
theorem set_status_phase (status : ScsiStatus) : (bus.set_status status).phase ≠ some .MessageIn := by
  cases hconnection : bus.connection with
  | none => simp [set_status, phase, hconnection]
  | some connection => simp [set_status, phase, hconnection]

omit [ScsiTarget τ] [StorageMedium μ] in
theorem set_phase_phase {phase : ScsiPhase} (hphase : phase ≠ .MessageIn) : (bus.set_phase phase).phase ≠ some .MessageIn := by
  cases hconnection : bus.connection with
  | none => simp [set_phase, ScsiBus.phase, hconnection]
  | some connection => simpa [set_phase, ScsiBus.phase, hconnection] using hphase

/-- A command that started is in no message phase. -/
theorem execute_connected_command_phase (connection : ScsiConnection)
    (hok : (bus.execute_connected_command connection).1 = .ok ()) :
    (bus.execute_connected_command connection).2.phase ≠ some .MessageIn := by
  unfold execute_connected_command at hok ⊢
  dsimp only at hok ⊢
  generalize (if (!connection.identified && cdb_byte connection.cdb 0 >>> 5 == 0) = true then
    { connection with lun := (cdb_byte connection.cdb 1 >>> 5).toNat } else connection) = addressed at hok ⊢
  generalize (bus.set_connection addressed).start_command addressed.target_id addressed.lun addressed.cdb = result
    at hok ⊢
  obtain ⟨result, next⟩ := result
  cases result with
  | error error => simp at hok
  | ok start =>
    cases start with
    | Complete status => exact set_status_phase status
    | DataIn byte_count => exact set_phase_phase (by simp)
    | DataOut byte_count => exact set_phase_phase (by simp)
    | SelectionTimeout =>
      dsimp only
      unfold start_missing_lun_response
      split
      · exact set_status_phase _
      · split
        · exact set_status_phase _
        · exact set_phase_phase (by simp)

end ScsiBus

end se_device.scsi
