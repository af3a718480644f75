import SgiEmu.Board.Scsi
import SgiEmu.Device.Wd33c93b.Service

open se_core se_device.scsi se_device.wd33c93b

namespace se_device.scsi.ScsiBus

variable {τ μ σ : Type} [ScsiTarget τ] [StorageMedium μ] {bus : ScsiBus τ μ}

/-- A Data In transfer leaves the caller's state as it was or as the caller left it. -/
theorem transfer_data_in_state {P : σ → Prop} {accept : List U8 → σ → Bool × σ}
    (haccept : ∀ bytes state, P state → P (accept bytes state).2) (maximum_bytes : Nat) {state : σ} (h : P state) :
    P (bus.transfer_data_in maximum_bytes accept state).2.2 := by
  unfold transfer_data_in
  split
  · exact h
  · split
    · unfold transfer_immediate_data_in
      dsimp only
      split
      · exact haccept _ _ h
      · split
        all_goals exact haccept _ _ h
    · unfold transfer_storage_data_in
      dsimp only
      split
      · exact h
      · split
        · exact h
        · split
          · exact h
          · split
            · exact haccept _ _ h
            · split
              all_goals exact haccept _ _ h
    · exact h

end se_device.scsi.ScsiBus

namespace se_machine.ip12.ScsiPath

variable {τ μ δ : Type} [ScsiTarget τ] [StorageMedium μ] {dma : DmaEngine δ} {path : ScsiPath τ μ δ}

/-! ## Conditions -/

/-- Whether an event meets the controller in a state it was made for. -/
def allows (path : ScsiPath τ μ δ) : ScsiEvent δ → Bool
  | .Service => path.pending.all (path.wd.service_allowed path.bus)
  | _ => true

variable (dma) in
/-- A run whose events are all allowed. -/
def serviceable (path : ScsiPath τ μ δ) : List (ScsiEvent δ) → Bool
  | [] => true
  | event :: events =>
    path.allows event && match path.step dma event with
      | .error _ => true
      | .ok path => path.serviceable events

/-- What an allowed step leaves: a consistent bus, unless an assertion of the board
ended it. -/
def Sound (result : Except ScsiFault (ScsiPath τ μ δ)) : Prop :=
  (∃ path, result = .ok path ∧ path.bus.PhaseConsistent) ∨ result = .error .Assertion

omit [ScsiTarget τ] [StorageMedium μ] in
theorem Sound.ok (h : path.bus.PhaseConsistent) : Sound (.ok path) := Or.inl ⟨path, rfl, h⟩

/-! ## Payload transfers -/

theorem consume_transfer_bytes_keeps {wd next : Wd33c93b} {byte_count : Nat} (h : wd.DmaPhase)
    (hconsumed : wd.consume_transfer_bytes byte_count = some next) : next.DmaPhase := by
  unfold Wd33c93b.consume_transfer_bytes at hconsumed
  split at hconsumed
  · split at hconsumed
    · simp at hconsumed
    · obtain rfl := Option.some.inj hconsumed
      exact h
  · split at hconsumed
    · simp at hconsumed
    · obtain rfl := Option.some.inj hconsumed
      exact h

theorem accept_data_in_keeps (bytes : List U8) (state : δ × Wd33c93b) (h : state.2.DmaPhase) :
    (accept_data_in dma bytes state).2.2.DmaPhase := by
  unfold accept_data_in
  split
  · exact h
  · split
    · exact h
    case h_2 hconsumed => exact consume_transfer_bytes_keeps h hconsumed

theorem finish_scsi_dma_window_sound (hdma : path.wd.DmaPhase) (status : Option ScsiStatus)
    (hnone : status = none → path.bus.PhaseConsistent)
    (hsome : ∀ ended, status = some ended → (path.bus.set_status ended).PhaseConsistent) :
    Sound (path.finish_scsi_dma_window dma status) := by
  obtain ⟨wd, bus, hfinished, hnext⟩ := Wd33c93b.finish_dma_ok hdma status hnone hsome
  simp only [finish_scsi_dma_window, hfinished]
  exact .ok hnext

theorem transfer_scsi_data_in_sound (turns wd_bytes_remaining : Nat) (h : path.bus.PhaseConsistent)
    (hdma : path.wd.DmaPhase) : Sound (path.transfer_scsi_data_in dma turns wd_bytes_remaining) := by
  induction turns generalizing path wd_bytes_remaining with
  | zero => exact .ok h
  | succ turns ih =>
    unfold transfer_scsi_data_in
    split
    · exact .ok h
    case h_2 window engine hwindow =>
      dsimp only
      split
      · exact .ok h
      · have hkept : (path.bus.transfer_data_in (min window.byte_count wd_bytes_remaining) (accept_data_in dma)
            (engine, path.wd)).2.2.2.DmaPhase :=
          @ScsiBus.transfer_data_in_state _ _ _ _ _ path.bus (fun state : δ × Wd33c93b => state.2.DmaPhase) _
            accept_data_in_keeps _ (engine, path.wd) hdma
        obtain ⟨result, hresult, hadvances⟩ | ⟨error, herror, hsame, _⟩ :=
          @ScsiBus.transfer_data_in_spec _ _ _ path.bus _ _ (min window.byte_count wd_bytes_remaining)
            (accept_data_in dma) (engine, path.wd)
        · have hobserved := h.observe hadvances
          generalize path.bus.transfer_data_in (min window.byte_count wd_bytes_remaining) (accept_data_in dma)
            (engine, path.wd) = transferred at hkept hresult hobserved
          obtain ⟨outcome, bus, engine', wd⟩ := transferred
          obtain rfl := hresult
          cases result with
          | Rejected => exact .ok hobserved
          | More transferred remaining =>
            dsimp only
            split
            · exact finish_scsi_dma_window_sound hkept none (fun _ => hobserved) (by simp)
            · exact ih _ hobserved hkept
          | Complete transferred status =>
            refine finish_scsi_dma_window_sound hkept (some status) (by simp) ?_
            rintro ended ⟨⟩
            exact hobserved
        · generalize path.bus.transfer_data_in (min window.byte_count wd_bytes_remaining) (accept_data_in dma)
            (engine, path.wd) = transferred at herror hsame
          obtain ⟨outcome, bus, engine', wd⟩ := transferred
          obtain rfl := herror
          obtain ⟨rfl, rfl, rfl⟩ : bus = path.bus ∧ engine' = engine ∧ wd = path.wd := by simpa using hsame
          exact .ok h

omit [ScsiTarget τ] [StorageMedium μ] in
/-- Delivered bytes leave the bus alone. -/
theorem advance_scsi_data_out_cases (hdma : path.wd.DmaPhase) (transferred : Nat) :
    path.advance_scsi_data_out dma transferred = .error .Assertion ∨
      ∃ next, path.advance_scsi_data_out dma transferred = .ok next ∧ next.bus = path.bus ∧ next.wd.DmaPhase := by
  unfold advance_scsi_data_out
  split
  · exact Or.inl rfl
  · split
    · exact Or.inl rfl
    case h_2 hconsumed => exact Or.inr ⟨_, rfl, rfl, consume_transfer_bytes_keeps hdma hconsumed⟩

theorem transfer_scsi_data_out_sound (turns wd_bytes_remaining : Nat) (h : path.bus.PhaseConsistent)
    (hdma : path.wd.DmaPhase) : Sound (path.transfer_scsi_data_out dma turns wd_bytes_remaining) := by
  induction turns generalizing path wd_bytes_remaining with
  | zero => exact .ok h
  | succ turns ih =>
    unfold transfer_scsi_data_out
    split
    · exact .ok h
    case h_2 window engine hwindow =>
      dsimp only
      split
      · exact .ok h
      · obtain ⟨result, hresult, hadvances⟩ | ⟨error, herror, hsame, _⟩ :=
          @ScsiBus.transfer_data_out_spec _ _ _ path.bus _ _ (min window.byte_count wd_bytes_remaining)
            (fun byte_count engine => dma.load engine byte_count) engine
        · have hobserved := h.observe hadvances
          generalize path.bus.transfer_data_out (min window.byte_count wd_bytes_remaining)
            (fun byte_count engine => dma.load engine byte_count) engine = outcome at hresult hobserved
          obtain ⟨outcome, bus, engine'⟩ := outcome
          obtain rfl := hresult
          cases result with
          | Rejected => exact .ok hobserved
          | More transferred remaining =>
            obtain hrefused | ⟨next, hadvanced, hbus, hnext⟩ :=
              @advance_scsi_data_out_cases _ _ _ dma { path with engine := engine', bus } hdma transferred
            · simp only [hrefused]
              exact Or.inr rfl
            · simp only [hadvanced]
              have hconsistent : next.bus.PhaseConsistent := hbus ▸ hobserved
              split
              · exact Or.inr rfl
              · split
                · exact finish_scsi_dma_window_sound hnext none (fun _ => hconsistent) (by simp)
                · exact ih _ hconsistent hnext
          | Complete transferred status =>
            dsimp only
            split
            · refine @finish_scsi_dma_window_sound _ _ _ _ _ dma { path with engine := engine', bus } hdma (some status)
                (by simp) ?_
              rintro ended ⟨⟩
              exact hobserved
            · obtain hrefused | ⟨next, hadvanced, hbus, hnext⟩ :=
                @advance_scsi_data_out_cases _ _ _ dma { path with engine := engine', bus } hdma transferred
              · simp only [hrefused]
                exact Or.inr rfl
              · simp only [hadvanced]
                refine finish_scsi_dma_window_sound hnext (some status) (by simp) ?_
                rintro ended ⟨⟩
                rw [hbus]
                exact hobserved
        · generalize path.bus.transfer_data_out (min window.byte_count wd_bytes_remaining)
            (fun byte_count engine => dma.load engine byte_count) engine = outcome at herror hsame
          obtain ⟨outcome, bus, engine'⟩ := outcome
          obtain rfl := herror
          obtain ⟨rfl, rfl⟩ : bus = path.bus ∧ engine' = engine := by simpa using hsame
          exact .ok h

theorem transfer_scsi_data_sound (h : path.bus.PhaseConsistent) (hdma : path.wd.DmaPhase) (direction : ScsiDataDirection)
    (wd_bytes_remaining : Nat) : Sound (path.transfer_scsi_data dma direction wd_bytes_remaining) := by
  unfold transfer_scsi_data
  split
  · exact finish_scsi_dma_window_sound hdma none (fun _ => h) (by simp)
  · cases direction with
    | In => exact transfer_scsi_data_in_sound wd_bytes_remaining wd_bytes_remaining h hdma
    | Out => exact transfer_scsi_data_out_sound wd_bytes_remaining wd_bytes_remaining h hdma

/-! ## Events -/

omit [ScsiTarget τ] [StorageMedium μ] in
theorem handle_scsi_register_write_consistent (h : path.bus.PhaseConsistent) :
    path.handle_scsi_register_write.bus.PhaseConsistent := by
  have hcompleted : (if path.wd.take_reset_completion.1 = true then
      { path with wd := path.wd.take_reset_completion.2, pending := none, bus := path.bus.cancel_transaction }
      else { path with wd := path.wd.take_reset_completion.2 }).bus.PhaseConsistent := by
    split
    · exact ScsiBus.cancel_transaction_consistent path.bus
    · exact h
  unfold handle_scsi_register_write
  dsimp only
  split
  · exact hcompleted
  · exact hcompleted

theorem process_scsi_event_sound (h : path.bus.PhaseConsistent)
    (hallowed : path.pending.all (path.wd.service_allowed path.bus) = true) : Sound (path.process_scsi_event dma) := by
  unfold process_scsi_event
  cases hpending : path.pending with
  | none => exact .ok h
  | some request =>
    rw [hpending] at hallowed
    obtain ⟨work, wd, bus, hserviced, hnext, hwork⟩ := Wd33c93b.service_request_serviced h request hallowed
    simp only [hserviced]
    cases work with
    | Idle => exact .ok hnext
    | Dma direction byte_count => exact transfer_scsi_data_sound hnext (hwork direction byte_count rfl) direction byte_count
    | SelectionWait duration => exact .ok hnext

/-- An allowed event leaves a consistent bus. -/
theorem step_sound (h : path.bus.PhaseConsistent) (event : ScsiEvent δ) (hallowed : path.allows event = true) :
    Sound (path.step dma event) := by
  cases event with
  | ReadPort port => exact .ok (handle_scsi_register_write_consistent h)
  | WritePort port value =>
    simp only [step]
    split
    · exact .ok h
    · exact .ok (handle_scsi_register_write_consistent h)
  | Service => exact process_scsi_event_sound h hallowed
  | AccessEngine access =>
    simp only [step, handle_hpc1_outputs]
    split
    case isTrue hpending =>
      have hdma : path.wd.DmaPhase := by
        simp only [Wd33c93b.dma_pending, Bool.and_eq_true, Bool.or_eq_true, beq_iff_eq] at hpending
        exact ⟨hpending.1.1.2, hpending.1.2⟩
      unfold transfer_active_scsi_data
      split
      · exact @transfer_scsi_data_sound _ _ _ _ _ dma { path with engine := access path.engine } h hdma _ _
      · exact .ok h
    · exact .ok h
  | ResetChannel => exact .ok (ScsiBus.cancel_transaction_consistent path.bus)

/-- A run of allowed events leaves a consistent bus. -/
theorem run_consistent (h : path.bus.PhaseConsistent) (events : List (ScsiEvent δ))
    (hallowed : path.serviceable dma events = true) : Sound (path.run dma events) := by
  induction events generalizing path with
  | nil => exact .ok h
  | cons event events ih =>
    simp only [serviceable, Bool.and_eq_true] at hallowed
    obtain ⟨hallows, hrest⟩ := hallowed
    unfold run
    obtain ⟨next, hstep, hnext⟩ | hstep := @step_sound _ _ _ _ _ dma path h event hallows
    · rw [hstep] at hrest ⊢
      exact ih hnext hrest
    · rw [hstep]
      exact Or.inr rfl

/-- In a run of allowed events from a constructed board, the controller is never
refused by the bus and never counts below zero. -/
theorem run_controller_sound (dma : DmaEngine δ) (clock_hz : Nat)
    (targets : Vector (Option (TargetAttachment τ μ)) TARGET_SLOT_COUNT) (engine : δ) (events : List (ScsiEvent δ))
    (hallowed : (ScsiPath.new clock_hz targets engine).serviceable dma events = true) (fault : WdFault) :
    (ScsiPath.new clock_hz targets engine).run dma events ≠ .error (.Controller fault) := by
  have hconstructed : (ScsiPath.new clock_hz targets engine : ScsiPath τ μ δ).bus.PhaseConsistent :=
    ScsiBus.with_targets_consistent targets
  intro hfault
  obtain ⟨next, hrun, _⟩ | hrun := run_consistent hconstructed events hallowed
  · simp [hfault] at hrun
  · simp [hfault] at hrun

/-! ## Runs of a guest -/

/-- An engine that never holds a window. -/
def idle_engine : DmaEngine Unit where
  next_window := fun _ => (none, ())
  store := fun _ _ => (false, ())
  load := fun _ _ => (none, ())
  consume := fun _ _ => (false, ())
  finish := id
  stop := id

def lone_drive : ScsiPath ScsiTargetSnapshot MemoryStorage Unit := .new 10000000 ScsiBus.lone_cdrom ()

def write_register (register : Nat) (value : U8) : List (ScsiEvent Unit) :=
  [.WritePort .Address (BitVec.ofNat 8 register), .WritePort .Data value]

/-- Selects the drive without attention and starts a transfer of a whole CDB. -/
def begin_command : List (ScsiEvent Unit) :=
  write_register DESTINATION_ID 0 ++ write_register COMMAND 0x07 ++ [.Service]
    ++ write_register TRANSFER_COUNT_LSB 6 ++ write_register COMMAND 0x20 ++ [.Service]

/-- TEST UNIT READY, byte by byte. -/
def test_unit_ready : List (ScsiEvent Unit) :=
  begin_command ++ (List.replicate 6 (write_register DATA 0 ++ [.Service])).flatten

/-- Receives information bytes in the current phase. -/
def receive (count : U8) (bytes : Nat) : List (ScsiEvent Unit) :=
  write_register TRANSFER_COUNT_LSB count ++ write_register COMMAND 0x20 ++ [.Service]
    ++ (List.replicate bytes [.WritePort .Address (BitVec.ofNat 8 DATA), .ReadPort .Data, .Service]).flatten

theorem run_controller_sound_status :
    lone_drive.serviceable idle_engine (test_unit_ready ++ receive 1 1 ++ receive 1 1) = true ∧
      lone_drive.run idle_engine (test_unit_ready ++ receive 1 1 ++ receive 1 1) ≠ .error (.Controller .CounterUnderflow) := by
  have hallowed : lone_drive.serviceable idle_engine (test_unit_ready ++ receive 1 1 ++ receive 1 1) = true := by
    decide +kernel
  exact ⟨hallowed, run_controller_sound idle_engine 10000000 ScsiBus.lone_cdrom () _ hallowed _⟩

def fault_of : Except ScsiFault (ScsiPath τ μ δ) → Option ScsiFault
  | .ok _ => none
  | .error fault => some fault

omit [ScsiTarget τ] [StorageMedium μ] in
theorem error_of_fault {result : Except ScsiFault (ScsiPath τ μ δ)} {fault : ScsiFault} (h : fault_of result = some fault) :
    result = .error fault := by
  cases result with
  | ok path => simp [fault_of] at h
  | error other =>
    obtain rfl := Option.some.inj h
    rfl

/-- The transfer count cleared under a latched CDB byte, and a second byte asked of a
message of one. -/
theorem rewritten_count_and_long_message_fault :
    lone_drive.run idle_engine (begin_command ++ write_register TRANSFER_COUNT_LSB 0 ++ write_register DATA 0 ++ [.Service]) =
        .error (.Controller .CounterUnderflow) ∧
      lone_drive.run idle_engine (test_unit_ready ++ receive 1 1 ++ receive 2 1) =
        .error (.Controller (.Bus .InvalidPhase)) :=
  ⟨error_of_fault (by decide +kernel), error_of_fault (by decide +kernel)⟩

end se_machine.ip12.ScsiPath
