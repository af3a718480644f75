import SgiEmu.Library.Journal
import SgiEmu.Runtime.Record.Recorder
import SgiEmu.Runtime.Worker.Execute
import SgiEmu.Runtime.Worker.Replaced

open se_core se_core.time se_machine se_runtime.record

namespace se_runtime.record.ExecutionPosition

variable {a b : ExecutionPosition}

/-- The place of a position in the order of all positions. -/
def rank (position : ExecutionPosition) : Nat := position.epoch.toNat * 2 ^ 64 + position.completed_instructions.toNat

theorem lt_iff_rank_lt : a < b ↔ a.rank < b.rank := by
  have ha := a.completed_instructions.isLt
  have hb := b.completed_instructions.isLt
  change (a.epoch < b.epoch ∨ a.epoch = b.epoch ∧ a.completed_instructions < b.completed_instructions) ↔ _
  rw [BitVec.lt_def, BitVec.lt_def, ← BitVec.toNat_inj]
  unfold rank
  omega

theorem rank_inj : a.rank = b.rank ↔ a = b := by
  constructor
  · intro h
    have ha := a.completed_instructions.isLt
    have hb := b.completed_instructions.isLt
    unfold rank at h
    have hepoch : a.epoch.toNat = b.epoch.toNat := by omega
    have hcompleted : a.completed_instructions.toNat = b.completed_instructions.toNat := by omega
    obtain ⟨epoch, completed⟩ := a
    obtain ⟨epoch', completed'⟩ := b
    rw [ExecutionPosition.mk.injEq]
    exact ⟨BitVec.eq_of_toNat_eq hepoch, BitVec.eq_of_toNat_eq hcompleted⟩
  · rintro rfl
    rfl

end se_runtime.record.ExecutionPosition

namespace se_runtime.runtime

variable {host : Host}

/-! ## Executions -/

/-- How far a machine has come: its position, its clocks and its state. -/
structure Execution (host : Host) where
  position : ExecutionPosition
  virtual_instant : Nat
  cpu_clock : CpuClock
  machine : host.Machine

namespace Execution

def next_position (position : ExecutionPosition) : ExecutionPosition :=
  { position with completed_instructions := position.completed_instructions + 1 }

/-- One instruction on healthy storage, with the time that it takes. -/
def run (execution : Execution host) : Option (Execution host) :=
  match host.execute_instruction none execution.machine with
  | (.error _, _) => none
  | (.ok (), machine) =>
    if execution.position.completed_instructions.toNat + 1 < 2 ^ 64 then
      let (elapsed, cpu_clock) := execution.cpu_clock.advance_cycle
      some
        { position := next_position execution.position
          virtual_instant := execution.virtual_instant + elapsed
          cpu_clock
          machine := (host.advance_time none machine elapsed []).1 }
    else none

/-- An entry of a timeline, where the machine consumes its input or meets its digest. -/
def take (execution : Execution host) (entry : TimelineEntry) : Option (Execution host) :=
  match entry.action with
  | .MachineInput input =>
    match host.try_receive_input execution.machine input with
    | (.ok .Consumed, machine) => some { execution with machine }
    | _ => none
  | .Reset =>
    if execution.position.epoch.toNat + 1 < 2 ^ 64 then
      some
        { position := { epoch := execution.position.epoch + 1, completed_instructions := 0 }
          virtual_instant := 0
          cpu_clock := execution.cpu_clock.reset
          machine := host.reset execution.machine }
    else none
  | .Checkpoint digest =>
    if host.machine_state_fingerprint execution.machine = digest then some execution else none

variable {execution next : Execution host} {entry : TimelineEntry} {machine : host.Machine}

theorem counter_succ {counter : U64} (hroom : counter.toNat + 1 < 2 ^ 64) : (counter + 1).toNat = counter.toNat + 1 := by
  have hone : (1 : U64).toNat = 1 := rfl
  rw [BitVec.toNat_add, hone, Nat.mod_eq_of_lt hroom]

theorem rank_next_position {position : ExecutionPosition} (hroom : position.completed_instructions.toNat + 1 < 2 ^ 64) :
    (next_position position).rank = position.rank + 1 := by
  unfold next_position ExecutionPosition.rank
  rw [counter_succ hroom, Nat.add_assoc]

theorem run_eq_some (hexecute : host.execute_instruction none execution.machine = (.ok (), machine))
    (hroom : execution.position.completed_instructions.toNat + 1 < 2 ^ 64) :
    execution.run = some
      { position := next_position execution.position
        virtual_instant := execution.virtual_instant + execution.cpu_clock.advance_cycle.1
        cpu_clock := execution.cpu_clock.advance_cycle.2
        machine := (host.advance_time none machine execution.cpu_clock.advance_cycle.1 []).1 } := by
  unfold run
  rw [hexecute]
  exact if_pos hroom

theorem run_cases (h : execution.run = some next) :
    ∃ machine, host.execute_instruction none execution.machine = (.ok (), machine) ∧
      execution.position.completed_instructions.toNat + 1 < 2 ^ 64 ∧ next =
        { position := next_position execution.position
          virtual_instant := execution.virtual_instant + execution.cpu_clock.advance_cycle.1
          cpu_clock := execution.cpu_clock.advance_cycle.2
          machine := (host.advance_time none machine execution.cpu_clock.advance_cycle.1 []).1 } := by
  unfold run at h
  split at h
  · cases h
  · case _ machine hexecute =>
    split at h
    · case isTrue hroom =>
      cases h
      exact ⟨machine, hexecute, hroom, rfl⟩
    · cases h

theorem rank_lt_run (h : execution.run = some next) : execution.position.rank < next.position.rank := by
  obtain ⟨machine, -, hroom, rfl⟩ := run_cases h
  change execution.position.rank < (next_position execution.position).rank
  rw [rank_next_position hroom]
  exact Nat.lt_succ_self _

theorem rank_reset {position : ExecutionPosition} (hroom : position.epoch.toNat + 1 < 2 ^ 64) :
    position.rank < ExecutionPosition.rank { epoch := position.epoch + 1, completed_instructions := 0 } := by
  have hbound := position.completed_instructions.isLt
  unfold ExecutionPosition.rank
  rw [counter_succ hroom, show (0 : U64).toNat = 0 from rfl]
  omega

theorem rank_le_take (h : execution.take entry = some next) : execution.position.rank ≤ next.position.rank := by
  unfold take at h
  split at h
  · split at h
    · cases h
      exact Nat.le_refl _
    · cases h
  · split at h
    · case isTrue hroom =>
      cases h
      exact Nat.le_of_lt (rank_reset hroom)
    · cases h
  · split at h
    · cases h
      exact Nat.le_refl _
    · cases h

/-- Instructions move an execution on, and the entries of a timeline happen in between. -/
def timed (host : Host) : Library.Journaled (Execution host) TimelineEntry Nat where
  now execution := execution.position.rank
  due entry := entry.position.rank
  run := run
  take := take
  now_lt_run := rank_lt_run
  now_le_take := rank_le_take

end Execution

/-! ## Machines that cannot be told apart -/

/-- A relation that every operation of a session keeps, and within which all answers agree.
What a machine does never depends on the outputs already published. -/
structure Bisimulation (host : Host) (related : host.Machine → host.Machine → Prop) : Prop where
  execute : ∀ {a b}, related a b →
    (host.execute_instruction none a).1 = (host.execute_instruction none b).1 ∧
      related (host.execute_instruction none a).2 (host.execute_instruction none b).2
  advance_time : ∀ {a b}, related a b → ∀ elapsed published other,
    related (host.advance_time none a elapsed published).1 (host.advance_time none b elapsed other).1
  receive : ∀ {a b}, related a b → ∀ input,
    (host.try_receive_input a input).1 = (host.try_receive_input b input).1 ∧
      related (host.try_receive_input a input).2 (host.try_receive_input b input).2
  reset : ∀ {a b}, related a b → related (host.reset a) (host.reset b)
  fingerprint : ∀ {a b}, related a b → host.machine_state_fingerprint a = host.machine_state_fingerprint b
  execution_address : ∀ {a b}, related a b → host.execution_address a = host.execution_address b

/-- No session can tell the machines apart. -/
def Indistinguishable (host : Host) (a b : host.Machine) : Prop :=
  ∃ related, Bisimulation host related ∧ related a b

theorem bisimulation_indistinguishable (host : Host) : Bisimulation host (Indistinguishable host) where
  execute := fun ⟨related, hrelated, hab⟩ =>
    ⟨(hrelated.execute hab).1, related, hrelated, (hrelated.execute hab).2⟩
  advance_time := fun ⟨related, hrelated, hab⟩ elapsed published other =>
    ⟨related, hrelated, hrelated.advance_time hab elapsed published other⟩
  receive := fun ⟨related, hrelated, hab⟩ input =>
    ⟨(hrelated.receive hab input).1, related, hrelated, (hrelated.receive hab input).2⟩
  reset := fun ⟨related, hrelated, hab⟩ => ⟨related, hrelated, hrelated.reset hab⟩
  fingerprint := fun ⟨_, hrelated, hab⟩ => hrelated.fingerprint hab
  execution_address := fun ⟨_, hrelated, hab⟩ => hrelated.execution_address hab

/-- The relations that answer alike compose. -/
theorem Bisimulation.comp {first second : host.Machine → host.Machine → Prop} (hfirst : Bisimulation host first)
    (hsecond : Bisimulation host second) : Bisimulation host fun a c => ∃ b, first a b ∧ second b c where
  execute := fun ⟨_, hab, hbc⟩ =>
    ⟨(hfirst.execute hab).1.trans (hsecond.execute hbc).1, _, (hfirst.execute hab).2, (hsecond.execute hbc).2⟩
  advance_time := fun ⟨_, hab, hbc⟩ elapsed published other =>
    ⟨_, hfirst.advance_time hab elapsed published other, hsecond.advance_time hbc elapsed other other⟩
  receive := fun ⟨_, hab, hbc⟩ input =>
    ⟨(hfirst.receive hab input).1.trans (hsecond.receive hbc input).1, _, (hfirst.receive hab input).2,
      (hsecond.receive hbc input).2⟩
  reset := fun ⟨_, hab, hbc⟩ => ⟨_, hfirst.reset hab, hsecond.reset hbc⟩
  fingerprint := fun ⟨_, hab, hbc⟩ => (hfirst.fingerprint hab).trans (hsecond.fingerprint hbc)
  execution_address := fun ⟨_, hab, hbc⟩ => (hfirst.execution_address hab).trans (hsecond.execution_address hbc)

theorem Indistinguishable.trans {a b c : host.Machine} (hab : Indistinguishable host a b)
    (hbc : Indistinguishable host b c) : Indistinguishable host a c := by
  obtain ⟨first, hfirst, hab⟩ := hab
  obtain ⟨second, hsecond, hbc⟩ := hbc
  exact ⟨_, hfirst.comp hsecond, _, hab, hbc⟩

/-- What a Recording asks of its machine: published outputs do not steer it, an input it
does not consume leaves no trace, and it consumes no input beyond the allocation bound. -/
structure Repeatable (host : Host) : Prop where
  silent : ∀ machine elapsed published,
    (host.advance_time none machine elapsed published).1 = (host.advance_time none machine elapsed []).1
  refuses : ∀ machine input, (host.try_receive_input machine input).1 ≠ .ok .Consumed →
    Indistinguishable host (host.try_receive_input machine input).2 machine
  bounded : ∀ machine input, (host.try_receive_input machine input).1 = .ok .Consumed →
    validate_input_allocation input = .ok ()

/-- Where published outputs do not steer a machine, it is like itself. -/
theorem silent_refl
    (hsilent : ∀ machine elapsed published,
      (host.advance_time none machine elapsed published).1 = (host.advance_time none machine elapsed []).1)
    (machine : host.Machine) : Indistinguishable host machine machine := by
  refine ⟨Eq, ?_, rfl⟩
  constructor
  · rintro a _ rfl
    exact ⟨rfl, rfl⟩
  · rintro a _ rfl elapsed published other
    rw [hsilent, hsilent a elapsed other]
  · rintro a _ rfl input
    exact ⟨rfl, rfl⟩
  · rintro a _ rfl
    rfl
  · rintro a _ rfl
    rfl
  · rintro a _ rfl
    rfl

theorem Repeatable.refl (h : Repeatable host) (machine : host.Machine) : Indistinguishable host machine machine :=
  silent_refl h.silent machine

/-! ## Complete Records -/

/-- An execution ends as the footer says: at its fingerprint, or with its error. -/
def Execution.Ends (execution : Execution host) (footer : RecordFooter) : Prop :=
  footer.position = execution.position ∧
    match footer.outcome with
    | .ExecutionError address description =>
      ∃ machine, host.execute_instruction none execution.machine = (.error description, machine) ∧
        host.execution_address machine = address ∧ host.machine_state_fingerprint machine = footer.final_fingerprint
    | _ => host.machine_state_fingerprint execution.machine = footer.final_fingerprint

/-- The file is the Record of an execution from here to an end. -/
def Execution.Recorded (begun : Execution host) (manifest : host.RecordManifest) (file : List U8) : Prop :=
  ∃ timeline footer runs last, parse_record host.codec file = .ok ⟨manifest, timeline, footer⟩ ∧
    (timed host).History begun timeline runs last ∧ last.Ends footer

/-- The execution that a machine begins. -/
def Execution.fresh (machine : host.Machine) (cpu_clock : CpuClock) : Execution host :=
  { position := .default, virtual_instant := 0, cpu_clock, machine }

/-! ## A counting machine -/

/-- The digest of a machine that has counted this far. -/
def tally_digest (count : Nat) : List U8 := BitVec.ofNat 8 count :: List.replicate 31 0

/-- It takes the bytes of its serial line into its count. -/
def tally_receive (count : Nat) (input : MachineInput) : Except MachineInputError MachineInputResult × Nat :=
  match input.payload with
  | .SerialByte value =>
    if input.endpoint = "serial" then (.ok .Consumed, count + value.toNat) else (.error .UnknownEndpoint, count)
  | _ => (.error .PayloadKindMismatch, count)

theorem tally_receive_refused {count : Nat} {input : MachineInput} (h : (tally_receive count input).1 ≠ .ok .Consumed) :
    (tally_receive count input).2 = count := by
  obtain ⟨endpoint, payload⟩ := input
  cases payload with
  | SerialByte value =>
    unfold tally_receive at h ⊢
    dsimp only at h ⊢
    by_cases hserial : endpoint = "serial"
    · rw [if_pos hserial] at h
      exact absurd rfl h
    · rw [if_neg hserial]
  | _ => rfl

/-- A machine with a serial line that counts its instructions and the bytes it receives. -/
def tally_host : Host where
  Machine := Nat
  MachineSnapshot := Nat
  MachineNonvolatileState := Nat
  VideoOutput := Unit
  NatConfig := Unit
  NetworkSession := Unit
  RecordManifest := List U8
  Medium := Unit
  codec := RecorderInner.serial_codec
  endpoint_catalog := fun _ => [{ key := "serial", kind := .Serial, direction := .Bidirectional }]
  cpu_frequency_hz := fun _ => 33000000
  nonvolatile_state := fun count => count
  restore_nonvolatile_state := fun _ count _ => count
  restore_snapshot := fun _ snapshot => (.ok (), snapshot)
  machine_state_fingerprint := tally_digest
  try_receive_input := tally_receive
  reset := fun _ => 0
  publish_current_outputs := fun _ output => output
  validate := fun _ => .ok ()
  start := fun _ => .ok ()
  execution_address := fun count => BitVec.ofNat 32 (4 * count)
  execute_instruction := fun _ count => (.ok (), count + 1)
  advance_time := fun _ count _ output => (count, output)
  input_readiness := fun count input => (tally_receive count input).1.map fun _ => .Ready
  snapshot := .ok
  media_slots := fun _ => []
  insert_media := fun count _ _ => (.error .UnknownSlot, count)
  eject_media := fun count _ _ => (.error .UnknownSlot, count)

theorem tally_host_repeatable : Repeatable tally_host where
  silent := fun _ _ _ => rfl
  refuses := by
    intro machine input hrefused
    change Indistinguishable tally_host (tally_receive machine input).2 machine
    rw [tally_receive_refused hrefused]
    exact silent_refl (fun _ _ _ => rfl) machine
  bounded := by
    intro machine input hconsumed
    change (tally_receive machine input).1 = _ at hconsumed
    unfold tally_receive at hconsumed
    unfold validate_input_allocation
    cases hpayload : input.payload with
    | EthernetFrame bytes =>
      rw [hpayload] at hconsumed
      cases hconsumed
    | _ => rfl

/-- Nothing of the host fails or waits. -/
def calm : Surroundings where
  storage := none
  has_pending_work := false
  frame := none
  failure := none
  input_faults := Worker.no_faults
  checkpoint_faults := Worker.no_faults
  finalize_faults := Worker.no_faults
  snapshot_failure := none

/-- What a Recording of the counting machine sees: two instructions with a byte received
between them, a reset, and three more with a byte before the last. -/
def tally_session : List (Station.Event tally_host) :=
  [.Command calm .Step, .Command calm (.MachineInput ⟨1, "serial"⟩ (.SerialByte 5)), .Command calm .Step,
    .Command calm .Reset, .Command calm .Step, .Command calm .Step,
    .Command calm (.MachineInput ⟨1, "serial"⟩ (.SerialByte 9)), .Command calm .Step]

def serial_byte_at (position : ExecutionPosition) (value : U8) : TimelineEntry :=
  { position, action := .MachineInput { endpoint := "serial", payload := .SerialByte value } }

def tally_timeline : List TimelineEntry :=
  [{ position := .default, action := .Checkpoint (tally_digest 0) },
    serial_byte_at { epoch := 0, completed_instructions := 1 } 5,
    { position := { epoch := 0, completed_instructions := 2 }, action := .Reset },
    { position := { epoch := 1, completed_instructions := 0 }, action := .Checkpoint (tally_digest 0) },
    serial_byte_at { epoch := 1, completed_instructions := 2 } 9]

def tally_footer : RecordFooter :=
  { position := { epoch := 1, completed_instructions := 3 }, outcome := .UserStopped, final_fingerprint := tally_digest 12 }

/-- Its Record. -/
def tally_record : Replayer (List U8) := { manifest := [], timeline := tally_timeline, footer := tally_footer }

end se_runtime.runtime
