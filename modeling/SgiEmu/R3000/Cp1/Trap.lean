import SgiEmu.R3000.Cp1.Status
import SgiEmu.R3000.Execute

open se_core se_core.bus se_float se_cpu.cp0 se_cpu.decode se_cpu.state

namespace se_cpu.cp1

variable {cp1 : Cp1} {update : Fcr31Update} {V : Type}

/-! ## The verdict on an operation -/

/-- An update that withholds the result: it reports no flags, and its cause interrupts
under the enables it was made for. -/
structure Fcr31Update.Traps (cp1 : Cp1) (update : Fcr31Update) : Prop where
  reports : Cp1.Reports update
  writeback : update.writeback = false
  sticky : update.sticky_flags = .empty
  interrupts : (update.unimplemented || !(update.cause &&& cp1.enabled_exceptions).is_empty) = true

/-- An update that lets the result through, with the flags the operation raised. -/
structure Fcr31Update.Completes (cp1 : Cp1) (flags : ExceptionFlags) (update : Fcr31Update) : Prop where
  reports : Cp1.Reports update
  writeback : update.writeback = true
  sticky : update.sticky_flags.bits = flags.bits &&& Cp1.FLAG_BITS
  silent : (update.unimplemented || !(update.cause &&& cp1.enabled_exceptions).is_empty) = false

namespace Cp1

theorem unimplemented_traps : Fcr31Update.Traps cp1 unimplemented_update :=
  ⟨⟨by decide, by decide⟩, rfl, rfl, rfl⟩

theorem classify_invalid_traps : Fcr31Update.Traps cp1 cp1.classify_invalid := by
  unfold classify_invalid
  split
  case isTrue henabled =>
    refine ⟨⟨by decide, by decide⟩, rfl, rfl, ?_⟩
    have hinvalid : ∀ enables : U8, (enables &&& ExceptionFlags.INVALID.bits == ExceptionFlags.INVALID.bits) = true →
        (!(ExceptionFlags.INVALID.bits &&& enables == 0)) = true := by decide
    exact hinvalid _ henabled
  case isFalse => exact unimplemented_traps

theorem classify_operands_traps {F : Type} {is_subnormal is_nan is_signaling_nan : F → Bool} {operands : List F}
    {signal_any_nan : Bool}
    (h : cp1.classify_operands is_subnormal is_nan is_signaling_nan operands signal_any_nan = some update) :
    update.Traps cp1 := by
  unfold classify_operands at h
  split at h
  · obtain rfl := Option.some.inj h
    exact unimplemented_traps
  · split at h
    · obtain rfl := Option.some.inj h
      unfold classify_nan
      split
      · exact classify_invalid_traps
      · exact unimplemented_traps
    · simp at h

/-- An outcome completes with the flags it raised, or traps. -/
theorem classify_outcome_cases (cp1 : Cp1) (flags : ExceptionFlags) (tiny : Bool) :
    (cp1.classify_outcome flags tiny).Traps cp1 ∨ (cp1.classify_outcome flags tiny).Completes cp1 flags := by
  unfold classify_outcome
  split
  · exact Or.inl classify_invalid_traps
  case isFalse hinvalid =>
    split
    · exact Or.inl unimplemented_traps
    case isFalse hunsupported =>
      simp only [Bool.or_eq_true, not_or] at hunsupported
      obtain ⟨⟨hzero, _⟩, hunderflow⟩ := hunsupported
      have hsupported : ∀ bits : U8,
          ¬(bits &&& ExceptionFlags.INVALID.bits == ExceptionFlags.INVALID.bits) = true →
          ¬(bits &&& ExceptionFlags.DIVIDE_BY_ZERO.bits == ExceptionFlags.DIVIDE_BY_ZERO.bits) = true →
          ¬(bits &&& ExceptionFlags.UNDERFLOW.bits == ExceptionFlags.UNDERFLOW.bits) = true →
          bits &&& (ExceptionFlags.OVERFLOW.bits ||| ExceptionFlags.INEXACT.bits) = bits &&& FLAG_BITS := by
        decide
      have hreports : ∀ bits : U8,
          (bits &&& (ExceptionFlags.OVERFLOW.bits ||| ExceptionFlags.INEXACT.bits)) &&& ~~~FLAG_BITS = 0 := by
        decide
      dsimp only
      by_cases hsilent : ((flags &&& (ExceptionFlags.OVERFLOW ||| ExceptionFlags.INEXACT)) &&&
          cp1.enabled_exceptions).is_empty = true
      · rw [hsilent]
        refine Or.inr ⟨⟨hreports flags.bits, hreports flags.bits⟩, rfl, hsupported _ hinvalid hzero hunderflow, ?_⟩
        simp only [hsilent, Bool.not_true, Bool.or_self]
      · have hraised := Bool.eq_false_iff.mpr hsilent
        rw [hraised]
        have hempty : ExceptionFlags.empty.bits &&& ~~~FLAG_BITS = 0 := by decide
        refine Or.inl ⟨⟨hreports flags.bits, hempty⟩, rfl, rfl, ?_⟩
        simp only [hraised, Bool.not_false, Bool.or_true]

end Cp1

/-- A classified operation keeps its verdict; any other is judged by its outcome. -/
theorem evaluate_cases {classified : Option Fcr31Update} {outcome : Outcome V}
    (hclassified : ∀ update, classified = some update → update.Traps cp1) :
    (evaluate cp1 classified outcome).1.Traps cp1 ∨
      ((evaluate cp1 classified outcome).1.Completes cp1 outcome.flags ∧
        (evaluate cp1 classified outcome).2 = some outcome.value) := by
  cases classified with
  | some update => exact Or.inl (hclassified update rfl)
  | none =>
    obtain htraps | hcompletes := cp1.classify_outcome_cases outcome.flags outcome.tiny
    · exact Or.inl htraps
    · exact Or.inr ⟨hcompletes, rfl⟩

/-! ## Computations -/

/-- The result of a computational instruction and where it goes. -/
inductive Cp1Result where
  | Single (destination : Nat) (value : se_float.Float32)
  | Double (destination : Nat) (value : Float64)
  | Word (destination : Nat) (value : U32)
  | Condition (value : Bool)

namespace Cp1Result

def write (cp1 : Cp1) : Cp1Result → Cp1
  | .Single destination value => cp1.write_float32 destination value
  | .Double destination value => cp1.write_float64 destination value
  | .Word destination value => cp1.write_word destination value
  | .Condition _ => cp1

def effect : Cp1Result → Option InstructionEffect
  | .Condition value => some (.DelayedCp1ConditionWrite value)
  | _ => none

end Cp1Result

/-- A backend's answer as the result of an instruction. -/
def answer (result : V → Cp1Result) (outcome : Outcome V) : Outcome Cp1Result :=
  { value := result outcome.value, flags := outcome.flags, tiny := outcome.tiny }

/-- The mode `execute_compare` compares in. -/
def comparison_mode (condition : U8) : ComparisonMode :=
  if condition &&& 8#8 = 0 then .Quiet else .Signaling

/-- What the backend answers a computational instruction on the registers as they are. -/
def computed (cp1 : Cp1) : Cp1Instruction → Option (Outcome Cp1Result)
  | .Binary operation .Single ft fs fd =>
    let outcome :=
      match operation with
      | .Add => cp1.backend.add_f32 (cp1.read_float32 fs) (cp1.read_float32 ft) cp1.rounding_mode
      | .Subtract => cp1.backend.sub_f32 (cp1.read_float32 fs) (cp1.read_float32 ft) cp1.rounding_mode
      | .Multiply => cp1.backend.mul_f32 (cp1.read_float32 fs) (cp1.read_float32 ft) cp1.rounding_mode
      | .Divide => cp1.backend.div_f32 (cp1.read_float32 fs) (cp1.read_float32 ft) cp1.rounding_mode
    some (answer (.Single fd) outcome)
  | .Binary operation .Double ft fs fd =>
    let outcome :=
      match operation with
      | .Add => cp1.backend.add_f64 (cp1.read_float64 fs) (cp1.read_float64 ft) cp1.rounding_mode
      | .Subtract => cp1.backend.sub_f64 (cp1.read_float64 fs) (cp1.read_float64 ft) cp1.rounding_mode
      | .Multiply => cp1.backend.mul_f64 (cp1.read_float64 fs) (cp1.read_float64 ft) cp1.rounding_mode
      | .Divide => cp1.backend.div_f64 (cp1.read_float64 fs) (cp1.read_float64 ft) cp1.rounding_mode
    some (answer (.Double fd) outcome)
  | .Unary .Absolute .Single fs fd => some (answer (.Single fd) (cp1.backend.abs_f32 (cp1.read_float32 fs)))
  | .Unary .Absolute .Double fs fd => some (answer (.Double fd) (cp1.backend.abs_f64 (cp1.read_float64 fs)))
  | .Unary .Negate .Single fs fd => some (answer (.Single fd) (cp1.backend.neg_f32 (cp1.read_float32 fs)))
  | .Unary .Negate .Double fs fd => some (answer (.Double fd) (cp1.backend.neg_f64 (cp1.read_float64 fs)))
  | .Convert .SingleToDouble fs fd =>
    some (answer (.Double fd) (cp1.backend.convert_float32_to_float64 (cp1.read_float32 fs)))
  | .Convert .WordToDouble fs fd => some (answer (.Double fd) (cp1.backend.convert_i32_to_float64 (cp1.read_word fs)))
  | .Convert .DoubleToSingle fs fd =>
    some (answer (.Single fd) (cp1.backend.convert_float64_to_float32 (cp1.read_float64 fs) cp1.rounding_mode))
  | .Convert .WordToSingle fs fd =>
    some (answer (.Single fd) (cp1.backend.convert_i32_to_float32 (cp1.read_word fs) cp1.rounding_mode))
  | .Convert .SingleToWord fs fd =>
    some (answer (.Word fd) (cp1.backend.convert_float32_to_i32 (cp1.read_float32 fs) cp1.rounding_mode))
  | .Convert .DoubleToWord fs fd =>
    some (answer (.Word fd) (cp1.backend.convert_float64_to_i32 (cp1.read_float64 fs) cp1.rounding_mode))
  | .Compare format condition fs ft =>
    let outcome :=
      match format with
      | .Single => cp1.backend.compare_f32 (cp1.read_float32 fs) (cp1.read_float32 ft) (comparison_mode condition)
      | .Double => cp1.backend.compare_f64 (cp1.read_float64 fs) (cp1.read_float64 ft) (comparison_mode condition)
    some (answer (fun relation => .Condition (comparison_condition condition relation)) outcome)
  | _ => none

/-- The status fields an instruction leaves beside the registers. -/
structure Leaves (committed after : State) (flags : ExceptionFlags) : Prop where
  /-- Nothing but CP1 changes once the older transfer is committed. -/
  state : after = { committed with cp1 := after.cp1 }
  flags : after.cp1.control_status &&& CONTROL_STATUS_FLAG_MASK =
    committed.cp1.control_status &&& CONTROL_STATUS_FLAG_MASK |||
      (flags.bits &&& Cp1.FLAG_BITS).setWidth 32 <<< CONTROL_STATUS_FLAG_SHIFT
  condition : after.cp1.condition = committed.cp1.condition

/-- The instruction completes: its result is written or delayed, its flags accumulate. -/
structure Writes (committed : State) (outcome : Outcome Cp1Result) (effect : Option InstructionEffect) (after : State) :
    Prop where
  leaves : Leaves committed after outcome.flags
  registers : after.cp1.registers = (outcome.value.write committed.cp1).registers
  effect : effect = outcome.value.effect

/-- The instruction traps: registers, flags and condition are as committed. -/
structure Keeps (committed : State) (effect : Option InstructionEffect) (after : State) : Prop where
  leaves : Leaves committed after .empty
  registers : after.cp1.registers = committed.cp1.registers
  effect : effect = none

/-! ## Finishing an instruction -/

/-- The registers a write leaves depend on the registers alone. -/
theorem Cp1Result.write_registers {before next : Cp1} (h : next.registers = before.registers) (result : Cp1Result) :
    (result.write next).registers = (result.write before).registers := by
  cases result with
  | Single destination value => simp only [write, Cp1.write_float32, Cp1.write_word, h]
  | Double destination value => simp only [write, Cp1.write_float64, h]
  | Word destination value => simp only [write, Cp1.write_word, h]
  | Condition value => exact h

theorem Cp1Result.write_control_status (cp1 : Cp1) (result : Cp1Result) :
    (result.write cp1).control_status = cp1.control_status := by
  cases result <;> rfl

/-- Completion without an interrupt or a trap with one, where the commit of the older
transfer leaves the enables that decided. -/
def Concludes (state : State) (outcome : Outcome Cp1Result) (effect : Option InstructionEffect) (raised : Bool)
    (after : State) : Prop :=
  (raised = false ∧ Writes state.commit_pending_cp1_write outcome effect after ∨
    raised = true ∧ Keeps state.commit_pending_cp1_write effect after) ∧
  (state.commit_pending_cp1_write.cp1.enabled_exceptions = state.cp1.enabled_exceptions →
    after.cp1.interrupt_asserted = raised)

section verdict

variable {state : State} {outcome : Outcome Cp1Result}

/-- The interrupt after the update, where the enables that decided are still in force. -/
theorem interrupt_of_enables (hreports : Cp1.Reports update)
    (henables : state.commit_pending_cp1_write.cp1.enabled_exceptions = state.cp1.enabled_exceptions) :
    (state.commit_pending_cp1_write.cp1.apply_fcr31_update update).interrupt_asserted =
      (update.unimplemented || !(update.cause &&& state.cp1.enabled_exceptions).is_empty) := by
  rw [(Cp1.apply_fcr31_update_spec _ hreports).interrupt hreports, henables]

/-- A trap leaves the updated status over the committed registers. -/
theorem concludes_of_traps (h : update.Traps state.cp1) :
    Concludes state outcome none true
      { state.commit_pending_cp1_write with
        cp1 := state.commit_pending_cp1_write.cp1.apply_fcr31_update update } := by
  have hupdated := Cp1.apply_fcr31_update_spec state.commit_pending_cp1_write.cp1 h.reports
  have hflags := hupdated.flags
  rw [h.sticky] at hflags
  refine ⟨Or.inr ⟨rfl, ⟨rfl, ?_, hupdated.condition⟩, hupdated.registers, rfl⟩, fun henables => ?_⟩
  · have hempty : (ExceptionFlags.empty.bits &&& Cp1.FLAG_BITS) = ExceptionFlags.empty.bits := by decide
    rw [hempty]
    exact hflags
  · have hinterrupt := interrupt_of_enables h.reports henables
    rw [h.interrupts] at hinterrupt
    exact hinterrupt

/-- A completion leaves the updated status and its result. -/
theorem concludes_of_completes (h : update.Completes state.cp1 outcome.flags) :
    Concludes state outcome outcome.value.effect false
      { state.commit_pending_cp1_write with
        cp1 := outcome.value.write (state.commit_pending_cp1_write.cp1.apply_fcr31_update update) } := by
  have hupdated := Cp1.apply_fcr31_update_spec state.commit_pending_cp1_write.cp1 h.reports
  have hstatus := outcome.value.write_control_status (state.commit_pending_cp1_write.cp1.apply_fcr31_update update)
  have hflags := hupdated.flags
  have hcondition := hupdated.condition
  rw [h.sticky] at hflags
  refine ⟨Or.inl ⟨rfl, ⟨rfl, ?_, ?_⟩, outcome.value.write_registers hupdated.registers, rfl⟩, fun henables => ?_⟩
  · simp only [hstatus]
    exact hflags
  · simp only [Cp1.condition, hstatus] at hcondition ⊢
    exact hcondition
  · have hinterrupt := interrupt_of_enables h.reports henables
    rw [h.silent] at hinterrupt
    simp only [Cp1.interrupt_asserted, hstatus] at hinterrupt ⊢
    exact hinterrupt

end verdict

/-- Finishing a computation whose result goes to a register. -/
theorem finish_concludes {state : State} {classified : Option Fcr31Update} {outcome : Outcome V}
    (write : Cp1 → Nat → V → Cp1) (destination : Nat) (result : V → Cp1Result)
    (hwrite : ∀ cp1 value, (result value).write cp1 = write cp1 destination value)
    (heffect : ∀ value, (result value).effect = none)
    (hclassified : ∀ update, classified = some update → update.Traps state.cp1) :
    Concludes state (answer result outcome) none
      (finish write state destination (evaluate state.cp1 classified outcome).1
        (evaluate state.cp1 classified outcome).2).1
      (finish write state destination (evaluate state.cp1 classified outcome).1
        (evaluate state.cp1 classified outcome).2).2 := by
  obtain htraps | ⟨hcompletes, hvalue⟩ := @evaluate_cases state.cp1 V classified outcome hclassified
  · have hconcludes := @concludes_of_traps _ state (answer result outcome) htraps
    simp only [finish, htraps.writeback]
    exact hconcludes
  · have hconcludes := @concludes_of_completes _ state (answer result outcome) hcompletes
    simp only [answer, heffect, hwrite] at hconcludes
    simp only [finish, hvalue, hcompletes.writeback]
    exact hconcludes

/-! ## Every computation -/

section execute

variable {β : Type} {state : State} {instruction : Cp1Instruction} {outcome : Outcome Cp1Result}

theorem execute_binary_concludes (operation : Cp1BinaryOperation) (format : Cp1FloatFormat) (ft fs fd : Nat)
    (h : computed state.cp1 (.Binary operation format ft fs fd) = some outcome) :
    Concludes state outcome none (execute_binary state operation format ft fs fd).1
      (execute_binary state operation format ft fs fd).2 := by
  cases format with
  | Single =>
    obtain rfl := Option.some.inj h
    exact finish_concludes Cp1.write_float32 fd (.Single fd) (fun _ _ => rfl) (fun _ => rfl)
      fun _ hclassified => Cp1.classify_operands_traps hclassified
  | Double =>
    obtain rfl := Option.some.inj h
    exact finish_concludes Cp1.write_float64 fd (.Double fd) (fun _ _ => rfl) (fun _ => rfl)
      fun _ hclassified => Cp1.classify_operands_traps hclassified

theorem execute_unary_concludes (operation : Cp1UnaryOperation) (format : Cp1FloatFormat) (fs fd : Nat)
    (h : computed state.cp1 (.Unary operation format fs fd) = some outcome) :
    Concludes state outcome none (execute_unary state operation format fs fd).1
      (execute_unary state operation format fs fd).2 := by
  have hsingle : ∀ answered : Outcome se_float.Float32,
      Concludes state (answer (.Single fd) answered) none
        (finish_float32 state fd (evaluate state.cp1
          (state.cp1.classify_float32_operands [state.cp1.read_float32 fs] false) answered).1
          (evaluate state.cp1 (state.cp1.classify_float32_operands [state.cp1.read_float32 fs] false) answered).2).1
        (finish_float32 state fd (evaluate state.cp1
          (state.cp1.classify_float32_operands [state.cp1.read_float32 fs] false) answered).1
          (evaluate state.cp1 (state.cp1.classify_float32_operands [state.cp1.read_float32 fs] false) answered).2).2 := by
    intro answered
    exact finish_concludes Cp1.write_float32 fd (.Single fd) (fun _ _ => rfl) (fun _ => rfl)
      fun _ hclassified => Cp1.classify_operands_traps hclassified
  have hdouble : ∀ answered : Outcome Float64,
      Concludes state (answer (.Double fd) answered) none
        (finish_float64 state fd (evaluate state.cp1
          (state.cp1.classify_float64_operands [state.cp1.read_float64 fs] false) answered).1
          (evaluate state.cp1 (state.cp1.classify_float64_operands [state.cp1.read_float64 fs] false) answered).2).1
        (finish_float64 state fd (evaluate state.cp1
          (state.cp1.classify_float64_operands [state.cp1.read_float64 fs] false) answered).1
          (evaluate state.cp1 (state.cp1.classify_float64_operands [state.cp1.read_float64 fs] false) answered).2).2 := by
    intro answered
    exact finish_concludes Cp1.write_float64 fd (.Double fd) (fun _ _ => rfl) (fun _ => rfl)
      fun _ hclassified => Cp1.classify_operands_traps hclassified
  cases operation with
  | Absolute =>
    cases format with
    | Single =>
      obtain rfl := Option.some.inj h
      exact hsingle _
    | Double =>
      obtain rfl := Option.some.inj h
      exact hdouble _
  | Negate =>
    cases format with
    | Single =>
      obtain rfl := Option.some.inj h
      exact hsingle _
    | Double =>
      obtain rfl := Option.some.inj h
      exact hdouble _
  | Move => simp [computed] at h

theorem execute_conversion_concludes (operation : Cp1Conversion) (fs fd : Nat)
    (h : computed state.cp1 (.Convert operation fs fd) = some outcome) :
    Concludes state outcome none (execute_conversion state operation fs fd).1
      (execute_conversion state operation fs fd).2 := by
  have hunclassified : ∀ update, (none : Option Fcr31Update) = some update → update.Traps state.cp1 := by
    intro update hnone
    simp at hnone
  cases operation with
  | SingleToDouble =>
    obtain rfl := Option.some.inj h
    exact finish_concludes Cp1.write_float64 fd (.Double fd) (fun _ _ => rfl) (fun _ => rfl)
      fun _ hclassified => Cp1.classify_operands_traps hclassified
  | WordToDouble =>
    obtain rfl := Option.some.inj h
    exact finish_concludes Cp1.write_float64 fd (.Double fd) (fun _ _ => rfl) (fun _ => rfl) hunclassified
  | DoubleToSingle =>
    obtain rfl := Option.some.inj h
    exact finish_concludes Cp1.write_float32 fd (.Single fd) (fun _ _ => rfl) (fun _ => rfl)
      fun _ hclassified => Cp1.classify_operands_traps hclassified
  | WordToSingle =>
    obtain rfl := Option.some.inj h
    exact finish_concludes Cp1.write_float32 fd (.Single fd) (fun _ _ => rfl) (fun _ => rfl) hunclassified
  | SingleToWord =>
    obtain rfl := Option.some.inj h
    exact finish_concludes Cp1.write_word fd (.Word fd) (fun _ _ => rfl) (fun _ => rfl)
      fun _ hclassified => Cp1.classify_operands_traps hclassified
  | DoubleToWord =>
    obtain rfl := Option.some.inj h
    exact finish_concludes Cp1.write_word fd (.Word fd) (fun _ _ => rfl) (fun _ => rfl)
      fun _ hclassified => Cp1.classify_operands_traps hclassified

theorem execute_compare_concludes (format : Cp1FloatFormat) (condition : U8) (fs ft : Nat)
    (h : computed state.cp1 (.Compare format condition fs ft) = some outcome) :
    Concludes state outcome (execute_compare state format condition fs ft).1.1
      (execute_compare state format condition fs ft).1.2 (execute_compare state format condition fs ft).2 := by
  cases format with
  | Single =>
    obtain rfl := Option.some.inj h
    unfold execute_compare
    dsimp only
    rw [← comparison_mode]
    obtain htraps | ⟨hcompletes, hvalue⟩ := @evaluate_cases state.cp1 Relation
      (state.cp1.classify_float32_operands [state.cp1.read_float32 fs, state.cp1.read_float32 ft]
        (comparison_mode condition == .Signaling))
      (state.cp1.backend.compare_f32 (state.cp1.read_float32 fs) (state.cp1.read_float32 ft)
        (comparison_mode condition))
      fun _ hclassified => Cp1.classify_operands_traps hclassified
    · simp only [htraps.writeback]
      exact concludes_of_traps htraps
    · simp only [hvalue, hcompletes.writeback]
      exact concludes_of_completes hcompletes
  | Double =>
    obtain rfl := Option.some.inj h
    unfold execute_compare
    dsimp only
    rw [← comparison_mode]
    obtain htraps | ⟨hcompletes, hvalue⟩ := @evaluate_cases state.cp1 Relation
      (state.cp1.classify_float64_operands [state.cp1.read_float64 fs, state.cp1.read_float64 ft]
        (comparison_mode condition == .Signaling))
      (state.cp1.backend.compare_f64 (state.cp1.read_float64 fs) (state.cp1.read_float64 ft)
        (comparison_mode condition))
      fun _ hclassified => Cp1.classify_operands_traps hclassified
    · simp only [htraps.writeback]
      exact concludes_of_traps htraps
    · simp only [hvalue, hcompletes.writeback]
      exact concludes_of_completes hcompletes

/-- A computational instruction either writes its result or traps, whatever the backend
answers, and the interrupt tells which where the older transfer keeps the enables. -/
theorem execute_concludes (bus : PhysicalBus β) (bus_state : β)
    (husable : state.cp0.coprocessor_usable 1 = true) (h : computed state.cp1 instruction = some outcome) :
    ∃ effect raised after,
      execute state instruction bus bus_state = (.ok (.Completed (none, effect), raised), after, bus_state) ∧
        Concludes state outcome effect raised after := by
  have husable' : (!state.cp0.coprocessor_usable 1) = false := by rw [husable]; rfl
  unfold execute
  rw [husable']
  cases instruction with
  | Binary operation format ft fs fd => exact ⟨_, _, _, rfl, execute_binary_concludes operation format ft fs fd h⟩
  | Unary operation format fs fd => exact ⟨_, _, _, rfl, execute_unary_concludes operation format fs fd h⟩
  | Convert operation fs fd => exact ⟨_, _, _, rfl, execute_conversion_concludes operation fs fd h⟩
  | Compare format condition fs ft => exact ⟨_, _, _, rfl, execute_compare_concludes format condition fs ft h⟩
  | _ => simp [computed] at h

/-- A conversion of the word 2²⁴ + 1 to a single, which rounds. -/
def rounding_conversion (pending_cp1_write : Option PendingCp1Write) : State :=
  let backend : Backend :=
    { (default : Backend) with
      convert_i32_to_float32 := fun _ _ => { value := .from_bits 0x4b800000#32, flags := .INEXACT, tiny := false } }
  let state := State.new (TEST_CONFIG backend)
  { state with
    cp0 := { state.cp0 with effective := .from_registers (1#32 <<< 29) 0 }
    cp1 := state.cp1.write_general_register 1 0x01000001#32
    pending_cp1_write }

def unattached : PhysicalBus Unit :=
  { read := fun bus_state _ _ => (.error .InvalidTransaction, bus_state)
    write := fun bus_state _ _ => (.error .InvalidTransaction, bus_state) }

/-- A conversion that completes over an older general transfer. -/
theorem execute_concludes_rounding :
    ∃ effect raised after,
      execute (rounding_conversion (some (.General 3 7))) (.Convert .WordToSingle 1 2) unattached () =
          (.ok (.Completed (none, effect), raised), after, ()) ∧
        Concludes (rounding_conversion (some (.General 3 7)))
          { value := .Single 2 (.from_bits 0x4b800000#32), flags := .INEXACT, tiny := false } effect raised after :=
  execute_concludes unattached () (by decide) rfl

/-- A transfer that enables the exception a conversion has already been let through for:
the result is written and the interrupt asserted. -/
theorem conversion_completes_with_interrupt :
    ¬∃ effect raised after,
      execute (rounding_conversion (some (.Control 31 0x80#32))) (.Convert .WordToSingle 1 2) unattached () =
          (.ok (.Completed (none, effect), raised), after, ()) ∧
        (Writes (rounding_conversion (some (.Control 31 0x80#32))).commit_pending_cp1_write
            { value := .Single 2 (.from_bits 0x4b800000#32), flags := .INEXACT, tiny := false } effect after ∧
            after.cp1.interrupt_asserted = false ∨
          Keeps (rounding_conversion (some (.Control 31 0x80#32))).commit_pending_cp1_write effect after ∧
            after.cp1.interrupt_asserted = true) := by
  rintro ⟨effect, raised, after, hexecute, ⟨_, hinterrupt⟩ | ⟨hkeeps, _⟩⟩
  · have hasserted : (execute (rounding_conversion (some (.Control 31 0x80#32))) (.Convert .WordToSingle 1 2)
        unattached ()).2.1.cp1.interrupt_asserted = true := by decide +kernel
    rw [hexecute, hinterrupt] at hasserted
    simp at hasserted
  · have hwritten : (execute (rounding_conversion (some (.Control 31 0x80#32))) (.Convert .WordToSingle 1 2)
        unattached ()).2.1.cp1.registers ≠
          (rounding_conversion (some (.Control 31 0x80#32))).commit_pending_cp1_write.cp1.registers := by
      decide +kernel
    rw [hexecute] at hwritten
    exact hwritten hkeeps.registers

end execute

end se_cpu.cp1
