import SgiEmu.R3000.Cache.Transactions
import SgiEmu.R3000.Mmu.WordOffset
import SgiEmu.R3000.State.Operations
import SgiEmu.R3000.Step.Fetched
import SgiEmu.R3000.Step.Precise

/-! Two processors that take the same step, each over its own bus, in states that
agree but for the memory-management unit. -/

open se_core se_core.bus se_cpu.cache se_cpu.cp0 se_cpu.cp1 se_cpu.mmu se_cpu.decode se_cpu.state
open Library.Mask

namespace se_cpu

variable {β γ : Type}

/-! ## Operations that do not look at the translation buffer -/

namespace state

/-- States that share everything privileged, and the floating-point backend. -/
structure SamePrivileged (state state' : State) : Prop where
  cp0 : state'.cp0 = state.cp0
  pending_cp0_write : state'.pending_cp0_write = state.pending_cp0_write
  mmu : state'.mmu = state.mmu
  caches : state'.caches = state.caches
  backend : state'.cp1.backend = state.cp1.backend

/-- An operation that reads and writes neither CP0 nor memory, and does the same
whatever the memory-management unit holds. -/
structure Independent {ρ : Type} (operation : State → ρ × State) : Prop where
  privileged : ∀ state, SamePrivileged state (operation state).2
  with_mmu : ∀ (state : State) (mmu : Mmu),
    operation { state with mmu } = ((operation state).1, { (operation state).2 with mmu })

namespace State

theorem write_gpr_direct_with_mmu (state : State) (mmu : Mmu) (index : Nat) (value : U32) :
    { state with mmu }.write_gpr_direct index value = { state.write_gpr_direct index value with mmu } := by
  unfold write_gpr_direct
  split <;> rfl

/-- A register write commits the one in flight, and neither looks at the memory-management unit. -/
theorem write_gpr_with_mmu (state : State) (mmu : Mmu) (index : Nat) (value : U32) :
    { state with mmu }.write_gpr index value = { state.write_gpr index value with mmu } := by
  have hcommitted : { state with mmu }.commit_pending_gpr_write = { state.commit_pending_gpr_write with mmu } := by
    obtain ⟨gpr, hi, lo, pc, delay_slot, cp0, cp1, mmu', caches, pending_gpr_write, pending_cp0_write,
      pending_cp1_write, inputs, cache_mode, contexts⟩ := state
    cases pending_gpr_write with
    | none => rfl
    | some write =>
      unfold commit_pending_gpr_write write_gpr_direct
      dsimp only
      split <;> rfl
  unfold write_gpr
  rw [hcommitted, write_gpr_direct_with_mmu]

theorem write_gpr_privileged (state : State) (index : Nat) (value : U32) :
    SamePrivileged state (state.write_gpr index value) := by
  rw [write_gpr_touches]
  exact ⟨rfl, rfl, rfl, rfl, rfl⟩

theorem commit_cp1_write_backend (cp1 : Cp1) (write : PendingCp1Write) :
    (commit_cp1_write cp1 write).backend = cp1.backend := by
  cases write with
  | General index value => rfl
  | Control index value =>
    unfold commit_cp1_write Cp1.write_control_register
    dsimp only
    split <;> rfl
  | Condition value => cases value <;> rfl

theorem commit_pending_cp1_write_with_mmu (state : State) (mmu : Mmu) :
    { state with mmu }.commit_pending_cp1_write = { state.commit_pending_cp1_write with mmu } := by
  obtain ⟨gpr, hi, lo, pc, delay_slot, cp0, cp1, mmu', caches, pending_gpr_write, pending_cp0_write,
    pending_cp1_write, inputs, cache_mode, contexts⟩ := state
  cases pending_cp1_write <;> rfl

/-- Committing a CP1 write changes registers of CP1 and keeps its backend. -/
theorem commit_pending_cp1_write_privileged (state : State) :
    SamePrivileged state state.commit_pending_cp1_write := by
  unfold commit_pending_cp1_write
  split
  · exact ⟨rfl, rfl, rfl, rfl, commit_cp1_write_backend state.cp1 _⟩
  · exact ⟨rfl, rfl, rfl, rfl, rfl⟩

end State

end state

namespace alu

/-- An ALU instruction looks at nothing privileged. -/
theorem execute_independent (instruction : AluInstruction) : Independent fun state => execute state instruction where
  privileged state := by
    have hchecked : ∀ (index : Nat) (value : U32) (overflowed : Bool),
        SamePrivileged state (write_checked state index value overflowed).2 := by
      intro index value overflowed
      cases overflowed with
      | true => exact ⟨rfl, rfl, rfl, rfl, rfl⟩
      | false => exact state.write_gpr_privileged index value
    cases instruction with
    | Add rd rs rt => exact hchecked ..
    | Sub rd rs rt => exact hchecked ..
    | Addi rt rs immediate => exact hchecked ..
    | Mthi rs => exact ⟨rfl, rfl, rfl, rfl, rfl⟩
    | Mtlo rs => exact ⟨rfl, rfl, rfl, rfl, rfl⟩
    | Mult rs rt => exact ⟨rfl, rfl, rfl, rfl, rfl⟩
    | Multu rs rt => exact ⟨rfl, rfl, rfl, rfl, rfl⟩
    | Div rs rt => exact ⟨rfl, rfl, rfl, rfl, rfl⟩
    | Divu rs rt => exact ⟨rfl, rfl, rfl, rfl, rfl⟩
    | _ => exact state.write_gpr_privileged ..
  with_mmu state mmu := by
    have hwritten : ∀ (index : Nat) (value : U32),
        ((.ok (), { state with mmu }.write_gpr index value) : Except Exception Unit × State) =
          (.ok (), { state.write_gpr index value with mmu }) := by
      intro index value
      rw [State.write_gpr_with_mmu]
    have hchecked : ∀ (index : Nat) (value : U32) (overflowed : Bool),
        write_checked { state with mmu } index value overflowed =
          ((write_checked state index value overflowed).1,
            { (write_checked state index value overflowed).2 with mmu }) := by
      intro index value overflowed
      cases overflowed with
      | true => rfl
      | false => exact hwritten index value
    cases instruction with
    | Add rd rs rt => exact hchecked ..
    | Sub rd rs rt => exact hchecked ..
    | Addi rt rs immediate => exact hchecked ..
    | Mthi rs => rfl
    | Mtlo rs => rfl
    | Mult rs rt => rfl
    | Multu rs rt => rfl
    | Div rs rt => rfl
    | Divu rs rt => rfl
    | _ => exact hwritten ..

end alu

namespace control

/-- A jump or a branch looks at registers and the program counter, and at nothing privileged. -/
theorem execute_independent (instruction : ControlInstruction) :
    Independent fun state => execute state instruction where
  privileged state := by
    cases instruction with
    | Jal target => exact state.write_gpr_privileged 31 _
    | Jalr rd rs => exact state.write_gpr_privileged rd _
    | Bltzal rs offset => exact state.write_gpr_privileged 31 _
    | Bgezal rs offset => exact state.write_gpr_privileged 31 _
    | _ => exact ⟨rfl, rfl, rfl, rfl, rfl⟩
  with_mmu state mmu := by
    have hwritten : ∀ (resume_pc : U32) (index : Nat) (value : U32),
        (resume_pc, { state with mmu }.write_gpr index value) =
          (resume_pc, { state.write_gpr index value with mmu }) := by
      intro resume_pc index value
      rw [State.write_gpr_with_mmu]
    cases instruction with
    | Jal target => exact hwritten _ 31 _
    | Jalr rd rs => exact hwritten _ rd _
    | Bltzal rs offset => exact hwritten _ 31 _
    | Bgezal rs offset => exact hwritten _ 31 _
    | _ => rfl

end control

namespace cp1

theorem finish_privileged {V : Type} {write : Cp1 → Nat → V → Cp1}
    (hwrite : ∀ cp1 destination value, (write cp1 destination value).backend = cp1.backend) (state : State)
    (destination : Nat) (update : Fcr31Update) (value : Option V) :
    SamePrivileged state (finish write state destination update value).2 := by
  refine { state.commit_pending_cp1_write_privileged with backend := ?_ }
  refine Eq.trans ?_ state.commit_pending_cp1_write_privileged.backend
  unfold finish
  dsimp only
  split
  · exact hwrite ..
  · rfl

/-- Writing a CP1 result and its flags does the same whatever the translation buffer holds. -/
theorem finish_with_mmu {V : Type} (write : Cp1 → Nat → V → Cp1) (state : State) (mmu : Mmu) (destination : Nat)
    (update : Fcr31Update) (value : Option V) :
    finish write { state with mmu } destination update value =
      ((finish write state destination update value).1,
        { (finish write state destination update value).2 with mmu }) := by
  unfold finish
  rw [State.commit_pending_cp1_write_with_mmu]

theorem execute_binary_independent (operation : Cp1BinaryOperation) (format : Cp1FloatFormat) (ft fs fd : Nat) :
    Independent fun state => execute_binary state operation format ft fs fd where
  privileged state := by cases format <;> exact finish_privileged (by intros; rfl) ..
  with_mmu state mmu := by cases format <;> exact finish_with_mmu ..

theorem execute_unary_independent (operation : Cp1UnaryOperation) (format : Cp1FloatFormat) (fs fd : Nat) :
    Independent fun state => execute_unary state operation format fs fd where
  privileged state := by
    have hmove := state.commit_pending_cp1_write_privileged
    cases operation with
    | Move => cases format <;> exact { hmove with }
    | Absolute => cases format <;> exact finish_privileged (by intros; rfl) ..
    | Negate => cases format <;> exact finish_privileged (by intros; rfl) ..
  with_mmu state mmu := by
    cases operation with
    | Move =>
      unfold execute_unary
      rw [State.commit_pending_cp1_write_with_mmu]
      cases format <;> rfl
    | Absolute => cases format <;> exact finish_with_mmu ..
    | Negate => cases format <;> exact finish_with_mmu ..

theorem execute_conversion_independent (operation : Cp1Conversion) (fs fd : Nat) :
    Independent fun state => execute_conversion state operation fs fd where
  privileged state := by cases operation <;> exact finish_privileged (by intros; rfl) ..
  with_mmu state mmu := by cases operation <;> exact finish_with_mmu ..

theorem execute_compare_independent (format : Cp1FloatFormat) (condition : U8) (fs ft : Nat) :
    Independent fun state => execute_compare state format condition fs ft where
  privileged state := by
    have hcommitted := state.commit_pending_cp1_write_privileged
    unfold execute_compare
    dsimp only
    split
    · exact { hcommitted with }
    · exact { hcommitted with }
  with_mmu state mmu := by
    unfold execute_compare
    dsimp only
    rw [State.commit_pending_cp1_write_with_mmu]
    split <;> rfl

end cp1

/-! ## Two runs of a step -/

namespace state

/-- An effect an instruction can have without CP0. -/
def InstructionEffect.Unprivileged : InstructionEffect → Prop
  | .DelayedGprWrite .. | .DelayedCp1GeneralWrite .. | .DelayedCp1ControlWrite .. | .DelayedCp1ConditionWrite _ => True
  | _ => False

/-- Two runs of an operation, one over each bus, with one result and states that
agree but for the memory-management unit. -/
def Abreast {ρ : Type} (kept : ρ → State → Mmu → Prop) (related : β → γ → Prop) (left : ρ × State × β)
    (right : ρ × State × γ) : Prop :=
  ∃ result state twin bus_state other_state, left = (result, state, bus_state) ∧
    right = (result, { state with mmu := twin }, other_state) ∧ kept result state twin ∧
      related bus_state other_state

/-- The same of an operation that fills a buffer besides. -/
def AbreastWith {ρ α : Type} (kept : State → Mmu → Prop) (related : β → γ → Prop) (left : ρ × α × State × β)
    (right : ρ × α × State × γ) : Prop :=
  ∃ result data state twin bus_state other_state, left = (result, data, state, bus_state) ∧
    right = (result, data, { state with mmu := twin }, other_state) ∧ kept state twin ∧
      related bus_state other_state

/-- A relation between a state and the memory-management unit of its twin that the
parts of a step keep, with the effects instructions have under it, the pages
their accesses are translated to, and what an exception leaves of it. -/
structure Simulation (kept left : State → Mmu → Prop) (permitted : InstructionEffect → Prop)
    (readable writable : Nat → Prop) : Prop where
  geometry : ∀ {state twin}, kept state twin → state.caches.Geometry
  same : ∀ {state state' twin}, kept state twin → SamePrivileged state state' → kept state' twin
  with_caches : ∀ {state twin caches}, kept state twin → caches.Geometry → kept { state with caches } twin
  set_cache_miss : ∀ {state twin} miss, kept state twin →
    kept { state with cp0 := state.cp0.set_cache_miss miss } twin
  sampled : ∀ {state twin}, kept state twin → kept state.sampled twin
  synchronize : ∀ {state twin}, kept state twin → kept state.synchronize_cp1_interrupt twin
  translate : ∀ {state twin} virtual_address access, kept state twin →
    ∃ result after twin', state.translate_address virtual_address access = (result, after) ∧
      { state with mmu := twin }.translate_address virtual_address access = (result, { after with mmu := twin' }) ∧
      kept after twin' ∧ ∀ translation, result = .ok translation → translation.Placed virtual_address ∧
        (if access = .Store then writable else readable) (translation.address.get / 4096)
  unprivileged : ∀ {effect}, effect.Unprivileged → permitted effect
  execute_cp0 : ∀ {state twin} instruction condition, kept state twin →
    ∃ result after twin', cp0.execute state instruction condition = (result, after) ∧
      cp0.execute { state with mmu := twin } instruction condition = (result, { after with mmu := twin' }) ∧
      kept after twin' ∧
      ∀ resume_pc effect, result = .ok (.Completed (resume_pc, some effect)) → permitted effect
  complete : ∀ {state twin} resume_pc {effect}, kept state twin →
    (∀ some_effect, effect = some some_effect → permitted some_effect) →
      ∃ twin', { state with mmu := twin }.complete_instruction resume_pc effect =
          { state.complete_instruction resume_pc effect with mmu := twin' } ∧
        kept (state.complete_instruction resume_pc effect) twin'
  enter : ∀ {state twin} exception, kept state twin →
    ∃ twin', { state with mmu := twin }.take_exception exception =
        { state.take_exception exception with mmu := twin' } ∧
      left (state.take_exception exception).synchronize_cp1_interrupt twin'

end state

section Transactions

variable {bus : PhysicalBus β} {other : PhysicalBus γ} {related : β → γ → Prop} {kept left : State → Mmu → Prop}
  {permitted : InstructionEffect → Prop} {readable writable : Nat → Prop} {state : State} {twin : Mmu}
  {bus_state : β} {other_state : γ}

/-! ### Memory -/

namespace state.Simulation

/-- Two fetches of one readable word end alike, from the caches and from the buses. -/
theorem read_instruction_abreast (hsimulation : Simulation kept left permitted readable writable)
    (h : kept state twin) (hbus : bus.Alike other related readable writable) (translation : Translation)
    (hwithin : WithinWord translation.address 4) (hreadable : readable (translation.address.get / 4096))
    (hrelated : related bus_state other_state) :
    Abreast (fun _ => kept) related (state.read_instruction translation bus bus_state)
      ({ state with mmu := twin }.read_instruction translation other other_state) := by
  unfold State.read_instruction
  cases translation.cacheability with
  | Cached =>
    obtain ⟨result, data, caches, after, after', hleft, hright, hkept, hafter⟩ :=
      (hsimulation.geometry h).read_together hbus (State.cache_bank .Instruction state.cache_mode.effective) hwithin
        hreadable (Vector.replicate 4 0) hrelated
    dsimp only
    rw [hleft, hright]
    cases result with
    | ok done => exact ⟨_, _, _, _, _, rfl, rfl, hsimulation.with_caches h hkept, hafter⟩
    | error fault => exact ⟨_, _, _, _, _, rfl, rfl, hsimulation.with_caches h hkept, hafter⟩
  | Uncached =>
    obtain ⟨hresult, hafter⟩ := hbus.read translation.address 4 hrelated hwithin hreadable
    refine ⟨_, state, twin, _, _, rfl, ?_, h, hafter⟩
    dsimp only
    rw [hresult]

/-- Two loads within one readable word end alike: isolated, cached and uncached. -/
theorem load_data_abreast (hsimulation : Simulation kept left permitted readable writable)
    (h : kept state twin) (hbus : bus.Alike other related readable writable) {translation : Translation} {length : Nat}
    (hwithin : WithinWord translation.address length) (hreadable : readable (translation.address.get / 4096))
    (data : Vector U8 length) (hrelated : related bus_state other_state) :
    AbreastWith kept related (state.load_data translation data bus bus_state)
      ({ state with mmu := twin }.load_data translation data other other_state) := by
  unfold State.load_data
  dsimp only
  cases state.cache_mode.effective.isolated with
  | true => exact ⟨_, _, _, _, _, _, rfl, rfl, hsimulation.set_cache_miss _ h, hrelated⟩
  | false =>
    simp only [Bool.false_eq_true, if_false]
    cases translation.cacheability with
    | Cached =>
      obtain ⟨result, filled, caches, after, after', hleft, hright, hkept, hafter⟩ :=
        (hsimulation.geometry h).read_together hbus (State.cache_bank .Data state.cache_mode.effective) hwithin
          hreadable data hrelated
      dsimp only
      rw [hleft, hright]
      exact ⟨_, _, _, _, _, _, rfl, rfl, hsimulation.with_caches h hkept, hafter⟩
    | Uncached =>
      obtain ⟨hresult, hafter⟩ := hbus.read translation.address length hrelated hwithin hreadable
      dsimp only
      cases hleft : bus.read bus_state translation.address length with
      | mk result after =>
        cases hright : other.read other_state translation.address length with
        | mk result' after' =>
          rw [hleft, hright] at hresult hafter
          obtain rfl : result = result' := hresult
          cases result with
          | ok staged => exact ⟨_, _, _, _, _, _, rfl, rfl, h, hafter⟩
          | error fault => exact ⟨_, _, _, _, _, _, rfl, rfl, h, hafter⟩

/-- Two stores within one writable word end alike: isolated, cached and uncached. -/
theorem store_memory_abreast (hsimulation : Simulation kept left permitted readable writable)
    (h : kept state twin) (hbus : bus.Alike other related readable writable) {translation : Translation}
    {data : List U8} (hwithin : WithinWord translation.address data.length)
    (hwritable : writable (translation.address.get / 4096)) (hrelated : related bus_state other_state) :
    Abreast (fun _ => kept) related (state.store_memory translation data bus bus_state)
      ({ state with mmu := twin }.store_memory translation data other other_state) := by
  unfold State.store_memory
  dsimp only
  cases state.cache_mode.effective.isolated with
  | true =>
    have hwritten := hsimulation.with_caches h ((hsimulation.geometry h).write_isolated
      (State.cache_bank .Data state.cache_mode.effective) translation.address data)
    exact ⟨_, _, _, _, _, rfl, rfl, hwritten, hrelated⟩
  | false =>
    simp only [Bool.false_eq_true, if_false]
    cases translation.cacheability with
    | Cached =>
      obtain ⟨result, caches, after, after', hleft, hright, hkept, hafter⟩ :=
        (hsimulation.geometry h).write_together hbus (State.cache_bank .Data state.cache_mode.effective) hwithin
          hwritable hrelated
      dsimp only
      rw [hleft, hright]
      exact ⟨_, _, _, _, _, rfl, rfl, hsimulation.with_caches h hkept, hafter⟩
    | Uncached =>
      obtain ⟨hresult, hafter⟩ := hbus.write translation.address data hrelated hwithin hwritable
      refine ⟨_, state, twin, _, _, rfl, ?_, h, hafter⟩
      dsimp only
      rw [hresult]

end state.Simulation

/-! ### Loads and stores -/

namespace load_store

/-- What a load or store leaves in a step. -/
def LeavesAbreast (kept : State → Mmu → Prop) (permitted : InstructionEffect → Prop)
    (result : Except StepError (ExecutionOutcome (Option InstructionEffect))) (state : State) (twin : Mmu) : Prop :=
  (∀ effect, result = .ok (.Completed (some effect)) → permitted effect) ∧ kept state twin

/-- Two translations end alike, and one that completes leads to a page both may access. -/
theorem translate_address_abreast (hsimulation : Simulation kept left permitted readable writable)
    (h : kept state twin) (virtual_address : U32) (access : AccessType) :
    ∃ result after twin', translate_address state virtual_address access = (result, after) ∧
      translate_address { state with mmu := twin } virtual_address access = (result, { after with mmu := twin' }) ∧
      kept after twin' ∧ ∀ translation, result = .ok (.Completed translation) →
        translation.Placed virtual_address ∧
          (if access = .Store then writable else readable) (translation.address.get / 4096) := by
  obtain ⟨result, after, twin', hleft, hright, hafter, htranslated⟩ := hsimulation.translate virtual_address access h
  unfold translate_address
  rw [hleft, hright]
  cases result with
  | ok translation =>
    refine ⟨_, _, _, rfl, rfl, hafter, fun found hfound => ?_⟩
    obtain rfl : translation = found := ExecutionOutcome.Completed.inj (Except.ok.inj hfound)
    exact htranslated translation rfl
  | error error =>
    cases error with
    | Exception exception => exact ⟨_, _, _, rfl, rfl, hafter, fun found hfound => nomatch Except.ok.inj hfound⟩
    | TlbShutdown => exact ⟨_, _, _, rfl, rfl, hafter, nofun⟩

theorem effective_address_with_mmu (state : State) (mmu : Mmu) (base : Nat) (offset : U16) :
    effective_address { state with mmu } base offset = effective_address state base offset := rfl

/-- An aligned access stays in its word. -/
theorem within_of_aligned {address : U32} {length : Nat} (hlength : length = 1 ∨ length = 2 ∨ length = 4)
    (h : misaligned address length = false) : 0 < length ∧ address.toNat % 4 + length ≤ 4 := by
  obtain rfl | rfl | rfl := hlength
  · omega
  · have hlow : (address &&& 1#32).toNat = address.toNat % 2 := toNat_and_low (k := 1) rfl
    simp only [misaligned, bne_eq_false_iff_eq] at h
    rw [h] at hlow
    change 0 = address.toNat % 2 at hlow
    omega
  · have hlow : (address &&& 3#32).toNat = address.toNat % 4 := toNat_and_low (k := 2) rfl
    simp only [misaligned, bne_eq_false_iff_eq] at h
    rw [h] at hlow
    change 0 = address.toNat % 4 at hlow
    omega

/-- A bus error is reported alike on both sides. -/
theorem read_translated_abreast (hsimulation : Simulation kept left permitted readable writable)
    (h : kept state twin) (hbus : bus.Alike other related readable writable) (translation : Translation) {length : Nat}
    (hwithin : WithinWord translation.address length)
    (hreadable : readable (translation.address.get / 4096)) (hrelated : related bus_state other_state) :
    Abreast (fun _ => kept) related (read_translated length state translation bus bus_state)
      (read_translated length { state with mmu := twin } translation other other_state) := by
  obtain ⟨result, data, after, twin', bus_after, other_after, hleft, hright, hafter, hstates⟩ :=
    hsimulation.load_data_abreast h hbus hwithin hreadable (Vector.replicate length 0) hrelated
  unfold read_translated
  rw [hleft, hright]
  cases result with
  | ok done => exact ⟨_, _, _, _, _, rfl, rfl, hafter, hstates⟩
  | error fault => cases fault <;> exact ⟨_, _, _, _, _, rfl, rfl, hafter, hstates⟩

theorem write_translated_abreast (hsimulation : Simulation kept left permitted readable writable)
    (h : kept state twin) (hbus : bus.Alike other related readable writable) (translation : Translation) {data : List U8}
    (hwithin : WithinWord translation.address data.length)
    (hwritable : writable (translation.address.get / 4096)) (hrelated : related bus_state other_state) :
    Abreast (fun _ => kept) related (write_translated state translation data bus bus_state)
      (write_translated { state with mmu := twin } translation data other other_state) := by
  obtain ⟨result, after, twin', bus_after, other_after, hleft, hright, hafter, hstates⟩ :=
    hsimulation.store_memory_abreast h hbus hwithin hwritable hrelated
  unfold write_translated
  rw [hleft, hright]
  cases result with
  | ok done => exact ⟨_, _, _, _, _, rfl, rfl, hafter, hstates⟩
  | error fault => exact ⟨_, _, _, _, _, rfl, rfl, hafter, hstates⟩

/-- Two aligned loads through the same address end alike, an address error included. -/
theorem load_abreast (hsimulation : Simulation kept left permitted readable writable)
    (h : kept state twin) (hbus : bus.Alike other related readable writable) {length : Nat}
    (hlength : length = 1 ∨ length = 2 ∨ length = 4) (base : Nat) (offset : U16)
    (hrelated : related bus_state other_state) :
    Abreast (fun _ => kept) related (load length state base offset bus bus_state)
      (load length { state with mmu := twin } base offset other other_state) := by
  obtain ⟨result, after, twin', hleft, hright, hafter, htranslated⟩ :=
    translate_address_abreast hsimulation h (effective_address state base offset) .Load
  unfold load
  dsimp only
  rw [effective_address_with_mmu state twin]
  cases hmisaligned : misaligned (effective_address state base offset) length with
  | true => exact ⟨_, _, _, _, _, rfl, rfl, h, hrelated⟩
  | false =>
    simp only [Bool.false_eq_true, if_false]
    rw [hleft, hright]
    cases result with
    | error error => exact ⟨_, _, _, _, _, rfl, rfl, hafter, hrelated⟩
    | ok outcome =>
      cases outcome with
      | Exception exception => exact ⟨_, _, _, _, _, rfl, rfl, hafter, hrelated⟩
      | Completed translation =>
        obtain ⟨hpositive, hinside⟩ := within_of_aligned hlength hmisaligned
        obtain ⟨⟨hfits, hoffset⟩, hreadable⟩ := htranslated translation rfl
        exact read_translated_abreast hsimulation hafter hbus translation ⟨hfits, hpositive, by omega⟩ hreadable
          hrelated

/-- Two aligned stores of the same bytes end alike, an address error included. -/
theorem store_abreast (hsimulation : Simulation kept left permitted readable writable)
    (h : kept state twin) (hbus : bus.Alike other related readable writable) (data : List U8)
    (hlength : data.length = 1 ∨ data.length = 2 ∨ data.length = 4) (base : Nat) (offset : U16)
    (hrelated : related bus_state other_state) :
    Abreast (fun _ => kept) related (store state base offset data bus bus_state)
      (store { state with mmu := twin } base offset data other other_state) := by
  obtain ⟨result, after, twin', hleft, hright, hafter, htranslated⟩ :=
    translate_address_abreast hsimulation h (effective_address state base offset) .Store
  unfold store
  dsimp only
  rw [effective_address_with_mmu state twin]
  cases hmisaligned : misaligned (effective_address state base offset) data.length with
  | true => exact ⟨_, _, _, _, _, rfl, rfl, h, hrelated⟩
  | false =>
    simp only [Bool.false_eq_true, if_false]
    rw [hleft, hright]
    cases result with
    | error error => exact ⟨_, _, _, _, _, rfl, rfl, hafter, hrelated⟩
    | ok outcome =>
      cases outcome with
      | Exception exception => exact ⟨_, _, _, _, _, rfl, rfl, hafter, hrelated⟩
      | Completed translation =>
        obtain ⟨hpositive, hinside⟩ := within_of_aligned hlength hmisaligned
        obtain ⟨⟨hfits, hoffset⟩, hwritable⟩ := htranslated translation rfl
        exact write_translated_abreast hsimulation hafter hbus translation ⟨hfits, hpositive, by omega⟩ hwritable
          hrelated

theorem load_gpr_abreast (hsimulation : Simulation kept left permitted readable writable)
    (h : kept state twin) (hbus : bus.Alike other related readable writable) {length : Nat}
    (hlength : length = 1 ∨ length = 2 ∨ length = 4) (value : Vector U8 length → U32) (base rt : Nat)
    (offset : U16) (hrelated : related bus_state other_state) :
    Abreast (LeavesAbreast kept permitted) related (load_gpr length value state base rt offset bus bus_state)
      (load_gpr length value { state with mmu := twin } base rt offset other other_state) := by
  obtain ⟨result, after, twin', bus_after, other_after, hleft, hright, hafter, hstates⟩ :=
    load_abreast hsimulation h hbus hlength base offset hrelated
  unfold load_gpr
  rw [hleft, hright]
  cases result with
  | error error => exact ⟨_, _, _, _, _, rfl, rfl, ⟨nofun, hafter⟩, hstates⟩
  | ok outcome =>
    cases outcome with
    | Exception exception =>
      exact ⟨_, _, _, _, _, rfl, rfl, ⟨nofun, hafter⟩, hstates⟩
    | Completed bytes =>
      refine ⟨_, _, _, _, _, rfl, rfl, ⟨fun effect heffect => ?_, hafter⟩, hstates⟩
      cases heffect
      exact hsimulation.unprivileged trivial

theorem store_gpr_abreast (hsimulation : Simulation kept left permitted readable writable)
    (h : kept state twin) (hbus : bus.Alike other related readable writable) {data : List U8}
    (hlength : data.length = 1 ∨ data.length = 2 ∨ data.length = 4) (base : Nat) (offset : U16)
    (hrelated : related bus_state other_state) :
    Abreast (LeavesAbreast kept permitted) related (store_gpr data state base offset bus bus_state)
      (store_gpr data { state with mmu := twin } base offset other other_state) := by
  obtain ⟨result, after, twin', bus_after, other_after, hleft, hright, hafter, hstates⟩ :=
    store_abreast hsimulation h hbus data hlength base offset hrelated
  unfold store_gpr
  rw [hleft, hright]
  cases result with
  | error error => exact ⟨_, _, _, _, _, rfl, rfl, ⟨nofun, hafter⟩, hstates⟩
  | ok outcome => cases outcome <;> exact ⟨_, _, _, _, _, rfl, rfl, ⟨nofun, hafter⟩, hstates⟩

/-- Moving a translation back inside its word stays in its page. -/
theorem moved_back {translation : Translation} {virtual_address : U32} {back length : Nat}
    (hplaced : translation.Placed virtual_address) (hback : back ≤ virtual_address.toNat % 4)
    (hpositive : 0 < length) (hinside : virtual_address.toNat % 4 - back + length ≤ 4) :
    WithinWord ⟨translation.address.get - back⟩ length ∧
      (translation.address.get - back) / 4096 = translation.address.get / 4096 := by
  obtain ⟨hfits, hoffset⟩ := hplaced
  exact ⟨⟨show translation.address.get - back ≤ _ by omega, hpositive,
    show (translation.address.get - back) % 4 + length ≤ 4 by omega⟩, by omega⟩

/-- Two unaligned loads end alike: the word each reads a part of lies in the page that was
translated. -/
theorem load_merge_abreast (hsimulation : Simulation kept left permitted readable writable)
    (h : kept state twin) (hbus : bus.Alike other related readable writable) {length back : Nat} (start rt : Nat)
    {virtual_address : U32} (hback : back ≤ virtual_address.toNat % 4) (hpositive : 0 < length)
    (hinside : virtual_address.toNat % 4 - back + length ≤ 4) (hrelated : related bus_state other_state) :
    Abreast (LeavesAbreast kept permitted) related (load_merge length back start virtual_address state rt bus bus_state)
      (load_merge length back start virtual_address { state with mmu := twin } rt other other_state) := by
  obtain ⟨result, after, twin', hleft, hright, hafter, htranslated⟩ :=
    translate_address_abreast hsimulation h virtual_address .Load
  unfold load_merge
  rw [hleft, hright]
  cases result with
  | error error => exact ⟨_, _, _, _, _, rfl, rfl, ⟨nofun, hafter⟩, hrelated⟩
  | ok outcome =>
    cases outcome with
    | Exception exception => exact ⟨_, _, _, _, _, rfl, rfl, ⟨nofun, hafter⟩, hrelated⟩
    | Completed translation =>
      obtain ⟨hplaced, hreadable⟩ := htranslated translation rfl
      obtain ⟨hwithin, hmoved⟩ := moved_back hplaced hback hpositive hinside
      rw [← hmoved] at hreadable
      obtain ⟨read, last, twin_last, bus_last, other_last, hleft, hright, hlast, hstates⟩ :=
        read_translated_abreast hsimulation hafter hbus
          { translation with address := ⟨translation.address.get - back⟩ } hwithin hreadable hrelated
      dsimp only
      rw [hleft, hright]
      cases read with
      | error error => exact ⟨_, _, _, _, _, rfl, rfl, ⟨nofun, hlast⟩, hstates⟩
      | ok outcome =>
        cases outcome with
        | Exception exception => exact ⟨_, _, _, _, _, rfl, rfl, ⟨nofun, hlast⟩, hstates⟩
        | Completed memory =>
          refine ⟨_, _, _, _, _, rfl, rfl, ⟨fun effect heffect => ?_, hlast⟩, hstates⟩
          cases heffect
          exact hsimulation.unprivileged trivial

/-- Two unaligned stores end alike, as unaligned loads do. -/
theorem store_merge_abreast (hsimulation : Simulation kept left permitted readable writable)
    (h : kept state twin) (hbus : bus.Alike other related readable writable) {back : Nat} {data : List U8}
    {virtual_address : U32} (hback : back ≤ virtual_address.toNat % 4) (hpositive : 0 < data.length)
    (hinside : virtual_address.toNat % 4 - back + data.length ≤ 4) (hrelated : related bus_state other_state) :
    Abreast (LeavesAbreast kept permitted) related (store_merge back data virtual_address state bus bus_state)
      (store_merge back data virtual_address { state with mmu := twin } other other_state) := by
  obtain ⟨result, after, twin', hleft, hright, hafter, htranslated⟩ :=
    translate_address_abreast hsimulation h virtual_address .Store
  unfold store_merge
  rw [hleft, hright]
  cases result with
  | error error => exact ⟨_, _, _, _, _, rfl, rfl, ⟨nofun, hafter⟩, hrelated⟩
  | ok outcome =>
    cases outcome with
    | Exception exception => exact ⟨_, _, _, _, _, rfl, rfl, ⟨nofun, hafter⟩, hrelated⟩
    | Completed translation =>
      obtain ⟨hplaced, hwritable⟩ := htranslated translation rfl
      obtain ⟨hwithin, hmoved⟩ := moved_back hplaced hback hpositive hinside
      rw [← hmoved] at hwritable
      obtain ⟨written, last, twin_last, bus_last, other_last, hleft, hright, hlast, hstates⟩ :=
        write_translated_abreast hsimulation hafter hbus
          { translation with address := ⟨translation.address.get - back⟩ } hwithin hwritable hrelated
      dsimp only
      rw [hleft, hright]
      cases written with
      | error error => exact ⟨_, _, _, _, _, rfl, rfl, ⟨nofun, hlast⟩, hstates⟩
      | ok outcome => cases outcome <;> exact ⟨_, _, _, _, _, rfl, rfl, ⟨nofun, hlast⟩, hstates⟩

/-- Every load and store ends alike on both sides. -/
theorem execute_abreast (hsimulation : Simulation kept left permitted readable writable)
    (h : kept state twin) (hbus : bus.Alike other related readable writable) (instruction : MemoryInstruction)
    (hrelated : related bus_state other_state) :
    Abreast (LeavesAbreast kept permitted) related (execute state instruction bus bus_state)
      (execute { state with mmu := twin } instruction other other_state) := by
  have hbyte : ∀ virtual_address : U32, (virtual_address &&& 3#32).toNat = virtual_address.toNat % 4 :=
    fun virtual_address => toNat_and_low (k := 2) rfl
  have hstored : ∀ register : U32, (to_be_bytes register).toList.length = 4 := fun register => Vector.length_toList
  cases instruction with
  | Lb base rt offset => exact load_gpr_abreast hsimulation h hbus (.inl rfl) _ base rt offset hrelated
  | Lbu base rt offset => exact load_gpr_abreast hsimulation h hbus (.inl rfl) _ base rt offset hrelated
  | Lh base rt offset => exact load_gpr_abreast hsimulation h hbus (.inr (.inl rfl)) _ base rt offset hrelated
  | Lhu base rt offset => exact load_gpr_abreast hsimulation h hbus (.inr (.inl rfl)) _ base rt offset hrelated
  | Lw base rt offset => exact load_gpr_abreast hsimulation h hbus (.inr (.inr rfl)) _ base rt offset hrelated
  | Sb base rt offset => exact store_gpr_abreast hsimulation h hbus (.inl rfl) base offset hrelated
  | Sh base rt offset =>
    refine store_gpr_abreast hsimulation h hbus (.inr (.inl ?_)) base offset hrelated
    rw [List.length_drop, hstored]
  | Sw base rt offset => exact store_gpr_abreast hsimulation h hbus (.inr (.inr (hstored _))) base offset hrelated
  | Lwl base rt offset =>
    have hlow := hbyte (effective_address state base offset)
    exact load_merge_abreast hsimulation h hbus _ rt (by omega) (by omega) (by omega) hrelated
  | Lwr base rt offset =>
    have hlow := hbyte (effective_address state base offset)
    exact load_merge_abreast hsimulation h hbus _ rt (by omega) (by omega) (by omega) hrelated
  | Swl base rt offset =>
    have hlow := hbyte (effective_address state base offset)
    refine store_merge_abreast hsimulation h hbus (Nat.zero_le _) ?_ ?_ hrelated
    · rw [List.length_take, hstored]
      omega
    · rw [List.length_take, hstored]
      omega
  | Swr base rt offset =>
    have hlow := hbyte (effective_address state base offset)
    refine store_merge_abreast hsimulation h hbus (by omega) ?_ ?_ hrelated
    · rw [List.length_drop, hstored]
      omega
    · rw [List.length_drop, hstored]
      omega

end load_store

/-! ### CP1 instructions -/

namespace cp1

/-- What a CP1 instruction leaves in a step. -/
def LeavesAbreast (kept : State → Mmu → Prop) (permitted : InstructionEffect → Prop)
    (result : Except StepError (ExecutionOutcome InstructionCompletion × Bool)) (state : State) (twin : Mmu) : Prop :=
  (∀ resume_pc effect raised, result = .ok (.Completed (resume_pc, some effect), raised) → permitted effect) ∧
    kept state twin

/-- What a compare delays is its condition bit, an effect that is allowed in any mode. -/
theorem execute_compare_unprivileged (state : State) (format : Cp1FloatFormat) (condition : U8) (fs ft : Nat)
    (effect : InstructionEffect) (h : (execute_compare state format condition fs ft).1.1 = some effect) :
    effect.Unprivileged := by
  unfold execute_compare at h
  dsimp only at h
  split at h
  · cases h
    trivial
  · cases h

/-- Every CP1 instruction ends alike, with the same exception raised or none. -/
theorem execute_abreast (hsimulation : Simulation kept left permitted readable writable)
    (h : kept state twin) (hbus : bus.Alike other related readable writable) (instruction : Cp1Instruction)
    (hrelated : related bus_state other_state) :
    Abreast (LeavesAbreast kept permitted) related (execute state instruction bus bus_state)
      (execute { state with mmu := twin } instruction other other_state) := by
  have hdelayed : ∀ (state' : State) (twin' : Mmu) (effect : InstructionEffect) (raised : Bool),
      kept state' twin' → effect.Unprivileged →
        LeavesAbreast kept permitted (.ok (.Completed (none, some effect), raised)) state' twin' := by
    intro state' twin' effect raised hstate heffect
    refine ⟨fun resume_pc found _ hfound => ?_, hstate⟩
    cases hfound
    exact hsimulation.unprivileged heffect
  have hcompleted : ∀ (state' : State) (twin' : Mmu) (resume_pc : Option U32) (raised : Bool), kept state' twin' →
      LeavesAbreast kept permitted (.ok (.Completed (resume_pc, none), raised)) state' twin' :=
    fun state' twin' resume_pc raised hstate => ⟨nofun, hstate⟩
  have hindependent : ∀ {operation : State → Bool × State}, Independent operation →
      Abreast (LeavesAbreast kept permitted) related
        (.ok (.Completed (none, none), (operation state).1), (operation state).2, bus_state)
        (.ok (.Completed (none, none), (operation { state with mmu := twin }).1),
          (operation { state with mmu := twin }).2, other_state) := by
    intro operation hoperation
    rw [hoperation.with_mmu state twin]
    exact ⟨_, _, _, _, _, rfl, rfl, hcompleted _ _ _ _ (hsimulation.same h (hoperation.privileged state)), hrelated⟩
  unfold execute
  cases state.cp0.coprocessor_usable 1 with
  | false => exact ⟨_, _, _, _, _, rfl, rfl, ⟨nofun, h⟩, hrelated⟩
  | true =>
    simp only [Bool.not_true, Bool.false_eq_true, if_false]
    cases instruction with
    | Mfc1 rt rd => exact ⟨_, _, _, _, _, rfl, rfl, hdelayed _ _ _ _ h trivial, hrelated⟩
    | Cfc1 rt rd => exact ⟨_, _, _, _, _, rfl, rfl, hdelayed _ _ _ _ h trivial, hrelated⟩
    | Mtc1 rt rd => exact ⟨_, _, _, _, _, rfl, rfl, hdelayed _ _ _ _ h trivial, hrelated⟩
    | Ctc1 rt rd => exact ⟨_, _, _, _, _, rfl, rfl, hdelayed _ _ _ _ h trivial, hrelated⟩
    | Bc1f offset => exact ⟨_, _, _, _, _, rfl, rfl, hcompleted _ _ _ _ h, hrelated⟩
    | Bc1t offset => exact ⟨_, _, _, _, _, rfl, rfl, hcompleted _ _ _ _ h, hrelated⟩
    | Lwc1 base ft offset =>
      obtain ⟨result, after, twin', bus_after, other_after, hleft, hright, hafter, hstates⟩ :=
        load_store.load_abreast hsimulation h hbus (.inr (.inr rfl)) base offset hrelated
      dsimp only
      rw [hleft, hright]
      cases result with
      | error error => exact ⟨_, _, _, _, _, rfl, rfl, ⟨nofun, hafter⟩, hstates⟩
      | ok outcome =>
        cases outcome with
        | Exception exception => exact ⟨_, _, _, _, _, rfl, rfl, ⟨nofun, hafter⟩, hstates⟩
        | Completed bytes => exact ⟨_, _, _, _, _, rfl, rfl, hdelayed _ _ _ _ hafter trivial, hstates⟩
    | Swc1 base ft offset =>
      obtain ⟨result, after, twin', bus_after, other_after, hleft, hright, hafter, hstates⟩ :=
        load_store.store_abreast hsimulation h hbus (to_be_bytes (state.cp1.read_general_register ft)).toList
          (.inr (.inr Vector.length_toList)) base offset hrelated
      dsimp only
      rw [hleft, hright]
      cases result with
      | error error => exact ⟨_, _, _, _, _, rfl, rfl, ⟨nofun, hafter⟩, hstates⟩
      | ok outcome =>
        cases outcome with
        | Exception exception => exact ⟨_, _, _, _, _, rfl, rfl, ⟨nofun, hafter⟩, hstates⟩
        | Completed done => exact ⟨_, _, _, _, _, rfl, rfl, hcompleted _ _ _ _ hafter, hstates⟩
    | Binary operation format ft fs fd => exact hindependent (execute_binary_independent operation format ft fs fd)
    | Unary operation format fs fd => exact hindependent (execute_unary_independent operation format fs fd)
    | Convert operation fs fd => exact hindependent (execute_conversion_independent operation fs fd)
    | Compare format condition fs ft =>
      obtain ⟨hprivileged, hmmu⟩ := execute_compare_independent format condition fs ft
      have heffect := execute_compare_unprivileged state format condition fs ft
      dsimp only
      rw [show execute_compare _ _ _ _ _ = _ from hmmu state twin]
      refine ⟨_, _, _, _, _, rfl, rfl, ⟨fun resume_pc effect raised hfound => ?_,
        hsimulation.same h (hprivileged state)⟩, hrelated⟩
      refine hsimulation.unprivileged (heffect effect ?_)
      exact congrArg Prod.snd (ExecutionOutcome.Completed.inj (Prod.mk.inj (Except.ok.inj hfound)).1)
    | UnimplementedOperation =>
      dsimp only
      rw [State.commit_pending_cp1_write_with_mmu state twin]
      refine ⟨_, _, _, _, _, rfl, rfl, hcompleted _ _ _ _ (hsimulation.same h ?_), hrelated⟩
      exact { state.commit_pending_cp1_write_privileged with }

end cp1

namespace R3000

/-- What a step leaves: the start of the next one, or of an exception handler. -/
def Leaves (kept left : State → Mmu → Prop) : Except StepError StepEvent → State → Mmu → Prop
  | .ok (.Completed _), state, twin => kept state twin
  | .ok _, state, twin => left state twin
  | .error _, state, twin => kept state twin

/-- Two processors that see the same CP0 condition and decode every word alike. -/
structure Paired (cpu cpu' : R3000) : Prop where
  cp0_condition : cpu'.cp0_condition = cpu.cp0_condition
  coherent : cpu.Coherent
  coherent' : cpu'.Coherent

/-- Two steps, one over each bus, that end alike. -/
def StepAbreast (kept left : State → Mmu → Prop) (related : β → γ → Prop) (left_result : StepResult β)
    (right_result : StepResult γ) : Prop :=
  ∃ event cpu cpu' twin bus_state other_state, left_result = (event, cpu, bus_state) ∧
    right_result = (event, cpu', other_state) ∧ Paired cpu cpu' ∧ cpu'.state = { cpu.state with mmu := twin } ∧
      Leaves kept left event cpu.state twin ∧ related bus_state other_state

variable {cpu cpu' : R3000}

theorem Paired.with_states (hpaired : Paired cpu cpu') (state state' : State) :
    Paired { cpu with state } { cpu' with state := state' } :=
  ⟨hpaired.cp0_condition, hpaired.coherent, hpaired.coherent'⟩

/-- A failing step leaves both states as they are. -/
theorem fail_abreast (hpaired : Paired cpu cpu') (h : kept state twin) (error : StepError)
    (hrelated : related bus_state other_state) :
    StepAbreast kept left related (cpu.fail state error bus_state)
      (cpu'.fail { state with mmu := twin } error other_state) :=
  ⟨_, _, _, twin, _, _, rfl, rfl, hpaired.with_states _ _, rfl, h, hrelated⟩

/-- Two entries of one exception, with the mode they leave behind. -/
theorem enter_exception_abreast (hpaired : Paired cpu cpu')
    (hsimulation : Simulation kept left permitted readable writable) (h : kept state twin) (exception : Exception)
    (hrelated : related bus_state other_state) :
    StepAbreast kept left related (cpu.enter_exception state exception bus_state)
      (cpu'.enter_exception { state with mmu := twin } exception other_state) := by
  obtain ⟨twin', htaken, hleft⟩ := hsimulation.enter exception h
  unfold enter_exception
  rw [htaken]
  exact ⟨_, _, _, twin', _, _, rfl, rfl, hpaired.with_states _ _, rfl, hleft, hrelated⟩

/-- Two instructions that ended alike cross their boundary alike. -/
theorem finish_abreast (hpaired : Paired cpu cpu') (hsimulation : Simulation kept left permitted readable writable)
    (h : kept state twin) (outcome : InstructionResult)
    (houtcome : ∀ resume_pc effect, outcome = .ok (.Completed (resume_pc, some effect)) → permitted effect)
    (hrelated : related bus_state other_state) :
    StepAbreast kept left related (cpu.finish state outcome bus_state)
      (cpu'.finish { state with mmu := twin } outcome other_state) := by
  cases outcome with
  | error error => exact fail_abreast hpaired h error hrelated
  | ok outcome =>
    cases outcome with
    | Exception exception => exact enter_exception_abreast hpaired hsimulation h exception hrelated
    | Completed completion =>
      obtain ⟨resume_pc, effect⟩ := completion
      have heffect : ∀ some_effect, effect = some some_effect → permitted some_effect :=
        fun some_effect heffect => houtcome resume_pc some_effect (by rw [heffect])
      obtain ⟨twin', hcompleted, hkept⟩ := hsimulation.complete resume_pc h heffect
      unfold finish
      dsimp only
      rw [hcompleted]
      exact ⟨_, _, _, twin', _, _, rfl, rfl, hpaired.with_states _ _, rfl, hsimulation.synchronize hkept, hrelated⟩

/-- Every instruction decoded from the word both fetched ends alike. -/
theorem execute_abreast (hpaired : Paired cpu cpu') (hsimulation : Simulation kept left permitted readable writable)
    (h : kept state twin) (hbus : bus.Alike other related readable writable) (instruction : Instruction)
    (hrelated : related bus_state other_state) :
    StepAbreast kept left related (cpu.execute state instruction bus bus_state)
      (cpu'.execute { state with mmu := twin } instruction other other_state) := by
  cases instruction with
  | Alu instruction =>
    obtain ⟨hprivileged, hmmu⟩ := alu.execute_independent instruction
    have hafter := hsimulation.same h (hprivileged state)
    unfold execute
    dsimp only
    rw [show alu.execute _ _ = _ from hmmu state twin]
    cases hresult : alu.execute state instruction with
    | mk result after =>
      rw [hresult] at hafter
      cases result with
      | ok done => exact finish_abreast hpaired hsimulation hafter (.ok (.Completed (none, none))) nofun hrelated
      | error exception =>
        exact finish_abreast hpaired hsimulation hafter (.ok (.Exception exception)) nofun hrelated
  | Control instruction =>
    obtain ⟨hprivileged, hmmu⟩ := control.execute_independent instruction
    unfold execute
    dsimp only
    rw [show control.execute _ _ = _ from hmmu state twin]
    refine finish_abreast hpaired hsimulation (hsimulation.same h (hprivileged state))
      (.ok (.Completed (some (control.execute state instruction).1, none))) (fun resume_pc effect hcompleted => ?_)
      hrelated
    cases hcompleted
  | Cp0 instruction =>
    obtain ⟨result, after, twin', hleft, hright, hafter, hpermitted⟩ :=
      hsimulation.execute_cp0 instruction cpu.cp0_condition h
    unfold execute
    dsimp only
    rw [hpaired.cp0_condition, hleft, hright]
    exact finish_abreast hpaired hsimulation hafter result hpermitted hrelated
  | Cp1 instruction =>
    obtain ⟨result, after, twin', bus_after, other_after, hleft, hright, ⟨heffect, hafter⟩, hstates⟩ :=
      cp1.execute_abreast hsimulation h hbus instruction hrelated
    unfold execute
    dsimp only
    rw [hleft, hright]
    cases result with
    | error error => exact fail_abreast hpaired hafter error hstates
    | ok completion =>
      obtain ⟨outcome, raised⟩ := completion
      have hsynchronized := hsimulation.synchronize hafter
      obtain ⟨twin'', htaken, hentered⟩ := hsimulation.enter .Interrupt hsynchronized
      have htwin : ({ after with mmu := twin' } : State).synchronize_cp1_interrupt =
        { after.synchronize_cp1_interrupt with mmu := twin' } := rfl
      dsimp only
      rw [htwin]
      generalize after.synchronize_cp1_interrupt = synchronized at hsynchronized htaken hentered ⊢
      dsimp only
      cases raised && synchronized.cp0.interrupt_requested with
      | true =>
        simp only [if_true]
        rw [htaken]
        exact ⟨_, _, _, twin'', _, _, rfl, rfl, hpaired.with_states _ _, rfl, hentered, hstates⟩
      | false =>
        simp only [Bool.false_eq_true, if_false]
        refine finish_abreast hpaired hsimulation hsynchronized _ (fun resume_pc effect hcompleted => ?_) hstates
        exact heffect resume_pc effect raised (by rw [Except.ok.inj hcompleted])
  | Memory instruction =>
    obtain ⟨result, after, twin', bus_after, other_after, hleft, hright, ⟨heffect, hafter⟩, hstates⟩ :=
      load_store.execute_abreast hsimulation h hbus instruction hrelated
    unfold execute
    dsimp only
    rw [hleft, hright]
    cases result with
    | error error => exact fail_abreast hpaired hafter error hstates
    | ok outcome =>
      cases outcome with
      | Exception exception =>
        exact finish_abreast hpaired hsimulation hafter (.ok (.Exception exception)) nofun hstates
      | Completed effect =>
        refine finish_abreast hpaired hsimulation hafter _ (fun resume_pc some_effect hcompleted => ?_) hstates
        cases hcompleted
        exact heffect some_effect rfl
  | Syscall => exact finish_abreast hpaired hsimulation h (.ok (.Exception .Syscall)) nofun hrelated
  | Breakpoint => exact finish_abreast hpaired hsimulation h (.ok (.Exception .Breakpoint)) nofun hrelated

/-- A word both fetched is decoded alike from either decode cache, and an interrupt precedes it on
both sides. -/
theorem dispatch_abreast (hpaired : Paired cpu cpu') (hsimulation : Simulation kept left permitted readable writable)
    (h : kept state twin) (hbus : bus.Alike other related readable writable) (pc : U32) (address : PhysAddr)
    (word : U32) (hrelated : related bus_state other_state) :
    StepAbreast kept left related (cpu.dispatch state pc address word bus bus_state)
      (cpu'.dispatch { state with mmu := twin } pc address word other other_state) := by
  obtain ⟨hdecoded, hcoherent⟩ := hpaired.coherent.decode_word address.get word
  obtain ⟨hdecoded', hcoherent'⟩ := hpaired.coherent'.decode_word address.get word
  have hcondition := decode_word_cp0_condition cpu address.get word
  have hcondition' := decode_word_cp0_condition cpu' address.get word
  unfold dispatch
  cases state.cp0.interrupt_requested with
  | true => exact enter_exception_abreast hpaired hsimulation h .Interrupt hrelated
  | false =>
    simp only [Bool.false_eq_true, if_false]
    cases hleft : cpu.decode_word address.get word with
    | mk decoded looked =>
      cases hright : cpu'.decode_word address.get word with
      | mk decoded' looked' =>
        rw [hleft] at hdecoded hcoherent hcondition
        rw [hright] at hdecoded' hcoherent' hcondition'
        obtain rfl : decoded = decoded' := hdecoded.trans hdecoded'.symm
        have hlooked : Paired looked looked' :=
          ⟨hcondition'.trans (hpaired.cp0_condition.trans hcondition.symm), hcoherent, hcoherent'⟩
        cases decoded with
        | Implemented instruction => exact execute_abreast hlooked hsimulation h hbus instruction hrelated
        | UnsupportedCoprocessor unit =>
          dsimp only
          split
          · exact fail_abreast hlooked h _ hrelated
          · exact enter_exception_abreast hlooked hsimulation h _ hrelated
        | Undefined => exact fail_abreast hlooked h _ hrelated
        | Reserved => exact enter_exception_abreast hlooked hsimulation h _ hrelated

/-- A step of two processors over two buses that agree on the pages it reaches. -/
theorem step_abreast (hpaired : Paired cpu cpu') (hsimulation : Simulation kept left permitted readable writable)
    (h : kept cpu.state twin) (htwin : cpu'.state = { cpu.state with mmu := twin })
    (hbus : bus.Alike other related readable writable) (hrelated : related bus_state other_state) :
    StepAbreast kept left related (cpu.step bus bus_state) (cpu'.step other other_state) := by
  unfold step
  rw [htwin]
  change StepAbreast kept left related _
    (if cpu.state.cp0.is_tlb_shutdown then (.error .TlbShutdown, cpu', other_state) else _)
  cases cpu.state.cp0.is_tlb_shutdown with
  | true => exact ⟨_, _, _, twin, _, _, rfl, rfl, hpaired, htwin, h, hrelated⟩
  | false =>
    have hsampled : kept cpu.state.sampled twin := hsimulation.sampled h
    simp only [Bool.false_eq_true, if_false]
    change kept cpu.state.advance_cache_transition.advance_machine_interrupt_inputs twin at hsampled
    have hinputs : { cpu.state with mmu := twin }.advance_cache_transition.advance_machine_interrupt_inputs =
      { cpu.state.advance_cache_transition.advance_machine_interrupt_inputs with mmu := twin } := rfl
    rw [hinputs]
    generalize cpu.state.advance_cache_transition.advance_machine_interrupt_inputs = state at hsampled
    by_cases haligned : state.pc &&& 3#32 = 0
    · rw [if_neg (not_not.mpr haligned), if_neg (not_not.mpr haligned)]
      have hlow : (state.pc &&& 3#32).toNat = state.pc.toNat % 4 := toNat_and_low (k := 2) rfl
      rw [haligned] at hlow
      change 0 = state.pc.toNat % 4 at hlow
      obtain ⟨result, after, twin', hleft, hright, hafter, htranslated⟩ :=
        hsimulation.translate state.pc .Instruction hsampled
      rw [hleft, hright]
      cases result with
      | error error =>
        cases error with
        | Exception exception => exact enter_exception_abreast hpaired hsimulation hafter exception hrelated
        | TlbShutdown => exact fail_abreast hpaired hafter _ hrelated
      | ok translation =>
        obtain ⟨⟨hfits, hoffset⟩, hreadable⟩ := htranslated translation rfl
        obtain ⟨fetched, ready, twin'', bus_ready, other_ready, hleft, hright, hready, hstates⟩ :=
          hsimulation.read_instruction_abreast hafter hbus translation ⟨hfits, Nat.zero_lt_succ 3, by omega⟩ hreadable
            hrelated
        dsimp only
        rw [hleft, hright]
        cases fetched with
        | ok bytes => exact dispatch_abreast hpaired hsimulation hready hbus _ _ _ hstates
        | error fault =>
          cases fault with
          | HardwareFault => exact enter_exception_abreast hpaired hsimulation hready _ hstates
          | _ => exact fail_abreast hpaired hready _ hstates
    · rw [if_pos haligned, if_pos haligned]
      exact enter_exception_abreast hpaired hsimulation hsampled _ hrelated

end R3000

end Transactions

end se_cpu
