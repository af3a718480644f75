import SgiEmu.R3000.Step

open se_core se_core.bus se_cpu.cache se_cpu.cp0 se_cpu.cp1 se_cpu.mmu se_cpu.decode se_cpu.state

namespace se_core.bus

variable {β : Type}

/-- The bus state was reached by read transactions alone: no write was issued. -/
inductive ReadOnly (bus : PhysicalBus β) (bus_state : β) : β → Prop where
  | refl : ReadOnly bus bus_state bus_state
  | read {bus_state' : β} (address : PhysAddr) (length : Nat) (h : ReadOnly bus bus_state bus_state') :
    ReadOnly bus bus_state (bus.read bus_state' address length).2

theorem ReadOnly.once (bus : PhysicalBus β) (bus_state : β) (address : PhysAddr) (length : Nat) :
    ReadOnly bus bus_state (bus.read bus_state address length).2 :=
  .read address length .refl

theorem ReadOnly.trans {bus : PhysicalBus β} {bus_state bus_state' bus_state'' : β}
    (h : ReadOnly bus bus_state bus_state') (h' : ReadOnly bus bus_state' bus_state'') :
    ReadOnly bus bus_state bus_state'' := by
  induction h' with
  | refl => exact h
  | read address length _ ih => exact ih.read address length

end se_core.bus

namespace se_cpu

variable {β : Type}

/-! ## Memory accesses -/

namespace cache

theorem Cache.read_refill_readOnly (bus : PhysicalBus β) (refill_base : U32) (remaining word_index : Nat)
    (bus_state : β) :
    ReadOnly bus bus_state (Cache.read_refill bus refill_base remaining word_index bus_state).2 := by
  induction remaining generalizing word_index bus_state with
  | zero => exact .refl
  | succ remaining ih =>
    have hfirst := ReadOnly.once bus bus_state
      ⟨(refill_base + BitVec.ofNat 32 (word_index * WORD_BYTES)).toNat⟩ WORD_BYTES
    simp only [Cache.read_refill]
    split
    · rename_i hread
      rwa [hread] at hfirst
    · rename_i word after hread
      rw [hread] at hfirst
      have hrest := hfirst.trans (ih (word_index + 1) after)
      split
      · rename_i hrefill
        rwa [hrefill] at hrest
      · rename_i hrefill
        rwa [hrefill] at hrest

/-- A read issues no write, and a failed one leaves the bank. -/
theorem Cache.read_frame {length : Nat} (cache : Cache) (address : PhysAddr) (data : Vector U8 length)
    (bus : PhysicalBus β) (bus_state : β) :
    ReadOnly bus bus_state (cache.read address data bus bus_state).2.2.2 ∧
      ∀ fault, (cache.read address data bus bus_state).1 = .error fault →
        (cache.read address data bus bus_state).2.2.1 = cache := by
  unfold Cache.read
  dsimp only
  split
  · exact ⟨.refl, fun fault hfault => by cases hfault⟩
  · have hrefill := Cache.read_refill_readOnly bus (cache.refill_base (cache.access address).word_address)
      (cache.refill_bytes / WORD_BYTES) 0 bus_state
    split
    · rename_i hread
      rw [hread] at hrefill
      exact ⟨hrefill, fun _ _ => rfl⟩
    · rename_i hread
      rw [hread] at hrefill
      exact ⟨hrefill, fun fault hfault => by cases hfault⟩

/-- A failed write-through leaves the bank. -/
theorem Cache.write_error (cache : Cache) (address : PhysAddr) (data : List U8)
    (partial_store_enabled : Bool) (bus : PhysicalBus β) (bus_state : β) (fault : BusError)
    (h : (cache.write address data partial_store_enabled bus bus_state).1 = .error fault) :
    (cache.write address data partial_store_enabled bus bus_state).2.1 = cache := by
  unfold Cache.write at h ⊢
  dsimp only at h ⊢
  split at h
  · rename_i hlength
    rw [if_pos hlength]
    split at h <;> simp_all only [reduceCtorEq]
  · rename_i hlength
    rw [if_neg hlength]
    split at h
    · rename_i hmerge
      rw [if_pos hmerge]
      split at h <;> simp_all only [reduceCtorEq]
    · rename_i hmerge
      rw [if_neg hmerge]
      split at h
      · simp_all only
      · split at h <;> cases h

theorem Caches.set_cache_self (caches : Caches) (bank : CacheBank) :
    caches.set_cache bank (caches.cache_of bank) = caches := by
  cases bank <;> rfl

theorem Caches.read_frame {length : Nat} (caches : Caches) (bank : CacheBank) (address : PhysAddr)
    (data : Vector U8 length) (bus : PhysicalBus β) (bus_state : β) :
    ReadOnly bus bus_state (caches.read bank address data bus bus_state).2.2.2 ∧
      ∀ fault, (caches.read bank address data bus bus_state).1 = .error fault →
        (caches.read bank address data bus bus_state).2.2.1 = caches := by
  obtain ⟨hreads, herror⟩ := (caches.cache_of bank).read_frame address data bus bus_state
  unfold Caches.read
  cases hresult : (caches.cache_of bank).read address data bus bus_state with
  | mk result rest =>
    rw [hresult] at hreads herror
    refine ⟨hreads, fun fault hfault => ?_⟩
    have hbank : rest.2.1 = caches.cache_of bank := herror fault hfault
    show caches.set_cache bank rest.2.1 = caches
    rw [hbank, caches.set_cache_self bank]

theorem Caches.write_error (caches : Caches) (bank : CacheBank) (address : PhysAddr) (data : List U8)
    (bus : PhysicalBus β) (bus_state : β) (fault : BusError)
    (h : (caches.write bank address data bus bus_state).1 = .error fault) :
    (caches.write bank address data bus bus_state).2.1 = caches := by
  have hwrite := (caches.cache_of bank).write_error address data caches.partial_store_enabled bus
    bus_state fault
  unfold Caches.write at h ⊢
  cases hresult : (caches.cache_of bank).write address data caches.partial_store_enabled bus bus_state with
  | mk result rest =>
    rw [hresult] at h hwrite
    have hbank : rest.1 = caches.cache_of bank := hwrite h
    show caches.set_cache bank rest.1 = caches
    rw [hbank, caches.set_cache_self bank]

end cache

/-- An exception whose coprocessor number fits the field Cause has for it. -/
def cp0.Exception.Encodable : Exception → Prop
  | .CoprocessorUnusable unit => unit < 4
  | _ => True

namespace state

theorem State.translation_exception_encodable (virtual_address : U32) (access : AccessType)
    (fault : TranslationFault) : (State.translation_exception virtual_address access fault).Encodable := by
  cases access <;> cases fault <;> trivial

/-- Two states that differ in the MMU's lookup caches alone. -/
inductive LookupsOnly (state : State) : State → Prop where
  | intro (main_lookup_cache instruction_lookup_cache : TlbLookupCache) :
    LookupsOnly state
      { state with mmu := { state.mmu with main_lookup_cache, instruction_lookup_cache } }

theorem LookupsOnly.refl (state : State) : LookupsOnly state state :=
  .intro state.mmu.main_lookup_cache state.mmu.instruction_lookup_cache

theorem LookupsOnly.trans {state state' state'' : State} (h : LookupsOnly state state')
    (h' : LookupsOnly state' state'') : LookupsOnly state state'' := by
  cases h
  cases h' with
  | intro main_lookup_cache instruction_lookup_cache =>
    exact .intro main_lookup_cache instruction_lookup_cache

theorem LookupsOnly.pc {state state' : State} (h : LookupsOnly state state') : state'.pc = state.pc := by
  cases h
  rfl

/-- The state a failed translation leaves once it found the TLB inconsistent. -/
inductive ShutDown (state : State) : State → Prop where
  | intro {state' : State} (h : LookupsOnly state state') :
    ShutDown state { state' with cp0 := state'.cp0.enter_tlb_shutdown }

end state

theorem mmu.Mmu.translate_lookups (mmu : Mmu) (virtual_address : U32) (asid : U8) (kernel_mode : Bool)
    (access : AccessType) :
    ∃ main_lookup_cache instruction_lookup_cache,
      (mmu.translate virtual_address asid kernel_mode access).2 =
        { mmu with main_lookup_cache, instruction_lookup_cache } := by
  have hmapped : ∃ main_lookup_cache instruction_lookup_cache,
      (mmu.translate_mapped virtual_address asid access).2 =
        { mmu with main_lookup_cache, instruction_lookup_cache } := by
    cases access <;> exact ⟨_, _, rfl⟩
  have hsame : ∃ main_lookup_cache instruction_lookup_cache,
      mmu = { mmu with main_lookup_cache, instruction_lookup_cache } := ⟨_, _, rfl⟩
  unfold Mmu.translate
  split
  · exact hmapped
  · split
    · exact hsame
    · split
      · exact hsame
      · split
        · exact hsame
        · split
          · exact hmapped
          · exact hsame

namespace state

/-- A translation only touches the lookup caches, and shutdown besides when it
is what the translation reports. -/
theorem State.translate_address_spec (state : State) (virtual_address : U32) (access : AccessType) :
    match state.translate_address virtual_address access with
    | (.ok _, after) => LookupsOnly state after
    | (.error (.Exception exception), after) => LookupsOnly state after ∧ exception.Encodable
    | (.error .TlbShutdown, after) => ShutDown state after := by
  obtain ⟨main_lookup_cache, instruction_lookup_cache, hmmu⟩ := state.mmu.translate_lookups
    virtual_address state.cp0.current_asid state.cp0.is_kernel_mode access
  unfold State.translate_address
  cases hresult : state.mmu.translate virtual_address state.cp0.current_asid
      state.cp0.is_kernel_mode access with
  | mk result mmu =>
    rw [hresult] at hmmu
    obtain rfl : mmu = _ := hmmu
    have hlookups : LookupsOnly state _ := .intro main_lookup_cache instruction_lookup_cache
    cases result with
    | ok translation => exact hlookups
    | error fault =>
      cases fault with
      | Shutdown => exact .intro hlookups
      | _ => exact ⟨hlookups, State.translation_exception_encodable virtual_address access _⟩

theorem State.load_data_pc {length : Nat} (state : State) (translation : Translation)
    (data : Vector U8 length) (bus : PhysicalBus β) (bus_state : β) :
    (state.load_data translation data bus bus_state).2.2.1.pc = state.pc := by
  unfold State.load_data
  dsimp only
  split
  · rfl
  · split
    · rfl
    · split <;> rfl

theorem State.store_memory_pc (state : State) (translation : Translation) (data : List U8)
    (bus : PhysicalBus β) (bus_state : β) :
    (state.store_memory translation data bus bus_state).2.1.pc = state.pc := by
  unfold State.store_memory
  dsimp only
  split
  · rfl
  · split <;> rfl

/-- A load issues no write, and a failed one leaves the state. -/
theorem State.load_data_frame {length : Nat} (state : State) (translation : Translation)
    (data : Vector U8 length) (bus : PhysicalBus β) (bus_state : β) (fault : BusError)
    (h : (state.load_data translation data bus bus_state).1 = .error fault) :
    (state.load_data translation data bus bus_state).2.2.1 = state ∧
      ReadOnly bus bus_state (state.load_data translation data bus bus_state).2.2.2 := by
  unfold State.load_data at h ⊢
  dsimp only at h ⊢
  split at h
  · cases h
  · rename_i hisolated
    rw [if_neg hisolated]
    cases hcached : translation.cacheability with
    | Cached =>
      simp only [hcached] at h ⊢
      obtain ⟨hreads, herror⟩ := state.caches.read_frame (State.cache_bank .Data state.cache_mode.effective)
        translation.address data bus bus_state
      rw [herror fault h]
      exact ⟨rfl, hreads⟩
    | Uncached =>
      simp only [hcached] at h ⊢
      have hread := ReadOnly.once bus bus_state translation.address length
      cases hresult : bus.read bus_state translation.address length with
      | mk result after =>
        rw [hresult] at h hread
        cases result with
        | ok staged => cases h
        | error _ => exact ⟨rfl, hread⟩

theorem State.store_memory_error (state : State) (translation : Translation) (data : List U8)
    (bus : PhysicalBus β) (bus_state : β) (fault : BusError)
    (h : (state.store_memory translation data bus bus_state).1 = .error fault) :
    (state.store_memory translation data bus bus_state).2.1 = state := by
  unfold State.store_memory at h ⊢
  dsimp only at h ⊢
  split at h
  · cases h
  · rename_i hisolated
    rw [if_neg hisolated]
    cases hcached : translation.cacheability with
    | Cached =>
      simp only [hcached] at h ⊢
      rw [Caches.write_error _ _ _ _ _ _ fault h]
    | Uncached => rfl

/-- What a fetch may leave behind: the words it filled into a cache bank. -/
theorem State.read_instruction_frame (state : State) (translation : Translation) (bus : PhysicalBus β)
    (bus_state : β) :
    ReadOnly bus bus_state (state.read_instruction translation bus bus_state).2.2 ∧
      (state.read_instruction translation bus bus_state).2.1 =
        { state with caches := (state.read_instruction translation bus bus_state).2.1.caches } ∧
      ∀ fault, (state.read_instruction translation bus bus_state).1 = .error fault →
        (state.read_instruction translation bus bus_state).2.1 = state := by
  unfold State.read_instruction
  cases translation.cacheability with
  | Cached =>
    dsimp only
    obtain ⟨hreads, herror⟩ := state.caches.read_frame (State.cache_bank .Instruction state.cache_mode.effective)
      translation.address (Vector.replicate 4 0) bus bus_state
    cases hresult : state.caches.read (State.cache_bank .Instruction state.cache_mode.effective)
        translation.address (Vector.replicate 4 0) bus bus_state with
    | mk result rest =>
      rw [hresult] at hreads herror
      cases result with
      | ok done => exact ⟨hreads, rfl, fun fault hfault => by cases hfault⟩
      | error fault =>
        refine ⟨hreads, rfl, fun _ _ => ?_⟩
        have hcaches : rest.2.1 = state.caches := herror fault rfl
        show { state with caches := rest.2.1 } = state
        rw [hcaches]
  | Uncached =>
    have hread := ReadOnly.once bus bus_state translation.address 4
    exact ⟨hread, rfl, fun _ _ => rfl⟩

end state

/-! ## Instructions -/

/-- An execution that either completes or backs out: an exception leaves only
lookup caches touched and no write issued, an error at most the shutdown bit.
The program counter moves at the instruction boundary alone. -/
def Careful {α : Type} (bus : PhysicalBus β) (state : State) (bus_state : β) :
    Except StepError (ExecutionOutcome α) × State × β → Prop
  | (.ok (.Completed _), state', _) => state'.pc = state.pc
  | (.ok (.Exception exception), state', bus_state') =>
    LookupsOnly state state' ∧ ReadOnly bus bus_state bus_state' ∧ exception.Encodable
  | (.error _, state', _) => LookupsOnly state state' ∨ ShutDown state state'

theorem Careful.after_lookups {α : Type} {bus : PhysicalBus β} {state state' : State} {bus_state : β}
    {result : Except StepError (ExecutionOutcome α) × State × β} (hlookups : LookupsOnly state state')
    (h : Careful bus state' bus_state result) : Careful bus state bus_state result := by
  obtain ⟨outcome, after, bus_after⟩ := result
  match outcome with
  | .ok (.Completed _) => exact h.trans hlookups.pc
  | .ok (.Exception _) => exact ⟨hlookups.trans h.1, h.2⟩
  | .error _ =>
    refine Or.imp hlookups.trans (fun hshut => ?_) h
    cases hshut with
    | intro hinner => exact .intro (hlookups.trans hinner)

namespace load_store

theorem translate_address_careful (state : State) (virtual_address : U32) (access : AccessType) :
    match translate_address state virtual_address access with
    | (.ok (.Completed _), after) => LookupsOnly state after
    | (.ok (.Exception exception), after) => LookupsOnly state after ∧ exception.Encodable
    | (.error _, after) => ShutDown state after := by
  have hspec := state.translate_address_spec virtual_address access
  unfold translate_address
  cases hresult : state.translate_address virtual_address access with
  | mk result after =>
    rw [hresult] at hspec
    match result with
    | .ok _ => exact hspec
    | .error (.Exception _) => exact hspec
    | .error .TlbShutdown => exact hspec

/-- Continuing a translation carefully is careful. -/
theorem careful_of_translate {α : Type} (state : State) (virtual_address : U32) (access : AccessType)
    (bus : PhysicalBus β) (bus_state : β)
    (next : Translation → State → Except StepError (ExecutionOutcome α) × State × β)
    (hnext : ∀ translation after, Careful bus after bus_state (next translation after)) :
    Careful bus state bus_state
      (match translate_address state virtual_address access with
      | (.ok (.Completed translation), after) => next translation after
      | (.ok (.Exception exception), after) => (.ok (.Exception exception), after, bus_state)
      | (.error error, after) => (.error error, after, bus_state)) := by
  have hspec := translate_address_careful state virtual_address access
  cases hresult : translate_address state virtual_address access with
  | mk result after =>
    rw [hresult] at hspec
    match result with
    | .ok (.Completed translation) => exact (hnext translation after).after_lookups hspec
    | .ok (.Exception _) => exact ⟨hspec.1, .refl, hspec.2⟩
    | .error _ => exact .inr hspec

theorem read_translated_careful (length : Nat) (state : State) (translation : Translation)
    (bus : PhysicalBus β) (bus_state : β) :
    Careful bus state bus_state (read_translated length state translation bus bus_state) := by
  have hframe := state.load_data_frame translation (Vector.replicate length 0) bus bus_state
  have hpc := state.load_data_pc translation (Vector.replicate length 0) bus bus_state
  unfold read_translated
  cases hresult : state.load_data translation (Vector.replicate length 0) bus bus_state with
  | mk result rest =>
    rw [hresult] at hframe hpc
    obtain ⟨data, after, bus_after⟩ := rest
    cases result with
    | ok done => exact hpc
    | error fault =>
      obtain ⟨hstate, hreads⟩ := hframe fault rfl
      obtain rfl : after = state := hstate
      cases fault with
      | HardwareFault => exact ⟨.refl after, hreads, trivial⟩
      | _ => exact .inl (.refl after)

theorem write_translated_careful (state : State) (translation : Translation) (data : List U8)
    (bus : PhysicalBus β) (bus_state : β) :
    Careful bus state bus_state (write_translated state translation data bus bus_state) := by
  have hframe := state.store_memory_error translation data bus bus_state
  have hpc := state.store_memory_pc translation data bus bus_state
  unfold write_translated
  cases hresult : state.store_memory translation data bus bus_state with
  | mk result rest =>
    rw [hresult] at hframe hpc
    obtain ⟨after, bus_after⟩ := rest
    cases result with
    | ok done => exact hpc
    | error fault =>
      obtain rfl : after = state := hframe fault rfl
      exact .inl (.refl after)

theorem load_careful (length : Nat) (state : State) (base : Nat) (offset : U16) (bus : PhysicalBus β)
    (bus_state : β) : Careful bus state bus_state (load length state base offset bus bus_state) := by
  unfold load
  dsimp only
  split
  · exact ⟨.refl state, .refl, trivial⟩
  · exact careful_of_translate state _ .Load bus bus_state
      (fun translation after => read_translated length after translation bus bus_state)
      fun translation after => read_translated_careful length after translation bus bus_state

theorem store_careful (state : State) (base : Nat) (offset : U16) (data : List U8) (bus : PhysicalBus β)
    (bus_state : β) : Careful bus state bus_state (store state base offset data bus bus_state) := by
  unfold store
  dsimp only
  split
  · exact ⟨.refl state, .refl, trivial⟩
  · exact careful_of_translate state _ .Store bus bus_state
      (fun translation after => write_translated after translation data bus bus_state)
      fun translation after => write_translated_careful after translation data bus bus_state

end load_store

/-- A result passed on with its completed value repackaged. -/
inductive PassedOn {α γ : Type} : Except StepError (ExecutionOutcome α) × State × β →
    Except StepError (ExecutionOutcome γ) × State × β → Prop where
  | completed (value : α) (value' : γ) (state : State) (bus_state : β) :
    PassedOn (.ok (.Completed value), state, bus_state) (.ok (.Completed value'), state, bus_state)
  | exception (exception : Exception) (state : State) (bus_state : β) :
    PassedOn (.ok (.Exception exception), state, bus_state) (.ok (.Exception exception), state, bus_state)
  | error (error : StepError) (state : State) (bus_state : β) :
    PassedOn (.error error, state, bus_state) (.error error, state, bus_state)

theorem Careful.passed_on {α γ : Type} {bus : PhysicalBus β} {state : State} {bus_state : β}
    {result : Except StepError (ExecutionOutcome α) × State × β}
    {result' : Except StepError (ExecutionOutcome γ) × State × β}
    (h : Careful bus state bus_state result) (hpassed : PassedOn result result') :
    Careful bus state bus_state result' := by
  cases hpassed with
  | completed value value' after bus_after => exact h
  | exception exception after bus_after => exact h
  | error error after bus_after => exact h

namespace load_store

theorem load_gpr_careful (length : Nat) (value : Vector U8 length → U32) (state : State) (base rt : Nat)
    (offset : U16) (bus : PhysicalBus β) (bus_state : β) :
    Careful bus state bus_state (load_gpr length value state base rt offset bus bus_state) := by
  refine (load_careful length state base offset bus bus_state).passed_on ?_
  unfold load_gpr
  split
  all_goals
    rename_i hload
    rw [hload]
    constructor

theorem store_gpr_careful (data : List U8) (state : State) (base : Nat) (offset : U16)
    (bus : PhysicalBus β) (bus_state : β) :
    Careful bus state bus_state (store_gpr data state base offset bus bus_state) := by
  refine (store_careful state base offset data bus bus_state).passed_on ?_
  unfold store_gpr
  split
  all_goals
    rename_i hstore
    rw [hstore]
    constructor

theorem load_merge_careful (length back start : Nat) (virtual_address : U32) (state : State) (rt : Nat)
    (bus : PhysicalBus β) (bus_state : β) :
    Careful bus state bus_state (load_merge length back start virtual_address state rt bus bus_state) := by
  have hspec := translate_address_careful state virtual_address .Load
  unfold load_merge
  split
  · rename_i hresult
    rw [hresult] at hspec
    exact ⟨hspec.1, .refl, hspec.2⟩
  · rename_i hresult
    rw [hresult] at hspec
    exact .inr hspec
  · rename_i translation after hresult
    rw [hresult] at hspec
    refine Careful.after_lookups hspec ((read_translated_careful length after
      { translation with address := ⟨translation.address.get - back⟩ } bus bus_state).passed_on ?_)
    dsimp only
    split
    all_goals
      rename_i hread
      rw [hread]
      constructor

theorem store_merge_careful (back : Nat) (data : List U8) (virtual_address : U32) (state : State)
    (bus : PhysicalBus β) (bus_state : β) :
    Careful bus state bus_state (store_merge back data virtual_address state bus bus_state) := by
  have hspec := translate_address_careful state virtual_address .Store
  unfold store_merge
  split
  · rename_i hresult
    rw [hresult] at hspec
    exact ⟨hspec.1, .refl, hspec.2⟩
  · rename_i hresult
    rw [hresult] at hspec
    exact .inr hspec
  · rename_i translation after hresult
    rw [hresult] at hspec
    refine Careful.after_lookups hspec ((write_translated_careful after
      { translation with address := ⟨translation.address.get - back⟩ } data bus bus_state).passed_on ?_)
    dsimp only
    split
    all_goals
      rename_i hwrite
      rw [hwrite]
      constructor

theorem execute_careful (state : State) (instruction : MemoryInstruction) (bus : PhysicalBus β)
    (bus_state : β) : Careful bus state bus_state (execute state instruction bus bus_state) := by
  cases instruction with
  | Lb base rt offset => exact load_gpr_careful 1 _ state base rt offset bus bus_state
  | Lbu base rt offset => exact load_gpr_careful 1 _ state base rt offset bus bus_state
  | Lh base rt offset => exact load_gpr_careful 2 _ state base rt offset bus bus_state
  | Lhu base rt offset => exact load_gpr_careful 2 _ state base rt offset bus bus_state
  | Lw base rt offset => exact load_gpr_careful 4 _ state base rt offset bus bus_state
  | Lwl base rt offset => exact load_merge_careful _ _ _ _ state rt bus bus_state
  | Lwr base rt offset => exact load_merge_careful _ _ _ _ state rt bus bus_state
  | Sb base rt offset => exact store_gpr_careful _ state base offset bus bus_state
  | Sh base rt offset => exact store_gpr_careful _ state base offset bus bus_state
  | Sw base rt offset => exact store_gpr_careful _ state base offset bus bus_state
  | Swl base rt offset => exact store_merge_careful _ _ _ state bus bus_state
  | Swr base rt offset => exact store_merge_careful _ _ _ state bus bus_state

end load_store

end se_cpu
