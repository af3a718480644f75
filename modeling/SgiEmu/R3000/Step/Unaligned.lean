import SgiEmu.R3000.State.DataPath
import SgiEmu.R3000.Step.Fetched
import SgiEmu.R3000.Step.Registers

open se_core se_core.bus se_cpu.cache se_cpu.cp0 se_cpu.cp1 se_cpu.mmu se_cpu.decode se_cpu.state
open Library Library.Mask

namespace se_cpu

variable {β : Type}

/-! ## The two halves of an unaligned word -/

/-- The most significant bytes of an unaligned word, which its left instruction
moves, and the least significant ones. -/
inductive Half where
  | left
  | right
deriving DecidableEq, Repr

namespace Half

def other : Half → Half
  | left => right
  | right => left

/-- The address the half's instruction is given for the word at `address`. -/
def address (address : U32) : Half → U32
  | left => address
  | right => address + 3

def load (base rt : Nat) (offset : U16) : Half → MemoryInstruction
  | left => .Lwl base rt offset
  | right => .Lwr base rt offset

def store (base rt : Nat) (offset : U16) : Half → MemoryInstruction
  | left => .Swl base rt offset
  | right => .Swr base rt offset

/-- How far the translated address is moved back, given the virtual one. -/
def back (virtual_address : U32) : Half → Nat
  | left => 0
  | right => (virtual_address &&& 3#32).toNat

/-- How many bytes are moved. -/
def length (virtual_address : U32) : Half → Nat
  | left => 4 - (virtual_address &&& 3#32).toNat
  | right => (virtual_address &&& 3#32).toNat + 1

/-- The first byte of the register that is moved. -/
def start (virtual_address : U32) : Half → Nat
  | left => 0
  | right => 3 - (virtual_address &&& 3#32).toNat

theorem byte_toNat (virtual_address : U32) : (virtual_address &&& 3#32).toNat = virtual_address.toNat % 4 :=
  toNat_and_low (k := 2) rfl

theorem load_eq (half : Half) {state : State} {base : Nat} {offset : U16} {virtual_address : U32}
    (haddress : load_store.effective_address state base offset = virtual_address) (rt : Nat)
    (bus : PhysicalBus β) (bus_state : β) :
    load_store.execute state (half.load base rt offset) bus bus_state =
      load_store.load_merge (half.length virtual_address) (half.back virtual_address)
        (half.start virtual_address) virtual_address state rt bus bus_state := by
  subst haddress
  cases half <;> rfl

theorem store_eq (half : Half) {state : State} {base : Nat} {offset : U16} {virtual_address : U32}
    (haddress : load_store.effective_address state base offset = virtual_address) (rt : Nat)
    (bus : PhysicalBus β) (bus_state : β) :
    load_store.execute state (half.store base rt offset) bus bus_state =
      load_store.store_merge (half.back virtual_address)
        (((to_be_bytes (state.read_gpr rt)).toList.drop (half.start virtual_address)).take
          (half.length virtual_address)) virtual_address state bus bus_state := by
  subst haddress
  cases half with
  | left => rfl
  | right =>
    have hbyte := byte_toNat (load_store.effective_address state base offset)
    have hlength : ((to_be_bytes (state.read_gpr rt)).toList.drop
        (right.start (load_store.effective_address state base offset))).length ≤
          right.length (load_store.effective_address state base offset) := by
      rw [List.length_drop, Vector.length_toList]
      simp only [start, length]
      omega
    rw [List.take_of_length_le hlength]
    rfl

/-- Neither half leaves its word, and moving back never passes address 0. -/
theorem within (half : Half) {translation : Translation} {virtual_address : U32}
    (h : translation.Placed virtual_address) :
    half.back virtual_address ≤ translation.address.get ∧
      WithinWord ⟨translation.address.get - half.back virtual_address⟩ (half.length virtual_address) := by
  have hbyte := byte_toNat virtual_address
  have hfits := h.fits
  have hoffset := h.offset
  have hmod := Nat.mod_lt virtual_address.toNat (Nat.zero_lt_succ 3)
  have hle := Nat.mod_le translation.address.get 4
  cases half with
  | left =>
    refine ⟨Nat.zero_le _, ⟨Nat.le_trans (Nat.sub_le _ _) hfits, ?_, ?_⟩⟩
    · simp only [length]
      omega
    · simp only [back, length, Nat.sub_zero]
      omega
  | right =>
    simp only [back, length]
    refine ⟨by omega, ⟨Nat.le_trans (Nat.sub_le _ _) hfits, Nat.zero_lt_succ _, ?_⟩⟩
    show (translation.address.get - _) % 4 + _ ≤ 4
    omega

end Half

/-! ## Where the bytes of an unaligned word lie -/

theorem state.State.translate_address_word {virtual_address other : U32}
    (hword : other.toNat / 4 = virtual_address.toNat / 4) {state : State} {access : AccessType}
    {translation : Translation} (h : (state.translate_address virtual_address access).1 = .ok translation) :
    translation.Placed virtual_address ∧
      (state.translate_address other access).1 = .ok (translation.byte_at virtual_address other) := by
  have hok : ∀ (address : U32) (translation : Translation),
      (state.translate_address address access).1 = .ok translation ↔
        (state.mmu.translate address state.cp0.current_asid state.cp0.is_kernel_mode access).1 =
          .ok translation := by
    intro address translation
    unfold State.translate_address
    cases state.mmu.translate address state.cp0.current_asid state.cp0.is_kernel_mode access with
    | mk result mmu =>
      cases result with
      | ok found => simp
      | error fault => cases fault <;> simp
  rw [hok] at h
  obtain ⟨hplaced, hother⟩ := state.mmu.translate_word hword _ _ access h
  exact ⟨hplaced, (hok _ _).mpr hother⟩

/-- The physical address of each byte of the word at a virtual address whose
first byte translates to `left` and whose last to `right`. -/
def place (address : U32) (left right : Translation) (i : Fin 4) : Nat :=
  if address.toNat % 4 + i < 4 then left.address.get + i else right.address.get + i - 3

/-- The bytes from a virtual address on lie at these physical addresses. -/
def Located (state : State) (access : AccessType) (address : U32) (place : Fin 4 → Nat) : Prop :=
  ∀ i : Fin 4, ∃ cacheability,
    (state.translate_address (address + BitVec.ofNat 32 i) access).1 = .ok ⟨⟨place i⟩, cacheability⟩

section Places

variable {state : State} {access : AccessType} {address : U32} {left right : Translation}

theorem byte_address_toNat (address : U32) (i : Fin 4) :
    (address + BitVec.ofNat 32 i).toNat = (address.toNat + i) % 2 ^ 32 := by
  have hi := i.isLt
  rw [BitVec.toNat_add, BitVec.toNat_ofNat]
  omega

theorem last_address_toNat (address : U32) : (address + 3).toNat = (address.toNat + 3) % 2 ^ 32 :=
  BitVec.toNat_add address 3

theorem place_located (hleft : (state.translate_address address access).1 = .ok left)
    (hright : (state.translate_address (address + 3) access).1 = .ok right) :
    Located state access address (place address left right) := by
  intro i
  have hi := i.isLt
  have haddress := address.isLt
  have hbyte := byte_address_toNat address i
  have hlast := last_address_toNat address
  unfold place
  split
  · have hword : (address + BitVec.ofNat 32 i).toNat / 4 = address.toNat / 4 := by omega
    obtain ⟨hplaced, hother⟩ := State.translate_address_word hword hleft
    have hoffset := hplaced.offset
    have hle := Nat.mod_le left.address.get 4
    refine ⟨left.cacheability, ?_⟩
    rw [hother, Translation.byte_at]
    simp only [Except.ok.injEq, Translation.mk.injEq, PhysAddr.mk.injEq, and_true]
    omega
  · have hword : (address + BitVec.ofNat 32 i).toNat / 4 = (address + 3).toNat / 4 := by omega
    obtain ⟨hplaced, hother⟩ := State.translate_address_word hword hright
    have hoffset := hplaced.offset
    have hle := Nat.mod_le right.address.get 4
    refine ⟨right.cacheability, ?_⟩
    rw [hother, Translation.byte_at]
    simp only [Except.ok.injEq, Translation.mk.injEq, PhysAddr.mk.injEq, and_true]
    omega

/-- Different bytes of the word lie at different places. -/
theorem place_injective (hleft : (state.translate_address address access).1 = .ok left)
    (hright : (state.translate_address (address + 3) access).1 = .ok right) {i j : Fin 4}
    (h : place address left right i = place address left right j) : i = j := by
  have hi := i.isLt
  have hj := j.isLt
  have hlast := last_address_toNat address
  have hoffset := (State.translate_address_word rfl hleft).1.offset
  have hoffset' := (State.translate_address_word rfl hright).1.offset
  have hle := Nat.mod_le right.address.get 4
  refine Fin.ext ?_
  unfold place at h
  split at h <;> split at h <;> omega

/-- The translation a half's instruction goes through. -/
def Half.translation (left right : Translation) : Half → Translation
  | .left => left
  | .right => right

theorem Half.translated (half : Half) (hleft : (state.translate_address address access).1 = .ok left)
    (hright : (state.translate_address (address + 3) access).1 = .ok right) :
    (state.translate_address (half.address address) access).1 = .ok (half.translation left right) := by
  cases half with
  | left => exact hleft
  | right => exact hright

/-- The bytes of the word at `address` a half moves. -/
def Half.Moves (address : U32) (i : Fin 4) (half : Half) : Prop :=
  half.start (half.address address) ≤ i ∧
    i < half.start (half.address address) + half.length (half.address address)

/-- A half moves its bytes between their places in the register and in memory. -/
theorem Half.place_eq (half : Half) (hleft : (state.translate_address address access).1 = .ok left)
    (hright : (state.translate_address (address + 3) access).1 = .ok right) {i : Fin 4}
    (hmoves : half.Moves address i) :
    (half.translation left right).address.get - half.back (half.address address) +
        (i - half.start (half.address address)) = place address left right i := by
  obtain ⟨hstart, hend⟩ := hmoves
  have hi := i.isLt
  have haddress := address.isLt
  have hlast := last_address_toNat address
  have hoffset' := (State.translate_address_word rfl hright).1.offset
  have hle := Nat.mod_le right.address.get 4
  cases half with
  | left =>
    simp only [start, length, back, Half.address, translation, byte_toNat] at hstart hend ⊢
    unfold place
    rw [if_pos (by omega)]
    omega
  | right =>
    simp only [start, length, back, Half.address, translation, byte_toNat] at hstart hend ⊢
    unfold place
    split
    · -- only an aligned word lies in the right half from its first byte on
      have hword : (address + 3).toNat / 4 = address.toNat / 4 := by omega
      obtain ⟨hplaced, hother⟩ := State.translate_address_word hword hleft
      obtain rfl := Except.ok.inj (hright.symm.trans hother)
      have hoffset := hplaced.offset
      simp only [Translation.byte_at] at hoffset' hle ⊢
      omega
    · omega

/-- Every byte is in one of the halves. -/
theorem Half.covers (address : U32) (i : Fin 4) (half : Half) :
    half.Moves address i ∨ half.other.Moves address i := by
  unfold Half.Moves
  have hi := i.isLt
  have haddress := address.isLt
  have hlast := last_address_toNat address
  cases half <;> simp only [start, length, other, Half.address, byte_toNat] <;> omega

/-- The bytes of a half are four at most, from its start on. -/
theorem Half.start_add_length (half : Half) (address : U32) :
    half.start (half.address address) + half.length (half.address address) ≤ 4 := by
  have hbyte := byte_toNat (half.address address)
  cases half <;> simp only [start, length] <;> omega

/-- The word a memory holds at the places of its bytes. -/
def word_in (memory : Nat → U8) (place : Fin 4 → Nat) : Vector U8 4 := Vector.ofFn fun i => memory (place i)

/-- The bytes a half loads are its bytes of the word. -/
theorem Half.loaded_word (half : Half) (hleft : (state.translate_address address access).1 = .ok left)
    (hright : (state.translate_address (address + 3) access).1 = .ok right) (memory : Nat → U8)
    {loaded : Vector U8 (half.length (half.address address))}
    (hbytes : ∀ i (hi : i < half.length (half.address address)), loaded[i] =
      memory ((half.translation left right).address.get - half.back (half.address address) + i)) :
    ∀ i (hi : i < half.length (half.address address)),
      some loaded[i] =
        (word_in memory (place address left right))[half.start (half.address address) + i]? := by
  intro i hi
  have hfour := half.start_add_length address
  have hindex : half.start (half.address address) + i < 4 := by omega
  have hmoves : half.Moves address ⟨half.start (half.address address) + i, hindex⟩ :=
    ⟨Nat.le_add_right _ _, by show _ + _ < _; omega⟩
  have hplace := half.place_eq hleft hright hmoves
  simp only [Nat.add_sub_cancel_left] at hplace
  rw [hbytes i hi, hplace, Vector.getElem?_eq_getElem hindex, word_in, Vector.getElem_ofFn]

/-- The memory after a half has stored its bytes of a register. -/
theorem Half.store_at (half : Half) (hleft : (state.translate_address address access).1 = .ok left)
    (hright : (state.translate_address (address + 3) access).1 = .ok right) (memory : Nat → U8)
    (bytes : Vector U8 4) :
    let stored := ByteMemory.store memory
      ((half.translation left right).address.get - half.back (half.address address))
      ((bytes.toList.drop (half.start (half.address address))).take (half.length (half.address address)))
    (∀ i : Fin 4, half.Moves address i → stored (place address left right i) = bytes[i]) ∧
      ∀ cell, (∀ i : Fin 4, half.Moves address i → place address left right i ≠ cell) →
        stored cell = memory cell := by
  intro stored
  have hfour := half.start_add_length address
  have hlength : ((bytes.toList.drop (half.start (half.address address))).take
      (half.length (half.address address))).length = half.length (half.address address) := by
    rw [List.length_take, List.length_drop, Vector.length_toList]
    omega
  refine ⟨fun i hmoves => ?_, fun cell hcell => ?_⟩
  · have hplace := half.place_eq hleft hright hmoves
    obtain ⟨hstart, hend⟩ := hmoves
    have hindex : i - half.start (half.address address) < ((bytes.toList.drop
        (half.start (half.address address))).take (half.length (half.address address))).length := by
      rw [hlength]
      omega
    show ByteMemory.store _ _ _ _ = _
    rw [← hplace, ByteMemory.store_inside hindex, List.getElem_take, List.getElem_drop,
      Vector.getElem_toList]
    congr 1
    omega
  · refine ByteMemory.store_outside ?_
    rw [hlength]
    by_contra hinside
    -- a cell in the stored run is the place of a byte the half moves
    obtain ⟨offset, hoffset⟩ := Nat.exists_eq_add_of_le (show (half.translation left right).address.get -
      half.back (half.address address) ≤ cell by omega)
    have hmoves : half.Moves address ⟨half.start (half.address address) + offset, by omega⟩ :=
      ⟨Nat.le_add_right _ _, by show _ + _ < _; omega⟩
    have hplace := half.place_eq hleft hright hmoves
    simp only [Nat.add_sub_cancel_left] at hplace
    exact hcell _ hmoves (hplace.symm.trans hoffset.symm)

end Places

/-! ## One half -/

theorem state.LookupsOnly.reaches {state state' : State} (h : LookupsOnly state state')
    {memory : Nat → U8} {translation : Translation} (hreaches : Reaches state memory translation) :
    Reaches state' memory translation := by
  cases h
  exact ⟨hreaches.connected, hreaches.coherent⟩

namespace load_store

variable {bus : PhysicalBus β} {memory : β → Nat → U8} {state : State} {bus_state : β}
  {virtual_address : U32} {translation : Translation}

/-- An unaligned load of a half that translates and reaches memory completes
with the bytes of memory in their place in the register. -/
theorem load_merge_reaches (hbus : bus.Bytewise memory) (hdelivers : Delivers bus) (half : Half) (rt : Nat)
    (htranslated : (state.translate_address virtual_address .Load).1 = .ok translation)
    (hreaches : Reaches state (memory bus_state) translation) :
    ∃ loaded executed bus_after,
      load_merge (half.length virtual_address) (half.back virtual_address) (half.start virtual_address)
          virtual_address state rt bus bus_state =
        (.ok (.Completed (some (.DelayedGprWrite rt
          (merge_register (state.read_gpr_for_load_merge rt) (half.start virtual_address) loaded) true))),
          executed, bus_after) ∧
      (∀ i (hi : i < half.length virtual_address), loaded[i] =
        memory bus_state (translation.address.get - half.back virtual_address + i)) ∧
      memory bus_after = memory bus_state := by
  have hspec := state.translate_address_spec virtual_address .Load
  have hregisters := translate_address_registers state virtual_address .Load
  obtain ⟨hplaced, -⟩ := State.translate_address_word rfl htranslated
  obtain ⟨-, hwithin⟩ := half.within hplaced
  unfold load_merge
  unfold translate_address at hregisters ⊢
  cases hresult : state.translate_address virtual_address .Load with
  | mk result after =>
    rw [hresult] at htranslated hspec hregisters
    obtain rfl : result = .ok translation := htranslated
    have hlookups : LookupsOnly state after := hspec
    have hafter : Reaches after (memory bus_state)
        { translation with address := ⟨translation.address.get - half.back virtual_address⟩ } :=
      ⟨(hlookups.reaches hreaches).connected, (hlookups.reaches hreaches).coherent⟩
    obtain ⟨loaded, caches, bus_after, hload, hbytes, hmemory⟩ :=
      hafter.load_data hbus hdelivers hwithin (Vector.replicate _ 0)
    refine ⟨loaded, { after with caches }, bus_after, ?_, hbytes, hmemory⟩
    have hsame : SameRegisters state { after with caches } := hregisters
    dsimp only
    unfold read_translated
    rw [hload]
    dsimp only
    rw [hsame.read_gpr_for_load_merge]

/-- An unaligned store of a half that translates and reaches memory completes
with the bytes of the register in their place in memory. -/
theorem store_merge_reaches (hbus : bus.Bytewise memory) (hdelivers : Delivers bus) (half : Half)
    {data : List U8} (hdata : data.length = half.length virtual_address)
    (htranslated : (state.translate_address virtual_address .Store).1 = .ok translation)
    (hreaches : Reaches state (memory bus_state) translation) :
    ∃ executed bus_after,
      store_merge (half.back virtual_address) data virtual_address state bus bus_state =
        (.ok (.Completed none), executed, bus_after) ∧
      memory bus_after =
        ByteMemory.store (memory bus_state) (translation.address.get - half.back virtual_address) data := by
  have hspec := state.translate_address_spec virtual_address .Store
  obtain ⟨hplaced, -⟩ := State.translate_address_word rfl htranslated
  obtain ⟨-, hwithin⟩ := half.within hplaced
  unfold store_merge translate_address
  cases hresult : state.translate_address virtual_address .Store with
  | mk result after =>
    rw [hresult] at htranslated hspec
    obtain rfl : result = .ok translation := htranslated
    have hlookups : LookupsOnly state after := hspec
    have hafter : Reaches after (memory bus_state)
        { translation with address := ⟨translation.address.get - half.back virtual_address⟩ } :=
      ⟨(hlookups.reaches hreaches).connected, (hlookups.reaches hreaches).coherent⟩
    rw [← hdata] at hwithin
    obtain ⟨caches, bus_after, hstore, hmemory⟩ := hafter.store_memory hbus hdelivers hwithin
    refine ⟨{ after with caches }, bus_after, ?_, hmemory⟩
    dsimp only
    unfold write_translated
    rw [hstore]

/-- Putting the two halves of a word into a register in either order makes the word. -/
theorem merge_register_halves {address : U32} {word : Vector U8 4} (half : Half) (register : U32)
    {first : Vector U8 (half.length (half.address address))}
    {second : Vector U8 (half.other.length (half.other.address address))}
    (hfirst : ∀ i (hi : i < half.length (half.address address)),
      some first[i] = word[half.start (half.address address) + i]?)
    (hsecond : ∀ i (hi : i < half.other.length (half.other.address address)),
      some second[i] = word[half.other.start (half.other.address address) + i]?) :
    merge_register (merge_register register (half.start (half.address address)) first)
      (half.other.start (half.other.address address)) second = from_be_bytes word := by
  unfold merge_register
  rw [to_be_bytes_from_be_bytes]
  congr 1
  refine Vector.ext fun i hi => ?_
  rw [Cache.merge_getElem _ _ _ hi, Vector.length_toList]
  split
  · rename_i hinside
    have hbyte := hsecond (i - half.other.start (half.other.address address)) (by omega)
    have hplace : half.other.start (half.other.address address) +
        (i - half.other.start (half.other.address address)) = i := by omega
    rw [hplace, Vector.getElem?_eq_getElem hi] at hbyte
    rw [getElem!_pos second.toList _ (by rw [Vector.length_toList]; omega), Vector.getElem_toList]
    exact Option.some.inj hbyte
  · rename_i houtside
    rw [Cache.merge_getElem _ _ _ hi, Vector.length_toList]
    have hinside : half.start (half.address address) ≤ i ∧
        i < half.start (half.address address) + half.length (half.address address) :=
      (Half.covers address ⟨i, hi⟩ half).resolve_right houtside
    rw [if_pos hinside]
    have hbyte := hfirst (i - half.start (half.address address)) (by omega)
    have hplace : half.start (half.address address) + (i - half.start (half.address address)) = i := by
      omega
    rw [hplace, Vector.getElem?_eq_getElem hi] at hbyte
    rw [getElem!_pos first.toList _ (by rw [Vector.length_toList]; omega), Vector.getElem_toList]
    exact Option.some.inj hbyte

end load_store

/-! ## Steps -/

namespace R3000

/-- A step whose memory instruction completes ends at its boundary. -/
theorem step_of_memory {cpu : R3000} {bus : PhysicalBus β} {bus_state bus_ready bus_after : β}
    {ready executed : State} {instruction : MemoryInstruction} {effect : Option InstructionEffect}
    (hfetched : cpu.fetched bus bus_state = some (ready, .Memory instruction, bus_ready))
    (hexecuted : load_store.execute ready instruction bus bus_ready =
      (.ok (.Completed effect), executed, bus_after)) :
    (cpu.step bus bus_state).1 = .ok (.Completed none) ∧
      (cpu.step bus bus_state).2.1.state =
        (executed.complete_instruction none effect).synchronize_cp1_interrupt ∧
      (cpu.step bus bus_state).2.2 = bus_after := by
  have hfollows := cpu.step_follows bus bus_state
  rw [hfetched] at hfollows
  obtain ⟨-, cpu', -, hstep⟩ := hfollows
  rw [hstep]
  unfold execute
  dsimp only
  rw [hexecuted]
  exact ⟨rfl, rfl, rfl⟩

/-- What happens between two steps leaves a byte memory. -/
theorem fetched_memory {cpu : R3000} {bus : PhysicalBus β} {memory : β → Nat → U8}
    (hbus : bus.Bytewise memory) {bus_state bus_ready : β} {ready : State} {instruction : Instruction}
    (hfetched : cpu.fetched bus bus_state = some (ready, instruction, bus_ready)) :
    SameProgram cpu.state ready ∧ memory bus_ready = memory bus_state := by
  have hfollows := cpu.step_follows bus bus_state
  rw [hfetched] at hfollows
  obtain ⟨hsame, hreads⟩ := hfollows.1.frame
  refine ⟨hsame, ?_⟩
  clear hfollows hfetched hsame
  induction hreads with
  | refl => rfl
  | read address length _ ih => rw [hbus.read_memory, ih]

/-- Two steps in a row that execute the two halves of one unaligned access. Both
see the word's two ends translate the same way, and reach memory. -/
structure BackToBack (bus : PhysicalBus β) (memory : β → Nat → U8) (access : AccessType)
    (instruction : Nat → Nat → U16 → Half → MemoryInstruction) (cpu : R3000) (bus_state : β)
    (address : U32) (rt : Nat) (first : Half) where
  base : Nat
  offset : U16
  base' : Nat
  offset' : U16
  ready : State
  bus_ready : β
  ready' : State
  bus_ready' : β
  left : Translation
  right : Translation
  fetched : cpu.fetched bus bus_state =
    some (ready, .Memory (instruction base rt offset first), bus_ready)
  fetched' : (cpu.step bus bus_state).2.1.fetched bus (cpu.step bus bus_state).2.2 =
    some (ready', .Memory (instruction base' rt offset' first.other), bus_ready')
  effective : load_store.effective_address ready base offset = first.address address
  effective' : load_store.effective_address ready' base' offset' = first.other.address address
  left_translated : ∀ state ∈ [ready, ready'], (state.translate_address address access).1 = .ok left
  right_translated : ∀ state ∈ [ready, ready'], (state.translate_address (address + 3) access).1 = .ok right
  reaches : Reaches ready (memory bus_ready) (first.translation left right)
  reaches' : Reaches ready' (memory bus_ready') (first.other.translation left right)

section Pairs

variable {bus : PhysicalBus β} {memory : β → Nat → U8} {cpu : R3000} {bus_state : β} {address : U32}
  {rt : Nat} {first : Half}

theorem load_halves (hbus : bus.Bytewise memory) (hdelivers : Delivers bus)
    (run : BackToBack bus memory .Load Half.load cpu bus_state address rt first) :
    let after := cpu.step bus bus_state
    let last := after.2.1.step bus after.2.2
    after.1 = .ok (.Completed none) ∧ last.1 = .ok (.Completed none) ∧
      memory last.2.2 = memory bus_state ∧
      (rt ≠ 0 → last.2.1.state.pending_gpr_write = some
        { index := rt
          value := from_be_bytes (word_in (memory bus_state) (place address run.left run.right))
          load_merge_bypass := true }) := by
  intro after last
  have hleft := run.left_translated
  have hright := run.right_translated
  simp only [List.forall_mem_cons] at hleft hright
  obtain ⟨hleft, hleft', -⟩ := hleft
  obtain ⟨hright, hright', -⟩ := hright
  obtain ⟨-, hmemory_ready⟩ := fetched_memory hbus run.fetched
  obtain ⟨hsame, hmemory_ready'⟩ := fetched_memory hbus run.fetched'
  obtain ⟨loaded, executed, bus_after, hload, hbytes, hmemory⟩ :=
    load_store.load_merge_reaches hbus hdelivers first rt (first.translated hleft hright) run.reaches
  rw [← first.load_eq run.effective] at hload
  obtain ⟨hevent, hstate, hafter⟩ := step_of_memory run.fetched hload
  obtain ⟨loaded', executed', bus_after', hload', hbytes', hmemory'⟩ :=
    load_store.load_merge_reaches hbus hdelivers first.other rt (first.other.translated hleft' hright')
      run.reaches'
  rw [← first.other.load_eq run.effective'] at hload'
  obtain ⟨hevent', hstate', hafter'⟩ := step_of_memory run.fetched' hload'
  have hmiddle : memory run.bus_ready' = memory bus_state := by
    rw [hmemory_ready', hafter, hmemory, hmemory_ready]
  refine ⟨hevent, hevent', ?_, fun hrt => ?_⟩
  · show memory (R3000.step _ _ _).2.2 = _
    rw [hafter', hmemory', hmiddle]
  · have hpending : run.ready'.pending_gpr_write = some
        { index := rt
          value := load_store.merge_register (run.ready.read_gpr_for_load_merge rt)
            (first.start (first.address address)) loaded
          load_merge_bypass := true } := by
      rw [hsame.pending_gpr_write, hstate]
      rfl
    have hmerge : run.ready'.read_gpr_for_load_merge rt =
        load_store.merge_register (run.ready.read_gpr_for_load_merge rt)
          (first.start (first.address address)) loaded := by
      unfold State.read_gpr_for_load_merge
      rw [if_neg hrt, hpending]
      exact if_pos ⟨rfl, rfl⟩
    have hword : load_store.merge_register (run.ready'.read_gpr_for_load_merge rt)
        (first.other.start (first.other.address address)) loaded' =
          from_be_bytes (word_in (memory bus_state) (place address run.left run.right)) := by
      rw [hmerge]
      rw [hmemory_ready] at hbytes
      rw [hmiddle] at hbytes'
      exact load_store.merge_register_halves first _ (first.loaded_word hleft hright _ hbytes)
        (first.other.loaded_word hleft hright _ hbytes')
    show (R3000.step _ _ _).2.1.state.pending_gpr_write = _
    rw [hstate', ← hword]
    rfl

theorem store_halves (hbus : bus.Bytewise memory) (hdelivers : Delivers bus)
    (run : BackToBack bus memory .Store Half.store cpu bus_state address rt first)
    (hvalue : run.ready'.read_gpr rt = run.ready.read_gpr rt) :
    let after := cpu.step bus bus_state
    let last := after.2.1.step bus after.2.2
    after.1 = .ok (.Completed none) ∧ last.1 = .ok (.Completed none) ∧
      (∀ i : Fin 4, memory last.2.2 (place address run.left run.right i) =
        (to_be_bytes (run.ready.read_gpr rt))[i]) ∧
      ∀ cell, (∀ i, place address run.left run.right i ≠ cell) → memory last.2.2 cell = memory bus_state cell := by
  intro after last
  have hleft := run.left_translated
  have hright := run.right_translated
  simp only [List.forall_mem_cons] at hleft hright
  obtain ⟨hleft, hleft', -⟩ := hleft
  obtain ⟨hright, hright', -⟩ := hright
  obtain ⟨-, hmemory_ready⟩ := fetched_memory hbus run.fetched
  obtain ⟨-, hmemory_ready'⟩ := fetched_memory hbus run.fetched'
  have hlength : ∀ (half : Half) (value : U32), (((to_be_bytes value).toList.drop
      (half.start (half.address address))).take (half.length (half.address address))).length =
        half.length (half.address address) := by
    intro half value
    have hfour := half.start_add_length address
    rw [List.length_take, List.length_drop, Vector.length_toList]
    omega
  obtain ⟨executed, bus_after, hstore, hmemory⟩ :=
    load_store.store_merge_reaches hbus hdelivers first (hlength first _)
      (first.translated hleft hright) run.reaches
  rw [← first.store_eq run.effective] at hstore
  obtain ⟨hevent, hstate, hafter⟩ := step_of_memory run.fetched hstore
  obtain ⟨executed', bus_after', hstore', hmemory'⟩ :=
    load_store.store_merge_reaches hbus hdelivers first.other (hlength first.other _)
      (first.other.translated hleft' hright') run.reaches'
  rw [← first.other.store_eq run.effective'] at hstore'
  obtain ⟨hevent', hstate', hafter'⟩ := step_of_memory run.fetched' hstore'
  rw [hvalue, hmemory_ready', hafter] at hmemory'
  rw [hmemory_ready] at hmemory
  obtain ⟨hmoved, hkept⟩ := first.store_at hleft hright (memory bus_state)
    (to_be_bytes (run.ready.read_gpr rt))
  obtain ⟨hmoved', hkept'⟩ := first.other.store_at hleft hright (memory bus_after)
    (to_be_bytes (run.ready.read_gpr rt))
  rw [← hmemory] at hmoved hkept
  rw [← hmemory', ← hafter'] at hmoved' hkept'
  refine ⟨hevent, hevent', fun i => ?_, fun cell hcell => ?_⟩
  · by_cases hmoves : first.other.Moves address i
    · exact hmoved' i hmoves
    · -- what the second half leaves alone is where the first one put it
      refine (hkept' _ fun j hmoves' heq => hmoves ?_).trans
        (hmoved i ((first.covers address i).resolve_right hmoves))
      rwa [← place_injective hleft hright heq]
  · exact (hkept' cell fun i _ => hcell i).trans (hkept cell fun i _ => hcell i)

/-- Every unaligned word, loaded or stored by its two halves in either order. -/
theorem unaligned_halves (hbus : bus.Bytewise memory) (hdelivers : Delivers bus) :
    (∀ run : BackToBack bus memory .Load Half.load cpu bus_state address rt first,
      let after := cpu.step bus bus_state
      let last := after.2.1.step bus after.2.2
      let place := place address run.left run.right
      after.1 = .ok (.Completed none) ∧ last.1 = .ok (.Completed none) ∧
        Located run.ready .Load address place ∧ memory last.2.2 = memory bus_state ∧
        (rt ≠ 0 → rt < 32 →
          last.2.1.state.committed_gpr[rt]! = from_be_bytes (word_in (memory bus_state) place))) ∧
    (∀ run : BackToBack bus memory .Store Half.store cpu bus_state address rt first,
      run.ready'.read_gpr rt = run.ready.read_gpr rt →
      let after := cpu.step bus bus_state
      let last := after.2.1.step bus after.2.2
      let place := place address run.left run.right
      after.1 = .ok (.Completed none) ∧ last.1 = .ok (.Completed none) ∧
        Located run.ready .Store address place ∧
        (∀ i : Fin 4, memory last.2.2 (place i) = (to_be_bytes (run.ready.read_gpr rt))[i]) ∧
        ∀ cell, (∀ i, place i ≠ cell) → memory last.2.2 cell = memory bus_state cell) ∧
    ∀ (half : Half) (state : State) (access : AccessType) (virtual_address : U32) (translation : Translation),
      (state.translate_address virtual_address access).1 = .ok translation →
        half.back virtual_address ≤ translation.address.get ∧
        WithinWord ⟨translation.address.get - half.back virtual_address⟩ (half.length virtual_address) := by
  refine ⟨fun run => ?_, fun run hvalue => ?_, fun half state access virtual_address translation h => ?_⟩
  · obtain ⟨hevent, hevent', hmemory, hpending⟩ := load_halves hbus hdelivers run
    have hlocated := place_located (run.left_translated _ List.mem_cons_self)
      (run.right_translated _ List.mem_cons_self)
    refine ⟨hevent, hevent', hlocated, hmemory, fun hrt hbound => ?_⟩
    unfold State.committed_gpr
    rw [hpending hrt]
    dsimp only
    rw [if_pos hrt, getElem!_pos _ rt hbound, Vector.getElem_setIfInBounds_self]
  · obtain ⟨hevent, hevent', hbytes, hkept⟩ := store_halves hbus hdelivers run hvalue
    have hlocated := place_located (run.left_translated _ List.mem_cons_self)
      (run.right_translated _ List.mem_cons_self)
    exact ⟨hevent, hevent', hlocated, hbytes, hkept⟩
  · exact half.within (State.translate_address_word rfl h).1

end Pairs

theorem bounded_memory_delivers : Delivers (Cache.bounded_memory (2 ^ 32)) where
  read memory address length hwithin := by
    have hfits := hwithin.fits
    have hinside := hwithin.inside
    have hbound : address.get + length ≤ 2 ^ 32 := by omega
    unfold Cache.bounded_memory
    dsimp only
    rw [if_pos hbound]
    exact ⟨_, rfl⟩
  write memory address data hwithin := by
    have hfits := hwithin.fits
    have hinside := hwithin.inside
    have hbound : address.get + data.length ≤ 2 ^ 32 := by omega
    unfold Cache.bounded_memory
    dsimp only
    rw [if_pos hbound]

/-- The processor of a pair in the boot ROM, with an odd uncached address in its first register. -/
def pair_processor (value : U32) : R3000 :=
  { state := ((State.new (TEST_CONFIG default)).write_gpr_direct 1 0xa0000101#32).write_gpr_direct 2 value
    cp0_condition := false
    frequency_hz := 1
    decoded_words := #[] }

def left_half : Translation := { address := ⟨0x101⟩, cacheability := .Uncached }

def right_half : Translation := { address := ⟨0x104⟩, cacheability := .Uncached }

/-- A `lwl` and an `lwr` load a word from an odd address, and an `swr` and an `swl` store one
there. -/
theorem unaligned_halves_uncached :
    let bus := Cache.bounded_memory (2 ^ 32)
    let loaded_memory := ByteMemory.store (ByteMemory.store (fun _ => 0) 0x1fc00000
      [0x88, 0x22, 0, 0, 0x98, 0x22, 0, 3]) 0x101 [0x11, 0x22, 0x33, 0x44]
    let loaded := (pair_processor 0).step bus loaded_memory
    let stored_memory := ByteMemory.store (fun _ => 0) 0x1fc00000 [0xb8, 0x22, 0, 3, 0xa8, 0x22, 0, 0]
    let half_stored := (pair_processor 0x11223344#32).step bus stored_memory
    let stored := half_stored.2.1.step bus half_stored.2.2
    (loaded.2.1.step bus loaded.2.2).2.1.state.committed_gpr[2]! = 0x11223344#32 ∧
      stored.2.2 0x101 = 0x11 ∧ stored.2.2 0x102 = 0x22 ∧ stored.2.2 0x103 = 0x33 ∧ stored.2.2 0x104 = 0x44 ∧
      ∀ cell, cell < 0x101 ∨ 0x104 < cell → stored.2.2 cell = stored_memory cell := by
  intro bus loaded_memory loaded stored_memory half_stored stored
  have hplace : ∀ i : Fin 4, place 0xa0000101#32 left_half right_half i = 0x101 + i := by decide
  constructor
  · have hfetched := (pair_processor 0).fetched_of_instruction bus loaded_memory (.Memory (Half.load 1 2 0 .left))
      (by decide +kernel)
    have hfetched' := loaded.2.1.fetched_of_instruction bus loaded.2.2 (.Memory (Half.load 1 2 3 .right))
      (by decide +kernel)
    let run : BackToBack bus (fun memory => memory) .Load Half.load (pair_processor 0) loaded_memory 0xa0000101#32 2 .left :=
      { base := 1
        offset := 0
        base' := 1
        offset' := 3
        ready := _
        bus_ready := _
        ready' := _
        bus_ready' := _
        left := left_half
        right := right_half
        fetched := hfetched
        fetched' := hfetched'
        effective := by decide +kernel
        effective' := by decide +kernel
        left_translated := by
          simp only [List.forall_mem_cons]
          exact ⟨by decide +kernel, by decide +kernel, List.forall_mem_nil _⟩
        right_translated := by
          simp only [List.forall_mem_cons]
          exact ⟨by decide +kernel, by decide +kernel, List.forall_mem_nil _⟩
        reaches := ⟨by decide +kernel, nofun⟩
        reaches' := ⟨by decide +kernel, nofun⟩ }
    obtain ⟨-, -, -, -, hword⟩ :=
      (unaligned_halves (Cache.bounded_memory_bytewise _) bounded_memory_delivers).1 run
    have hvalue : from_be_bytes (word_in loaded_memory (place 0xa0000101#32 left_half right_half)) = 0x11223344#32 := by
      decide +kernel
    rw [← hvalue]
    apply hword
    · decide
    · decide
  · have hfetched := (pair_processor 0x11223344#32).fetched_of_instruction bus stored_memory
      (.Memory (Half.store 1 2 3 .right)) (by decide +kernel)
    have hfetched' := half_stored.2.1.fetched_of_instruction bus half_stored.2.2 (.Memory (Half.store 1 2 0 .left))
      (by decide +kernel)
    have hvalue : (((pair_processor 0x11223344#32).fetched bus stored_memory).map (·.1)
        |>.getD (pair_processor 0x11223344#32).state).read_gpr 2 = 0x11223344#32 := by
      decide +kernel
    have hvalue' : ((half_stored.2.1.fetched bus half_stored.2.2).map (·.1) |>.getD half_stored.2.1.state).read_gpr 2 =
        0x11223344#32 := by
      decide +kernel
    let run : BackToBack bus (fun memory => memory) .Store Half.store (pair_processor 0x11223344#32) stored_memory
        0xa0000101#32 2 .right :=
      { base := 1
        offset := 3
        base' := 1
        offset' := 0
        ready := _
        bus_ready := _
        ready' := _
        bus_ready' := _
        left := left_half
        right := right_half
        fetched := hfetched
        fetched' := hfetched'
        effective := by decide +kernel
        effective' := by decide +kernel
        left_translated := by
          simp only [List.forall_mem_cons]
          exact ⟨by decide +kernel, by decide +kernel, List.forall_mem_nil _⟩
        right_translated := by
          simp only [List.forall_mem_cons]
          exact ⟨by decide +kernel, by decide +kernel, List.forall_mem_nil _⟩
        reaches := ⟨by decide +kernel, nofun⟩
        reaches' := ⟨by decide +kernel, nofun⟩ }
    obtain ⟨-, -, -, hbytes, hkept⟩ :=
      (unaligned_halves (Cache.bounded_memory_bytewise _) bounded_memory_delivers).2.1 run (hvalue'.trans hvalue.symm)
    have hbyte : ∀ i : Fin 4, stored.2.2 (0x101 + i) = (to_be_bytes 0x11223344#32)[i] := by
      intro i
      rw [← hplace i, ← hvalue]
      exact hbytes i
    refine ⟨hbyte 0, hbyte 1, hbyte 2, hbyte 3, fun cell hcell => hkept cell fun i => ?_⟩
    have hbelow := i.isLt
    change place 0xa0000101#32 left_half right_half i ≠ cell
    rw [hplace]
    omega

end R3000

end se_cpu
