import SgiEmu.Board.Memory

open se_core se_core.bus se_device.pic1 se_device.ram Library.ByteMemory

/-! ## Windows -/

namespace se_device.pic1.Pic1

variable {pic1 : Pic1} {address length base last : Nat} {index : Fin 4}

/-- The addresses an enabled memory descriptor decodes, the end excluded. -/
def window (pic1 : Pic1) (index : Fin 4) : Option (Nat × Nat) :=
  (memory_size (pic1.memory_descriptors.get index)).map fun size =>
    ((pic1.memory_descriptors.get index &&& 0x3f).toNat <<< 22,
      (pic1.memory_descriptors.get index &&& 0x3f).toNat <<< 22 + size)

/-- No address lies in two enabled windows. -/
def WindowsDisjoint (pic1 : Pic1) : Prop :=
  ∀ first second firstWindow secondWindow, first ≠ second → pic1.window first = some firstWindow →
    pic1.window second = some secondWindow → firstWindow.2 ≤ secondWindow.1 ∨ secondWindow.2 ≤ firstWindow.1

instance (pic1 : Pic1) : Decidable pic1.WindowsDisjoint :=
  decidable_of_iff
    (∀ first second, first ≠ second → ∀ firstWindow ∈ pic1.window first, ∀ secondWindow ∈ pic1.window second,
      firstWindow.2 ≤ secondWindow.1 ∨ secondWindow.2 ≤ firstWindow.1)
    ⟨fun h first second firstWindow secondWindow hne hfirst hsecond => h first second hne firstWindow hfirst secondWindow hsecond,
      fun h first second hne firstWindow hfirst secondWindow hsecond => h first second firstWindow secondWindow hne hfirst hsecond⟩

theorem memory_size_le {descriptor : U16} {size : Nat} (h : memory_size descriptor = some size) :
    size ≤ 64 * 1024 * 1024 := by
  unfold memory_size at h
  split at h
  all_goals
    first
    | (obtain rfl := Option.some.inj h; decide)
    | simp at h

theorem window_end_le (h : pic1.window index = some (base, last)) : last ≤ U64_MAX := by
  obtain ⟨size, hsize, heq⟩ := Option.map_eq_some_iff.mp h
  obtain ⟨rfl, rfl⟩ := Prod.mk.inj heq
  have hle := memory_size_le hsize
  have hmask : (pic1.memory_descriptors.get index &&& 0x3f).toNat ≤ 0x3f := by
    rw [BitVec.toNat_and]
    exact Nat.and_le_right
  rw [Nat.shiftLeft_eq]
  simp only [U64_MAX]
  omega

/-- What the decoder looks for: a window around the whole range. -/
theorem window_of_decode {offset : Nat} (h : pic1.decode_memory address length = .ok (some (index, offset))) :
    0 < length ∧ ∃ base last, pic1.window index = some (base, last) ∧ base ≤ address ∧ address + length ≤ last ∧
      offset = address - base := by
  unfold decode_memory at h
  split at h
  · simp at h
  case isFalse hlength =>
    refine ⟨Nat.pos_of_ne_zero hlength, ?_⟩
    split at h
    · simp at h
    case h_2 last hsum =>
      obtain ⟨-, rfl⟩ := checked_add_u64_eq_some.mp hsum
      obtain ⟨found, -, hfound⟩ := List.exists_of_findSome?_eq_some (Except.ok.inj h)
      split at hfound
      · simp at hfound
      case h_2 size hsize =>
        dsimp only at hfound
        split at hfound
        case isFalse => simp at hfound
        case isTrue hinside =>
          obtain ⟨rfl, rfl⟩ := Prod.mk.inj (Option.some.inj hfound)
          exact ⟨_, _, by rw [window, hsize]; rfl, hinside.1, hinside.2, rfl⟩

/-- A search finds what one element gives and no other element differs in. -/
theorem findSome?_eq_of_unique {α β : Type} {f : α → Option β} {list : List α} {element : α} {value : β}
    (hmem : element ∈ list) (hvalue : f element = some value)
    (hunique : ∀ other found, f other = some found → found = value) : list.findSome? f = some value := by
  cases hsearch : list.findSome? f with
  | none =>
    have hnone := List.findSome?_eq_none_iff.mp hsearch element hmem
    rw [hvalue] at hnone
    simp at hnone
  | some found =>
    obtain ⟨other, -, hfound⟩ := List.exists_of_findSome?_eq_some hsearch
    rw [hunique other found hfound]

/-- A range inside one of disjoint windows decodes to it. -/
theorem decode_of_window (hdisjoint : pic1.WindowsDisjoint) (hwindow : pic1.window index = some (base, last))
    (hlength : 0 < length) (hbase : base ≤ address) (hlast : address + length ≤ last) :
    pic1.decode_memory address length = .ok (some (index, address - base)) := by
  have hmax := window_end_le hwindow
  have hsum : checked_add_u64 address length = some (address + length) := checked_add_u64_eq_some.mpr ⟨by omega, rfl⟩
  obtain ⟨size, hsize, hends⟩ := Option.map_eq_some_iff.mp hwindow
  obtain ⟨rfl, rfl⟩ := Prod.mk.inj hends
  rw [decode_memory, if_neg (Nat.pos_iff_ne_zero.mp hlength), hsum]
  dsimp only
  -- no other window holds the start of the range
  have hother {found : Fin 4} {foundSize : Nat} (hne : found ≠ index)
      (hfound : memory_size (pic1.memory_descriptors.get found) = some foundSize) :
      ¬ ((pic1.memory_descriptors.get found &&& 0x3f).toNat <<< 22 ≤ address ∧
        address + length ≤ (pic1.memory_descriptors.get found &&& 0x3f).toNat <<< 22 + foundSize) := by
    have hapart := hdisjoint found index _ _ hne (by rw [window, hfound]; rfl) hwindow
    simp only at hapart
    omega
  refine congrArg Except.ok (findSome?_eq_of_unique (List.mem_finRange index) ?_ ?_)
  · rw [hsize]
    dsimp only
    rw [if_pos ⟨hbase, hlast⟩]
  · intro found decoded hfound
    split at hfound
    · simp at hfound
    case h_2 foundSize hfoundSize =>
      split at hfound
      case isFalse => simp at hfound
      case isTrue hinside =>
        by_cases hsame : found = index
        · subst hsame
          exact (Option.some.inj hfound).symm
        · exact absurd hinside (hother hsame hfoundSize)

end se_device.pic1.Pic1

namespace se_machine.ip12

def LOCAL_MEMORY_END : Nat := 0x10000000

/-- Whether a transaction of the CPU ends inside the local memory space. -/
def local_memory_transaction_is_contained (address length : Nat) : Except BusError Bool :=
  if length < 1 ∨ 4 < length then .error .InvalidTransaction
  else
    match checked_add_u64 address length with
    | none => .error .InvalidTransaction
    | some last => .ok (last ≤ LOCAL_MEMORY_END)

namespace LocalMemory

/-- A CPU read; a hole inside a window reads as zeros. -/
def read (memory : LocalMemory) (pic1 : Pic1) (address length : Nat) : Except BusError (List U8) :=
  match local_memory_transaction_is_contained address length with
  | .error fault => .error fault
  | .ok false => .error .HardwareFault
  | .ok true =>
    match pic1.decode_memory address length with
    | .error fault => .error fault
    | .ok none => .error .HardwareFault
    | .ok (some (index, offset)) =>
      match memory.modules.get index with
      | none => .ok (List.replicate length 0)
      | some ram =>
        match ram.read offset length with
        | .ok data => .ok data
        | .error .HardwareFault => .ok (List.replicate length 0)
        | .error fault => .error fault

/-- A CPU write; a hole inside a window takes it without effect. -/
def write (memory : LocalMemory) (pic1 : Pic1) (address : Nat) (data : List U8) : Except BusError LocalMemory :=
  match local_memory_transaction_is_contained address data.length with
  | .error fault => .error fault
  | .ok false => .error .HardwareFault
  | .ok true =>
    match pic1.decode_memory address data.length with
    | .error fault => .error fault
    | .ok none => .error .HardwareFault
    | .ok (some (index, offset)) =>
      match memory.modules.get index with
      | none => .ok memory
      | some ram =>
        match ram.write offset data with
        | .ok ram => .ok { modules := memory.modules.set index.val (some ram) (module_lt index) }
        | .error .HardwareFault => .ok memory
        | .error fault => .error fault

/-- CPU writes of single bytes, one address after the other. -/
def write_bytes (memory : LocalMemory) (pic1 : Pic1) (address : Nat) : List U8 → Except BusError LocalMemory
  | [] => .ok memory
  | byte :: bytes =>
    match memory.write pic1 address [byte] with
    | .error fault => .error fault
    | .ok memory => write_bytes memory pic1 (address + 1) bytes

/-- A byte of a window whose offset the installed module backs. -/
def Backs (memory : LocalMemory) (pic1 : Pic1) (index : Fin 4) (cell : Nat) : Prop :=
  ∃ base last ram, pic1.window index = some (base, last) ∧ memory.modules.get index = some ram ∧ base ≤ cell ∧
    cell < last ∧ cell - base < ram.byte_len

/-! ## Decoded accesses -/

variable {memory : LocalMemory} {pic1 : Pic1} {index : Fin 4} {base last offset address length : Nat} {ram : Ram}

/-- The module that backs a whole range from `offset` on. -/
structure Located (memory : LocalMemory) (pic1 : Pic1) (index : Fin 4) (base : Nat) (ram : Ram) (address length : Nat) :
    Prop where
  window : ∃ last, pic1.window index = some (base, last) ∧ address + length ≤ last
  installed : memory.modules.get index = some ram
  start : base ≤ address
  backed : address - base + length ≤ ram.byte_len

theorem located_of_backs (hlength : 0 < length) (h : ∀ i < length, memory.Backs pic1 index (address + i)) :
    ∃ base ram, memory.Located pic1 index base ram address length := by
  obtain ⟨base, last, ram, hwindow, hmodule, hbase, -, -⟩ := h 0 hlength
  obtain ⟨base', last', ram', hwindow', hmodule', -, hlast, hbacked⟩ := h (length - 1) (by omega)
  obtain ⟨rfl, rfl⟩ := Prod.mk.inj (Option.some.inj (hwindow.symm.trans hwindow'))
  obtain rfl := Option.some.inj (hmodule.symm.trans hmodule')
  exact ⟨base, ram, ⟨last, hwindow, by omega⟩, hmodule, by omega, by omega⟩

theorem Located.backs (h : memory.Located pic1 index base ram address length) (i : Nat) (hi : i < length) :
    memory.Backs pic1 index (address + i) := by
  obtain ⟨⟨last, hwindow, hlast⟩, hmodule, hstart, hbacked⟩ := h
  exact ⟨base, last, ram, hwindow, hmodule, by omega, by omega, by omega⟩

theorem Located.decode (h : memory.Located pic1 index base ram address length) (hdisjoint : pic1.WindowsDisjoint)
    (hlength : 0 < length) : pic1.decode_memory address length = .ok (some (index, address - base)) := by
  obtain ⟨⟨last, hwindow, hlast⟩, -, hstart, -⟩ := h
  exact Pic1.decode_of_window hdisjoint hwindow hlength hstart hlast

theorem Located.range (h : memory.Located pic1 index base ram address length) (hlength : 0 < length) :
    ram.transaction_range (address - base) length = .ok (address - base + length) := by
  obtain ⟨⟨last, hwindow, hlast⟩, -, hstart, hbacked⟩ := h
  have hmax := Pic1.window_end_le hwindow
  have hsum : checked_add_u64 (address - base) length = some (address - base + length) :=
    checked_add_u64_eq_some.mpr ⟨by omega, rfl⟩
  rw [Ram.transaction_range, if_neg (Nat.pos_iff_ne_zero.mp hlength), hsum]
  exact if_neg (Nat.not_lt.mpr hbacked)

theorem Located.cell (h : memory.Located pic1 index base ram address length) {i : Nat} (hi : i < length) :
    memory.Located pic1 index base ram (address + i) 1 := by
  obtain ⟨⟨last, hwindow, hlast⟩, hmodule, hstart, hbacked⟩ := h
  exact ⟨⟨last, hwindow, by omega⟩, hmodule, by omega, by omega⟩

/-- What a DMA access decodes to is backed, byte by byte. -/
theorem located_of_dma_module {start : U32} (hmodule : memory.dma_module pic1 start length = some (index, offset, ram))
    (hrange : ∃ last, ram.transaction_range offset length = .ok last) :
    0 < length ∧ ∃ base, memory.Located pic1 index base ram start.toNat length ∧ offset = start.toNat - base := by
  obtain ⟨last, hrange⟩ := hrange
  unfold dma_module at hmodule
  split at hmodule
  case h_1 found foundOffset hdecode =>
    obtain ⟨found, hram, hsame⟩ := Option.map_eq_some_iff.mp hmodule
    simp only [Prod.mk.injEq] at hsame
    obtain ⟨rfl, rfl, rfl⟩ := hsame
    obtain ⟨hlength, base, last, hwindow, hbase, hlast, rfl⟩ := Pic1.window_of_decode hdecode
    exact ⟨hlength, base, ⟨⟨last, hwindow, hlast⟩, hram, hbase, transaction_range_ok hrange⟩, rfl⟩
  case h_2 => simp at hmodule

theorem Located.dma_module {start : U32} (h : memory.Located pic1 index base ram start.toNat length)
    (hdisjoint : pic1.WindowsDisjoint) (hlength : 0 < length) :
    memory.dma_module pic1 start length = some (index, start.toNat - base, ram) := by
  rw [LocalMemory.dma_module, h.decode hdisjoint hlength]
  simp only [h.installed, Option.map_some]

/-! ## CPU accesses of a byte -/

theorem contained_byte (h : address < LOCAL_MEMORY_END) : local_memory_transaction_is_contained address 1 = .ok true := by
  have hmax : LOCAL_MEMORY_END ≤ U64_MAX := by decide
  have hsum : checked_add_u64 address 1 = some (address + 1) := checked_add_u64_eq_some.mpr ⟨by omega, rfl⟩
  rw [local_memory_transaction_is_contained, if_neg (by omega), hsum]
  simp only [decide_eq_true (show address + 1 ≤ LOCAL_MEMORY_END from h)]

theorem Located.read_byte (h : memory.Located pic1 index base ram address 1) (hdisjoint : pic1.WindowsDisjoint)
    (hlocal : address < LOCAL_MEMORY_END) : memory.read pic1 address 1 = .ok [ram.bytes (address - base)] := by
  simp only [LocalMemory.read, contained_byte hlocal, h.decode hdisjoint Nat.one_pos, h.installed, Ram.read,
    h.range Nat.one_pos]
  rfl

theorem Located.write_byte (h : memory.Located pic1 index base ram address 1) (hdisjoint : pic1.WindowsDisjoint)
    (hlocal : address < LOCAL_MEMORY_END) (byte : U8) :
    memory.write pic1 address [byte] = .ok
      { modules := memory.modules.set index.val
          (some { ram with bytes := store ram.bytes (address - base) [byte] }) index.isLt } := by
  simp only [LocalMemory.write, List.length_singleton, contained_byte hlocal, h.decode hdisjoint Nat.one_pos, h.installed,
    Ram.write, h.range Nat.one_pos]

/-- Writing byte by byte stores the run in the module that backs it. -/
theorem Located.write_bytes {data : List U8} (h : memory.Located pic1 index base ram address data.length)
    (hdisjoint : pic1.WindowsDisjoint) (hlocal : address + data.length ≤ LOCAL_MEMORY_END) :
    memory.write_bytes pic1 address data = .ok
      { modules := memory.modules.set index.val
          (some { ram with bytes := store ram.bytes (address - base) data }) index.isLt } := by
  induction data generalizing memory ram address with
  | nil =>
    have hget : memory.modules[index.val] = some ram := h.installed
    simp only [LocalMemory.write_bytes, store_nil, ← hget, Vector.set_getElem_self]
  | cons byte data ih =>
    rw [List.length_cons] at h hlocal
    have hfirst : memory.Located pic1 index base ram address 1 := h.cell (Nat.succ_pos _)
    have hrest : Located
        { modules := memory.modules.set index.val
            (some { ram with bytes := store ram.bytes (address - base) [byte] }) index.isLt }
        pic1 index base { ram with bytes := store ram.bytes (address - base) [byte] } (address + 1) data.length := by
      obtain ⟨⟨last, hwindow, hlast⟩, -, hstart, hbacked⟩ := h
      refine ⟨⟨last, hwindow, by omega⟩, ?_, by omega, by dsimp only; omega⟩
      exact Vector.getElem_set_self index.isLt
    have hoffset : address + 1 - base = address - base + [byte].length := by
      have hstart := h.start
      rw [List.length_singleton]
      omega
    rw [LocalMemory.write_bytes, hfirst.write_byte hdisjoint (by omega)]
    dsimp only
    rw [ih hrest (by omega), hoffset, store_store, Vector.set_set]
    rfl

/-! ## DMA accesses -/

theorem read_dma_located {start : U32} {data : List U8} (h : (memory.read_dma pic1 start length).1 = some data) :
    0 < length ∧ ∃ index base ram, memory.Located pic1 index base ram start.toNat length ∧
      data = load ram.bytes (start.toNat - base) length := by
  unfold read_dma at h
  split at h
  · simp at h
  case h_2 index offset ram hmodule =>
    unfold Ram.read at h
    cases hrange : ram.transaction_range offset length with
    | error fault => simp [hrange] at h
    | ok last =>
      obtain ⟨hlength, base, hlocated, rfl⟩ := located_of_dma_module hmodule ⟨last, hrange⟩
      refine ⟨hlength, index, base, ram, hlocated, ?_⟩
      simpa [hrange] using h.symm

theorem Located.read_dma {start : U32} (h : memory.Located pic1 index base ram start.toNat length)
    (hdisjoint : pic1.WindowsDisjoint) (hlength : 0 < length) :
    memory.read_dma pic1 start length = (some (load ram.bytes (start.toNat - base) length), pic1) := by
  simp only [LocalMemory.read_dma, h.dma_module hdisjoint hlength, Ram.read, h.range hlength]

theorem write_dma_located {start : U32} {data : List U8} (h : (memory.write_dma pic1 start data).1 = true) :
    0 < data.length ∧ ∃ index base ram, memory.Located pic1 index base ram start.toNat data.length := by
  unfold write_dma at h
  split at h
  · simp at h
  case h_2 index offset ram hmodule =>
    unfold Ram.write at h
    cases hrange : ram.transaction_range offset data.length with
    | error fault => simp [hrange] at h
    | ok last =>
      obtain ⟨hlength, base, hlocated, -⟩ := located_of_dma_module hmodule ⟨last, hrange⟩
      exact ⟨hlength, index, base, ram, hlocated⟩

theorem Located.write_dma {start : U32} {data : List U8} (h : memory.Located pic1 index base ram start.toNat data.length)
    (hdisjoint : pic1.WindowsDisjoint) (hlength : 0 < data.length) :
    memory.write_dma pic1 start data =
      (true,
        { modules := memory.modules.set index.val
            (some { ram with bytes := store ram.bytes (start.toNat - base) data }) index.isLt },
        pic1) := by
  simp only [LocalMemory.write_dma, h.dma_module hdisjoint hlength, Ram.write, h.range hlength]

/-- A DMA access succeeds exactly where one window backs its whole range, and then
moves the bytes that CPU accesses of the same addresses move; any other changes no
memory and latches the address error. -/
theorem dma_agrees_with_cpu (memory : LocalMemory) (pic1 : Pic1) (hdisjoint : pic1.WindowsDisjoint) (address : U32) :
    (∀ length, 0 < length →
      ((memory.read_dma pic1 address length).1.isSome = true ↔
        ∃ index, ∀ i < length, memory.Backs pic1 index (address.toNat + i)) ∧
      ∀ data, (memory.read_dma pic1 address length).1 = some data →
        data.length = length ∧ ∀ i (hi : i < data.length), address.toNat + i < LOCAL_MEMORY_END →
          memory.read pic1 (address.toNat + i) 1 = .ok [data[i]]) ∧
    (∀ data, data ≠ [] →
      ((memory.write_dma pic1 address data).1 = true ↔
        ∃ index, ∀ i < data.length, memory.Backs pic1 index (address.toNat + i)) ∧
      ((memory.write_dma pic1 address data).1 = true → address.toNat + data.length ≤ LOCAL_MEMORY_END →
        memory.write_bytes pic1 address.toNat data = .ok (memory.write_dma pic1 address data).2.1)) ∧
    (∀ length, (memory.read_dma pic1 address length).1 = none →
      (memory.read_dma pic1 address length).2 = pic1.report_address_error) ∧
    ∀ data, (memory.write_dma pic1 address data).1 = false →
      (memory.write_dma pic1 address data).2 = (memory, pic1.report_address_error) := by
  refine ⟨fun length hlength => ⟨⟨fun hread => ?_, fun hbacks => ?_⟩, fun data hread => ?_⟩,
    fun data hdata => ⟨⟨fun hwrite => ?_, fun hbacks => ?_⟩, fun hwrite hlocal => ?_⟩, fun length hread => ?_,
    fun data hwrite => ?_⟩
  · obtain ⟨data, hdata⟩ := Option.isSome_iff_exists.mp hread
    obtain ⟨-, index, base, ram, hlocated, -⟩ := read_dma_located hdata
    exact ⟨index, hlocated.backs⟩
  · obtain ⟨index, hbacks⟩ := hbacks
    obtain ⟨base, ram, hlocated⟩ := located_of_backs hlength hbacks
    rw [hlocated.read_dma hdisjoint hlength]
    rfl
  · obtain ⟨-, index, base, ram, hlocated, rfl⟩ := read_dma_located hread
    refine ⟨load_length _ _ _, fun i hi hlocal => ?_⟩
    have hinside : i < length := by rwa [load_length] at hi
    have hbyte := (hlocated.cell hinside).read_byte hdisjoint hlocal
    have hoffset : address.toNat + i - base = address.toNat - base + i := by
      have hstart := hlocated.start
      omega
    have hload := (List.getElem?_eq_getElem hi).symm.trans (load_getElem? hinside)
    rw [hbyte, hoffset, Option.some.inj hload]
  · obtain ⟨-, index, base, ram, hlocated⟩ := write_dma_located hwrite
    exact ⟨index, hlocated.backs⟩
  · obtain ⟨index, hbacks⟩ := hbacks
    have hlength := List.length_pos_iff.mpr hdata
    obtain ⟨base, ram, hlocated⟩ := located_of_backs hlength hbacks
    rw [hlocated.write_dma hdisjoint hlength]
  · obtain ⟨hlength, index, base, ram, hlocated⟩ := write_dma_located hwrite
    rw [hlocated.write_dma hdisjoint hlength]
    exact hlocated.write_bytes hdisjoint hlocal
  · rcases memory.read_dma_cases pic1 address length with hfault | ⟨data, hdata, -⟩
    · rw [hfault]
    · rw [hdata] at hread
      exact absurd hread (by simp)
  · rcases memory.write_dma_cases pic1 address data with hfault | ⟨next, hnext, -⟩
    · rw [hfault]
    · rw [hnext] at hwrite
      exact absurd hwrite (by simp)

/-- Two banks of 4 MiB, one behind the other. -/
def adjacent_banks : Pic1 := { memory_descriptors := #v[0x0000, 0x0001, 0x023f, 0x023f], address_error_pending := false }

def two_modules : LocalMemory :=
  { modules := #v[some { byte_len := 0x400000, bytes := fun _ => 0 }, some { byte_len := 0x400000, bytes := fun _ => 0 },
      none, none] }

theorem dma_agrees_with_cpu_adjacent_banks :
    ((two_modules.read_dma adjacent_banks 0x3ffffe 2).1.isSome = true ↔
      ∃ index, ∀ i < 2, two_modules.Backs adjacent_banks index (0x3ffffe + i)) :=
  ((dma_agrees_with_cpu two_modules adjacent_banks (by decide) 0x3ffffe).1 2 (by decide)).1

/-- A range across two adjacent windows is refused, although each byte is backed. -/
theorem dma_across_windows_refused :
    adjacent_banks.WindowsDisjoint ∧ (∀ i < 2, ∃ index, two_modules.Backs adjacent_banks index (0x3fffff + i)) ∧
      (two_modules.read_dma adjacent_banks 0x3fffff 2).1.isSome = false := by
  refine ⟨by decide, fun i hi => ?_, by decide⟩
  match i with
  | 0 => exact ⟨0, 0, 0x400000, _, rfl, rfl, by decide, by decide, by decide⟩
  | 1 => exact ⟨1, 0x400000, 0x800000, _, rfl, rfl, by decide, by decide, by decide⟩

/-- A bank of 64 MiB in the last window of local memory, which reaches past its end. -/
def high_bank : Pic1 := { memory_descriptors := #v[0x0f3f, 0x023f, 0x023f, 0x023f], address_error_pending := false }

def high_module : LocalMemory :=
  { modules := #v[some { byte_len := 0x4000000, bytes := fun _ => 0x5a }, none, none, none] }

/-- A backed byte behind the end of local memory, which DMA reads and the CPU does not. -/
theorem dma_past_local_memory_end :
    high_bank.WindowsDisjoint ∧ (∃ index, high_module.Backs high_bank index LOCAL_MEMORY_END) ∧
      (high_module.read_dma high_bank 0x10000000 1).1 = some [0x5a] ∧
      high_module.read high_bank LOCAL_MEMORY_END 1 = .error .HardwareFault :=
  ⟨by decide, ⟨0, 0xfc00000, 0x13c00000, _, rfl, rfl, by decide, by decide, by decide⟩, by decide, rfl⟩

end LocalMemory

end se_machine.ip12
