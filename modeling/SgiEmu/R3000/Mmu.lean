import SgiEmu.Core.Bus

open se_core se_core.bus

namespace se_cpu.mmu

abbrev TLB_ENTRY_COUNT : Nat := 64
abbrev TLB_LOOKUP_CACHE_ENTRY_COUNT : Nat := TLB_ENTRY_COUNT
def TLB_LOOKUP_CACHE_HASH_MULTIPLIER : U32 := 0x9e3779b1#32
def TLB_LOOKUP_CACHE_INDEX_SHIFT : Nat := 32 - Nat.log2 TLB_LOOKUP_CACHE_ENTRY_COUNT

def KUSEG_END : U32 := 0x7fffffff#32
def KSEG0_START : U32 := 0x80000000#32
def KSEG0_END : U32 := 0x9fffffff#32
def KSEG1_START : U32 := 0xa0000000#32
def KSEG1_END : U32 := 0xbfffffff#32
def PHYSICAL_ADDRESS_MASK : U32 := 0x1fffffff#32

def ENTRY_HI_VPN_MASK : U32 := 0xfffff000#32
def ENTRY_HI_ASID_MASK : U32 := 0x00000fc0#32
def ENTRY_LO_PFN_MASK : U32 := 0xfffff000#32
def ENTRY_LO_NONCACHEABLE : U32 := 1#32 <<< 11
def ENTRY_LO_DIRTY : U32 := 1#32 <<< 10
def ENTRY_LO_VALID : U32 := 1#32 <<< 9
def ENTRY_LO_GLOBAL : U32 := 1#32 <<< 8
def ENTRY_LO_MASK : U32 :=
  ENTRY_LO_PFN_MASK ||| ENTRY_LO_NONCACHEABLE ||| ENTRY_LO_DIRTY ||| ENTRY_LO_VALID ||| ENTRY_LO_GLOBAL

inductive AccessType where
  | Instruction
  | Load
  | Store
deriving DecidableEq, Repr

inductive Cacheability where
  | Cached
  | Uncached
deriving DecidableEq, Repr

structure Translation where
  address : PhysAddr
  cacheability : Cacheability
deriving DecidableEq, Repr

inductive TranslationFault where
  | AddressError
  | Miss
  | Invalid
  | Modified
  | Shutdown
deriving DecidableEq, Repr

inductive ProbeResult where
  | Miss
  | Match (index : Nat)
  | Shutdown
deriving DecidableEq, Repr

structure TlbEntry where
  entry_hi : U32
  entry_lo : U32
deriving DecidableEq, Repr

def TlbEntry.INITIAL_INVALID : TlbEntry := { entry_hi := KSEG0_START, entry_lo := 0 }

instance : Inhabited TlbEntry := ⟨TlbEntry.INITIAL_INVALID⟩

def TlbEntry.new (entry_hi entry_lo : U32) : TlbEntry :=
  { entry_hi := entry_hi &&& (ENTRY_HI_VPN_MASK ||| ENTRY_HI_ASID_MASK)
    entry_lo := entry_lo &&& ENTRY_LO_MASK }

def TlbEntry.tag_matches (entry : TlbEntry) (virtual_page asid : U32) : Bool :=
  entry.entry_hi &&& ENTRY_HI_VPN_MASK == virtual_page
    && (entry.entry_lo &&& ENTRY_LO_GLOBAL != 0 || entry.entry_hi &&& ENTRY_HI_ASID_MASK == asid)

/-- One 64-entry view of the translation buffer. A slot number past the array
panics in the source; here it reads a default and writes nothing. -/
abbrev TlbEntries := Vector TlbEntry TLB_ENTRY_COUNT

/-- The loop of `match_entries` over the slots still to be scanned, carrying
the lowest match found so far. -/
def match_entries_from (entries : TlbEntries) (virtual_page asid : U32) :
    List (TlbEntry × Nat) → Option Nat → ProbeResult
  | [], matching_index => matching_index.elim .Miss .Match
  | (entry, index) :: rest, matching_index =>
    if entry.tag_matches virtual_page asid then
      match matching_index with
      | some first =>
        if entry.entry_lo ≠ entries[first]!.entry_lo then .Shutdown
        else match_entries_from entries virtual_page asid rest (some first)
      | none => match_entries_from entries virtual_page asid rest (some index)
    else match_entries_from entries virtual_page asid rest matching_index

/-- Selects the lowest matching slot, tolerating duplicates with identical
EntryLo values; differing EntryLo values among the matches cause shutdown. -/
def match_entries (entries : TlbEntries) (virtual_page asid : U32) : ProbeResult :=
  match_entries_from entries virtual_page asid entries.toList.zipIdx none

/-- A probe result as the lookup cache stores it: the slot fits one byte. -/
inductive CachedProbeResult where
  | Miss
  | Match (index : U8)
  | Shutdown
deriving DecidableEq, Repr

def CachedProbeResult.from_probe_result : ProbeResult → CachedProbeResult
  | .Miss => .Miss
  | .Match index => .Match (BitVec.ofNat 8 index)
  | .Shutdown => .Shutdown

def CachedProbeResult.probe_result : CachedProbeResult → ProbeResult
  | .Miss => .Miss
  | .Match index => .Match index.toNat
  | .Shutdown => .Shutdown

structure CachedLookup where
  generation : U32
  key : U32
  result : CachedProbeResult
deriving DecidableEq, Repr

def CachedLookup.EMPTY : CachedLookup := { generation := 0, key := 0, result := .Miss }

instance : Inhabited CachedLookup := ⟨CachedLookup.EMPTY⟩

def CachedLookup.matches (lookup : CachedLookup) (generation key : U32) : Bool :=
  lookup.generation == generation && lookup.key == key

structure TlbLookupCache where
  generation : U32
  hot : CachedLookup
  entries : Vector CachedLookup TLB_LOOKUP_CACHE_ENTRY_COUNT
deriving DecidableEq

def TlbLookupCache.new : TlbLookupCache :=
  { generation := 1, hot := .EMPTY, entries := Vector.replicate _ .EMPTY }

def lookup_key (virtual_page asid : U32) : U32 :=
  (virtual_page >>> 12) ||| (asid <<< 14)

def lookup_cache_index (key : U32) : Nat :=
  ((key * TLB_LOOKUP_CACHE_HASH_MULTIPLIER) >>> TLB_LOOKUP_CACHE_INDEX_SHIFT).toNat

def TlbLookupCache.resolve (cache : TlbLookupCache) (entries : TlbEntries) (virtual_page asid : U32) :
    ProbeResult × TlbLookupCache :=
  let key := lookup_key virtual_page asid
  if cache.hot.matches cache.generation key then
    (cache.hot.result.probe_result, cache)
  else
    let index := lookup_cache_index key
    let cached := cache.entries[index]!
    if cached.matches cache.generation key then
      (cached.result.probe_result, { cache with hot := cached })
    else
      let result := match_entries entries virtual_page asid
      let cached : CachedLookup :=
        { generation := cache.generation, key, result := .from_probe_result result }
      (result, { cache with hot := cached, entries := cache.entries.setIfInBounds index cached })

def TlbLookupCache.invalidate (cache : TlbLookupCache) : TlbLookupCache :=
  match checked_add cache.generation 1 with
  | some generation => { cache with generation }
  | none => { generation := 1, hot := .EMPTY, entries := Vector.replicate _ .EMPTY }

structure PendingTlbWrite where
  index : Nat
  entry : TlbEntry
deriving DecidableEq, Repr

structure Mmu where
  entries : TlbEntries
  instruction_entries : TlbEntries
  pending_instruction_writes : Option PendingTlbWrite × Option PendingTlbWrite
  main_lookup_cache : TlbLookupCache
  instruction_lookup_cache : TlbLookupCache

namespace Mmu

def new : Mmu :=
  { entries := Vector.replicate _ .INITIAL_INVALID
    instruction_entries := Vector.replicate _ .INITIAL_INVALID
    pending_instruction_writes := (none, none)
    main_lookup_cache := .new
    instruction_lookup_cache := .new }

/-- Cloning copies the architectural views and starts with empty lookup caches. -/
def clone (mmu : Mmu) : Mmu :=
  { mmu with main_lookup_cache := .new, instruction_lookup_cache := .new }

def reset (mmu : Mmu) : Mmu :=
  { mmu with
    instruction_entries := mmu.entries
    pending_instruction_writes := (none, none)
    main_lookup_cache := mmu.main_lookup_cache.invalidate
    instruction_lookup_cache := mmu.instruction_lookup_cache.invalidate }

/-- The view of the translation buffer an access type translates through. -/
def view (mmu : Mmu) : AccessType → TlbEntries
  | .Instruction => mmu.instruction_entries
  | .Load | .Store => mmu.entries

def finish_mapped_translation (entries : TlbEntries) (virtual_address : U32) (access : AccessType)
    (result : ProbeResult) : Except TranslationFault Translation :=
  match result with
  | .Miss => .error .Miss
  | .Shutdown => .error .Shutdown
  | .Match index =>
    let entry := entries[index]!
    if entry.entry_lo &&& ENTRY_LO_VALID = 0 then .error .Invalid
    else if access = .Store ∧ entry.entry_lo &&& ENTRY_LO_DIRTY = 0 then .error .Modified
    else
      let physical_address :=
        (entry.entry_lo &&& ENTRY_LO_PFN_MASK) ||| (virtual_address &&& ~~~ENTRY_HI_VPN_MASK)
      let cacheability :=
        if entry.entry_lo &&& ENTRY_LO_NONCACHEABLE = 0 then Cacheability.Cached else .Uncached
      .ok { address := ⟨physical_address.toNat⟩, cacheability }

def translate_mapped (mmu : Mmu) (virtual_address : U32) (asid : U8) (access : AccessType) :
    Except TranslationFault Translation × Mmu :=
  let virtual_page := virtual_address &&& ENTRY_HI_VPN_MASK
  let asid := (asid.setWidth 32 <<< 6) &&& ENTRY_HI_ASID_MASK
  match access with
  | .Instruction =>
    let (result, cache) :=
      mmu.instruction_lookup_cache.resolve mmu.instruction_entries virtual_page asid
    (finish_mapped_translation mmu.instruction_entries virtual_address access result,
      { mmu with instruction_lookup_cache := cache })
  | .Load | .Store =>
    let (result, cache) := mmu.main_lookup_cache.resolve mmu.entries virtual_page asid
    (finish_mapped_translation mmu.entries virtual_address access result,
      { mmu with main_lookup_cache := cache })

def translate_mapped_readonly (mmu : Mmu) (virtual_address : U32) (asid : U8) (access : AccessType) :
    Except TranslationFault Translation :=
  let entries := mmu.view access
  let virtual_page := virtual_address &&& ENTRY_HI_VPN_MASK
  let asid := (asid.setWidth 32 <<< 6) &&& ENTRY_HI_ASID_MASK
  finish_mapped_translation entries virtual_address access (match_entries entries virtual_page asid)

/-- The address of an unmapped kernel segment. -/
def unmapped (virtual_address : U32) (cacheability : Cacheability) : Translation :=
  { address := ⟨(virtual_address &&& PHYSICAL_ADDRESS_MASK).toNat⟩, cacheability }

def translate (mmu : Mmu) (virtual_address : U32) (asid : U8) (kernel_mode : Bool)
    (access : AccessType) : Except TranslationFault Translation × Mmu :=
  if virtual_address ≤ KUSEG_END then mmu.translate_mapped virtual_address asid access
  else if KSEG0_START ≤ virtual_address ∧ virtual_address ≤ KSEG0_END ∧ kernel_mode then
    (.ok (unmapped virtual_address .Cached), mmu)
  else if KSEG1_START ≤ virtual_address ∧ virtual_address ≤ KSEG1_END ∧ kernel_mode then
    (.ok (unmapped virtual_address .Uncached), mmu)
  else if KSEG0_START ≤ virtual_address ∧ virtual_address ≤ KSEG1_END then (.error .AddressError, mmu)
  else if kernel_mode then mmu.translate_mapped virtual_address asid access
  else (.error .AddressError, mmu)

def translate_readonly (mmu : Mmu) (virtual_address : U32) (asid : U8) (kernel_mode : Bool)
    (access : AccessType) : Except TranslationFault Translation :=
  if virtual_address ≤ KUSEG_END then mmu.translate_mapped_readonly virtual_address asid access
  else if KSEG0_START ≤ virtual_address ∧ virtual_address ≤ KSEG0_END ∧ kernel_mode then
    .ok (unmapped virtual_address .Cached)
  else if KSEG1_START ≤ virtual_address ∧ virtual_address ≤ KSEG1_END ∧ kernel_mode then
    .ok (unmapped virtual_address .Uncached)
  else if KSEG0_START ≤ virtual_address ∧ virtual_address ≤ KSEG1_END then .error .AddressError
  else if kernel_mode then mmu.translate_mapped_readonly virtual_address asid access
  else .error .AddressError

def read_indexed (mmu : Mmu) (index : Nat) : U32 × U32 :=
  (mmu.entries[index]!.entry_hi, mmu.entries[index]!.entry_lo)

def probe (mmu : Mmu) (entry_hi : U32) : ProbeResult :=
  match_entries mmu.entries (entry_hi &&& ENTRY_HI_VPN_MASK) (entry_hi &&& ENTRY_HI_ASID_MASK)

def advance_instruction_view_with (mmu : Mmu) (new_write : Option PendingTlbWrite) : Mmu :=
  let pending_instruction_writes := (mmu.pending_instruction_writes.2, new_write)
  match mmu.pending_instruction_writes.1 with
  | some write =>
    { mmu with
      instruction_entries := mmu.instruction_entries.setIfInBounds write.index write.entry
      instruction_lookup_cache := mmu.instruction_lookup_cache.invalidate
      pending_instruction_writes }
  | none => { mmu with pending_instruction_writes }

def advance_instruction_view (mmu : Mmu) : Mmu :=
  mmu.advance_instruction_view_with none

def complete_write (mmu : Mmu) (index : Nat) (entry_hi entry_lo : U32) : Mmu :=
  let entry := TlbEntry.new entry_hi entry_lo
  let mmu := { mmu with
    entries := mmu.entries.setIfInBounds index entry
    main_lookup_cache := mmu.main_lookup_cache.invalidate }
  mmu.advance_instruction_view_with (some { index, entry })

end Mmu

end se_cpu.mmu
