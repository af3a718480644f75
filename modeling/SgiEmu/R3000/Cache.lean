import SgiEmu.Core.Bus
import SgiEmu.R3000.Config

open se_core se_core.bus

namespace se_cpu.cache

abbrev WORD_BYTES : Nat := 4
def PAGE_FRAME_MASK : U32 := 0xfffff000#32

structure CacheEntry where
  page_frame : U32
  data : Vector U8 WORD_BYTES
  valid : Bool
deriving DecidableEq

def CacheEntry.INVALID : CacheEntry :=
  { page_frame := 0, data := Vector.replicate WORD_BYTES 0, valid := false }

instance : Inhabited CacheEntry := ⟨CacheEntry.INVALID⟩

/-- A direct-mapped bank of one-word entries. -/
structure Cache where
  entries : Array CacheEntry
  refill_bytes : Nat
deriving DecidableEq

structure CacheAccess where
  word_address : U32
  offset : Nat
  index : Nat
  page_frame : U32
deriving DecidableEq

def page_frame (word_address : U32) : U32 := word_address &&& PAGE_FRAME_MASK

/-- Copies the bytes of `word` from `offset` on over the whole destination; the
source's match on the two lengths is one arm for each length a word can hold. -/
def copy_word_fragment {length : Nat} (_destination : Vector U8 length)
    (word : Vector U8 WORD_BYTES) (offset : Nat) : Vector U8 length :=
  Vector.ofFn fun i => word[offset + i]!

/-- `merged[offset..offset + data.len()].copy_from_slice(data)`. -/
def merge_word_fragment (word : Vector U8 WORD_BYTES) (offset : Nat) (data : List U8) :
    Vector U8 WORD_BYTES :=
  Vector.ofFn fun i =>
    if offset ≤ i.val ∧ i.val < offset + data.length then data[i.val - offset]! else word[i]

/-- The four bytes of a full-word store. -/
def word_of_data (data : List U8) : Vector U8 WORD_BYTES := Vector.ofFn fun i => data[i.val]!

namespace Cache

def new (cache_bytes refill_bytes : Nat) : Cache :=
  { entries := Array.replicate (cache_bytes / WORD_BYTES) .INVALID, refill_bytes }

def index (cache : Cache) (word_address : U32) : Nat :=
  (word_address >>> 2).toNat &&& (cache.entries.size - 1)

/-- Splits an address into its word, byte and tag. The source asserts that the
address fits 32 bits and that the access stays within one word. -/
def access (cache : Cache) (address : PhysAddr) : CacheAccess :=
  let address := BitVec.ofNat 32 address.get
  let word_address := address &&& ~~~3#32
  { word_address
    offset := (address &&& 3#32).toNat
    index := cache.index word_address
    page_frame := page_frame word_address }

def set_entry (cache : Cache) (index : Nat) (entry : CacheEntry) : Cache :=
  { cache with entries := cache.entries.setIfInBounds index entry }

variable {β : Type}

/-- The first loop of a refill: reads the words from `word_index` on, and
abandons the refill at the first failing one. -/
def read_refill (bus : PhysicalBus β) (refill_base : U32) :
    (remaining word_index : Nat) → β → Except BusError (List (Vector U8 WORD_BYTES)) × β
  | 0, _, bus_state => (.ok [], bus_state)
  | remaining + 1, word_index, bus_state =>
    let word_address := refill_base + BitVec.ofNat 32 (word_index * WORD_BYTES)
    match bus.read bus_state ⟨word_address.toNat⟩ WORD_BYTES with
    | (.error fault, bus_state) => (.error fault, bus_state)
    | (.ok word, bus_state) =>
      match read_refill bus refill_base remaining (word_index + 1) bus_state with
      | (.error fault, bus_state) => (.error fault, bus_state)
      | (.ok words, bus_state) => (.ok (word :: words), bus_state)

/-- The second loop of a refill: installs the words from `word_index` on. -/
def install_refill (refill_base : U32) : List (Vector U8 WORD_BYTES) → (word_index : Nat) → Cache → Cache
  | [], _, cache => cache
  | word :: words, word_index, cache =>
    let word_address := refill_base + BitVec.ofNat 32 (word_index * WORD_BYTES)
    let entry : CacheEntry := { page_frame := page_frame word_address, data := word, valid := true }
    install_refill refill_base words (word_index + 1) (cache.set_entry (cache.index word_address) entry)

def refill_base (cache : Cache) (word_address : U32) : U32 :=
  word_address &&& ~~~(BitVec.ofNat 32 cache.refill_bytes - 1)

/-- A cached read into the output buffer `data`. -/
def read {length : Nat} (cache : Cache) (address : PhysAddr) (data : Vector U8 length)
    (bus : PhysicalBus β) (bus_state : β) : Except BusError Unit × Vector U8 length × Cache × β :=
  let access := cache.access address
  let entry := cache.entries[access.index]!
  if entry.valid ∧ entry.page_frame = access.page_frame then
    (.ok (), copy_word_fragment data entry.data access.offset, cache, bus_state)
  else
    let refill_base := cache.refill_base access.word_address
    match read_refill bus refill_base (cache.refill_bytes / WORD_BYTES) 0 bus_state with
    | (.error fault, bus_state) => (.error fault, data, cache, bus_state)
    | (.ok words, bus_state) =>
      let cache := install_refill refill_base words 0 cache
      (.ok (), copy_word_fragment data cache.entries[access.index]!.data access.offset, cache, bus_state)

/-- A write-through store. -/
def write (cache : Cache) (address : PhysAddr) (data : List U8) (partial_store_enabled : Bool)
    (bus : PhysicalBus β) (bus_state : β) : Except BusError Unit × Cache × β :=
  let access := cache.access address
  if data.length = WORD_BYTES then
    match bus.write bus_state address data with
    | (.error fault, bus_state) => (.error fault, cache, bus_state)
    | (.ok (), bus_state) =>
      let entry : CacheEntry :=
        { page_frame := access.page_frame, data := word_of_data data, valid := true }
      (.ok (), cache.set_entry access.index entry, bus_state)
  else
    let entry := cache.entries[access.index]!
    let hit := entry.valid ∧ entry.page_frame = access.page_frame
    if partial_store_enabled ∧ hit then
      let merged := merge_word_fragment entry.data access.offset data
      match bus.write bus_state ⟨access.word_address.toNat⟩ merged.toList with
      | (.error fault, bus_state) => (.error fault, cache, bus_state)
      | (.ok (), bus_state) =>
        (.ok (), cache.set_entry access.index { entry with data := merged }, bus_state)
    else
      match bus.write bus_state address data with
      | (.error fault, bus_state) => (.error fault, cache, bus_state)
      | (.ok (), bus_state) =>
        if partial_store_enabled then (.ok (), cache, bus_state)
        else (.ok (), cache.set_entry access.index { entry with valid := false }, bus_state)

/-- Reads the cache storage alone and reports whether the tag missed. -/
def read_isolated {length : Nat} (cache : Cache) (address : PhysAddr) (data : Vector U8 length) :
    Bool × Vector U8 length :=
  let access := cache.access address
  let entry := cache.entries[access.index]!
  (!(entry.valid && entry.page_frame == access.page_frame),
    copy_word_fragment data entry.data access.offset)

def write_isolated (cache : Cache) (address : PhysAddr) (data : List U8) : Cache :=
  let access := cache.access address
  if data.length = WORD_BYTES then
    cache.set_entry access.index
      { page_frame := access.page_frame, data := word_of_data data, valid := true }
  else
    cache.set_entry access.index { cache.entries[access.index]! with valid := false }

end Cache

inductive CacheBank where
  | Instruction
  | Data
deriving DecidableEq, Repr

structure Caches where
  instruction : Cache
  data : Cache
  partial_store_enabled : Bool
deriving DecidableEq

namespace Caches

def new (config : R3000Config) : Caches :=
  { instruction := .new config.instruction_cache_bytes config.instruction_refill_bytes
    data := .new config.data_cache_bytes config.data_refill_bytes
    partial_store_enabled := config.partial_store_enabled }

def cache_of (caches : Caches) : CacheBank → Cache
  | .Instruction => caches.instruction
  | .Data => caches.data

/-- Replaces one bank, as a mutation through `cache_mut` does. -/
def set_cache (caches : Caches) : CacheBank → Cache → Caches
  | .Instruction, cache => { caches with instruction := cache }
  | .Data, cache => { caches with data := cache }

variable {β : Type}

def read {length : Nat} (caches : Caches) (bank : CacheBank) (address : PhysAddr)
    (data : Vector U8 length) (bus : PhysicalBus β) (bus_state : β) :
    Except BusError Unit × Vector U8 length × Caches × β :=
  match (caches.cache_of bank).read address data bus bus_state with
  | (result, data, cache, bus_state) => (result, data, caches.set_cache bank cache, bus_state)

def write (caches : Caches) (bank : CacheBank) (address : PhysAddr) (data : List U8)
    (bus : PhysicalBus β) (bus_state : β) : Except BusError Unit × Caches × β :=
  match (caches.cache_of bank).write address data caches.partial_store_enabled bus bus_state with
  | (result, cache, bus_state) => (result, caches.set_cache bank cache, bus_state)

def read_isolated {length : Nat} (caches : Caches) (bank : CacheBank) (address : PhysAddr)
    (data : Vector U8 length) : Bool × Vector U8 length :=
  (caches.cache_of bank).read_isolated address data

def write_isolated (caches : Caches) (bank : CacheBank) (address : PhysAddr) (data : List U8) : Caches :=
  caches.set_cache bank ((caches.cache_of bank).write_isolated address data)

end Caches

end se_cpu.cache
