import SgiEmu.R3000.Mmu.Lookup
import SgiEmu.R3000.Mmu.WordOffset

open se_core se_core.bus

namespace se_cpu.mmu

/-- Both lookup caches agree with the view they serve. -/
structure Mmu.CachesSound (mmu : Mmu) : Prop where
  main : mmu.main_lookup_cache.Sound mmu.entries
  instruction : mmu.instruction_lookup_cache.Sound mmu.instruction_entries

namespace Mmu

theorem cachesSound_new : Mmu.new.CachesSound where
  main := TlbLookupCache.sound_new _
  instruction := TlbLookupCache.sound_new _

theorem cachesSound_clone (mmu : Mmu) : mmu.clone.CachesSound where
  main := TlbLookupCache.sound_new _
  instruction := TlbLookupCache.sound_new _

theorem CachesSound.reset {mmu : Mmu} (h : mmu.CachesSound) : mmu.reset.CachesSound where
  main := h.main.invalidate _
  instruction := h.instruction.invalidate _

/-- Moving a pending write into the instruction view invalidates the
instruction lookups; a boundary without one leaves view and lookups alone. -/
theorem CachesSound.advance_instruction_view_with {mmu : Mmu} (h : mmu.CachesSound)
    (new_write : Option PendingTlbWrite) :
    (mmu.advance_instruction_view_with new_write).CachesSound := by
  unfold Mmu.advance_instruction_view_with
  cases mmu.pending_instruction_writes.1 with
  | none => exact ⟨h.main, h.instruction⟩
  | some write => exact ⟨h.main, h.instruction.invalidate _⟩

theorem CachesSound.advance_instruction_view {mmu : Mmu} (h : mmu.CachesSound) :
    mmu.advance_instruction_view.CachesSound :=
  h.advance_instruction_view_with none

theorem CachesSound.complete_write {mmu : Mmu} (h : mmu.CachesSound) (index : Nat)
    (entry_hi entry_lo : U32) : (mmu.complete_write index entry_hi entry_lo).CachesSound := by
  apply CachesSound.advance_instruction_view_with
  exact ⟨h.main.invalidate _, h.instruction⟩

/-- A mapped translation answers what the linear scan of its view answers. -/
theorem CachesSound.translate_mapped {mmu : Mmu} (h : mmu.CachesSound) (virtual_address : U32)
    (asid : U8) (access : AccessType) :
    (mmu.translate_mapped virtual_address asid access).1 =
        mmu.translate_mapped_readonly virtual_address asid access ∧
      (mmu.translate_mapped virtual_address asid access).2.CachesSound := by
  have hpacked := packed_of_masks virtual_address (asid.setWidth 32 <<< 6)
  obtain ⟨hmain, hmainSound⟩ := h.main.resolve hpacked
  obtain ⟨hinstruction, hinstructionSound⟩ := h.instruction.resolve hpacked
  unfold Mmu.translate_mapped Mmu.translate_mapped_readonly
  cases access with
  | Instruction =>
    dsimp only [Mmu.view]
    exact ⟨by rw [hinstruction], h.main, hinstructionSound⟩
  | Load =>
    dsimp only [Mmu.view]
    exact ⟨by rw [hmain], hmainSound, h.instruction⟩
  | Store =>
    dsimp only [Mmu.view]
    exact ⟨by rw [hmain], hmainSound, h.instruction⟩

theorem CachesSound.translate {mmu : Mmu} (h : mmu.CachesSound) (virtual_address : U32) (asid : U8)
    (kernel_mode : Bool) (access : AccessType) :
    (mmu.translate virtual_address asid kernel_mode access).1 =
        mmu.translate_readonly virtual_address asid kernel_mode access ∧
      (mmu.translate virtual_address asid kernel_mode access).2.CachesSound := by
  have hmapped := h.translate_mapped virtual_address asid access
  unfold Mmu.translate Mmu.translate_readonly
  split
  · exact hmapped
  · split
    · exact ⟨rfl, h⟩
    · split
      · exact ⟨rfl, h⟩
      · split
        · exact ⟨rfl, h⟩
        · split
          · exact hmapped
          · exact ⟨rfl, h⟩

end Mmu

/-- Everything the processor does to its memory-management unit. -/
inductive MmuOperation where
  | complete_write (index : Nat) (entry_hi entry_lo : U32)
  | advance_instruction_view
  | reset
  | clone
  | translate (virtual_address : U32) (asid : U8) (kernel_mode : Bool) (access : AccessType)

namespace Mmu

def apply (mmu : Mmu) : MmuOperation → Mmu
  | .complete_write index entry_hi entry_lo => mmu.complete_write index entry_hi entry_lo
  | .advance_instruction_view => mmu.advance_instruction_view
  | .reset => mmu.reset
  | .clone => mmu.clone
  | .translate virtual_address asid kernel_mode access =>
    (mmu.translate virtual_address asid kernel_mode access).2

def run (mmu : Mmu) (operations : List MmuOperation) : Mmu :=
  operations.foldl apply mmu

theorem CachesSound.apply {mmu : Mmu} (h : mmu.CachesSound) (operation : MmuOperation) :
    (mmu.apply operation).CachesSound := by
  cases operation with
  | complete_write index entry_hi entry_lo => exact h.complete_write index entry_hi entry_lo
  | advance_instruction_view => exact h.advance_instruction_view
  | reset => exact h.reset
  | clone => exact cachesSound_clone mmu
  | translate virtual_address asid kernel_mode access =>
    exact (h.translate virtual_address asid kernel_mode access).2

theorem CachesSound.run {mmu : Mmu} (h : mmu.CachesSound) (operations : List MmuOperation) :
    (mmu.run operations).CachesSound :=
  List.foldlRecOn operations _ h fun _ hprevious operation _ => hprevious.apply operation

/-- After any operations on a new unit, a translation through the lookup
caches is the read-only translation, and neither cache serves a verdict that
its view of the translation buffer no longer gives. -/
theorem translate_refines_translate_readonly (operations : List MmuOperation) :
    (∀ virtual_address asid kernel_mode access,
      ((Mmu.new.run operations).translate virtual_address asid kernel_mode access).1 =
        (Mmu.new.run operations).translate_readonly virtual_address asid kernel_mode access) ∧
    (∀ address asid,
      let virtual_page := address &&& ENTRY_HI_VPN_MASK
      let asid := asid &&& ENTRY_HI_ASID_MASK
      ((Mmu.new.run operations).main_lookup_cache.resolve
          (Mmu.new.run operations).entries virtual_page asid).1 =
        match_entries (Mmu.new.run operations).entries virtual_page asid ∧
      ((Mmu.new.run operations).instruction_lookup_cache.resolve
          (Mmu.new.run operations).instruction_entries virtual_page asid).1 =
        match_entries (Mmu.new.run operations).instruction_entries virtual_page asid) := by
  have hsound := cachesSound_new.run operations
  refine ⟨fun virtual_address asid kernel_mode access => ?_, fun address asid => ?_⟩
  · exact (hsound.translate virtual_address asid kernel_mode access).1
  · have hpacked := packed_of_masks address asid
    exact ⟨(hsound.main.resolve hpacked).1, (hsound.instruction.resolve hpacked).1⟩

end Mmu

/-! ## The entry a scan selects -/

theorem match_entries_from_tag (entries : TlbEntries) (virtual_page asid : U32)
    (pending : List (TlbEntry × Nat)) (matching_index : Option Nat)
    (hpending : ∀ slot ∈ pending, entries[slot.2]! = slot.1)
    (hmatching : ∀ index ∈ matching_index, entries[index]!.tag_matches virtual_page asid = true) {index : Nat}
    (h : match_entries_from entries virtual_page asid pending matching_index = .Match index) :
    entries[index]!.tag_matches virtual_page asid = true := by
  induction pending generalizing matching_index with
  | nil =>
    cases matching_index with
    | none => cases h
    | some first =>
      obtain rfl := ProbeResult.Match.inj h
      exact hmatching first rfl
  | cons slot rest ih =>
    obtain ⟨hslot, hrest⟩ := List.forall_mem_cons.mp hpending
    unfold match_entries_from at h
    split at h
    · rename_i htag
      cases matching_index with
      | none =>
        refine ih (some slot.2) hrest (fun found hfound => ?_) h
        obtain rfl := Option.some.inj hfound
        rw [hslot, htag]
      | some first =>
        dsimp only at h
        split at h
        · cases h
        · exact ih (some first) hrest hmatching h
    · exact ih matching_index hrest hmatching h

theorem match_entries_tag {entries : TlbEntries} {virtual_page asid : U32} {index : Nat}
    (h : match_entries entries virtual_page asid = .Match index) :
    index < TLB_ENTRY_COUNT ∧ entries[index]!.tag_matches virtual_page asid = true := by
  have hrange := match_entries_inRange entries virtual_page asid
  rw [h] at hrange
  refine ⟨hrange, match_entries_from_tag entries virtual_page asid _ none (fun slot hslot => ?_) nofun h⟩
  obtain ⟨-, hindex, hentry⟩ := List.mem_zipIdx hslot
  have hlength := entries.length_toList
  rw [hentry]
  exact getElem!_pos entries slot.2 (by omega)

/-! ## The pages user code reaches -/

/-- An entry that opens its page to user code of an address space. -/
structure TlbEntry.Opens (entry : TlbEntry) (asid : U8) (access : AccessType) : Prop where
  user : entry.entry_hi.toNat < 2 ^ 31
  space : entry.entry_lo &&& ENTRY_LO_GLOBAL ≠ 0 ∨
    entry.entry_hi &&& ENTRY_HI_ASID_MASK = (asid.setWidth 32 <<< 6) &&& ENTRY_HI_ASID_MASK
  valid : entry.entry_lo &&& ENTRY_LO_VALID ≠ 0
  dirty : access = .Store → entry.entry_lo &&& ENTRY_LO_DIRTY ≠ 0

/-- The page frames a view of the translation buffer opens. -/
def Opened (entries : TlbEntries) (asid : U8) (access : AccessType) (frame : Nat) : Prop :=
  ∃ index < TLB_ENTRY_COUNT,
    entries[index]!.Opens asid access ∧ entries[index]!.entry_lo.toNat / 4096 = frame

theorem opens_of_tag {entry : TlbEntry} {virtual_address : U32} {asid : U8} {access : AccessType}
    (huser : virtual_address ≤ KUSEG_END)
    (htag : entry.tag_matches (virtual_address &&& ENTRY_HI_VPN_MASK)
      ((asid.setWidth 32 <<< 6) &&& ENTRY_HI_ASID_MASK) = true)
    (hvalid : entry.entry_lo &&& ENTRY_LO_VALID ≠ 0)
    (hdirty : access = .Store → entry.entry_lo &&& ENTRY_LO_DIRTY ≠ 0) : entry.Opens asid access := by
  simp only [TlbEntry.tag_matches, Bool.and_eq_true, Bool.or_eq_true, beq_iff_eq, bne_iff_ne, ne_eq] at htag
  obtain ⟨hpage, hspace⟩ := htag
  refine ⟨?_, hspace, hvalid, hdirty⟩
  have hentry := virtual_page_toNat entry.entry_hi
  rw [hpage, virtual_page_toNat] at hentry
  have hlow : virtual_address.toNat ≤ KUSEG_END.toNat := huser
  simp only [KUSEG_END, BitVec.toNat_ofNat] at hlow
  omega

/-- A translated user address lies in a page its view opens for the access. -/
theorem Mmu.CachesSound.translate_opened {mmu : Mmu} (h : mmu.CachesSound) {virtual_address : U32} {asid : U8}
    {access : AccessType} {translation : Translation}
    (htranslate : (mmu.translate virtual_address asid false access).1 = .ok translation) :
    Opened (mmu.view access) asid access (translation.address.get / 4096) := by
  rw [(h.translate virtual_address asid false access).1] at htranslate
  unfold Mmu.translate_readonly at htranslate
  split at htranslate
  · rename_i huser
    unfold Mmu.translate_mapped_readonly Mmu.finish_mapped_translation at htranslate
    dsimp only at htranslate
    split at htranslate
    · cases htranslate
    · cases htranslate
    · rename_i index hmatch
      obtain ⟨hindex, htag⟩ := match_entries_tag hmatch
      split at htranslate
      · cases htranslate
      · rename_i hvalid
        split at htranslate
        · cases htranslate
        · rename_i hdirty
          obtain rfl := Except.ok.inj htranslate
          have hphysical := physical_toNat (mmu.view access)[index]!.entry_lo virtual_address
          refine ⟨index, hindex, opens_of_tag huser htag hvalid fun hstore hclean => hdirty ⟨hstore, hclean⟩, ?_⟩
          dsimp only
          rw [hphysical]
          omega
  · simp only [Bool.false_eq_true, and_false, if_false] at htranslate
    split at htranslate <;> cases htranslate

end se_cpu.mmu
