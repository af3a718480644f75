import SgiEmu.Library.Mask
import SgiEmu.R3000.Mmu
import Mathlib.Tactic.SplitIfs

open se_core se_core.bus Library.Mask

namespace se_cpu.mmu

/-! ## Translations of the bytes of one word -/

theorem unmapped_toNat (virtual_address : U32) (cacheability : Cacheability) :
    (Mmu.unmapped virtual_address cacheability).address.get = virtual_address.toNat % 2 ^ 29 :=
  toNat_and_low (k := 29) rfl

theorem virtual_page_toNat (virtual_address : U32) :
    (virtual_address &&& ENTRY_HI_VPN_MASK).toNat = virtual_address.toNat - virtual_address.toNat % 4096 := by
  have hmask : ENTRY_HI_VPN_MASK = ~~~0xfff#32 := by decide
  rw [hmask]
  exact toNat_and_not_low (k := 12) rfl

/-- A mapped address is a page frame and the offset in the page. -/
theorem physical_toNat (entry_lo virtual_address : U32) :
    ((entry_lo &&& ENTRY_LO_PFN_MASK) ||| (virtual_address &&& ~~~ENTRY_HI_VPN_MASK)).toNat =
      entry_lo.toNat - entry_lo.toNat % 4096 + virtual_address.toNat % 4096 := by
  have hframe : (entry_lo &&& ENTRY_LO_PFN_MASK).toNat = entry_lo.toNat - entry_lo.toNat % 4096 :=
    virtual_page_toNat entry_lo
  have hoffset : (virtual_address &&& ~~~ENTRY_HI_VPN_MASK).toNat = virtual_address.toNat % 4096 :=
    toNat_and_low (k := 12) rfl
  have hdisjoint : (entry_lo &&& ENTRY_LO_PFN_MASK) &&& (virtual_address &&& ~~~ENTRY_HI_VPN_MASK) = 0#32 := by
    have hmasks : ENTRY_LO_PFN_MASK &&& ~~~ENTRY_HI_VPN_MASK = 0#32 := by decide
    calc (entry_lo &&& ENTRY_LO_PFN_MASK) &&& (virtual_address &&& ~~~ENTRY_HI_VPN_MASK)
        = (entry_lo &&& virtual_address) &&& (ENTRY_LO_PFN_MASK &&& ~~~ENTRY_HI_VPN_MASK) := by
          ac_rfl
      _ = 0#32 := by rw [hmasks, BitVec.and_zero]
  have hentry := entry_lo.isLt
  rw [← BitVec.add_eq_or_of_and_eq_zero _ _ hdisjoint, BitVec.toNat_add, hframe, hoffset]
  omega

/-- The physical address of another byte of the word an address translates in. -/
def Translation.byte_at (translation : Translation) (virtual_address other : U32) : Translation :=
  { translation with
    address := ⟨translation.address.get - virtual_address.toNat % 4 + other.toNat % 4⟩ }

/-- A translated address keeps its offset in the word and fits 32 bits. -/
structure Translation.Placed (translation : Translation) (virtual_address : U32) : Prop where
  fits : translation.address.get ≤ 0xffffffff
  offset : translation.address.get % 4 = virtual_address.toNat % 4

theorem unmapped_word {virtual_address other : U32} (hword : other.toNat / 4 = virtual_address.toNat / 4)
    (cacheability : Cacheability) :
    (Mmu.unmapped virtual_address cacheability).Placed virtual_address ∧
      Mmu.unmapped other cacheability =
        (Mmu.unmapped virtual_address cacheability).byte_at virtual_address other := by
  have haddress := unmapped_toNat virtual_address cacheability
  have hother := unmapped_toNat other cacheability
  refine ⟨⟨?_, ?_⟩, ?_⟩
  · rw [haddress]
    omega
  · rw [haddress]
    omega
  · have hget : (Mmu.unmapped other cacheability).address.get =
        (Mmu.unmapped virtual_address cacheability).address.get - virtual_address.toNat % 4 +
          other.toNat % 4 := by
      rw [haddress, hother]
      omega
    unfold Translation.byte_at
    rw [← hget]
    rfl

/-- Every byte of a word finds the same entry, and lies where the entry says. -/
theorem finish_mapped_translation_word {virtual_address other : U32}
    (hword : other.toNat / 4 = virtual_address.toNat / 4) (entries : TlbEntries) (access : AccessType)
    (result : ProbeResult) {translation : Translation}
    (h : Mmu.finish_mapped_translation entries virtual_address access result = .ok translation) :
    translation.Placed virtual_address ∧
      Mmu.finish_mapped_translation entries other access result =
        .ok (translation.byte_at virtual_address other) := by
  unfold Mmu.finish_mapped_translation at h ⊢
  cases result with
  | Miss => cases h
  | Shutdown => cases h
  | Match index =>
    dsimp only at h ⊢
    split at h
    · cases h
    · rename_i hvalid
      rw [if_neg hvalid]
      split at h
      · cases h
      · rename_i hdirty
        rw [if_neg hdirty]
        obtain rfl := Except.ok.inj h
        have haddress := physical_toNat entries[index]!.entry_lo virtual_address
        have hother := physical_toNat entries[index]!.entry_lo other
        have hentry := entries[index]!.entry_lo.isLt
        refine ⟨⟨?_, ?_⟩, ?_⟩
        · show BitVec.toNat _ ≤ _
          rw [haddress]
          omega
        · show BitVec.toNat _ % 4 = _
          rw [haddress]
          omega
        · unfold Translation.byte_at
          simp only [haddress, hother, Except.ok.injEq, Translation.mk.injEq, PhysAddr.mk.injEq, and_true]
          omega

namespace Mmu

theorem translate_mapped_word {virtual_address other : U32}
    (hword : other.toNat / 4 = virtual_address.toNat / 4) (mmu : Mmu) (asid : U8) (access : AccessType)
    {translation : Translation} (h : (mmu.translate_mapped virtual_address asid access).1 = .ok translation) :
    translation.Placed virtual_address ∧
      (mmu.translate_mapped other asid access).1 = .ok (translation.byte_at virtual_address other) := by
  have hpage : other &&& ENTRY_HI_VPN_MASK = virtual_address &&& ENTRY_HI_VPN_MASK := by
    refine BitVec.eq_of_toNat_eq ?_
    rw [virtual_page_toNat, virtual_page_toNat]
    omega
  unfold translate_mapped at h ⊢
  rw [hpage]
  cases access <;> exact finish_mapped_translation_word hword _ _ _ h

/-- Every byte of a word translates when one does, to the byte of the same
physical word. -/
theorem translate_word {virtual_address other : U32}
    (hword : other.toNat / 4 = virtual_address.toNat / 4) (mmu : Mmu) (asid : U8) (kernel_mode : Bool)
    (access : AccessType) {translation : Translation}
    (h : (mmu.translate virtual_address asid kernel_mode access).1 = .ok translation) :
    translation.Placed virtual_address ∧
      (mmu.translate other asid kernel_mode access).1 = .ok (translation.byte_at virtual_address other) := by
  have hsegment : ∀ boundary : U32, boundary.toNat % 4 = 3 →
      (other ≤ boundary ↔ virtual_address ≤ boundary) := by
    intro boundary hboundary
    rw [BitVec.le_def, BitVec.le_def]
    omega
  have hstart : ∀ boundary : U32, boundary.toNat % 4 = 0 →
      (boundary ≤ other ↔ boundary ≤ virtual_address) := by
    intro boundary hboundary
    rw [BitVec.le_def, BitVec.le_def]
    omega
  have hmapped : (mmu.translate_mapped virtual_address asid access).1 = .ok translation → _ :=
    mmu.translate_mapped_word hword asid access
  have hunmapped : ∀ cacheability, (.ok (unmapped virtual_address cacheability) :
      Except TranslationFault Translation) = .ok translation →
        translation.Placed virtual_address ∧ (.ok (unmapped other cacheability) :
          Except TranslationFault Translation) = .ok (translation.byte_at virtual_address other) := by
    intro cacheability htranslation
    obtain rfl := Except.ok.inj htranslation
    obtain ⟨hplaced, hother⟩ := unmapped_word hword cacheability
    exact ⟨hplaced, congrArg Except.ok hother⟩
  unfold translate at h ⊢
  simp only [hsegment KUSEG_END rfl, hsegment KSEG0_END rfl, hsegment KSEG1_END rfl,
    hstart KSEG0_START rfl, hstart KSEG1_START rfl]
  split_ifs at h ⊢ with hkuseg hkseg0 hkseg1 hprivileged hkernel
  · exact hmapped h
  · exact hunmapped .Cached h
  · exact hunmapped .Uncached h
  · exact hmapped h

end Mmu

end se_cpu.mmu
