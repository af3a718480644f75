import Mathlib.Tactic.Common

namespace se_core

/-- An ordered map; two maps with the same entries are equal. -/
abbrev BTreeMap (κ ν : Type) [Ord κ] : Type := Std.ExtTreeMap κ ν compare

namespace BTreeMap

variable {κ ν : Type} [Ord κ] [Std.TransOrd κ] [Std.LawfulEqOrd κ] {map : BTreeMap κ ν}

/-- Looking up distinct keys among which are those of a map finds its entries. -/
theorem lookups_perm {keys : List κ} (hkeys : keys.Nodup) (hall : ∀ key value, map[key]? = some value → key ∈ keys) :
    (keys.filterMap fun key => map[key]?.map (Prod.mk key)).Perm map.toList := by
  refine (List.perm_ext_iff_of_nodup ?_ ?_).mpr ?_
  · refine List.pairwise_filterMap.mpr (hkeys.imp ?_)
    rintro first second hne _ hfirst _ hsecond rfl
    obtain ⟨_, _, rfl⟩ := Option.map_eq_some_iff.mp hfirst
    obtain ⟨_, _, heq⟩ := Option.map_eq_some_iff.mp hsecond
    exact hne (congrArg Prod.fst heq).symm
  · refine Std.ExtTreeMap.distinct_keys_toList.imp ?_
    rintro first second hne rfl
    exact hne Std.ReflCmp.compare_self
  · rintro ⟨key, value⟩
    rw [List.mem_filterMap, Std.ExtTreeMap.mem_toList_iff_getElem?_eq_some]
    constructor
    · rintro ⟨found, _, hfound⟩
      obtain ⟨stored, hstored, heq⟩ := Option.map_eq_some_iff.mp hfound
      cases heq
      exact hstored
    · intro hvalue
      exact ⟨key, hall key value hvalue, by rw [hvalue, Option.map_some]⟩

variable [DecidableEq κ]

/-- A map made of entries with distinct keys has these entries. -/
theorem getElem?_ofList {entries : List (κ × ν)} (hkeys : (entries.map Prod.fst).Nodup) {key : κ} {value : ν} :
    (Std.ExtTreeMap.ofList entries compare)[key]? = some value ↔ (key, value) ∈ entries := by
  have hdistinct : entries.Pairwise fun a b => ¬compare a.1 b.1 = .eq := by
    refine (List.pairwise_map.mp hkeys).imp ?_
    intro a b hne heq
    exact hne (Std.LawfulEqCmp.eq_of_compare heq)
  constructor
  · intro hvalue
    by_cases hmem : key ∈ entries.map Prod.fst
    · obtain ⟨⟨found, stored⟩, hentry, rfl⟩ := List.mem_map.mp hmem
      have hstored := Std.ExtTreeMap.getElem?_ofList_of_mem Std.ReflCmp.compare_self hdistinct hentry
      rw [hstored] at hvalue
      cases hvalue
      exact hentry
    · have hnone : (Std.ExtTreeMap.ofList entries compare)[key]? = none := by
        refine Std.ExtTreeMap.getElem?_ofList_of_contains_eq_false ?_
        rw [List.contains_eq_mem, decide_eq_false_iff_not]
        exact hmem
      rw [hnone] at hvalue
      cases hvalue
  · intro hentry
    exact Std.ExtTreeMap.getElem?_ofList_of_mem Std.ReflCmp.compare_self hdistinct hentry

end BTreeMap

end se_core
