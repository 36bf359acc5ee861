import Mathlib.Data.List.Dedup
import Std.Data.DTreeMap.Internal.WF.Lemmas
import Std.Data.ExtTreeMap

/-!
# Maps by their look-ups

Reports, and what is gathered for them, are maps that are changed at one key after
the other. What such a map is follows from what it has at every key; this is also
how its lists of entries, keys and values are known, up to their order.

* `getElem?_alter_of_ne`, `mem_alter_some`, `alter_right_comm`: changes at a key;
* `eq_of_mem_iff_of_getD`: maps with the same keys and values are equal;
* `mem_values_iff`, `keys_perm_dedup`: the members of a map's lists;
* `toList_perm_cons_erase`, `values_perm_cons_erase`: an entry, and what a map is without it.
-/

namespace Metering

variable {α β : Type} {cmp : α → α → Ordering} [Std.TransCmp cmp]

/-! ### Changes at a key -/

section Alter

variable [Std.LawfulEqCmp cmp] {m : Std.ExtTreeMap α β cmp} {k j : α} {f : Option β → Option β}

/-- A change at one key of a map is none at the others. -/
theorem getElem?_alter_of_ne (h : j ≠ k) : (m.alter k f)[j]? = m[j]? := by
  rw [Std.ExtTreeMap.getElem?_alter, if_neg]
  exact fun heq => h (Std.LawfulEqCmp.eq_of_compare heq).symm

/-- A key is in a map once a value was put there, and if it was there before. -/
theorem mem_alter_some {f : Option β → β} :
    j ∈ m.alter k (fun v => some (f v)) ↔ k = j ∨ j ∈ m := by
  rw [Std.ExtTreeMap.mem_alter]
  by_cases h : cmp k j = .eq
  · rw [if_pos h, Option.isSome_some]
    exact iff_of_true rfl (.inl (Std.LawfulEqCmp.eq_of_compare h))
  · have hne : k ≠ j := fun heq => h (heq ▸ Std.ReflCmp.compare_self)
    rw [if_neg h, or_iff_right hne]

/-- Changes at two keys of a map, or two that commute at one key, are made in any order. -/
theorem alter_right_comm (m : Std.ExtTreeMap α β cmp) {g : Option β → Option β}
    (h : k = j → ∀ v, g (f v) = f (g v)) :
    (m.alter k f).alter j g = (m.alter j g).alter k f := by
  refine Std.ExtTreeMap.ext_getElem? fun x => ?_
  simp only [Std.ExtTreeMap.getElem?_alter]
  by_cases hk : cmp k x = .eq
  · obtain rfl := Std.LawfulEqCmp.eq_of_compare hk
    by_cases hj : cmp j k = .eq
    · obtain rfl := Std.LawfulEqCmp.eq_of_compare hj
      rw [if_pos hk, if_pos hk, if_pos hk, h rfl, if_pos hk]
    · rw [if_neg hj, if_pos hk, if_pos hk, if_neg hj]
  · by_cases hj : cmp j x = .eq
    · obtain rfl := Std.LawfulEqCmp.eq_of_compare hj
      rw [if_pos hj, if_neg hk, if_neg hk, if_pos hj]
    · rw [if_neg hj, if_neg hk, if_neg hk, if_neg hj]

/-- Maps with the same keys and the same values at them are equal. -/
theorem eq_of_mem_iff_of_getD {m m' : Std.ExtTreeMap α β cmp} {b : β}
    (hmem : ∀ k, k ∈ m ↔ k ∈ m') (h : ∀ k : α, m[k]?.getD b = m'[k]?.getD b) : m = m' := by
  refine Std.ExtTreeMap.ext_getElem? fun k => ?_
  have hk := hmem k
  have hv := h k
  rw [Std.ExtTreeMap.mem_iff_isSome_getElem?, Std.ExtTreeMap.mem_iff_isSome_getElem?] at hk
  generalize m[k]? = v at hk hv
  generalize m'[k]? = v' at hk hv
  cases v with
  | none =>
    cases v' with
    | none => rfl
    | some _ => cases hk.2 rfl
  | some _ =>
    cases v' with
    | none => cases hk.1 rfl
    | some _ => exact congrArg some hv

end Alter

/-! ### The lists of a map -/

/-- The values of a map are those of its entries. -/
theorem values_eq_map_toList (m : Std.ExtTreeMap α β cmp) : m.values = m.toList.map (·.2) := by
  obtain ⟨⟨entries⟩⟩ := m
  induction entries using Quotient.ind with | _ entries
  obtain ⟨tree, wellFormed⟩ := entries
  show tree.values = (Std.DTreeMap.Internal.Impl.Const.toList tree).map (·.2)
  rw [Std.DTreeMap.Internal.Impl.values_eq_map_snd,
    Std.DTreeMap.Internal.Impl.Const.toList_eq_toListModel_map, List.map_map]
  rfl

theorem nodup_toList (m : Std.ExtTreeMap α β cmp) : m.toList.Nodup := by
  refine .of_map Prod.fst ?_
  rw [Std.ExtTreeMap.map_fst_toList_eq_keys]
  exact Std.ExtTreeMap.nodup_keys

variable [Std.LawfulEqCmp cmp] {m : Std.ExtTreeMap α β cmp} {k : α}

theorem mem_values_iff {v : β} : v ∈ m.values ↔ ∃ k : α, m[k]? = some v := by
  rw [values_eq_map_toList, List.mem_map]
  constructor
  · rintro ⟨⟨k, v⟩, hmem, rfl⟩
    exact ⟨k, Std.ExtTreeMap.mem_toList_iff_getElem?_eq_some.1 hmem⟩
  · rintro ⟨k, hk⟩
    exact ⟨(k, v), Std.ExtTreeMap.mem_toList_iff_getElem?_eq_some.2 hk, rfl⟩

/-- A map whose keys are the members of a list has each of them once. -/
theorem keys_perm_dedup [DecidableEq α] {l : List α} (h : ∀ k, k ∈ m ↔ k ∈ l) :
    m.keys.Perm l.dedup := by
  refine (List.perm_ext_iff_of_nodup Std.ExtTreeMap.nodup_keys l.nodup_dedup).2 fun k => ?_
  rw [Std.ExtTreeMap.mem_keys, h, List.mem_dedup]

theorem size_eq_length_dedup [DecidableEq α] {l : List α} (h : ∀ k, k ∈ m ↔ k ∈ l) :
    m.size = l.dedup.length := by
  rw [← Std.ExtTreeMap.length_keys]
  exact (keys_perm_dedup h).length_eq

/-- A map has the entry at a key that it has, and those at other keys. -/
theorem toList_perm_cons_erase {v : β} (h : m[k]? = some v) :
    m.toList.Perm ((k, v) :: (m.erase k).toList) := by
  have herased : (k, v) ∉ (m.erase k).toList := by
    rw [Std.ExtTreeMap.mem_toList_iff_getElem?_eq_some, Std.ExtTreeMap.getElem?_erase_self]
    exact nofun
  have hnodup := (nodup_toList (m.erase k)).cons herased
  refine (List.perm_ext_iff_of_nodup (nodup_toList m) hnodup).2 fun ⟨j, w⟩ => ?_
  rw [List.mem_cons, Std.ExtTreeMap.mem_toList_iff_getElem?_eq_some,
    Std.ExtTreeMap.mem_toList_iff_getElem?_eq_some, Std.ExtTreeMap.getElem?_erase, Prod.mk.injEq]
  by_cases hj : cmp k j = .eq
  · obtain rfl := Std.LawfulEqCmp.eq_of_compare hj
    rw [if_pos hj, h, Option.some.injEq]
    simp [eq_comm]
  · have hne : j ≠ k := fun heq => hj (heq ▸ Std.ReflCmp.compare_self)
    simp [hj, hne]

theorem values_perm_cons_erase {v : β} (h : m[k]? = some v) :
    m.values.Perm (v :: (m.erase k).values) := by
  rw [values_eq_map_toList, values_eq_map_toList]
  exact (toList_perm_cons_erase h).map _

/-- Nothing is erased at a key that has no value. -/
theorem erase_of_getElem?_eq_none (h : m[k]? = none) : m.erase k = m := by
  refine Std.ExtTreeMap.ext_getElem? fun j => ?_
  rw [Std.ExtTreeMap.getElem?_erase]
  split
  · next hj => rw [← Std.LawfulEqCmp.eq_of_compare hj, h]
  · rfl

end Metering
