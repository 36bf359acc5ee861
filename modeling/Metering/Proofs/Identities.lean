import Metering.Proofs.Gathering

/-!
# Rows by identity

The rows of all entities come in one list, and gathering sorts them out by the identity
of the entity. What is gathered for an identity comes from its own rows, in the order of
the list: neither the instants of the samples nor what the snapshots are called play a
part, nor do the rows of other identities that stand in between.

* `Row.Interleaved`: the same rows of every identity, perhaps interleaved in another way;
* `getElem?_gather_congr`: the rows of an identity tell what is gathered for it;
* `gather_withoutIdentity`: without the rows of an identity, only its observation is missing;
* `gather_by_identity`: the map that rows are gathered to.
-/

namespace Metering

namespace Row

/-- The rows of each identity are the same in both lists, in the same order. -/
def Interleaved (rows rows' : List Row) : Prop := ∀ x, withIdentity x rows = withIdentity x rows'

/-- The rows of the identities other than `x`, in their order. -/
def withoutIdentity (x : String) (rows : List Row) : List Row :=
  rows.filter (·.entity.identity ≠ x)

variable {x y : String} {rows : List Row}

theorem withIdentity_withIdentity (x : String) (rows : List Row) :
    withIdentity x (withIdentity x rows) = withIdentity x rows :=
  withIdentity_filter (· = x) (decide_eq_true rfl) rows

theorem withIdentity_withoutIdentity_self (x : String) (rows : List Row) :
    withIdentity x (withoutIdentity x rows) = [] := by
  refine List.eq_nil_iff_forall_not_mem.2 fun row hrow => ?_
  obtain ⟨hmem, hx⟩ := mem_withIdentity.1 hrow
  exact of_decide_eq_true (List.mem_filter.1 hmem).2 hx

theorem withIdentity_withoutIdentity_of_ne (h : y ≠ x) :
    withIdentity y (withoutIdentity x rows) = withIdentity y rows :=
  withIdentity_filter (· ≠ x) (decide_eq_true h) rows

end Row

namespace Observation

variable {rows rows' : List Row} {p : Period} {x : String}

/-- The rows of an identity tell what is gathered for it. -/
theorem getElem?_gather_congr (h : Row.withIdentity x rows = Row.withIdentity x rows')
    (p : Period) : (gather rows p)[x]? = (gather rows' p)[x]? := by
  rw [getElem?_gather_eq_foldl, getElem?_gather_eq_foldl, h]

theorem mem_gather : x ∈ gather rows p ↔ x ∈ rows.map (·.entity.identity) := by
  rw [Std.ExtTreeMap.mem_iff_isSome_getElem?, Option.isSome_iff_exists, List.mem_map]
  constructor
  · rintro ⟨o, ho⟩
    obtain ⟨first, -, hfirst, -, -⟩ := getElem?_gather.1 ho
    exact ⟨first, Row.mem_withIdentity.1 (List.mem_of_head? hfirst)⟩
  · rintro ⟨row, hrow, rfl⟩
    exact exists_getElem?_gather hrow p

/-- Without the rows of an identity, its observation is missing and no other one. -/
theorem gather_withoutIdentity (x : String) (rows : List Row) (p : Period) :
    gather (Row.withoutIdentity x rows) p = (gather rows p).erase x := by
  refine Std.ExtTreeMap.ext_getElem? fun y => ?_
  rw [Std.ExtTreeMap.getElem?_erase]
  split
  · next h =>
    obtain rfl := Std.LawfulEqOrd.eq_of_compare h
    rw [getElem?_gather_eq_foldl, Row.withIdentity_withoutIdentity_self, List.foldl_nil]
  · next h =>
    have hne : y ≠ x := fun heq => h (heq ▸ Std.ReflOrd.compare_self)
    exact getElem?_gather_congr (Row.withIdentity_withoutIdentity_of_ne hne) p

/-- Rows in any order are gathered by identity alone. There is an observation for each
    identity that occurs and for no other name. It has the entity and the sample of the
    first row of its identity in the list, the sample of the last row as its last one, and
    the period that was given. Other identities have no part in it: it is the same when
    its rows are gathered alone, and the whole map is the same for the rows in any other
    interleaving that keeps the rows of each identity in order. -/
theorem gather_by_identity (rows : List Row) (p : Period) :
    (gather rows p).keys.Perm (rows.map (·.entity.identity)).dedup ∧
    (∀ x first last, (Row.withIdentity x rows).head? = some first →
      (Row.withIdentity x rows).getLast? = some last →
      (gather rows p)[x]? = some ⟨first.entity, first.snapshot, last.snapshot, p⟩) ∧
    (∀ x row, Row.withIdentity x rows = [row] →
      (gather rows p)[x]? = some ⟨row.entity, row.snapshot, row.snapshot, p⟩) ∧
    (∀ x, (gather rows p)[x]? = (gather (Row.withIdentity x rows) p)[x]?) ∧
    ∀ rows', Row.Interleaved rows rows' → gather rows' p = gather rows p := by
  have hgather : ∀ x first last, (Row.withIdentity x rows).head? = some first →
      (Row.withIdentity x rows).getLast? = some last →
      (gather rows p)[x]? = some ⟨first.entity, first.snapshot, last.snapshot, p⟩ :=
    fun x first last hfirst hlast => getElem?_gather.2 ⟨first, last, hfirst, hlast, rfl⟩
  refine ⟨keys_perm_dedup fun _ => mem_gather, hgather, fun x row hsingle => ?_, fun x => ?_,
    fun rows' hrows => Std.ExtTreeMap.ext_getElem? fun x => ?_⟩
  · exact hgather x row row (congrArg List.head? hsingle) (congrArg List.getLast? hsingle)
  · exact getElem?_gather_congr (Row.withIdentity_withIdentity x rows).symm p
  · exact getElem?_gather_congr (hrows x).symm p

/-- Two rows of one identity, under other attributes and later samples first, with a row of
    another identity between them or before them. Each snapshot bears the name of the other
    identity, and the period ends before it begins. -/
theorem gather_by_identity_in_between :
    let entity : String → String → Entity := fun x kind =>
      ⟨x, "vm", kind, "owner", "account", "cluster", "zone"⟩
    let p : Period := ⟨20, 10⟩
    let a : Row := ⟨entity "a" "small", ⟨"b", 50, 7, 0⟩⟩
    let b : Row := ⟨entity "b" "small", ⟨"a", 40, 1, 1⟩⟩
    let a' : Row := ⟨entity "a" "large", ⟨"b", 30, 9, 1⟩⟩
    Row.Interleaved [a, b, a'] [b, a, a'] ∧
      (gather [a, b, a'] p).keys.Perm ["b", "a"] ∧
      (gather [a, b, a'] p)["a"]? = some ⟨a.entity, a.snapshot, a'.snapshot, p⟩ ∧
      (gather [a, b, a'] p)["b"]? = some ⟨b.entity, b.snapshot, b.snapshot, p⟩ ∧
      gather [b, a, a'] p = gather [a, b, a'] p := by
  intro entity p a b a'
  have interleaved : Row.Interleaved [a, b, a'] [b, a, a'] := by
    intro x
    by_cases ha : a.entity.identity = x
    · have hb : b.entity.identity ≠ x := ha ▸ by decide
      rw [Row.withIdentity_cons_of_eq _ ha, Row.withIdentity_cons_of_ne _ hb,
        Row.withIdentity_cons_of_ne _ hb, Row.withIdentity_cons_of_eq _ ha]
    · rw [Row.withIdentity_cons_of_ne _ ha]
      by_cases hb : b.entity.identity = x
      · rw [Row.withIdentity_cons_of_eq _ hb, Row.withIdentity_cons_of_eq _ hb,
          Row.withIdentity_cons_of_ne _ ha]
      · rw [Row.withIdentity_cons_of_ne _ hb, Row.withIdentity_cons_of_ne _ hb,
          Row.withIdentity_cons_of_ne _ ha]
  obtain ⟨hkeys, hgather, hsingle, -, hsame⟩ := gather_by_identity [a, b, a'] p
  exact ⟨interleaved, hkeys.trans (by decide), hgather "a" a a' (by decide) (by decide),
    hsingle "b" b (by decide), hsame _ interleaved⟩

end Observation

end Metering
