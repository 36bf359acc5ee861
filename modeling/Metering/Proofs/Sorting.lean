import Metering.Entity

/-!
# Rows in reading order

Rows are read by identity and, within an identity, by instant. Several rows may
be at one *place*, the same identity and instant; sorting leaves these in the
order in which they came, and that order is all it leaves of the given one.

* `filter_mergeSort`, `pairwise_mergeSort_of_pairwise`: what stability says of any order;
* `pairwise_sort`, `sort_perm`: the sorted rows are in reading order, and are the given ones;
* `filter_sort`: the rows at one place keep their order;
* `Sorted.eq_of_filter_eq`: rows in reading order are determined by the rows at every place;
* `sort_filter`: choosing rows and sorting them commute;
* `Rearranged.sort_eq`: rows that differ in their interleaving only are sorted to the same list.
-/

namespace Metering

/-! ### Sorting is stable -/

section Stable

variable {α : Type} {le : α → α → Bool} (trans : ∀ a b c, le a b → le b c → le a c)
  (total : ∀ a b, (le a b || le b a) = true)

include trans total

/-- Sorting leaves elements that come before one another as they were. -/
theorem filter_mergeSort {p : α → Bool} (h : ∀ a b, p a → p b → le a b) (l : List α) :
    (l.mergeSort le).filter p = l.filter p := by
  -- These elements are in order already, so they stay a sublist.
  have hsorted : (l.filter p).Pairwise fun a b => le a b :=
    List.pairwise_of_forall_mem_list fun a ha b hb =>
      h a b (List.mem_filter.1 ha).2 (List.mem_filter.1 hb).2
  have hsub : (l.filter p).Sublist (l.mergeSort le) :=
    List.sublist_mergeSort trans total hsorted List.filter_sublist
  have hsub := hsub.filter p
  simp only [List.filter_filter, Bool.and_self] at hsub
  exact (hsub.eq_of_length ((List.mergeSort_perm l le).filter p).length_eq.symm).symm

/-- What holds between the elements of a list in their order holds, after sorting,
    between those that come before one another. -/
theorem pairwise_mergeSort_of_pairwise {r : α → α → Prop} {l : List α} (h : l.Pairwise r) :
    (l.mergeSort le).Pairwise fun a b => le a b ∧ (le b a → r a b) := by
  refine List.pairwise_iff_forall_sublist.2 fun {a b} hab => ?_
  have hle := List.pairwise_iff_forall_sublist.1 (List.pairwise_mergeSort trans total l) hab
  refine ⟨hle, fun hge => ?_⟩
  -- Both are among the elements that are as far in the order as the first one.
  have hself : le a a = true := by simpa using total a a
  have hsame := hab.filter fun x => le a x && le x a
  rw [filter_mergeSort trans total fun x y hx hy => ?_] at hsame
  · simp only [List.filter_cons, hle, hge, hself, Bool.and_self, if_true, List.filter_nil] at hsame
    exact List.pairwise_iff_forall_sublist.1 h (hsame.trans List.filter_sublist)
  · rw [Bool.and_eq_true] at hx hy
    exact trans x a y hx.2 hy.1

end Stable

namespace Row

/-! ### The order -/

instance : Std.TransCmp order := inferInstanceAs (Std.TransCmp (compareLex _ _))

/-- The row is at the place of the identity `x` and the instant `t`. -/
def At (x : String) (t : Int64) (row : Row) : Prop :=
  row.entity.identity = x ∧ row.snapshot.timestampMs = t

instance (x : String) (t : Int64) (row : Row) : Decidable (row.At x t) :=
  inferInstanceAs (Decidable (_ ∧ _))

theorem at_self (row : Row) : row.At row.entity.identity row.snapshot.timestampMs := ⟨rfl, rfl⟩

theorem filter_at_self (row : Row) :
    [row].filter (·.At row.entity.identity row.snapshot.timestampMs) = [row] := by
  simp only [List.filter_cons, row.at_self, decide_true, if_true, List.filter_nil]

/-- Rows are equal in the order when they are at one place. -/
theorem order_eq_iff {a b : Row} :
    order a b = .eq ↔ a.At b.entity.identity b.snapshot.timestampMs := by
  simp only [order, compareLex, compareOn, Ordering.then_eq_eq, Std.LawfulEqOrd.compare_eq_iff_eq,
    At]

/-- Rows of one identity are ordered by their instants. -/
theorem isLE_order_iff {a b : Row} (h : a.entity.identity = b.entity.identity) :
    (order a b).isLE ↔ a.snapshot.timestampMs ≤ b.snapshot.timestampMs := by
  have heq : compareOn (·.entity.identity) a b = .eq := by
    rw [compareOn, h, Std.ReflOrd.compare_self]
  rw [order, compareLex, heq, Ordering.then, compareOn, Std.isLE_compare]

/-- A row that comes before another has the smaller identity, or the earlier instant. -/
theorem lt_or_eq_of_isLE {a b : Row} (h : (order a b).isLE) :
    a.entity.identity < b.entity.identity ∨ a.entity.identity = b.entity.identity ∧
      a.snapshot.timestampMs ≤ b.snapshot.timestampMs := by
  cases hid : compare a.entity.identity b.entity.identity with
  | lt => exact .inl (compareOfLessAndEq_eq_lt.1 hid)
  | eq =>
    have heq := Std.LawfulEqOrd.eq_of_compare hid
    exact .inr ⟨heq, (isLE_order_iff heq).1 h⟩
  | gt =>
    rw [order, compareLex, compareOn, hid] at h
    cases h

theorem isLE_order_trans (a b c : Row) (hab : (order a b).isLE) (hbc : (order b c).isLE) :
    (order a c).isLE :=
  Std.TransCmp.isLE_trans hab hbc

theorem isLE_order_total (a b : Row) : ((order a b).isLE || (order b a).isLE) = true := by
  have hswap : order a b = (order b a).swap := Std.OrientedCmp.eq_swap
  rw [hswap]
  cases order b a <;> rfl

/-- Rows that are before one another are at one place. -/
theorem at_of_isLE {a b : Row} (hab : (order a b).isLE) (hba : (order b a).isLE) :
    a.At b.entity.identity b.snapshot.timestampMs :=
  order_eq_iff.1 (Std.OrientedCmp.isLE_antisymm hab hba)

/-! ### Sorting -/

/-- A list of rows in reading order. -/
def Sorted (rows : List Row) : Prop := rows.Pairwise fun a b => (order a b).isLE

theorem pairwise_sort (rows : List Row) : Sorted (sort rows) :=
  List.pairwise_mergeSort isLE_order_trans isLE_order_total rows

theorem sort_perm (rows : List Row) : (sort rows).Perm rows := List.mergeSort_perm rows _

/-- Sorting is stable: the rows at one place keep their order. -/
theorem filter_sort (rows : List Row) (x : String) (t : Int64) :
    (sort rows).filter (·.At x t) = rows.filter (·.At x t) := by
  refine filter_mergeSort isLE_order_trans isLE_order_total (fun a b ha hb => ?_) rows
  have ha : a.At x t := of_decide_eq_true ha
  have hb : b.At x t := of_decide_eq_true hb
  have heq : order a b = .eq := order_eq_iff.2 ⟨ha.1.trans hb.1.symm, ha.2.trans hb.2.symm⟩
  rw [heq]
  rfl

/-- Lists with the same rows at every place have the same rows. -/
theorem mem_of_filter_eq {l₁ l₂ : List Row}
    (h : ∀ x t, l₁.filter (·.At x t) = l₂.filter (·.At x t)) {row : Row} (hrow : row ∈ l₁) :
    row ∈ l₂ := by
  have hmem : row ∈ l₁.filter (·.At row.entity.identity row.snapshot.timestampMs) :=
    List.mem_filter.2 ⟨hrow, decide_eq_true row.at_self⟩
  rw [h] at hmem
  exact (List.mem_filter.1 hmem).1

/-- Rows in reading order are determined by the rows at every place. -/
theorem Sorted.eq_of_filter_eq {l₁ l₂ : List Row} (h₁ : Sorted l₁) (h₂ : Sorted l₂)
    (h : ∀ x t, l₁.filter (·.At x t) = l₂.filter (·.At x t)) : l₁ = l₂ := by
  induction l₁ generalizing l₂ with
  | nil =>
    refine (List.eq_nil_iff_forall_not_mem.2 fun row hrow => ?_).symm
    exact List.not_mem_nil (mem_of_filter_eq (fun x t => (h x t).symm) hrow)
  | cons a l₁ ih =>
    cases l₂ with
    | nil => exact absurd (mem_of_filter_eq h List.mem_cons_self) List.not_mem_nil
    | cons b l₂ =>
      obtain ⟨ha, hl₁⟩ := List.pairwise_cons.1 h₁
      obtain ⟨hb, hl₂⟩ := List.pairwise_cons.1 h₂
      -- Each head is in the other list, so neither comes after the other.
      have hab : (order a b).isLE := by
        rcases List.mem_cons.1 (mem_of_filter_eq (fun x t => (h x t).symm) List.mem_cons_self)
          with rfl | hmem
        · exact Std.ReflCmp.isLE_rfl
        · exact ha b hmem
      have hba : (order b a).isLE := by
        rcases List.mem_cons.1 (mem_of_filter_eq h List.mem_cons_self) with rfl | hmem
        · exact Std.ReflCmp.isLE_rfl
        · exact hb a hmem
      have heads := h b.entity.identity b.snapshot.timestampMs
      simp only [List.filter_cons, at_of_isLE hab hba, b.at_self, decide_true, if_true,
        List.cons.injEq] at heads
      obtain rfl := heads.1
      refine congrArg (a :: ·) (ih hl₁ hl₂ fun x t => ?_)
      have tails := h x t
      by_cases hat : a.At x t
      · simp only [List.filter_cons, hat, decide_true, if_true, List.cons.injEq, true_and] at tails
        exact tails
      · simp only [List.filter_cons, hat, decide_false, Bool.false_eq_true, if_false] at tails
        exact tails

/-- It is all the same whether rows are chosen before they are sorted or after it. -/
theorem sort_filter (p : Row → Bool) (rows : List Row) :
    sort (rows.filter p) = (sort rows).filter p := by
  refine (pairwise_sort _).eq_of_filter_eq ((pairwise_sort rows).filter p) fun x t => ?_
  have hswap : ∀ l : List Row, (l.filter p).filter (·.At x t) = (l.filter (·.At x t)).filter p :=
    fun l => by simp only [List.filter_filter, Bool.and_comm]
  rw [filter_sort, hswap, hswap, filter_sort]

/-! ### Interleavings -/

/-- The same rows, perhaps interleaved in another way: rows at one place keep
    their order. -/
structure Rearranged (rows rows' : List Row) : Prop where
  perm : rows.Perm rows'
  filter_eq : ∀ x t, rows.filter (·.At x t) = rows'.filter (·.At x t)

theorem Rearranged.sort_eq {rows rows' : List Row} (h : Rearranged rows rows') :
    sort rows = sort rows' := by
  refine (pairwise_sort rows).eq_of_filter_eq (pairwise_sort rows') fun x t => ?_
  rw [filter_sort, filter_sort, h.filter_eq]

end Row

end Metering
