import Mathlib
/-!
# Stable sorting

Lists are sorted by merge sort, which is stable: items that the order does not separate come out
of the sort in the order they went in. The project sorts by a number (a register's offset) and by
a name (registers and peripherals).

* `filter_mergeSort_of_ties`: the items of a class of ties keep their order through the sort.
* `sorted_mergeSort_key`, `filter_mergeSort_key`: sorting by a number.
* `sorted_mergeSort_name`, `filter_mergeSort_name`: sorting by a name.
-/

namespace RegisterAtlas

section Stable

variable {α : Type} {le : α → α → Bool}

/-- **Sorting keeps ties in order.** The items of a class that the order does not separate (any
two of them are ordered either way) come out of the sort in the order they went in. -/
theorem filter_mergeSort_of_ties (trans : ∀ a b c, le a b → le b c → le a c)
    (total : ∀ a b, (le a b || le b a) = true) {q : α → Bool}
    (hq : ∀ a b, q a = true → q b = true → le a b = true) (l : List α) :
    (l.mergeSort le).filter q = l.filter q := by
  -- the items of the class are sorted already, so they stay a sublist of the sorted list
  have hsorted : (l.filter q).Pairwise fun a b => le a b := by
    refine (List.pairwise_of_forall (R := fun _ _ => True) fun _ _ => trivial).imp_of_mem ?_
    intro a b ha hb _
    exact hq a b (List.mem_filter.1 ha).2 (List.mem_filter.1 hb).2
  have hsub := (List.sublist_mergeSort trans total hsorted List.filter_sublist).filter q
  rw [List.filter_filter] at hsub
  simp only [Bool.and_self] at hsub
  -- and the sort keeps as many of them as there were
  have hlen := ((List.mergeSort_perm l le).filter q).length_eq
  exact (hsub.eq_of_length hlen.symm).symm

end Stable

section SortByKey

variable {β : Type} (key : β → Nat)

theorem key_le_trans (a b c : β) (hab : decide (key a ≤ key b)) (hbc : decide (key b ≤ key c)) :
    decide (key a ≤ key c) := by
  simp only [decide_eq_true_eq] at hab hbc ⊢
  omega

theorem key_le_total (a b : β) : (decide (key a ≤ key b) || decide (key b ≤ key a)) = true := by
  simp only [Bool.or_eq_true, decide_eq_true_eq]
  omega

/-- Sorting by a key puts the keys in ascending order. -/
theorem sorted_mergeSort_key (l : List β) :
    (l.mergeSort fun a b => decide (key a ≤ key b)).Pairwise fun a b => key a ≤ key b :=
  (List.pairwise_mergeSort (key_le_trans key) (key_le_total key) l).imp of_decide_eq_true

/-- Sorting by a key keeps the items of each key in order. -/
theorem filter_mergeSort_key (l : List β) (o : Nat) :
    (l.mergeSort fun a b => decide (key a ≤ key b)).filter (fun x => key x == o) =
      l.filter fun x => key x == o :=
  filter_mergeSort_of_ties (key_le_trans key) (key_le_total key)
    (fun a b ha hb => by simp_all) l

end SortByKey

section SortByName

variable {β : Type} (name : β → String)

theorem name_le_trans (a b c : β) (hab : decide (name a ≤ name b))
    (hbc : decide (name b ≤ name c)) : decide (name a ≤ name c) := by
  simp only [decide_eq_true_eq] at hab hbc ⊢
  exact le_trans hab hbc

theorem name_le_total (a b : β) :
    (decide (name a ≤ name b) || decide (name b ≤ name a)) = true := by
  simp only [Bool.or_eq_true, decide_eq_true_eq]
  exact le_total _ _

/-- Sorting by name puts the names in ascending order. -/
theorem sorted_mergeSort_name (l : List β) :
    (l.mergeSort fun a b => decide (name a ≤ name b)).Pairwise fun a b => name a ≤ name b :=
  (List.pairwise_mergeSort (name_le_trans name) (name_le_total name) l).imp of_decide_eq_true

/-- Sorting by name keeps the items of each name in order. -/
theorem filter_mergeSort_name (l : List β) (k : String) :
    (l.mergeSort fun a b => decide (name a ≤ name b)).filter (fun x => name x == k) =
      l.filter fun x => name x == k :=
  filter_mergeSort_of_ties (name_le_trans name) (name_le_total name)
    (fun a b ha hb => by simp_all) l

end SortByName

end RegisterAtlas
