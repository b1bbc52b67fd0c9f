import Mathlib
import RegisterAtlas.Store.Basic
/-!
# Binary search finds what a scan finds

On an array whose keys increase strictly, `Search.byKey` finds the element with a key exactly
when there is one. So on a table whose ids increase, looking a row up by binary search answers
as a scan of the table from its first row does.

* `Search.Increasing`: keys that increase strictly along an array.
* `Search.narrow_eq`: the halving loop ends at the element with the key, when its window holds
  one; `Search.byKey_of_key`: the search then finds it.
* `Search.key_of_byKey`: whatever the order, a search that succeeds has found the key.
* `Store.get_eq_find`: on a table whose ids increase, `Store.get` answers as `find?` does.
-/

namespace RegisterAtlas

namespace Search

variable {β : Type} {xs : Array β} {key : β → Int} {target : Int}

/-- Keys that increase strictly along the array. -/
def Increasing (xs : Array β) (key : β → Int) : Prop := xs.toList.Pairwise (key · < key ·)

theorem increasing_iff : Increasing xs key ↔ (xs.toList.map key).Pairwise (· < ·) :=
  List.pairwise_map.symm

theorem Increasing.lt (h : Increasing xs key) {i j : Nat} (hij : i < j) (hj : j < xs.size) :
    key xs[i] < key xs[j] := by
  have hlt := List.pairwise_iff_getElem.1 h i j (by simp; omega) (by simpa using hj) hij
  simpa using hlt

theorem Increasing.le (h : Increasing xs key) {i j : Nat} (hij : i ≤ j) (hj : j < xs.size) :
    key xs[i] ≤ key xs[j] := by
  rcases Nat.lt_or_eq_of_le hij with hij | rfl
  · exact le_of_lt (h.lt hij hj)
  · exact le_refl _

/-- **The window keeps the key.** When the window of the halving loop holds an element with the
key, the loop ends at it: a middle element above the key puts it to the left, one at or below it
(the keys being distinct) to the right. -/
theorem narrow_eq (hs : Increasing xs key) {base size : Nat} (h : base + size ≤ xs.size)
    (hpos : 0 < size) {j : Nat} (hj : j < xs.size) (hkey : key xs[j] = target) (hlo : base ≤ j)
    (hhi : j < base + size) : (narrow xs key target base size h hpos).val = j := by
  fun_induction narrow xs key target base size h hpos with
  | case1 base size h hpos hmore hmid hgt ih =>
    have hleft : j < base + size / 2 := by
      by_contra hge
      have hmono := hs.le (not_lt.1 hge) hj
      omega
    exact ih hlo (by omega)
  | case2 base size h hpos hmore hmid hle ih =>
    have hright : base + size / 2 ≤ j := by
      by_contra hlt
      have hmono := hs.lt (not_le.1 hlt) hmid
      omega
    exact ih hright (by omega)
  | case3 base size h hpos hone =>
    show base = j
    omega

/-- Whatever the order of the keys, a search that succeeds has found the key. -/
theorem key_of_byKey {i : Fin xs.size} (h : byKey xs key target = .ok i) : key xs[i] = target := by
  unfold byKey at h
  split at h
  · dsimp only at h
    split at h
    · rename_i hcmp
      cases h
      exact compare_eq_iff_eq.1 hcmp
    · cases h
    · cases h
  · cases h

/-- On increasing keys the search finds the element with the key. -/
theorem byKey_of_key (hs : Increasing xs key) {j : Nat} (hj : j < xs.size)
    (hkey : key xs[j] = target) : byKey xs key target = .ok ⟨j, hj⟩ := by
  have hpos : 0 < xs.size := by omega
  have hend := narrow_eq hs (Nat.zero_add _).le hpos hj hkey (Nat.zero_le j) (by omega)
  have hi : narrow xs key target 0 xs.size (Nat.zero_add _).le hpos = ⟨j, hj⟩ := Fin.ext hend
  have hcmp : compare (key xs[j]) target = .eq := compare_eq_iff_eq.2 hkey
  simp only [byKey, dif_pos hpos, hi, Fin.getElem_fin, hcmp]

/-- On increasing keys the first element with a key is the one at its position. -/
theorem find?_eq_of_increasing (hs : Increasing xs key) {j : Nat} (hj : j < xs.size) :
    xs.find? (key · = key xs[j]) = some xs[j] := by
  refine Array.find?_eq_some_iff_getElem.2 ⟨by simp, j, hj, rfl, fun k hk => ?_⟩
  have hlt := hs.lt hk hj
  simp only [Bool.not_eq_eq_eq_not, Bool.not_true, decide_eq_false_iff_not]
  exact ne_of_lt hlt

end Search

namespace Store

variable [Entity α]

/-- **Lookup by binary search is a scan.** On a table whose ids increase, the row of an id is the
first row with that id, and there is none when no row has it. -/
theorem get_eq_find {s : Store}
    (hs : Search.Increasing (Entity.rows s.tables : Array (Stored α)) (·.id)) (id : RowId) :
    s.get id = match (Entity.rows s.tables : Array (Stored α)).find? (·.id = id) with
      | some r => .ok r
      | none => .error (.rowFailure (Entity.table α).name id "no such row") := by
  unfold get
  dsimp only
  split
  · rename_i i hfound
    have hkey : (Entity.rows s.tables : Array (Stored α))[i].id = id := Search.key_of_byKey hfound
    rw [← hkey, Fin.getElem_fin, Search.find?_eq_of_increasing hs i.isLt]
  · rename_i n hmiss
    -- a row with the id would have been found
    have hnone : (Entity.rows s.tables : Array (Stored α)).find? (·.id = id) = none := by
      refine Array.find?_eq_none.2 fun r hr hrid => ?_
      obtain ⟨j, hj, rfl⟩ := Array.mem_iff_getElem.1 hr
      rw [Search.byKey_of_key hs hj (of_decide_eq_true hrid)] at hmiss
      cases hmiss
    rw [hnone]

end Store

end RegisterAtlas
