import Mathlib
import RegisterAtlas.Generate.Emit
import RegisterAtlas.Proofs.Sorting
import RegisterAtlas.Proofs.Store.Ids
/-!
# Expanding a family template

A name ending in `_n` is a family template. Its members are the peripherals whose names match the
template followed by `%` and end in an ASCII digit, stably sorted by name: ascending names, and
the peripherals of one name in table order, which in every store the API hands out is id order.
A template with no member stands for itself without the marker, so a family is never empty. A
family resolves through its first member, and the assembler text of a family begins with one
base address line per member, in member order.

* `familyTemplate_eq_some_iff`: the names with the marker are the templates followed by `_n`.
* `FamilyMember`, `StablyByName`: the members of a template and the stable order by name.
* `expand_template`: a template expands to its members, or to itself when it has none.
* `StablyByName.pairwise_id`: in a reachable store, members of one name are in id order.
* `generateAsm_family`: the assembler text of a family.
* `family_expansion_numbered`: all of it together.
-/

namespace RegisterAtlas

/-! ## Templates -/

theorem endsWith_eq_true_iff (s pat : String) : s.endsWith pat = true ↔ pat.toList <:+ s.toList := by
  have h := @String.Slice.endsWith_string_iff pat s.toSlice
  simpa using h

/-- **The marked names are the templates followed by `_n`.** -/
theorem familyTemplate_eq_some_iff {name t : String} :
    familyTemplate name = some t ↔ name = t ++ "_n" := by
  constructor
  · intro h
    unfold familyTemplate at h
    split at h
    · rename_i hend
      obtain ⟨u, hu⟩ := (endsWith_eq_true_iff _ _).1 hend
      injection h with h
      subst h
      -- the name is some text `u` and the two marker characters
      have hname : name.toList = u ++ ['_', 'n'] := by simpa [familyMarker] using hu.symm
      rw [← String.toList_inj, hname]
      simp
    · cases h
  · rintro rfl
    have hend : (t ++ "_n").endsWith familyMarker = true := by
      rw [endsWith_eq_true_iff]
      simp [familyMarker]
    simp [familyTemplate, hend]

theorem familyTemplate_eq_none_iff {name : String} :
    familyTemplate name = none ↔ ∀ t, name ≠ t ++ "_n" := by
  rw [Option.eq_none_iff_forall_ne_some]
  exact forall_congr' fun _ => not_congr familyTemplate_eq_some_iff

/-- **A name without the marker stands for itself.** -/
theorem expand_unmarked (s : Store) {name : String} (h : ∀ t, name ≠ t ++ "_n") :
    expand s name = .single name := by
  simp [expand, familyTemplate_eq_none_iff.2 h]

/-! ## Members -/

/-- A member of the family of template `t`: a peripheral whose name matches `t%` and ends in an
ASCII digit. -/
def FamilyMember (t : String) (p : PeripheralRow) : Bool :=
  Like.accepts (t ++ "%") p.name && endsInDigit p.name

/-- `ms` holds the rows of `rows` that `keep` keeps, stably sorted by name: in ascending name
order, and the rows of each name in their order in `rows`. -/
structure StablyByName (keep : PeripheralRow → Bool) (rows ms : List (Stored PeripheralRow)) :
    Prop where
  sorted : ms.Pairwise fun a b => a.row.name ≤ b.row.name
  ties : ∀ k, ms.filter (·.row.name == k) = rows.filter fun r => keep r.row && r.row.name == k

/-- The rows a stable sort by name keeps are the rows it keeps from the table. -/
theorem StablyByName.mem_iff {keep : PeripheralRow → Bool} {rows ms : List (Stored PeripheralRow)}
    (h : StablyByName keep rows ms) (r : Stored PeripheralRow) :
    r ∈ ms ↔ r ∈ rows ∧ keep r.row = true := by
  have hk := congrArg (r ∈ ·) (h.ties r.row.name)
  simpa using hk

/-- The model's members: the matching peripherals by name, then those ending in a digit. -/
theorem stablyByName_filter_fetch (s : Store) (t : String) :
    StablyByName (FamilyMember t) (s.all : Array (Stored PeripheralRow)).toList
      ((fetchPeripheralsLike s (t ++ "%")).filter fun p => endsInDigit p.row.name) := by
  let L := (s.select fun (p : PeripheralRow) => Like.accepts (t ++ "%") p.name).toList
  refine ⟨?_, fun k => ?_⟩
  · exact ((sorted_mergeSort_name (·.row.name) L).sublist List.filter_sublist)
  · -- filter by name first: the sort keeps the rows of one name in table order
    have hstable := filter_mergeSort_name (·.row.name) L k
    calc ((L.mergeSort fun a b => decide (a.row.name ≤ b.row.name)).filter
            fun p => endsInDigit p.row.name).filter (·.row.name == k)
        = ((L.mergeSort fun a b => decide (a.row.name ≤ b.row.name)).filter
            (·.row.name == k)).filter fun p => endsInDigit p.row.name := by
          simp only [List.filter_filter, Bool.and_comm]
      _ = (L.filter (·.row.name == k)).filter fun p => endsInDigit p.row.name := by
          rw [hstable]
      _ = _ := by
          simp only [L, Store.select, Array.toList_filter, Store.all, List.filter_filter,
            FamilyMember]
          refine List.filter_congr fun x _ => ?_
          cases Like.accepts (t ++ "%") x.row.name <;> cases endsInDigit x.row.name <;> simp

/-- **A template expands to its members.** The template `t` followed by `_n` stands for itself
when no peripheral is a member of its family, and otherwise for the family of its members, stably
sorted by name. -/
theorem expand_template (s : Store) (t : String) :
    (expand s (t ++ "_n") = .single t ∧
      ∀ r ∈ (s.all : Array (Stored PeripheralRow)).toList, FamilyMember t r.row = false) ∨
    (∃ M, expand s (t ++ "_n") = .family t M ∧ M ≠ [] ∧
      StablyByName (FamilyMember t) (s.all : Array (Stored PeripheralRow)).toList M) := by
  have hM := stablyByName_filter_fetch s t
  have htemplate : familyTemplate (t ++ "_n") = some t := familyTemplate_eq_some_iff.2 rfl
  unfold expand
  rw [htemplate]
  simp only
  generalize ((fetchPeripheralsLike s (t ++ "%")).filter fun p => endsInDigit p.row.name) = L at hM ⊢
  cases L with
  | nil =>
    refine .inl ⟨rfl, fun r hr => ?_⟩
    by_contra hkeep
    simpa using (hM.mem_iff r).2 ⟨hr, by simpa using hkeep⟩
  | cons m ms => exact .inr ⟨m :: ms, rfl, List.cons_ne_nil _ _, hM⟩

/-! ## Ties in id order -/

/-- **Members of one name come in id order.** In a reachable store whose tables hold fewer rows
than there are positive 64-bit ids, a stable sort by name of kept peripherals orders rows by name,
and rows of equal name by id. -/
theorem StablyByName.pairwise_id {s : Store} (h : s.Reachable) (hsmall : s.tables.Small)
    {keep : PeripheralRow → Bool} {M : List (Stored PeripheralRow)}
    (hM : StablyByName keep (s.all : Array (Stored PeripheralRow)).toList M) :
    M.Pairwise fun a b => a.row.name < b.row.name ∨ a.row.name = b.row.name ∧ a.id < b.id := by
  -- the peripherals table has increasing ids
  have hinc : s.tables.peripherals.toList.Pairwise fun a b => a.id < b.id := by
    have := (h.idsInOrder hsmall).increasing .peripherals
    simpa [Tables.ids, List.pairwise_map] using this
  rw [List.pairwise_iff_forall_sublist]
  intro a b hab
  have hle : a.row.name ≤ b.row.name := List.pairwise_iff_forall_sublist.1 hM.sorted hab
  rcases lt_or_eq_of_le hle with hlt | heq
  · exact .inl hlt
  · -- two rows of one name keep their table order
    refine .inr ⟨heq, ?_⟩
    have hsub := hab.filter (·.row.name == b.row.name)
    rw [hM.ties] at hsub
    simp only [List.filter_cons, heq, beq_self_eq_true, List.filter_nil, if_true] at hsub
    exact List.pairwise_iff_forall_sublist.1 hinc (hsub.trans List.filter_sublist)

/-! ## Resolving and generating -/

/-- The base address line of a family member in assembler text. -/
def asmBaseLine (m : Stored PeripheralRow) : String :=
  ".equ " ++ m.row.name ++ "_BASE, " ++ m.row.baseAddress ++ "\n"

/-- **The assembler text of a family.** It resolves the first member; it then begins with one base
address line per member, in order, followed by the kept registers of the first member labelled
with the template. -/
theorem generateAsm_family {s : Store} {name t : String} {first : Stored PeripheralRow}
    {rest : List (Stored PeripheralRow)} (h : expand s name = .family t (first :: rest))
    (o : GenerateOptions) :
    generateAsm s name o = (resolvePeripheral s first).map fun r =>
      String.join ((first :: rest).map asmBaseLine) ++
        asmRegisters t (o.filter.apply (·.name) r.registers) := by
  simp only [generateAsm, h, Expansion.resolve, Expansion.label]
  cases resolvePeripheral s first <;> rfl

/-- **Family expansion selects exactly the numbered matches.** In every store, a name without the
`_n` marker stands for itself. A template `t` followed by `_n` stands for itself when no peripheral
is a member (matches `t%` and ends in an ASCII digit), and otherwise for the family of all members,
stably sorted by name, which is never empty. A family resolves as its first member does, and its
assembler text, when that resolves, begins with one `.equ NAME_BASE, BASE` line per member in
order. In a reachable store, members of one name are in id order. -/
theorem family_expansion_numbered (s : Store) :
    (∀ name, (∀ t, name ≠ t ++ "_n") → expand s name = .single name) ∧
    (∀ t, (expand s (t ++ "_n") = .single t ∧
        ∀ r ∈ (s.all : Array (Stored PeripheralRow)).toList, FamilyMember t r.row = false) ∨
      (∃ M, expand s (t ++ "_n") = .family t M ∧ M ≠ [] ∧
        StablyByName (FamilyMember t) (s.all : Array (Stored PeripheralRow)).toList M)) ∧
    (∀ name t M, expand s name = .family t M → ∃ first rest, M = first :: rest ∧
      (Expansion.family t M).resolve s = resolvePeripheral s first ∧
      ∀ o, generateAsm s name o = (resolvePeripheral s first).map fun r =>
        String.join (M.map asmBaseLine) ++ asmRegisters t (o.filter.apply (·.name) r.registers)) ∧
    (s.Reachable → s.tables.Small → ∀ t M, expand s (t ++ "_n") = .family t M →
      M.Pairwise fun a b => a.row.name < b.row.name ∨ a.row.name = b.row.name ∧ a.id < b.id) := by
  refine ⟨fun _ => expand_unmarked s, expand_template s, ?_, ?_⟩
  · intro name t M h
    -- a family comes only from a template with members
    obtain ⟨u, rfl⟩ : ∃ u, name = u ++ "_n" := by
      cases ht : familyTemplate name with
      | none => simp [expand, ht] at h
      | some u => exact ⟨u, familyTemplate_eq_some_iff.1 ht⟩
    rcases expand_template s u with ⟨hsingle, -⟩ | ⟨M', hfam, hne, -⟩
    · rw [hsingle] at h
      cases h
    · rw [hfam] at h
      injection h with ht hM
      subst ht hM
      obtain ⟨first, rest, rfl⟩ := List.exists_cons_of_ne_nil hne
      exact ⟨first, rest, rfl, rfl, generateAsm_family hfam⟩
  · intro hreach hsmall t M h
    rcases expand_template s t with ⟨hsingle, -⟩ | ⟨M', hfam, -, hM⟩
    · rw [hsingle] at h
      cases h
    · rw [hfam] at h
      injection h with _ hM'
      subst hM'
      exact hM.pairwise_id hreach hsmall

open Json in
/-- A store file of three peripherals, `TIM2`, then `TIM1` twice, opens; in it the members of a
family come by name and the two of one name by id. -/
theorem family_expansion_numbered_repeated_name :
    let p : String → Row := fun n => .peripheral { mpuId := 1, name := n, baseAddress := "0" }
    let bytes : List UInt8 := textBytes headerLine ++ [10] ++
      (textBytes (entryLine 1 (p "TIM2")) ++ [10]) ++ (textBytes (entryLine 2 (p "TIM1")) ++ [10]) ++
      (textBytes (entryLine 3 (p "TIM1")) ++ [10])
    let s : Store := { tables := ((({} : Tables).add 1 (p "TIM2")).add 2 (p "TIM1")).add 3 (p "TIM1"),
                       backing := .readOnly, path := some "store.db" }
    ((Store.openFile "store.db" : Sim _).run (Machine.withStoreFile ⟨bytes.toArray⟩)).1 = .ok s ∧
      s.Reachable ∧ s.tables.Small ∧
      ∀ t M, expand s (t ++ "_n") = .family t M →
        M.Pairwise fun a b => a.row.name < b.row.name ∨ a.row.name = b.row.name ∧ a.id < b.id := by
  intro p bytes s
  have hjournal : JournalOf "store.db" bytes s.tables :=
    (((journalOf_header "store.db").append (by decide) (by decide) (by decide)).append
      (by decide) (by decide) (by decide)).append (by decide) (by decide) (by decide)
  have hopen : ((Store.openFile "store.db" : Sim _).run (Machine.withStoreFile ⟨bytes.toArray⟩)).1 =
      .ok s := hjournal.opens
  have hreach : s.Reachable := .opened hopen
  have hsmall : s.tables.Small := by decide
  exact ⟨hopen, hreach, hsmall, (family_expansion_numbered s).2.2.2 hreach hsmall⟩

end RegisterAtlas
