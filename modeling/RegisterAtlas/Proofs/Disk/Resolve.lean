import Mathlib
import RegisterAtlas.Disk.System
/-!
# Where a path leads after the tree changes

A store file is found again by its path text at every write, so an append to a journal goes
to the file that was created only if the path keeps leading there. It does: a walk looks up
only directories on its way, and creating or writing a file changes no directory.

On a sound tree (the root, the working directory and the parent of everything named are
directories) a path that ends in a slash leads to a directory whenever it leads to nothing
else, so a file created by such a path does not exist: the path of a created file has no
trailing slash, and leads to the file again.

* `Disk.entry_set`: what a location names after one location is set.
* `Disk.walk_of_keepsDirs`: a walk succeeds alike on any tree that keeps the first one's
  directories.
* `Disk.resolve_set_file`: a path that led to a file, or to nothing, leads to what is written
  there.
* `Disk.resolve_createFile`: a created file is where its path leads.
* `Disk.patch_size`: a write at the end of a file appends to it.
-/

namespace RegisterAtlas

namespace Disk

variable {d d' : Disk} {cwd here l r : Location}

/-! ## Entries after a change -/

theorem entry_set (d : Disk) (l x : Location) (e : Option Entry) :
    (d.set l e).entry x = if x = l then e else d.entry x := by
  by_cases hx : x = l
  · subst hx
    cases e <;> simp [set, entry, List.find?_filter]
  · have hfind : (d.entries.filter (·.1 != l)).find? (·.1 == x) = d.entries.find? (·.1 == x) := by
      rw [List.find?_filter]
      congr 1
      funext a
      by_cases ha : a.1 = x <;> simp [ha, hx]
    cases e <;> simp [set, entry, hfind, hx, Ne.symm hx]

theorem entry_set_self (d : Disk) (l : Location) (e : Option Entry) : (d.set l e).entry l = e := by
  simp [entry_set]

theorem entry_set_of_ne (d : Disk) {l x : Location} (e : Option Entry) (hx : x ≠ l) :
    (d.set l e).entry x = d.entry x := by
  simp [entry_set, hx]

/-- A location set twice holds what it was set to last. -/
theorem set_set (d : Disk) (l : Location) (e e' : Entry) :
    (d.set l (some e)).set l (some e') = d.set l (some e') := by
  simp [set, List.filter_filter]

/-! ## Walks -/

/-- A walk looks up nothing but directories on its way: it succeeds alike on any tree that keeps
the directories of the first. -/
theorem walk_of_keepsDirs (hdirs : ∀ x, d.entry x = some .dir → d'.entry x = some .dir)
    {cs : List String} (h : d.walk here cs = .ok r) : d'.walk here cs = .ok r := by
  induction cs generalizing here with
  | nil => simpa [walk] using h
  | cons c rest ih =>
    cases rest with
    | nil => simpa [walk] using h
    | cons c' rest' =>
      simp only [walk] at h ⊢
      by_cases hdot : (c = "" || c = ".") = true
      · rw [if_pos hdot] at h ⊢
        exact ih h
      rw [if_neg hdot] at h ⊢
      by_cases hup : c = ".."
      · rw [if_pos hup] at h ⊢
        exact ih h
      rw [if_neg hup] at h ⊢
      -- a plain component must name a directory of the first tree, which the second keeps
      cases hx : d.entry (here ++ [c]) with
      | none => simp [hx] at h
      | some e =>
        cases e with
        | file b => simp [hx] at h
        | dir =>
          rw [hx] at h
          rw [hdirs _ hx]
          exact ih h

/-- A tree as an operating system keeps it, seen from a working directory: the root, the
working directory and the parent of everything named are directories. -/
structure Sound (d : Disk) (cwd : Location) : Prop where
  root : d.entry [] = some .dir
  cwd : d.entry cwd = some .dir
  parent : ∀ l e, d.entry l = some e → d.entry l.parent = some .dir

/-- On a sound tree a walk that ends in an empty component ends at a directory: every
component before it was walked as a directory step. -/
theorem walk_append_empty (hd : d.Sound cwd) {cs : List String} (hhere : d.entry here = some .dir)
    (h : d.walk here (cs ++ [""]) = .ok l) : d.entry l = some .dir := by
  induction cs generalizing here with
  | nil =>
    simp only [List.nil_append, walk] at h
    rw [← Except.ok.inj h]
    exact hhere
  | cons c rest ih =>
    obtain ⟨c', rest', hcr⟩ := List.exists_cons_of_ne_nil (show rest ++ [""] ≠ [] by simp)
    rw [List.cons_append, hcr] at h
    simp only [walk] at h
    rw [← hcr] at h
    by_cases hdot : (c = "" || c = ".") = true
    · rw [if_pos hdot] at h
      exact ih hhere h
    rw [if_neg hdot] at h
    by_cases hup : c = ".."
    · rw [if_pos hup] at h
      exact ih (hd.parent here .dir hhere) h
    rw [if_neg hup] at h
    cases hx : d.entry (here ++ [c]) with
    | none => simp [hx] at h
    | some e =>
      cases e with
      | file b => simp [hx] at h
      | dir =>
        rw [hx] at h
        exact ih hx h

/-- The components of a path that ends in a slash end in an empty one. -/
theorem splitPath_of_endsWith {p : String} (h : p.endsWith "/" = true) :
    ∃ cs, splitPath p = cs ++ [""] := by
  have hsuffix : p.toSlice.endsWith "/" = true := h
  rw [String.Slice.endsWith_string_iff] at hsuffix
  simp only [String.copy_toSlice] at hsuffix
  obtain ⟨t, ht⟩ := hsuffix
  refine ⟨(t.splitOn '/').map String.ofList, ?_⟩
  simp [splitPath, ← ht, List.splitOn_append_cons_self]

/-- The location a path starts from is a directory of a sound tree. -/
theorem start_dir (hd : d.Sound cwd) (p : String) :
    d.entry (if p.startsWith "/" then [] else cwd) = some .dir := by
  split
  · exact hd.root
  · exact hd.cwd

/-- A path that names nothing on a sound tree does not end in a slash. -/
theorem endsWith_of_resolve_none (hd : d.Sound cwd) {p : String}
    (h : d.resolve cwd p = .ok (l, none)) : p.endsWith "/" = false := by
  cases hslash : p.endsWith "/" with
  | false => rfl
  | true =>
    obtain ⟨cs, hcs⟩ := splitPath_of_endsWith hslash
    simp only [resolve] at h
    split at h
    · cases h
    split at h
    · cases h
    rw [hcs] at h
    cases hw : d.walk (if p.startsWith "/" then [] else cwd) (cs ++ [""]) with
    | error e =>
      rw [hw] at h
      cases h
    | ok l' =>
      have hdir := walk_append_empty hd (start_dir hd p) hw
      rw [hw] at h
      simp [hdir] at h

/-- A path that leads to a file does not end in a slash. -/
theorem endsWith_of_resolve_file {p : String} {b : ByteArray}
    (h : d.resolve cwd p = .ok (l, some (.file b))) : p.endsWith "/" = false := by
  simp only [resolve] at h
  split at h
  · cases h
  split at h
  · cases h
  split at h
  · cases h
  · split at h
    · split at h
      · cases h
      · rename_i hslash
        simpa using hslash
    · rename_i hne
      exact absurd (Prod.mk.inj (Except.ok.inj h)).2 (hne b)

/-- A path that led to a file, or to nothing, leads to the file written where it led. -/
theorem resolve_set_file {p : String} {e : Option Entry} (hres : d.resolve cwd p = .ok (l, e))
    (hnotdir : e ≠ some .dir) (hslash : p.endsWith "/" = false) (b : ByteArray) :
    (d.set l (some (.file b))).resolve cwd p = .ok (l, some (.file b)) := by
  simp only [resolve] at hres ⊢
  split at hres
  · cases hres
  rename_i hnul
  rw [if_neg hnul]
  split at hres
  · cases hres
  rename_i hempty
  rw [if_neg hempty]
  cases hw : d.walk (if p.startsWith "/" then [] else cwd) (splitPath p) with
  | error err =>
    rw [hw] at hres
    cases hres
  | ok l' =>
    -- the walk ends where the path led, and the entry there was not a directory
    have hl : l' = l ∧ d.entry l' = e := by
      rw [hw] at hres
      simp only at hres
      split at hres
      · rename_i b' he
        rw [if_neg (by simp [hslash])] at hres
        obtain ⟨rfl, rfl⟩ := Prod.mk.inj (Except.ok.inj hres)
        exact ⟨rfl, rfl⟩
      · obtain ⟨rfl, rfl⟩ := Prod.mk.inj (Except.ok.inj hres)
        exact ⟨rfl, rfl⟩
    obtain ⟨rfl, he⟩ := hl
    have hkeep : ∀ x, d.entry x = some .dir → (d.set l' (some (.file b))).entry x = some .dir := by
      intro x hx
      have hne : x ≠ l' := by
        rintro rfl
        exact hnotdir (he ▸ hx)
      rw [entry_set_of_ne _ _ hne]
      exact hx
    rw [walk_of_keepsDirs hkeep hw]
    simp [entry_set_self, hslash]

/-- Creating a file sets the place its path leads to, which was empty, and the path leads to the
new file. -/
theorem resolve_createFile (hd : d.Sound cwd) {p : String} (h : d.createFile cwd p = .ok d') :
    ∃ l, d.resolve cwd p = .ok (l, none) ∧ d' = d.set l (some (.file .empty)) ∧
      d'.resolve cwd p = .ok (l, some (.file .empty)) := by
  simp only [createFile] at h
  -- creation went through `resolve`: a path naming a directory only is refused
  have hnew : ∀ res, d.resolveNew cwd p = .ok res → d.resolve cwd p = .ok res := by
    intro res hres
    simp only [resolveNew] at hres
    split at hres
    · split at hres <;> cases hres
    · exact hres
  split at h
  · cases h
  · cases h
  · rename_i l hres
    have hr := hnew _ hres
    refine ⟨l, hr, (Except.ok.inj h).symm, ?_⟩
    rw [← Except.ok.inj h]
    exact resolve_set_file hr (by simp) (endsWith_of_resolve_none hd hr) _

/-- What a path leads to is what the tree holds there. -/
theorem entry_of_resolve {p : String} {e : Option Entry} (h : d.resolve cwd p = .ok (l, e)) :
    d.entry l = e := by
  simp only [resolve] at h
  split at h
  · cases h
  split at h
  · cases h
  split at h
  · cases h
  · split at h
    · split at h
      · cases h
      · obtain ⟨rfl, rfl⟩ := Prod.mk.inj (Except.ok.inj h)
        rfl
    · obtain ⟨rfl, rfl⟩ := Prod.mk.inj (Except.ok.inj h)
      rfl

/-- A file that a path leads to is read whole. -/
theorem read_of_resolve {p : String} {b : ByteArray}
    (h : d.resolve cwd p = .ok (l, some (.file b))) : d.read cwd p = .ok b := by
  simp [read, h]

/-- Writing into a file replaces that file's bytes and nothing else. -/
theorem writeAt_file {old : ByteArray} (h : d.entry l = some (.file old)) (off : Nat)
    (b : ByteArray) : d.writeAt l off b = d.set l (some (.file (patch old off b))) := by
  simp [writeAt, h]

/-- A write at the end of a file appends to it. -/
theorem patch_size (old b : ByteArray) : patch old old.size b = old ++ b := by
  have hgap : (⟨Array.replicate (old.size - old.size) 0⟩ : ByteArray) = .empty := by
    simp
    rfl
  have htail : old.extract (old.size + b.size) old.size = .empty :=
    ByteArray.extract_eq_empty_iff.2 (by omega)
  rw [patch, ByteArray.extract_zero_size, hgap, htail, ByteArray.append_empty,
    ByteArray.append_empty]

end Disk

end RegisterAtlas
