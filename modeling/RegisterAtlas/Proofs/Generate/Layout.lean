import Mathlib
import RegisterAtlas.Generate.Emit
import RegisterAtlas.Proofs.Numeral
import RegisterAtlas.Proofs.Sorting
/-!
# The layout of a Forth registers structure

A Forth `registers … end-registers` structure defines a peripheral's registers as members at
their offsets. Read with the structure words, `registers` starts a running offset at 0,
`reg _X` binds `X` to the running offset and moves it on four bytes, and `drop $H` replaces the
running offset with the hexadecimal number `H`. `generateForthRegisters` places each kept register
at its address offset read as a number of at most 32 bits, in ascending offset order, and writes
a jump before a register exactly where its offset is not the running one.

* `byOffset_eq`: the first register whose offset is no 32-bit number is refused; otherwise the
  registers, each with its offset, are sorted by offset.
* `LayoutLine.members`: the structure words as a reader of lines; `members_layout`: the lines
  `layout` writes define exactly the members they lay out.
* `forth_registers_layout`: the whole generator.
-/

namespace RegisterAtlas

/-! ## Offsets -/

/-- The offset of a register in a structure: its address offset read as a number, when that
number has at most 32 bits. -/
def ResolvedRegister.layoutOffset (r : ResolvedRegister) : Option Nat :=
  (Numeral.readNumber r.addressOffset).filter fun o => decide (o ≤ Nat.pow 2 32 - 1)

/-- A run of a step that fails at some items fails at the first of them, and otherwise gives the
values of all. -/
theorem mapM_eq_of_find {α β ε : Type} {f : α → Except ε β} (g : α → Option β) (err : α → ε)
    (hf : ∀ a, f a = match g a with
      | some b => .ok b
      | none => .error (err a)) (l : List α) :
    l.mapM f = match l.find? fun a => (g a).isNone with
      | some a => .error (err a)
      | none => .ok (l.filterMap g) := by
  induction l with
  | nil => rfl
  | cons a l ih =>
    rw [List.mapM_cons, hf a]
    cases hg : g a with
    | none => simp [hg]; rfl
    | some b =>
      -- an item with a value is skipped by the search and kept by the values
      have hfind : ((a :: l).find? fun a => (g a).isNone) = l.find? fun a => (g a).isNone := by
        simp [hg]
      rw [ih, hfind, List.filterMap_cons_some hg]
      cases l.find? (fun a => (g a).isNone) <;> rfl

/-- **Placing the registers.** The first register whose offset is no 32-bit number is refused;
otherwise every register is placed at its offset, in ascending offset order. -/
theorem byOffset_eq (registers : List ResolvedRegister) :
    byOffset registers = match registers.find? fun r => r.layoutOffset.isNone with
      | some r => .error (.invalidAddress r.addressOffset)
      | none => .ok ((registers.filterMap fun r => r.layoutOffset.map (·, r)).mergeSort
          fun a b => decide (a.1 ≤ b.1)) := by
  unfold byOffset
  rw [mapM_eq_of_find (fun r => r.layoutOffset.map (·, r))
    (fun r => AtlasError.invalidAddress r.addressOffset)]
  · simp only [Option.isNone_map]
    cases registers.find? (fun r => r.layoutOffset.isNone) <;> rfl
  · -- a register is placed exactly when its offset is a 32-bit number
    intro r
    unfold ResolvedRegister.layoutOffset
    cases Numeral.readNumber r.addressOffset with
    | none => rfl
    | some o => by_cases ho : o ≤ 4294967295 <;> simp [ho, Option.filter]

/-! ## The structure words -/

/-- A line between `registers` and `end-registers`. -/
inductive LayoutLine
  /-- `reg _X`: a member. -/
  | reg (name : String)
  /-- `drop $H`: a jump of the running offset. -/
  | drop (hex : String)
  deriving DecidableEq

namespace LayoutLine

/-- The text of a line. -/
def text : LayoutLine → String
  | .reg name => "    reg _" ++ name ++ "\n"
  | .drop hex => "    drop $" ++ hex ++ "\n"

/-- The members lines define, read with the structure words from the running offset `addr`:
`reg _X` binds `X` to the running offset and moves it on four bytes, `drop $H` replaces it with
the hexadecimal number `H`. A jump to something that is no number defines nothing. -/
def members : Nat → List LayoutLine → Option (List (String × Nat))
  | _, [] => some []
  | addr, .reg name :: ls => (members (addr + 4) ls).map ((name, addr) :: ·)
  | _, .drop hex :: ls => (Numeral.value 16 hex).bind fun o => members o ls

end LayoutLine

/-- The lines laying out members from the running offset `addr`: a jump before each member whose
offset is not the running one, which is `addr` for the first member and four past the previous
member's offset for the others. -/
def layout (addr : Nat) (members : List (String × Nat)) : List LayoutLine :=
  (members.zip (addr :: members.map (·.2 + 4))).flatMap fun ((name, o), running) =>
    (if o = running then [] else [.drop (hex8 o)]) ++ [.reg name]

theorem layout_cons (addr : Nat) (name : String) (o : Nat) (ms : List (String × Nat)) :
    layout addr ((name, o) :: ms) =
      (if o = addr then [] else [.drop (hex8 o)]) ++ .reg name :: layout (o + 4) ms := by
  simp [layout]

/-- **The layout defines its members.** Read with the structure words, the lines `layout` writes
bind every member to its offset, in order. -/
theorem members_layout (addr : Nat) (ms : List (String × Nat)) :
    LayoutLine.members addr (layout addr ms) = some ms := by
  induction ms generalizing addr with
  | nil => rfl
  | cons m ms ih =>
    obtain ⟨name, o⟩ := m
    rw [layout_cons]
    by_cases ho : o = addr
    · subst ho
      simp [LayoutLine.members, ih]
    · -- the jump's hexadecimal number is the member's offset
      simp [LayoutLine.members, ho, hex8, Numeral.value_hexUpper, ih]

/-- The member lines the generator writes are the text of the layout of the placed registers,
each named with the prefix. -/
theorem layoutLines_eq (pfx : String) (addr : Nat) (placed : List (Nat × ResolvedRegister)) :
    layoutLines pfx addr placed =
      String.join ((layout addr (placed.map fun p => (pfx ++ p.2.name, p.1))).map
        LayoutLine.text) := by
  induction placed generalizing addr with
  | nil => rfl
  | cons p placed ih =>
    obtain ⟨o, r⟩ := p
    rw [List.map_cons, layout_cons, layoutLines, ih]
    by_cases ho : o = addr
    · simp [ho, LayoutLine.text, String.append_assoc]
    · -- the jump's line break and the member's line meet in one literal on one side only
      simp [ho, LayoutLine.text, String.append_assoc]
      simp only [← String.append_assoc, String.reduceAppend]

/-! ## The generator -/

/-- Once the kept registers are placed, the structure's member lines are the layout of the
placed registers, between `registers` and `end-registers`. -/
theorem generateForthRegisters_of_placed {s : Store} {peripheral : String}
    {options : GenerateOptions} {R : ResolvedPeripheral} (hR : resolve s peripheral = .ok R)
    {placed : List (Nat × ResolvedRegister)}
    (hplaced : byOffset (options.filter.apply (·.name) R.registers) = .ok placed) :
    ∃ before after, generateForthRegisters s peripheral options = .ok (before ++ "  registers\n" ++
      layoutLines (Generate.shortPrefix R.name 2) 0 placed ++ "  end-registers\n" ++ after) :=
  ⟨(if options.supportWords then registerWords ++ "\n" else "") ++
    (Generate.forthHex R.baseAddress ++ " constant " ++ R.name ++ "\n"), _, by
    simp only [generateForthRegisters, hR, hplaced, bind, Except.bind, pure, Except.pure]
    simp only [String.append_assoc]
    rfl⟩

/-- **The Forth registers structure lays out the registers.** Generation fails with the error of
resolving the peripheral when that fails, and otherwise with the address offset of the first kept
register (in name order) that is no number of at most 32 bits. Otherwise the text holds, between
`registers` and `end-registers`, lines that define, read with the structure words, every kept
register under its prefixed name at its offset and nothing else; the members stand in ascending
offset order, registers of one offset in name order, and a jump comes before a member exactly
where its offset is not the running one. -/
theorem forth_registers_layout (s : Store) (peripheral : String) (options : GenerateOptions) :
    match resolve s peripheral with
    | .error e => generateForthRegisters s peripheral options = .error e
    | .ok R =>
      let kept := options.filter.apply (·.name) R.registers
      let pfx := Generate.shortPrefix R.name 2
      let placed := kept.filterMap fun r => r.layoutOffset.map fun o => (pfx ++ r.name, o)
      match kept.find? fun r => r.layoutOffset.isNone with
      | some r => generateForthRegisters s peripheral options = .error (.invalidAddress r.addressOffset)
      | none => ∃ before after members,
          generateForthRegisters s peripheral options = .ok (before ++ "  registers\n" ++
            String.join ((layout 0 members).map LayoutLine.text) ++ "  end-registers\n" ++ after) ∧
          LayoutLine.members 0 (layout 0 members) = some members ∧
          members.Perm placed ∧ members.Pairwise (fun a b => a.2 ≤ b.2) ∧
          ∀ o, members.filter (fun m => m.2 == o) = placed.filter fun m => m.2 == o := by
  cases hR : resolve s peripheral with
  | error e => simp [generateForthRegisters, hR, bind, Except.bind]
  | ok R =>
    dsimp only
    have hplace := byOffset_eq (options.filter.apply (·.name) R.registers)
    cases hfind : (options.filter.apply (·.name) R.registers).find? fun r => r.layoutOffset.isNone with
    | some r =>
      rw [hfind] at hplace
      simp [generateForthRegisters, hR, hplace, bind, Except.bind]
    | none =>
      rw [hfind] at hplace
      -- the registers placed at their offsets, and their names with the prefix
      let unsorted := (options.filter.apply (·.name) R.registers).filterMap
        fun r => r.layoutOffset.map (·, r)
      let named : Nat × ResolvedRegister → String × Nat :=
        fun p => (Generate.shortPrefix R.name 2 ++ p.2.name, p.1)
      have hnamed : unsorted.map named = (options.filter.apply (·.name) R.registers).filterMap
          fun r => r.layoutOffset.map fun o => (Generate.shortPrefix R.name 2 ++ r.name, o) := by
        simp [unsorted, named, List.map_filterMap, Option.map_map, Function.comp_def]
      obtain ⟨before, after, htext⟩ := generateForthRegisters_of_placed hR hplace
      rw [layoutLines_eq] at htext
      refine ⟨before, after, (unsorted.mergeSort fun a b => decide (a.1 ≤ b.1)).map named, htext,
        members_layout 0 _, ?_, ?_, fun o => ?_⟩
      · rw [← hnamed]
        exact (List.mergeSort_perm _ _).map named
      · exact List.pairwise_map.2 (sorted_mergeSort_key Prod.fst unsorted)
      · rw [← hnamed, List.filter_map, List.filter_map]
        exact congrArg (List.map named) (filter_mergeSort_key Prod.fst unsorted o)

end RegisterAtlas
