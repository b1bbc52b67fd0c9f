import Mathlib
import RegisterAtlas.Device.Read
import RegisterAtlas.Proofs.Numeral
/-!
# Reading a description: which documents are read, and which fault is reported

A device description is read by a walk over its tree: the fields of a register, the registers of
a peripheral and the peripherals of the device are read before the element's own values. Every
read of a required value is a check, and the walk stops at the first check that fails.

This module lists the checks of an element in the order the walk makes them (`deviceChecks`),
reads each element without its checks (`deviceOf`), and shows that reading a document whose root
is `<device>` gives `deviceOf` of its root when every check passes and otherwise reports the first
check that fails.

* `Description.Filled`: a required value is there when the first child of that name has text
  that is not all blank.
* `Description.verdict`: the outcome of a list of checks.
* `Description.field_eq`, `register_eq`, `peripheral_eq`, `Device.read_eq_verdict`: each reader is
  the verdict of its checks.
* `Device.read_checks_post_order`: a document is read exactly when it is well formed; its
  reading is `deviceOf` of its root; otherwise the fault is that of the first failing check.
-/

namespace RegisterAtlas

/-! ## Deciding equality of trees -/

namespace Xml

mutual
/-- Nodes are equal when they are built alike from equal parts. -/
def Node.decEq : (a b : Node) → Decidable (a = b)
  | .element p n r as cs, .element p' n' r' as' cs' =>
    match Node.decEqList cs cs' with
    | isTrue hc =>
      if h : p = p' ∧ n = n' ∧ r = r' ∧ as = as' then
        isTrue (by rw [h.1, h.2.1, h.2.2.1, h.2.2.2, hc])
      else isFalse fun e => h (by cases e; exact ⟨rfl, rfl, rfl, rfl⟩)
    | isFalse hc => isFalse fun e => hc (by cases e; rfl)
  | .text s, .text s' =>
    if h : s = s' then isTrue (h ▸ rfl) else isFalse fun e => h (by cases e; rfl)
  | .other, .other => isTrue rfl
  | .element .., .text _ | .element .., .other | .text _, .element ..
  | .text _, .other | .other, .element .. | .other, .text _ => isFalse Node.noConfusion

/-- Lists of nodes are equal when they are equal node by node. -/
def Node.decEqList : (as bs : List Node) → Decidable (as = bs)
  | [], [] => isTrue rfl
  | a :: as, b :: bs =>
    match Node.decEq a b, Node.decEqList as bs with
    | isTrue h, isTrue h' => isTrue (h ▸ h' ▸ rfl)
    | isFalse h, _ => isFalse fun e => h (List.cons.inj e).1
    | _, isFalse h' => isFalse fun e => h' (List.cons.inj e).2
  | [], _ :: _ | _ :: _, [] => isFalse fun e => nomatch e
end

instance : DecidableEq Node := Node.decEq

deriving instance DecidableEq for Document

end Xml

/-! ## Blank texts -/

namespace Text

instance : DecidablePred Blank := fun s => inferInstanceAs (Decidable (∀ c ∈ s.toList, _))

/-- A text trims to nothing exactly when it is all blank. -/
theorem trim_isEmpty_iff (s : String) : (trim s).isEmpty = true ↔ Blank s := by
  -- what is left after the blanks in front starts with a character that is not blank
  have hfront : ∀ cs : List Char,
      (∀ c ∈ cs.dropWhile isBlank, isBlank c = true) ↔ cs.dropWhile isBlank = [] := by
    intro cs
    constructor
    · intro h
      by_contra hne
      have hhead := List.head_dropWhile_not isBlank hne
      rw [h _ (List.head_mem hne)] at hhead
      exact Bool.noConfusion hhead
    · intro h c hc
      rw [h] at hc
      exact absurd hc List.not_mem_nil
  rw [trim, String.isEmpty_iff, ← String.ofList_nil, String.ofList_inj, trimChars,
    List.reverse_eq_nil_iff, List.dropWhile_eq_nil_iff]
  simp only [List.mem_reverse]
  rw [hfront, List.dropWhile_eq_nil_iff]
  rfl

end Text

namespace Description

open Xml

/-! ## Checks -/

/-- A required value is given: the first child element of that name has text that is not all
blank. -/
def Filled (n : Node) (tag : String) : Prop :=
  ∃ c, n.child? tag = some c ∧ ¬ Text.Blank (c.text?.getD "")

instance (n : Node) (tag : String) : Decidable (Filled n tag) :=
  match h : n.child? tag with
  | some c =>
    if hb : Text.Blank (c.text?.getD "") then isFalse (by simp [Filled, h, hb])
    else isTrue ⟨c, h, hb⟩
  | none => isFalse (by simp [Filled, h])

/-- The checks of an element in the order of reading: those of its `tag` children under
`container` elements, each listed by `sub`, then its own required values `own`. -/
def walk (sub : Node → List (Node × String)) (container tag : String) (own : List String)
    (n : Node) : List (Node × String) :=
  (grandchildren n container tag).flatMap sub ++ own.map (n, ·)

/-- The check of a field: its name. -/
def fieldChecks (n : Node) : List (Node × String) := [(n, "name")]

/-- The checks of a register: its fields', then its name and offset. -/
def registerChecks : Node → List (Node × String) :=
  walk fieldChecks "fields" "field" ["name", "addressOffset"]

/-- The checks of a peripheral: its registers', then its name and base address. -/
def peripheralChecks : Node → List (Node × String) :=
  walk registerChecks "registers" "register" ["name", "baseAddress"]

/-- The checks of a device: its peripherals', then its name. -/
def deviceChecks : Node → List (Node × String) :=
  walk peripheralChecks "peripherals" "peripheral" ["name"]

/-- The first check of a list that fails. -/
def firstMissing (cs : List (Node × String)) : Option (Node × String) :=
  cs.find? fun c => !decide (Filled c.1 c.2)

/-- The fault of a failed check: the element, the tag it lacks and the element's row. -/
def missing (c : Node × String) : SourceError := .missingElement c.1.name c.2 c.1.row

/-- The outcome of a list of checks: the fault of the first that fails, or `x`. -/
def verdict {α : Type} (cs : List (Node × String)) (x : α) : Except SourceError α :=
  match firstMissing cs with
  | some c => .error (missing c)
  | none => .ok x

/-- A device element with every required value given: its name, the name and base address of
each peripheral, the name and offset of each of their registers, and the name of each of their
fields. -/
def Wellformed (root : Node) : Prop :=
  Filled root "name" ∧
  ∀ p ∈ grandchildren root "peripherals" "peripheral", (Filled p "name" ∧ Filled p "baseAddress") ∧
    ∀ r ∈ grandchildren p "registers" "register", (Filled r "name" ∧ Filled r "addressOffset") ∧
      ∀ f ∈ grandchildren r "fields" "field", Filled f "name"

/-! ## Elements read without their checks -/

/-- A field element, a required value that is absent read as empty. -/
def fieldOf (n : Node) : BitField :=
  { name := (value n "name").getD "", description := description n,
    bitOffset := value n "bitOffset", bitWidth := value n "bitWidth",
    bitRange := value n "bitRange", lsb := value n "lsb", msb := value n "msb",
    access := value n "access" }

/-- A register element with the fields of all its `<fields>`, in document order. -/
def registerOf (n : Node) : Register :=
  { name := (value n "name").getD "", description := description n,
    addressOffset := (value n "addressOffset").getD "", size := value n "size",
    access := value n "access", resetValue := value n "resetValue",
    fields := (grandchildren n "fields" "field").map fieldOf }

/-- A peripheral element with the registers of all its `<registers>`, in document order. -/
def peripheralOf (n : Node) : Peripheral :=
  { name := (value n "name").getD "", description := description n,
    baseAddress := (value n "baseAddress").getD "", groupName := value n "groupName",
    derivedFrom := derivedFrom n,
    registers := (grandchildren n "registers" "register").map registerOf }

/-- A device element with the peripherals of all its `<peripherals>`, in document order. -/
def deviceOf (n : Node) : Device :=
  { name := (value n "name").getD "", description := description n,
    peripherals := (grandchildren n "peripherals" "peripheral").map peripheralOf }

/-! ## Verdicts -/

theorem firstMissing_append (cs ds : List (Node × String)) :
    firstMissing (cs ++ ds) = (firstMissing cs).or (firstMissing ds) :=
  List.find?_append

theorem firstMissing_eq_none_iff {cs : List (Node × String)} :
    firstMissing cs = none ↔ ∀ c ∈ cs, Filled c.1 c.2 := by
  simp [firstMissing]

theorem firstMissing_eq_some_iff {cs : List (Node × String)} {c : Node × String} :
    firstMissing cs = some c ↔
      ∃ pre post, cs = pre ++ c :: post ∧ (∀ d ∈ pre, Filled d.1 d.2) ∧ ¬ Filled c.1 c.2 := by
  simp only [firstMissing, List.find?_eq_some_iff_append, Bool.not_not, decide_eq_true_eq,
    Bool.not_eq_true', decide_eq_false_iff_not]
  constructor
  · rintro ⟨hc, pre, post, rfl, hpre⟩
    exact ⟨pre, post, rfl, hpre, hc⟩
  · rintro ⟨pre, post, rfl, hpre, hc⟩
    exact ⟨hc, pre, post, rfl, hpre⟩

section Verdict

variable {α β : Type}

theorem verdict_pure (cs : List (Node × String)) (x : α) (g : α → β) :
    (verdict cs x >>= fun a => pure (g a)) = verdict cs (g x) := by
  unfold verdict
  cases firstMissing cs <;> rfl

theorem verdict_seq (cs ds : List (Node × String)) (x : α) (g : α → β) :
    (verdict cs x >>= fun a => verdict ds (g a)) = verdict (cs ++ ds) (g x) := by
  unfold verdict
  rw [firstMissing_append]
  cases firstMissing cs <;> rfl

theorem verdict_eq_ok_iff {cs : List (Node × String)} {x y : α} :
    verdict cs x = .ok y ↔ (∀ c ∈ cs, Filled c.1 c.2) ∧ x = y := by
  rw [← firstMissing_eq_none_iff]
  unfold verdict
  cases firstMissing cs <;> simp

theorem verdict_eq_error_iff {cs : List (Node × String)} {x : α} {e : SourceError} :
    verdict cs x = .error e ↔ ∃ c, firstMissing cs = some c ∧ e = missing c := by
  unfold verdict
  cases firstMissing cs <;> simp [eq_comm]

/-- Reading the elements of a list one by one, stopping at the first fault, is the verdict of
all their checks in turn. -/
theorem mapM_eq_verdict {f : Node → Except SourceError β} {chk : Node → List (Node × String)}
    {view : Node → β} (l : List Node) (h : ∀ n ∈ l, f n = verdict (chk n) (view n)) :
    l.mapM f = verdict (l.flatMap chk) (l.map view) := by
  induction l with
  | nil => rfl
  | cons n l ih =>
    rw [List.mapM_cons, h n List.mem_cons_self,
      ih fun m hm => h m (List.mem_cons_of_mem n hm)]
    simp only [verdict_pure, verdict_seq, List.flatMap_cons, List.map_cons]

end Verdict

/-! ## Each reader is the verdict of its checks -/

/-- A required value is given exactly when the value read, trimmed, is not empty. -/
theorem filled_iff_value (n : Node) (tag : String) :
    Filled n tag ↔ ∃ v, value n tag = some v ∧ v.isEmpty = false := by
  unfold Filled value
  cases n.child? tag with
  | none => simp
  | some c => simp [← Text.trim_isEmpty_iff]

theorem required_eq (n : Node) (tag : String) :
    required n tag = verdict [(n, tag)] ((value n tag).getD "") := by
  have hfilled := filled_iff_value n tag
  unfold required verdict firstMissing
  cases hv : value n tag with
  | none => simp [hfilled, hv, missing]
  | some v => by_cases he : v = "" <;> simp [hfilled, hv, he, missing]

theorem field_eq (n : Node) : field n = verdict (fieldChecks n) (fieldOf n) := by
  rw [field, required_eq]
  simp only [verdict_pure]
  rfl

theorem register_eq (n : Node) : register n = verdict (registerChecks n) (registerOf n) := by
  rw [register, mapM_eq_verdict _ fun m _ => field_eq m, required_eq, required_eq]
  simp only [verdict_pure, verdict_seq]
  rfl

theorem peripheral_eq (n : Node) : peripheral n = verdict (peripheralChecks n) (peripheralOf n) := by
  rw [peripheral, mapM_eq_verdict _ fun m _ => register_eq m, required_eq, required_eq]
  simp only [verdict_pure, verdict_seq]
  rfl

/-! ## Well-formed elements -/

theorem forall_walk_iff (sub : Node → List (Node × String)) (container tag : String)
    (own : List String) (n : Node) :
    (∀ c ∈ walk sub container tag own n, Filled c.1 c.2) ↔
      (∀ t ∈ own, Filled n t) ∧ ∀ m ∈ grandchildren n container tag, ∀ c ∈ sub m, Filled c.1 c.2 := by
  simp only [walk, List.forall_mem_append, List.forall_mem_flatMap, List.forall_mem_map]
  exact and_comm

/-- The checks of a device all pass exactly when it is well formed. -/
theorem forall_deviceChecks_iff (root : Node) :
    (∀ c ∈ deviceChecks root, Filled c.1 c.2) ↔ Wellformed root := by
  simp only [deviceChecks, peripheralChecks, registerChecks, fieldChecks, forall_walk_iff,
    List.forall_mem_cons, List.mem_nil_iff, false_implies, implies_true, and_true, Wellformed]

end Description

/-! ## Reading a device -/

namespace Device

open Description

/-- Reading a document whose root is `<device>` is the verdict of the root's checks. -/
theorem read_eq_verdict {text : String} {doc : Xml.Document} (hxml : Xml.read text = .ok doc)
    (hdev : doc.root.isNamed "device" = true) :
    read text = verdict (deviceChecks doc.root) (deviceOf doc.root) := by
  rw [read, hxml]
  show (if (!doc.root.isNamed "device") = true then _ else _) = _
  simp only [hdev, Bool.not_true, Bool.false_eq_true, if_false]
  rw [mapM_eq_verdict _ fun m _ => peripheral_eq m, required_eq]
  simp only [verdict_pure, verdict_seq]
  rfl

/-- **Reading a device description.** A document whose root is `<device>` is read exactly when
it is well formed, and then as its root read without checks. Otherwise the fault reported is that
of the first check that fails, in the order of the walk: an element's children are checked before
its own values, a peripheral's name before its base address and a register's name before its
offset. -/
theorem read_checks_post_order (text : String) (doc : Xml.Document)
    (hxml : Xml.read text = .ok doc) (hdev : doc.root.isNamed "device" = true) :
    ((∃ d, read text = .ok d) ↔ Wellformed doc.root) ∧
    (∀ d, read text = .ok d → d = deviceOf doc.root) ∧
    (∀ e, read text = .error e ↔ ∃ pre n tag post,
      deviceChecks doc.root = pre ++ (n, tag) :: post ∧ (∀ c ∈ pre, Filled c.1 c.2) ∧
        ¬ Filled n tag ∧ e = .missingElement n.name tag n.row) := by
  rw [read_eq_verdict hxml hdev]
  refine ⟨?_, fun d h => (verdict_eq_ok_iff.1 h).2.symm, fun e => ?_⟩
  · rw [← forall_deviceChecks_iff]
    constructor
    · rintro ⟨d, h⟩
      exact (verdict_eq_ok_iff.1 h).1
    · intro h
      exact ⟨_, verdict_eq_ok_iff.2 ⟨h, rfl⟩⟩
  · rw [verdict_eq_error_iff]
    constructor
    · rintro ⟨⟨n, tag⟩, hfirst, rfl⟩
      obtain ⟨pre, post, hsplit, hpre, hmiss⟩ := firstMissing_eq_some_iff.1 hfirst
      exact ⟨pre, n, tag, post, hsplit, hpre, hmiss, rfl⟩
    · rintro ⟨pre, n, tag, post, hsplit, hpre, hmiss, rfl⟩
      exact ⟨(n, tag), firstMissing_eq_some_iff.2 ⟨pre, post, hsplit, hpre, hmiss⟩, rfl⟩

/-- A register without a name in a peripheral without a base address: the register is read
first, so the fault is its name. -/
theorem read_register_name_before_base_address :
    Xml.read ("<device><name>D</name><peripherals><peripheral><name>P</name><registers>" ++
        "<register><addressOffset>0</addressOffset></register>" ++
        "</registers></peripheral></peripherals></device>") =
      .ok ⟨[.element "" "device" 1 [] [.element "" "name" 1 [] [.text "D"],
        .element "" "peripherals" 1 [] [.element "" "peripheral" 1 []
          [.element "" "name" 1 [] [.text "P"], .element "" "registers" 1 []
            [.element "" "register" 1 [] [.element "" "addressOffset" 1 [] [.text "0"]]]]]]]⟩ ∧
    read ("<device><name>D</name><peripherals><peripheral><name>P</name><registers>" ++
        "<register><addressOffset>0</addressOffset></register>" ++
        "</registers></peripheral></peripherals></device>") =
      .error (.missingElement "register" "name" 1) := by
  refine ⟨?hxml, ((read_checks_post_order _ _ ?hxml (by decide +kernel)).2.2 _).2
    ⟨[], .element "" "register" 1 [] [.element "" "addressOffset" 1 [] [.text "0"]], "name",
      _, (List.cons_head?_tail (by decide +kernel)).symm, by simp, by decide +kernel, rfl⟩⟩
  case hxml => decide +kernel

end Device

end RegisterAtlas
