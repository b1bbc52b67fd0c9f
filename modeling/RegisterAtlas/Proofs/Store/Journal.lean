import RegisterAtlas.Proofs.Store.Entry
import RegisterAtlas.Store.File
/-!
# Journal files read back

A journal file is the header line and then one entry line per accepted insert, each ended by a
line feed. `readJournal` splits the file at line feeds, checks the header and replays the
entries into tables. This module shows that the lines come apart as they were written and that
each entry line replays as the insert that wrote it.

The writer escapes every control character of a text, so an entry line holds no byte below a
space: no line feed splits it and no carriage return is dropped from it.

* `printable_entryLine`: an entry line of a row whose ids fit holds no control byte.
* `splitLines_lines`: lines without control bytes, each ended by a line feed, split back into
  themselves.
* `replayLines_append`: replaying lines one after another replays the first and then the rest.
* `replayLines_entryLine`: an entry line replays as its row appended to its table, provided its
  id is above the table's last id.
* `JournalOf`, `readJournal_of_journalOf`, `JournalOf.append`: a file of a header and entry lines
  reads back as the tables its lines replay to, and stays so when a line is appended.
-/

namespace RegisterAtlas

open Json

/-! ## Printable bytes -/

/-- Bytes with no ASCII control byte among them. -/
def Printable (bs : List UInt8) : Prop := ∀ b ∈ bs, 32 ≤ b.toNat

instance (bs : List UInt8) : Decidable (Printable bs) :=
  List.decidableBAll (fun b : UInt8 => 32 ≤ b.toNat) bs

@[simp] theorem printable_nil : Printable [] := by
  simp [Printable]

@[simp] theorem printable_cons {b : UInt8} {bs : List UInt8} :
    Printable (b :: bs) ↔ 32 ≤ b.toNat ∧ Printable bs := by
  simp [Printable]

@[simp] theorem printable_append {bs cs : List UInt8} :
    Printable (bs ++ cs) ↔ Printable bs ∧ Printable cs := by
  simp only [Printable, List.mem_append]
  exact ⟨fun h => ⟨fun b hb => h b (.inl hb), fun b hb => h b (.inr hb)⟩,
    fun h b hb => hb.elim (h.1 b) (h.2 b)⟩

theorem printable_flatMap {xs : List α} {f : α → List UInt8} (h : ∀ x ∈ xs, Printable (f x)) :
    Printable (xs.flatMap f) := by
  intro b hb
  obtain ⟨x, hx, hbx⟩ := List.mem_flatMap.1 hb
  exact h x hx b hbx

/-- The control characters are written as escapes of printable bytes. -/
theorem printable_control : ∀ n < 32, Printable (escapedBytes (Char.ofNat n)) := by
  decide

theorem printable_escapedBytes (c : Char) : Printable (escapedBytes c) := by
  by_cases hq : c = '"'
  · subst hq
    decide
  by_cases hb : c = '\\'
  · subst hb
    decide
  by_cases hc : 0x20 ≤ c.toNat
  · intro b hmem
    rw [escapedBytes, escapeChar_of_plain hq hb hc, List.flatMap_singleton] at hmem
    have hlow := (plainByte_of_mem_utf8 hq hb hc hmem).2.2
    rw [UInt8.lt_iff_toNat_lt] at hlow
    simp only [UInt8.reduceToNat] at hlow
    omega
  · have h := printable_control c.toNat (by omega)
    rwa [Char.ofNat_toNat] at h

theorem printable_quoteString (s : String) : Printable (textBytes (quoteString s)) := by
  rw [textBytes_quoteString]
  simp only [printable_cons, printable_append]
  exact ⟨by decide, printable_flatMap fun c _ => printable_escapedBytes c, by decide⟩

theorem printable_toString (n : Nat) : Printable (textBytes (toString n)) := by
  rw [textBytes_toString]
  refine printable_flatMap fun d hd => ?_
  have hdig : d.isDigit := Nat.isDigit_of_mem_toDigits (by decide) (by decide) hd
  have hrange : 48 ≤ d.toNat ∧ d.toNat ≤ 57 := by
    simpa [Char.isDigit, UInt32.le_iff_toNat_le] using hdig
  obtain ⟨hbyte, -, hval⟩ := utf8_digit hdig
  rw [hbyte, printable_cons, hval]
  exact ⟨by omega, printable_nil⟩

theorem printable_scalar {v : JsonValue} (hv : Scalar v) (fmt : Float → String) :
    Printable (textBytes (v.renderWith fmt)) := by
  cases hv with
  | str s => exact printable_quoteString s
  | nat hn => exact printable_toString _
  | neg hneg hmin =>
    show Printable (textBytes (toString _))
    rw [textBytes_toString_neg hneg, printable_cons]
    exact ⟨by decide, printable_toString _⟩

theorem printable_flatObject {kv : String × JsonValue} {kvs : List (String × JsonValue)}
    (hs : ∀ m ∈ kv :: kvs, Scalar m.2) (fmt : Float → String) :
    Printable (textBytes ((JsonValue.obj (kv :: kvs)).renderWith fmt)) := by
  have hmember : ∀ m ∈ kv :: kvs, Printable (textBytes (memberText fmt m)) := by
    rintro ⟨k, v⟩ hm
    rw [textBytes_memberText, printable_append, printable_cons]
    exact ⟨printable_quoteString k, by decide, printable_scalar (hs _ hm) fmt⟩
  have hmore : Printable (moreMembers fmt kvs) := printable_flatMap fun m hm => by
    rw [printable_cons]
    exact ⟨by decide, hmember m (List.mem_cons_of_mem _ hm)⟩
  rw [textBytes_obj, printable_cons, printable_append, printable_append]
  exact ⟨by decide, ⟨hmember kv List.mem_cons_self, hmore⟩, by decide⟩

/-- An entry line of a row whose ids fit holds no control byte. -/
theorem printable_entryLine {id : RowId} {row : Row} (hid : id.Fits) (hrow : row.Fits) :
    Printable (textBytes (entryLine id row)) := by
  obtain ⟨kv, rest, hj⟩ := toJson_cons row
  rw [textBytes_entryLine, hj]
  simp [printable_quoteString, printable_scalar (scalar_idJson hid),
    printable_flatObject (scalars_of_toJson hrow hj)]

theorem printable_headerLine : Printable (textBytes headerLine) := by
  decide

/-! ## Lines -/

theorem splitLines_go_byte {b : UInt8} (hb : b ≠ 10) (rest cur : List UInt8) :
    splitLines.go (b :: rest) cur = splitLines.go rest (b :: cur) := by
  rw [splitLines.go.eq_def]
  simp [hb]

theorem splitLines_go_lineFeed {cur : List UInt8} (hcur : ∀ more, cur = 13 :: more → False)
    (rest : List UInt8) : splitLines.go (10 :: rest) cur = cur.reverse :: splitLines.go rest [] := by
  rw [splitLines.go.eq_3 _ _ _ hcur, if_pos rfl]

/-- The bytes of a line that holds no line feed are gathered, last first. -/
theorem splitLines_go_append {line : List UInt8} (h : Printable line) (rest cur : List UInt8) :
    splitLines.go (line ++ rest) cur = splitLines.go rest (line.reverse ++ cur) := by
  induction line generalizing cur with
  | nil => rfl
  | cons b line ih =>
    rw [printable_cons] at h
    have hb : b ≠ 10 := by
      intro e
      subst e
      simp at h
    rw [List.cons_append, splitLines_go_byte hb, ih h.2]
    simp

/-- A line feed ends the line gathered so far; a printable line loses no carriage return. -/
theorem splitLines_go_newline {line : List UInt8} (h : Printable line) (rest : List UInt8) :
    splitLines.go (line ++ 10 :: rest) [] = line :: splitLines.go rest [] := by
  have hcr : ∀ more, line.reverse ++ [] = 13 :: more → False := by
    intro more hcur
    have hmem : (13 : UInt8) ∈ line := by
      rw [← List.mem_reverse, ← List.append_nil line.reverse, hcur]
      exact List.mem_cons_self
    have h13 := h 13 hmem
    simp at h13
  rw [splitLines_go_append h, splitLines_go_lineFeed hcr, List.append_nil, List.reverse_reverse]

/-- **Lines split back.** Printable lines, each ended by a line feed, are the lines of their
concatenation. -/
theorem splitLines_lines {ls : List (List UInt8)} (h : ∀ l ∈ ls, Printable l) :
    splitLines (ls.flatMap (· ++ [10])) = ls := by
  show splitLines.go _ [] = ls
  induction ls with
  | nil => rfl
  | cons l ls ih =>
    rw [List.flatMap_cons, List.append_assoc, List.singleton_append,
      splitLines_go_newline (h l List.mem_cons_self),
      ih fun l' hl' => h l' (List.mem_cons_of_mem _ hl')]

theorem lineText_textBytes (s : String) : lineText (textBytes s) = some s :=
  fromUTF8?_textBytes s

/-- A text between braces is not blank. -/
theorem trim_braces {s : String} {mid : List Char} (h : s.toList = '{' :: (mid ++ ['}'])) :
    (Text.trim s).isEmpty = false := by
  have hopen : Text.isBlank '{' = false := by decide
  have hclose : Text.isBlank '}' = false := by decide
  have hrev : ('{' :: (mid ++ ['}'])).reverse = '}' :: (mid.reverse ++ ['{']) := by simp
  simp [Text.trim, Text.trimChars, h, hopen, hclose, hrev]

theorem trim_entryLine (id : RowId) (row : Row) : (Text.trim (entryLine id row)).isEmpty = false :=
  @trim_braces _ (renderMembers showFloat
    [("table", .str row.table.name), ("id", idJson id), ("row", row.toJson)]).toList
    (by simp [entryLine, render, JsonValue.renderWith])

/-! ## Replaying entries -/

/-- A row appended to its table with the given id. -/
def Tables.add (t : Tables) (id : RowId) : Row → Tables
  | .mpu r => t.push (⟨id, r⟩ : Stored MpuRow)
  | .peripheral r => t.push (⟨id, r⟩ : Stored PeripheralRow)
  | .register r => t.push (⟨id, r⟩ : Stored RegisterRow)
  | .field r => t.push (⟨id, r⟩ : Stored FieldRow)

/-- The ids of a table, in order. -/
def Tables.ids (t : Tables) : Table → List RowId
  | .mpus => t.mpus.toList.map (·.id)
  | .peripherals => t.peripherals.toList.map (·.id)
  | .registers => t.registers.toList.map (·.id)
  | .fields => t.fields.toList.map (·.id)

/-- A replayed row whose id is above every id of its table is appended to it. -/
theorem replay_of_lt [Entity α] (t : Tables) {id : RowId} (r : α)
    (h : ∀ x ∈ (Entity.rows t : Array (Stored α)).toList.map (·.id), x < id) :
    t.replay id r = .ok (t.push (⟨id, r⟩ : Stored α)) := by
  unfold Tables.replay
  cases hlast : (Entity.rows t : Array (Stored α)).back? with
  | none => rfl
  | some last =>
    have hmem : last ∈ (Entity.rows t : Array (Stored α)).toList := by
      rw [Array.mem_toList_iff]
      exact Array.mem_of_back? hlast
    have hlt := h last.id (List.mem_map_of_mem hmem)
    simp only
    rw [if_neg (Int.not_le.2 hlt)]

/-- An entry as its line reads back replays as its row appended to its table. -/
theorem replayEntry_toJson (t : Tables) {row : Row} (hrow : row.Fits)
    {kvs : List (String × JsonValue)} (hj : row.toJson = .obj kvs) {id : RowId}
    (hfresh : ∀ x ∈ t.ids row.table, x < id) :
    t.replayEntry ⟨row.table, id, .obj (toMap kvs)⟩ = .ok (t.add id row) := by
  simp only [Tables.replayEntry, decode_toJson hrow hj]
  cases row <;> exact replay_of_lt t _ hfresh

/-- Replaying lines one after another: the first ones, then the rest from the tables they give. -/
theorem replayLines_append (p : String) (t : Tables) (n : Nat) (ls ls' : List (List UInt8)) :
    replayLines p t n (ls ++ ls') =
      match replayLines p t n ls with
      | .ok t' => replayLines p t' (n + ls.length) ls'
      | .error e => .error e := by
  induction ls generalizing t n with
  | nil => rfl
  | cons l ls ih =>
    simp only [List.cons_append, replayLines, List.length_cons]
    split
    · rfl
    · split
      · rw [ih, Nat.add_assoc, Nat.add_comm 1]
      · split
        · rfl
        · split
          · rfl
          · rw [ih, Nat.add_assoc, Nat.add_comm 1]

/-- An entry line replays as its row appended to its table. -/
theorem replayLines_entryLine (p : String) (t : Tables) (n : Nat) {id : RowId} {row : Row}
    (hid : id.Fits) (hrow : row.Fits) (hfresh : ∀ x ∈ t.ids row.table, x < id) :
    replayLines p t n [textBytes (entryLine id row)] = .ok (t.add id row) := by
  obtain ⟨kv, rest, hj⟩ := toJson_cons row
  simp [replayLines, lineText_textBytes, trim_entryLine, readEntry_entryLine hid hrow hj,
    replayEntry_toJson t hrow hj hfresh]

/-! ## Journal files -/

/-- A file of the header line and then printable lines, each ended by a line feed, whose replay
gives the tables `t`. -/
def JournalOf (p : String) (bytes : List UInt8) (t : Tables) : Prop :=
  ∃ ls : List (List UInt8), bytes = (textBytes headerLine :: ls).flatMap (· ++ [10]) ∧
    (∀ l ∈ ls, Printable l) ∧ replayLines p {} 2 ls = .ok t

/-- A new store file holds the header line alone, and no rows. -/
theorem journalOf_header (p : String) : JournalOf p (textBytes headerLine ++ [10]) {} :=
  ⟨[], by simp, by simp, rfl⟩

/-- **Journal files read back.** A journal file reads back as the tables its entry lines
replay to. -/
theorem readJournal_of_journalOf {p : String} {bytes : List UInt8} {t : Tables}
    (h : JournalOf p bytes t) : readJournal p bytes = .ok t := by
  obtain ⟨ls, rfl, hprint, hreplay⟩ := h
  have hheader : readHeader headerLine = true := by decide
  have hall : ∀ l ∈ textBytes headerLine :: ls, Printable l := by
    intro l hl
    rcases List.mem_cons.1 hl with rfl | hl
    · exact printable_headerLine
    · exact hprint l hl
  have hlines := splitLines_lines hall
  simp only [readJournal]
  rw [hlines]
  simp [lineText_textBytes, hheader, hreplay]

/-- Appending the entry line of a row whose id is above its table's ids keeps a journal file
reading back, as the tables with that row appended. -/
theorem JournalOf.append {p : String} {bytes : List UInt8} {t : Tables} (h : JournalOf p bytes t)
    {id : RowId} {row : Row} (hid : id.Fits) (hrow : row.Fits)
    (hfresh : ∀ x ∈ t.ids row.table, x < id) :
    JournalOf p (bytes ++ (textBytes (entryLine id row) ++ [10])) (t.add id row) := by
  obtain ⟨ls, rfl, hprint, hreplay⟩ := h
  refine ⟨ls ++ [textBytes (entryLine id row)], by simp, ?_, ?_⟩
  · intro l hl
    rcases List.mem_append.1 hl with hl | hl
    · exact hprint l hl
    · rw [List.mem_singleton.1 hl]
      exact printable_entryLine hid hrow
  · rw [replayLines_append, hreplay]
    exact replayLines_entryLine p t _ hid hrow hfresh

end RegisterAtlas
