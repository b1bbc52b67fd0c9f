import RegisterAtlas.Proofs.Json.Object
import RegisterAtlas.Store.Codec
/-!
# Journal lines read back

Every insert into a journal store writes one line, `entryLine id row`; opening the store reads
each line back with `readEntry` and decodes its row with `Row.decode`. This module shows that
the two agree for every row whose ids fit the store's 64-bit columns.

* `RowId.Fits`, `Row.Fits`: an id within 64 bits, and a row whose ids all are.
* `readEntry_entryLine`: an entry line reads back as its table, its id and the map of its row's
  members.
* `decode_toJson`: the map of a row's members decodes as the row (absent optional fields are
  left out on writing and taken as absent on reading).
-/

namespace RegisterAtlas

open Json

/-- An id that a 64-bit signed column holds. -/
def RowId.Fits (i : RowId) : Prop := minId ≤ i ∧ i ≤ maxId

/-- A row whose ids all fit 64-bit signed columns. -/
def Row.Fits : Row → Prop
  | .mpu _ => True
  | .peripheral r => r.mpuId.Fits ∧ ∀ i ∈ r.derivedFromId, i.Fits
  | .register r => r.peripheralId.Fits
  | .field r => r.registerId.Fits

instance : DecidablePred RowId.Fits := fun i => inferInstanceAs (Decidable (minId ≤ i ∧ i ≤ maxId))

instance : DecidablePred Row.Fits
  | .mpu _ => inferInstanceAs (Decidable True)
  | .peripheral r => inferInstanceAs (Decidable (r.mpuId.Fits ∧ ∀ i ∈ r.derivedFromId, i.Fits))
  | .register r => inferInstanceAs (Decidable r.peripheralId.Fits)
  | .field r => inferInstanceAs (Decidable r.registerId.Fits)

/-! ## Ids and words as values -/

theorem fits_iff {i : Int} :
    RowId.Fits i ↔ -9223372036854775808 ≤ i ∧ i ≤ 9223372036854775807 := by
  simp [RowId.Fits, minId, maxId]

theorem scalar_idJson {i : Int} (h : RowId.Fits i) : Scalar (idJson i) := by
  rw [fits_iff] at h
  by_cases hi : 0 ≤ i
  · rw [idJson, if_pos hi]
    exact .nat (by rw [u64Max_eq]; omega)
  · rw [idJson, if_neg hi]
    exact .neg (by omega) (by omega)

theorem scalar_word (w : UInt32) : Scalar (.number (.nat w.toNat)) :=
  .nat (by rw [u64Max_eq]; have := w.toNat_lt; omega)

theorem decodeId_idJson {i : Int} (h : RowId.Fits i) : decodeId (idJson i) = .ok (.id i) := by
  rw [fits_iff] at h
  by_cases hi : 0 ≤ i
  · have hle : i.toNat ≤ Nat.pow 2 63 - 1 := by rw [Nat.pow_eq]; omega
    rw [idJson, if_pos hi, decodeId, if_pos hle, Int.toNat_of_nonneg hi]
  · rw [idJson, if_neg hi, decodeId]

theorem decodeWord_word (w : UInt32) : decodeWord (.number (.nat w.toNat)) = .ok (.word w) := by
  have hle : w.toNat ≤ Nat.pow 2 32 - 1 := by rw [Nat.pow_eq]; have := w.toNat_lt; omega
  rw [decodeWord, if_pos hle]
  simp

/-! ## Rows -/

theorem scalar_of_mem_optMember {k : String} {o : Option String} {m : String × JsonValue}
    (h : m ∈ optMember k o) : Scalar m.2 := by
  cases o with
  | none => simp [optMember] at h
  | some s =>
    simp only [optMember, List.mem_singleton] at h
    subst h
    exact .str s

theorem scalar_of_mem_optIdMember {k : String} {o : Option RowId} (ho : ∀ i ∈ o, RowId.Fits i)
    {m : String × JsonValue} (h : m ∈ optIdMember k o) : Scalar m.2 := by
  cases o with
  | none => simp [optIdMember] at h
  | some i =>
    simp only [optIdMember, List.mem_singleton] at h
    subst h
    exact scalar_idJson (ho i rfl)

/-- A row is written as an object of scalars. -/
theorem scalars_of_toJson {row : Row} (h : row.Fits) {kvs : List (String × JsonValue)}
    (hj : row.toJson = .obj kvs) : ∀ m ∈ kvs, Scalar m.2 := by
  cases row with
  | mpu r =>
    simp only [Row.toJson, JsonValue.obj.injEq] at hj
    subst hj
    intro m hm
    simp only [List.mem_append, List.mem_singleton] at hm
    rcases hm with rfl | hm
    · exact .str _
    · exact scalar_of_mem_optMember hm
  | peripheral r =>
    obtain ⟨hm, hd⟩ := h
    simp only [Row.toJson, JsonValue.obj.injEq] at hj
    subst hj
    intro m hmem
    simp only [List.mem_append, List.mem_cons, List.not_mem_nil, or_false] at hmem
    rcases hmem with ((rfl | hmem) | rfl | rfl) | hmem
    · exact scalar_idJson hm
    · exact scalar_of_mem_optIdMember hd hmem
    · exact .str _
    · exact .str _
    · exact scalar_of_mem_optMember hmem
  | register r =>
    simp only [Row.toJson, JsonValue.obj.injEq] at hj
    subst hj
    intro m hmem
    simp only [List.mem_append, List.mem_cons, List.not_mem_nil, or_false] at hmem
    rcases hmem with ((rfl | rfl | rfl) | hmem) | hmem
    · exact scalar_idJson h
    · exact .str _
    · exact .str _
    · exact scalar_of_mem_optMember hmem
    · exact scalar_of_mem_optMember hmem
  | field r =>
    simp only [Row.toJson, JsonValue.obj.injEq] at hj
    subst hj
    intro m hmem
    simp only [List.mem_append, List.mem_cons, List.not_mem_nil, or_false] at hmem
    rcases hmem with (rfl | rfl | rfl | rfl) | hmem
    · exact scalar_idJson h
    · exact .str _
    · exact scalar_word _
    · exact scalar_word _
    · exact scalar_of_mem_optMember hmem

/-- A row is written as a non-empty object. -/
theorem toJson_cons (row : Row) : ∃ kv kvs, row.toJson = .obj (kv :: kvs) := by
  cases row <;> exact ⟨_, _, rfl⟩

@[simp] theorem decodeOptional_str (decode : JsonValue → Except ReadError Slot) (s : String) :
    decodeOptional decode (.str s) = decode (.str s) := rfl

theorem decodeOptional_idJson (i : RowId) :
    decodeOptional decodeId (idJson i) = decodeId (idJson i) := by
  unfold idJson
  split <;> rfl

/-- **Rows read back.** The map of a row's written members decodes as the row: each field is
found under its key, and an optional field that was left out is taken as absent. -/
theorem decode_toJson {row : Row} (h : row.Fits) {kvs : List (String × JsonValue)}
    (hj : row.toJson = .obj kvs) : Row.decode row.table (.obj (toMap kvs)) = .ok row := by
  cases row with
  | mpu r =>
    simp only [Row.toJson, JsonValue.obj.injEq] at hj
    subst hj
    rcases r with ⟨name, _ | d⟩ <;>
      simp [toMap, insertMember, Row.decode, Row.table, decodeRecord, required,
        RegisterAtlas.optional, decodeText, Slot.text?, List.findIdx?_cons, -String.lt_iff_ltb, bind, Except.bind, pure,
        Except.pure, optMember]
  | peripheral r =>
    obtain ⟨hm, hd⟩ := h
    simp only [Row.toJson, JsonValue.obj.injEq] at hj
    subst hj
    rcases r with ⟨mpuId, _ | df, name, base, _ | d⟩
    all_goals simp only at hm hd
    · simp [toMap, insertMember, Row.decode, Row.table, decodeRecord, required,
        RegisterAtlas.optional, decodeText, Slot.text?, Slot.id?,
        List.findIdx?_cons, -String.lt_iff_ltb, bind, Except.bind, pure, Except.pure, optMember, optIdMember,
        decodeId_idJson hm]
    · simp [toMap, insertMember, Row.decode, Row.table, decodeRecord, required,
        RegisterAtlas.optional, decodeText, Slot.text?, Slot.id?,
        List.findIdx?_cons, -String.lt_iff_ltb, bind, Except.bind, pure, Except.pure, optMember, optIdMember,
        decodeId_idJson hm]
    · simp [toMap, insertMember, Row.decode, Row.table, decodeRecord, required,
        RegisterAtlas.optional, decodeText, Slot.text?, Slot.id?,
        List.findIdx?_cons, -String.lt_iff_ltb, bind, Except.bind, pure, Except.pure, optMember, optIdMember,
        decodeOptional_idJson, decodeId_idJson hm, decodeId_idJson (hd df rfl)]
    · simp [toMap, insertMember, Row.decode, Row.table, decodeRecord, required,
        RegisterAtlas.optional, decodeText, Slot.text?, Slot.id?,
        List.findIdx?_cons, -String.lt_iff_ltb, bind, Except.bind, pure, Except.pure, optMember, optIdMember,
        decodeOptional_idJson, decodeId_idJson hm, decodeId_idJson (hd df rfl)]
  | register r =>
    simp only [Row.toJson, JsonValue.obj.injEq] at hj
    subst hj
    rcases r with ⟨pid, name, offset, _ | rv, _ | d⟩ <;>
      simp [toMap, insertMember, Row.decode, Row.table, decodeRecord, required,
        RegisterAtlas.optional, decodeText, Slot.text?, Slot.id?, List.findIdx?_cons, -String.lt_iff_ltb, bind,
        Except.bind, pure, Except.pure, optMember, decodeId_idJson h]
  | field r =>
    simp only [Row.toJson, JsonValue.obj.injEq] at hj
    subst hj
    rcases r with ⟨rid, name, nb, bo, _ | d⟩ <;>
      simp [toMap, insertMember, Row.decode, Row.table, decodeRecord, required,
        RegisterAtlas.optional, decodeText, Slot.text?, Slot.id?, Slot.word?, List.findIdx?_cons, -String.lt_iff_ltb,
        bind, Except.bind, pure, Except.pure, optMember, decodeId_idJson h, decodeWord_word]

/-! ## Entry lines -/

variable {src : ByteArray} {p : Nat}

/-- An id, read as a number and judged as a 64-bit signed integer, reads back as itself. -/
theorem readJudged_idJson {i : Int} (h : RowId.Fits i) (fmt : Float → String)
    (ha : Ahead src p (textBytes ((idJson i).renderWith fmt)))
    (hend : EndsNumber (src[p + (textBytes ((idJson i).renderWith fmt)).length]?.getD 0)) :
    (readJudged "i64" acceptId).exec src p =
      (.ok (.id i), p + (textBytes ((idJson i).renderWith fmt)).length) := by
  rw [fits_iff] at h
  by_cases hi : 0 ≤ i
  · simp only [idJson, if_pos hi, JsonValue.renderWith, Number.renderWith] at ha hend ⊢
    obtain ⟨b, rest, hbytes, hdig⟩ := textBytes_toString_cons i.toNat
    -- the first digit is not a minus sign: the match on the peeked byte finds it in context
    obtain ⟨hblank, -, -, -, h45⟩ := digit_not_structural hdig
    have hb := ha
    rw [hbytes] at hb
    have hle : i.toNat ≤ Nat.pow 2 63 - 1 := by rw [Nat.pow_eq]; omega
    have hnum := readNumber_unsigned (by rw [u64Max_eq]; omega) ha hend
    have haccept : acceptId (.unsigned i.toNat) = .ok (.id i) := by
      rw [acceptId, if_pos hle, Int.toNat_of_nonneg hi]
    simp [readJudged, exec_bind, skipBlanks_of_ahead hb hblank, hdig, hnum, haccept]
  · simp only [idJson, if_neg hi, JsonValue.renderWith, Number.renderWith] at ha hend ⊢
    have hsign : Ahead src p (45 :: textBytes (toString (-i).toNat)) := by
      rw [← textBytes_toString_neg (by omega)]
      exact ha
    simp [readJudged, exec_bind, skipBlanks_of_ahead hsign (by decide),
      readNumber_signed (by omega) (by omega) ha hend, acceptId]

/-- The fields of a journal entry with their readers, as `readEntry` reads them. -/
def entryFields : List (String × (Nat → ReadM EntryPart)) :=
  [("table", fun d => do
      let i ← readVariant (Table.all.map Table.name) d
      pure (.table ((Table.all[i]?).getD .mpus))),
   ("id", fun _ => readJudged "i64" acceptId),
   ("row", fun d => EntryPart.row <$> readValue d)]

theorem readEntry_eq (line : String) :
    readEntry line = match readDocument line.toUTF8 (readStruct "RawEntry" entryFields 128) with
      | .ok [.table t, .id i, .row v] => .ok ⟨t, i, v⟩
      | .ok _ => .error ⟨"", none⟩
      | .error e => .error e := rfl

theorem table_index (t : Table) :
    ∃ k, (Table.all.map Table.name).idxOf? t.name = some k ∧ Table.all[k]? = some t := by
  cases t <;> exact ⟨_, rfl, rfl⟩

variable (dflt : Nat → ReadM EntryPart)

/-- The table of an entry is read as its name. -/
theorem entryField_table (t : Table) (d : Nat) (h : Ahead src p (textBytes (quoteString t.name))) :
    (((entryFields[0]?.map (·.2)).getD dflt) d).exec src p =
      (.ok (.table t), p + (textBytes (quoteString t.name)).length) := by
  obtain ⟨k, hk, ht⟩ := table_index t
  simp [entryFields, readVariant_name hk h d, ht]

/-- The id of an entry is read as a judged number. -/
theorem entryField_id {id : RowId} (hid : RowId.Fits id) (d : Nat)
    (h : Ahead src p (textBytes ((idJson id).renderWith showFloat)))
    (hend : EndsNumber (src[p + (textBytes ((idJson id).renderWith showFloat)).length]?.getD 0)) :
    (((entryFields[1]?.map (·.2)).getD dflt) d).exec src p =
      (.ok (.id id), p + (textBytes ((idJson id).renderWith showFloat)).length) := by
  simp [entryFields, readJudged_idJson hid showFloat h hend]

/-- The row of an entry is read as a flat object. -/
theorem entryField_row {kv : String × JsonValue} {kvs : List (String × JsonValue)}
    (hs : ∀ m ∈ kv :: kvs, Scalar m.2) (d : Nat)
    (h : Ahead src p (textBytes ((JsonValue.obj (kv :: kvs)).renderWith showFloat))) :
    (((entryFields[2]?.map (·.2)).getD dflt) (d + 2)).exec src p =
      (.ok (.row (.obj (toMap (kv :: kvs)))),
        p + (textBytes ((JsonValue.obj (kv :: kvs)).renderWith showFloat)).length) := by
  simp [entryFields, readValue_flatObject hs d h]

/-- The bytes of an entry line: the table, the id and the row, each after its key. -/
theorem textBytes_entryLine (id : RowId) (row : Row) :
    textBytes (entryLine id row) =
      123 :: (textBytes (quoteString "table") ++ 58 :: (textBytes (quoteString row.table.name) ++
        44 :: (textBytes (quoteString "id") ++ 58 :: (textBytes ((idJson id).renderWith showFloat) ++
        44 :: (textBytes (quoteString "row") ++ 58 :: (textBytes (row.toJson.renderWith showFloat) ++
        [125])))))) := by
  simp [entryLine, render, textBytes_obj, textBytes_memberText]
  rfl

/-- **Entry lines read back.** The journal line of a row whose ids fit reads back as its table,
its id and the map of the members its row was written with. -/
theorem readEntry_entryLine {id : RowId} {row : Row} (hid : RowId.Fits id) (hrow : row.Fits)
    {kvs : List (String × JsonValue)} (hj : row.toJson = .obj kvs) :
    readEntry (entryLine id row) = .ok ⟨row.table, id, .obj (toMap kvs)⟩ := by
  obtain ⟨kv, rest, hcons⟩ := toJson_cons row
  obtain rfl : kvs = kv :: rest := by
    rw [hj] at hcons
    exact JsonValue.obj.inj hcons
  have hscal := scalars_of_toJson hrow hj
  obtain ⟨k, hk, ht⟩ := table_index row.table
  -- the pieces of the line and where they stand
  have hall := ahead_textBytes (entryLine id row)
  have hend := end_textBytes (entryLine id row)
  rw [textBytes_entryLine] at hall hend
  rw [readEntry_eq]
  generalize (entryLine id row).toUTF8 = src at hall hend ⊢
  have h1 := hall.tail
  rw [Nat.zero_add] at h1
  have hT := h1.left
  have h2 := h1.right
  have hN := h2.tail.left
  have h3 := h2.tail.right
  have hI := h3.tail.left
  have h4 := h3.tail.right
  have hV := h4.tail.left
  have h5 := h4.tail.right
  have hR := h5.tail.left
  have h6 := h5.tail.right
  have hW := h6.tail.left
  have h7 := h6.tail.right
  rw [hj] at hW h7 hend
  -- the three members, each a key, a colon and a value
  have hsize := hall.le_size (by simp)
  simp only [List.length_cons, List.length_append] at hsize
  obtain ⟨f, hf⟩ : ∃ f, src.size = f + 3 := ⟨src.size - 3, by omega⟩
  have hkeyI := Ahead.left (show Ahead src _ ((44 :: textBytes (quoteString "id")) ++ _) from h3)
  have hkeyR := Ahead.left (show Ahead src _ ((44 :: textBytes (quoteString "row")) ++ _) from h5)
  obtain ⟨e, hmembers, hclose, hlast⟩ : ∃ e, (readStruct.members entryFields 128 (src.size + 1) true
      (Array.replicate 3 none)).exec src 1 =
        (.ok #[some (.table row.table), some (.id id), some (.row (.obj (toMap (kv :: rest))))], e) ∧
      src[e]? = some 125 ∧ src[e + 1]? = none := by
    refine ⟨_, ?_, h7.head, (congrArg (fun n => src[n]?) (by simp; omega)).trans hend⟩
    rw [hf, readStruct_members_step (nextKey_first hT) (by decide) rfl h2.head
        (entryField_table _ row.table 127 h2.tail.left),
      readStruct_members_step (nextKey_next hkeyI) (by decide) (by simp) h4.head
        (entryField_id _ hid 127 h4.tail.left (by rw [h5.head]; decide)),
      readStruct_members_step (nextKey_next hkeyR) (by decide) (by simp) h6.head
        (entryField_row _ hscal 125 hW), readStruct_members_end h7.head]
    rfl
  have hcollect : (readStruct.collect #[some (.table row.table), some (.id id),
      some (.row (.obj (toMap (kv :: rest))))] entryFields 0).exec src e =
        (.ok [.table row.table, .id id, .row (.obj (toMap (kv :: rest)))], e) := by
    simp [readStruct.collect, entryFields]
  rw [readDocument_ok (readStruct_object (by decide) hall.head hmembers hcollect hclose) hlast]

end RegisterAtlas
