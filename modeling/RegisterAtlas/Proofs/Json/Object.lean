import RegisterAtlas.Proofs.Json.Reading
/-!
# Reading flat objects back

The store writes each row as a flat object: its members hold strings and integers within
64 bits, never arrays or objects. This module reads such texts back with the reader of
`Json.Stream`, one value, one member and one object at a time.

* `readValue_scalar`: the text of a string or of an integer within 64 bits reads back as that
  value, followed by any byte that ends a number.
* `readMembers_tail`, `readMembers_first`: the members of an object read back in order.
* `readValue_flatObject`: a flat object reads back as the map of its members.
-/

namespace RegisterAtlas.Json

/-- A value that a row holds: a string, or an integer within 64 bits. -/
inductive Scalar : JsonValue → Prop
  /-- A string. -/
  | str (s : String) : Scalar (.str s)
  /-- A non-negative integer below `2 ^ 64`. -/
  | nat {n : Nat} (h : n ≤ u64Max) : Scalar (.number (.nat n))
  /-- A negative integer of at least `-2 ^ 63`. -/
  | neg {n : Int} (hneg : n < 0) (hmin : -2 ^ 63 ≤ n) : Scalar (.number (.neg n))

variable {src : ByteArray} {i : Nat}

/-! ## Bytes that start a value -/

theorem digit_not_structural {b : UInt8} (h : isDigitByte b = true) :
    isBlankByte b = false ∧ b ≠ 110 ∧ b ≠ 116 ∧ b ≠ 102 ∧ b ≠ 45 := by
  simp only [isDigitByte, Bool.and_eq_true, decide_eq_true_eq, UInt8.le_iff_toNat_le] at h
  refine ⟨?_, fun e => ?_, fun e => ?_, fun e => ?_, fun e => ?_⟩
  · simp only [isBlankByte, Bool.or_eq_false_iff, decide_eq_false_iff_not]
    refine ⟨⟨⟨fun e => ?_, fun e => ?_⟩, fun e => ?_⟩, fun e => ?_⟩ <;> subst e <;> simp at h
  all_goals subst e; simp at h

/-- The text of a number starts with a digit. -/
theorem textBytes_toString_cons (n : Nat) :
    ∃ b rest, textBytes (toString n) = b :: rest ∧ isDigitByte b = true := by
  rw [textBytes_toString]
  obtain ⟨d, ds, hds⟩ : ∃ d ds, Nat.toDigits 10 n = d :: ds :=
    List.exists_cons_of_ne_nil Nat.toDigits_ne_nil
  have hd : d.isDigit := Nat.isDigit_of_mem_toDigits (show 0 < 10 by decide)
    (show 10 ≤ 10 by decide) (show d ∈ Nat.toDigits 10 n by simp [hds])
  obtain ⟨hbyte, hdig, -⟩ := utf8_digit hd
  exact ⟨_, _, by rw [hds, List.flatMap_cons, hbyte]; rfl, hdig⟩

/-- The text of a negative integer: a minus sign, then the digits of its magnitude. -/
theorem textBytes_toString_neg {n : Int} (h : n < 0) :
    textBytes (toString n) = 45 :: textBytes (toString (-n).toNat) := by
  have : toString n = "-" ++ toString (-n).toNat := by
    show n.repr = _
    rw [Int.repr_eq_if, if_neg (by omega)]
    rfl
  rw [this, textBytes_append]
  rfl

/-! ## Scalars -/

theorem readValue_str (s : String) (depth : Nat) (h : Ahead src i (textBytes (quoteString s))) :
    (readValue (depth + 1)).exec src i = (.ok (.str s), i + (textBytes (quoteString s)).length) := by
  have hq := h
  rw [textBytes_quoteString] at hq
  rw [readValue]
  simp [exec_bind, skipBlanks_of_ahead hq (by decide), isDigitByte, readString_quoted h]

/-- The text of a number below `2 ^ 64`, followed by a byte that ends a number, reads as that
number. -/
theorem readNumber_unsigned {n : Nat} (hn : n ≤ u64Max) (h : Ahead src i (textBytes (toString n)))
    (hend : EndsNumber (src[i + (textBytes (toString n)).length]?.getD 0)) :
    (readNumber true).exec src i = (.ok (.unsigned n), i + (textBytes (toString n)).length) := by
  rw [readNumber_digits true hn h hend.1, readNumberTail_unsigned n hend]

/-- The text of a negative integer of at least `-2 ^ 63`, read after its minus sign, and followed
by a byte that ends a number, reads as that integer. -/
theorem readNumber_signed {n : Int} (hneg : n < 0) (hmin : -2 ^ 63 ≤ n)
    (h : Ahead src i (textBytes (toString n)))
    (hend : EndsNumber (src[i + (textBytes (toString n)).length]?.getD 0)) :
    (readNumber false).exec src (i + 1) =
      (.ok (.signed n), i + (textBytes (toString n)).length) := by
  rw [textBytes_toString_neg hneg] at h hend ⊢
  have hmag : (-n).toNat ≤ u64Max := by rw [u64Max_eq]; omega
  have hpos : i + (45 :: textBytes (toString (-n).toNat)).length =
      i + 1 + (textBytes (toString (-n).toNat)).length := by simp; omega
  rw [hpos] at hend ⊢
  have hval : -(((-n).toNat : Nat) : Int) = n := by omega
  rw [readNumber_digits false hmag h.tail hend.1, readNumberTail_signed (by omega) (by omega) hend,
    hval]

theorem readValue_nat {n : Nat} (hn : n ≤ u64Max) (depth : Nat)
    (h : Ahead src i (textBytes (toString n)))
    (hend : EndsNumber (src[i + (textBytes (toString n)).length]?.getD 0)) :
    (readValue (depth + 1)).exec src i =
      (.ok (.number (.nat n)), i + (textBytes (toString n)).length) := by
  obtain ⟨b, rest, hbytes, hdig⟩ := textBytes_toString_cons n
  obtain ⟨hblank, h110, h116, h102, h45⟩ := digit_not_structural hdig
  have hb := h
  rw [hbytes] at hb
  rw [readValue]
  simp [exec_bind, skipBlanks_of_ahead hb hblank, h110, h116, h102, h45, hdig,
    readNumber_unsigned hn h hend, Parsed.toNumber]

theorem readValue_neg {n : Int} (hneg : n < 0) (hmin : -2 ^ 63 ≤ n) (depth : Nat)
    (h : Ahead src i (textBytes (toString n)))
    (hend : EndsNumber (src[i + (textBytes (toString n)).length]?.getD 0)) :
    (readValue (depth + 1)).exec src i =
      (.ok (.number (.neg n)), i + (textBytes (toString n)).length) := by
  have hsign : Ahead src i (45 :: textBytes (toString (-n).toNat)) := by
    rw [← textBytes_toString_neg hneg]
    exact h
  rw [readValue]
  simp [exec_bind, skipBlanks_of_ahead hsign (by decide), readNumber_signed hneg hmin h hend,
    Parsed.toNumber]

/-- **Scalars read back.** The text of a string or of an integer within 64 bits, followed by a
byte that ends a number, reads back as the value. -/
theorem readValue_scalar {v : JsonValue} (hv : Scalar v) (fmt : Float → String) (depth : Nat)
    (h : Ahead src i (textBytes (v.renderWith fmt)))
    (hend : EndsNumber (src[i + (textBytes (v.renderWith fmt)).length]?.getD 0)) :
    (readValue (depth + 1)).exec src i = (.ok v, i + (textBytes (v.renderWith fmt)).length) := by
  cases hv with
  | str s => exact readValue_str s depth h
  | nat hn => exact readValue_nat hn depth h hend
  | neg hneg hmin => exact readValue_neg hneg hmin depth h hend

/-! ## Keys and punctuation -/

theorem nextKey_first {k : String} (h : Ahead src i (textBytes (quoteString k))) :
    (nextKey true).exec src i = (.ok (some k), i + (textBytes (quoteString k)).length) := by
  have hq := h
  rw [textBytes_quoteString] at hq
  simp [nextKey, exec_bind, skipBlanks_of_ahead hq (by decide), readString_quoted h]

theorem nextKey_next {k : String} (h : Ahead src i (44 :: textBytes (quoteString k))) :
    (nextKey false).exec src i = (.ok (some k), i + 1 + (textBytes (quoteString k)).length) := by
  have hq := h.tail
  rw [textBytes_quoteString] at hq
  simp [nextKey, exec_bind, skipBlanks_of_ahead h (by decide), skipBlanks_of_ahead hq (by decide),
    readString_quoted h.tail]

theorem nextKey_end (first : Bool) (h : src[i]? = some 125) :
    (nextKey first).exec src i = (.ok none, i) := by
  simp [nextKey, exec_bind, skipBlanks_of_nonblank (fun b hb => by
    rw [h] at hb
    cases hb
    decide), h]

theorem readColon_of_ahead (h : src[i]? = some 58) : readColon.exec src i = (.ok (), i + 1) := by
  simp [readColon, exec_bind, skipBlanks_of_nonblank (fun b hb => by
    rw [h] at hb
    cases hb
    decide), h]

theorem closeObject_of_ahead (h : src[i]? = some 125) :
    closeObject.exec src i = (.ok (), i + 1) := by
  simp [closeObject, exec_bind, skipBlanks_of_nonblank (fun b hb => by
    rw [h] at hb
    cases hb
    decide), h]

/-! ## Members -/

/-- The text of one member: its key, a colon and its value. -/
def memberText (fmt : Float → String) (kv : String × JsonValue) : String :=
  quoteString kv.1 ++ ":" ++ kv.2.renderWith fmt

/-- The bytes of the members after the first, each after a comma. -/
def moreMembers (fmt : Float → String) (kvs : List (String × JsonValue)) : List UInt8 :=
  kvs.flatMap fun kv => 44 :: textBytes (memberText fmt kv)

@[simp] theorem moreMembers_nil (fmt : Float → String) : moreMembers fmt [] = [] := rfl

@[simp] theorem moreMembers_cons (fmt : Float → String) (kv : String × JsonValue)
    (kvs : List (String × JsonValue)) :
    moreMembers fmt (kv :: kvs) = 44 :: (textBytes (memberText fmt kv) ++ moreMembers fmt kvs) :=
  rfl

theorem textBytes_memberText (fmt : Float → String) (k : String) (v : JsonValue) :
    textBytes (memberText fmt (k, v)) =
      textBytes (quoteString k) ++ 58 :: textBytes (v.renderWith fmt) := by
  simp [memberText]
  rfl

theorem textBytes_renderMembers (fmt : Float → String) (kv : String × JsonValue)
    (kvs : List (String × JsonValue)) :
    textBytes (renderMembers fmt (kv :: kvs)) = textBytes (memberText fmt kv) ++ moreMembers fmt kvs := by
  induction kvs generalizing kv with
  | nil =>
    obtain ⟨k, v⟩ := kv
    simp [renderMembers, memberText]
  | cons kv' kvs ih =>
    obtain ⟨k, v⟩ := kv
    rw [show renderMembers fmt ((k, v) :: kv' :: kvs) =
      memberText fmt (k, v) ++ "," ++ renderMembers fmt (kv' :: kvs) from rfl]
    simp [ih]
    rfl

/-- One member: its key, then its value after the colon. -/
theorem readMembers_step {fmt : Float → String} {depth : Nat} {first : Bool} {k : String}
    {v : JsonValue} {j : Nat} (hv : Scalar v) (hkey : (nextKey first).exec src i = (.ok (some k), j))
    (h : Ahead src j (58 :: textBytes (v.renderWith fmt)))
    (hend : EndsNumber (src[j + 1 + (textBytes (v.renderWith fmt)).length]?.getD 0))
    (fuel : Nat) (acc : List (String × JsonValue)) :
    (readMembers (depth + 1) (fuel + 1) first acc).exec src i =
      (readMembers (depth + 1) fuel false ((k, v) :: acc)).exec src
        (j + 1 + (textBytes (v.renderWith fmt)).length) := by
  rw [readMembers]
  simp [exec_bind, hkey, readColon_of_ahead h.head, readValue_scalar hv fmt depth h.tail hend]

/-- A member's value is followed by a comma or the closing brace, which end a number. -/
theorem endsNumber_of_ahead {kvs : List (String × JsonValue)} {fmt : Float → String} {j : Nat}
    (h : Ahead src j (moreMembers fmt kvs ++ [125])) : EndsNumber (src[j]?.getD 0) := by
  cases kvs with
  | nil => rw [(show Ahead src j [125] from h).head]; decide
  | cons kv kvs => rw [(show Ahead src j (44 :: _) from h).head]; decide

/-- The members after the first read back in order, up to the closing brace. -/
theorem readMembers_tail {fmt : Float → String} {depth : Nat} {kvs : List (String × JsonValue)}
    (hs : ∀ kv ∈ kvs, Scalar kv.2) :
    ∀ {i fuel : Nat} {acc : List (String × JsonValue)},
      Ahead src i (moreMembers fmt kvs ++ [125]) → kvs.length < fuel →
      (readMembers (depth + 1) fuel false acc).exec src i =
        (.ok (acc.reverse ++ kvs), i + (moreMembers fmt kvs).length) := by
  induction kvs with
  | nil =>
    intro i fuel acc h hfuel
    obtain ⟨f, rfl⟩ : ∃ f, fuel = f + 1 := ⟨fuel - 1, by simp at hfuel; omega⟩
    rw [readMembers]
    simp [exec_bind, nextKey_end false (show Ahead src i [125] from h).head]
  | cons kv kvs ih =>
    intro i fuel acc h hfuel
    obtain ⟨k, v⟩ := kv
    obtain ⟨f, rfl⟩ : ∃ f, fuel = f + 1 := ⟨fuel - 1, by simp at hfuel; omega⟩
    simp only [moreMembers_cons, textBytes_memberText, List.cons_append, List.append_assoc] at h
    -- the comma and key, the colon and value, then the remaining members
    have hkey := nextKey_next (Ahead.left (show Ahead src i ((44 :: textBytes (quoteString k)) ++ _)
      from h))
    have hval : Ahead src (i + 1 + (textBytes (quoteString k)).length)
        ((58 :: textBytes (v.renderWith fmt)) ++ (moreMembers fmt kvs ++ [125])) :=
      Ahead.drop (show Ahead src i ((44 :: textBytes (quoteString k)) ++ _) from h) (by simp; omega)
    have hrest : Ahead src (i + 1 + (textBytes (quoteString k)).length + 1 +
        (textBytes (v.renderWith fmt)).length) (moreMembers fmt kvs ++ [125]) :=
      hval.drop (by simp; omega)
    rw [readMembers_step (hs (k, v) (by simp)) hkey hval.left (endsNumber_of_ahead hrest) f acc,
      ih (fun kv hkv => hs kv (by simp [hkv])) hrest (by simp at hfuel; omega)]
    simp [textBytes_memberText]
    omega

theorem length_le_moreMembers (fmt : Float → String) (kvs : List (String × JsonValue)) :
    kvs.length ≤ (moreMembers fmt kvs).length := by
  induction kvs with
  | nil => simp
  | cons kv kvs ih => simp; omega

theorem textBytes_obj (fmt : Float → String) (kv : String × JsonValue)
    (kvs : List (String × JsonValue)) :
    textBytes ((JsonValue.obj (kv :: kvs)).renderWith fmt) =
      123 :: (textBytes (memberText fmt kv) ++ moreMembers fmt kvs ++ [125]) := by
  rw [JsonValue.renderWith, textBytes_append, textBytes_append, textBytes_renderMembers]
  rfl

/-- **Flat objects read back.** A non-empty object whose members hold scalars reads back as
the map of its members. -/
theorem readValue_flatObject {fmt : Float → String} {kv : String × JsonValue}
    {kvs : List (String × JsonValue)} (hs : ∀ m ∈ kv :: kvs, Scalar m.2) (depth : Nat)
    (h : Ahead src i (textBytes ((JsonValue.obj (kv :: kvs)).renderWith fmt))) :
    (readValue (depth + 2)).exec src i = (.ok (.obj (toMap (kv :: kvs))),
      i + (textBytes ((JsonValue.obj (kv :: kvs)).renderWith fmt)).length) := by
  rw [textBytes_obj] at h ⊢
  obtain ⟨k, v⟩ := kv
  simp only [textBytes_memberText, List.append_assoc, List.cons_append] at h ⊢
  have hsize := h.le_size (by simp)
  -- the first member, then the others, then the closing brace
  have hkey := nextKey_first (Ahead.left (show Ahead src (i + 1) (textBytes (quoteString k) ++ _)
    from h.tail))
  have hval : Ahead src (i + 1 + (textBytes (quoteString k)).length)
      ((58 :: textBytes (v.renderWith fmt)) ++ (moreMembers fmt kvs ++ [125])) :=
    Ahead.drop (show Ahead src (i + 1) (textBytes (quoteString k) ++ _) from h.tail) rfl
  have hrest : Ahead src (i + 1 + (textBytes (quoteString k)).length + 1 +
      (textBytes (v.renderWith fmt)).length) (moreMembers fmt kvs ++ [125]) :=
    hval.drop (by simp; omega)
  have hmembers : (readMembers (depth + 1) (src.size + 1) true []).exec src (i + 1) =
      (.ok ((k, v) :: kvs), i + 1 + (textBytes (quoteString k)).length + 1 +
        (textBytes (v.renderWith fmt)).length + (moreMembers fmt kvs).length) := by
    have hlen := length_le_moreMembers fmt kvs
    rw [readMembers_step (hs (k, v) (by simp)) hkey hval.left (endsNumber_of_ahead hrest) _ [],
      readMembers_tail (fun m hm => hs m (by simp [hm])) hrest (by simp at hsize; omega)]
    rfl
  have hclose := closeObject_of_ahead (Ahead.drop (show Ahead src (i + 1 + (textBytes (quoteString k)).length + 1 +
      (textBytes (v.renderWith fmt)).length) (moreMembers fmt kvs ++ [125]) from hrest) rfl).head
  rw [readValue]
  simp [exec_bind, skipBlanks_of_ahead h (by decide), isDigitByte, hmembers, hclose]
  omega

/-! ## Records

A record is read by `readStruct`: its members one by one, each key looked up among the fields
and its value read by the field's reader; then the closing brace; and a document is a record
with nothing after it.
-/

theorem exec_liftM (x : StateM Nat β) (src : ByteArray) (i : Nat) :
    (liftM x : ReadM β).exec src i = (.ok (x.run i).1, (x.run i).2) := rfl

theorem thenClose_ok {body : ReadM α} {close : ReadM Unit} {v : α} {j k : Nat}
    (hb : body.exec src i = (.ok v, j)) (hc : close.exec src j = (.ok (), k)) :
    (thenClose body close).exec src i = (.ok v, k) := by
  have hb' : ((ReaderT.run body src).run).run i = (.ok v, j) := hb
  have hc' : ((ReaderT.run close src).run).run j = (.ok (), k) := hc
  simp [thenClose, exec_bind, exec_liftM, hb', hc']

/-- A document is read when its reader stops at the end of the text. -/
theorem readDocument_ok {reader : ReadM α} {v : α} {j : Nat} (h : reader.exec src 0 = (.ok v, j))
    (hend : src[j]? = none) : readDocument src reader = .ok v := by
  have hs := @skipBlanks_of_nonblank src j (fun b hb => by
    rw [hend] at hb
    cases hb)
  rw [hend] at hs
  unfold readDocument
  change (ReadM.exec _ src 0).1 = _
  simp [exec_bind, h, hs]

theorem readText_quoted (expected : String) {s : String}
    (h : Ahead src i (textBytes (quoteString s))) :
    (readText expected).exec src i = (.ok s, i + (textBytes (quoteString s)).length) := by
  have hq := h
  rw [textBytes_quoteString] at hq
  simp [readText, exec_bind, skipBlanks_of_ahead hq (by decide), readString_quoted h]

/-- A variant written as its name, in quotes, reads as the name's index. -/
theorem readVariant_name {variants : List String} {s : String} {k : Nat}
    (hk : variants.idxOf? s = some k) (h : Ahead src i (textBytes (quoteString s))) (depth : Nat) :
    (readVariant variants depth).exec src i = (.ok k, i + (textBytes (quoteString s)).length) := by
  have hq := h
  rw [textBytes_quoteString] at hq
  simp [readVariant, exec_bind, skipBlanks_of_ahead hq (by decide), readText_quoted _ h, hk]

variable {fields : List (String × (Nat → ReadM α))} {depth : Nat}

/-- One member of a record: a key naming a field not seen yet, its colon, and the value the
field's reader reads. -/
theorem readStruct_members_step {fuel : Nat} {first : Bool} {got : Array (Option α)} {k : String}
    {j p q : Nat} {v : α}
    (hkey : (nextKey first).exec src i = (.ok (some k), p))
    (hidx : fields.findIdx? (·.1 = k) = some j) (hfree : got[j]?.getD none = none)
    (hcolon : src[p]? = some 58)
    (hread : (((fields[j]?.map (·.2)).getD (fun _ => skipValue *> failHere ""))
      (depth - 1)).exec src (p + 1) = (.ok v, q)) :
    (readStruct.members fields depth (fuel + 1) first got).exec src i =
      (readStruct.members fields depth fuel false (got.set! j (some v))).exec src q := by
  simp [readStruct.members, exec_bind, hkey, hidx, hfree, readColon_of_ahead hcolon, hread]

theorem readStruct_members_end {fuel : Nat} {first : Bool} {got : Array (Option α)}
    (h : src[i]? = some 125) :
    (readStruct.members fields depth (fuel + 1) first got).exec src i = (.ok got, i) := by
  simp [readStruct.members, exec_bind, nextKey_end first h]

/-- A record written as an object: its members, the fields collected in order, the closing
brace. -/
theorem readStruct_object {name : String} {got : Array (Option α)} {vs : List α} {j : Nat}
    (hdepth : 1 < depth) (hopen : src[i]? = some 123)
    (hmembers : (readStruct.members fields depth (src.size + 1) true
      (Array.replicate fields.length none)).exec src (i + 1) = (.ok got, j))
    (hcollect : (readStruct.collect got fields 0).exec src j = (.ok vs, j))
    (hclose : src[j]? = some 125) :
    (readStruct name fields depth).exec src i = (.ok vs, j + 1) := by
  have hbody : (do
      let got ← readStruct.members fields depth ((← read).size + 1) true
        (Array.replicate fields.length none)
      readStruct.collect got fields 0 : ReadM (List α)).exec src (i + 1) = (.ok vs, j) := by
    simp [exec_bind, hmembers, hcollect]
  have hnot : ¬ depth ≤ 1 := by omega
  simp [readStruct, exec_bind, skipBlanks_of_nonblank (fun b hb => by
    rw [hopen] at hb
    cases hb
    decide), hopen, hnot, thenClose_ok hbody (closeObject_of_ahead hclose)]

end RegisterAtlas.Json
