import Mathlib
import RegisterAtlas.Json.Stream
/-!
# Running the JSON reader

The reader of `Json.Stream` is a computation over a byte text whose state is the index of the
next byte. This module runs its pieces on texts of a known shape: `ReadM.exec` is a reader run
from an index, and `Ahead src i bs` says that the bytes `bs` stand in `src` from index `i` on.
Each lemma says what one reader returns on the text ahead of it and where it stops, so that a
whole line is read by chaining them.

* `exec_bind`, `exec_map` and the `exec_*` lemmas of the primitive operations.
* `skipBlanks_of_ahead`: with no blank ahead, the reader looks at the next byte and stays.
* `readString_quoted`: a string written by `quoteString` reads back as itself.
* `readNumber_digits`: the decimal digits of a number below `2 ^ 64` read back as the number.
-/

namespace RegisterAtlas.Json

/-- A reader run on the text `src` from index `i`: its outcome and the index it stops at. -/
def ReadM.exec (x : ReadM α) (src : ByteArray) (i : Nat) : Except ReadError α × Nat :=
  ((x.run src).run).run i

/-! ## The monad -/

theorem exec_bind (x : ReadM α) (f : α → ReadM β) (src : ByteArray) (i : Nat) :
    (x >>= f).exec src i = match x.exec src i with
      | (.ok a, j) => (f a).exec src j
      | (.error e, j) => (.error e, j) := by
  simp only [ReadM.exec]
  rcases hx : ((x.run src).run).run i with ⟨r, j⟩
  simp only [ReaderT.run, bind, ReaderT.bind, ExceptT.bind, ExceptT.run, ExceptT.mk, StateT.bind,
    StateT.run, ExceptT.bindCont] at hx ⊢
  cases r with
  | error e => simp [hx]; rfl
  | ok a => simp [hx]

@[simp] theorem exec_pure (a : α) (src : ByteArray) (i : Nat) :
    (pure a : ReadM α).exec src i = (.ok a, i) := rfl

@[simp] theorem exec_get (src : ByteArray) (i : Nat) : (get : ReadM Nat).exec src i = (.ok i, i) :=
  rfl

@[simp] theorem exec_read (src : ByteArray) (i : Nat) :
    (read : ReadM ByteArray).exec src i = (.ok src, i) := rfl

@[simp] theorem exec_set (src : ByteArray) (i j : Nat) :
    (set j : ReadM PUnit).exec src i = (.ok ⟨⟩, j) := rfl

@[simp] theorem exec_throw (e : ReadError) (src : ByteArray) (i : Nat) :
    (throw e : ReadM α).exec src i = (.error e, i) := rfl

@[simp] theorem exec_map (f : α → β) (x : ReadM α) (src : ByteArray) (i : Nat) :
    (f <$> x).exec src i = match x.exec src i with
      | (.ok a, j) => (.ok (f a), j)
      | (.error e, j) => (.error e, j) := by
  rw [← bind_pure_comp, exec_bind]
  rcases x.exec src i with ⟨_ | _, j⟩ <;> rfl

@[simp] theorem exec_peek (src : ByteArray) (i : Nat) : peek.exec src i = (.ok src[i]?, i) := rfl

@[simp] theorem exec_eat (src : ByteArray) (i : Nat) : eat.exec src i = (.ok (), i + 1) := rfl

theorem exec_next (src : ByteArray) (i : Nat) {b : UInt8} (h : src[i]? = some b) :
    next.exec src i = (.ok (some b), i + 1) := by
  simp [next, exec_bind, exec_map, h]

@[simp] theorem exec_peekOrNull (src : ByteArray) (i : Nat) :
    peekOrNull.exec src i = (.ok (src[i]?.getD 0), i) := by
  simp [peekOrNull]

/-! ## Bytes ahead -/

theorem byteArray_getElem? (a : ByteArray) (k : Nat) : a[k]? = a.data[k]? := by
  rcases a with ⟨bs⟩
  by_cases h : k < bs.size
  · rw [getElem?_pos (ByteArray.mk bs) k h, Array.getElem?_eq_getElem h]
    rfl
  · rw [getElem?_neg (ByteArray.mk bs) k h, Array.getElem?_eq_none (Nat.le_of_not_lt h)]

theorem byteArray_toList_loop (bs : ByteArray) (i : Nat) (r : List UInt8) :
    ByteArray.toList.loop bs i r = r.reverse ++ bs.data.toList.drop i := by
  induction i, r using ByteArray.toList.loop.induct bs with
  | case1 i r hlt ih =>
    rw [ByteArray.toList.loop, if_pos hlt, ih]
    have hi : i < bs.data.toList.length := by simpa using hlt
    have hget : bs.get! i = bs.data.toList[i] := by
      simp only [ByteArray.get!, Array.getElem_toList]
      exact getElem!_pos bs.data i (by simpa using hlt)
    rw [List.drop_eq_getElem_cons hi, hget]
    simp
  | case2 i r hge =>
    rw [ByteArray.toList.loop, if_neg hge]
    have : bs.data.toList.length ≤ i := by simpa using hge
    simp [List.drop_eq_nil_of_le this]

/-- The bytes of a byte array as a list are its data. -/
@[simp] theorem byteArray_toList (a : ByteArray) : a.toList = a.data.toList := by
  simpa [ByteArray.toList] using byteArray_toList_loop a 0 []

/-- The bytes `bs` stand in `src` from index `i` on. -/
def Ahead (src : ByteArray) (i : Nat) (bs : List UInt8) : Prop :=
  ∀ k < bs.length, src[i + k]? = bs[k]?

namespace Ahead

variable {src : ByteArray} {i : Nat}

theorem head {b : UInt8} {bs : List UInt8} (h : Ahead src i (b :: bs)) : src[i]? = some b := by
  simpa using h 0 (by simp)

theorem tail {b : UInt8} {bs : List UInt8} (h : Ahead src i (b :: bs)) : Ahead src (i + 1) bs :=
  fun k hk => by simpa [Nat.add_assoc, Nat.add_comm 1 k] using h (k + 1) (by simpa using hk)

theorem left {bs cs : List UInt8} (h : Ahead src i (bs ++ cs)) : Ahead src i bs :=
  fun k hk => by rw [h k (by simp; omega), List.getElem?_append_left hk]

theorem right {bs cs : List UInt8} (h : Ahead src i (bs ++ cs)) :
    Ahead src (i + bs.length) cs :=
  fun k hk => by
    rw [Nat.add_assoc, h (bs.length + k) (by simp; omega), List.getElem?_append_right (by omega)]
    simp

/-- `right` at an index given by an equation. -/
theorem drop {bs cs : List UInt8} {j : Nat} (h : Ahead src i (bs ++ cs)) (hj : j = i + bs.length) :
    Ahead src j cs :=
  hj ▸ h.right

/-- The bytes `mid` between `pre` and `post`, at the index after `pre`. -/
theorem sub {pre mid post : List UInt8} {j : Nat} (h : Ahead src i (pre ++ mid ++ post))
    (hj : j = i + pre.length) : Ahead src j mid :=
  (Ahead.drop (by rwa [List.append_assoc] at h) hj).left

theorem append {bs cs : List UInt8} (h₁ : Ahead src i bs) (h₂ : Ahead src (i + bs.length) cs) :
    Ahead src i (bs ++ cs) := by
  intro k hk
  by_cases hlt : k < bs.length
  · rw [h₁ k hlt, List.getElem?_append_left hlt]
  · have := h₂ (k - bs.length) (by simp at hk; omega)
    rw [List.getElem?_append_right (by omega), ← this]
    congr 1
    omega

theorem le_size {bs : List UInt8} (h : Ahead src i bs) (hne : bs ≠ []) :
    i + bs.length ≤ src.size := by
  have hpos : 0 < bs.length := List.length_pos_iff.2 hne
  have hk := h (bs.length - 1) (by omega)
  rw [List.getElem?_eq_getElem (by omega), byteArray_getElem?, Array.getElem?_eq_some_iff] at hk
  obtain ⟨hlt, -⟩ := hk
  have : src.size = src.data.size := rfl
  omega

end Ahead

/-- The UTF-8 bytes of a text, as a list. -/
def textBytes (s : String) : List UInt8 := s.toByteArray.data.toList

@[simp] theorem textBytes_append (s t : String) : textBytes (s ++ t) = textBytes s ++ textBytes t := by
  simp [textBytes]

@[simp] theorem textBytes_ofList (cs : List Char) :
    textBytes (String.ofList cs) = cs.flatMap String.utf8EncodeChar := by
  simp [textBytes, List.utf8Encode]

theorem ahead_textBytes (s : String) : Ahead s.toUTF8 0 (textBytes s) := by
  intro k _
  simp [textBytes, byteArray_getElem?]

theorem end_textBytes (s : String) : s.toUTF8[(textBytes s).length]? = none := by
  simp [textBytes]

/-- A text's bytes, read back, are the text. -/
theorem fromUTF8?_textBytes (s : String) : String.fromUTF8? ⟨(textBytes s).toArray⟩ = some s := by
  simp [textBytes, String.fromUTF8?, s.isValidUTF8]
  rfl

/-! ## Blanks -/

/-- With no blank ahead, skipping blanks only looks at the next byte. -/
theorem skipBlanks_of_nonblank {src : ByteArray} {i : Nat}
    (h : ∀ b, src[i]? = some b → isBlankByte b = false) :
    skipBlanks.exec src i = (.ok src[i]?, i) := by
  have hgo : ∀ fuel, (skipBlanks.go fuel).exec src i = (.ok src[i]?, i) := by
    intro fuel
    cases fuel with
    | zero => simp [skipBlanks.go]
    | succ n =>
      cases hb : src[i]? with
      | none => simp [skipBlanks.go, exec_bind, hb]
      | some b => simp [skipBlanks.go, exec_bind, hb, h b hb]
  simp [skipBlanks, exec_bind, hgo]

theorem skipBlanks_of_ahead {src : ByteArray} {i : Nat} {b : UInt8} {bs : List UInt8}
    (h : Ahead src i (b :: bs)) (hb : isBlankByte b = false) :
    skipBlanks.exec src i = (.ok (some b), i) := by
  rw [skipBlanks_of_nonblank (fun c hc => by rw [h.head] at hc; cases hc; exact hb), h.head]

/-! ## Strings

The reader of a string collects bytes until the closing quote: a plain byte as it is, an escape
as the bytes of the character it stands for. A string written by `quoteString` holds a plain
character as its UTF-8 bytes, which are all plain, and every other character as an escape.
-/

/-- A byte that a string holds as it is: not a quote, a backslash or a control character. -/
def PlainByte (b : UInt8) : Prop := b ≠ 34 ∧ b ≠ 92 ∧ ¬ b < 32

theorem plainByte_of_toNat {b : UInt8}
    (h : 128 ≤ b.toNat ∨ (32 ≤ b.toNat ∧ b.toNat ≠ 34 ∧ b.toNat ≠ 92)) : PlainByte b := by
  refine ⟨fun h34 => ?_, fun h92 => ?_, fun h32 => ?_⟩
  · subst h34
    simp at h
  · subst h92
    simp at h
  · rw [UInt8.lt_iff_toNat_lt] at h32
    simp at h32
    omega

theorem high_or (x : UInt8) {y : UInt8} (hy : 128 ≤ y.toNat) : 128 ≤ (x ||| y).toNat := by
  rw [UInt8.toNat_or]
  exact Nat.le_trans hy Nat.right_le_or

theorem toNat_ne_of_ne {c d : Char} (h : c ≠ d) : c.toNat ≠ d.toNat :=
  fun e => h (Char.toNat_inj.1 e)

/-- The UTF-8 bytes of a character that needs no escape are plain: an ASCII character stands
for itself, and every byte of a longer encoding has its high bit set. -/
theorem plainByte_of_mem_utf8 {c : Char} (hq : c ≠ '"') (hb : c ≠ '\\') (hc : 0x20 ≤ c.toNat)
    {b : UInt8} (h : b ∈ String.utf8EncodeChar c) : PlainByte b := by
  apply plainByte_of_toNat
  have hsize := Char.utf8Size_le_four c
  have hpos := Char.utf8Size_pos c
  rcases (by omega : c.utf8Size = 1 ∨ c.utf8Size = 2 ∨ c.utf8Size = 3 ∨ c.utf8Size = 4)
    with h1 | h2 | h3 | h4
  · rw [String.utf8EncodeChar_eq_singleton h1, List.mem_singleton] at h
    subst h
    have hval : c.val.toUInt8.toNat = c.toNat := by
      have := Char.utf8Size_eq_one_iff.1 h1
      rw [UInt32.le_iff_toNat_le] at this
      simp only [UInt32.toNat_toUInt8, Char.toNat_val] at this ⊢
      simp at this
      omega
    have hq' := toNat_ne_of_ne hq
    have hb' := toNat_ne_of_ne hb
    simp only [Char.reduceToNat] at hq' hb'
    omega
  · rw [String.utf8EncodeChar_eq_cons_cons h2] at h
    simp only [List.mem_cons, List.not_mem_nil, or_false] at h
    rcases h with rfl | rfl <;> exact .inl (high_or _ (by decide))
  · rw [String.utf8EncodeChar_eq_cons_cons_cons h3] at h
    simp only [List.mem_cons, List.not_mem_nil, or_false] at h
    rcases h with rfl | rfl | rfl <;> exact .inl (high_or _ (by decide))
  · rw [String.utf8EncodeChar_eq_cons_cons_cons_cons h4] at h
    simp only [List.mem_cons, List.not_mem_nil, or_false] at h
    rcases h with rfl | rfl | rfl | rfl <;> exact .inl (high_or _ (by decide))

/-- Plain bytes are collected one by one, newest first. -/
theorem readString_go_plain {src : ByteArray} {i : Nat} {bs : List UInt8}
    (hp : ∀ b ∈ bs, PlainByte b) (h : Ahead src i bs) (fuel : Nat) (acc : List UInt8) :
    (readString.go (fuel + bs.length) acc).exec src i =
      (readString.go fuel (bs.reverse ++ acc)).exec src (i + bs.length) := by
  induction bs generalizing i acc with
  | nil => simp
  | cons b bs ih =>
    obtain ⟨h34, h92, h32⟩ := hp b (by simp)
    have hnext : (readString.go (fuel + bs.length + 1) acc).exec src i =
        (readString.go (fuel + bs.length) (b :: acc)).exec src (i + 1) := by
      simp [readString.go, exec_bind, h.head, h34, h92, h32]
    rw [List.length_cons, ← Nat.add_assoc, hnext,
      ih (fun c hc => hp c (by simp [hc])) h.tail (b :: acc)]
    simp [Nat.add_assoc, Nat.add_comm 1]

/-- The bytes of a character as `quoteString` writes it. -/
def escapedBytes (c : Char) : List UInt8 := (escapeChar c).flatMap String.utf8EncodeChar

theorem escapeChar_of_plain {c : Char} (hq : c ≠ '"') (hb : c ≠ '\\') (hc : 0x20 ≤ c.toNat) :
    escapeChar c = [c] := by
  have hn : c ≠ '\n' := fun e => by subst e; simp at hc
  have hr : c ≠ '\r' := fun e => by subst e; simp at hc
  have ht : c ≠ '\t' := fun e => by subst e; simp at hc
  have h8 : c.toNat ≠ 8 := by omega
  have h12 : c.toNat ≠ 12 := by omega
  have h32 : ¬ c.toNat < 32 := by omega
  simp [escapeChar, hq, hb, hn, hr, ht, h8, h12, h32]

/-- The hex digit bytes of `\u` escapes read back as their values. -/
theorem utf8_hexDigit : ∀ k < 16, String.utf8EncodeChar (hexDigit k) = [(hexDigit k).val.toUInt8] ∧
    hexByteValue (hexDigit k).val.toUInt8 = some k := by
  decide

theorem readHex4_of_ahead {src : ByteArray} {i : Nat} {a b c d : UInt8} {va vb vc vd : Nat}
    (h : Ahead src i [a, b, c, d]) (ha : hexByteValue a = some va) (hb : hexByteValue b = some vb)
    (hc : hexByteValue c = some vc) (hd : hexByteValue d = some vd) :
    readHex4.exec src i = (.ok (((va * 16 + vb) * 16 + vc) * 16 + vd), i + 4) := by
  have h0 : src[i]? = some a := by simpa using h 0 (by simp)
  have h1 : src[i + 1]? = some b := h 1 (by simp)
  have h2 : src[i + 2]? = some c := h 2 (by simp)
  have h3 : src[i + 3]? = some d := h 3 (by simp)
  simp [readHex4, exec_bind, exec_map, h0, h1, h2, h3, ha, hb, hc, hd]

theorem codePointBytes_toNat (c : Char) : codePointBytes c.toNat = String.utf8EncodeChar c := by
  simp [codePointBytes, Char.toString, String.toByteArray_singleton, List.utf8Encode_singleton]

/-- The bytes of a `\u00XY` escape of a control character without a short escape. -/
theorem escapedBytes_control {c : Char} (hc : c.toNat < 0x20) (h8 : c.toNat ≠ 8)
    (h9 : c.toNat ≠ 9) (h10 : c.toNat ≠ 10) (h12 : c.toNat ≠ 12) (h13 : c.toNat ≠ 13) :
    escapedBytes c = [92, 117, 48, 48, (hexDigit (c.toNat / 16)).val.toUInt8,
      (hexDigit (c.toNat % 16)).val.toUInt8] := by
  have hq : c ≠ '"' := fun e => by subst e; simp at hc
  have hb : c ≠ '\\' := fun e => by subst e; simp at hc
  have hn : c ≠ '\n' := fun e => by subst e; simp at h10
  have hr : c ≠ '\r' := fun e => by subst e; simp at h13
  have ht : c ≠ '\t' := fun e => by subst e; simp at h9
  simp [escapedBytes, escapeChar, hq, hb, hn, hr, ht, h8, h12, hc,
    (utf8_hexDigit (c.toNat / 16) (by omega)).1, (utf8_hexDigit (c.toNat % 16) (by omega)).1]
  rfl

/-- An escape, read after its backslash, gives the bytes of the character it stands for. -/
theorem readEscape_escaped {src : ByteArray} {i : Nat} {c : Char}
    (hc : c = '"' ∨ c = '\\' ∨ c.toNat < 0x20) (h : Ahead src i (escapedBytes c))
    (acc : List UInt8) :
    (readEscape acc).exec src (i + 1) =
      (.ok ((String.utf8EncodeChar c).reverse ++ acc), i + (escapedBytes c).length) := by
  rcases hc with rfl | rfl | hc
  · have e : escapedBytes '"' = [92, 34] ∧ String.utf8EncodeChar '"' = [34] := by decide
    rw [e.1] at h ⊢
    simp [e.2, readEscape, exec_bind, exec_next _ _ (h 1 (by decide))]
  · have e : escapedBytes '\\' = [92, 92] ∧ String.utf8EncodeChar '\\' = [92] := by decide
    rw [e.1] at h ⊢
    simp [e.2, readEscape, exec_bind, exec_next _ _ (h 1 (by decide))]
  by_cases h10 : c.toNat = 10
  · obtain rfl : c = '\n' := Char.toNat_inj.1 h10
    have e : escapedBytes '\n' = [92, 110] ∧ String.utf8EncodeChar '\n' = [10] := by decide
    rw [e.1] at h ⊢
    simp [e.2, readEscape, exec_bind, exec_next _ _ (h 1 (by decide))]
  by_cases h13 : c.toNat = 13
  · obtain rfl : c = '\r' := Char.toNat_inj.1 h13
    have e : escapedBytes '\r' = [92, 114] ∧ String.utf8EncodeChar '\r' = [13] := by decide
    rw [e.1] at h ⊢
    simp [e.2, readEscape, exec_bind, exec_next _ _ (h 1 (by decide))]
  by_cases h9 : c.toNat = 9
  · obtain rfl : c = '\t' := Char.toNat_inj.1 h9
    have e : escapedBytes '\t' = [92, 116] ∧ String.utf8EncodeChar '\t' = [9] := by decide
    rw [e.1] at h ⊢
    simp [e.2, readEscape, exec_bind, exec_next _ _ (h 1 (by decide))]
  by_cases h8 : c.toNat = 8
  · obtain rfl : c = Char.ofNat 8 := Char.toNat_inj.1 h8
    have e : escapedBytes (Char.ofNat 8) = [92, 98] ∧
        String.utf8EncodeChar (Char.ofNat 8) = [8] := by decide
    rw [e.1] at h ⊢
    simp [e.2, readEscape, exec_bind, exec_next _ _ (h 1 (by decide))]
  by_cases h12 : c.toNat = 12
  · obtain rfl : c = Char.ofNat 12 := Char.toNat_inj.1 h12
    have e : escapedBytes (Char.ofNat 12) = [92, 102] ∧
        String.utf8EncodeChar (Char.ofNat 12) = [12] := by decide
    rw [e.1] at h ⊢
    simp [e.2, readEscape, exec_bind, exec_next _ _ (h 1 (by decide))]
  -- the `\u00XY` form: four hex digits whose value is the character's code
  rw [escapedBytes_control hc h8 h9 h10 h12 h13] at h ⊢
  have h1 : src[i + 1]? = some 117 := h 1 (by simp)
  have hhex : Ahead src (i + 2) [48, 48, (hexDigit (c.toNat / 16)).val.toUInt8,
      (hexDigit (c.toNat % 16)).val.toUInt8] :=
    Ahead.right (show Ahead src i ([92, 117] ++ _) from h)
  have hvalue := readHex4_of_ahead hhex (show hexByteValue 48 = some 0 by decide)
    (show hexByteValue 48 = some 0 by decide)
    (utf8_hexDigit (c.toNat / 16) (by omega)).2 (utf8_hexDigit (c.toNat % 16) (by omega)).2
  have hcode : ((0 * 16 + 0) * 16 + c.toNat / 16) * 16 + c.toNat % 16 = c.toNat := by omega
  rw [hcode] at hvalue
  have hsur : ¬ (0xDC00 ≤ c.toNat ∧ c.toNat ≤ 0xDFFF) := by omega
  have hlow : c.toNat < 0xD800 := by omega
  simp [readEscape, exec_bind, exec_next _ _ h1, hvalue, hsur, hlow, codePointBytes_toNat]

theorem escapedBytes_head {c : Char} (hc : c = '"' ∨ c = '\\' ∨ c.toNat < 0x20) :
    ∃ rest, escapedBytes c = 92 :: rest := by
  have : ∃ cs, escapeChar c = '\\' :: cs := by
    unfold escapeChar
    repeat' split
    all_goals first
      | exact ⟨_, rfl⟩
      | rcases hc with rfl | rfl | hc <;> simp_all
  obtain ⟨cs, hcs⟩ := this
  exact ⟨_, by simp [escapedBytes, hcs]; rfl⟩

/-- An escape takes one round of the string loop. -/
theorem readString_go_escape {src : ByteArray} {i : Nat} {c : Char}
    (hc : c = '"' ∨ c = '\\' ∨ c.toNat < 0x20) (h : Ahead src i (escapedBytes c))
    (fuel : Nat) (acc : List UInt8) :
    (readString.go (fuel + 1) acc).exec src i =
      (readString.go fuel ((String.utf8EncodeChar c).reverse ++ acc)).exec src
        (i + (escapedBytes c).length) := by
  obtain ⟨rest, hrest⟩ := escapedBytes_head hc
  have h0 : src[i]? = some 92 := by
    rw [hrest] at h
    exact h.head
  simp [readString.go, exec_bind, h0, readEscape_escaped hc h acc]

theorem textBytes_quoteString (s : String) :
    textBytes (quoteString s) = 34 :: (s.toList.flatMap escapedBytes ++ [34]) := by
  simp [quoteString, List.flatMap_assoc]
  rfl

/-- The escaped characters of a string and its closing quote read back as the characters'
UTF-8 bytes; the loop takes a round per plain byte and per escape. -/
theorem readString_go_chars {src : ByteArray} {cs : List Char} :
    ∀ {i fuel : Nat} {acc : List UInt8}, Ahead src i (cs.flatMap escapedBytes ++ [34]) →
      (cs.flatMap escapedBytes).length + 1 ≤ fuel →
      (readString.go fuel acc).exec src i =
        (.ok ((cs.flatMap String.utf8EncodeChar).reverse ++ acc),
          i + (cs.flatMap escapedBytes).length + 1) := by
  induction cs with
  | nil =>
    intro i fuel acc h hfuel
    obtain ⟨f, rfl⟩ : ∃ f, fuel = f + 1 := ⟨fuel - 1, by simp at hfuel; omega⟩
    simp [readString.go, exec_bind, h.head]
  | cons c cs ih =>
    intro i fuel acc h hfuel
    rw [List.flatMap_cons, List.append_assoc] at h
    simp only [List.flatMap_cons, List.length_append] at hfuel ⊢
    by_cases hesc : c = '"' ∨ c = '\\' ∨ c.toNat < 0x20
    · -- an escape: one round of the loop for all its bytes
      have hlen : 1 ≤ (escapedBytes c).length := by
        obtain ⟨rest, hrest⟩ := escapedBytes_head hesc
        simp [hrest]
      obtain ⟨f, rfl⟩ : ∃ f, fuel = f + 1 := ⟨fuel - 1, by omega⟩
      rw [readString_go_escape hesc h.left f acc, ih h.right (by omega)]
      simp [Nat.add_assoc]
    · -- a plain character: one round per byte of its encoding
      simp only [not_or] at hesc
      obtain ⟨hq, hb, hlow⟩ := hesc
      have hbytes : escapedBytes c = String.utf8EncodeChar c := by
        simp [escapedBytes, escapeChar_of_plain hq hb (by omega)]
      rw [hbytes] at h hfuel ⊢
      obtain ⟨f, rfl⟩ : ∃ f, fuel = f + (String.utf8EncodeChar c).length :=
        ⟨fuel - (String.utf8EncodeChar c).length, by omega⟩
      rw [readString_go_plain (fun b hb' => plainByte_of_mem_utf8 hq hb (by omega) hb') h.left f acc,
        ih h.right (by omega)]
      simp [Nat.add_assoc]

/-- **A quoted string reads back as itself.** Started after the opening quote, the reader stops
after the closing one. -/
theorem readString_quoted {src : ByteArray} {i : Nat} {s : String}
    (h : Ahead src i (textBytes (quoteString s))) :
    readString.exec src (i + 1) = (.ok s, i + (textBytes (quoteString s)).length) := by
  rw [textBytes_quoteString] at h ⊢
  have hsize := h.le_size (by simp)
  have hgo := @readString_go_chars src s.toList (i + 1) (src.size + 1) [] h.tail
    (by simp at hsize ⊢; omega)
  have hbytes : s.toList.flatMap String.utf8EncodeChar = textBytes s := by
    rw [← textBytes_ofList, String.ofList_toList]
  simp [readString, exec_bind, hgo, hbytes, fromUTF8?_textBytes]
  omega

/-! ## Numbers

The decimal digits of a number below `2 ^ 64` read back as the number: the reader's check for
overflow never fires, since every prefix of the digits is at most the whole number.
-/

/-- A byte that ends a number: not a digit, a decimal point or an exponent mark. -/
def EndsNumber (b : UInt8) : Prop := isDigitByte b = false ∧ b ≠ 46 ∧ b ≠ 101 ∧ b ≠ 69

instance (b : UInt8) : Decidable (EndsNumber b) :=
  inferInstanceAs (Decidable (_ ∧ _ ∧ _ ∧ _))

/-- A decimal digit is one byte, which the reader takes for a digit of the same value. -/
theorem utf8_digit {d : Char} (h : d.isDigit) :
    String.utf8EncodeChar d = [d.toUInt8] ∧ isDigitByte d.toUInt8 = true ∧
      d.toUInt8.toNat = d.toNat := by
  have hd : 48 ≤ d.toNat ∧ d.toNat ≤ 57 := by
    simpa [Char.isDigit, UInt32.le_iff_toNat_le] using h
  have hval : d.toUInt8.toNat = d.toNat := by
    rw [← Char.toUInt8_val]
    simp only [UInt32.toNat_toUInt8, Char.toNat_val]
    omega
  have h1 : d.utf8Size = 1 := Char.utf8Size_eq_one_iff.2 (by
    rw [UInt32.le_iff_toNat_le]
    simp
    omega)
  refine ⟨by simpa using String.utf8EncodeChar_eq_singleton h1, ?_, hval⟩
  simp [isDigitByte, UInt8.le_iff_toNat_le, hval]
  omega

theorem ofDigitChars_ge (cs : List Char) (init : Nat) : init ≤ Nat.ofDigitChars 10 cs init := by
  rw [Nat.ofDigitChars_eq_ofDigitChars_zero]
  have hp : 0 < 10 ^ cs.length := Nat.pow_pos (by decide)
  calc init ≤ 10 ^ cs.length * init := Nat.le_mul_of_pos_left init hp
    _ ≤ _ := Nat.le_add_right _ _

theorem u64Max_eq : u64Max = 18446744073709551615 := by decide

/-- The digit loop reads digits while the value stays within 64 bits. -/
theorem readNumber_go_digits {src : ByteArray} {cs : List Char} (hd : ∀ d ∈ cs, d.isDigit) :
    ∀ {i fuel s : Nat}, Ahead src i (cs.flatMap String.utf8EncodeChar) →
      isDigitByte (src[i + cs.length]?.getD 0) = false →
      Nat.ofDigitChars 10 cs s ≤ u64Max → cs.length < fuel →
      (readNumber.go fuel s).exec src i =
        (.ok (.inl (Nat.ofDigitChars 10 cs s)), i + cs.length) := by
  induction cs with
  | nil =>
    intro i fuel s _ hend _ hfuel
    obtain ⟨f, rfl⟩ : ∃ f, fuel = f + 1 := ⟨fuel - 1, by simp at hfuel; omega⟩
    simp at hend
    simp [readNumber.go, exec_bind, hend, Nat.ofDigitChars_nil]
  | cons d cs ih =>
    intro i fuel s h hend hmax hfuel
    obtain ⟨hbyte, hdig, hval⟩ := utf8_digit (hd d (by simp))
    obtain ⟨f, rfl⟩ : ∃ f, fuel = f + 1 := ⟨fuel - 1, by simp at hfuel; omega⟩
    rw [List.flatMap_cons, hbyte, List.singleton_append] at h
    have hdigit : d.toNat - 48 ≤ 9 := by
      have := hd d (by simp)
      simp [Char.isDigit, UInt32.le_iff_toNat_le] at this
      omega
    have hstep : Nat.ofDigitChars 10 (d :: cs) s = Nat.ofDigitChars 10 cs (s * 10 + (d.toNat - 48)) := by
      rw [Nat.ofDigitChars_cons, Nat.mul_comm]
      rfl
    have hprefix := ofDigitChars_ge cs (s * 10 + (d.toNat - 48))
    rw [hstep] at hmax ⊢
    have hno : ¬ (u64Max / 10 < s ∨ (s = u64Max / 10 ∧ u64Max % 10 < d.toNat - 48)) := by
      rw [u64Max_eq] at hmax ⊢
      omega
    simp only [List.length_cons] at hend hfuel
    have hrest := @ih (fun c hc => hd c (by simp [hc])) (i + 1) f (s * 10 + (d.toNat - 48))
      h.tail (by rw [Nat.add_assoc, Nat.add_comm 1]; exact hend) hmax (by omega)
    simp [readNumber.go, exec_bind, h.head, hdig, hval]
    rw [if_neg hno]
    simp [exec_bind, hrest]
    omega

theorem toDigits_head {n : Nat} (hn : 0 < n) : ∃ d ds, Nat.toDigits 10 n = d :: ds ∧ d ≠ '0' := by
  induction n using Nat.strongRecOn with
  | ind n ih =>
    rw [Nat.toDigits_eq_if (by decide)]
    split
    · have hne : ∀ k < 10, 0 < k → Nat.digitChar k ≠ '0' := by decide
      exact ⟨_, [], rfl, hne n (by omega) hn⟩
    · obtain ⟨d, ds, h, hd⟩ := ih (n / 10) (by omega) (by omega)
      exact ⟨d, ds ++ _, by rw [h]; rfl, hd⟩

theorem length_digitBytes {cs : List Char} (hd : ∀ d ∈ cs, d.isDigit) :
    (cs.flatMap String.utf8EncodeChar).length = cs.length := by
  induction cs with
  | nil => rfl
  | cons d cs ih =>
    simp [(utf8_digit (hd d (by simp))).1, ih (fun c hc => hd c (by simp [hc]))]

theorem textBytes_toString (n : Nat) :
    textBytes (toString n) = (Nat.toDigits 10 n).flatMap String.utf8EncodeChar := by
  rw [Nat.toString_eq_ofList_toDigits, textBytes_ofList]

theorem length_textBytes_toString (n : Nat) :
    (textBytes (toString n)).length = (Nat.toDigits 10 n).length := by
  rw [textBytes_toString, length_digitBytes (fun _ hc => Nat.isDigit_of_mem_toDigits
    (by decide) (by decide) hc)]

/-- **Decimal digits read back.** The digits of a number below `2 ^ 64`, followed by a byte that
is not a digit, read as that number; the rest of the number is then read from after them. -/
theorem readNumber_digits {src : ByteArray} {i n : Nat} (positive : Bool) (hn : n ≤ u64Max)
    (h : Ahead src i (textBytes (toString n)))
    (hend : isDigitByte (src[i + (textBytes (toString n)).length]?.getD 0) = false) :
    (readNumber positive).exec src i =
      (readNumberTail positive n).exec src (i + (textBytes (toString n)).length) := by
  have hdigits : ∀ d ∈ Nat.toDigits 10 n, d.isDigit := fun _ hc =>
    Nat.isDigit_of_mem_toDigits (by decide) (by decide) hc
  rw [length_textBytes_toString] at hend ⊢
  rw [textBytes_toString] at h
  rcases Nat.eq_zero_or_pos n with rfl | hpos
  · -- a lone zero
    have e : (Nat.toDigits 10 0).flatMap String.utf8EncodeChar = [48] := by decide
    rw [e] at h
    have h0 : src[i]? = some 48 := h.head
    simp at hend
    simp [readNumber, exec_bind, exec_next _ _ h0, hend]
  · obtain ⟨d, ds, hds, hd0⟩ := toDigits_head hpos
    rw [hds] at h hdigits hend ⊢
    obtain ⟨hbyte, hdig, hval⟩ := utf8_digit (hdigits d (by simp))
    rw [List.flatMap_cons, hbyte, List.singleton_append] at h
    have hne : d.toUInt8 ≠ 48 := fun e => hd0 (Char.toNat_inj.1 (by
      rw [← hval, e]
      rfl))
    have hsize := h.le_size (by simp)
    have hvalue : Nat.ofDigitChars 10 ds (d.toNat - 48) = n := by
      rw [← Nat.ofDigitChars_ten_toDigits (n := n), hds, Nat.ofDigitChars_cons]
      simp
    have hgo := @readNumber_go_digits src ds (fun c hc => hdigits c (by simp [hc])) (i + 1)
      (src.size + 1) (d.toNat - 48) h.tail
      (by simpa [Nat.add_assoc, Nat.add_comm 1] using hend) (by rw [hvalue]; exact hn)
      (by
        simp only [List.length_cons, @length_digitBytes ds (fun c hc => hdigits c (by simp [hc]))]
          at hsize
        omega)
    rw [hvalue] at hgo
    simp [readNumber, exec_bind, exec_next _ _ h.head, hne, hdig, hval, hgo]
    rw [Nat.add_assoc, Nat.add_comm 1]

/-- After the digits, a byte that ends the number leaves a non-negative integer as it is. -/
theorem readNumberTail_unsigned {src : ByteArray} {j : Nat} (n : Nat)
    (h : EndsNumber (src[j]?.getD 0)) :
    (readNumberTail true n).exec src j = (.ok (.unsigned n), j) := by
  obtain ⟨-, h46, h101, h69⟩ := h
  simp [readNumberTail, exec_bind, h46, h101, h69]

/-- After the digits of a negative integer's magnitude, within `2 ^ 63`, a byte that ends the
number gives the integer. -/
theorem readNumberTail_signed {src : ByteArray} {j n : Nat} (h0 : 0 < n) (hn : n ≤ 2 ^ 63)
    (h : EndsNumber (src[j]?.getD 0)) :
    (readNumberTail false n).exec src j = (.ok (.signed (-(n : Int))), j) := by
  obtain ⟨-, h46, h101, h69⟩ := h
  have hne : n ≠ 0 := by omega
  have hle : n ≤ 9223372036854775808 := by omega
  simp [readNumberTail, exec_bind, h46, h101, h69, hne, hle]

end RegisterAtlas.Json
