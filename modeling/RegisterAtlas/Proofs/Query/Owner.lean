import RegisterAtlas.Proofs.Store.Links
import RegisterAtlas.Proofs.Store.Search
import RegisterAtlas.Report
/-!
# Reading linked tables

On linked tables nothing that reads a peripheral fails for want of a row. A derivation link
names an earlier peripheral, so the walk from a peripheral to the one that owns its registers
meets a row at every step; and it meets a peripheral with a smaller id at each step, so it takes
fewer steps than the table has rows and is never taken for a cycle.

* `Store.get_of_mem`: the id of a row fetches that row, its table's ids increasing.
* `registerOwner_ok`, `resolvePeripheral_ok`: every peripheral row resolves.
* `dump_ok`: a store with a row dumps whole.
-/

namespace RegisterAtlas

/-- A predicate weaker than another holds of fewer members, strictly when some member has the
stronger one and not the weaker. -/
theorem countP_lt_countP {l : List β} {p q : β → Bool} (hpq : ∀ x ∈ l, p x → q x) {a : β}
    (ha : a ∈ l) (hqa : q a) (hpa : ¬ p a) : l.countP p < l.countP q := by
  induction l with
  | nil => cases ha
  | cons b l ih =>
    rw [List.countP_cons, List.countP_cons]
    have hhead : (if p b then 1 else 0) ≤ if q b then 1 else 0 := by
      by_cases hpb : p b
      · simp [hpb, hpq b List.mem_cons_self hpb]
      · simp [hpb]
    rcases List.mem_cons.1 ha with rfl | ha
    · have hmono := List.countP_mono_left fun x hx => hpq x (List.mem_cons_of_mem _ hx)
      rw [if_pos hqa, if_neg hpa]
      omega
    · have hlt := ih (fun x hx => hpq x (List.mem_cons_of_mem _ hx)) ha
      omega

namespace Store

/-- In a table whose ids increase, the id of a row fetches that row. -/
theorem get_of_mem [Entity α] {s : Store}
    (hs : Search.Increasing (Entity.rows s.tables : Array (Stored α)) (·.id)) {q : Stored α}
    (hq : q ∈ (Entity.rows s.tables : Array (Stored α))) : s.get q.id = .ok q := by
  obtain ⟨j, hj, rfl⟩ := Array.mem_iff_getElem.1 hq
  rw [get_eq_find hs, Search.find?_eq_of_increasing hs hj]

end Store

/-- The peripherals of linked tables, whose ids are `1, 2, …`, increase. -/
theorem Tables.Linked.increasing_peripherals {t : Tables} (hl : t.Linked) :
    Search.Increasing t.peripherals (·.id) :=
  Search.increasing_iff.2 (hl.numbered.increasing .peripherals)

variable {s : Store}

/-! ## The owner of a peripheral's registers -/

/-- The peripherals whose id is at most `x`. -/
theorem countP_peripherals_le {x : RowId} :
    s.tables.peripherals.toList.countP (fun q => decide (q.id ≤ x)) ≤ s.count PeripheralRow := by
  simp only [Store.count, Entity.rows]
  rw [← Array.length_toList]
  exact List.countP_le_length

/-- **The walk to the owner stays on rows.** From a peripheral row, with fewer steps taken than
the table has rows at or below it, the walk ends with a row, whatever its fuel: each derivation
link leads to a row with a smaller id, which has fewer rows at or below it. -/
theorem walk_ok (hl : s.tables.Linked) (p : Stored PeripheralRow) :
    ∀ (fuel steps : Nat) (owner : Stored PeripheralRow), owner ∈ s.tables.peripherals →
      steps + s.tables.peripherals.toList.countP (fun q => decide (q.id ≤ owner.id)) ≤
        s.count PeripheralRow →
      ∃ o, registerOwner.walk s p (s.count PeripheralRow) fuel steps owner = .ok o := by
  intro fuel
  induction fuel with
  | zero =>
    intro steps owner _ _
    exact ⟨owner, by simp [registerOwner.walk]⟩
  | succ fuel ih =>
    intro steps owner hown hbound
    cases hd : owner.row.derivedFromId with
    | none => exact ⟨owner, by simp [registerOwner.walk, hd]⟩
    | some target =>
      obtain ⟨q, hq, hqid, hlt, -⟩ := hl.derived owner hown target (by simp [hd])
      have hqmem : q ∈ s.tables.peripherals.toList := Array.mem_toList_iff.2 hq
      -- the rows at or below the target are fewer than those at or below the owner
      have hfewer := countP_lt_countP (p := fun r => decide (r.id ≤ q.id))
        (q := fun r => decide (r.id ≤ owner.id))
        (fun r _ hr => by simp only [decide_eq_true_eq] at hr ⊢; exact le_of_lt (lt_of_le_of_lt hr hlt))
        (Array.mem_toList_iff.2 hown) (by simp) (by simpa using hlt)
      have hpos : 0 < s.tables.peripherals.toList.countP (fun r => decide (r.id ≤ q.id)) :=
        List.countP_pos_iff.2 ⟨q, hqmem, by simp⟩
      have hget := Store.get_of_mem (α := PeripheralRow) hl.increasing_peripherals hq
      rw [hqid] at hget
      obtain ⟨o, ho⟩ := ih (steps + 1) q hq (by omega)
      refine ⟨o, ?_⟩
      simp only [registerOwner.walk, hd]
      rw [if_neg (by omega), hget]
      exact ho

/-- On linked tables the owner of every peripheral row's registers is found. -/
theorem registerOwner_ok (hl : s.tables.Linked) {p : Stored PeripheralRow}
    (hp : p ∈ s.tables.peripherals) : ∃ o, registerOwner s p = .ok o :=
  walk_ok hl p _ 0 p hp (by simpa using countP_peripherals_le)

/-- On linked tables every peripheral row resolves. -/
theorem resolvePeripheral_ok (hl : s.tables.Linked) {p : Stored PeripheralRow}
    (hp : p ∈ s.tables.peripherals) : ∃ r, resolvePeripheral s p = .ok r := by
  obtain ⟨o, ho⟩ := registerOwner_ok hl hp
  simp [resolvePeripheral, ho, bind, Except.bind, pure, Except.pure]

/-! ## The dump -/

/-- A store with a row of any table has an MPU: every row leads to one through its links. -/
theorem mpuName_ok (hl : s.tables.Linked) (hrow : ∃ tb, s.tables.ids tb ≠ []) :
    ∃ name, mpuName s = .ok name := by
  have hmpu : ∃ m, m ∈ s.tables.mpus := by
    obtain ⟨tb, htb⟩ := hrow
    obtain ⟨x, hx⟩ := List.exists_mem_of_ne_nil _ htb
    cases tb <;> simp only [Tables.ids, List.mem_map, Array.mem_toList_iff] at hx <;>
      obtain ⟨r, hr, -⟩ := hx
    · exact ⟨r, hr⟩
    · obtain ⟨m, hm, -⟩ := hl.mpu r hr
      exact ⟨m, hm⟩
    · obtain ⟨p, hp, -⟩ := hl.register r hr
      obtain ⟨m, hm, -⟩ := hl.mpu p hp
      exact ⟨m, hm⟩
    · obtain ⟨x, hx, -⟩ := hl.field r hr
      obtain ⟨p, hp, -⟩ := hl.register x hx
      obtain ⟨m, hm, -⟩ := hl.mpu p hp
      exact ⟨m, hm⟩
  obtain ⟨m, hm⟩ := hmpu
  have hsize : 0 < s.tables.mpus.size := Array.size_pos_of_mem hm
  unfold mpuName
  rw [Array.getElem?_eq_getElem (by simpa [Store.all, Entity.rows] using hsize)]
  exact ⟨_, rfl⟩

/-- A computation after one that succeeds succeeds when it does from every answer. -/
theorem exists_ok_bind {x : Except ε α} {f : α → Except ε β} (hx : ∃ a, x = .ok a)
    (hf : ∀ a, ∃ b, f a = .ok b) : ∃ b, (x >>= f) = .ok b := by
  obtain ⟨a, rfl⟩ := hx
  exact hf a

/-- A list of computations that each succeed succeeds as a whole. -/
theorem mapM_ok {f : β → Except ε γ} :
    ∀ {l : List β}, (∀ x ∈ l, ∃ y, f x = .ok y) → ∃ ys, l.mapM f = .ok ys
  | [], _ => ⟨[], rfl⟩
  | x :: l, h => by
    obtain ⟨y, hy⟩ := h x List.mem_cons_self
    obtain ⟨ys, hys⟩ := mapM_ok fun z hz => h z (List.mem_cons_of_mem _ hz)
    exact ⟨y :: ys, by simp [List.mapM_cons, hy, hys, bind, Except.bind, pure, Except.pure]⟩

theorem mem_of_mem_fetchPeripherals {p : Stored PeripheralRow} (hp : p ∈ fetchPeripherals s) :
    p ∈ s.tables.peripherals := by
  simp only [fetchPeripherals, fetchPeripheralsLike, List.mem_mergeSort, Array.mem_toList_iff,
    Store.select, Array.mem_filter] at hp
  exact hp.1

/-- **Linked stores dump.** A store with linked tables and a row of any table dumps whole: its
MPU is found, the peripheral a derived one names is a row, and every other peripheral
resolves. -/
theorem dump_ok (hl : s.tables.Linked) (hrow : ∃ tb, s.tables.ids tb ≠ []) :
    ∃ text, dump s = .ok text := by
  unfold dump
  refine exists_ok_bind (mpuName_ok hl hrow) fun _ =>
    exists_ok_bind (mapM_ok fun p hp => ?_) fun _ => ⟨_, rfl⟩
  have hmem := mem_of_mem_fetchPeripherals hp
  cases hd : p.row.derivedFromId with
  | some target =>
    -- the peripheral it is derived from is a row
    obtain ⟨q, hq, hqid, -, -⟩ := hl.derived p hmem target (by simp [hd])
    have hget := Store.get_of_mem (α := PeripheralRow) hl.increasing_peripherals hq
    rw [hqid] at hget
    exact exists_ok_bind ⟨q, hget⟩ fun _ => ⟨_, rfl⟩
  | none =>
    exact exists_ok_bind (resolvePeripheral_ok hl hmem) fun _ => ⟨_, rfl⟩

end RegisterAtlas
