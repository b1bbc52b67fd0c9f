import RegisterAtlas.Proofs.Store.Reachable
/-!
# The children index agrees with a scan

Beside its rows, the tables keep an index from each table and parent id to the positions, in
their table, of the rows with that parent. `Store.children` reads the rows at those positions;
`Tables.push` is the only writer of the index, noting a row's position as it appends the row, on
insert and on replay alike. So in tables built by appending rows the index holds, under every
table and parent, exactly the positions of that parent's rows in order, and the children of a
parent are exactly the rows a scan of the table selects.

* `positions`: the positions at which a value stands in a list.
* `Tables.parents`: the parent ids of a table's rows, in order; `Tables.Indexed`: the index
  notes exactly the positions of each parent's rows.
* `Tables.Indexed.add`, `Tables.Built.indexed`: appending a row keeps the index exact.
* `Store.children_eq_select`: on an exact index, the children of a parent are the rows a scan
  selects.
* `children_agree_with_scan`: in every reachable store, for every table.
-/

namespace RegisterAtlas

/-! ## Positions in a list -/

section Positions

variable {β γ : Type} [DecidableEq β]

/-- The positions at which `x` stands in `l`, in increasing order. -/
def positions (x : β) (l : List β) : List Nat :=
  (List.range l.length).filter fun i => decide (l[i]? = some x)

theorem lt_of_mem_positions {x : β} {l : List β} {i : Nat} (h : i ∈ positions x l) :
    i < l.length := by
  unfold positions at h
  exact List.mem_range.1 (List.mem_filter.1 h).1

/-- Appending a value adds its position when it is the one sought. -/
theorem positions_append (x y : β) (l : List β) :
    positions x (l ++ [y]) = positions x l ++ if y = x then [l.length] else [] := by
  unfold positions
  rw [List.length_append, List.length_singleton, List.range_succ, List.filter_append]
  congr 1
  · -- the old positions read the same value in the longer list
    apply List.filter_congr
    intro i hi
    rw [List.getElem?_append_left (List.mem_range.1 hi)]
  · by_cases h : y = x <;> simp [h]

/-- Reading a list at the positions where its image takes a value selects the members with that
image, in order. -/
theorem filterMap_positions (g : γ → β) (x : β) (rows : List γ) :
    (positions x (rows.map g)).filterMap (fun i => rows[i]?) = rows.filter fun r => decide (g r = x) := by
  induction rows using List.reverseRecOn with
  | nil => rfl
  | append_singleton rows r ih =>
    rw [List.map_append, List.map_singleton, positions_append, List.filterMap_append,
      List.filter_append]
    -- the old positions are below the old length, so the longer list reads the same rows there
    have hold : (positions x (rows.map g)).filterMap (fun i => (rows ++ [r])[i]?) =
        (positions x (rows.map g)).filterMap (fun i => rows[i]?) := by
      refine List.filterMap_congr fun i hi => ?_
      have hlt := lt_of_mem_positions hi
      rw [List.length_map] at hlt
      exact List.getElem?_append_left hlt
    rw [hold, ih, List.length_map]
    by_cases h : g r = x <;> simp [h]

end Positions

/-! ## The exact index -/

/-- The parent id of a row of any table; MPUs have none. -/
def Row.parentId : Row → Option RowId
  | .mpu r => Entity.parentId r
  | .peripheral r => Entity.parentId r
  | .register r => Entity.parentId r
  | .field r => Entity.parentId r

namespace Tables

/-- The parent ids of a table's rows, in order. -/
def parents (t : Tables) : Table → List (Option RowId)
  | .mpus => t.mpus.toList.map fun r => Entity.parentId r.row
  | .peripherals => t.peripherals.toList.map fun r => Entity.parentId r.row
  | .registers => t.registers.toList.map fun r => Entity.parentId r.row
  | .fields => t.fields.toList.map fun r => Entity.parentId r.row

/-- The index notes, under every table and parent, exactly the positions of that table's rows
with that parent, in order. -/
def Indexed (t : Tables) : Prop :=
  ∀ tb q, (t.children.getD (tb, q) #[]).toList = positions (some q) (t.parents tb)

theorem parents_add (t : Tables) (id : RowId) (row : Row) (tb : Table) :
    (t.add id row).parents tb =
      if tb = row.table then t.parents tb ++ [row.parentId] else t.parents tb := by
  cases row <;> cases tb <;> simp [add, push, parents, Row.table, Row.parentId, Entity.rows,
    Entity.setRows]

/-- Appending a row with a parent notes its position, the length of its table, under the table
and the parent. -/
theorem children_add (t : Tables) (id : RowId) (row : Row) :
    (t.add id row).children = match row.parentId with
      | some p => t.children.insert (row.table, p)
          ((t.children.getD (row.table, p) #[]).push (t.parents row.table).length)
      | none => t.children := by
  cases row <;> simp [add, push, parents, Row.table, Row.parentId, Entity.rows, Entity.setRows,
    Entity.parentId, Entity.table]

theorem indexed_empty : ({} : Tables).Indexed := by
  intro tb q
  cases tb <;> simp [parents, positions]

/-- **Appending keeps the index exact.** The new row's position joins the positions of its own
table and parent, which is where the index notes it; every other entry stays as it was. -/
theorem Indexed.add {t : Tables} (h : t.Indexed) (id : RowId) (row : Row) :
    (t.add id row).Indexed := by
  intro tb q
  rw [parents_add, children_add]
  by_cases htb : tb = row.table
  · subst htb
    rw [if_pos rfl, positions_append, ← h]
    cases hp : row.parentId with
    | none => simp
    | some p =>
      rw [Std.HashMap.getD_insert]
      by_cases hq : p = q
      · subst hq
        simp
      · simp [hq]
  · -- the key of another table is not the new row's
    rw [if_neg htb, ← h]
    cases hp : row.parentId with
    | none => rfl
    | some p =>
      rw [Std.HashMap.getD_insert]
      have hkey : ((row.table, p) == (tb, q)) = false := by
        simp only [beq_eq_false_iff_ne, ne_eq, Prod.mk.injEq, not_and]
        exact fun hrow => absurd hrow.symm htb
      rw [hkey]
      rfl

theorem Built.indexed {t : Tables} (h : t.Built) : t.Indexed := by
  induction h with
  | empty => exact indexed_empty
  | add id row _ ih => exact ih.add id row

end Tables

/-! ## Children -/

namespace Store

variable [Entity α]

/-- **The children of a parent are the rows a scan selects.** On tables whose index is exact,
reading the rows at the positions noted for a parent gives the rows of the table with that parent,
in order. -/
theorem children_eq_select {s : Store} (h : s.tables.Indexed)
    (hparents : s.tables.parents (Entity.table α) =
      (Entity.rows s.tables : Array (Stored α)).toList.map fun r => Entity.parentId r.row)
    (q : RowId) :
    (s.children q : Array (Stored α)) = s.select fun r => Entity.parentId r == some q := by
  have hread : (s.children q : Array (Stored α)) =
      (s.tables.children.getD (Entity.table α, q) #[]).filterMap
        fun i => (Entity.rows s.tables : Array (Stored α))[i]? := by
    unfold children
    rw [Std.HashMap.getD_eq_getD_getElem?, ← Std.HashMap.get?_eq_getElem?]
    cases s.tables.children.get? (Entity.table α, q) <;> rfl
  rw [hread, ← Array.toList_inj, Array.toList_filterMap, h, hparents, select, Array.toList_filter]
  rw [List.filterMap_congr fun i _ => Array.getElem?_toList.symm]
  rw [filterMap_positions]
  exact List.filter_congr fun r _ => by rw [beq_eq_decide]

/-- The index agrees with a scan on `α`'s table: the rows under every parent are those a scan
of the table selects. -/
def ChildrenAgree (α : Type) [Entity α] (s : Store) : Prop :=
  ∀ q : RowId, (s.children q : Array (Stored α)) = s.select fun r => Entity.parentId r == some q

end Store

/-- **The children index agrees with a full scan.** In every store the API hands out, after any
inserts and ingestions, the children of every parent in every table are exactly the rows a scan
of the table selects for that parent, in the same order; an MPU has no parent, so the MPUs under
any parent are none. -/
theorem children_agree_with_scan {s : Store} (h : s.Reachable) :
    s.ChildrenAgree MpuRow ∧ s.ChildrenAgree PeripheralRow ∧ s.ChildrenAgree RegisterRow ∧
      s.ChildrenAgree FieldRow ∧ ∀ q, (s.children q : Array (Stored MpuRow)) = #[] := by
  have hindex := h.built.indexed
  have hmpu : s.ChildrenAgree MpuRow := Store.children_eq_select hindex rfl
  refine ⟨hmpu, Store.children_eq_select hindex rfl, Store.children_eq_select hindex rfl,
    Store.children_eq_select hindex rfl, fun q => ?_⟩
  -- no MPU row has a parent
  rw [hmpu q, Store.select]
  simp [Entity.parentId]

/-- Three registers inserted into a store in memory, the first and the last under the same
peripheral. -/
theorem children_agree_after_three_registers :
    let reg : RowId → Row := fun p => .register { peripheralId := p, name := "R", addressOffset := "0" }
    let step : Store → Row → Store := fun s row => ((insertRow s row).run default).1.2
    let s := step (step (step Store.inMemory (reg 1)) (reg 2)) (reg 1)
    s.Reachable ∧ (s.ChildrenAgree MpuRow ∧ s.ChildrenAgree PeripheralRow ∧
      s.ChildrenAgree RegisterRow ∧ s.ChildrenAgree FieldRow ∧
      ∀ q, (s.children q : Array (Stored MpuRow)) = #[]) := by
  intro reg step s
  have hreach : s.Reachable := .inserted _ _ (.inserted _ _ (.inserted _ _ .inMemory))
  exact ⟨hreach, children_agree_with_scan hreach⟩

end RegisterAtlas
