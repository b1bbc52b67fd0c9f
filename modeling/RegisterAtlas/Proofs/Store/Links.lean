import RegisterAtlas.Proofs.Store.Backing
/-!
# The links between rows

The rows of a store point at one another by id: a peripheral at its MPU and at the peripheral it
is derived from, a register at its peripheral, a field at its register. `Tables.Linked` says that
every such id names a row of the right table, that a peripheral is derived only from an earlier
peripheral of its own MPU, that registers belong only to peripherals that are not derived, and
that the ids of every table are `1, 2, …`, so that a new row's id is above all of its table's.

* `Tables.Refers`: the rows a new row points at are there.
* `Tables.Linked.add`: appending a row that points at rows already there, numbered one past its
  table, keeps the tables linked.
* `Tables.Sub`: the rows of one set of tables are rows of another; appending keeps every row.
* `insertRow_ok`: an accepted insert appends the row under the id after its table's last,
  whatever the store keeps its rows in.
-/

namespace RegisterAtlas

namespace Tables

/-! ## Links -/

/-- The rows a row points at are rows of `t`: a peripheral's MPU, and the peripheral it is
derived from, of the same MPU; a register's peripheral, which is not derived; a field's
register. -/
def Refers (t : Tables) : Row → Prop
  | .mpu _ => True
  | .peripheral r => (∃ m ∈ t.mpus, m.id = r.mpuId) ∧
      ∀ target ∈ r.derivedFromId, ∃ q ∈ t.peripherals, q.id = target ∧ q.row.mpuId = r.mpuId
  | .register r => ∃ p ∈ t.peripherals, p.id = r.peripheralId ∧ p.row.derivedFromId = none
  | .field r => ∃ x ∈ t.registers, x.id = r.registerId

/-- Tables whose every link names a row: the ids of each table are `1, 2, …`; every peripheral's
MPU is a row; a peripheral is derived from a row with a smaller id and the same MPU; every
register belongs to a peripheral that is not derived; every field belongs to a register. -/
structure Linked (t : Tables) : Prop where
  numbered : t.Numbered
  mpu : ∀ p ∈ t.peripherals, ∃ m ∈ t.mpus, m.id = p.row.mpuId
  derived : ∀ p ∈ t.peripherals, ∀ target ∈ p.row.derivedFromId,
    ∃ q ∈ t.peripherals, q.id = target ∧ q.id < p.id ∧ q.row.mpuId = p.row.mpuId
  register : ∀ r ∈ t.registers,
    ∃ p ∈ t.peripherals, p.id = r.row.peripheralId ∧ p.row.derivedFromId = none
  field : ∀ f ∈ t.fields, ∃ r ∈ t.registers, r.id = f.row.registerId

theorem linked_empty : ({} : Tables).Linked where
  numbered := numbered_empty
  mpu p hp := by simp at hp
  derived p hp := by simp at hp
  register r hr := by simp at hr
  field f hf := by simp at hf

/-! ## Growing tables -/

/-- Every row of `t` is a row of `t'`, in the same table. -/
structure Sub (t t' : Tables) : Prop where
  mpus : ∀ r ∈ t.mpus, r ∈ t'.mpus
  peripherals : ∀ r ∈ t.peripherals, r ∈ t'.peripherals
  registers : ∀ r ∈ t.registers, r ∈ t'.registers
  fields : ∀ r ∈ t.fields, r ∈ t'.fields

@[refl] theorem Sub.refl (t : Tables) : t.Sub t :=
  ⟨fun _ h => h, fun _ h => h, fun _ h => h, fun _ h => h⟩

theorem Sub.trans {t t' t'' : Tables} (h : t.Sub t') (h' : t'.Sub t'') : t.Sub t'' :=
  ⟨fun r hr => h'.mpus r (h.mpus r hr), fun r hr => h'.peripherals r (h.peripherals r hr),
    fun r hr => h'.registers r (h.registers r hr), fun r hr => h'.fields r (h.fields r hr)⟩

theorem Refers.mono {t t' : Tables} (h : t.Sub t') {row : Row} (hrow : t.Refers row) :
    t'.Refers row := by
  cases row with
  | mpu r => trivial
  | peripheral r =>
    obtain ⟨⟨m, hm, he⟩, hd⟩ := hrow
    refine ⟨⟨m, h.mpus m hm, he⟩, fun target ht => ?_⟩
    obtain ⟨q, hq, hqid, hqmpu⟩ := hd target ht
    exact ⟨q, h.peripherals q hq, hqid, hqmpu⟩
  | register r =>
    obtain ⟨p, hp, he, hd⟩ := hrow
    exact ⟨p, h.peripherals p hp, he, hd⟩
  | field r =>
    obtain ⟨x, hx, he⟩ := hrow
    exact ⟨x, h.registers x hx, he⟩

variable (t : Tables) (id : RowId) (row : Row)

/-! The rows of each table after one row is appended: the old ones, and the new one if it
belongs there. -/

theorem mem_add_mpus {m : Stored MpuRow} :
    m ∈ (t.add id row).mpus ↔ m ∈ t.mpus ∨ row = .mpu m.row ∧ m.id = id := by
  obtain ⟨xid, x⟩ := m
  cases row <;> simp [add, Array.mem_push, eq_comm, and_comm]

theorem mem_add_peripherals {p : Stored PeripheralRow} :
    p ∈ (t.add id row).peripherals ↔ p ∈ t.peripherals ∨ row = .peripheral p.row ∧ p.id = id := by
  obtain ⟨xid, x⟩ := p
  cases row <;> simp [add, Array.mem_push, eq_comm, and_comm]

theorem mem_add_registers {r : Stored RegisterRow} :
    r ∈ (t.add id row).registers ↔ r ∈ t.registers ∨ row = .register r.row ∧ r.id = id := by
  obtain ⟨xid, x⟩ := r
  cases row <;> simp [add, Array.mem_push, eq_comm, and_comm]

theorem mem_add_fields {f : Stored FieldRow} :
    f ∈ (t.add id row).fields ↔ f ∈ t.fields ∨ row = .field f.row ∧ f.id = id := by
  obtain ⟨xid, x⟩ := f
  cases row <;> simp [add, Array.mem_push, eq_comm, and_comm]

theorem sub_add : t.Sub (t.add id row) :=
  ⟨fun _ h => (mem_add_mpus t id row).2 (.inl h), fun _ h => (mem_add_peripherals t id row).2 (.inl h),
    fun _ h => (mem_add_registers t id row).2 (.inl h), fun _ h => (mem_add_fields t id row).2 (.inl h)⟩

theorem id_mem_ids_peripherals {p : Stored PeripheralRow} (hp : p ∈ t.peripherals) :
    p.id ∈ t.ids .peripherals := by
  simp only [ids, List.mem_map, Array.mem_toList_iff]
  exact ⟨p, hp, rfl⟩

/-! ## Appending keeps the links -/

variable {t row}

/-- **Appending keeps the links.** A row whose links name rows already there, appended with the
id one past its table, leaves the tables linked. -/
theorem Linked.add (h : t.Linked) (hrow : t.Refers row) :
    (t.add ((t.ids row.table).length + 1) row).Linked := by
  have hsub := sub_add t ((t.ids row.table).length + 1) row
  have hid := h.numbered.lt_next row.table
  refine ⟨h.numbered.add row, ?mpu, ?derived, ?register, ?field⟩
  case mpu =>
    intro p hp
    rcases (mem_add_peripherals t _ row).1 hp with hp | ⟨rfl, -⟩
    · obtain ⟨m, hm, he⟩ := h.mpu p hp
      exact ⟨m, hsub.mpus m hm, he⟩
    · obtain ⟨⟨m, hm, he⟩, -⟩ := hrow
      exact ⟨m, hsub.mpus m hm, he⟩
  case derived =>
    intro p hp target ht
    rcases (mem_add_peripherals t _ row).1 hp with hp | ⟨rfl, hpid⟩
    · obtain ⟨q, hq, hqid, hlt, hqmpu⟩ := h.derived p hp target ht
      exact ⟨q, hsub.peripherals q hq, hqid, hlt, hqmpu⟩
    · -- the new peripheral's target is an old row, so its id is below the new one
      obtain ⟨-, hd⟩ := hrow
      obtain ⟨q, hq, hqid, hqmpu⟩ := hd target ht
      refine ⟨q, hsub.peripherals q hq, hqid, ?_, hqmpu⟩
      rw [hpid]
      exact hid q.id (id_mem_ids_peripherals t hq)
  case register =>
    intro r hr
    rcases (mem_add_registers t _ row).1 hr with hr | ⟨rfl, -⟩
    · obtain ⟨p, hp, he, hd⟩ := h.register r hr
      exact ⟨p, hsub.peripherals p hp, he, hd⟩
    · obtain ⟨p, hp, he, hd⟩ := hrow
      exact ⟨p, hsub.peripherals p hp, he, hd⟩
  case field =>
    intro f hf
    rcases (mem_add_fields t _ row).1 hf with hf | ⟨rfl, -⟩
    · obtain ⟨r, hr, he⟩ := h.field f hf
      exact ⟨r, hsub.registers r hr, he⟩
    · obtain ⟨r, hr, he⟩ := hrow
      exact ⟨r, hsub.registers r hr, he⟩

end Tables

/-- In numbered tables with room for another row, an accepted row is numbered one past its
table. -/
theorem id_of_insertRow {s : Store} {row : Row} {M : Machine} {id : RowId}
    (h : ((insertRow s row).run M).1.1 = .ok id) (hnum : s.tables.Numbered)
    (hsmall : s.tables.Small) : id = (s.tables.ids row.table).length + 1 := by
  rw [Store.assignRow_ok (insertRow_ok h).1]
  exact Tables.next_of_numbered (hnum row.table) (hsmall row.table)

end RegisterAtlas
