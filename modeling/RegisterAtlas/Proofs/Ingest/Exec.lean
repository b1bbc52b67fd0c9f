import RegisterAtlas.Proofs.Store.Backing
import RegisterAtlas.Ingest
/-!
# Running ingestion steps

An ingestion step is a computation over the store it fills, with errors, on the modelled
machine. `IngestM.exec` runs one from a store and a machine; the lemmas here say what each way of
building a step does to that run, so that later proofs about a step cite them and never unfold
the monads.

* `IngestM.exec_bind`: a step after another starts from the store and machine the first left,
  unless the first stopped at an error.
* `IngestM.exec_enter`: entering a row is an insert, and the store becomes the one the insert
  leaves, whether it succeeds or not.
-/

namespace RegisterAtlas

/-- An ingestion step run from a store on the modelled machine: its answer, the store it leaves
and the machine after it. -/
def IngestM.exec (x : IngestM Sim α) (s : Store) (M : Machine) :
    (Except AtlasError α × Store) × Machine :=
  (x.run.run s).run M

namespace IngestM

variable (s : Store) (M : Machine)

@[simp] theorem exec_pure (a : α) : (pure a : IngestM Sim α).exec s M = ((.ok a, s), M) := rfl

@[simp] theorem exec_throw (e : AtlasError) :
    (throw e : IngestM Sim α).exec s M = ((.error e, s), M) := rfl

theorem exec_bind (x : IngestM Sim α) (f : α → IngestM Sim β) :
    (x >>= f).exec s M =
      match x.exec s M with
      | ((.ok a, s'), M') => (f a).exec s' M'
      | ((.error e, s'), M') => ((.error e, s'), M') := by
  simp only [exec, ExceptT.run_bind, StateT.run_bind]
  rcases (x.run.run s).run M with ⟨⟨_ | a, s'⟩, M'⟩ <;> rfl

theorem exec_map (g : α → β) (x : IngestM Sim α) :
    (g <$> x).exec s M = (((x.exec s M).1.1.map g, (x.exec s M).1.2), (x.exec s M).2) := by
  rw [map_eq_pure_bind, exec_bind]
  rcases x.exec s M with ⟨⟨_ | a, s'⟩, M'⟩ <;> rfl

theorem exec_note (level : Level) (message : String) :
    (note level message : IngestM Sim Unit).exec s M =
      ((.ok (), s), { M with logs := M.logs.push ⟨level, message⟩ }) := rfl

@[simp] theorem exec_get : (get : IngestM Sim Store).exec s M = ((.ok s, s), M) := rfl

@[simp] theorem exec_set (s' : Store) :
    (set s' : IngestM Sim PUnit).exec s M = ((.ok ⟨⟩, s'), M) := rfl

@[simp] theorem exec_liftM (x : Sim β) :
    (liftM x : IngestM Sim β).exec s M = ((.ok (x.run M).1, s), (x.run M).2) := rfl

/-- Entering a row is an insert: the answer, the store and the machine are the insert's. -/
theorem exec_enter [Entity α] (row : α) :
    (enter row : IngestM Sim RowId).exec s M = (s.insert row : Sim _).run M := by
  simp only [enter, exec_bind, exec_get, exec_liftM]
  rcases (s.insert row : Sim _).run M with ⟨⟨_ | id, s'⟩, M'⟩ <;> rfl

end IngestM

/-- An ingestion is the run of the step that enters the device. -/
theorem ingest_run (s : Store) (d : Device) (M : Machine) :
    (ingest s d : Sim _).run M = (enterDevice d).exec s M := rfl

end RegisterAtlas
