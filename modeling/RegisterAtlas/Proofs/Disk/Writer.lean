import Mathlib
import RegisterAtlas.Disk.Writer
import RegisterAtlas.Proofs.Disk.Resolve
/-!
# Buffered writes on the modelled machine

What a journal's writer does on a machine that may refuse writes. A write meets the machine's
next fault: refused, it writes nothing; let through, the file its path leads to takes the bytes.
Nothing a writer does touches the log or the working directory.

On a machine that refuses nothing, a writer whose buffer is empty writes a line and its line
feed at its offset, in one write or, for a line as long as the buffer, in two, and is left with an
empty buffer; at the end of its file either way appends the line. When the machine refuses the
flush instead, the line and its line feed stay in the buffer, and the next flush that goes
through writes them ahead of whatever was buffered after them.

* `sim_run_bind`, `sim_run_map`: a run on the modelled machine passes its answer and machine on.
* `writeAt_run`, `Writer.writeThrough_run`, `Writer.flush_run`: one write, and a flush.
* `Quiet`: a computation that leaves the log and the working directory alone, as every writer
  operation does (`Writer.quiet_appendLine`, `Writer.quiet_release`).
* `Writer.appendLine_run_of_short`: a line shorter than the buffer joins it with its line feed,
  so appending it is the flush that follows.
* `Writer.appendLine_run_at_end`: a line appended to the end of a file on a machine that refuses
  nothing.
* `Writer.appendLine_refused`: a refused flush keeps the line in the buffer.
-/

namespace RegisterAtlas

namespace Machine

variable (M : Machine) (p : String) (off : Nat) (b : ByteArray)

/-- The machine after a write that goes through: the file the path leads to takes the bytes,
and a path that leads nowhere changes nothing. -/
def wrote : Machine :=
  match M.disk.resolve M.cwd p with
  | .ok (l, _) => { M with disk := M.disk.writeAt l off b }
  | .error _ => M

@[simp] theorem wrote_logs : (M.wrote p off b).logs = M.logs := by
  unfold wrote
  split <;> rfl

@[simp] theorem wrote_cwd : (M.wrote p off b).cwd = M.cwd := by
  unfold wrote
  split <;> rfl

@[simp] theorem wrote_faults : (M.wrote p off b).faults = M.faults := by
  unfold wrote
  split <;> rfl

theorem nextFault_logs : M.nextFault.2.logs = M.logs := by
  unfold nextFault
  split <;> rfl

theorem nextFault_cwd : M.nextFault.2.cwd = M.cwd := by
  unfold nextFault
  split <;> rfl

/-- A machine that refuses no write meets no fault. -/
theorem nextFault_of_faults_nil {M : Machine} (h : M.faults = []) : M.nextFault = (none, M) := by
  simp [nextFault, h]

/-- A write at the end of a file appends to it, and the path still leads to the file. -/
theorem wrote_at_end {M : Machine} {p : String} {l : Location} {B : ByteArray}
    (hres : M.disk.resolve M.cwd p = .ok (l, some (.file B))) (b : ByteArray) :
    M.wrote p B.size b = { M with disk := M.disk.set l (some (.file (B ++ b))) } ∧
      (M.disk.set l (some (.file (B ++ b)))).resolve M.cwd p = .ok (l, some (.file (B ++ b))) := by
  refine ⟨?_, Disk.resolve_set_file hres (by simp) (Disk.endsWith_of_resolve_file hres) _⟩
  simp only [wrote, hres]
  rw [Disk.writeAt_file (Disk.entry_of_resolve hres), Disk.patch_size]

end Machine

/-- A run on the modelled machine is a value: a step after another starts from the first's answer
and machine. -/
theorem sim_run_bind (x : Sim α) (f : α → Sim β) (M : Machine) :
    (x >>= f).run M = (f (x.run M).1).run (x.run M).2 := rfl

theorem sim_run_map (f : α → β) (x : Sim α) (M : Machine) :
    (f <$> x).run M = (f (x.run M).1, (x.run M).2) := rfl

/-- Writing bytes into a file on the modelled machine meets the machine's next fault: refused,
nothing is written; let through, the file the path leads to takes the bytes. -/
theorem writeAt_run (M : Machine) (p : String) (off : Nat) (b : ByteArray) :
    (FileSystem.writeAt p off b : Sim _).run M =
      match M.nextFault with
      | (some e, M') => (.error e, M')
      | (none, M') => (.ok (), M'.wrote p off b) := by
  simp only [FileSystem.writeAt, StateT.run_bind]
  rcases hf : M.nextFault with ⟨_ | e, M'⟩
  · rcases hres : M'.disk.resolve M'.cwd p with _ | ⟨l, e⟩ <;> simp [hf, hres, Machine.wrote] <;> rfl
  · simp [hf]
    rfl

/-! ## Computations that touch only files -/

/-- A computation on the machine that leaves its log and its working directory as they were. -/
def Quiet (x : Sim α) : Prop := ∀ M : Machine, (x.run M).2.logs = M.logs ∧ (x.run M).2.cwd = M.cwd

namespace Quiet

theorem pure (a : α) : Quiet (Pure.pure a : Sim α) := fun _ => ⟨rfl, rfl⟩

theorem bind {x : Sim α} {f : α → Sim β} (hx : Quiet x) (hf : ∀ a, Quiet (f a)) :
    Quiet (x >>= f) := by
  intro M
  obtain ⟨hlogs, hcwd⟩ := hx M
  obtain ⟨hlogs', hcwd'⟩ := hf (x.run M).1 (x.run M).2
  exact ⟨hlogs'.trans hlogs, hcwd'.trans hcwd⟩

theorem writeAt (p : String) (off : Nat) (b : ByteArray) :
    Quiet (FileSystem.writeAt p off b : Sim _) := by
  intro M
  have hlogs := M.nextFault_logs
  have hcwd := M.nextFault_cwd
  rw [writeAt_run]
  rcases hf : M.nextFault with ⟨_ | e, M'⟩ <;> rw [hf] at hlogs hcwd <;> simp_all

end Quiet

/-! ## The writer's operations -/

namespace Writer

variable (w : Writer) (b : ByteArray) (M : Machine)

theorem writeThrough_run :
    (w.writeThrough b : Sim _).run M =
      match M.nextFault with
      | (some e, M') => ((.error e, w), M')
      | (none, M') => ((.ok (), { w with offset := w.offset + b.size }),
          M'.wrote w.path w.offset b) := by
  simp only [writeThrough, StateT.run_bind, writeAt_run]
  rcases M.nextFault with ⟨_ | e, M'⟩ <;> rfl

theorem flush_run :
    (w.flush : Sim _).run M =
      if w.pending.isEmpty then ((.ok (), w), M)
      else
        match M.nextFault with
        | (some e, M') => ((.error e, w), M')
        | (none, M') => ((.ok (), { w with offset := w.offset + w.pending.size, pending := .empty }),
            M'.wrote w.path w.offset w.pending) := by
  unfold flush
  split
  · rfl
  · simp only [StateT.run_bind, writeThrough_run]
    rcases M.nextFault with ⟨_ | e, M'⟩ <;> rfl

/-- Bytes that fit beside the buffer's, and are fewer than it holds, join the buffer. -/
theorem writeAll_buffered {m : Type → Type} [Monad m] [LawfulMonad m] [FileSystem m] {w : Writer}
    {b : ByteArray} (hfit : w.pending.size + b.size ≤ bufferCapacity)
    (hsmall : b.size < bufferCapacity) :
    (w.writeAll b : m _) = Pure.pure (.ok (), { w with pending := w.pending ++ b }) := by
  unfold writeAll
  by_cases hroom : b.size < bufferCapacity - w.pending.size
  · rw [if_pos hroom]
  · -- the bytes fill the buffer exactly: they join it without a flush
    have hnoflush : ¬ b.size > bufferCapacity - w.pending.size := by omega
    have hnodirect : ¬ b.size ≥ bufferCapacity := by omega
    simp only [if_neg hroom, if_neg hnoflush, pure_bind, if_neg hnodirect]

/-- On the modelled machine, bytes that join the buffer leave the machine untouched. -/
theorem writeAll_run_buffered {w : Writer} {b : ByteArray}
    (hfit : w.pending.size + b.size ≤ bufferCapacity) (hsmall : b.size < bufferCapacity)
    (M : Machine) :
    (w.writeAll b : Sim _).run M = ((.ok (), { w with pending := w.pending ++ b }), M) := by
  rw [writeAll_buffered hfit hsmall]
  rfl

/-- Bytes as many as the buffer holds go past an empty buffer to the file. -/
theorem writeAll_run_large {w : Writer} (hw : w.pending = .empty) {b : ByteArray}
    (hlarge : bufferCapacity ≤ b.size) (M : Machine) :
    (w.writeAll b : Sim _).run M = (w.writeThrough b : Sim _).run M := by
  have hempty : w.pending.size = 0 := by rw [hw]; rfl
  have hroom : ¬ b.size < bufferCapacity - w.pending.size := by omega
  have hflush : (w.flush : Sim _) = Pure.pure (.ok (), w) := by
    simp [flush, hw, ByteArray.isEmpty]
  unfold writeAll
  rw [if_neg hroom]
  by_cases hover : b.size > bufferCapacity - w.pending.size
  · simp only [if_pos hover, hflush, pure_bind, if_pos hlarge]
  · simp only [if_neg hover, pure_bind, if_pos hlarge]

theorem quiet_writeThrough : Quiet (w.writeThrough b : Sim _) := by
  unfold writeThrough
  refine Quiet.bind (Quiet.writeAt _ _ _) fun r => ?_
  cases r <;> exact Quiet.pure _

theorem quiet_flush : Quiet (w.flush : Sim _) := by
  unfold flush
  split
  · exact Quiet.pure _
  · refine Quiet.bind (quiet_writeThrough _ _) fun r => ?_
    rcases r with ⟨_ | _, w'⟩ <;> exact Quiet.pure _

theorem quiet_writeAll : Quiet (w.writeAll b : Sim _) := by
  unfold writeAll
  split
  · exact Quiet.pure _
  · extract_lets jp
    -- after the flush, if any: the bytes go to the file or join the buffer
    have hjp : ∀ r, Quiet (jp r) := by
      rintro ⟨_ | _, w'⟩
      · exact Quiet.pure _
      · dsimp only [jp]
        split
        · exact quiet_writeThrough _ _
        · exact Quiet.pure _
    split
    · exact Quiet.bind (quiet_flush _) hjp
    · exact Quiet.bind (Quiet.pure _) hjp

/-- Appending a line touches only files. -/
theorem quiet_appendLine : Quiet (w.appendLine b : Sim _) := by
  unfold appendLine
  refine Quiet.bind (quiet_writeAll _ _) fun r => ?_
  rcases r with ⟨_ | _, w₁⟩
  · exact Quiet.pure _
  · refine Quiet.bind (quiet_writeAll _ _) fun r => ?_
    rcases r with ⟨_ | _, w₂⟩
    · exact Quiet.pure _
    · exact quiet_flush _

/-- Dropping a writer touches only files. -/
theorem quiet_release : Quiet (w.release : Sim _) := by
  unfold release
  exact Quiet.bind (quiet_flush _) fun _ => Quiet.pure _

/-- Appending a line is its three steps one after another, stopping at the first refusal. -/
theorem appendLine_run :
    (w.appendLine b : Sim _).run M =
      match (w.writeAll b : Sim _).run M with
      | ((.error e, w₁), M₁) => ((.error e, w₁), M₁)
      | ((.ok (), w₁), M₁) =>
        match (w₁.writeAll "\n".toUTF8 : Sim _).run M₁ with
        | ((.error e, w₂), M₂) => ((.error e, w₂), M₂)
        | ((.ok (), w₂), M₂) => (w₂.flush : Sim _).run M₂ := by
  simp only [appendLine, StateT.run_bind]
  rcases (w.writeAll b : Sim _).run M with ⟨⟨_ | _, w₁⟩, M₁⟩
  · rfl
  · dsimp only
    show StateT.run (w₁.writeAll "\n".toUTF8 >>= _) M₁ = _
    rw [StateT.run_bind]
    rcases (w₁.writeAll "\n".toUTF8 : Sim _).run M₁ with ⟨⟨_ | _, w₂⟩, M₂⟩ <;> rfl

/-! ## A line on a machine that refuses nothing -/

/-- The line feed that ends every line. -/
theorem size_lineFeed : ("\n".toUTF8).size = 1 := rfl

theorem size_lineFeed_lt : ("\n".toUTF8).size < bufferCapacity := by
  rw [size_lineFeed]
  decide

/-- A line shorter than the buffer, and its line feed, join an empty buffer. -/
theorem writeAll_line_feed (path : String) (off : Nat) {line : ByteArray}
    (hshort : line.size < bufferCapacity) (M : Machine) :
    (({ path := path, offset := off } : Writer).writeAll line : Sim _).run M =
        ((.ok (), { path := path, offset := off, pending := line }), M) ∧
      (({ path := path, offset := off, pending := line } : Writer).writeAll "\n".toUTF8 : Sim _).run M =
        ((.ok (), { path := path, offset := off, pending := line ++ "\n".toUTF8 }), M) := by
  have hfit : line.size + "\n".toUTF8.size ≤ bufferCapacity := by
    rw [size_lineFeed]
    omega
  refine ⟨?_, ?_⟩
  · rw [writeAll_run_buffered (by simp; omega) hshort]
    simp
  · rw [writeAll_run_buffered hfit size_lineFeed_lt]

theorem isEmpty_append_lineFeed (line : ByteArray) : (line ++ "\n".toUTF8).isEmpty = false := by
  unfold ByteArray.isEmpty
  rw [ByteArray.size_append, size_lineFeed]
  simp

/-- A line shorter than the buffer and its line feed join an empty buffer: appending the line
comes down to the flush that follows. -/
theorem appendLine_run_of_short (path : String) (off : Nat) {line : ByteArray}
    (hshort : line.size < bufferCapacity) (M : Machine) :
    (({ path := path, offset := off } : Writer).appendLine line : Sim _).run M =
      (({ path := path, offset := off, pending := line ++ "\n".toUTF8 } : Writer).flush :
        Sim _).run M := by
  obtain ⟨hline, hfeed⟩ := writeAll_line_feed path off hshort M
  rw [appendLine_run, hline]
  dsimp only
  rw [hfeed]

/-- A line shorter than the buffer goes out with its line feed in one write at the flush. -/
theorem appendLine_run_short {w : Writer} (hw : w.pending = .empty) {line : ByteArray}
    (hshort : line.size < bufferCapacity) {M : Machine} (hM : M.faults = []) :
    (w.appendLine line : Sim _).run M =
      ((.ok (), { w with offset := w.offset + (line ++ "\n".toUTF8).size }),
        M.wrote w.path w.offset (line ++ "\n".toUTF8)) := by
  obtain ⟨path, off, pending⟩ := w
  subst hw
  rw [appendLine_run_of_short path off hshort, flush_run, isEmpty_append_lineFeed,
    if_neg Bool.false_ne_true, Machine.nextFault_of_faults_nil hM]

/-- A line as long as the buffer goes to the file directly, and its line feed after it at the
flush. -/
theorem appendLine_run_long {w : Writer} (hw : w.pending = .empty) {line : ByteArray}
    (hlong : bufferCapacity ≤ line.size) {M : Machine} (hM : M.faults = []) :
    (w.appendLine line : Sim _).run M =
      ((.ok (), { w with offset := w.offset + (line ++ "\n".toUTF8).size }),
        (M.wrote w.path w.offset line).wrote w.path (w.offset + line.size) "\n".toUTF8) := by
  obtain ⟨path, off, pending⟩ := w
  subst hw
  have hfeed : (({ path := path, offset := off + line.size } : Writer).writeAll
      "\n".toUTF8 : Sim _).run (M.wrote path off line) =
      ((.ok (), { path := path, offset := off + line.size, pending := "\n".toUTF8 }),
        M.wrote path off line) := by
    rw [writeAll_run_buffered (by simp; exact size_lineFeed_lt.le) size_lineFeed_lt]
    simp
  have hsteady : (M.wrote path off line).faults = [] := by rw [Machine.wrote_faults, hM]
  rw [appendLine_run, writeAll_run_large (w := { path := path, offset := off }) rfl hlong M,
    writeThrough_run, Machine.nextFault_of_faults_nil hM]
  dsimp only
  rw [hfeed]
  dsimp only
  rw [flush_run, if_neg (by exact Bool.false_ne_true), Machine.nextFault_of_faults_nil hsteady]
  simp only [ByteArray.size_append, Nat.add_assoc]

/-- **A line at the end of a file.** On a machine that refuses nothing, a writer with an empty
buffer at the end of the file its path leads to appends the line and its line feed to the file,
and is left at the new end with an empty buffer. -/
theorem appendLine_run_at_end {w : Writer} (hw : w.pending = .empty) (line : ByteArray)
    {M : Machine} (hM : M.faults = []) {l : Location} {B : ByteArray}
    (hres : M.disk.resolve M.cwd w.path = .ok (l, some (.file B))) (hoff : w.offset = B.size) :
    (w.appendLine line : Sim _).run M =
      ((.ok (), { w with offset := (B ++ line ++ "\n".toUTF8).size }),
        { M with disk := M.disk.set l (some (.file (B ++ line ++ "\n".toUTF8))) }) := by
  have hsize : w.offset + (line ++ "\n".toUTF8).size = (B ++ line ++ "\n".toUTF8).size := by
    simp only [ByteArray.size_append, hoff, Nat.add_assoc]
  by_cases hshort : line.size < bufferCapacity
  · rw [appendLine_run_short hw hshort hM, hsize, hoff, (Machine.wrote_at_end hres _).1,
      ByteArray.append_assoc]
  · -- two writes, each at the end of the file as it then is
    obtain ⟨hfirst, hres'⟩ := Machine.wrote_at_end hres line
    have hend : w.offset + line.size = (B ++ line).size := by
      rw [ByteArray.size_append, hoff]
    rw [appendLine_run_long hw (by omega) hM, hsize, hend, hoff, hfirst,
      (Machine.wrote_at_end (M := { M with disk := M.disk.set l (some (.file (B ++ line))) })
        hres' _).1, Disk.set_set]

/-! ## A refused flush -/

/-- **A refused flush keeps the line.** A writer with an empty buffer, given a line shorter than
the buffer on a machine that refuses the flush, answers the refusal and keeps the line and its
line feed buffered, its offset unchanged. -/
theorem appendLine_refused {w : Writer} (hw : w.pending = .empty) {line : ByteArray}
    (hshort : line.size < bufferCapacity) {M M' : Machine} {e : OsError}
    (hM : M.nextFault = (some e, M')) :
    (w.appendLine line : Sim _).run M =
      ((.error e, { w with pending := line ++ "\n".toUTF8 }), M') := by
  obtain ⟨path, off, pending⟩ := w
  subst hw
  rw [appendLine_run_of_short path off hshort, flush_run, isEmpty_append_lineFeed,
    if_neg Bool.false_ne_true, hM]

end Writer

end RegisterAtlas
