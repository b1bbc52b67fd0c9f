import RegisterAtlas.Proofs.Store.Ids
import Std.Data.String.ToInt
/-!
# The walk along derivation links

A derived peripheral takes its registers from the peripheral its `derivedFromId` names, and that
one perhaps from another. The derivation chain of a peripheral row is the row, then the row its
link names, and so on for as long as links name rows (`Store.chain`). Ingestion only links a row
to an earlier one, but a store opened from a hand-edited file may hold a link to a missing row or
a cycle of links.

The walk resolution makes to find the owner of a peripheral's registers tells the three cases
apart exactly. It ends at the first row of the chain without a link; it fails with "no such row"
when the chain reaches a link to a missing row; it fails with "derived-from chain does not
terminate" when the chain comes back to a row. Its step limit, the number of peripheral rows, is
never reached by a chain that ends: a chain that goes on that long without coming back to a row
would need more rows than the table has.

* `Store.chain`, `Store.Revisits`, `Store.DanglesAt`, `Store.EndsAt`: the chain and its three
  fates; `Store.chain_cases` says every chain of a row of the table meets one of them.
* `Store.Revisits.isSome_chain`: a chain that comes back to a row goes on forever;
  `Store.revisits_of_isSome`: one that goes on as many steps as the table has rows comes back.
* `registerOwner_of_endsAt`, `registerOwner_of_danglesAt`, `registerOwner_of_revisits`: what the
  walk answers in each case.
* `derivation_walk_decides`: what resolving a peripheral answers, in every reachable store.
-/

namespace RegisterAtlas

namespace Store

variable (s : Store)

/-- The peripheral row a row's link leads to: the row with the id the link names, found by a scan
of the table. -/
def linked (q : Stored PeripheralRow) : Option (Stored PeripheralRow) :=
  q.row.derivedFromId.bind fun t => s.tables.peripherals.find? (·.id = t)

/-- The derivation chain of the peripheral row `p`: `p`, then the row its link leads to, and so
on, for as long as links lead to rows. -/
def chain (p : Stored PeripheralRow) : Nat → Option (Stored PeripheralRow)
  | 0 => some p
  | n + 1 => (chain p n).bind s.linked

/-- The chain comes back to a row it has been at, every link on the way leading to a row. -/
def Revisits (p : Stored PeripheralRow) : Prop :=
  ∃ i j, i < j ∧ (s.chain p j).isSome ∧ s.chain p i = s.chain p j

/-- The chain reaches a row whose link names `t`, an id no row has, before it comes back to any
row. -/
def DanglesAt (p : Stored PeripheralRow) (t : RowId) : Prop :=
  ∃ n q, s.chain p n = some q ∧ q.row.derivedFromId = some t ∧
    (∀ r ∈ s.tables.peripherals, r.id ≠ t) ∧ ∀ i j, i < j → j ≤ n → s.chain p i ≠ s.chain p j

/-- The chain reaches `o`, a row without a link. -/
def EndsAt (p o : Stored PeripheralRow) : Prop :=
  ∃ n, s.chain p n = some o ∧ o.row.derivedFromId = none

variable {s} {p : Stored PeripheralRow}

@[simp] theorem chain_zero : s.chain p 0 = some p := rfl

theorem chain_succ (n : Nat) : s.chain p (n + 1) = (s.chain p n).bind s.linked := rfl

/-- The chain after `n + m` steps is the chain, from where it stands after `n`, after `m` more. -/
theorem chain_add (n m : Nat) :
    s.chain p (n + m) = (s.chain p n).bind fun q => s.chain q m := by
  induction m with
  | zero => cases s.chain p n <;> rfl
  | succ m ih =>
    rw [← Nat.add_assoc, chain_succ, ih]
    cases s.chain p n <;> rfl

/-- A chain that has stopped stays stopped. -/
theorem chain_eq_none_of_le {n m : Nat} (hnm : n ≤ m) (h : s.chain p n = none) :
    s.chain p m = none := by
  obtain ⟨k, rfl⟩ := Nat.exists_eq_add_of_le hnm
  rw [chain_add, h]
  rfl

theorem isSome_chain_of_le {n m : Nat} (hnm : n ≤ m) (h : (s.chain p m).isSome) :
    (s.chain p n).isSome := by
  rw [Option.isSome_iff_ne_none] at h ⊢
  exact fun hn => h (chain_eq_none_of_le hnm hn)

/-- The chain stops right after a row without a link, or with a link to no row. -/
theorem chain_succ_eq_none {n : Nat} {q : Stored PeripheralRow} (hq : s.chain p n = some q)
    (hlink : s.linked q = none) : s.chain p (n + 1) = none := by
  rw [chain_succ, hq, Option.bind_some, hlink]

/-- Every row of the chain of a row of the table is a row of the table. -/
theorem mem_of_chain (hp : p ∈ s.tables.peripherals) :
    ∀ {n : Nat} {q : Stored PeripheralRow}, s.chain p n = some q → q ∈ s.tables.peripherals
  | 0, q, h => by
    cases h
    exact hp
  | n + 1, q, h => by
    rw [chain_succ] at h
    obtain ⟨q', -, hlink⟩ := Option.bind_eq_some_iff.1 h
    obtain ⟨t, -, hfind⟩ := Option.bind_eq_some_iff.1 hlink
    exact Array.mem_of_find?_eq_some hfind

/-! ## Coming back to a row -/

/-- **A chain that comes back to a row goes on forever:** past the second visit it repeats what
it did after the first. -/
theorem Revisits.isSome_chain (h : s.Revisits p) (m : Nat) : (s.chain p m).isSome := by
  obtain ⟨i, j, hij, hj, hrep⟩ := h
  induction m using Nat.strong_induction_on with
  | _ m ih =>
    by_cases hm : m ≤ j
    · exact isSome_chain_of_le hm hj
    · have hshift : s.chain p (j + (m - j)) = s.chain p (i + (m - j)) := by
        rw [chain_add, chain_add, hrep]
      rw [show m = j + (m - j) by omega, hshift]
      exact ih _ (by omega)

/-- A chain that ends stops right after its last row. -/
theorem EndsAt.stops {o : Stored PeripheralRow} (h : s.EndsAt p o) :
    ∃ n, s.chain p n = some o ∧ o.row.derivedFromId = none ∧ s.chain p (n + 1) = none := by
  obtain ⟨n, hn, hnone⟩ := h
  exact ⟨n, hn, hnone, chain_succ_eq_none hn (by simp [linked, hnone])⟩

/-- A chain that dangles stops right after the row with the link to a missing row, which no scan
of the table finds. -/
theorem DanglesAt.stops {t : RowId} (h : s.DanglesAt p t) :
    ∃ n q, s.chain p n = some q ∧ q.row.derivedFromId = some t ∧
      s.tables.peripherals.find? (·.id = t) = none ∧ s.chain p (n + 1) = none := by
  obtain ⟨n, q, hq, ht, hmissing, -⟩ := h
  have hfind : s.tables.peripherals.find? (·.id = t) = none :=
    Array.find?_eq_none.2 fun r hr => by simpa using hmissing r hr
  exact ⟨n, q, hq, ht, hfind, chain_succ_eq_none hq (by simp [linked, ht, hfind])⟩

theorem Revisits.not_endsAt (h : s.Revisits p) (o : Stored PeripheralRow) : ¬ s.EndsAt p o := by
  intro hend
  obtain ⟨n, -, -, hstop⟩ := hend.stops
  simpa [hstop] using h.isSome_chain (n + 1)

theorem Revisits.not_danglesAt (h : s.Revisits p) (t : RowId) : ¬ s.DanglesAt p t := by
  intro hdangle
  obtain ⟨n, -, -, -, -, hstop⟩ := hdangle.stops
  simpa [hstop] using h.isSome_chain (n + 1)

/-- **A chain that keeps going comes back.** A chain of a row of the table that goes on for as
many steps as the table has rows has met one of them twice. -/
theorem revisits_of_isSome (hp : p ∈ s.tables.peripherals)
    (h : (s.chain p s.tables.peripherals.size).isSome) : s.Revisits p := by
  let f : Nat → Stored PeripheralRow := fun k => (s.chain p k).getD p
  -- the first `size + 1` rows of the chain, all rows of the table
  have hsome : ∀ k ∈ Finset.range (s.tables.peripherals.size + 1), s.chain p k = some (f k) := by
    intro k hk
    obtain ⟨q, hq⟩ := Option.isSome_iff_exists.1
      (isSome_chain_of_le (Nat.lt_succ_iff.1 (Finset.mem_range.1 hk)) h)
    simp [f, hq]
  have hmaps : Set.MapsTo f (Finset.range (s.tables.peripherals.size + 1))
      s.tables.peripherals.toList.toFinset := fun k hk => by
    simpa using mem_of_chain hp (hsome k hk)
  have hcard : s.tables.peripherals.toList.toFinset.card <
      (Finset.range (s.tables.peripherals.size + 1)).card := by
    have hle := List.toFinset_card_le s.tables.peripherals.toList
    rw [Array.length_toList] at hle
    rw [Finset.card_range]
    omega
  obtain ⟨x, hx, y, hy, hxy, hfxy⟩ := Finset.exists_ne_map_eq_of_card_lt_of_maps_to hcard hmaps
  rcases Nat.lt_or_gt_of_ne hxy with hlt | hlt
  · exact ⟨x, y, hlt, by simp [hsome y hy], by rw [hsome x hx, hsome y hy, hfxy]⟩
  · exact ⟨y, x, hlt, by simp [hsome x hx], by rw [hsome x hx, hsome y hy, hfxy]⟩

/-- **Every chain meets one of three fates.** The chain of a row of the table ends at a row
without a link, reaches a link to a missing row before coming back to any row, or comes back to
a row. -/
theorem chain_cases (hp : p ∈ s.tables.peripherals) :
    (∃ o, s.EndsAt p o) ∨ (∃ t, s.DanglesAt p t) ∨ s.Revisits p := by
  by_cases hlong : (s.chain p s.tables.peripherals.size).isSome
  · exact .inr (.inr (revisits_of_isSome hp hlong))
  -- the first step where the chain has stopped, and the row before it
  have hstop : ∃ n, s.chain p n = none := ⟨_, Option.not_isSome_iff_eq_none.1 hlong⟩
  have hpos : Nat.find hstop ≠ 0 := by
    intro h0
    have := Nat.find_spec hstop
    rw [h0, chain_zero] at this
    cases this
  obtain ⟨n, hn⟩ := Nat.exists_eq_succ_of_ne_zero hpos
  have hlast : s.chain p n ≠ none := Nat.find_min hstop (by omega)
  obtain ⟨q, hq⟩ := Option.ne_none_iff_exists'.1 hlast
  have hend : s.chain p (n + 1) = none := by
    have hfound := Nat.find_spec hstop
    rwa [hn] at hfound
  rw [chain_succ, hq, Option.bind_some] at hend
  cases hd : q.row.derivedFromId with
  | none => exact .inl ⟨q, n, hq, hd⟩
  | some t =>
    rw [linked, hd, Option.bind_some] at hend
    refine .inr (.inl ⟨t, n, q, hq, hd, fun r hr hrt => ?_, fun i j hij hjn hrep => ?_⟩)
    · exact absurd (Array.find?_eq_none.1 hend r hr) (by simp [hrt])
    · -- coming back before `n` would have kept the chain going past it
      have hrev : s.Revisits p :=
        ⟨i, j, hij, isSome_chain_of_le hjn (Option.isSome_iff_exists.2 ⟨q, hq⟩), hrep⟩
      have hgo := hrev.isSome_chain (n + 1)
      rw [chain_succ, hq, Option.bind_some, linked, hd, Option.bind_some, hend] at hgo
      cases hgo

/-- A chain cannot both end and dangle: it stops once, at one row. -/
theorem EndsAt.not_danglesAt {o : Stored PeripheralRow} (h : s.EndsAt p o) (t : RowId) :
    ¬ s.DanglesAt p t := by
  intro hdangle
  obtain ⟨n, hn, hnone, hstop⟩ := h.stops
  obtain ⟨m, q, hq, ht, -, hstop'⟩ := hdangle.stops
  rcases Nat.lt_trichotomy n m with hlt | rfl | hgt
  · rw [chain_eq_none_of_le hlt hstop] at hq
    cases hq
  · rw [hn] at hq
    cases hq
    rw [hnone] at ht
    cases ht
  · rw [chain_eq_none_of_le hgt hstop'] at hn
    cases hn

end Store

/-! ## The walk -/

section Walk

variable {s : Store} {p : Stored PeripheralRow}

/-- The walk follows a link to a row while it has taken fewer steps than the table has rows,
looking the row up by binary search, which on increasing ids finds what the scan finds. -/
theorem walk_link (hinc : Search.Increasing s.tables.peripherals (·.id)) {fuel steps : Nat}
    (hsteps : steps < s.count PeripheralRow) {q r : Stored PeripheralRow} {t : RowId}
    (hd : q.row.derivedFromId = some t) (hr : s.tables.peripherals.find? (·.id = t) = some r) :
    registerOwner.walk s p (s.count PeripheralRow) (fuel + 1) steps q =
      registerOwner.walk s p (s.count PeripheralRow) fuel (steps + 1) r := by
  have hget : (s.get t : Except AtlasError (Stored PeripheralRow)) = .ok r := by
    rw [Store.get_eq_find hinc]
    simp only [Entity.rows, hr]
  simp only [registerOwner.walk, hd, if_neg (show ¬ steps + 1 > s.count PeripheralRow by omega),
    hget]

/-- The walk stops at a row without a link. -/
theorem walk_end {fuel steps : Nat} {q : Stored PeripheralRow} (hd : q.row.derivedFromId = none) :
    registerOwner.walk s p (s.count PeripheralRow) (fuel + 1) steps q = .ok q := by
  simp [registerOwner.walk, hd]

/-- The walk fails with "no such row" at a link to a missing row. -/
theorem walk_dangle (hinc : Search.Increasing s.tables.peripherals (·.id)) {fuel steps : Nat}
    (hsteps : steps < s.count PeripheralRow) {q : Stored PeripheralRow} {t : RowId}
    (hd : q.row.derivedFromId = some t) (hr : s.tables.peripherals.find? (·.id = t) = none) :
    registerOwner.walk s p (s.count PeripheralRow) (fuel + 1) steps q =
      .error (.rowFailure "peripherals" t "no such row") := by
  have hget : (s.get t : Except AtlasError (Stored PeripheralRow)) =
      .error (.rowFailure "peripherals" t "no such row") := by
    rw [Store.get_eq_find hinc]
    simp only [Entity.rows, hr]
    rfl
  simp only [registerOwner.walk, hd, if_neg (show ¬ steps + 1 > s.count PeripheralRow by omega),
    hget]

/-- The walk gives up at a link once it has taken as many steps as the table has rows. -/
theorem walk_limit {fuel steps : Nat} (hsteps : s.count PeripheralRow ≤ steps)
    {q : Stored PeripheralRow} {t : RowId} (hd : q.row.derivedFromId = some t) :
    registerOwner.walk s p (s.count PeripheralRow) (fuel + 1) steps q =
      .error (.rowFailure "peripheral" p.id "derived-from chain does not terminate") := by
  simp only [registerOwner.walk, hd, if_pos (show steps + 1 > s.count PeripheralRow by omega)]

/-- **The walk follows the chain.** Up to the step limit, after `n` steps the walk stands at the
`n`-th row of the chain, with the steps left that the limit allows. -/
theorem registerOwner_eq_walk (hinc : Search.Increasing s.tables.peripherals (·.id)) :
    ∀ {n : Nat} {q : Stored PeripheralRow}, n ≤ s.count PeripheralRow → s.chain p n = some q →
      registerOwner s p =
        registerOwner.walk s p (s.count PeripheralRow) (s.count PeripheralRow + 1 - n) n q
  | 0, q, _, hq => by
    cases hq
    rfl
  | n + 1, q, hn, hq => by
    rw [Store.chain_succ] at hq
    obtain ⟨q', hq', hlink⟩ := Option.bind_eq_some_iff.1 hq
    obtain ⟨t, hd, hfind⟩ := Option.bind_eq_some_iff.1 hlink
    rw [registerOwner_eq_walk hinc (by omega) hq',
      show s.count PeripheralRow + 1 - n = (s.count PeripheralRow + 1 - (n + 1)) + 1 by omega]
    exact walk_link hinc (by omega) hd hfind

/-- A chain that stops does so before the step limit: otherwise it would come back to a row and
never stop. -/
theorem lt_count_of_stop (hp : p ∈ s.tables.peripherals) {n : Nat} {q : Stored PeripheralRow}
    (hq : s.chain p n = some q) (hstop : s.chain p (n + 1) = none) : n < s.count PeripheralRow := by
  by_contra hge
  have hrev := Store.revisits_of_isSome hp
    (Store.isSome_chain_of_le (not_lt.1 hge) (Option.isSome_iff_exists.2 ⟨q, hq⟩))
  simpa [hstop] using hrev.isSome_chain (n + 1)

theorem registerOwner_of_endsAt (hinc : Search.Increasing s.tables.peripherals (·.id))
    (hp : p ∈ s.tables.peripherals) {o : Stored PeripheralRow} (h : s.EndsAt p o) :
    registerOwner s p = .ok o := by
  obtain ⟨n, hn, hnone, hstop⟩ := h.stops
  have hlt := lt_count_of_stop hp hn hstop
  rw [registerOwner_eq_walk hinc hlt.le hn,
    show s.count PeripheralRow + 1 - n = (s.count PeripheralRow - n) + 1 by omega]
  exact walk_end hnone

theorem registerOwner_of_danglesAt (hinc : Search.Increasing s.tables.peripherals (·.id))
    (hp : p ∈ s.tables.peripherals) {t : RowId} (h : s.DanglesAt p t) :
    registerOwner s p = .error (.rowFailure "peripherals" t "no such row") := by
  obtain ⟨n, q, hq, ht, hfind, hstop⟩ := h.stops
  have hlt := lt_count_of_stop hp hq hstop
  rw [registerOwner_eq_walk hinc hlt.le hq,
    show s.count PeripheralRow + 1 - n = (s.count PeripheralRow - n) + 1 by omega]
  exact walk_dangle hinc hlt ht hfind

theorem registerOwner_of_revisits (hinc : Search.Increasing s.tables.peripherals (·.id))
    (h : s.Revisits p) :
    registerOwner s p =
      .error (.rowFailure "peripheral" p.id "derived-from chain does not terminate") := by
  -- at the step limit the chain is at a row whose link leads on
  obtain ⟨q, hq⟩ := Option.isSome_iff_exists.1 (h.isSome_chain (s.count PeripheralRow))
  obtain ⟨r, hr⟩ := Option.isSome_iff_exists.1 (h.isSome_chain (s.count PeripheralRow + 1))
  rw [Store.chain_succ, hq, Option.bind_some] at hr
  obtain ⟨t, hd, -⟩ := Option.bind_eq_some_iff.1 hr
  rw [registerOwner_eq_walk hinc (le_refl _) hq, Nat.add_sub_cancel_left]
  exact walk_limit (le_refl _) hd

end Walk

/-! ## Resolution -/

theorem resolvePeripheral_of_owner_error {s : Store} {p : Stored PeripheralRow} {e : AtlasError}
    (h : registerOwner s p = .error e) : resolvePeripheral s p = .error e := by
  simp [resolvePeripheral, h, bind, Except.bind]

/-- A peripheral whose walk ends at `o` resolves with the registers `o` resolves with. -/
theorem resolvePeripheral_of_owner_ok {s : Store} {p o : Stored PeripheralRow}
    (h : registerOwner s p = .ok o) (ho : o.row.derivedFromId = none) :
    ∃ rp, resolvePeripheral s p = .ok rp ∧ ∃ ro, resolvePeripheral s o = .ok ro ∧
      rp.registers = ro.registers := by
  have hself : registerOwner s o = .ok o := by
    simp only [registerOwner]
    exact walk_end ho
  simp [resolvePeripheral, h, hself, bind, Except.bind, pure, Except.pure]

/-- The two failures of the walk are different errors, and "no such row" names its id. -/
theorem rowFailure_ne_cycle (t i : RowId) :
    AtlasError.rowFailure "peripherals" t "no such row" ≠
      AtlasError.rowFailure "peripheral" i "derived-from chain does not terminate" := by
  simp [AtlasError.rowFailure]

theorem eq_of_rowFailure_eq {t t' : RowId}
    (h : AtlasError.rowFailure "peripherals" t "no such row" =
      AtlasError.rowFailure "peripherals" t' "no such row") : t = t' := by
  simp only [AtlasError.rowFailure, AtlasError.queryFailure.injEq, String.append_right_inj,
    true_and, and_true] at h
  exact Int.repr_inj.1 h

/-- **The walk tells end, dangling link and cycle apart.** In every reachable store, for every
peripheral row `p`: resolving `p` fails with "derived-from chain does not terminate" exactly when
its derivation chain comes back to a row; it fails with "no such row" for the id `t` exactly when
the chain reaches a link to `t`, which no row has, before coming back to any row; otherwise the
chain ends at a row without a link, and whenever it does, `p` resolves with that row's registers,
the step limit notwithstanding. -/
theorem derivation_walk_decides {s : Store} (hs : s.Reachable) (hsmall : s.tables.Small)
    {p : Stored PeripheralRow} (hp : p ∈ s.tables.peripherals) :
    (resolvePeripheral s p =
        .error (.rowFailure "peripheral" p.id "derived-from chain does not terminate") ↔
      s.Revisits p) ∧
    (∀ t, resolvePeripheral s p = .error (.rowFailure "peripherals" t "no such row") ↔
      s.DanglesAt p t) ∧
    ((¬ s.Revisits p ∧ ∀ t, ¬ s.DanglesAt p t) ↔ ∃ o, s.EndsAt p o) ∧
    ∀ o, s.EndsAt p o → ∃ rp, resolvePeripheral s p = .ok rp ∧
      ∃ ro, resolvePeripheral s o = .ok ro ∧ rp.registers = ro.registers := by
  have hinc : Search.Increasing s.tables.peripherals (·.id) :=
    Search.increasing_iff.2 ((hs.idsInOrder hsmall).increasing .peripherals)
  have hends : ∀ o, s.EndsAt p o → ∃ rp, resolvePeripheral s p = .ok rp ∧
      ∃ ro, resolvePeripheral s o = .ok ro ∧ rp.registers = ro.registers := fun o h =>
    resolvePeripheral_of_owner_ok (registerOwner_of_endsAt hinc hp h)
      (by obtain ⟨n, -, hnone⟩ := h; exact hnone)
  -- a chain that ends resolves, so a failure rules it out
  have hfails : ∀ {e}, resolvePeripheral s p = .error e → ∀ o, ¬ s.EndsAt p o := by
    intro e h o ho
    obtain ⟨rp, hrp, -⟩ := hends o ho
    rw [hrp] at h
    cases h
  refine ⟨⟨fun h => ?_, fun h => resolvePeripheral_of_owner_error
    (registerOwner_of_revisits hinc h)⟩, fun t => ⟨fun h => ?_, fun h =>
    resolvePeripheral_of_owner_error (registerOwner_of_danglesAt hinc hp h)⟩, ⟨fun h => ?_,
    fun ⟨o, ho⟩ => ⟨fun hrev => hrev.not_endsAt o ho, ho.not_danglesAt⟩⟩, hends⟩
  · -- a failure for a cycle: the chain neither ends nor dangles
    rcases Store.chain_cases hp with ⟨o, ho⟩ | ⟨t, ht⟩ | hrev
    · exact absurd ho (hfails h o)
    · rw [resolvePeripheral_of_owner_error (registerOwner_of_danglesAt hinc hp ht)] at h
      exact absurd (Except.error.inj h) (rowFailure_ne_cycle t p.id)
    · exact hrev
  · -- a failure for a missing row: the chain dangles, at the id the failure names
    rcases Store.chain_cases hp with ⟨o, ho⟩ | ⟨t', ht'⟩ | hrev
    · exact absurd ho (hfails h o)
    · rw [resolvePeripheral_of_owner_error (registerOwner_of_danglesAt hinc hp ht')] at h
      rwa [← eq_of_rowFailure_eq (Except.error.inj h)]
    · rw [resolvePeripheral_of_owner_error (registerOwner_of_revisits hinc hrev)] at h
      exact absurd (Except.error.inj h).symm (rowFailure_ne_cycle t p.id)
  · rcases Store.chain_cases hp with hend | ⟨t, ht⟩ | hrev
    · exact hend
    · exact absurd ht (h.2 t)
    · exact absurd hrev h.1

end RegisterAtlas

namespace RegisterAtlas

open Json

/-- A hand-edited file whose peripherals `A` and `B` derive from each other, `C` from a missing
row `9`, and `E` from `D`, which derives from nothing; it opens, and the walk from `A` is decided
as the chain of `A` says. -/
theorem derivation_walk_decides_hand_edited :
    let row : String → Option RowId → Row := fun name d =>
      .peripheral { mpuId := 1, derivedFromId := d, name := name, baseAddress := "0x0" }
    let line : RowId → Row → List UInt8 := fun id r => textBytes (entryLine id r) ++ [10]
    let bytes : List UInt8 := textBytes headerLine ++ [10] ++ line 1 (row "A" (some 2)) ++
      line 2 (row "B" (some 1)) ++ line 3 (row "C" (some 9)) ++ line 4 (row "D" none) ++
      line 5 (row "E" (some 4))
    let t : Tables := (((((({} : Tables).add 1 (row "A" (some 2))).add 2 (row "B" (some 1))).add 3
      (row "C" (some 9))).add 4 (row "D" none)).add 5 (row "E" (some 4)))
    let s : Store := { tables := t, backing := .readOnly, path := some "store.db" }
    let p : Stored PeripheralRow :=
      ⟨1, { mpuId := 1, derivedFromId := some 2, name := "A", baseAddress := "0x0" }⟩
    ((Store.openFile "store.db" : Sim _).run (Machine.withStoreFile ⟨bytes.toArray⟩)).1 = .ok s ∧
      s.Reachable ∧ s.tables.Small ∧ p ∈ s.tables.peripherals ∧
      (resolvePeripheral s p =
          .error (.rowFailure "peripheral" p.id "derived-from chain does not terminate") ↔
        s.Revisits p) ∧
      (∀ t, resolvePeripheral s p = .error (.rowFailure "peripherals" t "no such row") ↔
        s.DanglesAt p t) ∧
      ((¬ s.Revisits p ∧ ∀ t, ¬ s.DanglesAt p t) ↔ ∃ o, s.EndsAt p o) ∧
      ∀ o, s.EndsAt p o → ∃ rp, resolvePeripheral s p = .ok rp ∧
        ∃ ro, resolvePeripheral s o = .ok ro ∧ rp.registers = ro.registers := by
  intro row line bytes t s p
  -- each line's ids fit and lie above its table's, which `decide` checks line by line
  have hjournal : JournalOf "store.db" bytes s.tables :=
    (((((journalOf_header "store.db").append (by decide) (by decide) (by decide)).append
      (by decide) (by decide) (by decide)).append (by decide) (by decide) (by decide)).append
      (by decide) (by decide) (by decide)).append (by decide) (by decide) (by decide)
  have hopen : ((Store.openFile "store.db" : Sim _).run (Machine.withStoreFile ⟨bytes.toArray⟩)).1 =
      .ok s := hjournal.opens
  have hreach : s.Reachable := .opened hopen
  have hsmall : s.tables.Small := by decide
  have hmem : p ∈ s.tables.peripherals := by
    simp [s, t, row, p, Tables.add, Tables.push, Entity.rows, Entity.setRows]
  exact ⟨hopen, hreach, hsmall, hmem, derivation_walk_decides hreach hsmall hmem⟩

end RegisterAtlas
