/-!
# Similar names

Suggestions for a mistyped name on the command line.

* `jaro a b` is the Jaro similarity of two strings, a double between `0` and `1`. A character
  of `a` matches the first unmatched equal character of `b` at most `max |a| |b| / 2 - 1`
  positions away; with `m` matches, of which `t` pairs stand in a different order in the two
  strings, the similarity is `(m / |a| + m / |b| + (m - t/2) / m) / 3`, evaluated in doubles in
  exactly that order. Two empty strings are equal (`1`); an empty and a non-empty string, or
  two strings with no match, have nothing in common (`0`).
* `similarNames typed candidates` keeps the candidates more than `0.7` similar to `typed`,
  least similar first; candidates of equal similarity keep their order.
-/

namespace RegisterAtlas.Command

/-- The characters of `a` matched so far, and the matched positions of `b`. -/
structure Pairing where
  /-- For each character of `a` seen so far, whether it matched. -/
  inA : Array Bool
  /-- For each position of `b`, whether a character of `a` matched it. -/
  inB : Array Bool
  /-- The number of matches. -/
  count : Nat
  deriving Inhabited

/-- The first unmatched position of `b` in `[lo, hi)` holding `c`. -/
def freeSlot (b : Array Char) (inB : Array Bool) (c : Char) (lo hi : Nat) : Option Nat :=
  (List.range' lo (hi - lo)).find? fun j => b[j]? == some c && !(inB[j]?.getD true)

/-- Match the characters of `a` against `b`, each within `window` positions. -/
def pairUp (a b : List Char) (window : Nat) : Pairing :=
  let bs := b.toArray
  a.zipIdx.foldl (fun p (c, i) =>
    match freeSlot bs p.inB c (i - window) (min b.length (i + window + 1)) with
    | some j => { inA := p.inA.push true, inB := p.inB.setIfInBounds j true, count := p.count + 1 }
    | none => { p with inA := p.inA.push false })
    { inA := #[], inB := Array.replicate b.length false, count := 0 }

/-- The characters of a string kept by a mask. -/
def kept (cs : List Char) (mask : Array Bool) : List Char :=
  (cs.zipIdx.filter fun (_, i) => mask[i]?.getD false).map (·.1)

/-- The Jaro similarity of two strings. -/
def jaro (a b : String) : Float :=
  let as := a.toList
  let bs := b.toList
  if as.isEmpty && bs.isEmpty then 1.0
  else if as.isEmpty || bs.isEmpty then 0.0
  else
    let p := pairUp as bs (max as.length bs.length / 2 - 1)
    if p.count = 0 then 0.0
    else
      let crossed := ((kept as p.inA).zip (kept bs p.inB)).countP (fun (x, y) => x != y) / 2
      let m := p.count.toFloat
      (m / as.length.toFloat + m / bs.length.toFloat + (p.count - crossed).toFloat / m) / 3.0

/-- The candidates more than `0.7` similar to `typed`, least similar first. -/
def similarNames (typed : String) (candidates : List String) : List String :=
  let scored := (candidates.map fun c => (jaro typed c, c)).filter fun (s, _) => s > 0.7
  (scored.mergeSort fun x y => x.1 <= y.1).map (·.2)

end RegisterAtlas.Command
