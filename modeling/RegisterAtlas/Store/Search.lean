/-!
# Binary search

Looking an element up by key in an array sorted by that key, the way the store looks a row up by
its id. The search halves a window that holds the element sought, if the array holds it, until
one element is left, and then compares that one; it never stops early on a match.

* `Search.narrow` is the halving loop, `Search.byKey` the whole search: `.ok i` when the element
  at `i` has the key, `.error i` with the position where such an element would go.
-/

namespace RegisterAtlas.Search

/-- The halving loop over the window `[base, base + size)`: compare the element in the middle
and keep the half that can hold the key. Ends at the one element left. -/
def narrow (xs : Array β) (key : β → Int) (target : Int) (base size : Nat)
    (h : base + size ≤ xs.size) (hpos : 0 < size) : Fin xs.size :=
  if hmore : 1 < size then
    have hmid : base + size / 2 < xs.size := by omega
    if key xs[base + size / 2] > target then
      narrow xs key target base (size - size / 2) (by omega) (by omega)
    else
      narrow xs key target (base + size / 2) (size - size / 2) (by omega) (by omega)
  else ⟨base, by omega⟩
termination_by size
decreasing_by all_goals omega

/-- Search an array sorted by `key` for an element with key `target`: `.ok i` when the element
at `i` has it, else `.error i` with the position where it would go. -/
def byKey (xs : Array β) (key : β → Int) (target : Int) : Except Nat (Fin xs.size) :=
  if h : 0 < xs.size then
    let i := narrow xs key target 0 xs.size (by omega) h
    match compare (key xs[i]) target with
    | .eq => .ok i
    | .lt => .error (i.val + 1)
    | .gt => .error i.val
  else .error 0

end RegisterAtlas.Search
