/-!
# Doubles in JSON text

How the store file's reader turns a number with a fraction or an exponent into a double, and how
a double is written in a message.

* `floatOfNat` rounds a natural number to the nearest double (ties to even), built bit by bit so
  that it does not depend on the host's conversions.
* `scaleDecimal` follows the reader's own decimal scaling: the significand as a double,
  multiplied or divided by one power of ten from a table of the doubles nearest to `10^0` to
  `10^308`, in steps of `10^308` when the exponent is further out. A product that overflows is
  out of range.
* `shortestDigits` finds the shortest decimal that rounds back to the same double, the nearest to
  it among those, and `showFloat` writes it: plain digits with `.0` for integers below `10^16`,
  a decimal point inside the digits or after `0.` for moderate exponents, and scientific
  notation with a signed exponent (`1e+30`, `1.5e-7`) otherwise.
-/

namespace RegisterAtlas.Json

/-- The double whose bits are the given sign, biased exponent and stored mantissa. -/
def floatOfParts (negative : Bool) (exponent mantissa : Nat) : Float :=
  Float.ofBits (UInt64.ofNat ((if negative then Nat.pow 2 63 else 0) + exponent * Nat.pow 2 52 + mantissa))

/-- The double nearest to a natural number, ties to an even mantissa; infinity past the largest
double. -/
def floatOfNat (n : Nat) : Float :=
  if n = 0 then floatOfParts false 0 0
  else
    let top := Nat.log2 n
    if top ≤ 52 then floatOfParts false (top + 1023) (n * Nat.pow 2 (52 - top) - Nat.pow 2 52)
    else
      let s := top - 52
      let q := n / Nat.pow 2 s
      let r := n % Nat.pow 2 s
      let half := Nat.pow 2 (s - 1)
      let q' := if r > half || (r = half && q % 2 = 1) then q + 1 else q
      let (q'', top') := if q' = Nat.pow 2 53 then (Nat.pow 2 52, top + 1) else (q', top)
      if top' + 1023 ≥ 2047 then floatOfParts false 2047 0
      else floatOfParts false (top' + 1023) (q'' - Nat.pow 2 52)

/-- The double nearest to `10^k`. -/
def pow10 (k : Nat) : Float := floatOfNat (Nat.pow 10 k)

/-- Scale a decimal significand by `10^exponent` the way the reader does; `none` when a
positive exponent overflows. Each round either finishes with one table power or, for an
exponent beyond the table, divides by `10^308` and moves the exponent up by 308 (a positive
exponent beyond the table overflows unless the significand is zero). -/
def scaleDecimal (positive : Bool) (significand : Nat) (exponent : Int) : Option Float :=
  let rec go (fuel : Nat) (f : Float) (e : Int) : Option Float :=
    match fuel with
    | 0 => some f
    | fuel + 1 =>
      if e.natAbs ≤ 308 then
        if e ≥ 0 then
          let g := f * pow10 e.natAbs
          if g.isInf then none else some g
        else some (f / pow10 e.natAbs)
      else if f == 0 then some f
      else if e ≥ 0 then none
      else go fuel (f / pow10 308) (e + 308)
  (go (exponent.natAbs / 308 + 2) (floatOfNat significand) exponent).map
    fun f => if positive then f else -f

/-- The sign, the integer mantissa and the binary exponent of a finite double, with whether its
stored mantissa is zero on a normal exponent above the smallest (the gap below it is then half
the gap above). -/
def floatParts (f : Float) : Bool × Nat × Int × Bool :=
  let bits : Nat := f.toBits.toNat
  let negative : Bool := bits ≥ Nat.pow 2 63
  let e : Nat := (bits / Nat.pow 2 52) % 2048
  let m : Nat := bits % Nat.pow 2 52
  if e = 0 then (negative, m, -1074, false)
  else (negative, m + Nat.pow 2 52, (e : Int) - 1075, m = 0 && e > 1)

/-- A non-negative rational number as numerator and denominator. -/
structure Ratio where
  num : Nat
  den : Nat

/-- `x ≤ y` for ratios with positive denominators. -/
def Ratio.le (x y : Ratio) : Bool := x.num * y.den ≤ y.num * x.den

/-- `x < y` for ratios with positive denominators. -/
def Ratio.lt (x y : Ratio) : Bool := x.num * y.den < y.num * x.den

/-- `d · 10^k` as a ratio. -/
def decimalRatio (d : Nat) (k : Int) : Ratio :=
  if k ≥ 0 then ⟨d * Nat.pow 10 k.natAbs, 1⟩ else ⟨d, Nat.pow 10 k.natAbs⟩

/-- `x / 10^k` as a ratio. -/
def Ratio.shift (x : Ratio) (k : Int) : Ratio :=
  if k ≥ 0 then ⟨x.num, x.den * Nat.pow 10 k.natAbs⟩ else ⟨x.num * Nat.pow 10 k.natAbs, x.den⟩

/-- The largest `k` with `10^k ≤ x`, for a positive ratio. -/
def Ratio.log10 (x : Ratio) : Int :=
  if x.num ≥ x.den then (((toString (x.num / x.den)).length - 1 : Nat) : Int)
  else
    -- the smallest `j` with `x · 10^j ≥ 1`
    let rec find (fuel j : Nat) : Nat :=
      match fuel with
      | 0 => j
      | fuel + 1 => if x.num * Nat.pow 10 j ≥ x.den then j else find fuel (j + 1)
    Int.neg (find 400 1 : Nat)

/-- The shortest decimal `d · 10^k` inside the interval of reals that round to the positive
double `mantissa · 2^exponent`, the nearest to it among the shortest (ties to even `d`). -/
def shortestDigits (mantissa : Nat) (exponent : Int) (halfGapBelow : Bool) : Nat × Int :=
  -- scaled by 4 so that the half gaps are integers
  let scale : Ratio := if exponent ≥ 2 then ⟨Nat.pow 2 (exponent - 2).natAbs, 1⟩
    else ⟨1, Nat.pow 2 (2 - exponent).natAbs⟩
  let at4 (x : Nat) : Ratio := ⟨x * scale.num, scale.den⟩
  let v := at4 (4 * mantissa)
  let lo := at4 (4 * mantissa - (if halfGapBelow then 1 else 2))
  let hi := at4 (4 * mantissa + 2)
  let inclusive := mantissa % 2 = 0
  let inside (r : Ratio) : Bool :=
    if inclusive then lo.le r && r.le hi else lo.lt r && r.lt hi
  let top := hi.log10
  let rec search (fuel : Nat) (k : Int) : Nat × Int :=
    match fuel with
    | 0 => (mantissa, 0)
    | fuel + 1 =>
      let vs := v.shift k
      let down := vs.num / vs.den
      let up := down + 1
      let twice := 2 * (vs.num % vs.den)
      -- the nearer of the two neighbours of v / 10^k, ties to even
      let nearer := if twice < vs.den then down else if twice > vs.den then up
        else if down % 2 = 0 then down else up
      let other := if nearer = down then up else down
      if nearer ≠ 0 && inside (decimalRatio nearer k) then (nearer, k)
      else if other ≠ 0 && inside (decimalRatio other k) then (other, k)
      else search fuel (k - 1)
  search 40 top

/-- The decimal digits of a natural number. -/
def digitsOf (n : Nat) : String := toString n

/-- A double as a message shows it: the shortest digits that read back to it, in plain or
scientific notation. -/
def showFloat (f : Float) : String :=
  if f.isNaN then "NaN"
  else if f.isInf then (if f < 0 then "-inf" else "inf")
  else
    let (negative, mantissa, exponent, halfBelow) := floatParts f
    let sign := if negative then "-" else ""
    if mantissa = 0 then sign ++ "0.0"
    else
      let (d, k) := shortestDigits mantissa exponent halfBelow
      let ds := digitsOf d
      let len : Int := ds.length
      let kk := len + k
      let body :=
        if 0 ≤ k && kk ≤ 16 then
          ds ++ String.ofList (List.replicate k.natAbs '0') ++ ".0"
        else if 0 < kk && kk ≤ 16 then
          String.ofList (ds.toList.take kk.natAbs) ++ "." ++
            String.ofList (ds.toList.drop kk.natAbs)
        else if -5 < kk && kk ≤ 0 then
          "0." ++ String.ofList (List.replicate kk.natAbs '0') ++ ds
        else
          let e := kk - 1
          let mant := if ds.length = 1 then ds
            else String.ofList (ds.toList.take 1) ++ "." ++ String.ofList (ds.toList.drop 1)
          mant ++ "e" ++ (if 0 ≤ e then "+" else "") ++ toString e
      sign ++ body

end RegisterAtlas.Json
