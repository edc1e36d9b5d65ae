import SchemaGen.Number.Binary64

/-!
# The shortest decimal text that reads back

A finite number is written with the fewest significant decimal digits that still lie nearer to it
than to any other number; among those the nearest to the number is taken, and of two equally near
ones the even one. `digitsOf` finds digits and exponent in exact arithmetic, `shortest` lays them
out: positional notation when the decimal point falls between four places before the first digit and
sixteen places after it, with an exponent of at least two digits otherwise.
-/

namespace SchemaGen.Number

namespace Binary64

/-- The interval of reals that round to a finite number `m · 2 ^ q` above zero, as `(low, value,
high)` over the common denominator `den`: the last component. -/
def neighbourhood (x : Binary64) : Nat × Nat × Nat × Nat :=
  let (m, q) := x.magnitude
  -- at a power of two the gap below is half the gap above
  let narrow := decide (m = Nat.pow 2 52 ∧ q > -1074)
  let value := 4 * m
  let low := if narrow then value - 1 else value - 2
  let high := value + 2
  if q ≥ 2 then
    let scale := Nat.pow 2 (q - 2).toNat
    (low * scale, value * scale, high * scale, 1)
  else (low, value, high, Nat.pow 2 (2 - q).toNat)

/-- Whether `digits · 10 ^ exponent` rounds to the number whose neighbourhood is given. The ends
belong to it when `closed`. -/
def isInside (low high den : Nat) (closed : Bool) (digits : Nat) (exponent : Int) : Bool :=
  let (n, d) := if exponent ≥ 0 then (digits * Nat.pow 10 exponent.toNat * den, 1)
    else (digits * den, Nat.pow 10 (-exponent).toNat)
  if closed then decide (low * d ≤ n ∧ n ≤ high * d) else decide (low * d < n ∧ n < high * d)

/-- The decimal neighbours of `value / den` on the grid of step `10 ^ exponent`: the multiple at or
below it, and whether the next one up is nearer (with a tie to the even one). -/
def gridPoint (value den : Nat) (exponent : Int) : Nat × Bool :=
  let (n, d) := if exponent ≥ 0 then (value, den * Nat.pow 10 exponent.toNat)
    else (value * Nat.pow 10 (-exponent).toNat, den)
  (n / d, roundDiv n d ≠ n / d)

/-- Tries the grids from the given exponent downwards; `fuel` bounds their number. -/
def digitsFrom (low value high den : Nat) (closed : Bool) : Nat → Int → Nat × Int
  | 0, exponent => ((gridPoint value den exponent).1, exponent)
  | fuel + 1, exponent =>
    let (below, up) := gridPoint value den exponent
    let isIn (k : Nat) := k != 0 && isInside low high den closed k exponent
    let first := if up then below + 1 else below
    let second := if up then below else below + 1
    if isIn first then (first, exponent)
    else if isIn second then (second, exponent)
    else digitsFrom low value high den closed fuel (exponent - 1)

/-- The shortest digits and the exponent of the last one, for a finite number other than zero. -/
def digitsOf (x : Binary64) : Nat × Int :=
  let (low, value, high, den) := x.neighbourhood
  let (m, _) := x.magnitude
  let top : Int := ((Nat.log2 value : Int) - (Nat.log2 den : Int)) * 30103 / 100000 + 2
  digitsFrom low value high den (m % 2 == 0) 25 top

/-- Takes the zeros off the end of some digits. -/
def dropZeros : Nat → Nat → Int → Nat × Int
  | 0, digits, exponent => (digits, exponent)
  | fuel + 1, digits, exponent =>
    if digits % 10 = 0 ∧ digits ≠ 0 then dropZeros fuel (digits / 10) (exponent + 1)
    else (digits, exponent)

/-- The layout of digits `ds` whose decimal point stands `point` places after their start. -/
def layOut (ds : List Char) (point : Int) : List Char :=
  if -4 < point ∧ point ≤ 16 then
    if point ≤ 0 then '0' :: '.' :: (List.replicate (-point).toNat '0' ++ ds)
    else if ds.length ≤ point.toNat then
      ds ++ List.replicate (point.toNat - ds.length) '0' ++ ['.', '0']
    else ds.take point.toNat ++ '.' :: ds.drop point.toNat
  else
    let mantissa := match ds with
      | [] => []
      | [d] => [d]
      | d :: rest => d :: '.' :: rest
    let e := point - 1
    let width := Nat.toDigits 10 e.natAbs
    mantissa ++ 'e' :: (if e < 0 then '-' else '+') ::
      (List.replicate (2 - width.length) '0' ++ width)

/-- The text of a number. -/
def shortest (x : Binary64) : String :=
  if x.isNaN then "nan"
  else
    let body :=
      if x.isInfinite then ['i', 'n', 'f']
      else if x.isZero then ['0', '.', '0']
      else
        let (digits, exponent) := x.digitsOf
        let (digits, exponent) := dropZeros 25 digits exponent
        let ds := Nat.toDigits 10 digits
        layOut ds (ds.length + exponent)
    String.ofList (if x.isNegative then '-' :: body else body)

end Binary64

end SchemaGen.Number
