-- The fewest decimal digits that stand for a binary number. A number with a
-- finite mantissa owns an interval: every real in it rounds to that number. The
-- digits are those of the first power of ten, from coarse to fine, that has a
-- multiple in the interval; of two multiples the nearer is taken, and the larger
-- if they are equally near.

namespace ChatShell.Decimal

/-- A positive number and the interval it owns, each as a count of `1 / unit`. -/
structure Interval where
  low : Nat
  value : Nat
  high : Nat
  unit : Nat
  /-- The two ends belong to the interval. -/
  closed : Bool
  deriving DecidableEq

/-- The number `coefficient · 10 ^ power`. -/
structure Scaled where
  coefficient : Nat
  power : Int
  deriving DecidableEq

/-- The multiple of `10 ^ power` that the interval holds, the nearer one if it holds the two
around its number. -/
def Interval.multiple? (i : Interval) (power : Int) : Option Nat :=
  let up := Nat.pow 10 (-power).toNat
  let down := i.unit * Nat.pow 10 power.toNat
  let below := i.value * up / down
  let holds (n : Nat) : Bool :=
    if i.closed then i.low * up ≤ n * down && n * down ≤ i.high * up
    else i.low * up < n * down && n * down < i.high * up
  if holds below && holds (below + 1) then
    if 2 * (i.value * up - below * down) < down then some below else some (below + 1)
  else if holds below then some below
  else if holds (below + 1) then some (below + 1)
  else none

/-- The number of decimal digits of a natural number. -/
def digitCount (n : Nat) : Nat := (Nat.toDigits 10 n).length

/-- The least power of ten above the number. The number is taken `10 ^ 400` times, which leaves a
whole part for every number the formats here can hold. -/
def Interval.top (i : Interval) : Int := digitCount (i.value * Nat.pow 10 400 / i.unit) - 400

/-- The shortest multiple of a power of ten in the interval. Twenty powers are enough for a
mantissa of 53 bits. -/
def Interval.shortest (i : Interval) : Scaled :=
  let tries := (List.range 20).findSome? fun (k : Nat) =>
    (i.multiple? (i.top - k)).map fun n => ⟨n, i.top - k⟩
  tries.getD ⟨0, 0⟩

end ChatShell.Decimal
