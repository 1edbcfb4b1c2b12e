-- Numbers in the 64-bit binary format, and how they are written: the shortest
-- digits, always with every place spelled out, no point after a whole number,
-- and a sign on a negative zero.
import ChatShell.Decimal.Shortest

namespace ChatShell.Decimal

/-- What 64 bits stand for: a magnitude `mantissa · 2 ^ power`, an infinity, or no number. -/
inductive Binary64 where
  | finite (negative : Bool) (mantissa : Nat) (power : Int)
  | infinite (negative : Bool)
  | notANumber
  deriving DecidableEq

/-- Reads one sign bit, eleven bits of exponent and 52 bits of fraction. -/
def Binary64.ofBits (bits : Nat) : Binary64 :=
  let negative : Bool := bits / Nat.pow 2 63 % 2 = 1
  let exponent : Nat := bits / Nat.pow 2 52 % Nat.pow 2 11
  let fraction : Nat := bits % Nat.pow 2 52
  if exponent = 2047 then if fraction = 0 then .infinite negative else .notANumber
  else if exponent = 0 then .finite negative fraction (-1074)
  else .finite negative (Nat.pow 2 52 + fraction) (exponent - 1075)

/-- The reals that round to `mantissa · 2 ^ power`: half a step to either side, but only a
quarter below a power of two, where the steps get smaller. The ends round to the even mantissa. -/
def Binary64.interval (mantissa : Nat) (power : Int) : Interval :=
  let scale := Nat.pow 2 (power - 2).toNat
  let narrow := mantissa = Nat.pow 2 52 ∧ power ≠ -1074
  { low := (4 * mantissa - if narrow then 1 else 2) * scale
    value := 4 * mantissa * scale
    high := (4 * mantissa + 2) * scale
    unit := Nat.pow 2 (2 - power).toNat
    closed := mantissa % 2 = 0 }

/-- Zeros in a row. -/
def zeros (n : Nat) : List Char := List.replicate n '0'

/-- Every place of a number written out, with no zeros after the last place of a fraction. -/
def Scaled.positional (s : Scaled) : List Char :=
  let digits := Nat.toDigits 10 s.coefficient
  if 0 ≤ s.power then digits ++ zeros s.power.toNat
  else
    let places := (-s.power).toNat
    let padded := zeros (places + 1 - digits.length) ++ digits
    let whole := padded.take (padded.length - places)
    let fraction := (padded.drop (padded.length - places)).reverse.dropWhile (· = '0') |>.reverse
    if fraction.isEmpty then whole else whole ++ '.' :: fraction

/-- The number as text. -/
def Binary64.render : Binary64 → String
  | .finite negative mantissa power =>
    let magnitude :=
      if mantissa = 0 then ['0'] else (interval mantissa power).shortest.positional
    String.ofList (if negative then '-' :: magnitude else magnitude)
  | .infinite negative => if negative then "-inf" else "inf"
  | .notANumber => "NaN"

end ChatShell.Decimal
