-- Numbers and truth values, each from the whole of its text.
import ChatShell.Toml.Expr

namespace ChatShell.Toml

/-! ## Whole numbers -/

/-- The digits of a run in which single underscores may stand between digits. `after` tells
whether the character before was a digit. -/
def digitRun (isDigit : Char → Bool) (after : Bool) : List Char → Option (List Char)
  | [] => if after then some [] else none
  | c :: cs =>
    if isDigit c then (digitRun isDigit true cs).map (c :: ·)
    else if c = '_' ∧ after then digitRun isDigit false cs
    else none

/-- Decimal digits without needless zeros in front. -/
def decimal? (cs : List Char) : Option (List Char) :=
  match digitRun Char.isDigit false cs with
  | some ('0' :: _ :: _) => none
  | ds => ds

/-- A number with a prefix that names its base. -/
def prefixed? : List Char → Option Nat
  | '0' :: 'x' :: cs => (digitRun (isDigitOf 16) false cs).map (ofDigits 16)
  | '0' :: 'o' :: cs => (digitRun (isDigitOf 8) false cs).map (ofDigits 8)
  | '0' :: 'b' :: cs => (digitRun (isDigitOf 2) false cs).map (ofDigits 2)
  | _ => none

/-- Splits off a sign: whether it is a minus, and the rest. -/
def signed : List Char → Bool × List Char
  | '-' :: cs => (true, cs)
  | '+' :: cs => (false, cs)
  | cs => (false, cs)

/-- A whole number. It has to fit into 128 bits, with or without a sign. -/
def integer? (cs : List Char) : Option Int :=
  match prefixed? cs with
  | some n => if n < Nat.pow 2 128 then some n else none
  | none =>
    let (negative, body) := signed cs
    match (decimal? body).map (ofDigits 10) with
    | none => none
    | some n =>
      if negative then if n ≤ Nat.pow 2 127 then some (-(n : Int)) else none
      else if n < Nat.pow 2 128 then some n else none

/-! ## Numbers with a fraction or an exponent -/

/-- The number `coefficient · 10 ^ power` is small enough for the 64-bit binary format: it lies
below the middle between the largest such number and the next power of two. -/
def fitsBinary64 (coefficient : Nat) (power : Int) : Bool :=
  let size : Int := (Nat.toDigits 10 coefficient).length + power
  if coefficient = 0 ∨ size < 309 then true
  else if size > 310 then false
  else
    coefficient * Nat.pow 10 power.toNat <
      (Nat.pow 2 1024 - Nat.pow 2 970) * Nat.pow 10 (-power).toNat

/-- An exponent, without its mark. -/
def exponent? (cs : List Char) : Option Int :=
  let (negative, body) := signed cs
  (digitRun Char.isDigit false body).map fun ds =>
    let n := ofDigits 10 ds
    if negative then -(n : Int) else n

/-- A number with a fraction, an exponent or both. -/
def float? (cs : List Char) : Option Expr :=
  let body := (signed cs).2
  if body = "inf".toList ∨ body = "nan".toList then some .float
  else
    let isMark (c : Char) : Bool := c == 'e' || c == 'E'
    let mantissa := body.takeWhile fun c => !isMark c
    let power :=
      match body.dropWhile fun c => !isMark c with
      | [] => some none
      | _ :: e => (exponent? e).map some
    let fraction :=
      match mantissa.dropWhile (· ≠ '.') with
      | [] => some none
      | _ :: f => (digitRun Char.isDigit false f).map some
    match decimal? (mantissa.takeWhile (· ≠ '.')), fraction, power with
    | some whole, some places, some e =>
      if places.isNone ∧ e.isNone then none
      else
        let places := places.getD []
        if fitsBinary64 (ofDigits 10 (whole ++ places)) (e.getD 0 - places.length) then some .float
        else none
    | _, _, _ => none

/-! ## Any of them -/

/-- The value of a text without quotes. -/
def scalar? (cs : List Char) : Option Expr :=
  if cs = "true".toList then some (.boolean true)
  else if cs = "false".toList then some (.boolean false)
  else
    match dateTime? cs, integer? cs with
    | some d, _ => some (.dateTime d)
    | none, some n => some (.integer n)
    | none, none => float? cs

end ChatShell.Toml
