-- Readers, and the numbers that digits stand for.

namespace ChatShell.Toml

/-- Reads something off the front of a text: what it read and the characters after it, or nothing
if the text does not begin with it. -/
abbrev Reader (α : Type) := List Char → Option (α × List Char)

/-- The value of a hexadecimal digit. -/
def digitValue (c : Char) : Nat :=
  if c.isDigit then c.toNat - '0'.toNat
  else if 'a' ≤ c ∧ c ≤ 'f' then c.toNat - 'a'.toNat + 10
  else c.toNat - 'A'.toNat + 10

/-- The character is a digit to the base, which is at most sixteen. -/
def isDigitOf (base : Nat) (c : Char) : Bool :=
  (c.isDigit || ('a' ≤ c && c ≤ 'f') || ('A' ≤ c && c ≤ 'F')) && digitValue c < base

/-- The number with the given digits. -/
def ofDigits (base : Nat) (ds : List Char) : Nat :=
  ds.foldl (fun n c => n * base + digitValue c) 0

/-- A number of exactly two decimal digits. -/
def two? : Reader Nat
  | a :: b :: rest => if a.isDigit ∧ b.isDigit then some (ofDigits 10 [a, b], rest) else none
  | _ => none

/-- The decimal digits of a number, with zeros in front up to the width. -/
def padded (width n : Nat) : String :=
  let ds := Nat.toDigits 10 n
  String.ofList (List.replicate (width - ds.length) '0' ++ ds)

end ChatShell.Toml
