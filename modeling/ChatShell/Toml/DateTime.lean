-- Dates and times of day, as they are read and as they are written. Seconds that
-- were left out are written as zero, a fraction goes to nine places and has no
-- zeros at its end, and an offset of nothing has a plus.
import ChatShell.Toml.Digits

namespace ChatShell.Toml

/-- A day of the calendar. -/
structure Date where
  year : Nat
  month : Nat
  day : Nat
  deriving DecidableEq

/-- A time of day. -/
structure Time where
  hour : Nat
  minute : Nat
  second : Nat := 0
  nanosecond : Nat := 0
  deriving DecidableEq

/-- How far a time is from universal time. -/
inductive Offset where
  /-- It is universal time. -/
  | universal
  /-- So many minutes ahead of it, or behind. -/
  | minutes (n : Int)
  deriving DecidableEq

/-- A date, a time of day, or a date and a time. -/
inductive DateTime where
  | date (d : Date)
  | time (t : Time)
  | both (d : Date) (t : Time) (offset : Option Offset)
  deriving DecidableEq

/-! ## Reading -/

/-- The number of days in a month. -/
def daysIn (year month : Nat) : Nat :=
  if month = 2 then
    if (year % 4 = 0 ∧ year % 100 ≠ 0) ∨ year % 400 = 0 then 29 else 28
  else if month = 4 ∨ month = 6 ∨ month = 9 ∨ month = 11 then 30
  else 31

/-- A date at the start of the text. -/
def date? : Reader Date := fun cs => do
  let (century, cs) ← two? cs
  let (years, cs) ← two? cs
  let '-' :: cs := cs | none
  let (month, cs) ← two? cs
  let '-' :: cs := cs | none
  let (day, cs) ← two? cs
  let year := century * 100 + years
  if 1 ≤ month ∧ month ≤ 12 ∧ 1 ≤ day ∧ day ≤ daysIn year month then some (⟨year, month, day⟩, cs)
  else none

/-- The nanoseconds of a fraction with the given digits. Digits past the ninth are passed over. -/
def nanoseconds (ds : List Char) : Nat :=
  ofDigits 10 (ds.take 9) * Nat.pow 10 (9 - ds.length)

/-- A fraction of a second, or nothing. The point has to have a digit after it. -/
def fraction? : Reader Nat
  | '.' :: cs =>
    match cs.takeWhile Char.isDigit with
    | [] => none
    | ds => some (nanoseconds ds, cs.drop ds.length)
  | cs => some (0, cs)

/-- The seconds of a time of day, or nothing. A leap second is allowed. -/
def seconds? : Reader (Nat × Nat)
  | ':' :: cs => do
    let (second, cs) ← two? cs
    if second > 60 then none
    else
      let (nanosecond, cs) ← fraction? cs
      some ((second, nanosecond), cs)
  | cs => some ((0, 0), cs)

/-- A time of day at the start of the text. -/
def time? : Reader Time := fun cs => do
  let (hour, cs) ← two? cs
  let ':' :: cs := cs | none
  let (minute, cs) ← two? cs
  if hour > 23 ∨ minute > 59 then none
  else
    let ((second, nanosecond), cs) ← seconds? cs
    some (⟨hour, minute, second, nanosecond⟩, cs)

/-- The hours and minutes of an offset, in minutes. -/
def span? (cs : List Char) : Option Nat := do
  let (hour, cs) ← two? cs
  let ':' :: cs := cs | none
  let (minute, cs) ← two? cs
  if hour ≤ 23 ∧ minute ≤ 59 ∧ cs = [] then some (hour * 60 + minute) else none

/-- The offset that the whole text is. -/
def offset? : List Char → Option Offset
  | ['Z'] => some .universal
  | ['z'] => some .universal
  | '+' :: cs => (span? cs).map fun n => .minutes n
  | '-' :: cs => (span? cs).map fun n => .minutes (-n)
  | _ => none

/-- The date or time that the whole text is. -/
def dateTime? (cs : List Char) : Option DateTime :=
  match date? cs with
  | some (d, []) => some (.date d)
  | some (d, c :: rest) =>
    if c = 'T' ∨ c = 't' ∨ c = ' ' then
      match time? rest with
      | some (t, []) => some (.both d t none)
      | some (t, rest) => (offset? rest).map fun o => .both d t (some o)
      | none => none
    else none
  | none =>
    match time? cs with
    | some (t, []) => some (.time t)
    | _ => none

/-! ## Writing -/

/-- The date in text. -/
def Date.render (d : Date) : String :=
  padded 4 d.year ++ "-" ++ padded 2 d.month ++ "-" ++ padded 2 d.day

/-- A fraction of a second in text, if there is any. -/
def fractionText (nanosecond : Nat) : String :=
  if nanosecond = 0 then ""
  else
    let ds := (padded 9 nanosecond).toList.reverse.dropWhile (· = '0')
    "." ++ String.ofList ds.reverse

/-- The time of day in text. -/
def Time.render (t : Time) : String :=
  padded 2 t.hour ++ ":" ++ padded 2 t.minute ++ ":" ++ padded 2 t.second ++
    fractionText t.nanosecond

/-- The offset in text. -/
def Offset.render : Offset → String
  | .universal => "Z"
  | .minutes n =>
    let size := n.natAbs
    (if n < 0 then "-" else "+") ++ padded 2 (size / 60) ++ ":" ++ padded 2 (size % 60)

/-- The date or time in text. -/
def DateTime.render : DateTime → String
  | .date d => d.render
  | .time t => t.render
  | .both d t none => d.render ++ "T" ++ t.render
  | .both d t (some o) => d.render ++ "T" ++ t.render ++ o.render

end ChatShell.Toml
