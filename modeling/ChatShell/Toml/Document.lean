-- The lines of a settings file. Arrays and tables on the spot may hold each
-- other, eighty deep at the most.
import ChatShell.Toml.Lexical
import ChatShell.Toml.Scalar

namespace ChatShell.Toml

/-! ## Values -/

/-- The characters of a value without quotes. -/
def isScalarChar (c : Char) : Bool := c.isAlphanum || "+-_.:".toList.contains c

/-- A value without quotes. A space may stand between a date and a time. -/
def bareScalar? : Reader Expr := fun cs =>
  let first := cs.takeWhile isScalarChar
  let rest := cs.drop first.length
  match rest with
  | ' ' :: d :: more =>
    if d.isDigit ∧ (date? first).map (·.2) = some [] then
      let time := (d :: more).takeWhile isScalarChar
      (scalar? (first ++ ' ' :: time)).map fun v => (v, (d :: more).drop time.length)
    else (scalar? first).map fun v => (v, rest)
  | _ => (scalar? first).map fun v => (v, rest)

/-- Items up to the closing mark, with commas between them and perhaps one after the last.
`fuel` is at least the number of characters. -/
def items {α : Type} (close : Char) (item : Reader α) : Nat → Reader (List α)
  | 0, _ => none
  | fuel + 1, cs => do
    let c :: rest ← skipLines false cs | none
    if c = close then some ([], rest)
    else
      let (x, after) ← item (c :: rest)
      let d :: more ← skipLines false after | none
      if d = close then some ([x], more)
      else if d = ',' then
        let (xs, rest) ← items close item fuel more
        some (x :: xs, rest)
      else none

/-- A path and its value. `gap` passes over what may stand around the mark between them. -/
def entry? (gap : List Char → Option (List Char)) (value : Reader Expr) : Reader (Path × Expr) :=
  fun cs => do
    let (path, rest) ← path? cs
    let '=' :: rest ← gap rest | none
    let (v, rest) ← value (← gap rest)
    some ((path, v), rest)

/-- A field of a table on the spot, which may go over many lines. -/
def field? (value : Reader Expr) : Reader (Path × Expr) := entry? (skipLines false) value

/-- A value, in which arrays and tables go at most `depth` deep. -/
def value? : Nat → Reader Expr
  | _, '"' :: cs => (string? '"' ('"' :: cs)).map fun (s, r) => (.string s, r)
  | _, '\'' :: cs => (string? '\'' ('\'' :: cs)).map fun (s, r) => (.string s, r)
  | depth + 1, '[' :: cs =>
    (items ']' (value? depth) cs.length cs).map fun (vs, r) => (.array vs, r)
  | depth + 1, '\x7b' :: cs =>
    (items '\x7d' (field? (value? depth)) cs.length cs).map fun (fs, r) => (.inline fs, r)
  | _, cs => bareScalar? cs

/-! ## Lines -/

/-- One line that says something. -/
def line? : Reader Line
  | '[' :: '[' :: cs => do
    let (path, rest) ← path? cs
    let ']' :: ']' :: rest := rest | none
    some (.element path, rest)
  | '[' :: cs => do
    let (path, rest) ← path? cs
    let ']' :: rest := rest | none
    some (.table path, rest)
  | cs => do
    let ((path, v), rest) ← entry? (some ∘ skipSpaces) (value? depthLimit) cs
    some (.entry path v, rest)

/-- The lines that say something. `fuel` is more than the number of characters. -/
def linesFrom : Nat → List Char → Option (List Line)
  | 0, _ => none
  | fuel + 1, cs => do
    match ← skipLines false cs with
    | [] => some []
    | cs =>
      let (line, rest) ← line? cs
      let rest ← closeLine? rest
      let lines ← linesFrom fuel rest
      some (line :: lines)

/-- The lines of a file. A byte order mark at the start is passed over. -/
def lines? (source : String) : Option (List Line) :=
  let cs :=
    match source.toList with
    | c :: cs => if c.toNat = 0xFEFF then cs else c :: cs
    | [] => []
  linesFrom (cs.length + 1) cs

end ChatShell.Toml
