-- From lines to tables. A key is given once. A table that a heading names is
-- opened once and not added to from elsewhere; one that dotted keys made takes
-- more dotted keys; one that only stood on the way to another may still be given
-- its heading; and a table written on the spot is complete.
import ChatShell.Toml.Document

namespace ChatShell.Toml

/-- How a table came about. -/
inductive Origin where
  /-- A heading names it. -/
  | heading
  /-- It stands on the way to a table that a heading names. -/
  | passed
  /-- Dotted keys made it. -/
  | dotted
  /-- It is written on the spot. -/
  | inline
  deriving DecidableEq

/-- A value of the finished document. -/
inductive Value where
  | string (s : String)
  | integer (n : Int)
  | float
  | boolean (b : Bool)
  | dateTime (d : DateTime)
  | array (items : List Value)
  | table (origin : Origin) (entries : List (String × Value))
  /-- The tables of `[[path]]` headings. -/
  | tables (items : List (List (String × Value)))

/-- Entries in order of their keys' first use. -/
abbrev Entries := List (String × Value)

/-- Changes what stands under a key, or puts something there. -/
def alter (key : String) (f : Option Value → Option Value) : Entries → Option Entries
  | [] => (f none).map fun v => [(key, v)]
  | (k, v) :: rest =>
    if k = key then (f (some v)).map fun w => (k, w) :: rest
    else (alter key f rest).map ((k, v) :: ·)

/-- Changes the table at the end of a path. `byDots` tells that the path is one of dotted keys:
tables on it that are not there yet come about by dots, and one that is there must not have been
opened by a heading. A path leads into the last of several tables. -/
def within (byDots : Bool) (change : Origin → Entries → Option Entries) :
    Path → Origin → Entries → Option Entries
  | [], origin, entries => change origin entries
  | key :: path, _, entries =>
    alter key (fun
      | none =>
        let origin := if byDots then .dotted else .passed
        (within byDots change path origin []).map (Value.table origin)
      | some (.table origin inner) =>
        if origin = .inline ∨ (byDots ∧ origin = .heading) then none
        else (within byDots change path origin inner).map (Value.table origin)
      | some (.tables items) =>
        match items.getLast? with
        | none => none
        | some last =>
          (within byDots change path .heading last).map fun t => .tables (items.dropLast ++ [t])
      | some _ => none) entries

/-- Puts a value under a key that is not in use. -/
def put (key : String) (v : Value) : Entries → Option Entries :=
  alter key fun
    | none => some v
    | some _ => none

/-- Puts a value at the end of a path of keys. The table it goes into has come about by dots
exactly if the path has dots. -/
def putAt (path : Path) (v : Value) (origin : Origin) (entries : Entries) : Option Entries :=
  match path.getLast? with
  | none => none
  | some key =>
    let parents := path.dropLast
    within (!parents.isEmpty)
      (fun origin inner =>
        if (origin == .dotted) == parents.isEmpty then none else put key v inner)
      parents origin entries

mutual

/-- The value that an expression stands for. -/
def Expr.eval : Expr → Option Value
  | .string s => some (.string s)
  | .integer n => some (.integer n)
  | .float => some .float
  | .boolean b => some (.boolean b)
  | .dateTime d => some (.dateTime d)
  | .array items => (evalItems items).map .array
  | .inline fields => (evalFields fields []).map (.table .inline)

/-- The values of the items of an array. -/
def evalItems : List Expr → Option (List Value)
  | [] => some []
  | e :: es => do
    let v ← e.eval
    let vs ← evalItems es
    some (v :: vs)

/-- The entries of a table on the spot. -/
def evalFields : List (Path × Expr) → Entries → Option Entries
  | [], entries => some entries
  | (path, e) :: rest, entries => do
    let v ← e.eval
    let entries ← putAt path v .inline entries
    evalFields rest entries

end

/-- A document in the making: its tables, and the table that entries go into. -/
structure Document where
  root : Entries := []
  here : Path := []

/-- Opens the table of a heading. -/
def Document.openTable (d : Document) (path : Path) : Option Document :=
  match path.getLast? with
  | none => none
  | some key =>
    let opened := within false (fun _ entries => alter key (fun
      | none => some (.table .heading [])
      | some (.table .passed inner) => some (.table .heading inner)
      | some _ => none) entries) path.dropLast .heading d.root
    opened.map fun root => ⟨root, path⟩

/-- Opens one more table of a double heading. -/
def Document.openElement (d : Document) (path : Path) : Option Document :=
  match path.getLast? with
  | none => none
  | some key =>
    let opened := within false (fun _ entries => alter key (fun
      | none => some (.tables [[]])
      | some (.tables items) => some (.tables (items ++ [[]]))
      | some _ => none) entries) path.dropLast .heading d.root
    opened.map fun root => ⟨root, path⟩

/-- Takes one line. -/
def Document.step (d : Document) : Line → Option Document
  | .table path => d.openTable path
  | .element path => d.openElement path
  | .entry path e => do
    let v ← e.eval
    let root ← within false (putAt path v) d.here .heading d.root
    some { d with root }

/-- The top table of a file. -/
def parse? (source : String) : Option Entries := do
  let lines ← lines? source
  let d ← lines.foldlM Document.step {}
  some d.root

end ChatShell.Toml
