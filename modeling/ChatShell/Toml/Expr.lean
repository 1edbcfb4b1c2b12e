-- What a settings file in TOML says, line by line, before the lines are put
-- together to tables.
import ChatShell.Toml.DateTime

namespace ChatShell.Toml

/-- A path of keys. -/
abbrev Path := List String

/-- A value as it is written. -/
inductive Expr where
  | string (s : String)
  | integer (n : Int)
  | float
  | boolean (b : Bool)
  /-- A date, a time or both. -/
  | dateTime (d : DateTime)
  | array (items : List Expr)
  /-- A table on the spot. -/
  | inline (fields : List (Path × Expr))

/-- A line that says something. -/
inductive Line where
  /-- `[path]`. -/
  | table (path : Path)
  /-- `[[path]]`. -/
  | element (path : Path)
  /-- `path = value`. -/
  | entry (path : Path) (value : Expr)

end ChatShell.Toml
