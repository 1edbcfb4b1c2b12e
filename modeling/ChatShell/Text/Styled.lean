-- Text with parts that stand out. Where it is shown without colour the parts
-- read as the rest does, but a control sequence that someone has typed never
-- runs over the edge of a part: each edge begins afresh.
import ChatShell.Text.Controls

namespace ChatShell.Text

/-- A piece of a text. -/
inductive Piece where
  | plain (s : String)
  /-- A part that stands out. -/
  | strong (s : String)
  deriving DecidableEq

/-- A text with parts that stand out. -/
abbrev Styled := List Piece

namespace Styled

/-- The characters that are shown, in the given state at the start. -/
def keptFrom (state : Control) : Styled → List Char
  | [] => []
  | .plain s :: rest =>
    let (kept, last) := sift state s.toList
    kept.filterMap id ++ keptFrom last rest
  | .strong s :: rest => (sift .none s.toList).1.filterMap id ++ keptFrom .none rest

/-- The text as it is shown, without control characters and control sequences. -/
def shown (t : Styled) : String := String.ofList (keptFrom .none t)

/-- The texts with another one between each two. -/
def joined (separator : String) (texts : List Styled) : Styled :=
  List.intercalate [.plain separator] texts

end Styled

/-! ## Columns -/

/-- The number of columns of some characters, where nothing stands for one that is left out. A
control character hides what follows it up to an `m`, or up to a character that is left out. -/
def columnsFrom (hidden : Bool) : List (Option Char) → Nat
  | [] => 0
  | none :: cs => columnsFrom false cs
  | some c :: cs =>
    if c.toNat < 0x20 ∨ c.toNat = 0x7F then columnsFrom true cs
    else if hidden then columnsFrom (c ≠ 'm') cs
    else 1 + columnsFrom false cs

/-- The number of columns of a text that may hold control sequences. -/
def columns (s : String) : Nat := columnsFrom false (sift .none s.toList).1

end ChatShell.Text
