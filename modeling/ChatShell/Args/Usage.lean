-- The usage line and the help text of a specification. Names that are typed as
-- they stand are parts that stand out; placeholders are plain.
import ChatShell.Args.Spec
import ChatShell.Text.Blank
import ChatShell.Text.Styled

namespace ChatShell.Args

open Text (Piece Styled)

/-! ## Arguments -/

/-- A plain argument: in brackets if it may be left out. -/
def Arg.bracketed (needed : Bool) (a : Arg) : String :=
  if needed then "<" ++ a.placeholder ++ ">" else "[" ++ a.placeholder ++ "]"

/-- The argument in a message. -/
def Arg.display (a : Arg) : String :=
  Text.withoutControls (if a.isPositional then a.bracketed a.required else a.switch ++ a.suffix)

/-- The argument in a usage line. A plain one is in brackets if it may be left out and is not
among the arguments in use. -/
def Arg.styled (used : List Arg) (a : Arg) : Styled :=
  if a.isPositional then
    [.plain (a.bracketed (a.required || used.any fun u => u.id == a.id))]
  else [.strong a.switch, .plain a.suffix]

/-! ## The usage line -/

/-- A list without its later repetitions. -/
def distinct {α : Type} [DecidableEq α] (items : List α) : List α :=
  items.foldl (fun seen item => if item ∈ seen then seen else seen ++ [item]) []

/-- The arguments that a usage line shows as being in use. -/
structure InUse where
  args : List Arg := []
  /-- The command's own arguments are shown as one group. -/
  group : Bool := false

namespace Spec

/-- The option or flag is one of the general ones. Help and version do not count, nor does
anything under their names. -/
def isGeneral (a : Arg) : Bool :=
  !a.isPositional && !a.required && a.long != some "help" && a.long != some "version" &&
    a.action != .help && a.action != .version

/-- The line may speak of options in general. -/
def hasOptions (s : Spec) : Bool := s.all.any isGeneral

/-- The own arguments as one group. -/
def group (s : Spec) : Styled :=
  [.plain ("<" ++ "|".intercalate (s.args.map Arg.display) ++ ">")]

/-- The argument is one of the command's own. -/
def owns (s : Spec) (a : Arg) : Bool := s.args.any fun b => b.id == a.id

/-- The options and flags that a usage line names: the required ones first, then those in use, in
the order of their use. A group stands for its members and comes last. -/
def mentioned (s : Spec) (used : InUse) : List Styled :=
  let switches := (s.switches.filter (·.required) ++ used.args).filter fun a => !a.isPositional
  if used.group then
    distinct ((switches.filter fun a => !s.owns a).map (Arg.styled [])) ++ [s.group]
  else distinct (switches.map (Arg.styled []))

/-- The parts of a usage line. Where no argument is in use the options are left general. -/
def usageParts (s : Spec) (used : InUse) : List Styled :=
  let command := if s.name.isEmpty then [] else [[Piece.strong s.name]]
  let general := if used.args.isEmpty && s.hasOptions then [[Piece.plain "[OPTIONS]"]] else []
  command ++ general ++ s.mentioned used ++ s.positionals.map (Arg.styled used.args)

/-- The usage line of a message. Nothing follows the heading if there are no parts. -/
def usage (s : Spec) (used : InUse) : Styled :=
  Styled.joined " " ([.strong "Usage:"] :: s.usageParts used)

/-- The usage line of the help text. A blank follows the heading also if there are no parts. -/
def helpUsage (s : Spec) : Styled :=
  [.strong "Usage:", .plain " "] ++ Styled.joined " " (s.usageParts {})

end Spec

/-! ## The help text -/

/-- The text with a line end for every `n` between braces. -/
def breakLines : List Char → List Char
  | '\x7b' :: 'n' :: '\x7d' :: rest => '\n' :: breakLines rest
  | c :: rest => c :: breakLines rest
  | [] => []

/-- A text of a specification with its line ends. -/
def withLineEnds (s : String) : String := String.ofList (breakLines s.toList)

/-- So many spaces. -/
def spaces (n : Nat) : String := String.ofList (List.replicate n ' ')

/-- The first column of an argument's line. A long name without a short one leaves room for
it. -/
def Arg.column (a : Arg) : Styled :=
  match a.short, a.long with
  | none, none => [.plain (a.bracketed a.required)]
  | none, some _ => .plain (spaces 4) :: a.styled []
  | some _, none => a.styled []
  | some short, some _ => [.strong ("-" ++ String.singleton short), .plain ", "] ++ a.styled []

/-- The width of the first column of an argument's line. -/
def Arg.columnWidth (a : Arg) : Nat :=
  Text.columns a.display + if a.long.isSome then 4 else 0

/-- The width that an argument asks for. A flag with a short name only asks for nothing. -/
def Arg.wantedWidth (a : Arg) : Nat :=
  if a.takesValue || a.long.isSome || a.short.isNone then a.columnWidth else 0

/-- The width of a line. -/
def lineWidth : Nat := 100

/-- The help texts of a section go below their arguments: one of them does not fit on the line,
and the first column takes more than two fifths of it. -/
def helpBelow (taken : Nat) (args : List Arg) : Bool :=
  taken ≤ lineWidth && 5 * taken > 2 * lineWidth &&
    args.any fun a => Text.columns a.help > lineWidth - taken

/-- The lines of one section. The help texts start in one column, also after a line end. -/
def sectionLines (args : List Arg) : List Styled :=
  let width := (args.map Arg.wantedWidth).foldl max 2
  let below := helpBelow (width + 4) args
  let margin := "\n" ++ spaces (if below then 10 else width + 4)
  args.map fun a =>
    let gap := if below then margin else spaces (width + 2 - a.columnWidth)
    let help := margin.intercalate ((withLineEnds a.help).splitOn "\n")
    [.plain (spaces 2)] ++ a.column ++ [.plain (gap ++ help)]

/-- A heading and the lines under it. -/
def headed (heading : String) (args : List Arg) : Styled :=
  [.strong (heading ++ ":"), .plain "\n"] ++ Styled.joined "\n" (sectionLines args)

/-- The text without its first line if that is blank. -/
def dropBlankLine (s : String) : String :=
  let line := s.toList.takeWhile (· ≠ '\n')
  if line.length < s.length ∧ line.all Text.isBlank then
    String.ofList (s.toList.drop (line.length + 1))
  else s

/-- The help text: what the command is about, the usage line, and a line for every argument. -/
def Spec.help (s : Spec) : String :=
  let about := dropBlankLine (withLineEnds s.about ++ "\n\n")
  let arguments :=
    if s.positionals.isEmpty then [] else [headed "Arguments" s.positionals]
  let sections := [s.helpUsage] ++ arguments ++ [headed "Options" s.switches]
  Styled.shown ([.plain about] ++ Styled.joined "\n\n" sections ++ [.plain "\n"])

end ChatShell.Args
