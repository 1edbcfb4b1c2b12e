-- The command line of the program.
import ChatShell.Args.Parse
import ChatShell.Console.Settings

namespace ChatShell.Console

/-- The name of the program. -/
def programName : String := "shbot"

/-- The version of the program. -/
def programVersion : String := "0.1.0"

/-! ## Values -/

/-- A `NAME=VALUE` text. -/
def checkPair (text : String) : Option Args.ValueFault :=
  match pair text with
  | .ok _ => none
  | .error e => some (.because e.message)

/-- A path, which must not be empty. -/
def checkPath (text : String) : Option Args.ValueFault := if text.isEmpty then some .empty else none

/-- Why a text is no whole number of 64 bits. -/
inductive NumberFault where
  | empty
  | badDigit
  | tooLarge
  deriving DecidableEq

/-- The fault in words. -/
def NumberFault.message : NumberFault → String
  | .empty => "cannot parse integer from empty string"
  | .badDigit => "invalid digit found in string"
  | .tooLarge => "number too large to fit in target type"

/-- Takes one more digit. -/
def addDigit (n : Nat) (c : Char) : Except NumberFault Nat :=
  if c.isDigit then
    let n := n * 10 + (c.toNat - '0'.toNat)
    if n < Nat.pow 2 64 then .ok n else .error .tooLarge
  else .error .badDigit

/-- A whole number of 64 bits, perhaps with a plus in front. -/
def number (text : String) : Except NumberFault Nat :=
  match text.toList with
  | [] => .error .empty
  | ['+'] => .error .badDigit
  | '+' :: cs => cs.foldlM addDigit 0
  | cs => cs.foldlM addDigit 0

/-- A whole number of 64 bits. -/
def checkNumber (text : String) : Option Args.ValueFault :=
  match number text with
  | .ok _ => none
  | .error e => some (.because e.message)

/-! ## The options -/

/-- What the program accepts on its command line. -/
def optionSpec : Args.Spec where
  name := programName
  about := "Debug shell for shbot chat messages"
  version := some programVersion
  conflicts := [("tokens", "command")]
  grouped := true
  args :=
    [{ id := "tokens", short := some 't', long := some "tokens", valueName := some "MESSAGE",
       help := "Print tokens and instructions for MESSAGE instead of running it" },
     { id := "command", short := some 'c', long := some "command", valueName := some "MESSAGE",
       help := "Run MESSAGE once and exit" },
     { id := "vars", short := some 'v', long := some "var", valueName := some "NAME=VALUE",
       help := "Set a variable for `$NAME` expansion", action := .values, check := checkPair },
     { id := "attach", long := some "attach", valueName := some "NAME=PATH",
       help := "Expose a local file as attachment NAME", action := .values, check := checkPair },
     { id := "config", long := some "config", valueName := some "PATH",
       help := "Config file (default: <config dir>/shbot/config.toml)", check := checkPath },
     { id := "max_len", long := some "max-len", valueName := some "CHARS",
       help := "Reply length limit", check := checkNumber },
     { id := "no_color", long := some "no-color", action := .flag,
       help := "Disable colored output (also off when stdout is not a terminal)" }]

/-- What the command line asks for. -/
structure Options where
  tokens : Option String := none
  command : Option String := none
  vars : List (String × String) := []
  attachments : List (String × String) := []
  config : Option String := none
  limit : Option Nat := none
  noColour : Bool := false
  deriving DecidableEq

/-- The pairs among some texts. -/
def pairs (texts : List String) : List (String × String) :=
  texts.filterMap fun t => (pair t).toOption

/-- The options that were given. -/
def Options.ofMatches (m : Args.Matches) : Options where
  tokens := m.text? "tokens"
  command := m.text? "command"
  vars := pairs (m.texts "vars")
  attachments := pairs (m.texts "attach")
  config := m.text? "config"
  limit := (m.text? "max_len").bind fun t => (number t).toOption
  noColour := m.flag "no_color"

end ChatShell.Console
