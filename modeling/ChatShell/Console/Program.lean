-- The program as a whole: from its arguments, the files and the lines of its
-- input to what it prints and the code it ends with.
import ChatShell.Console.Options
import ChatShell.Console.Session
import ChatShell.Console.Typed

namespace ChatShell.Console

/-- How a run of the program ended. -/
structure Exit where
  code : Nat := 0
  out : String := ""
  err : String := ""
  deriving DecidableEq

/-- The text and a line end. -/
def withLineEnd (s : String) : String := s ++ "\n"

/-- What the program prints for an error that ends it. -/
def report (message : String) (cause : Option String) : String :=
  let behind :=
    match cause with
    | some text => "\n\nCaused by:\n    " ++ text
    | none => ""
  withLineEnd ("Error: " ++ message ++ behind)

/-- The end with an error. -/
def Exit.failed (message : String) (cause : Option String) : Exit :=
  { code := 1, err := report message cause }

/-- The end with something printed. -/
def Exit.printed (text : String) : Exit := { out := withLineEnd text }

/-- The first lines of a session. -/
def banner : String :=
  withLineEnd (programName ++ " v" ++ programVersion) ++
    withLineEnd (withLineEnd "Type /help for commands, /quit to exit.")

/-- Printed where the lines end. -/
def farewell : String := withLineEnd "^D"

/-- What is printed for a line, on standard output and on standard error. -/
def printedFor : Except ShellError (Option String) → String × String
  | .ok (some text) => (withLineEnd text, "")
  | .ok none => ("", "")
  | .error e => ("", withLineEnd ("Error: " ++ e.message))

/-- Takes lines until one of them ends the session. -/
def converse (disk : Disk) (s : Session) : List String → Exit
  | [] => { out := farewell }
  | text :: rest =>
    let (s, result) := s.line disk text
    let (out, err) := printedFor result
    if s.quit then { out, err }
    else
      let later := converse disk s rest
      { later with out := out ++ later.out, err := err ++ later.err }

/-- The lines of an input, where `line` is the line at hand. A line feed ends a line and belongs
to it, and what follows the last line feed is a line if there is anything. -/
def splitLines (line : String) : List Char → List String
  | [] => if line.isEmpty then [] else [line]
  | c :: cs =>
    if c = '\n' then line.push c :: splitLines "" cs else splitLines (line.push c) cs

/-- The lines of an input, as a session takes them. -/
def inputLines (input : String) : List String :=
  (splitLines "" input.toList).map fun line => typed (withoutLineEnd line)

/-- The shell with the settings and the options. -/
def Options.shell (o : Options) (config : Config) : Shell :=
  let config := o.vars.foldl (fun c v => c.setVariable v.1 v.2) config
  { config := { config with limit := o.limit <|> config.limit } }

/-- The terminal with the options. -/
def Options.terminal (o : Options) (isTerminal : Bool) : Terminal :=
  { attachments := .ofList o.attachments, colour := useColour o.noColour isTerminal }

/-- What the program is to do. -/
inductive Task where
  /-- Print this and end. -/
  | finish (e : Exit)
  /-- Take lines. -/
  | converse (s : Session)

/-- What the options ask for. -/
def Options.task (o : Options) (disk : Disk) (defaultConfig : String) (isTerminal : Bool) : Task :=
  match loadConfig disk defaultConfig o.config with
  | .error e => .finish (.failed e.message e.cause)
  | .ok config =>
    let sh := o.shell config
    match o.tokens with
    | some text =>
      match sh.inspect text with
      | .error e => .finish (.failed e.message none)
      | .ok shown => .finish (.printed shown)
    | none =>
      let t := o.terminal isTerminal
      match o.command with
      | none => .converse { shell := sh, terminal := t }
      | some text =>
        match (runOnce sh disk t text).2 with
        | .error e => .finish (.failed e.message e.cause)
        | .ok sent => .finish (.printed sent)

/-- What the arguments ask for: options, or an end at once. -/
def options (args : List String) : Except Exit Options :=
  match optionSpec.parse args with
  | .parsed m => .ok (.ofMatches m)
  | .failed message => .error { code := 2, err := message }
  | .help text | .version text => .error { out := text }

/-- The whole program, without a terminal. -/
def program (args : List String) (disk : Disk) (defaultConfig : String) (input : String) : Exit :=
  match options args with
  | .error e => e
  | .ok o =>
    match o.task disk defaultConfig false with
    | .finish e => e
    | .converse s =>
      let e := converse disk s (inputLines input)
      { e with out := banner ++ e.out }

end ChatShell.Console
