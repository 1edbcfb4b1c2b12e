-- A session at the terminal. A line that begins with `/` is an order to the
-- session; any other line that is not blank is a message. Messages run one by one
-- and leave nothing behind but their printed replies.
import ChatShell.Console.Terminal
import ChatShell.Shell
import ChatShell.Text.Blank

namespace ChatShell.Console

/-- Runs one message and gives what was sent. -/
def runOnce (sh : Shell) (disk : Disk) (t : Terminal) (message : String) :
    Terminal × Except ShellError String :=
  match sh.execute (Terminal.chat disk) t message with
  | (t, .error e) => (t, .error e)
  | (t, .ok ()) => ({ t with outbox := [] }, .ok ("\n".intercalate t.outbox))

/-- The help text of a session. -/
def helpText : String :=
  "shbot — debug REPL\n\n" ++
  "Commands:\n" ++
  "  /help, /h, /?     Show this help\n" ++
  "  /quit, /q, /exit  Exit the REPL\n" ++
  "  /tokens           Toggle token and instruction display\n" ++
  "  /commands         List commands and attachments\n\n" ++
  "Language:\n" ++
  "  cmd args          Run a command\n" ++
  "  a | b             Pipe a's output into b\n" ++
  "  a > file          Send a's output as a file\n" ++
  "  a 1> f 2> g       Split stdout and stderr into files\n" ++
  "  cmd < file        Feed an attachment to cmd\n" ++
  "  a; b              Run a, then b\n" ++
  "  $NAME             Variable (from config or --var)\n\n" ++
  "Examples:\n" ++
  "  echo hello\n" ++
  "  echo \"print(1)\" | cb -l py\n" ++
  "  cb -l rs < main.rs > main.md\n"

/-- A session in the middle of its lines. -/
structure Session where
  shell : Shell
  terminal : Terminal := {}
  /-- Tokens and instructions are shown ahead of each reply. -/
  showTokens : Bool := false
  /-- The session is to end. -/
  quit : Bool := false

/-- An order to the session. -/
inductive Order where
  | quit
  | help
  | tokens
  | commands
  | unknown (word : String)
  deriving DecidableEq

/-- The order that a word gives. -/
def Order.ofWord (word : String) : Order :=
  if word = "/quit" ∨ word = "/q" ∨ word = "/exit" then .quit
  else if word = "/help" ∨ word = "/h" ∨ word = "/?" then .help
  else if word = "/tokens" then .tokens
  else if word = "/commands" then .commands
  else .unknown word

namespace Session

/-- The line of a command in the list: its name and the first line of its help. -/
def commandLine (name : String) (c : Option Command) : String :=
  let summary := ((c.bind Command.help).bind Text.firstLine?).getD ""
  "\n  " ++ Text.padRight name 10 ++ " " ++ summary

/-- The commands, and the attachments if there are any. -/
def listing (s : Session) : String :=
  let registry := s.shell.registry
  let commands := registry.names.map fun name => commandLine name (registry.get? name)
  let attachments := s.terminal.attachments.names.map ("\n  " ++ ·)
  "Commands:" ++ String.join commands ++
    (if attachments.isEmpty then "" else "\nAttachments:" ++ String.join attachments)

/-- Carries out an order. -/
def obey (s : Session) : Order → Session × Option String
  | .quit => ({ s with quit := true }, none)
  | .help => (s, some helpText)
  | .tokens =>
    ({ s with showTokens := !s.showTokens },
      some ("Token display: " ++ if s.showTokens then "OFF" else "ON"))
  | .commands => (s, some s.listing)
  | .unknown word =>
    (s, some ("Unknown command: " ++ word ++ "\nType /help for available commands."))

/-- Runs a message, with its tokens and instructions ahead of the reply if they are shown. -/
def message (s : Session) (disk : Disk) (text : String) : Session × Except ShellError String :=
  let shown : Except Message.SourceError (List String) :=
    if s.showTokens then (s.shell.inspect text).map fun t => [t] else .ok []
  match shown with
  | .error e => (s, .error (.source e))
  | .ok before =>
    match s.shell.execute (Terminal.chat disk) s.terminal text with
    | (t, .error e) => ({ s with terminal := t }, .error e)
    | (t, .ok ()) =>
      ({ s with terminal := { t with outbox := [] } },
        .ok ("\n".intercalate (before ++ t.outbox)))

/-- Takes one line: what is printed for it, if anything. -/
def line (s : Session) (disk : Disk) (text : String) :
    Session × Except ShellError (Option String) :=
  let text := Text.trim text
  if Text.beginsWith text '/' then
    let (s, printed) := s.obey (Order.ofWord (Text.firstWord text))
    (s, .ok printed)
  else if text.isEmpty then (s, .ok none)
  else
    let (s, result) := s.message disk text
    (s, result.map some)

end Session

end ChatShell.Console
