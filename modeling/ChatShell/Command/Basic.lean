-- Commands: a handler under a name, with or without a specification of its
-- arguments. A handler writes into the output it is given, and may talk to the
-- chat. Arguments that do not fit the specification are no error: the message
-- becomes the output.
import ChatShell.Args.Parse
import ChatShell.Chat.Dialogue
import ChatShell.Chat.Mailbox
import ChatShell.Output.Basic

namespace ChatShell

/-- The arguments a handler gets: as they were given, and matched if there is a specification. -/
structure Arguments where
  raw : List String := []
  matched : Option Args.Matches := none

/-- The value of an option or plain argument. -/
def Arguments.text? (a : Arguments) (id : String) : Option String :=
  a.matched.bind fun m => m.text? id

/-- The flag was given. -/
def Arguments.flag (a : Arguments) (id : String) : Bool :=
  match a.matched with
  | some m => m.flag id
  | none => false

/-- Why a command stops the message it is in. -/
inductive CommandError where
  | notFound (name : String)
  | notImplemented (name : String)
  | failed (name message : String)
  deriving DecidableEq

/-- The error in words. -/
def CommandError.message : CommandError → String
  | .notFound name => "command " ++ Text.quoted name ++ " not found"
  | .notImplemented name => "command " ++ Text.quoted name ++ " is not implemented"
  | .failed name message => "command " ++ Text.quoted name ++ " failed: " ++ message

/-- The output a handler leaves, and the error it ended with, if any. -/
abbrev Ran := Output × Option CommandError

/-- What a command does. -/
structure Handler where
  /-- The handler's own name. -/
  name : String
  description : Option String := none
  /-- Runs on arguments and perhaps an input, and writes into the output. -/
  run : Arguments → Option Output → Output → Dialogue Ran

/-- A handler under a name. -/
structure Command where
  name : String
  spec : Option Args.Spec := none
  handler : Handler

namespace Command

/-- The help text of the specification, else the description of the handler. -/
def help (c : Command) : Option String :=
  match c.spec with
  | some s => some s.help
  | none => c.handler.description

/-- What the command does: without a specification it runs on the arguments as they are. Arguments
that do not fit give exit code 1 and the message on standard error, a wish for help gives the help
text. -/
def dialogue (c : Command) (raw : List String) (input : Option Output) (out : Output) :
    Dialogue Ran :=
  match c.spec with
  | none => c.handler.run { raw } input out
  | some s =>
    match s.parse raw with
    | .parsed m => c.handler.run { raw, matched := some m } input out
    | .failed message => .done ((out.setCode 1).writeText .err message, none)
    | .help text | .version text => .done (out.writeText .out text, none)

/-- Runs the command on its own, in an empty chat. -/
def invoke (c : Command) (raw : List String) (input : Option Output) (out : Output) : Ran :=
  ((c.dialogue raw input out).run Mailbox.chat {}).1

/-- A command on one line. -/
def render (c : Command) : String := "command<" ++ c.name ++ ">"

end Command

end ChatShell
