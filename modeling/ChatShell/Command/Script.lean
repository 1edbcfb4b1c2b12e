-- Handlers made of a list of actions, run in order until one of them ends the
-- run with an error. They write what they are told, or show what they were given.
import ChatShell.Command.Basic

namespace ChatShell

/-- One action of a scripted handler. -/
inductive ScriptAction where
  /-- Writes the bytes. -/
  | write (s : Stream) (bytes : Text.Bytes)
  /-- Sets the exit code. -/
  | code (n : Int)
  /-- Shows the arguments as they were given. -/
  | showArgs
  /-- Shows the value of an argument. -/
  | showText (id : String)
  /-- Shows whether a flag was given. -/
  | showFlag (id : String)
  /-- Shows the input. -/
  | showInput
  /-- Shows the output as it stands. -/
  | showOutput
  /-- Clears the output. -/
  | clear
  /-- Ends with a failure. -/
  | fail (message : String)
  /-- Ends as not implemented. -/
  | unfinished
  deriving DecidableEq

/-- Runs one action of the handler with the given name. -/
def ScriptAction.run (name : String) (args : Arguments) (input : Option Output) (out : Output) :
    ScriptAction → Ran
  | .write s bytes => (out.write s bytes, none)
  | .code n => (out.setCode n, none)
  | .showArgs => (out.writeText .out (Text.quotedList args.raw), none)
  | .showText id => (out.writeText .out (Text.optional ((args.text? id).map Text.quoted)), none)
  | .showFlag id => (out.writeText .out (if args.flag id then "true" else "false"), none)
  | .showInput => (out.writeText .out (Text.optional (input.map Output.render)), none)
  | .showOutput => (out.writeText .out out.render, none)
  | .clear => (out.clear, none)
  | .fail message => (out, some (.failed name message))
  | .unfinished => (out, some (.notImplemented name))

/-- Runs the actions until one ends with an error. -/
def runScript (name : String) (args : Arguments) (input : Option Output) :
    List ScriptAction → Output → Ran
  | [], out => (out, none)
  | a :: rest, out =>
    match a.run name args input out with
    | (out, none) => runScript name args input rest out
    | (out, some e) => (out, some e)

/-- The handler that runs the actions. -/
def Handler.ofScript (name : String) (description : Option String)
    (actions : List ScriptAction) : Handler where
  name := name
  description := description
  run args input out := .done (runScript name args input actions out)

end ChatShell
