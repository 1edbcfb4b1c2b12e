-- The shell: it knows commands and settings, and runs one message in a chat from
-- its text to the reply.
import ChatShell.Pipeline.Basic

namespace ChatShell

open Message (Token Instr Lookup)

/-! ## Settings -/

/-- How the reply is made from the output. -/
structure ReplyStyle where
  /-- Sent in place of an empty reply. -/
  placeholder : String := "** **"
  /-- The most characters of a reply, if it is not for the chat to say. -/
  limit : Option Nat := none
  deriving DecidableEq

/-- The settings of a shell. -/
structure Config extends ReplyStyle where
  /-- The values of the variables. -/
  vars : NameMap String := .empty

/-- The settings with a variable set. -/
def Config.setVariable (c : Config) (name value : String) : Config :=
  { c with vars := c.vars.insert name value }

/-- What a name stands for. -/
def Config.lookup (c : Config) : Lookup := fun name => c.vars.get? name

/-! ## The reply -/

/-- The first characters of a text, at most so many. -/
def firstChars (limit : Nat) (s : String) : String := String.ofList (s.toList.take limit)

/-- The text of the reply, where `chatLimit` is what the chat allows. -/
def ReplyStyle.render (style : ReplyStyle) (chatLimit : Nat) (out : Output) : String :=
  let text := if out.text.isEmpty then style.placeholder else out.text
  firstChars (style.limit.getD chatLimit) text

/-- The end of a run: the state of the chat, and the error if there is one. -/
abbrev Ended (σ : Type) := σ × Except ShellError Unit

/-- Sends the reply of a run that has come to its end. -/
def Run.deliver {σ : Type} (style : ReplyStyle) (c : Chat σ) (r : Run σ) : Ended σ :=
  let reply : Reply := ⟨some (style.render (c.limit r.chat) r.out), r.files⟩
  match c.send reply r.chat with
  | (.ok (), chat) => (chat, .ok ())
  | (.error f, chat) => (chat, .error (.transport f))

/-- Runs instructions and sends the reply. -/
def interpret {σ : Type} (g : Registry) (style : ReplyStyle) (c : Chat σ) (chat : σ)
    (is : List Instr) : Ended σ :=
  match Run.steps g c { chat } is with
  | .ok r => r.deliver style c
  | .error a => (a.chat, .error a.error)

/-! ## The shell -/

/-- Commands and settings. -/
structure Shell where
  registry : Registry := .builtin
  config : Config := {}

namespace Shell

/-- The tokens of a message. -/
def tokenize (sh : Shell) (source : String) : Except Message.ScanError (List Token) :=
  Message.tokenize source sh.config.lookup

/-- The instructions of a message. -/
def compile (sh : Shell) (source : String) : Except Message.SourceError (List Instr) :=
  Message.compile source sh.config.lookup

/-- Runs one message. -/
def execute {σ : Type} (sh : Shell) (c : Chat σ) (chat : σ) (source : String) : Ended σ :=
  match sh.compile source with
  | .error e => (chat, .error (.source e))
  | .ok is => interpret sh.registry sh.config.toReplyStyle c chat is

/-- Runs messages one after the other, whether or not one before failed: how each of them
ended. -/
def trace {σ : Type} (sh : Shell) (c : Chat σ) (chat : σ) : List String → List (Ended σ)
  | [] => []
  | source :: rest =>
    let ended := sh.execute c chat source
    ended :: sh.trace c ended.1 rest

/-- Tokens and instructions of a message, a line each. -/
def inspect (sh : Shell) (source : String) : Except Message.SourceError String :=
  match sh.tokenize source with
  | .error e => .error (.scan e)
  | .ok tokens =>
    match sh.compile source with
    | .error e => .error e
    | .ok instrs =>
      .ok ("tokens: " ++ Message.renderTokens tokens ++ "\ninstrs: " ++
        Message.renderInstrs instrs)

end Shell

end ChatShell
