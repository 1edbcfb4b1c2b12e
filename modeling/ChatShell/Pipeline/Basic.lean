-- Running instructions. The commands of a message write into one output. A pipe
-- hands that output to the next command and starts a new one, a new statement
-- drops what is left of standard output, a redirection moves chunks into a file,
-- and an attachment is the input of the next command alone. What is left at the
-- end is the reply. An error ends the run, and then nothing is sent.
import ChatShell.Chat.Basic
import ChatShell.Command.Registry
import ChatShell.Message.Parse

namespace ChatShell

open Message (Instr Kind SourceError)

/-- Why a message is given up. -/
inductive ShellError where
  | source (e : SourceError)
  | command (e : CommandError)
  | noAttachment (name : String)
  | noTarget (kind : Kind)
  | transport (f : TransportFault)
  deriving DecidableEq

/-- The error in words. -/
def ShellError.message : ShellError → String
  | .source e => e.message
  | .command e => e.message
  | .noAttachment name => "attachment " ++ Text.quoted name ++ " not found"
  | .noTarget kind => kind.label ++ " instruction has no command or file name"
  | .transport f => f.text

/-- What lies behind the error, if it is known. -/
def ShellError.cause : ShellError → Option String
  | .transport f => f.cause
  | _ => none

/-- A run that ended with an error, and the state it left the chat in. -/
structure Abort (σ : Type) where
  chat : σ
  error : ShellError

/-- A run in the middle of its instructions. -/
structure Run (σ : Type) where
  /-- The state of the chat. -/
  chat : σ
  /-- What the commands have written. -/
  out : Output := {}
  /-- The attachment the next command gets. -/
  bound : Option Output := none
  /-- The attachments fetched in this run, in order. -/
  cache : List (String × Text.Bytes) := []
  /-- The files made so far. -/
  files : List File := []

namespace Run

variable {σ : Type}

/-- Ends the run. -/
def abort (r : Run σ) (e : ShellError) : Except (Abort σ) (Run σ) := .error ⟨r.chat, e⟩

/-- Binds content as the input of the next command. -/
def bind (r : Run σ) (content : Text.Bytes) : Run σ := { r with bound := some (.ofBytes content) }

/-- Binds an attachment. It is fetched once in a run, but has to be listed every time. -/
def attach (c : Chat σ) (r : Run σ) (name : String) : Except (Abort σ) (Run σ) :=
  match (c.attachments r.chat).get? name with
  | none => r.abort (.noAttachment name)
  | some handle =>
    match r.cache.lookup name with
    | some content => .ok (r.bind content)
    | none =>
      match c.fetch handle r.chat with
      | (.error f, chat) => .error ⟨chat, .transport f⟩
      | (.ok content, chat) =>
        .ok ({ r with chat, cache := r.cache ++ [(name, content)] }.bind content)

/-- Moves what was taken out of the output into a file. -/
def save (r : Run σ) (name : String) (taken : Text.Bytes × Output) : Run σ :=
  { r with out := taken.2, files := r.files ++ [⟨name, taken.1⟩] }

/-- What a command of the given kind gets: the attachment, else in a pipe the output so far. -/
def input (r : Run σ) (kind : Kind) : Option Output :=
  if kind = .pipe then some (r.bound.getD r.out) else r.bound

/-- Runs a command on an input. What was bound is used up. -/
def call (g : Registry) (c : Chat σ) (r : Run σ) (name : String) (args : List String)
    (input : Option Output) : Except (Abort σ) (Run σ) :=
  match g.get? name with
  | none => r.abort (.command (.notFound name))
  | some command =>
    match (command.dialogue args input r.out).run c r.chat with
    | ((out, none), chat) => .ok { r with chat, out, bound := none }
    | ((_, some e), chat) => .error ⟨chat, .command e⟩

/-- Takes one instruction. -/
def step (g : Registry) (c : Chat σ) (r : Run σ) (i : Instr) : Except (Abort σ) (Run σ) :=
  match i.args with
  | [] => r.abort (.noTarget i.kind)
  | target :: rest =>
    match i.kind with
    | .attach => r.attach c target
    | .save => .ok (r.save target r.out.takeAll)
    | .saveOut => .ok (r.save target (r.out.take .out))
    | .saveErr => .ok (r.save target (r.out.take .err))
    | .pipe => { r with out := {} }.call g c target rest (r.input .pipe)
    | .eval => { r with out := r.out.drop .out }.call g c target rest (r.input .eval)

/-- Takes instructions one after the other. -/
def steps (g : Registry) (c : Chat σ) (r : Run σ) (is : List Instr) : Except (Abort σ) (Run σ) :=
  is.foldlM (step g c) r

@[simp]
theorem steps_nil (g : Registry) (c : Chat σ) (r : Run σ) : r.steps g c [] = .ok r := rfl

/-- Instructions in a row are taken one part after the other. -/
theorem steps_append (g : Registry) (c : Chat σ) (r : Run σ) (as bs : List Instr) :
    r.steps g c (as ++ bs) = (r.steps g c as).bind fun s => s.steps g c bs := by
  unfold steps
  rw [List.foldlM_append]
  rfl

end Run

end ChatShell
