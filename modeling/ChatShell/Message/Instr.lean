-- The instructions of a message, and how a row of them is shown on one line.
import ChatShell.Text.Quoted

namespace ChatShell.Message

/-- What an instruction does. -/
inductive Kind where
  /-- Runs a command at the start of a statement. -/
  | eval
  /-- Runs a command on the output of the stage before. -/
  | pipe
  /-- Moves both streams into a file. -/
  | save
  /-- Moves standard output into a file. -/
  | saveOut
  /-- Moves standard error into a file. -/
  | saveErr
  /-- Makes an attachment the input of the next command. -/
  | attach
  deriving DecidableEq

/-- The kind in capitals, as messages and summaries show it. -/
def Kind.label : Kind → String
  | .eval => "EVAL"
  | .pipe => "PIPE"
  | .save => "OUT"
  | .saveOut => "OUT1"
  | .saveErr => "OUT2"
  | .attach => "IN"

/-- All kinds. -/
def Kind.all : List Kind := [.eval, .pipe, .save, .saveOut, .saveErr, .attach]

/-- The kind with the given label. -/
def Kind.ofLabel? (s : String) : Option Kind := Kind.all.find? fun k => k.label == s

/-- The instruction runs a command. -/
def Kind.isCommand : Kind → Bool
  | .eval | .pipe => true
  | .save | .saveOut | .saveErr | .attach => false

/-- One stage, redirection or attachment: the name it is about, then its arguments. -/
structure Instr where
  kind : Kind
  args : List String := []
  deriving DecidableEq

/-- The command or file the instruction is about. -/
def Instr.target (i : Instr) : Option String := i.args.head?

/-- The arguments after the name. -/
def Instr.rest (i : Instr) : List String := i.args.tail

/-- An instruction on its own, where `shows` tells which characters are shown as themselves. -/
def Instr.renderWith (shows : Char → Bool) (i : Instr) : String :=
  i.kind.label ++ Text.quotedListWith shows i.args

/-- A row of instructions on one line, where `shows` tells which characters are shown as
themselves. -/
def renderInstrsWith (shows : Char → Bool) (instrs : List Instr) : String :=
  " ".intercalate (instrs.map (Instr.renderWith shows))

/-- A row of instructions on one line, with the characters of `isShown` shown as themselves. -/
def renderInstrs (instrs : List Instr) : String := renderInstrsWith Text.isShown instrs

end ChatShell.Message
