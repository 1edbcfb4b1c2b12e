-- From tokens to instructions, one token at a time. Words gather in the stage
-- that is open. A `<` takes the next word for itself and adds its instruction at
-- once, ahead of the stage it stands in. `;`, `|`, `>`, `1>` and `2>` close the
-- stage and open the next. A closed stage needs a word, but for a statement that
-- `;` ends before it has begun.
import ChatShell.Message.Instr
import ChatShell.Message.Scan

namespace ChatShell.Message

/-- Why a row of tokens is no row of instructions. -/
inductive ParseError where
  /-- The `<` at this place has no word right after it. -/
  | noFileName (index : Nat)
  /-- A stage of this kind is closed without a word. -/
  | emptyStage (kind : Kind)
  deriving DecidableEq

/-- The error in words. -/
def ParseError.message : ParseError → String
  | .noFileName index =>
    "malformed redirection: `<` at token " ++ toString index ++ " must be followed by a file name"
  | .emptyStage kind => kind.label ++ " stage is missing its command or file name"

/-- The kind of stage that an operator opens, for those that open one. -/
def Operator.opens? : Operator → Option Kind
  | .pipe => some .pipe
  | .save => some .save
  | .saveOut => some .saveOut
  | .saveErr => some .saveErr
  | .semicolon => some .eval
  | .attach | .here | .ampersand => none

/-- A parser in the middle of a row of tokens. -/
structure Parser where
  /-- The tokens taken so far. -/
  index : Nat := 0
  /-- The instructions so far. -/
  instrs : List Instr := []
  /-- The stage that is open. -/
  stage : Instr := ⟨.eval, []⟩
  /-- The place of a `<` that still wants its word. -/
  wanting : Option Nat := none
  deriving DecidableEq

namespace Parser

/-- The instructions with the open stage added, as the operator `o` closes it. -/
def close (p : Parser) (o : Operator) : Except ParseError (List Instr) :=
  if p.stage.args.isEmpty then
    if p.stage.kind = .eval ∧ o = .semicolon then .ok p.instrs
    else .error (.emptyStage p.stage.kind)
  else .ok (p.instrs ++ [p.stage])

/-- Takes a token, the count apart. -/
def take (p : Parser) (t : Token) : Except ParseError Parser :=
  match p.wanting, t with
  | some _, .word name =>
    .ok { p with instrs := p.instrs ++ [⟨.attach, [name]⟩], wanting := none }
  | some index, .op _ => .error (.noFileName index)
  | none, .word text => .ok { p with stage := { p.stage with args := p.stage.args ++ [text] } }
  | none, .op .attach => .ok { p with wanting := some p.index }
  | none, .op o =>
    match o.opens? with
    | none => .ok p
    | some kind => (p.close o).map fun instrs => { p with instrs, stage := ⟨kind, []⟩ }

/-- Takes one token. -/
def step (p : Parser) (t : Token) : Except ParseError Parser :=
  (p.take t).map fun q => { q with index := p.index + 1 }

/-- The instructions once the tokens have ended. A stage that is still open is dropped. -/
def finish (p : Parser) : Except ParseError (List Instr) :=
  match p.wanting with
  | some index => .error (.noFileName index)
  | none => .ok p.instrs

end Parser

/-- The instructions of a row of tokens. -/
def parse (tokens : List Token) : Except ParseError (List Instr) := do
  let p ← tokens.foldlM Parser.step {}
  p.finish

/-! ## From text to instructions -/

/-- Why a message has no instructions. -/
inductive SourceError where
  | scan (e : ScanError)
  | parse (e : ParseError)
  deriving DecidableEq

/-- The error in words. -/
def SourceError.message : SourceError → String
  | .scan e => e.message
  | .parse e => e.message

/-- The instructions of a message. -/
def compile (source : String) (lookup : Lookup) : Except SourceError (List Instr) :=
  match tokenize source lookup with
  | .error e => .error (.scan e)
  | .ok tokens =>
    match parse tokens with
    | .error e => .error (.parse e)
    | .ok instrs => .ok instrs

end ChatShell.Message
