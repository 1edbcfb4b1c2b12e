-- The words and operators of a message, and how a row of them is shown on one
-- line.
import ChatShell.Text.Quoted

namespace ChatShell.Message

/-- The operators of the language. -/
inductive Operator where
  /-- `|`: the output of the stage before is the input of the command after. -/
  | pipe
  /-- `>`: both streams go to a file. -/
  | save
  /-- `1>`: standard output goes to a file. -/
  | saveOut
  /-- `2>`: standard error goes to a file. -/
  | saveErr
  /-- `<`: an attachment is the input of the next command. -/
  | attach
  /-- `<<`: kept for later, without effect. -/
  | here
  /-- `&`: kept for later, without effect. -/
  | ampersand
  /-- `;`: the statement ends. -/
  | semicolon
  deriving DecidableEq

/-- The operator as it is written. -/
def Operator.text : Operator → String
  | .pipe => "|"
  | .save => ">"
  | .saveOut => "1>"
  | .saveErr => "2>"
  | .attach => "<"
  | .here => "<<"
  | .ampersand => "&"
  | .semicolon => ";"

/-- All operators. -/
def Operator.all : List Operator :=
  [.pipe, .save, .saveOut, .saveErr, .attach, .here, .ampersand, .semicolon]

/-- The operator that is written so. -/
def Operator.ofText? (s : String) : Option Operator := Operator.all.find? fun o => o.text == s

/-- One word or one operator. -/
inductive Token where
  | word (text : String)
  | op (operator : Operator)
  deriving DecidableEq

/-- The token is the given operator. -/
def Token.isOp (o : Operator) : Token → Bool
  | .word _ => false
  | .op p => p == o

/-- A token on its own, where `shows` tells which characters are shown as themselves. -/
def Token.renderWith (shows : Char → Bool) : Token → String
  | .word text => "STRING(" ++ Text.quotedWith shows text ++ ")"
  | .op o => "OP(" ++ o.text ++ ")"

/-- A row of tokens on one line, where `shows` tells which characters are shown as themselves. -/
def renderTokensWith (shows : Char → Bool) (tokens : List Token) : String :=
  " ".intercalate (tokens.map (Token.renderWith shows))

/-- A row of tokens on one line, with the characters of `isShown` shown as themselves. -/
def renderTokens (tokens : List Token) : String := renderTokensWith Text.isShown tokens

end ChatShell.Message
