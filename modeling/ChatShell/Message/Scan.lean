-- From the text of a message to its tokens, one character at a time. The scanner
-- keeps the offset in bytes, what it is in the middle of, the word at hand and the
-- tokens before it. A value of a variable is added to the word at hand as it is.
-- Three operators have two characters (`1>`, `2>`, `<<`), so a `1`, a `2` or a `<`
-- is held back until the next character is seen. Scanning stops at a character
-- that means nothing, and fails at the end if a quote is still open.
import ChatShell.Message.Token

namespace ChatShell.Message

/-! ## Variables -/

/-- The values of the variables: what a name stands for, if anything. -/
abbrev Lookup := String → Option String

/-- The text a name stands for. An empty name and an unknown one stand for nothing. -/
def expand (lookup : Lookup) (name : String) : String :=
  if name.isEmpty then "" else (lookup name).getD ""

/-! ## Characters -/

/-- The two kinds of quotes. -/
inductive Quote where
  | single
  | double
  deriving DecidableEq

/-- The quote as it is written. -/
def Quote.char : Quote → Char
  | .single => '\''
  | .double => '"'

/-- The characters of a variable name. -/
def isNameChar (c : Char) : Bool := c.isAlphanum

/-- The characters of a bare word. -/
def isWordChar (c : Char) : Bool := c.isAlphanum || "./,:+=-_".toList.contains c

/-- The characters between words. -/
def isGap (c : Char) : Bool := c == ' ' || c == '\t' || c == '\n'

/-- What a character means where a piece may begin. -/
inductive CharClass where
  /-- An operator by itself. -/
  | operator (o : Operator)
  /-- `<`, which may be doubled. -/
  | less
  /-- `1` or `2`, which before a `>` belongs to the operator. -/
  | digit (redirect : Operator)
  /-- `$` before a name. -/
  | dollar
  /-- An opening quote. -/
  | quote (q : Quote)
  /-- Any other word character. -/
  | word
  /-- A character between words. -/
  | gap
  /-- A character that means nothing. -/
  | illegal
  deriving DecidableEq

/-- The class of a character. -/
def classify (c : Char) : CharClass :=
  if c = ';' then .operator .semicolon
  else if c = '|' then .operator .pipe
  else if c = '>' then .operator .save
  else if c = '&' then .operator .ampersand
  else if c = '<' then .less
  else if c = '1' then .digit .saveOut
  else if c = '2' then .digit .saveErr
  else if c = '$' then .dollar
  else if c = '\'' then .quote .single
  else if c = '"' then .quote .double
  else if isWordChar c then .word
  else if isGap c then .gap
  else .illegal

/-! ## Errors -/

/-- Why a message has no tokens. Offsets count bytes from the start of the message. -/
inductive ScanError where
  /-- The quote that opens at the offset is never closed. -/
  | unterminated (quote : Quote) (offset : Nat)
  /-- The character at the offset means nothing. -/
  | illegal (char : Char) (offset : Nat)
  deriving DecidableEq

/-- Where the error is. -/
def ScanError.offset : ScanError → Nat
  | .unterminated _ offset => offset
  | .illegal _ offset => offset

/-- The error in words. -/
def ScanError.message : ScanError → String
  | .unterminated q offset =>
    "unterminated string: " ++ String.singleton q.char ++ " at byte " ++ toString offset ++
      " is never closed"
  | .illegal c offset =>
    "illegal character " ++ Text.quotedChar c ++ " at byte " ++ toString offset

/-! ## Inside double quotes -/

/-- A stretch in double quotes, read up to some point: its text with the values in place, and the
name at hand. -/
structure Interpolation where
  text : String := ""
  name : Option String := none
  deriving DecidableEq

/-- Puts the value of the name at hand in its place. -/
def Interpolation.settle (lookup : Lookup) (i : Interpolation) : Interpolation :=
  match i.name with
  | none => i
  | some name => ⟨i.text ++ expand lookup name, none⟩

/-- Takes a character that is no part of a name. -/
def Interpolation.start (i : Interpolation) (c : Char) : Interpolation :=
  if c = '$' then { i with name := some "" } else { i with text := i.text.push c }

/-- Takes one character. -/
def Interpolation.step (lookup : Lookup) (i : Interpolation) (c : Char) : Interpolation :=
  match i.name with
  | none => i.start c
  | some name =>
    if isNameChar c then { i with name := some (name.push c) } else (i.settle lookup).start c

/-- The text of a stretch in double quotes. -/
def interpolate (lookup : Lookup) (body : String) : String :=
  ((body.toList.foldl (Interpolation.step lookup) {}).settle lookup).text

/-- The text that a closed quote adds to its word. -/
def Quote.read (lookup : Lookup) (q : Quote) (body : String) : String :=
  match q with
  | .single => body
  | .double => interpolate lookup body

/-! ## The scanner -/

/-- What the scanner is in the middle of. -/
inductive Mode where
  /-- Nothing: any piece or operator may begin. -/
  | ready
  /-- A run of word characters. -/
  | run (text : String)
  /-- A `1` or a `2` that a `>` may still make an operator. -/
  | digit (char : Char) (redirect : Operator)
  /-- A variable name. -/
  | name (text : String)
  /-- A `<` that may still be doubled. -/
  | less
  /-- A quote, opened at the given offset. -/
  | quote (q : Quote) (opened : Nat) (body : String)
  deriving DecidableEq

/-- A scanner in the middle of a message. -/
structure Scanner where
  /-- The bytes taken so far. -/
  offset : Nat := 0
  mode : Mode := .ready
  /-- The word at hand. An empty one is a word too, as `''` makes it. -/
  pending : Option String := none
  /-- The tokens before the word at hand. -/
  tokens : List Token := []
  deriving DecidableEq

namespace Scanner

/-- Adds text to the word at hand. -/
def glue (s : Scanner) (text : String) : Scanner :=
  { s with mode := .ready, pending := some (s.pending.getD "" ++ text) }

/-- Ends the word at hand. -/
def flush (s : Scanner) : Scanner :=
  { s with mode := .ready, pending := none, tokens := s.tokens ++ (s.pending.map .word).toList }

/-- Ends the word at hand and adds an operator. -/
def emit (s : Scanner) (o : Operator) : Scanner :=
  let s := s.flush
  { s with tokens := s.tokens ++ [.op o] }

/-- Ends a name outside quotes. Without a value it makes no word by itself. -/
def glueValue (s : Scanner) (value : String) : Scanner :=
  if value.isEmpty then { s with mode := .ready } else s.glue value

/-- Ends what the scanner is in the middle of, an open quote apart. -/
def settle (lookup : Lookup) (s : Scanner) : Scanner :=
  match s.mode with
  | .ready => s
  | .run text => s.glue text
  | .digit c _ => s.glue (String.singleton c)
  | .name text => s.glueValue (expand lookup text)
  | .less => s.emit .attach
  | .quote _ _ _ => s

/-- Takes a character where a piece may begin. -/
def start (s : Scanner) (c : Char) : Except ScanError Scanner :=
  match classify c with
  | .operator o => .ok (s.emit o)
  | .less => .ok { s with mode := .less }
  | .digit redirect => .ok { s with mode := .digit c redirect }
  | .dollar => .ok { s with mode := .name "" }
  | .quote q => .ok { s with mode := .quote q s.offset "" }
  | .word => .ok { s with mode := .run (String.singleton c) }
  | .gap => .ok s.flush
  | .illegal => .error (.illegal c s.offset)

/-- Takes a character, the offset apart. -/
def take (lookup : Lookup) (s : Scanner) (c : Char) : Except ScanError Scanner :=
  match s.mode with
  | .ready => s.start c
  | .run text =>
    if isWordChar c then .ok { s with mode := .run (text.push c) } else (s.settle lookup).start c
  | .digit _ redirect => if c = '>' then .ok (s.emit redirect) else (s.settle lookup).start c
  | .name text =>
    if isNameChar c then .ok { s with mode := .name (text.push c) } else (s.settle lookup).start c
  | .less => if c = '<' then .ok (s.emit .here) else (s.settle lookup).start c
  | .quote q opened body =>
    if c = q.char then .ok (s.glue (q.read lookup body))
    else .ok { s with mode := .quote q opened (body.push c) }

/-- Takes one character. -/
def step (lookup : Lookup) (s : Scanner) (c : Char) : Except ScanError Scanner :=
  (s.take lookup c).map fun t => { t with offset := s.offset + c.utf8Size }

/-- The tokens once the message has ended. -/
def finish (lookup : Lookup) (s : Scanner) : Except ScanError (List Token) :=
  match s.mode with
  | .quote q opened _ => .error (.unterminated q opened)
  | _ => .ok (s.settle lookup).flush.tokens

end Scanner

/-! ## From text to tokens -/

/-- The tokens of a message as they stand in it. -/
def rawTokens (source : String) (lookup : Lookup) : Except ScanError (List Token) := do
  let s ← source.toList.foldlM (Scanner.step lookup) {}
  s.finish lookup

/-- The tokens with a closing `;`, which is added if there are tokens and the last of them is not
already one. -/
def terminated (tokens : List Token) : List Token :=
  match tokens.getLast? with
  | none => tokens
  | some t => if t = .op .semicolon then tokens else tokens ++ [.op .semicolon]

/-- The tokens of a message. They end with `;` if there are any. -/
def tokenize (source : String) (lookup : Lookup) : Except ScanError (List Token) :=
  (rawTokens source lookup).map terminated

end ChatShell.Message
