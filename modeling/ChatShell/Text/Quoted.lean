-- Quoted text, as messages and summaries show it. The text stands between two
-- marks; the mark, the backslash and the usual line characters get a backslash
-- of their own, and a character that is not shown as itself is written as its
-- code point in hexadecimal between braces.
import ChatShell.Text.Shown

namespace ChatShell.Text

/-- The code point of a character between braces, in lower-case hexadecimal. -/
def codePoint (c : Char) : List Char :=
  ['\\', 'u', '\x7b'] ++ Nat.toDigits 16 c.toNat ++ ['\x7d']

/-- One character of a text between two `mark`s, where `shows` tells which characters are shown
as themselves. -/
def escapeWith (shows : Char → Bool) (mark c : Char) : List Char :=
  if c = Char.ofNat 0 then ['\\', '0']
  else if c = '\t' then ['\\', 't']
  else if c = '\r' then ['\\', 'r']
  else if c = '\n' then ['\\', 'n']
  else if c = '\\' then ['\\', '\\']
  else if c = mark then ['\\', mark]
  else if shows c then [c]
  else codePoint c

/-- A text between double marks, where `shows` tells which characters are shown as themselves. -/
def quotedWith (shows : Char → Bool) (s : String) : String :=
  String.ofList ('"' :: s.toList.flatMap (escapeWith shows '"') ++ ['"'])

/-- A text between double marks, with the characters of `isShown` shown as themselves. -/
def quoted (s : String) : String := quotedWith isShown s

/-- A single character between single marks. -/
def quotedChar (c : Char) : String :=
  String.ofList ('\'' :: escapeWith isShown '\'' c ++ ['\''])

/-- Texts in brackets, a comma and a space between them. -/
def bracketed (items : List String) : String := "[" ++ ", ".intercalate items ++ "]"

/-- A list of quoted texts in brackets, where `shows` tells which characters are shown as
themselves. -/
def quotedListWith (shows : Char → Bool) (items : List String) : String :=
  bracketed (items.map (quotedWith shows))

/-- A list of quoted texts in brackets, with the characters of `isShown` shown as themselves. -/
def quotedList (items : List String) : String := quotedListWith isShown items

/-- A value that may be absent: `None`, or `Some` around its text. -/
def optional (value : Option String) : String :=
  match value with
  | none => "None"
  | some text => "Some(" ++ text ++ ")"

end ChatShell.Text
