-- The small parts of a line: blanks and comments, strings, and keys. Each reader
-- gives what it read and the characters after it, or nothing if the text is not
-- what it should be.
import ChatShell.Toml.Expr

namespace ChatShell.Toml

/-! ## Blanks and comments -/

/-- A space or a tab. -/
def isSpace (c : Char) : Bool := c == ' ' || c == '\t'

/-- The characters after spaces and tabs. -/
def skipSpaces (cs : List Char) : List Char := cs.dropWhile isSpace

/-- A control character other than the tab. It may stand nowhere but in a line end. -/
def isControl (c : Char) : Bool := (c.toNat < 0x20 && c != '\t') || c.toNat == 0x7f

/-- What follows a line end. -/
def lineEnd? : List Char → Option (List Char)
  | '\n' :: cs => some cs
  | '\r' :: '\n' :: cs => some cs
  | _ => none

/-- What follows spaces, line ends and comments. `inComment` tells whether a comment has begun. -/
def skipLines (inComment : Bool) : List Char → Option (List Char)
  | [] => some []
  | '\n' :: cs => skipLines false cs
  | '\r' :: '\n' :: cs => skipLines false cs
  | c :: cs =>
    if inComment then if isControl c then none else skipLines true cs
    else if isSpace c then skipLines false cs
    else if c = '#' then skipLines true cs
    else some (c :: cs)

/-- What follows the rest of a line that has said what it says: spaces, a comment, the line
end. -/
def closeLine? (cs : List Char) : Option (List Char) :=
  match skipSpaces cs with
  | [] => some []
  | '#' :: rest =>
    let comment := rest.takeWhile fun c => !isControl c
    match rest.drop comment.length with
    | [] => some []
    | after => lineEnd? after
  | after => lineEnd? after

/-! ## Strings -/

/-- The character with the given hexadecimal digits, if there is one. -/
def charOfHex? (ds : List Char) : Option Char :=
  if ds.all (isDigitOf 16) then
    let n := ofDigits 16 ds
    if n.isValidChar then some (Char.ofNat n) else none
  else none

/-- A character given by so many hexadecimal digits. -/
def hexEscape? (count : Nat) : Reader Char := fun cs =>
  let ds := cs.take count
  if ds.length = count then (charOfHex? ds).map fun c => (c, cs.drop count) else none

/-- The character after a backslash. -/
def escape? : Reader Char
  | 'b' :: cs => some (Char.ofNat 0x8, cs)
  | 't' :: cs => some ('\t', cs)
  | 'n' :: cs => some ('\n', cs)
  | 'f' :: cs => some (Char.ofNat 0xC, cs)
  | 'r' :: cs => some ('\r', cs)
  | 'e' :: cs => some (Char.ofNat 0x1B, cs)
  | '"' :: cs => some ('"', cs)
  | '\\' :: cs => some ('\\', cs)
  | 'x' :: cs => hexEscape? 2 cs
  | 'u' :: cs => hexEscape? 4 cs
  | 'U' :: cs => hexEscape? 8 cs
  | _ => none

/-- Puts a character in front of what was read. -/
def andThen (c : Char) (read : Option (List Char × List Char)) : Option (List Char × List Char) :=
  read.map fun (s, rest) => (c :: s, rest)

/-- The rest of a string on one line, which `mark` ends. Escapes count between double marks.
`fuel` is at least the number of characters. -/
def lineString (mark : Char) : Nat → Reader (List Char)
  | 0, _ => none
  | _, [] => none
  | fuel + 1, c :: cs =>
    if c = mark then some ([], cs)
    else if c = '\\' ∧ mark = '"' then do
      let (e, rest) ← escape? cs
      andThen e (lineString mark fuel rest)
    else if isControl c then none
    else andThen c (lineString mark fuel cs)

/-- Every return is part of a line end. -/
def returnsPaired : List Char → Bool
  | [] => true
  | '\r' :: '\n' :: cs => returnsPaired cs
  | '\r' :: _ => false
  | _ :: cs => returnsPaired cs

/-- What follows a backslash at the end of a line: the line end and all blanks after it. -/
def joinLines? (cs : List Char) : Option (List Char) :=
  (lineEnd? (skipSpaces cs)).bind fun rest =>
    let next := rest.dropWhile fun c => isSpace c || c == '\n' || c == '\r'
    let blanks := rest.take (rest.length - next.length)
    if returnsPaired blanks then some next else none

/-- The rest of a string over many lines, which three `mark`s end. One or two marks before the
ending ones belong to the string. `fuel` is at least the number of characters. -/
def blockString (mark : Char) : Nat → Reader (List Char)
  | 0, _ => none
  | _, [] => none
  | fuel + 1, c :: cs =>
    if c = mark then
      let marks := (c :: cs).takeWhile (· = mark)
      if marks.length ≤ 2 then andThen c (blockString mark fuel cs)
      else if marks.length ≤ 5 then
        some (List.replicate (marks.length - 3) mark, (c :: cs).drop marks.length)
      else some ([mark, mark], (c :: cs).drop 5)
    else if c = '\\' ∧ mark = '"' then
      match joinLines? cs with
      | some rest => blockString mark fuel rest
      | none => do
        let (e, rest) ← escape? cs
        andThen e (blockString mark fuel rest)
    else if c = '\n' then andThen c (blockString mark fuel cs)
    else if c = '\r' then
      match cs with
      | '\n' :: rest => andThen '\r' (andThen '\n' (blockString mark fuel rest))
      | _ => none
    else if isControl c then none
    else andThen c (blockString mark fuel cs)

/-- A string on one line, from its opening mark on. -/
def shortString? (mark : Char) : Reader String := fun cs =>
  match cs with
  | c :: rest =>
    if c = mark then (lineString mark rest.length rest).map fun (s, r) => (String.ofList s, r)
    else none
  | [] => none

/-- A string from its opening mark on. Three marks open one over many lines, whose first line end
is left out. -/
def string? (mark : Char) : Reader String := fun cs =>
  match cs with
  | a :: b :: c :: rest =>
    if a = mark ∧ b = mark ∧ c = mark then
      let body := (lineEnd? rest).getD rest
      (blockString mark body.length body).map fun (s, r) => (String.ofList s, r)
    else shortString? mark cs
  | _ => shortString? mark cs

/-! ## Keys -/

/-- The characters of a key without quotes. -/
def isKeyChar (c : Char) : Bool := c.isAlphanum || c == '_' || c == '-'

/-- One key. -/
def key? : Reader String
  | '"' :: cs => shortString? '"' ('"' :: cs)
  | '\'' :: cs => shortString? '\'' ('\'' :: cs)
  | cs =>
    match cs.takeWhile isKeyChar with
    | [] => none
    | bare => some (String.ofList bare, cs.drop bare.length)

/-- Keys with dots between them. `fuel` is at least the number of characters. -/
def pathFrom : Nat → Reader Path
  | 0, _ => none
  | fuel + 1, cs => do
    let (key, rest) ← key? (skipSpaces cs)
    match skipSpaces rest with
    | '.' :: more =>
      let (keys, rest) ← pathFrom fuel more
      some (key :: keys, rest)
    | rest => some ([key], rest)

/-- How many keys a path may have, and how deep arrays and tables may go. -/
def depthLimit : Nat := 80

/-- A path of keys and the blanks around it. -/
def path? : Reader Path := fun cs => do
  let (path, rest) ← pathFrom (cs.length + 1) cs
  if path.length ≤ depthLimit then some (path, rest) else none

end ChatShell.Toml
