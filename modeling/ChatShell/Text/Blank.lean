-- The ends of a text: the blanks around it (the Unicode property White_Space),
-- its first word and its first line, and the spaces that fill it up to a width.

namespace ChatShell.Text

/-- The character has the property White_Space. -/
def isBlank (c : Char) : Bool :=
  let n := c.toNat
  (0x9 ≤ n && n ≤ 0xD) || n == 0x20 || n == 0x85 || n == 0xA0 || n == 0x1680 ||
    (0x2000 ≤ n && n ≤ 0x200A) || n == 0x2028 || n == 0x2029 || n == 0x202F || n == 0x205F ||
    n == 0x3000

/-- The characters after the leading blanks. -/
def dropBlanks (cs : List Char) : List Char := cs.dropWhile isBlank

/-- The text without the blanks at both ends. -/
def trim (s : String) : String :=
  String.ofList (dropBlanks (dropBlanks s.toList).reverse).reverse

/-- The first word of a text, empty if there is none. -/
def firstWord (s : String) : String :=
  String.ofList ((dropBlanks s.toList).takeWhile fun c => !isBlank c)

/-- The text begins with the character. -/
def beginsWith (s : String) (c : Char) : Bool := s.toList.head? == some c

/-- The text ends with the character. -/
def endsWith (s : String) (c : Char) : Bool := s.toList.getLast? == some c

/-- The text up to the first line end. A return right before the line feed belongs to the line
end. A text without characters has no line. -/
def firstLine? (s : String) : Option String :=
  match s.toList with
  | [] => none
  | cs =>
    let line := cs.takeWhile (· ≠ '\n')
    if line.length < cs.length ∧ line.getLast? = some '\r' then some (String.ofList line.dropLast)
    else some (String.ofList line)

/-- The text with spaces added after it up to the given number of characters. -/
def padRight (s : String) (width : Nat) : String :=
  s ++ String.ofList (List.replicate (width - s.length) ' ')

end ChatShell.Text
