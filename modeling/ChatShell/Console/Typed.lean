-- A line as it was typed: a backspace takes back the cluster before it.
import ChatShell.Text.Cluster
import ChatShell.Text.Utf8

namespace ChatShell.Console

/-- The backspace. -/
def backspace : Char := Char.ofNat 0x8

/-- The number of bytes of some characters. -/
def byteCount (cs : List Char) : Nat := (cs.flatMap Text.encodeChar).length

/-- The characters without the last so many bytes. The last character is the first of the
list. -/
def dropBytes : Nat → List Char → List Char
  | 0, cs => cs
  | _, [] => []
  | n, c :: cs => dropBytes (n - (Text.encodeChar c).length) cs

/-- A line in the typing. -/
structure Typing where
  /-- The characters so far, the last one first. -/
  chars : List Char := []
  /-- The sizes of the clusters that can be taken back, the last one first. -/
  sizes : List Nat := []

/-- Takes one cluster. A size is kept in one byte. -/
def Typing.step (t : Typing) (cluster : List Char) : Typing :=
  if cluster = [backspace] then
    match t.sizes with
    | [] => t
    | size :: sizes => ⟨dropBytes size t.chars, sizes⟩
  else ⟨cluster.reverse ++ t.chars, byteCount cluster % 256 :: t.sizes⟩

/-- What remains of a line. -/
def typed (s : String) : String :=
  String.ofList ((Text.clusters s).foldl Typing.step {}).chars.reverse

/-- The line without its end: a line feed, and a return before it. -/
def withoutLineEnd (s : String) : String :=
  match s.toList.reverse with
  | '\n' :: '\r' :: cs => String.ofList cs.reverse
  | '\n' :: cs => String.ofList cs.reverse
  | _ => s

end ChatShell.Console
