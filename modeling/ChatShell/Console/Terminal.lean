-- A terminal in the place of a chat: attachments are files on the disk, and a
-- reply is kept as the lines that will be printed for it.
import ChatShell.Chat.Basic
import ChatShell.Console.Disk

namespace ChatShell.Console

/-- A terminal that stands in for a chat. -/
structure Terminal where
  /-- The paths of the attachments. -/
  attachments : NameMap String := .empty
  limit : Nat := defaultLimit
  colour : Bool := false
  /-- The replies that are not printed yet. -/
  outbox : List String := []

/-- Colours are for terminals that were not told otherwise. -/
def useColour (refused isTerminal : Bool) : Bool := !refused && isTerminal

/-- A text between two control sequences. -/
def sequence (before text after : String) : String := "\x1b[" ++ before ++ text ++ "\x1b[" ++ after

namespace Terminal

/-- The mark in front of what is sent. -/
def tag (t : Terminal) : String :=
  if t.colour then sequence "1m" (sequence "32m" "[send]" "39m") "0m" else "[send]"

/-- A file as it is printed. -/
def summary (t : Terminal) (f : File) : String :=
  if t.colour then sequence "36m" f.render "39m" else f.render

/-- The lines that are printed for a reply. -/
def render (t : Terminal) (r : Reply) : String :=
  "\n".intercalate ((r.content.toList ++ r.files.map t.summary).map fun s => t.tag ++ " " ++ s)

/-- The chat of a terminal. A handle is the path of the file. -/
def chat (disk : Disk) : Chat Terminal where
  attachments t := t.attachments
  fetch path t :=
    match disk path with
    | .ok content => (.ok content, t)
    | .error fault =>
      (.error { text := "reading attachment " ++ path, cause := some fault.message }, t)
  send r t := (.ok (), { t with outbox := t.outbox ++ [t.render r] })
  limit t := t.limit

end Terminal

end ChatShell.Console
