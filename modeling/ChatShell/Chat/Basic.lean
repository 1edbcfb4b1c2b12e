-- The chat a message is run in: it lists attachments, fetches one by its handle,
-- takes one reply with files, and has a limit on the length of a reply. What a
-- chat remembers is a state that fetching and sending may change.
import ChatShell.NameMap
import ChatShell.Text.Quoted
import ChatShell.Text.Utf8

namespace ChatShell

/-- A file made by a message. -/
structure File where
  name : String
  content : Text.Bytes
  deriving DecidableEq

/-- A file on one line. More than 1000 bytes of content are given by their number. -/
def File.render (f : File) : String :=
  let shown :=
    if f.content.length > 1000 then toString f.content.length ++ "B"
    else "content=" ++ Text.quoted (Text.decode f.content)
  "<filename=" ++ Text.quoted f.name ++ ", " ++ shown ++ ">"

/-- What is sent in answer to a message. -/
structure Reply where
  content : Option String
  files : List File := []
  deriving DecidableEq

/-- What a chat knows an attachment by. -/
abbrev Handle := String

/-- Why a chat did not do what was asked, and what lies behind that, if it is known. -/
structure TransportFault where
  text : String
  cause : Option String := none
  deriving DecidableEq

/-- A chat with a state of type `σ`. -/
structure Chat (σ : Type) where
  /-- The attachments and their handles. -/
  attachments : σ → NameMap Handle
  /-- The content behind a handle. -/
  fetch : Handle → σ → Except TransportFault Text.Bytes × σ
  /-- Sends a reply. -/
  send : Reply → σ → Except TransportFault Unit × σ
  /-- The most characters a reply may have. -/
  limit : σ → Nat

/-- The limit of a chat that sets no other. -/
def defaultLimit : Nat := 2000

end ChatShell
