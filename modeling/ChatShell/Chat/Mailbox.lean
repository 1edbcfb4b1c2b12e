-- A chat kept in memory: it holds its attachments and notes every reply and
-- every fetch. It can also be made to fail, when sending or when fetching some of
-- its attachments; a failure is not noted.
import ChatShell.Chat.Basic

namespace ChatShell

/-- A chat in memory. -/
structure Mailbox where
  attachments : NameMap Text.Bytes := .empty
  limit : Nat := defaultLimit
  /-- The replies so far. -/
  sent : List Reply := []
  /-- The handles fetched so far. -/
  fetched : List Handle := []

/-- The name such a chat goes by. -/
def Mailbox.client : String := "memory"

/-- How a chat in memory fails. -/
structure Faults where
  /-- Sending always fails with this text. -/
  sending : Option String := none
  /-- Fetching one of these fails with its text. They are listed as attachments too. -/
  fetching : NameMap String := .empty

namespace Mailbox

/-- Notes a reply. -/
def send (m : Mailbox) (r : Reply) : Mailbox := { m with sent := m.sent ++ [r] }

/-- The last reply. -/
def last? (m : Mailbox) : Option Reply := m.sent.getLast?

/-- Each attachment is its own handle. -/
def handles (m : Mailbox) : NameMap Handle := m.attachments.mapWithName fun name _ => name

/-- The attachments as a list of `name=handle`, in the order of these texts. -/
def listing (m : Mailbox) : List String :=
  (m.handles.entries.map fun e => e.1 ++ "=" ++ e.2).mergeSort fun s t => !decide (t < s)

/-- The content behind a handle. Only a fetch that succeeds is noted. -/
def fetch (m : Mailbox) (h : Handle) : Except TransportFault Text.Bytes × Mailbox :=
  match m.attachments.get? h with
  | none => (.error { text := "no attachment behind handle " ++ h }, m)
  | some content => (.ok content, { m with fetched := m.fetched ++ [h] })

/-- How often an attachment was fetched. -/
def fetchCount (m : Mailbox) (name : String) : Nat := m.fetched.count name

theorem get?_handles (m : Mailbox) (name : String) :
    m.handles.get? name = (m.attachments.get? name).map fun _ => name :=
  NameMap.get?_mapWithName _ _ _

/-- The chat that never fails. -/
def chat : Chat Mailbox where
  attachments := handles
  fetch h m := m.fetch h
  send r m := (.ok (), m.send r)
  limit m := m.limit

/-- The chat that fails as told. Its limit is the default one. -/
def failing (f : Faults) : Chat Mailbox where
  attachments m := f.fetching.names.foldl (fun hs name => hs.insert name name) m.handles
  fetch h m :=
    match f.fetching.get? h with
    | some text => (.error { text }, m)
    | none => m.fetch h
  send r m :=
    match f.sending with
    | some text => (.error { text }, m)
    | none => (.ok (), m.send r)
  limit _ := defaultLimit

end Mailbox

end ChatShell
