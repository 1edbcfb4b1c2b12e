-- How a handler talks to the chat that its message is run in. It ends with a
-- result, or asks the chat something and goes on with the answer. It may ask what
-- a run itself asks: for the attachments, for the limit, for the content behind a
-- handle, and to send a reply.
import ChatShell.Chat.Basic

namespace ChatShell

/-- What can be asked of a chat. -/
inductive Request where
  | attachments
  | limit
  | fetch (handle : Handle)
  | send (reply : Reply)

/-- The answers to a request. -/
def Request.Answer : Request → Type
  | .attachments => NameMap Handle
  | .limit => Nat
  | .fetch _ => Except TransportFault Text.Bytes
  | .send _ => Except TransportFault Unit

/-- What a chat answers, and the state it is in then. -/
def Chat.answer {σ : Type} (c : Chat σ) (chat : σ) : (q : Request) → q.Answer × σ
  | .attachments => (c.attachments chat, chat)
  | .limit => (c.limit chat, chat)
  | .fetch handle => c.fetch handle chat
  | .send reply => c.send reply chat

/-- A talk with a chat that ends with a result. -/
inductive Dialogue (α : Type) where
  | done (result : α)
  | ask (q : Request) (next : q.Answer → Dialogue α)

/-- Holds the talk with a chat: the result, and the state the chat is left in. -/
def Dialogue.run {α σ : Type} (c : Chat σ) : Dialogue α → σ → α × σ
  | .done result, chat => (result, chat)
  | .ask q next, chat => (next (c.answer chat q).1).run c (c.answer chat q).2

@[simp]
theorem Dialogue.run_done {α σ : Type} (c : Chat σ) (result : α) (chat : σ) :
    (Dialogue.done result).run c chat = (result, chat) := rfl

end ChatShell
