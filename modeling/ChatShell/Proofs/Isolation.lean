-- Messages in one chat do not see each other, and each sends one reply or nothing.
-- What a chat in memory has noted of earlier messages stands before what it notes
-- of later ones, and no answer depends on it.
import ChatShell.Proofs.Chats

namespace ChatShell

open Message (Instr)

/-! ## Chats that pass on to a mailbox -/

/-- How a chat passes on to a mailbox: what it makes of the listing and of the limit, and how it
fails. A failure is not noted. -/
structure Relay where
  attachments : NameMap Handle → NameMap Handle := id
  limit : Nat → Nat := id
  /-- Sending always fails so. -/
  sending : Option TransportFault := none
  /-- Fetching a handle fails so. -/
  fetching : Handle → Option TransportFault := fun _ => none

/-- The chat on a mailbox. -/
def Relay.chat (w : Relay) : Chat Mailbox where
  attachments m := w.attachments m.handles
  fetch handle m :=
    match w.fetching handle with
    | some f => (.error f, m)
    | none => m.fetch handle
  send reply m :=
    match w.sending with
    | some f => (.error f, m)
    | none => (.ok (), m.send reply)
  limit m := w.limit m.limit

theorem Relay.chat_default : Relay.chat {} = Mailbox.chat := rfl

theorem Relay.chat_failing (f : Faults) :
    Relay.chat
      { attachments := fun hs => f.fetching.names.foldl (fun hs name => hs.insert name name) hs
        limit := fun _ => defaultLimit
        sending := f.sending.map fun text => { text }
        fetching := fun handle => (f.fetching.get? handle).map fun text => { text } } =
      Mailbox.failing f := by
  unfold Relay.chat Mailbox.failing
  congr 1
  · funext handle m
    dsimp only
    cases f.fetching.get? handle <;> rfl
  · funext reply m
    dsimp only
    cases f.sending <;> rfl

namespace Mailbox

/-- The mailbox before anything was noted in it. -/
def fresh (m : Mailbox) : Mailbox := { m with sent := [], fetched := [] }

/-- The mailbox with the notes of `before` ahead of its own. -/
def after (before m : Mailbox) : Mailbox :=
  { m with sent := before.sent ++ m.sent, fetched := before.fetched ++ m.fetched }

theorem after_fresh (m : Mailbox) : m.after m.fresh = m := by
  simp [after, fresh]

end Mailbox

namespace Relay

variable (w : Relay)

/-- No answer depends on what was noted before. -/
theorem alike_after (before : Mailbox) : w.chat.Alike w.chat fun m k => k = before.after m := by
  rintro q m _ rfl
  cases q with
  | attachments | limit => exact ⟨rfl, rfl⟩
  | fetch handle =>
    simp only [Chat.answer, chat]
    cases w.fetching handle with
    | some f => exact ⟨rfl, rfl⟩
    | none =>
      simp only [Mailbox.fetch, show (before.after m).attachments = m.attachments from rfl]
      cases m.attachments.get? handle with
      | none => exact ⟨rfl, rfl⟩
      | some content => exact ⟨rfl, by simp [Mailbox.after]⟩
  | send reply =>
    simp only [Chat.answer, chat]
    cases w.sending with
    | some f => exact ⟨rfl, rfl⟩
    | none => exact ⟨rfl, by simp [Mailbox.after, Mailbox.send]⟩

/-- No answer changes anything but the notes. -/
theorem fresh_answer (q : Request) (m : Mailbox) : (w.chat.answer m q).2.fresh = m.fresh := by
  cases q with
  | attachments | limit => rfl
  | fetch handle =>
    simp only [Chat.answer, chat]
    cases w.fetching handle with
    | some f => rfl
    | none =>
      simp only [Mailbox.fetch]
      cases m.attachments.get? handle <;> rfl
  | send reply =>
    simp only [Chat.answer, chat]
    cases w.sending <;> rfl

/-- Only a request to send notes a reply. -/
theorem sent_answer {q : Request} (hq : ¬q.IsSend) (m : Mailbox) :
    (w.chat.answer m q).2.sent = m.sent := by
  cases q with
  | attachments | limit => rfl
  | fetch handle =>
    simp only [Chat.answer, chat]
    cases w.fetching handle with
    | some f => rfl
    | none =>
      simp only [Mailbox.fetch]
      cases m.attachments.get? handle <;> rfl
  | send reply => exact absurd trivial hq

end Relay

/-! ## One message -/

variable {sh : Shell}

/-- What a message has sent when it has ended: one reply with text, or nothing. -/
theorem Shell.execute_sends (hs : sh.registry.Avoids Request.IsSend) (w : Relay) (m : Mailbox)
    (source : String) :
    ((sh.execute w.chat m source).2 = .ok () ∧
        ∃ text files, (sh.execute w.chat m source).1.sent = m.sent ++ [⟨some text, files⟩]) ∨
      (∃ e, (sh.execute w.chat m source).2 = .error e) ∧
        (sh.execute w.chat m source).1.sent = m.sent := by
  unfold execute
  cases sh.compile source with
  | error e => exact Or.inr ⟨⟨_, rfl⟩, rfl⟩
  | ok is =>
    have hkept : (Run.chatOf (Run.steps sh.registry w.chat { chat := m } is)).sent = m.sent :=
      Run.steps_keeps (P := fun k => k.sent = m.sent) hs
        (fun q k hq hk => (w.sent_answer hq k).trans hk) (fun _ => not_false) rfl is
    dsimp only
    unfold interpret
    cases hr : Run.steps sh.registry w.chat { chat := m } is with
    | error a =>
      rw [hr] at hkept
      exact Or.inr ⟨⟨_, rfl⟩, hkept⟩
    | ok r =>
      have hsent : r.chat.sent = m.sent := by
        rw [hr] at hkept
        exact hkept
      simp only [Run.deliver, Relay.chat]
      cases w.sending with
      | some f => exact Or.inr ⟨⟨_, rfl⟩, hsent⟩
      | none =>
        refine Or.inl ⟨rfl, sh.config.render (w.limit r.chat.limit) r.out, r.files, ?_⟩
        rw [← hsent]
        rfl

/-- A message ends as it does in the fresh mailbox, and what it sends there stands after what was
sent before. -/
theorem Shell.execute_fresh (sh : Shell) (w : Relay) (m : Mailbox) (source : String) :
    (sh.execute w.chat m source).2 = (sh.execute w.chat m.fresh source).2 ∧
      (sh.execute w.chat m source).1.sent =
        m.sent ++ (sh.execute w.chat m.fresh source).1.sent := by
  obtain ⟨hended, hleft⟩ :=
    sh.execute_alike (w.alike_after m) (s := m.fresh) m.after_fresh.symm source
  rw [← hended, hleft]
  exact ⟨rfl, rfl⟩

theorem Shell.fresh_execute (sh : Shell) (w : Relay) (m : Mailbox) (source : String) :
    (sh.execute w.chat m source).1.fresh = m.fresh :=
  sh.execute_keeps (P := fun k => k.fresh = m.fresh)
    (fun q k hk => (w.fresh_answer q k).trans hk) rfl source

/-! ## The law -/

/-- Messages in one chat end as each of them ends alone in a fresh one, and the replies in the end
are those that each of them sends alone: one if it ends well, and none if it ends with an error. -/
theorem messages_in_one_chat_do_not_see_each_other (sh : Shell)
    (hs : sh.registry.Avoids Request.IsSend) (w : Relay) (m : Mailbox) (sources : List String) :
    let alone := fun source => sh.execute w.chat m.fresh source
    (sh.trace w.chat m sources).map Prod.snd = sources.map (fun source => (alone source).2) ∧
      (sh.chatAfter w.chat m sources).sent =
        m.sent ++ sources.flatMap (fun source => (alone source).1.sent) ∧
      ∀ source,
        ((alone source).2 = .ok () ∧
            ∃ text files, (alone source).1.sent = [⟨some text, files⟩]) ∨
          (∃ e, (alone source).2 = .error e) ∧ (alone source).1.sent = [] := by
  refine ⟨?_, ?_, fun source => Shell.execute_sends hs w m.fresh source⟩
  · induction sources generalizing m with
    | nil => rfl
    | cons source rest ih =>
      have hnext := ih (sh.execute w.chat m source).1
      rw [sh.fresh_execute w m source] at hnext
      rw [Shell.trace, List.map_cons, List.map_cons, hnext, (sh.execute_fresh w m source).1]
  · induction sources generalizing m with
    | nil => simp
    | cons source rest ih =>
      have hnext := ih (sh.execute w.chat m source).1
      rw [sh.fresh_execute w m source] at hnext
      rw [Shell.chatAfter_cons, hnext, (sh.execute_fresh w m source).2, List.flatMap_cons,
        List.append_assoc]

/-- Four messages in a chat that cannot fetch `f`: the second fails at its last stage, the third
when it fetches, and the fourth goes on as if they had not been. -/
theorem two_of_four_messages_reply :
    let w : Relay :=
      { fetching := fun handle => if handle = "f" then some { text := "gone" } else none }
    let m : Mailbox := { attachments := .ofList [("f", [])] }
    let sources := ["echo a > x", "echo b | echo | nope", "echo < f", "echo d"]
    (Shell.trace {} w.chat m sources).map Prod.snd =
        [.ok (), .error (.command (.notFound "nope")), .error (.transport { text := "gone" }),
          .ok ()] ∧
      (Shell.chatAfter {} w.chat m sources).sent =
        [⟨some "** **", [⟨"x", Text.encode "a"⟩]⟩, ⟨some "d", []⟩] := by
  intro w m sources
  obtain ⟨hresults, hsent, _⟩ :=
    messages_in_one_chat_do_not_see_each_other {} (Registry.builtin_avoids _) w m sources
  rw [hresults, hsent]
  exact ⟨rfl, by decide +kernel⟩

end ChatShell
