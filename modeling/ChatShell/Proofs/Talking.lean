-- Laws of talks with a chat. What holds at every end of a talk holds of its
-- result. What the answers leave as it is, the whole talk leaves as it is. A talk
-- cannot tell two chats apart that answer alike.
import ChatShell.Command.Registry
import Mathlib.Tactic.SplitIfs

namespace ChatShell

variable {α σ τ : Type} {c : Chat σ} {d : Chat τ}

/-! ## Whatever the chat answers -/

namespace Dialogue

/-- Whatever the chat answers, the talk ends with a result of which `P` holds. -/
def Ends (P : α → Prop) : Dialogue α → Prop
  | .done result => P result
  | .ask _ next => ∀ answer, (next answer).Ends P

theorem Ends.run {P : α → Prop} {t : Dialogue α} (h : t.Ends P) (c : Chat σ) (chat : σ) :
    P (t.run c chat).1 := by
  induction t generalizing chat with
  | done result => exact h
  | ask q next ih => exact ih _ (h _) _

/-- Whatever the chat answers, the talk makes no request of which `bad` holds. -/
def Avoids (bad : Request → Prop) : Dialogue α → Prop
  | .done _ => True
  | .ask q next => ¬bad q ∧ ∀ answer, (next answer).Avoids bad

theorem avoids_nothing (t : Dialogue α) : t.Avoids fun _ => False := by
  induction t with
  | done result => trivial
  | ask q next ih => exact ⟨not_false, ih⟩

/-- What the answers to all other requests leave as it is, the talk leaves as it is. -/
theorem Avoids.keeps {bad : Request → Prop} {P : σ → Prop} {t : Dialogue α} (ht : t.Avoids bad)
    (h : ∀ q s, ¬bad q → P s → P (c.answer s q).2) {chat : σ} (hp : P chat) :
    P (t.run c chat).2 := by
  induction t generalizing chat with
  | done result => exact hp
  | ask q next ih => exact ih _ (ht.2 _) (h q chat ht.1 hp)

end Dialogue

def Request.IsSend : Request → Prop
  | .send _ => True
  | _ => False

def Request.IsFetch : Request → Prop
  | .fetch _ => True
  | _ => False

/-- No handler makes a request of which `bad` holds. -/
def Registry.Avoids (g : Registry) (bad : Request → Prop) : Prop :=
  ∀ name command, g.get? name = some command →
    ∀ args input out, (command.handler.run args input out).Avoids bad

theorem Registry.avoids_nothing (g : Registry) : g.Avoids fun _ => False :=
  fun _ _ _ _ _ _ => Dialogue.avoids_nothing _

/-- A command leaves the answer to its handler, or answers by itself, and then without an error. -/
theorem Command.dialogue_cases (command : Command) (raw : List String) (input : Option Output)
    (out : Output) :
    (∃ args, command.dialogue raw input out = command.handler.run args input out) ∨
      ∃ after, command.dialogue raw input out = .done (after, none) := by
  unfold dialogue
  cases command.spec with
  | none => exact Or.inl ⟨_, rfl⟩
  | some spec =>
    dsimp only
    cases spec.parse raw with
    | parsed m => exact Or.inl ⟨_, rfl⟩
    | failed message => exact Or.inr ⟨_, rfl⟩
    | help text | version text => exact Or.inr ⟨_, rfl⟩

theorem Registry.Avoids.dialogue {g : Registry} {bad : Request → Prop} (hg : g.Avoids bad)
    {name : String} {command : Command} (hget : g.get? name = some command) (raw : List String)
    (input : Option Output) (out : Output) : (command.dialogue raw input out).Avoids bad := by
  rcases command.dialogue_cases raw input out with ⟨args, h⟩ | ⟨after, h⟩
  · rw [h]
    exact hg name command hget args input out
  · rw [h]
    trivial

theorem Registry.handler_of_builtin {name : String} {command : Command}
    (h : Registry.builtin.get? name = some command) :
    command.handler = echo ∨ command.handler = cb := by
  rw [get?_builtin] at h
  split_ifs at h
  · cases h
    exact Or.inr rfl
  · cases h
    exact Or.inl rfl

/-- The commands that are always there ask nothing. -/
theorem Registry.builtin_avoids (bad : Request → Prop) : Registry.builtin.Avoids bad := by
  intro name command hget args input out
  rcases handler_of_builtin hget with h | h
  · rw [h]
    cases input <;> trivial
  · rw [h]
    trivial

/-! ## Chats that answer alike -/

/-- In related states the chats give the same answer, and stay related. -/
def Chat.Alike (c : Chat σ) (d : Chat τ) (R : σ → τ → Prop) : Prop :=
  ∀ q s t, R s t → (c.answer s q).1 = (d.answer t q).1 ∧ R (c.answer s q).2 (d.answer t q).2

namespace Chat.Alike

variable {R : σ → τ → Prop} {s : σ} {t : τ}

theorem attachments (h : c.Alike d R) (hs : R s t) : c.attachments s = d.attachments t :=
  (h .attachments s t hs).1

theorem limit (h : c.Alike d R) (hs : R s t) : c.limit s = d.limit t :=
  (h .limit s t hs).1

theorem fetch (h : c.Alike d R) (hs : R s t) (handle : Handle) :
    (c.fetch handle s).1 = (d.fetch handle t).1 ∧ R (c.fetch handle s).2 (d.fetch handle t).2 :=
  h (.fetch handle) s t hs

theorem send (h : c.Alike d R) (hs : R s t) (reply : Reply) :
    (c.send reply s).1 = (d.send reply t).1 ∧ R (c.send reply s).2 (d.send reply t).2 :=
  h (.send reply) s t hs

theorem run (h : c.Alike d R) (hs : R s t) (talk : Dialogue α) :
    (talk.run c s).1 = (talk.run d t).1 ∧ R (talk.run c s).2 (talk.run d t).2 := by
  induction talk generalizing s t with
  | done result => exact ⟨rfl, hs⟩
  | ask q next ih =>
    obtain ⟨hsame, hnext⟩ := h q s t hs
    unfold Dialogue.run
    rw [hsame]
    exact ih _ hnext

end Chat.Alike

end ChatShell
