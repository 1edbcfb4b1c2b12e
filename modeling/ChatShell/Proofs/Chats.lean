-- What a run learns of its chat, and what it does to it. A run learns nothing but
-- answers, so in two chats that answer alike a message ends alike. It does nothing
-- but ask, so what no answer changes is as it was when the message has ended.
import ChatShell.Proofs.Running
import ChatShell.Proofs.Talking

namespace ChatShell

open Message (Instr Kind)

variable {σ τ : Type} {g : Registry} {c : Chat σ} {d : Chat τ} {r s : Run σ} {i : Instr}

/-! ## The part of a message that is run -/

/-- The instructions that a run takes before it ends. -/
def Run.done (g : Registry) (c : Chat σ) (r : Run σ) : List Instr → List Instr
  | [] => []
  | i :: rest =>
    match r.step g c i with
    | .ok s => i :: s.done g c rest
    | .error _ => []

/-- A run comes to its end, or it ends at the first instruction that it cannot take. -/
theorem Run.steps_cases (g : Registry) (c : Chat σ) (r : Run σ) (is : List Instr) :
    ∃ last, r.steps g c (r.done g c is) = .ok last ∧
      (r.steps g c is = .ok last ∨
        ∃ i a, last.step g c i = .error a ∧ r.steps g c is = .error a) := by
  induction is generalizing r with
  | nil => exact ⟨r, rfl, Or.inl rfl⟩
  | cons i rest ih =>
    unfold done
    cases hi : r.step g c i with
    | error a =>
      refine ⟨r, rfl, Or.inr ⟨i, a, hi, ?_⟩⟩
      unfold steps
      rw [List.foldlM_cons, hi]
      rfl
    | ok s =>
      obtain ⟨last, hdone, hend⟩ := ih s
      refine ⟨last, ?_, ?_⟩
      · unfold steps at hdone ⊢
        rw [List.foldlM_cons, hi]
        exact hdone
      · unfold steps at hend ⊢
        rw [List.foldlM_cons, hi]
        exact hend

/-! ## What no answer changes -/

/-- The state of the chat where a run stands or has ended. -/
def Run.chatOf : Except (Abort σ) (Run σ) → σ
  | .ok r => r.chat
  | .error a => a.chat

section Keeps

variable {bad : Request → Prop} {P : σ → Prop}

theorem Run.attach_keeps (h : ∀ handle s, P s → P (c.fetch handle s).2) (hp : P r.chat)
    (name : String) : P (chatOf (r.attach c name)) := by
  unfold attach
  cases (c.attachments r.chat).get? name with
  | none => exact hp
  | some handle =>
    cases r.cache.lookup name with
    | some content => exact hp
    | none =>
      have hf := h handle r.chat hp
      rcases hx : c.fetch handle r.chat with ⟨_ | content, chat⟩
      · simpa [hx, chatOf] using hf
      · simpa [hx, chatOf, bind] using hf

theorem Run.call_keeps (hg : g.Avoids bad) (h : ∀ q s, ¬bad q → P s → P (c.answer s q).2)
    (hp : P r.chat) (name : String) (args : List String) (input : Option Output) :
    P (chatOf (r.call g c name args input)) := by
  unfold call
  cases hget : g.get? name with
  | none => exact hp
  | some command =>
    have ht := (hg.dialogue hget args input r.out).keeps h hp
    rcases hx : (command.dialogue args input r.out).run c r.chat with ⟨⟨out, _ | e⟩, chat⟩
    · simpa [hx, chatOf] using ht
    · simpa [hx, chatOf] using ht

/-- An instruction leaves as it is what all the requests leave that it can make: those of the
handlers, and to fetch if it is an attachment. -/
theorem Run.step_keeps (hg : g.Avoids bad) (h : ∀ q s, ¬bad q → P s → P (c.answer s q).2)
    (hf : i.kind = .attach → ∀ handle, ¬bad (.fetch handle)) (hp : P r.chat) :
    P (chatOf (r.step g c i)) := by
  obtain ⟨kind, args⟩ := i
  unfold step
  cases args with
  | nil => exact hp
  | cons name rest =>
    cases kind with
    | attach => exact attach_keeps (fun handle s => h (.fetch handle) s (hf rfl handle)) hp name
    | save | saveOut | saveErr => exact hp
    | pipe => exact call_keeps (r := { r with out := {} }) hg h hp name rest _
    | eval => exact call_keeps (r := { r with out := r.out.drop .out }) hg h hp name rest _

theorem Run.steps_keeps (hg : g.Avoids bad) (h : ∀ q s, ¬bad q → P s → P (c.answer s q).2)
    (hf : ∀ handle, ¬bad (.fetch handle)) (hp : P r.chat) (is : List Instr) :
    P (chatOf (r.steps g c is)) := by
  induction is generalizing r with
  | nil => exact hp
  | cons i rest ih =>
    have hstep := step_keeps (i := i) hg h (fun _ => hf) hp
    unfold steps
    rw [List.foldlM_cons]
    cases hi : r.step g c i with
    | error a =>
      rw [hi] at hstep
      exact hstep
    | ok s =>
      rw [hi] at hstep
      exact ih hstep

end Keeps

theorem Run.deliver_fst (style : ReplyStyle) (c : Chat σ) (r : Run σ) :
    (r.deliver style c).1 =
      (c.send ⟨some (style.render (c.limit r.chat) r.out), r.files⟩ r.chat).2 := by
  unfold deliver
  dsimp only
  split <;> simp_all

/-- What no answer changes is as it was when the message has ended. -/
theorem Shell.execute_keeps {P : σ → Prop} (h : ∀ q s, P s → P (c.answer s q).2) (sh : Shell)
    {chat : σ} (hp : P chat) (source : String) : P (sh.execute c chat source).1 := by
  unfold execute
  cases sh.compile source with
  | error e => exact hp
  | ok is =>
    have hsteps : P (Run.chatOf (Run.steps sh.registry c { chat } is)) :=
      Run.steps_keeps sh.registry.avoids_nothing (fun q s _ => h q s) (fun _ => not_false) hp is
    dsimp only
    unfold interpret
    cases hr : Run.steps sh.registry c { chat } is with
    | error a =>
      rw [hr] at hsteps
      exact hsteps
    | ok r =>
      rw [hr] at hsteps
      dsimp only
      rw [Run.deliver_fst]
      exact h (.send _) r.chat hsteps

/-! ## In a chat that answers alike -/

structure Abort.Alike (R : σ → τ → Prop) (a : Abort σ) (b : Abort τ) : Prop where
  chat : R a.chat b.chat
  error : a.error = b.error

/-- The two runs stand alike. `K` relates what they have kept of the attachments. -/
structure Run.Alike (R : σ → τ → Prop) (K : List (String × Text.Bytes) →
    List (String × Text.Bytes) → Prop) (r : Run σ) (p : Run τ) : Prop where
  chat : R r.chat p.chat
  out : r.out = p.out
  bound : r.bound = p.bound
  cache : K r.cache p.cache
  files : r.files = p.files

/-- How a run ends, from where its instructions have left it. -/
def Run.ended (style : ReplyStyle) (c : Chat σ) : Except (Abort σ) (Run σ) → Ended σ
  | .ok r => r.deliver style c
  | .error a => (a.chat, .error a.error)

theorem interpret_eq_ended (g : Registry) (style : ReplyStyle) (c : Chat σ) (chat : σ)
    (is : List Instr) :
    interpret g style c chat is = Run.ended style c (Run.steps g c { chat } is) := rfl

section Alike

variable {R : σ → τ → Prop}
  {K : List (String × Text.Bytes) → List (String × Text.Bytes) → Prop} {p : Run τ}

namespace Run.Alike

theorem start {s : σ} {t : τ} (hs : R s t) (hk : K [] []) :
    Run.Alike R K { chat := s } { chat := t } :=
  ⟨hs, rfl, rfl, hk, rfl⟩

theorem input (hr : r.Alike R K p) (kind : Kind) : r.input kind = p.input kind := by
  unfold Run.input
  rw [hr.bound, hr.out]

theorem save (hr : r.Alike R K p) (name : String) (taken : Text.Bytes × Output) :
    (r.save name taken).Alike R K (p.save name taken) :=
  ⟨hr.chat, rfl, hr.bound, hr.cache, congrArg (· ++ [_]) hr.files⟩

theorem call (h : c.Alike d R) (hr : r.Alike R K p) (name : String) (args : List String)
    (input : Option Output) :
    InStep (Abort.Alike R) (Run.Alike R K) (r.call g c name args input)
      (p.call g d name args input) := by
  unfold Run.call
  cases g.get? name with
  | none => exact .error ⟨hr.chat, rfl⟩
  | some command =>
    obtain ⟨hsame, hnext⟩ := h.run hr.chat (command.dialogue args input r.out)
    dsimp only
    rw [← hr.out]
    rcases hx : (command.dialogue args input r.out).run c r.chat with ⟨ran, chat⟩
    rcases hy : (command.dialogue args input r.out).run d p.chat with ⟨ran', chat'⟩
    rw [hx, hy] at hsame hnext
    subst hsame
    rcases ran with ⟨out, _ | e⟩
    · exact .ok ⟨hnext, rfl, rfl, hr.cache, hr.files⟩
    · exact .error ⟨hnext, rfl⟩

theorem attach (h : c.Alike d R) (hr : r.Alike R Eq p) (name : String) :
    InStep (Abort.Alike R) (Run.Alike R Eq) (r.attach c name) (p.attach d name) := by
  unfold Run.attach
  rw [h.attachments hr.chat]
  cases (d.attachments p.chat).get? name with
  | none => exact .error ⟨hr.chat, rfl⟩
  | some handle =>
    obtain ⟨hsame, hnext⟩ := h.fetch hr.chat handle
    dsimp only
    rw [hr.cache]
    cases p.cache.lookup name with
    | some content => exact .ok ⟨hr.chat, hr.out, rfl, hr.cache, hr.files⟩
    | none =>
      rcases hx : c.fetch handle r.chat with ⟨o, chat⟩
      rcases hy : d.fetch handle p.chat with ⟨o', chat'⟩
      rw [hx, hy] at hsame hnext
      subst hsame
      rcases o with f | content
      · exact .error ⟨hnext, rfl⟩
      · exact .ok ⟨hnext, hr.out, rfl, rfl, hr.files⟩

/-- What has been kept of the attachments shows in no other instruction. -/
theorem step_of_ne (h : c.Alike d R) (hr : r.Alike R K p) (hk : i.kind ≠ .attach) :
    InStep (Abort.Alike R) (Run.Alike R K) (r.step g c i) (p.step g d i) := by
  obtain ⟨kind, args⟩ := i
  unfold Run.step
  cases args with
  | nil => exact .error ⟨hr.chat, rfl⟩
  | cons name rest =>
    cases kind with
    | attach => exact absurd rfl hk
    | save | saveOut | saveErr =>
      dsimp only
      rw [hr.out]
      exact .ok (hr.save name _)
    | pipe =>
      have hcall : Run.Alike R K { r with out := {} } { p with out := {} } :=
        ⟨hr.chat, rfl, hr.bound, hr.cache, hr.files⟩
      dsimp only
      rw [hr.input]
      exact hcall.call h name rest _
    | eval =>
      have hcall : Run.Alike R K { r with out := r.out.drop .out }
          { p with out := p.out.drop .out } :=
        ⟨hr.chat, congrArg (·.drop .out) hr.out, hr.bound, hr.cache, hr.files⟩
      dsimp only
      rw [hr.input]
      exact hcall.call h name rest _

theorem step (h : c.Alike d R) (hr : r.Alike R Eq p) (i : Instr) :
    InStep (Abort.Alike R) (Run.Alike R Eq) (r.step g c i) (p.step g d i) := by
  by_cases hk : i.kind = .attach
  · obtain ⟨kind, args⟩ := i
    subst hk
    cases args with
    | nil => exact .error ⟨hr.chat, rfl⟩
    | cons name rest => exact hr.attach h name
  · exact hr.step_of_ne h hk

theorem steps (h : c.Alike d R) (hr : r.Alike R Eq p) (is : List Instr) :
    InStep (Abort.Alike R) (Run.Alike R Eq) (r.steps g c is) (p.steps g d is) :=
  foldlM_inStep (P := fun _ => True) (fun _ _ _ _ _ => trivial)
    (fun _ _ i _ hr => hr.step h i) is trivial hr

theorem done (h : c.Alike d R) (hr : r.Alike R Eq p) (is : List Instr) :
    r.done g c is = p.done g d is := by
  induction is generalizing r p with
  | nil => rfl
  | cons i rest ih =>
    have hi := hr.step (g := g) h i
    unfold Run.done
    generalize r.step g c i = x at hi ⊢
    generalize p.step g d i = y at hi ⊢
    cases hi with
    | error _ => rfl
    | ok hnext => exact congrArg (i :: ·) (ih hnext)

theorem deliver (h : c.Alike d R) (hr : r.Alike R K p) (style : ReplyStyle) :
    (r.deliver style c).2 = (p.deliver style d).2 ∧
      R (r.deliver style c).1 (p.deliver style d).1 := by
  unfold Run.deliver
  dsimp only
  rw [h.limit hr.chat, hr.out, hr.files]
  generalize (⟨some (style.render (d.limit p.chat) p.out), p.files⟩ : Reply) = reply
  obtain ⟨hsame, hnext⟩ := h.send hr.chat reply
  rcases hx : c.send reply r.chat with ⟨o, chat⟩
  rcases hy : d.send reply p.chat with ⟨o', chat'⟩
  rw [hx, hy] at hsame hnext
  subst hsame
  rcases o with f | _
  · exact ⟨rfl, hnext⟩
  · exact ⟨rfl, hnext⟩

end Run.Alike

theorem Run.ended_alike (h : c.Alike d R) {x : Except (Abort σ) (Run σ)}
    {y : Except (Abort τ) (Run τ)} (hx : InStep (Abort.Alike R) (Run.Alike R K) x y)
    (style : ReplyStyle) :
    (Run.ended style c x).2 = (Run.ended style d y).2 ∧
      R (Run.ended style c x).1 (Run.ended style d y).1 := by
  cases hx with
  | ok hr => exact hr.deliver h style
  | error ha => exact ⟨congrArg Except.error ha.error, ha.chat⟩

theorem interpret_alike (h : c.Alike d R) {s : σ} {t : τ} (hs : R s t) (g : Registry)
    (style : ReplyStyle) (is : List Instr) :
    (interpret g style c s is).2 = (interpret g style d t is).2 ∧
      R (interpret g style c s is).1 (interpret g style d t is).1 := by
  have hstart : Run.Alike R Eq ({ chat := s } : Run σ) { chat := t } := .start hs rfl
  rw [interpret_eq_ended, interpret_eq_ended]
  exact Run.ended_alike h (hstart.steps h is) style

/-- In two chats that answer alike a message ends alike. -/
theorem Shell.execute_alike (h : c.Alike d R) {s : σ} {t : τ} (hs : R s t) (sh : Shell)
    (source : String) :
    (sh.execute c s source).2 = (sh.execute d t source).2 ∧
      R (sh.execute c s source).1 (sh.execute d t source).1 := by
  unfold execute
  cases sh.compile source with
  | error e => exact ⟨rfl, hs⟩
  | ok is => exact interpret_alike h hs sh.registry sh.config.toReplyStyle is

end Alike

/-! ## Messages one after the other -/

/-- The state of the chat after messages. -/
def Shell.chatAfter (sh : Shell) (c : Chat σ) (chat : σ) (sources : List String) : σ :=
  ((sh.trace c chat sources).getLast?.map Prod.fst).getD chat

@[simp]
theorem Shell.chatAfter_nil (sh : Shell) (c : Chat σ) (chat : σ) :
    sh.chatAfter c chat [] = chat := rfl

@[simp]
theorem Shell.chatAfter_cons (sh : Shell) (c : Chat σ) (chat : σ) (source : String)
    (rest : List String) :
    sh.chatAfter c chat (source :: rest) =
      sh.chatAfter c (sh.execute c chat source).1 rest := by
  unfold chatAfter
  rw [trace, List.getLast?_cons]
  cases (sh.trace c (sh.execute c chat source).1 rest).getLast? <;> rfl

end ChatShell
