-- A run keeps the attachments it has fetched, and that does not show. In a chat
-- with fixed attachments, what is kept is what fetching again would give, so a run
-- that fetches at every attachment ends alike and sends the same.
import ChatShell.Proofs.Isolation

namespace ChatShell

open Message (Instr Kind)

variable {σ : Type} {g : Registry} {c : Chat σ} {r s : Run σ} {i : Instr}

/-! ## The run that keeps nothing -/

/-- Binds an attachment, and fetches it every time. -/
def Run.attachPlain (c : Chat σ) (r : Run σ) (name : String) : Except (Abort σ) (Run σ) :=
  match (c.attachments r.chat).get? name with
  | none => r.abort (.noAttachment name)
  | some handle =>
    match c.fetch handle r.chat with
    | (.error f, chat) => .error ⟨chat, .transport f⟩
    | (.ok content, chat) => .ok ({ r with chat }.bind content)

/-- Takes one instruction, and fetches at every attachment. -/
def Run.stepPlain (g : Registry) (c : Chat σ) (r : Run σ) (i : Instr) :
    Except (Abort σ) (Run σ) :=
  match i.kind, i.args with
  | .attach, name :: _ => r.attachPlain c name
  | _, _ => r.step g c i

/-- Runs instructions, fetches at every attachment, and sends the reply. -/
def interpretPlain (g : Registry) (style : ReplyStyle) (c : Chat σ) (chat : σ)
    (is : List Instr) : Ended σ :=
  Run.ended style c (is.foldlM (Run.stepPlain g c) { chat })

/-! ## Chats with fixed attachments -/

/-- No talk tells the two states apart. -/
def Chat.Same (c : Chat σ) (s t : σ) : Prop :=
  ∀ (α : Type) (talk : Dialogue α), (talk.run c s).1 = (talk.run c t).1

/-- The same attachments are listed in the two states, and fetching has the same outcomes. -/
structure Chat.SameFiles (c : Chat σ) (s t : σ) : Prop where
  listing : c.attachments s = c.attachments t
  outcome : ∀ handle, (c.fetch handle s).1 = (c.fetch handle t).1

/-- The listing is fixed, and fetching a handle always has the same outcome. -/
structure Chat.Steady (c : Chat σ) : Prop where
  listing : ∀ q s, c.attachments (c.answer s q).2 = c.attachments s
  outcome : ∀ q s handle, (c.fetch handle (c.answer s q).2).1 = (c.fetch handle s).1

-- A limit that grew with every fetch would tell a run that fetches again from one that does not.
/-- No talk shows whether something was fetched before it. -/
def Chat.HidesFetches (c : Chat σ) : Prop := ∀ handle s, c.Same (c.fetch handle s).2 s

namespace Chat

theorem alike_same (c : Chat σ) : c.Alike c c.Same := by
  intro q s t h
  constructor
  · exact h _ (.ask q .done)
  · intro α talk
    exact h α (.ask q fun _ => talk)

theorem SameFiles.refl (s : σ) : c.SameFiles s s := ⟨rfl, fun _ => rfl⟩

theorem SameFiles.symm {s t : σ} (h : c.SameFiles s t) : c.SameFiles t s :=
  ⟨h.listing.symm, fun handle => (h.outcome handle).symm⟩

theorem SameFiles.trans {s t u : σ} (h : c.SameFiles s t) (h' : c.SameFiles t u) :
    c.SameFiles s u :=
  ⟨h.listing.trans h'.listing, fun handle => (h.outcome handle).trans (h'.outcome handle)⟩

theorem Steady.answer_files (hc : c.Steady) {s t : σ} (h : c.SameFiles s t) (q : Request) :
    c.SameFiles (c.answer s q).2 t :=
  ⟨(hc.listing q s).trans h.listing, fun handle => (hc.outcome q s handle).trans (h.outcome handle)⟩

theorem Steady.run_files (hc : c.Steady) {α : Type} (talk : Dialogue α) (s : σ) :
    c.SameFiles (talk.run c s).2 s :=
  talk.avoids_nothing.keeps (P := fun t => c.SameFiles t s)
    (fun q _ _ ht => hc.answer_files ht q) (.refl s)

end Chat

/-- A talk with a mailbox depends on nothing that the mailbox has noted. -/
theorem Relay.same_of_fresh (w : Relay) {m k : Mailbox} (h : m.fresh = k.fresh) :
    w.chat.Same m k := by
  intro α talk
  have hm := ((w.alike_after m).run (s := m.fresh) m.after_fresh.symm talk).1
  have hk := ((w.alike_after k).run (s := k.fresh) k.after_fresh.symm talk).1
  rw [← hm, ← hk, h]

theorem Relay.steady (w : Relay) : w.chat.Steady where
  listing q m := w.chat.alike_same.attachments (w.same_of_fresh (w.fresh_answer q m))
  outcome q m handle := (w.chat.alike_same.fetch (w.same_of_fresh (w.fresh_answer q m)) handle).1

theorem Relay.hidesFetches (w : Relay) : w.chat.HidesFetches :=
  fun handle m => w.same_of_fresh (w.fresh_answer (.fetch handle) m)

/-! ## What was fetched in a run -/

/-- What the run has kept of an attachment is what fetching it gives. -/
def Run.Faithful (c : Chat σ) (r : Run σ) : Prop :=
  ∀ name content, r.cache.lookup name = some content →
    ∃ handle, (c.attachments r.chat).get? name = some handle ∧
      (c.fetch handle r.chat).1 = .ok content

theorem Run.Faithful.of_files (h : r.Faithful c) (hfiles : c.SameFiles s.chat r.chat)
    (hcache : s.cache = r.cache) : s.Faithful c := by
  intro name content hs
  rw [hcache] at hs
  obtain ⟨handle, hl, hf⟩ := h name content hs
  refine ⟨handle, ?_, ?_⟩
  · rw [hfiles.listing, hl]
  · rw [hfiles.outcome, hf]

theorem Run.Took.files (hc : c.Steady) (h : Took g c r i s) : c.SameFiles s.chat r.chat := by
  cases h with
  | again hl hcache => exact .refl r.chat
  | saved hk => exact .refl r.chat
  | @fetched name more handle content chat hl hcache hf =>
    have hfiles := hc.answer_files (.refl r.chat) (.fetch handle)
    rw [show c.answer r.chat (.fetch handle) = (.ok content, chat) from hf] at hfiles
    exact hfiles
  | @called kind name args command out chat hk hg hi =>
    have hfiles :=
      hc.run_files (command.dialogue args (r.input kind) (r.out.left kind)) r.chat
    rw [hi] at hfiles
    exact hfiles

theorem Run.Took.faithful (hc : c.Steady) (h : Took g c r i s) (hr : r.Faithful c) :
    s.Faithful c := by
  have hfiles := h.files hc
  cases h with
  | again hl hcache => exact hr.of_files hfiles rfl
  | saved hk => exact hr.of_files hfiles rfl
  | called hk hg hi => exact hr.of_files hfiles rfl
  | @fetched name more handle content chat hl hcache hf =>
    intro other kept hs
    rw [List.lookup_append, Option.or_eq_some_iff] at hs
    rcases hs with hs | ⟨_, hs⟩
    · obtain ⟨held, hheld, hout⟩ := hr other kept hs
      exact ⟨held, hfiles.listing ▸ hheld, (hfiles.outcome held).trans hout⟩
    · obtain ⟨rfl, rfl⟩ : other = name ∧ kept = content := by
        rw [List.lookup_cons] at hs
        split at hs <;> simp_all
      refine ⟨handle, hfiles.listing ▸ hl, (hfiles.outcome handle).trans ?_⟩
      rw [hf]

theorem Run.faithful_start (c : Chat σ) (chat : σ) : Run.Faithful c { chat } := by
  intro name content hs
  cases hs

theorem Run.steps_faithful (hc : c.Steady) {chat : σ} {is : List Instr}
    (h : Run.steps g c { chat } is = .ok r) : r.Faithful c := by
  refine foldlM_invariant (P := fun _ r => r.Faithful c) ?_ is (faithful_start c chat) h
  intro _ r i s hr hs
  exact (took_of_step hs).faithful hc hr

theorem Run.steps_files (hc : c.Steady) {chat : σ} {is : List Instr}
    (h : Run.steps g c { chat } is = .ok r) : c.SameFiles r.chat chat := by
  have hkept : c.SameFiles (chatOf (Run.steps g c { chat } is)) chat :=
    steps_keeps (P := fun t => c.SameFiles t chat) g.avoids_nothing
      (fun q _ _ ht => hc.answer_files ht q) (fun _ => not_false) (.refl chat) is
  rw [h] at hkept
  exact hkept

/-- An attachment that cannot be fetched has not been kept, so it ends the run. -/
theorem Run.attach_of_fetch_error {name : String} {handle : Handle} {f : TransportFault}
    (hr : r.Faithful c) (hl : (c.attachments r.chat).get? name = some handle)
    (hf : (c.fetch handle r.chat).1 = .error f) :
    ∃ chat, r.attach c name = .error ⟨chat, .transport f⟩ := by
  have hnone : r.cache.lookup name = none := by
    cases hs : r.cache.lookup name with
    | none => rfl
    | some content =>
      obtain ⟨held, hheld, hok⟩ := hr name content hs
      rw [hl, Option.some.injEq] at hheld
      rw [← hheld, hf] at hok
      cases hok
  rcases hx : c.fetch handle r.chat with ⟨o, chat⟩
  rw [hx] at hf
  subst hf
  refine ⟨chat, ?_⟩
  unfold attach
  simp only [hl, hnone, hx]

theorem interpret_of_fetch_error (hc : c.Steady) (style : ReplyStyle) {chat : σ}
    {before : List Instr} (hb : Run.steps g c { chat } before = .ok r) {name : String}
    {handle : Handle} {f : TransportFault} (hl : (c.attachments chat).get? name = some handle)
    (hf : (c.fetch handle chat).1 = .error f) (more : List String) (after : List Instr) :
    (interpret g style c chat (before ++ ⟨.attach, name :: more⟩ :: after)).2 =
      .error (.transport f) := by
  have hfiles := Run.steps_files hc hb
  obtain ⟨last, hstep⟩ := Run.attach_of_fetch_error (Run.steps_faithful hc hb)
    (hfiles.listing ▸ hl) ((hfiles.outcome handle).trans hf)
  have hsteps : Run.steps g c { chat } (before ++ ⟨.attach, name :: more⟩ :: after) =
      .error ⟨last, .transport f⟩ := by
    rw [Run.steps_append, hb]
    show Run.steps g c r (⟨.attach, name :: more⟩ :: after) = _
    unfold Run.steps
    rw [List.foldlM_cons, show r.step g c ⟨.attach, name :: more⟩ = _ from hstep]
    rfl
  unfold interpret
  rw [hsteps]

/-! ## A chat that notes what is sent and what is fetched -/

/-- The state of a chat, the replies given to it to send, and the handles fetched from it. -/
structure Noted (σ : Type) where
  chat : σ
  sent : List Reply := []
  fetched : List Handle := []

/-- The chat with notes. A fetch that fails is not noted. -/
def Chat.noted (c : Chat σ) : Chat (Noted σ) where
  attachments n := c.attachments n.chat
  fetch handle n :=
    match c.fetch handle n.chat with
    | (.error f, chat) => (.error f, { n with chat })
    | (.ok content, chat) => (.ok content, { n with chat, fetched := n.fetched ++ [handle] })
  send reply n :=
    ((c.send reply n.chat).1, { n with chat := (c.send reply n.chat).2, sent := n.sent ++ [reply] })
  limit n := c.limit n.chat

/-- The notes are in no answer. -/
theorem Chat.noted_alike (c : Chat σ) : c.noted.Alike c fun n s => n.chat = s := by
  rintro q n _ rfl
  cases q with
  | attachments | limit | send reply => exact ⟨rfl, rfl⟩
  | fetch handle =>
    simp only [answer, noted]
    rcases c.fetch handle n.chat with ⟨_ | content, chat⟩
    · exact ⟨rfl, rfl⟩
    · exact ⟨rfl, rfl⟩

theorem Chat.noted_answer (c : Chat σ) (q : Request) (n : Noted σ) :
    (c.noted.answer n q).1 = (c.answer n.chat q).1 ∧
      (c.noted.answer n q).2.chat = (c.answer n.chat q).2 :=
  c.noted_alike q n n.chat rfl

theorem Chat.Steady.noted (hc : c.Steady) : c.noted.Steady where
  listing q n := by
    show c.attachments (c.noted.answer n q).2.chat = c.attachments n.chat
    rw [(c.noted_answer q n).2, hc.listing]
  outcome q n handle := by
    have h := fun k => (c.noted_answer (.fetch handle) k).1
    show (c.noted.answer _ (.fetch handle)).1 = (c.noted.answer n (.fetch handle)).1
    rw [h, h, (c.noted_answer q n).2]
    exact hc.outcome q n.chat handle

/-! ## The run that keeps nothing sends the same -/

/-- The reply that a request gives to send. -/
def Request.replies : Request → List Reply
  | .send reply => [reply]
  | _ => []

theorem Noted.sent_answer (q : Request) (n : Noted σ) :
    (c.noted.answer n q).2.sent = n.sent ++ q.replies := by
  cases q with
  | attachments | limit => exact (List.append_nil _).symm
  | send reply => rfl
  | fetch handle =>
    simp only [Chat.answer, Chat.noted, Request.replies, List.append_nil]
    rcases c.fetch handle n.chat with ⟨_ | content, chat⟩
    · rfl
    · rfl

/-- No talk tells the two chats apart, and they were given the same replies. -/
structure Noted.Like (c : Chat σ) (n k : Noted σ) : Prop where
  chat : c.Same n.chat k.chat
  sent : n.sent = k.sent

theorem Noted.alike_like (c : Chat σ) : c.noted.Alike c.noted (Noted.Like c) := by
  intro q n k h
  have hn := c.noted_answer q n
  have hk := c.noted_answer q k
  obtain ⟨hsame, hnext⟩ := c.alike_same q n.chat k.chat h.chat
  refine ⟨?_, ?_, ?_⟩
  · rw [hn.1, hk.1, hsame]
  · rw [hn.2, hk.2]
    exact hnext
  · rw [sent_answer, sent_answer, h.sent]

/-- Fetching once more does not show. -/
theorem Noted.Like.fetch_again {n k : Noted σ} (hu : c.HidesFetches) (h : n.Like c k)
    (handle : Handle) : n.Like c (c.noted.fetch handle k).2 where
  chat := by
    intro α talk
    have hk : (c.noted.fetch handle k).2.chat = (c.fetch handle k.chat).2 :=
      (c.noted_answer (.fetch handle) k).2
    rw [hk, hu handle k.chat α talk]
    exact h.chat α talk
  sent := by
    have hk : (c.noted.fetch handle k).2.sent = k.sent ++ [] := sent_answer (.fetch handle) k
    rw [hk, List.append_nil, h.sent]

theorem Run.stepPlain_of_ne (h : i.kind ≠ .attach) (g : Registry) (c : Chat σ) (r : Run σ) :
    r.stepPlain g c i = r.step g c i := by
  obtain ⟨kind, args⟩ := i
  cases kind with
  | attach => exact absurd rfl h
  | save | saveOut | saveErr | pipe | eval => rfl

section Plain

variable {r p : Run (Noted σ)}

theorem Run.Alike.attachPlain (hu : c.HidesFetches) (hr : r.Faithful c.noted)
    (h : r.Alike (Noted.Like c) (fun _ _ => True) p) (name : String) :
    InStep (Abort.Alike (Noted.Like c)) (Run.Alike (Noted.Like c) fun _ _ => True)
      (r.attach c.noted name) (p.attachPlain c.noted name) := by
  unfold Run.attach Run.attachPlain
  rw [← (Noted.alike_like c).attachments h.chat]
  cases hl : (c.noted.attachments r.chat).get? name with
  | none => exact .error ⟨h.chat, rfl⟩
  | some handle =>
    obtain ⟨hsame, hnext⟩ := (Noted.alike_like c).fetch h.chat handle
    dsimp only
    rcases hp : c.noted.fetch handle p.chat with ⟨o, k⟩
    rw [hp] at hsame hnext
    cases hcache : r.cache.lookup name with
    | none =>
      rcases hx : c.noted.fetch handle r.chat with ⟨o', n⟩
      rw [hx] at hsame hnext
      subst hsame
      rcases o' with f | content
      · exact .error ⟨hnext, rfl⟩
      · exact .ok ⟨hnext, h.out, rfl, trivial, h.files⟩
    | some content =>
      -- the plain run fetches what the other has kept
      obtain ⟨held, hheld, hok⟩ := hr name content hcache
      obtain rfl : handle = held := by
        rw [hl] at hheld
        exact Option.some.inj hheld
      have hagain := h.chat.fetch_again hu handle
      rw [hp] at hagain
      rw [hok] at hsame
      subst hsame
      exact .ok ⟨hagain, h.out, rfl, trivial, h.files⟩

theorem Run.Alike.stepPlain (hu : c.HidesFetches) (hr : r.Faithful c.noted)
    (h : r.Alike (Noted.Like c) (fun _ _ => True) p) (i : Instr) :
    InStep (Abort.Alike (Noted.Like c)) (Run.Alike (Noted.Like c) fun _ _ => True)
      (r.step g c.noted i) (p.stepPlain g c.noted i) := by
  by_cases hk : i.kind = .attach
  · obtain ⟨kind, args⟩ := i
    subst hk
    cases args with
    | nil => exact .error ⟨h.chat, rfl⟩
    | cons name rest => exact h.attachPlain hu hr name
  · rw [stepPlain_of_ne hk]
    exact h.step_of_ne (Noted.alike_like c) hk

end Plain

/-- A run ends alike and sends the same if it fetches at every attachment. -/
theorem interpret_like (hc : c.Steady) (hu : c.HidesFetches) (g : Registry) (style : ReplyStyle)
    (chat : σ) (is : List Instr) :
    (interpret g style c.noted { chat } is).2 = (interpretPlain g style c.noted { chat } is).2 ∧
      (interpret g style c.noted { chat } is).1.sent =
        (interpretPlain g style c.noted { chat } is).1.sent := by
  have hsteps : InStep (Abort.Alike (Noted.Like c)) (Run.Alike (Noted.Like c) fun _ _ => True)
      (Run.steps g c.noted { chat := { chat } } is)
      (is.foldlM (Run.stepPlain g c.noted) { chat := { chat } }) := by
    refine foldlM_inStep (P := Run.Faithful c.noted) ?_ ?_ is ?_ ?_
    · intro r i s hr hs
      exact (Run.took_of_step hs).faithful hc.noted hr
    · intro r p i hr h
      exact h.stepPlain hu hr i
    · exact Run.faithful_start c.noted { chat }
    · exact .start ⟨fun _ _ => rfl, rfl⟩ trivial
  rw [interpret_eq_ended, interpretPlain]
  obtain ⟨hended, hleft⟩ := Run.ended_alike (Noted.alike_like c) hsteps style
  exact ⟨hended, hleft.sent⟩

end ChatShell
