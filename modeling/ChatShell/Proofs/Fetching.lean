-- Attachments are fetched once in a message. A run fetches a name where it takes it
-- first, and what the run has fetched is kept until the message ends. So over many
-- messages a name is fetched as often as there are messages that take it.
import ChatShell.Proofs.Keeping
import Mathlib.Data.List.Induction

namespace ChatShell

open Message (Instr Kind)

variable {σ : Type} {g : Registry} {c : Chat σ} {i : Instr}

/-! ## Each name once -/

theorem eraseDups_snoc {α : Type} [DecidableEq α] (as : List α) (a : α) :
    (as ++ [a]).eraseDups = if a ∈ as then as.eraseDups else as.eraseDups ++ [a] := by
  rw [List.eraseDups_append, List.cons_removeAll]
  by_cases h : a ∈ as
  · simp [h, List.removeAll]
  · simp [h, List.removeAll, List.eraseDups_cons]

theorem count_eraseDups {α : Type} [DecidableEq α] (as : List α) (a : α) :
    as.eraseDups.count a = if a ∈ as then 1 else 0 := by
  induction as using List.reverseRecOn with
  | nil => rfl
  | append_singleton as b ih =>
    rw [eraseDups_snoc]
    by_cases hb : b ∈ as
    · have hiff : a ∈ as ++ [b] ↔ a ∈ as := by
        simp only [List.mem_append, List.mem_singleton, or_iff_left_iff_imp]
        rintro rfl
        exact hb
      simp only [hb, if_true, ih, hiff]
    · rw [if_neg hb, List.count_append, ih]
      by_cases hab : a = b
      · simp [hab, hb]
      · simp [hab, Ne.symm hab]

theorem count_flatMap_eraseDups {α β : Type} [DecidableEq β] (f : α → List β) (as : List α)
    (b : β) :
    (as.flatMap fun a => (f a).eraseDups).count b = as.countP fun a => b ∈ f a := by
  induction as with
  | nil => rfl
  | cons a rest ih =>
    rw [List.flatMap_cons, List.count_append, ih, count_eraseDups, List.countP_cons]
    by_cases h : b ∈ f a
    · simp [h, Nat.add_comm]
    · simp [h]

theorem lookup_eq_none_iff_not_mem {β : Type} {name : String} {entries : List (String × β)} :
    entries.lookup name = none ↔ name ∉ entries.map Prod.fst := by
  rw [List.lookup_eq_none_iff]
  constructor
  · intro h hmem
    obtain ⟨entry, he, rfl⟩ := List.mem_map.mp hmem
    have hne := h entry he
    simp at hne
  · intro h entry he
    have hne : name ≠ entry.1 := by
      rintro rfl
      exact h (List.mem_map_of_mem he)
    simpa using hne

/-- The attachments that instructions name. -/
def attached (is : List Instr) : List String :=
  is.filterMap fun i => if i.kind = .attach then i.target else none

theorem attached_snoc_attach (is : List Instr) (name : String) (more : List String) :
    attached (is ++ [⟨.attach, name :: more⟩]) = attached is ++ [name] := by
  unfold attached
  rw [List.filterMap_append]
  rfl

theorem attached_snoc_of_ne (is : List Instr) (h : i.kind ≠ .attach) :
    attached (is ++ [i]) = attached is := by
  unfold attached
  rw [List.filterMap_append]
  simp [h]

/-! ## What a run fetches -/

section Fetches

variable {r s : Run (Noted σ)}

theorem Noted.fetched_answer {q : Request} (hq : ¬q.IsFetch) (n : Noted σ) :
    (c.noted.answer n q).2.fetched = n.fetched := by
  cases q with
  | attachments | limit | send reply => rfl
  | fetch handle => exact absurd trivial hq

theorem Noted.fetched_of_ok {n k : Noted σ} {handle : Handle} {content : Text.Bytes}
    (h : c.noted.fetch handle n = (.ok content, k)) : k.fetched = n.fetched ++ [handle] := by
  simp only [Chat.noted] at h
  rcases hf : c.fetch handle n.chat with ⟨_ | other, chat⟩
  · simp [hf] at h
  · simp only [hf, Prod.mk.injEq] at h
    rw [← h.2]

theorem Noted.fetched_of_error {n k : Noted σ} {handle : Handle} {f : TransportFault}
    (h : c.noted.fetch handle n = (.error f, k)) : k.fetched = n.fetched := by
  simp only [Chat.noted] at h
  rcases hf : c.fetch handle n.chat with ⟨_ | other, chat⟩
  · simp only [hf, Prod.mk.injEq] at h
    rw [← h.2]
  · simp [hf] at h

/-- From `n` on the run has taken `done`: it has kept every attachment named there, and has fetched
each of them once, in the order in which they were named first. -/
structure Run.Fetched (c : Chat σ) (n : Noted σ) (done : List Instr) (r : Run (Noted σ)) :
    Prop where
  listed : c.noted.attachments r.chat = c.attachments n.chat
  kept : r.cache.map Prod.fst = (attached done).eraseDups
  fetched : r.chat.fetched.map some =
    n.fetched.map some ++ (attached done).eraseDups.map (c.attachments n.chat).get?

theorem Run.Took.fetches {n : Noted σ} {done : List Instr} (hc : c.Steady)
    (hg : g.Avoids Request.IsFetch) (h : Took g c.noted r i s) (hr : r.Fetched c n done) :
    s.Fetched c n (done ++ [i]) := by
  have hlisted := (h.files hc.noted).listing.trans hr.listed
  cases h with
  | @again name more handle content hl hcache =>
    have hmem : name ∈ attached done := by
      rw [← List.mem_eraseDups, ← hr.kept]
      by_contra hno
      rw [lookup_eq_none_iff_not_mem.mpr hno] at hcache
      cases hcache
    refine ⟨hlisted, ?_, ?_⟩
    · rw [attached_snoc_attach, eraseDups_snoc, if_pos hmem, hr.kept]
    · rw [attached_snoc_attach, eraseDups_snoc, if_pos hmem, hr.fetched]
  | @fetched name more handle content k hl hcache hf =>
    have hno : name ∉ attached done := by
      rw [← List.mem_eraseDups, ← hr.kept]
      exact lookup_eq_none_iff_not_mem.mp hcache
    refine ⟨hlisted, ?_, ?_⟩
    · rw [attached_snoc_attach, eraseDups_snoc, if_neg hno, List.map_append, hr.kept]
      rfl
    · rw [hr.listed] at hl
      rw [attached_snoc_attach, eraseDups_snoc, if_neg hno, List.map_append, ← List.append_assoc,
        ← hr.fetched, Noted.fetched_of_ok hf, List.map_append, List.map_singleton,
        List.map_singleton, hl]
  | @saved kind name more hk =>
    have hsame : attached (done ++ [⟨kind, name :: more⟩]) = attached done := by
      refine attached_snoc_of_ne done ?_
      rintro rfl
      cases hk
    exact ⟨hlisted, hsame ▸ hr.kept, hsame ▸ hr.fetched⟩
  | @called kind name args command out k hk hget hi =>
    have hsame : attached (done ++ [⟨kind, name :: args⟩]) = attached done := by
      refine attached_snoc_of_ne done ?_
      rintro rfl
      cases hk
    have hkept := (hg.dialogue hget args (r.input kind) (r.out.left kind)).keeps
      (P := fun k : Noted σ => k.fetched = r.chat.fetched)
      (fun q k hq hk => (Noted.fetched_answer (c := c) hq k).trans hk) rfl
    rw [hi] at hkept
    refine ⟨hlisted, hsame ▸ hr.kept, ?_⟩
    rw [hsame, ← hr.fetched, ← hkept]

theorem Run.steps_fetched (hc : c.Steady) (hg : g.Avoids Request.IsFetch) {n : Noted σ}
    {is : List Instr} (h : Run.steps g c.noted { chat := n } is = .ok r) : r.Fetched c n is := by
  have hstart : Run.Fetched c n [] ({ chat := n } : Run (Noted σ)) :=
    ⟨rfl, rfl, (List.append_nil _).symm⟩
  refine foldlM_invariant ?_ is hstart h
  intro done r i s hr hs
  exact (took_of_step hs).fetches hc hg hr

/-- An instruction that ends the run has fetched nothing. -/
theorem Run.fetched_of_error {a : Abort (Noted σ)} (hg : g.Avoids Request.IsFetch)
    (h : r.step g c.noted i = .error a) : a.chat.fetched = r.chat.fetched := by
  by_cases hk : i.kind = .attach
  · obtain ⟨kind, args⟩ := i
    subst hk
    cases args with
    | nil =>
      cases h
      rfl
    | cons name more =>
      replace h : r.attach c.noted name = .error a := h
      unfold attach at h
      cases hl : (c.noted.attachments r.chat).get? name with
      | none =>
        simp only [hl, abort, Except.error.injEq] at h
        rw [← h]
      | some handle =>
        cases hcache : r.cache.lookup name with
        | some content => simp [hl, hcache] at h
        | none =>
          rcases hf : c.noted.fetch handle r.chat with ⟨_ | content, n⟩
          · simp only [hl, hcache, hf, Except.error.injEq] at h
            rw [← h]
            exact Noted.fetched_of_error hf
          · simp [hl, hcache, hf] at h
  · have hkept : (chatOf (r.step g c.noted i)).fetched = r.chat.fetched :=
      step_keeps (P := fun k : Noted σ => k.fetched = r.chat.fetched) hg
        (fun q k hq hk => (Noted.fetched_answer hq k).trans hk) (fun h => absurd h hk) rfl
    rw [h] at hkept
    exact hkept

theorem interpret_fetched (hc : c.Steady) (hg : g.Avoids Request.IsFetch) (style : ReplyStyle)
    (n : Noted σ) (is : List Instr) :
    (interpret g style c.noted n is).1.fetched.map some =
      n.fetched.map some ++
        (attached (Run.done g c { chat := n.chat } is)).eraseDups.map
          (c.attachments n.chat).get? := by
  have hstart : Run.Alike (fun n s => n.chat = s) Eq { chat := n } { chat := n.chat } :=
    .start rfl rfl
  have hdone : Run.done g c.noted { chat := n } is = Run.done g c { chat := n.chat } is :=
    hstart.done c.noted_alike is
  obtain ⟨last, hlast, hend⟩ := Run.steps_cases g c.noted { chat := n } is
  have hfetched := (Run.steps_fetched hc hg hlast).fetched
  rw [← hdone, ← hfetched]
  unfold interpret
  rcases hend with hend | ⟨i, a, hstep, hend⟩
  · rw [hend]
    dsimp only
    rw [Run.deliver_fst]
    rfl
  · rw [hend]
    dsimp only
    rw [Run.fetched_of_error hg hstep]

/-! ## Messages one after the other -/

/-- The instructions of a message that are taken before it ends. -/
def Shell.done (sh : Shell) (c : Chat σ) (chat : σ) (source : String) : List Instr :=
  match sh.compile source with
  | .ok is => Run.done sh.registry c { chat } is
  | .error _ => []

/-- The instructions of messages that are taken, message by message. -/
def Shell.executed (sh : Shell) (c : Chat σ) (chat : σ) : List String → List (List Instr)
  | [] => []
  | source :: rest => sh.done c chat source :: sh.executed c (sh.execute c chat source).1 rest

theorem Shell.execute_fetched (hc : c.Steady) (sh : Shell)
    (hg : sh.registry.Avoids Request.IsFetch) (n : Noted σ) (source : String) :
    (sh.execute c.noted n source).1.fetched.map some =
      n.fetched.map some ++
        (attached (sh.done c n.chat source)).eraseDups.map (c.attachments n.chat).get? := by
  unfold execute done
  cases sh.compile source with
  | error e => exact (List.append_nil _).symm
  | ok is => exact interpret_fetched hc hg sh.config.toReplyStyle n is

theorem Shell.execute_listing (hc : c.Steady) (sh : Shell) (chat : σ) (source : String) :
    c.attachments (sh.execute c chat source).1 = c.attachments chat :=
  sh.execute_keeps (P := fun s => c.attachments s = c.attachments chat)
    (fun q s hs => (hc.listing q s).trans hs) rfl source

theorem Shell.chatAfter_fetched (hc : c.Steady) (sh : Shell)
    (hg : sh.registry.Avoids Request.IsFetch) (n : Noted σ) (sources : List String) :
    (sh.chatAfter c.noted n sources).fetched.map some =
      n.fetched.map some ++
        ((sh.executed c n.chat sources).flatMap fun is => (attached is).eraseDups).map
          (c.attachments n.chat).get? := by
  induction sources generalizing n with
  | nil => exact (List.append_nil _).symm
  | cons source rest ih =>
    have hchat : (sh.execute c.noted n source).1.chat = (sh.execute c n.chat source).1 :=
      (sh.execute_alike c.noted_alike rfl source).2
    have hnext := ih (sh.execute c.noted n source).1
    rw [hchat, execute_listing hc, execute_fetched hc sh hg] at hnext
    rw [chatAfter_cons, hnext, executed, List.flatMap_cons, List.map_append, List.append_assoc]

end Fetches

/-- A handle that belongs to one name stands in the notes as often as the name among those that
were fetched. -/
theorem count_of_map_get? {listing : NameMap Handle} {fetched : List Handle} {names : List String}
    (h : fetched.map some = names.map listing.get?) {name : String} {handle : Handle}
    (hl : listing.get? name = some handle)
    (hone : ∀ other, listing.get? other = some handle → other = name) :
    fetched.count handle = names.count name := by
  calc fetched.count handle
      = (fetched.map some).countP (· == some handle) := by
        rw [List.countP_map, List.count_eq_countP]
        rfl
    _ = names.countP fun other => listing.get? other == some handle := by
        rw [h, List.countP_map]
        rfl
    _ = names.count name := by
        rw [List.count_eq_countP]
        refine List.countP_congr fun other _ => ?_
        rw [beq_iff_eq, beq_iff_eq]
        constructor
        · exact hone other
        · rintro rfl
          exact hl

/-! ## The law -/

/-- An attachment is fetched once in a message, and keeping it does not show. Where the chat does not
show that something was fetched, a run ends alike and sends the same if it fetches at every
attachment. It has fetched, each once and in order, the names of the attachments it took; one that
cannot be fetched ends it. Over many messages the names that were fetched are those of each message
in turn, so a name is fetched as often as there are messages that took it, and that is how often a
handle is fetched that belongs to no other name. -/
theorem an_attachment_is_fetched_once_in_a_message (hc : c.Steady)
    (hg : g.Avoids Request.IsFetch) :
    (∀ (style : ReplyStyle) (chat : σ) (is : List Instr),
      let run := interpret g style c.noted { chat } is
      let plain := interpretPlain g style c.noted { chat } is
      interpret g style c chat is = (run.1.chat, run.2) ∧
        (c.HidesFetches → run.2 = plain.2 ∧ run.1.sent = plain.1.sent) ∧
        run.1.fetched.map some =
          (attached (Run.done g c { chat } is)).eraseDups.map (c.attachments chat).get? ∧
        ∀ before name more after r handle f,
          is = before ++ ⟨.attach, name :: more⟩ :: after →
          Run.steps g c { chat } before = .ok r →
          (c.attachments chat).get? name = some handle →
          (c.fetch handle chat).1 = .error f → run.2 = .error (.transport f)) ∧
    ∀ (config : Config) (chat : σ) (sources : List String),
      let sh : Shell := { registry := g, config }
      let fetched := (sh.chatAfter c.noted { chat } sources).fetched
      let executed := sh.executed c chat sources
      let names := executed.flatMap fun is => (attached is).eraseDups
      fetched.map some = names.map (c.attachments chat).get? ∧
        (∀ name, names.count name = executed.countP fun is => name ∈ attached is) ∧
        ∀ name handle, (c.attachments chat).get? name = some handle →
          (∀ other, (c.attachments chat).get? other = some handle → other = name) →
          fetched.count handle = executed.countP fun is => name ∈ attached is := by
  refine ⟨?_, ?_⟩
  · intro style chat is run plain
    obtain ⟨hsame, hleft⟩ := interpret_alike c.noted_alike (s := { chat }) rfl g style is
    refine ⟨Prod.ext hleft.symm hsame.symm, ?_, interpret_fetched hc hg style { chat } is, ?_⟩
    · intro hu
      exact interpret_like hc hu g style chat is
    · rintro before name more after r handle f rfl hb hl hf
      exact hsame.trans (interpret_of_fetch_error hc style hb hl hf more after)
  · intro config chat sources sh fetched executed names
    have hfetched := Shell.chatAfter_fetched hc sh hg { chat } sources
    have hcount := count_flatMap_eraseDups attached executed
    refine ⟨hfetched, hcount, ?_⟩
    intro name handle hl hone
    rw [← hcount name]
    exact count_of_map_get? hfetched hl hone

/-- In a chat where `g` cannot be fetched, three of five messages take `f`: the second and the third
end with an error after that. The first takes it twice. -/
theorem three_of_five_messages_fetch :
    let w : Relay :=
      { fetching := fun handle => if handle = "g" then some { text := "gone" } else none }
    let m : Mailbox := { attachments := .ofList [("f", Text.encode "DATA"), ("g", [])] }
    let twice : List Instr :=
      [⟨.attach, ["f"]⟩, ⟨.eval, ["echo"]⟩, ⟨.attach, ["f"]⟩, ⟨.pipe, ["echo"]⟩]
    let run := interpret .builtin {} w.chat.noted { chat := m } twice
    let plain := interpretPlain .builtin {} w.chat.noted { chat := m } twice
    let sources :=
      ["echo < f | echo < f", "echo < f | echo < g", "nope < f", "echo '", "echo b"]
    run.2 = plain.2 ∧ run.1.sent = plain.1.sent ∧
      run.1.fetched.map some = [some "f"] ∧ plain.1.fetched = ["f", "f"] ∧
      (interpret .builtin {} w.chat.noted { chat := m } (twice ++ [⟨.attach, ["g"]⟩])).2 =
        .error (.transport { text := "gone" }) ∧
      (Shell.chatAfter {} w.chat.noted { chat := m } sources).fetched.count "f" = 3 ∧
      (Shell.chatAfter {} w.chat m sources).fetchCount "f" = 3 := by
  intro w m twice run plain sources
  obtain ⟨hruns, hmessages⟩ :=
    an_attachment_is_fetched_once_in_a_message w.steady (Registry.builtin_avoids _)
  obtain ⟨_, halike, hfetched, _⟩ := hruns {} m twice
  obtain ⟨hended, hsent⟩ := halike w.hidesFetches
  obtain ⟨_, _, _, hfails⟩ := hruns {} m (twice ++ [⟨.attach, ["g"]⟩])
  have hone : ∀ other, (w.chat.attachments m).get? other = some "f" → other = "f" := by
    intro other h
    rw [show w.chat.attachments m = m.handles from rfl, Mailbox.get?_handles,
      Option.map_eq_some_iff] at h
    obtain ⟨_, _, hother⟩ := h
    exact hother
  obtain ⟨_, _, hcounts⟩ := hmessages {} m sources
  have hcount := hcounts "f" "f" rfl hone
  refine ⟨hended, hsent, hfetched.trans rfl, rfl, ?_, hcount.trans ?_, ?_⟩
  · exact hfails twice "g" [] [] _ "g" _ rfl rfl rfl rfl
  · decide +kernel
  · decide +kernel

/-- Where the limit is the number of fetches, a run that fetches again sends a longer reply, though
the attachments are fixed and no command fetches. -/
theorem a_limit_that_counts_fetches_shows_them :
    let c : Chat Nat :=
      { attachments := fun _ => .ofList [("f", "f")]
        fetch := fun _ n => (.ok (Text.encode "abc"), n + 1)
        send := fun _ n => (.ok (), n)
        limit := id }
    let is : List Instr := [⟨.attach, ["f"]⟩, ⟨.attach, ["f"]⟩, ⟨.eval, ["echo"]⟩]
    let run := interpret .builtin {} c.noted { chat := 0 } is
    let plain := interpretPlain .builtin {} c.noted { chat := 0 } is
    c.Steady ∧ Registry.builtin.Avoids Request.IsFetch ∧
      run.1.sent = [⟨some "a", []⟩] ∧ plain.1.sent = [⟨some "ab", []⟩] ∧
      ¬(run.2 = plain.2 ∧ run.1.sent = plain.1.sent) := by
  intro c is run plain
  have hsteady : c.Steady := ⟨fun _ _ => rfl, fun _ _ _ => rfl⟩
  have hrun : run.1.sent = [⟨some "a", []⟩] := by decide +kernel
  have hplain : plain.1.sent = [⟨some "ab", []⟩] := by decide +kernel
  refine ⟨hsteady, Registry.builtin_avoids _, hrun, hplain, ?_⟩
  intro h
  rw [hrun, hplain] at h
  exact absurd h.2 (by decide)

end ChatShell
