-- Two parts of a message with `;` between them run one after the other. What the
-- first leaves behind shows in the second in its files alone: a new statement drops
-- what is left of standard output, the commands that are always there do not see
-- the exit code, and what was kept of an attachment is what fetching it gives.
import ChatShell.Proofs.Faults
import ChatShell.Proofs.Flow
import ChatShell.Proofs.Keeping

namespace ChatShell

open Message (Instr Kind)

/-! ## Commands that do not see the exit code -/

/-- What is added depends on nothing of the input but its chunks. -/
def Doing.ReadsChunks (does : Doing) : Prop :=
  ∀ args x y, x.map Output.chunks = y.map Output.chunks → does args x = does args y

theorem Output.inputs_cases {x y : Option Output} (h : x.map chunks = y.map chunks) :
    (x = none ∧ y = none) ∨ ∃ o p, x = some o ∧ y = some p ∧ o.bytes = p.bytes := by
  cases x with
  | none =>
    cases y with
    | none => exact Or.inl ⟨rfl, rfl⟩
    | some p => cases h
  | some o =>
    cases y with
    | none => cases h
    | some p => exact Or.inr ⟨o, p, rfl, rfl, congrArg joined (Option.some.inj h)⟩

theorem echo_readsChunks : Doing.ReadsChunks echo.adds := by
  intro args x y h
  rcases Output.inputs_cases h with ⟨rfl, rfl⟩ | ⟨o, p, rfl, rfl, hbytes⟩
  · rfl
  · simp [Handler.adds, echo, hbytes]

theorem cb_readsChunks : Doing.ReadsChunks cb.adds := by
  intro args x y h
  rcases Output.inputs_cases h with ⟨rfl, rfl⟩ | ⟨o, p, rfl, rfl, hbytes⟩
  · rfl
  · simp [Handler.adds, cb, Output.text, hbytes]

theorem Registry.builtin_readsChunks (name : String) :
    Doing.ReadsChunks (Registry.builtin.adds name) := by
  unfold adds
  cases hget : builtin.get? name with
  | none => exact fun _ _ _ _ => rfl
  | some command =>
    dsimp only
    rcases handler_of_builtin hget with h | h
    · rw [h]
      exact echo_readsChunks
    · rw [h]
      exact cb_readsChunks

variable {σ : Type} {g : Registry} {c : Chat σ} {does : String → Doing} {r p s q : Run σ}
  {i : Instr} {earlier : List File}

theorem Call.deed_congr (hd : ∀ name, (does name).ReadsChunks) {x y : Option Output}
    (h : x.map Output.chunks = y.map Output.chunks) (name : String) (args : List String) :
    Call.deed g does ⟨name, args, x⟩ = Call.deed g does ⟨name, args, y⟩ := by
  unfold deed
  cases g.get? name with
  | none => rfl
  | some command =>
    dsimp only
    unfold Command.deed
    cases command.spec with
    | none => exact hd name _ x y h
    | some spec =>
      dsimp only
      cases spec.parse args with
      | parsed m => exact hd name _ x y h
      | failed message | help text | version text => rfl

/-! ## Two runs side by side -/

theorem Output.left_eval_chunks (o : Output) : (o.left .eval).chunks = o.chunksOf .err := by
  unfold left chunksOf
  apply List.filter_congr
  intro ch _
  cases ch.stream <;> simp [Kind.takes]

/-- Instructions with a statement are attachments up to the first one. -/
theorem Message.WellFormed.opens_with_eval {is : List Instr} (h : Message.WellFormed is)
    (heval : ∃ i ∈ is, i.kind = .eval) :
    ∃ lead i rest, is = lead ++ i :: rest ∧ (∀ j ∈ lead, j.kind = .attach) ∧ i.kind = .eval := by
  cases hf : is.find? (fun i => i.kind ≠ .attach) with
  | none =>
    obtain ⟨i, hi, hk⟩ := heval
    have hno := List.find?_eq_none.mp hf i hi
    simp [hk] at hno
  | some i =>
    obtain ⟨_, lead, rest, his, hlead⟩ := List.find?_eq_some_iff_append.mp hf
    exact ⟨lead, i, rest, his, fun j hj => by simpa using hlead j hj, h.first_eval i hf⟩

/-- The first run stands where the second does, but for what stands in their outputs, and has made
the `earlier` files ahead of those of the second. -/
structure Run.Beside (c : Chat σ) (earlier : List File) (r p : Run σ) : Prop where
  chat : c.SameFiles r.chat p.chat
  kept : r.Faithful c
  keptToo : p.Faithful c
  bound : r.bound = p.bound
  files : r.files = earlier ++ p.files

/-- What an attachment binds is what fetching it gives, kept or not. -/
theorem Run.Took.bound_attach (hr : r.Faithful c) {name : String} {more : List String}
    (h : Took g c r ⟨.attach, name :: more⟩ s) :
    ∃ handle content, (c.attachments r.chat).get? name = some handle ∧
      (c.fetch handle r.chat).1 = .ok content ∧ s.bound = some (.ofBytes content) := by
  cases h with
  | @again _ _ _ content _ hc =>
    obtain ⟨handle, hl, hf⟩ := hr name content hc
    exact ⟨handle, content, hl, hf, rfl⟩
  | @fetched _ _ handle content _ hl _ hf => exact ⟨handle, content, hl, by rw [hf], rfl⟩
  | saved hk => cases hk
  | called hk => cases hk

/-- Only an attachment is bound, and a command uses up what is. -/
theorem Run.Took.bound_eq (h : Took g c r i s) (hk : i.kind ≠ .attach) :
    s.bound = if i.kind.isCommand then none else r.bound := by
  cases h with
  | again _ _ | fetched _ _ _ => exact absurd rfl hk
  | saved hs => rw [Kind.isCommand_of_saves hs, if_neg (by simp)]
  | called hc _ _ => rw [if_pos hc]

theorem Run.Took.attach_out (h : Took g c r i s) (hk : i.kind = .attach) : s.out = r.out := by
  cases h with
  | again _ _ | fetched _ _ _ => rfl
  | saved hs =>
    subst hk
    cases hs
  | called hc _ _ =>
    subst hk
    cases hc

namespace Run.Beside

theorem start (hc : c.Steady) {chat : σ} {is : List Instr} (h : Run.steps g c { chat } is = .ok r)
    (hbound : r.bound = none) : r.Beside c r.files { chat } where
  chat := Run.steps_files hc h
  kept := Run.steps_faithful hc h
  keptToo := Run.faithful_start c chat
  bound := hbound
  files := (List.append_nil _).symm

theorem bound_step (h : r.Beside c earlier p) (hr : Took g c r i s) (hp : Took g c p i q) :
    s.bound = q.bound := by
  by_cases hk : i.kind = .attach
  · obtain ⟨kind, args⟩ := i
    subst hk
    cases args with
    | nil => cases hr
    | cons name more =>
      -- one run may have kept what the other fetches
      obtain ⟨handle, content, hl, hf, hs⟩ := hr.bound_attach h.kept
      obtain ⟨handle', content', hl', hf', hq⟩ := hp.bound_attach h.keptToo
      rw [h.chat.listing, hl'] at hl
      cases hl
      rw [h.chat.outcome, hf'] at hf
      cases hf
      rw [hs, hq]
  · rw [hr.bound_eq hk, hp.bound_eq hk, h.bound]

/-- The runs stay side by side if they take the same instruction, and a file that it makes holds
the same. -/
theorem step (hc : c.Steady) (h : r.Beside c earlier p) (hr : Took g c r i s)
    (hp : Took g c p i q) (hsaved : i.kind.saves → r.out.chunks = p.out.chunks) :
    s.Beside c earlier q where
  chat := by
    have hs := (hr.files hc).trans h.chat
    exact hs.trans (hp.files hc).symm
  kept := hr.faithful hc h.kept
  keptToo := hp.faithful hc h.keptToo
  bound := h.bound_step hr hp
  files := by
    rw [hr.files_eq, hp.files_eq, h.files, List.append_assoc]
    congr 2
    split_ifs with hk
    · unfold Output.taken
      rw [hsaved hk]
    · rfl

theorem input (h : r.Beside c earlier p) {kind : Kind}
    (hpipe : kind = .pipe → r.out.chunks = p.out.chunks) :
    (r.input kind).map Output.chunks = (p.input kind).map Output.chunks := by
  unfold Run.input
  rw [h.bound]
  split_ifs with hk
  · cases p.bound with
    | none => exact congrArg some (hpipe hk)
    | some attached => rfl
  · rfl

/-- The instruction adds the same in both runs. -/
theorem deed (hd : ∀ name, (does name).ReadsChunks) (h : r.Beside c earlier p)
    (hpipe : i.kind = .pipe → r.out.chunks = p.out.chunks) :
    (Note.event g does ⟨i, r.call? g i⟩).deed = (Note.event g does ⟨i, p.call? g i⟩).deed := by
  unfold Run.call? Note.event
  cases i.args with
  | nil => rfl
  | cons name args =>
    dsimp only
    split_ifs
    · exact Call.deed_congr hd (h.input hpipe) name args
    · rfl

theorem out_step (hg : g.OnlyAdds does) (hd : ∀ name, (does name).ReadsChunks)
    (h : r.Beside c earlier p) (hr : Took g c r i s) (hp : Took g c p i q)
    (hleft : (r.out.left i.kind).chunks = (p.out.left i.kind).chunks)
    (hpipe : i.kind = .pipe → r.out.chunks = p.out.chunks) : s.out.chunks = q.out.chunks := by
  rw [hr.out_eq hg, hp.out_eq hg, h.deed hd hpipe]
  exact congrArg (· ++ _) hleft

/-- Runs with the same chunks in their outputs stay side by side, and keep the same chunks. -/
theorem steps (hc : c.Steady) (hg : g.OnlyAdds does) (hd : ∀ name, (does name).ReadsChunks)
    {is : List Instr} (h : r.Beside c earlier p) (hout : r.out.chunks = p.out.chunks)
    (hr : r.steps g c is = .ok s) (hp : p.steps g c is = .ok q) :
    s.Beside c earlier q ∧ s.out.chunks = q.out.chunks := by
  induction is generalizing r p with
  | nil =>
    cases hr
    cases hp
    exact ⟨h, hout⟩
  | cons i rest ih =>
    obtain ⟨s', hs', hs⟩ := Run.steps_cons_ok hr
    obtain ⟨q', hq', hq⟩ := Run.steps_cons_ok hp
    have hr' := Run.took_of_step hs'
    have hp' := Run.took_of_step hq'
    have hleft : (r.out.left i.kind).chunks = (p.out.left i.kind).chunks := by
      unfold Output.left
      rw [hout]
    exact ih (h.step hc hr' hp' fun _ => hout)
      (h.out_step hg hd hr' hp' hleft fun _ => hout) hs hq

theorem attachments (hc : c.Steady) {is : List Instr} (his : ∀ i ∈ is, i.kind = .attach)
    (h : r.Beside c earlier p) (hr : r.steps g c is = .ok s) (hp : p.steps g c is = .ok q) :
    s.Beside c earlier q ∧ s.out = r.out ∧ q.out = p.out := by
  induction is generalizing r p with
  | nil =>
    cases hr
    cases hp
    exact ⟨h, rfl, rfl⟩
  | cons i rest ih =>
    obtain ⟨s', hs', hs⟩ := Run.steps_cons_ok hr
    obtain ⟨q', hq', hq⟩ := Run.steps_cons_ok hp
    have hr' := Run.took_of_step hs'
    have hp' := Run.took_of_step hq'
    have hk := his i (by simp)
    have hnext := h.step hc hr' hp' (by simp [hk, Kind.saves])
    obtain ⟨hend, hsout, hqout⟩ := ih (fun j hj => his j (by simp [hj])) hnext hs hq
    exact ⟨hend, hsout.trans (hr'.attach_out hk), hqout.trans (hp'.attach_out hk)⟩

/-- A statement drops what stands in standard output, so runs with the same complaints left keep
the same chunks from their first statement on. -/
theorem statement (hc : c.Steady) (hg : g.OnlyAdds does) (hd : ∀ name, (does name).ReadsChunks)
    {is : List Instr} (hw : Message.WellFormed is) (heval : ∃ i ∈ is, i.kind = .eval)
    (h : r.Beside c earlier p) (hout : r.out.chunksOf .err = p.out.chunksOf .err)
    (hr : r.steps g c is = .ok s) (hp : p.steps g c is = .ok q) :
    s.Beside c earlier q ∧ s.out.chunks = q.out.chunks := by
  obtain ⟨lead, i, rest, rfl, hlead, hi⟩ := hw.opens_with_eval heval
  obtain ⟨s₁, hs₁, hr⟩ := Run.steps_append_ok hr
  obtain ⟨q₁, hq₁, hp⟩ := Run.steps_append_ok hp
  obtain ⟨h₁, hsout, hqout⟩ := h.attachments hc hlead hs₁ hq₁
  obtain ⟨s₂, hs₂, hr⟩ := Run.steps_cons_ok hr
  obtain ⟨q₂, hq₂, hp⟩ := Run.steps_cons_ok hp
  have hrt := Run.took_of_step hs₂
  have hpt := Run.took_of_step hq₂
  -- up to here the outputs may differ in standard output, and now it is dropped
  have hleft : (s₁.out.left i.kind).chunks = (q₁.out.left i.kind).chunks := by
    rw [hi, hsout, hqout, Output.left_eval_chunks, Output.left_eval_chunks, hout]
  exact (h₁.step hc hrt hpt (by simp [hi, Kind.saves])).steps hc hg hd
    (h₁.out_step hg hd hrt hpt hleft (by simp [hi])) hr hp

end Run.Beside

/-! ## In a chat in memory -/

section Mailbox

variable {r : Run Mailbox} {m : Mailbox} {is : List Instr}

theorem Run.steps_mailbox (h : Run.steps .builtin Mailbox.chat { chat := m } is = .ok r) :
    r.chat.attachments = m.attachments ∧ r.chat.limit = m.limit ∧ r.chat.sent = m.sent := by
  have hfresh : (chatOf (Run.steps .builtin Mailbox.chat { chat := m } is)).fresh = m.fresh :=
    steps_keeps (P := fun k => k.fresh = m.fresh) Registry.builtin.avoids_nothing
      (fun q k _ hk => (Relay.fresh_answer {} q k).trans hk) (fun _ => not_false) rfl is
  have hsent : (chatOf (Run.steps .builtin Mailbox.chat { chat := m } is)).sent = m.sent :=
    steps_keeps (P := fun k => k.sent = m.sent) (Registry.builtin_avoids Request.IsSend)
      (fun q k hq hk => (Relay.sent_answer {} hq k).trans hk) (fun _ => not_false) rfl is
  rw [h] at hfresh hsent
  simp only [chatOf, Mailbox.fresh, Mailbox.mk.injEq] at hfresh
  exact ⟨hfresh.1, hfresh.2.1, hsent⟩

/-- What is sent by a message whose run comes to its end. -/
theorem Shell.execute_of_steps {config : Config} {source : String}
    (hc : Shell.compile { config } source = .ok is)
    (h : Run.steps .builtin Mailbox.chat { chat := m } is = .ok r) :
    (Shell.execute { config } Mailbox.chat m source).2 = .ok () ∧
      (Shell.execute { config } Mailbox.chat m source).1.sent =
        m.sent ++ [⟨some (config.render m.limit r.out), r.files⟩] := by
  obtain ⟨_, hlimit, hsent⟩ := Run.steps_mailbox h
  have hended : Shell.execute { config } Mailbox.chat m source =
      (r.chat.send ⟨some (config.render r.chat.limit r.out), r.files⟩, .ok ()) := by
    unfold execute
    rw [hc]
    dsimp only
    rw [interpret_eq_ended, h]
    rfl
  rw [hended, ← hlimit, ← hsent]
  exact ⟨rfl, rfl⟩

theorem Shell.steps_of_execute {config : Config} {source : String}
    (hc : Shell.compile { config } source = .ok is)
    (h : (Shell.execute { config } Mailbox.chat m source).2 = .ok ()) :
    ∃ r, Run.steps .builtin Mailbox.chat { chat := m } is = .ok r := by
  unfold execute at h
  rw [hc] at h
  obtain ⟨r, hr, _⟩ := interpret_ok (Prod.ext rfl h)
  exact ⟨r, hr⟩

/-- Whether a run comes to its end shows in the attachments of its chat. -/
theorem Run.steps_ok_congr {p q : Run Mailbox} (hargs : ∀ i ∈ is, i.args ≠ [])
    (h : r.chat.attachments = p.chat.attachments)
    (hp : p.steps .builtin Mailbox.chat is = .ok q) :
    ∃ s, r.steps .builtin Mailbox.chat is = .ok s := by
  have hrun := steps_fault (r := r) hargs
  have hrunToo := steps_fault (r := p) hargs
  rw [h] at hrun
  cases hf : is.findSome? (Instr.fault? p.chat.attachments) with
  | none =>
    rw [hf] at hrun
    exact hrun
  | some e =>
    rw [hf] at hrunToo
    obtain ⟨chat, he⟩ := hrunToo
    rw [he] at hp
    cases hp

theorem ReplyStyle.render_congr {o p : Output} (h : o.chunks = p.chunks) (style : ReplyStyle)
    (limit : Nat) : style.render limit o = style.render limit p := by
  unfold render Output.text Output.bytes
  rw [h]

/-! ## The law -/

/-- Two parts with `;` between them do what the first does and then what the second does, if the
first leaves no complaint and no attachment, and the second has a statement: the reply is that of
the second part alone, and the files of the first part come before its own. What the first leaves
in standard output, its exit code and what it has fetched do not show. -/
theorem two_parts_run_one_after_the_other (config : Config) (m : Mailbox) (a b : String)
    {as bs : List Instr} {last : Run Mailbox} (ha : Shell.compile { config } a = .ok as)
    (hlast : Run.steps .builtin Mailbox.chat { chat := m } as = .ok last)
    (herr : last.out.chunksOf .err = []) (hbound : last.bound = none)
    (hb : Shell.compile { config } b = .ok bs) (heval : ∃ i ∈ bs, i.kind = .eval)
    (hends : (Shell.execute { config } Mailbox.chat m b).2 = .ok ()) :
    let run := fun source => Shell.execute { config } Mailbox.chat m source
    ∃ first second : Reply,
      (run a).2 = .ok () ∧ (run a).1.sent = m.sent ++ [first] ∧
      (run b).1.sent = m.sent ++ [second] ∧
      (run (a ++ ";" ++ b)).2 = .ok () ∧
      (run (a ++ ";" ++ b)).1.sent =
        m.sent ++ [⟨second.content, first.files ++ second.files⟩] := by
  intro run
  have hw := Message.compile_wellFormed hb
  obtain ⟨alone, halone⟩ := Shell.steps_of_execute hb hends
  obtain ⟨joint, hjoint⟩ :=
    Run.steps_ok_congr hw.args_ne_nil (Run.steps_mailbox hlast).1 halone
  have hboth : Run.steps .builtin Mailbox.chat { chat := m } (as ++ bs) = .ok joint := by
    rw [Run.steps_append, hlast]
    exact hjoint
  have hc : Mailbox.chat.Steady := Relay.steady {}
  obtain ⟨hbeside, hout⟩ := (Run.Beside.start hc hlast hbound).statement hc
    Registry.builtin_onlyAdds Registry.builtin_readsChunks hw heval herr hjoint halone
  obtain ⟨haok, hasent⟩ := Shell.execute_of_steps ha hlast
  obtain ⟨_, hbsent⟩ := Shell.execute_of_steps hb halone
  obtain ⟨hok, hsent⟩ := Shell.execute_of_steps (Message.compile_semicolon ha hb) hboth
  refine ⟨_, _, haok, hasent, hbsent, hok, ?_⟩
  rw [hsent, hbeside.files, ReplyStyle.render_congr hout]

/-- The first part has moved a complaint into a file, and leaves text, an exit code and an
attachment that was fetched. The second part reads the attachment again. -/
theorem what_the_first_part_leaves_does_not_show :
    let m : Mailbox := { attachments := .ofList [("f", Text.encode "DATA")], limit := 8 }
    let run := fun source => Shell.execute {} Mailbox.chat m source
    let a := "cb --no 2> e; echo < f"
    let b := "echo a > x; echo < f | cb"
    ∃ (last : Run Mailbox) (first : Reply),
      Run.steps .builtin Mailbox.chat { chat := m }
          [⟨.eval, ["cb", "--no"]⟩, ⟨.saveErr, ["e"]⟩, ⟨.attach, ["f"]⟩, ⟨.eval, ["echo"]⟩] =
        .ok last ∧
      last.out = ⟨[⟨.out, Text.encode "DATA"⟩], 1⟩ ∧ last.cache ≠ [] ∧ last.bound = none ∧
      (run a).1.sent = [first] ∧ first.files.map File.name = ["e"] ∧
      (run (a ++ ";" ++ b)).2 = .ok () ∧
      (run (a ++ ";" ++ b)).1.sent =
        [⟨some "```\nDATA", first.files ++ [⟨"x", Text.encode "a"⟩]⟩] := by
  intro m run a b
  have hlast : Run.steps .builtin Mailbox.chat { chat := m }
      [⟨.eval, ["cb", "--no"]⟩, ⟨.saveErr, ["e"]⟩, ⟨.attach, ["f"]⟩, ⟨.eval, ["echo"]⟩] =
    .ok _ := rfl
  have hb : Shell.compile {} b =
      .ok [⟨.eval, ["echo", "a"]⟩, ⟨.save, ["x"]⟩, ⟨.attach, ["f"]⟩, ⟨.eval, ["echo"]⟩,
        ⟨.pipe, ["cb"]⟩] := by decide +kernel
  obtain ⟨first, second, _, hfirst, hsecond, hok, hsent⟩ :=
    two_parts_run_one_after_the_other {} m a b (by decide +kernel) hlast (by decide +kernel) rfl
      hb (by decide) (by decide +kernel)
  have hfiles : (run a).1.sent.map (·.files.map File.name) = [["e"]] := by decide +kernel
  have hreply : (run b).1.sent = [⟨some "```\nDATA", [⟨"x", Text.encode "a"⟩]⟩] := by
    decide +kernel
  rw [show (run a).1.sent = [first] from hfirst] at hfiles
  cases hreply.symm.trans hsecond
  exact ⟨_, first, hlast, by decide +kernel, by decide +kernel, rfl, hfirst,
    List.head_eq_of_cons_eq hfiles, hok, hsent⟩

end Mailbox

end ChatShell
