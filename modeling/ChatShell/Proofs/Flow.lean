-- Where everything that a command writes goes. A chunk goes to the first later
-- instruction that takes its stream, else into the reply. A file, the reply and
-- the input of a pipe are the chunks that go there, in the order of writing:
-- nothing is lost on the way, doubled or put in another order.
import ChatShell.Proofs.Attachments
import ChatShell.Proofs.Talking

namespace ChatShell

open Message (Instr Kind)

/-! ## Handlers that only add -/

/-- What a handler adds to an output: chunks, and an exit code if it sets one. -/
structure Deed where
  chunks : List Chunk := []
  code : Option Int := none

/-- The output with the addition. -/
def Deed.onto (d : Deed) (o : Output) : Output := ⟨o.chunks ++ d.chunks, d.code.getD o.code⟩

/-- An addition for each choice of arguments and input. -/
abbrev Doing := Arguments → Option Output → Deed

/-- The handler only adds, and what it adds depends neither on what is there nor on the chat. It
may fail. -/
def Handler.OnlyAdds (h : Handler) (does : Doing) : Prop :=
  ∀ args input out, (h.run args input out).Ends fun ran =>
    ran.2 = none → ran.1 = (does args input).onto out

/-- Each handler only adds, and `does` tells what, by the name of the command. -/
def Registry.OnlyAdds (g : Registry) (does : String → Doing) : Prop :=
  ∀ name command, g.get? name = some command → command.handler.OnlyAdds (does name)

/-- What a command adds. Arguments that do not fit and a wish for help are answered without the
handler. -/
def Command.deed (c : Command) (does : Doing) (raw : List String) (input : Option Output) : Deed :=
  match c.spec with
  | none => does { raw } input
  | some s =>
    match s.parse raw with
    | .parsed m => does { raw, matched := some m } input
    | .failed message => ⟨[⟨.err, Text.encode message⟩], some 1⟩
    | .help text | .version text => ⟨[⟨.out, Text.encode text⟩], none⟩

theorem Command.dialogue_ends {command : Command} {does : Doing}
    (h : command.handler.OnlyAdds does) (raw : List String) (input : Option Output)
    (out : Output) :
    (command.dialogue raw input out).Ends fun ran =>
      ran.2 = none → ran.1 = (command.deed does raw input).onto out := by
  unfold dialogue deed
  cases command.spec with
  | none => exact h _ _ _
  | some spec =>
    dsimp only
    cases spec.parse raw with
    | parsed m => exact h _ _ _
    | failed message => exact fun _ => rfl
    | help text | version text => exact fun _ => rfl

/-- What a call adds. -/
def Call.deed (g : Registry) (does : String → Doing) (call : Call) : Deed :=
  match g.get? call.name with
  | none => {}
  | some command => command.deed (does call.name) call.args call.input

/-- An instruction of a run, and what it adds to the output. -/
structure Event where
  instr : Instr
  deed : Deed

/-- Only a call adds something. -/
def Note.event (g : Registry) (does : String → Doing) (n : Note) : Event :=
  ⟨n.instr, match n.call with
    | none => {}
    | some call => call.deed g does⟩

/-! ## Destinations -/

/-- Where a chunk of the stream goes that the instruction at `k` wrote: to the first later
instruction that takes the stream, or into the reply. -/
def destination (es : List Event) (k : Nat) (s : Stream) : Option Nat :=
  ((es.drop (k + 1)).findIdx? fun e => e.instr.kind.takes s).map (k + 1 + ·)

/-- The chunks that go to the instruction at a place, or into the reply, in order of writing. -/
def destined (es : List Event) (place : Option Nat) : List Chunk :=
  es.zipIdx.flatMap fun e =>
    e.1.deed.chunks.filter fun ch => destination es e.2 ch.stream = place

/-- The exit code set last, not looking further back than to the last pipe. -/
def lastCode (es : List Event) : Int :=
  (es.reverse.findSome? fun e =>
    e.deed.code.or (if e.instr.kind = .pipe then some 0 else none)).getD 0

/-- A file for each instruction that makes one, with the chunks that go there. -/
def savedFiles (es : List Event) : List File :=
  (es.zipIdx.filter fun e => e.1.instr.kind.saves).map fun e =>
    ⟨e.1.instr.args.headD "", joined (destined es (some e.2))⟩

theorem destination_lt {es : List Event} {k j : Nat} {s : Stream}
    (h : destination es k s = some j) : j < es.length := by
  obtain ⟨m, hm, rfl⟩ := Option.map_eq_some_iff.mp h
  have hlt := (List.findIdx?_eq_some_iff_findIdx_eq.mp hm).1
  rw [List.length_drop] at hlt
  omega

theorem destination_snoc {es : List Event} {k : Nat} (hk : k < es.length) (e : Event)
    (s : Stream) :
    destination (es ++ [e]) k s =
      (destination es k s).or (if e.instr.kind.takes s then some es.length else none) := by
  unfold destination
  rw [List.drop_append_of_le_length hk, List.findIdx?_append, List.findIdx?_singleton]
  cases (es.drop (k + 1)).findIdx? fun e => e.instr.kind.takes s with
  | some m => rfl
  | none =>
    split_ifs
    · simp only [Option.map_some, Option.none_or, Option.map_none, List.length_drop,
        Option.some.injEq]
      omega
    · rfl

theorem destination_last (es : List Event) (e : Event) (s : Stream) :
    destination (es ++ [e]) es.length s = none := by
  unfold destination
  rw [List.drop_eq_nil_of_le (by simp)]
  rfl

theorem destined_snoc (es : List Event) (e : Event) (place : Option Nat) :
    destined (es ++ [e]) place =
      (es.zipIdx.flatMap fun f => f.1.deed.chunks.filter fun ch =>
        (destination es f.2 ch.stream).or
          (if e.instr.kind.takes ch.stream then some es.length else none) = place) ++
        if place = none then e.deed.chunks else [] := by
  unfold destined
  rw [List.zipIdx_append, List.zipIdx_singleton, List.flatMap_append, List.flatMap_singleton,
    Nat.zero_add]
  congr 1
  · rw [List.flatMap_def, List.flatMap_def]
    congr 1
    apply List.map_congr_left
    intro f hf
    -- only an earlier instruction can have written something that `e` takes
    have hlt : f.2 < es.length := by simpa using List.snd_lt_of_mem_zipIdx hf
    simp only [destination_snoc hlt]
  · simp only [destination_last]
    split_ifs with hp
    · simp [hp]
    · simp [Ne.symm hp]

/-- What goes to an instruction does not change by later ones. -/
theorem destined_snoc_of_lt {es : List Event} {k : Nat} (hk : k < es.length) (e : Event) :
    destined (es ++ [e]) (some k) = destined es (some k) := by
  rw [destined_snoc, if_neg (by simp), List.append_nil]
  unfold destined
  congr 1
  funext f
  apply List.filter_congr
  intro ch _
  cases hd : destination es f.2 ch.stream with
  | some j => rfl
  | none =>
    have hne : es.length ≠ k := by omega
    split_ifs <;> simp [hne]

/-- An instruction gets what would go into the reply without it and is of a stream it takes. -/
theorem destined_snoc_self (es : List Event) (e : Event) :
    destined (es ++ [e]) (some es.length) =
      (destined es none).filter fun ch => e.instr.kind.takes ch.stream := by
  rw [destined_snoc, if_neg (by simp), List.append_nil]
  unfold destined
  rw [List.filter_flatMap]
  congr 1
  funext f
  rw [List.filter_filter]
  apply List.filter_congr
  intro ch _
  cases hd : destination es f.2 ch.stream with
  | some j =>
    have hne := Nat.ne_of_lt (destination_lt hd)
    simp [hne]
  | none => cases e.instr.kind.takes ch.stream <;> simp

/-- The rest of it, and what the instruction adds, goes into the reply for now. -/
theorem destined_snoc_none (es : List Event) (e : Event) :
    destined (es ++ [e]) none =
      ((destined es none).filter fun ch => !e.instr.kind.takes ch.stream) ++ e.deed.chunks := by
  rw [destined_snoc, if_pos rfl]
  unfold destined
  rw [List.filter_flatMap]
  congr 2
  funext f
  rw [List.filter_filter]
  apply List.filter_congr
  intro ch _
  cases hd : destination es f.2 ch.stream with
  | some j => simp
  | none => cases e.instr.kind.takes ch.stream <;> simp

theorem destined_append_of_lt {es : List Event} {k : Nat} (hk : k < es.length)
    (more : List Event) : destined (es ++ more) (some k) = destined es (some k) := by
  induction more using List.reverseRecOn with
  | nil => rw [List.append_nil]
  | append_singleton more e ih =>
    rw [← List.append_assoc, destined_snoc_of_lt (by simp; omega), ih]

theorem lastCode_snoc (es : List Event) (e : Event) :
    lastCode (es ++ [e]) =
      e.deed.code.getD (if e.instr.kind = .pipe then 0 else lastCode es) := by
  unfold lastCode
  rw [List.reverse_append, List.reverse_singleton, List.singleton_append, List.findSome?_cons]
  cases e.deed.code with
  | some code => rfl
  | none =>
    split_ifs
    · rfl
    · rfl

theorem savedFiles_snoc (es : List Event) (e : Event) :
    savedFiles (es ++ [e]) =
      savedFiles es ++
        if e.instr.kind.saves then
          [⟨e.instr.args.headD "",
            joined ((destined es none).filter fun ch => e.instr.kind.takes ch.stream)⟩]
        else [] := by
  unfold savedFiles
  rw [List.zipIdx_append, List.zipIdx_singleton, List.filter_append, List.map_append,
    Nat.zero_add]
  congr 1
  · apply List.map_congr_left
    intro f hf
    have hlt : f.2 < es.length := by
      simpa using List.snd_lt_of_mem_zipIdx (List.mem_filter.mp hf).1
    rw [destined_snoc_of_lt hlt]
  · rw [← destined_snoc_self]
    cases hs : e.instr.kind.saves <;> simp [hs]

/-! ## Runs -/

variable {σ : Type} {g : Registry} {c : Chat σ} {r s : Run σ} {i : Instr} {does : String → Doing}

/-- The events of a run. -/
def Run.events (g : Registry) (does : String → Doing) (c : Chat σ) (r : Run σ)
    (is : List Instr) : List Event :=
  (r.notes g c is).map (Note.event g does)

/-- An instruction first takes out, then adds. -/
theorem Run.Took.out_eq (hg : g.OnlyAdds does) (h : Took g c r i s) :
    s.out = (Note.event g does ⟨i, r.call? g i⟩).deed.onto (r.out.left i.kind) := by
  cases h with
  | again hl hc | fetched hl hc hf =>
    rw [call?_of_not_isCommand g r rfl, Output.left_attach]
    simp [Note.event, Deed.onto]
  | saved hk =>
    rw [call?_of_not_isCommand g r (Kind.isCommand_of_saves hk)]
    simp [Note.event, Deed.onto]
  | @called kind name args command out chat hk hget hi =>
    rw [r.call?_of_contains hk (Registry.contains_of_get? hget)]
    simp only [Note.event, Call.deed, hget]
    have hends := (Command.dialogue_ends (hg name command hget) args (r.input kind)
      (r.out.left kind)).run c r.chat
    rw [hi] at hends
    exact hends rfl

theorem Run.Took.files_eq (h : Took g c r i s) :
    s.files = r.files ++
      if i.kind.saves then [⟨i.args.headD "", joined (r.out.taken i.kind)⟩] else [] := by
  cases h with
  | again hl hc | fetched hl hc hf => simp [Kind.saves]
  | saved hk =>
    rw [if_pos hk]
    rfl
  | called hk hget hi =>
    simp [Kind.saves_of_isCommand hk]

/-- The state of a run, told from its events. -/
structure Run.Accounts (es : List Event) (r : Run σ) : Prop where
  chunks : r.out.chunks = destined es none
  code : r.out.code = lastCode es
  files : r.files = savedFiles es

theorem Run.Took.accounts {es : List Event} (hg : g.OnlyAdds does) (h : Took g c r i s)
    (hr : r.Accounts es) : s.Accounts (es ++ [Note.event g does ⟨i, r.call? g i⟩]) := by
  have hout := h.out_eq hg
  refine ⟨?_, ?_, ?_⟩
  · rw [destined_snoc_none, ← hr.chunks, hout]
    rfl
  · rw [lastCode_snoc, ← hr.code, hout]
    rfl
  · rw [savedFiles_snoc, ← hr.chunks, ← hr.files, h.files_eq]
    rfl

theorem Run.accounts_of_steps (hg : g.OnlyAdds does) {chat : σ} {is : List Instr}
    (h : Run.steps g c { chat } is = .ok s) :
    s.Accounts (Run.events g does c { chat } is) := by
  induction is using List.reverseRecOn generalizing s with
  | nil =>
    cases h
    exact ⟨rfl, rfl, rfl⟩
  | append_singleton is i ih =>
    obtain ⟨t, ht, hs⟩ := steps_append_ok h
    obtain ⟨u, hstep, hu⟩ := steps_cons_ok hs
    cases hu
    unfold events
    rw [notes_snoc ht, List.map_append]
    exact (took_of_step hstep).accounts hg (ih ht)

theorem destined_of_pipe (es : List Event) {e : Event} (h : e.instr.kind = .pipe)
    (more : List Event) : destined (es ++ e :: more) (some es.length) = destined es none := by
  have hsplit : es ++ e :: more = (es ++ [e]) ++ more := by simp
  rw [hsplit, destined_append_of_lt (by simp), destined_snoc_self, h]
  simp [Kind.takes]

/-- What a command gets: the attachment that is left for it, else in a pipe what goes there. -/
theorem Run.call_input (hg : g.OnlyAdds does) {chat : σ} {is : List Instr}
    {before after : List Note} {note : Note} (h : Run.steps g c { chat } is = .ok s)
    (hn : Run.notes g c { chat } is = before ++ note :: after) (hk : note.instr.kind.isCommand) :
    ∃ call, note.call = some call ∧ note.instr.args = call.name :: call.args ∧
      (unread (before.map Note.instr) = none →
        call.input =
          if note.instr.kind = .pipe then
            some ⟨destined (Run.events g does c { chat } is) (some before.length),
              lastCode (before.map (Note.event g does))⟩
          else none) ∧
      ∀ name, unread (before.map Note.instr) = some name →
        ∃ content, s.cache.lookup name = some content ∧ call.input = some (.ofBytes content) := by
  obtain ⟨t, ht, hbefore, hcall, hrest⟩ := note_at h hn
  obtain ⟨u, hstep, _⟩ := steps_cons_ok hrest
  obtain ⟨name, args, hargs, hsome⟩ := (took_of_step hstep).call?_eq hk
  have hholds := holds_of_steps ht
  unfold Holds at hholds
  refine ⟨_, hcall.trans hsome, hargs, ?_, ?_⟩
  · intro hu
    rw [hu] at hholds
    -- what the run has before the pipe is what would go into the reply if it ended there
    have hacc := accounts_of_steps hg ht
    unfold events at hacc
    rw [hbefore] at hacc
    have hout : t.out = ⟨destined (before.map (Note.event g does)) none,
        lastCode (before.map (Note.event g does))⟩ := by
      rw [← hacc.chunks, ← hacc.code]
    unfold events input
    split_ifs with hp
    · rw [hholds, hn, List.map_append, List.map_cons, Option.getD_none, hout]
      have hd := destined_of_pipe (before.map (Note.event g does)) (e := note.event g does) hp
        (after.map (Note.event g does))
      rw [← hd, List.length_map]
    · exact hholds
  · intro file hu
    rw [hu] at hholds
    obtain ⟨content, hc, hb⟩ := hholds
    refine ⟨content, cache_mono_steps hrest hc, ?_⟩
    unfold input
    split_ifs
    · rw [hb, Option.getD_some]
    · exact hb

/-! ## The law -/

theorem interpret_ok {style : ReplyStyle} {chat after : σ} {is : List Instr}
    (h : interpret g style c chat is = (after, .ok ())) :
    ∃ last : Run σ, Run.steps g c { chat } is = .ok last ∧
      c.send ⟨some (style.render (c.limit last.chat) last.out), last.files⟩ last.chat =
        (.ok (), after) := by
  unfold interpret at h
  cases hs : Run.steps g c { chat } is with
  | error a => simp [hs] at h
  | ok last =>
    simp only [hs, Run.deliver] at h
    refine ⟨last, rfl, ?_⟩
    rcases hd : c.send ⟨some (style.render (c.limit last.chat) last.out), last.files⟩ last.chat
      with ⟨_ | _, chat'⟩
    · simp [hd] at h
    · simp only [hd, Prod.mk.injEq, and_true] at h
      rw [h]

/-- In a run that ends well with handlers that only add, each file holds what goes to its
instruction, and the reply is made from what goes nowhere else. A command gets the attachment that
is left for it, else in a pipe what goes there, with the exit code set last from the pipe before
on. -/
theorem every_chunk_goes_to_the_next_instruction_that_takes_it (hg : g.OnlyAdds does)
    (style : ReplyStyle) (c : Chat σ) {chat after : σ} {is : List Instr}
    (h : interpret g style c chat is = (after, .ok ())) :
    ∃ last : Run σ,
      let es := Run.events g does c { chat } is
      es.map Event.instr = is ∧ Run.steps g c { chat } is = .ok last ∧
      c.send ⟨some (style.render (c.limit last.chat) last.out), last.files⟩ last.chat =
        (.ok (), after) ∧
      last.files = savedFiles es ∧ last.out.bytes = joined (destined es none) ∧
      ∀ before note later, Run.notes g c { chat } is = before ++ note :: later →
        note.instr.kind.isCommand →
        ∃ call, note.call = some call ∧ note.instr.args = call.name :: call.args ∧
          (unread (before.map Note.instr) = none →
            call.input =
              if note.instr.kind = .pipe then
                some ⟨destined es (some before.length), lastCode (before.map (Note.event g does))⟩
              else none) ∧
          ∀ name, unread (before.map Note.instr) = some name →
            ∃ content, last.cache.lookup name = some content ∧
              call.input = some (.ofBytes content) := by
  obtain ⟨last, hs, hsend⟩ := interpret_ok h
  have hacc := Run.accounts_of_steps hg hs
  refine ⟨last, ?_, hs, hsend, hacc.files, ?_, ?_⟩
  · rw [Run.events, List.map_map]
    exact Run.notes_instr hs
  · rw [Output.bytes, hacc.chunks]
  · intro before note later hn hk
    exact Run.call_input hg hs hn hk

/-- What a handler that sets no exit code adds to an empty output in an empty chat. -/
def Handler.adds (h : Handler) : Doing := fun args input =>
  ⟨((h.run args input {}).run Mailbox.chat {}).1.1.chunks, none⟩

theorem echo_onlyAdds : echo.OnlyAdds echo.adds := by
  intro args input out
  cases input <;> exact fun _ => rfl

theorem cb_onlyAdds : cb.OnlyAdds cb.adds := by
  intro args input out
  exact fun _ => rfl

/-- What the command under a name adds. -/
def Registry.adds (g : Registry) (name : String) : Doing :=
  match g.get? name with
  | some command => command.handler.adds
  | none => fun _ _ => {}

/-- The law speaks of the commands that are always there. -/
theorem Registry.builtin_onlyAdds : Registry.builtin.OnlyAdds Registry.builtin.adds := by
  intro name command hget
  have hadds : builtin.adds name = command.handler.adds := by
    unfold adds
    rw [hget]
  rw [hadds]
  rcases handler_of_builtin hget with h | h
  · rw [h]
    exact echo_onlyAdds
  · rw [h]
    exact cb_onlyAdds

/-- In `cb a b; echo b 1> x | echo` the complaint about the arguments passes the next statement and
its file, and comes to the pipe with its exit code. -/
theorem a_complaint_passes_a_statement_and_a_file :
    let row : List Instr :=
      [⟨.eval, ["cb", "a", "b"]⟩, ⟨.eval, ["echo", "b"]⟩, ⟨.saveOut, ["x"]⟩, ⟨.pipe, ["echo"]⟩]
    ∃ (last : Run Mailbox) (call : Call) (input : Output),
      Run.steps .builtin Mailbox.chat { chat := {} } row = .ok last ∧
      last.files = [⟨"x", Text.encode "b"⟩] ∧
      (Run.calls .builtin Mailbox.chat { chat := {} } row).getLast? = some call ∧
      call.input = some input ∧ input.chunks.map Chunk.stream = [.err] ∧ input.code = 1 := by
  intro row
  have hrun : interpret .builtin {} Mailbox.chat {} row = (_, .ok ()) := rfl
  obtain ⟨last, _, hs, _, hfiles, _, hcalls⟩ :=
    every_chunk_goes_to_the_next_instruction_that_takes_it Registry.builtin_onlyAdds {}
      Mailbox.chat hrun
  obtain ⟨call, hcall, _, hinput, _⟩ := hcalls [_, _, _] _ [] rfl rfl
  refine ⟨last, call, _, hs, ?_, hcall, hinput rfl, ?_, ?_⟩
  · rw [hfiles]
    decide +kernel
  · decide +kernel
  · decide +kernel

end ChatShell
