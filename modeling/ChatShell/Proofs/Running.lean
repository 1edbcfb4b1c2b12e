-- What one instruction can do to a run, and the calls that a run makes. Each kind
-- of instruction takes the chunks of some streams out of the output and leaves the
-- others, and only a command writes.
import ChatShell.Shell
import ChatShell.Proofs.Fold

namespace ChatShell

open Message (Instr Kind)

/-! ## What an instruction takes out of the output -/

/-- The instruction takes the chunks of the stream out of the output. -/
def Message.Kind.takes : Kind → Stream → Bool
  | .save, _ | .pipe, _ => true
  | .saveOut, s | .eval, s => s = .out
  | .saveErr, s => s = .err
  | .attach, _ => false

/-- The instruction makes a file. -/
def Message.Kind.saves : Kind → Bool
  | .save | .saveOut | .saveErr => true
  | .eval | .pipe | .attach => false

theorem Message.Kind.isCommand_of_saves {kind : Kind} (h : kind.saves) :
    kind.isCommand = false := by
  cases kind with
  | eval | pipe | attach => cases h
  | save | saveOut | saveErr => rfl

theorem Message.Kind.saves_of_isCommand {kind : Kind} (h : kind.isCommand) :
    kind.saves = false := by
  cases kind with
  | eval | pipe => rfl
  | save | saveOut | saveErr | attach => cases h

namespace Output

/-- The chunks that an instruction of the kind takes out. -/
def taken (o : Output) (kind : Kind) : List Chunk := o.chunks.filter fun ch => kind.takes ch.stream

/-- What an instruction of the kind leaves. A pipe starts again with exit code 0. -/
def left (o : Output) (kind : Kind) : Output :=
  ⟨o.chunks.filter fun ch => !kind.takes ch.stream, if kind = .pipe then 0 else o.code⟩

theorem takeAll_eq (o : Output) : o.takeAll = (joined (o.taken .save), o.left .save) := by
  have hall : o.chunks.filter (fun _ => true) = o.chunks := by simp
  simp [takeAll, bytes, taken, left, Kind.takes, hall]

theorem take_out_eq (o : Output) : o.take .out = (joined (o.taken .saveOut), o.left .saveOut) := by
  simp [take, bytesOf, chunksOf, drop, taken, left, Kind.takes]

theorem take_err_eq (o : Output) : o.take .err = (joined (o.taken .saveErr), o.left .saveErr) := by
  simp [take, bytesOf, chunksOf, drop, taken, left, Kind.takes]

theorem left_attach (o : Output) : o.left .attach = o := by
  have hall : o.chunks.filter (fun _ => true) = o.chunks := by simp
  simp [left, Kind.takes, hall]

theorem left_pipe (o : Output) : o.left .pipe = {} := by
  simp [left, Kind.takes]

theorem left_eval (o : Output) : o.left .eval = o.drop .out := by
  simp [left, drop, Kind.takes]

end Output

/-! ## One instruction -/

variable {σ : Type} {g : Registry} {c : Chat σ} {r s : Run σ} {i : Instr}

/-- What a run can do with an instruction that it takes. -/
inductive Run.Took (g : Registry) (c : Chat σ) (r : Run σ) : Instr → Run σ → Prop
  | again {name : String} {more : List String} {handle : Handle} {content : Text.Bytes}
      (hl : (c.attachments r.chat).get? name = some handle)
      (hc : r.cache.lookup name = some content) :
      Took g c r ⟨.attach, name :: more⟩ { r with bound := some (.ofBytes content) }
  | fetched {name : String} {more : List String} {handle : Handle} {content : Text.Bytes}
      {chat : σ} (hl : (c.attachments r.chat).get? name = some handle)
      (hc : r.cache.lookup name = none) (hf : c.fetch handle r.chat = (.ok content, chat)) :
      Took g c r ⟨.attach, name :: more⟩
        { r with
          chat, cache := r.cache ++ [(name, content)], bound := some (.ofBytes content) }
  | saved {kind : Kind} {name : String} {more : List String} (hk : kind.saves) :
      Took g c r ⟨kind, name :: more⟩
        { r with
          out := r.out.left kind, files := r.files ++ [⟨name, joined (r.out.taken kind)⟩] }
  | called {kind : Kind} {name : String} {args : List String} {command : Command} {out : Output}
      {chat : σ} (hk : kind.isCommand) (hg : g.get? name = some command)
      (hi : (command.dialogue args (r.input kind) (r.out.left kind)).run c r.chat =
        ((out, none), chat)) :
      Took g c r ⟨kind, name :: args⟩ { r with chat, out, bound := none }

namespace Run

theorem took_of_attach {name : String} {more : List String} (h : r.attach c name = .ok s) :
    Took g c r ⟨.attach, name :: more⟩ s := by
  unfold attach at h
  cases hl : (c.attachments r.chat).get? name with
  | none => simp [hl, abort] at h
  | some handle =>
    cases hc : r.cache.lookup name with
    | some content =>
      simp only [hl, hc, Except.ok.injEq] at h
      subst h
      exact .again hl hc
    | none =>
      rcases hf : c.fetch handle r.chat with ⟨_ | content, chat⟩
      · simp [hl, hc, hf] at h
      · simp only [hl, hc, hf, Except.ok.injEq] at h
        subst h
        exact .fetched hl hc hf

theorem took_of_call {kind : Kind} {name : String} {args : List String} (hk : kind.isCommand)
    (h : { r with out := r.out.left kind }.call g c name args (r.input kind) = .ok s) :
    Took g c r ⟨kind, name :: args⟩ s := by
  unfold call at h
  cases hg : g.get? name with
  | none => simp [hg, abort] at h
  | some command =>
    rcases hi : (command.dialogue args (r.input kind) (r.out.left kind)).run c r.chat with
      ⟨⟨out, _ | e⟩, chat⟩
    · simp only [hg, hi, Except.ok.injEq] at h
      subst h
      exact .called hk hg hi
    · simp [hg, hi] at h

theorem took_of_step (h : r.step g c i = .ok s) : Took g c r i s := by
  obtain ⟨kind, args⟩ := i
  unfold step at h
  cases args with
  | nil => simp [abort] at h
  | cons name rest =>
    cases kind with
    | attach => exact took_of_attach h
    | save =>
      cases h
      rw [Output.takeAll_eq]
      exact .saved rfl
    | saveOut =>
      cases h
      rw [Output.take_out_eq]
      exact .saved rfl
    | saveErr =>
      cases h
      rw [Output.take_err_eq]
      exact .saved rfl
    | pipe =>
      refine took_of_call rfl ?_
      rw [Output.left_pipe]
      exact h
    | eval =>
      refine took_of_call rfl ?_
      rw [Output.left_eval]
      exact h

end Run

/-! ## Calls -/

/-- A command run on arguments and perhaps an input. -/
structure Call where
  name : String
  args : List String
  input : Option Output
  deriving DecidableEq

/-- The call that an instruction makes, if it has a command and there is one under its name. -/
def Run.call? (g : Registry) (r : Run σ) (i : Instr) : Option Call :=
  match i.args with
  | [] => none
  | name :: args =>
    if i.kind.isCommand && g.contains name then some ⟨name, args, r.input i.kind⟩ else none

/-- An instruction of a run, and the call it makes. -/
structure Note where
  instr : Instr
  call : Option Call := none

/-- The instructions of a run up to the one that ends it, if one does, and their calls. -/
def Run.notes (g : Registry) (c : Chat σ) (r : Run σ) : List Instr → List Note
  | [] => []
  | i :: rest =>
    ⟨i, r.call? g i⟩ ::
      match r.step g c i with
      | .ok s => s.notes g c rest
      | .error _ => []

/-- The calls that a run makes. -/
def Run.calls (g : Registry) (c : Chat σ) (r : Run σ) (is : List Instr) : List Call :=
  (r.notes g c is).filterMap Note.call

/-- The calls that a message makes. -/
def Shell.calls (sh : Shell) (c : Chat σ) (chat : σ) (source : String) : List Call :=
  match sh.compile source with
  | .ok is => Run.calls sh.registry c { chat } is
  | .error _ => []

theorem Registry.contains_of_get? {name : String} {command : Command}
    (h : g.get? name = some command) : g.contains name := by
  unfold contains get? at *
  rw [NameMap.contains_eq_isSome, h]
  rfl

theorem Run.call?_of_contains {kind : Kind} {name : String} (r : Run σ) (hk : kind.isCommand)
    (hg : g.contains name) (args : List String) :
    r.call? g ⟨kind, name :: args⟩ = some ⟨name, args, r.input kind⟩ := by
  simp [call?, hk, hg]

/-- A command that a run takes is called. -/
theorem Run.Took.call?_eq (h : Took g c r i s) (hk : i.kind.isCommand) :
    ∃ name args, i.args = name :: args ∧ r.call? g i = some ⟨name, args, r.input i.kind⟩ := by
  cases h with
  | again hl hc | fetched hl hc hf => cases hk
  | saved hs =>
    rw [Kind.isCommand_of_saves hs] at hk
    cases hk
  | @called kind name args command out chat hk hg hi =>
    exact ⟨name, args, rfl, r.call?_of_contains hk (Registry.contains_of_get? hg) args⟩

theorem Run.call?_of_not_isCommand (g : Registry) (r : Run σ) (h : i.kind.isCommand = false) :
    r.call? g i = none := by
  unfold call?
  cases i.args <;> simp [h]

/-- An instruction that makes a call runs the command of that name on those arguments and that
input. -/
theorem Run.step_of_call? {call : Call} (h : r.call? g i = some call) :
    g.contains call.name ∧
      r.step g c i =
        { r with out := r.out.left i.kind }.call g c call.name call.args call.input := by
  obtain ⟨kind, args⟩ := i
  unfold call? at h
  cases args with
  | nil => cases h
  | cons name args =>
    simp only [Option.ite_none_right_eq_some, Bool.and_eq_true, Option.some.injEq] at h
    obtain ⟨⟨hk, hg⟩, rfl⟩ := h
    refine ⟨hg, ?_⟩
    cases kind with
    | pipe =>
      rw [Output.left_pipe]
      rfl
    | eval =>
      rw [Output.left_eval]
      rfl
    | save | saveOut | saveErr | attach => cases hk

theorem Run.steps_cons_ok {rest : List Instr} (h : r.steps g c (i :: rest) = .ok s) :
    ∃ t, r.step g c i = .ok t ∧ t.steps g c rest = .ok s :=
  foldlM_cons_ok h

theorem Run.steps_append_ok {is more : List Instr} (h : r.steps g c (is ++ more) = .ok s) :
    ∃ t, r.steps g c is = .ok t ∧ t.steps g c more = .ok s :=
  foldlM_append_ok h

theorem Run.steps_snoc_ok {is : List Instr} {t : Run σ} (h : r.steps g c is = .ok s)
    (hi : s.step g c i = .ok t) : r.steps g c (is ++ [i]) = .ok t := by
  unfold steps at h ⊢
  rw [List.foldlM_append, h]
  show [i].foldlM (step g c) s = _
  rw [List.foldlM_cons, hi]
  rfl

theorem Run.notes_append {is : List Instr} (h : r.steps g c is = .ok s) (more : List Instr) :
    r.notes g c (is ++ more) = r.notes g c is ++ s.notes g c more := by
  induction is generalizing r with
  | nil =>
    cases h
    rfl
  | cons i rest ih =>
    obtain ⟨t, hs, ht⟩ := steps_cons_ok h
    simp only [List.cons_append, notes, hs, ih ht]

theorem Run.notes_snoc {is : List Instr} (h : r.steps g c is = .ok s) (i : Instr) :
    r.notes g c (is ++ [i]) = r.notes g c is ++ [⟨i, s.call? g i⟩] := by
  rw [notes_append h, notes]
  cases s.step g c i <;> rfl

/-- A run that comes to its end has taken every instruction. -/
theorem Run.notes_instr {is : List Instr} (h : r.steps g c is = .ok s) :
    (r.notes g c is).map Note.instr = is := by
  induction is generalizing r with
  | nil => rfl
  | cons i rest ih =>
    obtain ⟨t, hs, ht⟩ := steps_cons_ok h
    simp only [notes, hs, List.map_cons, ih ht]

/-- A note in the middle of a run: the run up to there, the call, and the rest of the run. -/
theorem Run.note_at {is : List Instr} {before after : List Note} {note : Note}
    (h : r.steps g c is = .ok s) (hn : r.notes g c is = before ++ note :: after) :
    ∃ t, r.steps g c (before.map Note.instr) = .ok t ∧
      r.notes g c (before.map Note.instr) = before ∧ note.call = t.call? g note.instr ∧
      t.steps g c (note.instr :: after.map Note.instr) = .ok s := by
  have his : is = before.map Note.instr ++ note.instr :: after.map Note.instr := by
    rw [← notes_instr h, hn, List.map_append, List.map_cons]
  rw [his] at h hn
  obtain ⟨t, ht, hrest⟩ := steps_append_ok h
  have hlen : (r.notes g c (before.map Note.instr)).length = before.length := by
    have hm := congrArg List.length (notes_instr ht)
    simpa using hm
  rw [notes_append ht] at hn
  obtain ⟨hbefore, hcons⟩ := List.append_inj hn hlen
  rw [notes, List.cons.injEq] at hcons
  refine ⟨t, ht, hbefore, ?_, hrest⟩
  rw [← hcons.1]

theorem Run.calls_append {is : List Instr} (h : r.steps g c is = .ok s) (more : List Instr) :
    r.calls g c (is ++ more) = r.calls g c is ++ s.calls g c more := by
  unfold calls
  rw [notes_append h, List.filterMap_append]

end ChatShell
