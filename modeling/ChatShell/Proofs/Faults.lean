-- Which messages fail, and with which error, in a chat in memory and with the
-- commands that are always there. An attachment fails if it is not listed, and a
-- command if there is none of its name. Once a message is compiled nothing else
-- fails, and the error is the first fault in order.
import ChatShell.Proofs.Chats
import ChatShell.Proofs.Parsing

namespace ChatShell

open Message (Instr Kind)

/-- What is wrong with an instruction where these are the attachments. -/
def Message.Instr.fault? (files : NameMap Text.Bytes) (i : Instr) : Option ShellError :=
  i.target.bind fun name =>
    match i.kind with
    | .attach => if files.contains name then none else some (.noAttachment name)
    | .eval | .pipe =>
      if name = "echo" ∨ name = "cb" then none else some (.command (.notFound name))
    | .save | .saveOut | .saveErr => none

/-! ## One instruction -/

variable {σ : Type} {c : Chat σ} {r : Run Mailbox} {i : Instr}

/-- No answer changes the attachments. -/
theorem Mailbox.attachments_answer (q : Request) (m : Mailbox) :
    (Mailbox.chat.answer m q).2.attachments = m.attachments := by
  cases q with
  | attachments | limit | send reply => rfl
  | fetch handle =>
    simp only [Chat.answer, Mailbox.chat, Mailbox.fetch]
    cases m.attachments.get? handle <;> rfl

/-- An attachment that is listed is bound, fetched before or not. -/
theorem Run.attach_of_contains {name : String} (h : r.chat.attachments.contains name) :
    ∃ s, r.attach Mailbox.chat name = .ok s := by
  rw [NameMap.contains_eq_isSome, Option.isSome_iff_exists] at h
  obtain ⟨content, hc⟩ := h
  have hlisted : (Mailbox.chat.attachments r.chat).get? name = some name := by
    show r.chat.handles.get? name = some name
    rw [Mailbox.get?_handles, hc]
    rfl
  have hfetch : Mailbox.chat.fetch name r.chat =
      (.ok content, { r.chat with fetched := r.chat.fetched ++ [name] }) := by
    simp only [Mailbox.chat, Mailbox.fetch, hc]
  unfold attach
  rw [hlisted]
  dsimp only
  cases r.cache.lookup name with
  | some cached => exact ⟨_, rfl⟩
  | none =>
    rw [hfetch]
    exact ⟨_, rfl⟩

theorem Run.attach_of_not_contains {name : String} (h : r.chat.attachments.contains name = false) :
    r.attach Mailbox.chat name = r.abort (.noAttachment name) := by
  rw [NameMap.contains_eq_isSome, Option.isSome_eq_false_iff, Option.isNone_iff_eq_none] at h
  have hlisted : (Mailbox.chat.attachments r.chat).get? name = none := by
    show r.chat.handles.get? name = none
    rw [Mailbox.get?_handles, h]
    rfl
  unfold attach
  rw [hlisted]

/-- The commands that are always there never fail, whatever their arguments are. -/
theorem Registry.builtin_ends {name : String} {command : Command}
    (h : Registry.builtin.get? name = some command) (args : List String) (input : Option Output)
    (out : Output) : (command.dialogue args input out).Ends fun ran => ran.2 = none := by
  rcases command.dialogue_cases args input out with ⟨given, hd⟩ | ⟨after, hd⟩
  · rw [hd]
    rcases handler_of_builtin h with hh | hh
    · rw [hh]
      cases input <;> rfl
    · rw [hh]
      rfl
  · rw [hd]
    rfl

theorem Run.call_of_builtin {r : Run σ} {name : String} (h : name = "echo" ∨ name = "cb")
    (args : List String) (input : Option Output) :
    ∃ s, r.call .builtin c name args input = .ok s := by
  obtain ⟨command, hget⟩ : ∃ command, Registry.builtin.get? name = some command := by
    rw [Registry.get?_builtin]
    rcases h with rfl | rfl
    · exact ⟨_, rfl⟩
    · exact ⟨_, rfl⟩
  have hends := (Registry.builtin_ends hget args input r.out).run c r.chat
  unfold call
  rw [hget]
  dsimp only
  rcases hrun : (command.dialogue args input r.out).run c r.chat with ⟨⟨out, _ | e⟩, chat⟩
  · exact ⟨_, rfl⟩
  · rw [hrun] at hends
    cases hends

theorem Run.call_of_not_builtin {r : Run σ} {name : String} (h : ¬(name = "echo" ∨ name = "cb"))
    (args : List String) (input : Option Output) :
    r.call .builtin c name args input = r.abort (.command (.notFound name)) := by
  rw [not_or] at h
  have hget : Registry.builtin.get? name = none := by
    rw [Registry.get?_builtin, if_neg h.2, if_neg h.1]
  unfold call
  rw [hget]

/-- An instruction with a fault ends the run with it. -/
theorem Run.step_of_fault {e : ShellError} (h : i.fault? r.chat.attachments = some e) :
    r.step .builtin Mailbox.chat i = r.abort e := by
  obtain ⟨kind, args⟩ := i
  cases args with
  | nil => cases h
  | cons name rest =>
    cases kind with
    | save | saveOut | saveErr => cases h
    | attach =>
      simp only [Instr.fault?, Instr.target, List.head?_cons, Option.bind_some,
        Option.ite_none_left_eq_some, Option.some.injEq] at h
      obtain ⟨hno, rfl⟩ := h
      exact attach_of_not_contains (by simpa using hno)
    | eval | pipe =>
      simp only [Instr.fault?, Instr.target, List.head?_cons, Option.bind_some,
        Option.ite_none_left_eq_some, Option.some.injEq] at h
      obtain ⟨hno, rfl⟩ := h
      exact call_of_not_builtin hno rest _

/-- An instruction without one is taken. -/
theorem Run.step_of_no_fault (hargs : i.args ≠ []) (h : i.fault? r.chat.attachments = none) :
    ∃ s, r.step .builtin Mailbox.chat i = .ok s := by
  obtain ⟨kind, args⟩ := i
  cases args with
  | nil => exact absurd rfl hargs
  | cons name rest =>
    cases kind with
    | save | saveOut | saveErr => exact ⟨_, rfl⟩
    | attach =>
      simp only [Instr.fault?, Instr.target, List.head?_cons, Option.bind_some,
        ite_eq_left_iff, reduceCtorEq, imp_false, not_not] at h
      exact attach_of_contains h
    | eval | pipe =>
      simp only [Instr.fault?, Instr.target, List.head?_cons, Option.bind_some,
        ite_eq_left_iff, reduceCtorEq, imp_false, not_not] at h
      exact call_of_builtin h rest _

/-! ## A whole run -/

/-- A run ends with the first fault of its instructions, and comes to its end if there is none. -/
theorem Run.steps_fault {is : List Instr} (hargs : ∀ i ∈ is, i.args ≠ []) :
    match is.findSome? (Instr.fault? r.chat.attachments) with
    | some e => ∃ chat, r.steps .builtin Mailbox.chat is = .error ⟨chat, e⟩
    | none => ∃ s, r.steps .builtin Mailbox.chat is = .ok s := by
  induction is generalizing r with
  | nil => exact ⟨r, rfl⟩
  | cons i rest ih =>
    unfold steps
    rw [List.findSome?_cons, List.foldlM_cons]
    cases hf : i.fault? r.chat.attachments with
    | some e =>
      rw [step_of_fault hf]
      exact ⟨r.chat, rfl⟩
    | none =>
      obtain ⟨s, hs⟩ := step_of_no_fault (hargs i (by simp)) hf
      have hkept : (chatOf (r.step .builtin Mailbox.chat i)).attachments = r.chat.attachments :=
        step_keeps (P := fun m => m.attachments = r.chat.attachments)
          Registry.builtin.avoids_nothing
          (fun q m _ hm => (Mailbox.attachments_answer q m).trans hm) (fun _ _ => not_false) rfl
      rw [hs] at hkept
      rw [hs, ← show s.chat.attachments = r.chat.attachments from hkept]
      exact ih fun j hj => hargs j (by simp [hj])

theorem interpret_fault (style : ReplyStyle) (m : Mailbox) {is : List Instr}
    (hargs : ∀ i ∈ is, i.args ≠ []) :
    (interpret .builtin style Mailbox.chat m is).2 =
      match is.findSome? (Instr.fault? m.attachments) with
      | some e => .error e
      | none => .ok () := by
  have hrun := Run.steps_fault (r := { chat := m }) hargs
  unfold interpret
  cases hf : is.findSome? (Instr.fault? m.attachments) with
  | some e =>
    rw [hf] at hrun
    obtain ⟨chat, hs⟩ := hrun
    rw [hs]
  | none =>
    rw [hf] at hrun
    obtain ⟨r, hs⟩ := hrun
    rw [hs]
    rfl

/-- A fault is about a name: of an attachment or of a command that is not there. -/
theorem Message.Instr.fault?_cases {files : NameMap Text.Bytes} {e : ShellError}
    (h : i.fault? files = some e) :
    ∃ name, e = .noAttachment name ∨ e = .command (.notFound name) := by
  obtain ⟨name, _, hname⟩ := Option.bind_eq_some_iff.mp h
  refine ⟨name, ?_⟩
  cases hk : i.kind with
  | attach =>
    simp only [hk, Option.ite_none_left_eq_some, Option.some.injEq] at hname
    exact Or.inl hname.2.symm
  | eval | pipe =>
    simp only [hk, Option.ite_none_left_eq_some, Option.some.injEq] at hname
    exact Or.inr hname.2.symm
  | save | saveOut | saveErr =>
    rw [hk] at hname
    cases hname

/-! ## The law -/

theorem Message.WellFormed.args_ne_nil {is : List Instr} (h : WellFormed is) :
    ∀ i ∈ is, i.args ≠ [] := by
  intro i hi
  by_cases hk : i.kind = .attach
  · exact List.ne_nil_of_length_eq_add_one (h.attach_one i hi hk)
  · exact h.has_args i hi hk

/-- A message ends with its scan error, else with its parse error, else with the first fault of its
instructions, and without one of them it ends well, whatever the arguments of its commands are. So
no message ends for want of a name, by a command that fails, or by the chat. -/
theorem a_message_ends_with_its_first_fault (config : Config) (m : Mailbox) (source : String) :
    let ended := (Shell.execute { config } Mailbox.chat m source).2
    (ended =
      match Message.tokenize source config.lookup with
      | .error e => .error (.source (.scan e))
      | .ok tokens =>
        match Message.parse tokens with
        | .error e => .error (.source (.parse e))
        | .ok is =>
          match is.findSome? (Instr.fault? m.attachments) with
          | some e => .error e
          | none => .ok ()) ∧
      (∀ kind, ended ≠ .error (.noTarget kind)) ∧
      (∀ name, ended ≠ .error (.command (.notImplemented name))) ∧
      (∀ name text, ended ≠ .error (.command (.failed name text))) ∧
      ∀ f, ended ≠ .error (.transport f) := by
  intro ended
  have hended : ended = (Shell.execute { config } Mailbox.chat m source).2 := rfl
  unfold Shell.execute Shell.compile Message.compile at hended
  cases ht : Message.tokenize source config.lookup with
  | error e =>
    simp only [ht] at hended
    simp [hended]
  | ok tokens =>
    dsimp only
    cases hp : Message.parse tokens with
    | error e =>
      simp only [ht, hp] at hended
      simp [hended]
    | ok is =>
      have hargs := (Message.parse_wellFormed hp).args_ne_nil
      simp only [ht, hp] at hended
      rw [interpret_fault _ m hargs] at hended
      refine ⟨hended, ?_⟩
      cases hf : is.findSome? (Instr.fault? m.attachments) with
      | none => simp [hended, hf]
      | some e =>
        obtain ⟨i, _, hi⟩ := List.exists_of_findSome?_eq_some hf
        obtain ⟨name, rfl | rfl⟩ := Instr.fault?_cases hi
        · simp [hended, hf]
        · simp [hended, hf]

/-- In `echo a; cb --no; nope < gone` the arguments of `cb` do no harm, and the attachment that is
missing comes before the command that is. -/
example : (Shell.execute {} Mailbox.chat {} "echo a; cb --no; nope < gone").2 =
    .error (.noAttachment "gone") := by
  decide +kernel

end ChatShell
