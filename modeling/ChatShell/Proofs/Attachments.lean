-- Which command an attachment goes to. Only a command uses an attachment up. A
-- redirection does not, nor does the end of a statement, so an attachment that is
-- named after the last command of a statement stays for the next statement.
import ChatShell.Chat.Mailbox
import ChatShell.Proofs.Parsing
import ChatShell.Proofs.Running

namespace ChatShell

open Message (Instr Kind Token)

variable {σ : Type} {g : Registry} {c : Chat σ} {r s : Run σ} {i : Instr}

/-! ## The attachment the next command gets -/

/-- The attachment named last, if no command stands after it. -/
def unread (is : List Instr) : Option String :=
  (is.reverse.takeWhile fun i => !i.kind.isCommand).findSome? fun i =>
    if i.kind = .attach then i.target else none

theorem unread_snoc (is : List Instr) (i : Instr) :
    unread (is ++ [i]) =
      if i.kind.isCommand then none
      else if i.kind = .attach then i.target.or (unread is) else unread is := by
  unfold unread
  rw [List.reverse_append, List.reverse_singleton, List.singleton_append, List.takeWhile_cons]
  cases hc : i.kind.isCommand with
  | true => rfl
  | false =>
    simp only [Bool.not_false, if_true, List.findSome?_cons, Bool.false_eq_true, if_false]
    split_ifs
    · cases i.target <;> rfl
    · rfl

/-- Every attachment stands before a command. -/
def Settled (is : List Instr) : Prop :=
  ∀ before i after, is = before ++ i :: after → i.kind = .attach → ∃ j ∈ after, j.kind.isCommand

theorem settled_nil : Settled [] := by
  intro before i after h
  simp at h

theorem settled_snoc (is : List Instr) (i : Instr) :
    Settled (is ++ [i]) ↔ i.kind.isCommand ∨ (i.kind ≠ .attach ∧ Settled is) := by
  constructor
  · intro h
    cases hc : i.kind.isCommand with
    | true => exact Or.inl rfl
    | false =>
      refine Or.inr ⟨?_, ?_⟩
      · intro hk
        obtain ⟨j, hj, _⟩ := h is i [] rfl hk
        cases hj
      · intro before a after hs hk
        obtain ⟨j, hj, hjc⟩ := h before a (after ++ [i]) (by simp [hs]) hk
        rcases List.mem_append.mp hj with hj | hj
        · exact ⟨j, hj, hjc⟩
        · rw [List.mem_singleton.mp hj, hc] at hjc
          cases hjc
  · intro h before a after hs hk
    -- either `a` is the last instruction, or `i` stands after it
    cases after using List.reverseRecOn with
    | nil =>
      have hai : i = a := by simpa using (List.append_inj' hs rfl).2
      subst hai
      rcases h with h | ⟨h, _⟩
      · rw [hk] at h
        cases h
      · exact absurd hk h
    | append_singleton after j =>
      rw [← List.cons_append, ← List.append_assoc] at hs
      obtain ⟨his, hij⟩ := List.append_inj' hs rfl
      cases hij
      rcases h with h | ⟨_, h⟩
      · exact ⟨i, by simp, h⟩
      · obtain ⟨k, hm, hkc⟩ := h before a after his hk
        exact ⟨k, List.mem_append_left _ hm, hkc⟩

/-- Every attachment is read exactly if none is left. -/
theorem unread_eq_none_iff {is : List Instr} (h : ∀ i ∈ is, i.kind = .attach → i.args ≠ []) :
    unread is = none ↔ Settled is := by
  induction is using List.reverseRecOn with
  | nil => exact ⟨fun _ => settled_nil, fun _ => rfl⟩
  | append_singleton is i ih =>
    rw [unread_snoc, settled_snoc, ← ih fun j hj => h j (List.mem_append_left _ hj)]
    split_ifs with hc hk
    · simp [hc]
    · have ht : i.target ≠ none := by
        have := h i (by simp) hk
        simpa [Instr.target] using this
      simp [hk, ht, Kind.isCommand]
    · simp [hc, hk]

/-- The run holds the attachment that is left, fetched in this run, and nothing else. -/
def Run.Holds (done : List Instr) (r : Run σ) : Prop :=
  match unread done with
  | none => r.bound = none
  | some name => ∃ content, r.cache.lookup name = some content ∧ r.bound = some (.ofBytes content)

theorem Run.Took.holds {done : List Instr} (h : Took g c r i s) (hr : r.Holds done) :
    s.Holds (done ++ [i]) := by
  unfold Holds at hr ⊢
  rw [unread_snoc]
  cases h with
  | again hl hc => exact ⟨_, hc, rfl⟩
  | fetched hl hc hf =>
    refine ⟨_, ?_, rfl⟩
    rw [List.lookup_append, hc, Option.none_or, List.lookup_cons_self]
  | @saved kind name more hk =>
    have hne : kind ≠ .attach := by
      rintro rfl
      cases hk
    rw [if_neg (by simp [Kind.isCommand_of_saves hk]), if_neg hne]
    exact hr
  | called hk hg hi =>
    rw [if_pos hk]

theorem Run.holds_of_steps {chat : σ} {is : List Instr}
    (h : Run.steps g c { chat } is = .ok r) : r.Holds is := by
  have hstart : Run.Holds [] ({ chat } : Run σ) := rfl
  exact foldlM_invariant (fun _ _ _ _ hr hs => (Run.took_of_step hs).holds hr) is hstart h

/-- What was fetched in a run stays as it is. -/
theorem Run.Took.cache_mono {name : String} {content : Text.Bytes} (h : Took g c r i s)
    (hc : r.cache.lookup name = some content) : s.cache.lookup name = some content := by
  cases h with
  | fetched hl hn hf =>
    rw [List.lookup_append, hc]
    rfl
  | again _ _ | saved _ | called _ _ _ => exact hc

theorem Run.cache_mono_steps {name : String} {content : Text.Bytes} {is : List Instr}
    (h : r.steps g c is = .ok s) (hc : r.cache.lookup name = some content) :
    s.cache.lookup name = some content :=
  foldlM_invariant (P := fun _ t => t.cache.lookup name = some content)
    (fun _ _ _ _ ht hs => (Run.took_of_step hs).cache_mono ht) is hc h

/-! ## The law -/

theorem Run.calls_cons (c : Chat σ) (r : Run σ) {name : String} (hg : g.contains name)
    (args : List String) (rest : List Instr) :
    ∃ later, r.calls g c (⟨.eval, name :: args⟩ :: rest) = ⟨name, args, r.bound⟩ :: later := by
  rw [calls, notes, r.call?_of_contains rfl hg]
  exact ⟨_, rfl⟩

/-- Instructions without an attachment start with a command. -/
theorem starts_with_eval {is : List Instr} (h : Message.WellFormed is)
    (hno : ∀ i ∈ is, i.kind ≠ .attach) (hcmd : ∃ i ∈ is, i.kind.isCommand) :
    ∃ name args rest, is = ⟨.eval, name :: args⟩ :: rest := by
  obtain ⟨j, hj, _⟩ := hcmd
  cases is with
  | nil => cases hj
  | cons i rest =>
    have hi := hno i (by simp)
    have hk : i.kind = .eval := h.first_eval i (by simp [hi])
    obtain ⟨kind, args⟩ := i
    cases args with
    | nil => exact absurd rfl (h.has_args _ (by simp) hi)
    | cons name args =>
      cases hk
      exact ⟨name, args, rest, rfl⟩

/-- The first command after a `;` gets no input exactly if every attachment named before the `;`
stands before a command there. Else it gets the attachment that was named last. -/
theorem an_attachment_stays_for_the_next_statement_if_no_command_read_it (sh : Shell) (c : Chat σ)
    (chat : σ) (s₁ s₂ : String) {i₁ i₂ : List Instr} {ts : List Token} {r : Run σ}
    (h₁ : sh.compile s₁ = .ok i₁) (h₂ : sh.compile s₂ = .ok i₂) (ht : sh.tokenize s₂ = .ok ts)
    (hno : Token.op .attach ∉ ts) (hcmd : ∃ i ∈ i₂, i.kind.isCommand)
    (hr : Run.steps sh.registry c { chat } i₁ = .ok r) :
    ∃ name args input rest,
      i₂ = ⟨.eval, name :: args⟩ :: rest ∧
      (sh.registry.contains name → ∃ later,
        sh.calls c chat (s₁ ++ ";" ++ s₂) = sh.calls c chat s₁ ++ ⟨name, args, input⟩ :: later) ∧
      (input = none ↔ Settled i₁) ∧
      ∀ file, unread i₁ = some file →
        ∃ content, r.cache.lookup file = some content ∧ input = some (.ofBytes content) := by
  have hjoined : sh.compile (s₁ ++ ";" ++ s₂) = .ok (i₁ ++ i₂) := Message.compile_semicolon h₁ h₂
  have hunattached : ∀ i ∈ i₂, i.kind ≠ .attach := by
    have hp : Message.parse ts = .ok i₂ := Message.parse_of_compile h₂ ht
    exact Message.parse_unattached hp hno
  obtain ⟨name, args, rest, rfl⟩ :=
    starts_with_eval (Message.compile_wellFormed h₂) hunattached hcmd
  have hw := Message.compile_wellFormed h₁
  have hsettled : unread i₁ = none ↔ Settled i₁ := by
    refine unread_eq_none_iff ?_
    intro i hi hk
    exact List.ne_nil_of_length_eq_add_one (hw.attach_one i hi hk)
  have hholds := Run.holds_of_steps hr
  unfold Run.Holds at hholds
  refine ⟨name, args, r.bound, rest, rfl, ?_, ?_, ?_⟩
  · intro hg
    obtain ⟨later, hl⟩ := Run.calls_cons c r hg args rest
    refine ⟨later, ?_⟩
    simp only [Shell.calls, hjoined, h₁]
    rw [Run.calls_append hr, hl]
  · rw [← hsettled]
    cases hu : unread i₁ with
    | none => simpa [hu] using hholds
    | some file =>
      rw [hu] at hholds
      obtain ⟨content, _, hb⟩ := hholds
      simp [hb]
  · intro file hu
    rw [hu] at hholds
    exact hholds

/-- A chat with one attachment. -/
def oneAttachment : Mailbox := { attachments := .ofList [("f", Text.encode "DATA")] }

/-- An attachment of a command is used up there. -/
theorem an_attachment_that_is_read_does_not_stay :
    ∃ later, Shell.calls {} Mailbox.chat oneAttachment ("echo < f" ++ ";" ++ "echo plain") =
      Shell.calls {} Mailbox.chat oneAttachment "echo < f" ++
        ⟨"echo", ["plain"], none⟩ :: later := by
  have hsettled : Settled [⟨.attach, ["f"]⟩, ⟨.eval, ["echo"]⟩] := by
    rw [← unread_eq_none_iff (by decide)]
    rfl
  obtain ⟨name, args, input, rest, hi₂, hcalls, hiff, _⟩ :=
    an_attachment_stays_for_the_next_statement_if_no_command_read_it {} Mailbox.chat oneAttachment
      "echo < f" "echo plain" rfl rfl rfl (by decide) (by decide) rfl
  cases hi₂
  rw [hiff.mpr hsettled] at hcalls
  exact hcalls rfl

/-- An attachment named after the last command of its statement is the input of the next
statement. -/
theorem an_attachment_after_a_redirection_stays :
    ∃ i₁ i₂ ts r,
      Shell.compile {} "echo a > out.txt < f" = .ok i₁ ∧ Shell.compile {} "echo b" = .ok i₂ ∧
      Shell.tokenize {} "echo b" = .ok ts ∧ Token.op .attach ∉ ts ∧
      (∃ i ∈ i₂, i.kind.isCommand) ∧
      Run.steps .builtin Mailbox.chat { chat := oneAttachment } i₁ = .ok r ∧
      Shell.calls {} Mailbox.chat oneAttachment ("echo a > out.txt < f" ++ ";" ++ "echo b") =
        [⟨"echo", ["a"], none⟩, ⟨"echo", ["b"], some (.ofBytes (Text.encode "DATA"))⟩] :=
  ⟨_, _, _, _, rfl, rfl, rfl, by decide, by decide, rfl, by decide +kernel⟩

end ChatShell
