-- How the parser takes a row of tokens apart in the middle, and which rows of
-- instructions it gives. What stands before a `;` only moves the places of errors
-- and goes in front of the instructions, so a message of two parts with a `;`
-- between them has the instructions of the one and then of the other.
import ChatShell.Message.Parse
import ChatShell.Proofs.Scanning
import Mathlib.Data.List.Induction

namespace ChatShell.Message

/-! ## One token -/

/-- What a parser can do with a token that it takes. -/
inductive Parser.Took (p : Parser) : Token → Parser → Prop
  | fileName {place : Nat} {name : String} (hw : p.wanting = some place) :
      Took p (.word name) ⟨p.index + 1, p.instrs ++ [⟨.attach, [name]⟩], p.stage, none⟩
  | word {text : String} (hw : p.wanting = none) :
      Took p (.word text)
        ⟨p.index + 1, p.instrs, ⟨p.stage.kind, p.stage.args ++ [text]⟩, none⟩
  | less (hw : p.wanting = none) :
      Took p (.op .attach) ⟨p.index + 1, p.instrs, p.stage, some p.index⟩
  | ignored {o : Operator} (hw : p.wanting = none) (ho : o.opens? = none) (ha : o ≠ .attach) :
      Took p (.op o) ⟨p.index + 1, p.instrs, p.stage, none⟩
  | close {o : Operator} {kind : Kind} (hw : p.wanting = none) (ho : o.opens? = some kind)
      (hs : p.stage.args ≠ []) :
      Took p (.op o) ⟨p.index + 1, p.instrs ++ [p.stage], ⟨kind, []⟩, none⟩
  | drop (hw : p.wanting = none) (hs : p.stage = ⟨.eval, []⟩) :
      Took p (.op .semicolon) ⟨p.index + 1, p.instrs, ⟨.eval, []⟩, none⟩

namespace Parser

variable {p q : Parser} {t : Token}

theorem took_of_close {o : Operator} {kind : Kind} {instrs : List Instr}
    (hw : p.wanting = none) (ho : o.opens? = some kind) (h : p.close o = .ok instrs) :
    Took p (.op o) ⟨p.index + 1, instrs, ⟨kind, []⟩, none⟩ := by
  unfold close at h
  split_ifs at h with he hk
  · obtain ⟨hk, rfl⟩ := hk
    cases h
    cases ho
    have hs : p.stage = ⟨.eval, []⟩ := by
      cases hp : p.stage
      simp_all
    exact .drop hw hs
  · cases h
    exact .close hw ho (by simpa using he)

theorem took_of_take (h : p.take t = .ok q) : Took p t { q with index := p.index + 1 } := by
  obtain ⟨index, instrs, stage, wanting⟩ := p
  unfold take at h
  cases wanting with
  | some place =>
    cases t with
    | word name =>
      cases h
      exact .fileName rfl
    | op o => cases h
  | none =>
    cases t with
    | word text =>
      cases h
      exact .word rfl
    | op o =>
      by_cases ha : o = .attach
      · subst ha
        cases h
        exact .less rfl
      · simp only at h
        cases ho : o.opens? with
        | none =>
          simp only [ho, Except.ok.injEq] at h
          subst h
          exact .ignored rfl ho ha
        | some kind =>
          simp only [ho] at h
          obtain ⟨closed, hc, rfl⟩ := map_eq_ok_iff.mp h
          exact took_of_close rfl ho hc

theorem took_of_step (h : p.step t = .ok q) : Took p t q := by
  unfold step at h
  obtain ⟨r, ht, rfl⟩ := map_eq_ok_iff.mp h
  exact took_of_take ht

theorem step_of_took (h : Took p t q) : p.step t = .ok q := by
  obtain ⟨index, instrs, stage, wanting⟩ := p
  cases h with
  | fileName hw =>
    cases hw
    rfl
  | word hw =>
    cases hw
    rfl
  | less hw =>
    cases hw
    rfl
  | @ignored o hw ho ha =>
    cases hw
    cases o <;> first | rfl | contradiction
  | @close o kind hw ho hs =>
    cases hw
    have hc : close ⟨index, instrs, stage, none⟩ o = .ok (instrs ++ [stage]) := by
      have hs' : stage.args ≠ [] := hs
      simp [close, hs']
    cases o <;> simp_all [step, take, Except.map, Operator.opens?]
  | drop hw hs =>
    cases hw
    cases hs
    rfl

/-- A token fails if it stands where a name should, or if it closes a stage without a word. -/
theorem step_eq_error {e : ParseError} (h : p.step t = .error e) :
    (∃ i o, p.wanting = some i ∧ t = .op o ∧ e = .noFileName i) ∨
      ∃ o next, p.wanting = none ∧ t = .op o ∧ o.opens? = some next ∧ p.stage.args = [] ∧
        ¬(p.stage.kind = .eval ∧ o = .semicolon) ∧ e = .emptyStage p.stage.kind := by
  have ht : p.take t = .error e := by
    unfold step at h
    cases hx : p.take t with
    | error d =>
      rw [hx] at h
      exact h
    | ok r =>
      rw [hx] at h
      cases h
  unfold take at ht
  split at ht
  · cases ht
  · rename_i i o hw
    cases ht
    exact Or.inl ⟨i, o, hw, rfl, rfl⟩
  · cases ht
  · cases ht
  · rename_i o ha hw
    cases ho : o.opens? with
    | none => simp [ho] at ht
    | some next =>
      simp only [ho] at ht
      unfold close at ht
      split_ifs at ht with hargs hsemi
      · cases ht
      · cases ht
        exact Or.inr ⟨o, next, hw, rfl, ho, by simpa using hargs, hsemi, rfl⟩
      · cases ht

end Parser

/-! ## What stands before a row of tokens -/

/-- The error of a row that stands `n` tokens further on. -/
def ParseError.shift (n : Nat) : ParseError → ParseError
  | .noFileName index => .noFileName (n + index)
  | .emptyStage kind => .emptyStage kind

namespace Parser

/-- The parser of a row that stands after `n` tokens with the instructions `before`. -/
def after (n : Nat) (before : List Instr) (p : Parser) : Parser :=
  ⟨n + p.index, before ++ p.instrs, p.stage, p.wanting.map (n + ·)⟩

variable (n : Nat) (before : List Instr) (p : Parser)

theorem after_close (o : Operator) :
    (p.after n before).close o = carried (ParseError.shift n) (before ++ ·) (p.close o) := by
  unfold close
  rw [show (p.after n before).stage = p.stage from rfl]
  split_ifs
  · rfl
  · rfl
  · simp [after, carried]

theorem after_take (t : Token) :
    (p.after n before).take t = carried (ParseError.shift n) (after n before) (p.take t) := by
  have hclose := after_close n before p
  obtain ⟨index, instrs, stage, wanting⟩ := p
  cases wanting with
  | some place =>
    cases t with
    | word name => simp [take, after, carried]
    | op o => rfl
  | none =>
    cases t with
    | word text => rfl
    | op o =>
      cases o with
      | attach => rfl
      | here => rfl
      | ampersand => rfl
      | pipe | save | saveOut | saveErr | semicolon =>
        unfold take
        simp only [after, Option.map_none, Operator.opens?] at hclose ⊢
        rw [hclose]
        cases close ⟨index, instrs, stage, none⟩ _ <;> rfl

theorem after_step (t : Token) :
    (p.after n before).step t = carried (ParseError.shift n) (after n before) (p.step t) := by
  unfold step
  rw [after_take]
  cases p.take t with
  | error e => rfl
  | ok q => simp [carried, Except.map, after, Nat.add_assoc]

theorem after_finish :
    (p.after n before).finish = carried (ParseError.shift n) (before ++ ·) p.finish := by
  obtain ⟨index, instrs, stage, wanting⟩ := p
  cases wanting <;> rfl

end Parser

/-- A row of tokens parsed from the start of a statement on. -/
theorem parse_after (ts : List Token) (n : Nat) (before : List Instr) :
    (do
      let p ← ts.foldlM Parser.step { index := n, instrs := before }
      p.finish) = carried (ParseError.shift n) (before ++ ·) (parse ts) := by
  have h0 : ({ index := n, instrs := before } : Parser) = Parser.after n before {} := by
    simp [Parser.after]
  unfold parse
  rw [h0, foldlM_carried (Parser.after_step n before)]
  cases ts.foldlM Parser.step {} with
  | error e => rfl
  | ok p => exact Parser.after_finish n before p

/-! ## Two parts with a `;` between them -/

theorem terminated_nil : terminated [] = [] := rfl

/-- Tokens are closed by what stands last in them. -/
theorem terminated_append (ts us : List Token) :
    terminated (ts ++ [.op .semicolon] ++ us) = ts ++ [.op .semicolon] ++ terminated us := by
  unfold terminated
  cases us using List.reverseRecOn with
  | nil => simp
  | append_singleton us u =>
    rw [← List.append_assoc, List.getLast?_concat, List.getLast?_concat]
    dsimp only
    split_ifs
    · simp
    · simp

/-- Tokens are empty, or end with `;` already, or get one. -/
theorem terminated_cases (ts : List Token) :
    ts = [] ∨ (∃ before, ts = before ++ [.op .semicolon] ∧ terminated ts = ts) ∨
      terminated ts = ts ++ [.op .semicolon] := by
  cases ts using List.reverseRecOn with
  | nil => exact Or.inl rfl
  | append_singleton before t =>
    unfold terminated
    rw [List.getLast?_concat]
    dsimp only
    split_ifs with ht
    · exact Or.inr (Or.inl ⟨before, by rw [ht], rfl⟩)
    · exact Or.inr (Or.inr rfl)

theorem Parser.step_index {p q : Parser} {t : Token} (h : p.step t = .ok q) :
    q.index = p.index + 1 := by
  cases Parser.took_of_step h <;> rfl

theorem Parser.foldlM_index (ts : List Token) {q : Parser}
    (h : ts.foldlM Parser.step {} = .ok q) : q.index = ts.length := by
  have hstep : ∀ (done : List Token) (p : Parser) t q, p.index = done.length →
      p.step t = .ok q → q.index = (done ++ [t]).length := by
    intro done p t q hp hs
    rw [Parser.step_index hs, hp, List.length_append, List.length_singleton]
  exact foldlM_invariant (P := fun done p => p.index = done.length) hstep ts rfl h

/-- After a `;` a new statement is open. -/
theorem Parser.Took.after_semicolon {p q : Parser} (h : Took p (.op .semicolon) q) :
    q.stage = ⟨.eval, []⟩ ∧ q.wanting = none := by
  cases h with
  | ignored hw ho ha => cases ho
  | close hw ho hs =>
    cases ho
    exact ⟨rfl, rfl⟩
  | drop hw hs => exact ⟨rfl, rfl⟩

theorem Parser.open_of_foldlM_semicolon {ts : List Token} {q : Parser}
    (h : (ts ++ [Token.op .semicolon]).foldlM Parser.step {} = .ok q) :
    q.stage = ⟨.eval, []⟩ ∧ q.wanting = none := by
  obtain ⟨p, _, hlast⟩ := foldlM_append_ok h
  obtain ⟨r, hstep, hr⟩ := foldlM_cons_ok hlast
  cases hr
  exact (Parser.took_of_step hstep).after_semicolon

/-- The parser after a row of tokens and a `;`. -/
theorem Parser.foldlM_semicolon {ts : List Token} {q : Parser} {is : List Instr}
    (h : (ts ++ [Token.op .semicolon]).foldlM Parser.step {} = .ok q) (hf : q.finish = .ok is) :
    q = { index := ts.length + 1, instrs := is } := by
  have hi := Parser.foldlM_index _ h
  obtain ⟨hs, hw⟩ := Parser.open_of_foldlM_semicolon h
  obtain ⟨index, instrs, stage, wanting⟩ := q
  subst hs hw
  cases hf
  simpa using hi

theorem parse_eq_ok_iff {ts : List Token} {is : List Instr} :
    parse ts = .ok is ↔ ∃ q, ts.foldlM Parser.step {} = .ok q ∧ q.finish = .ok is := by
  unfold parse
  exact bind_eq_ok_iff

/-- A `;` after tokens that parse leaves their instructions and opens a new statement. -/
theorem parse_closed {ts : List Token} {is : List Instr} (h : parse (terminated ts) = .ok is) :
    (ts ++ [Token.op .semicolon]).foldlM Parser.step {} =
      .ok { index := ts.length + 1, instrs := is } := by
  obtain ⟨q, hq, hf⟩ := parse_eq_ok_iff.mp h
  rcases terminated_cases ts with rfl | ⟨before, hb, ht⟩ | ht
  · cases hq
    cases hf
    rfl
  · rw [ht] at hq
    have hrest := hq
    rw [hb] at hrest
    rw [List.foldlM_append, hq, Parser.foldlM_semicolon hrest hf, hb, List.length_append]
    rfl
  · rw [ht] at hq
    rw [hq, Parser.foldlM_semicolon hq hf]

theorem foldlM_of_parse_error {ts : List Token} {e : ParseError}
    (h : parse (ts ++ [.op .semicolon]) = .error e) :
    (ts ++ [Token.op .semicolon]).foldlM Parser.step {} = .error e := by
  unfold parse at h
  cases hq : (ts ++ [Token.op .semicolon]).foldlM Parser.step {} with
  | error e' =>
    rw [hq] at h
    cases h
    rfl
  | ok q =>
    -- a parser that has just taken a `;` wants no word, so it can end
    obtain ⟨_, hw⟩ := Parser.open_of_foldlM_semicolon hq
    rw [hq] at h
    simp [bind, Except.bind, Parser.finish, hw] at h

/-- A `;` after tokens that do not parse comes too late. -/
theorem parse_closed_error {ts : List Token} {e : ParseError}
    (h : parse (terminated ts) = .error e) :
    (ts ++ [Token.op .semicolon]).foldlM Parser.step {} = .error e := by
  rcases terminated_cases ts with rfl | ⟨before, hb, ht⟩ | ht
  · cases h
  · rw [ht, hb] at h
    rw [List.foldlM_append, hb, foldlM_of_parse_error h]
    rfl
  · rw [ht] at h
    exact foldlM_of_parse_error h

/-- Nothing that a parser is in the middle of survives a `;`. -/
theorem parse_semicolon (ts us : List Token) :
    parse (ts ++ [.op .semicolon] ++ us) =
      (parse (terminated ts)).bind fun is =>
        carried (ParseError.shift (ts.length + 1)) (is ++ ·) (parse us) := by
  cases h : parse (terminated ts) with
  | error e =>
    unfold parse
    rw [List.foldlM_append, parse_closed_error h]
    rfl
  | ok is =>
    have hrest := parse_after us (ts.length + 1) is
    unfold parse
    rw [List.foldlM_append, parse_closed h]
    exact hrest

theorem compile_of_rawTokens {source : String} {lookup : Lookup} {ts : List Token}
    (h : rawTokens source lookup = .ok ts) :
    compile source lookup = carried SourceError.parse id (parse (terminated ts)) := by
  unfold compile tokenize
  rw [h]
  simp only [Except.map]
  cases parse (terminated ts) <;> rfl

theorem compile_eq_ok_iff {source : String} {lookup : Lookup} {is : List Instr} :
    compile source lookup = .ok is ↔
      ∃ ts, rawTokens source lookup = .ok ts ∧ parse (terminated ts) = .ok is := by
  unfold compile tokenize
  cases rawTokens source lookup with
  | error e => simp [Except.map]
  | ok ts =>
    simp only [Except.map, Except.ok.injEq, exists_eq_left']
    cases parse (terminated ts) <;> simp

theorem parse_of_compile {source : String} {lookup : Lookup} {ts : List Token} {is : List Instr}
    (h : compile source lookup = .ok is) (ht : tokenize source lookup = .ok ts) :
    parse ts = .ok is := by
  unfold compile at h
  cases hp : parse ts <;> simp_all

/-- The instructions of a message of two parts, told from the tokens of the parts. -/
theorem compile_join {s₁ s₂ : String} {lookup : Lookup} {ts₁ ts₂ : List Token}
    (h₁ : rawTokens s₁ lookup = .ok ts₁) (h₂ : rawTokens s₂ lookup = .ok ts₂) :
    compile (s₁ ++ ";" ++ s₂) lookup =
      carried SourceError.parse id ((parse (terminated ts₁)).bind fun is =>
        carried (ParseError.shift (ts₁.length + 1)) (is ++ ·) (parse (terminated ts₂))) := by
  rw [compile_of_rawTokens (rawTokens_semicolon h₁ h₂), terminated_append, parse_semicolon]

/-- A message of two parts has the instructions of the one and then of the other. -/
theorem compile_semicolon {s₁ s₂ : String} {lookup : Lookup} {i₁ i₂ : List Instr}
    (h₁ : compile s₁ lookup = .ok i₁) (h₂ : compile s₂ lookup = .ok i₂) :
    compile (s₁ ++ ";" ++ s₂) lookup = .ok (i₁ ++ i₂) := by
  obtain ⟨ts₁, hr₁, hp₁⟩ := compile_eq_ok_iff.mp h₁
  obtain ⟨ts₂, hr₂, hp₂⟩ := compile_eq_ok_iff.mp h₂
  rw [compile_join hr₁ hr₂, hp₁, hp₂]
  rfl

theorem compile_eq_parse_error_iff {source : String} {lookup : Lookup} {ts : List Token}
    {e : ParseError} (h : rawTokens source lookup = .ok ts) :
    compile source lookup = .error (.parse e) ↔ parse (terminated ts) = .error e := by
  rw [compile_of_rawTokens h]
  cases parse (terminated ts) <;> simp [carried]

/-- A message of two parts that both have tokens has the instructions of the one and then of the
other. If the first part does not parse, its error is the error of the whole. If only the second
does not, its error is the error of the whole, with the tokens before the second part counted. -/
theorem two_parts_are_compiled_one_after_the_other (lookup : Lookup) (s₁ s₂ : String)
    {ts₁ ts₂ : List Token} (h₁ : tokenize s₁ lookup = .ok ts₁)
    (h₂ : tokenize s₂ lookup = .ok ts₂) :
    ∃ before, rawTokens s₁ lookup = .ok before ∧
      tokenize (s₁ ++ ";" ++ s₂) lookup = .ok (before ++ [.op .semicolon] ++ ts₂) ∧
      (∀ i₁ i₂, compile s₁ lookup = .ok i₁ → compile s₂ lookup = .ok i₂ →
        compile (s₁ ++ ";" ++ s₂) lookup = .ok (i₁ ++ i₂)) ∧
      (∀ e, compile s₁ lookup = .error (.parse e) →
        compile (s₁ ++ ";" ++ s₂) lookup = .error (.parse e)) ∧
      ∀ i₁ e, compile s₁ lookup = .ok i₁ → compile s₂ lookup = .error (.parse e) →
        compile (s₁ ++ ";" ++ s₂) lookup =
          .error (.parse (e.shift (before ++ [Token.op .semicolon]).length)) := by
  obtain ⟨raw₁, hr₁, rfl⟩ := map_eq_ok_iff.mp h₁
  obtain ⟨raw₂, hr₂, rfl⟩ := map_eq_ok_iff.mp h₂
  refine ⟨raw₁, hr₁, ?_, fun i₁ i₂ => compile_semicolon, ?_, ?_⟩
  · unfold tokenize
    rw [rawTokens_semicolon hr₁ hr₂, ← terminated_append]
    rfl
  · intro e he
    rw [compile_eq_parse_error_iff hr₁] at he
    rw [compile_join hr₁ hr₂, he]
    rfl
  · intro i₁ e hi he
    obtain ⟨raw, hr, hp⟩ := compile_eq_ok_iff.mp hi
    rw [hr₁] at hr
    cases hr
    rw [compile_eq_parse_error_iff hr₂] at he
    rw [compile_join hr₁ hr₂, hp, he, List.length_append]
    rfl

/-- In `echo a;cb <` the `<` has four tokens before it, one of them in its own part. -/
theorem a_missing_file_name_is_counted_from_the_start :
    compile "cb <" (fun _ => none) = .error (.parse (.noFileName 1)) ∧
      compile ("echo a" ++ ";" ++ "cb <") (fun _ => none) = .error (.parse (.noFileName 4)) := by
  obtain ⟨before, hb, _, _, _, hlate⟩ :=
    two_parts_are_compiled_one_after_the_other (fun _ => none) "echo a" "cb <" rfl rfl
  cases hb
  exact ⟨rfl, hlate _ _ rfl rfl⟩

/-! ## The instructions a message can have -/

/-- The instructions have the arguments they need, and the first of them that is no attachment
starts a statement. -/
structure WellFormed (is : List Instr) : Prop where
  attach_one : ∀ i ∈ is, i.kind = .attach → i.args.length = 1
  has_args : ∀ i ∈ is, i.kind ≠ .attach → i.args ≠ []
  first_eval : ∀ i ∈ is.find? (fun i => i.kind ≠ .attach), i.kind = .eval

instance (is : List Instr) : Decidable (WellFormed is) :=
  decidable_of_iff
    ((∀ i ∈ is, i.kind = .attach → i.args.length = 1) ∧
      (∀ i ∈ is, i.kind ≠ .attach → i.args ≠ []) ∧
      ∀ i ∈ is.find? (fun i => i.kind ≠ .attach), i.kind = .eval)
    ⟨fun ⟨hone, hargs, hfirst⟩ => ⟨hone, hargs, hfirst⟩,
      fun ⟨hone, hargs, hfirst⟩ => ⟨hone, hargs, hfirst⟩⟩

theorem WellFormed.nil : WellFormed [] := ⟨by simp, by simp, by simp⟩

theorem WellFormed.snoc {is : List Instr} {i : Instr} (h : WellFormed is)
    (hone : i.kind = .attach → i.args.length = 1) (hargs : i.kind ≠ .attach → i.args ≠ [])
    (hfirst : i.kind = .attach ∨ i.kind = .eval ∨ ∃ j ∈ is, j.kind ≠ .attach) :
    WellFormed (is ++ [i]) := by
  refine ⟨?_, ?_, ?_⟩
  · intro j hj hk
    rcases List.mem_append.mp hj with hj | hj
    · exact h.attach_one j hj hk
    · rw [List.mem_singleton.mp hj] at hk ⊢
      exact hone hk
  · intro j hj hk
    rcases List.mem_append.mp hj with hj | hj
    · exact h.has_args j hj hk
    · rw [List.mem_singleton.mp hj] at hk ⊢
      exact hargs hk
  · intro j hj
    rw [List.find?_append] at hj
    cases hf : is.find? (fun i => i.kind ≠ .attach) with
    | some k =>
      rw [hf, Option.some_or, Option.mem_some_iff] at hj
      exact hj ▸ h.first_eval k hf
    | none =>
      rw [hf, Option.none_or] at hj
      have hno := List.find?_eq_none.mp hf
      have hji : j = i := by
        have := List.mem_of_find?_eq_some hj
        exact List.mem_singleton.mp this
      have hk := List.find?_some hj
      subst hji
      rcases hfirst with hfirst | hfirst | ⟨k, hk', hne⟩
      · simp [hfirst] at hk
      · exact hfirst
      · exact absurd (by simpa using hne) (hno k hk')

/-- What holds of a parser after every token. -/
structure Parser.Sound (p : Parser) : Prop where
  instrs : WellFormed p.instrs
  stage_kind : p.stage.kind ≠ .attach
  opened : p.stage.kind = .eval ∨ ∃ i ∈ p.instrs, i.kind ≠ .attach

theorem Parser.Sound.start : Parser.Sound {} := ⟨.nil, by simp, Or.inl rfl⟩

theorem Operator.opens?_ne_attach {o : Operator} {kind : Kind} (h : o.opens? = some kind) :
    kind ≠ .attach := by
  cases o <;> cases h <;> simp

theorem Parser.Sound.step {p q : Parser} {t : Token} (h : p.Sound) (hs : p.step t = .ok q) :
    q.Sound := by
  obtain ⟨hi, hk, ho⟩ := h
  cases Parser.took_of_step hs with
  | @fileName place name hw =>
    refine ⟨hi.snoc (fun _ => rfl) (fun hne => absurd rfl hne) (Or.inl rfl), hk, ?_⟩
    rcases ho with ho | ⟨i, hm, hne⟩
    · exact Or.inl ho
    · exact Or.inr ⟨i, List.mem_append_left _ hm, hne⟩
  | word hw => exact ⟨hi, hk, ho⟩
  | less hw => exact ⟨hi, hk, ho⟩
  | ignored hw hop ha => exact ⟨hi, hk, ho⟩
  | close hw hop hargs =>
    refine ⟨hi.snoc (fun ha => absurd ha hk) (fun _ => hargs) (Or.inr ho),
      Operator.opens?_ne_attach hop, Or.inr ⟨p.stage, by simp, hk⟩⟩
  | drop hw hst => exact ⟨hi, by simp, Or.inl rfl⟩

theorem Parser.instrs_of_finish {q : Parser} {is : List Instr} (h : q.finish = .ok is) :
    q.instrs = is := by
  unfold Parser.finish at h
  cases hw : q.wanting <;> simp_all

theorem parse_wellFormed {ts : List Token} {is : List Instr} (h : parse ts = .ok is) :
    WellFormed is := by
  obtain ⟨q, hq, hf⟩ := parse_eq_ok_iff.mp h
  have hsound := foldlM_invariant (P := fun _ p => p.Sound) (fun _ _ _ _ => .step) ts .start hq
  rw [← Parser.instrs_of_finish hf]
  exact hsound.instrs

/-- What holds of a parser that has taken no `<`. -/
structure Parser.Unattached (p : Parser) : Prop where
  wanting : p.wanting = none
  instrs : ∀ i ∈ p.instrs, i.kind ≠ .attach

theorem Parser.Unattached.step {p q : Parser} {t : Token} (h : p.Unattached) (hp : p.Sound)
    (ht : t ≠ .op .attach) (hs : p.step t = .ok q) : q.Unattached := by
  cases Parser.took_of_step hs with
  | fileName hw =>
    rw [h.wanting] at hw
    cases hw
  | word hw => exact ⟨rfl, h.instrs⟩
  | less hw => exact absurd rfl ht
  | ignored hw ho ha => exact ⟨rfl, h.instrs⟩
  | close hw ho hargs =>
    refine ⟨rfl, ?_⟩
    intro i hi
    rcases List.mem_append.mp hi with hi | hi
    · exact h.instrs i hi
    · rw [List.mem_singleton.mp hi]
      exact hp.stage_kind
  | drop hw hst => exact ⟨rfl, h.instrs⟩

/-- Without a `<` there is no attachment. -/
theorem parse_unattached {ts : List Token} {is : List Instr} (h : parse ts = .ok is)
    (hno : Token.op .attach ∉ ts) : ∀ i ∈ is, i.kind ≠ .attach := by
  obtain ⟨q, hq, hf⟩ := parse_eq_ok_iff.mp h
  have h0 : Parser.Sound {} ∧ (Token.op .attach ∉ [] → Parser.Unattached {}) :=
    ⟨.start, fun _ => ⟨rfl, by simp⟩⟩
  have hstep : ∀ (done : List Token) (p : Parser) t q,
      p.Sound ∧ (Token.op .attach ∉ done → p.Unattached) → p.step t = .ok q →
      q.Sound ∧ (Token.op .attach ∉ done ++ [t] → q.Unattached) := by
    intro done p t q ⟨hp, hu⟩ hs
    refine ⟨hp.step hs, ?_⟩
    intro hn
    rw [List.mem_append, List.mem_singleton, not_or] at hn
    exact (hu hn.1).step hp (Ne.symm hn.2) hs
  rw [← Parser.instrs_of_finish hf]
  exact ((foldlM_invariant hstep ts h0 hq).2 hno).instrs

theorem compile_wellFormed {source : String} {lookup : Lookup} {is : List Instr}
    (h : compile source lookup = .ok is) : WellFormed is := by
  obtain ⟨ts, _, hp⟩ := compile_eq_ok_iff.mp h
  exact parse_wellFormed hp

end ChatShell.Message
