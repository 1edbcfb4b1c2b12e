-- Which rows of tokens the parser accepts, what it makes of them, and which error it
-- gives for the others. After each token it holds what the row up to there says:
-- the words of the stage that is open and the instructions of all that is closed.
-- So it accepts the rows that are well cut, and else tells the first fault.
import ChatShell.Proofs.Parsing
import ChatShell.Proofs.Stages

namespace ChatShell.Message

/-! ## The grammar -/

/-- The statement is empty, or each of its stages has a word. -/
def Filled (statement : List Token) : Prop :=
  (∃ g, stages statement = [g] ∧ plainWords g.tokens = []) ∨
    ∀ g ∈ stages statement, plainWords g.tokens ≠ []

/-- Every `<` has a name right after it, and every statement that is not empty has words in all
its stages. -/
structure Grammatical (ts : List Token) : Prop where
  named : ∀ i : Nat, ts[i]? = some (.op .attach) → ∃ name, ts[i + 1]? = some (.word name)
  filled : ∀ statement ∈ statements ts, Filled statement

/-- What is wrong at a place of a row: a `<` without a name, or an operator that closes a stage
without a word. -/
inductive FaultAt (ts : List Token) (i : Nat) : ParseError → Prop
  | noFileName (h : ts[i]? = some (.op .attach))
      (hnext : ∀ name, ts[i + 1]? ≠ some (.word name)) : FaultAt ts i (.noFileName i)
  | emptyStage {o : Operator} {next : Kind} (h : ts[i]? = some (.op o))
      (ho : o.opens? = some next) (hempty : plainWords (openStage (ts.take i)).tokens = [])
      (hne : ¬((openStage (ts.take i)).kind = .eval ∧ o = .semicolon)) :
      FaultAt ts i (.emptyStage (openStage (ts.take i)).kind)

variable {ts : List Token} {p q : Parser} {t : Token} {e : ParseError}

/-! ## What is wrong in a row -/

theorem Operator.opens?_cases {o : Operator} {kind : Kind} (h : o.opens? = some kind) :
    (o = .semicolon ∧ kind = .eval) ∨ (Token.op o).opensStage? = some kind := by
  cases o <;> cases h <;> simp [Token.opensStage?]

theorem Operator.opensStage?_of_none {o : Operator} (h : o.opens? = none) :
    (Token.op o).opensStage? = none ∧ Token.op o ≠ .op .semicolon := by
  cases o <;> cases h <;> simp [Token.opensStage?]

namespace FaultAt

variable {i : Nat}

/-- What is wrong in a row was wrong before the row went on. -/
theorem of_append {us : List Token} (h : FaultAt (ts ++ us) i e) (hi : i < ts.length) :
    FaultAt ts i e := by
  cases h with
  | noFileName h hnext =>
    refine .noFileName ?_ ?_
    · rwa [List.getElem?_append_left hi] at h
    · intro name hn
      have hlt : i + 1 < ts.length := (List.getElem?_eq_some_iff.mp hn).1
      exact hnext name (by rwa [List.getElem?_append_left hlt])
  | emptyStage h ho hempty hne =>
    have htake : (ts ++ us).take i = ts.take i := List.take_append_of_le_length (by omega)
    rw [htake] at hempty hne ⊢
    rw [List.getElem?_append_left hi] at h
    exact .emptyStage h ho hempty hne

theorem unique {d : ParseError} (h : FaultAt ts i e) (hd : FaultAt ts i d) : e = d := by
  cases h with
  | noFileName h _ =>
    cases hd with
    | noFileName _ _ => rfl
    | emptyStage ho hopen _ _ =>
      rw [h] at ho
      cases ho
      cases hopen
  | emptyStage ho hopen _ _ =>
    cases hd with
    | noFileName h _ =>
      rw [h] at ho
      cases ho
      cases hopen
    | emptyStage _ _ _ _ => rfl

/-- A row that ends in a `<` has a fault there. -/
theorem endsInLess_of_last (h : FaultAt ts i (.noFileName i)) (hi : i + 1 = ts.length) :
    endsInLess false ts = true := by
  cases h with
  | noFileName h _ =>
    rw [endsInLess, List.getLast?_eq_getElem?, show ts.length - 1 = i by omega, h]
    rfl

end FaultAt

/-- A stage without a word at the end of its statement, unless it is the whole of it. -/
theorem not_filled_of_last {ts : List Token} (hempty : plainWords (openStage ts).tokens = [])
    (hne : (openStage ts).kind ≠ .eval) : ¬Filled (openStatement ts) := by
  obtain ⟨before, done, hcuts⟩ := cuts_exist ts
  rintro (⟨g, hg, _⟩ | hall)
  · obtain ⟨first, later, hcut, _⟩ := cut_eq_cons Token.opensStage? .eval (openStatement ts)
    have hone : later = [] := by simpa using (List.cons.inj (hcut.symm.trans hg)).2
    have heval : openStage ts = ⟨.eval, first⟩ := by simp [openStage, stages, hcut, hone]
    exact hne (by rw [heval])
  · exact hall (openStage ts) (by simp [hcuts.stages]) hempty

/-- A stage without a word before another stage. -/
theorem not_filled_of_opener {ts : List Token} {t : Token} {next : Kind}
    (hempty : plainWords (openStage ts).tokens = []) (ht : t.opensStage? = some next)
    (rest : List Token) : ¬Filled (openStatement ts ++ t :: rest) := by
  obtain ⟨before, done, hcuts⟩ := cuts_exist ts
  obtain ⟨body, more, hcut, _⟩ := cut_eq_cons Token.opensStage? next rest
  have hstages : stages (openStatement ts ++ t :: rest) =
      done ++ openStage ts :: ⟨next, body⟩ :: more := by
    rw [hcuts.stages_append, cut_cons_of_some ht, hcut]
    simp
  rintro (⟨g, hg, _⟩ | hall)
  · have hlen := congrArg List.length (hstages.symm.trans hg)
    simp only [List.length_append, List.length_cons, List.length_nil] at hlen
    omega
  · exact hall (openStage ts) (by simp [hstages]) hempty

/-- Nothing is wrong in a grammatical row. -/
theorem Grammatical.no_fault (h : Grammatical ts) (i : Nat) (e : ParseError) :
    ¬FaultAt ts i e := by
  intro hf
  cases hf with
  | noFileName hless hnext =>
    obtain ⟨name, hname⟩ := h.named i hless
    exact hnext name hname
  | @emptyStage o next ho hopen hempty hne =>
    obtain ⟨before, done, hcuts⟩ := cuts_exist (ts.take i)
    have hsplit : ts = ts.take i ++ .op o :: ts.drop (i + 1) := by
      obtain ⟨hlt, hget⟩ := List.getElem?_eq_some_iff.mp ho
      rw [← hget, ← List.drop_eq_getElem_cons hlt, List.take_append_drop]
    have hfilled := h.filled
    rw [hsplit, hcuts.statements_append] at hfilled
    rcases Operator.opens?_cases hopen with ⟨rfl, -⟩ | hstage
    · refine not_filled_of_last hempty (fun heval => hne ⟨heval, rfl⟩) (hfilled _ ?_)
      simp [statements_semicolon]
    · have hsemi : Token.op o ≠ .op .semicolon := by
        rintro ⟨⟩
        cases hstage
      obtain ⟨first, later, _, hcons⟩ := statements_cons_of_ne hsemi (ts.drop (i + 1))
      refine not_filled_of_opener hempty hstage first (hfilled _ ?_)
      simp [hcons]

/-! ## The parser -/

/-- The parser has read a row: it holds the words of the open stage and the instructions of all
that is closed. The only fault there can be is that the row ends in a `<`. -/
structure Parser.HasRead (ts : List Token) (p : Parser) : Prop where
  index : p.index = ts.length
  stage : p.stage = ⟨(openStage ts).kind, plainWords (openStage ts).tokens⟩
  wanting : p.wanting = if endsInLess false ts then some (ts.length - 1) else none
  closed : ∃ before done, Cuts ts before done ∧
    p.instrs = before.flatMap instrsOf ++ done.flatMap Stage.instrs ++ (openStage ts).attaches ∧
    (∀ statement ∈ before, Filled statement) ∧ ∀ g ∈ done, plainWords g.tokens ≠ []
  clean : ∀ i e, FaultAt ts i e → e = .noFileName i ∧ i + 1 = ts.length

theorem Parser.HasRead.start : Parser.HasRead [] {} := by
  refine ⟨rfl, rfl, rfl, ⟨[], [], ⟨rfl, rfl⟩, rfl, by simp, by simp⟩, ?_⟩
  intro i e h
  cases h with
  | noFileName h _ => cases h
  | emptyStage h _ _ _ => cases h

namespace Parser.HasRead

theorem wanting_none_iff (h : p.HasRead ts) : p.wanting = none ↔ endsInLess false ts = false := by
  rw [h.wanting]
  cases endsInLess false ts <;> simp

/-- A token that the parser takes is nothing wrong, and gives the `<` before it a name. -/
theorem clean_snoc (h : p.HasRead ts) (hs : p.step t = .ok q) (i : Nat) (e : ParseError)
    (hf : FaultAt (ts ++ [t]) i e) : e = .noFileName i ∧ i + 1 = (ts ++ [t]).length := by
  have hlen : (ts ++ [t]).length = ts.length + 1 := by simp
  rcases Nat.lt_trichotomy i ts.length with hi | rfl | hi
  · obtain ⟨rfl, hlast⟩ := h.clean i e (hf.of_append hi)
    have hends : endsInLess false ts = true := (hf.of_append hi).endsInLess_of_last hlast
    cases hf with
    | noFileName hless hnext =>
      have hsome : p.wanting ≠ none := by
        rw [Ne, h.wanting_none_iff, hends]
        simp
      cases took_of_step hs with
      | @fileName place name hw =>
        have hname : (ts ++ [Token.word name])[i + 1]? = some (.word name) := by simp [hlast]
        exact absurd hname (hnext name)
      | word hw | less hw | ignored hw _ _ | close hw _ _ | drop hw _ => exact absurd hw hsome
  · cases hf with
    | noFileName _ _ => exact ⟨rfl, hlen.symm⟩
    | emptyStage ho hopen hempty hne =>
      rw [List.getElem?_concat_length, Option.some.injEq] at ho
      subst ho
      rw [List.take_left] at hempty hne
      have hstage := h.stage
      rw [hempty] at hstage
      cases took_of_step hs with
      | less hw => cases hopen
      | ignored hw hnone _ =>
        rw [hnone] at hopen
        cases hopen
      | close hw _ hargs =>
        rw [hstage] at hargs
        exact absurd rfl hargs
      | drop hw hdrop =>
        rw [hdrop, Instr.mk.injEq] at hstage
        exact absurd ⟨hstage.1.symm, rfl⟩ hne
  · have hnone : (ts ++ [t])[i]? = none := List.getElem?_eq_none (by omega)
    cases hf with
    | noFileName hless _ => rw [hnone] at hless; cases hless
    | emptyStage ho _ _ _ => rw [hnone] at ho; cases ho

/-- A token that closes nothing goes to the open stage, as a word of it or as names of files. -/
theorem goes_on (h : p.HasRead ts) (hs : p.step t = .ok q) (names : List String)
    (ht : t.opensStage? = none) (hne : t ≠ .op .semicolon)
    (hstage : q.stage = ⟨p.stage.kind, plainWords ((openStage ts).tokens ++ [t])⟩)
    (hnames : fileNames ((openStage ts).tokens ++ [t]) = fileNames (openStage ts).tokens ++ names)
    (hinstrs : q.instrs = p.instrs ++ names.map fun name => ⟨.attach, [name]⟩)
    (hwanting : q.wanting = if t.isOp .attach then some p.index else none) :
    q.HasRead (ts ++ [t]) := by
  obtain ⟨before, done, hcuts, hread, hfilled, hdone⟩ := h.closed
  obtain ⟨hnext, hopen⟩ := hcuts.other ht hne
  refine ⟨?_, ?_, ?_, ⟨before, done, hnext, ?_, hfilled, hdone⟩, h.clean_snoc hs⟩
  · simp [step_index hs, h.index]
  · rw [hstage, h.stage, hopen]
  · rw [hwanting, endsInLess_snoc, h.index, List.length_append, List.length_singleton,
      Nat.add_sub_cancel]
  · rw [hinstrs, hread, hopen]
    simp [Stage.attaches, hnames]

/-- A token that closes the open stage leaves one without a token. -/
theorem closes {kind : Kind} {before : List (List Token)} {done : List Stage} (h : p.HasRead ts)
    (hs : p.step t = .ok q) (hcuts : Cuts (ts ++ [t]) before done)
    (hopen : openStage (ts ++ [t]) = ⟨kind, []⟩) (hstage : q.stage = ⟨kind, []⟩)
    (hless : t.isOp .attach = false) (hwanting : q.wanting = none)
    (hinstrs : q.instrs = before.flatMap instrsOf ++ done.flatMap Stage.instrs)
    (hfilled : ∀ statement ∈ before, Filled statement)
    (hdone : ∀ g ∈ done, plainWords g.tokens ≠ []) : q.HasRead (ts ++ [t]) := by
  refine ⟨?_, ?_, ?_, ⟨before, done, hcuts, ?_, hfilled, hdone⟩, h.clean_snoc hs⟩
  · simp [step_index hs, h.index]
  · rw [hstage, hopen]
    rfl
  · simp [hwanting, endsInLess_snoc, hless]
  · rw [hinstrs, hopen]
    exact (List.append_nil _).symm

theorem step (h : p.HasRead ts) (hs : p.step t = .ok q) : q.HasRead (ts ++ [t]) := by
  have hnone := h.wanting_none_iff
  have hless := openStage_endsInLess ts
  have hstage := h.stage
  obtain ⟨before, done, hcuts, hinstrs, hfilled, hdone⟩ := h.closed
  cases took_of_step hs with
  | @fileName place name hw =>
    have hends : endsInLess false ts = true := by
      rw [hw] at hnone
      simpa using hnone
    refine h.goes_on hs [name] rfl (by simp) ?_ ?_ rfl rfl
    · simp [hstage, plainWords, wordsOf_snoc_word, hless, hends]
    · simp [fileNames, wordsOf_snoc_word, hless, hends]
  | @word text hw =>
    have hends : endsInLess false ts = false := hnone.mp hw
    refine h.goes_on hs [] rfl (by simp) ?_ ?_ (by simp) rfl
    · simp [hstage, plainWords, wordsOf_snoc_word, hless, hends]
    · simp [fileNames, wordsOf_snoc_word, hless, hends]
  | less hw =>
    refine h.goes_on hs [] rfl (by simp) ?_ ?_ (by simp) rfl
    · simp [hstage, plainWords, wordsOf_snoc_op]
    · simp [fileNames, wordsOf_snoc_op]
  | ignored hw ho ha =>
    obtain ⟨hplain, hne⟩ := Operator.opensStage?_of_none ho
    refine h.goes_on hs [] hplain hne ?_ ?_ (by simp) (by simp [Token.isOp, ha])
    · simp [hstage, plainWords, wordsOf_snoc_op]
    · simp [fileNames, wordsOf_snoc_op]
  | @close o kind hw ho hargs =>
    have hwords : plainWords (openStage ts).tokens ≠ [] := by simpa [hstage] using hargs
    have hall : ∀ g ∈ done ++ [openStage ts], plainWords g.tokens ≠ [] :=
      List.forall_mem_append.mpr ⟨hdone, by simpa using hwords⟩
    rcases Operator.opens?_cases ho with ⟨rfl, rfl⟩ | ho
    · obtain ⟨hnext, hopen⟩ := hcuts.semicolon
      have hlast : Filled (openStatement ts) := by
        right
        rwa [hcuts.stages]
      refine h.closes hs hnext hopen rfl rfl rfl ?_
        (List.forall_mem_append.mpr ⟨hfilled, by simpa using hlast⟩) (by simp)
      simp [hinstrs, hstage, hcuts.instrsOf, Stage.instrs, hwords]
    · obtain ⟨hnext, hopen⟩ := hcuts.opener ho
      have hno : Token.isOp .attach (.op o) = false := by
        cases o <;> cases ho <;> rfl
      refine h.closes hs hnext hopen rfl hno rfl ?_ hfilled hall
      simp [hinstrs, hstage, Stage.instrs, hwords]
  | drop hw hdrop =>
    have hempty : (openStage ts).kind = .eval ∧ plainWords (openStage ts).tokens = [] := by
      rw [hstage, Instr.mk.injEq] at hdrop
      exact hdrop
    have hnil : done = [] := closed_eq_nil_of_eval hcuts.stages hempty.1
    obtain ⟨hnext, hopen⟩ := hcuts.semicolon
    have hlast : Filled (openStatement ts) := by
      left
      exact ⟨openStage ts, by rw [hcuts.stages, hnil]; rfl, hempty.2⟩
    refine h.closes hs hnext hopen rfl rfl rfl ?_
      (List.forall_mem_append.mpr ⟨hfilled, by simpa using hlast⟩) (by simp)
    simp [hinstrs, hcuts.instrsOf, Stage.instrs, hempty.2]

theorem ends_of_wanting (h : p.HasRead ts) {i : Nat} (hw : p.wanting = some i) :
    ∃ before, ts = before ++ [.op .attach] ∧ i = before.length := by
  have hlast : endsInLess false ts = true := by
    have hnone := h.wanting_none_iff
    rw [hw] at hnone
    simpa using hnone
  have hi := h.wanting
  rw [hlast, hw] at hi
  cases ts using List.reverseRecOn with
  | nil => cases hlast
  | append_singleton before t =>
    rw [endsInLess_snoc] at hlast
    cases t with
    | word text => cases hlast
    | op o =>
      refine ⟨before, ?_, by simpa using hi⟩
      simpa [Token.isOp] using hlast

/-- The error that a parser gives is the first fault of the row, however the row goes on. -/
theorem first_fault (h : p.HasRead ts) (hs : p.step t = .error e) (us : List Token) :
    ∃ i, FaultAt (ts ++ t :: us) i e ∧ ∀ j d, FaultAt (ts ++ t :: us) j d → i ≤ j := by
  rcases step_eq_error hs with ⟨i, o, hw, rfl, rfl⟩ | ⟨o, next, hw, rfl, ho, hargs, hne, rfl⟩
  · refine ⟨i, ?_, ?_⟩
    · obtain ⟨before, rfl, rfl⟩ := h.ends_of_wanting hw
      exact .noFileName (by simp) (by simp)
    · intro j d hj
      obtain ⟨before, rfl, rfl⟩ := h.ends_of_wanting hw
      by_contra hlt
      have hlen : (before ++ [Token.op .attach]).length = before.length + 1 := by simp
      have := (h.clean j d (hj.of_append (by omega))).2
      omega
  · refine ⟨ts.length, ?_, ?_⟩
    · have hstage := h.stage
      rw [hstage] at hargs hne ⊢
      have htake : (ts ++ Token.op o :: us).take ts.length = ts := by simp
      have hfault := @FaultAt.emptyStage (ts ++ .op o :: us) ts.length o next (by simp) ho
      rw [htake] at hfault
      exact hfault hargs hne
    · intro j d hj
      by_contra hlt
      have hin := hj.of_append (by omega)
      obtain ⟨rfl, hlast⟩ := h.clean j d hin
      rw [h.wanting_none_iff, hin.endsInLess_of_last hlast] at hw
      cases hw

end Parser.HasRead

theorem Parser.hasRead_of_foldlM {ts : List Token} {p : Parser}
    (h : ts.foldlM Parser.step {} = .ok p) : p.HasRead ts :=
  foldlM_invariant (fun _ _ _ _ hp hs => hp.step hs) ts Parser.HasRead.start h

/-! ## The law -/

/-- A row that is empty or ends with `;`. -/
def Closed (ts : List Token) : Prop := ts = [] ∨ ts.getLast? = some (.op .semicolon)

theorem Parser.HasRead.not_wanting (h : p.HasRead ts) (hc : Closed ts) : p.wanting = none := by
  rw [h.wanting_none_iff]
  rcases hc with rfl | hc
  · rfl
  · simp [endsInLess, hc, Token.isOp]

theorem first_fault_of_parse (hc : Closed ts) (h : parse ts = .error e) :
    ∃ i, FaultAt ts i e ∧ ∀ j d, FaultAt ts j d → i ≤ j := by
  unfold parse at h
  cases hf : ts.foldlM Parser.step {} with
  | error d =>
    rw [hf] at h
    cases h
    obtain ⟨before, t, after, p, rfl, hp, ht⟩ := foldlM_eq_error_iff.mp hf
    exact (Parser.hasRead_of_foldlM hp).first_fault ht after
  | ok p =>
    rw [hf] at h
    simp [bind, Except.bind, Parser.finish, (Parser.hasRead_of_foldlM hf).not_wanting hc] at h

theorem openStatement_of_closed (hc : Closed ts) : openStatement ts = [] := by
  rcases hc with rfl | hc
  · rfl
  · obtain ⟨before, rfl⟩ := List.getLast?_eq_some_iff.mp hc
    obtain ⟨_, _, hcuts⟩ := cuts_exist before
    rw [openStatement, hcuts.statements_append, statements_semicolon]
    simp [statements, cut]

theorem filled_nil : Filled [] := Or.inl ⟨⟨.eval, []⟩, rfl, rfl⟩

theorem grammatical_of_parse {is : List Instr} (hc : Closed ts) (h : parse ts = .ok is) :
    Grammatical ts ∧ is = (statements ts).flatMap instrsOf := by
  obtain ⟨p, hp, hf⟩ := parse_eq_ok_iff.mp h
  have hreads := Parser.hasRead_of_foldlM hp
  obtain ⟨before, done, hcuts, hinstrs, hfilled, _⟩ := hreads.closed
  have hlast := openStatement_of_closed hc
  have hstatements := hcuts.statements
  rw [hlast] at hstatements
  have hstages := hcuts.stages
  rw [hlast] at hstages
  have hopen : openStage ts = ⟨.eval, []⟩ := by
    unfold openStage
    rw [hlast]
    rfl
  refine ⟨⟨?_, ?_⟩, ?_⟩
  · intro i hless
    by_contra hno
    have hfault : FaultAt ts i (.noFileName i) :=
      .noFileName hless fun name hname => hno ⟨name, hname⟩
    have hends := hfault.endsInLess_of_last (hreads.clean i _ hfault).2
    have hw := hreads.not_wanting hc
    rw [hreads.wanting_none_iff, hends] at hw
    cases hw
  · rw [hstatements]
    refine List.forall_mem_append.mpr ⟨hfilled, ?_⟩
    simpa using filled_nil
  · have hdone : done = [] := closed_eq_nil_of_eval hstages (by rw [hopen])
    rw [← Parser.instrs_of_finish hf, hinstrs, hstatements, hdone, hopen]
    simp [instrsOf, stages, cut, Stage.instrs, plainWords, wordsOf]

/-- A row of tokens that is empty or ends with `;` has instructions exactly if every `<` in it has a
name right after it and every statement is empty or has a word in each stage. They are the
instructions of its stages in order: an attachment for each `<`, then what the stage itself does.
Else the error is the first thing that is wrong. -/
theorem the_parser_accepts_exactly_its_grammar (ts : List Token)
    (hc : ts = [] ∨ ts.getLast? = some (.op .semicolon)) :
    ((∃ is, parse ts = .ok is) ↔ Grammatical ts) ∧
      (∀ is, parse ts = .ok is → is = (statements ts).flatMap instrsOf) ∧
      ∀ e, parse ts = .error e ↔ ∃ i, FaultAt ts i e ∧ ∀ j d, FaultAt ts j d → i ≤ j := by
  have herror : ∀ e, parse ts = .error e →
      ∃ i, FaultAt ts i e ∧ ∀ j d, FaultAt ts j d → i ≤ j := fun e => first_fault_of_parse hc
  refine ⟨⟨?_, ?_⟩, fun is h => (grammatical_of_parse hc h).2, fun e => ⟨herror e, ?_⟩⟩
  · rintro ⟨is, h⟩
    exact (grammatical_of_parse hc h).1
  · intro hg
    cases h : parse ts with
    | ok is => exact ⟨is, rfl⟩
    | error e =>
      obtain ⟨i, hi, _⟩ := herror e h
      exact absurd hi (hg.no_fault i e)
  · rintro ⟨i, hi, hfirst⟩
    cases h : parse ts with
    | ok is => exact absurd hi ((grammatical_of_parse hc h).1.no_fault i e)
    | error d =>
      obtain ⟨j, hj, hleast⟩ := herror d h
      have hij : i = j := Nat.le_antisymm (hfirst j d hj) (hleast i e hi)
      subst hij
      rw [hj.unique hi]

/-- In the first row an empty statement has an attachment. In the second a `<` without a name stands
in a stage without a word, and the `<` comes first. -/
theorem of_two_faults_the_first_is_told :
    let good : List Token := [.op .attach, .word "f", .op .semicolon, .word "echo", .op .attach,
      .word "g", .op .pipe, .word "cb", .op .semicolon]
    let bad : List Token := [.word "echo", .op .pipe, .op .attach, .op .semicolon]
    Grammatical good ∧
      (statements good).flatMap instrsOf =
        [⟨.attach, ["f"]⟩, ⟨.attach, ["g"]⟩, ⟨.eval, ["echo"]⟩, ⟨.pipe, ["cb"]⟩] ∧
      ∃ i, FaultAt bad i (.noFileName 2) ∧ ∀ j d, FaultAt bad j d → i ≤ j := by
  intro good bad
  obtain ⟨haccept, hinstrs, _⟩ := the_parser_accepts_exactly_its_grammar good (Or.inr rfl)
  obtain ⟨_, _, hreject⟩ := the_parser_accepts_exactly_its_grammar bad (Or.inr rfl)
  exact ⟨haccept.mp ⟨_, rfl⟩, (hinstrs _ rfl).symm, (hreject _).mp rfl⟩

end ChatShell.Message
