-- A row of tokens as it is written: `;` cuts it into statements, and `|`, `>`, `1>`
-- and `2>` cut a statement into stages. The words of a stage are those that no `<`
-- takes for itself. What a row ends in goes on with the tokens after it.
import ChatShell.Message.Parse
import Mathlib.Data.List.Induction
import Mathlib.Tactic.SplitIfs

namespace ChatShell.Message

/-! ## Statements and stages -/

/-- Some tokens in a row, and what they were opened as. -/
structure Stretch (κ : Type) where
  kind : κ
  tokens : List Token

/-- The stretch with tokens added in front. -/
def Stretch.prepend {κ : Type} (before : List Token) (g : Stretch κ) : Stretch κ :=
  ⟨g.kind, before ++ g.tokens⟩

@[simp]
theorem Stretch.prepend_mk {κ : Type} (before : List Token) (k : κ) (ts : List Token) :
    Stretch.prepend before ⟨k, ts⟩ = ⟨k, before ++ ts⟩ := rfl

@[simp]
theorem Stretch.tokens_prepend {κ : Type} (before : List Token) (g : Stretch κ) :
    (g.prepend before).tokens = before ++ g.tokens := rfl

@[simp]
theorem Stretch.prepend_nil {κ : Type} (g : Stretch κ) : g.prepend [] = g := rfl

@[simp]
theorem Stretch.prepend_prepend {κ : Type} (as bs : List Token) (g : Stretch κ) :
    (g.prepend bs).prepend as = g.prepend (as ++ bs) := by
  simp [prepend]

/-- A row of tokens cut at those for which `opens` tells what they open. The first stretch is opened
as `k`. -/
def cut {κ : Type} (opens : Token → Option κ) (k : κ) : List Token → List (Stretch κ)
  | [] => [⟨k, []⟩]
  | t :: rest =>
    match opens t with
    | some next => ⟨k, []⟩ :: cut opens next rest
    | none => (cut opens k rest).modifyHead (Stretch.prepend [t])

def Token.opensStatement? (t : Token) : Option Unit := if t = .op .semicolon then some () else none

def Token.opensStage? : Token → Option Kind
  | .op .pipe => some .pipe
  | .op .save => some .save
  | .op .saveOut => some .saveOut
  | .op .saveErr => some .saveErr
  | _ => none

abbrev Stage := Stretch Kind

/-- The statements of a row: what stands between its `;`. -/
def statements (ts : List Token) : List (List Token) :=
  (cut Token.opensStatement? () ts).map Stretch.tokens

/-- The stages of a statement: what stands between its `|`, `>`, `1>` and `2>`. -/
def stages (statement : List Token) : List Stage := cut Token.opensStage? .eval statement

/-- The words of a row that stand right after a `<`, or the others. `after` tells whether a `<`
stands before the row. -/
def wordsOf (named after : Bool) : List Token → List String
  | [] => []
  | .word text :: rest =>
    if named == after then text :: wordsOf named false rest else wordsOf named false rest
  | .op o :: rest => wordsOf named (o == .attach) rest

/-- The names that stand right after a `<`. -/
def fileNames (ts : List Token) : List String := wordsOf true false ts

/-- The words that do not stand right after a `<`. -/
def plainWords (ts : List Token) : List String := wordsOf false false ts

def Stage.attaches (g : Stage) : List Instr :=
  (fileNames g.tokens).map fun name => ⟨.attach, [name]⟩

/-- The instructions of a stage: its attachments, then the stage itself if it has words. -/
def Stage.instrs (g : Stage) : List Instr :=
  g.attaches ++ if plainWords g.tokens = [] then [] else [⟨g.kind, plainWords g.tokens⟩]

def instrsOf (statement : List Token) : List Instr := (stages statement).flatMap Stage.instrs

/-- The statement that a row ends in. -/
def openStatement (ts : List Token) : List Token := (statements ts).getLast?.getD []

/-- The stage that a row ends in. -/
def openStage (ts : List Token) : Stage := (stages (openStatement ts)).getLast?.getD ⟨.eval, []⟩

/-! ## A row cut in the middle -/

section Cut

variable {κ : Type} {opens : Token → Option κ} {k next : κ} {t : Token}

theorem cut_cons_of_some (h : opens t = some next) (rest : List Token) :
    cut opens k (t :: rest) = ⟨k, []⟩ :: cut opens next rest := by
  simp [cut, h]

theorem cut_cons_of_none (h : opens t = none) (rest : List Token) :
    cut opens k (t :: rest) = (cut opens k rest).modifyHead (Stretch.prepend [t]) := by
  simp [cut, h]

/-- The last stretch of a row goes on with what stands after the row. -/
theorem cut_append (opens : Token → Option κ) (k : κ) (ts : List Token) :
    ∃ closed last, cut opens k ts = closed ++ [last] ∧
      ∀ us, cut opens k (ts ++ us) =
        closed ++ (cut opens last.kind us).modifyHead (Stretch.prepend last.tokens) := by
  induction ts generalizing k with
  | nil =>
    refine ⟨[], ⟨k, []⟩, rfl, ?_⟩
    intro us
    cases hc : cut opens k us <;> simp [hc]
  | cons t rest ih =>
    cases ht : opens t with
    | some next =>
      obtain ⟨closed, last, hcut, happ⟩ := ih next
      refine ⟨⟨k, []⟩ :: closed, last, by simp [cut_cons_of_some ht, hcut], ?_⟩
      intro us
      rw [List.cons_append, cut_cons_of_some ht, happ, List.cons_append]
    | none =>
      obtain ⟨closed, last, hcut, happ⟩ := ih k
      cases closed with
      | nil =>
        refine ⟨[], ⟨last.kind, t :: last.tokens⟩,
          by simp [cut_cons_of_none ht, hcut, Stretch.prepend], ?_⟩
        intro us
        rw [List.cons_append, cut_cons_of_none ht, happ]
        cases cut opens last.kind us <;> simp
      | cons g closed =>
        refine ⟨g.prepend [t] :: closed, last, by simp [cut_cons_of_none ht, hcut], ?_⟩
        intro us
        rw [List.cons_append, cut_cons_of_none ht, happ, List.cons_append, List.modifyHead_cons,
          List.cons_append]

/-- All stretches but the first were opened by a token. -/
theorem cut_eq_cons (opens : Token → Option κ) (k : κ) (ts : List Token) :
    ∃ first later, cut opens k ts = ⟨k, first⟩ :: later ∧
      ∀ g ∈ later, ∃ t, opens t = some g.kind := by
  induction ts generalizing k with
  | nil => exact ⟨[], [], rfl, by simp⟩
  | cons t rest ih =>
    cases ht : opens t with
    | some next =>
      obtain ⟨first, later, hcut, hlater⟩ := ih next
      refine ⟨[], ⟨next, first⟩ :: later, by rw [cut_cons_of_some ht, hcut], ?_⟩
      intro g hg
      rcases List.mem_cons.mp hg with rfl | hg
      · exact ⟨t, ht⟩
      · exact hlater g hg
    | none =>
      obtain ⟨first, later, hcut, hlater⟩ := ih k
      exact ⟨t :: first, later, by simp [cut_cons_of_none ht, hcut], hlater⟩

end Cut

theorem statements_semicolon (ts : List Token) :
    statements (.op .semicolon :: ts) = [] :: statements ts := rfl

theorem statements_cons_of_ne {t : Token} (h : t ≠ .op .semicolon) (ts : List Token) :
    ∃ first later, statements ts = first :: later ∧
      statements (t :: ts) = (t :: first) :: later := by
  have ht : t.opensStatement? = none := by simp [Token.opensStatement?, h]
  obtain ⟨first, later, hcut, _⟩ := cut_eq_cons Token.opensStatement? () ts
  refine ⟨first, later.map Stretch.tokens, by simp [statements, hcut], ?_⟩
  simp [statements, cut_cons_of_none ht, hcut]

/-- Only the first stage of a statement is an evaluation. -/
theorem closed_eq_nil_of_eval {statement : List Token} {closed : List Stage} {last : Stage}
    (h : stages statement = closed ++ [last]) (hlast : last.kind = .eval) : closed = [] := by
  obtain ⟨first, later, hcut, hlater⟩ := cut_eq_cons Token.opensStage? .eval statement
  cases closed with
  | nil => rfl
  | cons g closed =>
    have htail : later = closed ++ [last] := by
      have := hcut.symm.trans h
      simpa using (List.cons.inj this).2
    obtain ⟨t, ht⟩ := hlater last (by simp [htail])
    rw [hlast] at ht
    unfold Token.opensStage? at ht
    split at ht <;> cases ht

/-! ## Words -/

/-- The row ends in a `<`, or is empty and stands after one. -/
def endsInLess (after : Bool) (ts : List Token) : Bool :=
  ts.getLast?.elim after (Token.isOp .attach)

theorem wordsOf_snoc_op (named after : Bool) (ts : List Token) (o : Operator) :
    wordsOf named after (ts ++ [.op o]) = wordsOf named after ts := by
  induction ts generalizing after with
  | nil => rfl
  | cons t rest ih =>
    cases t with
    | word text => simp only [List.cons_append, wordsOf, ih]
    | op p => simp only [List.cons_append, wordsOf, ih]

theorem endsInLess_snoc (after : Bool) (ts : List Token) (t : Token) :
    endsInLess after (ts ++ [t]) = t.isOp .attach := by
  simp [endsInLess]

theorem endsInLess_cons (after : Bool) (t : Token) (rest : List Token) :
    endsInLess after (t :: rest) = endsInLess (t.isOp .attach) rest := by
  unfold endsInLess
  rw [List.getLast?_cons]
  cases rest.getLast? <;> rfl

theorem wordsOf_snoc_word (named after : Bool) (ts : List Token) (text : String) :
    wordsOf named after (ts ++ [.word text]) =
      wordsOf named after ts ++ if named == endsInLess after ts then [text] else [] := by
  induction ts generalizing after with
  | nil => rfl
  | cons t rest ih =>
    rw [endsInLess_cons, List.cons_append]
    cases t with
    | word u =>
      rw [show Token.isOp .attach (.word u) = false from rfl]
      unfold wordsOf
      rw [ih]
      split
      · rw [List.cons_append]
      · rfl
    | op p => exact ih (p == .attach)

/-! ## The open statement and the open stage -/

/-- The closed statements of a row, and the closed stages of its open statement. -/
structure Cuts (ts : List Token) (before : List (List Token)) (done : List Stage) : Prop where
  statements : statements ts = before ++ [openStatement ts]
  stages : stages (openStatement ts) = done ++ [openStage ts]

theorem Cuts.of_eq {ts : List Token} {before : List (List Token)} {done : List Stage}
    {g : Stage} (statement : List Token) (hs : Message.statements ts = before ++ [statement])
    (hg : Message.stages statement = done ++ [g]) : Cuts ts before done ∧ openStage ts = g := by
  have hopen : openStatement ts = statement := by simp [openStatement, hs]
  have hstage : openStage ts = g := by simp [openStage, hopen, hg]
  exact ⟨⟨by rw [hs, hopen], by rw [hopen, hg, hstage]⟩, hstage⟩

theorem cuts_exist (ts : List Token) : ∃ before done, Cuts ts before done := by
  obtain ⟨closed, last, hs, _⟩ := cut_append Token.opensStatement? () ts
  obtain ⟨done, g, hg, _⟩ := cut_append Token.opensStage? .eval last.tokens
  have hstatements : statements ts = closed.map Stretch.tokens ++ [last.tokens] := by
    simp [statements, hs]
  exact ⟨_, _, (Cuts.of_eq last.tokens hstatements hg).1⟩

namespace Cuts

variable {ts : List Token} {before : List (List Token)} {done : List Stage} {t : Token}

/-- The open statement goes on with what stands after the row. -/
theorem statements_append (h : Cuts ts before done) (us : List Token) :
    Message.statements (ts ++ us) =
      before ++ (Message.statements us).modifyHead (openStatement ts ++ ·) := by
  obtain ⟨closed, last, hcut, happ⟩ := cut_append Token.opensStatement? () ts
  have hopen : closed.map Stretch.tokens = before ∧ last.tokens = openStatement ts := by
    have hs := h.statements
    unfold Message.statements at hs
    rw [hcut, List.map_append] at hs
    simpa using List.append_inj' hs rfl
  unfold Message.statements
  rw [happ, ← hopen.1, ← hopen.2, List.map_append]
  cases cut Token.opensStatement? last.kind us <;> simp

/-- The open stage goes on with what stands after it in its statement. -/
theorem stages_append (h : Cuts ts before done) (us : List Token) :
    Message.stages (openStatement ts ++ us) =
      done ++ (cut Token.opensStage? (openStage ts).kind us).modifyHead
        (Stretch.prepend (openStage ts).tokens) := by
  obtain ⟨closed, last, hcut, happ⟩ := cut_append Token.opensStage? .eval (openStatement ts)
  have hopen : closed = done ∧ last = openStage ts := by
    have hs := hcut.symm.trans h.stages
    simpa using List.append_inj' hs rfl
  rw [← hopen.1, ← hopen.2]
  exact happ us

theorem semicolon (h : Cuts ts before done) :
    Cuts (ts ++ [.op .semicolon]) (before ++ [openStatement ts]) [] ∧
      openStage (ts ++ [.op .semicolon]) = ⟨.eval, []⟩ := by
  apply of_eq []
  · rw [h.statements_append, statements_semicolon]
    simp [Message.statements, cut]
  · rfl

theorem opener {kind : Kind} (h : Cuts ts before done) (ht : t.opensStage? = some kind) :
    Cuts (ts ++ [t]) before (done ++ [openStage ts]) ∧ openStage (ts ++ [t]) = ⟨kind, []⟩ := by
  have hne : t ≠ .op .semicolon := by
    rintro rfl
    cases ht
  obtain ⟨first, later, hnil, hcons⟩ := statements_cons_of_ne hne []
  cases hnil
  apply of_eq (openStatement ts ++ [t])
  · rw [h.statements_append, hcons]
    rfl
  · rw [h.stages_append, cut_cons_of_some ht]
    simp [cut]

theorem other (h : Cuts ts before done) (ht : t.opensStage? = none) (hne : t ≠ .op .semicolon) :
    Cuts (ts ++ [t]) before done ∧
      openStage (ts ++ [t]) = ⟨(openStage ts).kind, (openStage ts).tokens ++ [t]⟩ := by
  obtain ⟨first, later, hnil, hcons⟩ := statements_cons_of_ne hne []
  cases hnil
  apply of_eq (openStatement ts ++ [t])
  · rw [h.statements_append, hcons]
    rfl
  · rw [h.stages_append, cut_cons_of_none ht]
    simp [cut]

theorem instrsOf (h : Cuts ts before done) :
    Message.instrsOf (openStatement ts) =
      done.flatMap Stage.instrs ++ Stage.instrs (openStage ts) := by
  simp [Message.instrsOf, h.stages]

end Cuts

/-- The open stage ends in a `<` if the row does. -/
theorem openStage_endsInLess (ts : List Token) :
    endsInLess false (openStage ts).tokens = endsInLess false ts := by
  cases ts using List.reverseRecOn with
  | nil => rfl
  | append_singleton ts t =>
    obtain ⟨before, done, h⟩ := cuts_exist ts
    by_cases hs : t = .op .semicolon
    · subst hs
      rw [h.semicolon.2]
      simp [endsInLess, Token.isOp]
    · cases ht : t.opensStage? with
      | none =>
        rw [(h.other ht hs).2]
        simp [endsInLess]
      | some kind =>
        rw [(h.opener ht).2]
        have hno : t.isOp .attach = false := by
          unfold Token.opensStage? at ht
          split at ht <;> cases ht <;> rfl
        simp [endsInLess, hno]

end ChatShell.Message
