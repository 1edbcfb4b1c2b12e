-- The operators `<<` and `&` are kept for later and say nothing. A row of tokens has
-- the same instructions without them, and the same error but for its place, which
-- counts them. Only right after a `<` one of them does harm: it stands where a name
-- should.
import ChatShell.Proofs.Grammar

namespace ChatShell.Message

/-! ## Rows without them -/

/-- The token is an operator that is kept for later. -/
def Token.isReserved : Token → Bool
  | .op .here | .op .ampersand => true
  | _ => false

def withoutReserved (ts : List Token) : List Token := ts.filter fun t => !t.isReserved

/-- The `<` at this place has an operator right after it that is kept for later. -/
def ReservedAfterLess (ts : List Token) (i : Nat) : Prop :=
  ts[i]? = some (.op .attach) ∧ ts[i + 1]?.any Token.isReserved

instance (ts : List Token) (i : Nat) : Decidable (ReservedAfterLess ts i) :=
  inferInstanceAs (Decidable (_ ∧ _))

/-- The first error is that of the row, and the second that of the row without reserved operators:
the place of a `<` counts those before it. -/
inductive Recounted (ts : List Token) : ParseError → ParseError → Prop
  | noFileName {i k : Nat} (hless : ts[i]? = some (.op .attach))
      (hplace : i = k + (ts.take i).countP Token.isReserved) :
      Recounted ts (.noFileName i) (.noFileName k)
  | emptyStage (kind : Kind) : Recounted ts (.emptyStage kind) (.emptyStage kind)

variable {ts done : List Token} {t : Token} {p q : Parser} {e d : ParseError}

theorem withoutReserved_cons_of_reserved (h : t.isReserved) (rest : List Token) :
    withoutReserved (t :: rest) = withoutReserved rest := by
  simp [withoutReserved, h]

theorem withoutReserved_cons (h : t.isReserved = false) (rest : List Token) :
    withoutReserved (t :: rest) = t :: withoutReserved rest := by
  simp [withoutReserved, h]

theorem length_withoutReserved_append (ts us : List Token) :
    (withoutReserved (ts ++ us)).length =
      (withoutReserved ts).length + (withoutReserved us).length := by
  simp [withoutReserved]

/-- What is left out and what is left are all the tokens. -/
theorem length_eq_withoutReserved (ts : List Token) :
    ts.length = (withoutReserved ts).length + ts.countP Token.isReserved := by
  have h := List.length_eq_countP_add_countP Token.isReserved (l := ts)
  have hleft : (withoutReserved ts).length = ts.countP fun t => ¬t.isReserved := by
    simp [withoutReserved, List.countP_eq_length_filter]
  omega

/-- A row that goes on has the error it had. -/
theorem Recounted.append (h : Recounted ts e d) (us : List Token) : Recounted (ts ++ us) e d := by
  cases h with
  | emptyStage kind => exact .emptyStage kind
  | @noFileName i k hless hplace =>
    have hi : i < ts.length := (List.getElem?_eq_some_iff.mp hless).1
    refine .noFileName ?_ ?_
    · rwa [List.getElem?_append_left hi]
    · rwa [List.take_append_of_le_length (by omega)]

/-! ## Two parsers -/

/-- The first parser has taken the row, and the second has taken it without reserved operators.
They have counted differently, and else they stand at the same point. -/
structure Parser.Beside (done : List Token) (p q : Parser) : Prop where
  index : p.index = done.length
  indexToo : q.index = (withoutReserved done).length
  instrs : p.instrs = q.instrs
  stage : p.stage = q.stage
  wanting : (p.wanting = none ∧ q.wanting = none) ∨
    ∃ before, done = before ++ [.op .attach] ∧ p.wanting = some before.length ∧
      q.wanting = some (withoutReserved before).length

namespace Parser.Beside

theorem start : Parser.Beside [] {} {} := ⟨rfl, rfl, rfl, rfl, Or.inl ⟨rfl, rfl⟩⟩

/-- A parser that wants no name passes over a reserved operator. -/
theorem pass (h : Parser.Beside done p q) (ht : t.isReserved) (hw : p.wanting = none) :
    ∃ s, p.step t = .ok s ∧ Parser.Beside (done ++ [t]) s q := by
  have hq : q.wanting = none := by
    rcases h.wanting with ⟨_, hq⟩ | ⟨before, _, hsome, _⟩
    · exact hq
    · rw [hw] at hsome
      cases hsome
  have htook : Took p t ⟨p.index + 1, p.instrs, p.stage, none⟩ := by
    cases t with
    | word text => cases ht
    | op o =>
      cases o with
      | here | ampersand => exact .ignored hw rfl (by simp)
      | pipe | save | saveOut | saveErr | attach | semicolon => cases ht
  refine ⟨_, step_of_took htook, ⟨?_, ?_, h.instrs, h.stage, Or.inl ⟨rfl, hq⟩⟩⟩
  · simp [h.index]
  · rw [h.indexToo, length_withoutReserved_append, withoutReserved_cons_of_reserved ht]
    rfl

/-- Both parsers take any other token alike. -/
theorem step (h : Parser.Beside done p q) (ht : t.isReserved = false) :
    InStep (Recounted (done ++ [t])) (Parser.Beside (done ++ [t])) (p.step t) (q.step t) := by
  obtain ⟨index, instrs, stage, wanting⟩ := p
  obtain ⟨index', instrs', stage', wanting'⟩ := q
  obtain ⟨hindex, hindexToo, hinstrs, hstage, hwanting⟩ := h
  dsimp only at hindex hindexToo hinstrs hstage hwanting
  subst hindex hindexToo hinstrs hstage
  have hlen : done.length + 1 = (done ++ [t]).length := by simp
  have hlenToo : (withoutReserved done).length + 1 = (withoutReserved (done ++ [t])).length := by
    rw [length_withoutReserved_append, withoutReserved_cons ht]
    rfl
  rcases hwanting with ⟨rfl, rfl⟩ | ⟨before, hdone, rfl, rfl⟩
  · cases t with
    | word text => exact .ok ⟨hlen, hlenToo, rfl, rfl, Or.inl ⟨rfl, rfl⟩⟩
    | op o =>
      cases o with
      | here | ampersand => cases ht
      | attach => exact .ok ⟨hlen, hlenToo, rfl, rfl, Or.inr ⟨done, rfl, rfl, rfl⟩⟩
      | pipe | save | saveOut | saveErr | semicolon =>
        simp only [Parser.step, take, Operator.opens?, close]
        split_ifs
        · exact .ok ⟨hlen, hlenToo, rfl, rfl, Or.inl ⟨rfl, rfl⟩⟩
        · exact .error (.emptyStage _)
        · exact .ok ⟨hlen, hlenToo, rfl, rfl, Or.inl ⟨rfl, rfl⟩⟩
  · cases t with
    | word name => exact .ok ⟨hlen, hlenToo, rfl, rfl, Or.inl ⟨rfl, rfl⟩⟩
    | op o =>
      refine .error (.noFileName (by simp [hdone]) ?_)
      have htake : (done ++ [Token.op o]).take before.length = before := by simp [hdone]
      rw [htake]
      exact length_eq_withoutReserved before

theorem wanting_none (h : Parser.Beside done p q) {rest : List Token} (ht : t.isReserved)
    (happart : ∀ i, ¬ReservedAfterLess (done ++ t :: rest) i) : p.wanting = none := by
  rcases h.wanting with ⟨hp, _⟩ | ⟨before, rfl, _, _⟩
  · exact hp
  · refine absurd ⟨?_, ?_⟩ (happart before.length)
    · simp
    · simp [ht]

/-- The parsers stay beside each other if no reserved operator stands where a name should. -/
theorem foldlM {rest : List Token} (h : Parser.Beside done p q)
    (happart : ∀ i, ¬ReservedAfterLess (done ++ rest) i) :
    InStep (Recounted (done ++ rest)) (Parser.Beside (done ++ rest)) (rest.foldlM Parser.step p)
      ((withoutReserved rest).foldlM Parser.step q) := by
  induction rest generalizing done p q with
  | nil =>
    rw [List.append_nil]
    exact .ok h
  | cons t rest ih =>
    have hsplit : done ++ t :: rest = done ++ [t] ++ rest := by simp
    rw [List.foldlM_cons]
    cases ht : t.isReserved with
    | true =>
      obtain ⟨s, hs, hnext⟩ := h.pass ht (h.wanting_none ht happart)
      rw [withoutReserved_cons_of_reserved ht, hs]
      rw [hsplit] at happart ⊢
      exact ih hnext happart
    | false =>
      rw [withoutReserved_cons ht, List.foldlM_cons]
      rw [hsplit] at happart ⊢
      refine ((h.step ht).mono fun _ _ he => he.append rest).bind ?_
      intro s s' hnext
      exact ih hnext happart

theorem finish (h : Parser.Beside ts p q) :
    InStep (Recounted ts) (· = ·) p.finish q.finish := by
  unfold Parser.finish
  rcases h.wanting with ⟨hp, hq⟩ | ⟨before, rfl, hp, hq⟩
  · rw [hp, hq]
    exact .ok h.instrs
  · rw [hp, hq]
    refine .error (.noFileName (by simp) ?_)
    rw [List.take_left]
    exact length_eq_withoutReserved before

end Parser.Beside

/-! ## The law -/

/-- A reserved operator that stands where a name should is wrong, and what is read of the row up to
there settles the error. -/
theorem parse_of_reservedAfterLess {i : Nat} (h : ReservedAfterLess ts i) :
    ∃ e, (∃ j, FaultAt ts j e ∧ j ≤ i) ∧ ∀ us, parse (ts.take (i + 2) ++ us) = .error e := by
  obtain ⟨hless, hnext⟩ := h
  obtain ⟨t, ht, hreserved⟩ : ∃ t, ts[i + 1]? = some t ∧ t.isReserved := by
    cases ht : ts[i + 1]? with
    | none =>
      rw [ht] at hnext
      cases hnext
    | some t =>
      rw [ht] at hnext
      exact ⟨t, rfl, hnext⟩
  have hfault : FaultAt ts i (.noFileName i) := by
    refine .noFileName hless ?_
    intro name hname
    rw [ht] at hname
    cases hname
    cases hreserved
  have hlen : (ts.take (i + 2)).length = i + 2 := by
    have := (List.getElem?_eq_some_iff.mp ht).1
    rw [List.length_take]
    omega
  have hsplit : ts.take (i + 2) ++ ts.drop (i + 2) = ts := List.take_append_drop _ _
  cases hf : (ts.take (i + 2)).foldlM Parser.step {} with
  | ok p =>
    have hread : FaultAt (ts.take (i + 2)) i (.noFileName i) := by
      rw [← hsplit] at hfault
      exact hfault.of_append (by omega)
    have := ((Parser.hasRead_of_foldlM hf).clean i _ hread).2
    omega
  | error e =>
    obtain ⟨before, u, after, p, hcut, hp, hu⟩ := foldlM_eq_error_iff.mp hf
    obtain ⟨j, hj, hfirst⟩ :=
      (Parser.hasRead_of_foldlM hp).first_fault hu (after ++ ts.drop (i + 2))
    have hwhole : before ++ u :: (after ++ ts.drop (i + 2)) = ts := by
      rw [← List.cons_append, ← List.append_assoc, ← hcut, hsplit]
    rw [hwhole] at hj hfirst
    refine ⟨e, ⟨j, hj, hfirst i _ hfault⟩, ?_⟩
    intro us
    unfold parse
    rw [List.foldlM_append, hf]
    rfl

/-- If no `<<` or `&` stands right after a `<`, the row without them is parsed alike: the same
instructions, or the same error, where the place of a `<` counts those before it. If one does, the
row has an error, at the first such `<` or before it, whatever stands after the two. -/
theorem reserved_operators_say_nothing (ts : List Token) :
    ((∀ i, ¬ReservedAfterLess ts i) →
      InStep (Recounted ts) (· = ·) (parse ts) (parse (withoutReserved ts))) ∧
    ∀ i, ReservedAfterLess ts i →
      ∃ e, parse ts = .error e ∧ (∃ j, FaultAt ts j e ∧ j ≤ i) ∧
        ∀ us, parse (ts.take (i + 2) ++ us) = .error e := by
  constructor
  · intro happart
    have hrun := Parser.Beside.start.foldlM happart
    exact hrun.bind fun p q hpq => hpq.finish
  · intro i hi
    obtain ⟨e, hfault, hparse⟩ := parse_of_reservedAfterLess hi
    refine ⟨e, ?_, hfault, hparse⟩
    rw [← hparse (ts.drop (i + 2)), List.take_append_drop]

/-- In `a & << | b & < ;` the `<` is the fourth token that counts and the seventh there is. In
`a & < <<` no name after the two can help. -/
theorem a_place_counts_what_says_nothing :
    let good : List Token := [.word "a", .op .ampersand, .op .here, .op .pipe, .word "b",
      .op .ampersand, .op .attach, .op .semicolon]
    let bad : List Token := [.word "a", .op .ampersand, .op .attach, .op .here]
    (∀ i, ¬ReservedAfterLess good i) ∧
      parse good = .error (.noFileName 6) ∧
      parse (withoutReserved good) = .error (.noFileName 3) ∧
      Recounted good (.noFileName 6) (.noFileName 3) ∧
      ReservedAfterLess bad 2 ∧
      ∀ us, parse (bad ++ us) = .error (.noFileName 2) := by
  intro good bad
  have happart : ∀ i, ¬ReservedAfterLess good i := by
    have hall : ∀ i < 8, ¬ReservedAfterLess good i := by decide
    intro i hi
    exact hall i (List.getElem?_eq_some_iff.mp hi.1).1 hi
  have hgood := (reserved_operators_say_nothing good).1 happart
  have hbad : ReservedAfterLess bad 2 := by decide
  obtain ⟨e, he, _, hmore⟩ := (reserved_operators_say_nothing bad).2 2 hbad
  have hparse : parse good = .error (.noFileName 6) := by decide
  have hleft : parse (withoutReserved good) = .error (.noFileName 3) := by decide
  have hplace : e = .noFileName 2 := by
    have : parse bad = .error (.noFileName 2) := by decide
    rw [this] at he
    cases he
    rfl
  rw [hparse, hleft] at hgood
  refine ⟨happart, hparse, hleft, ?_, hbad, ?_⟩
  · cases hgood with
    | error h => exact h
  · rw [← hplace]
    exact hmore

end ChatShell.Message
