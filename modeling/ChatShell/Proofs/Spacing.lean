-- Where the words of a message end. A gap between two texts keeps their tokens
-- apart, and an operator stands between their tokens with or without gaps around
-- it. It is otherwise only where a character is the half of an operator: a `1` or a
-- `2` before a `>`, and a `<` before a `<`.
import ChatShell.Proofs.ScanErrors

namespace ChatShell.Message

/-! ## Gaps and operators -/

def IsGaps (b : String) : Prop := ∀ c ∈ b.toList, isGap c = true

/-- The text is empty or its last character is a gap. In a text that has tokens this gap stands in
no quote, because the quote would be open. -/
def EndsInGap (s : String) : Prop := ∀ c ∈ s.toList.getLast?, isGap c = true

/-- The operator has one character, and neither of the two texts has the other half of a longer
one. -/
def StandsApart (s₁ : String) (o : Operator) (s₂ : String) : Prop :=
  match o with
  | .semicolon | .pipe | .ampersand => True
  | .save => s₁.toList.getLast? ≠ some '1' ∧ s₁.toList.getLast? ≠ some '2'
  | .attach => s₁.toList.getLast? ≠ some '<' ∧ s₂.toList.head? ≠ some '<'
  | .saveOut | .saveErr | .here => False

theorem gap_cases {c : Char} (h : isGap c = true) : c = ' ' ∨ c = '\t' ∨ c = '\n' := by
  simpa [isGap, or_assoc] using h

theorem classify_gap {c : Char} (h : isGap c = true) :
    classify c = .gap ∧ isWordChar c = false ∧ c ≠ '>' ∧ c ≠ '<' := by
  rcases gap_cases h with rfl | rfl | rfl <;> decide

theorem classify_eq_digit {c : Char} {o : Operator} (h : classify c = .digit o) :
    (c = '1' ∧ o = .saveOut) ∨ (c = '2' ∧ o = .saveErr) := by
  unfold classify at h
  simp only [ite_eq_iff, reduceCtorEq, and_false, or_false, false_or, CharClass.digit.injEq] at h
  rcases h.2.2.2.2.2 with ⟨hc, ho⟩ | ⟨_, hc, ho⟩
  · exact Or.inl ⟨hc, ho.symm⟩
  · exact Or.inr ⟨hc, ho.symm⟩

theorem classify_eq_less {c : Char} (h : classify c = .less) : c = '<' := by
  unfold classify at h
  simp only [ite_eq_iff, reduceCtorEq, and_false, or_false, false_or] at h
  exact h.2.2.2.2.1

/-! ## What is held back -/

/-- The scanner waits for the next character, which may make an operator of two. -/
def Mode.waits : Mode → Bool
  | .digit _ _ | .less => true
  | .ready | .run _ | .name _ | .quote _ _ _ => false

/-- The mode that a character held back puts the scanner in. -/
inductive HeldBack : Char → Mode → Prop
  | digit {c : Char} {o : Operator} (h : classify c = .digit o) : HeldBack c (.digit c o)
  | less : HeldBack '<' .less

namespace Scanner

variable {lookup : Lookup} {s t : Scanner} {c : Char} {cs : List Char} {ts : List Token}

theorem heldBack_of_step (h : s.step lookup c = .ok t) (ht : t.mode.waits = true) :
    HeldBack c t.mode := by
  unfold step at h
  obtain ⟨r, hr, rfl⟩ := map_eq_ok_iff.mp h
  replace ht : r.mode.waits = true := ht
  show HeldBack c r.mode
  by_cases hg : s.mode.goesOn c = true
  · -- what goes on is never something that waits
    unfold take at hr
    cases hm : s.mode <;> simp only [hm, Mode.goesOn, beq_iff_eq, Bool.false_eq_true] at hg hr
    case quote q opened body =>
      split_ifs at hr <;> cases hr <;> cases ht
    all_goals
      rw [if_pos hg] at hr
      cases hr
      cases ht
  · rw [take_of_not_goesOn (by simpa using hg)] at hr
    unfold start at hr
    cases hc : classify c <;> simp only [hc, Except.ok.injEq, reduceCtorEq] at hr <;> subst hr
    case digit o => exact .digit hc
    case less =>
      rw [classify_eq_less hc]
      exact .less
    all_goals cases ht

/-- The scanner waits only right after the character that it holds back. -/
theorem heldBack_of_foldlM (h : cs.foldlM (step lookup) {} = .ok s) (hs : s.mode.waits = true) :
    ∃ c, cs.getLast? = some c ∧ HeldBack c s.mode := by
  rcases List.eq_nil_or_concat cs with rfl | ⟨before, c, rfl⟩
  · cases h
    cases hs
  · rw [List.concat_eq_append] at h ⊢
    obtain ⟨r, _, hlast⟩ := foldlM_append_ok h
    obtain ⟨t, hc, ht⟩ := foldlM_cons_ok hlast
    cases ht
    exact ⟨c, by simp, heldBack_of_step hc hs⟩

theorem not_goesOn_save (h : cs.foldlM (step lookup) {} = .ok s) (hf : s.finish lookup = .ok ts)
    (h1 : cs.getLast? ≠ some '1') (h2 : cs.getLast? ≠ some '2') : s.mode.goesOn '>' = false := by
  cases hm : s.mode with
  | digit d o =>
    obtain ⟨c, hlast, hheld⟩ := heldBack_of_foldlM h (by rw [hm]; rfl)
    rw [hm] at hheld
    cases hheld with
    | digit hd =>
      rcases classify_eq_digit hd with ⟨rfl, _⟩ | ⟨rfl, _⟩
      · exact absurd hlast h1
      · exact absurd hlast h2
  | quote q opened body => simp [finish, hm] at hf
  | _ => rfl

theorem not_goesOn_attach (h : cs.foldlM (step lookup) {} = .ok s) (hf : s.finish lookup = .ok ts)
    (hless : cs.getLast? ≠ some '<') : s.mode.goesOn '<' = false := by
  cases hm : s.mode with
  | less =>
    obtain ⟨c, hlast, hheld⟩ := heldBack_of_foldlM h (by rw [hm]; rfl)
    rw [hm] at hheld
    cases hheld
    exact absurd hlast hless
  | quote q opened body => simp [finish, hm] at hf
  | _ => rfl

theorem finish_of_less (lookup : Lookup) (h : s.mode = .less) :
    s.finish lookup = .ok (s.flush.tokens ++ [.op .attach]) := by
  simp [finish, settle, h, emit, flush]

theorem step_attach (lookup : Lookup) (hg : s.mode.goesOn '<' = false) :
    s.step lookup '<' = .ok { s.settle lookup with offset := s.offset + 1, mode := .less } := by
  unfold step
  rw [take_of_not_goesOn hg]
  rfl

end Scanner

/-! ## Gaps and operators between two texts -/

variable {lookup : Lookup} {s₁ s₂ b b' : String} {ts₁ ts₂ : List Token} {o : Operator}

theorem rawTokens_gaps_before (hb : IsGaps b) (h₂ : rawTokens s₂ lookup = .ok ts₂) :
    rawTokens (b ++ s₂) lookup = .ok ts₂ := by
  have hall : ∀ cs : List Char, (∀ c ∈ cs, isGap c = true) →
      rawTokens (String.ofList cs ++ s₂) lookup = .ok ts₂ := by
    intro cs
    induction cs with
    | nil =>
      intro _
      simpa using h₂
    | cons c rest ih =>
      intro hcs
      obtain ⟨hc, hw, ho, hl⟩ := classify_gap (hcs c (by simp))
      have hempty : rawTokens "" lookup = .ok [] := rfl
      have hgap := rawTokens_gap hc hw ho hl hempty (ih fun d hd => hcs d (by simp [hd]))
      rwa [String.empty_append, ← String.append_assoc, ← String.ofList_cons] at hgap
  simpa using hall b.toList hb

theorem rawTokens_gaps (hb : IsGaps b) (hne : b ≠ "") (h₁ : rawTokens s₁ lookup = .ok ts₁)
    (h₂ : rawTokens s₂ lookup = .ok ts₂) :
    rawTokens (s₁ ++ b ++ s₂) lookup = .ok (ts₁ ++ ts₂) := by
  obtain ⟨c, cs, hcs⟩ := List.exists_cons_of_ne_nil (l := b.toList) (by simpa using hne)
  have hsplit : b = String.singleton c ++ String.ofList cs := by
    rw [← String.toList_inj, hcs]
    simp
  unfold IsGaps at hb
  rw [hcs] at hb
  obtain ⟨hc, hw, ho, hl⟩ := classify_gap (hb c (by simp))
  have hrest : IsGaps (String.ofList cs) := by
    intro d hd
    rw [String.toList_ofList] at hd
    exact hb d (by simp [hd])
  rw [hsplit, String.append_assoc, String.append_assoc, ← String.append_assoc]
  exact rawTokens_gap hc hw ho hl h₁ (rawTokens_gaps_before hrest h₂)

theorem rawTokens_gaps_after (hb : IsGaps b) (h₁ : rawTokens s₁ lookup = .ok ts₁) :
    rawTokens (s₁ ++ b) lookup = .ok ts₁ := by
  by_cases hne : b = ""
  · rw [hne, String.append_empty]
    exact h₁
  · have h := rawTokens_gaps hb hne h₁ (show rawTokens "" lookup = .ok [] from rfl)
    simpa using h

theorem rawTokens_save (h₁ : rawTokens s₁ lookup = .ok ts₁)
    (h₂ : rawTokens s₂ lookup = .ok ts₂) (h : StandsApart s₁ .save s₂) :
    rawTokens (s₁ ++ ">" ++ s₂) lookup = .ok (ts₁ ++ [.op .save] ++ ts₂) := by
  obtain ⟨s, hs, hf⟩ := rawTokens_eq_ok_iff.mp h₁
  have hg := Scanner.not_goesOn_save hs hf h.1 h.2
  exact rawTokens_cut (c := '>') hs (Scanner.step_operator rfl hg hf) h₂

theorem rawTokens_attach (h₁ : rawTokens s₁ lookup = .ok ts₁)
    (h₂ : rawTokens s₂ lookup = .ok ts₂) (h : StandsApart s₁ .attach s₂) :
    rawTokens (s₁ ++ "<" ++ s₂) lookup = .ok (ts₁ ++ [.op .attach] ++ ts₂) := by
  obtain ⟨s, hs, hf⟩ := rawTokens_eq_ok_iff.mp h₁
  have hstep := Scanner.step_attach lookup (Scanner.not_goesOn_attach hs hf h.1)
  -- the `<` is still held back when the second text begins, and its first character settles it
  apply rawTokens_append (foldlM_push (c := '<') hs hstep) _ rfl _ h₂
  · rw [← Scanner.tokens_of_finish hf]
    exact Scanner.finish_of_less lookup rfl
  · intro c hc
    have hne : c ≠ '<' := by
      rintro rfl
      exact h.2 hc
    simpa [Mode.goesOn] using hne

theorem rawTokens_between (h₁ : rawTokens s₁ lookup = .ok ts₁)
    (h₂ : rawTokens s₂ lookup = .ok ts₂) (h : StandsApart s₁ o s₂) :
    rawTokens (s₁ ++ o.text ++ s₂) lookup = .ok (ts₁ ++ [.op o] ++ ts₂) := by
  cases o with
  | semicolon => exact rawTokens_semicolon h₁ h₂
  | pipe => exact rawTokens_operator (c := '|') rfl (by decide) (by decide) (by decide) h₁ h₂
  | ampersand => exact rawTokens_operator (c := '&') rfl (by decide) (by decide) (by decide) h₁ h₂
  | save => exact rawTokens_save h₁ h₂ h
  | attach => exact rawTokens_attach h₁ h₂ h
  | saveOut | saveErr | here => exact absurd h id

theorem getLast?_append_gaps (hb : IsGaps b) {c : Char} (hc : isGap c = false)
    (h : s₁.toList.getLast? ≠ some c) : (s₁ ++ b).toList.getLast? ≠ some c := by
  rw [String.toList_append, List.getLast?_append]
  intro hlast
  rcases Option.or_eq_some_iff.mp hlast with hl | ⟨_, hl⟩
  · rw [hb c (List.mem_of_getLast? hl)] at hc
    cases hc
  · exact h hl

theorem StandsApart.gaps (h : StandsApart s₁ o s₂) (hb : IsGaps b) (hb' : IsGaps b') :
    StandsApart (s₁ ++ b) o (b' ++ s₂) := by
  cases o with
  | semicolon | pipe | ampersand => trivial
  | saveOut | saveErr | here => exact h
  | save =>
    exact ⟨getLast?_append_gaps hb (by decide) h.1, getLast?_append_gaps hb (by decide) h.2⟩
  | attach =>
    refine ⟨getLast?_append_gaps hb (by decide) h.1, ?_⟩
    rw [String.toList_append, List.head?_append]
    intro hfirst
    rcases Option.or_eq_some_iff.mp hfirst with hl | ⟨_, hl⟩
    · have := hb' '<' (List.mem_of_head? hl)
      simp [isGap] at this
    · exact h.2 hl

/-- Two texts with gaps between them have the tokens of the one and then of the other. An operator
that stands apart between them stands between their tokens. So the tokens are the same whether
there are gaps around it or not. -/
theorem gaps_only_keep_words_apart (lookup : Lookup) (s₁ s₂ : String) (ts₁ ts₂ : List Token)
    (h₁ : rawTokens s₁ lookup = .ok ts₁) (h₂ : rawTokens s₂ lookup = .ok ts₂) :
    (∀ b, b ≠ "" → IsGaps b → rawTokens (s₁ ++ b ++ s₂) lookup = .ok (ts₁ ++ ts₂)) ∧
    ∀ o, StandsApart s₁ o s₂ →
      rawTokens (s₁ ++ o.text ++ s₂) lookup = .ok (ts₁ ++ [.op o] ++ ts₂) ∧
      ∀ b b', IsGaps b → IsGaps b' →
        tokenize (s₁ ++ b ++ o.text ++ (b' ++ s₂)) lookup =
          tokenize (s₁ ++ o.text ++ s₂) lookup := by
  refine ⟨fun b hne hb => rawTokens_gaps hb hne h₁ h₂, ?_⟩
  intro o ho
  have hclose := rawTokens_between h₁ h₂ ho
  refine ⟨hclose, ?_⟩
  intro b b' hb hb'
  have hwide := rawTokens_between (rawTokens_gaps_after hb h₁) (rawTokens_gaps_before hb' h₂)
    (ho.gaps hb hb')
  unfold tokenize
  rw [hwide, hclose]

/-- The `1` that a name stands for is no half of `1>`, and the quoted `<` is no half of `<<`. -/
theorem a_value_is_no_half_of_an_operator :
    let lookup : Lookup := fun name => if name = "X" then some "1" else none
    let before := "echo $X"
    let after := "'<'f"
    rawTokens before lookup = .ok [.word "echo", .word "1"] ∧
      rawTokens after lookup = .ok [.word "<f"] ∧
      StandsApart before .save after ∧ StandsApart before .attach after ∧ IsGaps "\n \t" ∧
      rawTokens (before ++ "\n \t" ++ after) lookup = .ok [.word "echo", .word "1", .word "<f"] ∧
      rawTokens (before ++ "<" ++ after) lookup =
        .ok [.word "echo", .word "1", .op .attach, .word "<f"] ∧
      tokenize (before ++ "\n \t" ++ ">" ++ ("" ++ after)) lookup =
        tokenize (before ++ ">" ++ after) lookup := by
  intro lookup before after
  have h₁ : rawTokens before lookup = .ok [.word "echo", .word "1"] := by decide +kernel
  have h₂ : rawTokens after lookup = .ok [.word "<f"] := by decide +kernel
  have hgaps : IsGaps "\n \t" := by simp [IsGaps, isGap]
  have hnone : IsGaps "" := by simp [IsGaps]
  have hsave : StandsApart before .save after := by constructor <;> decide
  have hattach : StandsApart before .attach after := by constructor <;> decide
  obtain ⟨hgap, hop⟩ := gaps_only_keep_words_apart lookup before after _ _ h₁ h₂
  exact ⟨h₁, h₂, hsave, hattach, hgaps, hgap _ (by decide) hgaps, (hop .attach hattach).1,
    (hop .save hsave).2 "\n \t" "" hgaps hnone⟩

/-! ## Digits before `>` -/

theorem classify_word {c : Char} (h : isWordChar c = true) (h1 : c ≠ '1') (h2 : c ≠ '2') :
    classify c = .word := by
  have hne : ∀ d : Char, isWordChar d = false → c ≠ d := by
    rintro d hd rfl
    rw [h] at hd
    cases hd
  have hop : c ≠ ';' ∧ c ≠ '|' ∧ c ≠ '>' ∧ c ≠ '&' ∧ c ≠ '<' ∧ c ≠ '$' ∧ c ≠ '\'' ∧ c ≠ '"' := by
    refine ⟨?_, ?_, ?_, ?_, ?_, ?_, ?_, ?_⟩ <;> exact hne _ (by decide)
  simp [classify, hop, h1, h2, h]

theorem classify_word_cases {c : Char} (h : isWordChar c = true) :
    (∃ o, classify c = .digit o) ∨ (classify c = .word ∧ c ≠ '1' ∧ c ≠ '2') := by
  by_cases h1 : c = '1'
  · exact Or.inl ⟨.saveOut, by rw [h1]; rfl⟩
  by_cases h2 : c = '2'
  · exact Or.inl ⟨.saveErr, by rw [h2]; rfl⟩
  exact Or.inr ⟨classify_word h h1 h2, h1, h2⟩

theorem halves_push {v : String} {d : Char} {o : Operator}
    (hv : ∀ c ∈ v.toList, c = '1' ∨ c = '2') (hd : classify d = .digit o) :
    ∀ c ∈ (v.push d).toList, c = '1' ∨ c = '2' := by
  intro c hc
  rw [String.toList_push, List.mem_append, List.mem_singleton] at hc
  rcases hc with hc | rfl
  · exact hv c hc
  · exact (classify_eq_digit hd).imp And.left And.left

/-- What the scanner has of a run of word characters. As long as there are only ones and twos the
last of them is held back, and every other character begins a run that takes all that follows. -/
inductive Scanner.HasWord : List Char → Scanner → Prop
  | nil {offset : Nat} : HasWord [] { offset }
  | digits {offset : Nat} {v : String} {d : Char} {o : Operator} (hd : classify d = .digit o)
      (hv : ∀ c ∈ v.toList, c = '1' ∨ c = '2') :
      HasWord (v.push d).toList ⟨offset, .digit d o, bareWord v, []⟩
  | run {offset : Nat} {cs : List Char} {text : String} {pending : Option String} {c : Char}
      (hc : c ∈ cs) (h1 : c ≠ '1') (h2 : c ≠ '2')
      (hcs : pending.getD "" ++ text = String.ofList cs) :
      HasWord cs ⟨offset, .run text, pending, []⟩

namespace Scanner

variable {lookup : Lookup} {s : Scanner} {c : Char} {cs : List Char}

/-- After ones and twos that are settled, one more is held back and any other character begins a
run. -/
theorem HasWord.start {v : String} (hv : ∀ d ∈ v.toList, d = '1' ∨ d = '2')
    (hc : isWordChar c = true) (offset next : Nat) :
    ∃ t, start ⟨offset, .ready, bareWord v, []⟩ c = .ok t ∧
      HasWord (v.push c).toList { t with offset := next } := by
  unfold Scanner.start
  rcases classify_word_cases hc with ⟨o, ho⟩ | ⟨hw, h1, h2⟩
  · rw [ho]
    exact ⟨_, rfl, .digits ho hv⟩
  · rw [hw]
    refine ⟨_, rfl, .run (c := c) (by simp) h1 h2 ?_⟩
    rw [bareWord_getD, ← String.toList_inj]
    simp

theorem HasWord.step (h : HasWord cs s) (hc : isWordChar c = true) :
    ∃ t, s.step lookup c = .ok t ∧ HasWord (cs ++ [c]) t := by
  have hsave : c ≠ '>' := by
    rintro rfl
    exact absurd hc (by decide)
  unfold Scanner.step
  cases h with
  | @nil offset =>
    obtain ⟨t, ht, hword⟩ := HasWord.start (v := "") (by simp) hc offset (offset + c.utf8Size)
    exact ⟨_, congrArg (Except.map _) ht, by simpa using hword⟩
  | @digits offset v d o hd hv =>
    obtain ⟨t, ht, hword⟩ := HasWord.start (halves_push hv hd) hc offset (offset + c.utf8Size)
    have hsettle : settle lookup ⟨offset, .digit d o, bareWord v, []⟩ =
        ⟨offset, .ready, bareWord (v.push d), []⟩ := by
      simp [settle, glue, bareWord_getD, bareWord_of_ne (push_ne_empty v d)]
    refine ⟨{ t with offset := offset + c.utf8Size }, ?_, by simpa using hword⟩
    rw [take_of_not_goesOn (by simpa [Mode.goesOn] using hsave), hsettle, ht]
    rfl
  | @run offset cs text pending d hd h1 h2 hcs =>
    refine ⟨⟨offset + c.utf8Size, .run (text.push c), pending, []⟩, ?_,
      .run (c := d) (by simp [hd]) h1 h2 ?_⟩
    · simp [take, hc, Except.map]
    · rw [← String.toList_inj] at hcs ⊢
      simp only [String.toList_append, String.toList_ofList, String.toList_push] at hcs ⊢
      rw [← hcs, List.append_assoc]

theorem hasWord_of_isWordChar (lookup : Lookup) (h : ∀ c ∈ cs, isWordChar c = true) :
    ∃ s, cs.foldlM (Scanner.step lookup) {} = .ok s ∧ HasWord cs s :=
  foldlM_succeeds (fun _ _ _ h hc => h.step hc) .nil h

end Scanner

/-- A text that ends in a gap leaves no word at hand. -/
theorem rawTokens_append_of_endsInGap (hgap : EndsInGap s₁) (h₁ : rawTokens s₁ lookup = .ok ts₁)
    (h₂ : rawTokens s₂ lookup = .ok ts₂) : rawTokens (s₁ ++ s₂) lookup = .ok (ts₁ ++ ts₂) := by
  obtain ⟨s, hs, hf⟩ := rawTokens_eq_ok_iff.mp h₁
  rcases List.eq_nil_or_concat s₁.toList with hnil | ⟨before, c, hcs⟩
  · rw [hnil] at hs
    cases hs
    exact rawTokens_append (by rw [hnil]; rfl) hf rfl (by simp [Mode.goesOn]) h₂
  · rw [List.concat_eq_append] at hcs
    have hc : isGap c = true := hgap c (by simp [hcs])
    obtain ⟨hclass, hw, ho, hl⟩ := classify_gap hc
    rw [hcs] at hs
    obtain ⟨r, hr, hlast⟩ := foldlM_append_ok hs
    obtain ⟨t, hstep, ht⟩ := foldlM_cons_ok hlast
    cases ht
    have hq : r.mode.inQuote = false := by
      cases hm : r.mode with
      | quote q opened body =>
        -- a quote that is open before the gap is open after it, and the text has no tokens
        have hne : c ≠ q.char := by
          rcases gap_cases hc with rfl | rfl | rfl <;> cases q <;> decide
        rw [Scanner.step_stays lookup hm hne] at hstep
        cases hstep
        cases hf
      | _ => rfl
    obtain ⟨ts, hts⟩ := (Scanner.exists_finish_iff lookup r).mpr hq
    have hg := Scanner.not_goesOn_of_finish hts hw ho hl
    rw [Scanner.step_gap hclass hg hts] at hstep
    cases hstep
    exact rawTokens_append (by rw [hcs]; exact hs) hf rfl (by simp [Mode.goesOn]) h₂

theorem rawTokens_word_save {w : String} (hw : ∀ c ∈ w.toList, isWordChar c = true)
    (hmixed : ∃ c ∈ w.toList, c ≠ '1' ∧ c ≠ '2') (h₂ : rawTokens s₂ lookup = .ok ts₂) :
    rawTokens (w ++ ">" ++ s₂) lookup = .ok ([.word w, .op .save] ++ ts₂) := by
  obtain ⟨c, hc, h1, h2⟩ := hmixed
  obtain ⟨s, hs, hword⟩ := Scanner.hasWord_of_isWordChar lookup hw
  have hend : s.finish lookup = .ok [.word w] ∧ s.mode.goesOn '>' = false := by
    generalize hcs : w.toList = cs at hc hword
    cases hword with
    | nil => cases hc
    | digits hd hv =>
      rcases halves_push hv hd c hc with rfl | rfl
      · exact absurd rfl h1
      · exact absurd rfl h2
    | run _ _ _ htext =>
      rw [← hcs, String.ofList_toList] at htext
      refine ⟨?_, rfl⟩
      rw [← htext]
      rfl
  exact rawTokens_cut (c := '>') hs (Scanner.step_operator rfl hend.2 hend.1) h₂

theorem rawTokens_digits_save {v : String} {d : Char}
    (hw : ∀ c ∈ (v.push d).toList, c = '1' ∨ c = '2') (h₂ : rawTokens s₂ lookup = .ok ts₂) :
    rawTokens (v.push d ++ ">" ++ s₂) lookup =
      .ok ((if v = "" then [] else [.word v]) ++
        [.op (if d = '1' then .saveOut else .saveErr)] ++ ts₂) := by
  have hchars : ∀ c ∈ (v.push d).toList, isWordChar c = true := by
    intro c hc
    rcases hw c hc with rfl | rfl <;> decide
  obtain ⟨s, hs, hword⟩ := Scanner.hasWord_of_isWordChar lookup hchars
  obtain ⟨offset, o, hd, rfl⟩ : ∃ offset o, classify d = .digit o ∧
      s = ⟨offset, .digit d o, bareWord v, []⟩ := by
    generalize hcs : (v.push d).toList = cs at hw hword
    cases hword with
    | nil => exact absurd hcs (by simp)
    | @digits offset v' d' o hd hv =>
      rw [String.toList_push, String.toList_push, List.append_singleton_inj] at hcs
      obtain ⟨hv, rfl⟩ := hcs
      cases String.toList_inj.mp hv
      exact ⟨offset, o, hd, rfl⟩
    | run hc h1 h2 htext =>
      rcases hw _ hc with rfl | rfl
      · exact absurd rfl h1
      · exact absurd rfl h2
  have ho : o = if d = '1' then .saveOut else .saveErr := by
    rcases classify_eq_digit hd with ⟨rfl, rfl⟩ | ⟨rfl, rfl⟩ <;> rfl
  have hstep : Scanner.step lookup ⟨offset, .digit d o, bareWord v, []⟩ '>' =
      .ok ⟨offset + 1, .ready, none, (if v = "" then [] else [.word v]) ++ [.op o]⟩ := by
    unfold bareWord
    split_ifs <;> rfl
  rw [← ho]
  exact rawTokens_cut (c := '>') hs hstep h₂

/-- A word that stands right before a `>` keeps all its characters, if it has one that is neither
`1` nor `2`. A word of ones and twos gives its last digit to the operator, and what is left is a
word only if there is something left. -/
theorem a_word_of_ones_and_twos_gives_up_its_last (lookup : Lookup) (s₁ w s₂ : String)
    (ts₁ ts₂ : List Token) (h₁ : rawTokens s₁ lookup = .ok ts₁) (hgap : EndsInGap s₁)
    (hw : ∀ c ∈ w.toList, isWordChar c = true) (h₂ : rawTokens s₂ lookup = .ok ts₂) :
    ((∃ c ∈ w.toList, c ≠ '1' ∧ c ≠ '2') →
      rawTokens (s₁ ++ w ++ ">" ++ s₂) lookup = .ok (ts₁ ++ [.word w, .op .save] ++ ts₂)) ∧
    ∀ v d, w = v.push d → (∀ c ∈ w.toList, c = '1' ∨ c = '2') →
      rawTokens (s₁ ++ w ++ ">" ++ s₂) lookup =
        .ok (ts₁ ++ (if v = "" then [] else [.word v]) ++
          [.op (if d = '1' then .saveOut else .saveErr)] ++ ts₂) := by
  constructor
  · intro hmixed
    have h := rawTokens_append_of_endsInGap hgap h₁ (rawTokens_word_save hw hmixed h₂)
    simpa [String.append_assoc] using h
  · rintro v d rfl hdigits
    have h := rawTokens_append_of_endsInGap hgap h₁ (rawTokens_digits_save hdigits h₂)
    simpa [String.append_assoc] using h

/-- In `21a2>` the digits stay with the `a`. Without it `212>` is the word `21` and the operator
`2>`, and `1>` is no word at all. -/
theorem digits_go_with_a_letter :
    let lookup : Lookup := fun _ => none
    rawTokens "a ' ' " lookup = .ok [.word "a", .word " "] ∧ EndsInGap "a ' ' " ∧
      rawTokens "f" lookup = .ok [.word "f"] ∧
      rawTokens ("a ' ' " ++ "21a2" ++ ">" ++ "f") lookup =
        .ok [.word "a", .word " ", .word "21a2", .op .save, .word "f"] ∧
      rawTokens ("a ' ' " ++ "212" ++ ">" ++ "f") lookup =
        .ok [.word "a", .word " ", .word "21", .op .saveErr, .word "f"] ∧
      rawTokens ("a ' ' " ++ "1" ++ ">" ++ "f") lookup =
        .ok [.word "a", .word " ", .op .saveOut, .word "f"] := by
  intro lookup
  have h₁ : rawTokens "a ' ' " lookup = .ok [.word "a", .word " "] := by decide +kernel
  have h₂ : rawTokens "f" lookup = .ok [.word "f"] := by decide +kernel
  have hgap : EndsInGap "a ' ' " := by simp [EndsInGap, isGap]
  have hlaw := fun w hw =>
    a_word_of_ones_and_twos_gives_up_its_last lookup "a ' ' " w "f" _ _ h₁ hgap hw h₂
  have hmixed := (hlaw "21a2" (by simp [isWordChar])).1 ⟨'a', by simp⟩
  have htwo := (hlaw "212" (by simp [isWordChar])).2 "21" '2' rfl (by simp)
  have hone := (hlaw "1" (by simp [isWordChar])).2 "" '1' rfl (by simp)
  exact ⟨h₁, hgap, h₂, hmixed, htwo, hone⟩

end ChatShell.Message
