-- Where scanning fails. A character that means nothing fails if what stands before
-- it has tokens, and so does a quote that is never closed. The error names that
-- place, counted in bytes. It is the first place that is wrong, because what stands
-- before a later one has no tokens.
import ChatShell.Proofs.Scanning
import Mathlib.Data.List.Induction
import Mathlib.Data.String.Basic

namespace ChatShell.Message

/-! ## What is wrong with a text -/

/-- The character is no part of a word, no gap, no operator, no `$` and no quote. -/
def Meaningless (c : Char) : Prop :=
  c.isAlphanum = false ∧ c ∉ "./,:+=-_ \t\n;$>|&<'\"".toList

/-- The text has tokens. -/
def HasTokens (lookup : Lookup) (source : String) : Prop := ∃ ts, tokenize source lookup = .ok ts

/-- A character that means nothing stands after so many bytes, and what stands before it has
tokens. -/
def IllegalAt (lookup : Lookup) (source : String) (c : Char) (offset : Nat) : Prop :=
  ∃ before after, source = before ++ String.singleton c ++ after ∧ HasTokens lookup before ∧
    offset = before.utf8ByteSize ∧ Meaningless c

/-- A quote stands after so many bytes and nowhere later, and what stands before it has tokens. -/
def OpenAt (lookup : Lookup) (source : String) (q : Quote) (offset : Nat) : Prop :=
  ∃ before after, source = before ++ String.singleton q.char ++ after ∧ HasTokens lookup before ∧
    offset = before.utf8ByteSize ∧ q.char ∉ after.toList

/-- The character an error is about. -/
def ScanError.char : ScanError → Char
  | .unterminated q _ => q.char
  | .illegal c _ => c

theorem classify_eq_illegal_iff {c : Char} : classify c = .illegal ↔ Meaningless c := by
  unfold classify
  simp only [ite_eq_iff, reduceCtorEq, and_false, false_or, and_true]
  unfold Meaningless isWordChar isGap
  constructor
  · intro h
    simp at h ⊢
    tauto
  · intro h
    have h1 : c ≠ '1' := by
      rintro rfl
      exact absurd h.1 (by decide)
    have h2 : c ≠ '2' := by
      rintro rfl
      exact absurd h.1 (by decide)
    simp at h ⊢
    tauto

theorem classify_eq_quote_iff {c : Char} {q : Quote} : classify c = .quote q ↔ c = q.char := by
  constructor
  · intro h
    unfold classify at h
    simp only [ite_eq_iff, reduceCtorEq, and_false, or_false, false_or, CharClass.quote.injEq] at h
    obtain ⟨rfl, rfl⟩ | ⟨_, rfl, rfl⟩ := h.2.2.2.2.2.2.2.2
    · rfl
    · rfl
  · rintro rfl
    cases q <;> rfl

/-! ## One character -/

def Mode.inQuote : Mode → Bool
  | .quote _ _ _ => true
  | _ => false

/-- A character that means nothing goes on with a quote and with nothing else. -/
theorem Mode.goesOn_of_illegal {m : Mode} {c : Char} (hc : classify c = .illegal) :
    m.goesOn c = m.inQuote := by
  obtain ⟨halnum, hsymbol⟩ := classify_eq_illegal_iff.mp hc
  have hword : isWordChar c = false := by
    unfold isWordChar
    simp at hsymbol
    simp [halnum, hsymbol]
  have hmore : c ≠ '>' := by
    rintro rfl
    exact hsymbol (by decide)
  have hless : c ≠ '<' := by
    rintro rfl
    exact hsymbol (by decide)
  cases m <;> simp [goesOn, inQuote, isNameChar, hword, halnum, hmore, hless]

/-- A quote goes on with a quote and with nothing else. -/
theorem Mode.goesOn_quote (m : Mode) (q : Quote) : m.goesOn q.char = m.inQuote := by
  cases m with
  | ready | quote _ _ _ => rfl
  | run _ | digit _ _ | name _ | less => cases q <;> rfl

theorem Mode.inQuote_of_not_goesOn {m : Mode} {c : Char} (h : m.goesOn c = false) :
    m.inQuote = false := by
  cases m <;> first | rfl | cases h

namespace Scanner

variable {lookup : Lookup} {s t : Scanner} {c : Char} {e : ScanError}

theorem exists_finish_iff (lookup : Lookup) (s : Scanner) :
    (∃ ts, s.finish lookup = .ok ts) ↔ s.mode.inQuote = false := by
  unfold finish
  cases s.mode <;> simp [Mode.inQuote]

theorem start_eq_error_iff :
    s.start c = .error e ↔ classify c = .illegal ∧ .illegal c s.offset = e := by
  unfold start
  cases classify c <;> simp

/-- Outside quotes a character fails exactly if it means nothing, and inside none does. -/
theorem step_eq_error_iff :
    s.step lookup c = .error e ↔
      s.mode.inQuote = false ∧ classify c = .illegal ∧ .illegal c s.offset = e := by
  have hmap : s.step lookup c = .error e ↔ s.take lookup c = .error e := by
    unfold step
    cases s.take lookup c <;> simp [Except.map]
  rw [hmap]
  cases hg : s.mode.goesOn c with
  | false =>
    rw [take_of_not_goesOn hg, start_eq_error_iff, settle_offset]
    simp [Mode.inQuote_of_not_goesOn hg]
  | true =>
    have hok : s.take lookup c ≠ .error e := by
      unfold take
      cases hm : s.mode with
      | quote q opened body =>
        dsimp only
        split_ifs <;> simp
      | _ => simp_all [Mode.goesOn]
    simp only [hok, false_iff, not_and]
    intro hq hc
    rw [Mode.goesOn_of_illegal hc, hq] at hg
    cases hg

theorem step_offset (h : s.step lookup c = .ok t) : t.offset = s.offset + c.utf8Size := by
  unfold step at h
  obtain ⟨r, _, rfl⟩ := map_eq_ok_iff.mp h
  rfl

/-- The offset is the number of bytes taken. -/
theorem foldlM_offset {cs : List Char} (h : cs.foldlM (step lookup) {} = .ok s) :
    s.offset = String.utf8Len cs := by
  have hstep : ∀ (done : List Char) (s : Scanner) c t, s.offset = String.utf8Len done →
      s.step lookup c = .ok t → t.offset = String.utf8Len (done ++ [c]) := by
    intro done s c t hs hc
    rw [step_offset hc, hs]
    simp
  exact foldlM_invariant (P := fun done s => s.offset = String.utf8Len done) hstep cs rfl h

/-! ## Quotes -/

variable {q : Quote} {opened : Nat} {body : String}

theorem step_opens (lookup : Lookup) (h : s.mode.inQuote = false) (q : Quote) :
    ∃ t, s.step lookup q.char = .ok t ∧ t.mode = .quote q s.offset "" := by
  have hg : s.mode.goesOn q.char = false := by rw [Mode.goesOn_quote, h]
  unfold step
  rw [take_of_not_goesOn hg, start, classify_eq_quote_iff.mpr rfl]
  exact ⟨_, rfl, by rw [settle_offset]⟩

theorem step_stays (lookup : Lookup) (h : s.mode = .quote q opened body) (hc : c ≠ q.char) :
    s.step lookup c =
      .ok { s with offset := s.offset + c.utf8Size, mode := .quote q opened (body.push c) } := by
  unfold step take
  simp only [h, if_neg hc]
  rfl

/-- Characters that are each added to what the scanner is in the middle of are all added to it. -/
theorem foldlM_gathers (mode : String → Mode) {cs : List Char} {text : String}
    (hstep : ∀ c ∈ cs, ∀ (s : Scanner) (text : String), s.mode = mode text →
      s.step lookup c =
        .ok { s with offset := s.offset + c.utf8Size, mode := mode (text.push c) })
    (h : s.mode = mode text) :
    cs.foldlM (step lookup) s =
      .ok { s with
        offset := s.offset + String.utf8Len cs
        mode := mode (text ++ String.ofList cs) } := by
  induction cs generalizing s text with
  | nil => simp [← h]; rfl
  | cons c rest ih =>
    rw [List.foldlM_cons, hstep c (by simp) s text h]
    show rest.foldlM (step lookup) _ = _
    have htext : text.push c ++ String.ofList rest = text ++ String.ofList (c :: rest) := by
      rw [← String.toList_inj]
      simp
    rw [ih (fun d hd => hstep d (by simp [hd])) rfl, htext]
    simp [Nat.add_assoc, Nat.add_comm]

theorem foldlM_stays (lookup : Lookup) {cs : List Char} (h : s.mode = .quote q opened body)
    (hcs : q.char ∉ cs) :
    cs.foldlM (step lookup) s =
      .ok { s with
        offset := s.offset + String.utf8Len cs
        mode := .quote q opened (body ++ String.ofList cs) } := by
  apply foldlM_gathers (.quote q opened) _ h
  intro c hc s text hs
  apply step_stays lookup hs
  rintro rfl
  exact hcs hc

/-- A scanner in a quote was in it before, or has just taken the quote. -/
theorem quote_of_step (h : s.step lookup c = .ok t) (ht : t.mode = .quote q opened body) :
    (∃ held, s.mode = .quote q opened held ∧ c ≠ q.char ∧ body = held.push c) ∨
      (s.mode.inQuote = false ∧ c = q.char ∧ opened = s.offset ∧ body = "") := by
  unfold step at h
  obtain ⟨r, hr, rfl⟩ := map_eq_ok_iff.mp h
  replace ht : r.mode = .quote q opened body := ht
  cases hg : s.mode.goesOn c with
  | false =>
    rw [take_of_not_goesOn hg] at hr
    unfold start at hr
    cases hc : classify c <;> simp only [hc, Except.ok.injEq, reduceCtorEq] at hr <;> subst hr
    case quote p =>
      cases ht
      rw [settle_offset]
      exact Or.inr ⟨Mode.inQuote_of_not_goesOn hg, classify_eq_quote_iff.mp hc, rfl, rfl⟩
    all_goals cases ht
  | true =>
    unfold take at hr
    cases hm : s.mode with
    | quote p opened' held =>
      simp only [hm] at hr
      split_ifs at hr with hc
      · cases hr
        cases ht
      · cases hr
        cases ht
        exact Or.inl ⟨held, rfl, hc, rfl⟩
    | ready =>
      rw [hm] at hg
      cases hg
    | run _ | digit _ _ | name _ | less =>
      rw [hm] at hg
      simp only [Mode.goesOn, beq_iff_eq] at hg
      simp only [hm, hg, if_true, Except.ok.injEq] at hr
      subst hr
      cases ht

/-- Where an open quote was opened: after a text that has tokens, and it has not come again
since. -/
theorem opened_of_foldlM {cs : List Char} (h : cs.foldlM (step lookup) {} = .ok s)
    (hm : s.mode = .quote q opened body) :
    ∃ before r, cs = before ++ q.char :: body.toList ∧
      before.foldlM (step lookup) {} = .ok r ∧ r.mode.inQuote = false ∧ opened = r.offset ∧
      q.char ∉ body.toList := by
  induction cs using List.reverseRecOn generalizing s body with
  | nil =>
    cases h
    cases hm
  | append_singleton done c ih =>
    obtain ⟨r, hr, hlast⟩ := foldlM_append_ok h
    obtain ⟨t, hstep, ht⟩ := foldlM_cons_ok hlast
    cases ht
    rcases quote_of_step hstep hm with ⟨held, hheld, hc, rfl⟩ | ⟨hq, rfl, rfl, rfl⟩
    · obtain ⟨before, p, rfl, hp, hout, hopened, hnot⟩ := ih hr hheld
      refine ⟨before, p, by simp, hp, hout, hopened, ?_⟩
      simp [hnot, Ne.symm hc]
    · exact ⟨done, r, by simp, hr, hq, rfl, by simp⟩

end Scanner

/-! ## A whole text -/

variable {lookup : Lookup} {source : String}

theorem tokenize_eq_error_iff {e : ScanError} :
    tokenize source lookup = .error e ↔ rawTokens source lookup = .error e := by
  unfold tokenize
  cases rawTokens source lookup <;> simp [Except.map]

/-- A text has tokens if it can be scanned to its end and no quote is open there. -/
theorem hasTokens_iff :
    HasTokens lookup source ↔
      ∃ s, source.toList.foldlM (Scanner.step lookup) {} = .ok s ∧ s.mode.inQuote = false := by
  have hraw : HasTokens lookup source ↔ ∃ ts, rawTokens source lookup = .ok ts := by
    unfold HasTokens tokenize
    cases rawTokens source lookup <;> simp [Except.map]
  simp only [hraw, rawTokens_eq_ok_iff, ← Scanner.exists_finish_iff lookup]
  constructor
  · rintro ⟨ts, s, hs, hf⟩
    exact ⟨s, hs, ts, hf⟩
  · rintro ⟨s, hs, ts, hf⟩
    exact ⟨ts, s, hs, hf⟩

/-- A text fails at a character, or else at its end with a quote open. -/
theorem rawTokens_eq_error_iff {e : ScanError} :
    rawTokens source lookup = .error e ↔
      source.toList.foldlM (Scanner.step lookup) {} = .error e ∨
        ∃ s q opened body, source.toList.foldlM (Scanner.step lookup) {} = .ok s ∧
          s.mode = .quote q opened body ∧ .unterminated q opened = e := by
  unfold rawTokens
  cases source.toList.foldlM (Scanner.step lookup) {} with
  | error d => simp [bind, Except.bind]
  | ok s =>
    simp only [bind, Except.bind, Scanner.finish]
    cases hm : s.mode <;> simp [hm]

theorem tokenize_eq_illegal_iff {c : Char} {offset : Nat} :
    tokenize source lookup = .error (.illegal c offset) ↔ IllegalAt lookup source c offset := by
  rw [tokenize_eq_error_iff, rawTokens_eq_error_iff]
  constructor
  · rintro (h | ⟨s, q, opened, body, _, _, h⟩)
    · obtain ⟨before, d, after, s, hsource, hs, hd⟩ := foldlM_eq_error_iff.mp h
      obtain ⟨hq, hc, he⟩ := Scanner.step_eq_error_iff.mp hd
      cases he
      refine ⟨String.ofList before, String.ofList after, ?_, ?_, ?_, classify_eq_illegal_iff.mp hc⟩
      · rw [← String.toList_inj, hsource]
        simp
      · exact hasTokens_iff.mpr ⟨s, by rwa [String.toList_ofList], hq⟩
      · rw [Scanner.foldlM_offset hs, String.utf8ByteSize_ofList]
    · cases h
  · rintro ⟨before, after, rfl, hbefore, rfl, hc⟩
    obtain ⟨s, hs, hq⟩ := hasTokens_iff.mp hbefore
    refine Or.inl (foldlM_eq_error_iff.mpr ⟨before.toList, c, after.toList, s, by simp, hs, ?_⟩)
    rw [Scanner.step_eq_error_iff, Scanner.foldlM_offset hs, String.utf8Len_toList]
    exact ⟨hq, classify_eq_illegal_iff.mpr hc, rfl⟩

theorem tokenize_eq_unterminated_iff {q : Quote} {offset : Nat} :
    tokenize source lookup = .error (.unterminated q offset) ↔ OpenAt lookup source q offset := by
  rw [tokenize_eq_error_iff, rawTokens_eq_error_iff]
  constructor
  · rintro (h | ⟨s, p, opened, body, hs, hm, h⟩)
    · obtain ⟨_, _, _, _, _, _, hd⟩ := foldlM_eq_error_iff.mp h
      obtain ⟨_, _, he⟩ := Scanner.step_eq_error_iff.mp hd
      cases he
    · cases h
      obtain ⟨before, r, hsource, hr, hq, rfl, hnot⟩ := Scanner.opened_of_foldlM hs hm
      refine ⟨String.ofList before, body, ?_, ?_, ?_, hnot⟩
      · rw [← String.toList_inj, hsource]
        simp
      · exact hasTokens_iff.mpr ⟨r, by rwa [String.toList_ofList], hq⟩
      · rw [Scanner.foldlM_offset hr, String.utf8ByteSize_ofList]
  · rintro ⟨before, after, rfl, hbefore, rfl, hnot⟩
    obtain ⟨s, hs, hq⟩ := hasTokens_iff.mp hbefore
    obtain ⟨r, hr, hm⟩ := Scanner.step_opens lookup hq q
    obtain ⟨t, ht, hopen⟩ : ∃ t, after.toList.foldlM (Scanner.step lookup) r = .ok t ∧
        t.mode = .quote q s.offset after := ⟨_, Scanner.foldlM_stays lookup hm hnot, by simp⟩
    refine Or.inr ⟨t, q, s.offset, after, ?_, hopen, ?_⟩
    · have hlist : (before ++ String.singleton q.char ++ after).toList =
          before.toList ++ q.char :: after.toList := by simp
      rw [hlist, List.foldlM_append, hs]
      show (q.char :: after.toList).foldlM (Scanner.step lookup) s = _
      rw [List.foldlM_cons, hr]
      exact ht
    · rw [Scanner.foldlM_offset hs, String.utf8Len_toList]

theorem get?_of_split (before after : String) (c : Char) :
    String.Pos.Raw.get? (before ++ String.singleton c ++ after) ⟨before.utf8ByteSize⟩ = some c := by
  have h := String.get?_of_valid before.toList (c :: after.toList)
  have hlist : String.ofList (before.toList ++ c :: after.toList) =
      before ++ String.singleton c ++ after := by
    rw [← String.toList_inj]
    simp
  rw [hlist, String.utf8Len_toList] at h
  exact h

/-! ## The law -/

/-- A text fails at a character that means nothing, if what stands before it has tokens, and at a
quote that does not come again, if what stands before it has tokens. It fails nowhere else. The
error gives the character and the bytes before it, so the character is found at that offset. -/
theorem an_error_tells_the_first_place_that_is_wrong (source : String) (lookup : Lookup) :
    (∀ c offset, tokenize source lookup = .error (.illegal c offset) ↔
      IllegalAt lookup source c offset) ∧
    (∀ q offset, tokenize source lookup = .error (.unterminated q offset) ↔
      OpenAt lookup source q offset) ∧
    (HasTokens lookup source ↔
      ¬((∃ c offset, IllegalAt lookup source c offset) ∨
        ∃ q offset, OpenAt lookup source q offset)) ∧
    ∀ e, tokenize source lookup = .error e →
      String.Pos.Raw.get? source ⟨e.offset⟩ = some e.char := by
  refine ⟨fun c offset => tokenize_eq_illegal_iff, fun q offset => tokenize_eq_unterminated_iff,
    ?_, ?_⟩
  · simp only [← tokenize_eq_illegal_iff, ← tokenize_eq_unterminated_iff]
    unfold HasTokens
    cases tokenize source lookup with
    | ok ts => simp
    | error e => cases e <;> simp
  · intro e he
    cases e with
    | illegal c offset =>
      obtain ⟨before, after, rfl, _, rfl, _⟩ := tokenize_eq_illegal_iff.mp he
      exact get?_of_split before after c
    | unterminated q offset =>
      obtain ⟨before, after, rfl, _, rfl, _⟩ := tokenize_eq_unterminated_iff.mp he
      exact get?_of_split before after q.char

/-- The `#` and the first `é` stand in quotes. The second `é` does not, and it has 14 bytes before
it. -/
theorem a_bare_accent_is_found_behind_a_quoted_one :
    tokenize "echo 'é#' $X é'" (fun _ => none) = .error (.illegal 'é' 14) ∧
      String.Pos.Raw.get? "echo 'é#' $X é'" ⟨14⟩ = some 'é' := by
  have h : tokenize "echo 'é#' $X é'" (fun _ => none) = .error (.illegal 'é' 14) := rfl
  obtain ⟨_, _, _, hfound⟩ :=
    an_error_tells_the_first_place_that_is_wrong "echo 'é#' $X é'" fun _ => none
  exact ⟨h, hfound _ h⟩

end ChatShell.Message
