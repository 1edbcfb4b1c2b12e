-- The laws of `$NAME` outside quotes and in double quotes. Two loops put the values
-- in their places, and both give the text with each `$` and the name after it
-- replaced. They differ in one thing: quotes make a word of an empty text, and a
-- name without a value does not.
import ChatShell.Proofs.Spacing

namespace ChatShell.Message

/-! ## The text with the values in place -/

/-- Every `$` is replaced, together with all letters and digits that follow it, by the value of the
name they spell. Without a letter or digit, or without a value, nothing takes its place. -/
def expanded (lookup : Lookup) : List Char → String
  | [] => ""
  | c :: rest =>
    if c = '$' then
      let name := String.ofList (rest.takeWhile Char.isAlphanum)
      let value := if name = "" then "" else (lookup name).getD ""
      value ++ expanded lookup (rest.dropWhile Char.isAlphanum)
    else String.singleton c ++ expanded lookup rest
termination_by cs => cs.length
decreasing_by
  · exact Nat.lt_succ_of_le (List.dropWhile_sublist _).length_le
  · simp

variable {lookup : Lookup} {c : Char} {rest : List Char}

theorem expanded_nil : expanded lookup [] = "" := by rw [expanded]

theorem expanded_dollar :
    expanded lookup ('$' :: rest) =
      expand lookup (String.ofList (rest.takeWhile isNameChar)) ++
        expanded lookup (rest.dropWhile isNameChar) := by
  have hname : isNameChar = Char.isAlphanum := rfl
  rw [expanded, hname]
  simp [expand]

theorem expanded_cons (hc : c ≠ '$') :
    expanded lookup (c :: rest) = String.singleton c ++ expanded lookup rest := by
  rw [expanded, if_neg hc]

/-! ## In double quotes -/

namespace Interpolation

/-- The text that is still to come: the value of the name at hand, and the rest with the values in
place. -/
def toCome (lookup : Lookup) (i : Interpolation) (rest : List Char) : String :=
  match i.name with
  | none => expanded lookup rest
  | some name =>
    expand lookup (name ++ String.ofList (rest.takeWhile isNameChar)) ++
      expanded lookup (rest.dropWhile isNameChar)

variable (i : Interpolation)

theorem settle_name (lookup : Lookup) : (i.settle lookup).name = none := by
  unfold settle
  cases h : i.name <;> simp [h]

theorem toCome_of_name_none (h : i.name = none) : i.toCome lookup rest = expanded lookup rest := by
  simp [toCome, h]

theorem start_toCome (h : i.name = none) (c : Char) (rest : List Char) :
    (i.start c).text ++ (i.start c).toCome lookup rest = i.text ++ expanded lookup (c :: rest) := by
  unfold start
  by_cases hc : c = '$'
  · simp [hc, toCome, expanded_dollar]
  · rw [if_neg hc, expanded_cons hc, ← String.append_assoc, String.append_singleton]
    simp [toCome, h]

theorem step_toCome (c : Char) (rest : List Char) :
    (i.step lookup c).text ++ (i.step lookup c).toCome lookup rest =
      i.text ++ i.toCome lookup (c :: rest) := by
  unfold step
  cases hn : i.name with
  | none => rw [toCome_of_name_none i hn, start_toCome i hn]
  | some name =>
    dsimp only
    by_cases hc : isNameChar c = true
    · rw [if_pos hc]
      simp [toCome, hn, hc, String.ofList_cons, ← String.append_assoc]
    · -- the name ends before `c`, and `c` is read as if there had been none
      rw [if_neg hc, start_toCome _ (settle_name i lookup)]
      simp [toCome, settle, hn, hc, String.append_assoc]

theorem foldl_text (cs : List Char) :
    ((cs.foldl (step lookup) i).settle lookup).text = i.text ++ i.toCome lookup cs := by
  induction cs generalizing i with
  | nil => cases hn : i.name <;> simp [settle, toCome, hn, expanded_nil]
  | cons c rest ih => rw [List.foldl_cons, ih, step_toCome]

end Interpolation

theorem interpolate_eq_expanded (lookup : Lookup) (body : String) :
    interpolate lookup body = expanded lookup body.toList := by
  unfold interpolate
  rw [Interpolation.foldl_text]
  simp [Interpolation.toCome]

theorem rawTokens_doubleQuoted {body : String} (h : '"' ∉ body.toList) :
    rawTokens ("\"" ++ body ++ "\"") lookup = .ok [.word (interpolate lookup body)] := by
  have hopen : Scanner.step lookup {} '"' = .ok ⟨1, .quote .double 0 "", none, []⟩ := rfl
  have hbody := Scanner.foldlM_stays (s := ⟨1, .quote .double 0 "", none, []⟩) lookup rfl h
  have hclose : ∀ n, Scanner.step lookup ⟨n, .quote .double 0 body, none, []⟩ '"' =
      .ok ⟨n + '"'.utf8Size, .ready, some (interpolate lookup body), []⟩ := by
    simp [Scanner.step, Scanner.take, Scanner.glue, Quote.char, Quote.read, Except.map]
  rw [String.empty_append, String.ofList_toList] at hbody
  have hscan : ("\"" ++ body).toList.foldlM (Scanner.step lookup) {} =
      .ok ⟨1 + String.utf8Len body.toList, .quote .double 0 body, none, []⟩ := by
    rw [String.toList_append]
    exact hbody
  have hend := foldlM_push hscan (hclose _)
  exact rawTokens_eq_ok_iff.mpr ⟨_, hend, rfl⟩

/-! ## Outside quotes -/

/-- The scanner outside quotes and the reader in double quotes stand at the same point of a text:
they have the same text so far and the same name at hand. -/
inductive Scanner.Beside : Scanner → Interpolation → Prop
  | ready {offset : Nat} {text : String} :
      Beside ⟨offset, .ready, bareWord text, []⟩ ⟨text, none⟩
  | run {offset : Nat} {before text : String} (h : text ≠ "") :
      Beside ⟨offset, .run text, bareWord before, []⟩ ⟨before ++ text, none⟩
  | digit {offset : Nat} {before : String} {d : Char} {o : Operator} :
      Beside ⟨offset, .digit d o, bareWord before, []⟩ ⟨before.push d, none⟩
  | name {offset : Nat} {text name : String} :
      Beside ⟨offset, .name name, bareWord text, []⟩ ⟨text, some name⟩

namespace Scanner.Beside

variable {s : Scanner} {i : Interpolation}

theorem settle (h : Beside s i) (lookup : Lookup) :
    s.settle lookup = ⟨s.offset, .ready, bareWord (i.settle lookup).text, []⟩ := by
  cases h with
  | ready => rfl
  | @run offset before text h =>
    have hne : before ++ text ≠ "" := by simp [h]
    simp [Scanner.settle, glue, bareWord_getD, Interpolation.settle, bareWord_of_ne hne]
  | @digit offset before d o =>
    have hne := bareWord_of_ne (push_ne_empty before d)
    simp [Scanner.settle, glue, bareWord_getD, Interpolation.settle, hne]
  | @name offset text name =>
    simp only [Scanner.settle, glueValue, Interpolation.settle]
    by_cases hv : expand lookup name = ""
    · simp [hv]
    · have hne : text ++ expand lookup name ≠ "" := by simp [hv]
      simp [hv, glue, bareWord_getD, bareWord_of_ne hne]

theorem start (hc : isWordChar c = true ∨ c = '$') (offset next : Nat) (text : String) :
    ∃ t, Scanner.start ⟨offset, .ready, bareWord text, []⟩ c = .ok t ∧
      Beside { t with offset := next } (Interpolation.start ⟨text, none⟩ c) := by
  rcases hc with hc | rfl
  · have hdollar : c ≠ '$' := by
      rintro rfl
      exact absurd hc (by decide)
    unfold Scanner.start Interpolation.start
    rw [if_neg hdollar]
    rcases classify_word_cases hc with ⟨o, ho⟩ | ⟨hw, _, _⟩
    · rw [ho]
      exact ⟨_, rfl, .digit⟩
    · rw [hw]
      refine ⟨_, rfl, ?_⟩
      dsimp only
      rw [← String.append_singleton]
      exact .run (by simp)
  · exact ⟨_, rfl, .name⟩

theorem step (h : Beside s i) (hc : isWordChar c = true ∨ c = '$') :
    ∃ t, s.step lookup c = .ok t ∧ Beside t (i.step lookup c) := by
  -- a character that goes on with nothing is taken by both after what they have is settled
  have hends : s.mode.goesOn c = false → i.step lookup c = (i.settle lookup).start c →
      ∃ t, s.step lookup c = .ok t ∧ Beside t (i.step lookup c) := by
    intro hg hi
    have hname := i.settle_name lookup
    obtain ⟨t, ht, hbeside⟩ :=
      start hc s.offset (s.offset + c.utf8Size) (i.settle lookup).text
    refine ⟨{ t with offset := s.offset + c.utf8Size }, ?_, ?_⟩
    · unfold Scanner.step
      rw [take_of_not_goesOn hg, h.settle lookup, ht]
      rfl
    · rw [hi, show i.settle lookup = ⟨(i.settle lookup).text, none⟩ by rw [← hname]]
      exact hbeside
  cases h with
  | ready => exact hends rfl rfl
  | @run offset before text hne =>
    by_cases hw : isWordChar c = true
    · have hdollar : c ≠ '$' := by
        rintro rfl
        exact absurd hw (by decide)
      refine ⟨⟨offset + c.utf8Size, .run (text.push c), bareWord before, []⟩, ?_, ?_⟩
      · simp [Scanner.step, take, hw, Except.map]
      · have hpush : (before ++ text).push c = before ++ text.push c := by
          rw [← String.toList_inj]
          simp
        simp only [Interpolation.step, Interpolation.start, if_neg hdollar, hpush]
        exact .run (push_ne_empty text c)
    · exact hends (by simpa [Mode.goesOn] using hw) rfl
  | @digit offset before d o =>
    refine hends ?_ rfl
    have hsave : c ≠ '>' := by
      rintro rfl
      rcases hc with hc | hc <;> exact absurd hc (by decide)
    simpa [Mode.goesOn] using hsave
  | @name offset text name =>
    by_cases hn : isNameChar c = true
    · refine ⟨⟨offset + c.utf8Size, .name (name.push c), bareWord text, []⟩, ?_, ?_⟩
      · simp [Scanner.step, take, hn, Except.map]
      · simp only [Interpolation.step, if_pos hn]
        exact .name
    · refine hends (by simpa [Mode.goesOn] using hn) ?_
      simp only [Interpolation.step, if_neg hn]

theorem finish (h : Beside s i) :
    s.finish lookup = .ok ((bareWord (i.settle lookup).text).map .word).toList := by
  have hsettle := h.settle lookup
  unfold Scanner.finish
  cases h <;> simp [hsettle, flush]

end Scanner.Beside

theorem rawTokens_bare {b : String} (h : ∀ c ∈ b.toList, isWordChar c = true ∨ c = '$') :
    rawTokens b lookup = .ok ((bareWord (interpolate lookup b)).map .word).toList := by
  have h0 : Scanner.Beside {} {} := by
    have hready : Scanner.Beside ⟨0, .ready, bareWord "", []⟩ ⟨"", none⟩ := .ready
    simpa [bareWord] using hready
  have hstep : ∀ (done : List Char) (s : Scanner) (c : Char),
      s.Beside (done.foldl (Interpolation.step lookup) {}) → (isWordChar c = true ∨ c = '$') →
      ∃ t, s.step lookup c = .ok t ∧
        t.Beside ((done ++ [c]).foldl (Interpolation.step lookup) {}) := by
    intro done s c hs hc
    rw [List.foldl_append]
    exact hs.step hc
  obtain ⟨s, hs, hbeside⟩ := foldlM_succeeds hstep h0 h
  exact rawTokens_eq_ok_iff.mpr ⟨s, hs, hbeside.finish⟩

/-- A text of word characters and names has the same tokens with double quotes around it and
without: the one word that is the text with the values in place. Only if no text is left, the
quotes make a word of it and without them there is none. -/
theorem double_quotes_matter_to_an_empty_word_only (lookup : Lookup) (b : String)
    (h : ∀ c ∈ b.toList, c.isAlphanum = true ∨ c ∈ "./,:+=-_$".toList) :
    tokenize ("\"" ++ b ++ "\"") lookup =
        .ok [.word (expanded lookup b.toList), .op .semicolon] ∧
      tokenize b lookup =
        .ok (if expanded lookup b.toList = "" then []
          else [.word (expanded lookup b.toList), .op .semicolon]) := by
  have hchars : ∀ c ∈ b.toList, isWordChar c = true ∨ c = '$' := by
    intro c hc
    have hc := h c hc
    simp [isWordChar] at hc ⊢
    tauto
  have hquote : '"' ∉ b.toList := by
    intro hq
    rcases hchars _ hq with hc | hc <;> exact absurd hc (by decide)
  rw [← interpolate_eq_expanded]
  unfold tokenize
  rw [rawTokens_doubleQuoted hquote, rawTokens_bare hchars]
  refine ⟨rfl, ?_⟩
  unfold bareWord
  split_ifs <;> rfl

/-- Names next to each other, a `$` without a name, and digits that end a name or belong to it. -/
theorem names_are_replaced_next_to_each_other :
    let lookup : Lookup := fun name => if name = "A1" then some "x y" else none
    let text := "1$A1$.2$$A1-$B"
    (∀ c ∈ text.toList, c.isAlphanum = true ∨ c ∈ "./,:+=-_$".toList) ∧
      expanded lookup text.toList = "1x y.2x y-" ∧
      tokenize ("\"" ++ text ++ "\"") lookup = .ok [.word "1x y.2x y-", .op .semicolon] ∧
      tokenize text lookup = .ok [.word "1x y.2x y-", .op .semicolon] ∧
      tokenize "$B$" lookup = .ok [] := by
  intro lookup text
  have htext : ∀ c ∈ text.toList, c.isAlphanum = true ∨ c ∈ "./,:+=-_$".toList := by
    simp [text]
  have hvalue : expanded lookup text.toList = "1x y.2x y-" := by
    simp [text, lookup, expanded, Char.isAlphanum]
  have hnone : expanded lookup "$B$".toList = "" := by
    simp [lookup, expanded]
  have hlaw := double_quotes_matter_to_an_empty_word_only lookup text htext
  have hempty := (double_quotes_matter_to_an_empty_word_only lookup "$B$" (by simp)).2
  rw [hvalue] at hlaw
  rw [hnone] at hempty
  exact ⟨htext, hvalue, hlaw.1, hlaw.2, hempty⟩

end ChatShell.Message
