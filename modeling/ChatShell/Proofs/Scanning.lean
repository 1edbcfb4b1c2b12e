-- How the scanner takes a message apart in the middle. What stands before a text
-- only moves its offsets and goes in front of its tokens. A character that cannot
-- go on with what the scanner is in the middle of ends it, as the end of the
-- message does. So a gap or an operator between two texts stands between their
-- tokens.
import ChatShell.Message.Scan
import ChatShell.Proofs.Fold
import Mathlib.Tactic.SplitIfs

namespace ChatShell.Message

/-! ## What stands before a text -/

/-- The error of a text that stands `n` bytes further on. -/
def ScanError.shift (n : Nat) : ScanError → ScanError
  | .unterminated q offset => .unterminated q (n + offset)
  | .illegal c offset => .illegal c (n + offset)

def Mode.shift (n : Nat) : Mode → Mode
  | .quote q opened body => .quote q (n + opened) body
  | m => m

namespace Scanner

/-- The scanner of a text that stands after `n` bytes with the tokens `before`. -/
def after (n : Nat) (before : List Token) (s : Scanner) : Scanner :=
  ⟨n + s.offset, s.mode.shift n, s.pending, before ++ s.tokens⟩

variable (lookup : Lookup) (n : Nat) (before : List Token) (s : Scanner)

theorem after_flush : (s.after n before).flush = s.flush.after n before := by
  simp [after, flush, Mode.shift]

theorem after_emit (o : Operator) : (s.after n before).emit o = (s.emit o).after n before := by
  unfold emit
  rw [after_flush]
  simp [after]

theorem after_glueValue (value : String) :
    (s.after n before).glueValue value = (s.glueValue value).after n before := by
  unfold glueValue
  split <;> rfl

theorem after_settle : (s.after n before).settle lookup = (s.settle lookup).after n before := by
  unfold settle
  rw [show (s.after n before).mode = s.mode.shift n from rfl]
  cases s.mode with
  | ready => rfl
  | run text => rfl
  | digit c o => rfl
  | name text => exact after_glueValue n before s (expand lookup text)
  | less => exact after_emit n before s .attach
  | quote q opened body => rfl

theorem after_start (c : Char) :
    (s.after n before).start c = carried (ScanError.shift n) (after n before) (s.start c) := by
  unfold start
  cases classify c with
  | operator o => exact congrArg Except.ok (after_emit n before s o)
  | gap => exact congrArg Except.ok (after_flush n before s)
  | _ => rfl

theorem after_take (c : Char) :
    (s.after n before).take lookup c =
      carried (ScanError.shift n) (after n before) (s.take lookup c) := by
  unfold take
  rw [after_settle, show (s.after n before).mode = s.mode.shift n from rfl]
  cases s.mode with
  | ready => exact after_start n before s c
  | run text =>
    dsimp only [Mode.shift]
    split_ifs
    · rfl
    · exact after_start n before (s.settle lookup) c
  | digit char redirect =>
    dsimp only [Mode.shift]
    split_ifs
    · exact congrArg Except.ok (after_emit n before s redirect)
    · exact after_start n before (s.settle lookup) c
  | name text =>
    dsimp only [Mode.shift]
    split_ifs
    · rfl
    · exact after_start n before (s.settle lookup) c
  | less =>
    dsimp only [Mode.shift]
    split_ifs
    · exact congrArg Except.ok (after_emit n before s .here)
    · exact after_start n before (s.settle lookup) c
  | quote q opened body =>
    dsimp only [Mode.shift]
    split_ifs <;> rfl

theorem after_step (c : Char) :
    (s.after n before).step lookup c =
      carried (ScanError.shift n) (after n before) (s.step lookup c) := by
  unfold step
  rw [after_take]
  cases s.take lookup c with
  | error e => rfl
  | ok t => simp [carried, Except.map, after, Nat.add_assoc]

theorem after_finish :
    (s.after n before).finish lookup =
      carried (ScanError.shift n) (before ++ ·) (s.finish lookup) := by
  unfold finish
  rw [after_settle, after_flush, show (s.after n before).mode = s.mode.shift n from rfl]
  cases s.mode <;> rfl

end Scanner

/-- A text scanned from the middle of a message on. -/
theorem rawTokens_after (source : String) (lookup : Lookup) (n : Nat) (before : List Token) :
    (do
      let s ← source.toList.foldlM (Scanner.step lookup) { offset := n, tokens := before }
      s.finish lookup) = carried (ScanError.shift n) (before ++ ·) (rawTokens source lookup) := by
  have h0 : ({ offset := n, tokens := before } : Scanner) = Scanner.after n before {} := by
    simp [Scanner.after, Mode.shift]
  unfold rawTokens
  rw [h0, foldlM_carried (Scanner.after_step lookup n before)]
  cases source.toList.foldlM (Scanner.step lookup) {} with
  | error e => rfl
  | ok s => exact Scanner.after_finish lookup n before s

/-! ## Where a text can be cut -/

/-- The word at hand after some text outside quotes. Without text there is none. -/
def bareWord (text : String) : Option String := if text = "" then none else some text

theorem bareWord_getD (text : String) : (bareWord text).getD "" = text := by
  unfold bareWord
  split_ifs with h
  · exact h.symm
  · rfl

theorem bareWord_of_ne {text : String} (h : text ≠ "") : bareWord text = some text := if_neg h

theorem push_ne_empty (text : String) (c : Char) : text.push c ≠ "" := by
  rw [Ne, ← String.toList_inj]
  simp

/-- The character goes on with what the scanner is in the middle of. -/
def Mode.goesOn (c : Char) : Mode → Bool
  | .ready => false
  | .run _ => isWordChar c
  | .digit _ _ => c == '>'
  | .name _ => isNameChar c
  | .less => c == '<'
  | .quote _ _ _ => true

namespace Scanner

variable {lookup : Lookup} {s : Scanner} {c : Char} {ts : List Token}

/-- A character that does not go on ends what the scanner is in the middle of. -/
theorem take_of_not_goesOn (h : s.mode.goesOn c = false) :
    s.take lookup c = (s.settle lookup).start c := by
  unfold take settle
  cases hm : s.mode <;> simp_all [Mode.goesOn]

theorem tokens_of_finish (h : s.finish lookup = .ok ts) :
    (s.settle lookup).flush.tokens = ts := by
  unfold finish at h
  split at h
  · cases h
  · cases h
    rfl

/-- Only `>` and `<` can go on with something that is no word, no name and no quote. -/
theorem not_goesOn_of_finish (h : s.finish lookup = .ok ts) (hw : isWordChar c = false)
    (ho : c ≠ '>') (hl : c ≠ '<') : s.mode.goesOn c = false := by
  have hn : isNameChar c = false := by
    unfold isWordChar at hw
    exact (Bool.or_eq_false_iff.mp hw).1
  unfold finish at h
  cases hm : s.mode with
  | quote q opened body => simp [hm] at h
  | _ => simp [Mode.goesOn, hw, hn, ho, hl]

/-- An operator where a text could end stands after its tokens. -/
theorem step_operator {o : Operator} (hc : classify c = .operator o)
    (hg : s.mode.goesOn c = false) (hf : s.finish lookup = .ok ts) :
    s.step lookup c = .ok { offset := s.offset + c.utf8Size, tokens := ts ++ [.op o] } := by
  unfold step
  rw [take_of_not_goesOn hg, start, hc, ← tokens_of_finish hf]
  rfl

/-- A gap where a text could end leaves its tokens as they are. -/
theorem step_gap (hc : classify c = .gap) (hg : s.mode.goesOn c = false)
    (hf : s.finish lookup = .ok ts) :
    s.step lookup c = .ok { offset := s.offset + c.utf8Size, tokens := ts } := by
  unfold step
  rw [take_of_not_goesOn hg, start, hc, ← tokens_of_finish hf]
  rfl

theorem finish_of_ready (lookup : Lookup) (h : s.mode = .ready) :
    s.finish lookup = .ok s.flush.tokens := by
  simp [finish, settle, h]

theorem settle_offset (lookup : Lookup) (s : Scanner) : (s.settle lookup).offset = s.offset := by
  unfold settle
  cases s.mode with
  | name text =>
    dsimp only [glueValue]
    split_ifs <;> rfl
  | _ => rfl

theorem settle_mode (h : s.finish lookup = .ok ts) : (s.settle lookup).mode = .ready := by
  unfold finish at h
  unfold settle
  cases hm : s.mode with
  | ready => simp [hm]
  | quote q opened body => simp [hm] at h
  | name text =>
    dsimp only [glueValue]
    split_ifs <;> rfl
  | _ => rfl

/-- Without a word at hand, what could be a whole text leaves its tokens and nothing else. -/
theorem settle_of_finish (h : s.finish lookup = .ok ts) (hp : (s.settle lookup).pending = none) :
    s.settle lookup = { offset := s.offset, tokens := ts } := by
  have hmode := settle_mode h
  have htokens := tokens_of_finish h
  have hoffset := settle_offset lookup s
  generalize s.settle lookup = r at *
  obtain ⟨offset, mode, pending, tokens⟩ := r
  simp_all [flush]

/-- A text that does not go on with what the scanner is in the middle of is scanned as if that had
ended. -/
theorem foldlM_settle {cs : List Char} (h : s.finish lookup = .ok ts)
    (hg : ∀ c ∈ cs.head?, s.mode.goesOn c = false) :
    (cs.foldlM (step lookup) s >>= finish lookup) =
      (cs.foldlM (step lookup) (s.settle lookup) >>= finish lookup) := by
  have hready := settle_mode h
  cases cs with
  | nil =>
    show s.finish lookup = (s.settle lookup).finish lookup
    rw [h, finish_of_ready lookup hready, tokens_of_finish h]
  | cons c rest =>
    have hstep : s.step lookup c = (s.settle lookup).step lookup c := by
      unfold step
      rw [take_of_not_goesOn (hg c (by simp)), settle_offset]
      simp [take, hready]
    rw [List.foldlM_cons, List.foldlM_cons, hstep]

end Scanner

/-- A text has tokens if it can be scanned to its end and could end there. -/
theorem rawTokens_eq_ok_iff {source : String} {lookup : Lookup} {ts : List Token} :
    rawTokens source lookup = .ok ts ↔
      ∃ s, source.toList.foldlM (Scanner.step lookup) {} = .ok s ∧ s.finish lookup = .ok ts := by
  unfold rawTokens
  exact bind_eq_ok_iff

/-! ## Two texts -/

section

variable {lookup : Lookup} {s₁ s₂ : String} {ts₁ ts₂ : List Token} {s : Scanner} {c : Char}

/-- Two texts have the tokens of the one and then of the other, if the first leaves no word at hand
and the second does not go on with the end of the first. -/
theorem rawTokens_append (hs : s₁.toList.foldlM (Scanner.step lookup) {} = .ok s)
    (hf : s.finish lookup = .ok ts₁) (hp : (s.settle lookup).pending = none)
    (hg : ∀ c ∈ s₂.toList.head?, s.mode.goesOn c = false) (h₂ : rawTokens s₂ lookup = .ok ts₂) :
    rawTokens (s₁ ++ s₂) lookup = .ok (ts₁ ++ ts₂) := by
  have hrest := rawTokens_after s₂ lookup s.offset ts₁
  rw [h₂] at hrest
  unfold rawTokens
  rw [String.toList_append, List.foldlM_append, hs]
  show (s₂.toList.foldlM (Scanner.step lookup) s >>= Scanner.finish lookup) = _
  rw [Scanner.foldlM_settle hf hg, Scanner.settle_of_finish hf hp]
  exact hrest

theorem foldlM_push {t : Scanner} (hs : s₁.toList.foldlM (Scanner.step lookup) {} = .ok s)
    (hc : s.step lookup c = .ok t) :
    (s₁ ++ String.singleton c).toList.foldlM (Scanner.step lookup) {} = .ok t := by
  rw [String.toList_append, String.toList_singleton, List.foldlM_append, hs]
  show [c].foldlM (Scanner.step lookup) s = _
  rw [List.foldlM_cons, hc]
  rfl

/-- A character after which the scanner has the tokens `ts` and nothing else stands at the end of
`ts`, and what follows it stands after them. -/
theorem rawTokens_cut {offset : Nat} {ts : List Token}
    (hs : s₁.toList.foldlM (Scanner.step lookup) {} = .ok s)
    (hc : s.step lookup c = .ok { offset, tokens := ts }) (h₂ : rawTokens s₂ lookup = .ok ts₂) :
    rawTokens (s₁ ++ String.singleton c ++ s₂) lookup = .ok (ts ++ ts₂) := by
  apply rawTokens_append (foldlM_push hs hc) _ rfl _ h₂
  · rw [Scanner.finish_of_ready lookup rfl]
    simp [Scanner.flush]
  · simp [Mode.goesOn]

theorem rawTokens_operator {o : Operator} (hc : classify c = .operator o)
    (hw : isWordChar c = false) (ho : c ≠ '>') (hl : c ≠ '<')
    (h₁ : rawTokens s₁ lookup = .ok ts₁) (h₂ : rawTokens s₂ lookup = .ok ts₂) :
    rawTokens (s₁ ++ String.singleton c ++ s₂) lookup = .ok (ts₁ ++ [.op o] ++ ts₂) := by
  obtain ⟨s, hs, hf⟩ := rawTokens_eq_ok_iff.mp h₁
  have hg := Scanner.not_goesOn_of_finish hf hw ho hl
  exact rawTokens_cut hs (Scanner.step_operator hc hg hf) h₂

theorem rawTokens_gap (hc : classify c = .gap) (hw : isWordChar c = false) (ho : c ≠ '>')
    (hl : c ≠ '<') (h₁ : rawTokens s₁ lookup = .ok ts₁) (h₂ : rawTokens s₂ lookup = .ok ts₂) :
    rawTokens (s₁ ++ String.singleton c ++ s₂) lookup = .ok (ts₁ ++ ts₂) := by
  obtain ⟨s, hs, hf⟩ := rawTokens_eq_ok_iff.mp h₁
  have hg := Scanner.not_goesOn_of_finish hf hw ho hl
  exact rawTokens_cut hs (Scanner.step_gap hc hg hf) h₂

theorem rawTokens_semicolon (h₁ : rawTokens s₁ lookup = .ok ts₁)
    (h₂ : rawTokens s₂ lookup = .ok ts₂) :
    rawTokens (s₁ ++ ";" ++ s₂) lookup = .ok (ts₁ ++ [.op .semicolon] ++ ts₂) :=
  rawTokens_operator (c := ';') rfl (by decide) (by decide) (by decide) h₁ h₂

theorem rawTokens_space (h₁ : rawTokens s₁ lookup = .ok ts₁)
    (h₂ : rawTokens s₂ lookup = .ok ts₂) :
    rawTokens (s₁ ++ " " ++ s₂) lookup = .ok (ts₁ ++ ts₂) :=
  rawTokens_gap (c := ' ') (by decide) (by decide) (by decide) (by decide) h₁ h₂

end

end ChatShell.Message
