-- Rows that are shown on one line. Every mark and every backslash of a quoted text
-- gets a backslash before it, so it can be told where the text ends, and with it
-- where an argument, an instruction and a token end. So no two rows are shown
-- alike, whichever characters are shown as themselves.
import ChatShell.Message.Instr
import ChatShell.Message.Token
import Mathlib.Data.List.Basic
import Mathlib.Tactic.SplitIfs

namespace ChatShell.Text

/-! ## What can be told apart -/

/-- Whatever is written behind it, a value can be told from what is written of it. -/
def Unambiguous {α : Type} (write : α → List Char) : Prop :=
  ∀ a b rest rest', write a ++ rest = write b ++ rest' → a = b ∧ rest = rest'

def NeverBegins {α : Type} (write : α → List Char) (mark : Char) : Prop :=
  ∀ a, ∃ c cs, write a = c :: cs ∧ c ≠ mark

variable {α β : Type} {write : α → List Char} {mark : Char}

theorem NeverBegins.ne_mark (h : NeverBegins write mark) (a : α) (rest rest' : List Char) :
    write a ++ rest ≠ mark :: rest' := by
  obtain ⟨c, cs, ha, hne⟩ := h a
  rw [ha]
  intro heq
  exact hne (List.cons.inj heq).1

theorem Unambiguous.between (h : Unambiguous write) (opening closing : List Char) :
    Unambiguous fun a => opening ++ write a ++ closing := by
  intro a b rest rest' heq
  simp only [List.append_assoc, List.append_cancel_left_eq] at heq
  obtain ⟨hab, hrest⟩ := h a b _ _ heq
  exact ⟨hab, List.append_cancel_left hrest⟩

theorem Unambiguous.pair {other : β → List Char} (h : Unambiguous write)
    (h' : Unambiguous other) : Unambiguous fun p : α × β => write p.1 ++ other p.2 := by
  rintro ⟨a, x⟩ ⟨b, y⟩ rest rest' heq
  simp only [List.append_assoc] at heq
  obtain ⟨rfl, htail⟩ := h a b _ _ heq
  obtain ⟨rfl, hrest⟩ := h' x y _ _ htail
  exact ⟨rfl, hrest⟩

theorem append_mark_inj {cs ds rest rest' : List Char} (hc : mark ∉ cs) (hd : mark ∉ ds)
    (h : cs ++ mark :: rest = ds ++ mark :: rest') : cs = ds ∧ rest = rest' := by
  induction cs generalizing ds with
  | nil =>
    cases ds with
    | nil => exact ⟨rfl, (List.cons.inj h).2⟩
    | cons d ds =>
      obtain ⟨rfl, _⟩ := List.cons.inj h
      simp at hd
  | cons c cs ih =>
    cases ds with
    | nil =>
      obtain ⟨rfl, _⟩ := List.cons.inj h
      simp at hc
    | cons d ds =>
      obtain ⟨rfl, htail⟩ := List.cons.inj h
      simp only [List.mem_cons, not_or] at hc hd
      obtain ⟨rfl, hrest⟩ := ih hc.2 hd.2 htail
      exact ⟨rfl, hrest⟩

/-- A mark that stands nowhere else tells where the writing ends. -/
theorem unambiguous_of_mark (hinj : Function.Injective write) (hmark : ∀ a, mark ∉ write a) :
    Unambiguous fun a => write a ++ [mark] := by
  intro a b rest rest' heq
  simp only [List.append_assoc, List.singleton_append] at heq
  obtain ⟨hab, hrest⟩ := append_mark_inj (hmark a) (hmark b) heq
  exact ⟨hinj hab, hrest⟩

/-- A row of values, with a mark after it that no value begins with. -/
theorem Unambiguous.row (h : Unambiguous write) (hmark : NeverBegins write mark) :
    Unambiguous fun as : List α => as.flatMap write ++ [mark] := by
  intro as
  induction as with
  | nil =>
    intro bs rest rest' heq
    cases bs with
    | nil => simpa using heq
    | cons b bs =>
      simp only [List.flatMap_cons, List.append_assoc] at heq
      exact absurd heq.symm (hmark.ne_mark b _ _)
  | cons a as ih =>
    intro bs rest rest' heq
    simp only [List.flatMap_cons, List.append_assoc] at heq
    cases bs with
    | nil => exact absurd heq (hmark.ne_mark a _ _)
    | cons b bs =>
      simp only [List.flatMap_cons, List.append_assoc] at heq
      obtain ⟨rfl, htail⟩ := h a b _ _ heq
      obtain ⟨rfl, hrest⟩ := ih bs rest rest' (by simpa using htail)
      exact ⟨rfl, hrest⟩

theorem intercalate_cons_eq (sep cs : List Char) (css : List (List Char)) :
    sep.intercalate (cs :: css) = cs ++ css.flatMap (sep ++ ·) := by
  induction css generalizing cs with
  | nil => simp
  | cons ds css ih => rw [List.intercalate_cons_cons, ih]; simp

/-- A row of values with a separator between them. Neither it nor a value begins with the mark
after the row. -/
theorem Unambiguous.joined (h : Unambiguous write) (hmark : NeverBegins write mark) {s : Char}
    (hs : s ≠ mark) (sep : List Char) :
    Unambiguous fun as : List α => (s :: sep).intercalate (as.map write) ++ [mark] := by
  have hsep : Unambiguous fun a => (s :: sep) ++ write a := by
    simpa using h.between (s :: sep) []
  have hbegin : NeverBegins (fun a => (s :: sep) ++ write a) mark := by
    intro a
    exact ⟨s, sep ++ write a, rfl, hs⟩
  have hrow := hsep.row hbegin
  intro as bs rest rest' heq
  cases as with
  | nil =>
    cases bs with
    | nil => simpa using heq
    | cons b bs =>
      simp only [List.map_cons, intercalate_cons_eq, List.append_assoc] at heq
      exact absurd heq.symm (hmark.ne_mark b _ _)
  | cons a as =>
    simp only [List.map_cons, intercalate_cons_eq, List.append_assoc, List.flatMap_map] at heq
    cases bs with
    | nil => exact absurd heq (hmark.ne_mark a _ _)
    | cons b bs =>
      simp only [List.map_cons, intercalate_cons_eq, List.append_assoc, List.flatMap_map] at heq
      obtain ⟨rfl, htail⟩ := h a b _ _ heq
      obtain ⟨rfl, hrest⟩ := hrow as bs rest rest' (by simpa using htail)
      exact ⟨rfl, hrest⟩

/-- A row on one line, a space between any two of its values. -/
theorem Unambiguous.line {render : α → String} (h : Unambiguous fun a => (render a).toList)
    (hmark : NeverBegins (fun a => (render a).toList) mark) (hspace : ' ' ≠ mark) :
    Function.Injective fun as : List α => " ".intercalate (as.map render) := by
  -- the line has no mark at its end, but two equal lines are equal with one
  intro as bs hab
  have hline := congrArg String.toList hab
  simp only [String.toList_intercalate, List.map_map] at hline
  exact (h.joined hmark hspace [] as bs [] [] (congrArg (· ++ [mark] ++ []) hline)).1

/-! ## Code points -/

theorem digitChar_inj {m n : Nat} (hm : m < 16) (hn : n < 16)
    (h : m.digitChar = n.digitChar) : m = n := by
  have hall : ∀ i j : Fin 16, i.val.digitChar = j.val.digitChar → i = j := by decide
  exact congrArg Fin.val (hall ⟨m, hm⟩ ⟨n, hn⟩ h)

theorem toDigits_injective : Function.Injective (Nat.toDigits 16) := by
  intro m n h
  induction m using Nat.strongRecOn generalizing n with
  | ind m ih =>
    rw [Nat.toDigits_eq_if (b := 16) (n := m) (by decide),
      Nat.toDigits_eq_if (b := 16) (n := n) (by decide)] at h
    split_ifs at h with hm hn hn
    · exact digitChar_inj hm hn (List.cons.inj h).1
    · have hlen := congrArg List.length h
      have hpos := Nat.length_toDigits_pos (b := 16) (n := n / 16)
      simp only [List.length_append, List.length_singleton] at hlen
      omega
    · have hlen := congrArg List.length h
      have hpos := Nat.length_toDigits_pos (b := 16) (n := m / 16)
      simp only [List.length_append, List.length_singleton] at hlen
      omega
    · obtain ⟨hhead, hlast⟩ := List.append_singleton_inj.mp h
      have hdiv := ih (m / 16) (by omega) hhead
      have hmod := digitChar_inj (by omega) (by omega) hlast
      omega

theorem brace_not_mem_toDigits (n : Nat) : '\x7d' ∉ Nat.toDigits 16 n := by
  induction n using Nat.strongRecOn with
  | ind n ih =>
    have hne : ∀ k : Nat, '\x7d' ≠ k.digitChar := by
      intro k
      exact (Nat.digitChar_ne '\x7d' (by decide)).symm
    rw [Nat.toDigits_eq_if (by decide)]
    split_ifs with hn
    · simp [hne]
    · simpa [hne] using ih (n / 16) (by omega)

theorem unambiguous_codePoint : Unambiguous codePoint := by
  have hinj : Function.Injective fun c : Char => Nat.toDigits 16 c.toNat :=
    fun c d h => Char.toNat_inj.mp (toDigits_injective h)
  have hmark := unambiguous_of_mark hinj fun c => brace_not_mem_toDigits c.toNat
  have h := hmark.between ['\\', 'u', '\x7b'] []
  simpa [codePoint, Unambiguous] using h

/-! ## Quoted text -/

/-- The character that a letter after a backslash stands for. -/
def meant : Char → Char
  | '0' => Char.ofNat 0
  | 't' => '\t'
  | 'r' => '\r'
  | 'n' => '\n'
  | c => c

variable (shows : Char → Bool)

theorem escapeWith_cases (c : Char) :
    (∃ x, escapeWith shows '"' c = ['\\', x] ∧ x ≠ 'u' ∧ c = meant x) ∨
      (escapeWith shows '"' c = [c] ∧ c ≠ '\\' ∧ c ≠ '"') ∨
      escapeWith shows '"' c = codePoint c := by
  unfold escapeWith
  split_ifs with h0 ht hr hn hb hq hs
  · exact Or.inl ⟨'0', rfl, by decide, h0⟩
  · exact Or.inl ⟨'t', rfl, by decide, ht⟩
  · exact Or.inl ⟨'r', rfl, by decide, hr⟩
  · exact Or.inl ⟨'n', rfl, by decide, hn⟩
  · exact Or.inl ⟨'\\', rfl, by decide, hb⟩
  · exact Or.inl ⟨'"', rfl, by decide, hq⟩
  · exact Or.inr (Or.inl ⟨rfl, hb, hq⟩)
  · exact Or.inr (Or.inr rfl)

theorem unambiguous_escape : Unambiguous (escapeWith shows '"') := by
  intro c d rest rest' heq
  rcases escapeWith_cases shows c with ⟨x, hc, hx, rfl⟩ | ⟨hc, hcb, _⟩ | hc
  · rcases escapeWith_cases shows d with ⟨y, hd, _, rfl⟩ | ⟨hd, hdb, _⟩ | hd
    · simp only [hc, hd, List.cons_append, List.nil_append, List.cons.injEq, true_and] at heq
      obtain ⟨rfl, hrest⟩ := heq
      exact ⟨rfl, hrest⟩
    · rw [hc, hd] at heq
      exact absurd (List.cons.inj heq).1.symm hdb
    · rw [hc, hd] at heq
      exact absurd (List.cons.inj (List.cons.inj heq).2).1 hx
  · rcases escapeWith_cases shows d with ⟨y, hd, _, rfl⟩ | ⟨hd, _, _⟩ | hd
    · rw [hc, hd] at heq
      exact absurd (List.cons.inj heq).1 hcb
    · rw [hc, hd] at heq
      exact List.cons.inj heq
    · rw [hc, hd] at heq
      exact absurd (List.cons.inj heq).1 hcb
  · rcases escapeWith_cases shows d with ⟨y, hd, hy, rfl⟩ | ⟨hd, hdb, _⟩ | hd
    · rw [hc, hd] at heq
      exact absurd (List.cons.inj (List.cons.inj heq).2).1.symm hy
    · rw [hc, hd] at heq
      exact absurd (List.cons.inj heq).1.symm hdb
    · rw [hc, hd] at heq
      exact unambiguous_codePoint c d rest rest' heq

theorem escape_neverBegins : NeverBegins (escapeWith shows '"') '"' := by
  intro c
  rcases escapeWith_cases shows c with ⟨x, hc, _, _⟩ | ⟨hc, _, hq⟩ | hc
  · exact ⟨'\\', [x], hc, by decide⟩
  · exact ⟨c, [], hc, hq⟩
  · exact ⟨'\\', _, hc, by decide⟩

theorem unambiguous_quoted : Unambiguous fun s => (quotedWith shows s).toList := by
  have hrow := (unambiguous_escape shows).row (escape_neverBegins shows)
  intro s t rest rest' heq
  have h := hrow.between ['"'] [] s.toList t.toList rest rest' (by simpa [quotedWith] using heq)
  exact ⟨String.toList_inj.mp h.1, h.2⟩

theorem unambiguous_arguments :
    Unambiguous fun items : List String =>
      [',', ' '].intercalate (items.map fun s => (quotedWith shows s).toList) ++ [']'] := by
  have hmark : NeverBegins (fun s => (quotedWith shows s).toList) ']' := by
    intro s
    refine ⟨'"', s.toList.flatMap (escapeWith shows '"') ++ ['"'], ?_, by decide⟩
    simp [quotedWith]
  exact (unambiguous_quoted shows).joined hmark (by decide) [' ']

end ChatShell.Text

namespace ChatShell.Message

open Text

variable (shows : Char → Bool)

/-! ## Tokens and instructions -/

theorem Operator.ofText?_text (o : Operator) : Operator.ofText? o.text = some o := by
  cases o <;> rfl

theorem Kind.ofLabel?_label (k : Kind) : Kind.ofLabel? k.label = some k := by
  cases k <;> rfl

theorem unambiguous_operator : Unambiguous fun o : Operator => o.text.toList ++ [')'] := by
  apply unambiguous_of_mark
  · intro o p h
    have hread := congrArg Operator.ofText? (String.toList_inj.mp h)
    simpa [Operator.ofText?_text] using hread
  · intro o
    cases o <;> decide

theorem unambiguous_kind : Unambiguous fun k : Kind => k.label.toList ++ ['['] := by
  apply unambiguous_of_mark
  · intro k l h
    have hread := congrArg Kind.ofLabel? (String.toList_inj.mp h)
    simpa [Kind.ofLabel?_label] using hread
  · intro k
    cases k <;> decide

theorem unambiguous_token : Unambiguous fun t => (Token.renderWith shows t).toList := by
  intro t u rest rest' heq
  cases t with
  | word text =>
    cases u with
    | word text' =>
      have h := (unambiguous_quoted shows).between "STRING(".toList [')'] text text' rest rest'
        (by simpa [Token.renderWith] using heq)
      exact ⟨congrArg Token.word h.1, h.2⟩
    | op p => simp [Token.renderWith] at heq
  | op o =>
    cases u with
    | word text' => simp [Token.renderWith] at heq
    | op p =>
      have h := unambiguous_operator.between "OP(".toList [] o p rest rest'
        (by simpa [Token.renderWith] using heq)
      exact ⟨congrArg Token.op h.1, h.2⟩

theorem unambiguous_instr : Unambiguous fun i => (Instr.renderWith shows i).toList := by
  have hshown : ∀ i : Instr, (i.renderWith shows).toList = i.kind.label.toList ++ ['['] ++
      ([',', ' '].intercalate (i.args.map fun s => (quotedWith shows s).toList) ++ [']']) := by
    intro i
    simp [Instr.renderWith, quotedListWith, bracketed, String.toList_intercalate, Function.comp_def]
  intro i j rest rest' heq
  simp only [hshown] at heq
  have hpair := unambiguous_kind.pair (unambiguous_arguments shows)
  obtain ⟨hsame, hrest⟩ := hpair (i.kind, i.args) (j.kind, j.args) rest rest' heq
  cases i
  cases j
  cases hsame
  exact ⟨rfl, hrest⟩

theorem token_neverBegins : NeverBegins (fun t => (Token.renderWith shows t).toList) ')' := by
  intro t
  unfold Token.renderWith
  cases t with
  | word text => exact ⟨'S', "TRING(".toList ++ _, by simp; rfl, by decide⟩
  | op o => exact ⟨'O', "P(".toList ++ _, by simp; rfl, by decide⟩

theorem instr_neverBegins : NeverBegins (fun i => (Instr.renderWith shows i).toList) ')' := by
  intro i
  obtain ⟨c, cs, hlabel, hne⟩ : ∃ c cs, i.kind.label.toList = c :: cs ∧ c ≠ ')' := by
    cases i.kind <;> exact ⟨_, _, rfl, by decide⟩
  refine ⟨c, cs ++ (quotedListWith shows i.args).toList, ?_, hne⟩
  simp [Instr.renderWith, hlabel]

/-! ## The law -/

/-- Two rows of tokens that are shown alike are the same row, and so are two rows of instructions.
It does not matter which characters are shown as themselves. -/
theorem no_two_rows_are_shown_alike (shows : Char → Bool) :
    (∀ ts us, renderTokensWith shows ts = renderTokensWith shows us → ts = us) ∧
      ∀ is js, renderInstrsWith shows is = renderInstrsWith shows js → is = js := by
  constructor
  · intro ts us h
    exact (unambiguous_token shows).line (token_neverBegins shows) (by decide) h
  · intro is js h
    exact (unambiguous_instr shows).line (instr_neverBegins shows) (by decide) h

/-- A word that looks like the end of a word and the escape of a character, and an argument that
looks like two: nothing else is shown so. -/
theorem what_looks_like_more_is_shown_once :
    let shows : Char → Bool := fun c => c != 'é'
    let words : List Token := [.word "a\") STRING(\"é\\u\x7be9\x7d", .op .saveErr]
    let line := "STRING(\"a\\\") STRING(\\\"\\u\x7be9\x7d\\\\u\x7be9\x7d\") OP(2>)"
    let stage : List Instr := [⟨.eval, ["a\", \"b"]⟩, ⟨.saveOut, []⟩]
    renderTokensWith shows words = line ∧
      (∀ ts, renderTokensWith shows ts = line → ts = words) ∧
      renderInstrsWith shows stage = "EVAL[\"a\\\", \\\"b\"] OUT1[]" ∧
      ∀ is, renderInstrsWith shows is = "EVAL[\"a\\\", \\\"b\"] OUT1[]" → is = stage := by
  intro shows words line stage
  have hwords : renderTokensWith shows words = line := by decide +kernel
  have hstage : renderInstrsWith shows stage = "EVAL[\"a\\\", \\\"b\"] OUT1[]" := by decide +kernel
  obtain ⟨htokens, hinstrs⟩ := no_two_rows_are_shown_alike shows
  exact ⟨hwords, fun ts h => htokens ts words (h.trans hwords.symm), hstage,
    fun is h => hinstrs is stage (h.trans hstage.symm)⟩

end ChatShell.Message
