-- The printer of instructions, and the round trip: what it writes has the
-- instructions it was given, under any variables. So the instructions that some
-- message has are exactly the well-formed ones.
import ChatShell.Proofs.Parsing

namespace ChatShell.Message

/-! ## The printer -/

/-- A character in a stretch in single quotes. A single quote ends the stretch, stands in double
quotes, and opens the next one. -/
def quoteChar (c : Char) : List Char := if c = '\'' then ['\'', '"', '\'', '"', '\''] else [c]

/-- A text as one word, whatever is in it. -/
def quote (text : String) : String :=
  String.ofList ('\'' :: text.toList.flatMap quoteChar ++ ['\''])

/-- A token as it is written. -/
def Token.source : Token → String
  | .word text => quote text
  | .op o => o.text

/-- The operator that opens a stage of the kind. -/
def Kind.opener : Kind → Operator
  | .eval => .semicolon
  | .pipe => .pipe
  | .save => .save
  | .saveOut => .saveOut
  | .saveErr => .saveErr
  | .attach => .attach

/-- A `<` and its name for each of the names. -/
def attachTokens (names : List String) : List Token :=
  names.flatMap fun name => [.op .attach, .word name]

/-- The tokens of instructions that the attachments `held` stand directly before. An attachment is
written in the stage after it, and a last one in an empty statement. -/
def printTokens (held : List String) : List Instr → List Token
  | [] => if held.isEmpty then [.op .semicolon]
    else .op .semicolon :: attachTokens held ++ [.op .semicolon]
  | i :: rest =>
    if i.kind = .attach then printTokens (held ++ i.args) rest
    else .op i.kind.opener :: attachTokens held ++ i.args.map .word ++ printTokens [] rest

/-- The tokens as a text, with a space between any two. -/
def spell (tokens : List Token) : String := " ".intercalate (tokens.map Token.source)

/-- A message that has the given instructions. -/
def print (is : List Instr) : String := spell (printTokens [] is)

/-! ## The scanner reads a token as it was written -/

theorem interpolate_single_quote (lookup : Lookup) : interpolate lookup "'" = "'" := rfl

/-- The scanner is in single quotes, and the only word so far is `text`. -/
def Scanner.Quoting (s : Scanner) (text : String) : Prop :=
  ∃ offset opened body pending,
    s = ⟨offset, .quote .single opened body, pending, []⟩ ∧ pending.getD "" ++ body = text

theorem Scanner.Quoting.char {s : Scanner} {text : String} (h : s.Quoting text) (lookup : Lookup)
    (c : Char) :
    ∃ t, (quoteChar c).foldlM (Scanner.step lookup) s = .ok t ∧ t.Quoting (text.push c) := by
  obtain ⟨offset, opened, body, pending, rfl, rfl⟩ := h
  unfold quoteChar
  split_ifs with hc
  · subst hc
    refine ⟨_, rfl, _, _, _, _, rfl, ?_⟩
    simp [Scanner.glue, Quote.read, interpolate_single_quote, String.push_eq_append]
  · refine ⟨⟨offset + c.utf8Size, .quote .single opened (body.push c), pending, []⟩, ?_,
      _, _, _, _, rfl, ?_⟩
    · simp [Scanner.step, Scanner.take, Quote.char, hc, Except.map]
    · rw [String.push_eq_append, String.push_eq_append, String.append_assoc]

theorem Scanner.Quoting.chars {s : Scanner} {text : String} (h : s.Quoting text)
    (lookup : Lookup) (cs : List Char) :
    ∃ t, (cs.flatMap quoteChar).foldlM (Scanner.step lookup) s = .ok t ∧
      t.Quoting (text ++ String.ofList cs) := by
  induction cs generalizing s text with
  | nil => exact ⟨s, rfl, by simpa using h⟩
  | cons c rest ih =>
    obtain ⟨r, hr, hq⟩ := h.char lookup c
    obtain ⟨t, ht, hqt⟩ := ih hq
    refine ⟨t, ?_, ?_⟩
    · rw [List.flatMap_cons, List.foldlM_append, hr]
      exact ht
    · rw [String.ofList_cons, ← String.append_assoc, String.append_singleton]
      exact hqt

/-- A quoted text is one word, the text itself, under any variables. -/
theorem rawTokens_quote (text : String) (lookup : Lookup) :
    rawTokens (quote text) lookup = .ok [.word text] := by
  have h0 : Scanner.Quoting ⟨1, .quote .single 0 "", none, []⟩ "" := ⟨_, _, _, _, rfl, rfl⟩
  obtain ⟨t, ht, offset, opened, body, pending, rfl, hb⟩ := h0.chars lookup text.toList
  rw [rawTokens_eq_ok_iff]
  rw [String.empty_append, String.ofList_toList] at hb
  have hlist : (quote text).toList = '\'' :: (text.toList.flatMap quoteChar ++ ['\'']) := by
    simp [quote]
  have hopen : Scanner.step lookup {} '\'' = .ok ⟨1, .quote .single 0 "", none, []⟩ := rfl
  have hclose : Scanner.step lookup ⟨offset, .quote .single opened body, pending, []⟩ '\'' =
      .ok ⟨offset + 1, .ready, some (pending.getD "" ++ body), []⟩ := rfl
  refine ⟨⟨offset + 1, .ready, some text, []⟩, ?_, rfl⟩
  calc (quote text).toList.foldlM (Scanner.step lookup) {}
      = (text.toList.flatMap quoteChar ++ ['\'']).foldlM (Scanner.step lookup)
          ⟨1, .quote .single 0 "", none, []⟩ := by
        rw [hlist, List.foldlM_cons, hopen]
        rfl
    _ = ['\''].foldlM (Scanner.step lookup)
          ⟨offset, .quote .single opened body, pending, []⟩ := by
        rw [List.foldlM_append, ht]
        rfl
    _ = .ok ⟨offset + 1, .ready, some text, []⟩ := by
        rw [List.foldlM_cons, hclose, hb]
        rfl

theorem rawTokens_source (t : Token) (lookup : Lookup) :
    rawTokens t.source lookup = .ok [t] := by
  cases t with
  | word text => exact rawTokens_quote text lookup
  | op o => cases o <;> rfl

/-- Any row of tokens is read back as it was spelled. -/
theorem rawTokens_spell (ts : List Token) (lookup : Lookup) :
    rawTokens (spell ts) lookup = .ok ts := by
  unfold spell
  induction ts with
  | nil => rfl
  | cons t rest ih =>
    cases rest with
    | nil => simpa using rawTokens_source t lookup
    | cons u more =>
      rw [List.map_cons, List.map_cons, String.intercalate_cons_cons, ← List.map_cons]
      exact rawTokens_space (rawTokens_source t lookup) ih

/-! ## The parser reads the instructions as they were printed -/

/-- From `p` the tokens lead to the instructions `is` with `stage` open and no `<` waiting. -/
def Parser.Reads (p : Parser) (ts : List Token) (is : List Instr) (stage : Instr) : Prop :=
  ∃ n, ts.foldlM Parser.step p = .ok ⟨n, is, stage, none⟩

namespace Parser.Reads

variable {p : Parser} {ts us : List Token} {is js : List Instr} {stage next : Instr}

theorem append (h : p.Reads ts is stage)
    (hu : ∀ n, Parser.Reads ⟨n, is, stage, none⟩ us js next) : p.Reads (ts ++ us) js next := by
  obtain ⟨n, hn⟩ := h
  obtain ⟨m, hm⟩ := hu n
  refine ⟨m, ?_⟩
  rw [List.foldlM_append, hn]
  exact hm

theorem single {t : Token} {n : Nat} (h : Parser.Took p t ⟨n, is, stage, none⟩) :
    p.Reads [t] is stage := by
  refine ⟨n, ?_⟩
  rw [List.foldlM_cons, Parser.step_of_took h]
  rfl

end Parser.Reads

/-- The instruction that binds an attachment. -/
def attachInstr (name : String) : Instr := ⟨.attach, [name]⟩

theorem reads_attachTokens (n : Nat) (before : List Instr) (stage : Instr) (names : List String) :
    Parser.Reads ⟨n, before, stage, none⟩ (attachTokens names)
      (before ++ names.map attachInstr) stage := by
  induction names generalizing n before with
  | nil => exact ⟨n, by simp [attachTokens]; rfl⟩
  | cons name rest ih =>
    have hone : Parser.Reads ⟨n, before, stage, none⟩ [.op .attach, .word name]
        (before ++ [attachInstr name]) stage := ⟨n + 1 + 1, rfl⟩
    have hall := hone.append fun m => ih m (before ++ [attachInstr name])
    simpa [attachTokens] using hall

theorem reads_words (n : Nat) (before : List Instr) (kind : Kind) (args more : List String) :
    Parser.Reads ⟨n, before, ⟨kind, args⟩, none⟩ (more.map .word) before ⟨kind, args ++ more⟩ := by
  induction more generalizing n args with
  | nil => exact ⟨n, by simp; rfl⟩
  | cons a rest ih =>
    have hone : Parser.Reads ⟨n, before, ⟨kind, args⟩, none⟩ [.word a] before ⟨kind, args ++ [a]⟩ :=
      .single (.word rfl)
    have hall := hone.append fun m => ih m (args ++ [a])
    simpa using hall

/-- What a stage leaves when it is closed. -/
def closed (stage : Instr) : List Instr := if stage.args.isEmpty then [] else [stage]

/-- The operator can close the stage. -/
def Closable (stage : Instr) (o : Operator) : Prop :=
  stage.args ≠ [] ∨ (stage = ⟨.eval, []⟩ ∧ o = .semicolon)

theorem reads_opener {stage : Instr} {o : Operator} {kind : Kind} (n : Nat) (before : List Instr)
    (hc : Closable stage o) (ho : o.opens? = some kind) :
    Parser.Reads ⟨n, before, stage, none⟩ [.op o] (before ++ closed stage) ⟨kind, []⟩ := by
  rcases hc with hc | ⟨rfl, rfl⟩
  · rw [closed, if_neg (by simpa using hc)]
    exact .single (.close rfl ho hc)
  · cases ho
    rw [show closed ⟨.eval, []⟩ = [] from rfl, List.append_nil]
    exact .single (.drop rfl rfl)

theorem Kind.opens?_opener {k : Kind} (h : k ≠ .attach) : k.opener.opens? = some k := by
  cases k with
  | attach => exact absurd rfl h
  | _ => rfl

/-- Every stage of a printed row is closed by what follows it. -/
theorem reads_printTokens (rest : List Instr) (held : List String) (n : Nat)
    (before : List Instr) (stage : Instr)
    (hone : ∀ i ∈ rest, i.kind = .attach → i.args.length = 1)
    (hargs : ∀ i ∈ rest, i.kind ≠ .attach → i.args ≠ [])
    (hstage : stage.args ≠ [] ∨ (stage = ⟨.eval, []⟩ ∧
      ∀ i ∈ rest.find? (fun i => i.kind ≠ .attach), i.kind = .eval)) :
    Parser.Reads ⟨n, before, stage, none⟩ (printTokens held rest)
      (before ++ closed stage ++ held.map attachInstr ++ rest) ⟨.eval, []⟩ := by
  -- the stage that is open stays open until the operator of the next one is read
  induction rest generalizing held n before stage with
  | nil =>
    have hsemi : Closable stage .semicolon := by
      rcases hstage with h | ⟨h, _⟩
      · exact Or.inl h
      · exact Or.inr ⟨h, rfl⟩
    have hopen := reads_opener n before hsemi rfl
    unfold printTokens
    split_ifs with hh
    · rw [List.isEmpty_iff.mp hh]
      simpa using hopen
    · have hrest : ∀ m, Parser.Reads ⟨m, before ++ closed stage, ⟨.eval, []⟩, none⟩
          (attachTokens held ++ [.op .semicolon])
          (before ++ closed stage ++ held.map attachInstr ++ []) ⟨.eval, []⟩ :=
        fun m => (reads_attachTokens m _ _ held).append fun k =>
          reads_opener k _ (Or.inr ⟨rfl, rfl⟩) rfl
      exact hopen.append hrest
  | cons i rest ih =>
    have hone' : ∀ j ∈ rest, j.kind = .attach → j.args.length = 1 :=
      fun j hj => hone j (List.mem_cons_of_mem _ hj)
    have hargs' : ∀ j ∈ rest, j.kind ≠ .attach → j.args ≠ [] :=
      fun j hj => hargs j (List.mem_cons_of_mem _ hj)
    unfold printTokens
    split_ifs with hk
    · obtain ⟨name, hname⟩ := List.length_eq_one_iff.mp (hone i (by simp) hk)
      have hi : i = attachInstr name := by
        cases i
        simp_all [attachInstr]
      have hnext := ih (held ++ [name]) n before stage hone' hargs' (by simpa [hk] using hstage)
      rw [hname]
      simpa [hi] using hnext
    · have hia := hargs i (by simp) hk
      have hclose : Closable stage i.kind.opener := by
        rcases hstage with h | ⟨h, hfirst⟩
        · exact Or.inl h
        · have hev : i.kind = .eval := hfirst i (by simp [hk])
          exact Or.inr ⟨h, by rw [hev]; rfl⟩
      have hopen := reads_opener n before hclose (Kind.opens?_opener hk)
      have hheld := hopen.append fun m => reads_attachTokens m _ _ held
      have hwords := hheld.append fun m => reads_words m _ i.kind [] i.args
      have hall := hwords.append fun m => ih [] m _ i hone' hargs' (Or.inl hia)
      have hci : closed i = [i] := by simp [closed, hia]
      simpa [hci] using hall

theorem printTokens_last (is : List Instr) (held : List String) :
    ∃ before, printTokens held is = before ++ [.op .semicolon] := by
  induction is generalizing held with
  | nil =>
    unfold printTokens
    split_ifs
    · exact ⟨[], rfl⟩
    · exact ⟨_, rfl⟩
  | cons i rest ih =>
    unfold printTokens
    split_ifs
    · exact ih _
    · obtain ⟨before, hb⟩ := ih []
      rw [hb]
      exact ⟨_, (List.append_assoc _ _ _).symm⟩

theorem parse_printTokens {is : List Instr} (h : WellFormed is) :
    parse (printTokens [] is) = .ok is := by
  obtain ⟨n, hn⟩ := reads_printTokens is [] 0 [] ⟨.eval, []⟩ h.attach_one h.has_args
    (Or.inr ⟨rfl, h.first_eval⟩)
  rw [parse_eq_ok_iff]
  exact ⟨_, hn, rfl⟩

/-! ## The law -/

/-- The instructions of a message are well formed, and every well-formed row of instructions is
that of a message: the printed one, under any variables. -/
theorem the_printer_inverts_compilation (lookup : Lookup) :
    (∀ source is, compile source lookup = .ok is → WellFormed is) ∧
      ∀ is, WellFormed is → compile (print is) lookup = .ok is := by
  refine ⟨fun source is => compile_wellFormed, ?_⟩
  intro is h
  obtain ⟨before, hb⟩ := printTokens_last is []
  have hterm : terminated (printTokens [] is) = printTokens [] is := by
    have happ := terminated_append before []
    rw [terminated_nil, List.append_nil] at happ
    rw [hb, happ]
  rw [compile_eq_ok_iff]
  refine ⟨printTokens [] is, rawTokens_spell _ lookup, ?_⟩
  rw [hterm]
  exact parse_printTokens h

/-- Attachments before and after a stage, and words with quotes, a `$` and operators in them. -/
theorem a_row_of_awkward_words_is_read_back :
    let row : List Instr :=
      [⟨.attach, ["f"]⟩, ⟨.eval, ["echo", "it's", "", "$X;\n"]⟩, ⟨.saveOut, ["> 1"]⟩,
        ⟨.attach, ["g"]⟩]
    WellFormed row ∧
      print row =
        "; < 'f' 'echo' 'it'\"'\"'s' '' '$X;\n' 1> '> 1' ; < 'g' ;" ∧
      compile (print row) (fun _ => some ";") = .ok row := by
  intro row
  have hrow : WellFormed row := by decide
  exact ⟨hrow, by decide +kernel, (the_printer_inverts_compilation fun _ => some ";").2 row hrow⟩

end ChatShell.Message
