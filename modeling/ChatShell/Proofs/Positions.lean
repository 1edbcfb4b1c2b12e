-- Scanning by position. A cursor reads a table of the characters, each with the bytes
-- before it. It goes on by one character, by two, or by as many as a word, a name or a
-- quote takes, and cuts quoted text out of the bytes. It never leaves the table, it
-- always goes on, and it cuts only where characters begin. Wherever it stops it has
-- what the scanner has, which takes one character at a time and has no positions.
import ChatShell.Proofs.Offsets
import ChatShell.Proofs.ScanErrors
import Mathlib.Data.List.TakeWhile

namespace ChatShell.Message

/-! ## The cursor -/

/-- Why a scan by position stops early. -/
inductive Halt where
  /-- The text has no tokens. -/
  | fault (e : ScanError)
  /-- A position or an offset is out of range. -/
  | outOfRange
  deriving DecidableEq

/-- A position in a text, with what has been read before it. -/
structure Cursor where
  pos : Nat := 0
  /-- The word at hand. -/
  pending : Option String := none
  tokens : List Token := []
  deriving DecidableEq

namespace Cursor

def glue (s : Cursor) (text : String) : Cursor :=
  { s with pending := some (s.pending.getD "" ++ text) }

def flush (s : Cursor) : Cursor :=
  { s with pending := none, tokens := s.tokens ++ (s.pending.map .word).toList }

/-- Ends the word at hand, adds an operator and goes on by its width. -/
def emit (s : Cursor) (o : Operator) (width : Nat) : Cursor :=
  ⟨s.pos + width, none, s.flush.tokens ++ [.op o]⟩

/-- The character so many places ahead. -/
def peek (source : String) (s : Cursor) (ahead : Nat) : Option Char :=
  ((table source)[s.pos + ahead]?).map (·.2)

/-- The text of the quote that opens at the cursor, and the position after it. -/
def quoted (source : String) (s : Cursor) (offset : Nat) (q : Quote) :
    Except Halt (String × Nat) :=
  match tableFrom? source (s.pos + 1) with
  | none => .error .outOfRange
  | some rest =>
    match rest.findIdx? (·.2 = q.char) with
    | none => .error (.fault (.unterminated q offset))
    | some i =>
      match slice? source (offset + q.char.utf8Size) (byteOffset source (s.pos + 1 + i)) with
      | none => .error .outOfRange
      | some body => .ok (body, s.pos + 1 + i + 1)

/-- One turn: reads what begins with the character at the cursor. -/
def turn (lookup : Lookup) (source : String) (s : Cursor) (offset : Nat) (c : Char) :
    Except Halt Cursor :=
  match classify c with
  | .operator o => .ok (s.emit o 1)
  | .less => .ok (if s.peek source 1 = some '<' then s.emit .here 2 else s.emit .attach 1)
  | .digit redirect =>
    .ok (if s.peek source 1 = some '>' then s.emit redirect 2
      else { s.glue (String.singleton c) with pos := s.pos + 1 })
  | .dollar =>
    let name := gather source isNameChar (s.pos + 1)
    let value := expand lookup (String.ofList name)
    .ok { (if value.isEmpty then s else s.glue value) with pos := s.pos + 1 + name.length }
  | .quote q =>
    (s.quoted source offset q).map fun r => { s.glue (q.read lookup r.1) with pos := r.2 }
  | .word =>
    let word := gather source isWordChar s.pos
    .ok { s.glue (String.ofList word) with pos := s.pos + word.length }
  | .gap => .ok { s.flush with pos := s.pos + 1 }
  | .illegal => .error (.fault (.illegal c offset))

end Cursor

theorem isWordChar_of_classify {c : Char} (h : classify c = .word) : isWordChar c = true := by
  unfold classify at h
  simp only [ite_eq_iff, reduceCtorEq, and_false, or_false, false_or, and_true] at h
  exact h.2.2.2.2.2.2.2.2.2.2

theorem gather_cons {source : String} {p : Char → Bool} {pos offset : Nat} {c : Char}
    (h : (table source)[pos]? = some (offset, c)) (hc : p c = true) :
    gather source p pos = c :: gather source p (pos + 1) := by
  rw [gather_eq, h]
  exact if_pos hc

namespace Cursor

variable {lookup : Lookup} {source : String} {s t : Cursor} {offset : Nat} {c : Char}

theorem quoted_ahead {q : Quote} {body : String} {next : Nat}
    (h : s.quoted source offset q = .ok (body, next)) : s.pos < next := by
  unfold quoted at h
  split at h
  · cases h
  · split at h
    · cases h
    · split at h
      · cases h
      · cases h
        omega

/-- A turn goes on. -/
theorem turn_ahead (hc : (table source)[s.pos]? = some (offset, c))
    (h : s.turn lookup source offset c = .ok t) : s.pos < t.pos := by
  unfold turn at h
  cases hclass : classify c with
  | operator o =>
    simp only [hclass, Except.ok.injEq] at h
    simp [← h, emit]
  | less =>
    simp only [hclass, Except.ok.injEq] at h
    rw [← h]
    split_ifs <;> simp [emit]
  | digit redirect =>
    simp only [hclass, Except.ok.injEq] at h
    rw [← h]
    split_ifs <;> simp [emit]
  | dollar =>
    simp only [hclass, Except.ok.injEq] at h
    rw [← h]
    show s.pos < s.pos + 1 + _
    omega
  | quote q =>
    simp only [hclass] at h
    obtain ⟨⟨body, next⟩, hq, rfl⟩ := map_eq_ok_iff.mp h
    exact quoted_ahead hq
  | word =>
    simp only [hclass, gather_cons hc (isWordChar_of_classify hclass), Except.ok.injEq] at h
    rw [← h]
    simp
  | gap =>
    simp only [hclass, Except.ok.injEq] at h
    simp [← h]
  | illegal => simp [hclass] at h

theorem turn_leaves_less (hc : (table source)[s.pos]? = some (offset, c))
    (h : s.turn lookup source offset c = .ok t) :
    (table source).length - t.pos < (table source).length - s.pos := by
  have hlt := (List.getElem?_eq_some_iff.mp hc).1
  have hahead := turn_ahead hc h
  omega

theorem tableFrom?_next {before rest : List Char} (h : source.toList = before ++ c :: rest)
    (hpos : s.pos = before.length) :
    tableFrom? source (s.pos + 1) = some (placed (String.utf8Len (before ++ [c])) rest) := by
  have hfrom := tableFrom?_at (h.trans (List.append_cons ..))
  rwa [List.length_append, List.length_singleton, ← hpos] at hfrom

/-- A quote that is closed is cut out whole. -/
theorem quoted_closed {before body after : List Char} {q : Quote}
    (h : source.toList = before ++ q.char :: (body ++ q.char :: after))
    (hpos : s.pos = before.length) (hbody : q.char ∉ body) :
    let start := String.utf8Len before + q.char.utf8Size
    let stop := byteOffset source (s.pos + 1 + body.length)
    InText source start stop ∧ slice? source start stop = some (String.ofList body) ∧
      s.quoted source (String.utf8Len before) q =
        .ok (String.ofList body, s.pos + 1 + body.length + 1) := by
  intro start stop
  have hsplit : source.toList = (before ++ [q.char]) ++ body ++ q.char :: after := by simp [h]
  have hstart : start = String.utf8Len (before ++ [q.char]) := by simp [start]
  have hstop : stop = String.utf8Len (before ++ [q.char] ++ body) := by
    have hoffset := byteOffset_at hsplit
    rwa [List.length_append, List.length_append, List.length_singleton, ← hpos] at hoffset
  have hin := inText_of_split hsplit
  have hslice := slice?_of_split hsplit
  rw [← hstart, ← hstop] at hin hslice
  refine ⟨hin, hslice, ?_⟩
  unfold quoted
  simp only [tableFrom?_next h hpos, findIdx?_placed, findIdx?_of_split hbody]
  rw [hslice]

theorem quoted_open {before after : List Char} {q : Quote}
    (h : source.toList = before ++ q.char :: after) (hpos : s.pos = before.length)
    (hafter : q.char ∉ after) (offset : Nat) :
    s.quoted source offset q = .error (.fault (.unterminated q offset)) := by
  unfold quoted
  simp only [tableFrom?_next h hpos, findIdx?_placed, findIdx?_of_not_mem hafter]

/-- Takes turns up to the end of the text. -/
def scan (lookup : Lookup) (source : String) (s : Cursor) : Except Halt Cursor :=
  match hc : (table source)[s.pos]? with
  | none => .ok s.flush
  | some (offset, c) =>
    match ht : s.turn lookup source offset c with
    | .error e => .error e
    | .ok t =>
      have := turn_leaves_less hc ht
      scan lookup source t
termination_by (table source).length - s.pos

/-- The cursors that a scan comes to. -/
inductive Reached (lookup : Lookup) (source : String) : Cursor → Prop
  | start : Reached lookup source {}
  | turn {s t : Cursor} {offset : Nat} {c : Char} (h : Reached lookup source s)
      (hc : (table source)[s.pos]? = some (offset, c))
      (ht : s.turn lookup source offset c = .ok t) : Reached lookup source t

end Cursor

/-- The tokens of a text, scanned by position. -/
def tokenizeByPosition (source : String) (lookup : Lookup) : Except Halt (List Token) :=
  ((Cursor.scan lookup source {}).map Cursor.tokens).map terminated

/-! ## The cursor and the scanner -/

/-- The scanner has taken what stands before the cursor. Settled, it has what the cursor has, and
what comes next does not go on with what it is in the middle of. -/
structure Cursor.Meets (lookup : Lookup) (source : String) (before after : List Char) (s : Cursor)
    (r : Scanner) : Prop where
  split : source.toList = before ++ after
  pos : s.pos = before.length
  taken : before.foldlM (Scanner.step lookup) {} = .ok r
  settled : r.settle lookup = ⟨String.utf8Len before, .ready, s.pending, s.tokens⟩
  fresh : ∀ c ∈ after.head?, r.mode.goesOn c = false

theorem not_of_mem_head?_dropWhile {p : Char → Bool} {cs : List Char} {c : Char}
    (h : c ∈ (cs.dropWhile p).head?) : p c = false := by
  have hnot := List.head?_dropWhile_not p cs
  rw [Option.mem_def.mp h] at hnot
  exact hnot

namespace Cursor.Meets

variable {lookup : Lookup} {source : String} {before rest : List Char} {s t : Cursor}
  {r p u : Scanner} {c : Char}

theorem start (lookup : Lookup) (source : String) :
    Meets lookup source [] source.toList {} {} := by
  refine ⟨rfl, rfl, rfl, rfl, ?_⟩
  intro c _
  rfl

/-- The scanner takes the character at the cursor as one that begins something. -/
theorem step_first (h : Meets lookup source before (c :: rest) s r) :
    r.step lookup c =
      ((Scanner.mk (String.utf8Len before) .ready s.pending s.tokens).start c).map fun t =>
        { t with offset := String.utf8Len before + c.utf8Size } := by
  have hoffset := Scanner.settle_offset lookup r
  rw [h.settled] at hoffset
  unfold Scanner.step
  rw [Scanner.take_of_not_goesOn (h.fresh c (by simp)), h.settled, ← hoffset]

/-- They meet again behind what the turn takes. -/
theorem goes_on (taken : List Char) {later : List Char}
    (h : Meets lookup source before (c :: rest) s r) (hrest : rest = taken ++ later)
    (hfirst : r.step lookup c = .ok p) (htaken : taken.foldlM (Scanner.step lookup) p = .ok u)
    (hpos : t.pos = s.pos + 1 + taken.length)
    (hsettled : u.settle lookup =
      ⟨String.utf8Len before + c.utf8Size + String.utf8Len taken, .ready, t.pending, t.tokens⟩)
    (hfresh : ∀ d ∈ later.head?, u.mode.goesOn d = false) :
    Meets lookup source (before ++ c :: taken) later t u := by
  refine ⟨?_, ?_, ?_, ?_, hfresh⟩
  · rw [h.split, hrest, List.append_assoc, List.cons_append]
  · rw [hpos, h.pos, List.length_append, List.length_cons]
    omega
  · rw [List.foldlM_append, h.taken]
    show (c :: taken).foldlM (Scanner.step lookup) r = _
    rw [List.foldlM_cons, hfirst]
    exact htaken
  · rw [hsettled, String.utf8Len_append, String.utf8Len_cons, Nat.add_assoc,
      Nat.add_comm c.utf8Size]

theorem peek_eq (h : Meets lookup source before (c :: rest) s r) :
    s.peek source 1 = rest.head? := by
  have hat := table_at (h.split.trans (List.append_cons ..))
  rw [List.length_append, List.length_singleton, ← h.pos] at hat
  unfold peek
  rw [hat]
  cases rest <;> rfl

/-- A turn of the cursor comes to a cursor that the scanner meets, or finds what is wrong with the
text. -/
def Turns (lookup : Lookup) (source : String) (s : Cursor) (offset : Nat) (c : Char) : Prop :=
  (∃ t before after u, s.turn lookup source offset c = .ok t ∧
    Meets lookup source before after t u) ∨
  ∃ e, s.turn lookup source offset c = .error (.fault e) ∧ rawTokens source lookup = .error e

theorem turn_operator {o : Operator} (h : Meets lookup source before (c :: rest) s r)
    (hc : classify c = .operator o) : Turns lookup source s (String.utf8Len before) c := by
  have hfirst := h.step_first
  simp only [Scanner.start, hc, Except.map] at hfirst
  exact Or.inl ⟨s.emit o 1, _, rest, _, by simp [turn, hc],
    h.goes_on [] rfl hfirst rfl rfl rfl fun d _ => rfl⟩

theorem turn_gap (h : Meets lookup source before (c :: rest) s r) (hc : classify c = .gap) :
    Turns lookup source s (String.utf8Len before) c := by
  have hfirst := h.step_first
  simp only [Scanner.start, hc, Except.map] at hfirst
  exact Or.inl ⟨{ s.flush with pos := s.pos + 1 }, _, rest, _, by simp [turn, hc],
    h.goes_on [] rfl hfirst rfl rfl rfl fun d _ => rfl⟩

theorem turn_illegal (h : Meets lookup source before (c :: rest) s r)
    (hc : classify c = .illegal) : Turns lookup source s (String.utf8Len before) c := by
  have hfirst := h.step_first
  simp only [Scanner.start, hc, Except.map] at hfirst
  refine Or.inr ⟨.illegal c (String.utf8Len before), by simp [turn, hc], ?_⟩
  rw [rawTokens_eq_error_iff, h.split]
  exact Or.inl (foldlM_eq_error_iff.mpr ⟨before, c, rest, r, rfl, h.taken, hfirst⟩)

/-- A character with which a word or a name begins. It takes in all that satisfy `p`, and leaves
`t`. -/
theorem turn_gathers {mode : String → Mode} {text : String} (p : Char → Bool) (t : Cursor)
    (h : Meets lookup source before (c :: rest) s r)
    (hfirst : r.step lookup c =
      .ok ⟨String.utf8Len before + c.utf8Size, mode text, s.pending, s.tokens⟩)
    (hturn : s.turn lookup source (String.utf8Len before) c = .ok t)
    (hmode : ∀ d text, (mode text).goesOn d = p d)
    (htake : ∀ d text (u : Scanner), p d = true → u.mode = mode text →
      u.take lookup d = .ok { u with mode := mode (text.push d) })
    (hpos : t.pos = s.pos + 1 + (rest.takeWhile p).length)
    (hsettled : ∀ offset, (Scanner.mk offset (mode (text ++ String.ofList (rest.takeWhile p)))
      s.pending s.tokens).settle lookup = ⟨offset, .ready, t.pending, t.tokens⟩) :
    Turns lookup source s (String.utf8Len before) c := by
  have hgathers : ∀ d ∈ rest.takeWhile p, ∀ (u : Scanner) (text : String), u.mode = mode text →
      u.step lookup d =
        .ok { u with offset := u.offset + d.utf8Size, mode := mode (text.push d) } := by
    intro d hd u text hu
    unfold Scanner.step
    rw [htake d text u (List.mem_takeWhile_imp hd) hu]
    rfl
  refine Or.inl ⟨t, _, rest.dropWhile p, _, hturn,
    h.goes_on _ List.takeWhile_append_dropWhile.symm hfirst
      (Scanner.foldlM_gathers mode hgathers rfl) hpos (hsettled _) ?_⟩
  intro d hd
  rw [hmode]
  exact not_of_mem_head?_dropWhile hd

theorem turn_word (h : Meets lookup source before (c :: rest) s r) (hc : classify c = .word) :
    Turns lookup source s (String.utf8Len before) c := by
  have hfirst := h.step_first
  simp only [Scanner.start, hc, Except.map] at hfirst
  have hgather : gather source isWordChar s.pos = c :: rest.takeWhile isWordChar := by
    rw [h.pos, gather_at isWordChar h.split, List.takeWhile_cons,
      if_pos (isWordChar_of_classify hc)]
  apply h.turn_gathers isWordChar { s.glue (String.ofList (c :: rest.takeWhile isWordChar)) with
    pos := s.pos + (c :: rest.takeWhile isWordChar).length } hfirst
  · simp [turn, hc, hgather]
  · intro d text
    rfl
  · intro d text u hd hu
    simp [Scanner.take, hu, hd]
  · show s.pos + (c :: rest.takeWhile isWordChar).length = _
    rw [List.length_cons]
    omega
  · intro offset
    rw [String.ofList_cons]
    rfl

theorem turn_dollar (h : Meets lookup source before (c :: rest) s r)
    (hc : classify c = .dollar) : Turns lookup source s (String.utf8Len before) c := by
  have hfirst := h.step_first
  simp only [Scanner.start, hc, Except.map] at hfirst
  have hgather : gather source isNameChar (s.pos + 1) = rest.takeWhile isNameChar := by
    have hat := gather_at isNameChar (h.split.trans (List.append_cons ..))
    rwa [List.length_append, List.length_singleton, ← h.pos] at hat
  let value := expand lookup (String.ofList (rest.takeWhile isNameChar))
  apply h.turn_gathers isNameChar { (if value.isEmpty then s else s.glue value) with
    pos := s.pos + 1 + (rest.takeWhile isNameChar).length } hfirst
  · simp [turn, hc, hgather, value]
  · intro d text
    rfl
  · intro d text u hd hu
    simp [Scanner.take, hu, hd]
  · rfl
  · intro offset
    simp only [Scanner.settle, Scanner.glueValue, String.empty_append]
    by_cases hv : value.isEmpty <;> simp only [hv, value] <;> rfl

/-- A character that is held back. With its other half it makes an operator, and alone it leaves
`t`. -/
theorem turn_heldBack {m : Mode} (half : Char) (o : Operator) (t : Cursor)
    (h : Meets lookup source before (c :: rest) s r)
    (hfirst : r.step lookup c =
      .ok ⟨String.utf8Len before + c.utf8Size, m, s.pending, s.tokens⟩)
    (hturn : s.turn lookup source (String.utf8Len before) c =
      .ok (if s.peek source 1 = some half then s.emit o 2 else t))
    (hhalf : ∀ p : Scanner, p.mode = m → p.take lookup half = .ok (p.emit o))
    (hother : ∀ d, d ≠ half → m.goesOn d = false) (hpos : t.pos = s.pos + 1)
    (hsettled : (Scanner.mk (String.utf8Len before + c.utf8Size) m s.pending s.tokens).settle
      lookup = ⟨String.utf8Len before + c.utf8Size, .ready, t.pending, t.tokens⟩) :
    Turns lookup source s (String.utf8Len before) c := by
  rw [h.peek_eq] at hturn
  by_cases hnext : rest.head? = some half
  · rw [if_pos hnext] at hturn
    obtain ⟨later, hlater⟩ := List.head?_eq_some_iff.mp hnext
    have hstep : [half].foldlM (Scanner.step lookup)
        ⟨String.utf8Len before + c.utf8Size, m, s.pending, s.tokens⟩ =
        .ok ⟨String.utf8Len before + c.utf8Size + half.utf8Size, .ready, none,
          s.flush.tokens ++ [.op o]⟩ := by
      rw [List.foldlM_cons, Scanner.step, hhalf _ rfl]
      rfl
    refine Or.inl ⟨_, _, later, _, hturn,
      h.goes_on [half] hlater hfirst hstep rfl ?_ fun d _ => rfl⟩
    simp [Scanner.settle, emit]
  · rw [if_neg hnext] at hturn
    refine Or.inl ⟨t, _, rest, _, hturn, h.goes_on [] rfl hfirst rfl hpos hsettled ?_⟩
    intro d hd
    apply hother
    rintro rfl
    exact hnext hd

theorem turn_less (h : Meets lookup source before (c :: rest) s r) (hc : classify c = .less) :
    Turns lookup source s (String.utf8Len before) c := by
  have hfirst := h.step_first
  simp only [Scanner.start, hc, Except.map] at hfirst
  apply h.turn_heldBack '<' .here (s.emit .attach 1) hfirst
  · simp [turn, hc]
  · intro p hp
    simp [Scanner.take, hp]
  · intro d hd
    simpa [Mode.goesOn] using hd
  · rfl
  · rfl

theorem turn_digit {o : Operator} (h : Meets lookup source before (c :: rest) s r)
    (hc : classify c = .digit o) : Turns lookup source s (String.utf8Len before) c := by
  have hfirst := h.step_first
  simp only [Scanner.start, hc, Except.map] at hfirst
  apply h.turn_heldBack '>' o { s.glue (String.singleton c) with pos := s.pos + 1 } hfirst
  · simp [turn, hc]
  · intro p hp
    simp [Scanner.take, hp]
  · intro d hd
    simpa [Mode.goesOn] using hd
  · rfl
  · rfl

theorem turn_closedQuote {q : Quote} {body later : List Char}
    (h : Meets lookup source before (q.char :: (body ++ q.char :: later)) s r)
    (hbody : q.char ∉ body) : Turns lookup source s (String.utf8Len before) q.char := by
  have hc : classify q.char = .quote q := classify_eq_quote_iff.mpr rfl
  have hfirst := h.step_first
  simp only [Scanner.start, hc, Except.map] at hfirst
  have hquoted := (quoted_closed h.split h.pos hbody).2.2
  have hstays := Scanner.foldlM_stays lookup
    (s := ⟨String.utf8Len before + q.char.utf8Size, .quote q (String.utf8Len before) "",
      s.pending, s.tokens⟩) rfl hbody
  rw [String.empty_append] at hstays
  refine Or.inl ⟨{ s.glue (q.read lookup (String.ofList body)) with
      pos := s.pos + 1 + body.length + 1 }, _, later,
    ⟨String.utf8Len before + q.char.utf8Size + String.utf8Len (body ++ [q.char]), .ready,
      (s.glue (q.read lookup (String.ofList body))).pending, s.tokens⟩,
    by simp [turn, hc, hquoted, Except.map],
    h.goes_on (body ++ [q.char]) (List.append_cons ..) hfirst ?_ ?_ rfl fun d _ => rfl⟩
  · rw [List.foldlM_append, hstays]
    show [q.char].foldlM (Scanner.step lookup) _ = _
    rw [List.foldlM_cons]
    simp [Scanner.step, Scanner.take, Scanner.glue, glue, Except.map, Nat.add_assoc]
  · rw [List.length_append, List.length_singleton, Nat.add_assoc _ body.length]

theorem turn_openQuote {q : Quote} (h : Meets lookup source before (q.char :: rest) s r)
    (hrest : q.char ∉ rest) : Turns lookup source s (String.utf8Len before) q.char := by
  have hc : classify q.char = .quote q := classify_eq_quote_iff.mpr rfl
  have hfirst := h.step_first
  simp only [Scanner.start, hc, Except.map] at hfirst
  have hquoted := quoted_open h.split h.pos hrest (String.utf8Len before)
  have hstays := Scanner.foldlM_stays lookup
    (s := ⟨String.utf8Len before + q.char.utf8Size, .quote q (String.utf8Len before) "",
      s.pending, s.tokens⟩) rfl hrest
  refine Or.inr ⟨.unterminated q (String.utf8Len before),
    by simp [turn, hc, hquoted, Except.map], ?_⟩
  -- the scanner takes all the rest into the quote, and ends there
  obtain ⟨u, hu, hmode⟩ : ∃ u, (q.char :: rest).foldlM (Scanner.step lookup) r = .ok u ∧
      u.mode = .quote q (String.utf8Len before) ("" ++ String.ofList rest) := by
    rw [List.foldlM_cons, hfirst]
    exact ⟨_, hstays, rfl⟩
  rw [rawTokens_eq_error_iff, h.split, List.foldlM_append, h.taken]
  exact Or.inr ⟨u, q, _, _, hu, hmode, rfl⟩

theorem turn_quote {q : Quote} (h : Meets lookup source before (c :: rest) s r)
    (hc : classify c = .quote q) : Turns lookup source s (String.utf8Len before) c := by
  obtain rfl := classify_eq_quote_iff.mp hc
  by_cases hrest : q.char ∈ rest
  · obtain ⟨body, later, rfl, hbody⟩ := List.eq_append_cons_of_mem hrest
    exact h.turn_closedQuote hbody
  · exact h.turn_openQuote hrest

theorem turns (h : Meets lookup source before (c :: rest) s r) :
    Turns lookup source s (String.utf8Len before) c := by
  cases hc : classify c with
  | operator o => exact h.turn_operator hc
  | less => exact h.turn_less hc
  | digit o => exact h.turn_digit hc
  | dollar => exact h.turn_dollar hc
  | quote q => exact h.turn_quote hc
  | word => exact h.turn_word hc
  | gap => exact h.turn_gap hc
  | illegal => exact h.turn_illegal hc

theorem of_turn (h : Meets lookup source before (c :: rest) s r)
    (ht : s.turn lookup source (String.utf8Len before) c = .ok t) :
    ∃ before after u, Meets lookup source before after t u := by
  rcases h.turns with ⟨_, before, after, u, ht', hnext⟩ | ⟨e, he, _⟩
  · rw [ht] at ht'
    cases ht'
    exact ⟨before, after, u, hnext⟩
  · rw [ht] at he
    cases he

/-- A turn that fails finds what is wrong with the text, and is never out of range. -/
theorem of_turn_error {e : Halt} (h : Meets lookup source before (c :: rest) s r)
    (he : s.turn lookup source (String.utf8Len before) c = .error e) :
    ∃ f, e = .fault f ∧ rawTokens source lookup = .error f := by
  rcases h.turns with ⟨t, _, _, _, ht, _⟩ | ⟨f, hf, hraw⟩
  · rw [he] at ht
    cases ht
  · rw [he] at hf
    cases hf
    exact ⟨f, rfl, hraw⟩

theorem at_character {after : List Char} {offset : Nat}
    (h : Meets lookup source before after s r) (hc : (table source)[s.pos]? = some (offset, c)) :
    ∃ rest, after = c :: rest ∧ offset = String.utf8Len before := by
  rw [h.pos, table_at h.split] at hc
  cases after with
  | nil => cases hc
  | cons d rest =>
    cases hc
    exact ⟨rest, rfl, rfl⟩

theorem at_end {after : List Char} (h : Meets lookup source before after s r)
    (hc : (table source)[s.pos]? = none) : after = [] := by
  rw [h.pos, table_at h.split] at hc
  cases after with
  | nil => rfl
  | cons d rest => cases hc

/-- Where the text ends, the scanner ends with what the cursor ends with. -/
theorem finish_eq {after : List Char} (h : Meets lookup source before after s r) :
    r.finish lookup = .ok s.flush.tokens := by
  have hsettled := h.settled
  unfold Scanner.finish
  cases hmode : r.mode with
  | quote q opened body =>
    -- an open quote is not settled, so the cursor would stand in it
    simp only [Scanner.settle, hmode] at hsettled
    rw [hsettled] at hmode
    cases hmode
  | _ =>
    rw [hsettled]
    rfl

theorem of_reached (h : Reached lookup source s) :
    ∃ before after r, Meets lookup source before after s r := by
  induction h with
  | start => exact ⟨[], source.toList, {}, Meets.start lookup source⟩
  | turn _ hc ht ih =>
    obtain ⟨before, after, r, hmeets⟩ := ih
    obtain ⟨rest, rfl, rfl⟩ := hmeets.at_character hc
    exact hmeets.of_turn ht

/-- From where they meet, the cursor finds what the scanner finds in the whole text. -/
theorem scan_eq {after : List Char} (h : Meets lookup source before after s r) :
    (scan lookup source s).map Cursor.tokens = carried Halt.fault id (rawTokens source lookup) := by
  fun_induction scan lookup source s generalizing before after r with
  | case1 s hc =>
    obtain rfl := h.at_end hc
    have hsplit := h.split
    rw [List.append_nil] at hsplit
    rw [rawTokens_eq_ok_iff.mpr ⟨r, hsplit ▸ h.taken, h.finish_eq⟩]
    rfl
  | case2 s offset c hc e ht =>
    obtain ⟨rest, rfl, rfl⟩ := h.at_character hc
    obtain ⟨f, rfl, hraw⟩ := h.of_turn_error ht
    rw [hraw]
    rfl
  | case3 s offset c hc t ht _ ih =>
    obtain ⟨rest, rfl, rfl⟩ := h.at_character hc
    obtain ⟨before, after, u, hnext⟩ := h.of_turn ht
    exact ih hnext

end Cursor.Meets

/-! ## The law -/

/-- What holds of a cursor that a scan comes to. -/
structure Cursor.InRange (lookup : Lookup) (source : String) (s : Cursor) : Prop where
  within : s.pos ≤ source.length
  /-- It has what the scanner has that took the characters before it. -/
  scanned : ∃ r, (source.toList.take s.pos).foldlM (Scanner.step lookup) {} = .ok r ∧
    r.settle lookup = ⟨byteOffset source s.pos, .ready, s.pending, s.tokens⟩
  /-- It goes on in the text, or finds what is wrong with it. -/
  goes_on : s.pos < source.length → ∃ offset c, (table source)[s.pos]? = some (offset, c) ∧
    ((∃ e, s.turn lookup source offset c = .error (.fault e)) ∨
      ∃ t, s.turn lookup source offset c = .ok t ∧ s.pos < t.pos ∧ t.pos ≤ source.length)
  /-- It cuts out what stands between a quote and the next one of its kind. -/
  cuts : ∀ offset q body after, (table source)[s.pos]? = some (offset, q.char) →
    source.toList.drop (s.pos + 1) = body ++ q.char :: after → q.char ∉ body →
    let start := offset + q.char.utf8Size
    let stop := byteOffset source (s.pos + 1 + body.length)
    InText source start stop ∧ slice? source start stop = some (String.ofList body) ∧
      s.quoted source offset q = .ok (String.ofList body, s.pos + 1 + body.length + 1)
  /-- Without a next one it finds that the quote is never closed. -/
  open_quote : ∀ offset q, (table source)[s.pos]? = some (offset, q.char) →
    q.char ∉ source.toList.drop (s.pos + 1) →
    s.quoted source offset q = .error (.fault (.unterminated q offset))

namespace Cursor.Meets

variable {lookup : Lookup} {source : String} {before after : List Char} {s : Cursor} {r : Scanner}

theorem within (h : Meets lookup source before after s r) : s.pos ≤ source.length := by
  rw [h.pos, ← String.length_toList, h.split, List.length_append]
  omega

theorem drop_eq {c : Char} {rest : List Char} (h : Meets lookup source before (c :: rest) s r) :
    source.toList.drop (s.pos + 1) = rest := by
  rw [h.split, h.pos, ← List.drop_drop, List.drop_left]
  rfl

theorem inRange (h : Meets lookup source before after s r) : s.InRange lookup source := by
  refine ⟨h.within, ⟨r, ?_, ?_⟩, ?_, ?_, ?_⟩
  · rw [h.pos, h.split, List.take_left, h.taken]
  · rw [h.pos, byteOffset_at h.split, h.settled]
  · intro hlt
    rw [← length_table] at hlt
    obtain ⟨offset, c, hc⟩ : ∃ offset c, (table source)[s.pos]? = some (offset, c) :=
      ⟨_, _, List.getElem?_eq_getElem hlt⟩
    obtain ⟨rest, rfl, rfl⟩ := h.at_character hc
    refine ⟨_, c, hc, ?_⟩
    cases ht : s.turn lookup source (String.utf8Len before) c with
    | error e =>
      obtain ⟨f, rfl, _⟩ := h.of_turn_error ht
      exact Or.inl ⟨f, rfl⟩
    | ok t =>
      obtain ⟨_, _, _, hnext⟩ := h.of_turn ht
      exact Or.inr ⟨t, rfl, turn_ahead hc ht, hnext.within⟩
  · intro offset q body rest hc hdrop hbody
    obtain ⟨tail, rfl, rfl⟩ := h.at_character hc
    rw [h.drop_eq] at hdrop
    subst hdrop
    exact quoted_closed h.split h.pos hbody
  · intro offset q hc hnot
    obtain ⟨tail, rfl, rfl⟩ := h.at_character hc
    rw [h.drop_eq] at hnot
    exact quoted_open h.split h.pos hnot _

end Cursor.Meets

/-- A scan by position never leaves the text, always goes on and cuts quotes out whole. It ends, and
with what the scanner ends with. -/
theorem a_scan_by_position_stays_in_the_text (lookup : Lookup) (source : String) :
    (∀ s, Cursor.Reached lookup source s → s.InRange lookup source) ∧
      tokenizeByPosition source lookup = carried Halt.fault id (tokenize source lookup) := by
  constructor
  · intro s hs
    obtain ⟨before, after, r, h⟩ := Cursor.Meets.of_reached hs
    exact h.inRange
  · unfold tokenizeByPosition tokenize
    rw [(Cursor.Meets.start lookup source).scan_eq]
    cases rawTokens source lookup <;> rfl

/-- After `a` a quote opens. `é` has two bytes, and the double quote behind it closes nothing. -/
theorem a_quoted_accent_is_cut_out_whole :
    let lookup : Lookup := fun _ => none
    let source := "a'é\"b'>c"
    let s : Cursor := ⟨1, some "a", []⟩
    Cursor.Reached lookup source s ∧ s.pos < source.length ∧
      (table source)[s.pos]? = some (1, Quote.single.char) ∧
      InText source 2 6 ∧ slice? source 2 6 = some "é\"b" ∧
      s.quoted source 1 .single = .ok ("é\"b", 6) ∧
      tokenizeByPosition source lookup =
        .ok [.word "aé\"b", .op .save, .word "c", .op .semicolon] := by
  intro lookup source s
  have hturn : Cursor.turn lookup source {} 0 'a' = .ok s := by
    have hclass : classify 'a' = .word := by decide
    have hgather : gather source isWordChar 0 = ['a'] :=
      (gather_at isWordChar (List.nil_append source.toList).symm).trans (by decide)
    simp only [Cursor.turn, hclass, hgather]
    decide
  have hreached : Cursor.Reached lookup source s := .turn .start (by decide) hturn
  obtain ⟨hrange, htokens⟩ := a_scan_by_position_stays_in_the_text lookup source
  have hquote : (table source)[s.pos]? = some (1, Quote.single.char) := by decide
  obtain ⟨hin, hslice, hquoted⟩ := (hrange s hreached).cuts 1 .single ['é', '"', 'b'] ['>', 'c']
    hquote (by decide) (by decide)
  have hstart : 1 + Quote.single.char.utf8Size = 2 := by decide
  have hstop : byteOffset source (s.pos + 1 + ['é', '"', 'b'].length) = 6 := by decide
  rw [hstart, hstop] at hin hslice
  refine ⟨hreached, by decide, hquote, hin, hslice, hquoted, ?_⟩
  rw [htokens]
  decide +kernel

end ChatShell.Message
