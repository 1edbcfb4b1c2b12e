-- The laws of `$NAME`. What a message says before its variables are known is its
-- template: operators and words, and in the words the places of the values. The
-- scanner gives the template with the values filled in, so no value is ever read
-- as an operator, a quote, a blank or a name.
import ChatShell.Message.Scan
import ChatShell.Proofs.Fold
import Mathlib.Data.List.Infix
import Mathlib.Tactic.SplitIfs

namespace ChatShell.Message

/-! ## Templates -/

/-- A part of a stretch in double quotes. -/
inductive Part where
  | text (s : String)
  | ref (name : String)

/-- A part of a word. -/
inductive Piece where
  /-- Text that stands for itself: a run of word characters or a stretch in single quotes. -/
  | literal (text : String)
  /-- A name outside quotes. -/
  | bare (name : String)
  /-- A stretch in double quotes. -/
  | quoted (parts : List Part)

/-- One item of a template. -/
inductive Item where
  | op (operator : Operator)
  | word (pieces : List Piece)

/-- A message before its variables are known. -/
abbrev Template := List Item

def Part.names : Part → List String
  | .text _ => []
  | .ref name => [name]

def Piece.names : Piece → List String
  | .literal _ => []
  | .bare name => [name]
  | .quoted parts => parts.flatMap Part.names

def Item.names : Item → List String
  | .op _ => []
  | .word pieces => pieces.flatMap Piece.names

/-- The names a template has a place for. -/
def Template.names (t : Template) : List String := t.flatMap Item.names

def Item.operator? : Item → Option Operator
  | .op o => some o
  | .word _ => none

def Token.operator? : Token → Option Operator
  | .op o => some o
  | .word _ => none

/-- The operators of a row of tokens, in order. -/
def operators (tokens : List Token) : List Operator := tokens.filterMap Token.operator?

/-! ## Filling in -/

/-- What a name stands for: its value as it is, and nothing if it has none or there is no name. -/
def valueOf (lookup : Lookup) (name : String) : String :=
  if name = "" then "" else (lookup name).getD ""

def Part.fill (lookup : Lookup) : Part → String
  | .text s => s
  | .ref name => valueOf lookup name

/-- The text a piece adds to its word. -/
def Piece.fill (lookup : Lookup) : Piece → String
  | .literal text => text
  | .bare name => valueOf lookup name
  | .quoted parts => String.join (parts.map (Part.fill lookup))

/-- The piece is a bare name without a value, so it makes no word by itself. Quotes always
make one, even an empty one. -/
def Piece.isVoid (lookup : Lookup) : Piece → Bool
  | .bare name => (valueOf lookup name).isEmpty
  | .literal _ | .quoted _ => false

/-- The text of a word, absent if all its pieces are void. -/
def fillWord? (lookup : Lookup) (pieces : List Piece) : Option String :=
  if pieces.all (Piece.isVoid lookup) then none
  else some (String.join (pieces.map (Piece.fill lookup)))

/-- The token of an item, absent for a word without text. -/
def Item.fill? (lookup : Lookup) : Item → Option Token
  | .op o => some (.op o)
  | .word pieces => (fillWord? lookup pieces).map .word

/-- The tokens of a template. -/
def Template.fill (lookup : Lookup) (t : Template) : List Token := t.filterMap (Item.fill? lookup)

/-- What comes after the tokens: a `;`, unless there are none or the last of them is one. -/
def ending (tokens : List Token) : List Token :=
  if tokens ≠ [] ∧ tokens.getLast? ≠ some (.op .semicolon) then [.op .semicolon] else []

theorem Piece.fill_of_isVoid {lookup : Lookup} {p : Piece} (h : p.isVoid lookup = true) :
    p.fill lookup = "" := by
  cases p with
  | literal text => simp [Piece.isVoid] at h
  | bare name => simpa [Piece.isVoid, Piece.fill] using h
  | quoted parts => simp [Piece.isVoid] at h

theorem join_fill_of_all_void {lookup : Lookup} {pieces : List Piece}
    (h : pieces.all (Piece.isVoid lookup) = true) :
    String.join (pieces.map (Piece.fill lookup)) = "" := by
  induction pieces with
  | nil => rfl
  | cons p rest ih =>
    simp only [List.all_cons, Bool.and_eq_true] at h
    rw [List.map_cons, String.join_cons, Piece.fill_of_isVoid h.1, ih h.2]
    rfl

@[simp]
theorem fillWord?_nil (lookup : Lookup) : fillWord? lookup [] = none := rfl

theorem fillWord?_getD (lookup : Lookup) (pieces : List Piece) :
    (fillWord? lookup pieces).getD "" = String.join (pieces.map (Piece.fill lookup)) := by
  unfold fillWord?
  split
  · rename_i h
    rw [join_fill_of_all_void h]
    rfl
  · rfl

/-- A void piece leaves the word as it is, any other adds its text. -/
theorem fillWord?_snoc (lookup : Lookup) (pieces : List Piece) (p : Piece) :
    fillWord? lookup (pieces ++ [p]) =
      if p.isVoid lookup then fillWord? lookup pieces
      else some ((fillWord? lookup pieces).getD "" ++ p.fill lookup) := by
  rw [fillWord?_getD]
  unfold fillWord?
  by_cases hp : p.isVoid lookup = true
  · simp [hp, Piece.fill_of_isVoid hp]
  · simp [hp]

theorem Template.fill_snoc (lookup : Lookup) (t : Template) (i : Item) :
    Template.fill lookup (t ++ [i]) = t.fill lookup ++ (i.fill? lookup).toList := by
  unfold Template.fill
  rw [List.filterMap_append]
  cases h : i.fill? lookup <;> simp [h]

/-- The operators stand in the template, and filling in neither adds nor drops one. -/
theorem operators_fill (lookup : Lookup) (t : Template) :
    operators (t.fill lookup) = t.filterMap Item.operator? := by
  unfold operators Template.fill
  rw [List.filterMap_filterMap]
  apply List.filterMap_congr
  intro i _
  cases i with
  | op o => rfl
  | word pieces =>
    cases h : fillWord? lookup pieces <;> simp [Item.fill?, h, Item.operator?, Token.operator?]

/-! ## Drafts

A draft is a scanner that does not know the variables. It takes the same characters and writes
down the names where the scanner puts the values. -/

/-- A stretch in double quotes, read up to some point: its parts, and the name at hand. -/
structure Sketch where
  parts : List Part := []
  name : Option String := none

namespace Sketch

def settle (k : Sketch) : Sketch :=
  match k.name with
  | none => k
  | some name => ⟨k.parts ++ [.ref name], none⟩

def start (k : Sketch) (c : Char) : Sketch :=
  if c = '$' then { k with name := some "" }
  else { k with parts := k.parts ++ [.text (String.singleton c)] }

def step (k : Sketch) (c : Char) : Sketch :=
  match k.name with
  | none => k.start c
  | some name => if isNameChar c then { k with name := some (name.push c) } else k.settle.start c

/-- What the scanner has of the stretch, once the values are known. -/
def fill (lookup : Lookup) (k : Sketch) : Interpolation :=
  ⟨String.join (k.parts.map (Part.fill lookup)), k.name⟩

end Sketch

/-- The parts of a stretch in double quotes. -/
def partsOf (body : String) : List Part := (body.toList.foldl Sketch.step {}).settle.parts

/-- The piece that a closed quote makes. -/
def Quote.piece (q : Quote) (body : String) : Piece :=
  match q with
  | .single => .literal body
  | .double => .quoted (partsOf body)

/-- A message read up to some point: the bytes taken, what the scanner is in the middle of, the
pieces of the word at hand and the items before it. -/
structure Draft where
  offset : Nat := 0
  mode : Mode := .ready
  pieces : List Piece := []
  items : List Item := []

namespace Draft

def glue (d : Draft) (p : Piece) : Draft := { d with mode := .ready, pieces := d.pieces ++ [p] }

def flush (d : Draft) : Draft :=
  let word := if d.pieces.isEmpty then [] else [.word d.pieces]
  { d with mode := .ready, pieces := [], items := d.items ++ word }

def emit (d : Draft) (o : Operator) : Draft :=
  let d := d.flush
  { d with items := d.items ++ [.op o] }

def settle (d : Draft) : Draft :=
  match d.mode with
  | .ready => d
  | .run text => d.glue (.literal text)
  | .digit c _ => d.glue (.literal (String.singleton c))
  | .name text => d.glue (.bare text)
  | .less => d.emit .attach
  | .quote _ _ _ => d

def start (d : Draft) (c : Char) : Except ScanError Draft :=
  match classify c with
  | .operator o => .ok (d.emit o)
  | .less => .ok { d with mode := .less }
  | .digit redirect => .ok { d with mode := .digit c redirect }
  | .dollar => .ok { d with mode := .name "" }
  | .quote q => .ok { d with mode := .quote q d.offset "" }
  | .word => .ok { d with mode := .run (String.singleton c) }
  | .gap => .ok d.flush
  | .illegal => .error (.illegal c d.offset)

def take (d : Draft) (c : Char) : Except ScanError Draft :=
  match d.mode with
  | .ready => d.start c
  | .run text =>
    if isWordChar c then .ok { d with mode := .run (text.push c) } else d.settle.start c
  | .digit _ redirect => if c = '>' then .ok (d.emit redirect) else d.settle.start c
  | .name text =>
    if isNameChar c then .ok { d with mode := .name (text.push c) } else d.settle.start c
  | .less => if c = '<' then .ok (d.emit .here) else d.settle.start c
  | .quote q opened body =>
    if c = q.char then .ok (d.glue (q.piece body))
    else .ok { d with mode := .quote q opened (body.push c) }

def step (d : Draft) (c : Char) : Except ScanError Draft :=
  (d.take c).map fun e => { e with offset := d.offset + c.utf8Size }

def finish (d : Draft) : Except ScanError Template :=
  match d.mode with
  | .quote q opened _ => .error (.unterminated q opened)
  | _ => .ok d.settle.flush.items

/-- The scanner at the same point, once the values are known. -/
def fill (lookup : Lookup) (d : Draft) : Scanner :=
  ⟨d.offset, d.mode, fillWord? lookup d.pieces, Template.fill lookup d.items⟩

end Draft

/-- The template of a message. -/
def template (source : String) : Except ScanError Template := do
  let d ← source.toList.foldlM Draft.step {}
  d.finish

/-! ## The scanner fills the draft in -/

theorem expand_eq_valueOf (lookup : Lookup) (name : String) :
    expand lookup name = valueOf lookup name := by
  unfold expand valueOf
  by_cases h : name = ""
  · simp [h]
  · simp [h]

theorem Sketch.fill_settle (lookup : Lookup) (k : Sketch) :
    (k.fill lookup).settle lookup = k.settle.fill lookup := by
  unfold Interpolation.settle Sketch.settle
  cases h : k.name <;> simp [Sketch.fill, h, Part.fill, expand_eq_valueOf]

theorem Sketch.fill_start (lookup : Lookup) (k : Sketch) (c : Char) :
    (k.fill lookup).start c = (k.start c).fill lookup := by
  unfold Interpolation.start Sketch.start
  split
  · rfl
  · simp [Sketch.fill, Part.fill]

theorem Sketch.fill_step (lookup : Lookup) (k : Sketch) (c : Char) :
    (k.fill lookup).step lookup c = (k.step c).fill lookup := by
  unfold Interpolation.step Sketch.step
  rw [Sketch.fill_settle]
  cases h : k.name with
  | none => simp only [Sketch.fill_start, show (k.fill lookup).name = none from h]
  | some name =>
    simp only [show (k.fill lookup).name = some name from h]
    split
    · rfl
    · exact Sketch.fill_start lookup k.settle c

theorem Sketch.fill_foldl (lookup : Lookup) (cs : List Char) (k : Sketch) :
    cs.foldl (Interpolation.step lookup) (k.fill lookup) =
      (cs.foldl Sketch.step k).fill lookup := by
  induction cs generalizing k with
  | nil => rfl
  | cons c rest ih => rw [List.foldl_cons, List.foldl_cons, Sketch.fill_step, ih]

theorem interpolate_eq_join (lookup : Lookup) (body : String) :
    interpolate lookup body = String.join ((partsOf body).map (Part.fill lookup)) := by
  have h := Sketch.fill_foldl lookup body.toList {}
  unfold interpolate partsOf
  rw [show ({} : Interpolation) = Sketch.fill lookup {} from rfl, h, Sketch.fill_settle]
  rfl

namespace Draft

variable (lookup : Lookup) (d : Draft)

theorem fill_glue (p : Piece) (h : p.isVoid lookup = false) :
    (d.fill lookup).glue (p.fill lookup) = (d.glue p).fill lookup := by
  simp [Scanner.glue, Draft.glue, Draft.fill, fillWord?_snoc, h]

theorem fill_glueValue (name : String) :
    (d.fill lookup).glueValue (expand lookup name) = (d.glue (.bare name)).fill lookup := by
  unfold Scanner.glueValue
  rw [expand_eq_valueOf]
  split
  · rename_i h
    simp [Draft.glue, Draft.fill, fillWord?_snoc, Piece.isVoid, h]
  · rename_i h
    exact fill_glue lookup d (.bare name) (by simpa [Piece.isVoid] using h)

theorem fill_flush : (d.fill lookup).flush = d.flush.fill lookup := by
  cases h : d.pieces with
  | nil => simp [Scanner.flush, Draft.flush, Draft.fill, h]
  | cons p rest =>
    simp [Scanner.flush, Draft.flush, Draft.fill, h, Template.fill_snoc, Item.fill?]

theorem fill_emit (o : Operator) : (d.fill lookup).emit o = (d.emit o).fill lookup := by
  unfold Scanner.emit
  rw [fill_flush]
  simp [Draft.emit, Draft.fill, Template.fill_snoc, Item.fill?]

theorem fill_settle : (d.fill lookup).settle lookup = d.settle.fill lookup := by
  unfold Scanner.settle Draft.settle
  rw [show (d.fill lookup).mode = d.mode from rfl]
  cases d.mode with
  | ready => rfl
  | run text => exact fill_glue lookup d (.literal text) rfl
  | digit c o => exact fill_glue lookup d (.literal _) rfl
  | name text => exact fill_glueValue lookup d text
  | less => exact fill_emit lookup d .attach
  | quote q opened body => rfl

theorem fill_start (c : Char) : (d.fill lookup).start c = (d.start c).map (Draft.fill lookup) := by
  unfold Scanner.start Draft.start
  cases classify c with
  | operator o => exact congrArg Except.ok (fill_emit lookup d o)
  | gap => exact congrArg Except.ok (fill_flush lookup d)
  | _ => rfl

/-- The text of a closed quote is the text of its piece, and a quote is never void. -/
theorem fill_glue_quote (q : Quote) (body : String) :
    (d.fill lookup).glue (q.read lookup body) = (d.glue (q.piece body)).fill lookup := by
  cases q with
  | single => exact fill_glue lookup d (.literal body) rfl
  | double =>
    rw [← fill_glue lookup d (Quote.double.piece body) rfl]
    simp only [Quote.read, interpolate_eq_join, Quote.piece, Piece.fill]

theorem fill_take (c : Char) :
    (d.fill lookup).take lookup c = (d.take c).map (Draft.fill lookup) := by
  unfold Scanner.take Draft.take
  rw [fill_settle, show (d.fill lookup).mode = d.mode from rfl]
  cases d.mode with
  | ready => exact fill_start lookup d c
  | run text =>
    dsimp only
    split_ifs
    · rfl
    · exact fill_start lookup d.settle c
  | digit _ redirect =>
    dsimp only
    split_ifs
    · exact congrArg Except.ok (fill_emit lookup d redirect)
    · exact fill_start lookup d.settle c
  | name text =>
    dsimp only
    split_ifs
    · rfl
    · exact fill_start lookup d.settle c
  | less =>
    dsimp only
    split_ifs
    · exact congrArg Except.ok (fill_emit lookup d .here)
    · exact fill_start lookup d.settle c
  | quote q opened body =>
    dsimp only
    split_ifs
    · exact congrArg Except.ok (fill_glue_quote lookup d q body)
    · rfl

/-- One character: the scanner and the draft stop at the same one, and else stay in step. -/
theorem fill_step (c : Char) :
    (d.fill lookup).step lookup c = (d.step c).map (Draft.fill lookup) := by
  unfold Scanner.step Draft.step
  rw [fill_take]
  cases d.take c <;> rfl

theorem fill_finish : (d.fill lookup).finish lookup = d.finish.map (Template.fill lookup) := by
  unfold Scanner.finish Draft.finish
  rw [fill_settle, fill_flush, show (d.fill lookup).mode = d.mode from rfl]
  cases d.mode <;> rfl

end Draft

/-- The tokens of a message are its template with the values filled in. -/
theorem rawTokens_eq_fill (source : String) (lookup : Lookup) :
    rawTokens source lookup = (template source).map (Template.fill lookup) := by
  unfold rawTokens template
  have hstep : ∀ (d : Draft) c, (d.fill lookup).step lookup c =
      carried id (Draft.fill lookup) (d.step c) := by
    intro d c
    rw [Draft.fill_step, map_eq_carried]
  rw [show ({} : Scanner) = Draft.fill lookup {} from rfl, foldlM_carried hstep]
  cases source.toList.foldlM Draft.step {} with
  | error e => rfl
  | ok d => exact Draft.fill_finish lookup d

theorem terminated_eq_append (tokens : List Token) :
    terminated tokens = tokens ++ ending tokens := by
  unfold terminated ending
  cases h : tokens.getLast? with
  | none => simp [List.getLast?_eq_none_iff.mp h]
  | some t =>
    have hne : tokens ≠ [] := by
      rintro rfl
      cases h
    by_cases ht : t = .op .semicolon
    · simp [ht]
    · simp [ht, hne]

/-! ## Names are written in the message -/

def AllNameChars (name : String) : Prop := ∀ c ∈ name.toList, isNameChar c = true

/-- The name has name characters only and stands after a `$` somewhere in the text. -/
def Written (text : List Char) (name : String) : Prop :=
  AllNameChars name ∧ '$' :: name.toList <:+: text

/-- The name has name characters only, and the text ends with it and its `$`. -/
def AtEnd (text : List Char) (name : String) : Prop :=
  AllNameChars name ∧ '$' :: name.toList <:+ text

theorem Written.mono {text more : List Char} {name : String} (h : Written text name)
    (hm : text <:+: more) : Written more name := ⟨h.1, h.2.trans hm⟩

theorem AtEnd.written {text : List Char} {name : String} (h : AtEnd text name) :
    Written text name := ⟨h.1, h.2.isInfix⟩

theorem atEnd_dollar (text : List Char) : AtEnd (text ++ ['$']) "" := by
  refine ⟨?_, text, rfl⟩
  intro c hc
  simp at hc

theorem AtEnd.push {text : List Char} {name : String} {c : Char} (h : AtEnd text name)
    (hc : isNameChar c = true) : AtEnd (text ++ [c]) (name.push c) := by
  obtain ⟨hall, before, hb⟩ := h
  refine ⟨?_, before, ?_⟩
  · intro x hx
    rw [String.toList_push, List.mem_append, List.mem_singleton] at hx
    rcases hx with hx | rfl
    · exact hall x hx
    · exact hc
  · rw [← hb, String.toList_push]
    simp

/-- What holds of a stretch in double quotes while it is read. -/
structure Sketch.Named (k : Sketch) (taken : List Char) : Prop where
  parts : ∀ name ∈ k.parts.flatMap Part.names, Written taken name
  name : ∀ name, k.name = some name → AtEnd taken name

namespace Sketch

variable {k : Sketch} {taken : List Char}

theorem Named.settle (h : k.Named taken) : k.settle.Named taken := by
  unfold Sketch.settle
  cases hn : k.name with
  | none => exact h
  | some name =>
    refine ⟨?_, by simp⟩
    intro x hx
    rw [List.flatMap_append, List.mem_append] at hx
    rcases hx with hx | hx
    · exact h.parts x hx
    · simp only [List.flatMap_singleton, Part.names, List.mem_singleton] at hx
      subst hx
      exact (h.name x hn).written

theorem Named.start (h : k.Named taken) (hn : k.name = none) (c : Char) :
    (k.start c).Named (taken ++ [c]) := by
  have hparts : ∀ name ∈ k.parts.flatMap Part.names, Written (taken ++ [c]) name :=
    fun name hm => (h.parts name hm).mono (List.prefix_append taken [c]).isInfix
  unfold Sketch.start
  split
  · rename_i hc
    subst hc
    refine ⟨hparts, ?_⟩
    intro name he
    cases he
    exact atEnd_dollar taken
  · refine ⟨?_, by simp [hn]⟩
    simpa [Part.names] using hparts

theorem settle_name (k : Sketch) : k.settle.name = none := by
  unfold Sketch.settle
  cases h : k.name <;> simp [h]

theorem Named.step (h : k.Named taken) (c : Char) : (k.step c).Named (taken ++ [c]) := by
  unfold Sketch.step
  cases hn : k.name with
  | none => exact h.start hn c
  | some name =>
    dsimp only
    split
    · rename_i hc
      refine ⟨fun x hx => (h.parts x hx).mono (List.prefix_append taken [c]).isInfix, ?_⟩
      intro x hx
      cases hx
      exact (h.name name hn).push hc
    · exact h.settle.start (settle_name k) c

theorem Named.foldl (cs : List Char) (h : k.Named taken) :
    (cs.foldl Sketch.step k).Named (taken ++ cs) := by
  induction cs generalizing k taken with
  | nil => simpa using h
  | cons c rest ih => simpa using ih (h.step c)

end Sketch

theorem partsOf_names (body : String) :
    ∀ name ∈ (partsOf body).flatMap Part.names, Written body.toList name := by
  have h0 : Sketch.Named {} [] := ⟨by simp, by simp⟩
  exact (h0.foldl body.toList).settle.parts

theorem Quote.piece_names (q : Quote) (body : String) :
    ∀ name ∈ (q.piece body).names, Written body.toList name := by
  cases q with
  | single => simp [Quote.piece, Piece.names]
  | double => exact partsOf_names body

theorem eq_dollar_of_classify {c : Char} (h : classify c = .dollar) : c = '$' := by
  unfold classify at h
  simp only [ite_eq_iff, reduceCtorEq, and_false, or_false, false_or] at h
  exact h.2.2.2.2.2.2.2.1

/-- What the scanner is in the middle of has just been taken. -/
def Mode.Read (taken : List Char) : Mode → Prop
  | .name text => AtEnd taken text
  | .quote _ _ body => body.toList <:+ taken
  | .ready | .run _ | .digit _ _ | .less => True

/-- What holds of a draft while the message is read. -/
structure Draft.Named (d : Draft) (taken : List Char) : Prop where
  pieces : ∀ name ∈ d.pieces.flatMap Piece.names, Written taken name
  items : ∀ name ∈ Template.names d.items, Written taken name
  mode : d.mode.Read taken

namespace Draft

variable {d e : Draft} {taken : List Char}

theorem Named.glue (h : d.Named taken) (p : Piece) (hp : ∀ name ∈ p.names, Written taken name) :
    (d.glue p).Named taken := by
  refine ⟨?_, h.items, trivial⟩
  intro name hn
  simp only [Draft.glue, List.flatMap_append, List.flatMap_singleton, List.mem_append] at hn
  rcases hn with hn | hn
  · exact h.pieces name hn
  · exact hp name hn

theorem Named.flush (h : d.Named taken) : d.flush.Named taken := by
  refine ⟨by simp [Draft.flush], ?_, trivial⟩
  intro name hn
  simp only [Draft.flush, Template.names, List.flatMap_append, List.mem_append] at hn
  rcases hn with hn | hn
  · exact h.items name hn
  · split at hn
    · simp at hn
    · rw [List.flatMap_singleton] at hn
      exact h.pieces name hn

theorem Named.emit (h : d.Named taken) (o : Operator) : (d.emit o).Named taken := by
  obtain ⟨hp, hi, hm⟩ := h.flush
  refine ⟨hp, ?_, hm⟩
  simpa [Draft.emit, Template.names, Item.names] using hi

theorem Named.settle (h : d.Named taken) : d.settle.Named taken := by
  have hm := h.mode
  unfold Draft.settle
  cases hd : d.mode with
  | ready => exact h
  | run text => exact h.glue _ (by simp [Piece.names])
  | digit c o => exact h.glue _ (by simp [Piece.names])
  | name text =>
    rw [hd] at hm
    apply h.glue
    intro name hn
    simp only [Piece.names, List.mem_singleton] at hn
    subst hn
    exact AtEnd.written hm
  | less => exact h.emit _
  | quote q opened body => exact h

/-- More text taken, in a mode that the text allows. -/
theorem Named.mono (h : d.Named taken) {more : List Char} (hm : taken <:+: more) (m : Mode)
    (hr : m.Read more) : Named { d with mode := m } more :=
  ⟨fun name hn => (h.pieces name hn).mono hm, fun name hn => (h.items name hn).mono hm, hr⟩

theorem Named.start (h : d.Named taken) {c : Char} (he : d.start c = .ok e) :
    e.Named (taken ++ [c]) := by
  have hin : taken <:+: taken ++ [c] := (List.prefix_append taken [c]).isInfix
  unfold Draft.start at he
  cases hc : classify c <;> simp only [hc, Except.ok.injEq, reduceCtorEq] at he <;> subst he
  case operator o => exact (h.emit o).mono hin _ trivial
  case less => exact h.mono hin _ trivial
  case digit redirect => exact h.mono hin _ trivial
  case dollar =>
    rw [eq_dollar_of_classify hc] at hin ⊢
    exact h.mono hin _ (atEnd_dollar taken)
  case quote q => exact h.mono hin _ (List.nil_suffix)
  case word => exact h.mono hin _ trivial
  case gap => exact h.flush.mono hin _ trivial

theorem Named.take (h : d.Named taken) {c : Char} (he : d.take c = .ok e) :
    e.Named (taken ++ [c]) := by
  have hin : taken <:+: taken ++ [c] := (List.prefix_append taken [c]).isInfix
  have hm := h.mode
  unfold Draft.take at he
  cases hd : d.mode with
  | ready =>
    rw [hd] at he
    exact h.start he
  | run text =>
    simp only [hd] at he
    split_ifs at he
    · cases he
      exact h.mono hin _ trivial
    · exact h.settle.start he
  | digit char redirect =>
    simp only [hd] at he
    split_ifs at he
    · cases he
      exact (h.emit redirect).mono hin _ trivial
    · exact h.settle.start he
  | name text =>
    simp only [hd] at he
    rw [hd] at hm
    split_ifs at he with hc
    · cases he
      exact h.mono hin _ (AtEnd.push hm hc)
    · exact h.settle.start he
  | less =>
    simp only [hd] at he
    split_ifs at he
    · cases he
      exact (h.emit .here).mono hin _ trivial
    · exact h.settle.start he
  | quote q opened body =>
    simp only [hd] at he
    rw [hd] at hm
    split_ifs at he
    · cases he
      have hp : ∀ name ∈ (q.piece body).names, Written taken name :=
        fun name hn => (Quote.piece_names q body name hn).mono (List.IsSuffix.isInfix hm)
      exact (h.glue _ hp).mono hin _ trivial
    · cases he
      obtain ⟨before, hb⟩ := hm
      refine h.mono hin _ ⟨before, ?_⟩
      rw [String.toList_push, ← hb, List.append_assoc]

theorem Named.step (h : d.Named taken) {c : Char} (he : d.step c = .ok e) :
    e.Named (taken ++ [c]) := by
  unfold Draft.step at he
  obtain ⟨t, ht, rfl⟩ := map_eq_ok_iff.mp he
  obtain ⟨hp, hi, hm⟩ := h.take ht
  exact ⟨hp, hi, hm⟩

end Draft

theorem template_names {source : String} {t : Template} (h : template source = .ok t) :
    ∀ name ∈ t.names, Written source.toList name := by
  unfold template at h
  obtain ⟨d, hd, hf⟩ := bind_eq_ok_iff.mp h
  have h0 : Draft.Named {} [] := ⟨by simp, by simp [Template.names], trivial⟩
  have hd' := foldlM_invariant (P := fun taken d => d.Named taken)
    (fun _ _ _ _ h hs => h.step hs) source.toList h0 hd
  have hn := hd'.settle.flush.items
  unfold Draft.finish at hf
  split at hf
  · simp at hf
  · cases hf
    exact hn

/-! ## The law -/

/-- A message has one template, which depends on its text alone, and under any variables its
tokens are this template filled in, with a `;` after it unless it is empty or ends in one. Every
name in the template stands in the text after a `$`. So two sets of variables give the same error,
or both give tokens, and then the operators are the same ones: a value never adds, drops or moves
one. -/
theorem a_value_is_never_read_as_syntax (source : String) :
    ∃ draft : Except ScanError Template,
      (∀ t, draft = .ok t → ∀ name ∈ t.names,
        (∀ c ∈ name.toList, c.isAlphanum = true) ∧ '$' :: name.toList <:+: source.toList) ∧
      (∀ lookup, tokenize source lookup =
        draft.map fun t => t.fill lookup ++ ending (t.fill lookup)) ∧
      ∀ v w,
        (∃ e, tokenize source v = .error e ∧ tokenize source w = .error e) ∨
        ∃ ts us, rawTokens source v = .ok ts ∧ rawTokens source w = .ok us ∧
          tokenize source v = .ok (ts ++ ending ts) ∧
          tokenize source w = .ok (us ++ ending us) ∧ operators ts = operators us := by
  have htok : ∀ lookup, tokenize source lookup =
      (template source).map fun t => t.fill lookup ++ ending (t.fill lookup) := by
    intro lookup
    unfold tokenize
    rw [rawTokens_eq_fill]
    cases template source with
    | error e => rfl
    | ok t => exact congrArg Except.ok (terminated_eq_append (t.fill lookup))
  refine ⟨template source, fun t ht => template_names ht, htok, ?_⟩
  intro v w
  simp only [htok, rawTokens_eq_fill]
  cases template source with
  | error e => exact Or.inl ⟨e, rfl, rfl⟩
  | ok t =>
    refine Or.inr ⟨t.fill v, t.fill w, rfl, rfl, rfl, rfl, ?_⟩
    rw [operators_fill, operators_fill]

/-- A value full of quotes, operators and names is text in its word, bare and in double quotes. In
single quotes there is no name, and a bare name without a value makes no word. Whatever the
variables are, the message has one operator. -/
theorem a_value_of_quotes_and_operators_is_text :
    let source := "echo a$X \"$X;$N\" '$X' $N > $X"
    let v : Lookup := fun name => if name = "X" then some "'|$X;\" >" else none
    let row : List Token :=
      [.word "echo", .word "a'|$X;\" >", .word "'|$X;\" >;", .word "$X", .op .save,
        .word "'|$X;\" >"]
    tokenize source v = .ok (row ++ [.op .semicolon]) ∧
      ∀ w, ∃ us, rawTokens source w = .ok us ∧ tokenize source w = .ok (us ++ ending us) ∧
        operators us = [.save] := by
  intro source v row
  have hraw : rawTokens source v = .ok row := by decide +kernel
  have hv : tokenize source v = .ok (row ++ [.op .semicolon]) := by
    unfold tokenize
    rw [hraw]
    rfl
  refine ⟨hv, ?_⟩
  intro w
  obtain ⟨_, _, _, hsame⟩ := a_value_is_never_read_as_syntax source
  rcases hsame v w with ⟨e, he, _⟩ | ⟨ts, us, hts, hus, _, hw, hops⟩
  · rw [hv] at he
    cases he
  · rw [hraw] at hts
    cases hts
    exact ⟨us, hus, hw, hops.symm⟩

end ChatShell.Message
