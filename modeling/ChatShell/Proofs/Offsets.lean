-- Positions and offsets. A table lists the characters of a text, each with the bytes
-- before it. Where a text is split, the position is the number of the characters
-- before and the offset the number of their bytes, and between two such offsets the
-- bytes can be cut out.
import Mathlib.Data.String.Basic

namespace ChatShell.Message

/-! ## The table of a text -/

/-- Each character with the bytes before it, after so many bytes. -/
def placed (offset : Nat) : List Char → List (Nat × Char)
  | [] => []
  | c :: rest => (offset, c) :: placed (offset + c.utf8Size) rest

/-- The characters of a text, each with the bytes before it. -/
def table (source : String) : List (Nat × Char) := placed 0 source.toList

/-- The table from a position on. Past the end there is none. -/
def tableFrom? (source : String) (pos : Nat) : Option (List (Nat × Char)) :=
  if pos ≤ (table source).length then some ((table source).drop pos) else none

/-- The bytes before a position. -/
def byteOffset (source : String) (pos : Nat) : Nat :=
  match (table source)[pos]? with
  | some (offset, _) => offset
  | none => source.utf8ByteSize

/-- The characters from a position on that satisfy `p`, up to the first that does not. -/
def gather (source : String) (p : Char → Bool) (pos : Nat) : List Char :=
  match h : (table source)[pos]? with
  | none => []
  | some (_, c) => if p c then c :: gather source p (pos + 1) else []
termination_by (table source).length - pos
decreasing_by
  have hlt := (List.getElem?_eq_some_iff.mp h).1
  omega

theorem placed_append (offset : Nat) (before after : List Char) :
    placed offset (before ++ after) =
      placed offset before ++ placed (offset + String.utf8Len before) after := by
  induction before generalizing offset with
  | nil => rfl
  | cons c rest ih =>
    rw [List.cons_append, placed, ih, placed, List.cons_append, String.utf8Len_cons,
      Nat.add_assoc, Nat.add_comm c.utf8Size]

theorem placed_chars (offset : Nat) (cs : List Char) : (placed offset cs).map (·.2) = cs := by
  induction cs generalizing offset with
  | nil => rfl
  | cons c rest ih => rw [placed, List.map_cons, ih]

theorem length_placed (offset : Nat) (cs : List Char) : (placed offset cs).length = cs.length := by
  rw [← congrArg List.length (placed_chars offset cs), List.length_map]

theorem length_table (source : String) : (table source).length = source.length := by
  unfold table
  rw [length_placed, String.length_toList]

/-- Offsets do not matter when a character is looked for. -/
theorem findIdx?_placed (offset : Nat) (cs : List Char) (c : Char) :
    (placed offset cs).findIdx? (·.2 = c) = cs.findIdx? (· = c) := by
  have h : ((placed offset cs).map (·.2)).findIdx? (· = c) = cs.findIdx? (· = c) := by
    rw [placed_chars]
  rw [← h, List.findIdx?_map]
  rfl

theorem findIdx?_of_not_mem {cs : List Char} {c : Char} (h : c ∉ cs) :
    cs.findIdx? (· = c) = none := by
  rw [List.findIdx?_eq_none_iff]
  intro d hd
  rw [decide_eq_false_iff_not]
  rintro rfl
  exact h hd

theorem findIdx?_of_split {body : List Char} {c : Char} (h : c ∉ body) (after : List Char) :
    (body ++ c :: after).findIdx? (· = c) = some body.length := by
  rw [List.findIdx?_append, findIdx?_of_not_mem h, List.findIdx?_cons]
  simp

/-! ## Where a text is split -/

section

variable {source : String} {before after : List Char}

theorem table_drop (h : source.toList = before ++ after) :
    (table source).drop before.length = placed (String.utf8Len before) after := by
  unfold table
  rw [h, placed_append, Nat.zero_add, ← length_placed 0 before, List.drop_left]

/-- What stands there is the first character behind, with the bytes before it. -/
theorem table_at (h : source.toList = before ++ after) :
    (table source)[before.length]? = after.head?.map (String.utf8Len before, ·) := by
  rw [← List.head?_drop, table_drop h]
  cases after <;> rfl

theorem byteOffset_at (h : source.toList = before ++ after) :
    byteOffset source before.length = String.utf8Len before := by
  unfold byteOffset
  rw [table_at h]
  cases after with
  | nil =>
    rw [List.append_nil] at h
    rw [← h, String.utf8Len_toList]
    rfl
  | cons c rest => rfl

theorem tableFrom?_at (h : source.toList = before ++ after) :
    tableFrom? source before.length = some (placed (String.utf8Len before) after) := by
  have hle : before.length ≤ (table source).length := by
    rw [length_table, ← String.length_toList, h, List.length_append]
    omega
  unfold tableFrom?
  rw [if_pos hle, table_drop h]

theorem gather_eq (source : String) (p : Char → Bool) (pos : Nat) :
    gather source p pos =
      match (table source)[pos]? with
      | none => []
      | some (_, c) => if p c then c :: gather source p (pos + 1) else [] := by
  rw [gather]
  split <;> simp [*]

theorem gather_at (p : Char → Bool) (h : source.toList = before ++ after) :
    gather source p before.length = after.takeWhile p := by
  induction after generalizing before with
  | nil =>
    rw [gather_eq, table_at h]
    rfl
  | cons c rest ih =>
    have hnext := ih (h.trans (List.append_cons ..))
    rw [List.length_append, List.length_singleton] at hnext
    rw [gather_eq, table_at h, List.takeWhile_cons, ← hnext]
    rfl

end

/-! ## Cutting -/

/-- The offsets are in order, lie in the text and cut no character. -/
def InText (source : String) (start stop : Nat) : Prop :=
  start ≤ stop ∧ stop ≤ source.utf8ByteSize ∧
    (⟨start⟩ : String.Pos.Raw).IsValid source ∧ (⟨stop⟩ : String.Pos.Raw).IsValid source

instance (source : String) (start stop : Nat) : Decidable (InText source start stop) :=
  inferInstanceAs (Decidable (_ ∧ _ ∧ _ ∧ _))

/-- The text between two offsets, if there is one. -/
def slice? (source : String) (start stop : Nat) : Option String :=
  if InText source start stop then some (String.Pos.Raw.extract source ⟨start⟩ ⟨stop⟩) else none

variable {source : String} {before body after : List Char}

/-- No character is cut where the text is split. -/
theorem isValid_utf8Len (h : source.toList = before ++ after) :
    (⟨String.utf8Len before⟩ : String.Pos.Raw).IsValid source := by
  apply String.Pos.Raw.isValid_iff_exists_append.mpr
  refine ⟨String.ofList before, String.ofList after, ?_, ?_⟩
  · rw [← String.ofList_append, ← h, String.ofList_toList]
  · rw [String.rawEndPos_ofList]

theorem inText_of_split (h : source.toList = before ++ body ++ after) :
    InText source (String.utf8Len before) (String.utf8Len (before ++ body)) := by
  refine ⟨?_, ?_, ?_, ?_⟩
  · rw [String.utf8Len_append]
    omega
  · rw [← String.utf8Len_toList, h, String.utf8Len_append (before ++ body)]
    omega
  · exact isValid_utf8Len (h.trans (List.append_assoc ..))
  · exact isValid_utf8Len h

theorem slice?_of_split (h : source.toList = before ++ body ++ after) :
    slice? source (String.utf8Len before) (String.utf8Len (before ++ body)) =
      some (String.ofList body) := by
  have hcut := String.extract_of_valid before body after
  rw [← h, String.ofList_toList, ← String.utf8Len_append] at hcut
  unfold slice?
  rw [if_pos (inText_of_split h), hcut]

end ChatShell.Message
