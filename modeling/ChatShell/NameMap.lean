-- Things kept under names. A name stands at most once, a later thing under the
-- same name takes the place of the earlier one, and the names are in the order
-- of their code points, which is also the order of their UTF-8 bytes. A map has
-- the proof of its order with it.

namespace ChatShell

/-- Entries under names, in order of the names. -/
structure NameMap (α : Type) where
  entries : List (String × α)
  /-- Each name comes before all later ones, so no name stands twice. -/
  ordered : (entries.map (·.1)).Pairwise (· < ·)

namespace NameMap

variable {α β : Type}

/-- The map without entries. -/
def empty : NameMap α := ⟨[], .nil⟩

/-- Puts an entry in its place among ordered entries. -/
def place (name : String) (value : α) : List (String × α) → List (String × α)
  | [] => [(name, value)]
  | (other, held) :: rest =>
    if name = other then (name, value) :: rest
    else if name < other then (name, value) :: (other, held) :: rest
    else (other, held) :: place name value rest

theorem mem_place {name other : String} {value : α} {entries : List (String × α)}
    (h : other ∈ (place name value entries).map (·.1)) :
    other = name ∨ other ∈ entries.map (·.1) := by
  induction entries with
  | nil => simpa [place] using h
  | cons e rest ih =>
    unfold place at h
    by_cases he : name = e.1
    · rw [if_pos he, List.map_cons, List.mem_cons] at h
      rw [List.map_cons, List.mem_cons]
      exact h.imp_right Or.inr
    · rw [if_neg he] at h
      by_cases hlt : name < e.1
      · rw [if_pos hlt, List.map_cons, List.mem_cons] at h
        exact h
      · rw [if_neg hlt, List.map_cons, List.mem_cons] at h
        rw [List.map_cons, List.mem_cons]
        rcases h with h | h
        · exact Or.inr (Or.inl h)
        · exact (ih h).imp_right Or.inr

/-- A name is put in its place. -/
theorem pairwise_place (name : String) (value : α) {entries : List (String × α)}
    (h : (entries.map (·.1)).Pairwise (· < ·)) :
    ((place name value entries).map (·.1)).Pairwise (· < ·) := by
  induction entries with
  | nil => simp [place]
  | cons e rest ih =>
    rw [List.map_cons, List.pairwise_cons] at h
    unfold place
    by_cases he : name = e.1
    · rw [if_pos he, List.map_cons, List.pairwise_cons, he]
      exact h
    · rw [if_neg he]
      by_cases hlt : name < e.1
      · rw [if_pos hlt, List.map_cons, List.map_cons, List.pairwise_cons, List.pairwise_cons]
        refine ⟨?_, h⟩
        intro other hother
        rcases List.mem_cons.mp hother with rfl | hmem
        · exact hlt
        · exact String.lt_trans hlt (h.1 other hmem)
      · rw [if_neg hlt, List.map_cons, List.pairwise_cons]
        refine ⟨?_, ih h.2⟩
        have hbefore : e.1 < name := by
          apply Decidable.byContradiction
          intro hnot
          exact he (String.le_antisymm (String.not_lt.mp hnot) (String.not_lt.mp hlt))
        intro other hother
        rcases mem_place hother with rfl | hmem
        · exact hbefore
        · exact h.1 other hmem

/-- The map with `value` under `name`. -/
def insert (m : NameMap α) (name : String) (value : α) : NameMap α :=
  ⟨place name value m.entries, pairwise_place name value m.ordered⟩

/-- What is kept under `name`. -/
def get? (m : NameMap α) (name : String) : Option α :=
  (m.entries.find? fun e => e.1 == name).map (·.2)

/-- Something is kept under `name`. -/
def contains (m : NameMap α) (name : String) : Bool := m.entries.any fun e => e.1 == name

/-- The names, in order. -/
def names (m : NameMap α) : List String := m.entries.map (·.1)

/-- The number of names. -/
def size (m : NameMap α) : Nat := m.entries.length

/-- No name is in use. -/
def isEmpty (m : NameMap α) : Bool := m.entries.isEmpty

/-- The map that arises from putting in the entries one after the other. -/
def ofList (entries : List (String × α)) : NameMap α :=
  entries.foldl (fun m e => m.insert e.1 e.2) empty

theorem names_mapWithName (f : String → α → β) (entries : List (String × α)) :
    (entries.map fun e => (e.1, f e.1 e.2)).map (·.1) = entries.map (·.1) := by
  rw [List.map_map]
  rfl

/-- The same names, each with what `f` makes of its name and thing. -/
def mapWithName (f : String → α → β) (m : NameMap α) : NameMap β where
  entries := m.entries.map fun e => (e.1, f e.1 e.2)
  ordered := (names_mapWithName f m.entries).symm ▸ m.ordered

/-! ## What an insertion changes -/

theorem find?_place_self (name : String) (value : α) (entries : List (String × α)) :
    (place name value entries).find? (fun e => e.1 == name) = some (name, value) := by
  induction entries with
  | nil => simp [place]
  | cons e rest ih =>
    unfold place
    split
    · simp
    · split
      · simp
      · rename_i hne _
        have hne' : (e.1 == name) = false := by simpa using fun h => hne h.symm
        rw [List.find?_cons, hne']
        exact ih

theorem find?_place_of_ne {name other : String} (h : other ≠ name) (value : α)
    (entries : List (String × α)) :
    (place name value entries).find? (fun e => e.1 == other) =
      entries.find? (fun e => e.1 == other) := by
  have hn : (name == other) = false := by simpa using fun he => h he.symm
  induction entries with
  | nil => simp [place, hn]
  | cons e rest ih =>
    unfold place
    split
    · rename_i he
      rw [List.find?_cons, List.find?_cons]
      simp [hn, ← he]
    · split
      · rw [List.find?_cons]
        simp [hn]
      · rw [List.find?_cons, List.find?_cons, ih]

/-- What was put in is found. -/
@[simp]
theorem get?_insert_self (m : NameMap α) (name : String) (value : α) :
    (m.insert name value).get? name = some value := by
  simp [get?, insert, find?_place_self]

/-- What stands under another name stays. -/
theorem get?_insert_of_ne (m : NameMap α) {name other : String} (h : other ≠ name) (value : α) :
    (m.insert name value).get? other = m.get? other := by
  simp [get?, insert, find?_place_of_ne h]

/-- The same names stand for what `f` makes of them. -/
theorem get?_mapWithName (f : String → α → β) (m : NameMap α) (name : String) :
    (m.mapWithName f).get? name = (m.get? name).map (f name) := by
  unfold get? mapWithName
  rw [List.find?_map, show ((fun e : String × β => e.1 == name) ∘ fun e : String × α =>
    (e.1, f e.1 e.2)) = fun e => e.1 == name from rfl]
  cases h : m.entries.find? fun e => e.1 == name with
  | none => rfl
  | some e =>
    have he : e.1 = name := by simpa using List.find?_some h
    simp [he]

/-- A name is in use exactly if something is found under it. -/
theorem contains_eq_isSome (m : NameMap α) (name : String) :
    m.contains name = (m.get? name).isSome := by
  unfold contains get?
  rw [Option.isSome_map]
  induction m.entries with
  | nil => rfl
  | cons e rest ih =>
    rw [List.any_cons, List.find?_cons, ih]
    cases e.1 == name <;> simp

theorem mem_names_iff (m : NameMap α) (name : String) :
    name ∈ m.names ↔ (m.get? name).isSome := by
  rw [← contains_eq_isSome]
  simp [names, contains]

end NameMap

end ChatShell
