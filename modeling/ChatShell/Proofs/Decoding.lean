-- The laws of reading bytes. The UTF-8 bytes of a text are read back as that text,
-- one character at a time, and only where there are no bytes there is no text. Where
-- no character stands, one U+FFFD is read for the longest stretch that a character
-- can begin with.
import ChatShell.Text.Utf8
import Mathlib.Data.List.Basic
import Mathlib.Tactic.SplitIfs

namespace ChatShell.Text

/-! ## The bytes of a text -/

theorem encodeChar_eq (c : Char) : encodeChar c = String.utf8EncodeChar c := by
  have hmax : c.toNat < 0x110000 := by
    rcases c.valid with h | h
    · exact Nat.lt_trans h (by decide)
    · exact h.2
  -- the bits that are cut off there are zero
  have htwo : c.toNat < 0x800 → c.toNat / 64 % 32 = c.toNat / 64 := by omega
  have hthree : c.toNat < 0x10000 → c.toNat / 4096 % 16 = c.toNat / 4096 := by omega
  have hfour : c.toNat / 262144 % 8 = c.toNat / 262144 := by omega
  unfold encodeChar String.utf8EncodeChar trailByte
  simp only [Char.toNat_val, ← Nat.lt_succ_iff, Nat.succ_eq_add_one, Nat.reduceAdd]
  split_ifs with h₁ h₂ h₃
  · rfl
  · simp [htwo h₂, Nat.add_comm]
  · simp [hthree h₃, Nat.add_comm]
  · simp [hfour, Nat.add_comm]

/-- A text is written as UTF-8. -/
theorem encode_eq_toUTF8 (s : String) : encode s = s.toUTF8.data.toList := by
  have hchars : encodeChar = String.utf8EncodeChar := funext encodeChar_eq
  unfold encode
  rw [hchars, String.toUTF8, ← String.utf8Encode_toList, List.utf8Encode,
    List.toList_data_toByteArray]

/-! ## One character -/

namespace Decoder

theorem step_lead (text : String) {b : Nat} (hb : b < 256) :
    Decoder.step ⟨text, none⟩ (UInt8.ofNat b) = Decoder.begin text b := by
  have hbyte : (UInt8.ofNat b).toNat = b := by
    rw [UInt8.toNat_ofNat']
    exact Nat.mod_eq_of_lt hb
  unfold step
  dsimp only
  rw [hbyte]

theorem toNat_trailByte (n : Nat) : (trailByte n).toNat = 0x80 + n % 64 := by
  unfold trailByte
  rw [UInt8.toNat_ofNat']
  omega

theorem trailByte_range (n : Nat) : 0x80 ≤ 0x80 + n % 64 ∧ 0x80 + n % 64 ≤ 0xBF := by omega

/-- A byte in its range adds six bits to the character that has begun. -/
theorem step_trail (text : String) (bits missing : Nat) {low high n : Nat}
    (hlow : low ≤ 0x80 + n % 64) (hhigh : 0x80 + n % 64 ≤ high) :
    Decoder.step ⟨text, some ⟨bits, missing, low, high⟩⟩ (trailByte n) =
      if missing ≤ 1 then ⟨text.push (Char.ofNat (bits * 64 + n % 64)), none⟩
      else ⟨text, some ⟨bits * 64 + n % 64, missing - 1, 0x80, 0xBF⟩⟩ := by
  unfold step
  dsimp only
  rw [toNat_trailByte, if_pos ⟨hlow, hhigh⟩, Nat.add_sub_cancel_left]

theorem begin_two (text : String) {n : Nat} (hlow : 0x80 ≤ n) (hhigh : n < 0x800) :
    Decoder.begin text (0xC0 + n / 64) = ⟨text, some ⟨n / 64, 1, 0x80, 0xBF⟩⟩ := by
  unfold Decoder.begin
  rw [if_neg (by omega), if_neg (by omega), if_pos (by omega), Nat.add_sub_cancel_left]

/-- The second of three bytes is in the range that the first one leaves: no long spelling and no
surrogate. -/
theorem begin_three (text : String) {n : Nat} (hlow : 0x800 ≤ n) (hhigh : n < 0x10000)
    (hscalar : n < 0xD800 ∨ 0xDFFF < n) :
    ∃ low high, Decoder.begin text (0xE0 + n / 4096) = ⟨text, some ⟨n / 4096, 2, low, high⟩⟩ ∧
      low ≤ 0x80 + n / 64 % 64 ∧ 0x80 + n / 64 % 64 ≤ high := by
  unfold Decoder.begin
  rw [if_neg (by omega), if_neg (by omega), if_neg (by omega)]
  by_cases h₁ : 0xE0 + n / 4096 = 0xE0
  · rw [if_pos h₁]
    exact ⟨0xA0, 0xBF, by rw [show n / 4096 = 0 by omega], by omega, by omega⟩
  rw [if_neg h₁]
  by_cases h₂ : 0xE0 + n / 4096 = 0xED
  · rw [if_pos h₂]
    exact ⟨0x80, 0x9F, by rw [show n / 4096 = 0xD by omega], by omega, by omega⟩
  rw [if_neg h₂, if_pos (by omega), Nat.add_sub_cancel_left]
  exact ⟨0x80, 0xBF, rfl, by omega, by omega⟩

/-- The second of four bytes is in the range that the first one leaves: no long spelling and no
value past the last one. -/
theorem begin_four (text : String) {n : Nat} (hlow : 0x10000 ≤ n) (hhigh : n < 0x110000) :
    ∃ low high, Decoder.begin text (0xF0 + n / 262144) =
        ⟨text, some ⟨n / 262144, 3, low, high⟩⟩ ∧
      low ≤ 0x80 + n / 4096 % 64 ∧ 0x80 + n / 4096 % 64 ≤ high := by
  unfold Decoder.begin
  rw [if_neg (by omega), if_neg (by omega), if_neg (by omega), if_neg (by omega),
    if_neg (by omega), if_neg (by omega)]
  by_cases h₁ : 0xF0 + n / 262144 = 0xF0
  · rw [if_pos h₁]
    exact ⟨0x90, 0xBF, by rw [show n / 262144 = 0 by omega], by omega, by omega⟩
  rw [if_neg h₁]
  by_cases h₂ : 0xF0 + n / 262144 < 0xF4
  · rw [if_pos h₂, Nat.add_sub_cancel_left]
    exact ⟨0x80, 0xBF, rfl, by omega, by omega⟩
  rw [if_neg h₂, if_pos (by omega)]
  exact ⟨0x80, 0x8F, by rw [show n / 262144 = 4 by omega], by omega, by omega⟩

/-- The bytes of a character are read as that character. -/
theorem foldl_encodeChar (text : String) (c : Char) :
    (encodeChar c).foldl Decoder.step ⟨text, none⟩ = ⟨text.push c, none⟩ := by
  have hvalid : c.toNat < 0xD800 ∨ (0xDFFF < c.toNat ∧ c.toNat < 0x110000) := c.valid
  have hread : Char.ofNat c.toNat = c := Char.ofNat_toNat c
  unfold encodeChar
  generalize c.toNat = n at hvalid hread ⊢
  dsimp only
  split_ifs with h₁ h₂ h₃
  · rw [List.foldl_cons, List.foldl_nil, step_lead text (by omega), Decoder.begin, if_pos h₁, hread]
  · have hbits : n / 64 * 64 + n % 64 = n := by omega
    rw [List.foldl_cons, List.foldl_cons, List.foldl_nil, step_lead text (by omega),
      begin_two text (by omega) h₂,
      step_trail _ _ _ (trailByte_range _).1 (trailByte_range _).2, if_pos (by decide), hbits, hread]
  · have hbits : (n / 4096 * 64 + n / 64 % 64) * 64 + n % 64 = n := by omega
    obtain ⟨low, high, hbegin, hlow, hhigh⟩ := begin_three text (n := n) (by omega) h₃ (by omega)
    rw [List.foldl_cons, List.foldl_cons, List.foldl_cons, List.foldl_nil,
      step_lead text (by omega), hbegin, step_trail _ _ _ hlow hhigh, if_neg (by decide),
      step_trail _ _ _ (trailByte_range _).1 (trailByte_range _).2, if_pos (by decide), hbits, hread]
  · have hbits :
        ((n / 262144 * 64 + n / 4096 % 64) * 64 + n / 64 % 64) * 64 + n % 64 = n := by omega
    obtain ⟨low, high, hbegin, hlow, hhigh⟩ := begin_four text (n := n) (by omega) (by omega)
    rw [List.foldl_cons, List.foldl_cons, List.foldl_cons, List.foldl_cons, List.foldl_nil,
      step_lead text (by omega), hbegin, step_trail _ _ _ hlow hhigh, if_neg (by decide),
      step_trail _ _ _ (trailByte_range _).1 (trailByte_range _).2, if_neg (by decide),
      step_trail _ _ _ (trailByte_range _).1 (trailByte_range _).2, if_pos (by decide), hbits, hread]

end Decoder

/-! ## What bytes are read as -/

/-- The bytes are the first of a character, or all of it. -/
def Begins (part : Bytes) : Prop := ∃ c, part <+: encodeChar c

/-- What bytes are read as. Where the bytes of a character stand, it is that character. Else it is
one U+FFFD for the longest stretch that a character can begin with, or for one byte if no character
begins with it. -/
inductive ReadAs : Bytes → List Char → Prop
  | nil : ReadAs [] []
  | char (c : Char) {rest : Bytes} {cs : List Char} (h : ReadAs rest cs) :
      ReadAs (encodeChar c ++ rest) (c :: cs)
  | broken {part rest : Bytes} {cs : List Char} (hno : ∀ c, ¬encodeChar c <+: part ++ rest)
      (hne : part ≠ []) (hpart : Begins part ∨ part.length = 1)
      (hlongest : ∀ b ∈ rest.head?, ¬Begins (part ++ [b])) (h : ReadAs rest cs) :
      ReadAs (part ++ rest) (replacement :: cs)

theorem Begins.mono {part whole : Bytes} (h : Begins whole) (hpart : part <+: whole) :
    Begins part := by
  obtain ⟨c, hc⟩ := h
  exact ⟨c, hpart.trans hc⟩

theorem exists_char {n : Nat} (h : n < 0xD800 ∨ (0xDFFF < n ∧ n < 0x110000)) :
    ∃ c : Char, c.toNat = n :=
  ⟨Char.ofNatAux n h, rfl⟩

def IsTrail (b : UInt8) : Prop := 0x80 ≤ b.toNat ∧ b.toNat ≤ 0xBF

theorem IsTrail.eq {b : UInt8} (h : IsTrail b) {n : Nat} (hn : n % 64 = b.toNat - 0x80) :
    trailByte n = b := by
  obtain ⟨hlow, hhigh⟩ := h
  rw [← UInt8.toNat_inj, trailByte, UInt8.toNat_ofNat']
  omega

/-- The bytes so far go with the character that has begun: whatever comes as it is expected makes
them a whole character. -/
structure Begun.Completes (part : Bytes) (g : Begun) : Prop where
  missing : 1 ≤ g.missing
  range : ∃ b : UInt8, g.low ≤ b.toNat ∧ b.toNat ≤ g.high
  whole : ∀ (b : UInt8) (rest : Bytes), g.low ≤ b.toNat → b.toNat ≤ g.high →
    rest.length + 1 = g.missing → (∀ x ∈ rest, IsTrail x) → ∃ c, encodeChar c = part ++ b :: rest

namespace Begun.Completes

variable {part : Bytes} {g : Begun}

theorem begins (h : g.Completes part) {b : UInt8} (hlow : g.low ≤ b.toNat)
    (hhigh : b.toNat ≤ g.high) : Begins (part ++ [b]) := by
  have hlen : (List.replicate (g.missing - 1) (0x80 : UInt8)).length + 1 = g.missing := by
    rw [List.length_replicate]
    exact Nat.sub_add_cancel h.missing
  obtain ⟨c, hc⟩ := h.whole b _ hlow hhigh hlen fun x hx => by
    rw [List.eq_of_mem_replicate hx]
    exact ⟨by decide, by decide⟩
  refine ⟨c, ?_⟩
  rw [hc]
  simp

theorem trail (h : g.Completes part) {b : UInt8} (hlow : g.low ≤ b.toNat) (hhigh : b.toNat ≤ g.high)
    (hmissing : 1 < g.missing) (bits : Nat) :
    Begun.Completes (part ++ [b]) ⟨bits, g.missing - 1, 0x80, 0xBF⟩ := by
  refine ⟨?_, ⟨0x80, by simp, by simp⟩, ?_⟩
  · dsimp only
    omega
  · intro x rest hx hx' hlen hrest
    dsimp only at hx hx' hlen
    obtain ⟨c, hc⟩ := h.whole b (x :: rest) hlow hhigh (by simp; omega)
      (List.forall_mem_cons.mpr ⟨⟨hx, hx'⟩, hrest⟩)
    exact ⟨c, by simp [hc]⟩

/-! The three widths of a character that has more than one byte. -/

theorem two {lead bits : Nat} (hlow : 0xC2 ≤ lead) (hhigh : lead < 0xE0) :
    Begun.Completes [UInt8.ofNat lead] ⟨bits, 1, 0x80, 0xBF⟩ := by
  refine ⟨Nat.le_refl 1, ⟨0x80, by simp, by simp⟩, ?_⟩
  intro b rest hb hb' hlen _
  obtain rfl : rest = [] := List.eq_nil_of_length_eq_zero (by simpa using hlen)
  dsimp only at hb hb'
  obtain ⟨c, hc⟩ := exists_char (n := (lead - 0xC0) * 64 + (b.toNat - 0x80)) (by omega)
  refine ⟨c, ?_⟩
  rw [encodeChar, if_neg (by omega), if_pos (by omega),
    show 0xC0 + c.toNat / 64 = lead by omega, IsTrail.eq ⟨hb, hb'⟩ (by omega)]
  rfl

theorem three {lead bits low high : Nat} (hlow : 0xE0 ≤ lead) (hhigh : lead < 0xF0)
    (hrange : 0x80 ≤ low ∧ low ≤ high ∧ high ≤ 0xBF)
    (hvalue : ∀ b, low ≤ b → b ≤ high → 0x20 ≤ (lead - 0xE0) * 64 + (b - 0x80) ∧
      ((lead - 0xE0) * 64 + (b - 0x80) < 0x360 ∨ 0x37F < (lead - 0xE0) * 64 + (b - 0x80))) :
    Begun.Completes [UInt8.ofNat lead] ⟨bits, 2, low, high⟩ := by
  refine ⟨by simp, ⟨UInt8.ofNat low, ?_⟩, ?_⟩
  · rw [UInt8.toNat_ofNat']
    dsimp only
    omega
  · intro b rest hb hb' hlen hrest
    obtain ⟨x, rfl⟩ : ∃ x, rest = [x] := List.length_eq_one_iff.mp (by simpa using hlen)
    dsimp only at hb hb'
    have hx : IsTrail x := hrest x (by simp)
    obtain ⟨hx₁, hx₂⟩ := hx
    have hvalues := hvalue b.toNat hb hb'
    obtain ⟨c, hc⟩ := exists_char
      (n := ((lead - 0xE0) * 64 + (b.toNat - 0x80)) * 64 + (x.toNat - 0x80)) (by omega)
    have hsecond : trailByte (c.toNat / 64) = b := IsTrail.eq ⟨by omega, by omega⟩ (by omega)
    have hthird : trailByte c.toNat = x := IsTrail.eq ⟨hx₁, hx₂⟩ (by omega)
    refine ⟨c, ?_⟩
    rw [encodeChar, if_neg (by omega), if_neg (by omega), if_pos (by omega),
      show 0xE0 + c.toNat / 4096 = lead by omega, hsecond, hthird]
    rfl

theorem four {lead bits low high : Nat} (hlow : 0xF0 ≤ lead) (hhigh : lead ≤ 0xF4)
    (hrange : 0x80 ≤ low ∧ low ≤ high ∧ high ≤ 0xBF)
    (hvalue : ∀ b, low ≤ b → b ≤ high → 0x10 ≤ (lead - 0xF0) * 64 + (b - 0x80) ∧
      (lead - 0xF0) * 64 + (b - 0x80) < 0x110) :
    Begun.Completes [UInt8.ofNat lead] ⟨bits, 3, low, high⟩ := by
  refine ⟨by simp, ⟨UInt8.ofNat low, ?_⟩, ?_⟩
  · rw [UInt8.toNat_ofNat']
    dsimp only
    omega
  · intro b rest hb hb' hlen hrest
    obtain ⟨x, y, rfl⟩ : ∃ x y, rest = [x, y] := List.length_eq_two.mp (by simpa using hlen)
    dsimp only at hb hb'
    have hx : IsTrail x := hrest x (by simp)
    have hy : IsTrail y := hrest y (by simp)
    obtain ⟨hx₁, hx₂⟩ := hx
    obtain ⟨hy₁, hy₂⟩ := hy
    have hvalues := hvalue b.toNat hb hb'
    obtain ⟨c, hc⟩ := exists_char
      (n := (((lead - 0xF0) * 64 + (b.toNat - 0x80)) * 64 + (x.toNat - 0x80)) * 64 +
        (y.toNat - 0x80)) (by omega)
    have hsecond : trailByte (c.toNat / 4096) = b := IsTrail.eq ⟨by omega, by omega⟩ (by omega)
    have hthird : trailByte (c.toNat / 64) = x := IsTrail.eq ⟨hx₁, hx₂⟩ (by omega)
    have hfourth : trailByte c.toNat = y := IsTrail.eq ⟨hy₁, hy₂⟩ (by omega)
    refine ⟨c, ?_⟩
    rw [encodeChar, if_neg (by omega), if_neg (by omega), if_neg (by omega),
      show 0xF0 + c.toNat / 262144 = lead by omega, hsecond, hthird, hfourth]
    rfl

end Begun.Completes

/-! ## The reader -/

namespace Decoder

/-- A byte where a character begins is a character of its own, or begins a longer one and is kept,
or is read as U+FFFD. -/
theorem begin_cases {text : String} {lead : Nat} {d : Decoder} (h : Decoder.begin text lead = d) :
    lead < 0x80 ∨ d = ⟨text.push replacement, none⟩ ∨
      ∃ g, d = ⟨text, some g⟩ ∧ g.Completes [UInt8.ofNat lead] := by
  unfold Decoder.begin at h
  split at h
  · rename_i hone
    exact Or.inl hone
  right
  split at h
  · exact Or.inl h.symm
  split at h
  · exact Or.inr ⟨_, h.symm, .two (by omega) (by omega)⟩
  split at h
  · exact Or.inr ⟨_, h.symm, .three (by omega) (by omega) (by omega) (by omega)⟩
  split at h
  · exact Or.inr ⟨_, h.symm, .three (by omega) (by omega) (by omega) (by omega)⟩
  split at h
  · exact Or.inr ⟨_, h.symm, .three (by omega) (by omega) (by omega) (by omega)⟩
  split at h
  · exact Or.inr ⟨_, h.symm, .four (by omega) (by omega) (by omega) (by omega)⟩
  split at h
  · exact Or.inr ⟨_, h.symm, .four (by omega) (by omega) (by omega) (by omega)⟩
  split at h
  · exact Or.inr ⟨_, h.symm, .four (by omega) (by omega) (by omega) (by omega)⟩
  · exact Or.inl h.symm

/-- The reader has taken the bytes, and they have begun the character it holds. -/
structure Holds (text : String) (part : Bytes) (g : Begun) : Prop where
  taken : part.foldl Decoder.step ⟨text, none⟩ = ⟨text, some g⟩
  completes : g.Completes part

variable {text : String} {part : Bytes} {g : Begun}

theorem Holds.lead {b : Nat} (hlow : 0x80 ≤ b) (hhigh : b < 256)
    (h : Decoder.begin text b = ⟨text, some g⟩) : Holds text [UInt8.ofNat b] g := by
  refine ⟨by rw [List.foldl_cons, List.foldl_nil, step_lead text hhigh, h], ?_⟩
  rcases begin_cases h with hone | hbad | ⟨g', hg, hcompletes⟩
  · omega
  · simp at hbad
  · cases hg
    exact hcompletes

theorem Holds.trail {bits missing low high : Nat} (h : Holds text part ⟨bits, missing, low, high⟩)
    (n : Nat) (hlow : low ≤ 0x80 + n % 64) (hhigh : 0x80 + n % 64 ≤ high) (hmissing : 1 < missing) :
    Holds text (part ++ [trailByte n]) ⟨bits * 64 + n % 64, missing - 1, 0x80, 0xBF⟩ := by
  refine ⟨?_, h.completes.trail ?_ ?_ hmissing _⟩
  · rw [List.foldl_append, h.taken, List.foldl_cons, List.foldl_nil,
      step_trail text bits missing hlow hhigh, if_neg (Nat.not_le.mpr hmissing)]
  · rwa [toNat_trailByte]
  · rwa [toNat_trailByte]

/-- Bytes that are expected leave a character begun while one more is missing. -/
theorem Holds.trails (h : Holds text part g) (ns : List Nat)
    (hfirst : ∀ n ∈ ns.head?, g.low ≤ 0x80 + n % 64 ∧ 0x80 + n % 64 ≤ g.high)
    (hmissing : ns.length < g.missing) : ∃ g', Holds text (part ++ ns.map trailByte) g' := by
  induction ns generalizing part g with
  | nil =>
    rw [List.map_nil, List.append_nil]
    exact ⟨g, h⟩
  | cons n ns ih =>
    rw [List.length_cons] at hmissing
    obtain ⟨hlow, hhigh⟩ := hfirst n rfl
    have hnext := h.trail n hlow hhigh (by omega)
    rw [List.map_cons, List.append_cons]
    exact ih hnext (fun n _ => trailByte_range n) (by dsimp only; omega)

theorem Holds.proper_part {lead : UInt8} (h : Holds text [lead] g) (ns : List Nat)
    (hfirst : ∀ n ∈ ns.head?, g.low ≤ 0x80 + n % 64 ∧ 0x80 + n % 64 ≤ g.high)
    (hmissing : ns.length = g.missing) (hne : part ≠ [])
    (hpart : part <+: lead :: ns.map trailByte) (hnot : part ≠ lead :: ns.map trailByte) :
    ∃ g', Holds text part g' := by
  obtain rfl | ⟨ts, rfl, hts⟩ := List.prefix_cons_iff.mp hpart
  · exact absurd rfl hne
  obtain ⟨ms, hms, rfl⟩ := List.prefix_map_iff.mp hts
  have hlen : ms.length < ns.length := by
    refine Nat.lt_of_le_of_ne hms.length_le ?_
    intro heq
    exact hnot (by rw [hms.eq_of_length heq])
  refine h.trails ms ?_ (by omega)
  intro n hn
  obtain ⟨rest, rfl⟩ := hms
  exact hfirst n (List.mem_head?_append_of_mem_head? hn)

/-- Some of the bytes of a character and not all of them leave it begun. -/
theorem holds_of_part (text : String) {c : Char} (hne : part ≠ []) (hpart : part <+: encodeChar c)
    (hnot : part ≠ encodeChar c) : ∃ g, Holds text part g := by
  have hvalid : c.toNat < 0xD800 ∨ (0xDFFF < c.toNat ∧ c.toNat < 0x110000) := c.valid
  unfold encodeChar at hpart hnot
  generalize c.toNat = n at hvalid hpart hnot
  dsimp only at hpart hnot
  split_ifs at hpart hnot with h₁ h₂ h₃
  · obtain rfl | ⟨ts, rfl, hts⟩ := List.prefix_cons_iff.mp hpart
    · exact absurd rfl hne
    · exact absurd (congrArg _ (List.prefix_nil.mp hts)) hnot
  · have hlead := Holds.lead (by omega) (by omega) (begin_two text (n := n) (by omega) h₂)
    exact hlead.proper_part [n] (by simp; omega) rfl hne hpart hnot
  · obtain ⟨low, high, hbegin, hlow, hhigh⟩ := begin_three text (n := n) (by omega) h₃ (by omega)
    have hlead := Holds.lead (by omega) (by omega) hbegin
    exact hlead.proper_part [n / 64, n] (by simp [hlow, hhigh]) rfl hne hpart hnot
  · obtain ⟨low, high, hbegin, hlow, hhigh⟩ := begin_four text (n := n) (by omega) (by omega)
    have hlead := Holds.lead (by omega) (by omega) hbegin
    exact hlead.proper_part [n / 4096, n / 64, n] (by simp [hlow, hhigh]) rfl hne hpart hnot

/-- A byte that no character begins with is read as U+FFFD. -/
theorem begin_of_not_begins (text : String) {b : UInt8} (h : ¬Begins [b]) :
    Decoder.begin text b.toNat = ⟨text.push replacement, none⟩ := by
  rcases begin_cases (rfl : Decoder.begin text b.toNat = _) with hone | hbad | ⟨g, -, hcompletes⟩
  · obtain ⟨c, hc⟩ := exists_char (n := b.toNat) (by omega)
    have hchar : encodeChar c = [b] := by
      rw [encodeChar, hc, if_pos hone, UInt8.ofNat_toNat]
    exact absurd ⟨c, hchar ▸ List.prefix_rfl⟩ h
  · exact hbad
  · rw [UInt8.ofNat_toNat] at hcompletes
    obtain ⟨x, hlow, hhigh⟩ := hcompletes.range
    exact absurd ((hcompletes.begins hlow hhigh).mono (by simp)) h

/-- Where no character stands, the reader reads one U+FFFD for the longest stretch that a character
can begin with, and starts afresh. -/
theorem finish_broken (text : String) {rest : Bytes} (hno : ∀ c, ¬encodeChar c <+: part ++ rest)
    (hne : part ≠ []) (hpart : Begins part ∨ part.length = 1)
    (hlongest : ∀ b ∈ rest.head?, ¬Begins (part ++ [b])) :
    ((part ++ rest).foldl Decoder.step ⟨text, none⟩).finish =
      (rest.foldl Decoder.step ⟨text.push replacement, none⟩).finish := by
  rw [List.foldl_append]
  by_cases hbegins : Begins part
  · obtain ⟨c, hc⟩ := hbegins
    have hnot : part ≠ encodeChar c := by
      rintro rfl
      exact hno c (List.prefix_append _ _)
    obtain ⟨g, hg⟩ := holds_of_part text hne hc hnot
    rw [hg.taken]
    cases rest with
    | nil => rfl
    | cons b rest =>
      have hout : ¬(g.low ≤ b.toNat ∧ b.toNat ≤ g.high) := by
        rintro ⟨hlow, hhigh⟩
        exact hlongest b (by simp) (hg.completes.begins hlow hhigh)
      have hstep : Decoder.step ⟨text, some g⟩ b =
          Decoder.step ⟨text.push replacement, none⟩ b := by
        unfold step
        dsimp only
        rw [if_neg hout]
      rw [List.foldl_cons, List.foldl_cons, hstep]
  · obtain ⟨b, rfl⟩ := List.length_eq_one_iff.mp (hpart.resolve_left hbegins)
    rw [List.foldl_cons, List.foldl_nil, step]
    dsimp only
    rw [begin_of_not_begins text hbegins]

end Decoder

/-! ## The laws -/

theorem ReadAs.finish_eq {bytes : Bytes} {cs : List Char} (h : ReadAs bytes cs) (text : String) :
    (bytes.foldl Decoder.step ⟨text, none⟩).finish = text ++ String.ofList cs := by
  have hpush : ∀ (text : String) (c : Char) (cs : List Char),
      text.push c ++ String.ofList cs = text ++ String.ofList (c :: cs) := by
    intro text c cs
    simp [← String.toList_inj]
  induction h generalizing text with
  | nil => simp [Decoder.finish]
  | char c h ih => rw [List.foldl_append, Decoder.foldl_encodeChar, ih, hpush]
  | broken hno hne hpart hlongest h ih =>
    rw [Decoder.finish_broken text hno hne hpart hlongest, ih, hpush]

/-- Where no character stands, there is a longest stretch that one can begin with. -/
theorem exists_longest (part rest : Bytes) (hpart : Begins part ∨ part.length = 1)
    (hne : part ≠ []) :
    ∃ longest left, longest ++ left = part ++ rest ∧ longest ≠ [] ∧
      (Begins longest ∨ longest.length = 1) ∧ ∀ b ∈ left.head?, ¬Begins (longest ++ [b]) := by
  induction rest generalizing part with
  | nil => exact ⟨part, [], rfl, hne, hpart, by simp⟩
  | cons b rest ih =>
    by_cases hb : Begins (part ++ [b])
    · obtain ⟨longest, left, heq, hrest⟩ := ih (part ++ [b]) (Or.inl hb) (by simp)
      exact ⟨longest, left, by simpa using heq, hrest⟩
    · exact ⟨part, b :: rest, rfl, hne, hpart, by simpa using hb⟩

theorem encodeChar_ne_nil (c : Char) : encodeChar c ≠ [] := by
  unfold encodeChar
  dsimp only
  split_ifs <;> simp

theorem exists_readAs (bytes : Bytes) : ∃ cs, ReadAs bytes cs := by
  induction hn : bytes.length using Nat.strongRecOn generalizing bytes with
  | ind n ih =>
    subst hn
    by_cases hchar : ∃ c, encodeChar c <+: bytes
    · obtain ⟨c, rest, rfl⟩ := hchar
      have hlen := List.length_pos_iff.mpr (encodeChar_ne_nil c)
      obtain ⟨cs, hcs⟩ := ih rest.length (by simp; omega) rest rfl
      exact ⟨c :: cs, .char c hcs⟩
    · cases bytes with
      | nil => exact ⟨[], .nil⟩
      | cons b rest =>
        obtain ⟨longest, left, heq, hne, hpart, hlongest⟩ :=
          exists_longest [b] rest (Or.inr rfl) (by simp)
        rw [List.singleton_append] at heq
        have hlen := List.length_pos_iff.mpr hne
        obtain ⟨cs, hcs⟩ := ih left.length (by rw [← heq]; simp; omega) left rfl
        rw [← heq] at hchar ⊢
        exact ⟨replacement :: cs, .broken (not_exists.mp hchar) hne hpart hlongest hcs⟩

/-- Any bytes are read in exactly one way. -/
theorem readAs_iff (bytes : Bytes) (cs : List Char) :
    ReadAs bytes cs ↔ cs = (decode bytes).toList := by
  have hdecode : ∀ ds, ReadAs bytes ds → decode bytes = String.ofList ds := by
    intro ds hds
    have := hds.finish_eq ""
    rwa [String.empty_append] at this
  constructor
  · intro h
    rw [hdecode cs h, String.toList_ofList]
  · rintro rfl
    obtain ⟨ds, hds⟩ := exists_readAs bytes
    rwa [hdecode ds hds, String.toList_ofList]

/-- What was written is read back. -/
theorem decode_encode (s : String) : decode (encode s) = s := by
  have hchars : ∀ cs : List Char, ReadAs (cs.flatMap encodeChar) cs := by
    intro cs
    induction cs with
    | nil => exact .nil
    | cons c cs ih => exact .char c ih
  have hread := (readAs_iff _ _).mp (hchars s.toList)
  exact (String.toList_inj.mp hread).symm

/-- There is text wherever there are bytes. -/
theorem decode_eq_empty_iff (bytes : Bytes) : decode bytes = "" ↔ bytes = [] := by
  rw [← String.toList_eq_nil_iff, eq_comm, ← readAs_iff]
  constructor
  · intro h
    cases h
    rfl
  · rintro rfl
    exact .nil

end ChatShell.Text
