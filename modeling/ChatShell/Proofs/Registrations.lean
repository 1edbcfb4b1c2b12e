-- What a registry knows after any row of registrations. Under each name stands the
-- command of the last registration of that name, with nothing left of the ones before
-- it. The names are listed once each, in the order of their bytes.
import ChatShell.Command.Registry
import ChatShell.Proofs.Decoding
import Mathlib.Data.List.Induction
import Mathlib.Data.String.Basic

namespace ChatShell

/-! ## The order of the bytes -/

namespace Text

theorem cons_ofNat_lt_cons_ofNat {m n : Nat} (hm : m < 256) (hn : n < 256) (x y : Bytes) :
    UInt8.ofNat m :: x < UInt8.ofNat n :: y ↔ m < n ∨ m = n ∧ x < y := by
  rw [List.cons_lt_cons_iff, UInt8.lt_iff_toNat_lt, ← UInt8.toNat_inj, UInt8.toNat_ofNat',
    UInt8.toNat_ofNat', Nat.mod_eq_of_lt hm, Nat.mod_eq_of_lt hn]

theorem cons_trailByte_lt_cons_trailByte (m n : Nat) (x y : Bytes) :
    trailByte m :: x < trailByte n :: y ↔ m % 64 < n % 64 ∨ m % 64 = n % 64 ∧ x < y := by
  unfold trailByte
  rw [cons_ofNat_lt_cons_ofNat (by omega) (by omega), Nat.add_lt_add_iff_left,
    Nat.add_left_cancel_iff]

/-- A smaller character has smaller bytes, whatever follows them. -/
theorem encodeChar_append_lt {c d : Char} (h : c.toNat < d.toNat) (x y : Bytes) :
    encodeChar c ++ x < encodeChar d ++ y := by
  have hmax : d.toNat < 0x110000 := by
    rcases d.valid with h | h
    · exact Nat.lt_trans h (by decide)
    · exact h.2
  unfold encodeChar
  dsimp only
  generalize c.toNat = m at *
  generalize d.toNat = n at *
  -- with more bytes the first one is larger, and with as many the bits stand in order
  split_ifs <;> simp only [List.cons_append, List.nil_append]
  all_goals
    rw [cons_ofNat_lt_cons_ofNat (by omega) (by omega)]
    try simp only [cons_trailByte_lt_cons_trailByte]
    omega

/-- Texts that are in the order of their characters are in the order of their bytes. -/
theorem encode_lt_encode {a b : String} (h : a < b) : encode a < encode b := by
  rw [String.lt_iff_toList_lt] at h
  unfold encode
  generalize a.toList = cs at h
  generalize b.toList = ds at h
  induction h with
  | nil =>
    rename_i d ds
    obtain ⟨x, xs, hd⟩ := List.exists_cons_of_ne_nil (encodeChar_ne_nil d)
    simp [hd]
  | rel hcd => exact encodeChar_append_lt hcd _ _
  | cons _ ih => exact List.append_left_lt ih

end Text

/-! ## Rows of registrations -/

/-- The commands that are always there, as they are registered. -/
def alwaysThere : List Registration :=
  [{ handler := echo }, { handler := cb, spec := some codeBlockSpec }]

/-- The registries that registering can begin with. -/
inductive Opening where
  | empty
  | builtin

/-- What has been registered there. -/
def Opening.registrations : Opening → List Registration
  | .empty => []
  | .builtin => alwaysThere

def Opening.registry : Opening → Registry
  | .empty => {}
  | .builtin => .builtin

/-- The last of the registrations under a name: the one it asks for, or else its handler's own. -/
def lastUnder (name : String) (rs : List Registration) : Option Registration :=
  (rs.filter fun r => r.under.getD r.handler.name = name).getLast?

/-- The command is the one that the registration makes under the name. A specification goes by the
name, whatever it went by before, and help is given under that name. -/
structure Registration.Makes (r : Registration) (name : String) (c : Command) : Prop where
  name_eq : c.name = name
  handler_eq : c.handler = r.handler
  spec_iff : c.spec.isSome ↔ r.spec.isSome
  spec_named : ∀ s, r.spec = some s → c.spec = some { s with name := name }
  help_of_spec : ∀ s, r.spec = some s → c.help = some (Args.Spec.help { s with name := name })
  help_of_none : r.spec = none → c.help = r.handler.description
  runs_plain : r.spec = none → ∀ raw input out,
    c.dialogue raw input out = r.handler.run { raw } input out
  runs_matched : ∀ s raw m, r.spec = some s →
    Args.Spec.parse { s with name := name } raw = .parsed m → ∀ input out,
    c.dialogue raw input out = r.handler.run { raw, matched := some m } input out

theorem Registration.makes_command (r : Registration) : r.Makes r.name r.command := by
  refine ⟨rfl, rfl, ?_, ?_, ?_, ?_, ?_, ?_⟩
  · simp [command]
  · intro s hs
    simp [command, hs, Args.Spec.named]
  · intro s hs
    simp [command, hs, Args.Spec.named, Command.help]
  · intro hs
    simp [command, hs, Command.help]
  · intro hs raw input out
    simp [command, hs, Command.dialogue]
  · intro s raw m hs hm input out
    simp [command, hs, Args.Spec.named, Command.dialogue, hm]

theorem lastUnder_snoc (name : String) (rs : List Registration) (r : Registration) :
    lastUnder name (rs ++ [r]) = if name = r.name then some r else lastUnder name rs := by
  unfold lastUnder Registration.name
  rw [List.filter_append]
  by_cases hn : name = r.under.getD r.handler.name
  · simp [hn]
  · simp [hn, Ne.symm hn]

theorem name_of_lastUnder {name : String} {rs : List Registration} {r : Registration}
    (h : lastUnder name rs = some r) : r.name = name := by
  have hmem := List.mem_of_getLast? h
  simpa [Registration.name] using (List.mem_filter.mp hmem).2

namespace Registry

theorem registerAll_append (g : Registry) (rs more : List Registration) :
    g.registerAll (rs ++ more) = (g.registerAll rs).registerAll more := List.foldl_append

/-- An opening is a row of registrations too. -/
theorem registerAll_opening (o : Opening) (rs : List Registration) :
    o.registry.registerAll rs = registerAll {} (o.registrations ++ rs) := by
  rw [registerAll_append]
  cases o <;> rfl

theorem registerAll_snoc (g : Registry) (rs : List Registration) (r : Registration) :
    g.registerAll (rs ++ [r]) = (g.registerAll rs).register r := by
  rw [registerAll_append]
  rfl

theorem get?_registerAll (rs : List Registration) (name : String) :
    (registerAll {} rs).get? name = (lastUnder name rs).map Registration.command := by
  induction rs using List.reverseRecOn with
  | nil => rfl
  | append_singleton rs r ih =>
    rw [registerAll_snoc, get?_register, ih, lastUnder_snoc]
    by_cases hn : name = r.name
    · rw [if_pos hn, if_pos hn, Option.map_some]
    · rw [if_neg hn, if_neg hn]

theorem contains_iff (g : Registry) (name : String) :
    g.contains name = true ↔ (g.get? name).isSome := by
  unfold contains get?
  rw [NameMap.contains_eq_isSome]

theorem mem_names_iff (g : Registry) (name : String) :
    name ∈ g.names ↔ (g.get? name).isSome := NameMap.mem_names_iff g.commands name

/-- After any row of registrations, the names stand in strict byte order, each of them and no other
has a command, and this is the one that the last registration of that name makes. One more
registration changes nothing under other names. -/
theorem the_last_registration_of_a_name_counts (o : Opening) (rs : List Registration) :
    let g := o.registry.registerAll rs
    g.names.Pairwise (fun a b => Text.encode a < Text.encode b) ∧ g.size = g.names.length ∧
    (∀ name, (g.contains name = true ↔ (g.get? name).isSome) ∧
      (name ∈ g.names ↔ (g.get? name).isSome)) ∧
    (∀ name, lastUnder name (o.registrations ++ rs) = none → g.get? name = none) ∧
    (∀ name r, lastUnder name (o.registrations ++ rs) = some r →
      ∃ c, g.get? name = some c ∧ r.Makes name c) ∧
    ∀ r name, name ≠ r.under.getD r.handler.name →
      (g.register r).get? name = g.get? name ∧ (g.register r).contains name = g.contains name ∧
        (name ∈ (g.register r).names ↔ name ∈ g.names) := by
  intro g
  have hg : g = registerAll {} (o.registrations ++ rs) := registerAll_opening o rs
  refine ⟨?_, ?_, fun name => ⟨contains_iff g name, mem_names_iff g name⟩, ?_, ?_, ?_⟩
  · exact g.commands.ordered.imp Text.encode_lt_encode
  · simp [size, names, NameMap.size, NameMap.names]
  · intro name hlast
    rw [hg, get?_registerAll, hlast, Option.map_none]
  · intro name r hlast
    refine ⟨r.command, ?_, ?_⟩
    · rw [hg, get?_registerAll, hlast, Option.map_some]
    · rw [← name_of_lastUnder hlast]
      exact r.makes_command
  · intro r name hn
    have hget : (g.register r).get? name = g.get? name := (get?_register g r name).trans (if_neg hn)
    refine ⟨hget, ?_, ?_⟩
    · rw [Bool.eq_iff_iff, contains_iff, contains_iff, hget]
    · rw [mem_names_iff, mem_names_iff, hget]

/-- Under `é` a command without arguments of its own takes the place of one that has them, and under
`echo` it is the other way round. `zz` stands before `é`, and another `zz` leaves `é` alone. -/
theorem a_plain_command_takes_the_place_of_one_with_arguments :
    let plain : Registration := { under := some "é", handler := echo }
    let matched : Registration :=
      { under := some "echo", spec := some { codeBlockSpec with name := "x" }, handler := cb }
    let rs : List Registration :=
      [{ under := some "é", spec := some codeBlockSpec, handler := cb },
        { under := some "zz", handler := echo }, plain, matched]
    let g := Registry.builtin.registerAll rs
    lastUnder "é" (alwaysThere ++ rs) = some plain ∧
      (∃ c, g.get? "é" = some c ∧ c.spec.isSome = false ∧
        c.help = some "Print arguments to standard output") ∧
      lastUnder "echo" (alwaysThere ++ rs) = some matched ∧
      (∃ c, g.get? "echo" = some c ∧ c.name = "echo" ∧
        c.help = some (Args.Spec.help { codeBlockSpec with name := "echo" })) ∧
      g.names = ["cb", "echo", "zz", "é"] ∧
      g.names.Pairwise (fun a b => Text.encode a < Text.encode b) ∧
      "é" ≠ "zz" ∧
      (g.register { under := some "zz", handler := cb }).get? "é" = g.get? "é" := by
  intro plain matched rs g
  have hplain : lastUnder "é" (alwaysThere ++ rs) = some plain := rfl
  have hmatched : lastUnder "echo" (alwaysThere ++ rs) = some matched := rfl
  obtain ⟨horder, _, _, _, hlast, hother⟩ := the_last_registration_of_a_name_counts .builtin rs
  obtain ⟨c, hc, hmakes⟩ := hlast "é" plain hplain
  obtain ⟨d, hd, hdmakes⟩ := hlast "echo" matched hmatched
  have hne : "é" ≠ "zz" := by decide
  refine ⟨hplain, ⟨c, hc, ?_, hmakes.help_of_none rfl⟩, hmatched,
    ⟨d, hd, hdmakes.name_eq, hdmakes.help_of_spec { codeBlockSpec with name := "x" } rfl⟩, ?_,
    horder, hne,
    (hother { under := some "zz", handler := cb } "é" hne).1⟩
  · rw [Bool.eq_false_iff, Ne, hmakes.spec_iff]
    decide
  · decide +kernel

end Registry

end ChatShell
