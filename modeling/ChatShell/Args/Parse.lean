-- Matching given arguments with a specification, one given text at a time. An
-- occurrence that still waits for its value, or has just got it, is kept aside
-- until the next known option, flag or plain argument, or the end; only then is
-- it looked at. So a fault of such an occurrence is found late, and a text that
-- no argument fits is reported ahead of it.
import ChatShell.Args.Fault
import ChatShell.Args.Similarity

namespace ChatShell.Args

/-- An argument that was given, with its values. -/
structure Occurrence where
  arg : Arg
  values : List String := []

/-- The arguments that were given, in order of their first use. -/
abbrev Matches := List Occurrence

/-- The outcome of matching. -/
inductive Outcome where
  | parsed (m : Matches)
  | failed (message : String)
  | help (text : String)
  | version (text : String)

/-- Why matching ends before the last text. -/
inductive Stop where
  | fault (f : Fault)
  | help
  | version

/-! ## What was given -/

namespace Matches

/-- What was given of the argument with this name. -/
def find (m : Matches) (id : String) : Option Occurrence := List.find? (fun o => o.arg.id == id) m

/-- The value of an option or plain argument. -/
def text? (m : Matches) (id : String) : Option String :=
  match m.find id with
  | some o => if o.arg.takesValue then o.values.head? else none
  | none => none

/-- All values of an option that may be given many times. -/
def texts (m : Matches) (id : String) : List String :=
  match m.find id with
  | some o => if o.arg.takesValue then o.values else []
  | none => []

/-- The flag was given. -/
def flag (m : Matches) (id : String) : Bool :=
  match m.find id with
  | some o => o.arg.action == .flag
  | none => false

/-- The arguments that were given. -/
def args (m : Matches) : List Arg := m.map (·.arg)

end Matches

/-! ## Matching -/

/-- Matching in the middle of the given texts. -/
structure Progress where
  /-- The occurrences looked at so far. -/
  kept : Matches := []
  /-- The occurrence kept aside. -/
  aside : Option Occurrence := none
  /-- The number of plain arguments so far. -/
  places : Nat := 0
  /-- `--` was given: all that follows is plain. -/
  plainOnly : Bool := false

namespace Progress

/-- Puts the values of a repeatable option after those it already has. -/
def extend (m : Matches) (o : Occurrence) : Matches :=
  if (m.find o.arg.id).isSome then
    m.map fun p => if p.arg.id == o.arg.id then { p with values := p.values ++ o.values } else p
  else m ++ [o]

/-- The fault of the first value that does not suit. -/
def valueFault? (o : Occurrence) : Option Fault :=
  o.values.findSome? fun v =>
    (o.arg.check v).map fun
      | .empty => .valueRequired o.arg
      | .because reason => .invalid o.arg v reason

/-- Looks at an occurrence and keeps it. One without its value is not kept, one that repeats
another takes the other away, and one with an unsuitable value stays. -/
def keep (m : Matches) (o : Occurrence) : Matches × Option Fault :=
  if o.arg.takesValue && o.values.isEmpty then (m, some (.valueRequired o.arg))
  else if o.arg.action == .values then (extend m o, valueFault? o)
  else if (m.find o.arg.id).isSome then
    (m.filter fun p => p.arg.id != o.arg.id, some (.repeated o.arg))
  else (m ++ [o], valueFault? o)

/-- Looks at the occurrence kept aside. -/
def settle (p : Progress) : Progress × Option Fault :=
  match p.aside with
  | none => (p, none)
  | some o =>
    let result := keep p.kept o
    ({ p with kept := result.1, aside := none }, result.2)

/-- Looks at the occurrence kept aside, and stops if it is at fault. -/
def settled (p : Progress) : Except Stop Progress :=
  match p.settle with
  | (q, none) => .ok q
  | (_, some f) => .error (.fault f)

/-- Takes an occurrence that is complete. -/
def react (p : Progress) (o : Occurrence) : Except Stop Progress := do
  let p ← p.settled
  match o.arg.action with
  | .help => .error .help
  | .version => .error .version
  | _ =>
    match keep p.kept o with
    | (kept, none) => .ok { p with kept }
    | (_, some f) => .error (.fault f)

/-- Takes an option: with the value attached to it, or to wait for the next text. -/
def option (p : Progress) (a : Arg) (attached : Option String) : Except Stop Progress :=
  match attached with
  | some v => p.react ⟨a, [v]⟩
  | none => do
    let p ← p.settled
    .ok { p with aside := some ⟨a, []⟩ }

/-- The arguments in use. -/
def used (p : Progress) : List Arg := p.kept.args

/-- What a usage line shows for a flag that came with a value: the flag after the arguments in
use, which are shown as a group if they form one. -/
def usedWith (s : Spec) (p : Progress) (a : Arg) : InUse :=
  { args := p.used ++ [a], group := s.grouped && !p.used.isEmpty }

/-- The hint for a text with a dash that no argument fits. -/
def escapeTip (s : Spec) : Option Tip := if s.positionals.isEmpty then none else some .escape

/-- The fault of an unknown long name. -/
def unknownLong (s : Spec) (p : Progress) (name : String) : Fault :=
  let p := p.settle.1
  match mostSimilar? name (s.all.filterMap (·.long)) with
  | none => .unexpected ("--" ++ name) (escapeTip s) { args := p.used }
  | some similar =>
    let meant := (s.long? similar).toList.filter fun a => !p.used.any fun u => u.id == a.id
    .unexpected ("--" ++ name) (some (.similar similar)) { args := p.used ++ meant }

/-- Takes a text that begins with two dashes: a name, and a value after the first `=`. -/
def long (s : Spec) (p : Progress) (body : List Char) : Except Stop Progress :=
  let name := String.ofList (body.takeWhile (· ≠ '='))
  let value := match body.dropWhile (· ≠ '=') with
    | [] => none
    | _ :: v => some (String.ofList v)
  match s.long? name with
  | none => .error (.fault (unknownLong s p name))
  | some a =>
    if a.takesValue then p.option a value
    else
      match value with
      | none => p.react ⟨a, []⟩
      | some v => .error (.fault (.unneeded a v (p.usedWith s a)))

/-- Takes a text that begins with one dash: flags in a row, up to an option, which takes the rest
as its value. -/
def short (s : Spec) (p : Progress) : List Char → Except Stop Progress
  | [] => .ok p
  | c :: rest =>
    match s.short? c with
    | none => .error (.fault (.unexpected ("-" ++ String.singleton c) (escapeTip s) {}))
    | some a =>
      if a.takesValue then
        match rest with
        | [] => p.option a none
        | '=' :: v => p.option a (some (String.ofList v))
        | v => p.option a (some (String.ofList v))
      else do
        let p ← p.react ⟨a, []⟩
        short s p rest

/-- The option that waits for its value. -/
def waiting? (p : Progress) : Option Arg :=
  match p.aside with
  | some o => if o.values.isEmpty then some o.arg else none
  | none => none

/-- Takes a text as the next plain argument. -/
def place (s : Spec) (p : Progress) (text : String) : Except Stop Progress :=
  match s.positionals[p.places]? with
  | none => .error (.fault (.unexpected text none {}))
  | some a => do
    let p ← p.settled
    .ok { p with aside := some ⟨a, [text]⟩, places := p.places + 1 }

/-- Takes one text. -/
def step (s : Spec) (p : Progress) (text : String) : Except Stop Progress :=
  if p.plainOnly then p.place s text
  else
    match text.toList with
    | ['-', '-'] => .ok { p with plainOnly := true }
    | '-' :: '-' :: body => p.long s body
    | '-' :: c :: cs => p.short s (c :: cs)
    | _ =>
      match p.waiting? with
      | some a => .ok { p with aside := some ⟨a, [text]⟩ }
      | none => p.place s text

/-- The first argument that another one excludes, with that other one. -/
def clash? (s : Spec) (m : Matches) : Option (Arg × Arg) :=
  m.args.findSome? fun a => (m.args.find? (s.excludes a)).map fun b => (a, b)

/-- The required arguments that were not given, options first. With a plain argument those before
it that were not given are missing too. -/
def absent (s : Spec) (m : Matches) : List Arg :=
  let isAbsent (a : Arg) : Bool := (m.find a.id).isNone
  let isNeeded (a : Arg) : Bool := a.required && isAbsent a
  let places := (s.positionals.reverse.dropWhile fun a => !isNeeded a).reverse
  s.switches.filter isNeeded ++ places.filter isAbsent

/-- What was given, once the texts have ended. -/
def finish (s : Spec) (p : Progress) : Except Stop Matches := do
  let p ← p.settled
  match clash? s p.kept with
  | some (a, b) =>
    .error (.fault (.excluded a b { args := p.kept.args.filter fun u => u.id != b.id }))
  | none =>
    match absent s p.kept with
    | [] => .ok p.kept
    | args => .error (.fault (.missing args { args := p.kept.args ++ args }))

end Progress

/-- Matches the given texts with the specification. -/
def Spec.parse (s : Spec) (given : List String) : Outcome :=
  let result := do
    let p ← given.foldlM (Progress.step s) {}
    p.finish s
  match result with
  | .ok m => .parsed m
  | .error .help => .help s.help
  | .error .version => .version (s.name ++ " " ++ s.version.getD "" ++ "\n")
  | .error (.fault f) => .failed (f.message s)

end ChatShell.Args
