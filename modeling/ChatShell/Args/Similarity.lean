-- How alike two names are, for suggesting a name that was perhaps meant. The
-- measure is Jaro's: it counts characters that the names share at nearly the
-- same place, and takes off half of those that stand in another order.

namespace ChatShell.Args

/-- The first place in `low ≤ j < high` that holds `c` and is still free. -/
def freePlace? (c : Char) (low high : Nat) (places : List (Char × Bool)) : Option Nat :=
  (places.zipIdx.find? fun p => low ≤ p.2 && p.2 < high && p.1.1 == c && !p.1.2).map (·.2)

/-- The shared characters of two names: in the order of the first, and in that of the second.
Each character of the first takes the first free equal one of the second that is at most
`range` places away. -/
def shared (range : Nat) (a b : List Char) : List Char × List Char :=
  let start : List Char × List (Char × Bool) := ([], b.map fun c => (c, false))
  let found := a.zipIdx.foldl (fun s (c, i) =>
    match freePlace? c (i - range) (i + range + 1) s.2 with
    | none => s
    | some j => (s.1 ++ [c], s.2.set j (c, true))) start
  (found.1, (found.2.filter (·.2)).map (·.1))

/-- How alike two names are, from 0 to 1. -/
def similarity (s t : String) : Float :=
  let a := s.toList
  let b := t.toList
  if a.isEmpty && b.isEmpty then 1.0
  else
    let pair := shared (max a.length b.length / 2 - 1) a b
    let common := pair.1.length
    let moved := ((pair.1.zip pair.2).countP fun p => p.1 != p.2) / 2
    if common = 0 then 0.0
    else
      (common.toFloat / a.length.toFloat + common.toFloat / b.length.toFloat +
        (common - moved).toFloat / common.toFloat) / 3.0

/-- The candidate most like a name. It has to be more than 0.7 alike, and the later of two
equally good ones is taken. -/
def mostSimilar? (name : String) (candidates : List String) : Option String :=
  let best := candidates.foldl (fun (best : Option (Float × String)) candidate =>
    let score := similarity name candidate
    if score > 0.7 then
      match best with
      | none => some (score, candidate)
      | some held => if held.1 > score then best else some (score, candidate)
    else best) none
  best.map (·.2)

end ChatShell.Args
