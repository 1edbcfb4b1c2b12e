-- A text in clusters: what a reader takes for one character, with its marks. The
-- rules look back over the cluster at hand only, since all that can hold on to a
-- character lies within it.
import ChatShell.Text.Edge

namespace ChatShell.Text

/-- The two classes hold on to each other side by side. -/
def Edge.holds : Edge → Edge → Bool
  | .alone, _ => false
  | _, .alone => false
  | _, .extend => true
  | _, .joiner => true
  | _, .spacing => true
  | .forward, _ => true
  | .lead, .lead => true
  | .lead, .vowel => true
  | .lead, .openSyllable => true
  | .lead, .closedSyllable => true
  | .openSyllable, .vowel => true
  | .openSyllable, .trail => true
  | .vowel, .vowel => true
  | .vowel, .trail => true
  | .closedSyllable, .trail => true
  | .trail, .trail => true
  | _, _ => false

/-- Past the characters to skip comes one to stop at. -/
def reaches (skip stop : Char → Bool) (cs : List Char) : Bool :=
  (cs.dropWhile skip).head?.any stop

/-- A picture, its marks and a joiner come last in the cluster. The last character is the first
of the list. -/
def awaitsPicture : List Char → Bool
  | [] => false
  | c :: cs => Edge.of c == .joiner && reaches (fun d => Edge.of d == .extend) isPicture cs

/-- A consonant and a linking mark come last in the cluster, perhaps with other marks among
them. -/
def awaitsConsonant (cs : List Char) : Bool :=
  let isMark (c : Char) : Bool := isLinking c || isBetweenLinked c
  (cs.takeWhile isMark).any isLinking && reaches isMark isConsonant cs

/-- Half a flag comes last in the cluster. -/
def awaitsFlag (cs : List Char) : Bool :=
  (cs.takeWhile fun c => Edge.of c == .flag).length % 2 == 1

/-- The character belongs to the cluster, whose last character is the first of the list. -/
def joins (cluster : List Char) (c : Char) : Bool :=
  match cluster with
  | [] => false
  | last :: _ =>
    (Edge.of last).holds (.of c) ||
    (isPicture c && awaitsPicture cluster) ||
    (isConsonant c && awaitsConsonant cluster) ||
    (Edge.of c == .flag && awaitsFlag cluster)

/-- The clusters of the characters, where `cluster` is the one at hand, its last character
first. -/
def clustersFrom (cluster : List Char) : List Char → List (List Char)
  | [] => if cluster.isEmpty then [] else [cluster.reverse]
  | c :: cs =>
    if cluster.isEmpty || joins cluster c then clustersFrom (c :: cluster) cs
    else cluster.reverse :: clustersFrom [c] cs

/-- The clusters of a text. -/
def clusters (s : String) : List (List Char) := clustersFrom [] s.toList

end ChatShell.Text
