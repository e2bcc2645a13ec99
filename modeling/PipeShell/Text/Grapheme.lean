import PipeShell.Text.Joining

/-!
# Clusters of characters

`Grapheme.clusters` cuts a text into what a reader takes for characters, which is what a backspace
takes back. `Grapheme.Context` holds what the end of a text says about the next character, and
`Context.takes` decides whether that character belongs to the last cluster; the rules are those of
extended grapheme clusters. Cutting loses nothing (`flatten_clusters`).
-/

namespace PipeShell.Text.Grapheme

/-! ## Contexts -/

/-- How far the end of a text is on the way from a consonant to the next one. -/
inductive Conjunct
  | none
  | consonant
  /-- A consonant and a link. -/
  | linked
deriving DecidableEq, Repr

/-- What the end of a text says about the next character. -/
structure Context where
  /-- The part of the last character. -/
  last : Joining
  /-- Whether the text ends with a pictograph and marks, a joiner behind it not counted. -/
  pictograph : Bool
  /-- Whether the text ends with the first letter of a flag. -/
  halfFlag : Bool
  conjunct : Conjunct
deriving Repr

namespace Context

/-- The context at the start of a text. -/
def start : Context := ⟨.control, false, false, .none⟩

/-- Whether a character belongs to the cluster that the text ends with. -/
def takes (x : Context) (c : Char) : Bool :=
  match x.last, Joining.ofChar c with
  | .carriageReturn, .lineFeed => true
  | .carriageReturn, _ | .lineFeed, _ | .control, _ => false
  | _, .carriageReturn | _, .lineFeed | _, .control => false
  | _, .extending | _, .joiner | _, .trailing => true
  | .leading, _ => true
  | .initialConsonant, .initialConsonant | .initialConsonant, .vowel
  | .initialConsonant, .openSyllable | .initialConsonant, .closedSyllable => true
  | .openSyllable, .vowel | .openSyllable, .finalConsonant => true
  | .vowel, .vowel | .vowel, .finalConsonant => true
  | .closedSyllable, .finalConsonant | .finalConsonant, .finalConsonant => true
  | .joiner, .pictograph => x.pictograph
  | .regional, .regional => x.halfFlag
  | _, .other => x.conjunct = .linked && Joining.isConjoining c
  | _, _ => false

/-- How far a text is from a consonant to the next once a character follows. -/
def conjunctAfter (x : Context) (c : Char) : Conjunct :=
  if Joining.isConjoining c then .consonant
  else match Joining.ofChar c with
    | .extending =>
      if c = '\u200C' then .none
      else if Joining.isLinker c && x.conjunct ≠ .none then .linked
      else x.conjunct
    | .joiner => x.conjunct
    | _ => .none

/-- The context once a character follows. -/
def push (x : Context) (c : Char) : Context where
  last := Joining.ofChar c
  pictograph :=
    match Joining.ofChar c with
    | .pictograph => true
    | .extending => x.pictograph && x.last ≠ .joiner
    | .joiner => x.pictograph && x.last ≠ .joiner
    | _ => false
  halfFlag := Joining.ofChar c = .regional && !x.halfFlag
  conjunct := x.conjunctAfter c

end Context

/-! ## Clusters -/

/-- The clusters from a context on; the characters before it that belong to the first cluster are
`current`, last one first. -/
def clustersFrom (x : Context) (current : List Char) : List Char → List (List Char)
  | [] => [current.reverse]
  | c :: rest =>
    if x.takes c then clustersFrom (x.push c) (c :: current) rest
    else current.reverse :: clustersFrom (x.push c) [c] rest

/-- The clusters of a text, in order. -/
def clusters : List Char → List (List Char)
  | [] => []
  | c :: rest => clustersFrom (Context.start.push c) [c] rest

theorem flatten_clustersFrom (x : Context) (current cs : List Char) :
    (clustersFrom x current cs).flatten = current.reverse ++ cs := by
  induction cs generalizing x current with
  | nil => simp [clustersFrom]
  | cons c rest ih => by_cases h : x.takes c <;> simp [clustersFrom, h, ih]

theorem flatten_clusters (cs : List Char) : (clusters cs).flatten = cs := by
  cases cs with
  | nil => rfl
  | cons c rest => simp [clusters, flatten_clustersFrom]

end PipeShell.Text.Grapheme
