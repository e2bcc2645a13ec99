import PipeShell.Userland.Tool.Translate

/-!
# Regular expressions

`Regex.read` reads a basic regular expression, and `Regex.search?` finds where one matches in a
text: as far left as possible, and there as far as possible. `Regex.ends` are all the places where a
match that starts at some place can end; a repetition is followed up as long as it finds new places,
so it ends on every text.
-/

namespace PipeShell

/-- A regular expression. -/
inductive Regex
  | empty
  /-- A byte that is one of the members, or is none of them. -/
  | oneOf (negated : Bool) (members : Bytes)
  | sequence (first second : Regex)
  | either (first second : Regex)
  /-- Several matches in a row, of which there may be a greatest number. -/
  | repeated (least : Nat) (most : Option Nat) (body : Regex)
  | group (number : Nat) (body : Regex)
  /-- The text that a group matched. -/
  | again (number : Nat)
  | lineStart
  | lineEnd
  /-- The border of a word, or a place that is none. -/
  | border (negated : Bool)
  | wordStart
  | wordEnd
deriving Repr

namespace Regex

/-! ## Matching -/

/-- A place in a text, and where the groups that were matched start and end. -/
structure Found where
  place : Nat
  groups : List (Nat × Nat × Nat)
deriving DecidableEq, Repr

/-- Whether a byte belongs to words. -/
def isWordByte (b : UInt8) : Bool :=
  b == 0x5F || Format.isDigit b || (0x41 ≤ b && b ≤ 0x5A) || (0x61 ≤ b && b ≤ 0x7A)

/-- Whether words are on both sides of a place: before it and after it. -/
def wordsAround (subject : Array UInt8) (place : Nat) : Bool × Bool :=
  (place != 0 && (subject[place - 1]?).any isWordByte, (subject[place]?).any isWordByte)

/-- The members of a list that are not in another one, each of them once. -/
def novel (known : List Found) (found : List Found) : List Found :=
  (found.foldl (fun fresh f => if known.contains f || fresh.contains f then fresh else f :: fresh)
    []).reverse

/-- The places that are reached by going on from places again and again, those that take fewer steps
first; `fuel` bounds the number of steps. -/
def closure (step : Found → List Found) : Nat → (known current : List Found) → List Found
  | 0, known, _ => known
  | fuel + 1, known, current =>
    let next := novel known (current.flatMap step)
    if next.isEmpty then known else closure step fuel (known ++ next) next

/-- The places that are reached by exactly so many steps. -/
def exactly (step : Found → List Found) : Nat → List Found → List Found
  | 0, current => current
  | n + 1, current => exactly step n (novel [] (current.flatMap step))

/-- The places where a match can end that starts at a place. -/
def ends (subject : Array UInt8) : Regex → Found → List Found
  | empty, f => [f]
  | oneOf negated members, f =>
    match subject[f.place]? with
    | some b => if members.contains b != negated then [{ f with place := f.place + 1 }] else []
    | none => []
  | sequence first second, f => novel [] ((ends subject first f).flatMap (ends subject second))
  | either first second, f => novel [] (ends subject first f ++ ends subject second f)
  | repeated least most body, f =>
    let step := ends subject body
    let start := exactly step least [f]
    let fuel := match most with
      | some most => most - least
      | none => subject.size + 1
    let found := closure (fun f => (step f).filter (f.place < ·.place)) fuel start start
    found.mergeSort fun a b => b.place ≤ a.place
  | group number body, f =>
    (ends subject body f).map fun g =>
      { g with groups := (number, f.place, g.place) :: g.groups.filter fun x => x.1 != number }
  | again number, f =>
    match f.groups.lookup number with
    | some (start, stop) =>
      let width := stop - start
      if (subject.extract start stop) == (subject.extract f.place (f.place + width)) then
        [{ f with place := f.place + width }]
      else []
    | none => []
  | lineStart, f => if f.place == 0 then [f] else []
  | lineEnd, f => if f.place == subject.size then [f] else []
  | border negated, f =>
    let (before, after) := wordsAround subject f.place
    if (before != after) != negated then [f] else []
  | wordStart, f =>
    let (before, after) := wordsAround subject f.place
    if !before && after then [f] else []
  | wordEnd, f =>
    let (before, after) := wordsAround subject f.place
    if before && !after then [f] else []

/-- The longest match that starts at a place. -/
def matchAt? (r : Regex) (subject : Array UInt8) (place : Nat) : Option Found :=
  (ends subject r ⟨place, []⟩).foldl (fun best f =>
    match best with
    | some b => if b.place < f.place then some f else best
    | none => some f) none

/-- The first match in a text, with the place where it starts. -/
def search? (r : Regex) (subject : Bytes) : Option (Nat × Found) :=
  let subject := subject.toArray
  (List.range (subject.size + 1)).findSome? fun place =>
    (r.matchAt? subject place).map (place, ·)

/-! ## Reading -/

/-- What is wrong with a regular expression. -/
inductive Fault
  | noSet
  | openBracket
  | openGroup
  | closedGroup
  | openCount
  | badCount
  | badClass
  | badSymbol
  | tooBig
  | badReference
  | trailingBackslash
deriving DecidableEq, Repr

/-- What a message says about a fault. -/
def Fault.message : Fault → String
  | noSet => "Invalid regular expression"
  | openBracket => "Unmatched [, [^, [:, [., or [="
  | openGroup => "Unmatched ( or \\("
  | closedGroup => "Unmatched ) or \\)"
  | openCount => "Unmatched \\\x7b"
  | badCount => "Invalid content of \\\x7b\\\x7d"
  | badClass => "Invalid character class name"
  | badSymbol => "Invalid collation character"
  | tooBig => "Regular expression too big"
  | badReference => "Invalid back reference"
  | trailingBackslash => "Trailing backslash"

/-- The members of a set between brackets and what follows it; the first member may be a bracket. A
range from a greater byte to a lesser one is empty. `fuel` bounds the number of bytes. -/
def members (first : Bool) : Nat → Bytes → Except Fault (Bytes × Bytes)
  | 0, _ | _, [] => .error .openBracket
  | fuel + 1, b :: rest => do
    if b == 0x5D && !first then return ([], rest)
    let named (mark : UInt8) : Option (Bytes × Bytes) := do
      if b != 0x5B || rest.head? != some mark then none
      let name := (rest.tail).takeWhile (· != mark)
      let after := rest.drop (name.length + 1)
      if after.take 2 == [mark, 0x5D] then some (name, after.drop 2) else none
    match named 0x3A with
    | some (name, after) =>
      match Tool.classMember? name with
      | none => .error .badClass
      | some isMember =>
        let (others, rest) ← members false fuel after
        return (Tool.allBytes.filter isMember ++ others, rest)
    | none =>
      let (low, after) ← match (named 0x2E).orElse fun _ => named 0x3D with
        | some ([c], after) => pure (c, after)
        | some _ => throw .badSymbol
        | none => pure (b, rest)
      match after with
      | 0x2D :: high :: more =>
        if high == 0x5D then
          let (others, rest) ← members false fuel after
          return (low :: others, rest)
        else
          let (others, rest) ← members false fuel more
          return (Tool.byteRange low high ++ others, rest)
      | after =>
        let (others, rest) ← members false fuel after
        return (low :: others, rest)

/-- The set that starts after a bracket, and what follows it. -/
def bracket (rest : Bytes) : Except Fault (Regex × Bytes) := do
  let negated := rest.head? == some 0x5E
  let rest := if negated then rest.tail else rest
  if rest.isEmpty then .error .noSet
  let (found, rest) ← members true (rest.length + 1) rest
  return (.oneOf negated found, rest)

/-- The greatest number of repetitions. -/
def greatestCount : Nat := 32767

/-- The counts between braces, and what follows them. -/
def counts (rest : Bytes) : Except Fault (Nat × Option Nat × Bytes) := do
  let digits := rest.takeWhile Format.isDigit
  let least := Format.natOf digits
  match rest.drop digits.length with
  | 0x5C :: 0x7D :: more =>
    if digits.isEmpty then .error .badCount else return (least, some least, more)
  | 0x2C :: more =>
    let last := more.takeWhile Format.isDigit
    let most := if last.isEmpty then none else some (Format.natOf last)
    match more.drop last.length with
    | 0x5C :: 0x7D :: rest =>
      if most.any (· < least) then .error .badCount else return (least, most, rest)
    | [] => .error .openCount
    | _ => .error .badCount
  | [] => .error .openCount
  | _ => .error .badCount

/-- The operators after an expression, and what follows them; `fuel` bounds their number. -/
def withOperators : Nat → Regex → Bytes → Except Fault (Regex × Bytes)
  | 0, r, rest => .ok (r, rest)
  | fuel + 1, r, rest =>
    match rest with
    | 0x2A :: more => withOperators fuel (.repeated 0 none r) more
    | 0x5C :: 0x2B :: more => withOperators fuel (.repeated 1 none r) more
    | 0x5C :: 0x3F :: more => withOperators fuel (.repeated 0 (some 1) r) more
    | 0x5C :: 0x7B :: more => do
      let (least, most, more) ← counts more
      if greatestCount < most.getD least then .error .tooBig
      withOperators fuel (.repeated least most r) more
    | rest => .ok (r, rest)

/-- Where reading an expression is: what was read of the sequence at hand and of those before it,
and the number of groups. -/
structure Reading where
  sequence : Option Regex
  alternatives : List Regex
  groups : Nat

namespace Reading

/-- The reading with one more expression. -/
def push (s : Reading) (r : Regex) : Reading :=
  { s with sequence := some (match s.sequence with
      | some before => .sequence before r
      | none => r) }

/-- What was read. -/
def result (s : Reading) : Regex :=
  s.alternatives.foldl (fun later earlier => .either earlier later) (s.sequence.getD .empty)

end Reading

/-- The expression up to the end of a group or of the text, how many groups there are, and what
follows; `fuel` bounds the number of bytes. -/
def readFrom (inside : Bool) : Nat → Reading → Bytes → Except Fault (Regex × Nat × Bytes)
  | 0, _, _ => .error .openGroup
  | _, s, [] => if inside then .error .openGroup else .ok (s.result, s.groups, [])
  | fuel + 1, s, b :: rest => do
    let item (r : Regex) (rest : Bytes) : Except Fault (Regex × Nat × Bytes) := do
      let (r, rest) ← withOperators (rest.length + 1) r rest
      readFrom inside fuel (s.push r) rest
    let plain (b : UInt8) (rest : Bytes) : Except Fault (Regex × Nat × Bytes) :=
      item (.oneOf false [b]) rest
    let atStart := s.sequence.isNone
    if b == 0x2E then item (.oneOf true []) rest
    else if b == 0x5B then
      let (r, rest) ← bracket rest
      item r rest
    else if b == 0x5E && atStart then
      -- A star after the start of a line stands for itself.
      match rest with
      | 0x2A :: more =>
        let (r, more) ← withOperators (more.length + 1) (.oneOf false [0x2A]) more
        readFrom inside fuel ((s.push .lineStart).push r) more
      | rest => readFrom inside fuel (s.push .lineStart) rest
    else if b == 0x24 && (rest.isEmpty || [[0x5C, 0x29], [0x5C, 0x7C]].contains (rest.take 2)) then
      readFrom inside fuel (s.push .lineEnd) rest
    else if b != 0x5C then plain b rest
    else match rest with
      | [] => .error .trailingBackslash
      | 0x28 :: rest =>
        let number := s.groups + 1
        let (body, groups, rest) ← readFrom true fuel ⟨none, [], number⟩ rest
        let (r, rest) ← withOperators (rest.length + 1) (.group number body) rest
        readFrom inside fuel { s.push r with groups } rest
      | 0x29 :: rest => if inside then .ok (s.result, s.groups, rest) else .error .closedGroup
      | 0x7C :: rest =>
        readFrom inside fuel
          { s with sequence := none, alternatives := (s.sequence.getD .empty) :: s.alternatives }
          rest
      | 0x77 :: rest => item (.oneOf false (Tool.allBytes.filter isWordByte)) rest
      | 0x57 :: rest => item (.oneOf true (Tool.allBytes.filter isWordByte)) rest
      | 0x73 :: rest => item (.oneOf false (Tool.allBytes.filter Format.isSpace)) rest
      | 0x53 :: rest => item (.oneOf true (Tool.allBytes.filter Format.isSpace)) rest
      | 0x62 :: rest => item (.border false) rest
      | 0x42 :: rest => item (.border true) rest
      | 0x3C :: rest => item .wordStart rest
      | 0x3E :: rest => item .wordEnd rest
      | 0x60 :: rest => item .lineStart rest
      | 0x27 :: rest => item .lineEnd rest
      | c :: rest =>
        if 0x31 ≤ c && c ≤ 0x39 then
          let number := (c - 0x30).toNat
          if s.groups < number then .error .badReference else item (.again number) rest
        else plain c rest

/-- The regular expression that a text writes, and the number of its groups. -/
def read (source : Bytes) : Except Fault (Regex × Nat) := do
  let (r, groups, _) ← readFrom false (source.length + 1) ⟨none, [], 0⟩ source
  return (r, groups)

end Regex

end PipeShell
