import PipeShell.Userland.Script.Source

/-!
# Reading words

`Reading.word` reads a word from its first byte on, and `Reading.text` the texts that redirections
ask for, which are words in which blanks and quotes mean nothing. What a byte means depends on the
quotes that are open (`Quoting`), and inside the braces of a parameter there are quotes of their
own, so the reader keeps a stack of `Level`s. Commands inside words are read by the reader of
command lists, which is handed in.
-/

namespace PipeShell.Script

/-- Which quotes are open. -/
inductive Quoting
  | none
  | single
  | double
  | arithmetic
deriving DecidableEq, Repr

/-- What a part of a word is read in: a word itself, the braces of a parameter in other quotes than
what is around them, or arithmetic. -/
structure Level where
  quoting : Quoting
  /-- Whether what is read counts as quoted. -/
  quoted : Bool
  /-- Whether double quotes are open inside braces that stand between double quotes. -/
  inner : Bool
  /-- Whether the level ends with a brace. -/
  braced : Bool
  /-- The number of open braces. -/
  braces : Nat
  /-- The number of open braces between double quotes. -/
  quotedBraces : Nat
  /-- The number of open parentheses in arithmetic. -/
  parentheses : Nat
deriving Repr

/-- The level of a word or text. -/
def Level.outer (quoting : Quoting) : Level := ⟨quoting, quoting == .double, false, false, 0, 0, 0⟩

/-- A piece of a word whose end is not read yet, with the pieces before it, last one first. -/
inductive Unfinished
  | parameter (before : List Piece) (name : Bytes) (use : ParameterUse) (orNull : Bool)
  | arithmetic (before : List Piece)

/-- A word that is being read. -/
structure Draft where
  /-- The pieces so far, last one first. -/
  pieces : List Piece
  unfinished : List Unfinished
  level : Level
  outer : List Level
  /-- Whether anything in the word was quoted. -/
  quoted : Bool

namespace Draft

/-- A word of which nothing is read yet. -/
def start (quoting : Quoting) : Draft := ⟨[], [], .outer quoting, [], false⟩

/-- The draft with a piece more. -/
def push (d : Draft) (p : Piece) : Draft := { d with pieces := p :: d.pieces }

/-- The draft with bytes more, which are quoted if the level is. -/
def pushAll (d : Draft) (bytes : Bytes) : Draft :=
  let quoted := d.level.quoted || d.level.quoting == .single
  { d with pieces := bytes.foldl (fun pieces b => .byte b quoted :: pieces) d.pieces }

/-- The draft with its innermost unfinished piece finished. -/
def finishPiece (d : Draft) : Draft :=
  match d.unfinished with
  | .parameter before name use orNull :: unfinished =>
    { d with pieces := .parameter name use orNull d.pieces.reverse :: before, unfinished }
  | .arithmetic before :: unfinished =>
    { d with pieces := .arithmetic d.pieces.reverse :: before, unfinished }
  | [] => d

/-- The draft back at the level outside the innermost one. -/
def leave (d : Draft) : Draft :=
  match d.outer with
  | level :: outer => { d with level, outer }
  | [] => d

/-- The draft at a level inside the innermost one. -/
def enter (d : Draft) (level : Level) : Draft := { d with level, outer := d.level :: d.outer }

/-- The draft at the brace that ends a parameter. -/
def closeBrace (d : Draft) : Draft :=
  let braces := d.level.braces - 1
  let d := d.finishPiece
  if braces == 0 && d.level.braced then d.leave
  else { d with level :=
    { d.level with braces, quotedBraces := d.level.quotedBraces - 1 } }

/-- The draft at a single quote that opens. -/
def openSingle (d : Draft) (marked : Bool) : Draft :=
  let d := { d with level := { d.level with quoting := .single } }
  if marked then d.push .quote else d

/-- The draft at a double quote that opens or closes; only inside braces it matters which. -/
def toggleDouble (d : Draft) (marked : Bool) : Draft :=
  let d := if d.level.braces == 0 then d
    else { d with level := { d.level with inner := !d.level.inner } }
  if marked then d.push .quote else d

end Draft

/-- What ends the text that is read. -/
inductive Ending
  /-- What ends a word. -/
  | word
  /-- The end of the script. -/
  | script
  /-- A line with a mark. -/
  | line (mark : Bytes) (indented : Bool)
deriving Repr

namespace Reading

/-! ## Bytes -/

/-- Whether a byte ends a word. -/
def endsWord (b : UInt8) : Bool :=
  b == 0x20 || b == 0x09 || b == 0x3B || b == 0x26 || b == 0x7C || b == 0x28 || b == 0x29 ||
    b == 0x3C || b == 0x3E

/-- Whether a byte stands for itself between certain quotes. -/
def standsForItself (q : Quoting) (b : UInt8) : Bool :=
  match q with
  | .single => b != 0x27 && b != 0x0A
  | .none =>
    b != 0x0A && b != 0x5C && b != 0x27 && b != 0x22 && b != 0x60 && b != 0x24 && b != 0x7D &&
      !endsWord b
  | .double => b != 0x0A && b != 0x5C && b != 0x22 && b != 0x60 && b != 0x24 && b != 0x7D
  | .arithmetic =>
    b != 0x0A && b != 0x5C && b != 0x60 && b != 0x24 && b != 0x7D && b != 0x28 && b != 0x29

/-- Whether a byte is the name of a parameter that is no variable. -/
def isSpecialName (b : UInt8) : Bool :=
  b == 0x40 || b == 0x2A || b == 0x23 || b == 0x3F || b == 0x2D || b == 0x24 || b == 0x21 ||
    (0x30 ≤ b && b ≤ 0x39)

/-- Whether a byte is a digit. -/
def isDigit (b : UInt8) : Bool := 0x30 ≤ b && b ≤ 0x39

/-! ## Commands inside words -/

/-- What reads the commands inside a word; it is told whether a parenthesis closes them. -/
abbrev Lister := (closed : Bool) → Reading (Option Command)

/-- Reads a command on the side: the texts that it asks for are not those of the current line. -/
def aside {α : Type} (body : Reading α) : Reading α := do
  let awaited := (← get).awaited
  modify fun s => { s with awaited := [] }
  let a ← body
  modify fun s =>
    let texts := s.awaited.foldl (fun texts a => (a.number, []) :: texts) s.texts
    { s with awaited, texts, held := false, manner := .plain }
  return a

/-- The text between backquotes, the first of which is read; `quoted` tells whether it stands
between double quotes. -/
def backquoted (quoted : Bool) : Nat → (before : Bytes) → Reading Bytes
  | 0, before => return before.reverse
  | fuel + 1, before => do
    match ← nextByte with
    | none => fail (Bytes.ofString "EOF in backquote substitution")
    | some 0x60 => return before.reverse
    | some 0x5C =>
      match ← next with
      | none => fail (Bytes.ofString "EOF in backquote substitution")
      | some c =>
        let kept := c != 0x5C && c != 0x60 && c != 0x24 && (!quoted || c != 0x22)
        backquoted quoted fuel (c :: if kept then 0x5C :: before else before)
    | some b =>
      if b == 0x0A then countLine
      backquoted quoted fuel (b :: before)

/-- Reads a command between backquotes, the first of which is read. -/
def oldSubstitution (list : Lister) (quoted : Bool) : Reading Piece := do
  let text ← backquoted quoted patience []
  let outside ← get
  let inside := Source.ofText outside.aliases true 1 text
  set { inside with texts := outside.texts, count := outside.count }
  let command ← aside (list false)
  let inside ← get
  set { outside with texts := inside.texts, count := inside.count, held := false, manner := .plain }
  return .output command

/-! ## Parameters -/

/-- The name of a parameter from its first byte on, and the byte after it. -/
def nameFrom (p : UInt8 → Bool) : Nat → Bytes → Option UInt8 → Reading (Bytes × Option UInt8)
  | 0, name, c => return (name.reverse, c)
  | fuel + 1, name, c =>
    match c with
    | some b =>
      if p b then do nameFrom p fuel (b :: name) (← nextByte) else return (name.reverse, c)
    | none => return (name.reverse, c)

/-- A parameter as far as its word: the name, the use if it is known yet, and the byte after. -/
abbrev Named := Bytes × Option ParameterUse × Option UInt8

/-- Reads the name of a parameter, whose first byte is `c`. Between braces a number sign before it
asks for the length of the value. -/
def parameterName (braced : Bool) (c : UInt8) : Reading Named := do
  let ordinary (use : Option ParameterUse) (c : UInt8) : Reading Named := do
    if isNameStart c then
      let (name, after) ← nameFrom isNameByte patience [] (some c)
      return (name, use, after)
    else
      let (name, after) ← nameFrom (fun b => braced && isDigit b) patience [c] (← nextByte)
      return (name, use, after)
  let known : Option ParameterUse := if braced then none else some .value
  if isNameStart c || isDigit c then ordinary known c
  else if c == 0x7D then
    unread (some c)
    return ([], some .bad, none)
  else
    let after ← nextByte
    if braced && c == 0x23 then
      match after with
      | some d =>
        if isNameByte d then return (← ordinary (some .length) d)
        let second ← nextByte
        if d == 0x7D || second != some 0x7D then
          unread second
          return ([0x23], none, some d)
        if isSpecialName d then return ([d], some .length, second)
        unread second
        return ([], some .bad, none)
      | none => return ([0x23], none, none)
    else if isSpecialName c then return ([c], known, after)
    else
      unread after
      return ([], some .bad, none)

/-- The use of a parameter from the byte after its name on, and whether empty values count as
none. -/
def parameterUse (c : Option UInt8) : Reading (ParameterUse × Bool) := do
  let plain (c : Option UInt8) : ParameterUse :=
    match c with
    | some 0x7D => .value
    | some 0x2D => .orElse
    | some 0x2B => .ifSet
    | some 0x3F => .demand
    | some 0x3D => .assign
    | _ => .bad
  match c with
  | some 0x3A => return (plain (← nextByte), true)
  | some 0x25 | some 0x23 =>
    let d ← nextByte
    if d != c then unread d
    return (if c == some 0x25 then .withoutSuffix (d == c) else .withoutPrefix (d == c), false)
  | c => return (plain c, false)

/-- The draft after the start of a parameter, a value having no word. -/
def beginParameter (d : Draft) (name : Bytes) (use : ParameterUse) (orNull : Bool) : Draft :=
  if use == .value then d.push (.parameter name .value orNull [])
  else
    let trims := match use with
      | .withoutSuffix _ | .withoutPrefix _ => true
      | _ => false
    let quoting := if trims then .none
      else if d.level.quoting == .arithmetic then .double else d.level.quoting
    let d := { d with
      pieces := []
      unfinished := .parameter d.pieces name use orNull :: d.unfinished }
    let d := if quoting != d.level.quoting || d.level.inner then
        d.enter { Level.outer quoting with quoted := quoting != .none, braced := true }
      else d
    { d with level :=
      { d.level with
        braces := d.level.braces + 1
        quotedBraces := d.level.quotedBraces + if d.level.quoted then 1 else 0 } }

/-- Reads what a dollar sign starts. -/
def dollar (list : Lister) (d : Draft) : Reading Draft := do
  let c ← nextByte
  let starts (b : UInt8) : Bool :=
    b == 0x28 || b == 0x7B || isNameStart b || isSpecialName b
  match c with
  | none =>
    return d.pushAll [0x24]
  | some b =>
    if (← get).manner.mark || !starts b then
      unread c
      return d.pushAll [0x24]
    else if b == 0x28 then
      let second ← nextByte
      if second == some 0x28 then
        let d := { d with pieces := [], unfinished := .arithmetic d.pieces :: d.unfinished }
        return d.enter { Level.outer .arithmetic with quoted := true }
      unread second
      return d.push (.output (← aside (list true)))
    else if b == 0x7B then
      match ← nextByte with
      | none => return beginParameter d [] .bad false
      | some b =>
        let (name, use, after) ← parameterName true b
        match use with
        | some .length =>
          if after == some 0x7D then
            unread after
            return beginParameter d name .length false
          unread after
          return beginParameter d name .bad false
        | some use => return beginParameter d name use false
        | none =>
          let (use, orNull) ← parameterUse after
          return beginParameter d name use orNull
    else
      let (name, _, after) ← parameterName false b
      unread after
      return beginParameter d name .value false

/-! ## Words -/

/-- Reads what a backslash starts. -/
def backslash (ending : Ending) (d : Draft) : Reading Draft := do
  match ← next with
  | none => return d.push (.byte 0x5C true)
  | some c =>
    let ordinary := match ending with
      | .word => false
      | _ => d.level.braces == 0
    let kept := d.level.quoted && c != 0x5C && c != 0x60 && c != 0x24 &&
      (c != 0x22 || ordinary) && (c != 0x7D || d.level.braces == 0)
    let d := if kept then d.push (.byte 0x5C true) else d
    return { d.push (.byte c true) with quoted := true }

/-- Whether the line that starts here is the one that ends the text; it is taken if so. -/
def endsHere (mark : Bytes) : Reading Bool := do
  let s ← get
  let found ← run (· != 0x0A)
  let after ← next
  if found == mark then
    if after == some 0x0A then countLine
    return true
  set s
  return false

/-- Reads a word or a text up to its end; gives the draft and the byte that ended it. `fresh` tells
whether a line starts here. -/
def draft (list : Lister) (ending : Ending) :
    Nat → (fresh : Bool) → Draft → Reading (Draft × Option UInt8)
  | 0, _, d => return (d, none)
  | fuel + 1, fresh, d => do
    let marked := match ending with
      | .word => true
      | _ => false
    let ended ← match ending, fresh with
      | .line mark indented, true => do
        if indented then let _ ← run (· == 0x09)
        endsHere mark
      | _, _ => pure false
    if ended then return (d, none)
    let q := d.level.quoting
    let d := d.pushAll (← run (standsForItself q))
    let c ← if q == .single then next else nextByte
    let goOn := draft list ending fuel false
    match c with
    | none => return (d, none)
    | some 0x0A =>
      if q == .none && d.level.braces == 0 then return (d, c)
      countLine
      draft list ending fuel true (d.pushAll [0x0A])
    | some b =>
      if standsForItself q b then goOn (d.pushAll [b])
      else if q == .single then
        if !marked && d.level.braces == 0 then goOn (d.pushAll [b])
        else
          let d := { d with
            level := { d.level with quoting := .none, quoted := false }
            quoted := true }
          goOn (if marked then d.push .quote else d)
      else if b == 0x5C then goOn (← backslash ending d)
      else if b == 0x24 then goOn (← dollar list d)
      else if b == 0x60 then
        if (← get).manner.mark then goOn (d.pushAll [b])
        else goOn (d.push (← oldSubstitution list d.level.quoted))
      else if b == 0x7D then
        if d.level.braces != 0 && !d.level.inner then goOn d.closeBrace
        else goOn (d.pushAll [b])
      else if b == 0x27 then goOn (d.openSingle marked)
      else if b == 0x22 then
        if q == .none then
          goOn ({ d with
            level := { d.level with quoting := .double, quoted := true } }.toggleDouble marked)
        else if !marked && d.level.braces == 0 then goOn (d.pushAll [b])
        else
          let d := if d.level.quotedBraces == 0 then
              { d with level := { d.level with quoting := .none, quoted := false } }
            else d
          goOn ({ d with quoted := true }.toggleDouble marked)
      else if q == .arithmetic then
        if b == 0x28 then
          goOn ({ d with level :=
            { d.level with parentheses := d.level.parentheses + 1 } }.pushAll [b])
        else if d.level.parentheses != 0 then
          goOn ({ d with level :=
            { d.level with parentheses := d.level.parentheses - 1 } }.pushAll [b])
        else
          let second ← nextByte
          if second == some 0x29 then goOn d.finishPiece.leave
          else
            unread second
            goOn (d.pushAll [b])
      else if d.level.braces != 0 then goOn (d.pushAll [b])
      else return (d, c)

/-- Why a draft cannot be a word. -/
def draftFault (d : Draft) (marked : Bool) : Option String :=
  if d.level.quoting == .arithmetic then some "Missing '))'"
  else if d.level.quoting != .none && marked then some "Unterminated quoted string"
  else if d.level.braces != 0 then some "Missing '\x7d'"
  else none

/-- Reads the redirection that the byte `c` starts; before it stands the number `digit`, if any. -/
def redirection (digit : Option Fd) (c : UInt8) : Reading Token := do
  let second ← nextByte
  if c == 0x3E then
    let fd := digit.getD 1
    match second with
    | some 0x3E => return .redirection fd (.file .append)
    | some 0x7C => return .redirection fd (.file .clobber)
    | some 0x26 => return .redirection fd .copy
    | _ =>
      unread second
      return .redirection fd (.file .output)
  else
    let fd := digit.getD 0
    match second with
    | some 0x3C =>
      let third ← nextByte
      if third == some 0x2D then return .redirection fd (.text true)
      unread third
      return .redirection fd (.text false)
    | some 0x26 => return .redirection fd .copy
    | some 0x3E => return .redirection fd (.file .both)
    | _ =>
      unread second
      return .redirection fd (.file .input)

/-- Reads a word, or a redirection with the number before it. -/
def word (list : Lister) : Reading Token := do
  let (d, c) ← draft list .word patience false (.start .none)
  if let some message := draftFault d true then fail (Bytes.ofString message)
  let digit : Option (Option Fd) :=
    if d.quoted then none
    else match d.pieces with
      | [] => some none
      | [.byte b false] => if isDigit b then some (some (b.toNat - 0x30)) else none
      | _ => none
  match c, digit with
  | some c, some digit =>
    if c == 0x3C || c == 0x3E then redirection digit c
    else
      unread (some c)
      return .word d.pieces.reverse d.quoted
  | c, _ =>
    unread c
    return .word d.pieces.reverse d.quoted

/-- Reads the text between two marks of a line. -/
def text (list : Lister) (a : Awaited) : Reading Unit := do
  let quoting := if a.replaced then Quoting.double else .single
  let (d, _) ← draft list (.line a.mark a.indented) patience true (.start quoting)
  if let some message := draftFault d false then fail (Bytes.ofString message)
  modify fun s => { s with texts := (a.number, d.pieces.reverse) :: s.texts }

/-- Reads texts that stand one after the other. -/
def textsOf (list : Lister) : List Awaited → Reading Unit
  | [] => return ()
  | a :: more => do
    text list a
    textsOf list more

/-- Reads the texts that the current line asks for. -/
def awaitedTexts (list : Lister) : Reading Unit := do
  let awaited := (← get).awaited
  modify fun s => { s with awaited := [] }
  textsOf list awaited

end Reading

end PipeShell.Script
