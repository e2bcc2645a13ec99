import PipeShell.Userland.Script.Arithmetic
import PipeShell.Userland.Script.Session
import PipeShell.Userland.Script.Splitting

/-!
# What words become

`Script.fields` gives the words that a word of a script becomes: parameters, arithmetic and commands
are replaced by their values, these are cut into words (`Fragment.cutInto`), and a word that is a
pattern is replaced by the names of the files that match it. `Script.field` gives one word in any
case. Commands are run by a function that is handed in.
-/

namespace PipeShell.Script

open Calling (call)

/-- What a word is replaced for. -/
structure Purpose where
  /-- Whether values are cut into words. -/
  cuts : Bool
  /-- Whether a home directory may stand after the equals sign and colons. -/
  setting : Bool
  /-- Whether the word stands between double quotes. -/
  quoted : Bool
  /-- Whether the word stands in a parameter. -/
  inner : Bool

/-- What runs the commands in words and gives their output. -/
abbrev Runner := Command → Script Bytes

/-- The bound of loops over the pieces of words. -/
def wordBound : Nat := 1000000000000

/-! ## Home directories -/

/-- The home directories of the users that the machine knows. -/
def homes : List (String × String) :=
  [("root", "/root"), ("daemon", "/usr/sbin"), ("bin", "/bin"), ("sys", "/dev"),
   ("sync", "/bin"), ("games", "/usr/games"), ("man", "/var/cache/man"), ("lp", "/var/spool/lpd"),
   ("mail", "/var/mail"), ("news", "/var/spool/news"), ("uucp", "/var/spool/uucp"),
   ("proxy", "/bin"), ("www-data", "/var/www"), ("backup", "/var/backups"),
   ("list", "/var/list"), ("irc", "/run/ircd"), ("_apt", "/nonexistent"),
   ("nobody", "/nonexistent")]

/-- The home directory that a tilde with a name after it stands for. -/
def homeOf? (name : Bytes) : Script (Option Bytes) := do
  if name.isEmpty then return ← valueNamed? "HOME"
  return (homes.find? fun h => text h.1 == name).map fun h => text h.2

/-- The home directory at the start of pieces, and the pieces after it. -/
def homeAt (purpose : Purpose) (pieces : List Piece) : Script (Option (Bytes × List Piece)) := do
  match pieces with
  | .byte 0x7E false :: rest =>
    let name := rest.takeWhile fun piece =>
      piece.plainByte?.any fun b => b != 0x2F && !(purpose.setting && b == 0x3A)
    let after := rest.drop name.length
    let ends := match after with
      | [] | .byte _ false :: _ => true
      | _ => false
    if !ends then return none
    match ← homeOf? (name.filterMap Piece.plainByte?) with
    | some home => return some (home, after)
    | none => return none
  | _ => return none

/-! ## Parameters -/

/-- All arguments in one text. -/
def joinedArguments (purpose : Purpose) (each : Bool) : Script Bytes := do
  let s ← get
  let ifs := s.bindings.value? (text "IFS")
  let separator : Bytes :=
    if purpose.cuts && purpose.quoted && each then [0]
    else if purpose.cuts && !purpose.quoted then (if ifs.isSome then [0] else [0x20])
    else (ifs.getD [0x20]).take 1
  return Text.joinWith separator s.arguments

/-- The value of a parameter. -/
def parameter? (purpose : Purpose) (name : Bytes) : Script (Option Bytes) := do
  let s ← get
  match name with
  | [0x24] => return some (Bytes.ofNat s.process)
  | [0x3F] => return some (Bytes.ofNat s.status)
  | [0x23] => return some (Bytes.ofNat s.arguments.length)
  | [0x21] => return s.lastBackground.map Bytes.ofNat
  | [0x2D] => return some s.optionLetters
  | [0x40] => return some (← joinedArguments purpose true)
  | [0x2A] => return some (← joinedArguments purpose false)
  | name =>
    if name.head?.any Reading.isDigit then
      let n := name.foldl (fun n b => 10 * n + (b.toNat - 0x30)) 0
      return if n == 0 then some s.name else s.arguments[n - 1]?
    else return s.bindings.value? name

/-- Leaves because a parameter has no value. -/
def unset {α : Type} (name : Bytes) (message : Bytes) : Script α :=
  fail (name ++ text ": " ++ message)

/-- How a value stands in a word. -/
def Purpose.fragment (purpose : Purpose) (bytes : Bytes) : Fragment :=
  .ofBytes (if purpose.quoted then .nowhere else .separators) purpose.quoted bytes

/-- How the value of a parameter stands in a word. -/
def valueFragment (purpose : Purpose) (name value : Bytes) : Script Fragment := do
  let each := purpose.quoted && name == [0x40] && !(← get).arguments.isEmpty
  let f := purpose.fragment value
  return if each then { f with cut := .arguments } else f

/-- The bytes before the first NUL. -/
def untilNul (bytes : Bytes) : Bytes := bytes.takeWhile (· != 0)

/-- The positions at which something can be cut off a value with `length` bytes. -/
def cutPositions (fromStart : Bool) (length : Nat) : List Nat :=
  if fromStart then List.range (length + 1) else (List.range (length + 1)).reverse

/-- The value without an end that matches. -/
def withoutSuffix (longest : Bool) (pattern : Pattern) (value : Bytes) : Bytes :=
  let reach := if longest then (untilNul value).length else value.length
  match (cutPositions longest reach).find? fun i => pattern.accepts (untilNul (value.drop i)) with
  | some i => value.take i
  | none => value

/-- The value without a start that matches. -/
def withoutPrefix (longest : Bool) (pattern : Pattern) (value : Bytes) : Bytes :=
  let reach := if longest then value.length else (untilNul value).length
  let fits (i : Nat) : Bool := pattern.accepts (untilNul (value.take i))
  match (cutPositions (!longest) reach).find? fits with
  | some i => value.drop i
  | none => value

/-! ## Arithmetic -/

/-- The value of an arithmetic expression. -/
def reckon (expression : Bytes) : Script Int := do
  let (result, settings) := Arithmetic.evaluate (← get).bindings.value? expression
  for (name, n) in settings do
    assignNamed name (some (text (toString n))) false
  match result with
  | .ok n => return n
  | .error (.message m) =>
    fail (text "arithmetic expression: " ++ text m ++ text ": \"" ++ expression ++ text "\"")
  | .error (.illegalNumber value) => badNumber value
  | .error .tooLarge =>
    let _ ← (Program.kill (← call .processId) 8 : Program _)
    return 0

/-! ## Words -/

/-- A word that is being put together: the fragments so far, last one first. -/
abbrev Assembly := List Fragment

/-- The output of a command without the line ends at its end. -/
def trimmed (output : Bytes) : Bytes :=
  ((output.filter (· != 0)).reverse.dropWhile (· == 0x0A)).reverse

/-- Whether a byte starts a place for a home directory. -/
def opensHome (purpose : Purpose) (colonsOnly : Bool) (b : UInt8) : Bool :=
  purpose.setting && (b == 0x3A || (b == 0x3D && !colonsOnly))

/-- Puts together what pieces become. `home` tells whether a home directory can stand here, `inside`
whether double quotes are open, and `colonsOnly` whether an equals sign was passed. -/
def assemble (run : Runner) : Nat → Purpose → (home inside colonsOnly : Bool) → Assembly →
    List Piece → Script Assembly
  | 0, _, _, _, _, done, _ => return done
  | fuel + 1, purpose, home, inside, colonsOnly, done, pieces => do
    let goOn := assemble run fuel purpose false
    if home then
      match ← homeAt purpose pieces with
      | some (home, rest) =>
        return ← goOn inside colonsOnly (.ofBytes .nowhere true home :: done) rest
      | none => pure ()
    match pieces with
    | [] => return done
    | .quote :: .parameter [0x40] .value false word :: .quote :: rest =>
      if !inside then
        let purpose' := { purpose with quoted := true }
        let value ← joinedArguments purpose' true
        goOn inside colonsOnly ((← valueFragment purpose' [0x40] value) :: done) rest
      else
        goOn false colonsOnly (⟨.nowhere, [.quote]⟩ :: done)
          (.parameter [0x40] .value false word :: .quote :: rest)
    | .quote :: rest => goOn (!inside) colonsOnly (⟨.nowhere, [.quote]⟩ :: done) rest
    | .byte b quoted :: rest =>
      if !quoted && opensHome purpose colonsOnly b then
        let cut := if purpose.inner && !purpose.quoted && !inside then Cut.separators else .nowhere
        assemble run fuel purpose true inside (colonsOnly || b == 0x3D)
          (.ofBytes cut false [b] :: done) rest
      else
        let same := pieces.takeWhile fun piece => match piece with
          | .byte b q => q == quoted && (q || !opensHome purpose colonsOnly b)
          | _ => false
        let bytes := same.filterMap fun piece => match piece with
          | .byte b _ => some b
          | _ => none
        let cut := if purpose.inner && !purpose.quoted && !inside && !quoted then Cut.separators
          else .nowhere
        goOn inside colonsOnly (.ofBytes cut quoted bytes :: done) (pieces.drop same.length)
    | .arithmetic expression :: rest =>
      let inner ← assemble run fuel ⟨false, false, false, false⟩ false false false [] expression
      let n ← reckon (Fragment.bytes inner.reverse)
      let purpose' := { purpose with quoted := purpose.quoted || inside }
      goOn inside colonsOnly (purpose'.fragment (text (toString n)) :: done) rest
    | .output command :: rest =>
      let output ← match command with
        | some command => run command
        | none => pure []
      let purpose' := { purpose with quoted := purpose.quoted || inside }
      goOn inside colonsOnly (purpose'.fragment (trimmed output) :: done) rest
    | .parameter name use orNull word :: rest =>
      let purpose' := { purpose with quoted := purpose.quoted || inside }
      let alone : Purpose := ⟨false, false, false, false⟩
      let wordHere (done : Assembly) : Script Assembly :=
        assemble run fuel { purpose' with inner := true } true false false done word
      let wordAlone : Script (List Grain) := do
        let assembly ← assemble run fuel alone true false false [] word
        return assembly.reverse.flatMap (·.grains)
      if use == .bad then fail (text "Bad substitution")
      let counts := match use with
        | .length | .ifSet => true
        | _ => false
      let value ← parameter? { purpose' with cuts := purpose.cuts && !counts } name
      let present := value.filter fun v => !(orNull && v.isEmpty)
      let withValue (value : Bytes) : Script Assembly := do
        goOn inside colonsOnly ((← valueFragment purpose' name value) :: done) rest
      let strict : Script Unit := do
        if present.isNone && (← get).isOn 0x75 then unset name (text "parameter not set")
      match use, present with
      | .ifSet, some _ => goOn inside colonsOnly (← wordHere done) rest
      | .ifSet, none => withValue []
      | .orElse, some v | .assign, some v | .demand, some v => withValue v
      | .orElse, none => goOn inside colonsOnly (← wordHere done) rest
      | .assign, none =>
        let v := Fragment.bytesOf (← wordAlone)
        assignNamed name (some v) false
        withValue ((← parameter? purpose' name).getD [])
      | .demand, none =>
        let m := Fragment.bytesOf (← wordAlone)
        unset name (if word.isEmpty then
            text (if orNull then "parameter not set or null" else "parameter not set")
          else m)
      | .length, _ =>
        strict
        withValue (Bytes.ofNat (value.getD []).length)
      | .withoutSuffix longest, some v =>
        let pattern := Pattern.of (Fragment.symbolsOf (← wordAlone))
        withValue (withoutSuffix longest pattern v)
      | .withoutPrefix longest, some v =>
        let pattern := Pattern.of (Fragment.symbolsOf (← wordAlone))
        withValue (withoutPrefix longest pattern v)
      | _, some v => withValue v
      | _, none =>
        strict
        goOn inside colonsOnly done rest

/-- What a word becomes for a purpose. -/
def fragments (run : Runner) (purpose : Purpose) (home : Bool) (word : Word) :
    Script (List Fragment) := do
  return (← assemble run wordBound purpose home false false [] word).reverse

/-- The text that a word becomes where one word is needed. -/
def field (run : Runner) (word : Word) : Script Bytes := do
  return Fragment.bytes (← fragments run ⟨false, false, false, false⟩ true word)

/-- The text that a setting becomes. -/
def settingField (run : Runner) (word : Word) : Script Bytes := do
  return Fragment.bytes (← fragments run ⟨false, true, false, false⟩ false word)

/-- What a text of the script becomes, which counts as quoted. -/
def textField (run : Runner) (word : Word) : Script Bytes := do
  return Fragment.bytes (← fragments run ⟨false, false, true, false⟩ false word)

/-- The pattern that a word becomes. -/
def patternField (run : Runner) (word : Word) : Script Pattern := do
  let found ← fragments run ⟨false, false, false, false⟩ true word
  return Pattern.of (Fragment.symbolsOf (found.flatMap (·.grains)))

/-! ## Files -/

/-- Whether a part of a path can match several names. -/
def isPattern : List Symbol → Bool
  | [] => false
  | s :: rest =>
    if s.isPlain 0x3F || s.isPlain 0x2A then true
    else if s.isPlain 0x5B then
      let inside := if rest.head?.any (·.isPlain 0x21) then rest.tail else rest
      (!inside.isEmpty && inside.tail.any (·.isPlain 0x5D)) || isPattern rest
    else isPattern rest

/-- The parts of a path between slashes. -/
def pathParts (symbols : List Symbol) : List (List Symbol) :=
  symbols.foldr (fun s parts =>
    if s.byte == 0x2F then [] :: parts
    else match parts with
      | [] => [[s]]
      | part :: parts => (s :: part) :: parts) [[]]

/-- The bytes of symbols. -/
def symbolBytes (symbols : List Symbol) : Bytes := symbols.map (·.byte)

/-- The paths after `before` that match the parts of a pattern. -/
def matchingFrom : Nat → (before : Bytes) → List (List Symbol) → Script (List Bytes)
  | 0, _, _ => return []
  | fuel + 1, before, parts => do
    let plain := parts.takeWhile (!isPattern ·)
    match parts.drop plain.length with
    | [] =>
      if before.isEmpty then return []
      let path := before ++ Text.joinWith [0x2F] (plain.map symbolBytes)
      match ← call (.statusOfName path) with
      | .ok _ => return [path]
      | .error _ => return []
    | part :: rest =>
      let before := before ++ plain.flatMap fun p => symbolBytes p ++ [0x2F]
      match ← call (.names (if before.isEmpty then FileSystem.dot else before)) with
      | .error _ => return []
      | .ok names =>
        let pattern := Pattern.of part
        let hidden := part.head?.any (·.byte == 0x2E)
        let found := (FileSystem.dot :: FileSystem.dotDot :: names).filter fun name =>
          (hidden || name.head? != some 0x2E) && pattern.accepts name
        match rest with
        | [] => return found.map (before ++ ·)
        | rest =>
          let mut all := []
          for name in found do
            all := all ++ (← matchingFrom fuel (before ++ name ++ [0x2F]) rest)
          return all

/-- The files whose paths match a word, or the word itself if there are none. -/
def matchingFiles (word : List Grain) : Script (List Bytes) := do
  let itself := [Fragment.bytesOf word]
  let special := word.any fun u => match u with
    | .byte b false => b == 0x2A || b == 0x3F || b == 0x5B
    | _ => false
  if !special || (← get).isOn 0x66 then return itself
  let found ← matchingFrom (word.length + 2) [] (pathParts (Fragment.symbolsOf word))
  return if found.isEmpty then itself else found.mergeSort Variables.bytesLe

/-- The words that a word becomes. -/
def fields (run : Runner) (word : Word) : Script (List Bytes) := do
  match plain? word with
  | some [] => return []
  | some bytes =>
    if !bytes.any fun b => b == 0x2A || b == 0x3F || b == 0x5B || b == 0x7E then return [bytes]
  | none => pure ()
  let found ← fragments run ⟨true, false, false, false⟩ true word
  let mut all := []
  for word in Fragment.cutInto none (← separators) found do
    all := (← matchingFiles word).reverse ++ all
  return all.reverse

end PipeShell.Script
