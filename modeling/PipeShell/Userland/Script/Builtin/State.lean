import PipeShell.Userland.Script.Builtin.Options
import PipeShell.Userland.Script.Lookup

/-!
# What commands change in the session

The commands that set options (`Script.set`), arguments, variables, functions and aliases, and
those that write them.
-/

namespace PipeShell.Script

open Calling (call)

/-! ## Options and arguments -/

/-- Writes the options. -/
def listOptions (readable : Bool) (allOn : Bool) : Script Unit := do
  let s ← get
  let isOn (name : String) : Bool := allOn || s.isOn (optionKey name)
  if readable then say (text "Current option settings\n")
  for (name, _) in optionTable do
    say (if readable then
      text name ++ List.replicate (16 - name.length) 0x20 ++
        text (if isOn name then "on\n" else "off\n")
    else text (if isOn name then "set -o " else "set +o ") ++ text name ++ [0x0A])

/-- Turns an option on or off. -/
def turn (on : Bool) (key : UInt8) : Script Unit := do
  modify fun s => s.turn on key
  if on && key == 0x6D then
    complain (text "can't access tty; job control turned off")
    modify fun s => s.turn false key

/-- Turns an option on or off that goes by a letter. -/
def turnLetter (on : Bool) (letter : UInt8) : Script Unit := do
  if (optionTable.any fun o => o.2 == some letter) then turn on letter
  else fail (text "Illegal option -" ++ [letter])

/-- Turns an option on or off that goes by a name; without a name all are written. -/
def turnNamed (starting on : Bool) : List Bytes → Script (List Bytes)
  | [] => do
    listOptions on starting
    return []
  | name :: words => do
    match optionTable.find? fun o => text o.1 == name with
    | some (known, _) => turn on (optionKey known)
    | none => fail (text "Illegal option -o " ++ name)
    return words

/-- What the options at the start of some words ask for. -/
structure OptionWords where
  /-- Whether a command is given among the words. -/
  command : Bool
  /-- The words after the options. -/
  rest : List Bytes
  /-- Whether the words after the options are the arguments even if there are none. -/
  ended : Bool

/-- Carries out the letters of a word of options. -/
def takeLetters (starting on : Bool) : Bytes → (command : Bool) → List Bytes →
    Script (Bool × List Bytes)
  | [], command, words => return (command, words)
  | letter :: letters, command, words => do
    if starting && letter == 0x63 then takeLetters starting on letters true words
    else if starting && letter == 0x6C then takeLetters starting on letters command words
    else if letter == 0x6F then
      let words ← turnNamed starting on words
      takeLetters starting on letters command words
    else
      turnLetter on letter
      takeLetters starting on letters command words

/-- Carries out the options at the start of some words; `starting` tells whether they start the
interpreter. -/
def takeOptions (starting : Bool) : Nat → (command : Bool) → List Bytes → Script OptionWords
  | 0, command, words => return ⟨command, words, false⟩
  | _, command, [] => return ⟨command, [], false⟩
  | fuel + 1, command, word :: words => do
    match word with
    | [0x2D] =>
      if !starting then modify fun s => (s.turn false 0x78).turn false 0x76
      return ⟨command, words, false⟩
    | [0x2D, 0x2D] => return ⟨command, words, true⟩
    | sign :: letters =>
      if sign != 0x2D && sign != 0x2B then return ⟨command, word :: words, false⟩
      let (command, words) ← takeLetters starting (sign == 0x2D) letters command words
      takeOptions starting fuel command words
    | [] => return ⟨command, word :: words, false⟩

/-- Gives the script other arguments. -/
def setArguments (arguments : List Bytes) : Script Unit :=
  modify fun s => { s with arguments, optionIndex := 1, optionOffset := none }

/-- Sets options and arguments, or writes the variables. -/
def set' (words : List Bytes) : Script Nat := do
  if words.isEmpty then
    say (Variables.listing [] ((← get).bindings.filter fun v => v.value.isSome))
    return 0
  let found ← takeOptions false (words.length + 1) false words
  if found.ended || !found.rest.isEmpty then setArguments found.rest
  return 0

/-- Drops arguments. -/
def shift (words : List Bytes) : Script Nat := do
  let count ← match words with
    | [] => pure 1
    | word :: _ => countOf word
  let arguments := (← get).arguments
  if arguments.length < count then fail (text "can't shift that many")
  setArguments (arguments.drop count)
  return 0

/-- Where `getopts` stands: the next argument, and what is left of the one before it. -/
structure OptionPlace where
  index : Nat
  offset : Option Nat

/-- The kind of an option among the letters that are known: whether it takes a word. -/
def optionIn? (letter : UInt8) : Nat → Bytes → Option Bool
  | 0, _ => none
  | _, [] => none
  | fuel + 1, b :: rest =>
    if b == letter then some (rest.head? == some 0x3A)
    else optionIn? letter fuel (if rest.head? == some 0x3A then rest.tail else rest)

/-- Takes the next option from words, and sets the variable `name` to it. -/
def nextOption (known name : Bytes) (words : List Bytes) : Script Nat := do
  let s ← get
  let index := s.optionIndex
  let finish (letter : UInt8) (done : Bool) (place : OptionPlace) : Script Nat := do
    assign (text "OPTIND") (some (Bytes.ofNat place.index)) false
    assignNamed name (some [letter]) false
    modify fun s => { s with optionIndex := place.index, optionOffset := place.offset }
    return if done then 1 else 0
  let current := words.getD (index - 2) []
  let rest := match s.optionOffset with
    | some offset => if index ≤ 1 || current.length < offset then [] else current.drop offset
    | none => []
  let word := words[index - 1]?
  let quiet := known.head? == some 0x3A
  let (letters, index) :=
    if !rest.isEmpty then (rest, index)
    else match word with
      | some [0x2D, 0x2D] => ([], index + 1)
      | some (0x2D :: b :: letters) => (b :: letters, index + 1)
      | _ => ([], index)
  match letters with
  | [] => finish 0x3F true ⟨index, none⟩
  | letter :: rest => do
    let offset := (words.getD (index - 2) []).length - rest.length
    let refuse (found : UInt8) (message : Bytes) (place : OptionPlace) : Script Nat := do
      if quiet then
        assign (text "OPTARG") (some [letter]) false
        finish found false place
      else
        Program.warn message
        assign (text "OPTARG") none false
        finish 0x3F false place
    match optionIn? letter (known.length + 1) known with
    | none => refuse 0x3F (text "Illegal option -" ++ [letter]) ⟨index, some offset⟩
    | some false =>
      assign (text "OPTARG") (some []) false
      finish letter false ⟨index, some offset⟩
    | some true =>
      if !rest.isEmpty then
        assign (text "OPTARG") (some rest) false
        finish letter false ⟨index, none⟩
      else match words[index - 1]? with
        | some value =>
          assign (text "OPTARG") (some value) false
          finish letter false ⟨index + 1, none⟩
        | none =>
          refuse 0x3A (text "No arg for -" ++ letter :: text " option") ⟨index, none⟩

/-- Takes the next option from the arguments or from other words. -/
def getopts (words : List Bytes) : Script Nat := do
  match ← operands words with
  | known :: name :: rest =>
    let s ← get
    let words := if rest.isEmpty then s.arguments else rest
    if words.length + 1 < s.optionIndex then
      modify fun s => { s with optionIndex := 1, optionOffset := none }
    nextOption known name words
  | _ => fail (text "Usage: getopts optstring var [arg...]")

/-! ## Variables and functions -/

/-- The name and the value that a word sets. -/
def settingOf (word : Bytes) : Bytes × Option Bytes :=
  let name := word.takeWhile (· != 0x3D)
  (name, if name.length < word.length then some (word.drop (name.length + 1)) else none)

/-- Marks a variable, which may get a value. -/
def mark (exports : Bool) (word : Bytes) : Script Unit := do
  let (name, value) := settingOf word
  let known := ((← get).bindings.find? name).isSome
  if value.isSome || !known then
    if exports then assignNamed name value true
    else
      if !isName name then fail (name ++ text ": bad variable name")
      if value.isSome then assignNamed name value false
  modify fun s =>
    let v := s.bindings.get name
    let v := if exports then { v with exported := true } else { v with readOnly := true }
    { s with bindings := s.bindings.put v }

/-- Marks variables as exported or as such that cannot be changed, or writes those that are. -/
def markAll (exports : Bool) (words : List Bytes) : Script Nat := do
  let (found, words) ← match words with
    | word :: rest => do
      if (word.head? == some 0x2D && word.length != 1) then
        let (found, words) ← letters "p" [word]
        pure (found, words ++ rest)
      else pure ([], word :: rest)
    | [] => pure ([], [])
  if found.isEmpty && !words.isEmpty then
    for word in words do mark exports word
  else
    let shown := (← get).bindings.filter fun v => if exports then v.exported else v.readOnly
    say (Variables.listing (text (if exports then "export" else "readonly")) shown)
  return 0

/-- Makes variables a function's own. -/
def localize (words : List Bytes) : Script Nat := do
  if (← get).covered.isEmpty then fail (text "not in a function")
  for word in words do cover word false
  return 0

/-- Takes values away from variables, or forgets functions. -/
def unsetAll (words : List Bytes) : Script Nat := do
  let (found, words) ← letters "vf" words
  let functions := (found.getLast?.map (·.1)) == some 0x66
  for word in words do
    if functions then
      modify fun s => { s with functions := s.functions.filter (·.1 != word) }
    else
      let name := (settingOf word).1
      assignNamed name none false
  return 0

/-! ## Aliases -/

/-- Writes an alias. -/
def sayAlias (name value : Bytes) : Script Unit :=
  say (name ++ 0x3D :: Variables.quotedValue value ++ [0x0A])

/-- Sets and writes aliases. -/
def aliasAll (words : List Bytes) : Script Nat := do
  let aliases := (← get).aliases
  if words.isEmpty then
    for place in List.range Variables.tableSize do
      for (name, value) in aliases.filter fun a => Variables.place a.1 == place do
        sayAlias name value
    return 0
  let mut status := 0
  for word in words do
    let name := word.take 1 ++ (word.drop 1).takeWhile (· != 0x3D)
    if name.length < word.length then
      let value := word.drop (name.length + 1)
      modify fun s =>
        if (s.aliases.lookup name).isSome then
          { s with aliases := s.aliases.map fun a => if a.1 == name then (name, value) else a }
        else { s with aliases := s.aliases ++ [(name, value)] }
    else match (← get).aliases.lookup name with
      | some value => sayAlias name value
      | none =>
        Program.warn (text "alias: " ++ name ++ text " not found")
        status := 1
  return status

/-- Forgets aliases. -/
def unalias (words : List Bytes) : Script Nat := do
  let (found, words) ← letters "a" words
  if !found.isEmpty then
    modify fun s => { s with aliases := [] }
    return 0
  let mut status := 0
  for word in words do
    if ((← get).aliases.lookup word).isSome then
      modify fun s => { s with aliases := s.aliases.filter (·.1 != word) }
    else
      Program.warn (text "unalias: " ++ word ++ text " not found")
      status := 1
  return status

/-! ## Reading -/

/-- A line that is being read: fragments that can be cut and bytes that a backslash protects, last
ones first. -/
abbrev LineParts := List (UInt8 × Bool)

/-- Reads a line byte by byte; tells whether it was terminated. Unless `raw`, a backslash protects
the byte after it, and joins lines. -/
def readParts (raw : Bool) : Nat → (escaped : Bool) → LineParts → Script (LineParts × Bool)
  | 0, _, parts => return (parts, false)
  | fuel + 1, escaped, parts => do
    match ← call (.read Fd.stdin 1) with
    | .ok [b] =>
      if b == 0 then readParts raw fuel escaped parts
      else if escaped then
        readParts raw fuel false (if b == 0x0A then parts else (b, true) :: parts)
      else if b == 0x5C && !raw then readParts raw fuel true parts
      else if b == 0x0A then return (parts, true)
      else readParts raw fuel false ((b, false) :: parts)
    | _ => return (parts, false)

/-- The fragments of a line, protected bytes not being cut. -/
def lineFragments (parts : LineParts) : List Fragment :=
  parts.foldl (fun fragments (b, escaped) =>
    let cut := if escaped then Cut.nowhere else .separators
    match fragments with
    | ⟨cut', grains⟩ :: more =>
      if cut' == cut then ⟨cut, .byte b escaped :: grains⟩ :: more
      else ⟨cut, [.byte b escaped]⟩ :: fragments
    | [] => [⟨cut, [.byte b escaped]⟩]) []

/-- Hands the words of a line out to variables. -/
def handOut : List Bytes → List (List Grain) → Script Unit
  | [], _ => return ()
  | name :: names, fields => do
    assignNamed name (some (Fragment.bytesOf (fields.headD []))) false
    handOut names fields.tail

/-- Reads a line into variables. -/
def read (words : List Bytes) : Script Nat := do
  let (found, names) ← letters "p:r" words
  if names.isEmpty then fail (text "arg count")
  let (parts, terminated) ← readParts (found.any (·.1 == 0x72)) wordBound false []
  let fields := Fragment.cutInto (some names.length) (← separators) (lineFragments parts)
  handOut names fields
  return if terminated then 0 else 1

/-! ## Programs -/

/-- Writes the programs that were found, or looks for programs. -/
def hash (words : List Bytes) : Script Nat := do
  let (found, words) ← letters "r" words
  if !found.isEmpty then
    modify fun s => { s with found := [] }
    return 0
  if words.isEmpty then
    listFound
    return 0
  let mut status := 0
  for word in words do
    modify fun s => { s with found := s.found.filter (·.name != word) }
    match ← meaningOf true word none with
    | .unknown => status := 1
    | _ => pure ()
  return status

/-- Says what words stand for. -/
def type (words : List Bytes) : Script Nat := do
  let mut status := 0
  for word in words do
    status := status ||| (← describe true none word)
  return status

/-- Says what a word stands for. What else the command does is part of running commands. -/
def runCommand (words : List Bytes) : Script Nat := do
  let (found, words) ← letters "pvV" words
  let has (letter : UInt8) : Bool := found.any (·.1 == letter)
  match words with
  | word :: _ =>
    if !has 0x76 && !has 0x56 then return 0
    describe (has 0x56) (if has 0x70 then some standardPath else none) word
  | [] => return 0

/-! ## Resources -/

/-- Writes how long the script and its processes have been busy. -/
def times : Script Nat := do
  let line := text "0m0.000000s 0m0.000000s\n"
  say (line ++ line)
  return 0

/-- Writes a limit; none is known. -/
def ulimit (words : List Bytes) : Script Nat := do
  let _ ← letters "HSatfdscmlpnvwr" words
  say (text "unlimited\n")
  return 0

end PipeShell.Script
