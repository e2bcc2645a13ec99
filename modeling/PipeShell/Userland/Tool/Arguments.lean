import PipeShell.Userland.Program
import PipeShell.Userland.Format
import PipeShell.Userland.Shown

/-!
# Arguments of tools

A tool knows options (`Known`) by a letter, a long name or both, and some of them take a word.
`Arguments.of` tells the options among the words of a tool from its operands: letters may share a
dash, long names may be cut short as long as they stay clear, and after `--` all words are operands.
`withArguments` runs a tool with them, or complains.
-/

namespace PipeShell.Tool

/-- A text as bytes. -/
def text (s : String) : Bytes := Bytes.ofString s

/-- The operand that means standard input. -/
def dash : Bytes := [0x2D]

/-- Whether an option takes a word. -/
inductive Takes
  | nothing
  | word
  /-- The word is part of the option if there is one. -/
  | mayWord
deriving DecidableEq, Repr

/-- An option that a tool knows. -/
structure Known where
  /-- Its letter, or nothing. -/
  letter : String
  /-- Its long name, or nothing. -/
  name : String
  takes : Takes
deriving Repr

/-- An option without a word. -/
def flag (letter name : String) : Known := ⟨letter, name, .nothing⟩

/-- An option with a word. -/
def taking (letter name : String) : Known := ⟨letter, name, .word⟩

/-- What an option is called among the options that were found. -/
def Known.key (k : Known) : String := if k.letter.isEmpty then k.name else k.letter

/-- The options without words that have only a letter. -/
def letters (s : String) : List Known := s.toList.map fun c => flag (String.singleton c) ""

/-- The arguments of a tool. -/
structure Arguments where
  /-- The options in the order in which they stand, with the words that they take. -/
  options : List (String × Option Bytes)
  operands : List Bytes
  /-- What is wrong after these options. -/
  fault : Option Bytes

namespace Arguments

/-- Whether an option was given. -/
def has (a : Arguments) (key : String) : Bool := a.options.any (·.1 == key)

/-- Whether one of some options was given. -/
def hasAny (a : Arguments) (keys : List String) : Bool := keys.any a.has

/-- The last of some options, with its word. -/
def last? (a : Arguments) (keys : List String) : Option (String × Option Bytes) :=
  a.options.reverse.find? fun o => keys.contains o.1

/-- The word of an option as it was given last. -/
def word? (a : Arguments) (key : String) : Option Bytes := (a.last? [key]).bind (·.2)

/-- The words of an option each time it was given. -/
def words (a : Arguments) (key : String) : List Bytes :=
  (a.options.filter (·.1 == key)).filterMap (·.2)

/-- The arguments with an option before them. -/
def withOption (a : Arguments) (key : String) (word : Option Bytes) : Arguments :=
  { a with options := (key, word) :: a.options }

/-- The arguments with an operand before them. -/
def withOperand (a : Arguments) (word : Bytes) : Arguments :=
  { a with operands := word :: a.operands }

/-- No arguments after something that is wrong. -/
def wrong (message : Bytes) : Arguments := ⟨[], [], some message⟩

/-! ## Long names -/

/-- The long options that a name stands for: the one that has it, or all that start with it. -/
def candidates (known : List Known) (name : Bytes) : List Known :=
  let named := known.filter fun k => !k.name.isEmpty
  match named.find? fun k => text k.name == name with
  | some k => [k]
  | none => named.filter fun k => name.isPrefixOf (text k.name)

/-- A name between apostrophes after two dashes. -/
def shownName (name : Bytes) : Bytes := text "'--" ++ name ++ [0x27]

/-- The option that a name stands for, or what is wrong with it. -/
def longOption (known : List Known) (name : Bytes) : Except Bytes Known :=
  match candidates known name with
  | [] => .error (text "unrecognized option " ++ shownName name)
  | k :: ks =>
    if ks.all fun other => other.key == k.key && other.takes == k.takes then .ok k
    else .error (text "option " ++ shownName name ++ text " is ambiguous; possibilities:" ++
      (k :: ks).flatMap fun k => 0x20 :: shownName (text k.name))

/-! ## Words -/

/-- The options that the letters of a word are, and the arguments after it. -/
def ofLetters (known : List Known) (rest : List Bytes → Arguments) : Bytes → List Bytes → Arguments
  | [], words => rest words
  | letter :: letters, words =>
    match known.find? fun k => text k.letter == [letter] with
    | none => wrong (text "invalid option -- '" ++ [letter, 0x27])
    | some k =>
      match k.takes with
      | .nothing => (ofLetters known rest letters words).withOption k.key none
      | .mayWord => (rest words).withOption k.key (if letters.isEmpty then none else some letters)
      | .word =>
        if !letters.isEmpty then (rest words).withOption k.key (some letters)
        else match words with
          | word :: words => (rest words).withOption k.key (some word)
          | [] => wrong (text "option requires an argument -- '" ++ [letter, 0x27])

/-- The option that a long word is, and the arguments after it. -/
def ofLong (known : List Known) (rest : List Bytes → Arguments) (word : Bytes)
    (words : List Bytes) : Arguments :=
  let name := word.takeWhile (· != 0x3D)
  let value := if name.length < word.length then some (word.drop (name.length + 1)) else none
  match longOption known name with
  | .error message => wrong (if message.head? == some 0x75 then
      text "unrecognized option " ++ shownName word else message)
  | .ok k =>
    match k.takes, value, words with
    | .nothing, some _, _ =>
      wrong (text "option " ++ shownName (text k.name) ++ text " doesn't allow an argument")
    | .word, none, word :: words => (rest words).withOption k.key (some word)
    | .word, none, [] =>
      wrong (text "option " ++ shownName (text k.name) ++ text " requires an argument")
    | _, value, words => (rest words).withOption k.key value

/-- The arguments that words are; `fuel` bounds their number. In order, the first operand ends the
options. -/
def ofWords (known : List Known) (ordered : Bool) : Nat → List Bytes → Arguments
  | 0, words => ⟨[], words, none⟩
  | _, [] => ⟨[], [], none⟩
  | fuel + 1, word :: words =>
    match word with
    | [0x2D, 0x2D] => ⟨[], words, none⟩
    | 0x2D :: 0x2D :: name => ofLong known (ofWords known ordered fuel) name words
    | 0x2D :: letter :: letters =>
      ofLetters known (ofWords known ordered fuel) (letter :: letters) words
    | word =>
      if ordered then ⟨[], word :: words, none⟩
      else (ofWords known ordered fuel words).withOperand word

/-- The arguments that words are. -/
def of (known : List Known) (ordered : Bool) (words : List Bytes) : Arguments :=
  ofWords (known ++ [flag "" "help", flag "" "version"]) ordered (words.length + 1) words

/-- The first thing that is wrong: with an option, which `check` finds out, or after the options.
The flag tells whether help may be of use. -/
def firstFault (a : Arguments) (check : String → Bytes → Option (Bytes × Bool)) :
    Option (Bytes × Bool) :=
  match a.options.findSome? fun o => check o.1 (o.2.getD []) with
  | some fault => some fault
  | none => a.fault.map (·, true)

end Arguments

/-! ## Running tools -/

/-- What a tool adds to a complaint about the words that it was given. -/
def seeHelp (tool : Bytes) : Bytes :=
  text "\nTry '" ++ tool ++ text " --help' for more information."

/-- Complains that the words make no sense; gives the exit code. -/
def misuse (tool : Bytes) (code : Nat) (message : Bytes) : Program Nat := do
  Program.warn (tool ++ text ": " ++ message ++ seeHelp tool)
  return code

/-- Complains; gives the exit code. -/
def refuse (tool : Bytes) (code : Nat) (message : Bytes) : Program Nat := do
  Program.warn (tool ++ text ": " ++ message)
  return code

/-- Runs a tool with arguments that are checked; what is wrong with them ends it with an exit
code. -/
def withChecked (tool : Bytes) (known : List Known) (ordered : Bool) (code : Nat)
    (check : String → Bytes → Option (Bytes × Bool)) (words : List Bytes)
    (body : Arguments → Program Nat) : Program Nat :=
  let a := Arguments.of known ordered words
  match a.firstFault check with
  | some (message, true) => misuse tool code message
  | some (message, false) => refuse tool code message
  | none => if a.hasAny ["help", "version"] then return 0 else body a

/-- Runs a tool with its arguments. -/
def withArguments (tool : Bytes) (known : List Known) (code : Nat) (words : List Bytes)
    (body : Arguments → Program Nat) : Program Nat :=
  withChecked tool known false code (fun _ _ => none) words body

/-! ## Complaints and inputs -/

/-- A complaint of a tool about a system call. -/
def complaint (tool : Bytes) (subject : Bytes) (e : Errno) : Bytes :=
  tool ++ text ": " ++ subject ++ text (": " ++ e.systemText)

/-- What a tool calls one of its inputs. -/
def inputName (name : Bytes) : Bytes :=
  if name == dash then text "'standard input'" else Shown.quoted name

/-- The inputs that the operands name; standard input if there are none. -/
def inputs (operands : List Bytes) : List Bytes := if operands.isEmpty then [dash] else operands

/-- Opens a file under a number above those of the standard files, even if these are closed. -/
def openAside (path : Bytes) (flags : OpenFlags) (mode : Mode) : Program (Except Errno Fd) := do
  match ← Calling.call (.openFile path flags mode) with
  | .error e => return .error e
  | .ok fd =>
    if Fd.stderr < fd then return .ok fd
    let moved ← Calling.call (.duplicateAbove fd (Fd.stderr + 1))
    Calling.close fd
    return moved

/-- Opens an input. -/
def openInput (name : Bytes) : Program (Except Errno Fd) :=
  if name == dash then return .ok Fd.stdin else openAside name .reading 0

/-- Closes an input that was opened. -/
def closeInput (name : Bytes) (fd : Fd) : Program Unit :=
  if name == dash then return () else Calling.close fd

/-- Complains about operands that are missing. -/
def missingOperand (tool : Bytes) : Program Nat := misuse tool 1 (text "missing operand")

/-- Complains about an operand too many. -/
def extraOperand (tool : Bytes) (code : Nat) (word : Bytes) : Program Nat :=
  misuse tool code (text "extra operand " ++ Shown.quoted word)

end PipeShell.Tool
