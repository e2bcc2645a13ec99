import PipeShell.Userland.Program
import PipeShell.Userland.Script.Reader
import PipeShell.Userland.Script.Variable

/-!
# What a script remembers

A `Session` is what the interpreter remembers between commands: variables, functions, options, where
the descriptors went that redirections covered, and more. `Script` is a computation that works on a
session, makes calls, and may be left early: because of a fault, which was reported, or because the
script ends (`Leave`). The session stays as it is then.
-/

namespace PipeShell.Script

/-- Why a computation is left early. -/
inductive Leave
  | fault
  /-- The script asked for its end. -/
  | exit
  /-- The process has no more to do. -/
  | finished
deriving DecidableEq, Repr

/-- What commands are passed over. -/
inductive Skip
  | nothing
  /-- Those up to the end of loops. -/
  | break
  /-- Those up to the next round of a loop. -/
  | continue
  /-- Those up to the end of a function or file, the status being given. -/
  | return
  /-- Those up to the end of a function or file. -/
  | returnLast
deriving DecidableEq, Repr

/-- What a variable or the options were before a function changed them for itself. -/
inductive Covered
  | variable (name : Bytes) (before : Option Variable)
  | options (before : Bytes)

/-- A command that was started and not waited for. -/
structure Job where
  /-- The number under which it is known. -/
  number : Nat
  processes : List (Pid × Option ExitStatus)
  /-- Whether the script has waited for it. -/
  waited : Bool
deriving Repr

/-- A program that was found. -/
structure Found where
  name : Bytes
  /-- The position of its directory among those that are searched. -/
  position : Nat
  /-- Whether it may have to be looked for again, the working directory being another one now. -/
  stale : Bool
deriving Repr

/-- What the interpreter remembers. -/
structure Session where
  /-- The name under which it speaks and the value of `$0`. -/
  name : Bytes
  /-- The command of the interpreter that speaks at the moment. -/
  speaker : Option Bytes
  /-- The line of the command that runs. -/
  line : Nat
  /-- The line up to which the script is read. -/
  readLine : Nat
  status : Nat
  /-- The status that the script will end with, or goes back to after a trap. -/
  lastStatus : Option Nat
  /-- The status of the last command whose output stood in a word. -/
  outputStatus : Nat
  /-- The letters of the options that are on. -/
  options : Bytes
  arguments : List Bytes
  /-- The next argument that `getopts` looks at. -/
  optionIndex : Nat
  /-- The next letter in the argument before that. -/
  optionOffset : Option Nat
  bindings : Variables
  /-- What the functions that run have changed for themselves, innermost first. -/
  covered : List (List Covered)
  functions : List (Bytes × Command)
  aliases : List (Bytes × Bytes)
  /-- What is done about signals, and as 0 at the end. -/
  traps : List (Nat × Bytes)
  /-- The signals that are known not to have been ignored from the start. -/
  known : List Nat
  /-- Signals that came and were not yet attended to. -/
  pending : List Nat
  skip : Skip
  skipCount : Nat
  /-- The number of loops that run. -/
  loops : Nat
  /-- The path of the working directory as the script went there; empty if it is unknown. -/
  directory : Bytes
  /-- The number of the process that runs the script itself. -/
  process : Nat
  lastBackground : Option Nat
  /-- The last one first. -/
  jobs : List Job
  /-- Whether this is a process that the script created. -/
  inner : Bool
  /-- Where the descriptors went that redirections cover, innermost first; `none` where nothing was
  open. -/
  saved : List (List (Fd × Option Fd))
  /-- The programs that were found. -/
  found : List Found
  /-- The descriptors from which scripts are read. -/
  scripts : List Fd
  /-- Whether the mark of traced commands is being made. -/
  marking : Bool
  /-- The output of the command that runs, last part first. -/
  out : List Bytes
  outFailed : Bool

end Script

/-- A computation of the interpreter. -/
abbrev Script := ExceptT Script.Leave (StateT Script.Session Program)

namespace Script

instance : Calling Script where
  call c := (Calling.call c : Program _)

/-- A text as bytes. -/
def text (s : String) : Bytes := Bytes.ofString s

/-! ## Speaking -/

/-- Writes the output of the command that runs. -/
def flush : Script Unit := do
  let out := (← get).out
  if !out.isEmpty then
    modify fun s => { s with out := [] }
    if let .error _ ← Calling.writeAll Fd.stdout out.reverse.flatten then
      modify fun s => { s with outFailed := true }

/-- Adds to the output of the command that runs. -/
def say (bytes : Bytes) : Script Unit := modify fun s => { s with out := bytes :: s.out }

/-- What the interpreter says before a complaint. -/
def Session.speech (s : Session) : Bytes :=
  s.name ++ text ": " ++ Bytes.ofNat s.line ++ text ": " ++
    match s.speaker with
    | some speaker => speaker ++ text ": "
    | none => []

/-- Writes a complaint. -/
def complain (message : Bytes) : Script Unit := do
  Program.warn ((← get).speech ++ message)

/-- Writes a complaint and leaves. -/
def fail {α : Type} (message : Bytes) : Script α := do
  complain message
  modify fun s => { s with status := 2 }
  flush
  throw .fault

/-- Leaves because the script is not well-formed. -/
def failSyntax {α : Type} (message : Bytes) : Script α := do
  modify fun s => { s with line := s.readLine }
  fail (text "Syntax error: " ++ message)

/-- The interpreter's word for why a file cannot be opened or created, or a program not be found. -/
def fileFault (missing : String) (e : Errno) : Bytes :=
  text (if e = .noEntry || e = .notDirectory then missing else e.systemText)

/-! ## Numbers -/

/-- White space around numbers. -/
def isSpace (b : UInt8) : Bool := b == 0x20 || (0x09 ≤ b && b ≤ 0x0D)

/-- The bounds of the numbers that scripts reckon with. -/
def leastInteger : Int := -0x8000000000000000

/-- The greatest number that scripts reckon with. -/
def greatestInteger : Int := 0x7FFFFFFFFFFFFFFF

/-- The number that a text writes in base ten, with white space around it. -/
def decimalOf? (word : Bytes) : Option Int :=
  let rest := word.dropWhile isSpace
  let (negative, rest) := match rest with
    | 0x2D :: rest => (true, rest)
    | 0x2B :: rest => (false, rest)
    | rest => (false, rest)
  let digits := rest.takeWhile Reading.isDigit
  let magnitude := digits.foldl (fun n b => 10 * n + (b.toNat - 0x30)) (0 : Nat)
  let value : Int := if negative then -(magnitude : Int) else magnitude
  if digits.isEmpty || !(rest.drop digits.length).all isSpace then none
  else if value < leastInteger || greatestInteger < value then none
  else some value

/-- Leaves because a word is no number. -/
def badNumber {α : Type} (word : Bytes) : Script α := fail (text "Illegal number: " ++ word)

/-- The greatest number of things that a word can give. -/
def greatestCount : Int := 0x7FFFFFFF

/-- The number of things that a word gives. -/
def countOf (word : Bytes) : Script Nat := do
  match decimalOf? word with
  | some n => if n < 0 || greatestCount < n then badNumber word else return n.toNat
  | none => badNumber word

/-! ## Options -/

/-- The options by name, with their letters. -/
def optionTable : List (String × Option UInt8) :=
  [("errexit", some 0x65), ("noglob", some 0x66), ("ignoreeof", some 0x49),
   ("interactive", some 0x69), ("monitor", some 0x6D), ("noexec", some 0x6E),
   ("stdin", some 0x73), ("xtrace", some 0x78), ("verbose", some 0x76), ("vi", some 0x56),
   ("emacs", some 0x45), ("noclobber", some 0x43), ("allexport", some 0x61),
   ("notify", some 0x62), ("nounset", some 0x75), ("privileged", some 0x70), ("nolog", none),
   ("debug", none)]

/-- How an option is kept among the letters of those that are on. Two have none, and are kept by
bytes that are no letters. -/
def optionKey (name : String) : UInt8 :=
  match optionTable.lookup name with
  | some (some letter) => letter
  | _ => if name == "nolog" then 1 else 2

/-- Whether an option is on. -/
def Session.isOn (s : Session) (key : UInt8) : Bool := s.options.contains key

/-- Turns an option on or off. Two of them exclude each other. -/
def Session.turn (s : Session) (on : Bool) (key : UInt8) : Session :=
  let options := s.options.filter (· != key)
  if !on then { s with options }
  else
    let options := if key == 0x56 then options.filter (· != 0x45)
      else if key == 0x45 then options.filter (· != 0x56) else options
    { s with options := key :: options }

/-- The letters of the options that are on, as `$-` gives them. -/
def Session.optionLetters (s : Session) : Bytes :=
  (optionTable.filterMap (·.2)).reverse.filter s.isOn

/-! ## Variables -/

/-- What happens when a variable gets a value: the programs that were found are forgotten, or
`getopts` starts anew. -/
def notice (name value : Bytes) : Script Unit := do
  if name == text "PATH" then modify fun s => { s with found := [] }
  if name == text "OPTIND" then
    let index ← countOf value
    modify fun s => { s with optionIndex := if index == 0 then 1 else index, optionOffset := none }

/-- Leaves if a variable cannot be changed. -/
def mayAssign (name : Bytes) : Script Unit := do
  if ((← get).bindings.find? name).any (·.readOnly) then fail (name ++ text ": is read only")

/-- Gives a variable a value, or takes it away. -/
def assign (name : Bytes) (value : Option Bytes) (exported : Bool) : Script Unit := do
  mayAssign name
  if let some value := value then
    if ((← get).bindings.find? name).isSome then notice name value
  modify fun s => { s with
    bindings := s.bindings.assign (exported || (value.isSome && s.isOn 0x61)) name value }

/-- Gives a variable a value if its name is proper. -/
def assignNamed (name : Bytes) (value : Option Bytes) (exported : Bool) : Script Unit := do
  if !isName name then fail (name ++ text ": bad variable name")
  assign name value exported

/-- The value of a variable. -/
def valueNamed? (name : String) : Script (Option Bytes) := do
  return (← get).bindings.value? (text name)

/-- What words are cut at. -/
def separators : Script Bytes := do
  return (← valueNamed? "IFS").getD (text " \t\n")

/-- Makes a variable, or with a dash the options, the function's own: what it is now comes back when
the function ends. -/
def cover (setting : Bytes) (exported : Bool) : Script Unit := do
  let s ← get
  let keep (c : Covered) : Script Unit := modify fun s =>
    match s.covered with
    | covered :: more => { s with covered := (c :: covered) :: more }
    | [] => s
  if setting == [0x2D] then keep (.options s.options)
  else
    let name := setting.takeWhile (· != 0x3D)
    let value := if name.length < setting.length then some (setting.drop (name.length + 1))
      else none
    let before := s.bindings.find? name
    match before, value with
    | none, none =>
      if !isName name then fail (name ++ text ": bad variable name")
      modify fun s => { s with
        bindings := s.bindings.put ⟨name, none, exported, false, true⟩ }
    | none, some value =>
      if !isName name then fail (name ++ text ": bad variable name")
      assign name (some value) exported
      modify fun s => { s with
        bindings := s.bindings.put { s.bindings.get name with stays := true } }
    | some v, none =>
      modify fun s => { s with bindings := s.bindings.put { v with stays := true } }
    | some v, some value =>
      modify fun s => { s with bindings := s.bindings.put { v with stays := true } }
      assign name (some value) exported
    keep (.variable name before)

/-- Gives back what a function covered, innermost first. -/
def uncover : List Covered → Script Unit
  | [] => return ()
  | .options options :: more => do
    modify fun s => { s with options }
    uncover more
  | .variable name before :: more => do
    match before with
    | some v =>
      if (← get).bindings.value? name != v.value then notice name (v.value.getD [])
      modify fun s => { s with bindings := s.bindings.put v }
    | none => modify fun s => { s with bindings := s.bindings.remove name }
    uncover more

/-- Gives back what was covered since there were `depth` functions. -/
def uncoverTo (depth : Nat) : Nat → Script Unit
  | 0 => return ()
  | fuel + 1 => do
    let s ← get
    match s.covered with
    | covered :: more =>
      if more.length < depth then return ()
      set { s with covered := more }
      uncover covered
      uncoverTo depth fuel
    | [] => return ()

/-! ## Signals -/

/-- What a signal that was not waited for ended a command is called. -/
def signalText (signal : Nat) : String :=
  let known : List (Nat × String) :=
    [(1, "Hangup"), (2, "Interrupt"), (3, "Quit"), (4, "Illegal instruction"),
     (5, "Trace/breakpoint trap"), (6, "Aborted"), (7, "Bus error"),
     (8, "Floating point exception"), (9, "Killed"), (10, "User defined signal 1"),
     (11, "Segmentation fault"), (12, "User defined signal 2"), (13, "Broken pipe"),
     (14, "Alarm clock"), (15, "Terminated"), (16, "Stack fault"), (17, "Child exited"),
     (18, "Continued"), (19, "Stopped (signal)"), (20, "Stopped"), (21, "Stopped (tty input)"),
     (22, "Stopped (tty output)"), (23, "Urgent I/O condition"), (24, "CPU time limit exceeded"),
     (25, "File size limit exceeded"), (26, "Virtual timer expired"),
     (27, "Profiling timer expired"), (28, "Window changed"), (29, "I/O possible"),
     (30, "Power failure"), (31, "Bad system call")]
  match known.lookup signal with
  | some name => name
  | none =>
    if 34 ≤ signal && signal ≤ 64 then "Real-time signal " ++ toString (signal - 34)
    else "Unknown signal " ++ toString signal

/-- The names of the signals from 1 on that have one; others are known by their number. -/
def signalNames : List String :=
  ["HUP", "INT", "QUIT", "ILL", "TRAP", "ABRT", "BUS", "FPE", "KILL", "USR1", "SEGV", "USR2",
   "PIPE", "ALRM", "TERM", "16", "CHLD", "CONT", "STOP", "TSTP", "TTIN", "TTOU", "URG", "XCPU",
   "XFSZ", "VTALRM", "PROF", "WINCH", "IO", "PWR", "SYS", "32", "33", "RTMIN"] ++
  (List.range 15).map (fun i => "RTMIN+" ++ toString (i + 1)) ++
  (List.range 14).map (fun i => "RTMAX-" ++ toString (14 - i)) ++ ["RTMAX"]

/-- The name of a signal, or of the end of a script as 0. -/
def signalName (signal : Nat) : String :=
  if signal == 0 then "EXIT" else (signalNames[signal - 1]?).getD (toString signal)

/-- The number of signals, the end of a script being one. -/
def signalCount : Nat := 65

/-- A byte as a capital letter if it is a letter. -/
def capital (b : UInt8) : UInt8 := if 0x61 ≤ b && b ≤ 0x7A then b - 0x20 else b

/-- The signal that a word names, by its number or by its name; 0 is only known by its name from
`least` 0 on. -/
def signalOf? (word : Bytes) (least : Nat) : Option Nat :=
  if !word.isEmpty && word.all Reading.isDigit then
    let n := word.foldl (fun n b => 10 * n + (b.toNat - 0x30)) 0
    if n < signalCount then some n else none
  else
    (List.range signalCount).find? fun n =>
      least ≤ n && text (signalName n) == word.map capital

end Script

end PipeShell
