import PipeShell.Userland.Script.Builtin.Condition
import PipeShell.Userland.Script.Builtin.Directory
import PipeShell.Userland.Script.Builtin.Output
import PipeShell.Userland.Script.Builtin.Signal
import PipeShell.Userland.Script.Builtin.State

/-!
# Running commands

`Script.evaluator` runs commands. What it does with a command is written once for each kind of it,
in terms of what runs the parts (`Evaluator`); the knot is tied at each depth with one level less to
go. Commands of the interpreter and functions run in its own process, programs and subshells in one
of their own, unless nothing comes after them.
-/

namespace PipeShell.Script

open Calling (call)

/-- Where a command stands. -/
structure Standing where
  /-- Whether the process has nothing to do after it. -/
  final : Bool
  /-- Whether its status is looked at, so that a failure is no reason to end the script. -/
  tested : Bool
deriving Repr

namespace Standing

/-- Among other commands. -/
def among : Standing := ⟨false, false⟩

/-- Where its status is looked at. -/
def condition : Standing := ⟨false, true⟩

/-- The place of a part of a command after which there is more to do. -/
def part (st : Standing) : Standing := { st with final := false }

/-- The place of a part of a command that runs in a process of its own. -/
def alone (st : Standing) : Standing := { st with final := true }

end Standing

/-- What runs a command, or nothing where there is none. -/
abbrev Evaluator := Standing → Option Command → Script Unit

/-- Sets the status. -/
def setStatus (status : Nat) : Script Unit := modify fun s => { s with status }

/-- Notes the line of the command that runs. -/
def setLine (line : Nat) : Script Unit := modify fun s => { s with line }

/-! ## Texts -/

/-- Runs the commands of a text line by line; gives the status of the last one. -/
def evaluateLines (e : Evaluator) (st : Standing) : Nat → Source → (status : Nat) → Script Nat
  | 0, _, status => return status
  | fuel + 1, source, status => do
    match { source with aliases := (← get).aliases }.line? with
    | .error .starved => return status
    | .error (.fault line message) =>
      modify fun s => { s with readLine := line }
      failSyntax message
    | .ok (line, source) =>
      modify fun s => { s with readLine := source.line }
      let here := { st with final := st.final && source.atEnd }
      let found ← match line with
        | .done => return status
        | .blank => pure none
        | .command c => pure (some c)
      e here found
      let s ← get
      let status := if found.isSome then s.status else status
      if s.skip ≠ .nothing then return status
      evaluateLines e st fuel source status

/-- Runs the commands of a text. -/
def evaluateText (e : Evaluator) (st : Standing) (script : Bytes) : Script Nat := do
  let s ← get
  modify fun s => { s with readLine := 1 }
  let status ← evaluateLines e st wordBound (.ofText s.aliases true 1 script) 0
  modify fun t => { t with readLine := s.readLine }
  return status

/-! ## Signals and the end -/

/-- Does what is to be done about signals. -/
def attendTo (e : Evaluator) (status : Nat) : List Nat → Script Unit
  | [] => return ()
  | signal :: signals => do
    if (← get).skip ≠ .nothing then return ()
    modify fun s => { s with pending := s.pending.filter (· != signal) }
    if let some action := (← get).traps.lookup signal then
      let _ ← evaluateText e .among action
      if (← get).skip ≠ .return then setStatus status
    attendTo e status signals

/-- Does what is to be done about the signals that came. The status is what it was before. -/
def attend (e : Evaluator) : Script Unit := do
  takeSignals
  let s ← get
  if !s.pending.isEmpty then
    let status := s.lastStatus.getD s.status
    modify fun s => { s with lastStatus := some status }
    attendTo e status ((List.range signalCount).filter s.pending.contains)
    modify fun t => { t with lastStatus := s.lastStatus }

/-- Takes back what commands that were left have not. -/
def settle (left : Except Leave Unit) : Script Unit := do
  let exits := match left with
    | .error .exit => true
    | _ => false
  modify fun s =>
    let status := match s.lastStatus with
      | some status => if exits || s.skip = .returnLast then status else s.status
      | none => s.status
    { s with status, lastStatus := none, skip := .nothing, loops := 0, marking := false }
  uncoverDescriptorsTo 0 wordBound

/-- Ends a process after its commands; gives the exit code. What is to be done at the end is done
first. -/
def endProcess (e : Evaluator) (left : Except Leave Unit) : Script Nat := do
  settle left
  modify fun s => { s with lastStatus := some s.status }
  let left ← match (← get).traps.lookup 0 with
    | none => pure left
    | some action =>
      modify fun s => { s with traps := s.traps.filter (·.1 != 0), skip := .nothing }
      match ← attempt (evaluateText e .among action) with
      | .ok _ =>
        modify fun s => { s with skip := .returnLast }
        pure left
      | .error leave => pure (.error leave)
  settle left
  flush
  return (← get).status

/-- Creates a process that runs `body`. -/
def start (e : Evaluator) (body : Script Unit) : Script Pid := spawn (endProcess e) body

/-! ## Commands in words -/

/-- Runs a command and gives its output. -/
def outputOf (e : Evaluator) : Runner := fun command => do
  match ← call .makePipe with
  | .error _ => fail (text "Pipe call failed")
  | .ok (readEnd, writeEnd) =>
    let process ← start e do
      Calling.close readEnd
      if writeEnd != Fd.stdout then
        let _ ← call (.duplicate writeEnd Fd.stdout)
        Calling.close writeEnd
      e (Standing.among.alone) (some command)
    Calling.close writeEnd
    let (bytes, _) ← (Calling.readAll readEnd : Script _)
    Calling.close readEnd
    let status ← awaitAll [process] 0
    modify fun s => { s with outputStatus := status }
    return bytes

/-! ## Traces -/

/-- The word that a text is between double quotes. -/
def quotedWord? (aliases : List (Bytes × Bytes)) (text : Bytes) : Option Word :=
  let lister := (Reading.readers Reading.patience).lister
  let draft := Reading.draft lister .script Reading.patience false (.start .double)
  match draft (.ofText aliases true 1 text) with
  | .ok ((d, _), _) => some d.pieces.reverse
  | .error _ => none

/-- What stands before commands that are traced. -/
def traceMark (run : Runner) : Script Bytes := do
  let mark := (← valueNamed? "PS4").getD []
  match quotedWord? (← get).aliases mark with
  | none => return mark
  | some word =>
    match ← attempt (textField run word) with
    | .ok mark => return mark
    | .error .fault => return mark
    | .error leave => throw leave

/-- Writes a command before it runs if commands are traced, to where the complaints of the
interpreter go and not those of the command. -/
def trace (run : Runner) (redirected : Bool) (settings words : List Bytes) : Script Unit := do
  let s ← get
  if s.isOn 0x78 && !s.marking then
    let kept := if redirected then s.saved.head?.bind fun frame => (frame.lookup Fd.stderr).join
      else none
    modify fun s => { s with marking := true }
    let mark ← traceMark run
    modify fun s => { s with marking := false }
    Program.put (kept.getD Fd.stderr) (mark ++ Text.joinWith [0x20] (settings ++ words) ++ [0x0A])

/-! ## Simple commands -/

/-- The words that the first words give, as few of them as give any, and the words that are left. -/
def firstFields (run : Runner) : List Word → Script (List Bytes × List Word)
  | [] => return ([], [])
  | word :: words => do
    let found ← fields run word
    if found.isEmpty then firstFields run words else return (found, words)

/-- A simple command as far as it is known what it calls. -/
structure Called where
  /-- The name and the words after it that are known. -/
  words : List Bytes
  rest : List Word
  /-- The function or the command of the interpreter. -/
  own : Option Meaning
  /-- Whether the name may be that of a function. -/
  functions : Bool
  /-- The directories that are searched in place of those of the script. -/
  directories : Option Bytes
  /-- Whether the first name is that of a special command; nothing is known before. -/
  special : Option Bool
  /-- Whether the settings hold for the command only. -/
  covers : Bool
  /-- Whether words that look like settings are treated as such. -/
  assigns : Bool

/-- Whether it is a certain command of the interpreter that is called. -/
def Called.calls (c : Called) (name : String) : Bool :=
  match c.own with
  | some (.builtin b) => b.name == name
  | _ => false

/-- Passes over the options of `command`, the name of which is not among the words; tells whether
there is a name after them. -/
def passOptions (run : Runner) : Nat → (passed : List Bytes) → Called → Script (Called × Bool)
  | 0, _, c => return (c, false)
  | fuel + 1, passed, c => do
    let fill (c : Called) : Script Called := do
      if !c.words.isEmpty then return c
      let (words, rest) ← firstFields run c.rest
      return { c with words, rest }
    let c ← fill c
    let giveUp (c : Called) : Called × Bool :=
      ({ c with words := passed.reverse ++ c.words }, false)
    match c.words with
    | [] => return giveUp c
    | word :: words =>
      match word with
      | [0x2D, 0x2D] =>
        let c ← fill { c with words }
        if c.words.isEmpty then return giveUp { c with words := [word] }
        return (c, true)
      | 0x2D :: b :: letters =>
        if (b :: letters).all (· == 0x70) then
          passOptions run fuel (word :: passed)
            { c with words, directories := some standardPath }
        else return giveUp c
      | _ => return (c, true)

/-- Finds out what a command calls. -/
def resolve (run : Runner) : Nat → Called → Script Called
  | 0, c => return c
  | fuel + 1, c => do
    let name := c.words.headD []
    let own := (← get).own? c.functions name
    match own with
    | some (.builtin b) =>
      let c := { c with
        own
        special := some (c.special.getD b.special)
        covers := c.special.isSome || !b.special
        assigns := b.assigns }
      if b.name != "command" then return c
      match ← passOptions run wordBound [name] { c with words := c.words.tail } with
      | (c, false) => return c
      | (c, true) => resolve run fuel { c with functions := false }
    | own => return { c with own, covers := true, assigns := false }

/-- The words of a command that are not known yet. -/
def otherFields (run : Runner) (assigns : Bool) : List Word → Script (List Bytes)
  | [] => return []
  | word :: words => do
    let found ← if assigns && isSetting word then do pure [← settingField run word]
      else fields run word
    return found ++ (← otherFields run assigns words)

/-- Sets a variable before a command. -/
def applySetting (c : Called) (exported : Bool) (setting : Bytes) : Script Unit := do
  if c.covers then cover setting true
  else
    let (name, value) := settingOf setting
    assign name value exported

/-- Replaces the words of settings and sets the variables; gives what they say. -/
def applySettings (run : Runner) (c : Called) (exported : Bool) : List Word → Script (List Bytes)
  | [] => return []
  | word :: words => do
    let setting ← settingField run word
    applySetting c exported setting
    return setting :: (← applySettings run c exported words)

/-- Runs a function. -/
def runFunction (e : Evaluator) (tested : Bool) (body : Command) (arguments : List Bytes) :
    Script Unit := do
  let s ← get
  setArguments arguments
  modify fun s => { s with loops := 0 }
  let result ← attempt (e ⟨false, tested⟩ (some body))
  modify fun t => { t with
    arguments := s.arguments
    optionIndex := s.optionIndex
    optionOffset := s.optionOffset
    loops := s.loops
    skip := if t.skip = .return || t.skip = .returnLast then .nothing else t.skip }
  if let .error leave := result then throw leave

/-- Passes over the rest of loops. -/
def skipLoops (skip : Skip) (words : List Bytes) : Script Nat := do
  let count ← match words with
    | [] => pure 1
    | word :: _ =>
      let n ← countOf word
      if n == 0 then badNumber word
      pure n
  modify fun s =>
    let count := min count s.loops
    if count == 0 then s else { s with skip, skipCount := count }
  return 0

/-- Passes over the rest of a function or file. -/
def skipFunction (words : List Bytes) : Script Nat := do
  match words with
  | word :: _ =>
    let status ← countOf word
    modify fun s => { s with skip := .return }
    return status
  | [] =>
    modify fun s => { s with skip := .returnLast }
    return (← get).status

/-- Ends the script. -/
def exit (words : List Bytes) : Script Nat := do
  if let word :: _ := words then
    let status ← countOf word
    modify fun s => { s with lastStatus := some status }
  throw .exit

/-- Starts a program in place of the script if there are words. -/
def exec (words : List Bytes) : Script Nat := do
  let words ← operands words
  if words.isEmpty then return 0
  modify fun s => (s.turn false 0x69).turn false 0x6D
  become words none none

/-! ## Files -/

/-- The number of bytes that are read at a time. -/
def inputSize : Nat := 8192

/-- Writes the lines that were read. -/
def showLines (lines : Bytes) : Script Unit := do
  if (← get).isOn 0x76 then Program.put Fd.stderr lines

/-- The first lines of a text. -/
def firstLines : Nat → Bytes → Bytes
  | 0, _ => []
  | n + 1, text =>
    let line := text.takeWhile (· != 0x0A)
    text.take (line.length + 1) ++ firstLines n (text.drop (line.length + 1))

/-- How often the end of the script is not taken for one if the option says so. -/
def endsIgnored : Nat := 50

/-- Runs the commands that can be read from a descriptor; `top` tells whether they are the script
itself. -/
def evaluateInput (e : Evaluator) (fd : Fd) (top : Bool) : Nat → Source → (status : Nat) →
    Script Nat
  | 0, _, status => return status
  | fuel + 1, source, status => do
    match { source with aliases := (← get).aliases }.line? with
    | .error .starved =>
      match ← call (.read fd inputSize) with
      | .ok (b :: block) =>
        let more := (b :: block).filter (· != 0)
        evaluateInput e fd top fuel { source with rest := source.rest ++ more } status
      | _ => evaluateInput e fd top fuel { source with final := true } status
    | .error (.fault line message) =>
      showLines (firstLines (line + 1 - source.line) source.rest)
      modify fun s => { s with readLine := line }
      failSyntax message
    | .ok (line, after) =>
      showLines (source.rest.take (source.rest.length - after.rest.length))
      modify fun s => { s with readLine := after.line }
      let found ← match line with
        | .done =>
          if top && (← get).isOn 0x49 then
            for _ in List.range endsIgnored do
              Program.put Fd.stderr (text "\nUse \"exit\" to leave shell.\n")
          return status
        | .blank => pure none
        | .command c => pure (some c)
      e .among found
      let s ← get
      let status := if found.isSome then s.status else status
      if s.skip ≠ .nothing then
        if s.skip = .return || s.skip = .returnLast then
          modify fun s => { s with skip := .nothing }
        return status
      evaluateInput e fd top fuel after status

/-- Runs the commands of an open file. What is there of a regular file is read at once. -/
def evaluateFile (e : Evaluator) (fd : Fd) (top : Bool) : Script Nat := do
  let s ← get
  modify fun s => { s with readLine := 1 }
  let whole ← match ← call (.statusFd fd) with
    | .ok (status, _) => pure (status.kind == .regular && fd != Fd.stdin)
    | .error _ => pure false
  let found ← if whole then do
      let (bytes, _) ← (Calling.readAll fd : Script _)
      pure (bytes.filter (· != 0))
    else pure []
  let status ← evaluateInput e fd top wordBound (.ofText s.aliases whole 1 found) 0
  modify fun t => { t with readLine := s.readLine }
  return status

/-- Opens the file of a script, out of the way of the descriptors that scripts use. -/
def openScript (path : Bytes) : Script Fd := do
  match ← call (.openFile path .reading 0) with
  | .error e => cannotOpen false path e
  | .ok fd =>
    let fd ← if fd < keepAbove then do pure ((← keepDescriptor fd).getD fd) else pure fd
    modify fun s => { s with scripts := fd :: s.scripts }
    return fd

/-- Runs the commands of a file, which is looked for along `PATH`. -/
def source (e : Evaluator) (words : List Bytes) : Script Nat := do
  match ← operands words with
  | [] => return 0
  | name :: _ =>
    let path ← if name.contains FileSystem.slash then pure name
      else do
        let directories := Text.splitOn 0x3A (← searchPath)
        match ← searchFrom name none directories 0 .noEntry with
        | .ok position => pure (pathIn (directories.getD position []) name)
        | .error _ => fail (name ++ text ": not found")
    let fd ← openScript path
    modify fun s => { s with speaker := some path }
    let status ← evaluateFile e fd false
    Calling.close fd
    modify fun s => { s with scripts := s.scripts.filter (· != fd) }
    return status

/-! ## Commands of the interpreter -/

/-- Carries out a command of the interpreter; gives its status. -/
def carryOut (e : Evaluator) (tested : Bool) (name : String) (words : List Bytes) : Script Nat :=
  match name with
  | ":" | "true" => return 0
  | "false" => return 1
  | "." => source e words
  | "eval" =>
    if words.isEmpty then return 0
    else evaluateText e ⟨false, tested⟩ (Text.joinWith [0x20] words)
  | "break" => skipLoops .break words
  | "continue" => skipLoops .continue words
  | "return" => skipFunction words
  | "exit" => exit words
  | "exec" => exec words
  | "set" => set' words
  | "shift" => shift words
  | "times" => times
  | "trap" => trap words
  | "unset" => unsetAll words
  | "export" => markAll true words
  | "readonly" => markAll false words
  | "local" => localize words
  | "alias" => aliasAll words
  | "unalias" => unalias words
  | "cd" | "chdir" => cd words
  | "pwd" => pwd words
  | "umask" => umask words
  | "ulimit" => ulimit words
  | "echo" => echo words
  | "printf" => printf words
  | "read" => read words
  | "getopts" => getopts words
  | "hash" => hash words
  | "type" => type words
  | "command" => runCommand words
  | "kill" => kill words
  | "wait" => wait words
  | "jobs" => jobs words
  | "fg" | "bg" => resumeJob words
  | name => runTest (text name) words

/-- Runs a command of the interpreter, which speaks under its name meanwhile, and writes what it has
to say. -/
def runBuiltin (e : Evaluator) (tested : Bool) (b : Builtin) (name : Bytes) (words : List Bytes) :
    Script (Except Leave Unit) := do
  let s ← get
  modify fun s => { s with speaker := some name }
  let result ← attempt do
    let status ← carryOut e tested b.name words
    flush
    if (← get).outFailed then
      complain (name ++ text ": I/O error")
      setStatus (status ||| 1)
    else setStatus status
  modify fun t => { t with speaker := s.speaker, out := [], outFailed := false }
  return result

/-! ## Running simple commands -/

/-- Runs a program in a process of its own. -/
def runProgram (words : List Bytes) (directories : Option Bytes) (position : Option Nat) :
    Script Nat := do
  let s ← get
  let child : Program Nat := do
    let (_, s) ← (become words directories position : Script Unit).run.run s
    return s.status
  let process ← (Program.fork child : Program _)
  awaitAll [process] 0

/-- Runs what a command calls; gives its status. -/
def runCalled (e : Evaluator) (st : Standing) (c : Called) : Script Nat := do
  let name := c.words.headD []
  match c.own with
  | some (.function body) =>
    runFunction e st.tested body c.words.tail
    return (← get).status
  | some (.builtin b) =>
    match ← runBuiltin e st.tested b name c.words.tail with
    | .ok () => pure ()
    | .error leave => if leave ≠ .fault || c.special == some true then throw leave
    if !(← get).jobs.isEmpty then pollJobs
    return (← get).status
  | _ =>
    match ← programOrComplain name c.directories with
    | .program position =>
      if st.final && !(← get).hasTraps then become c.words c.directories position
      else runProgram c.words c.directories position
    | _ => return 127

/-- Carries out redirections whose former state is kept; tells whether that succeeded. -/
def redirectKept (run : Runner) (targets : List Target) : Script Bool := do
  if targets.isEmpty then return true
  modify fun s => { s with saved := [] :: s.saved }
  match ← attempt (redirectAll run true targets) with
  | .ok () => return true
  | .error .fault => return false
  | .error leave => throw leave

/-- The status after a redirection failed. -/
def redirectFailed : Nat := 2

/-- Runs a simple command; gives its status. -/
def runSimple (e : Evaluator) (st : Standing) (line : Nat) (settings words : List Word)
    (redirects : List Redirect) : Script Nat := do
  let run := outputOf e
  setLine line
  modify fun s => { s with outputStatus := 0 }
  let (first, rest) ← firstFields run words
  let nothing : Called := ⟨first, rest, none, true, none, none, false, false⟩
  let c ← if first.isEmpty then pure nothing else resolve run wordBound nothing
  let more ← otherFields run c.assigns c.rest
  let c := { c with words := c.words ++ more, rest := [] }
  let replaces := c.calls "exec"
  let s ← get
  if c.covers then modify fun s => { s with covered := [] :: s.covered }
  let targets ← targetsOf run redirects
  let finish (status : Nat) : Script Nat := do
    if !targets.isEmpty then uncoverDescriptors replaces
    uncoverDescriptorsTo s.saved.length wordBound
    modify fun t => { t with readLine := s.readLine }
    uncoverTo s.covered.length wordBound
    return status
  let bail (status : Nat) : Script Nat := do
    setStatus status
    if c.special == some true then throw .fault
    finish status
  if !(← redirectKept run targets) then bail redirectFailed
  else
    let settings ← applySettings run c (replaces && 1 < c.words.length) settings
    trace run (!targets.isEmpty) settings c.words
    if c.words.isEmpty then
      setStatus (← get).outputStatus
      finish (← get).status
    else finish (← runCalled e st c)

/-! ## Pipelines -/

/-- Finds the program of a stage beforehand, so that it is known to the script. -/
def lookAhead : Command → Script Unit
  | .simple _ _ (word :: _) _ => do
    match plain? word with
    | some name =>
      if isName name && ((← get).own? true name).isNone then
        let _ ← program name none
    | none => return ()
  | _ => return ()

/-- Starts the stages of a pipeline from the one on that reads from `input`; gives their
processes. -/
def startStages (e : Evaluator) (st : Standing) (background : Bool) :
    (first : Bool) → (input : Option Fd) → List Command → Script (List Pid)
  | _, _, [] => return []
  | first, input, stage :: stages => do
    lookAhead stage
    let ends ← if stages.isEmpty then pure none
      else match ← call .makePipe with
        | .ok ends => pure (some ends)
        | .error _ =>
          if let some fd := input then Calling.close fd
          fail (text "Pipe call failed")
    let process ← start e do
      if background then goToBackground first
      if let some (readEnd, _) := ends then Calling.close readEnd
      if let some fd := input then
        if fd != Fd.stdin then
          let _ ← call (.duplicate fd Fd.stdin)
          Calling.close fd
      if let some (_, writeEnd) := ends then
        if Fd.stdout < writeEnd then
          let _ ← call (.duplicate writeEnd Fd.stdout)
          Calling.close writeEnd
      e st.alone (some stage)
    if let some fd := input then Calling.close fd
    if let some (_, writeEnd) := ends then Calling.close writeEnd
    return process :: (← startStages e st background false (ends.map (·.1)) stages)

/-! ## Loops -/

/-- What is passed over at the end of a round of a loop. -/
def skipAfterRound : Script Skip := do
  let s ← get
  match s.skip with
  | .break | .continue =>
    if s.skipCount ≤ 1 then
      set { s with skip := .nothing, skipCount := 0 }
      return s.skip
    set { s with skipCount := s.skipCount - 1 }
    return .break
  | skip => return skip

/-- Runs rounds of a loop as long as the test says so; gives the status of the last round. -/
def rounds (e : Evaluator) (st : Standing) (ends : Bool) (test body : Command) :
    Nat → (status : Nat) → Script Nat
  | 0, status => return status
  | fuel + 1, status => do
    e .condition (some test)
    let tested := (← get).status
    match ← skipAfterRound with
    | .nothing =>
      if (tested == 0) == ends then return status
      e st.part (some body)
      let status := (← get).status
      match ← skipAfterRound with
      | .nothing | .continue => rounds e st ends test body fuel status
      | _ => return status
    | .continue => rounds e st ends test body fuel status
    | .return => return tested
    | _ => return status

/-- Runs the body of a loop for each of some words. -/
def roundsFor (e : Evaluator) (st : Standing) (name : Bytes) (body : Command) :
    List Bytes → (status : Nat) → Script Nat
  | [], status => return status
  | word :: words, _ => do
    assignNamed name (some word) false
    e st.part (some body)
    let status := (← get).status
    match ← skipAfterRound with
    | .nothing | .continue => roundsFor e st name body words status
    | _ => return status

/-- Runs a loop inside of which there is one loop more. -/
def inLoop (body : Script Nat) : Script Nat := do
  modify fun s => { s with loops := s.loops + 1 }
  let status ← body
  modify fun s => { s with loops := s.loops - 1 }
  return status

/-- Whether a word matches one of some patterns. -/
def matchesAny (run : Runner) (word : Bytes) : List Word → Script Bool
  | [] => return false
  | pattern :: patterns => do
    if (← patternField run pattern).accepts word then return true
    matchesAny run word patterns

/-- The command that is chosen for a word, if a pattern matches it. -/
def chosen (run : Runner) (word : Bytes) : List Arm → Script (Option (Option Command))
  | [] => return none
  | .mk patterns body :: arms => do
    if ← matchesAny run word patterns then return some body
    chosen run word arms

/-! ## Commands -/

/-- Runs a command; gives its status if it has one of its own. -/
def perform (e : Evaluator) (st : Standing) : Command → Script (Option Nat)
  | .simple line settings words redirects => some <$> runSimple e st line settings words redirects
  | .pipeline background stages => do
    let processes ← startStages e st background true none stages
    if background then
      addJob processes
      return some 0
    return some (← awaitAll processes 0)
  | .redirected line body redirects => do
    setLine line
    let targets ← targetsOf (outputOf e) redirects
    let status ← if ← redirectKept (outputOf e) targets then do
        e st.part (some body)
        pure (← get).status
      else pure redirectFailed
    if !targets.isEmpty then uncoverDescriptors false
    return some status
  | .background line body redirects => do
    setLine line
    let targets ← targetsOf (outputOf e) redirects
    let process ← start e do
      goToBackground true
      redirectAll (outputOf e) false targets
      e Standing.among.alone (some body)
    addJob [process]
    return some 0
  | .subshell line body redirects => do
    setLine line
    let targets ← targetsOf (outputOf e) redirects
    let inside : Script Unit := do
      redirectAll (outputOf e) false targets
      e st.alone (some body)
    if st.final && !(← get).hasTraps then
      inside
      return none
    return some (← awaitAll [← start e inside] 0)
  | .both first second => do
    e .condition (some first)
    let s ← get
    if s.status != 0 || s.skip ≠ .nothing then return none
    e st (some second)
    return none
  | .either first second => do
    e .condition (some first)
    let s ← get
    if s.status == 0 || s.skip ≠ .nothing then return none
    e st (some second)
    return none
  | .sequence first second => do
    e st.part (some first)
    if (← get).skip ≠ .nothing then return none
    e st (some second)
    return none
  | .branch test yes no => do
    e .condition (some test)
    let s ← get
    if s.skip ≠ .nothing then return none
    if s.status == 0 then
      e st (some yes)
      return none
    match no with
    | some no =>
      e st (some no)
      return none
    | none => return some 0
  | .loop ends test body => some <$> inLoop (rounds e st ends test body wordBound 0)
  | .each line name words body => do
    setLine line
    let words ← otherFields (outputOf e) false words
    some <$> inLoop (roundsFor e st name body words 0)
  | .choice line word arms => do
    setLine line
    let found ← field (outputOf e) word
    match ← chosen (outputOf e) found arms with
    | some (some body) =>
      if (← get).skip = .nothing then
        e st (some body)
        return none
      return some 0
    | _ => return some 0
  | .definition _ name body => do
    modify fun s => { s with
      functions := (name, body) :: s.functions.filter (·.1 != name) }
    return some 0
  | .negation body => do
    e .condition (some body)
    return some (if (← get).status == 0 then 1 else 0)

/-- Whether the script may end because of the status of a command. -/
def isChecked : Command → Bool
  | .simple .. | .pipeline .. | .subshell .. | .background .. => true
  | _ => false

/-- Runs a command and attends to signals before and after it. -/
def evaluate (e : Evaluator) (st : Standing) (command : Option Command) : Script Unit := do
  let command := if (← get).isOn 0x6E then none else command
  if let some command := command then
    attend e
    if let some status ← perform e st command then setStatus status
    let status := (← get).status
    attend e
    if (← get).isOn 0x65 && !st.tested && isChecked command && status != 0 then throw .finished
  else attend e
  if st.final then throw .finished

/-- The signal that ends a process whose commands are too deep inside of each other. -/
def depthSignal : Nat := 11

/-- What runs commands that are at most `depth` deep inside of each other. -/
def evaluator : (depth : Nat) → Evaluator
  | 0 => fun _ _ => do
    let _ ← (Program.kill (← call .processId) depthSignal : Program _)
    throw .finished
  | depth + 1 => fun st command => evaluate (evaluator depth) st command

end PipeShell.Script
