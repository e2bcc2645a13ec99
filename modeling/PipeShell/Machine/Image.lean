import PipeShell.Machine.Store

/-!
# Finding programs

`Image.ofPath?` is the program that a path starts, a script being started through the interpreter
that its first line names. `Image.find?` looks a program up by name along `PATH`.
-/

namespace PipeShell

/-- A program and the words it is started with. -/
structure Image where
  program : Bytes
  argv : List Bytes
deriving DecidableEq, Repr

namespace Image

/-! ## Scripts -/

/-- Space and tab, which separate the parts of a script's first line. -/
def isGap (b : UInt8) : Bool := b == 0x20 || b == 0x09

/-- Whether a byte ends the path of an interpreter. -/
def endsPath (b : UInt8) : Bool := isGap b || b == 0

/-- The number of bytes at the start of a file that are looked at. -/
def headSize : Nat := 256

/-- The start of a file, filled up with zeros. -/
def headOf (data : Bytes) : Bytes :=
  data.take headSize ++ List.replicate (headSize - data.length) 0

/-- The first line of a script after its mark. If no line ends at the start of the file, the line is
taken to go on beyond it, and all that must be whole is the path: something has to follow it. -/
def firstLine? (rest : Bytes) : Option Bytes :=
  let line := rest.takeWhile fun b => b != 0x0A && b != 0
  if (rest.drop line.length).head? == some 0x0A then some line
  else if (rest.dropWhile isGap).any endsPath then some rest.dropLast
  else none

/-- The interpreter in the first line of a script, and its argument if there is one. -/
def interpreter? (data : Bytes) : Option (Bytes × List Bytes) :=
  match headOf data with
  | 0x23 :: 0x21 :: rest => do
    let line := ((← firstLine? rest).reverse.dropWhile isGap).reverse.dropWhile isGap
    if line.isEmpty then failure
    let after := line.dropWhile fun b => !endsPath b
    let argument := after.dropWhile isGap
    return (line.takeWhile fun b => !endsPath b,
      if (after.head?.any isGap) && !argument.isEmpty then [argument.takeWhile (· != 0)] else [])
  | _ => none

/-- The number of files that are loaded at most until a program is found: a script, its interpreter,
the interpreter of that if it is a script itself, and so on. -/
def interpreterDepth : Nat := 6

/-! ## Loading -/

/-- The size, with the zero that ends it, up to which a word or a variable can be handed to a
program. -/
def wordLimit : Nat := 131072

/-- The size up to which words and variables can be handed to a program, each with a pointer. -/
def startLimit : Nat := 2097152

/-- Whether a program can be started with these words and variables. -/
def fits (env : Environment) (path : Bytes) (argv : List Bytes) : Bool :=
  let words := argv ++ env.map Environment.entry
  let sizes := words.map fun w => w.length + 1
  sizes.all (· ≤ wordLimit) &&
    sizes.foldl (fun sum size => sum + size + 8) (path.length + 1) ≤ startLimit

/-- The program that a path starts with the given words; `depth` bounds the chain of
interpreters. -/
def load (fs : FileSystem) (view : View) (env : Environment) :
    Nat → Bytes → List Bytes → Except Errno Image
  | 0, _, _ => .error .tooManyLinks
  | depth + 1, path, argv => do
    let .node id ← fs.resolve view path | .error .accessDenied
    match fs.node? id with
    | some (.program mode name) =>
      if !mode.maySearch then .error .accessDenied
      if !fits env path argv then .error .argumentsTooLong
      return ⟨name, argv⟩
    | some (.file mode data) =>
      if !mode.maySearch then .error .accessDenied
      if !fits env path argv then .error .argumentsTooLong
      match interpreter? data with
      | none => .error .badExecutable
      | some (interpreter, argument) =>
        if interpreter.isEmpty then .error .accessDenied
        load fs view env depth interpreter (interpreter :: argument ++ path :: argv.tail)
    | _ => .error .accessDenied

/-- The path of the interpreter for executable files that name none. -/
def shellPath : Bytes := Bytes.ofString "/bin/sh"

/-- The program that a path starts. An executable file that is neither a program nor a script that
names its interpreter is run by the shell. -/
def ofPath? (fs : FileSystem) (view : View) (env : Environment) (path : Bytes)
    (argv : List Bytes) : Except Errno Image :=
  match load fs view env interpreterDepth path argv with
  | .error e =>
    if e = .badExecutable then
      load fs view env interpreterDepth shellPath (shellPath :: path :: argv.tail)
    else .error e
  | image => image

/-! ## Looking up -/

/-- The directories that are searched when `PATH` is not set. -/
def defaultPath : Bytes := Bytes.ofString "/bin:/usr/bin"

/-- The length from which a directory is passed over when a program is looked up along `path`. -/
def directoryLimit (path : Bytes) : Nat := min path.length (FileSystem.pathLimit - 1) + 1

/-- The first program called `name` in a list of directories. A directory that cannot be searched
or an entry that cannot be started is passed over; if nothing is found the failure is a denied
access if there was one, else the last failure. In place of a directory whose path is too long the
working directory is searched, unless it comes last. -/
def search (fs : FileSystem) (view : View) (env : Environment) (limit : Nat) (name : Bytes)
    (argv : List Bytes) : List Bytes → (denied : Bool) → (last : Errno) → Except Errno Image
  | [], denied, last => .error (if denied then .accessDenied else last)
  | dir :: dirs, denied, last =>
    let tooLong := limit ≤ dir.length
    if tooLong && dirs.isEmpty then .error (if denied then .accessDenied else last)
    else
      let path := if dir.isEmpty || tooLong then name else dir ++ FileSystem.slash :: name
      match ofPath? fs view env path argv with
      | .ok image => .ok image
      | .error e =>
        if e = .accessDenied then search fs view env limit name argv dirs true e
        else if e = .noEntry || e = .notDirectory then
          search fs view env limit name argv dirs denied e
        else .error e

/-- The program that a list of words starts: its first word is a path if it holds a slash, and a
name to be looked up along `PATH` otherwise. -/
def find? (fs : FileSystem) (view : View) (env : Environment) (argv : List Bytes) :
    Except Errno Image :=
  match argv with
  | [] => .error .noEntry
  | name :: _ =>
    if argv.any (·.contains 0) then .error .invalid
    else if name.isEmpty then .error .noEntry
    else if name.contains FileSystem.slash then ofPath? fs view env name argv
    else if FileSystem.nameLimit < name.length then .error .nameTooLong
    else
      let path := (env.get? (Bytes.ofString "PATH")).getD defaultPath
      search fs view env (directoryLimit path) name argv (Text.splitOn 0x3A path) false .noEntry

end Image

end PipeShell
