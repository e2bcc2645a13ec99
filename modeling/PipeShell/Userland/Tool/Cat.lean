import PipeShell.Userland.Tool.Printing

/-!
# Copying inputs

`cat` copies its inputs to standard output and can number their lines and make bytes visible, which
is what `Display.show` does to a block, from one state to the next. `tee` copies standard input to
files as well.
-/

namespace PipeShell.Tool

open Calling
open Program (exit)

/-! The name by which a tool was called is `self`: it speaks of itself under it. -/

variable (self : Bytes)

/-! ## Visible bytes -/

/-- What is shown in place of bytes. -/
structure Display where
  numbers : Bool
  /-- Whether empty lines get no numbers. -/
  onlyFilled : Bool
  /-- Whether of empty lines that follow each other only the first is shown. -/
  squeezes : Bool
  lineEnds : Bool
  tabs : Bool
  controls : Bool

namespace Display

/-- A display that options ask for. -/
def ofArguments (a : Arguments) : Display where
  numbers := a.hasAny ["n", "b"]
  onlyFilled := a.has "b"
  squeezes := a.has "s"
  lineEnds := a.hasAny ["A", "e", "E"]
  tabs := a.hasAny ["A", "t", "T"]
  controls := a.hasAny ["A", "e", "v", "t"]

/-- Whether bytes are shown as they are. -/
def isPlain (d : Display) : Bool :=
  !(d.numbers || d.squeezes || d.lineEnds || d.tabs || d.controls)

/-- Where a display is in its output. -/
structure Progress where
  /-- The number of lines that have numbers. -/
  numbered : Nat
  /-- Whether a line has begun, and otherwise how many empty lines came before, at most two. -/
  emptyLines : Option Nat
  /-- Whether a carriage return waits for what follows it. -/
  returned : Bool

/-- Nothing was shown. -/
def Progress.start : Progress := ⟨0, some 0, false⟩

end Display

/-- A byte as it is shown where all but tabs and line feeds are made visible. -/
def visible (b : UInt8) : Bytes :=
  let low (b : UInt8) : Bytes :=
    if b < 0x20 then [0x5E, b + 0x40] else if b == 0x7F then [0x5E, 0x3F] else [b]
  if b < 0x80 then low b else [0x4D, 0x2D] ++ low (b - 0x80)

/-- A text in a column of a width, at its right. -/
def rightAligned (width : Nat) (digits : Bytes) : Bytes :=
  List.replicate (width - digits.length) 0x20 ++ digits

namespace Display

/-- The number of the next line and a tab. -/
def number (p : Progress) : Bytes := rightAligned 6 (Bytes.ofNat (p.numbered + 1)) ++ [0x09]

/-- A line feed as it is shown. -/
def lineFeed (d : Display) (p : Progress) : Progress × Bytes :=
  let ending : Bytes :=
    if d.lineEnds then (if p.returned then text "^M" else []) ++ [0x24, 0x0A] else [0x0A]
  match p.emptyLines with
  | none => ({ p with emptyLines := some 0, returned := false }, ending)
  | some n =>
    let p := { p with emptyLines := some (min 2 (n + 1)) }
    if d.squeezes && 1 ≤ n then (p, [])
    else
      let counts := d.numbers && !d.onlyFilled
      ({ p with numbered := if counts then p.numbered + 1 else p.numbered, returned := false },
        (if counts then number p else []) ++ ending)

/-- A byte that is no line feed as it is shown. -/
def other (d : Display) (p : Progress) (b : UInt8) : Progress × Bytes :=
  let waiting : Bytes := if p.returned then [0x0D] else []
  let fresh := p.emptyLines.isSome && d.numbers
  let start : Bytes := if fresh then number p else []
  let numbered := if fresh then p.numbered + 1 else p.numbered
  if b == 0x0D && d.lineEnds && !d.controls then (⟨numbered, none, true⟩, waiting ++ start)
  else
    let shown : Bytes :=
      if b == 0x09 then if d.tabs then text "^I" else [b]
      else if d.controls then visible b else [b]
    (⟨numbered, none, false⟩, waiting ++ start ++ shown)

/-- A text as it is shown, the pieces in reverse, and the progress after it. -/
def showOnto (d : Display) (p : Progress) (out : List Bytes) (data : Bytes) :
    Progress × List Bytes :=
  data.foldl (fun (p, out) b =>
    let (p, shown) := if b == 0x0A then d.lineFeed p else d.other p b
    (p, shown :: out)) (p, out)

/-- A text as it is shown, and the progress after it. -/
def «show» (d : Display) (p : Progress) (data : Bytes) : Progress × Bytes :=
  let (p, out) := d.showOnto p [] data
  (p, out.reverse.flatten)

end Display

/-! ## cat -/

/-- Writes bytes of `cat`, and ends it if that fails. -/
def writeOut (data : Bytes) : Program Unit := do
  if let .error e ← writeAll Fd.stdout data then
    Program.warn (self ++ text (": write error: " ++ e.systemText))
    exit 1

/-- Shows the bytes of an open file in blocks; an error of reading is given, one of writing ends the
tool. -/
def copyBlocks (d : Display) (fd : Fd) :
    Nat → Display.Progress → Program (Display.Progress × Option Errno)
  | 0, p => return (p, none)
  | fuel + 1, p => do
    match ← call (.read fd 131072) with
    | .error e => return (p, some e)
    | .ok [] => return (p, none)
    | .ok block =>
      let (p, out) := if d.isPlain then (p, block) else d.show p block
      writeOut self out
      copyBlocks d fd fuel p

/-- Whether copying from one open file to another would never end: they are the same regular file,
and there is something left to read. -/
def feedsItself (source target : Fd) : Program (Except Errno Bool) := do
  match ← call (.statusFd source), ← call (.statusFd target) with
  | .error e, _ => return .error e
  | .ok (input, offset), .ok (output, _) =>
    return .ok (input.kind == .regular && input.object == output.object && offset < input.size)
  | _, _ => return .ok false

/-- Shows the inputs from some progress on; gives the progress and whether all went well. -/
def catInputs (d : Display) (p : Display.Progress) (fine : Bool) :
    List Bytes → Program (Display.Progress × Bool)
  | [] => return (p, fine)
  | name :: names => do
    match ← openInput name with
    | .error e =>
      Program.warn (complaint self (Shown.plain name) e)
      catInputs d p false names
    | .ok fd =>
      let (p, fault) ← match ← feedsItself fd Fd.stdout with
        | .error e => pure (p, some (complaint self (Shown.plain name) e))
        | .ok true =>
          let fault := self ++ text ": " ++ Shown.plain name ++ text ": input file is output file"
          pure (p, some fault)
        | .ok false => do
          let (p, e) ← copyBlocks self d fd Calling.patience p
          pure (p, e.map (complaint self (Shown.plain name)))
      if let some fault := fault then Program.warn fault
      closeInput name fd
      catInputs d p (fine && fault.isNone) names

/-- Copies its inputs to standard output, with some bytes made visible if options ask for it. -/
def cat (args : List Bytes) : Program Nat :=
  withArguments self
    [flag "b" "number-nonblank", flag "n" "number", flag "s" "squeeze-blank",
      flag "v" "show-nonprinting", flag "E" "show-ends", flag "T" "show-tabs", flag "A" "show-all",
      flag "e" "", flag "t" "", flag "u" ""] 1 args fun a => do
  match ← call (.statusFd Fd.stdout) with
  | .error e =>
    Program.warn (self ++ text (": standard output: " ++ e.systemText))
    return 1
  | .ok _ =>
    let names := inputs a.operands
    let (p, fine) ← catInputs self (Display.ofArguments a) .start true names
    if p.returned then writeOut self [0x0D]
    let code := if fine then 0 else 1
    if !names.contains dash then return code
    match ← call (.close Fd.stdin) with
    | .ok () => return code
    | .error e =>
      Program.warn (self ++ text (": closing standard input: " ++ e.systemText))
      return 1

/-! ## tee -/

/-- A file that `tee` writes to, and what it calls it. -/
abbrev TeeTarget := Fd × Bytes

/-- Writes a block to each of the files; gives those that take more, and whether all did. -/
def teeBlock (block : Bytes) : List TeeTarget → Program (List TeeTarget × Bool)
  | [] => return ([], true)
  | (fd, name) :: targets => do
    match ← writeAll fd block with
    | .ok () =>
      let (left, fine) ← teeBlock block targets
      return ((fd, name) :: left, fine)
    | .error e =>
      Program.warn (complaint self name e)
      let (left, _) ← teeBlock block targets
      return (left, false)

/-- Copies standard input to the files, as long as there are some that take it; gives whether all
went well. -/
def teeBlocks : Nat → List TeeTarget → (fine : Bool) → Program Bool
  | 0, _, fine | _, [], fine => return fine
  | fuel + 1, targets, fine => do
    match ← call (.read Fd.stdin 8192) with
    | .error e =>
      Program.warn (self ++ text (": read error: " ++ e.systemText))
      return false
    | .ok [] => return fine
    | .ok block =>
      let (targets, all) ← teeBlock self block targets
      teeBlocks fuel targets (fine && all)

/-- Opens the files that the names name; gives those that could be opened and whether all could. -/
def teeTargets (flags : OpenFlags) : List Bytes → Program (List TeeTarget × Bool)
  | [] => return ([], true)
  | name :: names => do
    match ← openAside name flags 0o666 with
    | .ok fd =>
      let (targets, fine) ← teeTargets flags names
      return ((fd, Shown.plain name) :: targets, fine)
    | .error e =>
      Program.warn (complaint self (Shown.plain name) e)
      let (targets, _) ← teeTargets flags names
      return (targets, false)

/-- Copies standard input to standard output and to files. -/
def tee (args : List Bytes) : Program Nat :=
  withArguments self
    [flag "a" "append", flag "i" "ignore-interrupts", ⟨"p", "output-error", .mayWord⟩] 1 args
    fun a => do
  let flags := if a.has "a" then OpenFlags.appending else OpenFlags.writing
  let (targets, opened) ← teeTargets self flags a.operands
  let fine ← teeBlocks self Calling.patience ((Fd.stdout, text "'standard output'") :: targets)
    opened
  match ← call (.close Fd.stdin) with
  | .ok () => return if fine then 0 else 1
  | .error e =>
    Program.warn (self ++ text (": standard input: " ++ e.systemText))
    return 1

end PipeShell.Tool
