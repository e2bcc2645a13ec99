import PipeShell.Userland.Tool.Order
import PipeShell.Userland.Tool.Printing
import PipeShell.Userland.Tool.Translate

/-!
# Sorting

`sort` puts lines in order by keys. A `SortKey` says which part of a line counts (`SortKey.slice`)
and how it is compared (`SortKey.compare`); lines whose keys are all equal are put in the order of
their bytes. `SortRequest.ofArguments` reads what is asked for, `SortRequest.arrange` sorts and
`SortRequest.merge` merges lines that are sorted already.
-/

namespace PipeShell.Tool

open Calling (call)
open Printing

/-! ## Keys -/

/-- How a part of lines is compared. -/
structure SortManner where
  /-- The letters of the orderings. -/
  letters : Bytes
  /-- Whether blanks at the start of the first field do not count. -/
  startBlanks : Bool
  endBlanks : Bool
deriving DecidableEq, Repr

namespace SortManner

/-- The order of bytes. -/
def plain : SortManner := ⟨[], false, false⟩

/-- Whether an ordering was asked for. -/
def has (m : SortManner) (letter : Char) : Bool := m.letters.contains (UInt8.ofNat letter.toNat)

/-- The letters that name orderings. -/
def known : Bytes := text "dfghiMnRrV"

/-- The manner with the letters of a word, up to the first that names no ordering, and what follows
them. A `b` is about the start or the end of a key. -/
def withLetters (m : SortManner) (atStart atEnd : Bool) (word : Bytes) : SortManner × Bytes :=
  let found := word.takeWhile fun b => b == 0x62 || known.contains b
  let blanks := found.contains 0x62
  (⟨m.letters ++ found.filter (· != 0x62), m.startBlanks || (blanks && atStart),
    m.endBlanks || (blanks && atEnd)⟩, word.drop found.length)

/-- The orderings that exclude each other. -/
def conflicts (m : SortManner) : Nat :=
  let kinds := [m.has 'n', m.has 'g', m.has 'h', m.has 'M',
    m.has 'V' || m.has 'R' || m.has 'd' || m.has 'i']
  kinds.count true

/-- The letters that exclude each other, as a message shows them. -/
def conflictLetters (m : SortManner) : Bytes :=
  (text "dfghiMnRV").filter fun b => m.letters.contains b && !(b == 0x69 && m.has 'd')

/-- What counts of a part of a line. -/
def counting (m : SortManner) (slice : Bytes) : Bytes :=
  let kept := if m.has 'd' then slice.filter fun b =>
      Order.isBlank b || Order.isLetter b || Format.isDigit b
    else if m.has 'i' then slice.filter Shown.isVisible
    else slice
  if m.has 'f' then Binary.capitals kept else kept

/-- The order of what counts of two parts. -/
def compare (m : SortManner) (a b : Bytes) : Ordering :=
  let order := if m.has 'n' then Order.numeric a b
    else if m.has 'g' then Order.general a b
    else if m.has 'h' then Order.human a b
    else if m.has 'M' then Order.month a b
    else if m.has 'V' then Order.version a b
    else Order.bytes a b
  if m.has 'r' then order.swap else order

end SortManner

/-- A key of sorting. Fields and bytes are counted from zero. -/
structure SortKey where
  startField : Nat
  startByte : Nat
  /-- The field that the key ends in and the number of bytes of it that count; without them all of
  it counts. -/
  last : Option (Nat × Nat)
  manner : SortManner
deriving DecidableEq, Repr

namespace SortKey

/-- The line after a number of fields, which blanks start or a byte ends; `ended` says whether the
last byte that ends a field is passed over too. -/
def skipFields (tab : Option UInt8) (ended : Bool) : Nat → Bytes → Bytes
  | 0, line => line
  | n + 1, line =>
    match tab with
    | some tab =>
      match line.dropWhile (· != tab) with
      | [] => []
      | b :: rest => if n == 0 && !ended then b :: rest else skipFields (some tab) ended n rest
    | none =>
      skipFields none ended n ((line.dropWhile Order.isBlank).dropWhile fun b => !Order.isBlank b)

/-- The line from the start of the key on. -/
def start (k : SortKey) (tab : Option UInt8) (line : Bytes) : Bytes :=
  let rest := skipFields tab true k.startField line
  let rest := if k.manner.startBlanks then rest.dropWhile Order.isBlank else rest
  rest.drop k.startByte

/-- The line from the end of the key on. -/
def rest (k : SortKey) (tab : Option UInt8) (line : Bytes) : Bytes :=
  match k.last with
  | none => []
  | some (field, 0) => skipFields tab false (field + 1) line
  | some (field, bytes) =>
    let rest := skipFields tab true field line
    let rest := if k.manner.endBlanks then rest.dropWhile Order.isBlank else rest
    rest.drop bytes

/-- The part of a line that the key is about. -/
def slice (k : SortKey) (tab : Option UInt8) (line : Bytes) : Bytes :=
  let found := k.start tab line
  found.take (found.length - (k.rest tab line).length)

/-- What counts of a line for the key. -/
def counting (k : SortKey) (tab : Option UInt8) (line : Bytes) : Bytes :=
  k.manner.counting (k.slice tab line)

/-- The key that is all of a line. -/
def whole (manner : SortManner) : SortKey := ⟨0, 0, none, manner⟩

end SortKey

/-! ## Reading keys -/

/-- The number at the start of a text, and what follows it. -/
def fieldCount (why : String) (word : Bytes) : Except Bytes (Nat × Bytes) :=
  let digits := word.takeWhile Format.isDigit
  if digits.isEmpty then
    .error (text (why ++ ": invalid count at start of ") ++ Shown.marked word)
  else .ok (Format.natOf digits, word.drop digits.length)

/-- What is wrong with a key. -/
def badKey {α : Type} (word : Bytes) (why : String) : Except Bytes α :=
  .error (text (why ++ ": invalid field specification ") ++ Shown.marked word)

/-- The field and the byte in it where a key starts or ends; the byte is zero if none is given. -/
def keyPlace (why : String) (spec rest : Bytes) (fromOne : Bool) :
    Except Bytes (Nat × Nat × Bytes) := do
  let (field, rest) ← fieldCount why rest
  if field == 0 then badKey spec "field number is zero"
  match rest with
  | 0x2E :: rest =>
    let (byte, rest) ← fieldCount "invalid number after '.'" rest
    if fromOne && byte == 0 then badKey spec "character offset is zero"
    return (field - 1, if fromOne then byte - 1 else byte, rest)
  | rest => return (field - 1, 0, rest)

/-- The key that a word describes. -/
def readKey (spec : Bytes) : Except Bytes SortKey := do
  let (field, byte, rest) ← keyPlace "invalid number at field start" spec spec true
  let (manner, rest) := SortManner.plain.withLetters true false rest
  match rest with
  | [] => return ⟨field, byte, none, manner⟩
  | 0x2C :: rest =>
    let (lastField, lastByte, rest) ← keyPlace "invalid number after ','" spec rest false
    let (manner, rest) := manner.withLetters false true rest
    if !rest.isEmpty then badKey spec "stray character in field spec"
    return ⟨field, byte, some (lastField, lastByte), manner⟩
  | _ => badKey spec "stray character in field spec"

/-- A place as it is counted from zero in the old way of writing keys, and the letters after it. -/
def oldPlace? (word : Bytes) : Option (Nat × Nat × Bytes) :=
  match fieldCount "" word with
  | .error _ => none
  | .ok (field, 0x2E :: rest) =>
    match fieldCount "" rest with
    | .error _ => none
    | .ok (byte, rest) => some (field, byte, rest)
  | .ok (field, rest) => some (field, 0, rest)

/-- The words with keys that are written in the old way, such as `+1 -2`, in place of which options
stand; `fuel` bounds their number. -/
def withoutOldKeys : Nat → List Bytes → List Bytes
  | 0, words => words
  | _, [] => []
  | fuel + 1, word :: words =>
    if word == text "--" then word :: words
    else if word.head? != some 0x2B then word :: withoutOldKeys fuel words
    else match oldPlace? word.tail with
      | none => word :: withoutOldKeys fuel words
      | some (field, byte, letters) =>
        if !letters.all fun b => b == 0x62 || SortManner.known.contains b then
          word :: withoutOldKeys fuel words
        else
          let first := Bytes.ofNat (field + 1) ++ 0x2E :: Bytes.ofNat (byte + 1) ++ letters
          match words with
          | (0x2D :: digit :: rest) :: others =>
            if !Format.isDigit digit then text "-k" :: first :: withoutOldKeys fuel words
            else match oldPlace? (digit :: rest) with
              | none => text "-k" :: first :: withoutOldKeys fuel words
              | some (field, byte, letters) =>
                let last := if byte == 0 then Bytes.ofNat (max field 1)
                  else Bytes.ofNat (field + 1) ++ 0x2E :: Bytes.ofNat byte
                text "-k" :: (first ++ 0x2C :: last ++ letters) :: withoutOldKeys fuel others
          | words => text "-k" :: first :: withoutOldKeys fuel words

/-! ## Requests -/

/-- What `sort` is asked for. -/
structure SortRequest where
  keys : List SortKey
  tab : Option UInt8
  /-- Whether lines with equal keys are put in reverse order. -/
  reversed : Bool
  unique : Bool
  stable : Bool
  merges : Bool
  ending : UInt8
  /-- The letter of the option that asks whether lines are sorted. -/
  checks : Option UInt8
  output : Option Bytes

/-- A line with what counts of it for each key. -/
abbrev SortLine := Bytes × List Bytes

namespace SortRequest

/-- The line with what counts of it. -/
def prepare (r : SortRequest) (line : Bytes) : SortLine :=
  (line, r.keys.map fun k => k.counting r.tab line)

/-- The order of what counts for the keys. -/
def compareKeys : List SortKey → List Bytes → List Bytes → Ordering
  | k :: ks, a :: as, b :: bs => (k.manner.compare a b).then (compareKeys ks as bs)
  | _, _, _ => .eq

/-- The order of two lines. -/
def compare (r : SortRequest) (a b : SortLine) : Ordering :=
  let order := compareKeys r.keys a.2 b.2
  if order != .eq || (!r.keys.isEmpty && (r.unique || r.stable)) then order
  else
    let order := Order.bytes a.1 b.1
    if r.reversed then order.swap else order

/-- Lines without those that are equal to the line before them. -/
def withoutRepeats (r : SortRequest) (lines : List SortLine) : List SortLine :=
  (lines.foldl (fun (out : List SortLine) line =>
    match out with
    | previous :: _ => if r.compare previous line == .eq then out else line :: out
    | [] => [line]) []).reverse

/-- The lines in order. -/
def arrange (r : SortRequest) (lines : List Bytes) : List Bytes :=
  let sorted := (lines.map r.prepare).mergeSort fun a b => r.compare a b != .gt
  (if r.unique then r.withoutRepeats sorted else sorted).map (·.1)

/-- The list that has the least first line, and the others; of equal ones it is the first. -/
def leastFirst (r : SortRequest) : List (List SortLine) → Option (SortLine × List (List SortLine))
  | [] => none
  | [] :: others => r.leastFirst others
  | (line :: lines) :: others =>
    match r.leastFirst others with
    | none => some (line, lines :: others)
    | some (other, rest) =>
      if r.compare line other != .gt then some (line, lines :: others)
      else some (other, (line :: lines) :: rest)

/-- The lines of several lists, always the least first one next; `fuel` bounds their number. -/
def mergeLines (r : SortRequest) : Nat → List (List SortLine) → List SortLine
  | 0, _ => []
  | fuel + 1, lists =>
    match r.leastFirst lists with
    | none => []
    | some (line, lists) => line :: r.mergeLines fuel lists

/-- The lines of several sorted lists in order. -/
def merge (r : SortRequest) (lists : List (List Bytes)) : List Bytes :=
  let count := lists.foldl (fun n lines => n + lines.length) 0
  let merged := r.mergeLines (count + 1) (lists.map fun lines => lines.map r.prepare)
  (if r.unique then r.withoutRepeats merged else merged).map (·.1)

/-- The first line that is out of order, with its number; `number` is that of the first line. -/
def disorder? (r : SortRequest) (number : Nat) : List SortLine → Option (Nat × Bytes)
  | a :: b :: lines =>
    let order := r.compare a b
    if order == .gt || (r.unique && order == .eq) then some (number + 1, b.1)
    else r.disorder? (number + 1) (b :: lines)
  | _ => none

/-! ## Options -/

/-- The letters of orderings that have names for `--sort`. -/
def namedOrderings : List (String × String) :=
  [("general-numeric", "g"), ("human-numeric", "h"), ("month", "M"), ("numeric", "n"),
    ("random", "R"), ("version", "V")]

/-- The options of `sort`. -/
def options : List Known :=
  [flag "b" "ignore-leading-blanks", ⟨"", "check", .mayWord⟩, flag "c" "", flag "C" "",
    flag "d" "dictionary-order", flag "f" "ignore-case", flag "g" "general-numeric-sort",
    flag "h" "human-numeric-sort", flag "i" "ignore-nonprinting", taking "k" "key",
    flag "m" "merge", flag "M" "month-sort", flag "n" "numeric-sort", taking "o" "output",
    flag "r" "reverse", flag "R" "random-sort", flag "s" "stable", taking "S" "buffer-size",
    taking "t" "field-separator", taking "T" "temporary-directory", flag "u" "unique",
    flag "V" "version-sort", flag "z" "zero-terminated", taking "" "sort", taking "" "parallel",
    taking "" "batch-size", taking "" "compress-program", taking "" "random-source",
    flag "" "debug"]

/-- The byte that a word names as the one that separates fields. -/
def readTab (word : Bytes) : Except Bytes UInt8 :=
  match word with
  | [] => .error (text "empty tab")
  | [b] => .ok b
  | word => if word == text "\\0" then .ok 0
    else .error (text "multi-character tab " ++ Shown.marked word)

/-- Options that do not go together. -/
def conflict {α : Type} (letters : Bytes) : Except Bytes α :=
  .error (text "options '-" ++ letters ++ text "' are incompatible")

/-- The request and the ordering for all keys after one more option. -/
def withOption (state : SortRequest × SortManner) (option : String × Option Bytes) :
    Except Bytes (SortRequest × SortManner) := do
  let (r, m) := state
  let word := option.2.getD []
  let withCheck (letter : UInt8) : Except Bytes (SortRequest × SortManner) :=
    if r.checks.any (· != letter) then conflict (text "cC")
    else .ok ({ r with checks := some letter }, m)
  match option.1 with
  | "k" => return ({ r with keys := r.keys ++ [← readKey word] }, m)
  | "t" =>
    let tab ← readTab word
    if r.tab.any (· != tab) then .error (text "incompatible tabs")
    return ({ r with tab := some tab }, m)
  | "o" =>
    if r.output.any (· != word) then .error (text "multiple output files specified")
    return ({ r with output := some word }, m)
  | "c" => withCheck 0x63
  | "C" => withCheck 0x43
  | "check" => withCheck (if word.isEmpty || word.head? == some 0x64 then 0x63 else 0x43)
  | "m" => return ({ r with merges := true }, m)
  | "s" => return ({ r with stable := true }, m)
  | "u" => return ({ r with unique := true }, m)
  | "z" => return ({ r with ending := 0 }, m)
  | "sort" =>
    let letter := ((namedOrderings.find? fun n => word.isPrefixOf (text n.1)).map (·.2)).getD ""
    return (r, (m.withLetters true true (text letter)).1)
  | key => return (r, (m.withLetters true true (text key)).1)

/-- What the arguments ask for. Keys without an ordering of their own have that for all. -/
def ofArguments (a : Arguments) : Except Bytes SortRequest := do
  let start : SortRequest := ⟨[], none, false, false, false, false, 0x0A, none, none⟩
  let (r, m) ← a.options.foldlM withOption (start, SortManner.plain)
  let keys := r.keys.map fun k => if k.manner == .plain then { k with manner := m } else k
  let keys := if keys.isEmpty && m != .plain then [SortKey.whole m] else keys
  for k in keys do
    if 1 < k.manner.conflicts then conflict k.manner.conflictLetters
  return { r with keys, reversed := m.has 'r' }

end SortRequest

/-! ## sort -/

variable (self : Bytes)

/-- Ends `sort` with a complaint about a file. -/
def sortFailure {α : Type} (subject : String) (name : Bytes) (e : Errno) : Printing α :=
  give 2 (complaint self (text (subject ++ ": ") ++ Shown.plain name) e)

/-- Looks whether the inputs can be read. -/
def checkReadable : List Bytes → Printing Unit
  | [] => return ()
  | name :: names => do
    if name != dash then
      match ← call (.status name) with
      | .error e => sortFailure self "cannot read" name e
      | .ok s => if !s.mode.mayRead then sortFailure self "cannot read" name .accessDenied
    checkReadable names

/-- Looks whether standard input is open, if it is the first input; another one would take its
place. -/
def checkStatus (names : List Bytes) : Printing Unit := do
  if names.head? == some dash then
    if let .error e ← call (.statusFd Fd.stdin) then sortFailure self "stat failed" dash e

/-- The lines of the inputs, each input apart. An input under the number of a standard file stays
open. -/
def sortInputs (ending : UInt8) : List Bytes → Printing (List (List Bytes))
  | [] => return []
  | name :: names => do
    let input ← if name == dash then pure (.ok Fd.stdin) else call (.openFile name .reading 0)
    match input with
    | .error e => sortFailure self "open failed" name e
    | .ok fd =>
      let (data, error) ← Printing.content fd
      if Fd.stdout < fd then lift (Calling.close fd)
      if let some e := error then sortFailure self "read failed" name e
      let parts := Text.splitOn ending data
      let lines := if parts.getLast? == some [] then parts.dropLast else parts
      return lines :: (← sortInputs ending names)

/-- Writes the lines. -/
def writeSorted (target : Bytes) (ending : UInt8) : List Bytes → Printing Unit
  | [] => do
    if let some e ← flush then sortFailure self "fflush failed" target e
  | line :: lines => do
    if let some e ← tryPrint (line ++ [ending]) then sortFailure self "write failed" target e
    writeSorted target ending lines

/-- Tells whether the lines of an input are sorted. -/
def checkSorted (r : SortRequest) (letter : UInt8) (name : Bytes) : Printing Nat := do
  let lists ← sortInputs self r.ending [name]
  match r.disorder? 1 ((lists.flatten).map r.prepare) with
  | none => return 0
  | some (number, line) =>
    if letter == 0x63 then
      complain (self ++ text ": " ++ name ++ text ":" ++ Bytes.ofNat number ++
        text ": disorder: " ++ line)
    return 1

/-- Directs standard output to a file, which is emptied once the inputs were read. -/
def redirectSorted (name : Bytes) (flags : OpenFlags) : Printing Unit := do
  match ← lift (openAside name flags 0o666) with
  | .error e => sortFailure self "open failed" name e
  | .ok fd =>
    let _ ← call (.duplicate fd Fd.stdout)
    lift (Calling.close fd)

/-- Sorts the lines of its inputs. -/
def sort (args : List Bytes) : Program Nat :=
  let words := withoutOldKeys (args.length + 1) args
  withArguments self SortRequest.options 2 words fun a =>
  Printing.toProgram self 2 do
    match SortRequest.ofArguments a with
    | .error fault => give 2 (self ++ text ": " ++ fault)
    | .ok r =>
      let names := inputs a.operands
      if let some letter := r.checks then
        if let name :: _ := names.tail then
          give 2 (self ++ text ": extra operand " ++ Shown.quoted name ++
            text " not allowed with -" ++ [letter])
        if r.output.isSome then
          give 2 (self ++ text ": options '-" ++ [letter] ++ text "o' are incompatible")
        return ← checkSorted self r letter (names.headD dash)
      checkReadable self names
      if let some name := r.output then
        redirectSorted self name { OpenFlags.writing with truncate := false }
      if !r.merges then checkStatus self names
      let lists ← sortInputs self r.ending names
      if let some name := r.output then redirectSorted self name .writing
      let lines := if r.merges then r.merge lists else r.arrange lists.flatten
      writeSorted self (r.output.getD (text "standard output")) r.ending lines
      closeStdin self (text "close failed: -") 2 names
      return 0

end PipeShell.Tool
