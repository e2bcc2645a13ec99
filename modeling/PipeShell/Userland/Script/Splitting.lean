import PipeShell.Userland.Script.Pattern

/-!
# Cutting values into words

What a word becomes when parameters and the like are replaced is a list of `Fragment`s. Those that
come from values are cut at separators. `Fragment.cut` gives the words. White space among the
separators also counts when it is repeated or stands at an end, other separators end one word
each.
-/

namespace PipeShell.Script

/-- A byte of a word, or a quote. -/
inductive Grain
  | byte (b : UInt8) (quoted : Bool)
  | quote
deriving DecidableEq, Repr

/-- Where a fragment is cut. -/
inductive Cut
  | nowhere
  /-- At separators. -/
  | separators
  /-- Between arguments, which NUL separates. -/
  | arguments
deriving DecidableEq, Repr

/-- A part of a word. -/
structure Fragment where
  cut : Cut
  grains : List Grain
deriving Repr

namespace Fragment

/-- The fragment of bytes. -/
def ofBytes (cut : Cut) (quoted : Bool) (bytes : Bytes) : Fragment :=
  ⟨cut, bytes.map fun b => .byte b quoted⟩

/-- The bytes of grains. -/
def bytesOf (grains : List Grain) : Bytes :=
  grains.filterMap fun u => match u with
    | .byte b _ => some b
    | .quote => none

/-- The bytes of fragments. -/
def bytes (fragments : List Fragment) : Bytes := fragments.flatMap fun f => bytesOf f.grains

/-- The symbols of grains. A backslash that is not quoted quotes the byte after it. -/
def symbolsOf : List Grain → List Symbol
  | .byte 0x5C false :: .byte b _ :: grains => ⟨b, true⟩ :: symbolsOf grains
  | .byte b quoted :: grains => ⟨b, quoted⟩ :: symbolsOf grains
  | .quote :: grains => symbolsOf grains
  | [] => []

/-! ## Cutting -/

/-- How far the cutting is. -/
structure Cutting where
  /-- The words so far, last one first. -/
  words : List (List Grain)
  /-- The grains of the current word, last one first. -/
  word : List Grain
  /-- Whether white space has just ended a word. -/
  afterBlank : Bool
  /-- Whether the fragment before this one was cut between arguments. -/
  afterArguments : Bool
  /-- The number of words that are still to be cut off; the last of them takes all that is left. -/
  left : Option Nat
  /-- The grains after those of the last word that white space ends; nothing if it goes on. -/
  tail : Option (List Grain)

/-- Whether a byte is white space among the separators that are usual. -/
def isBlank (b : UInt8) : Bool := b == 0x20 || b == 0x09 || b == 0x0A || b == 0

/-- The cutting after a grain of a fragment. -/
def Cutting.step (cut : Cut) (separators : Bytes) (c : Cutting) (u : Grain) : Cutting :=
  match u with
  | .quote => { c with word := u :: c.word }
  | .byte b _ =>
    let separates := b == 0 || (cut == .separators && separators.contains b)
    let blank := separates && isBlank b
    if c.left == some 0 then
      if blank then { c with word := u :: c.word, tail := some (c.tail.getD c.word) }
      else { c with
        word := u :: c.word
        tail := if separates && c.afterBlank then c.tail else none
        afterBlank := false }
    else
      let (c, separates, done) :=
        if !c.afterBlank then (c, separates, false)
        else if blank then ({ c with word := [] }, separates, true)
        else if separates then ({ c with word := [], afterBlank := false }, false, true)
        else ({ c with word := [] }, false, false)
      if done then c
      else if !separates then { c with word := u :: c.word, afterBlank := false }
      else
        let afterBlank := if c.afterArguments || cut == .arguments then c.afterBlank else blank
        if c.word.isEmpty && afterBlank then { c with afterBlank := false }
        else
          match c.left with
          | some 1 =>
            { c with left := some 0, tail := some c.word, word := u :: c.word, afterBlank }
          | left => { c with
            words := c.word.reverse :: c.words
            word := []
            left := left.map (· - 1)
            afterBlank }

/-- The words that fragments are cut into, at most `limit` of them. -/
def cutInto (limit : Option Nat) (separators : Bytes) (fragments : List Fragment) :
    List (List Grain) :=
  let start : Cutting := ⟨[], [], false, false, limit, none⟩
  let (c, last) := fragments.foldl (fun (c, last) f =>
    match f.cut with
    | .nowhere => ({ c with word := f.grains.foldl (fun word u => u :: word) c.word }, last)
    | cut =>
      let c := { c with afterArguments := last == some .arguments, afterBlank := false }
      (f.grains.foldl (Cutting.step cut separators) c, some cut)) (start, none)
  let word := match c.tail with
    | some tail => tail
    | none => c.word
  let words := if last == some .arguments || !word.isEmpty then word.reverse :: c.words
    else c.words
  words.reverse

end Fragment

end PipeShell.Script
