import PipeShell.Userland.Script.Words

/-!
# Reading commands

`Reading.line` reads the commands of one line of a script and of the lines that belong to it. The
grammar is read from left to right with one token in hand: it is taken, or kept for later
(`Reading.keep`). Lists of commands stand inside of commands and of words, so what reads them is
handed to everything that reads a part of them; `Reading.list` ties the knot, at each depth with one
level less to go.
-/

namespace PipeShell.Script

/-- Where a list of commands stands. -/
inductive ListPlace
  /-- On a line of its own: it ends where the line does. -/
  | line
  /-- Inside a command, where there has to be something. -/
  | needed
  /-- Where it may be empty. -/
  | optional
deriving DecidableEq, Repr

namespace Reading

/-! ## Tokens -/

/-- Reads a token without looking at what the words mean. -/
def rawToken (list : Lister) : Nat → Reading Token
  | 0 => return .endOfFile
  | fuel + 1 => do
    let operator (symbol double : String) (b : UInt8) : Reading Token := do
      let second ← nextByte
      if second == some b then return .operator double
      unread second
      return .operator symbol
    match ← nextByte with
    | none => return .endOfFile
    | some b =>
      if b == 0x20 || b == 0x09 then rawToken list fuel
      else if b == 0x23 then
        let _ ← run (· != 0x0A)
        unread (← next)
        rawToken list fuel
      else if b == 0x0A then
        countLine
        return .newline
      else if b == 0x26 then operator "&" "&&" b
      else if b == 0x7C then operator "|" "||" b
      else if b == 0x3B then operator ";" ";;" b
      else if b == 0x28 then return .operator "("
      else if b == 0x29 then return .operator ")"
      else
        unread (some b)
        word list

/-- The token in hand, or the next one. -/
def heldToken (list : Lister) : Reading Token := do
  let s ← get
  if s.held then
    set { s with held := false }
    return s.last
  let t ← rawToken list patience
  modify fun s => { s with last := t }
  return t

/-- Passes over line ends, and reads the texts that the lines ask for. -/
def skipLines (list : Lister) : Nat → Token → Reading Token
  | 0, t => return t
  | fuel + 1, t => do
    match t with
    | .newline =>
      awaitedTexts list
      skipLines list fuel (← heldToken list)
    | t => return t

/-- The alias that a word is, unless its text is being read. -/
def aliasOf? (s : Source) (word : Word) : Option (Bytes × Bytes) := do
  let name ← plain? word
  let text ← s.aliases.lookup name
  if s.inserted.any fun i => i.name == name then none else some (name, text)

/-- The next token in a manner; words may turn out to be keywords or aliases. -/
def tokenIn (list : Lister) (manner : Manner) : Nat → Reading Token
  | 0 => return .endOfFile
  | fuel + 1 => do
    let t ← heldToken list
    let t ← if manner.newlines then skipLines list patience t else pure t
    let s ← get
    let aliases := manner.aliases || s.manner.aliases
    set { s with manner := .plain }
    match t with
    | .word content false =>
      match if manner.keywords then Token.keyword? content else none with
      | some name =>
        modify fun s => { s with last := .keyword name }
        return .keyword name
      | none =>
        match if aliases then aliasOf? s content else none with
        | some (name, text) =>
          if !text.isEmpty then
            let blank := text.getLast? == some 0x20 || text.getLast? == some 0x09
            modify fun s => { s with inserted := ⟨name, text, blank⟩ :: s.inserted }
          tokenIn list manner fuel
        | none => return t
    | t => return t

/-- The next token in the manner that was asked for. -/
def token (list : Lister) : Reading Token := do tokenIn list (← get).manner patience

/-- Asks for the next token to be read in a manner. -/
def expect (manner : Manner) : Reading Unit := modify fun s => { s with manner }

/-- Keeps the last token for later. -/
def keep : Reading Unit := modify fun s => { s with held := true }

/-- The length that complaints about tokens are cut off at. -/
def complaintLength : Nat := 63

/-- Gives up because of the last token. -/
def unexpected {α : Type} : Reading α := do
  fail (Bytes.ofString ((← get).last.shown ++ " unexpected"))

/-- Gives up because another token should stand here. -/
def unexpectedFor {α : Type} (wanted : Token) : Reading α := do
  let message := (← get).last.shown ++ " unexpected (expecting " ++ wanted.shown ++ ")"
  fail ((Bytes.ofString message).take complaintLength)

/-- Takes an operator or a keyword. -/
def take (list : Lister) (wanted : Token) (symbol : String) : Reading Unit := do
  if !(← token list).isSymbol symbol then unexpectedFor wanted

/-! ## Redirections -/

/-- Reads what comes after a redirection. -/
def redirect (list : Lister) (fd : Fd) (action : Redirecting) : Reading Redirect := do
  if let .text _ := action then expect { Manner.plain with mark := true }
  match ← token list with
  | .word content quoted =>
    match action with
    | .file kind => return .file fd kind content
    | .copy => return .copy fd content
    | .text indented =>
      let mark := content.filterMap fun piece => match piece with
        | .byte b _ => some b
        | _ => none
      let number := (← get).count
      modify fun s => { s with
        count := s.count + 1
        awaited := s.awaited ++ [⟨number, mark, indented, !quoted⟩] }
      return .text fd number []
  | _ => unexpected

/-- Reads redirections that follow a command. -/
def redirects (list : Lister) : Nat → Reading (List Redirect)
  | 0 => return []
  | fuel + 1 => do
    match ← token list with
    | .redirection fd action =>
      let r ← redirect list fd action
      return r :: (← redirects list fuel)
    | _ =>
      keep
      return []

/-! ## Commands -/

/-- What reads commands inside a command. -/
structure Readers where
  list : ListPlace → Reading (Option Command)
  command : Reading Command

/-- The reader of the commands inside words. -/
def Readers.lister (r : Readers) : Lister := fun closed => do
  let command ← r.list .optional
  if closed then take (fun _ => return none) (.operator ")") ")"
  return command

/-- The command that does nothing. -/
def nothing : Command := .pipeline false []

/-- Reads a list of commands that is not empty. -/
def Readers.body (r : Readers) : Reading Command := do return (← r.list .needed).getD nothing

/-- Names that cannot be those of functions. -/
def reservedNames : List String :=
  [".", ":", "break", "continue", "eval", "exec", "exit", "export", "local", "readonly", "return",
   "set", "shift", "times", "trap", "unset"]

/-- What was read of a simple command: the settings, words and redirections, last ones first. -/
structure Parts where
  settings : List Word
  words : List Word
  redirects : List Redirect

/-- Reads a simple command, or the definition of a function. -/
def simple (r : Readers) (line : Nat) : Nat → Parts → Reading Command
  | 0, _ => return nothing
  | fuel + 1, parts => do
    expect { Manner.plain with aliases := parts.words.isEmpty }
    let finish : Reading Command := do
      keep
      return .simple line parts.settings.reverse parts.words.reverse parts.redirects.reverse
    match ← token r.lister with
    | .word content _ =>
      if parts.words.isEmpty && isSetting content then
        simple r line fuel { parts with settings := content :: parts.settings }
      else simple r line fuel { parts with words := content :: parts.words }
    | .redirection fd action =>
      let redirect ← redirect r.lister fd action
      simple r line fuel { parts with redirects := redirect :: parts.redirects }
    | .operator "(" =>
      match parts with
      | ⟨[], [word], []⟩ =>
        take r.lister (.operator ")") ")"
        match plain? word with
        | some name =>
          if !isName name || reservedNames.any fun n => Bytes.ofString n == name then
            fail (Bytes.ofString "Bad function name")
          expect .later
          let line := (← get).line
          return .definition line name (← r.command)
        | none => fail (Bytes.ofString "Bad function name")
      | _ => finish
    | _ => finish

/-- Reads the branches of a condition from its first test on; gives the test, the command, and the
other branches. -/
def branches (r : Readers) : Nat → Reading (Command × Command × Option Command)
  | 0 => return (nothing, nothing, none)
  | fuel + 1 => do
    let test ← r.body
    take r.lister (.keyword "then") "then"
    let yes ← r.body
    let t ← token r.lister
    if t.isSymbol "elif" then
      let (test', yes', no') ← branches r fuel
      return (test, yes, some (.branch test' yes' no'))
    else if t.isSymbol "else" then return (test, yes, some (← r.body))
    else
      keep
      return (test, yes, none)

/-- Reads words up to the first token that is none. -/
def words (r : Readers) : Nat → Reading (List Word)
  | 0 => return []
  | fuel + 1 => do
    match ← token r.lister with
    | .word content _ => return content :: (← words r fuel)
    | _ => return []

/-- The words that a token is, for patterns. -/
def patternOf : Token → Word
  | .word content _ => content
  | .operator s | .keyword s => (Bytes.ofString s).map fun b => .byte b false
  | _ => []

/-- Reads the patterns of an arm, the first of which is the last token. -/
def patterns (r : Readers) : Nat → Reading (List Word)
  | 0 => return []
  | fuel + 1 => do
    let pattern := patternOf (← get).last
    if (← token r.lister).isSymbol "|" then
      let _ ← token r.lister
      return pattern :: (← patterns r fuel)
    return [pattern]

/-- Reads the arms of a choice. -/
def arms (r : Readers) : Nat → Reading (List Arm)
  | 0 => return []
  | fuel + 1 => do
    expect { Manner.later with aliases := false }
    let t ← token r.lister
    if t.isSymbol "esac" then return []
    if t.isSymbol "(" then let _ ← token r.lister
    let found ← patterns r patience
    if !(← get).last.isSymbol ")" then unexpectedFor (.operator ")")
    let body ← r.list .optional
    expect { Manner.later with aliases := false }
    let t ← token r.lister
    if t.isSymbol "esac" then return [.mk found body]
    if !t.isSymbol ";;" then unexpectedFor (.operator ";;")
    return .mk found body :: (← arms r fuel)

/-- The word that stands for all arguments. -/
def allArguments : Word := [.quote, .parameter [0x40] .value false [], .quote]

/-- Reads a loop from the name of its variable on. -/
def each (r : Readers) (line : Nat) : Reading Command := do
  let bad {α : Type} : Reading α := fail (Bytes.ofString "Bad for loop variable")
  match ← token r.lister with
  | .word content false =>
    match plain? content with
    | some name =>
      if !isName name then bad
      expect .later
      let t ← token r.lister
      let words ← if t.isSymbol "in" then do
          let words ← words r patience
          match (← get).last with
          | .newline | .operator ";" => pure words
          | _ => unexpected
        else do
          if !t.isSymbol ";" then keep
          pure [allArguments]
      expect .later
      take r.lister (.keyword "do") "do"
      return .each line name words (← r.body)
    | none => bad
  | _ => bad

/-- Reads a choice from its word on. -/
def choice (r : Readers) (line : Nat) : Reading Command := do
  match ← token r.lister with
  | .word content _ =>
    expect .later
    take r.lister (.keyword "in") "in"
    return .choice line content (← arms r patience)
  | _ => unexpectedFor (.word [] false)

/-- The command with redirections that follow it. -/
def redirected (line : Nat) (redirects : List Redirect) : Command → Command
  | .subshell line body [] => .subshell line body redirects
  | command => if redirects.isEmpty then command else .redirected line command redirects

/-- Reads a command. -/
def command (r : Readers) : Reading Command := do
  let line := (← get).line
  let compound (command : Command) (ending : Option Token) (symbol : String) :
      Reading Command := do
    if let some ending := ending then take r.lister ending symbol
    expect .command
    return redirected line (← redirects r.lister patience) command
  match ← token r.lister with
  | .keyword "if" =>
    let (test, yes, no) ← branches r patience
    compound (.branch test yes no) (some (.keyword "fi")) "fi"
  | .keyword "while" =>
    let test ← r.body
    take r.lister (.keyword "do") "do"
    compound (.loop false test (← r.body)) (some (.keyword "done")) "done"
  | .keyword "until" =>
    let test ← r.body
    take r.lister (.keyword "do") "do"
    compound (.loop true test (← r.body)) (some (.keyword "done")) "done"
  | .keyword "for" => compound (← each r line) (some (.keyword "done")) "done"
  | .keyword "case" => compound (← choice r line) none ""
  | .operator "(" => compound (.subshell line (← r.body) []) (some (.operator ")")) ")"
  | .keyword "\x7b" => compound (← r.body) (some (.keyword "\x7d")) "\x7d"
  | .word .. | .redirection .. =>
    keep
    simple r (← get).line patience ⟨[], [], []⟩
  | _ => unexpected

/-- Reads the commands that follow a pipe. -/
def stages (r : Readers) : Nat → Reading (List Command)
  | 0 => return []
  | fuel + 1 => do
    if (← token r.lister).isSymbol "|" then
      expect .later
      let stage ← r.command
      return stage :: (← stages r fuel)
    keep
    return []

/-- Reads commands that pipes join. -/
def pipeline (r : Readers) : Reading Command := do
  let negated := (← token r.lister).isSymbol "!"
  if negated then expect .command else keep
  let first ← r.command
  let more ← stages r patience
  let found := if more.isEmpty then first else .pipeline false (first :: more)
  return if negated then .negation found else found

/-- Reads what `&&` and `||` add to a command. -/
def conditions (r : Readers) : Nat → Command → Reading Command
  | 0, first => return first
  | fuel + 1, first => do
    let t ← token r.lister
    if t.isSymbol "&&" then
      expect .later
      conditions r fuel (.both first (← pipeline r))
    else if t.isSymbol "||" then
      expect .later
      conditions r fuel (.either first (← pipeline r))
    else
      keep
      return first

/-- The command as one that is not waited for. -/
def inBackground : Command → Command
  | .pipeline _ stages => .pipeline true stages
  | .redirected line body redirects => .background line body redirects
  | command => .background 0 command []

/-- Reads a list of commands from some point on; `before` are the commands so far. -/
def listFrom (r : Readers) (place : ListPlace) : Nat → (before : Option Command) →
    Reading (Option Command)
  | 0, before => return before
  | fuel + 1, before => do
    expect { Manner.command with newlines := place ≠ .line }
    match ← token r.lister with
    | .newline =>
      awaitedTexts r.lister
      return before
    | .endOfFile =>
      awaitedTexts r.lister
      modify fun s => { s with last := .endOfFile, held := true }
      return before
    | t =>
      keep
      let mayEnd := place == .optional || (place == .needed && before.isSome)
      if mayEnd && t.endsList then return before
      let found ← conditions r patience (← pipeline r)
      let t ← token r.lister
      let found := if t.isSymbol "&" then inBackground found else found
      let found := match before with
        | some before => .sequence before found
        | none => found
      match t with
      | .newline | .endOfFile =>
        keep
        listFrom r place fuel (some found)
      | .operator "&" | .operator ";" => listFrom r place fuel (some found)
      | _ =>
        if place == .line then unexpected
        keep
        return some found

/-- What reads the parts of commands, `depth` of which may be inside of each other. -/
def readers : (depth : Nat) → Readers
  | 0 => ⟨fun _ => unexpected, unexpected⟩
  | depth + 1 =>
    let inner : Readers :=
      ⟨fun place => listFrom (readers depth) place patience none,
       fun s => command (readers depth) s⟩
    inner

end Reading

/-- What stands on a line of a script. -/
inductive Line
  | done
  | blank
  | command (c : Command)

/-- The next line of a script, and the rest. -/
def Source.line? (s : Source) : Except Halt (Line × Source) := do
  let r := Reading.readers Reading.patience
  let s := { s with held := false, manner := .plain, awaited := [], texts := [], count := 0 }
  let (found, s) ← Reading.listFrom r .line Reading.patience none s
  match found, s.last with
  | some command, _ => return (.command (command.withTexts s.texts), s)
  | none, .endOfFile => return (.done, s)
  | none, _ => return (.blank, s)

/-- Whether the reader has seen the end of the script. -/
def Source.atEnd (s : Source) : Bool :=
  s.held && match s.last with
    | .endOfFile => true
    | _ => false

end PipeShell.Script
