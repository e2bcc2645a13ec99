import PipeShell.Command.Basic

/-!
# Reading a command line

The grammar is

    line     := pipeline
    pipeline := stage ('|' pipeline)?
    stage    := redirs (WORD redirs)*
    redirs   := ('<' WORD | '>' WORD)*

Every function below takes the unread part of a line and returns, beside its result, the part it
leaves unread, also when it fails. `Command.parse` reads a whole line.
-/

namespace PipeShell

/-- Why a line is refused. A refused line runs nothing. -/
inductive SyntaxError
  | missingRedirectTarget
  /-- A token stands where none of its kind may; carries the token as a message names it. -/
  | unexpectedToken (shown : Bytes)
  /-- The line goes on after its pipeline; carries the rest as a message shows it. -/
  | leftovers (shown : Bytes)
  | argumentLimitExceeded (limit : Nat)
  | missingCommand
deriving DecidableEq, Repr

namespace SyntaxError

/-- The text that reports the error. -/
def message : SyntaxError → Bytes
  | missingRedirectTarget => Bytes.ofString "missing file for redirection"
  | unexpectedToken shown => Bytes.ofString "unexpected " ++ shown
  | leftovers shown => Bytes.ofString "leftovers: " ++ shown
  | argumentLimitExceeded limit =>
    Bytes.ofString "too many args (limit is " ++ Bytes.ofNat limit ++ Bytes.ofString ")"
  | missingCommand => Bytes.ofString "missing command after `|`"

end SyntaxError

/-- A redirection: the file and the way it points. -/
structure Redirection where
  file : Bytes
  direction : Direction
deriving DecidableEq, Repr

namespace Command

/-- The number of slots for the words of one command. One of them closes the list, so a command
has fewer words than this. -/
def maxArgs : Nat := 10

/-- The bytes `<` and `>`. -/
def redirectSymbols : Bytes := [0x3C, 0x3E]

/-- The byte `|`. -/
def pipeSymbol : Bytes := [0x7C]

/-- The direction that a token stands for. -/
def direction? : Token → Option Direction
  | .less => some .input
  | .greater => some .output
  | _ => none

/-! ## Redirections -/

/-- What reading a run of redirections gives: the complete ones, then the error that stopped it,
if any, and the part of the line left unread. -/
structure RedirectionRun where
  found : List Redirection
  error? : Option SyntaxError
  rest : Bytes

/-- The file of a redirection: the next token must be a word, and is consumed in any case. -/
def redirectTarget (line : Bytes) : Except SyntaxError Bytes × Bytes :=
  match Token.next line with
  | (.word file, rest) => (.ok file, rest)
  | (_, rest) => (.error .missingRedirectTarget, rest)

theorem length_redirectTarget_le (line : Bytes) :
    (redirectTarget line).2.length ≤ line.length := by
  have h := Token.length_next_le line
  unfold redirectTarget
  split <;> simp_all

/-- Reads `redirs := ('<' WORD | '>' WORD)*` -/
def parseRedirections (line : Bytes) : RedirectionRun :=
  if (Token.peek redirectSymbols line).1 then
    match _h : direction? (Token.next line).1 with
    | none => ⟨[], some (.unexpectedToken (Token.next line).1.describe), (Token.next line).2⟩
    | some d =>
      match _hf : redirectTarget (Token.next line).2 with
      | (.error e, rest) => ⟨[], some e, rest⟩
      | (.ok file, rest) =>
        let more := parseRedirections rest
        ⟨⟨file, d⟩ :: more.found, more.error?, more.rest⟩
  else ⟨[], none, (Token.peek redirectSymbols line).2⟩
termination_by line.length
decreasing_by
  have h2 := @Token.length_next_lt line (by intro hd; simp [hd, direction?] at _h)
  have h3 := length_redirectTarget_le (Token.next line).2
  rw [_hf] at h3
  exact Nat.lt_of_le_of_lt h3 h2

theorem length_parseRedirections_le (line : Bytes) :
    (parseRedirections line).rest.length ≤ line.length := by
  fun_induction parseRedirections line with
  | case1 line => exact Token.length_next_le _
  | case2 line _ d _ e rest he =>
    have h := length_redirectTarget_le (Token.next line).2
    rw [he] at h
    exact Nat.le_trans h (Token.length_next_le _)
  | case3 line _ d _ file rest hf _ ih =>
    have h := length_redirectTarget_le (Token.next line).2
    rw [hf] at h
    exact Nat.le_trans ih (Nat.le_trans h (Token.length_next_le _))
  | case4 line => exact Token.length_peek_le _ _

/-! ## Stages -/

/-- Words and redirections of a stage, each in the order of the line. -/
structure StageParts where
  argv : List Bytes
  redirections : List Redirection
deriving DecidableEq, Repr

/-- The tree of a stage: the redirection that stands first is innermost. -/
def StageParts.command (parts : StageParts) : Command :=
  parts.redirections.foldl (fun target r => redirect target r.file r.direction) (exec parts.argv)

/-- The part of a stage after its first redirections: `(WORD redirs)*`, added to `parts`. -/
def parseWords (parts : StageParts) (line : Bytes) : Except SyntaxError StageParts × Bytes :=
  if (Token.peek pipeSymbol line).1 then (.ok parts, (Token.peek pipeSymbol line).2)
  else
    match _h : Token.next line with
    | (.done, rest) => (.ok parts, rest)
    | (.word w, rest) =>
      if maxArgs ≤ parts.argv.length + 1 then (.error (.argumentLimitExceeded maxArgs), rest)
      else
        match _hr : parseRedirections rest with
        | ⟨_, some e, rest'⟩ => (.error e, rest')
        | ⟨found, none, rest'⟩ =>
          parseWords ⟨parts.argv ++ [w], parts.redirections ++ found⟩ rest'
    | (token, rest) => (.error (.unexpectedToken token.describe), rest)
termination_by line.length
decreasing_by
  have h2 := @Token.length_next_lt line (by simp [_h])
  have h3 := length_parseRedirections_le rest
  rw [_h] at h2
  rw [_hr] at h3
  exact Nat.lt_of_le_of_lt h3 h2

theorem length_parseWords_le (parts : StageParts) (line : Bytes) :
    (parseWords parts line).2.length ≤ line.length := by
  fun_induction parseWords parts line with
  | case1 => exact Token.length_peek_le _ _
  | case2 parts line _ rest h | case3 parts line _ w rest h =>
    have h2 := Token.length_next_le line
    rw [h] at h2
    exact h2
  | case4 parts line _ w rest h _ found e rest' hr =>
    have h2 := Token.length_next_le line
    have h3 := length_parseRedirections_le rest
    rw [h] at h2
    rw [hr] at h3
    exact Nat.le_trans h3 h2
  | case5 parts line _ w rest h _ found rest' hr ih =>
    have h2 := Token.length_next_le line
    have h3 := length_parseRedirections_le rest
    rw [h] at h2
    rw [hr] at h3
    exact Nat.le_trans ih (Nat.le_trans h3 h2)
  | case6 parts line _ token rest _ _ h =>
    have h2 := Token.length_next_le line
    rw [h] at h2
    exact h2

/-- Reads `stage := redirs (WORD redirs)*` -/
def parseStage (line : Bytes) : Except SyntaxError Command × Bytes :=
  match parseRedirections line with
  | ⟨_, some e, rest⟩ => (.error e, rest)
  | ⟨found, none, rest⟩ =>
    match parseWords ⟨[], found⟩ rest with
    | (.error e, rest) => (.error e, rest)
    | (.ok parts, rest) => (.ok parts.command, rest)

theorem length_parseStage_le (line : Bytes) : (parseStage line).2.length ≤ line.length := by
  have h := length_parseRedirections_le line
  unfold parseStage
  split
  · next hr => rw [hr] at h; exact h
  · next found rest hr =>
    rw [hr] at h
    have hw := length_parseWords_le ⟨[], found⟩ rest
    split
    · next hp => rw [hp] at hw; exact Nat.le_trans hw h
    · next hp => rw [hp] at hw; exact Nat.le_trans hw h

/-! ## Pipelines and lines -/

/-- Reads `pipeline := stage ('|' pipeline)?`, nested to the right. Only the last stage has to hold
something. -/
def parsePipeline (line : Bytes) : Except SyntaxError Command × Bytes :=
  match _hs : parseStage line with
  | (.error e, rest) => (.error e, rest)
  | (.ok left, rest) =>
    if _hp : (Token.peek pipeSymbol rest).1 then
      match parsePipeline (Token.next rest).2 with
      | (.error e, rest) => (.error e, rest)
      | (.ok right, rest) =>
        if right.isEmpty then (.error .missingCommand, rest) else (.ok (pipe left right), rest)
    else (.ok left, (Token.peek pipeSymbol rest).2)
termination_by line.length
decreasing_by
  have h1 := length_parseStage_le line
  rw [_hs] at h1
  exact Nat.lt_of_lt_of_le (Token.length_next_lt (Token.next_ne_done_of_peek _hp)) h1

theorem length_parsePipeline_le (line : Bytes) :
    (parsePipeline line).2.length ≤ line.length := by
  fun_induction parsePipeline line with
  | case1 line e rest hs =>
    have h := length_parseStage_le line
    rwa [hs] at h
  | case2 line left rest hs hp e rest' hr ih
  | case3 line left rest hs hp right rest' hr hempty ih
  | case4 line left rest hs hp right rest' hr hempty ih =>
    have h := length_parseStage_le line
    rw [hs] at h
    rw [hr] at ih
    exact Nat.le_trans ih (Nat.le_trans (Token.length_next_le rest) h)
  | case5 line left rest hs hp =>
    have h := length_parseStage_le line
    rw [hs] at h
    exact Nat.le_trans (Token.length_peek_le _ _) h

/-- Reads `line := pipeline`, with nothing after it. -/
def parseLine (line : Bytes) : Except SyntaxError Command × Bytes :=
  match parsePipeline line with
  | (.error e, rest) => (.error e, rest)
  | (.ok command, rest) =>
    if (Token.atEnd rest).1 then (.ok command, (Token.atEnd rest).2)
    else (.error (.leftovers (Utf8.scrub (Token.atEnd rest).2)), (Token.atEnd rest).2)

theorem length_parseLine_le (line : Bytes) : (parseLine line).2.length ≤ line.length := by
  have h := length_parsePipeline_le line
  unfold parseLine
  split
  · next hp => rwa [hp] at h
  · next rest hp =>
    rw [hp] at h
    have hrest := Nat.le_trans (Token.length_skipBlanks_le rest) h
    split <;> exact hrest

/-- The tree of a line. -/
def parse (line : Bytes) : Except SyntaxError Command := (parseLine line).1

end Command

end PipeShell
