import PipeShell.Command.Parse
import PipeShell.Cursor

/-!
# Reading trees at a cursor

The readers of `Command.parse` once more, at a cursor. Each of them can be asked for at any cursor,
also where an error has left it, so a line can be read in parts: `Cursor.perform` is one reading and
`Cursor.performAll` several, one after the other.
-/

namespace PipeShell

namespace Command

/-! ## Readings of what is left, once more

The same readers without what shows that they end. -/

theorem parseRedirections_unfold (line : Bytes) :
    parseRedirections line = if (Token.peek redirectSymbols line).1 then
      match direction? (Token.next line).1 with
      | none => ⟨[], some (.unexpectedToken (Token.next line).1.describe), (Token.next line).2⟩
      | some d =>
        match redirectTarget (Token.next line).2 with
        | (.error e, rest) => ⟨[], some e, rest⟩
        | (.ok file, rest) =>
          let more := parseRedirections rest
          ⟨⟨file, d⟩ :: more.found, more.error?, more.rest⟩
      else ⟨[], none, (Token.peek redirectSymbols line).2⟩ := by
  rw [parseRedirections]
  split
  · split
    · next h => rw [h]
    · next d h =>
      rw [h]
      split <;> next hf => rw [hf]
  · rfl

theorem parseWords_unfold (parts : StageParts) (line : Bytes) :
    parseWords parts line =
      if (Token.peek pipeSymbol line).1 then (.ok parts, (Token.peek pipeSymbol line).2)
      else
        match Token.next line with
        | (.done, rest) => (.ok parts, rest)
        | (.word w, rest) =>
          if maxArgs ≤ parts.argv.length + 1 then (.error (.argumentLimitExceeded maxArgs), rest)
          else
            match parseRedirections rest with
            | ⟨_, some e, rest⟩ => (.error e, rest)
            | ⟨found, none, rest⟩ =>
              parseWords ⟨parts.argv ++ [w], parts.redirections ++ found⟩ rest
        | (token, rest) => (.error (.unexpectedToken token.describe), rest) := by
  rw [parseWords]
  split
  · rfl
  · split
    · next h => rw [h]
    · next h =>
      simp only [h]
      split
      · rfl
      · split <;> next hr => simp only [hr]
    · next h => simp only [h]

theorem parsePipeline_unfold (line : Bytes) :
    parsePipeline line = match parseStage line with
      | (.error e, rest) => (.error e, rest)
      | (.ok left, rest) =>
        if (Token.peek pipeSymbol rest).1 then
          match parsePipeline (Token.next rest).2 with
          | (.error e, rest) => (.error e, rest)
          | (.ok right, rest) =>
            if right.isEmpty then (.error .missingCommand, rest) else (.ok (pipe left right), rest)
        else (.ok left, (Token.peek pipeSymbol rest).2) := by
  rw [parsePipeline]
  split
  · next h => simp only [h]
  · next h =>
    simp only [h]
    split <;> rfl

end Command

namespace Cursor

/-- The file of a redirection: the next token must be a word, and is consumed in any case. -/
def redirectTarget (c : Cursor) : Except SyntaxError Bytes × Cursor :=
  match c.next with
  | (.word file, stop) => (.ok file, stop)
  | (_, stop) => (.error .missingRedirectTarget, stop)

theorem redirectTarget_follows (c : Cursor) :
    c.Follows c.redirectTarget (Command.redirectTarget c.rest) := by
  obtain ⟨hresult, hline, hrest⟩ := c.next_follows
  unfold redirectTarget Command.redirectTarget
  revert hresult hline hrest
  rcases c.next with ⟨t, stop⟩
  rcases Token.next c.rest with ⟨t', rest⟩
  rintro rfl hline rfl
  cases t <;> exact ⟨rfl, hline, rfl⟩

theorem length_rest_redirectTarget_le (c : Cursor) :
    c.redirectTarget.2.rest.length ≤ c.rest.length := by
  rw [c.redirectTarget_follows.rest]
  exact Command.length_redirectTarget_le c.rest

/-- Reads `redirs := ('<' WORD | '>' WORD)*` and adds the complete ones to `found`. -/
def parseRedirections (found : List Redirection) (c : Cursor) :
    (List Redirection × Option SyntaxError) × Cursor :=
  match _hpeek : c.peek Command.redirectSymbols with
  | (false, c₁) => ((found, none), c₁)
  | (true, c₁) =>
    match _hnext : c₁.next with
    | (t, c₂) =>
      match _hd : Command.direction? t with
      | none => ((found, some (.unexpectedToken t.describe)), c₂)
      | some d =>
        match _hfile : c₂.redirectTarget with
        | (.error e, c₃) => ((found, some e), c₃)
        | (.ok file, c₃) => parseRedirections (found ++ [⟨file, d⟩]) c₃
termination_by c.rest.length
decreasing_by
  have h1 := length_rest_peek_le Command.redirectSymbols c
  have h2 := length_rest_next_lt (c := c₁) (by rw [_hnext]; rintro rfl; cases _hd)
  have h3 := length_rest_redirectTarget_le c₂
  rw [_hpeek] at h1
  rw [_hnext] at h2
  rw [_hfile] at h3
  exact Nat.lt_of_le_of_lt h3 (Nat.lt_of_lt_of_le h2 h1)

theorem parseRedirections_follows (found : List Redirection) (c : Cursor) :
    c.Follows (c.parseRedirections found)
      ((found ++ (Command.parseRedirections c.rest).found,
        (Command.parseRedirections c.rest).error?), (Command.parseRedirections c.rest).rest) := by
  fun_induction parseRedirections found c with
  | case1 found c c₁ hpeek =>
    have hp := (c.peek_follows _).of_eq hpeek
    rw [Command.parseRedirections_unfold]
    simp only [hp.eq]
    exact ⟨by simp, hp.line, rfl⟩
  | case2 found c c₁ hpeek t c₂ hnext hd =>
    have hp := (c.peek_follows _).of_eq hpeek
    have hn := (next_of_peek hpeek).of_eq hnext
    rw [Command.parseRedirections_unfold]
    simp only [hp.eq, hn.eq, hd]
    exact ⟨by simp, hn.line, rfl⟩
  | case3 found c c₁ hpeek t c₂ hnext d hd e c₃ hfile =>
    have hp := (c.peek_follows _).of_eq hpeek
    have hn := (next_of_peek hpeek).of_eq hnext
    have hf := c₂.redirectTarget_follows.of_eq hfile
    rw [Command.parseRedirections_unfold]
    simp only [hp.eq, hn.eq, hd, hf.eq]
    exact ⟨by simp, hf.line.trans hn.line, rfl⟩
  | case4 found c c₁ hpeek t c₂ hnext d hd file c₃ hfile ih =>
    have hp := (c.peek_follows _).of_eq hpeek
    have hn := (next_of_peek hpeek).of_eq hnext
    have hf := c₂.redirectTarget_follows.of_eq hfile
    rw [Command.parseRedirections_unfold]
    simp only [hp.eq, hn.eq, hd, hf.eq]
    exact ⟨by simp [ih.result], ih.line.trans (hf.line.trans hn.line), ih.rest⟩

theorem length_rest_parseRedirections_le (found : List Redirection) (c : Cursor) :
    (c.parseRedirections found).2.rest.length ≤ c.rest.length := by
  rw [(c.parseRedirections_follows found).rest]
  exact Command.length_parseRedirections_le c.rest

/-- The part of a stage after its first redirections, `(WORD redirs)*`, added to `parts`. -/
def parseWords (parts : Command.StageParts) (c : Cursor) :
    Except SyntaxError Command.StageParts × Cursor :=
  match _hpeek : c.peek Command.pipeSymbol with
  | (true, c₁) => (.ok parts, c₁)
  | (false, c₁) =>
    match _hnext : c₁.next with
    | (.done, c₂) => (.ok parts, c₂)
    | (.word w, c₂) =>
      if Command.maxArgs ≤ parts.argv.length + 1 then
        (.error (.argumentLimitExceeded Command.maxArgs), c₂)
      else
        match _hr : c₂.parseRedirections parts.redirections with
        | ((_, some e), c₃) => (.error e, c₃)
        | ((found, none), c₃) => parseWords ⟨parts.argv ++ [w], found⟩ c₃
    | (t, c₂) => (.error (.unexpectedToken t.describe), c₂)
termination_by c.rest.length
decreasing_by
  have h1 := length_rest_peek_le Command.pipeSymbol c
  have h2 := length_rest_next_lt (c := c₁) (by simp [_hnext])
  have h3 := length_rest_parseRedirections_le parts.redirections c₂
  rw [_hpeek] at h1
  rw [_hnext] at h2
  rw [_hr] at h3
  exact Nat.lt_of_le_of_lt h3 (Nat.lt_of_lt_of_le h2 h1)

theorem parseWords_follows (parts : Command.StageParts) (c : Cursor) :
    c.Follows (c.parseWords parts) (Command.parseWords parts c.rest) := by
  fun_induction parseWords parts c with
  | case1 parts c c₁ hpeek =>
    have hp := (c.peek_follows _).of_eq hpeek
    rw [Command.parseWords_unfold]
    simp only [hp.eq]
    exact ⟨rfl, hp.line, rfl⟩
  | case2 parts c c₁ hpeek c₂ hnext =>
    have hp := (c.peek_follows _).of_eq hpeek
    have hn := (next_of_peek hpeek).of_eq hnext
    rw [Command.parseWords_unfold]
    simp only [hp.eq, hn.eq]
    exact ⟨rfl, hn.line, rfl⟩
  | case3 parts c c₁ hpeek w c₂ hnext hmax =>
    have hp := (c.peek_follows _).of_eq hpeek
    have hn := (next_of_peek hpeek).of_eq hnext
    rw [Command.parseWords_unfold]
    simp only [hp.eq, hn.eq, hmax]
    exact ⟨rfl, hn.line, rfl⟩
  | case4 parts c c₁ hpeek w c₂ hnext hmax found e c₃ hr =>
    have hp := (c.peek_follows _).of_eq hpeek
    have hn := (next_of_peek hpeek).of_eq hnext
    obtain ⟨hresult, hline, hrest⟩ := (c₂.parseRedirections_follows _).of_eq hr
    rw [Command.parseWords_unfold]
    simp only [hp.eq, hn.eq, hmax]
    rcases hrun : Command.parseRedirections c₂.rest with ⟨_, e', rest'⟩
    simp only [hrun] at hresult hrest
    cases hresult
    exact ⟨rfl, hline.trans hn.line, hrest⟩
  | case5 parts c c₁ hpeek w c₂ hnext hmax found c₃ hr ih =>
    have hp := (c.peek_follows _).of_eq hpeek
    have hn := (next_of_peek hpeek).of_eq hnext
    obtain ⟨hresult, hline, hrest⟩ := (c₂.parseRedirections_follows _).of_eq hr
    rw [Command.parseWords_unfold]
    simp only [hp.eq, hn.eq, hmax]
    rcases hrun : Command.parseRedirections c₂.rest with ⟨found', e', rest'⟩
    simp only [hrun] at hresult hrest
    cases hresult
    subst hrest
    exact ⟨ih.result, ih.line.trans (hline.trans hn.line), ih.rest⟩
  | case6 parts c c₁ hpeek t c₂ hdone hword hnext =>
    have hp := (c.peek_follows _).of_eq hpeek
    have hn := (next_of_peek hpeek).of_eq hnext
    rw [Command.parseWords_unfold]
    simp only [hp.eq, hn.eq]
    exact ⟨rfl, hn.line, rfl⟩

/-- Reads `stage := redirs (WORD redirs)*` -/
def parseStage (c : Cursor) : Except SyntaxError Command × Cursor :=
  match c.parseRedirections [] with
  | ((_, some e), stop) => (.error e, stop)
  | ((found, none), stop) =>
    match stop.parseWords ⟨[], found⟩ with
    | (.error e, stop) => (.error e, stop)
    | (.ok parts, stop) => (.ok parts.command, stop)

theorem parseStage_follows (c : Cursor) : c.Follows c.parseStage (Command.parseStage c.rest) := by
  unfold parseStage Command.parseStage
  rcases hr : c.parseRedirections [] with ⟨⟨found, e?⟩, stop⟩
  rcases hrun : Command.parseRedirections c.rest with ⟨found', e?', rest⟩
  obtain ⟨hresult, hline, hrest⟩ := (c.parseRedirections_follows []).of_eq hr
  simp only [hrun, List.nil_append] at hresult hrest
  cases hresult
  subst hrest
  cases e? with
  | some e => exact ⟨rfl, hline, rfl⟩
  | none =>
    rcases hparts : stop.parseWords ⟨[], found⟩ with ⟨parts, stop'⟩
    have hw := (stop.parseWords_follows _).of_eq hparts
    simp only [hparts, hw.eq]
    cases parts <;> exact ⟨rfl, hw.line.trans hline, rfl⟩

theorem length_rest_parseStage_le (c : Cursor) :
    c.parseStage.2.rest.length ≤ c.rest.length := by
  rw [c.parseStage_follows.rest]
  exact Command.length_parseStage_le c.rest

/-- Reads `pipeline := stage ('|' pipeline)?`, nested to the right. Only the last stage has to hold
something. -/
def parsePipeline (c : Cursor) : Except SyntaxError Command × Cursor :=
  match _hs : c.parseStage with
  | (.error e, c₁) => (.error e, c₁)
  | (.ok left, c₁) =>
    match _hpeek : c₁.peek Command.pipeSymbol with
    | (false, c₂) => (.ok left, c₂)
    | (true, c₂) =>
      match c₂.next.2.parsePipeline with
      | (.error e, c₃) => (.error e, c₃)
      | (.ok right, c₃) =>
        if right.isEmpty then (.error .missingCommand, c₃) else (.ok (.pipe left right), c₃)
termination_by c.rest.length
decreasing_by
  have h1 := length_rest_parseStage_le c
  have hp := (c₁.peek_follows _).of_eq _hpeek
  have hn := next_of_peek _hpeek
  rw [_hs] at h1
  rw [hn.rest]
  exact Nat.lt_of_lt_of_le (Token.length_next_lt (Token.next_ne_done_of_peek hp.result.symm)) h1

theorem parsePipeline_follows (c : Cursor) :
    c.Follows c.parsePipeline (Command.parsePipeline c.rest) := by
  fun_induction parsePipeline c with
  | case1 c e c₁ hs =>
    have hstage := c.parseStage_follows.of_eq hs
    rw [Command.parsePipeline_unfold]
    simp only [hstage.eq]
    exact ⟨rfl, hstage.line, rfl⟩
  | case2 c left c₁ hs c₂ hpeek =>
    have hstage := c.parseStage_follows.of_eq hs
    have hp := (c₁.peek_follows _).of_eq hpeek
    rw [Command.parsePipeline_unfold]
    simp only [hstage.eq, hp.eq]
    exact ⟨rfl, hp.line.trans hstage.line, rfl⟩
  | case3 c left c₁ hs c₂ hpeek e c₃ hright ih =>
    have hstage := c.parseStage_follows.of_eq hs
    have hp := (c₁.peek_follows _).of_eq hpeek
    have hn := next_of_peek hpeek
    have hrec := ih.of_eq hright
    rw [Command.parsePipeline_unfold]
    simp only [hstage.eq, hp.eq, hn.eq, hrec.eq]
    exact ⟨rfl, hrec.line.trans (hn.line.trans hstage.line), rfl⟩
  | case4 c left c₁ hs c₂ hpeek right c₃ hright hempty ih
  | case5 c left c₁ hs c₂ hpeek right c₃ hright hempty ih =>
    have hstage := c.parseStage_follows.of_eq hs
    have hp := (c₁.peek_follows _).of_eq hpeek
    have hn := next_of_peek hpeek
    have hrec := ih.of_eq hright
    rw [Command.parsePipeline_unfold]
    simp only [hstage.eq, hp.eq, hn.eq, hrec.eq, hempty]
    exact ⟨rfl, hrec.line.trans (hn.line.trans hstage.line), rfl⟩

/-- Reads `line := pipeline`, with nothing after it. -/
def parseLine (c : Cursor) : Except SyntaxError Command × Cursor :=
  match c.parsePipeline with
  | (.error e, stop) => (.error e, stop)
  | (.ok t, stop) =>
    match stop.atEnd with
    | (true, stop) => (.ok t, stop)
    | (false, stop) => (.error (.leftovers (Utf8.scrub stop.rest)), stop)

theorem parseLine_follows (c : Cursor) : c.Follows c.parseLine (Command.parseLine c.rest) := by
  unfold parseLine Command.parseLine
  rcases hpipeline : c.parsePipeline with ⟨result, stop⟩
  have hp := c.parsePipeline_follows.of_eq hpipeline
  simp only [hp.eq]
  cases result with
  | error e => exact ⟨rfl, hp.line, rfl⟩
  | ok t =>
    rcases hend : stop.atEnd with ⟨holds, stop'⟩
    have ha := stop.atEnd_follows.of_eq hend
    simp only [hend, ha.eq]
    cases holds <;> exact ⟨rfl, ha.line.trans hp.line, rfl⟩

/-! ## One reading after the other -/

/-- What can be read at a cursor. -/
inductive Operation
  | line
  | pipeline
  | stage
  /-- Redirections, added to those that were found before. -/
  | redirections (found : List Redirection)
  | next
  | peek (symbols : Bytes)
  | atEnd
  /-- What is left, without reading it. -/
  | rest
deriving DecidableEq, Repr

/-- What a reading gives. -/
inductive Answer
  | tree (result : Except SyntaxError Command)
  | redirections (found : List Redirection) (error? : Option SyntaxError)
  | token (t : Token)
  | found (holds : Bool)
  | atEnd (holds : Bool)
  | bytes (bs : Bytes)

/-- The error that a reading stopped with. -/
def Answer.error? : Answer → Option SyntaxError
  | tree (.error e) => some e
  | redirections _ error? => error?
  | _ => none

/-- Reads something at a cursor. -/
def perform (c : Cursor) : Operation → Answer × Cursor
  | .line => c.parseLine.map .tree id
  | .pipeline => c.parsePipeline.map .tree id
  | .stage => c.parseStage.map .tree id
  | .redirections found => (c.parseRedirections found).map (fun run => .redirections run.1 run.2) id
  | .next => c.next.map .token id
  | .peek symbols => (c.peek symbols).map .found id
  | .atEnd => c.atEnd.map .atEnd id
  | .rest => (.bytes c.rest, c)

/-- Reads one thing after the other, each where the one before has stopped. -/
def performAll (c : Cursor) : List Operation → List Answer × Cursor
  | [] => ([], c)
  | op :: ops =>
    let (answer, c) := c.perform op
    let (answers, c) := c.performAll ops
    (answer :: answers, c)

end Cursor

end PipeShell
