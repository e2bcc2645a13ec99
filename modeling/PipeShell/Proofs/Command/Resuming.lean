import PipeShell.Command.Cursor
import PipeShell.Proofs.Command.Stops

/-!
# Reading on after an error

Whatever has been read at a cursor before, and with whatever errors, a reading sees nothing of the
line but what is left of it (`Cursor.perform_follows`). So what holds of a reading of any rest holds
wherever a reading starts, and where one stops with an error is known from `Command.Stops`
(`Cursor.Operation.stops`).
-/

namespace PipeShell

/-! ## After a cut -/

/-- What is left of a line after the tokens `ts`: the line is cut behind them, in no token, and the
blanks behind the cut are gone. -/
def Token.IsAfter (line : Bytes) (ts : List Token) (rest : Bytes) : Prop :=
  ∃ left right, line = left ++ right ∧ body left = ts ∧ body line = ts ++ body right ∧
    rest = skipBlanks right

theorem Token.Takes.isAfter {line rest : Bytes} {ts : List Token} (h : Takes line ts rest) :
    IsAfter line ts rest := by
  obtain ⟨left, right, hline, hleft, hright, hrest⟩ := h.exists_split
  exact ⟨left, right, hline, hleft, hright.symm ▸ h.body, hrest⟩

open Grammar in
/-- What an error leaves of a line of which the tokens `before` were read until it came up. Two of
the errors never do. -/
def SyntaxError.Leaves (line : Bytes) (before : List Token) (rest : Bytes) : SyntaxError → Prop
  -- the token that stands where the file has to is consumed
  | .missingRedirectTarget => ∃ d,
    (Token.body line = before ++ [symbol d] ∧ rest = []) ∨
    ∃ t, t.isWord = false ∧ Token.IsAfter line (before ++ [symbol d, t]) rest
  -- the tenth argument is consumed
  | .argumentLimitExceeded limit =>
    limit = 10 ∧ (arguments (current before)).length = 9 ∧
      ∃ w, Token.IsAfter line (before ++ [.word w]) rest
  | .missingCommand => Token.body line = before ++ [.pipe] ∧ rest = []
  | .unexpectedToken _ | .leftovers _ => False

theorem Command.Stops.leaves {line rest : Bytes} {before : List Token} {e : SyntaxError}
    (h : Stops line before (Grammar.arguments (Grammar.current before)).length e rest) :
    e.Leaves line before rest := by
  cases h with
  | noTarget d h => exact ⟨d, .inl ⟨by simpa [Token.body_nil] using h.body, rfl⟩⟩
  | badTarget d ht h => exact ⟨d, .inr ⟨_, ht, h.isAfter⟩⟩
  | limit hcount h => exact ⟨rfl, Nat.succ.inj hcount, _, h.isAfter⟩
  | noCommand h => exact ⟨by simpa [Token.body_nil] using h.body, rfl⟩

namespace Cursor

/-! ## Readings see only what is left -/

/-- What a reading gives at the beginning of a line, and what it leaves. -/
def Operation.ofRest (line : Bytes) : Operation → Answer × Bytes
  | .line => (Command.parseLine line).map .tree id
  | .pipeline => (Command.parsePipeline line).map .tree id
  | .stage => (Command.parseStage line).map .tree id
  | .redirections found =>
    let run := Command.parseRedirections line
    (.redirections (found ++ run.found) run.error?, run.rest)
  | .next => (Token.next line).map .token id
  | .peek symbols => (Token.peek symbols line).map .found id
  | .atEnd => (Token.atEnd line).map .atEnd id
  | .rest => (.bytes line, line)

theorem Follows.map {α β : Type} {c : Cursor} {x : α × Cursor} {y : α × Bytes} (f : α → β)
    (h : c.Follows x y) : c.Follows (x.map f id) (y.map f id) :=
  ⟨congrArg f h.result, h.line, h.rest⟩

theorem perform_follows (c : Cursor) (op : Operation) :
    c.Follows (c.perform op) (op.ofRest c.rest) := by
  cases op with
  | line => exact c.parseLine_follows.map Answer.tree
  | pipeline => exact c.parsePipeline_follows.map Answer.tree
  | stage => exact c.parseStage_follows.map Answer.tree
  | redirections found =>
    exact (c.parseRedirections_follows found).map fun run => Answer.redirections run.1 run.2
  | next => exact c.next_follows.map Answer.token
  | peek symbols => exact (c.peek_follows symbols).map Answer.found
  | atEnd => exact c.atEnd_follows.map Answer.atEnd
  | rest => exact ⟨rfl, rfl, rfl⟩

theorem line_performAll (c : Cursor) (ops : List Operation) :
    (c.performAll ops).2.line = c.line := by
  induction ops generalizing c with
  | nil => rfl
  | cons op ops ih => exact (ih _).trans (c.perform_follows op).line

theorem position_of_rest {c : Cursor} (h : c.rest = []) : c.position = c.line.length :=
  Nat.le_antisymm c.position_le (List.drop_eq_nil_iff.mp h)

theorem Operation.length_ofRest_le (op : Operation) (line : Bytes) :
    (op.ofRest line).2.length ≤ line.length := by
  cases op with
  | line => exact Command.length_parseLine_le line
  | pipeline => exact Command.length_parsePipeline_le line
  | stage => exact Command.length_parseStage_le line
  | redirections => exact Command.length_parseRedirections_le line
  | next => exact Token.length_next_le line
  | peek symbols => exact Token.length_peek_le symbols line
  | atEnd => exact Token.length_skipBlanks_le line
  | rest => exact Nat.le_refl _

/-- A reading does not go back. -/
theorem rest_perform_suffix (c : Cursor) (op : Operation) : (c.perform op).2.rest <:+ c.rest := by
  have h := c.perform_follows op
  have hlength := op.length_ofRest_le c.rest
  rw [← h.rest] at hlength
  have hstop : (c.perform op).2.rest <:+ c.line := by
    rw [← h.line]
    exact List.drop_suffix _ _
  exact List.suffix_of_suffix_length_le hstop (List.drop_suffix _ _) hlength

/-! ## Errors of all readings -/

theorem Answer.eq_error_of_tree {result : Except SyntaxError Command} {e : SyntaxError}
    (h : (tree result).error? = some e) : result = .error e := by
  cases result with
  | error e' => exact congrArg Except.error (Option.some.inj h)
  | ok t => cases h

open Grammar in
/-- An error comes after tokens without an offence. If it ends a stage, they are all of this stage,
and if it ends a run of redirections they are the complete ones that are added. -/
theorem Operation.stops {op : Operation} {line : Bytes} {e : SyntaxError}
    (h : (op.ofRest line).1.error? = some e) :
    ∃ before, scan false 0 before = none ∧
      Command.Stops line before (arguments (current before)).length e (op.ofRest line).2 ∧
      (op = .stage → Token.pipe ∉ before) ∧
      ∀ found, op = .redirections found → ∃ new, before = spelled new ∧
        (op.ofRest line).1 = .redirections (found ++ new) (some e) := by
  cases op with
  | line =>
    have herror := Answer.eq_error_of_tree h
    obtain ⟨before, hnone, hstops⟩ := Command.parseLine_stops (Prod.ext herror rfl)
    exact ⟨before, hnone, hstops, nofun, nofun⟩
  | pipeline =>
    have herror := Answer.eq_error_of_tree h
    obtain ⟨before, hnone, hstops⟩ := Command.parsePipeline_stops (Prod.ext herror rfl)
    exact ⟨before, hnone, hstops, nofun, nofun⟩
  | stage =>
    have herror := Answer.eq_error_of_tree h
    obtain ⟨before, hpipe, hnone, hstops⟩ := Command.parseStage_stops (Prod.ext herror rfl)
    refine ⟨before, hnone, ?_, fun _ => hpipe, nofun⟩
    rwa [Command.current_of_notMem hpipe]
  | redirections found =>
    have herror : (Command.parseRedirections line).error? = some e := h
    refine ⟨_, ?_, Command.parseRedirections_stops rfl herror _, nofun, ?_⟩
    · simpa [scan] using scan_spelled_append 0 (Command.parseRedirections line).found []
    · rintro _ ⟨⟩
      exact ⟨_, rfl, by rw [← herror]; rfl⟩
  | next | peek | atEnd | rest => cases h

/-! ## What can be read at any time -/

/-- Whatever was read before, no reading says that a token is unexpected or that something is left
over. A pipeline that is read ends with the line, and a stage there or just before a `|`. -/
theorem no_leftovers (input : Bytes) (before : List Operation) (op : Operation) :
    let c := ((start input).performAll before).2
    let answer := (c.perform op).1
    let stop := (c.perform op).2
    (∀ e, answer.error? = some e →
      (∀ shown, e ≠ .unexpectedToken shown) ∧ ∀ shown, e ≠ .leftovers shown) ∧
    (op = .pipeline → ∀ t, answer = .tree (.ok t) → stop.position = input.length) ∧
    (op = .stage → ∀ t, answer = .tree (.ok t) →
      stop.position = input.length ∨ input[stop.position]? = some 0x7C) := by
  intro c answer stop
  obtain ⟨hresult, hline, hrest⟩ := c.perform_follows op
  have hstop : stop.line = input := hline.trans (line_performAll (start input) before)
  refine ⟨fun e he => ?_, ?_, ?_⟩
  · obtain ⟨_, -, hstops, -⟩ :=
      Operation.stops ((congrArg Answer.error? hresult).symm.trans he)
    exact hstops.ne
  · rintro rfl t ht
    have hread := Answer.tree.inj (hresult.symm.trans ht)
    rw [position_of_rest (hrest.trans (Command.parsePipeline_rest (Prod.ext hread rfl))), hstop]
  · rintro rfl t ht
    have hread := Answer.tree.inj (hresult.symm.trans ht)
    obtain ⟨-, -, -, -, hend⟩ := Command.parseStage_takes (Prod.ext hread rfl)
    refine hend.imp (fun hnil => ?_) fun hpipe => ?_
    · rw [position_of_rest (hrest.trans hnil), hstop]
    · rw [← hstop, ← head?_rest]
      exact (congrArg List.head? hrest).trans hpipe

open Grammar in
/-- A reading sees nothing of a line but what is left of it, whatever was read before: at the
beginning of that rest it gives the same and leaves the same, a part of it. If it stops with an
error, then where the error says, after tokens without an offence. Redirections that stop so keep
the complete ones among them. -/
theorem perform_eq_start (line : Bytes) (before : List Operation) (op : Operation) :
    let c := ((start line).performAll before).2
    let answer := (c.perform op).1
    let stop := (c.perform op).2
    ((start c.rest).perform op).1 = answer ∧ ((start c.rest).perform op).2.rest = stop.rest ∧
    stop.rest <:+ c.rest ∧
    ∀ e, answer.error? = some e → ∃ tokens, firstOffence? [] tokens = none ∧
      e.Leaves c.rest tokens stop.rest ∧ (op = .stage → Token.pipe ∉ tokens) ∧
      ∀ found, op = .redirections found → ∃ new, tokens = spelled new ∧
        answer = .redirections (found ++ new) (some e) := by
  intro c answer stop
  have hfollows := c.perform_follows op
  have hfresh := (start c.rest).perform_follows op
  refine ⟨hfresh.result.trans hfollows.result.symm, hfresh.rest.trans hfollows.rest.symm,
    c.rest_perform_suffix op, fun e he => ?_⟩
  obtain ⟨tokens, hnone, hstops, hstage, hfound⟩ :=
    Operation.stops ((congrArg Answer.error? hfollows.result).symm.trans he)
  refine ⟨tokens, by rwa [firstOffence?_eq_scan], ?_, hstage, fun found hop => ?_⟩
  · rw [← hfollows.rest] at hstops
    exact hstops.leaves
  · obtain ⟨new, hnew, hanswer⟩ := hfound found hop
    exact ⟨new, hnew, hfollows.result.trans hanswer⟩

/-- Where a file has to stand, even a `|` is consumed, and the line can be read on behind it. -/
example :
    ((start (Bytes.ofString "a > | b")).performAll [.stage, .peek [0x62]]).2.position = 6 := by
  decide +kernel

end Cursor

end PipeShell
