import PipeShell.Proofs.Command.Resuming

/-!
# Looking ahead

Looking ahead moves a cursor, but over blanks only. Two cursors with nothing but blanks between them
are `Alike`: every reading that is not a lookahead gives the same at both and leaves the same cursor
(`Cursor.Alike.perform_eq`), and a lookahead leaves a cursor that is alike
(`Cursor.alike_perform`). So the answers of a run do not depend on the lookaheads in it
(`Cursor.Alike.filter_performAll`), and what a lookahead says is about the token that is read after
it, however many more lookaheads there are in between.
-/

namespace PipeShell

/-! ## Blanks at the beginning of a line -/

namespace Token

/-- The symbols, each of which is a token of its own. -/
def symbols : Bytes := [0x3C, 0x7C, 0x3E]

theorem isSome_symbol? {b : UInt8} : (symbol? b).isSome = true ↔ b ∈ symbols := by
  unfold symbol? symbols
  split <;> [skip; split <;> [skip; split]] <;> simp_all

theorem peek_skipBlanks (among line : Bytes) : peek among (skipBlanks line) = peek among line := by
  rw [peek, skipBlanks_skipBlanks, ← peek]

theorem symbol?_inj {a b : UInt8} {t : Token} (ha : symbol? a = some t) (hb : symbol? b = some t) :
    a = b :=
  List.singleton_inj.mp ((spelling_of_symbol? ha).symm.trans (spelling_of_symbol? hb))

/-- Looking ahead for symbols finds the token of one of them. -/
theorem peek_iff {among : Bytes} (hamong : among ⊆ symbols) (line : Bytes) :
    (peek among line).1 = true ↔ ∃ b ∈ among, symbol? b = some (next line).1 := by
  unfold peek next
  cases skipBlanks line with
  | nil =>
    refine ⟨nofun, ?_⟩
    rintro ⟨b, -, hb⟩
    exact absurd rfl (symbol?_ne_done hb)
  | cons first rest =>
    rw [List.contains_iff_mem]
    cases hfirst : symbol? first with
    | some t =>
      simp only [hfirst]
      refine ⟨fun hmem => ⟨first, hmem, hfirst⟩, ?_⟩
      rintro ⟨b, hmem, hb⟩
      rwa [symbol?_inj hfirst hb]
    | none =>
      simp only [hfirst]
      refine ⟨fun hmem => ?_, ?_⟩
      · have hsome := isSome_symbol?.mpr (hamong hmem)
        rw [hfirst] at hsome
        cases hsome
      · rintro ⟨b, -, hb⟩
        exact absurd hb (symbol?_ne_word b _)

theorem atEnd_iff (line : Bytes) : (atEnd line).1 = true ↔ (next line).1 = done := by
  rw [atEnd, List.isEmpty_iff]
  exact ⟨fun h => by rw [next, h], skipBlanks_of_done⟩

end Token

namespace Command

theorem parseRedirections_skipBlanks (line : Bytes) :
    parseRedirections (Token.skipBlanks line) = parseRedirections line := by
  rw [parseRedirections_unfold, Token.peek_skipBlanks, Token.next_skipBlanks,
    ← parseRedirections_unfold]

theorem parseStage_skipBlanks (line : Bytes) :
    parseStage (Token.skipBlanks line) = parseStage line := by
  rw [parseStage, parseRedirections_skipBlanks, ← parseStage]

theorem parsePipeline_skipBlanks (line : Bytes) :
    parsePipeline (Token.skipBlanks line) = parsePipeline line := by
  rw [parsePipeline_unfold, parseStage_skipBlanks, ← parsePipeline_unfold]

theorem parseLine_skipBlanks (line : Bytes) :
    parseLine (Token.skipBlanks line) = parseLine line := by
  rw [parseLine, parsePipeline_skipBlanks, ← parseLine]

end Command

namespace Cursor

/-! ## Cursors with nothing but blanks between them -/

/-- Looking ahead reads nothing but blanks. -/
def Operation.isLookahead : Operation → Bool
  | .peek _ | .atEnd | .rest => true
  | .line | .pipeline | .stage | .redirections _ | .next => false

/-- What looking ahead gives. -/
def Answer.isLookahead : Answer → Bool
  | .found _ | .atEnd _ | .bytes _ => true
  | .tree _ | .redirections _ _ | .token _ => false

@[simp]
theorem isLookahead_perform (c : Cursor) (op : Operation) :
    (c.perform op).1.isLookahead = op.isLookahead := by
  cases op <;> rfl

theorem Operation.ofRest_skipBlanks {op : Operation} (h : op.isLookahead = false) (line : Bytes) :
    op.ofRest (Token.skipBlanks line) = op.ofRest line := by
  cases op with
  | line => simp only [ofRest, Command.parseLine_skipBlanks]
  | pipeline => simp only [ofRest, Command.parsePipeline_skipBlanks]
  | stage => simp only [ofRest, Command.parseStage_skipBlanks]
  | redirections found => simp only [ofRest, Command.parseRedirections_skipBlanks]
  | next => simp only [ofRest, Token.next_skipBlanks]
  | peek | atEnd | rest => cases h

theorem Operation.skipBlanks_ofRest {op : Operation} (h : op.isLookahead = true) (line : Bytes) :
    Token.skipBlanks (op.ofRest line).2 = Token.skipBlanks line := by
  cases op with
  | peek among =>
    change Token.skipBlanks (Token.peek among line).2 = _
    unfold Token.peek
    split <;> next hskip => rw [← hskip, Token.skipBlanks_skipBlanks]
  | atEnd => exact Token.skipBlanks_skipBlanks line
  | rest => rfl
  | line | pipeline | stage | redirections | next => cases h

/-- Two cursors on one line with nothing but blanks between them. -/
structure Alike (c c' : Cursor) : Prop where
  line : c.line = c'.line
  rest : Token.skipBlanks c.rest = Token.skipBlanks c'.rest

theorem Alike.refl (c : Cursor) : Alike c c := ⟨rfl, rfl⟩

theorem Alike.trans {c c' c'' : Cursor} (h : Alike c c') (h' : Alike c' c'') : Alike c c'' :=
  ⟨h.line.trans h'.line, h.rest.trans h'.rest⟩

theorem ext_rest {c c' : Cursor} (hline : c.line = c'.line) (hrest : c.rest = c'.rest) :
    c = c' := by
  obtain ⟨line, position, hle⟩ := c
  obtain ⟨line', position', hle'⟩ := c'
  obtain rfl : line = line' := hline
  have hlength := congrArg List.length hrest
  simp only [length_rest] at hlength
  obtain rfl : position = position' := by omega
  rfl

theorem alike_perform {op : Operation} (h : op.isLookahead = true) (c : Cursor) :
    Alike (c.perform op).2 c := by
  have hfollows := c.perform_follows op
  refine ⟨hfollows.line, ?_⟩
  rw [hfollows.rest, Operation.skipBlanks_ofRest h]

theorem Alike.perform_eq {c c' : Cursor} (hc : Alike c c') {op : Operation}
    (h : op.isLookahead = false) : c.perform op = c'.perform op := by
  have hfollows := c.perform_follows op
  have hfollows' := c'.perform_follows op
  have hofRest : op.ofRest c.rest = op.ofRest c'.rest := by
    rw [← Operation.ofRest_skipBlanks h, hc.rest, Operation.ofRest_skipBlanks h]
  refine Prod.ext ?_ (ext_rest ?_ ?_)
  · rw [hfollows.result, hfollows'.result, hofRest]
  · rw [hfollows.line, hfollows'.line, hc.line]
  · rw [hfollows.rest, hfollows'.rest, hofRest]

theorem alike_performAll {ops : List Operation} (h : ∀ op ∈ ops, op.isLookahead = true)
    (c : Cursor) : Alike (c.performAll ops).2 c := by
  induction ops generalizing c with
  | nil => exact .refl c
  | cons op ops ih =>
    obtain ⟨hop, hops⟩ := List.forall_mem_cons.mp h
    exact (ih hops _).trans (alike_perform hop c)

/-- The other answers are those that there are without looking ahead. -/
theorem Alike.filter_performAll {c c' : Cursor} (hc : Alike c c') (ops : List Operation) :
    (c.performAll ops).1.filter (!·.isLookahead) =
      (c'.performAll (ops.filter (!·.isLookahead))).1 := by
  induction ops generalizing c c' with
  | nil => rfl
  | cons op ops ih =>
    cases hop : op.isLookahead with
    | true =>
      rw [List.filter_cons_of_neg (by simp [hop]), performAll,
        List.filter_cons_of_neg (by simp [hop])]
      exact ih ((alike_perform hop c).trans hc)
    | false =>
      rw [List.filter_cons_of_pos (by simp [hop]), performAll,
        List.filter_cons_of_pos (by simp [hop]), performAll, hc.perform_eq hop]
      exact congrArg _ (ih (.refl _))

/-! ## Where readings stop -/

theorem position_perform (c : Cursor) (op : Operation) :
    c.position ≤ (c.perform op).2.position ∧ (c.perform op).2.position ≤ c.line.length := by
  have hline := (c.perform_follows op).line
  have hlength := (c.rest_perform_suffix op).length_le
  have hle := (c.perform op).2.position_le
  rw [length_rest, length_rest] at hlength
  rw [hline] at hlength hle
  have := c.position_le
  exact ⟨by omega, hle⟩

theorem position_next_lt {c : Cursor} (h : c.next.1 ≠ .done) :
    c.position < c.next.2.position := by
  have hlength := length_rest_next_lt h
  rw [length_rest, length_rest, c.next_follows.line] at hlength
  omega

theorem rest_next_of_done {c : Cursor} (h : c.next.1 = .done) : c.next.2.rest = [] := by
  rw [c.next_follows.rest]
  exact Token.next_of_done (c.next_follows.result ▸ h)

/-- Where nothing is left, no other token than the end is read. -/
theorem eq_done_of_rest {c : Cursor} (hrest : c.rest = []) {ops : List Operation} {t : Token}
    (h : .token t ∈ (c.performAll ops).1) : t = .done := by
  induction ops generalizing c with
  | nil => cases h
  | cons op ops ih =>
    have hfollows := c.perform_follows op
    rw [hrest] at hfollows
    obtain hhead | htail := List.mem_cons.mp h
    · replace hhead : .token t = (op.ofRest []).1 := hhead.trans hfollows.result
      cases op <;> cases hhead
      rfl
    · have hstop := c.rest_perform_suffix op
      rw [hrest] at hstop
      exact ih (List.suffix_nil.mp hstop) htail

/-! ## Looking ahead changes nothing -/

/-- Looking ahead is not seen by the other readings, and says what comes next.

Whatever is read at a cursor, a reading goes neither back nor beyond the line, and the readings that
do not look ahead give what they give without the lookaheads between them. Each token but the end
moves the cursor, and after the end there is nothing but the end. A lookahead for symbols finds one
exactly if the token that is read next is its token, and one for the end exactly if that token is
the end, also where there are more lookaheads before it is read. -/
theorem lookahead_transparent (c : Cursor) (before : List Operation) :
    let stop := (c.performAll before).2
    (∀ op, stop.position ≤ (stop.perform op).2.position ∧
      (stop.perform op).2.position ≤ c.line.length) ∧
    (c.performAll before).1.filter (!·.isLookahead) =
      (c.performAll (before.filter (!·.isLookahead))).1 ∧
    (stop.next.1 ≠ .done → stop.position < stop.next.2.position) ∧
    (stop.next.1 = .done → ∀ after t, .token t ∈ (stop.next.2.performAll after).1 → t = .done) ∧
    ∀ more : List Operation, (∀ op ∈ more, op.isLookahead = true) →
      (∀ among ⊆ Token.symbols, (stop.peek among).1 = true ↔
        ∃ b ∈ among, Token.symbol? b = some ((stop.peek among).2.performAll more).2.next.1) ∧
      (stop.atEnd.1 = true ↔ (stop.atEnd.2.performAll more).2.next.1 = .done) := by
  intro stop
  have hline : stop.line = c.line := line_performAll c before
  refine ⟨fun op => hline ▸ stop.position_perform op, Alike.filter_performAll (.refl c) before,
    position_next_lt, fun hdone after t => eq_done_of_rest (rest_next_of_done hdone),
    fun more hmore => ?_⟩
  -- the next token is that of `stop`, whichever lookahead comes first
  have hnext (op : Operation) (hop : op.isLookahead = true) :
      ((stop.perform op).2.performAll more).2.next.1 = (Token.next stop.rest).1 := by
    have halike := (alike_performAll hmore _).trans (alike_perform hop stop)
    have heq : perform _ .next = stop.perform .next := halike.perform_eq rfl
    exact (Answer.token.inj (congrArg Prod.fst heq)).trans stop.next_follows.result
  refine ⟨fun among hamong => ?_, ?_⟩
  · rw [(stop.peek_follows among).result, Token.peek_iff hamong, ← hnext (.peek among) rfl]
    rfl
  · rw [stop.atEnd_follows.result, Token.atEnd_iff, ← hnext .atEnd rfl]
    rfl

/-- Over blanks a lookahead does move the cursor. -/
example : ((start (Bytes.ofString " \t< a")).peek Token.symbols).2.position = 2 := by
  decide +kernel

end Cursor

end PipeShell
