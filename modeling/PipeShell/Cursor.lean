import PipeShell.Token

/-!
# Cursors

`Token.next` knows of a line only what is left of it. A `Cursor` keeps the whole line and the number
of bytes that were read, and finds the same tokens by looking at single bytes from there on
(`Cursor.next_follows`).
-/

namespace PipeShell

/-- Looking ahead changes nothing for the token that comes next. -/
theorem Token.next_peek (symbols line : Bytes) :
    Token.next (Token.peek symbols line).2 = Token.next line := by
  have hhead := List.head?_dropWhile_not Token.isBlank line
  unfold Token.peek
  cases h : Token.skipBlanks line with
  | nil =>
    rw [Token.next, Token.next, h]
    rfl
  | cons b rest =>
    rw [← Token.skipBlanks, h] at hhead
    have hskip : Token.skipBlanks (b :: rest) = b :: rest :=
      List.dropWhile_cons_of_neg (by simpa using hhead)
    rw [Token.next, Token.next, h, hskip]

/-- A line and a place on it. -/
structure Cursor where
  line : Bytes
  /-- The number of bytes that were read. -/
  position : Nat
  position_le : position ≤ line.length
deriving DecidableEq, Repr

namespace Cursor

/-- The beginning of a line. -/
def start (line : Bytes) : Cursor := ⟨line, 0, Nat.zero_le _⟩

/-- The part of the line that was not read. -/
def rest (c : Cursor) : Bytes := c.line.drop c.position

theorem length_rest (c : Cursor) : c.rest.length = c.line.length - c.position := List.length_drop

/-- The cursor after the bytes from its place on that satisfy `p`. -/
def skip (p : UInt8 → Bool) (c : Cursor) : Cursor where
  line := c.line
  position := c.position + (c.rest.takeWhile p).length
  position_le := by
    have hle := (List.takeWhile_prefix p (l := c.rest)).length_le
    rw [length_rest] at hle
    exact Nat.add_le_of_le_sub' c.position_le hle

/-! ## Tokens -/

/-- The token that starts at a cursor, and the cursor after it. -/
def token (c : Cursor) : Token × Cursor :=
  if h : c.position < c.line.length then
    match Token.symbol? c.line[c.position] with
    | some t => (t, ⟨c.line, c.position + 1, h⟩)
    | none =>
      let stop := c.skip Token.isWordByte
      (.word ((c.line.take stop.position).drop c.position), stop)
  else (.done, c)

/-- The first token from a cursor on; the blanks before and after it are skipped. -/
def next (c : Cursor) : Token × Cursor :=
  let (t, stop) := (c.skip Token.isBlank).token
  (t, stop.skip Token.isBlank)

/-- Whether the first byte that is no blank is one of `symbols`; the blanks are skipped. -/
def peek (symbols : Bytes) (c : Cursor) : Bool × Cursor :=
  let stop := c.skip Token.isBlank
  (stop.line[stop.position]?.any symbols.contains, stop)

/-- Whether only blanks are left; they are skipped. -/
def atEnd (c : Cursor) : Bool × Cursor :=
  let stop := c.skip Token.isBlank
  (decide (stop.line.length ≤ stop.position), stop)

/-! ## What is left to read -/

/-- A reading at a cursor gives the same as one of what is left, and stays on the line. -/
structure Follows {α : Type} (c : Cursor) (atCursor : α × Cursor) (ofRest : α × Bytes) : Prop where
  result : atCursor.1 = ofRest.1
  line : atCursor.2.line = c.line
  rest : atCursor.2.rest = ofRest.2

theorem Follows.of_eq {α : Type} {c : Cursor} {x x' : α × Cursor} {y : α × Bytes}
    (h : c.Follows x y) (hx : x = x') : c.Follows x' y := hx ▸ h

theorem Follows.eq {α : Type} {c : Cursor} {x : α × Cursor} {y : α × Bytes} (h : c.Follows x y) :
    y = (x.1, x.2.rest) :=
  Prod.ext h.result.symm h.rest.symm

theorem rest_eq_nil {c : Cursor} (h : ¬ c.position < c.line.length) : c.rest = [] :=
  List.drop_eq_nil_of_le (Nat.le_of_not_lt h)

theorem rest_eq_cons {c : Cursor} (h : c.position < c.line.length) :
    c.rest = c.line[c.position] :: (⟨c.line, c.position + 1, h⟩ : Cursor).rest :=
  List.drop_eq_getElem_cons h

theorem head?_rest (c : Cursor) : c.rest.head? = c.line[c.position]? := List.head?_drop

theorem isEmpty_rest (c : Cursor) : c.rest.isEmpty = decide (c.line.length ≤ c.position) := by
  rw [Bool.eq_iff_iff, List.isEmpty_iff, rest, List.drop_eq_nil_iff, decide_eq_true_iff]

theorem rest_skip (p : UInt8 → Bool) (c : Cursor) : (c.skip p).rest = c.rest.dropWhile p := by
  have hdrop : (c.skip p).rest = c.rest.drop (c.rest.takeWhile p).length := List.drop_drop.symm
  have happend := List.takeWhile_append_dropWhile (p := p) (l := c.rest)
  rw [hdrop]
  exact (congrArg (List.drop _) happend.symm).trans List.drop_left

/-- What was skipped is the part of the line between the two places. -/
theorem drop_take_skip (p : UInt8 → Bool) (c : Cursor) :
    (c.line.take (c.skip p).position).drop c.position = c.rest.takeWhile p := by
  rw [skip, List.drop_take, Nat.add_sub_cancel_left]
  exact (List.prefix_iff_eq_take.mp (List.takeWhile_prefix p)).symm

theorem token_follows {c : Cursor} {line : Bytes} (hc : c.rest = Token.skipBlanks line) :
    c.token.1 = (Token.next line).1 ∧ c.token.2.line = c.line ∧
      Token.skipBlanks c.token.2.rest = (Token.next line).2 := by
  unfold token Token.next
  rw [← hc]
  by_cases h : c.position < c.line.length
  · have hblank : Token.isBlank c.line[c.position] = false := by
      have hhead := List.head?_dropWhile_not Token.isBlank line
      rw [← Token.skipBlanks, ← hc, rest_eq_cons h] at hhead
      simpa using hhead
    rw [dif_pos h, rest_eq_cons h]
    simp only
    cases hs : Token.symbol? c.line[c.position] with
    | some t => exact ⟨rfl, rfl, rfl⟩
    | none =>
      have hword : Token.isWordByte c.line[c.position] = true := by
        simp [Token.isWordByte, hblank, hs]
      refine ⟨?_, rfl, ?_⟩
      · rw [drop_take_skip, rest_eq_cons h, List.takeWhile_cons_of_pos hword]
      · rw [rest_skip, rest_eq_cons h, List.dropWhile_cons_of_pos hword]
  · rw [dif_neg h, rest_eq_nil h]
    exact ⟨rfl, rfl, rfl⟩

theorem next_follows (c : Cursor) : c.Follows c.next (Token.next c.rest) := by
  obtain ⟨hresult, hline, hrest⟩ := token_follows (rest_skip Token.isBlank c)
  exact ⟨hresult, hline, (rest_skip _ _).trans hrest⟩

theorem peek_follows (symbols : Bytes) (c : Cursor) :
    c.Follows (c.peek symbols) (Token.peek symbols c.rest) := by
  have hrest : (c.skip Token.isBlank).rest = Token.skipBlanks c.rest := rest_skip _ _
  unfold peek Token.peek
  rw [← hrest]
  refine ⟨?_, rfl, ?_⟩
  · simp only [← head?_rest]
    cases (c.skip Token.isBlank).rest <;> rfl
  · simp only
    cases (c.skip Token.isBlank).rest <;> rfl

theorem atEnd_follows (c : Cursor) : c.Follows c.atEnd (Token.atEnd c.rest) := by
  have hrest : (c.skip Token.isBlank).rest = Token.skipBlanks c.rest := rest_skip _ _
  unfold atEnd Token.atEnd
  rw [← hrest, isEmpty_rest]
  exact ⟨rfl, rfl, rfl⟩

theorem next_of_peek {symbols : Bytes} {c c₁ : Cursor} {found : Bool}
    (hpeek : c.peek symbols = (found, c₁)) : c.Follows c₁.next (Token.next c.rest) := by
  have hp := (c.peek_follows symbols).of_eq hpeek
  have hn := c₁.next_follows
  rw [hp.rest, Token.next_peek] at hn
  exact ⟨hn.result, hn.line.trans hp.line, hn.rest⟩

theorem length_rest_peek_le (symbols : Bytes) (c : Cursor) :
    (c.peek symbols).2.rest.length ≤ c.rest.length := by
  rw [(c.peek_follows symbols).rest]
  exact Token.length_peek_le symbols c.rest

theorem length_rest_next_lt {c : Cursor} (h : c.next.1 ≠ .done) :
    c.next.2.rest.length < c.rest.length := by
  rw [c.next_follows.rest]
  exact Token.length_next_lt (c.next_follows.result ▸ h)

end Cursor

end PipeShell
