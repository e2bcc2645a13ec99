import PipeShell.Command.Parse

/-!
# The grammar of a line, on tokens

What a line means can be said on its tokens alone, without a reader that moves along it. The tokens
are cut at every `|` into `segments`. The words of a segment that name no file are its `arguments`,
and each `<` or `>` with the word after it is one of its `redirections`; the two make up the `tree`
of the segment, and the trees of all segments are `joined` from the right.

Two kinds of tokens are in the way (`offence?`): a `<` or `>` that no word follows, and the tenth
argument of a segment. `firstOffence?` is the leftmost of them, and `reading` what the tokens are
read as.

`scan` finds the leftmost offence with two pieces of memory instead of all tokens before
(`firstOffence?_eq_scan`), which is how a reader can find it.
-/

namespace PipeShell

namespace Token

/-- Whether a token is a word. -/
def isWord : Token → Bool
  | word _ => true
  | _ => false

/-- Whether a token is the symbol of a redirection. -/
def isRedirection : Token → Bool
  | less | greater => true
  | _ => false

/-- The tokens of a line without its end. -/
def body (line : Bytes) : List Token := (all line).dropLast

end Token

namespace Grammar

/-! ## Segments and their trees -/

/-- The tokens between the pipe symbols. -/
def segments (ts : List Token) : List (List Token) := ts.splitOn .pipe

/-- The words that are not the file of a redirection. -/
def arguments : List Token → List Bytes
  | [] => []
  | .less :: .word _ :: ts | .greater :: .word _ :: ts => arguments ts
  | .word w :: ts => w :: arguments ts
  | _ :: ts => arguments ts

/-- The redirections, each a symbol and the word after it. -/
def redirections : List Token → List Redirection
  | [] => []
  | .less :: .word file :: ts => ⟨file, .input⟩ :: redirections ts
  | .greater :: .word file :: ts => ⟨file, .output⟩ :: redirections ts
  | _ :: ts => redirections ts

/-- The tree of a segment: the redirection that stands first is innermost. -/
def tree (segment : List Token) : Command :=
  (redirections segment).foldl (fun target r => .redirect target r.file r.direction)
    (.exec (arguments segment))

/-- Trees joined by pipes, nested to the right. -/
def joined : List Command → Command
  | [] => .exec []
  | [t] => t
  | t :: ts => .pipe t (joined ts)

/-! ## Offences -/

/-- The part of the last segment that has been seen after `before`. -/
def current (before : List Token) : List Token := (segments before).getLastD []

/-- What is wrong with token `t` between the tokens `before` it and `after` it. -/
def offence? (before : List Token) (t : Token) (after : List Token) : Option SyntaxError :=
  match t with
  | .less | .greater =>
    if after.head?.any Token.isWord then none else some .missingRedirectTarget
  | .word _ =>
    if before.getLast?.any Token.isRedirection then none
    else if (arguments (current before)).length + 1 = 10 then some (.argumentLimitExceeded 10)
    else none
  | _ => none

/-- The leftmost offence among tokens that come after `before`. -/
def firstOffence? (before : List Token) : List Token → Option SyntaxError
  | [] => none
  | t :: after => (offence? before t after).or (firstOffence? (before ++ [t]) after)

/-- What the tokens of a line are read as. -/
def reading (ts : List Token) : Except SyntaxError Command :=
  match firstOffence? [] ts with
  | some e => .error e
  | none =>
    if 2 ≤ (segments ts).length ∧ (segments ts).getLast? = some [] then .error .missingCommand
    else .ok (joined ((segments ts).map tree))

/-! ## Finding the leftmost offence -/

/-- The leftmost offence, `count` arguments of the segment having been seen; `file` tells whether
the token before was the symbol of a redirection. -/
def scan (file : Bool) (count : Nat) : List Token → Option SyntaxError
  | [] => none
  | .less :: after | .greater :: after =>
    if after.head?.any Token.isWord then scan true count after else some .missingRedirectTarget
  | .word _ :: after =>
    if file then scan false count after
    else if count + 1 = 10 then some (.argumentLimitExceeded 10)
    else scan false (count + 1) after
  | .pipe :: after => scan false 0 after
  | .done :: after => scan false count after

theorem segments_append_singleton {t : Token} (h : t ≠ .pipe) (ts : List Token) :
    segments (ts ++ [t]) = (segments ts).dropLast ++ [current ts ++ [t]] := by
  unfold current segments
  induction ts with
  | nil => simp [List.splitOn_cons_eq_if_modifyHead, h]
  | cons s ts ih =>
    rw [List.cons_append, List.splitOn_cons_eq_if_modifyHead, ih,
      List.splitOn_cons_eq_if_modifyHead]
    have hne := List.splitOn_ne_nil Token.pipe ts
    cases hs : ts.splitOn Token.pipe with
    | nil => exact absurd hs hne
    | cons first rest => split <;> cases rest <;> simp

theorem current_append_singleton {t : Token} (h : t ≠ .pipe) (ts : List Token) :
    current (ts ++ [t]) = current ts ++ [t] := by
  rw [current, segments_append_singleton h]
  simp

theorem current_append_pipe (ts : List Token) : current (ts ++ [.pipe]) = [] := by
  simp [current, segments, List.splitOn_append_cons_self]

/-- A symbol at the end adds no argument. -/
theorem arguments_append_symbol {t : Token} (h : t.isWord = false) (ts : List Token) :
    arguments (ts ++ [t]) = arguments ts := by
  fun_induction arguments ts with
  | case1 => cases t <;> simp_all [arguments, Token.isWord]
  | case2 | case3 | case4 => simp_all [arguments]
  | case5 s ts _ _ _ ih =>
    cases ts with
    | nil => cases s <;> cases t <;> simp_all [arguments, Token.isWord]
    | cons s' ts => cases s <;> cases s' <;> simp_all [arguments]

/-- A word at the end is an argument unless the symbol of a redirection stands before it. -/
theorem arguments_append_word (w : Bytes) (ts : List Token) :
    arguments (ts ++ [.word w]) =
      arguments ts ++ if ts.getLast?.any Token.isRedirection then [] else [w] := by
  fun_induction arguments ts with
  | case1 => simp [arguments]
  | case2 f ts ih | case3 f ts ih =>
    rw [List.cons_append, List.cons_append, arguments, ih]
    cases ts <;> simp [Token.isRedirection]
  | case4 v ts ih =>
    rw [List.cons_append, arguments, ih]
    cases ts <;> simp [Token.isRedirection]
  | case5 s ts hless hgreater hword ih =>
    cases ts with
    | nil => cases s <;> simp_all [arguments, Token.isRedirection]
    | cons s' ts =>
      have hs : arguments (s :: s' :: ts ++ [.word w]) = arguments (s' :: ts ++ [.word w]) := by
        cases s <;> cases s' <;> simp_all [arguments]
      rw [hs, ih]
      simp

theorem getLast?_current (ts : List Token) :
    (current ts).getLast?.any Token.isRedirection = ts.getLast?.any Token.isRedirection := by
  rcases List.eq_nil_or_concat ts with rfl | ⟨ts, t, rfl⟩
  · rfl
  · by_cases h : t = .pipe
    · rw [h, List.concat_eq_append, current_append_pipe]
      simp [Token.isRedirection]
    · rw [List.concat_eq_append, current_append_singleton h]
      simp

/-- All that has to be known of the tokens before is the state of `scan`. -/
theorem firstOffence?_eq_scan_of (before ts : List Token) :
    firstOffence? before ts =
      scan (before.getLast?.any Token.isRedirection) (arguments (current before)).length ts := by
  induction ts generalizing before with
  | nil => rfl
  | cons t after ih =>
    have last : (before ++ [t]).getLast?.any Token.isRedirection = t.isRedirection := by simp
    rw [firstOffence?, ih, last]
    cases t with
    | word w =>
      rw [current_append_singleton (by simp), arguments_append_word, getLast?_current]
      cases hf : before.getLast?.any Token.isRedirection <;>
        simp [offence?, scan, hf, Token.isRedirection]
      split <;> simp
    | pipe => rw [current_append_pipe]; simp [offence?, scan, arguments, Token.isRedirection]
    | less | greater =>
      rw [current_append_singleton (by simp), arguments_append_symbol rfl]
      simp only [offence?, scan, Token.isRedirection]
      split <;> simp
    | done =>
      rw [current_append_singleton (by simp), arguments_append_symbol rfl]
      simp [offence?, scan, Token.isRedirection]

theorem firstOffence?_eq_scan (ts : List Token) : firstOffence? [] ts = scan false 0 ts :=
  firstOffence?_eq_scan_of [] ts

/-! ## Complete redirections -/

/-- The symbol of a direction, as a token. -/
def symbol : Direction → Token
  | .input => .less
  | .output => .greater

/-- The tokens of redirections that are complete. -/
def spelled (rs : List Redirection) : List Token :=
  rs.flatMap fun r => [symbol r.direction, .word r.file]

theorem pipe_notMem_spelled (rs : List Redirection) : Token.pipe ∉ spelled rs := by
  intro h
  obtain ⟨r, -, hr⟩ := List.mem_flatMap.mp h
  cases hd : r.direction <;> simp [symbol, hd] at hr

theorem scan_spelled_append (count : Nat) (rs : List Redirection) (ts : List Token) :
    scan false count (spelled rs ++ ts) = scan false count ts := by
  induction rs with
  | nil => rfl
  | cons r rs ih =>
    cases hd : r.direction <;> simpa [spelled, symbol, hd, scan, Token.isWord] using ih

theorem arguments_spelled_append (rs : List Redirection) (ts : List Token) :
    arguments (spelled rs ++ ts) = arguments ts := by
  induction rs with
  | nil => rfl
  | cons r rs ih => cases hd : r.direction <;> simpa [spelled, symbol, hd, arguments] using ih

theorem redirections_spelled_append (rs : List Redirection) (ts : List Token) :
    redirections (spelled rs ++ ts) = rs ++ redirections ts := by
  induction rs with
  | nil => rfl
  | cons r rs ih =>
    obtain ⟨file, direction⟩ := r
    cases direction <;> simpa [spelled, symbol, redirections] using ih

/-! ## Segments one after the other -/

theorem segments_of_notMem {ts : List Token} (h : Token.pipe ∉ ts) : segments ts = [ts] :=
  List.splitOn_eq_singleton h

theorem segments_append_pipe {segment : List Token} (h : Token.pipe ∉ segment) (ts : List Token) :
    segments (segment ++ .pipe :: ts) = segment :: segments ts :=
  List.splitOn_append_cons_self_of_not_mem h ts

theorem joined_cons {ts : List Command} (h : ts ≠ []) (t : Command) :
    joined (t :: ts) = .pipe t (joined ts) := by
  cases ts with
  | nil => exact absurd rfl h
  | cons t' ts => rfl

theorem isEmpty_foldl_redirect (rs : List Redirection) (t : Command) :
    (rs.foldl (fun target r => Command.redirect target r.file r.direction) t).isEmpty =
      (rs.isEmpty && t.isEmpty) := by
  induction rs generalizing t with
  | nil => simp
  | cons r rs ih => rw [List.foldl_cons, ih]; simp [Command.isEmpty]

/-- Without an offence, only the empty segment has an empty tree. -/
theorem isEmpty_tree_iff {segment : List Token} (hscan : scan false 0 segment = none)
    (hdone : Token.done ∉ segment) (hpipe : Token.pipe ∉ segment) :
    (tree segment).isEmpty = true ↔ segment = [] := by
  constructor
  · intro h
    rw [tree, isEmpty_foldl_redirect, Bool.and_eq_true] at h
    obtain ⟨hr, ha⟩ := h
    match segment with
    | [] => rfl
    | .word w :: ts => simp [arguments, Command.isEmpty] at ha
    | .pipe :: ts => simp at hpipe
    | .done :: ts => simp at hdone
    | .less :: ts | .greater :: ts =>
      match ts with
      | [] => simp [scan] at hscan
      | .word f :: ts => simp [redirections] at hr
      | .less :: ts | .greater :: ts | .pipe :: ts | .done :: ts =>
        simp [scan, Token.isWord] at hscan
  · rintro rfl
    rfl

/-! ## Reading from the left -/

theorem reading_of_scan {ts : List Token} {e : SyntaxError} (h : scan false 0 ts = some e) :
    reading ts = .error e := by
  rw [reading, firstOffence?_eq_scan, h]

theorem reading_of_notMem {ts : List Token} (hscan : scan false 0 ts = none)
    (hpipe : Token.pipe ∉ ts) : reading ts = .ok (tree ts) := by
  simp [reading, firstOffence?_eq_scan, hscan, segments_of_notMem hpipe, joined]

/-- Whether the tokens after a `|` are read as nothing at all. -/
theorem isEmpty_joined_iff {ts : List Token} (hscan : scan false 0 ts = none)
    (hdone : Token.done ∉ ts) :
    (joined ((segments ts).map tree)).isEmpty = true ↔ segments ts = [[]] := by
  by_cases hpipe : Token.pipe ∈ ts
  · obtain ⟨segment, after, rfl, hsegment⟩ := List.eq_append_cons_of_mem hpipe
    have hne : (segments after).map tree ≠ [] := by simp [segments]
    rw [segments_append_pipe hsegment, List.map_cons, joined_cons hne]
    simp [Command.isEmpty, segments]
  · rw [segments_of_notMem hpipe]
    simpa [joined] using isEmpty_tree_iff hscan hdone hpipe

/-- A segment and the rest after its `|` are read one after the other, from the right. -/
theorem reading_append_pipe {segment ts : List Token} (hpipe : Token.pipe ∉ segment)
    (hdone : Token.done ∉ ts)
    (hscan : scan false 0 (segment ++ .pipe :: ts) = scan false 0 ts) :
    reading (segment ++ .pipe :: ts) = match reading ts with
      | .error e => .error e
      | .ok right =>
        if right.isEmpty then .error .missingCommand else .ok (.pipe (tree segment) right) := by
  cases hts : scan false 0 ts with
  | some e => rw [reading_of_scan hts, reading_of_scan (hscan.trans hts)]
  | none =>
    have hne : segments ts ≠ [] := List.splitOn_ne_nil _ _
    obtain ⟨first, rest, hsegs⟩ := List.exists_cons_of_ne_nil hne
    have hempty := isEmpty_joined_iff hts hdone
    simp only [reading, firstOffence?_eq_scan, hscan, hts, segments_append_pipe hpipe]
    rw [hsegs] at hempty ⊢
    rcases rest with _ | ⟨second, rest⟩
    · by_cases hf : first = [] <;> simp_all [joined]
    · by_cases hl : (first :: second :: rest).getLast? = some [] <;> simp_all [joined]

end Grammar

end PipeShell
