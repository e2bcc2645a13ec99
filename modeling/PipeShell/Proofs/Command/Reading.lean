import Mathlib.Data.List.DropRight
import Mathlib.Tactic.Common
import PipeShell.Proofs.Command.Grammar

/-!
# The reader follows the grammar

`Command.parse` moves along the bytes of a line and knows only what it has not yet read. The tokens
of that rest are what ties it to the grammar: each reader takes a part off them, which is described
in `parseRedirections_ok` and `parseWords_ok`, or stops at the token at which `scan` stops
(`parseRedirections_error`, `parseWords_error`). By induction along the line the whole reader gives
what `Grammar.reading` says (`parse_eq_reading`).
-/

namespace PipeShell

/-! ## The tokens of the rest -/

namespace Token

theorem skipBlanks_skipBlanks (line : Bytes) : skipBlanks (skipBlanks line) = skipBlanks line :=
  List.dropWhile_idempotent _ _

theorem next_skipBlanks (line : Bytes) : next (skipBlanks line) = next line := by
  rw [next, skipBlanks_skipBlanks, next]

theorem all_of_done {line : Bytes} (h : (next line).1 = done) : all line = [done] := by
  rw [all, dif_pos h]

theorem all_of_ne_done {line : Bytes} (h : (next line).1 ≠ done) :
    all line = (next line).1 :: all (next line).2 := by
  rw [all, dif_neg h]

theorem all_ne_nil (line : Bytes) : all line ≠ [] := by
  rw [all]
  split <;> simp

theorem body_of_done {line : Bytes} (h : (next line).1 = done) : body line = [] := by
  rw [body, all_of_done h]
  rfl

theorem body_of_ne_done {line : Bytes} (h : (next line).1 ≠ done) :
    body line = (next line).1 :: body (next line).2 := by
  rw [body, all_of_ne_done h, List.dropLast_cons_of_ne_nil (all_ne_nil _)]
  rfl

theorem body_skipBlanks (line : Bytes) : body (skipBlanks line) = body line := by
  by_cases h : (next line).1 = done
  · rw [body_of_done h, body_of_done (by rwa [next_skipBlanks])]
  · rw [body_of_ne_done h, body_of_ne_done (by rwa [next_skipBlanks]), next_skipBlanks]

theorem done_notMem_body (line : Bytes) : done ∉ body line := by
  fun_induction all line with
  | case1 line h => simp [body_of_done h]
  | case2 line h ih =>
    rw [body_of_ne_done h, List.mem_cons, not_or]
    exact ⟨Ne.symm h, ih⟩

theorem skipBlanks_of_done {line : Bytes} (h : (next line).1 = done) : skipBlanks line = [] := by
  by_contra hne
  obtain ⟨b, rest, hs⟩ := List.exists_cons_of_ne_nil hne
  simp only [next, hs, symbol?] at h
  split_ifs at h

theorem body_nil : body [] = [] := body_of_done rfl

theorem body_rest_of_done {line : Bytes} (h : (next line).1 = done) : body (next line).2 = [] := by
  rw [next, skipBlanks_of_done h, body_nil]

theorem atEnd_of_body {line : Bytes} (h : body line = []) : (atEnd line).1 = true := by
  by_cases hd : (next line).1 = done
  · rw [atEnd, skipBlanks_of_done hd]
    rfl
  · simp [body_of_ne_done hd] at h

/-! ## Looking ahead -/

theorem peek_rest (symbols line : Bytes) : (peek symbols line).2 = skipBlanks line := by
  unfold peek
  split <;> simp_all

/-- Looking ahead for a pipe symbol sees the next token. -/
theorem peek_pipeSymbol (line : Bytes) :
    (peek Command.pipeSymbol line).1 = decide ((next line).1 = pipe) := by
  unfold peek next
  cases skipBlanks line with
  | nil => rfl
  | cons b rest =>
    simp only [Command.pipeSymbol, symbol?]
    split_ifs <;> simp_all

theorem body_of_peek_pipe {line : Bytes} (h : (peek Command.pipeSymbol line).1 = true) :
    body line = pipe :: body (next line).2 := by
  rw [peek_pipeSymbol, decide_eq_true_iff] at h
  rw [body_of_ne_done (by simp [h]), h]

/-- Looking ahead for the symbols of redirections sees the next token. -/
theorem peek_redirectSymbols (line : Bytes) :
    (peek Command.redirectSymbols line).1 = (next line).1.isRedirection := by
  unfold peek next
  cases skipBlanks line with
  | nil => rfl
  | cons b rest =>
    simp only [Command.redirectSymbols, symbol?]
    split_ifs <;> simp_all [isRedirection]

theorem head?_body_any (p : Token → Bool) (hp : p done = false) (line : Bytes) :
    (body line).head?.any p = p (next line).1 := by
  by_cases h : (next line).1 = done
  · simp [body_of_done h, h, hp]
  · simp [body_of_ne_done h]

end Token

namespace Command

open Grammar Token

/-! ## Redirections -/

theorem redirectTarget_ok {line file rest : Bytes} (h : redirectTarget line = (.ok file, rest)) :
    next line = (.word file, rest) := by
  unfold redirectTarget at h
  split at h <;> simp_all

theorem redirectTarget_error {line rest : Bytes} {e : SyntaxError}
    (h : redirectTarget line = (.error e, rest)) :
    e = .missingRedirectTarget ∧ (next line).1.isWord = false := by
  unfold redirectTarget at h
  split at h
  · simp at h
  · next t rest' hne ht =>
    rw [ht]
    refine ⟨by simp_all, ?_⟩
    cases t <;> simp_all [isWord]

theorem eq_symbol_of_direction? {t : Token} {d : Direction} (h : direction? t = some d) :
    t = symbol d := by
  cases t <;> simp_all [direction?, symbol] <;> subst h <;> rfl

/-- The tokens of a rest that a symbol of a redirection stands in front of. -/
theorem body_of_direction? {line : Bytes} {d : Direction}
    (h : direction? (next line).1 = some d) : body line = symbol d :: body (next line).2 := by
  have ht := eq_symbol_of_direction? h
  rw [body_of_ne_done (by rw [ht]; cases d <;> simp [symbol]), ht]

/-- A run of redirections that succeeds takes complete ones off the tokens, and all there are. -/
theorem parseRedirections_ok {line : Bytes} (h : (parseRedirections line).error? = none) :
    body line = spelled (parseRedirections line).found ++ body (parseRedirections line).rest ∧
      (next (parseRedirections line).rest).1.isRedirection = false := by
  fun_induction parseRedirections line with
  | case1 => simp at h
  | case2 => simp at h
  | case3 line hpeek d hd file rest hf more ih =>
    obtain ⟨hbody, hnext⟩ := ih h
    refine ⟨?_, hnext⟩
    have hw := redirectTarget_ok hf
    have hb : body (next line).2 = .word file :: body rest := by
      rw [body_of_ne_done (by simp [hw]), hw]
    rw [body_of_direction? hd, hb, hbody]
    simp [more, spelled]
  | case4 line hpeek =>
    rw [peek_rest, next_skipBlanks, body_skipBlanks, ← peek_redirectSymbols]
    exact ⟨rfl, by simpa using hpeek⟩

/-- A run of redirections that fails stops at the leftmost offence. -/
theorem parseRedirections_error {line : Bytes} {e : SyntaxError}
    (h : (parseRedirections line).error? = some e) (count : Nat) :
    scan false count (body line) = some e := by
  fun_induction parseRedirections line with
  | case1 line hpeek hd =>
    rw [peek_redirectSymbols] at hpeek
    cases ht : (next line).1 <;> simp_all [isRedirection, direction?]
  | case2 line hpeek d hd e' rest he =>
    obtain ⟨rfl, hw⟩ := redirectTarget_error he
    have hhead : (body (next line).2).head?.any isWord = false := by
      rw [head?_body_any isWord rfl, hw]
    rw [body_of_direction? hd]
    cases d <;> simp_all [symbol, scan]
  | case3 line hpeek d hd file rest hf more ih =>
    have hw := redirectTarget_ok hf
    have hb : body (next line).2 = .word file :: body rest := by
      rw [body_of_ne_done (by simp [hw]), hw]
    rw [body_of_direction? hd, hb]
    cases d <;> simpa [symbol, scan, isWord] using ih h
  | case4 => simp at h

/-! ## Stages -/

/-- Where a stage ends: at a pipe symbol or at the end of the line. -/
def StageEnd (ts : List Token) : Prop := ts = [] ∨ ∃ after, ts = .pipe :: after

/-- Reading a word that leaves room for another takes the word and complete redirections off the
tokens. -/
theorem body_of_word {line rest : Bytes} {w : Bytes} (hw : next line = (.word w, rest))
    (hr : (parseRedirections rest).error? = none) :
    body line = .word w :: (spelled (parseRedirections rest).found ++
      body (parseRedirections rest).rest) := by
  rw [body_of_ne_done (by simp [hw]), hw, (parseRedirections_ok hr).1]

/-- A stage that fails stops at the leftmost offence. -/
theorem parseWords_error {parts : StageParts} {line rest : Bytes} {e : SyntaxError}
    (hhead : (next line).1.isRedirection = false) (hroom : parts.argv.length < 10)
    (h : parseWords parts line = (.error e, rest)) :
    scan false parts.argv.length (body line) = some e := by
  fun_induction parseWords parts line with
  | case1 => simp at h
  | case2 => simp at h
  | case3 parts line hpipe w rest' hw hmax =>
    rw [body_of_ne_done (by simp [hw]), hw]
    have hten : parts.argv.length + 1 = 10 := by
      rw [maxArgs] at hmax
      omega
    simp_all [scan, maxArgs]
  | case4 parts line hpipe w rest' hw hmax found e' rest'' hr =>
    have hten : parts.argv.length + 1 ≠ 10 := by
      rw [maxArgs] at hmax
      omega
    have he := @parseRedirections_error rest' e' (by rw [hr])
    rw [body_of_ne_done (by simp [hw]), hw]
    simp_all [scan]
  | case5 parts line hpipe w rest' hw hmax found rest'' hr ih =>
    have hten : parts.argv.length + 1 ≠ 10 ∧ parts.argv.length + 1 < 10 := by
      rw [maxArgs] at hmax
      omega
    have hok := @parseRedirections_ok rest' (by rw [hr])
    have hrec := ih (by simpa [hr] using hok.2) (by simpa using hten.2) h
    rw [body_of_word hw (by rw [hr]), hr]
    simpa [scan, hten.1, scan_spelled_append] using hrec
  | case6 parts line hpipe t rest' hdone hword hn =>
    rw [peek_pipeSymbol] at hpipe
    cases t <;> simp_all [isRedirection]

/-- A stage that succeeds takes the tokens up to its end, none of which is an offence. -/
theorem parseWords_ok {parts parts' : StageParts} {line rest : Bytes}
    (hhead : (next line).1.isRedirection = false) (h : parseWords parts line = (.ok parts', rest)) :
    ∃ ts, body line = ts ++ body rest ∧ Token.pipe ∉ ts ∧ StageEnd (body rest) ∧
      scan false parts.argv.length (body line) = scan false 0 (body rest) ∧
      parts' = ⟨parts.argv ++ arguments ts, parts.redirections ++ redirections ts⟩ := by
  fun_induction parseWords parts line with
  | case1 parts line hpipe =>
    obtain ⟨rfl, rfl⟩ := Prod.mk.inj (by simpa using h)
    rw [peek_rest, body_skipBlanks]
    have hbody := body_of_peek_pipe hpipe
    refine ⟨[], rfl, by simp, Or.inr ⟨_, hbody⟩, ?_, by simp [arguments, redirections]⟩
    rw [hbody, scan, scan]
  | case2 parts line hpipe rest' hn =>
    obtain ⟨rfl, rfl⟩ := Prod.mk.inj (by simpa using h)
    have hd : (next line).1 = done := by rw [hn]
    have hrest := body_rest_of_done hd
    rw [hn] at hrest
    rw [body_of_done hd, hrest]
    exact ⟨[], rfl, by simp, Or.inl rfl, rfl, by simp [arguments, redirections]⟩
  | case3 => simp at h
  | case4 => simp at h
  | case5 parts line hpipe w rest' hw hmax found rest'' hr ih =>
    have hten : parts.argv.length + 1 ≠ 10 := by
      rw [maxArgs] at hmax
      omega
    have hok := @parseRedirections_ok rest' (by rw [hr])
    obtain ⟨ts, hbody, hts, hend, hscan, rfl⟩ := ih (by simpa [hr] using hok.2) h
    rw [body_of_word hw (by rw [hr]), hr]
    refine ⟨.word w :: (spelled found ++ ts), by simp [hbody], ?_, hend, ?_, ?_⟩
    · simpa using ⟨pipe_notMem_spelled found, hts⟩
    · simpa [scan, hten, scan_spelled_append] using hscan
    · simp [arguments, redirections, arguments_spelled_append, redirections_spelled_append]
  | case6 => simp at h

/-- A stage that fails stops at the leftmost offence. -/
theorem parseStage_error {line rest : Bytes} {e : SyntaxError}
    (h : parseStage line = (.error e, rest)) : scan false 0 (body line) = some e := by
  unfold parseStage at h
  split at h
  · next e' rest' hr =>
    obtain ⟨rfl, -⟩ := Prod.mk.inj (by simpa using h)
    exact parseRedirections_error (by rw [hr]) 0
  · next found rest' hr =>
    have hok := @parseRedirections_ok line (by rw [hr])
    rw [hr] at hok
    split at h
    · next e' rest'' hw =>
      obtain ⟨rfl, -⟩ := Prod.mk.inj (by simpa using h)
      rw [hok.1, scan_spelled_append]
      exact parseWords_error hok.2 (by simp) hw
    · simp at h

/-- A stage that succeeds takes the tokens up to its end and gives their tree. -/
theorem parseStage_ok {line rest : Bytes} {t : Command} (h : parseStage line = (.ok t, rest)) :
    ∃ ts, body line = ts ++ body rest ∧ Token.pipe ∉ ts ∧ StageEnd (body rest) ∧
      scan false 0 (body line) = scan false 0 (body rest) ∧ t = tree ts := by
  unfold parseStage at h
  split at h
  · simp at h
  · next found rest' hr =>
    have hok := @parseRedirections_ok line (by rw [hr])
    rw [hr] at hok
    split at h
    · simp at h
    · next parts rest'' hw =>
      obtain ⟨rfl, rfl⟩ := Prod.mk.inj (by simpa using h)
      obtain ⟨ts, hbody, hts, hend, hscan, rfl⟩ := parseWords_ok hok.2 hw
      refine ⟨spelled found ++ ts, by rw [hok.1, hbody, List.append_assoc], ?_, hend, ?_, ?_⟩
      · simpa using ⟨pipe_notMem_spelled found, hts⟩
      · rw [hok.1, scan_spelled_append]
        exact hscan
      · simp [StageParts.command, tree, arguments_spelled_append, redirections_spelled_append]

/-! ## Pipelines -/

/-- A stage with a `|` after it is read together with what comes after the `|`. -/
theorem reading_of_peek_pipe {line rest : Bytes} {left : Command}
    (hs : parseStage line = (.ok left, rest)) (hp : (peek pipeSymbol rest).1 = true) :
    reading (body line) = match reading (body (next rest).2) with
      | .error e => .error e
      | .ok right => if right.isEmpty then .error .missingCommand else .ok (.pipe left right) := by
  obtain ⟨ts, hbody, hts, -, hscan, rfl⟩ := parseStage_ok hs
  rw [body_of_peek_pipe hp] at hbody hscan
  rw [hbody] at hscan ⊢
  exact reading_append_pipe hts (done_notMem_body _) hscan

/-- A pipeline gives what its tokens are read as, and leaves no tokens if it succeeds. -/
theorem parsePipeline_eq (line : Bytes) :
    (parsePipeline line).1 = reading (body line) ∧
      ∀ t, (parsePipeline line).1 = .ok t → body (parsePipeline line).2 = [] := by
  fun_induction parsePipeline line with
  | case1 line e rest hs => simp [reading_of_scan (parseStage_error hs)]
  | case2 line left rest hs hp e rest' hr ih
  | case3 line left rest hs hp right rest' hr hempty ih =>
    rw [reading_of_peek_pipe hs hp, ← ih.1, hr]
    simp [*]
  | case4 line left rest hs hp right rest' hr hempty ih =>
    rw [reading_of_peek_pipe hs hp, ← ih.1, hr]
    refine ⟨by simp [hempty], fun _ _ => ?_⟩
    simpa [hr] using ih.2 right (by rw [hr])
  | case5 line left rest hs hp =>
    obtain ⟨ts, hbody, hts, hend, hscan, rfl⟩ := parseStage_ok hs
    have hrest : body rest = [] := by
      refine hend.resolve_right ?_
      rintro ⟨after, ha⟩
      refine hp ?_
      have hhead := head?_body_any (· = .pipe) (by simp) rest
      rw [ha] at hhead
      simpa [peek_pipeSymbol] using hhead
    rw [hrest, List.append_nil] at hbody
    rw [hrest, hbody] at hscan
    rw [hbody, reading_of_notMem hscan hts, peek_rest, body_skipBlanks, hrest]
    simp

/-- Nothing is left over after a pipeline. -/
theorem parse_eq (line : Bytes) : parse line = reading (body line) := by
  obtain ⟨heq, hrest⟩ := parsePipeline_eq line
  rw [← heq, parse, parseLine]
  split
  · next hp => rw [hp]
  · next t rest hp =>
    have hend : (atEnd rest).1 = true := by
      have h := hrest t (by rw [hp])
      rw [hp] at h
      exact atEnd_of_body h
    rw [if_pos hend, hp]

/-- Reading a line gives its leftmost offence if it has one. Without one it gives the trees of all
segments joined by pipes, except that after the last `|` something has to follow. -/
theorem parse_eq_reading (line : Bytes) :
    parse line = match firstOffence? [] (body line) with
      | some e => .error e
      | none =>
        if 2 ≤ (segments (body line)).length ∧ (segments (body line)).getLast? = some [] then
          .error .missingCommand
        else .ok (joined ((segments (body line)).map tree)) :=
  parse_eq line

/-- The last of two offences is not seen, and a stage before the last may be empty. -/
example : parse (Bytes.ofString "| a > < b |") = .error .missingRedirectTarget := by
  rw [parse_eq]
  cbv

end Command

end PipeShell
