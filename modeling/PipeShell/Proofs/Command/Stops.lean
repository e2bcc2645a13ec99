import PipeShell.Proofs.Command.Layout

/-!
# What a reader has taken when it stops

A reader moves along a line by taking one token after the other (`Token.Takes`), so what it leaves
is the line after a cut that is in no token, without the blanks that come first
(`Token.Takes.exists_split`). `Command.Stops` lists the ways in which an error can end a reading:
which token it is about and which are consumed. Each reader either takes tokens without an offence
(`parseStage_takes`) or stops in one of these ways after such tokens, from `parseRedirections_stops`
up to `parseLine_stops`.
-/

namespace PipeShell

/-! ## Taking tokens -/

namespace Token

variable {line mid rest : Bytes} {t : Token} {ts us : List Token}

/-- Tokens taken off a line one after the other, and what is left after the blanks behind them. -/
inductive Takes : Bytes → List Token → Bytes → Prop
  | nil (line : Bytes) : Takes line [] (skipBlanks line)
  | cons {line mid rest : Bytes} {t : Token} {ts : List Token} (ht : t ≠ done)
      (hnext : next line = (t, mid)) (h : Takes mid ts rest) : Takes line (t :: ts) rest

theorem Takes.body (h : Takes line ts rest) : body line = ts ++ body rest := by
  induction h with
  | nil line => rw [body_skipBlanks, List.nil_append]
  | cons ht hnext h ih =>
    rw [body_of_ne_done (by rwa [hnext]), hnext, ih, List.cons_append]

theorem Takes.of_skipBlanks (h : Takes (skipBlanks line) ts rest) : Takes line ts rest := by
  cases h with
  | nil => rw [skipBlanks_skipBlanks]; exact .nil line
  | cons ht hnext h => exact .cons ht (by rwa [next_skipBlanks] at hnext) h

theorem Takes.trans (h : Takes line ts mid) (h' : Takes mid us rest) :
    Takes line (ts ++ us) rest := by
  induction h with
  | nil line => exact h'.of_skipBlanks
  | cons ht hnext h ih => exact .cons ht hnext (ih h')

theorem skipBlanks_of_body (h : body line = []) : skipBlanks line = [] := by
  by_cases hdone : (next line).1 = done
  · exact skipBlanks_of_done hdone
  · simp [body_of_ne_done hdone] at h

theorem next_of_done (h : (next line).1 = done) : (next line).2 = [] := by
  rw [next, skipBlanks_of_done h]

/-- What `next` leaves starts with no blank. -/
theorem skipBlanks_next (line : Bytes) : skipBlanks (next line).2 = (next line).2 := by
  unfold next
  split
  · rfl
  · split <;> exact skipBlanks_skipBlanks _

theorem Takes.skipBlanks_rest (h : Takes line ts rest) : skipBlanks rest = rest := by
  induction h with
  | nil line => exact skipBlanks_skipBlanks line
  | cons ht hnext h ih => exact ih

theorem Takes.single (ht : t ≠ done) (hnext : next line = (t, rest)) : Takes line [t] rest := by
  have hrest := skipBlanks_next line
  rw [hnext] at hrest
  have hnil := Takes.nil rest
  rw [hrest] at hnil
  exact .cons ht hnext hnil

theorem takes_of_done (h : (next line).1 = done) : Takes line [] [] := by
  rw [← skipBlanks_of_done h]
  exact .nil line

theorem takes_of_peek (h : (peek Command.pipeSymbol line).1 = true) :
    Takes line [pipe] (next line).2 := by
  rw [peek_pipeSymbol, decide_eq_true_iff] at h
  exact .single (by simp) (Prod.ext h rfl)

theorem forall_isBlank_takeWhile (line : Bytes) :
    ∀ b ∈ line.takeWhile isBlank, isBlank b = true :=
  fun _ hb => List.mem_takeWhile_imp hb

theorem takeWhile_append_skipBlanks (line : Bytes) :
    line.takeWhile isBlank ++ skipBlanks line = line :=
  List.takeWhile_append_dropWhile

theorem endsWord_of_prefix {before : Bytes} (hp : before <+: rest) (h : endsWord rest = true) :
    endsWord before = true := by
  obtain ⟨after, rfl⟩ := hp
  cases before with
  | nil => rfl
  | cons b before => exact h

/-- The bytes of a token that is taken, with the blanks around it. It is also the first token of a
line that ends anywhere in what is left. -/
theorem next_spelled (ht : t ≠ done) (hnext : next line = (t, rest)) :
    ∃ front, line = front ++ rest ∧
      ∀ before, before <+: rest → body (front ++ before) = t :: body before := by
  have hline := takeWhile_append_skipBlanks line
  have hlead := forall_isBlank_takeWhile line
  unfold next at hnext
  split at hnext
  · cases hnext
    exact absurd rfl ht
  · next b after hs =>
    rw [hs] at hline
    split at hnext
    · next s hsymbol =>
      cases hnext
      refine ⟨line.takeWhile isBlank ++ b :: after.takeWhile isBlank, ?_, fun before _ => ?_⟩
      · rw [List.append_assoc, List.cons_append, takeWhile_append_skipBlanks, hline]
      · rw [List.append_assoc, List.cons_append, Layout.body_blanks_append hlead,
          body_cons_symbol hsymbol,
          Layout.body_blanks_append (forall_isBlank_takeWhile after)]
    · next hsymbol =>
      cases hnext
      have hblank : isBlank b = false := by
        have hhead := List.head?_dropWhile_not isBlank line
        rw [← skipBlanks, hs] at hhead
        simpa using hhead
      have hw : isPlain (b :: after.takeWhile isWordByte) = true := by
        refine isPlain_iff.mpr ⟨List.cons_ne_nil _ _, List.forall_mem_cons.mpr ⟨?_, ?_⟩⟩
        · simp [isWordByte, hblank, hsymbol]
        · exact fun c hc => List.mem_takeWhile_imp hc
      have hgap := forall_isBlank_takeWhile (after.dropWhile isWordByte)
      have hends := endsWord_dropWhile after
      rw [← takeWhile_append_skipBlanks (after.dropWhile isWordByte)] at hends
      refine ⟨line.takeWhile isBlank ++ (b :: after.takeWhile isWordByte ++
        (after.dropWhile isWordByte).takeWhile isBlank), ?_, fun before hp => ?_⟩
      · rw [List.append_assoc, List.append_assoc, takeWhile_append_skipBlanks, List.cons_append,
          List.takeWhile_append_dropWhile, hline]
      · have hend := endsWord_of_prefix ((List.prefix_append_right_inj _).mpr hp) hends
        rw [List.append_assoc, List.append_assoc, Layout.body_blanks_append hlead,
          body_word hw hend, Layout.body_blanks_append hgap]

/-- Where a line is cut when tokens are taken off it: the cut is in no token, and the rest is what
comes after it, without the blanks that come first. -/
theorem Takes.exists_split (h : Takes line ts rest) :
    ∃ left right, line = left ++ right ∧ Token.body left = ts ∧
      Token.body right = Token.body rest ∧ rest = skipBlanks right := by
  induction h with
  | nil line => exact ⟨[], line, rfl, body_nil, (body_skipBlanks line).symm, rfl⟩
  | cons ht hnext h ih =>
    obtain ⟨left, right, hmid, hleft, hright, hrest⟩ := ih
    obtain ⟨front, hline, hbody⟩ := next_spelled ht hnext
    refine ⟨front ++ left, right, by rw [hline, hmid, List.append_assoc], ?_, hright, hrest⟩
    rw [hbody left ⟨right, hmid.symm⟩, hleft]

end Token

namespace Command

open Grammar Token

variable {line rest : Bytes} {e : SyntaxError}

/-- How an error leaves a line of which the tokens `before` had been read, `count` of them being
arguments of the stage it came up in. -/
inductive Stops (line : Bytes) (before : List Token) (count : Nat) : SyntaxError → Bytes → Prop
  /-- The line ends where the file of a redirection has to stand. -/
  | noTarget (d : Direction) (h : Takes line (before ++ [symbol d]) []) :
    Stops line before count .missingRedirectTarget []
  /-- Something else stands where the file of a redirection has to, and is consumed. -/
  | badTarget (d : Direction) {t : Token} {rest : Bytes} (ht : t.isWord = false)
    (h : Takes line (before ++ [symbol d, t]) rest) :
    Stops line before count .missingRedirectTarget rest
  /-- The tenth argument is consumed. -/
  | limit {w rest : Bytes} (hcount : count + 1 = 10) (h : Takes line (before ++ [.word w]) rest) :
    Stops line before count (.argumentLimitExceeded 10) rest
  /-- The line ends after a `|`. -/
  | noCommand (h : Takes line (before ++ [.pipe]) []) : Stops line before count .missingCommand []

theorem Stops.prepend {mid : Bytes} {ts before : List Token} {count : Nat}
    (hts : Takes line ts mid) (h : Stops mid before count e rest) :
    Stops line (ts ++ before) count e rest := by
  cases h with
  | noTarget d h => exact .noTarget d (by simpa using hts.trans h)
  | badTarget d ht h => exact .badTarget d ht (by simpa using hts.trans h)
  | limit hcount h => exact .limit hcount (by simpa using hts.trans h)
  | noCommand h => exact .noCommand (by simpa using hts.trans h)

/-- No reading stops at a token of the wrong kind, and none has tokens left over. -/
theorem Stops.ne {before : List Token} {count : Nat} (h : Stops line before count e rest) :
    (∀ shown, e ≠ .unexpectedToken shown) ∧ ∀ shown, e ≠ .leftovers shown := by
  cases h <;> exact ⟨nofun, nofun⟩

theorem Stops.congr {before : List Token} {count count' : Nat} (h : Stops line before count e rest)
    (hcount : count = count') : Stops line before count' e rest := hcount ▸ h

/-! ## Redirections -/

theorem takes_symbol {d : Direction} (h : direction? (next line).1 = some d) :
    Takes line [symbol d] (next line).2 := by
  rw [← eq_symbol_of_direction? h]
  exact .single (by intro hd; simp [hd, direction?] at h) rfl

theorem redirectTarget_takes {file : Bytes} (h : redirectTarget line = (.ok file, rest)) :
    Takes line [.word file] rest :=
  .single (by simp) (redirectTarget_ok h)

theorem redirectTarget_stops {d : Direction} {mid : Bytes} (hd : Takes line [symbol d] mid)
    (h : redirectTarget mid = (.error e, rest)) (count : Nat) : Stops line [] count e rest := by
  obtain ⟨rfl, hword⟩ := redirectTarget_error h
  have hrest : (next mid).2 = rest := by
    unfold redirectTarget at h
    split at h <;> simp_all
  by_cases hdone : (next mid).1 = done
  · have hnil : rest = [] := by rw [← hrest, next_of_done hdone]
    have hmid : mid = [] := by rw [← hd.skipBlanks_rest, skipBlanks_of_done hdone]
    rw [hmid] at hd
    rw [hnil]
    exact .noTarget d hd
  · exact .badTarget d hword (hd.trans (.single hdone (Prod.ext rfl hrest)))

/-- A run of redirections that succeeds takes complete ones. -/
theorem parseRedirections_takes {run : RedirectionRun} (hrun : parseRedirections line = run)
    (h : run.error? = none) : Takes line (spelled run.found) run.rest := by
  subst hrun
  fun_induction parseRedirections line with
  | case1 => cases h
  | case2 => cases h
  | case3 line hpeek d hd file mid hf more ih =>
    exact ((takes_symbol hd).trans (redirectTarget_takes hf)).trans (ih h)
  | case4 line hpeek =>
    rw [peek_rest]
    exact .nil line

/-- A run of redirections that fails has taken complete ones, and stops at a symbol that no word
follows. -/
theorem parseRedirections_stops {run : RedirectionRun} (hrun : parseRedirections line = run)
    (h : run.error? = some e) (count : Nat) : Stops line (spelled run.found) count e run.rest := by
  subst hrun
  fun_induction parseRedirections line with
  | case1 line hpeek hd =>
    rw [peek_redirectSymbols] at hpeek
    cases ht : (next line).1 <;> simp_all [isRedirection, direction?]
  | case2 line hpeek d hd e' rest' he =>
    cases h
    exact redirectTarget_stops (takes_symbol hd) he count
  | case3 line hpeek d hd file mid hf more ih =>
    exact (ih h).prepend ((takes_symbol hd).trans (redirectTarget_takes hf))
  | case4 => cases h

/-! ## Stages -/

/-- What a stage leaves when it succeeds: nothing, or something that starts with `|`. -/
def StageRest (rest : Bytes) : Prop := rest = [] ∨ rest.head? = some 0x7C

theorem stageRest_of_peek (h : (peek pipeSymbol line).1 = true) :
    StageRest (peek pipeSymbol line).2 := by
  unfold peek at h ⊢
  split at h
  · cases h
  · right
    simpa [pipeSymbol] using h

theorem StageRest.eq_nil (h : StageRest rest) (hpeek : (peek pipeSymbol rest).1 = false) :
    rest = [] := by
  refine h.resolve_right fun hhead => ?_
  obtain ⟨after, rfl⟩ := List.head?_eq_some_iff.mp hhead
  cases hpeek

/-- A word that leaves room for another, with the redirections after it, adds one argument. -/
theorem scan_word_append {count : Nat} (hten : count + 1 ≠ 10) (w : Bytes)
    (found : List Redirection) (ts : List Token) :
    scan false count (.word w :: spelled found ++ ts) = scan false (count + 1) ts := by
  simp [scan, hten, scan_spelled_append]

theorem pipe_notMem_word_append (w : Bytes) (found : List Redirection) {ts : List Token}
    (h : Token.pipe ∉ ts) : Token.pipe ∉ .word w :: spelled found ++ ts := by
  simpa using ⟨pipe_notMem_spelled found, h⟩

/-- The part of a stage after its first redirections takes tokens without an offence if it succeeds,
up to where the stage ends. -/
theorem parseWords_takes {parts parts' : StageParts}
    (h : parseWords parts line = (.ok parts', rest)) :
    ∃ ts, Takes line ts rest ∧ Token.pipe ∉ ts ∧ scan false parts.argv.length ts = none ∧
      StageRest rest := by
  fun_induction parseWords parts line with
  | case1 parts line hpipe =>
    cases h
    refine ⟨[], ?_, by simp, rfl, stageRest_of_peek hpipe⟩
    rw [peek_rest]
    exact .nil line
  | case2 parts line hpipe rest' hn =>
    cases h
    have hdone : (next line).1 = done := by rw [hn]
    have hnil : rest = [] := by simpa [hn] using next_of_done hdone
    rw [hnil]
    exact ⟨[], takes_of_done hdone, by simp, rfl, .inl rfl⟩
  | case3 => cases h
  | case4 => cases h
  | case5 parts line hpipe w mid hw hmax found mid' hr ih =>
    obtain ⟨ts, hts, hpipe, hnone, hend⟩ := ih h
    have hfirst : Takes line (.word w :: spelled found) mid' :=
      Takes.trans (.single (by simp) hw) (parseRedirections_takes hr rfl)
    have hten : parts.argv.length + 1 ≠ 10 := by
      rw [maxArgs] at hmax
      omega
    refine ⟨_, hfirst.trans hts, pipe_notMem_word_append w found hpipe, ?_, hend⟩
    rw [scan_word_append hten]
    simpa using hnone
  | case6 => cases h

/-- The part of a stage after its first redirections that fails has taken tokens without an offence
before, all of them of this stage. -/
theorem parseWords_stops {parts : StageParts} (hhead : (next line).1.isRedirection = false)
    (hroom : parts.argv.length < 10) (h : parseWords parts line = (.error e, rest)) :
    ∃ before, Token.pipe ∉ before ∧ scan false parts.argv.length before = none ∧
      Stops line before (parts.argv.length + (arguments before).length) e rest := by
  fun_induction parseWords parts line with
  | case1 => cases h
  | case2 => cases h
  | case3 parts line hpipe w rest' hw hmax =>
    cases h
    rw [maxArgs] at hmax
    exact ⟨[], by simp, rfl, .limit (by simp [arguments]; omega) (.single (by simp) hw)⟩
  | case4 parts line hpipe w mid hw hmax found e' rest' hr =>
    cases h
    have hten : parts.argv.length + 1 ≠ 10 := by
      rw [maxArgs] at hmax
      omega
    refine ⟨.word w :: spelled found, ?_, ?_, ?_⟩
    · simpa using pipe_notMem_word_append w found List.not_mem_nil
    · simpa [scan] using scan_word_append hten w found []
    · exact (parseRedirections_stops hr rfl _).prepend (.single (by simp) hw)
  | case5 parts line hpipe w mid hw hmax found mid' hr ih =>
    have hten : parts.argv.length + 1 ≠ 10 ∧ parts.argv.length + 1 < 10 := by
      rw [maxArgs] at hmax
      omega
    have hok := @parseRedirections_ok mid (by rw [hr])
    rw [hr] at hok
    obtain ⟨before, hpipe, hnone, hstops⟩ := ih hok.2 (by simpa using hten.2) h
    have hfirst : Takes line (.word w :: spelled found) mid' :=
      Takes.trans (.single (by simp) hw) (parseRedirections_takes hr rfl)
    refine ⟨_, pipe_notMem_word_append w found hpipe, ?_, (hstops.prepend hfirst).congr ?_⟩
    · rw [scan_word_append hten.1]
      simpa using hnone
    · simp [arguments, arguments_spelled_append]
      omega
  | case6 parts line hpipe t rest' hdone hword hn =>
    rw [peek_pipeSymbol] at hpipe
    cases t <;> simp_all [isRedirection]

/-- A stage that succeeds takes tokens without an offence, up to where it ends. -/
theorem parseStage_takes {t : Command} (h : parseStage line = (.ok t, rest)) :
    ∃ ts, Takes line ts rest ∧ Token.pipe ∉ ts ∧ scan false 0 ts = none ∧ StageRest rest := by
  unfold parseStage at h
  split at h
  · cases h
  · next found mid hr =>
    split at h
    · cases h
    · next parts rest' hw =>
      cases h
      obtain ⟨ts, hts, hpipe, hnone, hend⟩ := parseWords_takes hw
      refine ⟨_, (parseRedirections_takes hr rfl).trans hts, ?_,
        (scan_spelled_append 0 found ts).trans hnone, hend⟩
      simpa using ⟨pipe_notMem_spelled found, hpipe⟩

/-- A stage that fails has taken tokens without an offence before, all of them of this stage. -/
theorem parseStage_stops (h : parseStage line = (.error e, rest)) :
    ∃ before, Token.pipe ∉ before ∧ scan false 0 before = none ∧
      Stops line before (arguments before).length e rest := by
  unfold parseStage at h
  split at h
  · next found e' rest' hr =>
    cases h
    refine ⟨spelled found, pipe_notMem_spelled found, ?_, parseRedirections_stops hr rfl _⟩
    simpa [scan] using scan_spelled_append 0 found []
  · next found mid hr =>
    have hok := @parseRedirections_ok line (by rw [hr])
    rw [hr] at hok
    split at h
    · next e' rest' hw =>
      cases h
      obtain ⟨before, hpipe, hnone, hstops⟩ := parseWords_stops hok.2 (by simp) hw
      refine ⟨_, ?_, (scan_spelled_append 0 found before).trans hnone,
        (hstops.prepend (parseRedirections_takes hr rfl)).congr ?_⟩
      · simpa using ⟨pipe_notMem_spelled found, hpipe⟩
      · simp [arguments_spelled_append]
    · cases h

/-! ## Pipelines and lines -/

theorem eq_nil_of_isEmpty {ts : List Token} {t : Command} (hdone : Token.done ∉ ts)
    (h : reading ts = .ok t) (hempty : t.isEmpty = true) : ts = [] := by
  unfold reading at h
  split at h
  · cases h
  · next hnone =>
    rw [firstOffence?_eq_scan] at hnone
    split at h
    · cases h
    · cases h
      have hsegments := (isEmpty_joined_iff hnone hdone).mp hempty
      have hsplit : [Token.pipe].intercalate (ts.splitOn Token.pipe) = ts :=
        List.intercalate_splitOn Token.pipe
      rw [← segments, hsegments] at hsplit
      simpa using hsplit.symm

theorem current_of_notMem {ts : List Token} (h : Token.pipe ∉ ts) : current ts = ts := by
  rw [current, segments_of_notMem h]
  rfl

theorem current_append_pipe_cons {segment : List Token} (h : Token.pipe ∉ segment)
    (ts : List Token) : current (segment ++ .pipe :: ts) = current ts := by
  rw [current, current, segments_append_pipe h]
  obtain ⟨first, more, hs⟩ := List.exists_cons_of_ne_nil (List.splitOn_ne_nil Token.pipe ts)
  rw [segments, hs]
  rfl

/-- A pipeline that succeeds leaves nothing. -/
theorem parsePipeline_rest {t : Command} (h : parsePipeline line = (.ok t, rest)) : rest = [] := by
  fun_induction parsePipeline line generalizing t with
  | case1 => cases h
  | case2 => cases h
  | case3 => cases h
  | case4 line left mid hs hp right rest' hr hempty ih =>
    cases h
    exact ih hr
  | case5 line left mid hs hp =>
    cases h
    obtain ⟨-, -, -, -, hend⟩ := parseStage_takes hs
    rw [hend.eq_nil (by simpa using hp)]
    rfl

/-- A pipeline that fails has taken tokens without an offence before. -/
theorem parsePipeline_stops (h : parsePipeline line = (.error e, rest)) :
    ∃ before, scan false 0 before = none ∧
      Stops line before (arguments (current before)).length e rest := by
  fun_induction parsePipeline line with
  | case1 line e' rest' hs =>
    cases h
    obtain ⟨before, hpipe, hnone, hstops⟩ := parseStage_stops hs
    refine ⟨before, hnone, ?_⟩
    rwa [current_of_notMem hpipe]
  | case2 line left mid hs hp e' rest' hr ih =>
    cases h
    obtain ⟨ts, hts, hpipe, hnone, -⟩ := parseStage_takes hs
    obtain ⟨before, hbefore, hstops⟩ := ih hr
    refine ⟨ts ++ .pipe :: before, by rw [scan_append_pipe, hnone, hbefore]; rfl, ?_⟩
    rw [current_append_pipe_cons hpipe]
    exact (hstops.prepend (takes_of_peek hp)).prepend hts
  | case3 line left mid hs hp right rest' hr hempty ih =>
    cases h
    obtain ⟨ts, hts, -, hnone, -⟩ := parseStage_takes hs
    have hbody := (parsePipeline_eq (next mid).2).1
    rw [hr] at hbody
    have hnil : (next mid).2 = [] := by
      rw [← skipBlanks_next]
      exact skipBlanks_of_body (eq_nil_of_isEmpty (done_notMem_body _) hbody.symm hempty)
    have htakes := hts.trans (takes_of_peek hp)
    rw [hnil] at htakes
    rw [parsePipeline_rest hr]
    exact ⟨ts, hnone, .noCommand htakes⟩
  | case4 => cases h
  | case5 => cases h

theorem parseLine_stops (h : parseLine line = (.error e, rest)) :
    ∃ before, scan false 0 before = none ∧
      Stops line before (arguments (current before)).length e rest := by
  unfold parseLine at h
  split at h
  · next e' rest' hp =>
    cases h
    exact parsePipeline_stops hp
  · next t mid hp =>
    rw [parsePipeline_rest hp] at h
    cases h

end Command

end PipeShell
