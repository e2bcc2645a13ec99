import PipeShell.Proofs.Command.Words

/-!
# Tokens and the lines they are written on

Tokens can be written down in many ways. A `Token.Layout` is one of them: it has blanks at its
start and after each token, as many as one likes, but two words do not touch. Reading its text
gives its tokens and the end of the line (`Token.Layout.all_text`).

The other way round, a line loses nothing but its blanks when it is read (`Token.spelling_body`),
and a word is never a part of a longer one (`Token.word_maximal`): there are neither blanks nor
symbols in it, and bytes that are neither stand on no side of it. `Token.tokens_exact` has both
ways in one statement.
-/

namespace PipeShell

namespace Token

variable {b : UInt8} {w line rest blanks : Bytes} {t : Token}

/-! ## What is on a line is in its tokens -/

/-- The tokens of a line up to the first end are its body. -/
theorem all_eq_body (line : Bytes) : all line = body line ++ [done] := by
  fun_induction all line with
  | case1 line h => rw [body_of_done h, List.nil_append]
  | case2 line h ih => rw [body_of_ne_done h, List.cons_append, ih]

theorem filter_plain (hw : isPlain w = true) : w.filter (fun b => !isBlank b) = w :=
  List.filter_eq_self.mpr fun b hb => by simp [isBlank_of_isWordByte ((isPlain_iff.mp hw).2 b hb)]

theorem spelling_of_symbol? (h : symbol? b = some t) : t.spelling = [b] := by
  simp only [symbol?, beq_iff_eq] at h
  split_ifs at h <;> subst b <;> cases h <;> rfl

/-- The tokens of a line spell all of it but its blanks. -/
theorem spelling_body (line : Bytes) :
    (body line).flatMap spelling = line.filter (fun b => !isBlank b) := by
  induction line using line_cases with
  | nil => rw [body_nil]; rfl
  | blank b rest hb ih => simp [body_cons_blank hb, ih, hb]
  | symbol b t rest ht ih =>
    rw [body_cons_symbol ht, List.flatMap_cons, ih, spelling_of_symbol? ht]
    simp [isBlank_of_symbol? ht]
  | word w rest hw hrest ih =>
    rw [body_word hw hrest, List.flatMap_cons, ih, List.filter_append, filter_plain hw]
    rfl

/-- Whether a word starts after the text: there is none, or a blank or a symbol is its last byte. -/
def startsWord (before : Bytes) : Bool := before.getLast?.all fun b => !isWordByte b

theorem startsWord_cons (hb : isWordByte b = false) {before : Bytes}
    (h : startsWord before = true) : startsWord (b :: before) = true := by
  cases before with
  | nil => simpa [startsWord] using hb
  | cons c before => simpa [startsWord] using h

theorem startsWord_append {before : Bytes} (hne : before ≠ []) (h : startsWord before = true) :
    startsWord (w ++ before) = true := by
  rwa [startsWord, List.getLast?_append_of_ne_nil _ hne]

theorem not_endsWord_plain (hw : isPlain w = true) (rest : Bytes) :
    endsWord (w ++ rest) = false := by
  obtain ⟨hne, hall⟩ := isPlain_iff.mp hw
  obtain ⟨b, bs, rfl⟩ := List.exists_cons_of_ne_nil hne
  simp [endsWord, hall b List.mem_cons_self]

theorem endsWord_append {before : Bytes} (hne : before ≠ []) (rest : Bytes) :
    endsWord (before ++ rest) = endsWord before := by
  obtain ⟨b, bs, rfl⟩ := List.exists_cons_of_ne_nil hne
  rfl

/-- A word among the tokens of a line is all there is between what comes before it and what comes
after it, neither of which goes on with a byte of a word. -/
theorem word_maximal {before after : List Token} (h : body line = before ++ word w :: after) :
    ∃ left right, line = left ++ w ++ right ∧ body left = before ∧ body right = after ∧
      startsWord left = true ∧ isPlain w = true ∧ endsWord right = true := by
  induction line using line_cases generalizing before with
  | nil => simp [body_nil] at h
  | blank b rest hb ih =>
    rw [body_cons_blank hb] at h
    obtain ⟨left, right, rfl, hleft, hright, hstart, hw, hend⟩ := ih h
    refine ⟨b :: left, right, rfl, ?_, hright, startsWord_cons (by simp [isWordByte, hb]) hstart,
      hw, hend⟩
    rw [body_cons_blank hb, hleft]
  | symbol b t rest ht ih =>
    rw [body_cons_symbol ht] at h
    cases before with
    | nil =>
      obtain ⟨rfl, -⟩ := List.cons.inj h
      exact absurd ht (symbol?_ne_word b w)
    | cons t' before =>
      obtain ⟨rfl, hrest⟩ := List.cons.inj h
      obtain ⟨left, right, rfl, hleft, hright, hstart, hw, hend⟩ := ih hrest
      refine ⟨b :: left, right, rfl, ?_, hright, startsWord_cons (by simp [isWordByte, ht]) hstart,
        hw, hend⟩
      rw [body_cons_symbol ht, hleft]
  | word v rest hv hrest ih =>
    rw [body_word hv hrest] at h
    cases before with
    | nil =>
      obtain ⟨hvw, rfl⟩ := List.cons.inj h
      cases hvw
      exact ⟨[], rest, rfl, body_nil, rfl, rfl, hv, hrest⟩
    | cons t' before =>
      obtain ⟨rfl, hbody⟩ := List.cons.inj h
      obtain ⟨left, right, rfl, hleft, hright, hstart, hw, hend⟩ := ih hbody
      -- the words `v` and `w` would be one if nothing stood between them
      have hne : left ≠ [] := by
        rintro rfl
        rw [List.nil_append, not_endsWord_plain hw] at hrest
        cases hrest
      have hv' : endsWord left = true := by rwa [List.append_assoc, endsWord_append hne] at hrest
      refine ⟨v ++ left, right, by simp, ?_, hright, startsWord_append hne hstart, hw, hend⟩
      rw [body_word hv hv', hleft]

/-! ## Tokens written down -/

/-- Whether a token can be written down: the end of a line cannot, and bytes that are not plain
are not read as one word. -/
def isWritable : Token → Bool
  | word w => isPlain w
  | done => false
  | _ => true

/-- A way to write tokens down: some blanks, then every token with the blanks after it. -/
structure Layout where
  /-- What the line starts with. -/
  lead : Bytes
  /-- The tokens, each with what is between it and the next one. -/
  written : List (Token × Bytes)
  isBlank_lead : ∀ b ∈ lead, isBlank b = true
  isBlank_gap : ∀ p ∈ written, ∀ b ∈ p.2, isBlank b = true
  isWritable_token : ∀ p ∈ written, p.1.isWritable = true
  /-- Only between two words there has to be a blank. -/
  apart : written.IsChain fun p q => p.1.isWord = true → q.1.isWord = true → p.2 ≠ []

namespace Layout

/-- The tokens that are written down. -/
def tokens (l : Layout) : List Token := l.written.map Prod.fst

/-- Tokens with the blanks after them, one after the other. -/
def textOf (written : List (Token × Bytes)) : Bytes := written.flatMap fun p => p.1.spelling ++ p.2

/-- The line on which the tokens are written down. -/
def text (l : Layout) : Bytes := l.lead ++ textOf l.written

theorem body_blanks_append (h : ∀ b ∈ blanks, isBlank b = true) (rest : Bytes) :
    body (blanks ++ rest) = body rest := by
  induction blanks with
  | nil => rfl
  | cons b blanks ih =>
    obtain ⟨hb, hblanks⟩ := List.forall_mem_cons.mp h
    rw [List.cons_append, body_cons_blank hb, ih hblanks]

theorem endsWord_blanks (hne : blanks ≠ []) (h : ∀ b ∈ blanks, isBlank b = true) (rest : Bytes) :
    endsWord (blanks ++ rest) = true := by
  obtain ⟨b, bs, rfl⟩ := List.exists_cons_of_ne_nil hne
  simp [endsWord, isWordByte, h b List.mem_cons_self]

/-- A token that is no word is written with the byte it stands for. -/
theorem exists_symbol? (hw : t.isWritable = true) (h : t.isWord = false) :
    ∃ b, t.spelling = [b] ∧ symbol? b = some t := by
  cases t with
  | word => cases h
  | done => cases hw
  | pipe | less | greater => exact ⟨_, rfl, rfl⟩

/-- Tokens that are written down are read one after the other. -/
theorem body_textOf {written : List (Token × Bytes)}
    (hgap : ∀ p ∈ written, ∀ b ∈ p.2, isBlank b = true)
    (hwritable : ∀ p ∈ written, p.1.isWritable = true)
    (hapart : written.IsChain fun p q => p.1.isWord = true → q.1.isWord = true → p.2 ≠ []) :
    body (textOf written) = written.map Prod.fst := by
  induction written with
  | nil => exact body_nil
  | cons p written ih =>
    obtain ⟨t, gap⟩ := p
    obtain ⟨hg, hgaps⟩ := List.forall_mem_cons.mp hgap
    obtain ⟨ht, hrest⟩ := List.forall_mem_cons.mp hwritable
    have htext : textOf ((t, gap) :: written) = t.spelling ++ (gap ++ textOf written) := by
      simp [textOf]
    have hbody : body (gap ++ textOf written) = written.map Prod.fst := by
      rw [body_blanks_append hg, ih hgaps hrest (List.IsChain.of_cons hapart)]
    rw [htext, List.map_cons, ← hbody]
    cases hword : t.isWord with
    | false =>
      obtain ⟨b, hb, hsymbol⟩ := exists_symbol? ht hword
      rw [hb]
      exact body_cons_symbol hsymbol _
    | true =>
      obtain ⟨w, rfl⟩ : ∃ w, t = .word w := by cases t <;> simp_all [isWord]
      refine body_word ht ?_
      -- a word ends at a blank, at a symbol or with the line
      by_cases hne : gap = []
      · subst hne
        cases written with
        | nil => rfl
        | cons q written =>
          have hq : q.1.isWord = false := by simpa using (List.isChain_cons_cons.mp hapart).1 rfl
          obtain ⟨b, hb, hsymbol⟩ := exists_symbol? (hrest q List.mem_cons_self) hq
          simp [textOf, hb, endsWord, isWordByte, hsymbol]
      · exact endsWord_blanks hne hg _

theorem body_text (l : Layout) : body l.text = l.tokens := by
  rw [text, body_blanks_append l.isBlank_lead]
  exact body_textOf l.isBlank_gap l.isWritable_token l.apart

/-- Reading what is written down gives back the tokens, however they are laid out. -/
theorem all_text (l : Layout) : all l.text = l.tokens ++ [done] := by
  rw [all_eq_body, body_text]

/-- Tokens that can be written down are the tokens of a line: of the one with a blank after each. -/
theorem exists_line {ts : List Token} (h : ∀ t ∈ ts, t.isWritable = true) :
    ∃ line, body line = ts := by
  let spaced : Layout :=
    { lead := []
      written := ts.map fun t => (t, [0x20])
      isBlank_lead := by simp
      isBlank_gap := by simp [isBlank]
      isWritable_token := by simpa using h
      apart := (List.pairwise_map.mpr (List.pairwise_of_forall fun _ _ => by simp)).isChain }
  refine ⟨spaced.text, ?_⟩
  rw [body_text, tokens, List.map_map]
  exact List.map_id ts

/-- The same tokens in two layouts: `a<b|c d` with no blank that is not needed, and with many. -/
example : body (Bytes.ofString "a<b|c d") = body (Bytes.ofString " a \t<b  |c\td ") := by
  cbv

end Layout

/-- Reading a line loses, adds and cuts nothing: up to its first end the tokens spell the line
without its blanks, and each word is a longest run of bytes that are neither blanks nor symbols.
And whatever tokens are written down, in whatever layout, are the tokens that are read. -/
theorem tokens_exact :
    (∀ line, all line = body line ++ [done] ∧ done ∉ body line ∧
      (body line).flatMap spelling = line.filter (fun b => !isBlank b) ∧
      ∀ before w after, body line = before ++ word w :: after →
        ∃ left right, line = left ++ w ++ right ∧ body left = before ∧ body right = after ∧
          startsWord left = true ∧ isPlain w = true ∧ endsWord right = true) ∧
    ∀ l : Layout, all l.text = l.tokens ++ [done] :=
  ⟨fun line => ⟨all_eq_body line, done_notMem_body line, spelling_body line,
    fun _ _ _ => word_maximal⟩, Layout.all_text⟩

end Token

end PipeShell
