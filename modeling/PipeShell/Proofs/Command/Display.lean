import PipeShell.Proofs.Command.Words

/-!
# Printed trees are read back

`Command.display` writes the redirections of a stage behind its words, a redirection of nothing
without a blank before it, and an empty stage as nothing at all. None of this changes what the text
is read as: the tokens of a printed tree are those of the tree (`Command.body_displayBefore`), and
they are read as that tree if it could be the tree of a line (`Command.reading_tokens`).

Printing replaces what is not UTF-8, so it is the `Command.scrubbed` tree that comes back
(`Command.parse_display`). A word stays one word when it is scrubbed, since none of it vanishes and
U+FFFD has neither a blank nor a symbol among its bytes (`Token.isPlain_scrub`).
-/

namespace PipeShell

open Grammar Token

theorem Token.isPlain_scrub {w : Bytes} (h : isPlain w = true) :
    isPlain (Utf8.scrub w) = true := by
  obtain ⟨hne, hall⟩ := isPlain_iff.mp h
  have hreplacement : ∀ b ∈ Utf8.replacement, isWordByte b = true :=
    List.all_eq_true.mp rfl
  exact isPlain_iff.mpr ⟨Utf8.scrub_ne_nil hne, fun b hb =>
    (Utf8.mem_scrub hb).elim (hall b) (hreplacement b)⟩

namespace Command

variable {t : Command} {line : Bytes}

/-! ## Scrubbed trees -/

/-- The tree with ill-formed bytes replaced in every argument and file name. -/
def scrubbed : Command → Command
  | exec argv => exec (argv.map Utf8.scrub)
  | redirect target file direction => redirect target.scrubbed (Utf8.scrub file) direction
  | pipe l r => pipe l.scrubbed r.scrubbed

@[simp] theorem isEmpty_scrubbed (t : Command) : t.scrubbed.isEmpty = t.isEmpty := by
  rcases t with (_ | _) | _ | _ <;> rfl

theorem isStage_scrubbed (t : Command) : t.scrubbed.isStage = t.isStage := by
  induction t with
  | redirect target file direction ih => exact ih
  | _ => rfl

theorem isPipeline_scrubbed (t : Command) : t.scrubbed.isPipeline = t.isPipeline := by
  induction t with
  | exec => rfl
  | redirect target => exact isStage_scrubbed target
  | pipe l r ihl ihr => rw [scrubbed, isPipeline, isPipeline, isStage_scrubbed, ihr]

theorem fits_scrubbed (t : Command) : t.scrubbed.fits = t.fits := by
  induction t with
  | exec argv => simp [scrubbed, fits]
  | redirect target file direction ih => exact ih
  | pipe l r ihl ihr => rw [scrubbed, fits, fits, ihl, ihr, isEmpty_scrubbed]

/-- A tree whose words are in UTF-8 has nothing to replace. -/
theorem scrubbed_eq_self (h : ∀ w ∈ t.words, Utf8.isValid w = true) : t.scrubbed = t := by
  induction t with
  | exec argv =>
    have hargv : argv.map Utf8.scrub = argv :=
      (List.map_congr_left fun w hw => Utf8.scrub_of_isValid (h w hw)).trans (List.map_id argv)
    rw [scrubbed, hargv]
  | redirect target file direction ih =>
    rw [scrubbed, ih fun w hw => h w (List.mem_append_left _ hw),
      Utf8.scrub_of_isValid (h file (List.mem_append_right _ (List.mem_singleton.mpr rfl)))]
  | pipe l r ihl ihr =>
    rw [scrubbed, ihl fun w hw => h w (List.mem_append_left _ hw),
      ihr fun w hw => h w (List.mem_append_right _ hw)]

/-- Printing replaces what is not UTF-8, so replacing it before makes no difference. -/
theorem displayBefore_scrubbed (t : Command) (rest : Bytes) :
    t.scrubbed.displayBefore rest = t.displayBefore rest := by
  have htwice : Utf8.scrub ∘ Utf8.scrub = Utf8.scrub := funext Utf8.scrub_scrub
  induction t generalizing rest with
  | exec argv => simp [scrubbed, displayBefore, htwice]
  | redirect target file direction ih => simp [scrubbed, displayBefore, ih]
  | pipe l r ihl ihr => simp [scrubbed, displayBefore, ihl, ihr]

theorem display_scrubbed (t : Command) : t.scrubbed.display = t.display :=
  displayBefore_scrubbed t []

/-! ## The tokens of a tree -/

/-- A tree in the notation of a line, as tokens. -/
def tokens : Command → List Token
  | exec argv => argv.map .word
  | redirect target file direction => target.tokens ++ [symbol direction, .word file]
  | pipe l r => l.tokens ++ .pipe :: r.tokens

theorem tokens_of_isEmpty (h : t.isEmpty = true) : t.tokens = [] := by
  rcases t with (_ | _) | _ | _
  · rfl
  all_goals cases h

/-- A stage is some arguments with redirections around them, and is spelled in this order. -/
theorem exists_parts (h : t.isStage = true) : ∃ parts : StageParts, t = parts.command ∧
    t.tokens = parts.argv.map .word ++ spelled parts.redirections := by
  induction t with
  | exec argv => exact ⟨⟨argv, []⟩, rfl, by simp [tokens, spelled]⟩
  | redirect target file direction ih =>
    obtain ⟨parts, rfl, htokens⟩ := ih h
    refine ⟨⟨parts.argv, parts.redirections ++ [⟨file, direction⟩]⟩, ?_, ?_⟩
    · simp [StageParts.command]
    · simp [tokens, htokens, spelled]
  | pipe => cases h

theorem scan_words_append {count : Nat} (argv : List Bytes) (ts : List Token)
    (h : count + argv.length < maxArgs) :
    scan false count (argv.map .word ++ ts) = scan false (count + argv.length) ts := by
  induction argv generalizing count with
  | nil => rfl
  | cons w argv ih =>
    rw [List.length_cons, maxArgs] at h
    have hten : count + 1 ≠ 10 := by omega
    simp only [List.map_cons, List.cons_append, scan, Bool.false_eq_true, if_false, if_neg hten]
    rw [ih (by rw [maxArgs]; omega), List.length_cons, Nat.add_assoc, Nat.add_comm 1]

theorem arguments_words_append (argv : List Bytes) (ts : List Token) :
    arguments (argv.map .word ++ ts) = argv ++ arguments ts := by
  induction argv with
  | nil => rfl
  | cons w argv ih => simp [arguments, ih]

theorem redirections_words_append (argv : List Bytes) (ts : List Token) :
    redirections (argv.map .word ++ ts) = redirections ts := by
  induction argv with
  | nil => rfl
  | cons w argv ih => simp [redirections, ih]

/-- The tokens of a stage that is not too long are one segment, read as that stage. -/
theorem tree_tokens (hstage : t.isStage = true) (hfits : t.fits = true) :
    Token.pipe ∉ t.tokens ∧ scan false 0 t.tokens = none ∧ tree t.tokens = t := by
  obtain ⟨parts, rfl, htokens⟩ := exists_parts hstage
  have hlen : 0 + parts.argv.length < maxArgs := by
    rw [StageParts.command, fits_foldl_redirect] at hfits
    simpa [fits] using hfits
  have hargs := arguments_spelled_append parts.redirections []
  have hredirs := redirections_spelled_append parts.redirections []
  have hscan := scan_spelled_append (0 + parts.argv.length) parts.redirections []
  rw [List.append_nil] at hargs hredirs hscan
  rw [htokens]
  refine ⟨?_, ?_, ?_⟩
  · simpa using pipe_notMem_spelled parts.redirections
  · rw [scan_words_append _ _ hlen, hscan, scan]
  · rw [tree, arguments_words_append, redirections_words_append, hargs, hredirs]
    simp [arguments, redirections, StageParts.command]

theorem done_notMem_tokens (t : Command) : Token.done ∉ t.tokens := by
  induction t with
  | exec argv => simp [tokens]
  | redirect target file direction ih => cases direction <;> simp [tokens, symbol, ih]
  | pipe l r ihl ihr => simp [tokens, ihl, ihr]

/-- A tree that could be that of a line is what its tokens are read as. -/
theorem reading_tokens (hshape : t.isPipeline = true) (hfits : t.fits = true) :
    reading t.tokens = .ok t := by
  induction t with
  | exec | redirect =>
    obtain ⟨hpipe, hscan, htree⟩ := tree_tokens hshape hfits
    rw [reading_of_notMem hscan hpipe, htree]
  | pipe l r ihl ihr =>
    rw [isPipeline, Bool.and_eq_true] at hshape
    simp only [fits, Bool.and_eq_true, Bool.not_eq_true'] at hfits
    obtain ⟨hpipe, hscan, htree⟩ := tree_tokens hshape.1 hfits.1.1
    rw [tokens, reading_append_pipe hpipe (done_notMem_tokens r)
      (by rw [scan_append_pipe, hscan]; rfl), ihr hshape.2 hfits.1.2, htree]
    simp [hfits.2]

/-! ## The tokens of a printed tree -/

theorem endsWord_blank (rest : Bytes) : endsWord (0x20 :: rest) = true := rfl

theorem body_unwords_append {rest : Bytes} (hrest : endsWord rest = true) {ws : List Bytes}
    (h : ∀ w ∈ ws, isPlain w = true) : body (unwords ws ++ rest) = ws.map .word ++ body rest := by
  induction ws with
  | nil => rfl
  | cons w ws ih =>
    obtain ⟨hw, hws⟩ := List.forall_mem_cons.mp h
    cases ws with
    | nil => simpa [unwords] using body_word hw hrest
    | cons v ws =>
      have hsplit : unwords (w :: v :: ws) ++ rest = w ++ 0x20 :: (unwords (v :: ws) ++ rest) := by
        simp [unwords]
      rw [hsplit, body_word hw (endsWord_blank _), body_cons_blank rfl, ih hws]
      rfl

theorem symbol?_symbol (d : Direction) : symbol? d.symbol = some (symbol d) := by
  cases d <;> rfl

/-- A printed tree has the tokens of the scrubbed tree, and those of what stands after it. -/
theorem body_displayBefore {rest : Bytes} (hrest : endsWord rest = true)
    (h : ∀ w ∈ t.words, isPlain w = true) :
    body (t.displayBefore rest) = t.scrubbed.tokens ++ body rest := by
  induction t generalizing rest with
  | exec argv =>
    refine body_unwords_append hrest fun w hw => ?_
    obtain ⟨v, hv, rfl⟩ := List.mem_map.mp hw
    exact isPlain_scrub (h v hv)
  | redirect target file direction ih =>
    have hfile : isPlain (Utf8.scrub file) = true :=
      isPlain_scrub (h file (List.mem_append_right _ (List.mem_singleton.mpr rfl)))
    have hoperation : body (direction.symbol :: 0x20 :: (Utf8.scrub file ++ rest)) =
        symbol direction :: .word (Utf8.scrub file) :: body rest := by
      rw [body_cons_symbol (symbol?_symbol direction), body_cons_blank rfl, body_word hfile hrest]
    simp only [displayBefore, scrubbed, tokens]
    split
    · next hempty => simp [hoperation, tokens_of_isEmpty, hempty]
    · rw [ih (endsWord_blank _) fun w hw => h w (List.mem_append_left _ hw), body_cons_blank rfl,
        hoperation]
      simp
  | pipe l r ihl ihr =>
    rw [displayBefore, ihl (endsWord_blank _) fun w hw => h w (List.mem_append_left _ hw),
      body_cons_blank rfl, body_cons_symbol rfl, body_cons_blank rfl,
      ihr hrest fun w hw => h w (List.mem_append_right _ hw)]
    simp [scrubbed, tokens]

/-! ## Reading a printed tree -/

/-- The text of a tree that a line is read as is read as the scrubbed tree: as the same tree if the
line is in UTF-8, and in any case as one with the same text. -/
theorem parse_display (h : parse line = .ok t) :
    parse t.display = .ok t.scrubbed ∧
      (Utf8.isValid line = true → parse t.display = parse line) ∧
      t.scrubbed.display = t.display := by
  have hplain (w : Bytes) (hw : w ∈ t.words) : isPlain w = true :=
    isPlain_of_mem_body (mem_words_of_parse h hw)
  have hbody : body t.display = t.scrubbed.tokens := by
    rw [display, body_displayBefore rfl hplain, body_nil, List.append_nil]
  have hread : parse t.display = .ok t.scrubbed := by
    rw [parse_eq, hbody]
    refine reading_tokens ?_ ?_
    · rw [isPipeline_scrubbed, isPipeline_of_parse h]
    · rw [fits_scrubbed, fits_of_parse h]
  refine ⟨hread, fun hvalid => ?_, display_scrubbed t⟩
  have hwords (w : Bytes) (hw : w ∈ t.words) : Utf8.isValid w = true :=
    isValid_of_mem_body hvalid (mem_words_of_parse h hw)
  rw [hread, scrubbed_eq_self hwords, h]

/-- The line `<f a?||>g` with a byte that is no text at `?`, and the line `a < é` in UTF-8. The
first is printed as `a\uFFFD < f |  | > g`. -/
theorem parse_display_ill_formed :
    (parse [0x3C, 0x66, 0x20, 0x61, 0xFF, 0x7C, 0x7C, 0x3E, 0x67] =
        .ok (pipe (redirect (exec [[0x61, 0xFF]]) [0x66] .input)
          (pipe (exec []) (redirect (exec []) [0x67] .output))) ∧
      parse (Bytes.ofString "a\uFFFD < f |  | > g") =
        .ok (pipe (redirect (exec [0x61 :: Utf8.replacement]) [0x66] .input)
          (pipe (exec []) (redirect (exec []) [0x67] .output)))) ∧
      Utf8.isValid (Bytes.ofString "a < é") = true ∧
      parse (redirect (exec [[0x61]]) [0xC3, 0xA9] .input).display =
        parse (Bytes.ofString "a < é") := by
  have hfirst : parse [0x3C, 0x66, 0x20, 0x61, 0xFF, 0x7C, 0x7C, 0x3E, 0x67] =
      .ok (pipe (redirect (exec [[0x61, 0xFF]]) [0x66] .input)
        (pipe (exec []) (redirect (exec []) [0x67] .output))) := by
    rw [parse_eq]
    decide +kernel
  have hsecond : parse (Bytes.ofString "a < é") =
      .ok (redirect (exec [[0x61]]) [0xC3, 0xA9] .input) := by
    rw [parse_eq]
    decide +kernel
  have hvalid : Utf8.isValid (Bytes.ofString "a < é") = true := by decide +kernel
  have hscrubbed : Utf8.scrub [0x61, 0xFF] = 0x61 :: Utf8.replacement ∧
      Utf8.scrub [0x66] = [0x66] ∧ Utf8.scrub [0x67] = [0x67] := by decide +kernel
  have hread := (parse_display hfirst).1
  refine ⟨⟨hfirst, ?_⟩, hvalid, (parse_display hsecond).2.1 hvalid⟩
  have htext : (pipe (redirect (exec [[0x61, 0xFF]]) [0x66] .input)
      (pipe (exec []) (redirect (exec []) [0x67] .output))).display =
        Bytes.ofString "a\uFFFD < f |  | > g" := by decide +kernel
  rw [htext] at hread
  simpa [scrubbed, hscrubbed] using hread

end Command

end PipeShell
