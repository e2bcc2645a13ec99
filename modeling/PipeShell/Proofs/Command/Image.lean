import PipeShell.Proofs.Command.Display
import PipeShell.Proofs.Command.Layout

/-!
# The trees that lines are read as

Which trees come out of `Command.parse` can be said without a line (`Command.exists_parse_iff`).
They are stages joined by pipes from the right; every stage has fewer words than there are slots,
every word and every file name is plain, and only a stage with a `|` after it may be empty.

All of this is kept by reading: a `Command.fits` tree is cut into stages by
`Command.fits_joined_iff`, and its words by `Command.mem_words_joined_iff`. The other way round, the
tokens of such a tree can be written down (`Command.isWritable_of_mem_tokens`), and the line they
are written on is read as the tree.
-/

namespace PipeShell

open Grammar Token

namespace Command

variable {t : Command} {stages : List StageParts} {w : Bytes}

/-! ## Stages and the tree they are joined to -/

theorem isStage_command (s : StageParts) : s.command.isStage = true :=
  isStage_foldl_redirect s.redirections rfl

theorem words_command (s : StageParts) :
    s.command.words = s.argv ++ s.redirections.map Redirection.file :=
  words_foldl_redirect s.redirections _

theorem fits_command (s : StageParts) : s.command.fits = true ↔ s.argv.length < maxArgs := by
  rw [StageParts.command, fits_foldl_redirect]
  simp [fits]

theorem isEmpty_command_iff (s : StageParts) : s.command.isEmpty = true ↔ s = ⟨[], []⟩ := by
  obtain ⟨argv, redirections⟩ := s
  rw [StageParts.command, isEmpty_foldl_redirect]
  cases argv <;> simp [isEmpty]

theorem mem_words_joined_iff :
    w ∈ (joined (stages.map StageParts.command)).words ↔
      ∃ s ∈ stages, w ∈ s.argv ∨ ∃ r ∈ s.redirections, r.file = w := by
  induction stages with
  | nil => simp [joined, words]
  | cons s stages ih =>
    have hs : w ∈ s.command.words ↔ w ∈ s.argv ∨ ∃ r ∈ s.redirections, r.file = w := by
      simp [words_command]
    cases stages with
    | nil => simp [joined, hs]
    | cons s' stages =>
      rw [List.map_cons, joined_cons (by simp), words, List.mem_append, hs, ih]
      simp

/-- The tree fits if each stage does and the last of several is not empty. -/
theorem fits_joined_iff :
    (joined (stages.map StageParts.command)).fits = true ↔
      (∀ s ∈ stages, s.argv.length < maxArgs) ∧
        (2 ≤ stages.length → stages.getLast? ≠ some ⟨[], []⟩) := by
  induction stages with
  | nil => simp [joined, fits, maxArgs]
  | cons s stages ih =>
    cases stages with
    | nil => simp [joined, fits_command]
    | cons s' stages =>
      have hlast : (joined ((s' :: stages).map StageParts.command)).isEmpty = false ↔
          (stages = [] → s' ≠ ⟨[], []⟩) := by
        cases stages with
        | nil => simp [joined, ← isEmpty_command_iff]
        | cons => simp [joined, isEmpty]
      rw [List.map_cons, joined_cons (by simp), fits, Bool.and_eq_true, Bool.and_eq_true, ih,
        fits_command, Bool.not_eq_true', hlast]
      cases stages with
      | nil => simp
      | cons => simp [and_assoc]

/-! ## Trees whose tokens can be written down -/

theorem isWritable_of_mem_tokens (h : ∀ w ∈ t.words, isPlain w = true) {k : Token}
    (hk : k ∈ t.tokens) : k.isWritable = true := by
  induction t with
  | exec argv =>
    obtain ⟨w, hw, rfl⟩ := List.mem_map.mp hk
    exact h w hw
  | redirect target file direction ih =>
    simp only [words, List.mem_append, List.mem_singleton, or_imp, forall_and,
      forall_eq] at h
    simp only [tokens, List.mem_append, List.mem_cons, List.not_mem_nil, or_false] at hk
    rcases hk with hk | rfl | rfl
    · exact ih h.1 hk
    · cases direction <;> rfl
    · exact h.2
  | pipe l r ihl ihr =>
    simp only [words, List.mem_append, or_imp, forall_and] at h
    simp only [tokens, List.mem_append, List.mem_cons] at hk
    rcases hk with hk | rfl | hk
    · exact ihl h.1 hk
    · rfl
    · exact ihr h.2 hk

/-- A tree of the right shape that fits and whose words are plain is the tree of some line. -/
theorem exists_parse (hshape : t.isPipeline = true) (hfits : t.fits = true)
    (hplain : ∀ w ∈ t.words, isPlain w = true) : ∃ line, parse line = .ok t := by
  obtain ⟨line, hline⟩ := Layout.exists_line fun k => isWritable_of_mem_tokens hplain (k := k)
  exact ⟨line, by rw [parse_eq, hline, reading_tokens hshape hfits]⟩

/-! ## All of them -/

/-- The trees that lines are read as are the chains of pipes, nested to the right, over stages of
at most nine words, whose words and file names are plain, and the last of which is not empty unless
it is alone. -/
theorem exists_parse_iff (t : Command) :
    (∃ line, parse line = .ok t) ↔
      ∃ stages : List StageParts, stages ≠ [] ∧ t = joined (stages.map StageParts.command) ∧
        (∀ s ∈ stages, s.argv.length ≤ 9 ∧ (∀ w ∈ s.argv, isPlain w = true) ∧
          ∀ r ∈ s.redirections, isPlain r.file = true) ∧
        (2 ≤ stages.length → stages.getLast? ≠ some ⟨[], []⟩) := by
  constructor
  · rintro ⟨line, h⟩
    let stages : List StageParts :=
      (segments (body line)).map fun segment => ⟨arguments segment, redirections segment⟩
    have ht : t = joined (stages.map StageParts.command) := by
      rw [eq_joined_of_parse h, List.map_map]
      rfl
    have hfits := fits_of_parse h
    rw [ht, fits_joined_iff] at hfits
    have hplain {s : StageParts} {w : Bytes} (hs : s ∈ stages)
        (hw : w ∈ s.argv ∨ ∃ r ∈ s.redirections, r.file = w) : isPlain w = true := by
      refine isPlain_of_mem_body (mem_words_of_parse h ?_)
      rw [ht]
      exact mem_words_joined_iff.mpr ⟨s, hs, hw⟩
    refine ⟨stages, by simp [stages, segments], ht, fun s hs => ⟨?_, ?_, ?_⟩, hfits.2⟩
    · exact Nat.le_of_lt_succ (hfits.1 s hs)
    · exact fun w hw => hplain hs (.inl hw)
    · exact fun r hr => hplain hs (.inr ⟨r, hr, rfl⟩)
  · rintro ⟨stages, -, rfl, hstages, hlast⟩
    refine exists_parse (isPipeline_joined ?_) (fits_joined_iff.mpr ⟨?_, hlast⟩) ?_
    · intro t ht
      obtain ⟨s, -, rfl⟩ := List.mem_map.mp ht
      exact isStage_command s
    · exact fun s hs => Nat.lt_succ_of_le (hstages s hs).1
    · intro w hw
      obtain ⟨s, hs, hw | ⟨r, hr, rfl⟩⟩ := mem_words_joined_iff.mp hw
      · exact (hstages s hs).2.1 w hw
      · exact (hstages s hs).2.2 r hr

/-- An empty stage in front of a redirection of nothing is read off `| > f`; the other way round
there is no line. -/
example : parse (Bytes.ofString "| > f") =
      .ok (pipe (exec []) (redirect (exec []) [0x66] .output)) ∧
    parse (Bytes.ofString "> f |") = .error .missingCommand := by
  rw [parse_eq, parse_eq]
  cbv
  exact ⟨rfl, trivial⟩

end Command

end PipeShell
