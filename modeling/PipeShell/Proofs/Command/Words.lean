import PipeShell.Proofs.Command.Shape
import PipeShell.Proofs.Text.Utf8

/-!
# The words of a line and of its tree

A line is made of blanks, symbols and words, and a word ends where the line does or before a blank
or a symbol. Looking at the first of these parts is an induction on the line (`Token.line_cases`),
and `Token.body_cons_blank`, `Token.body_cons_symbol` and `Token.body_word` say what it adds to the
tokens. So every word among the tokens is `Token.isPlain`, it is valid UTF-8 if the line is
(`Token.isValid_of_mem_body`), and there are as many pipe symbols among the tokens as bytes `|` on
the line (`Token.count_pipe_body`).

The tree of a line has no other arguments and file names (`Command.mem_words_of_parse`), no
more arguments in a stage than there are slots (`Command.fits_of_parse`) and a stage more than
there are bytes `|` (`Command.stageCount_of_parse`).
-/

namespace PipeShell

/-! ## The parts of a line -/

namespace Token

/-- Whether bytes are one word where they stand between blanks. -/
def isPlain (w : Bytes) : Bool := !w.isEmpty && w.all isWordByte

/-- Whether a word ends before the text: it is over, or a blank or a symbol comes next. -/
def endsWord (rest : Bytes) : Bool := rest.head?.all fun b => !isWordByte b

variable {b : UInt8} {w line rest : Bytes} {t : Token}

theorem isPlain_iff : isPlain w = true ↔ w ≠ [] ∧ ∀ b ∈ w, isWordByte b = true := by
  simp [isPlain]

theorem lt_of_isBlank (h : isBlank b = true) : b < 0x80 := by
  simp only [isBlank, Bool.or_eq_true, beq_iff_eq] at h
  rcases h with (((rfl | rfl) | rfl) | rfl) | rfl <;> decide

theorem lt_of_symbol? (h : symbol? b = some t) : b < 0x80 := by
  simp only [symbol?, beq_iff_eq] at h
  split_ifs at h <;> subst b <;> decide

/-- What ends a word is a character of its own. -/
theorem lt_of_endsWord (h : endsWord (b :: rest) = true) : b < 0x80 := by
  have hb : isWordByte b = false := by simpa [endsWord] using h
  rw [isWordByte, Bool.and_eq_false_iff, Bool.not_eq_false'] at hb
  rcases hb with hb | hb
  · exact lt_of_isBlank hb
  · obtain ⟨t, ht⟩ := Option.isSome_iff_exists.mp (by simpa using hb)
    exact lt_of_symbol? ht

theorem isBlank_of_isWordByte (h : isWordByte b = true) : isBlank b = false := by
  simp_all [isWordByte]

theorem symbol?_of_isWordByte (h : isWordByte b = true) : symbol? b = none := by
  simp_all [isWordByte]

theorem isBlank_of_symbol? (h : symbol? b = some t) : isBlank b = false := by
  simp only [symbol?, beq_iff_eq] at h
  split_ifs at h <;> subst b <;> decide

theorem symbol?_ne_done (h : symbol? b = some t) : t ≠ done := by
  simp only [symbol?] at h
  split_ifs at h <;> cases h <;> simp

theorem symbol?_ne_word (b : UInt8) (w : Bytes) : symbol? b ≠ some (word w) := by
  simp only [symbol?]
  split_ifs <;> simp

theorem endsWord_dropWhile (bs : Bytes) : endsWord (bs.dropWhile isWordByte) = true := by
  cases hd : bs.dropWhile isWordByte with
  | nil => rfl
  | cons b rest =>
    have h := List.head?_dropWhile_not isWordByte bs
    rw [hd] at h
    simpa [endsWord] using h

/-! ## Their tokens -/

theorem body_cons_blank (h : isBlank b = true) (rest : Bytes) :
    body (b :: rest) = body rest := by
  rw [← body_skipBlanks (b :: rest), skipBlanks, List.dropWhile_cons_of_pos h,
    ← body_skipBlanks rest, skipBlanks]

theorem body_cons_symbol (h : symbol? b = some t) (rest : Bytes) :
    body (b :: rest) = t :: body rest := by
  have hn : next (b :: rest) = (t, skipBlanks rest) := by
    simp [next, skipBlanks, isBlank_of_symbol? h, h]
  rw [body_of_ne_done (by rw [hn]; exact symbol?_ne_done h), hn, body_skipBlanks]

/-- A word is read up to where it ends. -/
theorem body_word (hw : isPlain w = true) (hrest : endsWord rest = true) :
    body (w ++ rest) = .word w :: body rest := by
  obtain ⟨hne, hall⟩ := isPlain_iff.mp hw
  obtain ⟨b, bs, rfl⟩ := List.exists_cons_of_ne_nil hne
  obtain ⟨hb, hbs⟩ := List.forall_mem_cons.mp hall
  have hstop : rest.takeWhile isWordByte = [] ∧ rest.dropWhile isWordByte = rest := by
    cases rest with
    | nil => simp
    | cons c rest =>
      have hc : isWordByte c = false := by simpa [endsWord] using hrest
      simp [hc]
  have hn : next (b :: bs ++ rest) = (word (b :: bs), skipBlanks rest) := by
    simp [next, skipBlanks, isBlank_of_isWordByte hb, symbol?_of_isWordByte hb,
      List.takeWhile_append_of_pos hbs, List.dropWhile_append_of_pos hbs, hstop]
  rw [body_of_ne_done (by rw [hn]; simp), hn, body_skipBlanks]

/-- A line is empty, or starts with a blank, a symbol or a word. -/
@[elab_as_elim]
theorem line_cases {motive : Bytes → Prop} (nil : motive [])
    (blank : ∀ b rest, isBlank b = true → motive rest → motive (b :: rest))
    (symbol : ∀ b t rest, symbol? b = some t → motive rest → motive (b :: rest))
    (word : ∀ w rest, isPlain w = true → endsWord rest = true → motive rest → motive (w ++ rest))
    (line : Bytes) : motive line := by
  induction hn : line.length using Nat.strongRecOn generalizing line with
  | ind n ih =>
    subst hn
    cases line with
    | nil => exact nil
    | cons b rest =>
      by_cases hb : isBlank b = true
      · exact blank b rest hb (ih _ (Nat.lt_succ_self _) rest rfl)
      cases ht : symbol? b with
      | some t => exact symbol b t rest ht (ih _ (Nat.lt_succ_self _) rest rfl)
      | none =>
        have hword : isWordByte b = true := by simp_all [isWordByte]
        have hplain : isPlain (b :: rest.takeWhile isWordByte) = true := by
          refine isPlain_iff.mpr ⟨by simp, List.forall_mem_cons.mpr ⟨hword, fun c hc => ?_⟩⟩
          exact List.mem_takeWhile_imp hc
        have hlen := (List.dropWhile_sublist isWordByte (l := rest)).length_le
        have h := word _ (rest.dropWhile isWordByte) hplain (endsWord_dropWhile rest)
          (ih _ (Nat.lt_succ_of_le hlen) _ rfl)
        rwa [List.cons_append, List.takeWhile_append_dropWhile] at h

theorem isPlain_of_mem_body (h : word w ∈ body line) : isPlain w = true := by
  induction line using line_cases with
  | nil => simp [body_nil] at h
  | blank b rest hb ih => exact ih (by rwa [body_cons_blank hb] at h)
  | symbol b t rest ht ih =>
    rw [body_cons_symbol ht, List.mem_cons] at h
    rcases h with rfl | h
    · exact absurd ht (symbol?_ne_word b w)
    · exact ih h
  | word v rest hv hrest ih =>
    rw [body_word hv hrest, List.mem_cons] at h
    rcases h with h | h
    · cases h
      exact hv
    · exact ih h

/-- The words of a line in UTF-8 are in UTF-8. -/
theorem isValid_of_mem_body (hline : Utf8.isValid line = true) (h : word w ∈ body line) :
    Utf8.isValid w = true := by
  induction line using line_cases with
  | nil => simp [body_nil] at h
  | blank b rest hb ih =>
    rw [Utf8.isValid_ascii (lt_of_isBlank hb)] at hline
    exact ih hline (by rwa [body_cons_blank hb] at h)
  | symbol b t rest ht ih =>
    rw [Utf8.isValid_ascii (lt_of_symbol? ht)] at hline
    rw [body_cons_symbol ht, List.mem_cons] at h
    rcases h with rfl | h
    · exact absurd ht (symbol?_ne_word b w)
    · exact ih hline h
  | word v rest hv hrest ih =>
    have hboth : Utf8.isValid v = true ∧ Utf8.isValid rest = true := by
      cases rest with
      | nil => exact ⟨by simpa using hline, by rw [Utf8.isValid, Utf8.pieces_nil]; rfl⟩
      | cons b rest =>
        have hb := lt_of_endsWord hrest
        rw [Utf8.isValid_append_ascii hb, Bool.and_eq_true] at hline
        rwa [Utf8.isValid_ascii hb]
    rw [body_word hv hrest, List.mem_cons] at h
    rcases h with h | h
    · cases h
      exact hboth.1
    · exact ih hboth.2 h

/-- Every byte `|` is a pipe symbol, since words have no such byte. -/
theorem count_pipe_body (line : Bytes) : (body line).count pipe = line.count 0x7C := by
  induction line using line_cases with
  | nil => rw [body_nil]; rfl
  | blank b rest hb ih =>
    have hne : b ≠ 0x7C := by rintro rfl; simp [isBlank] at hb
    rw [body_cons_blank hb, ih, List.count_cons_of_ne hne]
  | symbol b t rest ht ih =>
    rw [body_cons_symbol ht, List.count_cons, List.count_cons, ih]
    simp only [symbol?, beq_iff_eq] at ht
    split_ifs at ht <;> cases ht <;> simp_all
  | word w rest hw hrest ih =>
    have hnot : (0x7C : UInt8) ∉ w := fun h => by
      have hbyte := (isPlain_iff.mp hw).2 _ h
      revert hbyte
      decide
    rw [body_word hw hrest, List.count_cons_of_ne (by simp), ih, List.count_append,
      List.count_eq_zero_of_not_mem hnot, Nat.zero_add]

end Token

/-! ## The parts of a segment -/

namespace Grammar

open Token

variable {ts segment after : List Token} {w : Bytes}

/-- Tokens are one segment, or a segment, a pipe symbol and the tokens of the other segments. -/
@[elab_as_elim]
theorem segment_cases {motive : List Token → Prop}
    (last : ∀ segment, Token.pipe ∉ segment → motive segment)
    (more : ∀ segment after, Token.pipe ∉ segment → motive after →
      motive (segment ++ .pipe :: after))
    (ts : List Token) : motive ts := by
  induction hn : ts.length using Nat.strongRecOn generalizing ts with
  | ind n ih =>
    subst hn
    by_cases hpipe : Token.pipe ∈ ts
    · obtain ⟨segment, after, rfl, hsegment⟩ := List.eq_append_cons_of_mem hpipe
      exact more segment after hsegment (ih _ (by simp; omega) after rfl)
    · exact last ts hpipe

theorem mem_of_mem_arguments (h : w ∈ arguments ts) : word w ∈ ts := by
  fun_induction arguments ts <;> simp_all
  tauto

theorem mem_of_mem_redirections {r : Redirection} (h : r ∈ redirections ts) : word r.file ∈ ts := by
  fun_induction redirections ts <;> simp_all
  all_goals rcases h with rfl | h <;> simp_all

theorem head?_append_pipe (ts after : List Token) :
    (ts ++ .pipe :: after).head?.any isWord = ts.head?.any isWord := by
  cases ts <;> rfl

/-- An offence is in the segment before a pipe symbol or after it. -/
theorem scan_append_pipe (file : Bool) (count : Nat) (segment after : List Token) :
    scan file count (segment ++ .pipe :: after) =
      (scan file count segment).or (scan false 0 after) := by
  fun_induction scan file count segment with
  | case1 => rfl
  | case2 _ count ts hw ih | case4 _ count ts hw ih =>
    simp only [List.cons_append, scan, head?_append_pipe, hw, if_true, ih]
  | case3 _ count ts hw | case5 _ count ts hw =>
    simp only [List.cons_append, scan, head?_append_pipe, hw]
    rfl
  | _ => simp_all [scan]

/-- A segment without an offence has fewer arguments than there are slots. -/
theorem length_arguments_lt {count : Nat} (hcount : count < Command.maxArgs)
    (hpipe : Token.pipe ∉ segment) (h : scan false count segment = none) :
    count + (arguments segment).length < Command.maxArgs := by
  fun_induction arguments segment generalizing count with
  | case1 => simpa using hcount
  | case2 f ts ih | case3 f ts ih =>
    exact ih hcount (by simp_all) (by simpa [scan, isWord] using h)
  | case4 w ts ih =>
    simp only [scan, Bool.false_eq_true, if_false] at h
    split at h
    · cases h
    · next hten =>
      have hlt : count + 1 < Command.maxArgs := by
        rw [Command.maxArgs] at hcount ⊢
        omega
      have := ih hlt (by simp_all) h
      rw [List.length_cons]
      omega
  | case5 t ts hless hgreater hword ih =>
    refine ih hcount (by simp_all) ?_
    cases t with
    | word w => exact absurd rfl (hword w)
    | pipe => simp at hpipe
    | done => exact h
    | less | greater =>
      cases ts with
      | nil => rfl
      | cons t' ts => cases t' <;> simp_all [scan, isWord]

/-! ## Reading backwards -/

/-- One segment that is read has no offence. -/
theorem scan_of_reading {t : Command} (hpipe : Token.pipe ∉ segment)
    (h : reading segment = .ok t) : scan false 0 segment = none ∧ t = tree segment := by
  cases hscan : scan false 0 segment with
  | some e =>
    rw [reading_of_scan hscan] at h
    cases h
  | none =>
    rw [reading_of_notMem hscan hpipe] at h
    cases h
    exact ⟨rfl, rfl⟩

/-- A segment and what comes after its `|` are read only if each of them is. -/
theorem reading_of_append_pipe {t : Command} (hpipe : Token.pipe ∉ segment)
    (hdone : Token.done ∉ after) (h : reading (segment ++ .pipe :: after) = .ok t) :
    ∃ right, scan false 0 segment = none ∧ reading after = .ok right ∧ right.isEmpty = false ∧
      t = .pipe (tree segment) right := by
  cases hscan : scan false 0 segment with
  | some e =>
    rw [reading_of_scan (e := e) (by rw [scan_append_pipe, hscan]; rfl)] at h
    cases h
  | none =>
    rw [reading_append_pipe hpipe hdone (by rw [scan_append_pipe, hscan]; rfl)] at h
    split at h
    · cases h
    · next right hright =>
      split at h
      · cases h
      · next hempty =>
        cases h
        exact ⟨right, rfl, hright, by simpa using hempty, rfl⟩

end Grammar

/-! ## The parts of a tree -/

namespace Command

open Grammar Token

variable {line w : Bytes} {t : Command}

/-- The arguments and the file names of a tree. -/
def words : Command → List Bytes
  | exec argv => argv
  | redirect target file _ => target.words ++ [file]
  | pipe l r => l.words ++ r.words

/-- Whether no stage has too many arguments, and something stands after every pipe symbol. -/
def fits : Command → Bool
  | exec argv => argv.length < maxArgs
  | redirect target _ _ => target.fits
  | pipe l r => l.fits && r.fits && !r.isEmpty

theorem words_foldl_redirect (rs : List Redirection) (t : Command) :
    (rs.foldl (fun target r => .redirect target r.file r.direction) t).words =
      t.words ++ rs.map Redirection.file := by
  induction rs generalizing t with
  | nil => simp
  | cons r rs ih => simp [ih, words]

theorem fits_foldl_redirect (rs : List Redirection) (t : Command) :
    (rs.foldl (fun target r => .redirect target r.file r.direction) t).fits = t.fits := by
  induction rs generalizing t with
  | nil => rfl
  | cons r rs ih => exact ih _

theorem stageCount_of_isStage (h : t.isStage = true) : t.stageCount = 1 := by
  cases t with
  | pipe => cases h
  | exec | redirect => rfl

theorem mem_words_tree {segment : List Token} (h : w ∈ (tree segment).words) :
    word w ∈ segment := by
  rw [tree, words_foldl_redirect, List.mem_append, List.mem_map] at h
  rcases h with h | ⟨r, hr, rfl⟩
  · exact mem_of_mem_arguments h
  · exact mem_of_mem_redirections hr

/-- What the tree of some tokens has for words, room and stages. -/
theorem of_reading {ts : List Token} (hdone : done ∉ ts) (h : reading ts = .ok t) :
    (∀ w ∈ t.words, word w ∈ ts) ∧ t.fits = true ∧ t.stageCount = ts.count .pipe + 1 := by
  induction ts using segment_cases generalizing t with
  | last segment hpipe =>
    obtain ⟨hscan, rfl⟩ := scan_of_reading hpipe h
    refine ⟨fun w => mem_words_tree, ?_, ?_⟩
    · have := length_arguments_lt (by decide) hpipe hscan
      rw [tree, fits_foldl_redirect]
      simpa [fits] using this
    · rw [stageCount_of_isStage (isStage_tree segment), List.count_eq_zero_of_not_mem hpipe]
  | more segment after hpipe ih =>
    have hafter : done ∉ after := fun h => hdone (by simp [h])
    obtain ⟨right, hscan, hright, hempty, rfl⟩ := reading_of_append_pipe hpipe hafter h
    obtain ⟨hwords, hfits, hcount⟩ := ih hafter hright
    refine ⟨fun w hw => ?_, ?_, ?_⟩
    · rcases List.mem_append.mp hw with hw | hw
      · exact List.mem_append_left _ (mem_words_tree hw)
      · exact List.mem_append_right _ (List.mem_cons_of_mem _ (hwords w hw))
    · have := length_arguments_lt (by decide) hpipe hscan
      rw [fits, hfits, hempty, tree, fits_foldl_redirect]
      simpa [fits] using this
    · rw [stageCount, hcount, stageCount_of_isStage (isStage_tree segment), List.count_append,
        List.count_eq_zero_of_not_mem hpipe, List.count_cons_self]
      omega

theorem mem_words_of_parse (h : parse line = .ok t) (hw : w ∈ t.words) : word w ∈ body line :=
  (of_reading (done_notMem_body line) (parse_eq line ▸ h)).1 w hw

theorem fits_of_parse (h : parse line = .ok t) : t.fits = true :=
  (of_reading (done_notMem_body line) (parse_eq line ▸ h)).2.1

/-- A line has one stage more than bytes `|`. -/
theorem stageCount_of_parse (h : parse line = .ok t) : t.stageCount = line.count 0x7C + 1 := by
  rw [← count_pipe_body]
  exact (of_reading (done_notMem_body line) (parse_eq line ▸ h)).2.2

end Command

end PipeShell
