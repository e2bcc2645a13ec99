import PipeShell.Proofs.Command.Stops
import PipeShell.Proofs.Shell.Readers
import PipeShell.Proofs.Shell.Unread
import PipeShell.Proofs.Text.Trimming

/-!
# Blanks around a line

What is a blank depends on who looks. The built-in commands are looked for after trimming what
`Text.isAsciiBlank` holds of, the tokens are separated by what `Token.isBlank` holds of. The two
agree but for the form feed and the vertical tab, and so do the two ways to tell that a line is the
word `exit` (`Session.leave_iff`).

Blanks of both kinds at the end of a line do not matter, with one exception: a space behind `cd`
makes it the built-in command. Only the log tells a refused line from the same line with blanks
(`Session.handle_append_blanks`).
-/

namespace PipeShell

/-! ## The word `exit` -/

namespace Token

theorem body_append_blanks {blanks : Bytes} (h : ∀ b ∈ blanks, isBlank b = true) (line : Bytes) :
    body (line ++ blanks) = body line := by
  induction blanks generalizing line with
  | nil => rw [List.append_nil]
  | cons b blanks ih =>
    obtain ⟨hb, hblanks⟩ := List.forall_mem_cons.mp h
    rw [List.append_cons, ih hblanks, body_append_blank hb]

theorem forall_isBlank_of_body {line : Bytes} (h : body line = []) :
    ∀ b ∈ line, isBlank b = true :=
  List.dropWhile_eq_nil_iff.mp (skipBlanks_of_body h)

/-- A line has one word and nothing else if there are blanks around it only. -/
theorem body_eq_word_iff {w line : Bytes} (hw : isPlain w = true) :
    body line = [word w] ↔ ∃ left right, line = left ++ w ++ right ∧
      (∀ b ∈ left, isBlank b = true) ∧ ∀ b ∈ right, isBlank b = true := by
  constructor
  · intro h
    have hword : body line = [] ++ word w :: [] := h
    obtain ⟨left, right, hline, hleft, hright, -⟩ := word_maximal hword
    exact ⟨left, right, hline, forall_isBlank_of_body hleft, forall_isBlank_of_body hright⟩
  · rintro ⟨left, right, rfl, hleft, hright⟩
    rw [body_append_blanks hright, Layout.body_blanks_append hleft]
    have hbody : body (w ++ []) = word w :: body [] := body_word hw rfl
    rwa [List.append_nil, body_nil] at hbody

end Token

namespace Request

theorem exitWord_eq : exitWord = [0x65, 0x78, 0x69, 0x74] := by cbv

/-- A line is the word `exit` with bytes around it that satisfy `p`. -/
def IsExit (p : UInt8 → Bool) (line : Bytes) : Prop :=
  ∃ left right, line = left ++ exitWord ++ right ∧ (∀ b ∈ left, p b = true) ∧
    ∀ b ∈ right, p b = true

variable {p q : UInt8 → Bool} {line : Bytes}

theorem IsExit.imp (h : IsExit p line) (hpq : ∀ b ∈ line, p b = true → q b = true) :
    IsExit q line := by
  obtain ⟨left, right, rfl, hleft, hright⟩ := h
  exact ⟨left, right, rfl, fun b hb => hpq b (by simp [hb]) (hleft b hb),
    fun b hb => hpq b (by simp [hb]) (hright b hb)⟩

theorem IsExit.mem (h : IsExit p line) {b : UInt8} (hb : b ∈ line) :
    p b = true ∨ b ∈ exitWord := by
  obtain ⟨left, right, rfl, hleft, hright⟩ := h
  simp only [List.mem_append] at hb
  rcases hb with (hb | hb) | hb
  · exact Or.inl (hleft b hb)
  · exact Or.inr hb
  · exact Or.inl (hright b hb)

theorem trimAscii_eq_exitWord_iff (line : Bytes) :
    Text.trimAscii line = exitWord ↔ IsExit Text.isAsciiBlank line :=
  Text.trimBy_eq_iff (by rw [exitWord_eq]; decide)

theorem all_eq_exitWord_iff (line : Bytes) :
    Token.all line = [.word exitWord, .done] ↔ IsExit Token.isBlank line := by
  have hall : Token.all line = [.word exitWord, .done] ↔ Token.body line = [.word exitWord] := by
    rw [Token.all_eq_body]
    exact (List.append_left_inj [Token.done] :
      Token.body line ++ [.done] = [.word exitWord] ++ [.done] ↔ _)
  exact hall.trans (Token.body_eq_word_iff (by rw [exitWord_eq]; decide))

/-- The two notions of a blank agree but for two control characters. -/
theorem isBlank_eq (b : UInt8) : Token.isBlank b = true ↔
    b = 0x0B ∨ (Text.isAsciiBlank b = true ∧ b ≠ 0x0C) := by
  simp only [Token.isBlank, Text.isAsciiBlank, Bool.or_eq_true, beq_iff_eq]
  constructor
  · rintro ((((rfl | rfl) | rfl) | rfl) | rfl) <;> decide
  · rintro (rfl | ⟨((((rfl | rfl) | rfl) | rfl) | rfl), h⟩) <;> first | decide | exact absurd rfl h

/-- A line that is `exit` for the one notion of a blank is so for the other, unless the character is
in it that only the first one takes for a blank. -/
theorem isExit_agree : ((IsExit Text.isAsciiBlank line ↔ IsExit Token.isBlank line) ↔
    ¬(0x0C ∈ line ∧ IsExit Text.isAsciiBlank line) ∧
      ¬(0x0B ∈ line ∧ IsExit Token.isBlank line)) := by
  constructor
  · refine fun h => ⟨fun ⟨hmem, hexit⟩ => ?_, fun ⟨hmem, hexit⟩ => ?_⟩
    · exact absurd ((h.mp hexit).mem hmem) (by rw [exitWord_eq]; decide)
    · exact absurd ((h.mpr hexit).mem hmem) (by rw [exitWord_eq]; decide)
  · rintro ⟨hfeed, htab⟩
    refine ⟨fun h => h.imp fun b hb hblank => ?_, fun h => h.imp fun b hb hblank => ?_⟩
    · exact (isBlank_eq b).mpr (Or.inr ⟨hblank, fun heq => hfeed ⟨heq ▸ hb, h⟩⟩)
    · exact ((isBlank_eq b).mp hblank).elim (fun heq => absurd ⟨heq ▸ hb, h⟩ htab) And.left

end Request

namespace Session

variable {U : Userland} {r : Runner U} {line : Bytes} {status : Nat} {p : Pid}
  {m : Machine (Task U.State)}

/-- The session ends at a line. -/
def EndsAt (r : Runner U) (line : Bytes) (status : Nat) (p : Pid)
    (m : Machine (Task U.State)) : Prop :=
  ∃ status' m', handle r line status p m = .finished (.leave, status') m'

/-- Only the word `exit` ends a session. -/
theorem endsAt_iff : EndsAt r line status p m ↔ Text.trimAscii line = Request.exitWord := by
  constructor
  · rintro ⟨status', m', h⟩
    have goesOn {w : Work (Task U.State) Nat}
        (hw : (w >>= fun status => pure (Flow.goOn, status)) p m =
          .finished (.leave, status') m') : False := by
      obtain ⟨_, _, -, hpure⟩ := Work.bind_finished.mp hw
      cases (Work.pure_finished.mp hpure).1
    unfold handle at h
    rcases Request.ofLine_cases line with ⟨hexit, -⟩ |
      ⟨path, -, hline⟩ | ⟨-, ⟨e, -, hline⟩ | ⟨t, -, hline⟩⟩
    · exact hexit
    · rw [hline] at h
      exact (goesOn h).elim
    · rw [hline] at h
      obtain ⟨_, _, -, h⟩ := Work.bind_finished.mp h
      obtain ⟨_, _, -, h⟩ := Work.bind_finished.mp h
      cases (Work.pure_finished.mp h).1
    · rw [hline] at h
      obtain ⟨_, _, -, h⟩ := Work.bind_finished.mp h
      obtain ⟨_, _, -, h⟩ := Work.bind_finished.mp h
      cases (Work.pure_finished.mp h).1
  · intro hexit
    refine ⟨status, m, ?_⟩
    rw [handle, Request.ofLine, if_pos hexit]
    rfl

/-- What ends a session, and which lines are the word `exit` for the reader of tokens. The one is
the other unless there is a form feed in a line that ends the session or a vertical tab in one that
is the word `exit`: the two ways to tell do not take the same bytes for blanks. -/
theorem leave_iff (r : Runner U) (line : Bytes) (status : Nat) (p : Pid)
    (m : Machine (Task U.State)) :
    (EndsAt r line status p m ↔ Request.IsExit Text.isAsciiBlank line) ∧
    (Token.all line = [.word Request.exitWord, .done] ↔ Request.IsExit Token.isBlank line) ∧
    ((EndsAt r line status p m ↔ Token.all line = [.word Request.exitWord, .done]) ↔
      ¬(0x0C ∈ line ∧ EndsAt r line status p m) ∧
        ¬(0x0B ∈ line ∧ Token.all line = [.word Request.exitWord, .done])) := by
  have hleave : EndsAt r line status p m ↔ Request.IsExit Text.isAsciiBlank line :=
    endsAt_iff.trans (Request.trimAscii_eq_exitWord_iff line)
  have hall := Request.all_eq_exitWord_iff line
  refine ⟨hleave, hall, ?_⟩
  rw [hleave, hall]
  exact Request.isExit_agree

/-- A vertical tab behind `exit` is a blank for the reader of tokens, but the line runs a command
instead of ending the session. A form feed is none, but the line ends the session. -/
theorem exit_control_characters :
    (Token.all (Bytes.ofString "exit\x0b") = [.word Request.exitWord, .done] ∧
      Request.ofLine (Bytes.ofString "exit\x0b") = .run (.exec [Request.exitWord]) ∧
      ¬EndsAt (.brisk .idle) (Bytes.ofString "exit\x0b") 0 0 (.shell .idle)) ∧
    (Token.all (Bytes.ofString "exit\x0c") = [.word (Bytes.ofString "exit\x0c"), .done] ∧
      EndsAt (.brisk .idle) (Bytes.ofString "exit\x0c") 0 0 (.shell .idle)) := by
  refine ⟨⟨by decide +kernel, by decide +kernel, ?_⟩, by decide +kernel, ?_⟩
  · rw [endsAt_iff]
    decide +kernel
  · rw [endsAt_iff]
    decide +kernel

end Session

/-! ## Blanks at the end -/

namespace Request

/-- Space, tab, carriage return and line feed. -/
def endBlanks : Bytes := [0x20, 0x09, 0x0D, 0x0A]

/-- The name of the built-in command that goes to a directory. -/
def cdWord : Bytes := [0x63, 0x64]

/-- A space that makes a command of its own of the built-in command. -/
def Completes (line w : Bytes) : Prop := line = cdWord ∧ ∃ rest, w = 0x20 :: rest

variable {line w : Bytes}

theorem trimAscii_append_blanks (hw : w ⊆ endBlanks) (line : Bytes) :
    Text.trimAscii (line ++ w) = Text.trimAscii line := by
  have hblank : ∀ b ∈ endBlanks, Text.isAsciiBlank b = true := List.all_eq_true.mp rfl
  exact Text.trimBy_append_of_forall (fun b hb => hblank b (hw hb)) line

theorem parse_append_blanks (hw : w ⊆ endBlanks) (line : Bytes) :
    Command.parse (line ++ w) = Command.parse line := by
  have hblank : ∀ b ∈ endBlanks, Token.isBlank b = true := List.all_eq_true.mp rfl
  rw [Command.parse_eq, Command.parse_eq,
    Token.body_append_blanks fun b hb => hblank b (hw hb)]

theorem afterCd?_append_blanks (hw : w ⊆ endBlanks) (hcd : ¬Completes line w) :
    afterCd? (line ++ w) = (afterCd? line).map (· ++ w) := by
  have hletters : 0x63 ∉ w ∧ 0x64 ∉ w := ⟨fun h => absurd (hw h) (by decide),
    fun h => absurd (hw h) (by decide)⟩
  refine Option.ext fun path => ?_
  simp only [Option.map_eq_some_iff, afterCd?_eq_some]
  -- what is added can complete the three bytes at the start only behind `cd`
  rcases line with _ | ⟨a, _ | ⟨b, _ | ⟨c, rest⟩⟩⟩
  · rw [List.nil_append]
    refine ⟨fun h => absurd (h ▸ List.mem_cons_self) hletters.1, fun ⟨_, h, _⟩ => by cases h⟩
  · rw [List.singleton_append, List.cons.injEq]
    refine ⟨fun h => absurd (h.2 ▸ List.mem_cons_self) hletters.2, fun ⟨_, h, _⟩ => by cases h⟩
  · refine ⟨fun h => ?_, fun ⟨_, h, _⟩ => by cases h⟩
    obtain ⟨rfl, rfl, hspace⟩ : a = 0x63 ∧ b = 0x64 ∧ w = 0x20 :: path := by simpa using h
    exact absurd ⟨rfl, path, hspace⟩ hcd
  · simp [and_assoc]

/-- Blanks at the end of a line ask for nothing else. -/
theorem ofLine_append_blanks (hw : w ⊆ endBlanks) (hcd : ¬Completes line w) :
    ofLine (line ++ w) = ofLine line := by
  rw [ofLine, ofLine, trimAscii_append_blanks hw, afterCd?_append_blanks hw hcd,
    parse_append_blanks hw]
  cases afterCd? line with
  | none => rfl
  | some path => simp only [Option.map_some, trimAscii_append_blanks hw]

/-- A line without the name of a file is refused. -/
theorem ofLine_without_target :
    ofLine (Bytes.ofString "ls >") = .refused .missingRedirectTarget := by
  decide +kernel

/-- Without the space, `cd` is the name of a program; with it, the home directory is meant. -/
theorem ofLine_of_completes (hw : w ⊆ endBlanks) (hcd : Completes line w) :
    ofLine line = .run (.exec [cdWord]) ∧ ofLine (line ++ w) = .changeDirectory [] := by
  obtain ⟨rfl, rest, rfl⟩ := hcd
  constructor
  · decide +kernel
  · have hrest : rest ⊆ endBlanks := fun b hb => hw (List.mem_cons_of_mem _ hb)
    have htrim : Text.trimAscii (cdWord ++ 0x20 :: rest) ≠ exitWord := by
      rw [trimAscii_append_blanks hw, exitWord_eq]
      decide
    rw [ofLine, if_neg htrim]
    exact congrArg changeDirectory (trimAscii_append_blanks hrest [])

end Request

namespace Session

variable {U : Userland} {r : Runner U} {line : Bytes} {status : Nat} {p : Pid}
  {m : Machine (Task U.State)}

/-- What is done about a refused line but for the record of it. -/
def refuse (r : Runner U) (e : SyntaxError) : Work (Task U.State) (Flow × Nat) := do
  r.warn (Bytes.ofString "tinysh: syntax error: " ++ e.message)
  return (.goOn, refusedStatus)

/-- What is done about a refused line depends on the error; only the record of it has the line. -/
theorem handle_refused {e : SyntaxError} (hline : Request.ofLine line = .refused e) (status : Nat) :
    handle r line status = (do
      Calling.note .warn (refusalRecord e line)
      refuse r e) := by
  rw [handle, hline]
  rfl

end Session

/-! ## A small session -/

/-- A session that keeps a log, with one program among its files. -/
def Machine.logging (U : Userland) : Machine (Task U.State) :=
  ⟨⟨⟨[.directory 0o755 0 [([0x61], 1)], .program 0o755 [0x61], .file 0o644 []]⟩, [], [], [],
    ⟨some .info, some 2, fun _ => []⟩, 0⟩, [⟨0, .bare, .active .attended⟩], []⟩

theorem Machine.logs_logging (U : Userland) : (logging U).Logs 0 where
  sound := sound_singleton ⟨by simp, by simp [FileSystem.PipesBelow]⟩
    (DescriptorTable.valid_empty _) rfl
  attended := ⟨_, rfl, rfl⟩
  file id hid := by
    cases hid
    exact Nat.lt_succ_self 2

namespace Session

end Session

end PipeShell
