import PipeShell.Proofs.Shell.Agreement
import PipeShell.Proofs.Shell.Deeds

/-!
# The history of a session with a user

A session with a user treats its history in one way whatever line editor keeps it, and whatever
becomes of it: that the history cannot be loaded, added to or saved is no failure of the session
(`Interactive.recorded_deeds`). What the session does follows from what is entered and from what
comes of the lines, and from nothing that the history gives.
-/

namespace PipeShell

/-- A line editor whose history can neither be loaded nor added to nor saved. -/
def Editor.denied {κ : Type} (e : Editor κ) (reason : Bytes) : Editor κ :=
  { e with
    load := fun _ history => return (history, .error reason)
    add := fun history _ => return (history, .error reason)
    save := fun _ history => return (history, .error reason) }

namespace Interactive

variable {U : Userland} {e : Editor (Task U.State)} {p : Pid} {m n : Machine (Task U.State)}
  {s s' : Interactive e} {α : Type}

/-! ## What the parts of a session change -/

theorem revise_finished {w : e.History → Work (Task U.State) (e.History × Except Bytes Unit)}
    {result : Except Bytes Unit} (h : revise w s p m = .finished (result, s') n) :
    ∃ history, s' = { s with history } ∧ w s.history p m = .finished (history, result) n := by
  obtain ⟨⟨⟨history, result'⟩, _⟩, n', hw, hset⟩ := Work.bind_finished.mp h
  obtain ⟨_, n'', hw, hlift⟩ := Work.bind_finished.mp hw
  cases hlift
  cases hset
  exact ⟨history, rfl, hw⟩

theorem lift_finished {w : Work (Task U.State) α} {a : α}
    (h : (liftM w : Talk e α) s p m = .finished (a, s') n) :
    s' = s ∧ w p m = .finished a n := by
  obtain ⟨a', n', hw, hpure⟩ := Work.bind_finished.mp h
  cases hpure
  exact ⟨rfl, hw⟩

theorem eq_of_note {level : Level} {message : Bytes}
    (h : (Calling.note level message : Talk e Unit) s p m = .finished ((), s') n) : s' = s :=
  (lift_finished (w := Calling.note level message) h).1

/-- What the history becomes is all that is changed where the history is revised. -/
theorem keep_finished {w : e.History → Work (Task U.State) (e.History × Except Bytes Unit)}
    {f : Except Bytes Unit → Talk e Unit}
    (hf : ∀ result s n s' n', f result s p n = .finished ((), s') n' → s' = s)
    (h : (revise w >>= f) s p m = .finished ((), s') n) : ∃ history result n',
      s' = { s with history } ∧ w s.history p m = .finished (history, result) n' := by
  obtain ⟨⟨result, s₁⟩, n₁, hrevise, hrest⟩ := Work.bind_finished.mp h
  obtain ⟨history, rfl, hw⟩ := revise_finished hrevise
  exact ⟨history, result, n₁, hf _ _ _ _ _ hrest, hw⟩

/-- To load the history changes the history only, as the line editor loads it. -/
theorem loadHistory_changes {path : Bytes} (h : loadHistory path s p m = .finished ((), s') n) :
    ∃ history result n', s' = { s with history } ∧
      e.load path s.history p m = .finished (history, result) n' := by
  refine keep_finished (fun result s n s' n' hnote => ?_) h
  cases result <;> exact eq_of_note hnote

/-- To offer a line changes the history only, as the line editor adds it. -/
theorem remember_changes {line : Bytes} (h : remember line s p m = .finished ((), s') n) :
    ∃ history result n', s' = { s with history } ∧
      e.add s.history line p m = .finished (history, result) n' := by
  refine keep_finished (fun result s n s' n' hnote => ?_) h
  cases result with
  | error => exact eq_of_note hnote
  | ok =>
    cases hnote
    rfl

/-- To save the history changes the history only, as the line editor saves it. -/
theorem saveHistory_changes {path : Bytes} (h : saveHistory path s p m = .finished ((), s') n) :
    ∃ history result n', s' = { s with history } ∧
      e.save path s.history p m = .finished (history, result) n' := by
  refine keep_finished (fun result s n s' n' hnote => ?_) h
  cases result <;> exact eq_of_note hnote

/-! ## Sessions with their deeds -/

/-- A session with a user on the machine, with its deeds. -/
abbrev recorded (e : Editor (Task U.State)) (r : Runner U) (path : Bytes) :
    Conversation (StateT (Interactive e) (Observed (Task U.State) (Deed Bytes))) Bytes :=
  (conversation e r path).recorded Interactive.status

/-- What a history may become when the line editor adds a line to it for process `p`. -/
def Adds (e : Editor (Task U.State)) (p : Pid) (line : Bytes) (history history' : e.History) :
    Prop :=
  ∃ result m n, e.add history line p m = .finished (history', result) n

variable (e p) in
/-- The status of a session is changed by the lines that are handled, and its history by the lines
that are offered. -/
theorem tracks_conversation (r : Runner U) (path : Bytes) :
    (conversation e r path).Tracks p Interactive.status Interactive.history (Adds e p) where
  loadHistory h := by
    obtain ⟨_, _, _, rfl, -⟩ := loadHistory_changes h
    rfl
  remember h := by
    obtain ⟨_, result, n, rfl, hadd⟩ := remember_changes h
    exact ⟨result, _, n, hadd⟩
  saveHistory h := by
    obtain ⟨_, _, _, rfl, -⟩ := saveHistory_changes h
    rfl
  ask h := by
    obtain ⟨⟨⟨entry, reader⟩, _⟩, n, hread, hset⟩ := Work.bind_finished.mp h
    obtain ⟨_, _, _, hlift⟩ := Work.bind_finished.mp hread
    cases hlift
    cases hset
    exact ⟨rfl, rfl⟩
  handle h := by
    change handle r _ _ _ _ = _ at h
    rw [handle_eq] at h
    obtain ⟨_, _, _, hpure⟩ := Work.bind_finished.mp h
    cases hpure
    rfl
  status h := by
    cases h
    exact ⟨rfl, rfl⟩
  say h := by
    obtain rfl := (lift_finished h).1
    exact ⟨rfl, rfl⟩
  complain h := by
    obtain rfl := (lift_finished h).1
    exact ⟨rfl, rfl⟩
  note h := by
    obtain rfl := eq_of_note h
    exact ⟨rfl, rfl⟩

/-- The deeds of a session with a user are those of its rounds, and what it comes to follows from
them. -/
theorem keeps_recorded (r : Runner U) (path : Bytes) (theme : Theme)
    (look : Role → Bytes → Bytes) (fuel : Nat) (s : Interactive e) (m : Machine (Task U.State)) :
    Observed.Keeps ((recorded e r path).run theme look fuel s p m)
      (fun x seen => (conversation e r path).BrokenOff p (s, m) x seen ∧
        ∃ rounds : List (Round Bytes), seen <+: Deed.all rounds)
      fun seen ending s' _ => ∃ rounds : List (Round Bytes), seen = Deed.all rounds ∧
        ending.After rounds ∧ (ending = .unfinished → rounds.length = fuel) ∧
        s'.status = rounds.foldl Round.status s.status ∧
        ∃ loaded loading n₁ s₁ m₁ saving n₂,
          e.load path s.history p m = .finished (loaded, loading) n₁ ∧
          Added (Adds e p) (rounds.flatMap Round.offers) loaded s₁.history ∧
          (conversation e r path).Reaches p (s, m) (s₁, m₁) ∧
          e.save path s₁.history p m₁ = .finished (s'.history, saving) n₂ := by
  refine ((tracks_conversation e p r path).run theme look fuel s m).mono
    (fun _ _ h => ⟨h, h.isPrefix⟩) ?_
  rintro _ ending s' n
    ⟨rounds, rfl, hafter, hlength, hstatus, s₀, n₀, s₁, m₁, hload, hadded, hreach, hsave⟩
  obtain ⟨loaded, loading, n₁, rfl, hloaded⟩ := loadHistory_changes hload
  obtain ⟨saved, saving, n₂, rfl, hsaved⟩ := saveHistory_changes hsave
  exact ⟨rounds, rfl, hafter, hlength, hstatus, loaded, loading, n₁, s₁, m₁, saving, n₂, hloaded,
    hadded, hreach, hsaved⟩

/-- The rounds of a session that came to its end. -/
theorem rounds_of_finished {r : Runner U} {path : Bytes} {theme : Theme}
    {look : Role → Bytes → Bytes} {fuel : Nat} {seen : List (Deed Bytes)} {ending : Ending Bytes}
    (h : (recorded e r path).run theme look fuel s p m = (.finished (ending, s') n, seen)) :
    ∃ rounds : List (Round Bytes), seen = Deed.all rounds ∧ ending.After rounds ∧
      s'.status = rounds.foldl Round.status s.status := by
  have hkeeps := keeps_recorded (p := p) r path theme look fuel s m
  rw [h] at hkeeps
  obtain ⟨rounds, hseen, hafter, -, hstatus, -⟩ := hkeeps
  exact ⟨rounds, hseen, hafter, hstatus⟩

/-- A whole session gives the status after its rounds, unless the line editor cannot be set up. -/
theorem run_finished {r : Runner U} {settings : Settings} {result : Except Bytes Nat}
    (h : run e r settings p m = .finished result n) :
    (∃ reason, e.make settings.editMode p m = .finished (.error reason) n ∧
      result = .error reason) ∨
    ∃ reader history n₀ n₁ look ending s' rounds,
      e.make settings.editMode p m = .finished (.ok (reader, history)) n₀ ∧
      (recorded e r settings.historyFile).run (.ofName settings.theme) look r.fuel
        ⟨0, reader, history⟩ p n₁ = (.finished (ending, s') n, Deed.all rounds) ∧
      ending.After rounds ∧ ending ≠ .unfinished ∧
      result = .ok (rounds.foldl Round.status 0) := by
  obtain ⟨made, n₀, hmake, hrest⟩ := Work.bind_finished.mp h
  cases made with
  | error reason =>
    cases hrest
    exact Or.inl ⟨reason, hmake, rfl⟩
  | ok found =>
    obtain ⟨reader, history⟩ := found
    obtain ⟨environment, n₁, -, hrest⟩ := Work.bind_finished.mp hrest
    obtain ⟨⟨ending, s'⟩, n₂, hrun, hlast⟩ := Work.bind_finished.mp hrest
    rw [← Conversation.forget_recorded _ Interactive.status] at hrun
    have hrecorded := Prod.ext (y := (_, _)) hrun rfl
    obtain ⟨rounds, hseen, hafter, hstatus⟩ := rounds_of_finished hrecorded
    rw [hseen] at hrecorded
    have hresult : ending ≠ .unfinished ∧ result = .ok s'.status ∧ n = n₂ := by
      cases ending <;> cases hlast <;> exact ⟨by simp, rfl, rfl⟩
    obtain ⟨hending, rfl, rfl⟩ := hresult
    exact Or.inr ⟨reader, history, n₀, n₁, _, ending, s', rounds, hmake, hrecorded, hafter, hending,
      congrArg Except.ok hstatus⟩

end Interactive

end PipeShell
