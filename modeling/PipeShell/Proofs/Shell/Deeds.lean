import Mathlib.Logic.Relation
import PipeShell.Proofs.Shell.Turns

/-!
# What a session does with its lines and its history

`Conversation.recorded` is a session with a user with a list of its `Deed`s kept beside it. Keeping
it changes nothing (`Conversation.forget_recorded`). What is in the list follows from the `Round`s
of the session, which are what the user enters and what comes of each line: the history is loaded,
each line is offered to it unless there is nothing but white space on the line, and then handled,
and at last the history at last the history is saved (`Conversation.Tracks.run`). A session that does not come to its
end is broken off by something that it does itself, at a state that it comes to
(`Conversation.Stops`), and then what it did up to there is the first part of that
(`Conversation.BrokenOff`).. A session that does not come to its
end is broken off by something that it does itself, and then what it did up to there is the first
part of that (`Conversation.BrokenOff`).
-/

namespace PipeShell

variable {σ κ τ ε α β η : Type}

/-! ## Rounds and deeds -/

/-- A deed of a session with a user. -/
inductive Deed (ε : Type)
  | loaded
  | entered (entry : Entry ε)
  | offered (line : Bytes)
  | handled (line : Bytes)
  /-- What came of the line that was handled, and the status after it. -/
  | answered (flow : Flow) (status : Nat)
  | saved
deriving DecidableEq, Repr

/-- What a user enters, and what comes of it. -/
inductive Round (ε : Type)
  | line (text : Bytes) (flow : Flow) (status : Nat)
  | endOfInput
  | interrupted
  | failed (e : ε)
deriving DecidableEq, Repr

/-- The lines that are offered to the history because of a line: the line itself, unless there is
nothing but white space on it. -/
def Deed.offers (text : Bytes) : List Bytes :=
  if Text.isBlank (Utf8.chars text) then [] else [text]

namespace Round

/-- The lines that are offered to the history. -/
def offers : Round ε → List Bytes
  | .line text _ _ => Deed.offers text
  | _ => []

/-- The status after a round, by the one before. -/
def status (before : Nat) : Round ε → Nat
  | .line _ _ status => status
  | _ => before

/-- How a round ends the session, if it does. -/
def ending? : Round ε → Option (Ending ε)
  | .line _ .leave _ => some .left
  | .line _ .goOn _ => none
  | .endOfInput => some .endOfInput
  | .interrupted => none
  | .failed e => some (.failed e)

/-- What is entered and what comes of it, without what is done. -/
def answers : Round ε → List (Deed ε)
  | .line text flow status => [.entered (.line text), .answered flow status]
  | .endOfInput => [.entered .endOfInput]
  | .interrupted => [.entered .interrupted]
  | .failed e => [.entered (.failed e)]

/-- All that is done in a round. -/
def deeds : Round ε → List (Deed ε)
  | .line text flow status =>
    .entered (.line text) :: ((Deed.offers text).map .offered ++
      [.handled text, .answered flow status])
  | .endOfInput => [.entered .endOfInput]
  | .interrupted => [.entered .interrupted]
  | .failed e => [.entered (.failed e)]

end Round

/-- All that is done in a session of some rounds. -/
def Deed.all (rounds : List (Round ε)) : List (Deed ε) :=
  .loaded :: (rounds.flatMap Round.deeds ++ [.saved])

/-- Whether a deed is an answer to what the session did. -/
def Deed.isAnswer : Deed ε → Bool
  | .entered _ | .answered .. => true
  | _ => false

/-- The rounds of a session that ends so: the last one ends it, and the ones before do not. -/
inductive Ending.After : Ending ε → List (Round ε) → Prop
  | unfinished : After .unfinished []
  | last {ending : Ending ε} {round : Round ε} (h : round.ending? = some ending) :
    After ending [round]
  | next {ending : Ending ε} {round : Round ε} {rounds : List (Round ε)}
    (h : round.ending? = none) (hrest : ending.After rounds) : After ending (round :: rounds)

theorem Round.ending?_ne_unfinished (round : Round ε) : round.ending? ≠ some .unfinished := by
  cases round with
  | line text flow status => cases flow <;> simp [ending?]
  | endOfInput | interrupted | failed => simp [ending?]

/-- Rounds end a session in one way. -/
theorem Ending.After.unique {ending ending' : Ending ε} {rounds : List (Round ε)}
    (h : ending.After rounds) (h' : ending'.After rounds) : ending' = ending := by
  induction h with
  | unfinished =>
    cases h'
    rfl
  | last hlast =>
    cases h' with
    | last hlast' => exact Option.some.inj (hlast'.symm.trans hlast)
    | next hnone => rw [hnone] at hlast; cases hlast
  | next hnone _ ih =>
    cases h' with
    | last hlast' => rw [hnone] at hlast'; cases hlast'
    | next _ hrest' => exact ih hrest'

theorem Round.filter_deeds (round : Round ε) :
    round.deeds.filter Deed.isAnswer = round.answers := by
  cases round with
  | line text flow status =>
    simp only [Round.deeds, Deed.offers]
    split <;> rfl
  | endOfInput | interrupted | failed => rfl

/-- The answers of a session are those of its rounds. -/
theorem Deed.filter_all (rounds : List (Round ε)) :
    (all rounds).filter isAnswer = rounds.flatMap Round.answers := by
  rw [all, List.filter_cons_of_neg (by simp [isAnswer]), List.filter_append, List.filter_flatMap]
  simp [Round.filter_deeds, isAnswer]

/-- Rounds can be told by their answers. -/
theorem Round.answers_injective {rounds rounds' : List (Round ε)}
    (h : rounds'.flatMap answers = rounds.flatMap answers) : rounds' = rounds := by
  induction rounds generalizing rounds' with
  | nil =>
    cases rounds' with
    | nil => rfl
    | cons round _ => cases round <;> simp [answers] at h
  | cons round rounds ih =>
    cases rounds' with
    | nil => cases round <;> simp [answers] at h
    | cons round' rounds' =>
      cases round <;> cases round' <;> simp [answers] at h ⊢ <;> grind

/-! ## Work that breaks off -/

/-- How work breaks off: its process ends, or it goes on for ever. -/
inductive Breach (κ : Type)
  | ended (status : ExitStatus) (machine : Machine κ)
  | stuck

/-- How work broke off, if it did. -/
def Progress.breach? : Progress κ α → Option (Breach κ)
  | .finished _ _ => none
  | .ended status m => some (.ended status m)
  | .stuck => some .stuck

namespace Conversation

variable (c : Conversation (StateT σ (Work κ)) ε) (p : Pid)

/-- The work that a session asks for. -/
inductive Does : {α : Type} → StateT σ (Work κ) α → Prop
  | loadHistory : Does c.loadHistory
  | remember (line : Bytes) : Does (c.remember line)
  | saveHistory : Does c.saveHistory
  | ask (prompt : Bytes) : Does (c.ask prompt)
  | handle (line : Bytes) : Does (c.handle line)
  | status : Does c.status
  | say (line : Bytes) : Does (c.say line)
  | complain (line : Bytes) : Does (c.complain line)
  | note (level : Level) (message : Bytes) : Does (c.note level message)

/-- One piece of that work leads process `p` from one state and machine to others. -/
def Leads (a b : σ × Machine κ) : Prop :=
  ∃ (α : Type) (w : StateT σ (Work κ) α) (result : α),
    c.Does w ∧ w a.1 p a.2 = .finished (result, b.1) b.2

/-- What a session comes to, piece by piece. -/
def Reaches : σ × Machine κ → σ × Machine κ → Prop :=
  Relation.ReflTransGen (c.Leads p)

variable (start : σ × Machine κ) (x : Breach κ)

/-- Work breaks off so at a state and machine that the session comes to. -/
def Stops (w : StateT σ (Work κ) α) : Prop :=
  ∃ s m, c.Reaches p start (s, m) ∧ (w s p m).breach? = some x

/-- What a session shows or notes, or what it asks itself, breaks off. -/
inductive Falters : Prop
  | status (h : c.Stops p start x c.status)
  | say (line : Bytes) (h : c.Stops p start x (c.say line))
  | complain (line : Bytes) (h : c.Stops p start x (c.complain line))
  | note (level : Level) (message : Bytes) (h : c.Stops p start x (c.note level message))

/-- What is done in the rounds of a session that is broken off. -/
inductive Interrupted : List (Deed ε) → Prop
  | asking (prompt : Bytes) (h : c.Stops p start x (c.ask prompt)) : Interrupted []
  | offering (text : Bytes) (hoffer : Text.isBlank (Utf8.chars text) = false)
    (h : c.Stops p start x (c.remember text)) : Interrupted [.entered (.line text), .offered text]
  | handling (text : Bytes) (h : c.Stops p start x (c.handle text)) :
    Interrupted (.entered (.line text) :: ((Deed.offers text).map .offered ++ [.handled text]))
  | answering (round : Round ε) (h : c.Falters p start x) : Interrupted round.deeds
  | next {round : Round ε} {seen : List (Deed ε)} (hround : round.ending? = none)
    (h : Interrupted seen) : Interrupted (round.deeds ++ seen)

/-- What is done in a session that is broken off. -/
inductive BrokenOff : List (Deed ε) → Prop
  | loading (h : c.Stops p start x c.loadHistory) : BrokenOff [.loaded]
  | greeting (h : c.Falters p start x) : BrokenOff [.loaded]
  | amidst {seen : List (Deed ε)} (h : c.Interrupted p start x seen) : BrokenOff (.loaded :: seen)
  | saving {ending : Ending ε} {rounds : List (Round ε)} (hafter : ending.After rounds)
    (h : c.Stops p start x c.saveHistory) : BrokenOff (Deed.all rounds)

variable {c p start x} {seen : List (Deed ε)}

theorem Interrupted.isPrefix (h : c.Interrupted p start x seen) :
    ∃ rounds : List (Round ε), seen <+: rounds.flatMap Round.deeds := by
  induction h with
  | asking => exact ⟨[], List.prefix_refl _⟩
  | offering text hoffer =>
    refine ⟨[.line text .goOn 0], ?_⟩
    simp [Round.deeds, Deed.offers, hoffer]
  | handling text =>
    refine ⟨[.line text .goOn 0], ?_⟩
    simp [Round.deeds]
  | answering round => exact ⟨[round], by simp⟩
  | @next round seen _ _ ih =>
    obtain ⟨rounds, hrounds⟩ := ih
    exact ⟨round :: rounds, (List.prefix_append_right_inj _).mpr hrounds⟩

/-- A session that is broken off has done the first part of what some session does. -/
theorem BrokenOff.isPrefix (h : c.BrokenOff p start x seen) :
    ∃ rounds : List (Round ε), seen <+: Deed.all rounds := by
  cases h with
  | loading | greeting => exact ⟨[], by simp [Deed.all]⟩
  | amidst h =>
    obtain ⟨rounds, hrounds⟩ := h.isPrefix
    exact ⟨rounds, List.cons_prefix_cons.mpr ⟨rfl, hrounds.trans (List.prefix_append _ _)⟩⟩
  | @saving _ rounds => exact ⟨rounds, List.prefix_refl _⟩

end Conversation

/-! ## Sessions with their deeds -/

namespace Observed

/-- Work of which something is kept, `before` it in any case and `after` it if it is finished. -/
def keeping (before : List τ) (after : α → σ → List τ) (w : StateT σ (Work κ) α) :
    StateT σ (Observed κ τ) α := fun s p m =>
  (w s p m, before ++ match w s p m with
    | .finished (a, s) _ => after a s
    | _ => [])

end Observed

namespace Conversation

/-- A session with a user, with its deeds; `tell` gives the status. -/
def recorded (c : Conversation (StateT σ (Work κ)) ε) (tell : σ → Nat) :
    Conversation (StateT σ (Observed κ (Deed ε))) ε where
  loadHistory := .keeping [.loaded] (fun _ _ => []) c.loadHistory
  remember line := .keeping [.offered line] (fun _ _ => []) (c.remember line)
  saveHistory := .keeping [.saved] (fun _ _ => []) c.saveHistory
  ask prompt := .keeping [] (fun entry _ => [.entered entry]) (c.ask prompt)
  handle line := .keeping [.handled line] (fun flow s => [.answered flow (tell s)]) (c.handle line)
  status := .keeping [] (fun _ _ => []) c.status
  say line := .keeping [] (fun _ _ => []) (c.say line)
  complain line := .keeping [] (fun _ _ => []) (c.complain line)
  note level message := .keeping [] (fun _ _ => []) (c.note level message)
  explain := c.explain

/-- Without the list of its deeds it is the session as it is run. -/
theorem forget_recorded (c : Conversation (StateT σ (Work κ)) ε) (tell : σ → Nat) (theme : Theme)
    (look : Role → Bytes → Bytes) (fuel : Nat) :
    Observed.forgetState ((c.recorded tell).run theme look fuel) = c.run theme look fuel :=
  Conversation.map_run (fun _ => rfl) Observed.forgetState_bind (c.recorded tell) theme look fuel

end Conversation

/-! ## What is kept -/

namespace Observed

/-- What is kept beside work: `P` holds of it if the work breaks off, and otherwise `Q` does, with
the result, the state and the machine at the end. -/
def Keeps (o : Progress κ (α × σ) × List τ) (P : Breach κ → List τ → Prop)
    (Q : List τ → α → σ → Machine κ → Prop) : Prop :=
  match o with
  | (.finished (a, s) n, seen) => Q seen a s n
  | (.ended status n, seen) => P (.ended status n) seen
  | (.stuck, seen) => P .stuck seen

variable {P P' : Breach κ → List τ → Prop} {Q : List τ → α → σ → Machine κ → Prop}
  {R : List τ → β → σ → Machine κ → Prop} {s : σ} {p : Pid} {m : Machine κ}
  {o : Progress κ (α × σ) × List τ}

theorem Keeps.mono {Q' : List τ → α → σ → Machine κ → Prop} (h : Keeps o P Q)
    (hstop : ∀ x seen, P x seen → P' x seen)
    (hend : ∀ seen a s n, Q seen a s n → Q' seen a s n) : Keeps o P' Q' := by
  obtain ⟨⟨⟨a, s'⟩, n⟩ | ⟨status, n⟩ | _, seen⟩ := o
  · exact hend _ _ _ _ h
  · exact hstop _ _ h
  · exact hstop _ _ h

theorem Keeps.bind {w : StateT σ (Observed κ τ) α} {f : α → StateT σ (Observed κ τ) β}
    (hw : Keeps (w s p m) P Q) (hstop : ∀ x seen, P x seen → P' x seen)
    (hf : ∀ seen a s' n, Q seen a s' n →
      Keeps (f a s' p n) (fun x more => P' x (seen ++ more)) fun more => R (seen ++ more)) :
    Keeps ((w >>= f) s p m) P' R := by
  simp only [Bind.bind, StateT.bind]
  generalize w s p m = o at hw
  obtain ⟨⟨⟨a, s'⟩, n⟩ | ⟨status, n⟩ | _, seen⟩ := o
  · have hnext := hf seen a s' n hw
    simp only
    generalize f a s' p n = o at hnext
    obtain ⟨⟨⟨b, s''⟩, n'⟩ | ⟨status, n'⟩ | _, more⟩ := o <;> exact hnext
  · exact hstop _ seen hw
  · exact hstop _ seen hw

variable {before : List τ} {after : α → σ → List τ} {w : StateT σ (Work κ) α}

theorem keeps_keeping : Keeps (keeping before after w s p m)
    (fun x seen => (w s p m).breach? = some x ∧ seen = before) fun seen a s' n =>
      w s p m = .finished (a, s') n ∧ seen = before ++ after a s' := by
  unfold keeping Keeps
  rcases hw : w s p m with ⟨⟨a, s'⟩, n⟩ | ⟨status, n⟩ | _
  · exact ⟨rfl, rfl⟩
  · exact ⟨rfl, List.append_nil _⟩
  · exact ⟨rfl, List.append_nil _⟩

/-- Work of which something is kept comes before other work. -/
theorem Keeps.keeping_bind {f : α → StateT σ (Observed κ τ) β}
    (hstop : ∀ x, (w s p m).breach? = some x → P x before)
    (hf : ∀ a s' n, w s p m = .finished (a, s') n →
      Keeps (f a s' p n) (fun x more => P x (before ++ after a s' ++ more))
        fun more => R (before ++ after a s' ++ more)) :
    Keeps ((keeping before after w >>= f) s p m) P R := by
  refine keeps_keeping.bind (fun x seen ⟨hx, hseen⟩ => hseen ▸ hstop x hx) ?_
  rintro _ a s' n ⟨hw, rfl⟩
  exact hf a s' n hw

end Observed

/-! ## What the list says -/

/-- Lines that are added one after the other, where `Add` says what adding a line may come to. -/
inductive Added (Add : Bytes → η → η → Prop) : List Bytes → η → η → Prop
  | nil (h : η) : Added Add [] h h
  | cons {line : Bytes} {lines : List Bytes} {h h₁ h₂ : η} (hadd : Add line h h₁)
    (hrest : Added Add lines h₁ h₂) : Added Add (line :: lines) h h₂

theorem Added.append {Add : Bytes → η → η → Prop} {lines lines' : List Bytes} {h h₁ h₂ : η}
    (hfirst : Added Add lines h h₁) (hrest : Added Add lines' h₁ h₂) :
    Added Add (lines ++ lines') h h₂ := by
  induction hfirst with
  | nil => exact hrest
  | cons hadd _ ih => exact .cons hadd (ih hrest)

namespace Conversation

/-- Parts of the state of a session of process `p`: the status, which the handling of a line changes
and nothing else, and a part that remembering a line changes and nothing else does, loading and
saving apart. -/
structure Tracks (c : Conversation (StateT σ (Work κ)) ε) (p : Pid) (tell : σ → Nat) (view : σ → η)
    (Add : Bytes → η → η → Prop) : Prop where
  loadHistory {s s' : σ} {m n : Machine κ}
    (h : c.loadHistory s p m = .finished ((), s') n) : tell s' = tell s
  remember {line : Bytes} {s s' : σ} {m n : Machine κ}
    (h : c.remember line s p m = .finished ((), s') n) : Add line (view s) (view s')
  saveHistory {s s' : σ} {m n : Machine κ}
    (h : c.saveHistory s p m = .finished ((), s') n) : tell s' = tell s
  ask {prompt : Bytes} {entry : Entry ε} {s s' : σ} {m n : Machine κ}
    (h : c.ask prompt s p m = .finished (entry, s') n) : tell s' = tell s ∧ view s' = view s
  handle {line : Bytes} {flow : Flow} {s s' : σ} {m n : Machine κ}
    (h : c.handle line s p m = .finished (flow, s') n) : view s' = view s
  status {status : Nat} {s s' : σ} {m n : Machine κ}
    (h : c.status s p m = .finished (status, s') n) : tell s' = tell s ∧ view s' = view s
  say {line : Bytes} {s s' : σ} {m n : Machine κ}
    (h : c.say line s p m = .finished ((), s') n) : tell s' = tell s ∧ view s' = view s
  complain {line : Bytes} {s s' : σ} {m n : Machine κ}
    (h : c.complain line s p m = .finished ((), s') n) : tell s' = tell s ∧ view s' = view s
  note {level : Level} {message : Bytes} {s s' : σ} {m n : Machine κ}
    (h : c.note level message s p m = .finished ((), s') n) : tell s' = tell s ∧ view s' = view s

/-- What is done in the rounds after which a session ends so, at most `fuel` of them, the status
after them, and the part of the state that comes of what was offered. -/
def Told (tell : σ → Nat) (view : σ → η) (Add : Bytes → η → η → Prop) (fuel : Nat) (s : σ)
    (seen : List (Deed ε)) (ending : Ending ε) (s' : σ) : Prop :=
  ∃ rounds : List (Round ε), seen = rounds.flatMap Round.deeds ∧ ending.After rounds ∧
    (ending = .unfinished → rounds.length = fuel) ∧ tell s' = rounds.foldl Round.status (tell s) ∧
    Added Add (rounds.flatMap Round.offers) (view s) (view s')

variable {c : Conversation (StateT σ (Work κ)) ε} {p : Pid} {tell : σ → Nat} {view : σ → η}
  {Add : Bytes → η → η → Prop} {theme : Theme} {look : Role → Bytes → Bytes} {fuel : Nat}
  {s s₀ s' : σ} {m : Machine κ} {start : σ × Machine κ}
  {rest : StateT σ (Observed κ (Deed ε)) (Ending ε)} {round : Round ε} {seen : List (Deed ε)}
  {ending : Ending ε}

/-- A round leads from one state to another. -/
def Passes (tell : σ → Nat) (view : σ → η) (Add : Bytes → η → η → Prop) (round : Round ε)
    (s s' : σ) : Prop :=
  tell s' = round.status (tell s) ∧ Added Add round.offers (view s) (view s')

theorem Passes.of_eq (h : Passes tell view Add round s₀ s)
    (hs : tell s' = tell s ∧ view s' = view s) : Passes tell view Add round s₀ s' :=
  ⟨hs.1.trans h.1, hs.2 ▸ h.2⟩

/-- A round after which the session goes on comes before those that follow. -/
theorem Told.next (h : Told tell view Add fuel s seen ending s')
    (hpasses : Passes tell view Add round s₀ s) (hround : round.ending? = none) :
    Told tell view Add (fuel + 1) s₀ (round.deeds ++ seen) ending s' := by
  obtain ⟨rounds, rfl, hafter, hlength, hstatus, hadded⟩ := h
  refine ⟨round :: rounds, rfl, .next hround hafter, fun hending => ?_, ?_, ?_⟩
  · rw [List.length_cons, hlength hending]
  · rw [hstatus, hpasses.1, List.foldl_cons]
  · exact hpasses.2.append hadded

/-- The round that ends the session comes last. -/
theorem told_last (hpasses : Passes tell view Add round s₀ s)
    (hround : round.ending? = some ending) :
    Told tell view Add fuel s₀ round.deeds ending s := by
  refine ⟨[round], by simp, .last hround, fun h => ?_, hpasses.1, by simpa using hpasses.2⟩
  exact absurd (h ▸ hround) round.ending?_ne_unfinished

/-- The session goes on after a round. -/
theorem Passes.keeps_next (hpasses : Passes tell view Add round s₀ s)
    (hround : round.ending? = none)
    (hrest : Observed.Keeps (rest s p m) (c.Interrupted p start) fun seen ending s' n =>
      Told tell view Add fuel s seen ending s' ∧ c.Reaches p start (s', n)) :
    Observed.Keeps (rest s p m) (fun x more => c.Interrupted p start x (round.deeds ++ more))
      fun more ending s' n => Told tell view Add (fuel + 1) s₀ (round.deeds ++ more) ending s' ∧
        c.Reaches p start (s', n) :=
  hrest.mono (fun _ _ h => .next hround h) fun _ _ _ _ ⟨h, hreach⟩ =>
    ⟨h.next hpasses hround, hreach⟩

namespace Reaches

variable {w : StateT σ (Work κ) α} {P : Breach κ → List (Deed ε) → Prop}
  {R : List (Deed ε) → β → σ → Machine κ → Prop} {before : List (Deed ε)}
  {after : α → σ → List (Deed ε)} {f : α → StateT σ (Observed κ (Deed ε)) β}

/-- A session does a piece of its work, of which something is kept, and goes on from there. -/
theorem keeping_bind (hreach : c.Reaches p start (s, m)) (hdoes : c.Does w)
    (hstop : ∀ x, c.Stops p start x w → P x before)
    (hf : ∀ a s' n, c.Reaches p start (s', n) → w s p m = .finished (a, s') n →
      Observed.Keeps (f a s' p n) (fun x more => P x (before ++ after a s' ++ more))
        fun more => R (before ++ after a s' ++ more)) :
    Observed.Keeps ((Observed.keeping before after w >>= f) s p m) P R :=
  Observed.Keeps.keeping_bind (fun x hx => hstop x ⟨s, m, hreach, hx⟩)
    fun a s' n hw => hf a s' n (hreach.tail ⟨_, w, a, hdoes, hw⟩) hw

/-- A session does a piece of its work of which nothing is kept. -/
theorem quiet_bind (hreach : c.Reaches p start (s, m)) (hdoes : c.Does w)
    (hstop : ∀ x, c.Stops p start x w → P x [])
    (hf : ∀ a s' n, c.Reaches p start (s', n) → w s p m = .finished (a, s') n →
      Observed.Keeps (f a s' p n) P R) :
    Observed.Keeps ((Observed.keeping [] (fun _ _ => []) w >>= f) s p m) P R :=
  hreach.keeping_bind hdoes hstop hf

end Reaches

namespace Tracks

variable (hc : c.Tracks p tell view Add) (theme look)
  (hrest : ∀ s m, c.Reaches p start (s, m) → Observed.Keeps (rest s p m) (c.Interrupted p start)
    fun seen ending s' n =>
      Told tell view Add fuel s seen ending s' ∧ c.Reaches p start (s', n))

include hc hrest

/-- What comes after a line that was handled. -/
theorem follow {text : Bytes} {flow : Flow}
    (hpasses : Passes tell view Add (.line text flow (tell s) : Round ε) s₀ s)
    (hreach : c.Reaches p start (s, m)) :
    Observed.Keeps ((c.recorded tell).follow theme look rest flow s p m)
      (fun x more => c.Interrupted p start x ((Round.line text flow (tell s)).deeds ++ more))
      fun more ending s' n => Told tell view Add (fuel + 1) s₀
        ((Round.line text flow (tell s)).deeds ++ more) ending s' ∧
          c.Reaches p start (s', n) := by
  have hstop (x : Breach κ) (h : c.Falters p start x) :
      c.Interrupted p start x ((Round.line text flow (tell s)).deeds ++ []) := by
    rw [List.append_nil]
    exact .answering _ h
  cases flow with
  | leave =>
    refine hreach.quiet_bind (.say _) (fun x h => hstop x (.say _ h))
      fun _ s₁ n hreach₁ hsay => ?_
    have hlast : Told tell view Add (fuel + 1) s₀ (Round.line text .leave (tell s)).deeds .left
        s₁ := told_last (hpasses.of_eq (hc.say hsay)) rfl
    rw [← List.append_nil (Round.deeds _)] at hlast
    exact ⟨hlast, hreach₁⟩
  | goOn =>
    refine hreach.quiet_bind .status (fun x h => hstop x (.status h))
      fun status s₁ n hreach₁ hstatus => ?_
    have hpasses₁ := hpasses.of_eq (hc.status hstatus)
    dsimp only
    split
    · refine hreach₁.quiet_bind (.complain _) (fun x h => hstop x (.complain _ h))
        fun _ s₂ n hreach₂ hcomplain => ?_
      exact (hpasses₁.of_eq (hc.complain hcomplain)).keeps_next rfl (hrest s₂ n hreach₂)
    · exact hpasses₁.keeps_next rfl (hrest s₁ n hreach₁)

/-- What is done with a line when it has been offered to the history. -/
theorem handle_follow {text : Bytes}
    (hadded : Added Add (Deed.offers text) (view s₀) (view s))
    (hreach : c.Reaches p start (s, m)) :
    Observed.Keeps
      (((c.recorded tell).handle text >>= (c.recorded tell).follow theme look rest) s p m)
      (fun x more => c.Interrupted p start x
        (.entered (.line text) :: ((Deed.offers text).map .offered ++ more)))
      fun more ending s' n => Told tell view Add (fuel + 1) s₀
        (.entered (.line text) :: ((Deed.offers text).map .offered ++ more)) ending s' ∧
          c.Reaches p start (s', n) := by
  refine hreach.keeping_bind (.handle text) (fun x h => .handling text h)
    fun flow s₁ n hreach₁ hhandle => ?_
  have hpasses : Passes tell view Add (.line text flow (tell s₁) : Round ε) s₀ s₁ :=
    ⟨rfl, (hc.handle hhandle).symm ▸ hadded⟩
  have hfollow := hc.follow theme look hrest hpasses hreach₁
  simpa only [Round.deeds, List.cons_append, List.nil_append, List.append_assoc] using hfollow

/-- What comes after an entry. -/
theorem answer (hs : tell s = tell s₀ ∧ view s = view s₀) (entry : Entry ε)
    (hreach : c.Reaches p start (s, m)) :
    Observed.Keeps ((c.recorded tell).answer theme look rest entry s p m)
      (fun x more => c.Interrupted p start x (.entered entry :: more)) fun more ending s' n =>
        Told tell view Add (fuel + 1) s₀ (.entered entry :: more) ending s' ∧
          c.Reaches p start (s', n) := by
  obtain ⟨hstatus, hview⟩ := hs
  cases entry with
  | line text =>
    cases hblank : Text.isBlank (Utf8.chars text) with
    | true =>
      have hoffers : Deed.offers text = [] := if_pos hblank
      have hadded : Added Add (Deed.offers text) (view s₀) (view s) := by
        rw [hoffers, hview]
        exact .nil _
      have hkeeps := hc.handle_follow theme look hrest hadded hreach
      simp only [hoffers, List.map_nil, List.nil_append] at hkeeps
      simpa only [Conversation.answer, hblank, Bool.not_true, Bool.false_eq_true, if_false]
        using hkeeps
    | false =>
      have hoffers : Deed.offers text = [text] := if_neg (by simp [hblank])
      simp only [Conversation.answer, hblank, Bool.not_false, if_true]
      refine hreach.keeping_bind (.remember text) (fun x h => .offering text hblank h)
        fun _ s₁ n hreach₁ hremember => ?_
      have hadded : Added Add (Deed.offers text) (view s₀) (view s₁) := by
        rw [hoffers, ← hview]
        exact .cons (hc.remember hremember) (.nil _)
      have hkeeps := hc.handle_follow theme look hrest hadded hreach₁
      simpa only [hoffers, List.map_cons, List.map_nil, List.cons_append, List.nil_append]
        using hkeeps
  | endOfInput =>
    have hstop (x : Breach κ) (h : c.Falters p start x) : c.Interrupted p start x [.entered .endOfInput] :=
      .answering .endOfInput h
    have hpasses : Passes tell view Add (.endOfInput : Round ε) s₀ s :=
      ⟨hstatus, hview ▸ .nil _⟩
    refine hreach.quiet_bind (.note _ _) (fun x h => hstop x (.note _ _ h))
      fun _ s₁ n hreach₁ hnote => ?_
    refine hreach₁.quiet_bind (.say _) (fun x h => hstop x (.say _ h))
      fun _ s₂ n hreach₂ hsay => ?_
    exact ⟨told_last ((hpasses.of_eq (hc.note hnote)).of_eq (hc.say hsay)) rfl, hreach₂⟩
  | interrupted =>
    have hstop (x : Breach κ) (h : c.Falters p start x) : c.Interrupted p start x [.entered .interrupted] :=
      .answering .interrupted h
    have hpasses : Passes tell view Add (.interrupted : Round ε) s₀ s :=
      ⟨hstatus, hview ▸ .nil _⟩
    refine hreach.quiet_bind (.note _ _) (fun x h => hstop x (.note _ _ h))
      fun _ s₁ n hreach₁ hnote => ?_
    refine hreach₁.quiet_bind (.say _) (fun x h => hstop x (.say _ h))
      fun _ s₂ n hreach₂ hsay => ?_
    have hpasses₂ := (hpasses.of_eq (hc.note hnote)).of_eq (hc.say hsay)
    exact hpasses₂.keeps_next rfl (hrest s₂ n hreach₂)
  | failed e =>
    have hstop (x : Breach κ) (h : c.Falters p start x) : c.Interrupted p start x [.entered (.failed e)] :=
      .answering (.failed e) h
    have hpasses : Passes tell view Add (.failed e : Round ε) s₀ s :=
      ⟨hstatus, hview ▸ .nil _⟩
    refine hreach.quiet_bind (.note _ _) (fun x h => hstop x (.note _ _ h))
      fun _ s₁ n hreach₁ hnote => ?_
    refine hreach₁.quiet_bind (.complain _) (fun x h => hstop x (.complain _ h))
      fun _ s₂ n hreach₂ hcomplain => ?_
    exact ⟨told_last ((hpasses.of_eq (hc.note hnote)).of_eq (hc.complain hcomplain)) rfl, hreach₂⟩

omit hrest

theorem exchange (fuel : Nat) (hreach : c.Reaches p start (s, m)) :
    Observed.Keeps ((c.recorded tell).exchange theme look fuel s p m) (c.Interrupted p start)
      fun seen ending s' n =>
        Told tell view Add fuel s seen ending s' ∧ c.Reaches p start (s', n) := by
  induction fuel generalizing s m with
  | zero => exact ⟨⟨[], rfl, .unfinished, fun _ => rfl, rfl, .nil _⟩, hreach⟩
  | succ fuel ih =>
    rw [exchange_succ]
    refine hreach.keeping_bind (.ask _) (fun x h => .asking _ h)
      fun entry s₁ n hreach₁ hask => ?_
    exact hc.answer theme look (fun _ _ hrest => ih hrest) (hc.ask hask) entry hreach₁

/-- What is done in a session and what becomes of it, as its rounds have it: its deeds, how it ends,
the status at the end, and what is saved, which is what was loaded with what was offered added to
it. -/
theorem run (fuel : Nat) (s : σ) (m : Machine κ) :
    Observed.Keeps ((c.recorded tell).run theme look fuel s p m) (c.BrokenOff p (s, m))
      fun seen ending s' n => ∃ rounds : List (Round ε), seen = Deed.all rounds ∧
        ending.After rounds ∧ (ending = .unfinished → rounds.length = fuel) ∧
        tell s' = rounds.foldl Round.status (tell s) ∧
        ∃ s₀ n₀ s₁ n₁, c.loadHistory s p m = .finished ((), s₀) n₀ ∧
          Added Add (rounds.flatMap Round.offers) (view s₀) (view s₁) ∧
          c.Reaches p (s, m) (s₁, n₁) ∧ c.saveHistory s₁ p n₁ = .finished ((), s') n := by
  have hstart : c.Reaches p (s, m) (s, m) := .refl
  have hconverse : Observed.Keeps ((c.recorded tell).converse theme look fuel s p m)
      (c.BrokenOff p (s, m)) fun seen ending s₁ n₁ =>
        ∃ (more : List (Deed ε)) (s₀ : σ) (n₀ : Machine κ), seen = .loaded :: more ∧
          c.loadHistory s p m = .finished ((), s₀) n₀ ∧ Told tell view Add fuel s₀ more ending s₁ ∧
          c.Reaches p (s, m) (s₁, n₁) := by
    refine hstart.keeping_bind .loadHistory (fun x h => .loading h)
      fun _ s₀ n₀ hreach₀ hload => ?_
    refine hreach₀.quiet_bind (.say _) (fun x h => .greeting (.say _ h))
      fun _ s₂ n₂ hreach₂ hsay => ?_
    refine (hc.exchange theme look fuel hreach₂).mono (fun x _ h => .amidst h) ?_
    rintro more ending s₁ n₁ ⟨⟨rounds, hmore, hafter, hlength, hstatus, hadded⟩, hreach₁⟩
    obtain ⟨htell, hview⟩ := hc.say hsay
    have htold : Told tell view Add fuel s₀ more ending s₁ :=
      ⟨rounds, hmore, hafter, hlength, htell ▸ hstatus, hview ▸ hadded⟩
    exact ⟨more, s₀, n₀, rfl, hload, htold, hreach₁⟩
  refine hconverse.bind (fun _ _ h => h) ?_
  rintro _ ending s₁ n₁
    ⟨_, s₀, n₀, rfl, hload, ⟨rounds, rfl, hafter, hlength, hstatus, hadded⟩, hreach₁⟩
  refine hreach₁.keeping_bind .saveHistory (fun x h => .saving hafter h)
    fun _ s' n _ hsave => ?_
  refine ⟨rounds, rfl, hafter, hlength, ?_, s₀, n₀, s₁, n₁, hload, hadded, hreach₁, hsave⟩
  rw [hc.saveHistory hsave, hstatus, hc.loadHistory hload]

end Tracks

end Conversation

end PipeShell
