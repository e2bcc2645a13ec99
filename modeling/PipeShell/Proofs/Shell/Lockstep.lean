import PipeShell.Proofs.Shell.Aside
import PipeShell.Proofs.Shell.Statuses

/-!
# Two sessions side by side

Two machines are `Veil.Abreast` if they are seen alike and the same process is a session in both;
what is left to be read of its input may differ. The session does the same in both and gets the same
answers, whatever it does of its own (`Veil.Abreast.call`, `Veil.Abreast.print`) and as long as the
steps are discreet that other processes make while it waits (`Veil.Abreast.runUntil`). So lines that
ask for the same are handled alike (`Veil.Abreast.handle`): both are over with the same flow and the
same status, or the session ends in the same way, or both go on for ever. What one of them does that
cannot be seen does not set them apart (`Veil.Abreast.covert_first`, `Veil.Abreast.covert_second`).
-/

namespace PipeShell

/-! ## The steps of a run -/

namespace Machine

variable {κ : Type} {d : Dynamics κ} {policy : Policy κ} {stop : Machine κ → Bool} {m : Machine κ}

/-- The steps that are made when processes are let move, each with the machine it is made in. -/
def stepsUntil (d : Dynamics κ) (policy : Policy κ) (stop : Machine κ → Bool) :
    Nat → Machine κ → List (Machine κ × Pid)
  | 0, _ => []
  | fuel + 1, m =>
    if stop m then []
    else match policy m with
      | none =>
        match m.elapse? with
        | none => []
        | some m => stepsUntil d policy stop fuel m
      | some p =>
        (m, p) :: match m.step d p with
          | none => []
          | some m => stepsUntil d policy stop fuel m

theorem runUntil_of_stop (h : stop m = true) (fuel : Nat) : m.runUntil d policy stop fuel = m := by
  cases fuel <;> simp [runUntil, h]

end Machine

/-! ## Two sessions -/

variable {U : Userland} {ex : Executor} {v : Veil} {m m' : Machine (Task U.State)} {p : Pid}
  {rest rest' : Bytes} {proc proc' : Process (Task U.State)}

/-- Process `p` is the same session in two machines that are seen alike; different parts of its
input may be left to be read. -/
structure Veil.Abreast (v : Veil) (p : Pid) (rest rest' : Bytes) (m m' : Machine (Task U.State)) :
    Prop where
  alike : v.Alike m m'
  first : m.Attached p v.toStreams rest
  second : m'.Attached p v.toStreams rest'

/-- So it is unless the session was killed. -/
structure Veil.Beside (v : Veil) (p : Pid) (rest rest' : Bytes) (m m' : Machine (Task U.State)) :
    Prop where
  alike : v.Alike m m'
  standing : v.Abreast p rest rest' m m' ∨ ∃ signal, m.endOf? p = some (.signaled signal)

/-- What is hidden of a machine, when in another one there are the descriptions `spare` as well. -/
def Machine.veil (m : Machine (Task U.State)) (st : Streams) (spare : List Description) : Veil :=
  ⟨st, m.store.descriptions.length, spare⟩

theorem Machine.Attached.fits {st : Streams} (ha : m.Attached p st rest)
    (spare : List Description) : (m.veil st spare).Fits m.store :=
  ⟨ha.isOpen.input, Nat.le_refl _, ha.outputs⟩

/-- A session is beside itself. -/
theorem Machine.Attached.abreast {st : Streams} (ha : m.Attached p st rest) :
    (m.veil st []).Abreast p rest rest m m :=
  ⟨⟨ha.fits [], rfl, rfl, rfl⟩, ha, ha⟩

theorem Veil.Fits.keeps {s s' : Store} (hf : v.Fits s) (hgrows : s.Grows s')
    (hkeeps : v.Keeps s s') : v.Fits s' where
  input := hf.input
  place := Nat.le_trans hf.place hgrows.length_le
  outputs id hid := Nat.lt_of_lt_of_le (hf.outputs id hid) hkeeps.nodes.length

namespace Veil.Abreast

/-- What others do, and what time does, is done in both machines. -/
theorem move (h : v.Abreast p rest rest' m m') {mv : Move} (hmv : mv = .elapse ∨ ∃ q, mv = .step q)
    (hsteps : ∀ q, mv = .step q → v.steps (Task.dynamics U ex) m q = true) :
    Option.Rel (v.Beside p rest rest') (m.make? (Task.dynamics U ex) mv)
      (m'.make? (Task.dynamics U ex) mv) := by
  have hfits (n : Machine (Task U.State)) (hn : m.make? (Task.dynamics U ex) mv = some n) :
      v.Fits n.store :=
    h.alike.fits.keeps (h.first.sound.grows hn).1 (.of_make? h.first.isOpen hsteps hn)
  have hsteps' (q : Pid) (hq : mv = .step q) : v.steps (Task.dynamics U ex) m' q = true :=
    (h.alike.steps _ q).trans (hsteps q hq)
  have halike : Option.Rel v.Alike (m.make? (Task.dynamics U ex) mv)
      (m'.make? (Task.dynamics U ex) mv) := by
    rcases hmv with rfl | ⟨q, rfl⟩
    · exact h.alike.elapse?
    · exact h.alike.step (hsteps q rfl) hfits
  cases hn : m.make? (Task.dynamics U ex) mv with
  | none =>
    rw [hn] at halike
    cases hn' : m'.make? (Task.dynamics U ex) mv with
    | none => exact .none
    | some => rw [hn'] at halike; cases halike
  | some n =>
    rw [hn] at halike
    cases hn' : m'.make? (Task.dynamics U ex) mv with
    | none => rw [hn'] at halike; cases halike
    | some n' =>
      rw [hn'] at halike
      cases halike with
      | some halike =>
        refine .some ⟨halike, ?_⟩
        rcases h.first.make? hmv hsteps hn with hfirst | hkilled
        · rcases h.second.make? hmv hsteps' hn' with hsecond | ⟨signal, hkilled⟩
          · exact Or.inl ⟨halike, hfirst, hsecond⟩
          · exact Or.inr ⟨signal, by rw [← halike.endOf?, hkilled]⟩
        · exact Or.inr hkilled

/-- Letting processes move does the same in both machines. -/
theorem runUntil {policy : Machine.Policy (Task U.State)} {stop : Machine (Task U.State) → Bool}
    (hpolicy : v.Heedless policy) (hstop : ∀ n n', v.Alike n n' → stop n' = stop n)
    (hend : ∀ n, (n.endOf? p).isSome = true → stop n = true) {fuel : Nat}
    (h : v.Abreast p rest rest' m m')
    (hsteps : ∀ x ∈ m.stepsUntil (Task.dynamics U ex) policy stop fuel,
      v.steps (Task.dynamics U ex) x.1 x.2 = true) :
    v.Beside p rest rest' (m.runUntil (Task.dynamics U ex) policy stop fuel)
      (m'.runUntil (Task.dynamics U ex) policy stop fuel) := by
  induction fuel generalizing m m' with
  | zero => exact ⟨h.alike, Or.inl h⟩
  | succ fuel ih =>
    -- After a move the session is the same in both machines or has been killed in both.
    have goesOn {n n' : Machine (Task U.State)} (hn : v.Beside p rest rest' n n')
        (hsteps : ∀ x ∈ n.stepsUntil (Task.dynamics U ex) policy stop fuel,
          v.steps (Task.dynamics U ex) x.1 x.2 = true) :
        v.Beside p rest rest' (n.runUntil (Task.dynamics U ex) policy stop fuel)
          (n'.runUntil (Task.dynamics U ex) policy stop fuel) := by
      rcases hn.standing with habreast | ⟨signal, hkilled⟩
      · exact ih habreast hsteps
      · have hstopped := hend n (by rw [hkilled, Option.isSome_some])
        rw [Machine.runUntil_of_stop hstopped,
          Machine.runUntil_of_stop ((hstop n n' hn.alike).trans hstopped)]
        exact hn
    have hstop' := hstop m m' h.alike
    have hpolicy' := hpolicy v m m' rfl h.alike h.first.quiet
    unfold Machine.runUntil
    unfold Machine.stepsUntil at hsteps
    rw [hstop', hpolicy']
    cases hstopped : stop m with
    | true => exact ⟨h.alike, Or.inl h⟩
    | false =>
      simp only [hstopped, Bool.false_eq_true, if_false] at hsteps ⊢
      cases hchosen : policy m with
      | none =>
        simp only [hchosen] at hsteps
        have hmove : Option.Rel _ (m.make? (Task.dynamics U ex) .elapse) _ :=
          h.move (Or.inl rfl) (by simp)
        simp only [Machine.make?] at hmove
        generalize m.elapse? = o, m'.elapse? = o' at hmove hsteps ⊢
        cases hmove with
        | none => exact ⟨h.alike, Or.inl h⟩
        | some hn => exact goesOn hn hsteps
      | some q =>
        simp only [hchosen, List.mem_cons, forall_eq_or_imp] at hsteps
        obtain ⟨hq, hsteps⟩ := hsteps
        have hmove := h.move (Or.inr ⟨q, rfl⟩) fun q' heq => Move.step.inj heq ▸ hq
        simp only [Machine.make?] at hmove
        dsimp only
        generalize m.step (Task.dynamics U ex) q = o, m'.step (Task.dynamics U ex) q = o'
          at hmove hsteps ⊢
        cases hmove with
        | none => exact ⟨h.alike, Or.inl h⟩
        | some hn => exact goesOn hn hsteps

end Veil.Abreast

/-! ## Work -/

/-- What came of the same work in two machines: it was finished in both, and both are as `S` says
then, or its process has ended in the same way in both, or it goes on in both for ever. -/
inductive Progress.Agree {κ α β : Type} (v : Veil) (S : α → β → Machine κ → Machine κ → Prop) :
    Progress κ α → Progress κ β → Prop
  | finished {a : α} {b : β} {m m' : Machine κ} (h : S a b m m') :
    Agree v S (.finished a m) (.finished b m')
  | ended (status : ExitStatus) {m m' : Machine κ} (h : v.Alike m m') :
    Agree v S (.ended status m) (.ended status m')
  | stuck : Agree v S .stuck .stuck

/-- The same result, and the same session in both machines. -/
abbrev Veil.Same {α : Type} (v : Veil) (p : Pid) (rest rest' : Bytes) (a b : α)
    (m m' : Machine (Task U.State)) : Prop :=
  b = a ∧ v.Abreast p rest rest' m m'

theorem Progress.Agree.bind {κ α β γ δ : Type} {v : Veil} {m m' : Machine κ} {p : Pid}
    {S : α → β → Machine κ → Machine κ → Prop} {T : γ → δ → Machine κ → Machine κ → Prop}
    {w : Work κ α} {w' : Work κ β} {f : α → Work κ γ} {g : β → Work κ δ}
    (h : Agree v S (w p m) (w' p m'))
    (hf : ∀ a b n n', w p m = .finished a n → S a b n n' → Agree v T (f a p n) (g b p n')) :
    Agree v T ((w >>= f) p m) ((w' >>= g) p m') := by
  simp only [Bind.bind]
  generalize hw : w p m = o, w' p m' = o' at h
  cases h with
  | finished hS => exact hf _ _ _ _ hw hS
  | ended status hlike => exact .ended status hlike
  | stuck => exact .stuck

theorem Progress.Agree.mono {κ α β : Type} {v : Veil} {x : Progress κ α} {y : Progress κ β}
    {S T : α → β → Machine κ → Machine κ → Prop} (h : Agree v S x y)
    (hT : ∀ a b n n', S a b n n' → T a b n n') : Agree v T x y := by
  cases h with
  | finished hS => exact .finished (hT _ _ _ _ hS)
  | ended status hlike => exact .ended status hlike
  | stuck => exact .stuck

namespace Veil.Abreast

variable {α : Type}

theorem pure (h : v.Abreast p rest rest' m m') (a : α) :
    Progress.Agree v (v.Same p rest rest') ((Pure.pure a : Work (Task U.State) α) p m)
      ((Pure.pure a : Work (Task U.State) α) p m') :=
  .finished ⟨rfl, h⟩

/-- A discreet call of the session that is not about descriptors. -/
theorem call (h : v.Abreast p rest rest' m m') {c : Call} (hc : c.isOnTable = false)
    (hdiscreet : ∀ proc, m.processes[p]? = some proc →
      v.isDiscreet m.store proc.context c = true) :
    Progress.Agree v (v.Same p rest rest') ((Calling.call c : Work (Task U.State) c.Reply) p m)
      ((Calling.call c : Work (Task U.State) c.Reply) p m') := by
  obtain ⟨proc, hp, -⟩ := h.first.attended
  obtain ⟨proc', hp', hproc⟩ := h.alike.exists_process hp
  have hdiscreet' := (h.alike.isDiscreet hproc c).trans (hdiscreet proc hp)
  simp only [Calling.call, hp, hp']
  rcases outcome_cases (h.alike.perform hproc (hdiscreet proc hp) (Pid.number p)) with
    ⟨reply, s, context, s', context', ho, ho', hs, hcontext⟩ | ⟨_, _, _, _, ho, ho', -⟩ |
    ⟨ho, ho'⟩ | ⟨signal, ho, ho'⟩ <;> rw [ho, ho']
  · obtain ⟨hgrows, hfirst⟩ := h.first.call hp hc (hdiscreet proc hp) ho
    obtain ⟨-, hsecond⟩ := h.second.call hp' hc hdiscreet' ho'
    have hfits : v.Fits s :=
      ⟨h.alike.fits.input, Nat.le_trans h.alike.fits.place hgrows.length_le, hfirst.outputs⟩
    exact .finished ⟨rfl, h.alike.setProcess hfits hs p (process_context hproc hcontext), hfirst,
      hsecond⟩
  · exact .stuck
  · exact .stuck
  · exact .ended (.signaled signal) (h.alike.finish p _)

/-- The process ends itself. -/
theorem exit (h : v.Abreast p rest rest' m m') (code : Nat)
    {S : α → α → Machine (Task U.State) → Machine (Task U.State) → Prop} :
    Progress.Agree v S ((Work.exit code : Work (Task U.State) α) p m)
      ((Work.exit code : Work (Task U.State) α) p m') :=
  .ended _ (h.alike.finish p _)

/-- What the first session does covertly does not set it apart from the other one. -/
theorem covert_first (h : v.Abreast p rest rest' m m') {w : Work (Task U.State) α}
    {Q : α → Bytes → Prop} (hw : m.Covert p v.toStreams w Q) :
    ∃ a rest₁ n, w p m = .finished a n ∧ v.Abreast p rest₁ rest' n m' ∧ Q a rest₁ := by
  obtain ⟨a, rest₁, n, hw, hprocesses, hrefusals, hunseen, hn, hQ⟩ := hw
  refine ⟨a, rest₁, n, hw, ⟨⟨hunseen.fits v rfl h.alike.fits, ?_, ?_, ?_⟩, hn, h.second⟩, hQ⟩
  · rw [hunseen.store v rfl h.alike.fits, h.alike.store]
  · rw [hprocesses, h.alike.processes]
  · rw [hrefusals, h.alike.refusals]

/-- What the second session does covertly does not set it apart from the other one. -/
theorem covert_second (h : v.Abreast p rest rest' m m') {w : Work (Task U.State) α}
    {Q : α → Bytes → Prop} (hw : m'.Covert p v.toStreams w Q) :
    ∃ a rest₁ n, w p m' = .finished a n ∧ v.Abreast p rest rest₁ m n ∧ Q a rest₁ := by
  obtain ⟨a, rest₁, n, hw, hprocesses, hrefusals, hunseen, hn, hQ⟩ := hw
  refine ⟨a, rest₁, n, hw, ⟨⟨h.alike.fits, ?_, ?_, ?_⟩, h.first, hn⟩, hQ⟩
  · rw [hunseen.store v.bare rfl h.alike.fits_bare, h.alike.store]
  · rw [hprocesses, h.alike.processes]
  · rw [hrefusals, h.alike.refusals]

/-- What the second session prints or records. -/
theorem talk_second (h : v.Abreast p rest rest' m m') {e : Editor (Task U.State)}
    {w : Interactive.Talk e Unit} {s : Interactive e}
    (hw : m'.Covert p v.toStreams (w s) fun found rest₁ => found.2 = s ∧ rest₁ = rest') :
    ∃ n', v.Abreast p rest rest' m n' ∧ w s p m' = .finished ((), s) n' := by
  obtain ⟨⟨_, _⟩, _, n', hfinished, hn, rfl, rfl⟩ := h.covert_second hw
  exact ⟨n', hn, hfinished⟩

/-- Records in the journal may differ. -/
theorem note (h : v.Abreast p rest rest' m m') (level : Level) (message message' : Bytes) :
    Progress.Agree v (v.Same p rest rest')
      ((Calling.note level message : Work (Task U.State) Unit) p m)
      ((Calling.note level message' : Work (Task U.State) Unit) p m') := by
  obtain ⟨_, _, n, hw, hn, rfl⟩ := h.covert_first (h.first.covert_note level message)
  obtain ⟨_, _, n', hw', hn', rfl⟩ := hn.covert_second (hn.second.covert_note level message')
  rw [hw, hw']
  exact .finished ⟨rfl, hn'⟩

/-- Either a process is created in both machines, or the attempt is refused in both. -/
theorem fork (h : v.Abreast p rest rest' m m') (child : Task U.State) :
    Progress.Agree v (v.Same p rest rest') (Work.fork child p m) (Work.fork child p m') := by
  obtain ⟨proc, hp, hlife⟩ := h.first.attended
  have hactive := Machine.active?_eq_some.mpr ⟨hp, hlife⟩
  obtain ⟨proc', hactive', hproc⟩ := h.alike.active? hactive
  obtain ⟨hp', -⟩ := Machine.active?_eq_some.mp hactive'
  simp only [Work.fork, hactive, hactive', h.alike.length, h.alike.refusal?]
  cases m.refusal? with
  | some e => exact .finished ⟨rfl, h.alike.attempted, h.first.attempted, h.second.attempted⟩
  | none =>
    exact .finished ⟨rfl, h.alike.attempted.spawn p hproc child _,
      h.first.attempted.spawn hp child, h.second.attempted.spawn hp' child⟩

/-- Waiting for a child, while all other processes make discreet steps. -/
theorem wait (h : v.Abreast p rest rest' m m') {policy : Machine.Policy (Task U.State)}
    (hpolicy : v.Heedless policy) {fuel : Nat} {child : Pid}
    (hsteps : ∀ x ∈ m.stepsUntil (Task.dynamics U ex) policy
      (fun m => (m.endOf? child).isSome || (m.endOf? p).isSome) fuel,
      v.steps (Task.dynamics U ex) x.1 x.2 = true) :
    Progress.Agree v (v.Same p rest rest')
      (Work.wait (Task.dynamics U ex) policy fuel child p m)
      (Work.wait (Task.dynamics U ex) policy fuel child p m') := by
  have hbeside := h.runUntil hpolicy (fun n n' hn => by simp only [hn.endOf?])
    (fun n hn => by simp only [hn, Bool.or_true]) hsteps
  simp only [Work.wait]
  generalize m.runUntil (Task.dynamics U ex) policy _ fuel = n,
    m'.runUntil (Task.dynamics U ex) policy _ fuel = n' at hbeside ⊢
  rcases hbeside with ⟨hlike, habreast | ⟨signal, hkilled⟩⟩
  · have hend : n.endOf? p = none := by
      obtain ⟨⟨parent, context, life⟩, hp, hlife⟩ := habreast.first.attended
      subst hlife
      simp [Machine.endOf?, hp]
    simp only [hlike.endOf?, hend]
    have hawait := hlike.await p child
    cases hr : n.await p child with
    | none =>
      rw [hr] at hawait
      generalize n'.await p child = r' at hawait ⊢
      cases hawait
      exact .stuck
    | some r =>
      obtain ⟨reply, o⟩ := r
      rw [hr] at hawait
      cases hr' : n'.await p child with
      | none =>
        rw [hr'] at hawait
        cases hawait
      | some r' =>
        obtain ⟨reply', o'⟩ := r'
        rw [hr'] at hawait
        cases hawait with
        | some h =>
          obtain ⟨rfl, hlike'⟩ := h
          exact .finished ⟨rfl, hlike', habreast.first.await hr, habreast.second.await hr'⟩
  · rw [hlike.endOf?, hkilled]
    exact .ended _ hlike

/-! ### Printing -/

theorem writePiece (h : v.Abreast p rest rest' m m') {fd : Fd}
    (hfd : fd = Fd.stdout ∨ fd = Fd.stderr) (fuel : Nat) (piece : Bytes) :
    Progress.Agree v (v.Same p rest rest')
      ((Console.writePiece fd fuel piece : Work (Task U.State) _) p m)
      ((Console.writePiece fd fuel piece : Work (Task U.State) _) p m') := by
  induction fuel generalizing m m' piece with
  | zero => exact h.pure _
  | succ fuel ih =>
    unfold Console.writePiece
    split
    · exact h.pure _
    · refine (h.call rfl fun proc hp => h.first.isDiscreet_write hp hfd piece).bind ?_
      rintro _ reply n n' - ⟨rfl, hn⟩
      cases Console.left piece reply with
      | error e => exact hn.pure _
      | ok piece => exact ih hn piece

theorem writePieces (h : v.Abreast p rest rest' m m') {fd : Fd}
    (hfd : fd = Fd.stdout ∨ fd = Fd.stderr) (pieces : List Bytes) :
    Progress.Agree v (v.Same p rest rest')
      ((Console.writePieces fd pieces : Work (Task U.State) _) p m)
      ((Console.writePieces fd pieces : Work (Task U.State) _) p m') := by
  induction pieces generalizing m m' with
  | nil => exact h.pure _
  | cons piece pieces ih =>
    refine (h.writePiece hfd _ piece).bind ?_
    rintro _ result n n' - ⟨rfl, hn⟩
    cases result with
    | error e => exact hn.pure _
    | ok => exact ih hn

/-- The session prints the same. -/
theorem print (h : v.Abreast p rest rest' m m') (console : Console) {fd : Fd}
    (hfd : fd = Fd.stdout ∨ fd = Fd.stderr) (text : Bytes) :
    Progress.Agree v (v.Same p rest rest') ((console.print fd text : Work (Task U.State) Unit) p m)
      ((console.print fd text : Work (Task U.State) Unit) p m') := by
  refine (h.writePieces hfd _).bind ?_
  rintro _ result n n' - ⟨rfl, hn⟩
  cases result with
  | ok => exact hn.pure _
  | error e =>
    refine (hn.writePieces (Or.inr rfl) _).bind ?_
    rintro _ _ n n' - ⟨rfl, hn⟩
    exact hn.exit _

end Veil.Abreast

/-! ## Lines -/

namespace Session

/-- The steps that are made while a line is handled. -/
def steps (r : Runner U) (line : Bytes) (p : Pid) (m : Machine (Task U.State)) :
    List (Machine (Task U.State) × Pid) :=
  match Request.ofLine line with
  | .run t =>
    match (start t : Work (Task U.State) _) p m with
    | .finished (.ok child) m =>
      m.stepsUntil (Task.dynamics U r.executor) r.policy
        (fun m => (m.endOf? child).isSome || (m.endOf? p).isSome) r.fuel
    | _ => []
  | _ => []

end Session

namespace Veil.Abreast

/-- Going to a directory does the same in both machines. -/
theorem changeDirectory (h : v.Abreast p rest rest' m m') (r : Runner U) (path : Bytes) :
    Progress.Agree v (v.Same p rest rest') (Session.changeDirectory r path p m)
      (Session.changeDirectory r path p m') := by
  refine (h.call (c := .environment) rfl fun _ _ => rfl).bind ?_
  rintro _ environment n n' - ⟨rfl, hn⟩
  refine (hn.call (c := .changeDirectory (Session.target r.expand environment path)) rfl
    fun _ _ => rfl).bind ?_
  rintro _ reply n n' - ⟨rfl, hn⟩
  cases reply with
  | ok =>
    refine (hn.note ..).bind ?_
    rintro _ _ n n' - ⟨-, hn⟩
    exact hn.pure _
  | error e =>
    refine (hn.print r.executor.console (Or.inr rfl) _).bind ?_
    rintro _ _ n n' - ⟨-, hn⟩
    exact hn.pure _

theorem reap (h : v.Abreast p rest rest' m m') {r : Runner U} (hpolicy : v.Heedless r.policy)
    {child : Pid} (hsteps : ∀ x ∈ m.stepsUntil (Task.dynamics U r.executor) r.policy
      (fun m => (m.endOf? child).isSome || (m.endOf? p).isSome) r.fuel,
      v.steps (Task.dynamics U r.executor) x.1 x.2 = true) :
    Progress.Agree v (v.Same p rest rest') (Session.reap r child p m)
      (Session.reap r child p m') := by
  have hask : Progress.Agree v (v.Same p rest rest')
      (Session.ask (Work.wait (Task.dynamics U r.executor) r.policy r.fuel child) (r.fuel + 1)
        p m)
      (Session.ask (Work.wait (Task.dynamics U r.executor) r.policy r.fuel child) (r.fuel + 1)
        p m') := by
    refine (h.wait hpolicy hsteps).bind ?_
    rintro _ reply n n' hwait ⟨rfl, hn⟩
    obtain ⟨result, hresult⟩ := Reap.verdict?_of_isOpen_eq_false (Work.isOpen_of_wait hwait)
    rw [hresult]
    exact hn.pure _
  refine hask.bind ?_
  rintro _ ⟨reply, result⟩ n n' - ⟨rfl, hn⟩
  dsimp only
  cases Reap.record? child reply with
  | none => exact hn.pure _
  | some record =>
    refine (hn.note ..).bind ?_
    rintro _ _ n n' - ⟨-, hn⟩
    exact hn.pure _

/-- A failure ends the session in both machines. -/
theorem fail (h : v.Abreast p rest rest' m m') (r : Runner U) (e : ExecError)
    {S : α → α → Machine (Task U.State) → Machine (Task U.State) → Prop} :
    Progress.Agree v S (Session.fail r e p m) (Session.fail r e p m') := by
  refine (h.note ..).bind ?_
  rintro _ _ n n' - ⟨-, hn⟩
  refine (hn.print r.executor.console (Or.inr rfl) _).bind ?_
  rintro _ _ n n' - ⟨-, hn⟩
  refine (hn.note ..).bind ?_
  rintro _ _ n n' - ⟨-, hn⟩
  exact hn.exit _

theorem conclude (h : v.Abreast p rest rest' m m') {r : Runner U} (hpolicy : v.Heedless r.policy)
    {child : Pid} (hsteps : ∀ x ∈ m.stepsUntil (Task.dynamics U r.executor) r.policy
      (fun m => (m.endOf? child).isSome || (m.endOf? p).isSome) r.fuel,
      v.steps (Task.dynamics U r.executor) x.1 x.2 = true) :
    Progress.Agree v (v.Same p rest rest') (Session.conclude r child p m)
      (Session.conclude r child p m') := by
  refine (h.reap hpolicy hsteps).bind ?_
  rintro _ result n n' - ⟨rfl, hn⟩
  cases result with
  | ok code =>
    refine (hn.note ..).bind ?_
    rintro _ _ n n' - ⟨-, hn⟩
    exact hn.pure _
  | error e =>
    refine (hn.note ..).bind ?_
    rintro _ _ n n' - ⟨-, hn⟩
    exact hn.pure _

/-- Lines that ask for the same are handled alike as long as all steps that are made meanwhile are
discreet. -/
theorem handle (h : v.Abreast p rest rest' m m') {r : Runner U} (hpolicy : v.Heedless r.policy)
    {line line' : Bytes} (hline : Request.ofLine line' = Request.ofLine line) (status : Nat)
    (hsteps : ∀ x ∈ Session.steps r line p m,
      v.steps (Task.dynamics U r.executor) x.1 x.2 = true) :
    Progress.Agree v (v.Same p rest rest') (Session.handle r line status p m)
      (Session.handle r line' status p m') := by
  unfold Session.handle
  unfold Session.steps at hsteps
  rw [hline]
  cases hrequest : Request.ofLine line with
  | leave => exact h.pure _
  | changeDirectory path =>
    refine (h.changeDirectory r path).bind ?_
    rintro _ code n n' - ⟨rfl, hn⟩
    exact hn.pure _
  | refused e =>
    refine (h.note ..).bind ?_
    rintro _ _ n n' - ⟨-, hn⟩
    refine (hn.print r.executor.console (Or.inr rfl) _).bind ?_
    rintro _ _ n n' - ⟨-, hn⟩
    exact hn.pure _
  | run t =>
    simp only [hrequest] at hsteps
    refine (h.note ..).bind ?_
    rintro _ _ n n' hnoted ⟨-, hn⟩
    refine Progress.Agree.bind (S := v.Same p rest rest') ?_ ?_
    · refine (hn.note ..).bind ?_
      rintro _ _ o o' hnoted' ⟨-, ho⟩
      refine (ho.fork _).bind ?_
      rintro _ forked o o' hforked ⟨rfl, ho⟩
      cases forked with
      | error e => exact ho.fail r _
      | ok child =>
        refine (ho.note ..).bind ?_
        rintro _ _ o o' hrecorded ⟨-, ho⟩
        have hstart : (Session.start t : Work (Task U.State) _) p m = .finished (.ok child) o :=
          Work.bind_finished.mpr ⟨_, _, hnoted, Work.bind_finished.mpr ⟨_, _, hnoted',
            Work.bind_finished.mpr ⟨_, _, hforked, Work.bind_finished.mpr ⟨_, _, hrecorded, rfl⟩⟩⟩⟩
        rw [hstart] at hsteps
        exact ho.conclude hpolicy hsteps
    · rintro _ code o o' - ⟨rfl, ho⟩
      exact ho.pure _

end Veil.Abreast

end PipeShell
