import PipeShell.Proofs.Executor.Parts
import PipeShell.Proofs.Executor.Progress

/-!
# How the processes of a line end

The answers to a process and the tree that it was started for give the code that it ends with
(`LineStart.Runs`, `LineStart.tallies`). `LineStart.accounted` is the whole account of a process,
whatever the others do and in whichever order they move: it ends with that code, or with the one of
the program that it has become; if it has made a pipe, it starts both sides, each with its own
wiring; it takes their ends as they came; and it can go on whenever it waits for nobody.

A signal that a program sends can end a process of the line as well. It has no code then, and may
have started one side only (`pipe_struck`).
-/

namespace PipeShell

set_option synthInstance.maxSize 500

variable {U : Userland} {ex : Executor} {m₀ m m' : Machine (Task U.State)}
  {h : Past (Task U.State)} {mv : Move} {p x : Pid} {proc proc' : Process (Task U.State)}
  {c c' : Control} {w : Wiring} {status : ExitStatus}

/-! ## Codes -/

/-- A program has halted in process `x` with a code. -/
def Halts (h : Past (Task U.State)) (x : Pid) (code : Nat) : Prop :=
  ∃ m proc s, (m, .step x) ∈ h ∧ m.active? x = some (proc, .program s) ∧ U.action s = .halt code

theorem Halts.move {code : Nat} (hx : Halts h x code) (r : Machine (Task U.State) × Move) :
    Halts (r :: h) x code := by
  obtain ⟨m, proc, s, hr, hactive, ha⟩ := hx
  exact ⟨m, proc, s, .tail _ hr, hactive, ha⟩

/-- The status of a process that is done with its part as it is and ends by itself. -/
def Fate.Gives (h : Past (Task U.State)) (x : Pid) (status : ExitStatus) : Fate → Prop
  | code n => status = .exited n
  | program => ∃ n, Halts h x n ∧ status = .exited (n % 256)

namespace LineStart

/-- All answers to a process that was started for a tree, and what it is done with then. -/
def Runs {σ : Type} {m₀ : Machine (Task σ)} (L : LineStart m₀) (x : Pid) (t : Command)
    (as : List Answer) (e : Fate) : Prop :=
  if x = L.root then t.Ends as e else t.Binds as e

/-- How the answers to a process and the tree that it was started for account for what has become of
it. -/
structure Tally (L : LineStart m₀) (ex : Executor) (h : Past (Task U.State))
    (m : Machine (Task U.State)) (x : Pid) (t : Command) : Prop where
  /-- What it will end with from now on is what it was to end with. -/
  executing : ∀ proc c as e, m.processes[x]? = some proc → proc.life = .active (.executing c) →
    c.Ends as e → L.Runs x t (answers ex h x ++ as) e
  program : ∀ proc s, m.processes[x]? = some proc → proc.life = .active (.program s) →
    L.Runs x t (answers ex h x) .program
  ended : ∀ status, Ended h m x status → (∃ signal, status = .signaled signal) ∨
    ∃ e : Fate, L.Runs x t (answers ex h x) e ∧ e.Gives h x status

/-- A move leaves the account of a process right. -/
theorem Tally.move {L : LineStart m₀} {t : Command} (ht : L.Tally ex h m x t)
    (hrun : Run (Task.dynamics U ex) m₀ h m)
    (hm : m.make? (Task.dynamics U ex) mv = some m') (hlt : x < m.processes.length) :
    L.Tally ex ((m, mv) :: h) m' x t := by
  have hx := List.getElem?_eq_getElem hlt
  have quiet (hlife : ∀ c, m.processes[x].life ≠ .active (.executing c)) :
      answers ex ((m, mv) :: h) x = answers ex h x :=
    answers_of_not_executing fun proc c hp => by
      obtain rfl := Option.some.inj (hx.symm.trans hp)
      exact hlife c
  refine ⟨fun proc' c' as e hx' hlife' he => ?_, fun proc' s' hx' hlife' => ?_,
    fun status hended => ?_⟩
  · by_cases hlife : ∃ c, m.processes[x].life = .active (.executing c)
    · obtain ⟨c, hlife⟩ := hlife
      cases Machine.make?_continues hm hx hlife hx' with
      | stepped hmv =>
        subst hmv
        rw [answers_step hx hlife, List.append_assoc]
        exact ht.executing _ c _ e hx hlife (Control.ends_step hm hx hlife hx' hlife' he)
      | stayed hmv hsame =>
        cases hsame.symm.trans hlife'
        rw [answers_of_ne hmv]
        exact ht.executing _ _ as e hx hlife he
      | became _ _ _ _ hother | ended _ _ hother | killed _ _ hother =>
        cases hother.symm.trans hlife'
    · exact absurd hlife' (Machine.not_executing_of_make? hm hx
        (fun c heq => hlife ⟨c, heq⟩) hx' c')
  · rcases Machine.program_of_make? hm hx hx' hlife' with ⟨c, hlife⟩ | ⟨s, hlife⟩
    · cases Machine.make?_continues hm hx hlife hx' with
      | became hmv =>
        subst hmv
        rw [answers_step hx hlife]
        exact ht.executing _ c _ _ hx hlife (Control.ends_of_program hm hx hlife hx' hlife')
      | stepped _ _ hother | stayed _ hother | ended _ _ hother | killed _ _ hother =>
        cases hother.symm.trans hlife'
    · rw [quiet fun c heq => by cases hlife.symm.trans heq]
      exact ht.program _ s hx hlife
  · -- Who had ended before is answered nothing; the others have halted or were ended by a signal.
    have before (hbefore : Ended h m x status) : (∃ signal, status = .signaled signal) ∨
        ∃ e : Fate, L.Runs x t (answers ex ((m, mv) :: h) x) e ∧
          e.Gives ((m, mv) :: h) x status := by
      rw [quiet fun c heq => by
        have hactive := (hbefore.inactive hrun).2
        rw [Machine.active?_eq_some.mpr ⟨hx, heq⟩] at hactive
        cases hactive]
      refine (ht.ended status hbefore).imp_right fun ⟨e, hruns, hgives⟩ => ⟨e, hruns, ?_⟩
      cases e with
      | code => exact hgives
      | program =>
        obtain ⟨n, hhalts, hstatus⟩ := hgives
        exact ⟨n, hhalts.move _, hstatus⟩
    rcases ended_cons.mp hended with hnow | hbefore
    · rcases Machine.ended_of_make? hm hnow with
        hsame | ⟨proc, state, hp, hlife, hsignal | ⟨n, rfl, ha, hstatus⟩⟩
      · exact before (Or.inl hsame)
      · exact Or.inl hsignal
      · right
        obtain rfl := Option.some.inj (hx.symm.trans hp)
        cases state with
        | attended => cases ha
        | executing c =>
          obtain rfl := Control.eq_exit_of_halt ha
          rw [answers_step hx hlife]
          exact ⟨.code (n % 256), ht.executing _ _ [] _ hx hlife ⟨rfl, rfl⟩, hstatus⟩
        | program s =>
          rw [quiet fun c heq => by cases hlife.symm.trans heq]
          refine ⟨.program, ht.program _ s hx hlife, n, ⟨m, _, s, .head _,
            Machine.active?_eq_some.mpr ⟨hx, hlife⟩, ?_⟩, hstatus⟩
          replace ha : (U.action s).map Task.program = (.halt n : Action (Task U.State)) := ha
          cases hs : U.action s <;> rw [hs] at ha <;> cases ha
          rfl
    · exact before hbefore

/-- What a process will end with that has its end of a pipe to bring to its place. -/
theorem binds_of_isPlacing {base : Fd → Option Descriptor} {context : Context} (hc : c.isPlacing)
    (hst : Stance base context w c) {as : List Answer} {e : Fate} (he : c.Ends as e) :
    w.part.Binds as e := by
  cases hst with
  | leave _ _ _ _ _ _ _ hpart => exact hpart ▸ he
  | bind _ _ _ _ _ hpart => exact hpart ▸ he
  | _ => cases hc

variable (L : LineStart m₀)

/-- Every process that was started for a part of the line is accounted for by the answers to it. -/
theorem tallies (hrun : Run (Task.dynamics U ex) m₀ h m) :
    ∀ x w, L.given (events U ex h) x = some w → L.Tally ex h m x w.part := by
  induction hrun with
  | start =>
    intro x w hgiven
    rcases L.forked_of_given hgiven with rfl | ⟨p, side, hf⟩
    · obtain rfl := Option.some.inj (L.given_nil_root.symm.trans hgiven)
      refine ⟨fun proc c as e hx hlife he => ?_, fun proc s hx hlife => ?_, fun status he => ?_⟩
      · obtain rfl := Option.some.inj (L.process.symm.trans hx)
        cases hlife
        rw [Runs, if_pos rfl]
        exact he
      · obtain rfl := Option.some.inj (L.process.symm.trans hx)
        cases hlife
      · have hstart : Run (Task.dynamics U ex) m₀ [] m₀ := .start
        have hactive := (he.inactive hstart).2
        rw [Machine.active?_eq_some.mpr ⟨L.process, rfl⟩] at hactive
        cases hactive
    · cases hf
  | @move h m m' hrun mv hm ih =>
    intro x w hgiven
    by_cases hlt : x < m.processes.length
    · rw [L.given_of_lt hlt] at hgiven
      exact (ih x w hgiven).move hrun hm hlt
    · obtain ⟨hnone, -, proc, c, hx, hlife, hc, hst⟩ :=
        L.newcomer hrun hm hgiven (Nat.not_lt.mp hlt)
      have hroot : x ≠ L.root := by
        rintro rfl
        exact hlt (Nat.lt_of_lt_of_le (List.getElem?_eq_some_iff.mp L.process).1 hrun.length_le)
      refine ⟨fun proc' c' as e hx' hlife' he => ?_, fun proc' s hx' hlife' => ?_,
        fun status he => ?_⟩
      · obtain rfl := Option.some.inj (hx.symm.trans hx')
        cases hlife.symm.trans hlife'
        rw [hnone, Runs, if_neg hroot]
        exact binds_of_isPlacing hc hst he
      · obtain rfl := Option.some.inj (hx.symm.trans hx')
        cases hlife.symm.trans hlife'
      · have hactive := (he.inactive (hrun.move mv hm)).2
        rw [Machine.active?_eq_some.mpr ⟨hx, hlife⟩] at hactive
        cases hactive

/-! ## The whole account -/

/-- What a process is answered before it begins its part: nothing, or that it has its end of the
pipe in its place. -/
def arrival (x : Pid) : List Answer := if x = L.root then [] else [.bound true]

end LineStart

/-- A process runs a part of a line and waits for nobody. -/
def Machine.Goes {σ : Type} (ex : Executor) (m : Machine (Task σ)) (x : Pid) : Prop :=
  ∃ proc c, m.processes[x]? = some proc ∧ proc.life = .active (.executing c) ∧
    ¬c.Waits ex m proc.context

/-- A process that has made a pipe has started both sides or can go on. -/
theorem Control.Sides.goes_or_paired {pipes : List (Descriptor × Descriptor)}
    {started : List (Side × Pid)} {ended : Pid → ExitStatus → Prop}
    (hs : c.Sides pipes started ended) (hpipes : pipes ≠ []) (context : Context) :
    ¬c.Waits ex m context ∨ ∃ left right, Paired pipes started left right := by
  cases c with
  | forkLeft | forkRight | noting => exact Or.inl id
  | closeEnds _ left right | waitLeft left right => exact Or.inr ⟨left, right, hs⟩
  | waitRight _ right =>
    obtain ⟨left, _, hpair, -⟩ := hs
    exact Or.inr ⟨left, right, hpair⟩
  | connected =>
    obtain ⟨left, right, _, _, hpair, -⟩ := hs
    exact Or.inr ⟨left, right, hpair⟩
  | exit => exact Or.inl id
  | _ => exact absurd hs.1 hpipes

namespace LineStart

/-- The account of a process that was started for a part of the line with a wiring. -/
structure Accounted (L : LineStart m₀) (ex : Executor) (h : Past (Task U.State))
    (m : Machine (Task U.State)) (x : Pid) (w : Wiring) : Prop where
  /-- It has ended with the code that the answers to it lead to, or with that of the program that
  they lead to, unless a signal has ended it. -/
  ended : ∀ status, Ended h m x status → (∃ signal, status = .signaled signal) ∨
    ∃ (as : List Answer) (e : Fate), answers ex h x = L.arrival x ++ as ∧ w.part.Ends as e ∧
      e.Gives h x status
  /-- It comes to begin its part, unless a signal ends it before. -/
  arrived : (∃ as, answers ex h x = L.arrival x ++ as) ∨ m.Goes ex x ∨
    ∃ signal, Ended h m x (.signaled signal)
  /-- It begins with what its wiring says. -/
  wired : ∀ proc t, m.processes[x]? = some proc → proc.life = .active (.executing (.run t)) →
    proc.context.opening = none → answers ex h x = L.arrival x →
    t = w.part ∧ proc.context.descriptors.get = w.table L.base
  /-- It could not report a failure because a write to standard error was refused, or took nothing,
  while it had standard error open. -/
  unreported : .reported false ∈ answers ex h x → Rebuffed h x
  /-- Once it has made a pipe, it starts both sides, each with its side of the wiring, unless a
  process cannot be created, or a signal ends it before. Nothing that becomes of the left side can
  keep it waiting. -/
  paired : ∀ pipe readEnd writeEnd, .piped x pipe readEnd writeEnd ∈ events U ex h →
    .stranded x ∉ events U ex h → (∃ left right w' leftWiring rightWiring,
      startedOf (events U ex h) x = [(.right, right), (.left, left)] ∧
      L.wiring (events U ex h) x = some w' ∧
      w'.side? .left = some leftWiring ∧ L.given (events U ex h) left = some leftWiring ∧
      w'.side? .right = some rightWiring ∧ L.given (events U ex h) right = some rightWiring) ∨
    m.Goes ex x ∨ ∃ signal, Ended h m x (.signaled signal)
  /-- The codes that it has in the end are those of its left and its right side. -/
  joined : ∀ proc leftCode rightCode, m.processes[x]? = some proc →
    proc.life = .active (.executing (.connected leftCode rightCode)) →
    ∃ left right status status',
      startedOf (events U ex h) x = [(.right, right), (.left, left)] ∧
      (∀ s, Ended h m left s ↔ s = status) ∧ leftCode = (Reap.code status).toOption ∧
      (∀ s, Ended h m right s ↔ s = status') ∧ rightCode = (Reap.code status').toOption
  /-- While it waits for nobody it can go on, and comes nearer to the end of its part. -/
  onward : m.Goes ex x → ∃ m', m.step (Task.dynamics U ex) x = some m' ∧ m'.rank x < m.rank x

variable (L : LineStart m₀)

/-- A process is done with its part, but for its report, after it has begun it. -/
theorem ends_of_runs (hrun : Run (Task.dynamics U ex) m₀ h m)
    (hw : L.given (events U ex h) x = some w) {later : List Answer} {e : Fate}
    (hruns : L.Runs x w.part (answers ex h x ++ later) e)
    (hlater : ∀ a ∈ later, ∃ succeeded, a = .reported succeeded) :
    ∃ as, answers ex h x = L.arrival x ++ as ∧ w.part.Ends (as ++ later) e := by
  unfold Runs at hruns
  unfold arrival
  split at hruns
  · next hroot =>
    rw [if_pos hroot]
    exact ⟨_, rfl, hruns⟩
  · next hroot =>
    rw [if_neg hroot]
    rcases L.begins hrun x w hw hroot with ⟨as, hbound⟩ | ⟨hnone, -⟩
    · rw [hbound] at hruns ⊢
      cases hruns with
      | bound hends => exact ⟨as, rfl, hends⟩
    · rw [hnone, List.nil_append] at hruns
      cases hruns with
      | failed | bound =>
        obtain ⟨_, heq⟩ := hlater _ (.head _)
        cases heq

theorem arrived (hrun : Run (Task.dynamics U ex) m₀ h m)
    (hw : L.given (events U ex h) x = some w) :
    (∃ as, answers ex h x = L.arrival x ++ as) ∨ m.Goes ex x ∨
      ∃ signal, Ended h m x (.signaled signal) := by
  unfold arrival
  split
  · exact Or.inl ⟨_, rfl⟩
  · next hroot =>
    rcases L.begins hrun x w hw hroot with hbound | ⟨-, ⟨proc, c, hx, hlife, hc⟩ | hsignal⟩
    · exact Or.inl hbound
    · refine Or.inr (Or.inl ⟨proc, c, hx, hlife, ?_⟩)
      cases c with
      | leave | bind => exact id
      | _ => cases hc
    · exact Or.inr (Or.inr hsignal)

/-- Who has made a pipe and was refused no process has started both sides, or can go on, or a signal
has ended it. -/
theorem paired (hrun : Run (Task.dynamics U ex) m₀ h m)
    (hw : L.given (events U ex h) x = some w) (hpipes : pipesOf (events U ex h) x ≠ [])
    (hforks : .stranded x ∉ events U ex h) :
    (∃ left right,
        Paired (pipesOf (events U ex h) x) (startedOf (events U ex h) x) left right) ∨
      m.Goes ex x ∨ ∃ signal, Ended h m x (.signaled signal) := by
  have hlt := L.lt_of_given hrun hw
  have hx := List.getElem?_eq_getElem hlt
  obtain ⟨hexecuting, hother⟩ := L.sides hrun x _ hx hforks
  by_cases hlife : ∃ c, m.processes[x].life = .active (.executing c)
  · obtain ⟨c, hlife⟩ := hlife
    rcases (hexecuting c hlife).goes_or_paired hpipes m.processes[x].context with hgoes | hpair
    · exact Or.inr (Or.inl ⟨_, c, hx, hlife, hgoes⟩)
    · exact Or.inl hpair
  · rcases hother fun c heq => hlife ⟨c, heq⟩ with (⟨hnone, -⟩ | hpair) | hsignal
    · exact absurd hnone hpipes
    · exact Or.inl hpair
    · exact Or.inr (Or.inr hsignal)

/-- Whatever the processes do and in whichever order they move, each one that was started for a part
of the line is accounted for. -/
theorem accounted (hrun : Run (Task.dynamics U ex) m₀ h m)
    (hw : L.given (events U ex h) x = some w) : L.Accounted ex h m x w where
  ended status he := by
    refine ((L.tallies hrun x w hw).ended status he).imp_right fun ⟨e, hruns, hgives⟩ => ?_
    rw [← List.append_nil (answers ex h x)] at hruns
    obtain ⟨as, has, hends⟩ := L.ends_of_runs hrun hw hruns fun _ ha => by cases ha
    rw [List.append_nil] at hends
    exact ⟨as, e, has, hends, hgives⟩
  arrived := L.arrived hrun hw
  wired proc t hx hlife hsettled has := by
    obtain ⟨-, w', hw', hst⟩ := L.stance hrun x proc _ hx hlife
    have hgiven := L.wiring_of_answers hrun x w hw fun a ha => by
      rw [has, arrival] at ha
      split at ha
      · cases ha
      · exact ⟨true, List.mem_singleton.mp ha⟩
    obtain rfl := Option.some.inj (hw'.symm.trans hgiven)
    cases hst with
    | run _ hpart _ htable => exact ⟨hpart.symm, htable⟩
    | opening _ _ _ _ _ _ hopening => cases hsettled.symm.trans hopening
  unreported := rebuffed_of_unreported
  paired pipe readEnd writeEnd hp hforks := by
    have hpipes : pipesOf (events U ex h) x ≠ [] :=
      List.ne_nil_of_mem (mem_pipesOf.mpr ⟨pipe, hp⟩)
    refine (L.paired hrun hw hpipes hforks).imp_left fun ⟨left, right, _, hstarted⟩ => ?_
    have forked {side : Side} {child : Pid} (hmem : (side, child) ∈
        [(Side.right, right), (Side.left, left)]) := L.given_of_forked hrun
      (mem_startedOf.mp (hstarted ▸ hmem))
    obtain ⟨w', leftWiring, hw', hleft, hgivenLeft⟩ := forked (.tail _ (.head _))
    obtain ⟨w'', rightWiring, hw'', hright, hgivenRight⟩ := forked (.head _)
    obtain rfl := Option.some.inj (hw'.symm.trans hw'')
    exact ⟨left, right, w', leftWiring, rightWiring, hstarted, hw', hleft, hgivenLeft, hright,
      hgivenRight⟩
  joined proc leftCode rightCode hx hlife := by
    have hforks : .stranded x ∉ events U ex h := fun hmem => by
      cases (isLeaving_of_stranded hrun hmem).2 proc _ hx hlife
    obtain ⟨left, right, status, status', hpair, hended, hcode, hended', hcode'⟩ :=
      (L.sides hrun x proc hx hforks).1 _ hlife
    exact ⟨left, right, status, status', hpair.2,
      fun s => ⟨fun he => he.unique hrun hended, fun heq => heq ▸ hended⟩, hcode,
      fun s => ⟨fun he => he.unique hrun hended', fun heq => heq ▸ hended'⟩, hcode'⟩
  onward := fun ⟨_, _, hx, hlife, hwaits⟩ =>
    Machine.rank_lt hx hlife (L.mem_childrenOf_of_dues hrun hx hlife) hwaits

/-- The left side of a pipe cannot open its file and ends with 1, after the right side was started.
-/
theorem accounted_failing_side : ∃ h m,
    Run (Task.dynamics .idle .bare) (.bare .idle .empty
      (.pipe (.redirect (.exec [[0x61]]) [0x66] .input) (.exec []))) h m ∧
    (LineStart.bare .idle FileSystem.pipesBelow_empty
      (.pipe (.redirect (.exec [[0x61]]) [0x66] .input) (.exec []))).Accounted .bare h m 1
        ⟨.redirect (.exec [[0x61]]) [0x66] .input, none, some ⟨1, false⟩, none, false⟩ ∧
    answers .bare h 1 = [.bound true, .opened [0x66] false, .reported true] ∧
    Ended h m 1 (.exited 1) ∧
    startedOf (events .idle .bare h) 0 = [(.right, 2), (.left, 1)] := by
  let t : Command := .pipe (.redirect (.exec [[0x61]]) [0x66] .input) (.exec [])
  let L := LineStart.bare .idle FileSystem.pipesBelow_empty t
  have hreached : (Run.replay (Task.dynamics .idle .bare) [] (.bare .idle .empty t)
      (List.replicate 8 (Move.step 0) ++ List.replicate 9 (Move.step 1))).map (fun r =>
        (L.given (events .idle .bare r.1) 1, answers .bare r.1 1, r.2.endOf? 1,
          startedOf (events .idle .bare r.1) 0)) =
      some (some ⟨.redirect (.exec [[0x61]]) [0x66] .input, none, some ⟨1, false⟩, none, false⟩,
        [.bound true, .opened [0x66] false, .reported true], some (.exited 1),
        [(.right, 2), (.left, 1)]) := by
    decide +kernel
  obtain ⟨⟨h, m⟩, hr, hsummary⟩ := Option.map_eq_some_iff.mp hreached
  simp only [Prod.mk.injEq] at hsummary
  obtain ⟨hgiven, hanswers, hended, hstarted⟩ := hsummary
  have hrun := Run.of_replay .start hr
  exact ⟨h, m, hrun, accounted L hrun hgiven, hanswers, Or.inl hended, hstarted⟩

end LineStart

/-! ## Signals -/

/-- Programs that send a signal to the process that goes by a number. -/
def Userland.striking (target signal : Nat) : Userland :=
  ⟨Unit, fun _ => .kill target signal fun _ => (), fun _ => ()⟩

instance (target signal : Nat) : DecidableEq (Userland.striking target signal).State :=
  inferInstanceAs (DecidableEq Unit)

/-- The program of the left side ends the process that has made the pipe. It has no code, and the
right side is never started. -/
theorem pipe_struck : ∃ h m,
    Run (Task.dynamics (.striking 100 9) .bare) (.bare (.striking 100 9)
      ⟨[.directory 0o755 0 [([0x61], 1)], .program 0o755 [0x61]]⟩
      (.pipe (.exec [[0x2F, 0x61]]) (.exec []))) h m ∧
    answers .bare h 0 = [.piped true] ∧ m.endOf? 0 = some (.signaled 9) ∧
    startedOf (events (.striking 100 9) .bare h) 0 = [(.left, 1)] := by
  have hreached : (Run.replay (Task.dynamics (.striking 100 9) .bare) [] (.bare (.striking 100 9)
      ⟨[.directory 0o755 0 [([0x61], 1)], .program 0o755 [0x61]]⟩
      (.pipe (.exec [[0x2F, 0x61]]) (.exec [])))
      (List.replicate 2 (Move.step 0) ++ List.replicate 8 (Move.step 1))).map (fun r =>
        (answers .bare r.1 0, r.2.endOf? 0, startedOf (events (.striking 100 9) .bare r.1) 0)) =
      some ([.piped true], some (.signaled 9), [(.left, 1)]) := by
    decide +kernel
  obtain ⟨⟨h, m⟩, hr, hsummary⟩ := Option.map_eq_some_iff.mp hreached
  simp only [Prod.mk.injEq] at hsummary
  exact ⟨h, m, Run.of_replay .start hr, hsummary⟩

end PipeShell
