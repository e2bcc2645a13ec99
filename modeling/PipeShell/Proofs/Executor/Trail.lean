import PipeShell.Proofs.Executor.Attempts

/-!
# The trail of attempts

The attempts of a stage follow the redirections around its program from the outermost inwards
(`LineStart.attempts_prefix`), and nothing is attempted after a failure
(`LineStart.opened_of_mem_dropLast`). Each of them puts a file in the place of what a direction had
before, so the wiring of the process follows from them (`LineStart.trail`): a direction has what was
opened last for it, which is the file of the redirection that stands first in the line
(`Wiring.standard_attempted`).
-/

namespace PipeShell

variable {U : Userland} {ex : Executor} {m₀ m m' : Machine (Task U.State)}
  {h : Past (Task U.State)} {mv : Move} {p x : Pid} {proc proc' : Process (Task U.State)}
  {c c' : Control} {w : Wiring} {a : Attempt} {as : List Attempt}

/-! ## What is bound in the end -/

namespace Command

/-- The redirections around a program, the outermost first. -/
def chain : Command → List Redirection
  | redirect t file direction => ⟨file, direction⟩ :: t.chain
  | _ => []

theorem chain_foldl_redirect (rs : List Redirection) (t : Command) :
    (rs.foldl (fun target r => .redirect target r.file r.direction) t).chain =
      rs.reverse ++ t.chain := by
  induction rs generalizing t with
  | nil => rfl
  | cons r rs ih => simp [ih, chain]

end Command

/-- The redirection that stands last in a segment is the outermost. -/
theorem Grammar.chain_tree (segment : List Token) :
    (tree segment).chain = (redirections segment).reverse :=
  (Command.chain_foldl_redirect _ _).trans (List.append_nil _)

/-- The last attempt in a direction, which is for the redirection that stands first. -/
def bound (as : List Attempt) (direction : Direction) : Option Attempt :=
  as.reverse.find? fun a => a.redirection.direction = direction

theorem bound_cons (a : Attempt) (as : List Attempt) (direction : Direction) :
    bound (a :: as) direction =
      (bound as direction).or (if a.redirection.direction = direction then some a else none) := by
  rw [bound, List.reverse_cons, List.find?_append, ← bound, List.find?_singleton]
  simp only [decide_eq_true_eq]

namespace Wiring

/-- What the part of a process has as standard input or output. -/
def standard (w : Wiring) : Direction → Option Descriptor
  | .input => w.input
  | .output => w.output

/-- The wiring after an attempt to open a file. -/
def attempted (w : Wiring) (a : Attempt) : Wiring :=
  match a.result with
  | some d => w.opens a.redirection.direction d
  | none => w

theorem standard_opens {t : Command} {file : Bytes} {direction : Direction}
    (hpart : w.part = .redirect t file direction) (d : Descriptor) (direction' : Direction) :
    (w.opens direction d).standard direction' =
      if direction' = direction then some d else w.standard direction' := by
  cases direction <;> cases direction' <;> simp [opens, hpart, standard]

theorem argv_opens (w : Wiring) (direction : Direction) (d : Descriptor) :
    (w.opens direction d).part.argv = w.part.argv ∧
      (w.opens direction d).part.isStage = w.part.isStage := by
  unfold opens
  split
  · next hpart => simp [hpart, Command.argv, Command.isStage]
  · next hpart => simp [hpart, Command.argv, Command.isStage]
  · exact ⟨rfl, rfl⟩

/-- Opening files changes neither the words of the program nor that there is no pipe. -/
theorem argv_attempted (w : Wiring) (as : List Attempt) :
    (as.foldl attempted w).part.argv = w.part.argv ∧
      (as.foldl attempted w).part.isStage = w.part.isStage := by
  induction as generalizing w with
  | nil => exact ⟨rfl, rfl⟩
  | cons a as ih =>
    have hfirst : (w.attempted a).part.argv = w.part.argv ∧
        (w.attempted a).part.isStage = w.part.isStage := by
      unfold attempted
      split
      · exact w.argv_opens _ _
      · exact ⟨rfl, rfl⟩
    obtain ⟨hargv, hstage⟩ := ih (w.attempted a)
    exact ⟨hargv.trans hfirst.1, hstage.trans hfirst.2⟩

/-- Once the outermost redirections have been opened, the others are left, and each direction has
what was opened last for it. -/
theorem standard_attempted {rest : List Redirection} (hok : ∀ a ∈ as, a.result.isSome)
    (hchain : w.part.chain = as.map (·.redirection) ++ rest) :
    (as.foldl attempted w).part.chain = rest ∧ ∀ direction,
      (as.foldl attempted w).standard direction =
        (bound as direction).elim (w.standard direction) (·.result) := by
  induction as generalizing w with
  | nil => exact ⟨hchain, fun _ => rfl⟩
  | cons a as ih =>
    rw [List.forall_mem_cons] at hok
    obtain ⟨d, hd⟩ := Option.isSome_iff_exists.mp hok.1
    obtain ⟨t, hpart, ht⟩ : ∃ t, w.part = .redirect t a.redirection.file a.redirection.direction ∧
        t.chain = as.map (·.redirection) ++ rest := by
      cases hpart : w.part with
      | redirect t file direction =>
        rw [hpart, Command.chain, List.map_cons, List.cons_append, List.cons.injEq] at hchain
        obtain ⟨hfirst, ht⟩ := hchain
        exact ⟨t, by rw [← hfirst], ht⟩
      | exec | pipe =>
        rw [hpart] at hchain
        cases hchain
    have hattempted : w.attempted a = w.opens a.redirection.direction d := by
      rw [attempted, hd]
    obtain ⟨hrest, hstandard⟩ := ih hok.2 (w := w.attempted a) (by
      rw [hattempted, part_opens hpart, ht])
    refine ⟨hrest, fun direction => (hstandard direction).trans ?_⟩
    rw [bound_cons, hattempted, standard_opens hpart]
    cases bound as direction with
    | some a' => rfl
    | none =>
      simp only [Option.none_or, Option.elim_none]
      by_cases hdirection : a.redirection.direction = direction
      · rw [if_pos hdirection, if_pos hdirection.symm, Option.elim_some, hd]
      · rw [if_neg hdirection, if_neg (Ne.symm hdirection), Option.elim_none]

end Wiring

/-! ## The wiring after attempts -/

namespace LineStart

variable (L : LineStart m₀)

/-- How the wiring of a process that runs its part follows from its attempts. A file whose partner
it waits for is not bound yet. -/
structure Trail (ex : Executor) (h : Past (Task U.State)) (x : Pid) (w : Wiring) (context : Context)
    (c : Control) : Prop where
  settled : context.opening = none → L.wiring (events U ex h) x =
    some ((attempts ex h x).foldl Wiring.attempted w)
  waiting : ∀ o, context.opening = some o → ∃ as a t d, attempts ex h x = as ++ [a] ∧
    a.result = some d ∧ context.descriptors.get o.fd = some d ∧
    c = .run (.redirect t a.redirection.file a.redirection.direction) ∧
    L.wiring (events U ex h) x = some (as.foldl Wiring.attempted w)

variable {L}

/-- Opening the file of a redirection. -/
theorem Trail.redirected {t : Command} {file : Bytes} {direction : Direction} {store : Store}
    (ht : L.Trail ex h x w proc.context (.run (.redirect t file direction)))
    (hx : m.processes[x]? = some proc)
    (hlife : proc.life = .active (.executing (.run (.redirect t file direction))))
    (hacts : Machine.Acts (Task.dynamics U ex) m x proc
      ((Task.dynamics U ex).action (.executing (.run (.redirect t file direction)))) proc' store)
    (hlife' : proc'.life = .active (.executing c')) :
    L.Trail ex ((m, .step x) :: h) x w proc'.context c' := by
  have hwiring : L.wiring (events U ex ((m, .step x) :: h)) x = _ := wiring_step L hx hlife
  have hattempts : attempts ex ((m, .step x) :: h) x = _ := attempts_step hx hlife
  simp only [Control.event?, Control.attempt?] at hwiring hattempts
  cases redirects_of_acts hacts hlife' with
  | failed e hopening _ hopen =>
    rw [hopen] at hwiring
    simp only [hopen, hopening] at hattempts
    refine ⟨fun _ => ?_, fun o ho => ?_⟩
    · rw [hwiring, ht.settled hopening, hattempts]
      simp [Wiring.attempted]
    · cases hopening.symm.trans ho
  | opened hopening _ hopen =>
    simp only [hopen, Store.taking, DescriptorTable.get_set, if_pos] at hwiring
    simp only [hopen, hopening, Store.taking, DescriptorTable.get_set, if_pos] at hattempts
    refine ⟨fun _ => ?_, fun o ho => ?_⟩
    · rw [hwiring, ht.settled hopening, hattempts]
      simp [Wiring.attempted, Event.advance]
    · cases hopening.symm.trans ho
  | waiting o hopening _ hfd hopen =>
    simp only [hopen] at hwiring
    simp only [hopen, hopening, Store.taking, DescriptorTable.get_set, if_pos] at hattempts
    cases hlife.symm.trans hlife'
    refine ⟨fun ho => (by cases ho), fun o' ho => ?_⟩
    cases ho
    refine ⟨attempts ex h x, _, t, _, hattempts, rfl, ?_, rfl, ?_⟩
    · simp [hfd, Store.taking, DescriptorTable.get_set]
    · rw [hwiring, ht.settled hopening]
      rfl
  | joined o hopening _ hopen =>
    obtain ⟨as, a, t', d, has, hresult, hd, hc, hold⟩ := ht.waiting o hopening
    obtain ⟨⟨file', direction'⟩, before, context, result, after⟩ := a
    cases hc
    simp only [hopen, hd] at hwiring
    simp only [hopening, Option.isSome_some, if_true, Option.toList_none,
      List.append_nil] at hattempts
    refine ⟨fun _ => ?_, fun o ho => (by cases ho)⟩
    obtain rfl : result = some d := hresult
    rw [hwiring, hold, hattempts, has, List.foldl_append]
    simp [Wiring.attempted, Event.advance]

/-- Whatever else the process does. -/
theorem Trail.other {store : Store} (ht : L.Trail ex h x w proc.context c)
    (hc : ∀ t file direction, c ≠ .run (.redirect t file direction))
    (hquiet : c.event? ex m x proc.context = none) (hx : m.processes[x]? = some proc)
    (hlife : proc.life = .active (.executing c))
    (hacts : Machine.Acts (Task.dynamics U ex) m x proc
      ((Task.dynamics U ex).action (.executing c)) proc' store) :
    L.Trail ex ((m, .step x) :: h) x w proc'.context c' := by
  have hnone : proc.context.opening = none := by
    cases hopening : proc.context.opening with
    | none => rfl
    | some o =>
      obtain ⟨_, _, _, _, -, -, -, heq, -⟩ := ht.waiting o hopening
      exact absurd heq (hc _ _ _)
  have hopening := hacts.opening_eq (action_ne_openFile hc)
  have hattempts : attempts ex ((m, .step x) :: h) x = attempts ex h x := by
    rw [attempts_step hx hlife]
    cases ha : c.attempt? ex m proc.context with
    | none => exact List.append_nil _
    | some a =>
      obtain ⟨-, t, file, direction, heq, -⟩ := Control.attempts_of_attempt? ha
      exact absurd heq (hc t file direction)
  refine ⟨fun _ => ?_, fun o ho => ?_⟩
  · rw [wiring_step L hx hlife, ht.settled hnone, hattempts, hquiet]
    rfl
  · rw [hopening, hnone] at ho
    cases ho

variable (L)

/-- While the process of a stage runs its part, its wiring follows from its attempts. -/
theorem trail (hrun : Run (Task.dynamics U ex) m₀ h m) :
    ∀ x w proc c, L.given (events U ex h) x = some w → w.part.isStage →
      m.processes[x]? = some proc → proc.life = .active (.executing c) →
      L.Trail ex h x w proc.context c := by
  induction hrun with
  | start =>
    intro x w proc c hw hstage hx hlife
    obtain rfl := L.alone x proc c hx hlife
    obtain rfl := Option.some.inj (L.process.symm.trans hx)
    refine ⟨fun _ => ?_, fun o ho => ?_⟩
    · exact L.wiring_nil_root.trans (L.given_nil_root.symm.trans hw)
    · cases L.settled.symm.trans ho
  | @move h m m' hrun mv hm ih =>
    intro x w proc' c' hw hstage hx' hlife'
    by_cases hlt : x < m.processes.length
    · rw [L.given_of_lt hlt] at hw
      have stayed {proc : Process (Task U.State)} {context : Context} (hmv : mv ≠ .step x)
          (ht : L.Trail ex h x w proc.context c')
          (hopening : context.opening = proc.context.opening)
          (hdescriptors : context.descriptors = proc.context.descriptors) :
          L.Trail ex ((m, mv) :: h) x w context c' := by
        refine ⟨fun ho => ?_, fun o ho => ?_⟩
        · rw [wiring_of_ne L hmv hlt, attempts_of_ne hmv]
          exact ht.settled (hopening ▸ ho)
        · rw [wiring_of_ne L hmv hlt, attempts_of_ne hmv, hdescriptors]
          exact ht.waiting o (hopening ▸ ho)
      cases Machine.make?_proceeds hm hx' hlife' with
      | @acted proc _ c _ hmv hx hlife hacts =>
        subst hmv
        have ht := ih x w proc c hw hstage hx hlife
        by_cases hc : ∃ t file direction, c = .run (.redirect t file direction)
        · obtain ⟨t, file, direction, rfl⟩ := hc
          exact ht.redirected hx hlife hacts hlife'
        · refine ht.other (fun t file direction heq => hc ⟨t, file, direction, heq⟩) ?_ hx hlife
            hacts
          -- The part of a stage has no pipe in it.
          obtain ⟨-, w', hw', hst⟩ := L.stance hrun x proc _ hx hlife
          have unpiped {left right : Command} (hpart : w'.part = .pipe left right)
              (hsettled : proc.context.opening = none) : False := by
            cases (ht.settled hsettled).symm.trans hw'
            have hsame := (w.argv_attempted (attempts ex h x)).2
            rw [hpart, hstage] at hsame
            cases hsame
          refine Option.eq_none_iff_forall_ne_some.mpr fun e he => ?_
          cases Control.makes_of_event? he with
          | opened => exact hc ⟨_, _, _, rfl⟩
          | piped =>
            cases hst with
            | run _ hpart hsettled => exact unpiped hpart hsettled
          | left | noLeft =>
            cases hst with
            | forkLeft h => exact unpiped h.part h.settled
          | right | noRight =>
            cases hst with
            | forkRight _ h => exact unpiped h.part h.settled
      | kept hmv hx hlife => exact stayed hmv (ih x w _ _ hw hstage hx hlife) rfl rfl
      | told hmv hx hlife => exact stayed hmv (ih x w _ _ hw hstage hx hlife) rfl rfl
      | left _ _ _ hlength | right _ _ _ hlength => exact absurd hlength (Nat.ne_of_lt hlt)
    · obtain ⟨-, hwiring, proc, c, hx, hlife, hc, hst⟩ :=
        L.newcomer hrun hm hw (Nat.not_lt.mp hlt)
      obtain rfl := Option.some.inj (hx.symm.trans hx')
      cases hlife.symm.trans hlife'
      have hsettled : proc.context.opening = none := by
        cases hst with
        | leave _ _ _ _ _ _ _ _ hsettled => exact hsettled
        | bind _ _ _ _ _ _ hsettled => exact hsettled
        | _ => cases hc
      refine ⟨fun _ => ?_, fun o ho => ?_⟩
      · rw [hwiring, attempts_cons_of_le hrun (Nat.not_lt.mp hlt) mv]
        rfl
      · cases hsettled.symm.trans ho

end LineStart

/-! ## The order of attempts -/

/-- What cannot be opened ends a stage: it is answered nothing more but the report of the failure,
and has not tried to become its program before. -/
theorem Command.Ends.of_failed {t : Command} {answered rest : List Answer} {file : Bytes} {e : Fate}
    (he : t.Ends (answered ++ .opened file false :: rest) e) :
    Reports rest e ∧ answered.filterMap Answer.launched? = [] := by
  generalize hall : answered ++ .opened file false :: rest = all at he
  have unreported {answers : List Answer} {e : Fate} (hr : Reports answers e) :
      .opened file false ∉ answers := fun hmem => by
    obtain ⟨_, heq⟩ := hr.mem hmem
    cases heq
  have hmem : .opened file false ∈ all := hall ▸ List.mem_append_right _ (.head _)
  induction he generalizing answered with
  | nothing => cases hmem
  | unpassable _ _ h => exact absurd hmem (unreported h)
  | openFailed _ _ _ h =>
    cases answered with
    | nil =>
      cases hall
      exact ⟨h, rfl⟩
    | cons a answered =>
      obtain ⟨-, hall⟩ := List.cons.inj hall
      exact absurd (hall ▸ List.mem_append_right _ (.head _)) (unreported h)
  | refused _ _ h | bindFailed _ _ _ h | pipeFailed _ _ h | stranded _ _ h =>
    simp [unreported h] at hmem
  | launched | piped => simp at hmem
  | redirected file' direction _ ih =>
    cases answered with
    | nil => cases hall
    | cons a answered =>
      cases answered with
      | nil => simp at hall
      | cons b answered =>
        simp only [List.cons_append, List.cons.injEq] at hall
        obtain ⟨rfl, rfl, hall⟩ := hall
        obtain ⟨hreports, hlaunched⟩ := ih hall (hall ▸ List.mem_append_right _ (.head _))
        exact ⟨hreports, hlaunched⟩

namespace LineStart

variable {L : LineStart m₀} {t : Command} {answered rest : List Answer} {file : Bytes} {e : Fate}

theorem Runs.of_failed (hr : L.Runs x t (answered ++ .opened file false :: rest) e) :
    Reports rest e ∧ answered.filterMap Answer.launched? = [] := by
  unfold Runs at hr
  split at hr
  · exact hr.of_failed
  · generalize hall : answered ++ .opened file false :: rest = all at hr
    cases answered with
    | nil =>
      subst hall
      cases hr
    | cons a answered =>
      subst hall
      cases hr with
      | failed h =>
        obtain ⟨_, heq⟩ := h.mem (List.mem_append_right _ (.head _))
        cases heq
      | bound he => exact he.of_failed

variable (L)

/-- A process that has failed to open a file runs no redirection and no program any more. -/
theorem opened_of_ends (hrun : Run (Task.dynamics U ex) m₀ h m)
    (hw : L.given (events U ex h) x = some w) (hx : m.processes[x]? = some proc)
    (hlife : proc.life = .active (.executing c)) {next : Answer} {later : List Answer} {e : Fate}
    (he : c.Ends (next :: later) e) (hnext : ∀ succeeded, next ≠ .reported succeeded) :
    ∀ a ∈ attempts ex h x, a.result.isSome := by
  intro a ha
  by_contra hfailed
  have hanswered := answered_of_failed ha (Option.not_isSome_iff_eq_none.mp hfailed)
  obtain ⟨before, after, hsplit⟩ := List.append_of_mem hanswered
  have hr := (L.tallies hrun x w hw).executing proc c _ e hx hlife he
  rw [hsplit, List.append_assoc, List.cons_append] at hr
  obtain ⟨succeeded, heq⟩ := hr.of_failed.1.mem (List.mem_append_right _ (.head _))
  exact hnext succeeded heq

/-- The attempts are made from the outermost redirection on. -/
theorem attempts_prefix (hrun : Run (Task.dynamics U ex) m₀ h m)
    (hw : L.given (events U ex h) x = some w) (hstage : w.part.isStage) :
    (attempts ex h x).map (·.redirection) <+: w.part.chain := by
  induction hrun with
  | start => exact List.nil_prefix
  | @move h m m' hrun mv hm ih =>
    by_cases hlt : x < m.processes.length
    · rw [L.given_of_lt hlt] at hw
      rw [attempts, List.map_append]
      cases ha : m.attempt? ex mv x with
      | none => simpa using ih hw
      | some a =>
        obtain ⟨proc, c, rfl, hx, hlife, ha⟩ := attempt?_eq_some ha
        obtain ⟨hopening, t, file, direction, rfl, hattempts⟩ := Control.attempts_of_attempt? ha
        have hfirst : a.redirection = ⟨file, direction⟩ := by cases hattempts <;> rfl
        obtain ⟨rest, hrest⟩ := ih hw
        have hok := L.opened_of_ends hrun hw hx hlife
          (.openFailed t file direction .written) fun succeeded heq => by cases heq
        have hleft := (Wiring.standard_attempted hok hrest.symm).1
        obtain ⟨-, w', hw', hst⟩ := L.stance hrun x proc _ hx hlife
        cases ((L.trail hrun x w proc _ hw hstage hx hlife).settled hopening).symm.trans hw'
        have hpart : ((attempts ex h x).foldl Wiring.attempted w).part =
            .redirect t file direction := by
          cases hst with
          | run _ hpart => exact hpart
          | opening _ _ _ _ _ hpart => exact hpart
        refine ⟨t.chain, ?_⟩
        rw [hpart, Command.chain] at hleft
        rw [← hrest, ← hleft, Option.toList_some, List.map_singleton, hfirst, List.append_assoc,
          List.singleton_append]
    · rw [attempts_cons_of_le hrun (Nat.not_lt.mp hlt)]
      exact List.nil_prefix

/-- Nothing is attempted after a failure. -/
theorem opened_of_mem_dropLast (hrun : Run (Task.dynamics U ex) m₀ h m)
    (hw : L.given (events U ex h) x = some w) :
    ∀ a ∈ (attempts ex h x).dropLast, a.result.isSome := by
  induction hrun with
  | start => exact fun _ ha => by cases ha
  | @move h m m' hrun mv hm ih =>
    by_cases hlt : x < m.processes.length
    · rw [L.given_of_lt hlt] at hw
      rw [attempts]
      cases ha : m.attempt? ex mv x with
      | none => simpa using ih hw
      | some a =>
        obtain ⟨proc, c, rfl, hx, hlife, ha⟩ := attempt?_eq_some ha
        obtain ⟨-, t, file, direction, rfl, -⟩ := Control.attempts_of_attempt? ha
        rw [Option.toList_some, List.dropLast_concat]
        exact L.opened_of_ends hrun hw hx hlife
          (.openFailed t file direction .written) fun succeeded heq => by cases heq
    · rw [attempts_cons_of_le hrun (Nat.not_lt.mp hlt)]
      exact fun _ ha => by cases ha

end LineStart

end PipeShell
