import PipeShell.Proofs.Executor.Stages
import PipeShell.Proofs.Executor.Trail

/-!
# Several redirections

A stage with any redirections opens their files from the last to the first, up to the first that it
cannot open. Those before are open then, and emptied or made if they are for writing; those after
are left alone. The process ends with code 1, or with that of a report that cannot be written.
Otherwise its program is started, with the first file
of each direction as standard input and output. `LineStart.Redirected` says this of one process at
any moment, `LineStart.redirections_in_order` of every stage of every line.

To bring a file to its place may fail where opening it did not, in a process that may have a single
descriptor (`LineStart.redirection_unplaced`).
-/

namespace PipeShell

set_option synthInstance.maxSize 500

variable {U : Userland} {ex : Executor} {m₀ m m' : Machine (Task U.State)}
  {h : Past (Task U.State)} {x : Pid} {proc : Process (Task U.State)} {c : Control} {w : Wiring}
  {a : Attempt}

/-! ## Where a stage comes to -/

namespace Machine

variable {σ : Type}

/-- A process waits at a named pipe for somebody to open its other end. -/
def Meets (ex : Executor) (m : Machine (Task σ)) (x : Pid) : Prop :=
  ∃ proc t file direction, m.processes[x]? = some proc ∧
    proc.life = .active (.executing (.run (.redirect t file direction))) ∧
    m.store.openFile proc.context m.held file direction.flags ex.redirectMode = .blocked

/-- A process waits for room to report a failure. -/
def Reports (ex : Executor) (m : Machine (Task σ)) (x : Pid) : Prop :=
  ∃ proc c, m.processes[x]? = some proc ∧ proc.life = .active (.executing c) ∧ c.isReporting ∧
    c.Waits ex m proc.context

/-- A process has a step that leads it nearer to the end of its part. -/
def Advances {U : Userland} (ex : Executor) (m : Machine (Task U.State)) (x : Pid) : Prop :=
  ∃ m', m.step (Task.dynamics U ex) x = some m' ∧ m'.rank x < m.rank x

end Machine

namespace LineStart

variable (L : LineStart m₀)

/-- The process of a stage can go on, or waits at a named pipe or for room to report a failure, or
has become a program or ended. -/
theorem stage_cases (hrun : Run (Task.dynamics U ex) m₀ h m)
    (hw : L.given (events U ex h) x = some w) (hstage : w.part.isStage) :
    m.Advances ex x ∨ m.Meets ex x ∨ m.Reports ex x ∨
      (∃ proc s, m.processes[x]? = some proc ∧ proc.life = .active (.program s)) ∨
      ∃ status, Ended h m x status := by
  rcases L.life_of_given hrun hw with ⟨proc, c, hx, hlife⟩ | hprogram | hended
  · by_cases hwaits : c.Waits ex m proc.context
    · have hs := (L.sides hrun x proc hx (L.not_stranded_of_isStage hrun hw hstage)).1 c hlife
      have unpaired {l r : Pid} (hpair : Paired (pipesOf (events U ex h) x)
          (startedOf (events U ex h) x) l r) : False := by
        have hone := hpair.1
        rw [L.pipesOf_of_isStage hrun hw hstage] at hone
        cases hone
      cases c with
      | run t =>
        cases t with
        | redirect t file direction =>
          exact Or.inr (Or.inl ⟨proc, t, file, direction, hx, hlife, hwaits⟩)
        | exec | pipe => exact hwaits.elim
      | printing | alarm => exact Or.inr (Or.inr (Or.inl ⟨proc, _, hx, hlife, rfl, hwaits⟩))
      | waitLeft => exact (unpaired hs).elim
      | waitRight =>
        obtain ⟨_, _, hpair, -⟩ := hs
        exact (unpaired hpair).elim
      | _ => exact hwaits.elim
    · exact Or.inl (Machine.rank_lt hx hlife (L.mem_childrenOf_of_dues hrun hx hlife) hwaits)
  · exact Or.inr (Or.inr (Or.inr (Or.inl hprogram)))
  · exact Or.inr (Or.inr (Or.inr (Or.inr hended)))

end LineStart

/-! ## Success -/

/-- A stage that nothing was in the way of succeeds if it has no words, and tries to become its
program if they can be handed over. -/
theorem Command.Ends.of_success {t : Command} {as : List Answer} {e : Fate} (he : t.Ends as e)
    (ht : t.isStage) (hopened : ∀ file, .opened file false ∉ as) (hbound : .bound false ∉ as) :
    (t.argv = [] → e = .code 0) ∧
      (t.argv ≠ [] → Control.isPassable t.argv → as.filterMap Answer.launched? = [t.argv]) := by
  induction he with
  | nothing => exact ⟨fun _ => rfl, fun hne => absurd rfl hne⟩
  | unpassable hne hargv =>
    refine ⟨fun hnone => absurd hnone hne, fun _ hpass => ?_⟩
    cases hargv.symm.trans hpass
  | @refused argv hne _ _ _ h =>
    exact ⟨fun hnone => absurd hnone hne, fun _ _ => congrArg (argv :: ·) h.unrelated.launches⟩
  | launched hne => exact ⟨fun hnone => absurd hnone hne, fun _ _ => rfl⟩
  | openFailed _ file => exact absurd (.head _) (hopened file)
  | bindFailed => exact absurd (.tail _ (.head _)) hbound
  | redirected _ _ _ ih =>
    exact ih ht (fun file hf => hopened file (.tail _ (.tail _ hf)))
      fun hb => hbound (.tail _ (.tail _ hb))
  | pipeFailed | stranded | piped => cases ht

/-- A descriptor comes to its place unless the process may have one descriptor at most. -/
theorem Control.bound_notMem_answers {base : Fd → Option Descriptor} {context : Context}
    (hst : Stance base context w c) (hlimit : 1 < context.limit) (ex : Executor)
    (m : Machine (Task U.State)) : .bound false ∉ c.answers ex m context := by
  have placed (fd target : Fd) : .bound false ∉ Control.placed fd target := by
    unfold Control.placed
    split <;> simp
  cases hst with
  | run t =>
    cases t with
    | exec => exact List.not_mem_nil
    | redirect t file direction =>
      simp only [answers]
      split
      · simpa using placed _ _
      · simp
      · exact List.not_mem_nil
    | pipe =>
      simp only [answers]
      split
      · simp
      · exact List.not_mem_nil
  | opening t file direction =>
    simp only [answers]
    split
    · simpa using placed _ _
    · simp
    · exact List.not_mem_nil
  | bind fd target t d old hpart hsettled htarget hne hfree hd hkept htable =>
    have hget : context.descriptors.get fd = some d := by rw [htable, Function.update_self]
    have hduplicate : m.store.duplicate context fd target = .done (.ok ()) m.store
        { context with descriptors :=
          context.descriptors.set target (some { d with closeOnExec := false }) } := by
      simp only [Store.duplicate, hget]
      rw [if_neg (Nat.not_le_of_lt (Nat.lt_of_le_of_lt htarget hlimit)), if_neg hne]
    simp only [answers, hduplicate]
    simp [Except.isOk, Except.toBool]
  | leave => exact placed _ _
  | launch => simp [answers]
  | forkLeft | forkRight =>
    simp only [answers]
    split <;> simp
  | printing pieces =>
    rcases pieces with _ | ⟨_ | _, _⟩
    · simp [answers]
    · exact List.not_mem_nil
    · simp only [answers]
      split
      · split <;> simp
      · exact List.not_mem_nil
  | _ => exact List.not_mem_nil

namespace LineStart

variable (L : LineStart m₀)

theorem bound_notMem_answers (hrun : Run (Task.dynamics U ex) m₀ h m)
    (hlimit : 1 < L.context.limit) (x : Pid) : .bound false ∉ answers ex h x := by
  induction hrun with
  | start => exact List.not_mem_nil
  | @move h m m' hrun mv hm ih =>
    by_cases hx : mv = .step x ∧ ∃ proc c, m.processes[x]? = some proc ∧
        proc.life = .active (.executing c)
    · obtain ⟨rfl, proc, c, hx, hlife⟩ := hx
      obtain ⟨hsame, w, -, hst⟩ := L.stance hrun x proc c hx hlife
      rw [answers_step hx hlife, List.mem_append]
      exact not_or.mpr ⟨ih, Control.bound_notMem_answers hst (hsame ▸ hlimit) ex m⟩
    · rw [answers_of_idle hx]
      exact ih

/-- A stage has come to an end that its tree allows, by itself, but for its report. -/
theorem ends_of_stage (hrun : Run (Task.dynamics U ex) m₀ h m)
    (hw : L.given (events U ex h) x = some w) {later : List Answer} {e : Fate}
    (hr : L.Runs x w.part (answers ex h x ++ later) e)
    (hlater : ∀ a ∈ later, ∃ succeeded, a = .reported succeeded) (hstage : w.part.isStage)
    (hopened : ∀ a ∈ attempts ex h x, a.result.isSome) (hlimit : 1 < L.context.limit) :
    (w.part.argv = [] → e = .code 0) ∧ (w.part.argv ≠ [] → Control.isPassable w.part.argv →
      launches ex h x = [w.part.argv]) := by
  obtain ⟨as, has, hends⟩ := L.ends_of_runs hrun hw hr hlater
  have hmem {answer : Answer} (ha : answer ∈ as) : answer ∈ answers ex h x :=
    has ▸ List.mem_append_right _ ha
  have hn := unrelated_of_reported hlater
  obtain ⟨hnothing, hlaunched⟩ := hends.of_success hstage
    (fun file hf => by
      obtain ⟨a, ha, hfailed⟩ := failed_of_answered
        (hmem ((List.mem_append.mp hf).resolve_right (hn.unopened file false)))
      have hsome := hopened a ha
      rw [hfailed] at hsome
      cases hsome)
    fun hb => L.bound_notMem_answers hrun hlimit x
      (hmem ((List.mem_append.mp hb).resolve_right (hn.unbound false)))
  refine ⟨hnothing, fun hne hpass => ?_⟩
  have hlaunches := hlaunched hne hpass
  rw [List.filterMap_append, hn.launches, List.append_nil] at hlaunches
  rw [launches, has, List.filterMap_append, hlaunches, arrival]
  split <;> rfl

/-- What a process that reports a failure may still be answered, and that it will not succeed. -/
theorem Tally.of_isReporting {L : LineStart m₀} {t : Command} (ht : L.Tally ex h m x t)
    (hx : m.processes[x]? = some proc) (hlife : proc.life = .active (.executing c))
    (hc : c.isReporting) : ∃ later e, L.Runs x t (answers ex h x ++ later) e ∧
      (∀ a ∈ later, ∃ succeeded, a = .reported succeeded) ∧ e ≠ .code 0 := by
  cases c with
  | printing pieces =>
    exact ⟨_, _, ht.executing proc _ _ _ hx hlife .written, fun _ ha => Reports.written.mem ha,
      by decide⟩
  | alarm pieces =>
    exact ⟨[], _, ht.executing proc _ _ _ hx hlife ⟨rfl, rfl⟩, fun _ ha => (by cases ha), by decide⟩
  | _ => cases hc

include L in
/-- What has been opened is never turned into something else. -/
theorem attempts_grows (hrun : Run (Task.dynamics U ex) m₀ h m) :
    ∀ a ∈ attempts ex h x, a.after.Grows m.store := by
  induction hrun with
  | start => exact fun _ ha => by cases ha
  | @move h m m' hrun mv hm ih =>
    have hgrows := ((hrun.sound L.sound).grows hm).1
    intro a ha
    rcases List.mem_append.mp ha with ha | ha
    · exact (ih a ha).trans hgrows
    · obtain ⟨proc, c, rfl, hx, hlife, ha⟩ := attempt?_eq_some (Option.mem_toList.mp ha)
      rw [← Control.store_of_attempt? hm hx hlife ha]
      exact .refl _

theorem effect_of_mem (ha : a ∈ attempts ex h x) : a.Effect ex := by
  obtain ⟨r, -, ha⟩ := mem_attempts.mp ha
  obtain ⟨proc, c, -, -, -, ha⟩ := attempt?_eq_some ha
  obtain ⟨-, _, _, _, -, hattempts⟩ := Control.attempts_of_attempt? ha
  exact hattempts.effect

/-- After a failure a process has only to report it, and starts no program. -/
theorem Runs.after_failure {L : LineStart m₀} {t : Command} {later : List Answer} {e : Fate}
    (hr : L.Runs x t (answers ex h x ++ later) e) (ha : a ∈ attempts ex h x)
    (hfailed : a.result = none) :
    (∃ after, (∀ answer ∈ after, answer ∈ answers ex h x) ∧ Reports (after ++ later) e) ∧
      launches ex h x = [] := by
  obtain ⟨before, after, hsplit⟩ := List.append_of_mem (answered_of_failed ha hfailed)
  rw [hsplit, List.append_assoc, List.cons_append] at hr
  obtain ⟨hreports, hlaunched⟩ := hr.of_failed
  have hafter : (Answer.opened a.redirection.file false :: after).filterMap Answer.launched? = [] :=
    List.filterMap_eq_nil_iff.mpr fun answer hmem => by
      rcases List.mem_cons.mp hmem with rfl | hmem
      · rfl
      · obtain ⟨_, rfl⟩ := hreports.mem (List.mem_append_left _ hmem)
        rfl
  refine ⟨⟨after, fun answer hmem => ?_, hreports⟩, ?_⟩
  · rw [hsplit]
    exact List.mem_append_right _ (.tail _ hmem)
  · rw [launches, hsplit, List.filterMap_append, hlaunched, hafter]
    rfl

/-- When a program is started, every redirection was followed. -/
theorem at_launch (hrun : Run (Task.dynamics U ex) m₀ h m)
    (hw : L.given (events U ex h) x = some w) (hstage : w.part.isStage) {argv : List Bytes}
    (hx : m.processes[x]? = some proc)
    (hlife : proc.life = .active (.executing (.launch argv))) :
    (∀ a ∈ attempts ex h x, a.result.isSome) ∧
      (attempts ex h x).map (·.redirection) = w.part.chain ∧
      ((attempts ex h x).foldl Wiring.attempted w).part = .exec argv ∧
      proc.context.descriptors.get =
        ((attempts ex h x).foldl Wiring.attempted w).table L.base := by
  have ht := L.trail hrun x w proc _ hw hstage hx hlife
  have hopening : proc.context.opening = none := by
    cases ho : proc.context.opening with
    | none => rfl
    | some o =>
      obtain ⟨_, _, _, _, -, -, -, heq, -⟩ := ht.waiting o ho
      cases heq
  have hopened := L.opened_of_ends hrun hw hx hlife (Or.inr ⟨rfl, rfl⟩) nofun
  obtain ⟨rest, hrest⟩ := L.attempts_prefix hrun hw hstage
  have hleft := (Wiring.standard_attempted hopened hrest.symm).1
  obtain ⟨-, w', hw', hst⟩ := L.stance hrun x proc _ hx hlife
  cases (ht.settled hopening).symm.trans hw'
  obtain ⟨hpart, htable⟩ : ((attempts ex h x).foldl Wiring.attempted w).part = .exec argv ∧
      proc.context.descriptors.get =
        ((attempts ex h x).foldl Wiring.attempted w).table L.base := by
    cases hst with
    | launch _ hpart htable => exact ⟨hpart, htable⟩
  rw [hpart] at hleft
  obtain rfl : [] = rest := hleft
  rw [List.append_nil] at hrest
  exact ⟨hopened, hrest, hpart, htable⟩

/-! ## The redirections of a stage -/

/-- How the redirections `rs` of a stage go, which stand around `words` in this order, `x` being the
process of the stage and `w` what it was given. -/
structure Redirected (L : LineStart m₀) (ex : Executor) (h : Past (Task U.State))
    (m : Machine (Task U.State)) (x : Pid) (w : Wiring) (rs : List Redirection)
    (words : List Bytes) : Prop where
  /-- The files are opened one after the other, the one that stands last first. -/
  order : (attempts ex h x).map (·.redirection) <+: rs.reverse
  /-- Only the last attempt may have failed. -/
  stops : ∀ a ∈ (attempts ex h x).dropLast, a.result.isSome
  effect : ∀ a ∈ attempts ex h x, a.Effect ex
  /-- Nothing else that the process does until it has become a program changes a file, unless it
  adds a record to the journal or reports a failure. -/
  spared : ∀ n n' proc c, (n, .step x) ∈ h → n.make? (Task.dynamics U ex) (.step x) = some n' →
    n.processes[x]? = some proc → proc.life = .active (.executing c) →
    (∃ a ∈ attempts ex h x, a.before = n.store ∧ a.after = n'.store) ∨
      n'.store.files = n.store.files ∨
      (∃ level message, n'.store = n.store.note (Pid.number x) level message) ∨ c.isReporting
  /-- After a failure no program is started, and the process ends with code 1, or with another if
  it could not write to standard error. -/
  failed : (∃ a ∈ attempts ex h x, a.result = none) → launches ex h x = [] ∧
    (m.Advances ex x ∨ m.Reports ex x ∨ Ended h m x (.exited Control.failureCode) ∨
      Ended h m x (.exited Console.alarmCode) ∧ Rebuffed h x ∨
      ∃ signal, Ended h m x (.signaled signal))
  /-- Without a failure the program is started. -/
  succeeded : (∀ a ∈ attempts ex h x, a.result.isSome) → 1 < L.context.limit →
    Control.isPassable words → m.Advances ex x ∨ m.Meets ex x ∨
      (∃ signal, Ended h m x (.signaled signal)) ∨
        if words = [] then Ended h m x (.exited 0) else launches ex h x = [words]
  /-- When a program is started, all files are open, and standard input and output are what was
  opened for the first redirection in their direction, or what the process was given. -/
  launched : ∀ proc argv, m.processes[x]? = some proc →
    proc.life = .active (.executing (.launch argv)) → argv = words ∧
      (attempts ex h x).map (·.redirection) = rs.reverse ∧
      (∀ a ∈ attempts ex h x, a.result.isSome) ∧
      (∀ direction, (bound (attempts ex h x) direction).map (·.redirection) =
          rs.find? (·.direction = direction) ∧
        proc.context.descriptors.get direction.fd =
          (bound (attempts ex h x) direction).elim (w.standard direction) (·.result)) ∧
      (∀ fd, 1 < fd → proc.context.descriptors.get fd = L.base fd) ∧
      ∀ a ∈ attempts ex h x, ∀ d, a.result = some d → m.store.objectOf? d = a.after.objectOf? d

/-- However the processes of a line move, the redirections of each stage go in this way. -/
theorem redirected (hrun : Run (Task.dynamics U ex) m₀ h m)
    (hw : L.given (events U ex h) x = some w) (hstage : w.part.isStage) :
    L.Redirected ex h m x w w.part.chain.reverse w.part.argv where
  order := by
    rw [List.reverse_reverse]
    exact L.attempts_prefix hrun hw hstage
  stops := L.opened_of_mem_dropLast hrun hw
  effect _ ha := effect_of_mem ha
  spared n n' proc c hn hm hx hlife := by
    refine (Control.files_step hm hx hlife).imp_left fun ⟨a, ha, hafter⟩ => ⟨a, ?_, ?_, hafter.symm⟩
    · refine mem_attempts.mpr ⟨_, hn, ?_⟩
      simpa [Machine.attempt?, Machine.active?_eq_some.mpr ⟨hx, hlife⟩] using ha
    · obtain ⟨-, _, _, _, -, hattempts⟩ := Control.attempts_of_attempt? ha
      cases hattempts <;> rfl
  failed := by
    rintro ⟨a, ha, hfailed⟩
    have ht := L.tallies hrun x w hw
    refine ⟨?_, ?_⟩
    · obtain ⟨later, e, hr⟩ := L.exists_runs hrun x w hw
      exact (hr.after_failure ha hfailed).2
    · rcases L.stage_cases hrun hw hstage with hgoes | ⟨proc, t, file, direction, hx, hlife, -⟩ |
        hreports | ⟨proc, s, hx, hlife⟩ | ⟨status, hended⟩
      · exact Or.inl hgoes
      · -- A file that is still to be opened could fail, and would be answered after the failure.
        have hr := ht.executing proc _ _ _ hx hlife (.openFailed t file direction .written)
        obtain ⟨⟨after, -, hreports⟩, -⟩ := hr.after_failure ha hfailed
        obtain ⟨_, heq⟩ := hreports.mem (List.mem_append_right _ (.head _))
        cases heq
      · exact Or.inr (Or.inl hreports)
      · have hr := ht.program proc s hx hlife
        rw [← List.append_nil (answers ex h x)] at hr
        obtain ⟨⟨after, -, hreports⟩, -⟩ := hr.after_failure ha hfailed
        rw [List.append_nil] at hreports
        cases hreports
      · rcases ht.ended status hended with hsignal | ⟨e, hr, hgives⟩
        · obtain ⟨signal, rfl⟩ := hsignal
          exact Or.inr (Or.inr (Or.inr (Or.inr ⟨signal, hended⟩)))
        · rw [← List.append_nil (answers ex h x)] at hr
          obtain ⟨⟨after, hafter, hreports⟩, -⟩ := hr.after_failure ha hfailed
          rw [List.append_nil] at hreports
          cases hreports with
          | written =>
            obtain rfl : status = .exited Control.failureCode := hgives
            exact Or.inr (Or.inr (Or.inl hended))
          | broken =>
            obtain rfl : status = .exited Console.alarmCode := hgives
            exact Or.inr (Or.inr (Or.inr (Or.inl
              ⟨hended, rebuffed_of_unreported (hafter _ (.head _))⟩)))
  succeeded hopened hlimit hpass := by
    have ht := L.tallies hrun x w hw
    have of_runs {later : List Answer} {e : Fate}
        (hr : L.Runs x w.part (answers ex h x ++ later) e)
        (hlater : ∀ a ∈ later, ∃ succeeded, a = .reported succeeded)
        (hzero : e = .code 0 → Ended h m x (.exited 0)) :
        if w.part.argv = [] then Ended h m x (.exited 0)
        else launches ex h x = [w.part.argv] := by
      obtain ⟨hnothing, hlaunched⟩ := L.ends_of_stage hrun hw hr hlater hstage hopened hlimit
      split
      · next hnil => exact hzero (hnothing hnil)
      · next hne => exact hlaunched hne hpass
    rcases L.stage_cases hrun hw hstage with hgoes | hmeets | ⟨proc, c, hx, hlife, hc, -⟩ |
      ⟨proc, s, hx, hlife⟩ | ⟨status, hended⟩
    · exact Or.inl hgoes
    · exact Or.inr (Or.inl hmeets)
    · obtain ⟨later, e, hr, hlater, he⟩ := ht.of_isReporting hx hlife hc
      exact Or.inr (Or.inr (Or.inr (of_runs hr hlater fun hzero => absurd hzero he)))
    · have hr := ht.program proc s hx hlife
      rw [← List.append_nil (answers ex h x)] at hr
      exact Or.inr (Or.inr (Or.inr
        (of_runs hr (fun _ ha => by cases ha) fun hzero => by cases hzero)))
    · rcases ht.ended status hended with hsignal | ⟨e, hr, hgives⟩
      · obtain ⟨signal, rfl⟩ := hsignal
        exact Or.inr (Or.inr (Or.inl ⟨signal, hended⟩))
      · rw [← List.append_nil (answers ex h x)] at hr
        refine Or.inr (Or.inr (Or.inr (of_runs hr (fun _ ha => by cases ha) fun hzero => ?_)))
        subst hzero
        obtain rfl : status = .exited 0 := hgives
        exact hended
  launched proc argv hx hlife := by
    obtain ⟨hopened, hrest, hpart, htable⟩ := L.at_launch hrun hw hstage hx hlife
    have hstandard := (Wiring.standard_attempted hopened
      ((List.append_nil _).trans hrest).symm).2
    have hargv := (w.argv_attempted (attempts ex h x)).1
    rw [hpart] at hargv
    refine ⟨hargv, by rw [List.reverse_reverse, hrest], hopened, fun direction => ⟨?_, ?_⟩,
      fun fd hfd => ?_, fun a ha d hd => ?_⟩
    · rw [← hrest, ← List.map_reverse, List.find?_map, bound]
      rfl
    · rw [htable, Wiring.table_apply, ← hstandard]
      cases direction <;> rfl
    · rw [htable, Wiring.table_apply, if_neg (Nat.ne_of_gt (Nat.zero_lt_of_lt hfd)),
        if_neg (Nat.ne_of_gt hfd)]
    · cases effect_of_mem ha with
      | failed hresult => cases hresult.symm.trans hd
      | opened hresult _ hobject =>
        cases hresult.symm.trans hd
        rw [hobject, (L.attempts_grows hrun a ha).objectOf? hobject]

/-- The redirections of which something is bound when a program is started. -/
theorem Redirected.find?_filter {rs : List Redirection} {words argv : List Bytes} {L : LineStart m₀}
    (hr : L.Redirected ex h m x w rs words) (hx : m.processes[x]? = some proc)
    (hlife : proc.life = .active (.executing (.launch argv))) (direction : Direction) :
    (bound (attempts ex h x) direction).map (·.redirection) =
      (rs.filter (·.direction = direction)).head? := by
  obtain ⟨-, -, -, hbound, -⟩ := hr.launched proc argv hx hlife
  rw [(hbound direction).1, List.head?_filter]

/-- However the processes of a line move, each stage opens the files of its redirections from the
last to the first, up to the first that cannot be opened, and each file for itself. Its program has
the first file of each direction, so what is bound depends only on the order within each
direction. -/
theorem redirections_in_order {line : Bytes} (hline : Command.parse line = .ok L.tree)
    (hrun : Run (Task.dynamics U ex) m₀ h m) (hw : L.given (events U ex h) x = some w)
    (hstage : w.part.isStage) :
    ∃ segment ∈ Grammar.segments (Token.body line), w.part = Grammar.tree segment ∧
      L.Redirected ex h m x w (Grammar.redirections segment) (Grammar.arguments segment) ∧
      ∀ (m₀' : Machine (Task U.State)) (L' : LineStart m₀') h' m' x' w' segment' proc proc' argv
          argv',
        Run (Task.dynamics U ex) m₀' h' m' → L'.given (events U ex h') x' = some w' →
        w'.part = Grammar.tree segment' →
        (∀ direction, (Grammar.redirections segment').filter (·.direction = direction) =
          (Grammar.redirections segment).filter (·.direction = direction)) →
        m.processes[x]? = some proc → proc.life = .active (.executing (.launch argv)) →
        m'.processes[x']? = some proc' → proc'.life = .active (.executing (.launch argv')) →
        ∀ direction, (bound (attempts ex h' x') direction).map (·.redirection) =
          (bound (attempts ex h x) direction).map (·.redirection) := by
  have of_segment {m₀ m : Machine (Task U.State)} (L : LineStart m₀) {h : Past (Task U.State)}
      {x : Pid} {w : Wiring} {segment : List Token} (hrun : Run (Task.dynamics U ex) m₀ h m)
      (hw : L.given (events U ex h) x = some w) (hpart : w.part = Grammar.tree segment) :
      L.Redirected ex h m x w (Grammar.redirections segment) (Grammar.arguments segment) := by
    have hr := L.redirected hrun hw (hpart ▸ Grammar.isStage_tree segment)
    rwa [hpart, Grammar.chain_tree, List.reverse_reverse, Grammar.argv_tree] at hr
  obtain ⟨makers, stages, hs⟩ := L.exists_spine hrun (Command.isPipeline_of_parse hline) L.root
  rcases hs.mem_of_given hrun L (L.given_root hrun) x w hw with hmem | hmem
  · obtain ⟨w', left, right, hw', hpart⟩ :=
      hs.pipe_of_mem_makers hrun L (L.given_root hrun) rfl hmem
    obtain rfl := Option.some.inj (hw.symm.trans hw')
    rw [hpart] at hstage
    cases hstage
  · obtain ⟨i, hi⟩ := List.mem_iff_getElem?.mp hmem
    obtain ⟨w', segment, hw', hpart, hsegment⟩ := segment_of_getElem? hs hline hrun hi
    obtain rfl := Option.some.inj (hw.symm.trans hw')
    have hr := of_segment L hrun hw hpart
    refine ⟨segment, List.mem_of_getElem? hsegment, hpart, hr, ?_⟩
    intro m₀' L' h' m' x' w' segment' proc proc' argv argv' hrun' hw' hpart' hsame hx hlife hx'
      hlife' direction
    rw [(of_segment L' hrun' hw' hpart').find?_filter hx' hlife', hr.find?_filter hx hlife, hsame]

/-- Of two files for standard output, both are made, and the program has the first. -/
theorem redirections_in_order_two_files : ∃ h m proc a,
    Run (Task.dynamics .idle .bare) (.bare .idle .empty
      (.redirect (.redirect (.exec [[0x61]]) [0x66] .output) [0x67] .output)) h m ∧
    m.processes[0]? = some proc ∧ proc.life = .active (.executing (.launch [[0x61]])) ∧
    (attempts .bare h 0).map (·.redirection) = [⟨[0x67], .output⟩, ⟨[0x66], .output⟩] ∧
    bound (attempts .bare h 0) .output = some a ∧ a.redirection = ⟨[0x66], .output⟩ ∧
    proc.context.descriptors.get Fd.stdout = a.result := by
  let t : Command := .redirect (.redirect (.exec [[0x61]]) [0x66] .output) [0x67] .output
  let L := LineStart.bare .idle FileSystem.pipesBelow_empty t
  have hline : Command.parse [0x61, 0x3E, 0x66, 0x3E, 0x67] = .ok t := by
    decide +kernel
  have hreached : (Run.replay (Task.dynamics .idle .bare) [] (.bare .idle .empty t)
      (List.replicate 10 (Move.step 0))).map (fun r => (r.2.active? 0).map (·.2)) =
        some (some (.executing (.launch [[0x61]]))) := by
    decide +kernel
  obtain ⟨⟨h, m⟩, hr, hsummary⟩ := Option.map_eq_some_iff.mp hreached
  obtain ⟨⟨proc, state⟩, hactive, hstate⟩ := Option.map_eq_some_iff.mp hsummary
  obtain rfl : state = .executing (.launch [[0x61]]) := hstate
  obtain ⟨hx, hlife⟩ := Machine.active?_eq_some.mp hactive
  have hrun := Run.of_replay .start hr
  obtain ⟨segment, -, hpart, hredirected, -⟩ := redirections_in_order L hline hrun
    (L.given_root hrun) rfl
  obtain ⟨-, horder, -, hbound, -⟩ := hredirected.launched proc _ hx hlife
  have hrs : Grammar.redirections segment = [⟨[0x66], .output⟩, ⟨[0x67], .output⟩] := by
    rw [← List.reverse_reverse (Grammar.redirections segment), ← Grammar.chain_tree, ← hpart]
    rfl
  obtain ⟨hfirst, hget⟩ := hbound .output
  rw [hrs] at horder hfirst
  obtain ⟨a, ha, hfile⟩ := Option.map_eq_some_iff.mp hfirst
  rw [ha] at hget
  exact ⟨h, m, proc, a, hrun, hx, hlife, horder, ha, hfile, hget⟩

end LineStart

/-! ## A single descriptor -/

/-- A machine with one file, whose only process may have one descriptor and is about to run a
line. -/
def Machine.cramped : Machine (Task Userland.idle.State) :=
  ⟨⟨⟨[.directory 0o755 0 [([0x66], 1)], .file 0o4644 [0x78]]⟩, [], [], [], .silent, 0⟩,
    [⟨0, { Context.bare with limit := 1 },
      .active (.executing (.run (.redirect (.exec [[0x61]]) [0x66] .output)))⟩], []⟩

/-- A file can be opened and emptied, losing a bit of its mode, without a place for its descriptor.
The process ends with code 1 then, and has not tried to start the program. -/
theorem LineStart.redirection_unplaced : ∃ h m,
    Command.parse [0x61, 0x3E, 0x66] = .ok (.redirect (.exec [[0x61]]) [0x66] .output) ∧
    Run (Task.dynamics .idle .bare) .cramped h m ∧
    (attempts .bare h 0).map (fun a => (a.redirection, a.result.isSome)) =
      [(⟨[0x66], .output⟩, true)] ∧
    launches .bare h 0 = [] ∧ m.endOf? 0 = some (.exited 1) ∧
    m.store.files.node? 1 = some (.file 0o644 []) := by
  have hline : Command.parse [0x61, 0x3E, 0x66] =
      .ok (.redirect (.exec [[0x61]]) [0x66] .output) := by
    decide +kernel
  have hreached : (Run.replay (Task.dynamics .idle .bare) [] .cramped
      (List.replicate 11 (Move.step 0))).map (fun r =>
        ((attempts .bare r.1 0).map fun a => (a.redirection, a.result.isSome),
          launches .bare r.1 0, r.2.endOf? 0, r.2.store.files.node? 1)) =
      some ([(⟨[0x66], .output⟩, true)], [], some (.exited 1), some (.file 0o644 [])) := by
    decide +kernel
  obtain ⟨⟨h, m⟩, hr, hsummary⟩ := Option.map_eq_some_iff.mp hreached
  simp only [Prod.mk.injEq] at hsummary
  obtain ⟨hattempts, hlaunches, hended, hnode⟩ := hsummary
  exact ⟨h, m, hline, Run.of_replay .start hr, hattempts, hlaunches, hended, hnode⟩

end PipeShell
