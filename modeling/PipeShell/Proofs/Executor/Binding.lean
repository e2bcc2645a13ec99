import PipeShell.Proofs.Executor.Redirections

/-!
# Bringing a descriptor to its place

The file of a redirection is opened on the lowest free number, wherever that is, and copied to
standard input or output. `Control.Redirecting` says what a process has open at any moment of this:
if the file cannot be opened, or the copy is refused, its table is the one that it had before, and
otherwise only the entry of the target is another one (`Machine.redirecting`). Between two moments,
anybody else may move.

A copy is refused only to processes that may not have the target. To make a pipe takes two numbers
that a process may have (`LineStart.one_lt_limit_of_piped`), so in a line with a pipe no copy is
refused (`LineStart.not_isRefused`).
-/

namespace PipeShell

variable {U : Userland} {ex : Executor} {m₀ m m' : Machine (Task U.State)}
  {h : Past (Task U.State)} {mv : Move} {x : Pid} {proc proc' : Process (Task U.State)}
  {c c' : Control} {t : Command} {file : Bytes} {direction : Direction} {context : Context}
  {base : Fd → Option Descriptor} {target fd : Fd} {d : Descriptor} {a : Attempt}

/-! ## A redirection -/

namespace Control

/-- Whether a redirection before `t` is over: the process goes on with `t`, or is about to report
why it does not. -/
def IsBack (t : Command) (c : Control) : Prop := c = run t ∨ ∃ e, c = fail e

/-- Where a process stands that brings `d` to `target`, on the number `fd` that was free, in order
to go on with `t`. Its table was `base` before. -/
inductive Brings (base : Fd → Option Descriptor) (target : Fd) (d : Descriptor) (t : Command)
    (context : Context) : Control → Prop
  | bind (fd : Fd) (hfree : base fd = none) (hne : fd ≠ target)
    (htable : context.descriptors.get = Function.update base fd (some d)) :
    Brings base target d t context (bind fd target t)
  | copied (fd : Fd) (hfree : base fd = none) (hne : fd ≠ target)
    (htable : context.descriptors.get =
      Function.update (Function.update base target (some d)) fd (some d)) :
    Brings base target d t context (release fd (.ok ()) t)
  | refused (fd : Fd) (e : Errno) (hfree : base fd = none) (hlimit : context.limit ≤ target)
    (htable : context.descriptors.get = Function.update base fd (some d)) :
    Brings base target d t context (release fd (.error e) t)
  | placed (htable : context.descriptors.get = Function.update base target (some d)) :
    Brings base target d t context (run t)
  | unplaced (e : Errno) (hlimit : context.limit ≤ target)
    (htable : context.descriptors.get = base) :
    Brings base target d t context (fail (.bindFailed e))

/-- The number on which a file was opened may be the target. -/
theorem brings_settle (hfree : base fd = none)
    (htable : context.descriptors.get = Function.update base fd (some d)) :
    Brings base target d t context (settle fd target t) := by
  unfold settle
  split
  · next heq =>
    subst heq
    exact .placed htable
  · next hne => exact .bind fd hfree hne htable

/-- What is open can be closed. -/
theorem step_release {copied : Except Errno Unit}
    (hget : proc.context.descriptors.get fd = some d) {store : Store}
    (hacts : Machine.Acts (Task.dynamics U ex) m x proc
      ((Task.dynamics U ex).action (.executing (release fd copied t))) proc' store)
    (hlife' : proc'.life = .active (.executing c')) :
    c' = afterRelease copied t (.ok ()) ∧
      proc'.context.descriptors.get = Function.update proc.context.descriptors.get fd none ∧
      proc'.context.opening = proc.context.opening ∧
      proc'.context.limit = proc.context.limit := by
  replace hacts : Machine.Acts _ m x proc (.call (.close fd)
    fun closed => .executing (afterRelease copied t closed)) proc' store := hacts
  have hclose : m.store.close proc.context fd = .done (.ok ()) m.store
      { proc.context with descriptors := proc.context.descriptors.set fd none } := by
    simp only [Store.close, hget]
  obtain ⟨-, rfl⟩ := hacts.of_done hclose
  cases hlife'
  exact ⟨rfl, Store.close_done hclose⟩

/-- A step that brings a descriptor nearer to its place. -/
theorem Brings.step (hc : Brings base target d t proc.context c) (hkept : d.closeOnExec = false)
    (hback : ¬c.IsBack t) {store : Store}
    (hacts : Machine.Acts (Task.dynamics U ex) m x proc
      ((Task.dynamics U ex).action (.executing c)) proc' store)
    (hlife' : proc'.life = .active (.executing c')) :
    Brings base target d t proc'.context c' ∧
      proc'.context.opening = proc.context.opening ∧ proc'.context.limit = proc.context.limit := by
  cases hc with
  | bind fd hfree hne htable =>
    have hget : proc.context.descriptors.get fd = some d := by rw [htable, Function.update_self]
    replace hacts : Machine.Acts _ m x proc (.call (.duplicate fd target)
      fun copied => .executing (release fd copied t)) proc' store := hacts
    rcases hacts.call_cases hlife' with ⟨reply, _, hcall, rfl, hstate⟩ | ⟨_, hcall, -, -⟩
    · cases hstate
      rcases Store.duplicate_done hget hkept hne hcall with
        ⟨e, rfl, heq, hlimit⟩ | ⟨rfl, htable', hopening, hlimit⟩
      · rw [heq]
        exact ⟨.refused fd e hfree hlimit htable, rfl, rfl⟩
      · refine ⟨.copied fd hfree hne ?_, hopening, hlimit⟩
        rw [htable', htable, Function.update_comm hne]
    · exact absurd hcall Store.duplicate_ne_underway
  | copied fd hfree hne htable =>
    have hget : proc.context.descriptors.get fd = some d := by rw [htable, Function.update_self]
    obtain ⟨rfl, htable', hsame⟩ := step_release hget hacts hlife'
    refine ⟨.placed ?_, hsame⟩
    rw [htable', htable, Function.update_idem, Function.update_comm hne.symm, ← hfree,
      Function.update_eq_self]
  | refused fd e hfree hlimit htable =>
    have hget : proc.context.descriptors.get fd = some d := by rw [htable, Function.update_self]
    obtain ⟨rfl, htable', hopening, hsame⟩ := step_release hget hacts hlife'
    refine ⟨.unplaced e (hsame ▸ hlimit) ?_, hopening, hsame⟩
    rw [htable', htable, Function.update_idem, ← hfree, Function.update_eq_self]
  | placed => exact absurd (Or.inl rfl) hback
  | unplaced => exact absurd (Or.inr ⟨_, rfl⟩) hback

/-- The file of a redirection was opened as `d`, and `d` is still that file. -/
structure Fetched (ex : Executor) (m : Machine (Task U.State)) (file : Bytes)
    (direction : Direction) (a : Attempt) (d : Descriptor) : Prop where
  redirection : a.redirection = ⟨file, direction⟩
  effect : a.Effect ex
  result : a.result = some d
  kept : d.closeOnExec = false
  grows : a.after.Grows m.store

/-- Where a process stands that follows a redirection, after the attempts `as` to open its file. Its
table was `base` before. -/
inductive Redirecting (ex : Executor) (m : Machine (Task U.State)) (base : Fd → Option Descriptor)
    (t : Command) (file : Bytes) (direction : Direction) (context : Context) :
    List Attempt → Control → Prop
  | before (hsettled : context.opening = none) (htable : context.descriptors.get = base) :
    Redirecting ex m base t file direction context [] (run (.redirect t file direction))
  /-- The file is on its number, but a partner for it is waited for. -/
  | waiting {a : Attempt} {d : Descriptor} (o : Opening) (ha : Fetched ex m file direction a d)
    (hopening : context.opening = some o) (hfree : base o.fd = none)
    (htable : context.descriptors.get = Function.update base o.fd (some d)) :
    Redirecting ex m base t file direction context [a] (run (.redirect t file direction))
  | noting {a : Attempt} {d : Descriptor} (level : Level) (message : Bytes) {next : Control}
    (ha : Fetched ex m file direction a d) (hsettled : context.opening = none)
    (hnext : Brings base direction.fd d t context next) :
    Redirecting ex m base t file direction context [a] (noting level message next)
  | bringing {a : Attempt} {d : Descriptor} {c : Control} (ha : Fetched ex m file direction a d)
    (hsettled : context.opening = none) (hc : Brings base direction.fd d t context c) :
    Redirecting ex m base t file direction context [a] c
  | unopened {a : Attempt} (e : Errno) (hredirection : a.redirection = ⟨file, direction⟩)
    (heffect : a.Effect ex) (hresult : a.result = none)
    (htable : context.descriptors.get = base) :
    Redirecting ex m base t file direction context [a] (fail (.openFailed file e))

theorem Fetched.mono (ha : Fetched ex m file direction a d) (hs : m.store.Grows m'.store) :
    Fetched ex m' file direction a d :=
  { ha with grows := ha.grows.trans hs }

/-- What others do makes no difference. -/
theorem Redirecting.mono {context' : Context} {as : List Attempt}
    (hc : Redirecting ex m base t file direction context as c) (hs : m.store.Grows m'.store)
    (htable : context'.descriptors = context.descriptors)
    (hopening : context'.opening = context.opening) (hlimit : context'.limit = context.limit) :
    Redirecting ex m' base t file direction context' as c := by
  have hbrings {target : Fd} {d : Descriptor} {c : Control}
      (hc : Brings base target d t context c) : Brings base target d t context' c := by
    cases hc with
    | refused fd e hfree hle h => exact .refused fd e hfree (hlimit ▸ hle) (htable ▸ h)
    | unplaced e hle h => exact .unplaced e (hlimit ▸ hle) (htable ▸ h)
    | bind fd hfree hne h => exact .bind fd hfree hne (htable ▸ h)
    | copied fd hfree hne h => exact .copied fd hfree hne (htable ▸ h)
    | placed h => exact .placed (htable ▸ h)
  cases hc with
  | before hsettled h => exact .before (hopening.trans hsettled) (htable ▸ h)
  | waiting o ha ho hfree h =>
    exact .waiting o (ha.mono hs) (hopening.trans ho) hfree (htable ▸ h)
  | noting level message ha hsettled hnext =>
    exact .noting level message (ha.mono hs) (hopening.trans hsettled) (hbrings hnext)
  | bringing ha hsettled hc => exact .bringing (ha.mono hs) (hopening.trans hsettled) (hbrings hc)
  | unopened e hredirection heffect hresult h =>
    exact .unopened e hredirection heffect hresult (htable ▸ h)

theorem fetched_of_attempt?
    (ha : (run (.redirect t file direction)).attempt? ex m context = some a)
    (hd : a.result = some d) (hafter : a.after.Grows m'.store) :
    Fetched ex m' file direction a d := by
  obtain ⟨-, _, _, _, heq, hattempts⟩ := attempts_of_attempt? ha
  cases heq
  have hkept : d.closeOnExec = false := by
    cases hattempts with
    | failed => cases hd
    | opened =>
      cases hd
      cases direction <;> rfl
  exact ⟨by cases hattempts <;> rfl, hattempts.effect, hd, hkept, hafter⟩

/-- A step of a process that follows a redirection. -/
theorem Redirecting.step {as : List Attempt}
    (hc : Redirecting ex m base t file direction proc.context as c) (hback : ¬c.IsBack t)
    (hgrows : m.store.Grows m'.store) (hlife : proc.life = .active (.executing c))
    (hacts : Machine.Acts (Task.dynamics U ex) m x proc
      ((Task.dynamics U ex).action (.executing c)) proc' m'.store)
    (hlife' : proc'.life = .active (.executing c')) :
    Redirecting ex m' base t file direction proc'.context
        (as ++ (c.attempt? ex m proc.context).toList) c' ∧
      proc'.context.limit = proc.context.limit := by
  cases hc with
  | before hsettled htable =>
    have hfree : base proc.context.descriptors.lowestFree = none := by
      rw [← htable, DescriptorTable.get_lowestFree]
    have htaking : (m.store.taking proc.context direction.flags.closeOnExec).descriptors.get =
        Function.update base proc.context.descriptors.lowestFree
          (some ⟨m.store.descriptions.length, direction.flags.closeOnExec⟩) := by
      rw [Store.taking, DescriptorTable.get_set_eq_update, htable]
    cases redirects_of_acts hacts hlife' with
    | failed e _ _ hopen =>
      cases hlife'
      have hattempt : (run (.redirect t file direction)).attempt? ex m proc.context =
          some ⟨⟨file, direction⟩, m.store, proc.context, none, m.store⟩ := by
        simp [attempt?, hsettled, hopen]
      obtain ⟨-, _, _, _, heq, hattempts⟩ := attempts_of_attempt? hattempt
      cases heq
      rw [hattempt]
      exact ⟨.unopened e rfl hattempts.effect rfl htable, rfl⟩
    | opened _ _ hopen =>
      cases hlife'
      have hattempt : (run (.redirect t file direction)).attempt? ex m proc.context =
          some ⟨⟨file, direction⟩, m.store, proc.context,
            some ⟨m.store.descriptions.length, direction.flags.closeOnExec⟩, m'.store⟩ := by
        simp [attempt?, hsettled, hopen, Store.taking, DescriptorTable.get_set]
      rw [hattempt]
      exact ⟨.noting _ _ (fetched_of_attempt? hattempt rfl (.refl _)) hsettled
        (brings_settle hfree htaking), rfl⟩
    | waiting o _ _ hfd hopen =>
      cases hlife.symm.trans hlife'
      have hattempt : (run (.redirect t file direction)).attempt? ex m proc.context =
          some ⟨⟨file, direction⟩, m.store, proc.context,
            some ⟨m.store.descriptions.length, direction.flags.closeOnExec⟩, m'.store⟩ := by
        simp [attempt?, hsettled, hopen, Store.taking, DescriptorTable.get_set]
      rw [hattempt]
      exact ⟨.waiting o (fetched_of_attempt? hattempt rfl (.refl _)) rfl (hfd ▸ hfree)
        (hfd ▸ htaking), rfl⟩
    | joined _ hopening => cases hsettled.symm.trans hopening
  | waiting o ha hopening hfree htable =>
    have hattempt : (run (.redirect t file direction)).attempt? ex m proc.context = none := by
      simp [attempt?, hopening]
    rw [hattempt]
    cases redirects_of_acts hacts hlife' with
    | failed _ hsettled | opened hsettled | waiting _ hsettled => cases hsettled.symm.trans hopening
    | joined _ hopening' =>
      cases hopening.symm.trans hopening'
      cases hlife'
      exact ⟨.noting _ _ (ha.mono hgrows) rfl (brings_settle hfree htable), rfl⟩
  | @noting _ _ level message next ha hsettled hnext =>
    replace hacts : Machine.Acts _ m x proc (.call (.note level message)
      fun _ => .executing next) proc' m'.store := hacts
    obtain ⟨-, rfl⟩ := hacts.of_done rfl
    cases hlife'
    refine ⟨Redirecting.mono (.bringing ha hsettled hnext) hgrows rfl rfl rfl, rfl⟩
  | bringing ha hsettled hbrings =>
    have hattempt : c.attempt? ex m proc.context = none := by
      cases hbrings with
      | placed => exact absurd (Or.inl rfl) hback
      | _ => rfl
    obtain ⟨hbrings', hopening, hlimit⟩ := hbrings.step ha.kept hback hacts hlife'
    rw [hattempt]
    exact ⟨.bringing (ha.mono hgrows) (hopening.trans hsettled) hbrings', hlimit⟩
  | unopened => exact absurd (Or.inr ⟨_, rfl⟩) hback

/-- A process that follows a redirection neither waits for a child nor starts a program. -/
theorem Redirecting.cases_action {as : List Attempt}
    (hc : Redirecting ex m base t file direction context as c) :
    (∃ call next, c.action ex = .call call next) ∨ ∃ next, c.action ex = .goOn next := by
  have hrun (t : Command) : (∃ call next, (run t).action ex = .call call next) ∨
      ∃ next, (run t).action ex = .goOn next := by
    cases t with
    | exec argv => exact Or.inr ⟨_, rfl⟩
    | redirect | pipe => exact Or.inl ⟨_, _, rfl⟩
  cases hc with
  | before | waiting => exact hrun _
  | noting | unopened => exact Or.inl ⟨_, _, rfl⟩
  | bringing _ _ hbrings =>
    cases hbrings with
    | placed => exact hrun _
    | _ => exact Or.inl ⟨_, _, rfl⟩

/-- As long as a redirection is not over, its process can go on, or waits at a named pipe. -/
theorem Redirecting.advances {as : List Attempt}
    (hc : Redirecting ex m base t file direction proc.context as c) (hback : ¬c.IsBack t)
    (hx : m.processes[x]? = some proc) (hlife : proc.life = .active (.executing c)) :
    m.Advances ex x ∨ m.Meets ex x := by
  have hgoes (hdues : c.dues = []) (hwaits : ¬c.Waits ex m proc.context) : m.Advances ex x :=
    Machine.rank_lt hx hlife (by simp [hdues]) hwaits
  have hbrought {d : Descriptor} {c : Control}
      (hc : Brings base direction.fd d t proc.context c) : c.dues = [] := by
    cases hc <;> rfl
  cases hc with
  | before | waiting =>
    by_cases hwaits : (run (.redirect t file direction)).Waits ex m proc.context
    · exact Or.inr ⟨proc, t, file, direction, hx, hlife, hwaits⟩
    · exact Or.inl (hgoes rfl hwaits)
  | @noting _ _ _ _ next _ _ hnext =>
    have hdues : next.dues = [] := hbrought hnext
    exact Or.inl (hgoes hdues nofun)
  | bringing _ _ hbrings =>
    cases hbrings with
    | placed => exact absurd (Or.inl rfl) hback
    | bind | copied | refused | unplaced => exact Or.inl (hgoes rfl nofun)
  | unopened => exact Or.inl (hgoes rfl nofun)

/-- What has come of a redirection that is over. -/
theorem Redirecting.outcome {as : List Attempt}
    (hc : Redirecting ex m base t file direction context as c) (hback : c.IsBack t) :
    ∃ a, as = [a] ∧ a.redirection = ⟨file, direction⟩ ∧ a.Effect ex ∧
      ((∃ e, a.result = none ∧ c = fail (.openFailed file e) ∧ context.descriptors.get = base) ∨
        ∃ d, a.result = some d ∧ m.store.objectOf? d = a.after.objectOf? d ∧
          ((∃ e, c = fail (.bindFailed e) ∧ context.limit ≤ direction.fd ∧
              context.descriptors.get = base) ∨
            c = run t ∧
              context.descriptors.get = Function.update base direction.fd (some d))) := by
  have hsame {a : Attempt} {d : Descriptor} (ha : Fetched ex m file direction a d) :
      m.store.objectOf? d = a.after.objectOf? d := by
    cases ha.effect with
    | failed hnone => cases hnone.symm.trans ha.result
    | opened hresult _ hobject =>
      cases hresult.symm.trans ha.result
      rw [hobject, ha.grows.objectOf? hobject]
  have hbrought {a : Attempt} {d : Descriptor} (ha : Fetched ex m file direction a d)
      (hc : Brings base direction.fd d t context c) :
      (∃ e, c = fail (.bindFailed e) ∧ context.limit ≤ direction.fd ∧
          context.descriptors.get = base) ∨
        c = run t ∧ context.descriptors.get = Function.update base direction.fd (some d) := by
    cases hc with
    | placed htable => exact Or.inr ⟨rfl, htable⟩
    | unplaced e hlimit htable => exact Or.inl ⟨e, rfl, hlimit, htable⟩
    | bind | copied | refused => rcases hback with heq | ⟨e, heq⟩ <;> cases heq
  cases hc with
  | before | waiting => rcases hback with heq | ⟨e, heq⟩ <;> cases heq
  | noting _ _ _ _ hnext =>
    rcases hback with heq | ⟨e, heq⟩ <;> cases heq
    cases hnext
  | bringing ha _ hc =>
    exact ⟨_, rfl, ha.redirection, ha.effect, Or.inr ⟨_, ha.result, hsame ha, hbrought ha hc⟩⟩
  | unopened e hredirection heffect hresult htable =>
    exact ⟨_, rfl, hredirection, heffect, Or.inl ⟨e, hresult, rfl, htable⟩⟩

end Control

/-- Process `x` has taken no step since a redirection before `t` was over. -/
def Within {σ : Type} (t : Command) (x : Pid) (h : Past (Task σ)) : Prop :=
  ∀ m proc c, (m, .step x) ∈ h → m.processes[x]? = some proc →
    proc.life = .active (.executing c) → ¬c.IsBack t

/-- Up to the end of a redirection, a process that is not killed follows it. -/
theorem Machine.redirecting (hs : m₀.Sound) (hx : m₀.processes[x]? = some proc)
    (hlife : proc.life = .active (.executing (.run (.redirect t file direction))))
    (hsettled : proc.context.opening = none) (hrun : Run (Task.dynamics U ex) m₀ h m)
    (hw : Within t x h) {state : Task U.State} (hx' : m.processes[x]? = some proc')
    (hlife' : proc'.life = .active state) :
    ∃ c, state = .executing c ∧ Control.Redirecting ex m proc.context.descriptors.get t file
        direction proc'.context (attempts ex h x) c ∧
      proc'.context.limit = proc.context.limit := by
  induction hrun generalizing proc' state with
  | start =>
    obtain rfl := Option.some.inj (hx.symm.trans hx')
    cases hlife.symm.trans hlife'
    exact ⟨_, rfl, .before hsettled rfl, rfl⟩
  | @move h m m' hrun mv hm ih =>
    have hwithin : Within t x h := fun n proc c hn => hw n proc c (.tail _ hn)
    have hgrows := ((hrun.sound hs).grows hm).1
    cases make?_becomes hm hx' with
    | acted hmv hp hactive hacts =>
      obtain ⟨c, rfl, hc, hlimit⟩ := ih hwithin hp hactive
      subst hmv
      have hback := hw m _ c (.head _) hp hactive
      rcases executing_becomes hactive hacts with ⟨c', hnext⟩ | ⟨status, rfl⟩ | ⟨argv, rfl⟩
      · cases hnext.symm.trans hlife'
        obtain ⟨hc', hlimit'⟩ := hc.step hback hgrows hactive hacts hnext
        rw [attempts_step hp hactive]
        exact ⟨c', rfl, hc', hlimit'.trans hlimit⟩
      · cases hlife'
      · rcases hc.cases_action with ⟨_, _, heq⟩ | ⟨_, heq⟩ <;> cases heq
    | interrupted hmv hp hactive child next ha =>
      obtain ⟨c, rfl, hc, -⟩ := ih hwithin hp hactive
      replace ha : (c.action ex).map Task.executing = .wait child next := ha
      rcases hc.cases_action with ⟨_, _, heq⟩ | ⟨_, heq⟩ <;>
        (rw [heq] at ha; cases ha)
    | touched hp hmv ht =>
      rw [attempts_of_ne hmv]
      cases ht with
      | unchanged =>
        obtain ⟨c, rfl, hc, hlimit⟩ := ih hwithin hp hlife'
        exact ⟨c, rfl, hc.mono hgrows rfl rfl rfl, hlimit⟩
      | told =>
        obtain ⟨c, rfl, hc, hlimit⟩ := ih hwithin hp hlife'
        exact ⟨c, rfl, hc.mono hgrows rfl rfl rfl, hlimit⟩
      | killed => cases hlife'
      | reaped => cases hlife'
    | born hmv hp hactive hlength =>
      exact absurd (List.getElem?_eq_some_iff.mp hx).1
        (Nat.not_lt_of_le (hlength ▸ hrun.length_le))

/-! ## Lines with a pipe -/

/-- Whether a copy of a descriptor was refused, and that is going to be reported. -/
def Control.IsRefused : Control → Prop
  | release _ (.error _) _ => True
  | complain (.bindFailed _) => True
  | noting _ _ next => next.IsRefused
  | _ => False

namespace Control

theorem not_isRefused_settle (fd target : Fd) (t : Command) : ¬(settle fd target t).IsRefused := by
  unfold settle
  split <;> exact id

theorem not_isRefused_execute (argv : List Bytes) : ¬(execute argv).IsRefused := by
  unfold execute
  split
  · exact id
  · split <;> exact id

theorem not_isRefused_afterWait {again : Control} (stage : Pid) {next : Option Nat → Control}
    (hagain : ¬again.IsRefused) (hnext : ∀ code, ¬(next code).IsRefused) (reply : WaitReply) :
    ¬(afterWait again stage next reply).IsRefused := by
  unfold afterWait
  split
  · exact hagain
  · simp only
    split <;> exact hnext _

theorem not_isRefused_afterPiece (console : Console) (piece : Bytes) (rest : List Bytes)
    (reply : Except Errno Nat) : ¬(afterPiece console piece rest reply).IsRefused := by
  unfold afterPiece
  split <;> exact id

theorem not_isRefused_afterAlarm (piece : Bytes) (rest : List Bytes) (reply : Except Errno Nat) :
    ¬(afterAlarm piece rest reply).IsRefused := by
  unfold afterAlarm
  split <;> exact id

/-- Only a copy leads to a refusal of it. -/
theorem not_isRefused_of_leads (hc : ¬c.IsRefused) (hcopy : ∀ fd target t, c ≠ bind fd target t)
    (h : ((Task.dynamics U ex).action (.executing c)).Leads (.executing c')) : ¬c'.IsRefused := by
  cases c with
  | run t =>
    cases t with
    | exec argv =>
      cases h
      exact not_isRefused_execute argv
    | redirect t file direction =>
      cases h with
      | call _ _ reply =>
        cases reply with
        | error => exact id
        | ok fd => exact not_isRefused_settle fd direction.fd t
    | pipe left right =>
      cases h with
      | call _ _ reply => cases reply <;> exact id
  | noting =>
    cases h
    exact hc
  | complain | launch =>
    cases h
    exact id
  | printing pieces =>
    rcases pieces with _ | ⟨_ | ⟨b, bs⟩, rest⟩
    · cases h
      exact id
    · cases h
      exact id
    · cases h with
      | call _ _ reply => exact not_isRefused_afterPiece _ _ _ reply
  | alarm pieces =>
    rcases pieces with _ | ⟨_ | ⟨b, bs⟩, rest⟩
    · cases h
      exact id
    · cases h
      exact id
    · cases h with
      | call _ _ reply => exact not_isRefused_afterAlarm _ _ reply
  | stranded cause =>
    cases h with
    | kill _ _ _ reply => cases reply <;> exact id
  | exit => cases h
  | bind fd target t => exact absurd rfl (hcopy fd target t)
  | release fd copied t =>
    cases copied with
    | error => exact absurd trivial hc
    | ok =>
      cases h with
      | call _ _ closed => cases closed <;> exact id
  | leave unneeded kept target t =>
    cases h
    exact not_isRefused_settle kept target t
  | forkLeft | forkRight =>
    cases h with
    | child => exact id
    | fork _ _ reply => cases reply <;> exact id
  | closeEnds ends => cases ends <;> cases h <;> exact id
  | waitLeft left right =>
    cases h
    exact not_isRefused_afterWait left id (fun _ => id) _
  | waitRight leftCode right =>
    cases h
    exact not_isRefused_afterWait right id (fun _ => id) _
  | connected =>
    cases h
    exact id

/-- A process that may have two descriptors may have both standard ones. -/
theorem not_isRefused_step {w : Wiring} (hst : Stance base proc.context w c)
    (hlimit : 1 < proc.context.limit) (hc : ¬c.IsRefused)
    (hlife : proc.life = .active (.executing c)) {store : Store}
    (hacts : Machine.Acts (Task.dynamics U ex) m x proc
      ((Task.dynamics U ex).action (.executing c)) proc' store)
    (hlife' : proc'.life = .active (.executing c')) : ¬c'.IsRefused := by
  by_cases hcopy : ∃ fd target t, c = bind fd target t
  · obtain ⟨fd, target, t, rfl⟩ := hcopy
    cases hst with
    | bind _ _ _ d old _ _ htarget hne _ _ hkept htable =>
      have hget : proc.context.descriptors.get fd = some d := by rw [htable, Function.update_self]
      replace hacts : Machine.Acts _ m x proc (.call (.duplicate fd target)
        fun copied => .executing (release fd copied t)) proc' store := hacts
      rcases hacts.call_cases hlife' with ⟨reply, _, hcall, -, hstate⟩ | ⟨_, hcall, -, -⟩
      · cases hstate
        rcases Store.duplicate_done hget hkept hne hcall with ⟨_, -, -, hle⟩ | ⟨rfl, -⟩
        · exact absurd (Nat.lt_of_lt_of_le hlimit (Nat.le_trans hle htarget)) (Nat.lt_irrefl 1)
        · exact id
      · exact absurd hcall Store.duplicate_ne_underway
  · rcases hacts.leads hlife' with hsame | hleads | ⟨-, _, heq⟩
    · cases hlife.symm.trans hsame
      exact hc
    · exact not_isRefused_of_leads hc (fun fd target t heq => hcopy ⟨fd, target, t, heq⟩) hleads
    · cases heq

end Control

namespace LineStart

variable (L : LineStart m₀)

/-- In a line whose processes may have two descriptors, no copy is refused. -/
theorem not_isRefused (hrun : Run (Task.dynamics U ex) m₀ h m) (hlimit : 1 < L.context.limit) :
    ∀ (x : Pid) (proc : Process (Task U.State)) (c : Control), m.processes[x]? = some proc →
      proc.life = .active (.executing c) → ¬c.IsRefused := by
  induction hrun with
  | start =>
    intro x proc c hx hlife
    obtain rfl := L.alone x proc c hx hlife
    obtain rfl := Option.some.inj (L.process.symm.trans hx)
    cases hlife
    exact id
  | @move h m m' hrun mv hm ih =>
    intro x proc' c' hx hlife'
    cases Machine.make?_proceeds hm hx hlife' with
    | acted hmv hp hlife hacts =>
      obtain ⟨hsame, w, -, hst⟩ := L.stance hrun x _ _ hp hlife
      exact Control.not_isRefused_step hst (hsame ▸ hlimit) (ih x _ _ hp hlife) hlife hacts hlife'
    | kept _ hp hlife => exact ih x _ c' hp hlife
    | told _ hp hlife => exact ih x _ c' hp hlife
    | left => exact id
    | right => exact id

/-- To make a pipe takes two descriptors. -/
theorem one_lt_limit_of_piped (hrun : Run (Task.dynamics U ex) m₀ h m) {p : Pid} {pipe : PipeId}
    {readEnd writeEnd : Descriptor} (hp : .piped p pipe readEnd writeEnd ∈ events U ex h) :
    1 < L.context.limit := by
  induction hrun with
  | start => cases hp
  | @move h m m' hrun mv hm ih =>
    rcases mem_events_cons.mp hp with he | hp
    · obtain ⟨⟨proc, left, right, rfl, hx, hlife, hlimit, -⟩, -⟩ := piped_of_event? hm he
      exact (L.stance hrun p proc _ hx hlife).1 ▸ hlimit
    · exact ih hp

end LineStart

/-! ## Redirections, and the sides of pipes -/

/-- Whatever others do, as long as a redirection is not over, its process can go on or waits at a
named pipe. Then it has tried to open the file, once. If this failed, or if the copy was refused
since the process may not have the target, the table is the one that it was before. Otherwise only
the target has changed, and refers to what was opened. In a line with a pipe no copy is refused,
whatever was open when the line was started and however many descriptors its processes may have. -/
theorem redirected_or_restored (hs : m₀.Sound) (ex : Executor) :
    (∀ h m x proc t file direction, Run (Task.dynamics U ex) m₀ h m →
      m₀.processes[x]? = some proc →
      proc.life = .active (.executing (.run (.redirect t file direction))) →
      proc.context.opening = none → Within t x h →
      ∀ proc' state, m.processes[x]? = some proc' → proc'.life = .active state →
        ∃ c, state = .executing c ∧
          (¬c.IsBack t ∧ (m.Advances ex x ∨ m.Meets ex x) ∨
            ∃ a, attempts ex h x = [a] ∧ a.redirection = ⟨file, direction⟩ ∧ a.Effect ex ∧
              ((∃ e, a.result = none ∧ c = .fail (.openFailed file e) ∧
                  proc'.context.descriptors.get = proc.context.descriptors.get) ∨
                ∃ d, a.result = some d ∧ m.store.objectOf? d = a.after.objectOf? d ∧
                  ((∃ e, c = .fail (.bindFailed e) ∧ proc.context.limit ≤ direction.fd ∧
                      proc'.context.descriptors.get = proc.context.descriptors.get) ∨
                    c = .run t ∧ proc'.context.descriptors.get =
                      Function.update proc.context.descriptors.get direction.fd (some d))))) ∧
    (LineStart m₀ → ∀ h m, Run (Task.dynamics U ex) m₀ h m →
      (∃ p pipe readEnd writeEnd, .piped p pipe readEnd writeEnd ∈ events U ex h) →
      ∀ (x : Pid) (proc : Process (Task U.State)) (c : Control), m.processes[x]? = some proc →
        proc.life = .active (.executing c) → ¬c.IsRefused) := by
  refine ⟨?_, ?_⟩
  · intro h m x proc t file direction hrun hx hlife hsettled hw proc' state hx' hlife'
    obtain ⟨c, rfl, hc, hlimit⟩ := Machine.redirecting hs hx hlife hsettled hrun hw hx' hlife'
    refine ⟨c, rfl, ?_⟩
    by_cases hback : c.IsBack t
    · exact Or.inr (hlimit ▸ hc.outcome hback)
    · exact Or.inl ⟨hback, hc.advances hback hx' hlife'⟩
  · rintro L h m hrun ⟨p, pipe, readEnd, writeEnd, hpiped⟩
    exact L.not_isRefused hrun (L.one_lt_limit_of_piped hrun hpiped)

theorem Machine.sound_cramped : cramped.Sound :=
  sound_singleton ⟨by simp, by simp [FileSystem.PipesBelow]⟩ (DescriptorTable.valid_empty _) rfl

/-- A process that may have one descriptor opens the file under 0, and cannot copy it to 1. -/
theorem Machine.refused_cramped : ∃ h m proc e, Run (Task.dynamics .idle .bare) .cramped h m ∧
    Within (.exec [[0x61]]) 0 h ∧ m.processes[0]? = some proc ∧
    proc.life = .active (.executing (.fail (.bindFailed e))) := by
  let before : List Control := [.release 0 (.error .badDescriptor) (.exec [[0x61]]),
    .bind 0 1 (.exec [[0x61]]),
    .noting .debug (Bytes.ofString "重定向 > f -> fd 1") (.bind 0 1 (.exec [[0x61]])),
    .run (.redirect (.exec [[0x61]]) [0x66] .output)]
  have hreached : (Run.replay (Task.dynamics .idle .bare) [] .cramped
      (List.replicate 4 (Move.step 0))).map (fun r =>
        (r.1.map fun s => (s.1.active? 0).map (·.2), (r.2.active? 0).map (·.2))) =
      some (before.map fun c => some (.executing c),
        some (.executing (.fail (.bindFailed .badDescriptor)))) := by
    decide +kernel
  obtain ⟨⟨h, m⟩, hr, hsummary⟩ := Option.map_eq_some_iff.mp hreached
  obtain ⟨hbefore, hlast⟩ := Prod.mk.inj hsummary
  obtain ⟨⟨proc, state⟩, hactive, rfl⟩ := Option.map_eq_some_iff.mp hlast
  obtain ⟨hx, hlife⟩ := Machine.active?_eq_some.mp hactive
  refine ⟨h, m, proc, _, .of_replay .start hr, fun n procn c hn hxn hlifen hback => ?_, hx, hlife⟩
  have hmem := List.mem_map_of_mem (f := fun s => (s.1.active? 0).map (·.2)) hn
  rw [hbefore, Machine.active?_eq_some.mpr ⟨hxn, hlifen⟩] at hmem
  obtain ⟨c', hc', heq⟩ := List.mem_map.mp hmem
  cases heq
  simp only [before, List.mem_cons, List.not_mem_nil, or_false] at hc'
  rcases hback with heq | ⟨e, heq⟩ <;> subst heq <;> simp [Control.fail] at hc'

/-- A pipe can be made when nothing is open. -/
theorem LineStart.piped_bare : ∃ h m, Run (Task.dynamics .idle .bare)
    (.bare .idle .empty (.pipe (.exec [[0x61]]) (.exec [[0x62]]))) h m ∧
    ∃ p pipe readEnd writeEnd, .piped p pipe readEnd writeEnd ∈ events .idle .bare h := by
  have hreached : ∃ h m readEnd writeEnd, Run.replay (Task.dynamics .idle .bare) []
      (.bare .idle .empty (.pipe (.exec [[0x61]]) (.exec [[0x62]]))) [.step 0] = some (h, m) ∧
      events .idle .bare h = [.piped 0 0 readEnd writeEnd] := ⟨_, _, _, _, rfl, rfl⟩
  obtain ⟨h, m, readEnd, writeEnd, hr, hevents⟩ := hreached
  exact ⟨h, m, .of_replay .start hr, 0, 0, readEnd, writeEnd, hevents ▸ .head _⟩

/-- When the file is open under 0 and cannot come to 1, nothing is open afterwards, as before. And
when a line has made a pipe with nothing open at its start, no copy is refused. -/
theorem restored_cramped_not_refused_bare :
    (∃ h m proc e, Run (Task.dynamics .idle .bare) .cramped h m ∧
      m.processes[0]? = some proc ∧ proc.life = .active (.executing (.fail (.bindFailed e))) ∧
      proc.context.descriptors.get = Context.bare.descriptors.get) ∧
    ∃ h m, Run (Task.dynamics .idle .bare)
      (.bare .idle .empty (.pipe (.exec [[0x61]]) (.exec [[0x62]]))) h m ∧
      (∃ p pipe readEnd writeEnd, .piped p pipe readEnd writeEnd ∈ events .idle .bare h) ∧
      ∀ (x : Pid) (proc : Process (Task Userland.idle.State)) (c : Control),
        m.processes[x]? = some proc → proc.life = .active (.executing c) → ¬c.IsRefused := by
  refine ⟨?_, ?_⟩
  · obtain ⟨h, m, proc, e, hrun, hw, hx, hlife⟩ := Machine.refused_cramped
    obtain ⟨c, heq, hcases⟩ := (redirected_or_restored Machine.sound_cramped .bare).1 h m 0 _ _ _ _
      hrun rfl rfl rfl hw proc _ hx hlife
    cases heq
    rcases hcases with ⟨hback, -⟩ | ⟨a, -, -, -, ⟨_, -, heq, -⟩ | ⟨d, -, -, ⟨_, -, -, htable⟩ |
      ⟨heq, -⟩⟩⟩
    · exact absurd (Or.inr ⟨_, rfl⟩) hback
    · cases (Control.noting.inj heq).2.2
    · exact ⟨h, m, proc, e, hrun, hx, hlife, htable⟩
    · cases heq
  · let L := LineStart.bare .idle FileSystem.pipesBelow_empty
      (.pipe (.exec [[0x61]]) (.exec [[0x62]]))
    obtain ⟨h, m, hrun, hpiped⟩ := LineStart.piped_bare
    exact ⟨h, m, hrun, hpiped, (redirected_or_restored L.sound .bare).2 L h m hrun hpiped⟩

end PipeShell
