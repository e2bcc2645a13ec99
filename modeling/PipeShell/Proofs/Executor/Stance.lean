import PipeShell.Proofs.Executor.Events
import PipeShell.Proofs.Executor.Moves

/-!
# Where a process stands with its descriptors

While a process runs a part of a line, its table differs from what the wiring says
(`Wiring.table`) by the few descriptors that it is busy with. `Stance` says for every control state
what the difference is. It is the same whichever of the numbers 0, 1 and 2 were free at the start,
so a new descriptor may well be under a number that is about to be bound.

`Stance.step` is the invariant: a step of the process keeps to its stance, the wiring advancing with
what was opened or made. `Stance.left` and `Stance.right` give the stance of a new process.
-/

namespace PipeShell

/-! ## Stances -/

/-- The ends of a pipe are under two numbers that are free otherwise. -/
structure PipeInHand (base : Fd → Option Descriptor) (context : Context) (w : Wiring)
    (ends : PipeEnds) (left right : Command) (readEnd writeEnd : Descriptor) : Prop where
  part : w.part = .pipe left right
  known : w.ends = some (readEnd, writeEnd)
  settled : context.opening = none
  ne : ends.readEnd ≠ ends.writeEnd
  readFree : w.table base ends.readEnd = none
  writeFree : w.table base ends.writeEnd = none
  readKept : readEnd.closeOnExec = false
  writeKept : writeEnd.closeOnExec = false
  table : context.descriptors.get =
    Function.update (Function.update (w.table base) ends.readEnd (some readEnd)) ends.writeEnd
      (some writeEnd)

/-- What a process has open on its way out: what its wiring says, unless it failed with descriptors
in hand. It may have one descriptor at most then, or a process could not be created. -/
def Wiring.Leaves (w : Wiring) (base : Fd → Option Descriptor) (context : Context) : Prop :=
  context.descriptors.get = w.table base ∨ context.limit ≤ 1 ∨ w.stranded = true

/-- What a process has open in a control state: what its wiring says, except for the descriptors
that it is about to move or to close. -/
inductive Stance (base : Fd → Option Descriptor) (context : Context) (w : Wiring) : Control → Prop
  | run (t : Command) (hpart : w.part = t) (hsettled : context.opening = none)
    (htable : context.descriptors.get = w.table base) : Stance base context w (.run t)
  /-- The file is on its number, but a partner for it is waited for. -/
  | opening (t : Command) (file : Bytes) (direction : Direction) (o : Opening) (d : Descriptor)
    (hpart : w.part = .redirect t file direction) (hopening : context.opening = some o)
    (hfree : w.table base o.fd = none) (hkept : d.closeOnExec = false)
    (htable : context.descriptors.get = Function.update (w.table base) o.fd (some d)) :
    Stance base context w (.run (.redirect t file direction))
  | noting (level : Level) (message : Bytes) {next : Control} (h : Stance base context w next) :
    Stance base context w (.noting level message next)
  /-- The target has what the wiring says only after the copy. -/
  | bind (fd target : Fd) (t : Command) (d : Descriptor) (old : Option Descriptor)
    (hpart : w.part = t) (hsettled : context.opening = none) (htarget : target ≤ 1)
    (hne : fd ≠ target) (hfree : w.table base fd = none) (hd : w.table base target = some d)
    (hkept : d.closeOnExec = false)
    (htable : context.descriptors.get =
      Function.update (Function.update (w.table base) target old) fd (some d)) :
    Stance base context w (.bind fd target t)
  | release (fd : Fd) (t : Command) (e : Option Descriptor) (hpart : w.part = t)
    (hsettled : context.opening = none) (hfree : w.table base fd = none)
    (htable : context.descriptors.get = Function.update (w.table base) fd e) :
    Stance base context w (.release fd (.ok ()) t)
  /-- Copying is refused to processes that can have one descriptor at most. -/
  | unbound (fd : Fd) (e : Errno) (t : Command) (hlimit : context.limit ≤ 1) :
    Stance base context w (.release fd (.error e) t)
  | leave (unneeded kept target : Fd) (t : Command) (d : Descriptor) (old e : Option Descriptor)
    (hpart : w.part = t) (hsettled : context.opening = none) (htarget : target ≤ 1)
    (hne : unneeded ≠ kept) (hd : w.table base target = some d) (hkept : d.closeOnExec = false)
    (hfree : Function.update (w.table base) target old unneeded = none)
    (hfree' : Function.update (w.table base) target old kept = none)
    (htable : context.descriptors.get =
      Function.update (Function.update (Function.update (w.table base) target old) unneeded e) kept
        (some d)) :
    Stance base context w (.leave unneeded kept target t)
  | forkLeft {ends : PipeEnds} {left right : Command} {readEnd writeEnd : Descriptor}
    (h : PipeInHand base context w ends left right readEnd writeEnd) :
    Stance base context w (.forkLeft ends left right)
  | forkRight {ends : PipeEnds} {left right : Command} {readEnd writeEnd : Descriptor} (child : Pid)
    (h : PipeInHand base context w ends left right readEnd writeEnd) :
    Stance base context w (.forkRight ends child right)
  | closeEnds {ends : PipeEnds} {left right : Command} {readEnd writeEnd : Descriptor}
    (leftChild rightChild : Pid)
    (h : PipeInHand base context w ends left right readEnd writeEnd) :
    Stance base context w (.closeEnds [ends.readEnd, ends.writeEnd] leftChild rightChild)
  | closeEnd (fd : Fd) (e : Option Descriptor) (leftChild rightChild : Pid)
    (hfree : w.table base fd = none)
    (htable : context.descriptors.get = Function.update (w.table base) fd e) :
    Stance base context w (.closeEnds [fd] leftChild rightChild)
  | closed (leftChild rightChild : Pid) (htable : context.descriptors.get = w.table base) :
    Stance base context w (.closeEnds [] leftChild rightChild)
  | waitLeft (leftChild rightChild : Pid) (htable : context.descriptors.get = w.table base) :
    Stance base context w (.waitLeft leftChild rightChild)
  | waitRight (leftCode : Option Nat) (rightChild : Pid)
    (htable : context.descriptors.get = w.table base) :
    Stance base context w (.waitRight leftCode rightChild)
  | connected (leftCode rightCode : Option Nat)
    (htable : context.descriptors.get = w.table base) :
    Stance base context w (.connected leftCode rightCode)
  | launch (argv : List Bytes) (hpart : w.part = .exec argv)
    (htable : context.descriptors.get = w.table base) : Stance base context w (.launch argv)
  | stranded (cause : Errno) (h : w.stranded = true) : Stance base context w (.stranded cause)
  | complain (e : ExecError) (h : w.Leaves base context) : Stance base context w (.complain e)
  | printing (pieces : List Bytes) (h : w.Leaves base context) :
    Stance base context w (.printing pieces)
  | alarm (pieces : List Bytes) (h : w.Leaves base context) : Stance base context w (.alarm pieces)
  | exit (code : Nat) (h : w.Leaves base context) : Stance base context w (.exit code)

variable {base : Fd → Option Descriptor} {context : Context} {w : Wiring} {c c' : Control}

namespace Wiring

theorem part_opens {t : Command} {file : Bytes} {direction : Direction}
    (hpart : w.part = .redirect t file direction) (d : Descriptor) :
    (w.opens direction d).part = t := by
  cases direction <;> simp [opens, hpart]

theorem table_opens {t : Command} {file : Bytes} {direction : Direction}
    (hpart : w.part = .redirect t file direction) (d : Descriptor) :
    (w.opens direction d).table base = Function.update (w.table base) direction.fd (some d) := by
  cases direction with
  | input =>
    simp only [opens, hpart, table, Direction.fd]
    rw [Function.update_comm (by decide), Function.update_comm (by decide : Fd.stdin ≠ Fd.stdout),
      Function.update_idem]
  | output => simp only [opens, hpart, table, Direction.fd, Function.update_idem]

/-- It depends on the descriptors and on how many of them there may be. -/
theorem Leaves.of_same {context' : Context} (h : w.Leaves base context)
    (hdescriptors : context'.descriptors = context.descriptors)
    (hlimit : context'.limit = context.limit) : w.Leaves base context' := by
  unfold Leaves
  rw [hdescriptors, hlimit]
  exact h

end Wiring

theorem PipeInHand.told {ends : PipeEnds} {left right : Command} {readEnd writeEnd : Descriptor}
    (h : PipeInHand base context w ends left right readEnd writeEnd) (signal : Nat) :
    PipeInHand base (context.withPending signal) w ends left right readEnd writeEnd :=
  ⟨h.part, h.known, h.settled, h.ne, h.readFree, h.writeFree, h.readKept, h.writeKept, h.table⟩

namespace Stance

/-- A signal that is caught changes no descriptor. -/
theorem told (h : Stance base context w c) (signal : Nat) :
    Stance base (context.withPending signal) w c := by
  induction h with
  | opening t file direction o d hpart hopening hfree hkept htable =>
    exact .opening t file direction o d hpart hopening hfree hkept htable
  | forkLeft h => exact .forkLeft (h.told signal)
  | forkRight child h => exact .forkRight child (h.told signal)
  | closeEnds leftChild rightChild h => exact .closeEnds leftChild rightChild (h.told signal)
  | _ => constructor <;> assumption

/-! ## Where control goes on -/

theorem terminate (code : Nat) (h : w.Leaves base context) :
    Stance base context w (Control.terminate code) :=
  .noting _ _ (.exit code h)

theorem fail (e : ExecError) (h : w.Leaves base context) :
    Stance base context w (Control.fail e) :=
  .noting _ _ (.complain e h)

theorem execute (argv : List Bytes) (hpart : w.part = .exec argv)
    (htable : context.descriptors.get = w.table base) :
    Stance base context w (Control.execute argv) := by
  unfold Control.execute
  split
  · exact terminate 0 (Or.inl htable)
  · split
    · exact .noting _ _ (.launch _ hpart htable)
    · exact fail _ (Or.inl htable)

/-- A descriptor that is on its target already is where the wiring has it. -/
theorem settle {fd target : Fd} {t : Command} {d : Descriptor} {old : Option Descriptor}
    (hpart : w.part = t) (hsettled : context.opening = none) (htarget : target ≤ 1)
    (hfree : Function.update (w.table base) target old fd = none)
    (hd : w.table base target = some d) (hkept : d.closeOnExec = false)
    (htable : context.descriptors.get =
      Function.update (Function.update (w.table base) target old) fd (some d)) :
    Stance base context w (Control.settle fd target t) := by
  unfold Control.settle
  split
  · next heq =>
    subst heq
    refine .run t hpart hsettled ?_
    rw [htable, Function.update_idem, ← hd, Function.update_eq_self]
  · next hne =>
    rw [Function.update_of_ne hne] at hfree
    exact .bind fd target t d old hpart hsettled htarget hne hfree hd hkept htable

/-- The file of a redirection has come to a number that was free. -/
theorem afterOpen {t : Command} {file : Bytes} {direction : Direction} {fd : Fd} {d : Descriptor}
    (hpart : w.part = .redirect t file direction) (hsettled : context.opening = none)
    (hfree : w.table base fd = none) (hkept : d.closeOnExec = false)
    (htable : context.descriptors.get = Function.update (w.table base) fd (some d)) :
    Stance base context (w.opens direction d) (Control.afterOpen t file direction (.ok fd)) := by
  have hopens : (w.opens direction d).table base = _ := Wiring.table_opens hpart d
  have hold : Function.update ((w.opens direction d).table base) direction.fd
      (w.table base direction.fd) = w.table base := by
    rw [hopens, Function.update_idem, Function.update_eq_self]
  refine .noting _ _ (settle (Wiring.part_opens hpart d) hsettled ?_ (hold ▸ hfree) ?_ hkept ?_)
  · cases direction <;> decide
  · rw [hopens, Function.update_self]
  · rw [hold, htable]

theorem afterRelease (t : Command) (closed : Except Errno Unit) (hpart : w.part = t)
    (hsettled : context.opening = none) (htable : context.descriptors.get = w.table base) :
    Stance base context w (Control.afterRelease (.ok ()) t closed) := by
  cases closed with
  | ok => exact .run t hpart hsettled htable
  | error e => exact .noting _ _ (.run t hpart hsettled htable)

theorem afterRelease_unbound (t : Command) (e : Errno) (closed : Except Errno Unit)
    (hlimit : context.limit ≤ 1) :
    Stance base context w (Control.afterRelease (.error e) t closed) := by
  cases closed with
  | ok => exact fail _ (Or.inr (Or.inl hlimit))
  | error e => exact .noting _ _ (fail _ (Or.inr (Or.inl hlimit)))

theorem afterWait (again : Control) (stage : Pid) (next : Option Nat → Control) (reply : WaitReply)
    (hagain : Stance base context w again) (hnext : ∀ code, Stance base context w (next code)) :
    Stance base context w (Control.afterWait again stage next reply) := by
  unfold Control.afterWait
  split
  · exact hagain
  · simp only
    split
    · exact .noting _ _ (.noting _ _ (hnext _))
    · exact .noting _ _ (hnext _)

theorem afterPiece (console : Console) (piece : Bytes) (rest : List Bytes)
    (reply : Except Errno Nat) (h : w.Leaves base context) :
    Stance base context w (Control.afterPiece console piece rest reply) := by
  unfold Control.afterPiece
  split
  · exact .printing _ h
  · exact .alarm _ h

theorem afterAlarm (piece : Bytes) (rest : List Bytes) (reply : Except Errno Nat)
    (h : w.Leaves base context) :
    Stance base context w (Control.afterAlarm piece rest reply) := by
  unfold Control.afterAlarm
  split
  · exact .alarm _ h
  · exact .exit _ h

theorem afterSignal (shell : Pid) (cause : Errno) (reply : Except Errno Unit)
    (h : w.stranded = true) :
    Stance base context w (Control.afterSignal shell cause reply) := by
  cases reply with
  | ok => exact fail _ (Or.inr (Or.inr h))
  | error e => exact .noting _ _ (fail _ (Or.inr (Or.inr h)))

end Stance

/-! ## Steps -/

namespace Stance

variable {U : Userland} {ex : Executor} {m : Machine (Task U.State)} {p : Pid}
  {proc proc' : Process (Task U.State)} {store : Store} {state : Task U.State}

/-- Where a redirection's process goes on depends on its file; the wiring follows. -/
theorem step_redirect {t : Command} {file : Bytes} {direction : Direction}
    (hst : Stance base proc.context w (.run (.redirect t file direction)))
    (hlife : proc.life = .active (.executing (.run (.redirect t file direction))))
    (hacts : Machine.Acts (Task.dynamics U ex) m p proc
      ((Task.dynamics U ex).action (.executing (.run (.redirect t file direction)))) proc' store)
    (hlife' : proc'.life = .active (.executing c')) :
    Stance base proc'.context
        (((Control.run (.redirect t file direction)).event? ex m p proc.context).elim w
          fun e => e.advance w) c' ∧
      proc'.context.limit = proc.context.limit := by
  have hflags : direction.flags.closeOnExec = false := by cases direction <;> rfl
  simp only [Control.event?]
  cases hst with
  | run _ hpart hsettled htable =>
    have htaking (e : Option Descriptor) : (proc.context.descriptors.set
        proc.context.descriptors.lowestFree e).get =
        Function.update (w.table base) proc.context.descriptors.lowestFree e := by
      rw [DescriptorTable.get_set_eq_update, htable]
    have hfree : w.table base proc.context.descriptors.lowestFree = none := by
      rw [← htable, DescriptorTable.get_lowestFree]
    cases redirects_of_acts hacts hlife' with
    | failed e _ _ hopen =>
      cases hlife'
      rw [hopen]
      exact ⟨fail _ (Or.inl htable), rfl⟩
    | opened _ _ hopen =>
      cases hlife'
      rw [hopen]
      simp only [Store.taking, DescriptorTable.get_set, if_pos, Option.map_some, Option.elim_some]
      exact ⟨afterOpen hpart hsettled hfree hflags (htaking _), trivial⟩
    | waiting o _ _ hfd hopen =>
      cases hlife.symm.trans hlife'
      rw [hopen]
      refine ⟨.opening t file direction o ⟨m.store.descriptions.length, direction.flags.closeOnExec⟩
        hpart rfl (hfd ▸ hfree) hflags ?_, rfl⟩
      rw [hfd]
      exact htaking _
    | joined _ hopening => cases hsettled.symm.trans hopening
  | opening _ _ _ o d hpart hopening hfree hkept htable =>
    have hget : proc.context.descriptors.get o.fd = some d := by
      rw [htable, Function.update_self]
    cases redirects_of_acts hacts hlife' with
    | failed _ hsettled | opened hsettled | waiting _ hsettled => cases hsettled.symm.trans hopening
    | joined _ hopening' _ hopen =>
      cases hopening.symm.trans hopening'
      cases hlife'
      rw [hopen]
      simp only [hget, Option.map_some, Option.elim_some]
      exact ⟨afterOpen hpart rfl hfree hkept htable, trivial⟩

/-- A new pipe is in hand. -/
theorem step_pipe {left right : Command}
    (hst : Stance base proc.context w (.run (.pipe left right)))
    (hacts : Machine.Acts (Task.dynamics U ex) m p proc
      ((Task.dynamics U ex).action (.executing (.run (.pipe left right)))) proc' store)
    (hlife' : proc'.life = .active (.executing c')) :
    Stance base proc'.context
        (((Control.run (.pipe left right)).event? ex m p proc.context).elim w
          fun e => e.advance w) c' ∧
      proc'.context.limit = proc.context.limit := by
  replace hacts : Machine.Acts _ m p proc (.call .makePipe
    fun reply => .executing (Control.afterPipe left right reply)) proc' store := hacts
  simp only [Control.event?]
  cases hst with
  | run _ hpart hsettled htable =>
    rcases Store.makePipe_cases m.store proc.context with ⟨e, hm⟩ |
      ⟨s', r, v, -, -, hr, hv, hne, -, -, -, hm⟩
    · obtain ⟨-, rfl⟩ := hacts.of_done hm
      cases hlife'
      rw [hm]
      exact ⟨fail _ (Or.inl htable), rfl⟩
    · obtain ⟨-, rfl⟩ := hacts.of_done hm
      cases hlife'
      rw [hm]
      simp only [DescriptorTable.get_set, if_neg hne, if_pos, Option.bind_some, Option.map_some,
        Option.elim_some]
      refine ⟨.forkLeft ⟨hpart, rfl, hsettled, hne, ?_, ?_, rfl, rfl, ?_⟩, trivial⟩
      · rw [htable] at hr
        exact hr
      · rw [htable] at hv
        exact hv
      · simp only [DescriptorTable.get_set_eq_update, htable]
        rfl

/-- Closing the first of two descriptors that are in hand. -/
theorem update_closed {f : Fd → Option Descriptor} {fd fd' : Fd} {e e' : Option Descriptor}
    (hne : fd ≠ fd') (hfree : f fd = none) :
    Function.update (Function.update (Function.update f fd e) fd' e') fd none =
      Function.update f fd' e' := by
  rw [Function.update_comm hne.symm, Function.update_idem, ← hfree, Function.update_eq_self]

/-- A process that writes a report goes on writing it, or writes its last one, or leaves. -/
theorem step_printing {pieces : List Bytes} (h : w.Leaves base proc.context)
    (hlife : proc.life = .active (.executing (.printing pieces)))
    (hacts : Machine.Acts (Task.dynamics U ex) m p proc
      ((Task.dynamics U ex).action (.executing (.printing pieces))) proc' store)
    (hlife' : proc'.life = .active (.executing c')) :
    Stance base proc'.context w c' ∧ proc'.context.limit = proc.context.limit := by
  rcases pieces with _ | ⟨_ | ⟨b, bs⟩, rest⟩
  · cases hacts
    cases hlife'
    exact ⟨terminate _ h, rfl⟩
  · cases hacts
    cases hlife'
    exact ⟨.printing _ h, rfl⟩
  · replace hacts : Machine.Acts _ m p proc (.call (.write Fd.stderr (b :: bs)) fun reply =>
      .executing (Control.afterPiece ex.console (b :: bs) rest reply)) proc' store := hacts
    obtain ⟨hnext, hdescriptors, hlimit⟩ := hacts.of_call rfl hlife'
    have h' := h.of_same hdescriptors hlimit
    rcases hnext with ⟨reply, heq⟩ | hsame
    · cases heq
      exact ⟨afterPiece _ _ _ _ h', hlimit⟩
    · cases hlife.symm.trans hsame
      exact ⟨.printing _ h', hlimit⟩

/-- A process that writes its last report goes on writing it, or leaves. -/
theorem step_alarm {pieces : List Bytes} (h : w.Leaves base proc.context)
    (hlife : proc.life = .active (.executing (.alarm pieces)))
    (hacts : Machine.Acts (Task.dynamics U ex) m p proc
      ((Task.dynamics U ex).action (.executing (.alarm pieces))) proc' store)
    (hlife' : proc'.life = .active (.executing c')) :
    Stance base proc'.context w c' ∧ proc'.context.limit = proc.context.limit := by
  rcases pieces with _ | ⟨_ | ⟨b, bs⟩, rest⟩
  · cases hacts
    cases hlife'
    exact ⟨.exit _ h, rfl⟩
  · cases hacts
    cases hlife'
    exact ⟨.alarm _ h, rfl⟩
  · replace hacts : Machine.Acts _ m p proc (.call (.write Fd.stderr (b :: bs)) fun reply =>
      .executing (Control.afterAlarm (b :: bs) rest reply)) proc' store := hacts
    obtain ⟨hnext, hdescriptors, hlimit⟩ := hacts.of_call rfl hlife'
    have h' := h.of_same hdescriptors hlimit
    rcases hnext with ⟨reply, heq⟩ | hsame
    · cases heq
      exact ⟨afterAlarm _ _ _ h', hlimit⟩
    · cases hlife.symm.trans hsame
      exact ⟨.alarm _ h', hlimit⟩

/-- A process keeps to its stance. -/
theorem step (hst : Stance base proc.context w c) (hlife : proc.life = .active (.executing c))
    (hacts : Machine.Acts (Task.dynamics U ex) m p proc
      ((Task.dynamics U ex).action (.executing c)) proc' store)
    (hlife' : proc'.life = .active (.executing c')) :
    Stance base proc'.context
        ((c.event? ex m p proc.context).elim w fun e => e.advance w) c' ∧
      proc'.context.limit = proc.context.limit := by
  cases hst with
  | run t hpart hsettled htable =>
    cases t with
    | exec argv =>
      replace hacts : Machine.Acts _ m p proc (.goOn (.executing (Control.execute argv))) proc'
        store := hacts
      cases hacts
      cases hlife'
      exact ⟨execute argv hpart htable, rfl⟩
    | redirect t file direction =>
      exact step_redirect (.run _ hpart hsettled htable) hlife hacts hlife'
    | pipe left right => exact step_pipe (.run _ hpart hsettled htable) hacts hlife'
  | opening t file direction o d hpart hopening hfree hkept htable =>
    exact step_redirect (.opening t file direction o d hpart hopening hfree hkept htable) hlife
      hacts hlife'
  | @noting level message next h =>
    replace hacts : Machine.Acts _ m p proc
      (.call (.note level message) fun _ => .executing next) proc' store := hacts
    obtain ⟨-, rfl⟩ := hacts.of_done rfl
    cases hlife'
    exact ⟨h, rfl⟩
  | bind fd target t d old hpart hsettled htarget hne hfree hd hkept htable =>
    replace hacts : Machine.Acts _ m p proc (.call (.duplicate fd target)
      fun copied => .executing (.release fd copied t)) proc' store := hacts
    have hsource : proc.context.descriptors.get fd = some d := by
      rw [htable, Function.update_self]
    rcases hacts.call_cases hlife' with ⟨reply, context, hc, hcontext, hnext⟩ | ⟨context, hc, -, -⟩
    · cases hnext
      rw [hcontext]
      rcases Store.duplicate_done hsource hkept hne hc with ⟨e, rfl, rfl, hlimit⟩ |
        ⟨rfl, hget, hopening, hlimit⟩
      · exact ⟨.unbound fd e t (Nat.le_trans hlimit htarget), rfl⟩
      · refine ⟨.release fd t (some d) hpart (hopening.trans hsettled) hfree ?_, hlimit⟩
        rw [hget, htable, Function.update_comm hne, Function.update_idem, ← hd,
          Function.update_eq_self]
        rfl
    · exact absurd hc Store.duplicate_ne_underway
  | release fd t e hpart hsettled hfree htable =>
    replace hacts : Machine.Acts _ m p proc (.call (.close fd)
      fun closed => .executing (Control.afterRelease (.ok ()) t closed)) proc' store := hacts
    obtain ⟨⟨closed, heq⟩, hget, hopening, hlimit⟩ := hacts.of_close hlife'
    cases heq
    refine ⟨afterRelease t _ hpart (hopening.trans hsettled) ?_, hlimit⟩
    rw [hget, htable, Function.update_idem, ← hfree, Function.update_eq_self]
    rfl
  | unbound fd e t hlimit =>
    replace hacts : Machine.Acts _ m p proc (.call (.close fd)
      fun closed => .executing (Control.afterRelease (.error e) t closed)) proc' store := hacts
    obtain ⟨⟨closed, heq⟩, -, -, hlimit'⟩ := hacts.of_close hlife'
    cases heq
    exact ⟨afterRelease_unbound t e _ (hlimit' ▸ hlimit), hlimit'⟩
  | leave unneeded kept target t d old e hpart hsettled htarget hne hd hkept hfree hfree' htable =>
    replace hacts : Machine.Acts _ m p proc (.call (.close unneeded)
      fun _ => .executing (Control.settle kept target t)) proc' store := hacts
    obtain ⟨⟨closed, heq⟩, hget, hopening, hlimit⟩ := hacts.of_close hlife'
    cases heq
    refine ⟨settle hpart (hopening.trans hsettled) htarget hfree' hd hkept ?_, hlimit⟩
    rw [hget, htable, update_closed hne hfree]
    rfl
  | @forkLeft ends left right readEnd writeEnd h =>
    replace hacts : Machine.Acts _ m p proc
      (.fork (.executing (.leave ends.readEnd ends.writeEnd Fd.stdout left)) fun reply =>
        .executing (Control.afterFork (fun child => .forkRight ends child right) reply))
      proc' store := hacts
    simp only [Control.event?, Machine.forkEvent]
    cases hacts with
    | forked _ _ hgranted =>
      cases hlife'
      rw [hgranted]
      exact ⟨.noting _ _ (.forkRight _ h), rfl⟩
    | stranded _ _ hrefused =>
      cases hlife'
      rw [hrefused]
      exact ⟨.stranded _ rfl, rfl⟩
  | @forkRight ends left right readEnd writeEnd child h =>
    replace hacts : Machine.Acts _ m p proc
      (.fork (.executing (.leave ends.writeEnd ends.readEnd Fd.stdin right)) fun reply =>
        .executing (Control.afterFork
          (fun child' => .closeEnds [ends.readEnd, ends.writeEnd] child child') reply))
      proc' store := hacts
    simp only [Control.event?, Machine.forkEvent]
    cases hacts with
    | forked _ _ hgranted =>
      cases hlife'
      rw [hgranted]
      exact ⟨.noting _ _ (.closeEnds _ _ h), rfl⟩
    | stranded _ _ hrefused =>
      cases hlife'
      rw [hrefused]
      exact ⟨.stranded _ rfl, rfl⟩
  | @closeEnds ends left right readEnd writeEnd leftChild rightChild h =>
    replace hacts : Machine.Acts _ m p proc (.call (.close ends.readEnd)
      fun _ => .executing (.closeEnds [ends.writeEnd] leftChild rightChild)) proc' store := hacts
    obtain ⟨⟨closed, heq⟩, hget, -, hlimit⟩ := hacts.of_close hlife'
    cases heq
    refine ⟨.closeEnd ends.writeEnd (some writeEnd) _ _ h.writeFree ?_, hlimit⟩
    rw [hget, h.table, update_closed h.ne h.readFree]
    rfl
  | closeEnd fd e leftChild rightChild hfree htable =>
    replace hacts : Machine.Acts _ m p proc (.call (.close fd)
      fun _ => .executing (.closeEnds [] leftChild rightChild)) proc' store := hacts
    obtain ⟨⟨closed, heq⟩, hget, -, hlimit⟩ := hacts.of_close hlife'
    cases heq
    refine ⟨.closed _ _ ?_, hlimit⟩
    rw [hget, htable, Function.update_idem, ← hfree, Function.update_eq_self]
    rfl
  | closed leftChild rightChild htable =>
    replace hacts : Machine.Acts _ m p proc
      (.goOn (.executing (.waitLeft leftChild rightChild))) proc' store := hacts
    cases hacts
    cases hlife'
    exact ⟨.waitLeft _ _ htable, rfl⟩
  | waitLeft leftChild rightChild htable =>
    replace hacts : Machine.Acts _ m p proc (.wait leftChild fun reply =>
      .executing (Control.afterWait (.waitLeft leftChild rightChild) leftChild
        (fun code => .waitRight code rightChild) reply)) proc' store := hacts
    obtain ⟨reply, rfl⟩ := hacts.of_wait
    cases hlife'
    exact ⟨afterWait _ _ _ _ (.waitLeft _ _ htable) fun code => .waitRight code _ htable, rfl⟩
  | waitRight leftCode rightChild htable =>
    replace hacts : Machine.Acts _ m p proc (.wait rightChild fun reply =>
      .executing (Control.afterWait (.waitRight leftCode rightChild) rightChild
        (.connected leftCode) reply)) proc' store := hacts
    obtain ⟨reply, rfl⟩ := hacts.of_wait
    cases hlife'
    exact ⟨afterWait _ _ _ _ (.waitRight _ _ htable) fun code => .connected _ code htable, rfl⟩
  | connected leftCode rightCode htable =>
    replace hacts : Machine.Acts _ m p proc (.goOn (.executing (Control.terminate 0))) proc'
      store := hacts
    cases hacts
    cases hlife'
    exact ⟨terminate 0 (Or.inl htable), rfl⟩
  | launch argv hpart htable =>
    replace hacts : Machine.Acts _ m p proc (.exec argv fun e =>
      .executing (Control.fail (.execFailed (Control.programOf argv) e))) proc' store := hacts
    cases hacts with
    | refused =>
      cases hlife'
      exact ⟨fail _ (Or.inl htable), rfl⟩
    | became => cases hlife'
  | stranded cause h =>
    replace hacts : Machine.Acts _ m p proc (.kill (Pid.number ex.shell) Control.endSignal
      fun reply => .executing (Control.afterSignal ex.shell cause reply)) proc' store := hacts
    obtain ⟨⟨reply, heq⟩, -, hlimit⟩ := hacts.of_kill hlife'
    cases heq
    exact ⟨afterSignal _ _ _ h, hlimit⟩
  | complain e h =>
    replace hacts : Machine.Acts _ m p proc (.goOn (.executing (.printing
      (ex.console.pieces Fd.stderr (Control.complaint e))))) proc' store := hacts
    cases hacts
    cases hlife'
    exact ⟨.printing _ h, rfl⟩
  | printing pieces h => exact step_printing h hlife hacts hlife'
  | alarm pieces h => exact step_alarm h hlife hacts hlife'
  | exit code =>
    replace hacts : Machine.Acts _ m p proc (.halt code) proc' store := hacts
    cases hacts
    cases hlife'

/-! ## New processes -/

/-- The process for the left side has the write end for its standard output. -/
theorem left {ends : PipeEnds} {left right : Command} {readEnd writeEnd : Descriptor}
    (h : PipeInHand base context w ends left right readEnd writeEnd) :
    ∃ w', w.side? .left = some w' ∧ Stance base { context with pending := [] } w'
      (.leave ends.readEnd ends.writeEnd Fd.stdout left) := by
  have hold : Function.update ((⟨left, w.input, some writeEnd, none, false⟩ : Wiring).table base)
      Fd.stdout (w.table base Fd.stdout) = w.table base := by
    simp only [Wiring.table, Function.update_idem, Function.update_self]
  refine ⟨⟨left, w.input, some writeEnd, none, false⟩, by simp [Wiring.side?, h.part, h.known],
    .leave _ _ _ _ writeEnd (w.table base Fd.stdout) (some readEnd) rfl h.settled (by decide) h.ne
      ?_ h.writeKept ?_ ?_ ?_⟩
  · simp only [Wiring.table, Function.update_self]
  · rw [hold]
    exact h.readFree
  · rw [hold]
    exact h.writeFree
  · rw [hold]
    exact h.table

/-- The process for the right side has the read end for its standard input. -/
theorem right {ends : PipeEnds} {left right : Command} {readEnd writeEnd : Descriptor}
    (h : PipeInHand base context w ends left right readEnd writeEnd) :
    ∃ w', w.side? .right = some w' ∧ Stance base { context with pending := [] } w'
      (.leave ends.writeEnd ends.readEnd Fd.stdin right) := by
  have hold : Function.update ((⟨right, some readEnd, w.output, none, false⟩ : Wiring).table base)
      Fd.stdin (w.table base Fd.stdin) = w.table base := by
    have hne : Fd.stdin ≠ Fd.stdout := by decide
    simp only [Wiring.table, Function.update_of_ne hne, Function.update_self]
    rw [Function.update_comm hne.symm, Function.update_idem]
  refine ⟨⟨right, some readEnd, w.output, none, false⟩, by simp [Wiring.side?, h.part, h.known],
    .leave _ _ _ _ readEnd (w.table base Fd.stdin) (some writeEnd) rfl h.settled (by decide)
      h.ne.symm ?_ h.readKept ?_ ?_ ?_⟩
  · simp [Wiring.table, Fd.stdin, Fd.stdout]
  · rw [hold]
    exact h.writeFree
  · rw [hold]
    exact h.readFree
  · rw [hold, Function.update_comm h.ne.symm]
    exact h.table

end Stance

end PipeShell
