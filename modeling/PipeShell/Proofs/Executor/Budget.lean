import PipeShell.Proofs.Executor.Origins
import PipeShell.Proofs.Machine.Opening

/-!
# Descriptors do not run out

If standard input and output are open at the start of a line and two more numbers are free, then
this is enough for every line. A process that begins with a part of the line, or waits for one side
of a pipe, has the same numbers open as the first one had, whatever is open under them; so nothing
piles up from one pipe to the next, and no process is ever refused a file, a pipe or a copy of a
descriptor for want of a number (`LineStart.descriptor_budget`).
-/

namespace PipeShell

variable {U : Userland} {ex : Executor} {m₀ m : Machine (Task U.State)} {h : Past (Task U.State)}
  {x : Pid} {proc : Process (Task U.State)} {c : Control} {w : Wiring}
  {base : Fd → Option Descriptor} {context : Context}

/-- Standard input and output are open at the start of a line, and two more numbers are free. -/
structure LineStart.Supplied (L : LineStart m₀) : Prop where
  input : (L.base Fd.stdin).isSome
  output : (L.base Fd.stdout).isSome
  room : ∃ a b, a ≠ b ∧ a < L.context.limit ∧ b < L.context.limit ∧
    L.base a = none ∧ L.base b = none

/-- Whether nothing is in hand that is to be moved or closed. -/
def Control.isLevel : Control → Bool
  | run _ | launch _ | waitLeft .. | waitRight .. => true
  | _ => false

/-- Why a file, a copy of a descriptor or a pipe was refused. -/
def Call.refusal? : (c : Call) → c.Reply → Option Errno
  | openFile .., .error e => some e
  | duplicate .., .error e => some e
  | makePipe, .error e => some e
  | _, _ => none

/-- A free number is none of the two standard ones, so the limit is above these. -/
theorem LineStart.Supplied.one_lt_limit {L : LineStart m₀} (hs : L.Supplied) :
    1 < L.context.limit := by
  obtain ⟨a, -, -, hal, -, ha, -⟩ := hs.room
  match a with
  | 0 => cases hs.input.symm.trans (congrArg Option.isSome ha)
  | 1 => cases hs.output.symm.trans (congrArg Option.isSome ha)
  | n + 2 => exact Nat.lt_of_le_of_lt (Nat.le_add_left _ _) (Nat.lt_of_succ_lt hal)

/-! ## Both standard descriptors stay open -/

/-- There is something to read from and something to write to. -/
structure Wiring.Furnished (w : Wiring) : Prop where
  input : w.input.isSome
  output : w.output.isSome

namespace Wiring

theorem Furnished.opens (hw : w.Furnished) (direction : Direction) (d : Descriptor) :
    (w.opens direction d).Furnished := by
  unfold Wiring.opens
  split
  · exact ⟨rfl, hw.output⟩
  · exact ⟨hw.input, rfl⟩
  · exact hw

theorem Furnished.side (hw : w.Furnished) {side : Side} {w' : Wiring}
    (h : w.side? side = some w') : w'.Furnished := by
  unfold side? at h
  split at h
  · cases h
    exact ⟨hw.input, rfl⟩
  · cases h
    exact ⟨rfl, hw.output⟩
  · cases h

/-- A furnished process has the same numbers open as the first one. -/
theorem Furnished.isSome_table (hw : w.Furnished) (hin : (base Fd.stdin).isSome)
    (hout : (base Fd.stdout).isSome) (fd : Fd) :
    (w.table base fd).isSome = (base fd).isSome := by
  rw [table_apply]
  split
  · next h0 => rw [h0, hw.input, ← hin]; rfl
  · split
    · next h1 => rw [h1, hw.output, ← hout]; rfl
    · rfl

end Wiring

/-- Whatever is opened and made, every process of the line is furnished. -/
theorem LineStart.furnished (L : LineStart m₀) (hs : L.Supplied) (es : List Event) :
    ∀ (x : Pid) (w : Wiring), L.wiring es x = some w → w.Furnished := by
  refine L.wiring_induction (P := fun _ _ w => w.Furnished) ⟨hs.input, hs.output⟩
    (fun e es x w ih hw => ?_) es
  cases hw with
  | kept e hw₀ => exact ih x w hw₀
  | opened direction d hw₀ => exact (ih x _ hw₀).opens direction d
  | piped pipe readEnd writeEnd hw₀ => exact ⟨(ih x _ hw₀).input, (ih x _ hw₀).output⟩
  | forked p side hw₀ hside => exact (ih p _ hw₀).side hside
  | stranded hw₀ => exact ⟨(ih x _ hw₀).input, (ih x _ hw₀).output⟩

/-! ## What a stance leaves free -/

namespace Stance

/-- With nothing in hand, a process has the table of its wiring. -/
theorem level (hst : Stance base context w c) (hc : c.isLevel) (hsettled : context.opening = none) :
    context.descriptors.get = w.table base := by
  cases hst with
  | opening _ _ _ _ _ _ hopening => cases hsettled.symm.trans hopening
  | run _ _ _ htable | waitLeft _ _ htable | waitRight _ _ htable | launch _ _ htable =>
    exact htable
  | _ => cases hc

/-- With two numbers free in its table, a process is not refused another one. -/
theorem refusal {a b : Fd} (hst : Stance base context w c) (hne : a ≠ b)
    (ha : w.table base a = none) (hb : w.table base b = none) (hal : a < context.limit)
    (hbl : b < context.limit) (hlimit : 1 < context.limit) {s : Store} {held : Object → Bool}
    {pid parent : Nat} {call : Call} {next : call.Reply → Control}
    (hcall : c.action ex = .call call next) {reply : call.Reply} {s' : Store} {context' : Context}
    (hdone : call.perform s context held pid parent = .done reply s' context') {e : Errno}
    (he : call.refusal? reply = some e) : e.isShortage = false := by
  cases hst with
  | run t _ _ htable =>
    rw [← htable] at ha hb
    cases t with
    | exec => cases hcall
    | redirect t file direction =>
      cases hcall
      cases reply with
      | ok => cases he
      | error e =>
        cases he
        by_contra hshort
        have hfull := Store.limit_le_of_openFile hdone (by simpa using hshort)
        have hfree := Nat.lt_of_le_of_lt (DescriptorTable.lowestFree_le ha) hal
        exact absurd hfull (Nat.not_le_of_lt hfree)
    | pipe left right =>
      cases hcall
      obtain ⟨fds, s₁, context₁, hok⟩ := Store.makePipe_ok (s := s) hne ha hb hal hbl
      cases hok.symm.trans hdone
      cases he
  | opening t file direction o d _ hopening =>
    cases hcall
    rcases Store.openFile_opening (s := s) hopening held file direction.flags ex.redirectMode
      with
      hok | hblocked
    · cases hok.symm.trans hdone
      cases he
    · cases hblocked.symm.trans hdone
  | bind fd target t d old _ _ htarget hnt _ _ hkept htable =>
    cases hcall
    have hsource : context.descriptors.get fd = some d := by rw [htable, Function.update_self]
    rcases Store.duplicate_done hsource hkept hnt hdone with ⟨_, -, -, hle⟩ | ⟨rfl, -⟩
    · exact absurd (Nat.le_trans hle htarget) (Nat.not_le_of_lt hlimit)
    · cases he
  | printing pieces | alarm pieces =>
    rcases pieces with _ | ⟨_ | ⟨b, bs⟩, rest⟩ <;> cases hcall
    cases he
  | _ =>
    cases hcall
    all_goals cases he

end Stance

/-! ## The whole line -/

/-- No process of a line is ever short of a number. A process that begins with a part of the line,
becomes a program, or waits for a side of a pipe has the same numbers open as the first one at the
start; a process that has begun to open a named pipe waits for a partner and is past its beginning.
-/
theorem LineStart.descriptor_budget (L : LineStart m₀) (hs : L.Supplied)
    (hrun : Run (Task.dynamics U ex) m₀ h m) (hx : m.processes[x]? = some proc)
    (hlife : proc.life = .active (.executing c)) :
    (c.isLevel → proc.context.opening = none →
      ∀ fd, (proc.context.descriptors.get fd).isSome = (L.base fd).isSome) ∧
    ∀ (call : Call) (next : call.Reply → Control), c.action ex = .call call next →
      ∀ reply store context e, call.perform m.store proc.context m.held (Pid.number x)
          (m.parentNumber proc) = .done reply store context →
        call.refusal? reply = some e → e ≠ .tooManyOpenFiles ∧ e ≠ .badDescriptor := by
  obtain ⟨hlimit, w, hw, hst⟩ := L.stance hrun x proc c hx hlife
  have htable := (L.furnished hs _ x w hw).isSome_table hs.input hs.output
  refine ⟨fun hc hsettled fd => by rw [hst.level hc hsettled, htable], ?_⟩
  intro call next hcall reply store context e hdone he
  obtain ⟨a, b, hne, hal, hbl, ha, hb⟩ := hs.room
  have hfree {fd : Fd} (hfd : L.base fd = none) : w.table L.base fd = none := by
    have := htable fd
    rwa [hfd, Option.isSome_none, Option.isSome_eq_false_iff, Option.isNone_iff_eq_none] at this
  have hlt := hs.one_lt_limit
  have hshort := hst.refusal hne (hfree ha) (hfree hb) (hlimit ▸ hal) (hlimit ▸ hbl) (hlimit ▸ hlt)
    hcall hdone he
  simpa [Errno.isShortage] using hshort

/-! ## Four numbers -/

/-- The context of a process that may have four descriptors, two of them open. -/
def Context.narrow : Context :=
  { Context.bare with descriptors := ⟨[some ⟨0, false⟩, some ⟨1, false⟩]⟩ }

/-- A machine whose only process is about to run a line with standard input and output open. -/
def Machine.narrow (U : Userland) (t : Command) : Machine (Task U.State) :=
  ⟨⟨.empty, [⟨.node 0, true, false, false, 0⟩, ⟨.node 0, false, true, false, 0⟩], [], [], .silent,
    0⟩, [⟨0, .narrow, .active (.executing (.run t))⟩], []⟩

def LineStart.narrow (U : Userland) (t : Command) : LineStart (.narrow U t) where
  root := 0
  tree := t
  parent := 0
  context := .narrow
  process := rfl
  settled := rfl
  alone p proc c hp _ := Nat.lt_one_iff.mp (List.getElem?_eq_some_iff.mp hp).1
  childless p proc hp _ := Nat.lt_one_iff.mp (List.getElem?_eq_some_iff.mp hp).1
  sound := by
    refine Machine.sound_singleton ⟨by simp [Object.pipe?], FileSystem.pipesBelow_empty⟩ ?_ rfl
    intro fd d hd
    match fd with
    | 0 | 1 => cases hd; simp
    | fd + 2 => cases hd

theorem LineStart.supplied_narrow (U : Userland) (t : Command) : (narrow U t).Supplied :=
  ⟨rfl, rfl, 2, 3, by decide, Nat.lt_add_one_of_lt (Nat.lt_add_one 2), Nat.lt_add_one 3, rfl, rfl⟩

/-- The right side of a pipe makes a pipe itself, with the last two numbers. -/
theorem LineStart.descriptor_budget_inner : ∃ h m proc,
    Run (Task.dynamics .idle .bare)
      (.narrow .idle (.pipe (.exec [[0x61]]) (.pipe (.exec [[0x62]]) (.exec [[0x63]])))) h m ∧
      m.processes[2]? = some proc ∧
      (∀ fd, (proc.context.descriptors.get fd).isSome = decide (fd < 2)) ∧
      ∀ e s context, m.store.makePipe proc.context = .done (.error e) s context →
        e ≠ .tooManyOpenFiles ∧ e ≠ .badDescriptor := by
  let right : Command := .pipe (.exec [[0x62]]) (.exec [[0x63]])
  let L := LineStart.narrow .idle (.pipe (.exec [[0x61]]) right)
  have hreached : ∃ h m proc, Run.replay (Task.dynamics .idle .bare) []
      (.narrow .idle (.pipe (.exec [[0x61]]) right))
      (List.replicate 4 (Move.step 0) ++ List.replicate 3 (Move.step 2)) = some (h, m) ∧
      m.processes[2]? = some proc ∧ proc.life = .active (.executing (.run right)) ∧
      proc.context.opening = none := ⟨_, _, _, rfl, rfl, rfl, rfl⟩
  obtain ⟨h, m, proc, hr, hx, hlife, hsettled⟩ := hreached
  have hrun := Run.of_replay .start hr
  obtain ⟨hlevel, hcalls⟩ :=
    descriptor_budget L (supplied_narrow _ _) hrun hx hlife
  refine ⟨h, m, proc, hrun, hx, fun fd => ?_, fun e s context hdone => ?_⟩
  · rw [hlevel rfl hsettled]
    match fd with
    | 0 | 1 => rfl
    | fd + 2 => simp [L, narrow, base, Context.narrow, DescriptorTable.get]
  · exact hcalls .makePipe _ rfl _ s context e hdone rfl

end PipeShell
