import PipeShell.Proofs.Executor.EndOfFile
import PipeShell.Proofs.Executor.Reaping
import PipeShell.Proofs.Executor.Sides

/-!
# The part that a process was started for

The wiring of a process changes while it works its way into its part. `LineStart.given` is the
wiring that it was started with: the whole line for the first process, and one side of the wiring of
the process that started it for everybody else (`LineStart.given_of_forked`). Whoever runs a part of
the line was given one (`LineStart.given_of_executing`).

A process for a side has its end of the pipe to bring to its place before it begins, which cannot
fail, since a process that can make a pipe may have two descriptors (`LineStart.begins`).
-/

namespace PipeShell

variable {U : Userland} {ex : Executor} {m₀ m m' : Machine (Task U.State)}
  {h : Past (Task U.State)} {mv : Move} {p x : Pid} {proc proc' : Process (Task U.State)}
  {c c' : Control} {es : List Event} {w : Wiring}

namespace LineStart

variable (L : LineStart m₀)

/-! ## Given wiring -/

/-- The wiring that processes were started with, after some events, latest first. -/
def given : List Event → Pid → Option Wiring
  | [] => Function.update (fun _ => none) L.root (some L.whole)
  | .forked p side child :: es =>
    Function.update (given es) child ((L.wiring es p).bind fun w => w.side? side)
  | _ :: es => given es

@[simp] theorem given_nil_root : L.given [] L.root = some L.whole := by
  simp [given]

theorem given_cons {e : Event} (he : ∀ p side, e ≠ .forked p side x) :
    L.given (e :: es) x = L.given es x := by
  cases e with
  | forked p side child =>
    have hne : x ≠ child := by
      rintro rfl
      exact he p side rfl
    simp [given, hne]
  | _ => rfl

/-- Nothing is given anew to a process that is there. -/
theorem given_of_lt (hx : x < m.processes.length) :
    L.given (events U ex ((m, mv) :: h)) x = L.given (events U ex h) x := by
  rw [events_cons]
  cases he : m.event? U ex mv with
  | none => rfl
  | some e =>
    refine L.given_cons fun p side heq => ?_
    subst heq
    exact absurd (forked_of_event? he).1 (Nat.ne_of_lt hx)

theorem given_forked {side : Side} {child : Pid}
    (he : m.event? U ex mv = some (.forked p side child)) :
    L.given (events U ex ((m, mv) :: h)) child =
      (L.wiring (events U ex h) p).bind fun w => w.side? side := by
  rw [events_cons, he]
  simp [given]

/-- Who was given a wiring is the first process of the line or was started for a side. -/
theorem forked_of_given (hx : L.given es x = some w) :
    x = L.root ∨ ∃ p side, .forked p side x ∈ es := by
  induction es with
  | nil =>
    by_cases hroot : x = L.root
    · exact Or.inl hroot
    · simp [given, hroot] at hx
  | cons e es ih =>
    by_cases he : ∃ p side, e = .forked p side x
    · obtain ⟨p, side, rfl⟩ := he
      exact Or.inr ⟨p, side, .head _⟩
    · rw [L.given_cons fun p side heq => he ⟨p, side, heq⟩] at hx
      exact (ih hx).imp_right fun ⟨p, side, hf⟩ => ⟨p, side, .tail _ hf⟩

/-- Who was given a wiring is there. -/
theorem lt_of_given (hrun : Run (Task.dynamics U ex) m₀ h m)
    (hx : L.given (events U ex h) x = some w) : x < m.processes.length := by
  rcases L.forked_of_given hx with rfl | ⟨p, side, hf⟩
  · exact Nat.lt_of_lt_of_le (List.getElem?_eq_some_iff.mp L.process).1 hrun.length_le
  · obtain ⟨-, -, proc, hx, -⟩ := child_of_forked hrun hf
    exact (List.getElem?_eq_some_iff.mp hx).1

/-! ## Sides -/

/-- Who has started somebody for a side has made a pipe. -/
theorem piped_of_forked (L : LineStart m₀) (hrun : Run (Task.dynamics U ex) m₀ h m)
    {side : Side} {child : Pid} (hf : .forked p side child ∈ events U ex h) :
    ∃ pipe readEnd writeEnd, .piped p pipe readEnd writeEnd ∈ events U ex h := by
  induction hrun with
  | start => simp [events] at hf
  | @move h m m' hrun mv hm ih =>
    rcases mem_events_cons.mp hf with he | hf
    · have hlength : (pipesOf (events U ex h) p).length = 1 := by
        rcases event?_eq_some he with ⟨_, _, heq, -⟩ | ⟨q, proc, c, rfl, hq, hlife, hc⟩
        · cases heq
        · have hs := (L.sides hrun q proc hq (not_stranded_of_event? hrun hq hlife hc)).1 c hlife
          cases Control.makes_of_event? hc with
          | left | right => exact hs.1
      obtain ⟨⟨readEnd, writeEnd⟩, hpipes⟩ := List.length_eq_one_iff.mp hlength
      obtain ⟨pipe, hp⟩ := mem_pipesOf.mp (hpipes ▸ List.mem_singleton_self (readEnd, writeEnd))
      exact ⟨pipe, readEnd, writeEnd, mem_events_cons.mpr (Or.inr hp)⟩
    · obtain ⟨pipe, readEnd, writeEnd, hp⟩ := ih hf
      exact ⟨pipe, readEnd, writeEnd, mem_events_cons.mpr (Or.inr hp)⟩

/-- The sides of the wiring of a process that has started somebody do not change any more. -/
theorem side_of_forked (hrun : Run (Task.dynamics U ex) m₀ h m) {side : Side} {child : Pid}
    (hf : .forked p side child ∈ events U ex h) (mv : Move)
    (hw : L.wiring (events U ex h) p = some w) :
    ∃ w', L.wiring (events U ex ((m, mv) :: h)) p = some w' ∧
      ∀ side, w'.side? side = w.side? side := by
  obtain ⟨-, hlt, procx, hx, -⟩ := child_of_forked hrun hf
  have hp := List.getElem?_eq_getElem (Nat.lt_trans hlt (List.getElem?_eq_some_iff.mp hx).1)
  have hstarted : startedOf (events U ex h) p ≠ [] :=
    List.ne_nil_of_mem (mem_startedOf.mpr hf)
  rw [wiring_events_cons]
  cases he : m.event? U ex mv with
  | none => exact ⟨w, hw, fun _ => rfl⟩
  | some e =>
    rcases event?_eq_some he with ⟨q, child', rfl, -⟩ | ⟨q, proc, c, rfl, hq, hlife, hc⟩
    · refine ⟨w, ?_, fun _ => rfl⟩
      by_cases heq : p = q
      · subst heq
        simp [Event.after, Event.mover, Event.advance, hw]
      · simp [Event.after, Event.mover, heq, hw]
    · have hs := (L.sides hrun q proc hq (not_stranded_of_event? hrun hq hlife hc)).1 c hlife
      have hne (hnone : startedOf (events U ex h) q = []) : p ≠ q := by
        rintro rfl
        exact hstarted hnone
      cases Control.makes_of_event? hc with
      | opened | piped => exact ⟨w, by simp [Event.after, Event.mover, hne hs.2, hw], fun _ => rfl⟩
      | noLeft => exact ⟨w, by simp [Event.after, Event.mover, hne hs.2, hw], fun _ => rfl⟩
      | left | right =>
        have hnew : p ≠ m.processes.length := Nat.ne_of_lt (List.getElem?_eq_some_iff.mp hp).1
        exact ⟨w, by simp [Event.after, hnew, hw], fun _ => rfl⟩
      | noRight =>
        by_cases heq : p = q
        · subst heq
          exact ⟨{ w with stranded := true },
            by simp [Event.after, Event.mover, Event.advance, hw], fun _ => rfl⟩
        · exact ⟨w, by simp [Event.after, Event.mover, heq, hw], fun _ => rfl⟩

/-- A process for a side was given that side of the wiring of the one who started it. -/
theorem given_of_forked (hrun : Run (Task.dynamics U ex) m₀ h m) {side : Side} {child : Pid}
    (hf : .forked p side child ∈ events U ex h) :
    ∃ w w', L.wiring (events U ex h) p = some w ∧ w.side? side = some w' ∧
      L.given (events U ex h) child = some w' := by
  induction hrun with
  | start => simp [events] at hf
  | @move h m m' hrun mv hm ih =>
    rcases mem_events_cons.mp hf with he | hf
    · rw [L.given_forked he]
      rcases event?_eq_some he with ⟨_, _, heq, -⟩ | ⟨q, proc, c, rfl, hq, hlife, hc⟩
      · cases heq
      · obtain ⟨-, w, hw, hst⟩ := L.stance hrun q proc c hq hlife
        have hkept : L.wiring (events U ex ((m, .step q) :: h)) q = some w := by
          rw [wiring_step L hq hlife, hw, hc, Option.map_some, Option.elim_some]
          cases Control.makes_of_event? hc <;> rfl
        cases Control.makes_of_event? hc with
        | left =>
          cases hst with
          | forkLeft hpipe =>
            obtain ⟨w', hside, -⟩ := Stance.left hpipe
            exact ⟨w, w', hkept, hside, by rw [hw]; exact hside⟩
        | right =>
          cases hst with
          | forkRight _ hpipe =>
            obtain ⟨w', hside, -⟩ := Stance.right hpipe
            exact ⟨w, w', hkept, hside, by rw [hw]; exact hside⟩
    · obtain ⟨-, -, procx, hx, -⟩ := child_of_forked hrun hf
      obtain ⟨w, w', hw, hside, hgiven⟩ := ih hf
      obtain ⟨w₁, hw₁, hsame⟩ := L.side_of_forked hrun hf mv hw
      rw [L.given_of_lt (List.getElem?_eq_some_iff.mp hx).1]
      exact ⟨w₁, w', hw₁, (hsame side).trans hside, hgiven⟩

/-- Who runs a part of the line was given one. -/
theorem given_of_executing (hrun : Run (Task.dynamics U ex) m₀ h m) :
    ∀ (x : Pid) (proc : Process (Task U.State)) (c : Control), m.processes[x]? = some proc →
      proc.life = .active (.executing c) → ∃ w, L.given (events U ex h) x = some w := by
  induction hrun with
  | start =>
    intro x proc c hx hlife
    rw [L.alone x proc c hx hlife]
    exact ⟨L.whole, L.given_nil_root⟩
  | @move h m m' hrun mv hm ih =>
    intro x proc' c' hx hlife'
    cases Machine.make?_proceeds hm hx hlife' with
    | acted _ hp hlife | kept _ hp hlife | told _ hp hlife =>
      rw [L.given_of_lt (List.getElem?_eq_some_iff.mp hp).1]
      exact ih x _ _ hp hlife
    | left hmv hp hlife hlength hgranted | right hmv hp hlife hlength hgranted =>
      subst hmv hlength
      obtain ⟨_, w', -, -, hw'⟩ := L.given_of_forked (hrun.move _ hm) (mem_events_cons.mpr
        (Or.inl (event?_of_control hp hlife (congrArg some
          (Machine.forkEvent_granted hgranted _ _)))))
      exact ⟨w', hw'⟩

end LineStart

/-! ## Taking the end of the pipe -/

/-- Whether a process has its end of a pipe to bring to its place. -/
def Control.isPlacing : Control → Bool
  | leave .. | bind .. => true
  | _ => false

/-- A process that has just been started for a side has its end of the pipe to bring to its place.
-/
theorem placing_of_event? (hm : m.make? (Task.dynamics U ex) mv = some m') {side : Side}
    (he : m.event? U ex mv = some (.forked p side x)) :
    ∃ proc c, m'.processes[x]? = some proc ∧ proc.life = .active (.executing c) ∧ c.isPlacing := by
  rcases event?_eq_some he with ⟨_, _, heq, -⟩ | ⟨q, proc, c, rfl, hq, hlife, hc⟩
  · cases heq
  simp only [Machine.make?, Machine.step, Machine.active?_eq_some.mpr ⟨hq, hlife⟩, Task.dynamics]
    at hm
  cases Control.makes_of_event? hc with
  | left ends left right hgranted =>
    simp only [Control.action, Action.map, Machine.act, hgranted, Option.some.injEq] at hm
    subst hm
    exact ⟨⟨p, { proc.context with pending := [] }, _⟩,
      .leave ends.readEnd ends.writeEnd Fd.stdout left,
      by simp [Machine.spawn, Machine.setProcess, Machine.attempted], rfl, rfl⟩
  | right ends child right hgranted =>
    simp only [Control.action, Action.map, Machine.act, hgranted, Option.some.injEq] at hm
    subst hm
    exact ⟨⟨p, { proc.context with pending := [] }, _⟩,
      .leave ends.writeEnd ends.readEnd Fd.stdin right,
      by simp [Machine.spawn, Machine.setProcess, Machine.attempted], rfl, rfl⟩

/-- Who is not there was answered nothing. -/
theorem answers_of_le (hrun : Run (Task.dynamics U ex) m₀ h m) (hx : m.processes.length ≤ x) :
    answers ex h x = [] := by
  induction hrun with
  | start => rfl
  | @move h m m' hrun mv hm ih =>
    have hle := Nat.le_trans (Machine.length_le_of_make? hm) hx
    rw [answers_of_not_executing fun proc c hp =>
      absurd (List.getElem?_eq_some_iff.mp hp).1 (Nat.not_lt_of_le hle)]
    exact ih hle

/-- Who is started by a move has been answered nothing. -/
theorem answers_cons_of_le (hrun : Run (Task.dynamics U ex) m₀ h m)
    (hx : m.processes.length ≤ x) (mv : Move) : answers ex ((m, mv) :: h) x = [] := by
  rw [answers_of_not_executing fun proc c hp =>
    absurd (List.getElem?_eq_some_iff.mp hp).1 (Nat.not_lt_of_le hx)]
  exact answers_of_le hrun hx

/-- A step brings the end of a pipe to its place, or leads to the step that does. -/
theorem Control.place_step {base : Fd → Option Descriptor} (hc : c.isPlacing)
    (hst : Stance base proc.context w c) (hlimit : 1 < proc.context.limit)
    (hlife : proc.life = .active (.executing c)) {store : Store}
    (hacts : Machine.Acts (Task.dynamics U ex) m p proc
      ((Task.dynamics U ex).action (.executing c)) proc' store)
    (hlife' : proc'.life = .active (.executing c')) :
    c.answers ex m proc.context = [.bound true] ∨
      c.answers ex m proc.context = [] ∧ c'.isPlacing := by
  cases c with
  | leave unneeded kept target t =>
    replace hacts : Machine.Acts _ m p proc (.call (.close unneeded)
      fun _ => .executing (settle kept target t)) proc' store := hacts
    obtain ⟨⟨closed, heq⟩, -⟩ := hacts.of_close hlife'
    cases heq
    simp only [answers, placed, settle]
    split
    · exact Or.inl rfl
    · exact Or.inr ⟨rfl, rfl⟩
  | bind fd target t =>
    replace hacts : Machine.Acts _ m p proc (.call (.duplicate fd target)
      fun copied => .executing (.release fd copied t)) proc' store := hacts
    cases hst with
    | bind _ _ _ d old _ _ htarget hne _ _ hkept htable =>
      have hsource : proc.context.descriptors.get fd = some d := by
        rw [htable, Function.update_self]
      rcases hacts.call_cases hlife' with ⟨reply, context, hdup, -, -⟩ | ⟨_, hdup, -, -⟩
      · replace hdup : m.store.duplicate proc.context fd target = .done reply store context := hdup
        rcases Store.duplicate_done hsource hkept hne hdup with ⟨_, -, -, hle⟩ | ⟨rfl, -⟩
        · exact absurd (Nat.le_trans hle htarget) (Nat.not_le_of_lt hlimit)
        · left
          simp only [answers, hdup]
          rfl
      · exact absurd hdup Store.duplicate_ne_underway
  | _ => cases hc

/-- Nothing ends a process by a step of its own while it has its end of a pipe to bring to its
place. -/
theorem Control.not_ended_of_isPlacing (hc : c.isPlacing)
    (hlife : proc.life = .active (.executing c)) {store : Store}
    (hacts : Machine.Acts (Task.dynamics U ex) m p proc
      ((Task.dynamics U ex).action (.executing c)) proc' store) (status : ExitStatus) :
    proc'.life ≠ .ended status := by
  intro hlife'
  have called {k : Call} {next : k.Reply → Task U.State}
      (hcall : ∀ signal, k.perform m.store proc.context m.held (Pid.number p)
        (m.parentNumber proc) ≠ .killed signal)
      (hacts : Machine.Acts (Task.dynamics U ex) m p proc (.call k next) proc' store) :
      False := by
    cases hacts with
    | done => cases hlife'
    | underway => cases hlife.symm.trans hlife'
    | killed hc => exact hcall _ hc
  cases c with
  | leave unneeded kept target t =>
    refine called (k := .close unneeded) (fun signal h => ?_) hacts
    simp only [Call.perform, Store.close] at h
    split at h <;> cases h
  | bind fd target t =>
    refine called (k := .duplicate fd target) (fun signal h => ?_) hacts
    simp only [Call.perform, Store.duplicate] at h
    repeat' split at h
    all_goals cases h
  | _ => cases hc

namespace LineStart

variable (L : LineStart m₀)

/-- Who was started for a side may have two descriptors. -/
theorem one_lt_limit_of_given (hrun : Run (Task.dynamics U ex) m₀ h m)
    (hx : L.given (events U ex h) x = some w) (hroot : x ≠ L.root) : 1 < L.context.limit := by
  obtain ⟨p, side, hf⟩ := (L.forked_of_given hx).resolve_left hroot
  obtain ⟨pipe, readEnd, writeEnd, hp⟩ := L.piped_of_forked hrun hf
  exact L.one_lt_limit hrun hp

/-- Who is given a wiring by a move has just been started for a side. -/
theorem forked_of_given_of_le (hrun : Run (Task.dynamics U ex) m₀ h m)
    (hx : L.given (events U ex ((m, mv) :: h)) x = some w) (hle : m.processes.length ≤ x) :
    ∃ p side, m.event? U ex mv = some (.forked p side x) := by
  have hroot : x ≠ L.root := by
    rintro rfl
    have hlt := Nat.lt_of_lt_of_le (List.getElem?_eq_some_iff.mp L.process).1 hrun.length_le
    exact absurd hlt (Nat.not_lt_of_le hle)
  obtain ⟨p, side, hf⟩ := (L.forked_of_given hx).resolve_left hroot
  refine ⟨p, side, (mem_events_cons.mp hf).resolve_right fun hold => ?_⟩
  obtain ⟨-, -, procx, hx, -⟩ := child_of_forked hrun hold
  exact absurd (List.getElem?_eq_some_iff.mp hx).1 (Nat.not_lt_of_le hle)

/-- A process that has not opened a file or made a pipe has the wiring that it was given. -/
theorem wiring_of_answers (hrun : Run (Task.dynamics U ex) m₀ h m) :
    ∀ x w, L.given (events U ex h) x = some w →
      (∀ a ∈ answers ex h x, ∃ succeeded, a = .bound succeeded) →
      L.wiring (events U ex h) x = some w := by
  induction hrun with
  | start =>
    intro x w hx _
    rcases L.forked_of_given hx with rfl | ⟨p, side, hf⟩
    · exact L.wiring_nil_root.trans (L.given_nil_root.symm.trans hx)
    · cases hf
  | @move h m m' hrun mv hm ih =>
    intro x w hx has
    by_cases hlt : x < m.processes.length
    · rw [L.given_of_lt hlt] at hx
      have hold := ih x w hx fun a ha => has a (List.mem_append_left _ ha)
      rw [wiring_events_cons]
      cases he : m.event? U ex mv with
      | none => exact hold
      | some e =>
        rcases event?_eq_some he with ⟨q, child, rfl, -⟩ | ⟨q, proc, c, rfl, hq, hlife, hc⟩
        · by_cases hxq : x = q
          · subst hxq
            simp [Event.after, Event.mover, Event.advance, hold]
          · simpa [Event.after, Event.mover, hxq] using hold
        · have quiet (hxq : x = q) {a : Answer} (ha : a ∈ c.answers ex m proc.context) :
              ∃ succeeded, a = .bound succeeded := by
            subst hxq
            rw [answers_step hq hlife] at has
            exact has a (List.mem_append_right _ ha)
          cases Control.makes_of_event? hc with
          | opened hopen =>
            by_cases hxq : x = q
            · simp only [Control.answers, hopen] at quiet
              obtain ⟨_, heq⟩ := quiet hxq (.head _)
              cases heq
            · simpa [Event.after, Event.mover, hxq] using hold
          | piped hmake =>
            by_cases hxq : x = q
            · simp only [Control.answers, hmake] at quiet
              obtain ⟨_, heq⟩ := quiet hxq (.head _)
              cases heq
            · simpa [Event.after, Event.mover, hxq] using hold
          | left | right => simpa [Event.after, Nat.ne_of_lt hlt] using hold
          | noLeft _ _ _ hrefused | noRight _ _ _ hrefused =>
            by_cases hxq : x = q
            · simp only [Control.answers, hrefused] at quiet
              obtain ⟨_, heq⟩ := quiet hxq (.head _)
              cases heq
            · simpa [Event.after, Event.mover, hxq] using hold
    · obtain ⟨p, side, he⟩ := L.forked_of_given_of_le hrun hx (Nat.not_lt.mp hlt)
      rw [L.given_forked he] at hx
      rw [wiring_forked L he]
      exact hx

/-- Who is started by a move has been answered nothing, has the wiring that it was given, and has
its end of a pipe to bring to its place first. -/
theorem newcomer (hrun : Run (Task.dynamics U ex) m₀ h m)
    (hm : m.make? (Task.dynamics U ex) mv = some m')
    (hgiven : L.given (events U ex ((m, mv) :: h)) x = some w) (hle : m.processes.length ≤ x) :
    answers ex ((m, mv) :: h) x = [] ∧ L.wiring (events U ex ((m, mv) :: h)) x = some w ∧
      ∃ proc c, m'.processes[x]? = some proc ∧ proc.life = .active (.executing c) ∧ c.isPlacing ∧
        Stance L.base proc.context w c := by
  obtain ⟨p, side, he⟩ := L.forked_of_given_of_le hrun hgiven hle
  obtain ⟨proc, c, hx, hlife, hc⟩ := placing_of_event? hm he
  have hnone := answers_cons_of_le hrun hle mv
  have hwiring := L.wiring_of_answers (hrun.move mv hm) x w hgiven (by simp [hnone])
  obtain ⟨-, w', hw', hst⟩ := L.stance (hrun.move mv hm) x proc c hx hlife
  obtain rfl := Option.some.inj (hw'.symm.trans hwiring)
  exact ⟨hnone, hwiring, proc, c, hx, hlife, hc, hst⟩

/-- A process for a side has brought its end of the pipe to its place, or is about to do so, or a
signal has ended it before. -/
theorem begins (hrun : Run (Task.dynamics U ex) m₀ h m) :
    ∀ x w, L.given (events U ex h) x = some w → x ≠ L.root →
      (∃ as, answers ex h x = .bound true :: as) ∨
        answers ex h x = [] ∧
          ((∃ proc c, m.processes[x]? = some proc ∧ proc.life = .active (.executing c) ∧
              c.isPlacing) ∨
            ∃ signal, Ended h m x (.signaled signal)) := by
  induction hrun with
  | start =>
    intro x w hx hroot
    simp [events, given, hroot] at hx
  | @move h m m' hrun mv hm ih =>
    intro x w hgiven hroot
    by_cases hlt : x < m.processes.length
    · rw [L.given_of_lt hlt] at hgiven
      have hlimit := L.one_lt_limit_of_given hrun hgiven hroot
      rcases ih x w hgiven hroot with ⟨as, has⟩ | ⟨hnone, ⟨proc, c, hx, hlife, hc⟩ | ⟨signal, he⟩⟩
      · exact Or.inl ⟨as ++ m.answers ex mv x, by rw [answers, has, List.cons_append]⟩
      · obtain ⟨proc', hx'⟩ := Machine.exists_of_make? hm hx
        cases Machine.make?_continues hm hx hlife hx' with
        | stepped hmv c' hlife' =>
          subst hmv
          obtain ⟨proc₁, hx₁, hacts⟩ := Machine.acts_of_step hm hx hlife
          obtain rfl := Option.some.inj (hx'.symm.trans hx₁)
          obtain ⟨heq, w', -, hst⟩ := L.stance hrun x proc c hx hlife
          rw [answers_step hx hlife, hnone, List.nil_append]
          rcases Control.place_step hc hst (heq ▸ hlimit) hlife hacts hlife' with
            hbound | ⟨hquiet, hc'⟩
          · exact Or.inl ⟨[], hbound⟩
          · exact Or.inr ⟨hquiet, Or.inl ⟨proc', c', hx', hlife', hc'⟩⟩
        | stayed hmv hlife' =>
          rw [answers_of_ne hmv]
          exact Or.inr ⟨hnone, Or.inl ⟨proc', c, hx', hlife', hc⟩⟩
        | became _ argv hlaunch =>
          subst hlaunch
          cases hc
        | ended hmv status hlife' =>
          subst hmv
          obtain ⟨proc₁, hx₁, hacts⟩ := Machine.acts_of_step hm hx hlife
          obtain rfl := Option.some.inj (hx'.symm.trans hx₁)
          exact absurd hlife' (Control.not_ended_of_isPlacing hc hlife hacts status)
        | killed hmv signal hlife' =>
          rw [answers_of_ne hmv]
          exact Or.inr ⟨hnone, Or.inr ⟨signal, .of_life hx' hlife'⟩⟩
      · obtain ⟨-, hended⟩ := he.inactive hrun
        rw [answers_of_not_executing fun proc c hx hlife => by
          rw [Machine.active?_eq_some.mpr ⟨hx, hlife⟩] at hended
          cases hended]
        exact Or.inr ⟨hnone, Or.inr ⟨signal, he.move mv m'⟩⟩
    · obtain ⟨hnone, -, proc, c, hx, hlife, hc, -⟩ :=
        L.newcomer hrun hm hgiven (Nat.not_lt.mp hlt)
      exact Or.inr ⟨hnone, Or.inl ⟨proc, c, hx, hlife, hc⟩⟩

end LineStart

end PipeShell
