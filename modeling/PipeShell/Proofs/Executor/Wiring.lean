import PipeShell.Proofs.Executor.Moves
import PipeShell.Proofs.Executor.Stance

/-!
# Descriptors are wired as the line says

Every process that runs a part of a line has been wired by the events so far, and keeps to its
stance (`LineStart.stance`): whichever processes move, whatever programs do, and whichever of the
standard descriptors were free when the line was started. When a process is about to become a
program, its table is the one that the line was started with, except that standard input and output
are those of its wiring. In particular no other end of a pipe of the line is open in it, since the
pipes of a line are new ones (`LineStart.pipes_new`).
-/

namespace PipeShell

variable {U : Userland} {ex : Executor} {m₀ m m' : Machine (Task U.State)}
  {h : Past (Task U.State)} {mv : Move} {p x : Pid} {proc proc' : Process (Task U.State)}
  {c c' : Control}

/-! ## Processes that run a part of a line -/

namespace LineStart

variable (L : LineStart m₀)

/-- Every process that runs a part of the line keeps to its stance. -/
theorem stance (hrun : Run (Task.dynamics U ex) m₀ h m) :
    ∀ (x : Pid) (proc : Process (Task U.State)) (c : Control), m.processes[x]? = some proc →
      proc.life = .active (.executing c) →
      proc.context.limit = L.context.limit ∧
        ∃ w, L.wiring (events U ex h) x = some w ∧ Stance L.base proc.context w c := by
  induction hrun with
  | start =>
    intro x proc c hx hlife
    obtain rfl := L.alone x proc c hx hlife
    obtain rfl := Option.some.inj (L.process.symm.trans hx)
    cases hlife
    refine ⟨rfl, L.whole, L.wiring_nil_root, .run L.tree rfl L.settled ?_⟩
    simp only [Wiring.table, whole, Function.update_eq_self]
    rfl
  | @move h m m' hrun mv hm ih =>
    intro x proc' c' hx hlife'
    cases Machine.make?_proceeds hm hx hlife' with
    | acted hmv hp hlife hacts =>
      subst hmv
      obtain ⟨hlimit, w, hw, hst⟩ := ih x _ _ hp hlife
      obtain ⟨hst', hlimit'⟩ := hst.step hlife hacts hlife'
      refine ⟨hlimit'.trans hlimit, _, ?_, hst'⟩
      rw [wiring_step L hp hlife, hw, Option.map_some]
    | kept hmv hp hlife =>
      rw [wiring_of_ne L hmv (List.getElem?_eq_some_iff.mp hp).1]
      exact ih x _ c' hp hlife
    | told hmv hp hlife signal =>
      rw [wiring_of_ne L hmv (List.getElem?_eq_some_iff.mp hp).1]
      obtain ⟨hlimit, w, hw, hst⟩ := ih x _ c' hp hlife
      exact ⟨hlimit, w, hw, hst.told signal⟩
    | left hmv hp hlife hlength hgranted =>
      subst hmv hlength
      obtain ⟨hlimit, w, hw, hst⟩ := ih _ _ _ hp hlife
      cases hst with
      | forkLeft hpipe =>
        obtain ⟨w', hside, hst'⟩ := Stance.left hpipe
        refine ⟨hlimit, w', ?_, hst'⟩
        rw [wiring_forked L (event?_of_control hp hlife
          (congrArg some (Machine.forkEvent_granted hgranted _ _))), hw]
        exact hside
    | right hmv hp hlife hlength hgranted =>
      subst hmv hlength
      obtain ⟨hlimit, w, hw, hst⟩ := ih _ _ _ hp hlife
      cases hst with
      | forkRight _ hpipe =>
        obtain ⟨w', hside, hst'⟩ := Stance.right hpipe
        refine ⟨hlimit, w', ?_, hst'⟩
        rw [wiring_forked L (event?_of_control hp hlife
          (congrArg some (Machine.forkEvent_granted hgranted _ _))), hw]
        exact hside

end LineStart

/-! ## The pipes of a line -/

/-- Making a pipe makes a new one. -/
theorem piped_of_event? {pipe : PipeId} {readEnd writeEnd : Descriptor}
    (hm : m.make? (Task.dynamics U ex) mv = some m')
    (he : m.event? U ex mv = some (.piped p pipe readEnd writeEnd)) :
    (∃ proc left right, mv = .step p ∧ m.processes[p]? = some proc ∧
        proc.life = .active (.executing (.run (.pipe left right))) ∧ 1 < proc.context.limit ∧
        ∃ fds s context, m.store.makePipe proc.context = .done (.ok fds) s context) ∧
      pipe = m.store.pipes.length ∧ m'.store.pipes.length = pipe + 1 ∧
      m.store.descriptions.length ≤ writeEnd.description ∧
      m'.store.objectOf? readEnd = some (.readEnd pipe) ∧
      m'.store.objectOf? writeEnd = some (.writeEnd pipe) := by
  rcases event?_eq_some he with ⟨q, child, hreaped, -⟩ | ⟨q, proc, c, rfl, hq, hlife, hc⟩
  · cases hreaped
  cases Control.makes_of_event? hc with
  | @piped left right readFd writeFd s' context' _ _ hmake hread hwrite =>
    obtain ⟨proc', -, hacts⟩ := Machine.acts_of_step hm hq hlife
    replace hacts : Machine.Acts _ m p proc (.call .makePipe
      fun reply => .executing (Control.afterPipe left right reply)) proc' m'.store := hacts
    have hstore := (hacts.of_done hmake).1
    rcases Store.makePipe_cases m.store proc.context with ⟨e, hpipe⟩ |
      ⟨s₁, r, v, hr, hv, -, -, hne, -, hpipes, hdescriptions, hpipe⟩
    · cases hmake.symm.trans hpipe
    · cases hmake.symm.trans hpipe
      simp only [DescriptorTable.get_set, if_neg hne, if_pos, Option.some.injEq] at hread hwrite
      refine ⟨⟨proc, left, right, rfl, hq, hlife, by omega, _, _, _, hmake⟩, rfl, ?_, ?_, ?_, ?_⟩
      · rw [hstore, hpipes, List.length_append, List.length_singleton]
      · simp [← hwrite]
      · simp [hstore, Store.objectOf?, hdescriptions, ← hread]
      · simp [hstore, Store.objectOf?, hdescriptions, ← hwrite]

/-- The ends of a pipe that is made just now are new descriptions. -/
theorem ends_new_of_event? (hs : m.Sound) {pipe : PipeId} {readEnd writeEnd : Descriptor}
    (hm : m.make? (Task.dynamics U ex) mv = some m')
    (he : m.event? U ex mv = some (.piped p pipe readEnd writeEnd)) :
    m.store.descriptions.length ≤ readEnd.description ∧
      m.store.descriptions.length ≤ writeEnd.description := by
  obtain ⟨-, rfl, -, hwrite, hread, -⟩ := piped_of_event? hm he
  refine ⟨Nat.le_of_not_lt fun hlt => ?_, hwrite⟩
  -- An old description is of no pipe that has not been there.
  rw [(hs.grows hm).1.objectOf?_eq hlt, Store.objectOf?, List.getElem?_eq_getElem hlt,
    Option.map_some, Option.some.injEq] at hread
  exact absurd (hs.store.descriptions _ (List.getElem_mem hlt) _ (by rw [hread]; rfl))
    (Nat.lt_irrefl _)

/-- The pipes of a line are new, and the ends that were made are theirs. -/
theorem pipes_new (hs : m₀.Sound) (hrun : Run (Task.dynamics U ex) m₀ h m) :
    (∀ p pipe readEnd writeEnd, .piped p pipe readEnd writeEnd ∈ events U ex h →
        m₀.store.pipes.length ≤ pipe ∧ pipe < m.store.pipes.length ∧
        m.store.objectOf? readEnd = some (.readEnd pipe) ∧
        m.store.objectOf? writeEnd = some (.writeEnd pipe)) ∧
      ((events U ex h).filterMap Event.pipe?).Nodup := by
  induction hrun with
  | start => simp [events]
  | @move h m m' hrun mv hm ih =>
    obtain ⟨hends, hnodup⟩ := ih
    obtain ⟨hgrows, -⟩ := (hrun.sound hs).grows hm
    refine ⟨fun p pipe readEnd writeEnd hpiped => ?_, ?_⟩
    · rcases mem_events_cons.mp hpiped with he | hpiped
      · obtain ⟨-, rfl, hlength, -, hread, hwrite⟩ := piped_of_event? hm he
        exact ⟨(hrun.grows hs).pipes, by omega, hread, hwrite⟩
      · obtain ⟨hnew, hlt, hread, hwrite⟩ := hends p pipe readEnd writeEnd hpiped
        exact ⟨hnew, Nat.lt_of_lt_of_le hlt hgrows.pipes, hgrows.objectOf? hread,
          hgrows.objectOf? hwrite⟩
    · rw [events_cons]
      cases he : m.event? U ex mv with
      | none => exact hnodup
      | some e =>
        cases e with
        | piped p pipe readEnd writeEnd =>
          obtain ⟨-, rfl, -⟩ := piped_of_event? hm he
          refine List.nodup_cons.mpr ⟨fun hmem => ?_, hnodup⟩
          obtain ⟨e, hmem, hpipe⟩ := List.mem_filterMap.mp hmem
          cases e with
          | piped p pipe readEnd writeEnd =>
            cases hpipe
            exact absurd (hends _ _ _ _ hmem).2.1 (Nat.lt_irrefl _)
          | _ => cases hpipe
        | _ => exact hnodup

/-! ## Programs start with the wiring of their part -/

namespace LineStart

variable (L : LineStart m₀)

/-- What the line was started with is no end of a pipe of the line. -/
theorem pipe_lt_of_base (hrun : Run (Task.dynamics U ex) m₀ h m) {fd : Fd} {d : Descriptor}
    {object : Object} {pipe : PipeId} (hd : L.base fd = some d)
    (hobject : m.store.objectOf? d = some object) (hpipe : object.pipe? = some pipe) :
    pipe < m₀.store.pipes.length := by
  have hlt := L.sound.tables L.root _ L.process fd d hd
  have hdesc := List.getElem?_eq_getElem hlt
  have hobject' : m₀.store.objectOf? d = some m₀.store.descriptions[d.description].object := by
    simp [Store.objectOf?, hdesc]
  obtain rfl := Option.some.inj (((hrun.grows L.sound).objectOf? hobject').symm.trans hobject)
  exact L.sound.store.descriptions _ (List.getElem_mem hlt) pipe hpipe

/-- A process that is about to become a program runs a single command. It has open what the line was
started with, except that its standard input and output are those that the wiring gives to this
command. The pipes in the wiring are new and all different, and no end of any of them is open under
any other number. -/
theorem launch_wired (hrun : Run (Task.dynamics U ex) m₀ h m) {argv : List Bytes}
    (hp : m.active? p = some (proc, .executing (.launch argv))) :
    ∃ w, L.wiring (events U ex h) p = some w ∧ w.part = .exec argv ∧
      (∀ fd, proc.context.descriptors.get fd =
        if fd = 0 then w.input else if fd = 1 then w.output else L.context.descriptors.get fd) ∧
      (∀ q pipe readEnd writeEnd, .piped q pipe readEnd writeEnd ∈ events U ex h →
        m₀.store.pipes.length ≤ pipe ∧ m.store.objectOf? readEnd = some (.readEnd pipe) ∧
          m.store.objectOf? writeEnd = some (.writeEnd pipe)) ∧
      ((events U ex h).filterMap Event.pipe?).Nodup ∧
      ∀ fd d object pipe, proc.context.descriptors.get fd = some d →
        m.store.objectOf? d = some object → object.pipe? = some pipe →
        pipe ∈ (events U ex h).filterMap Event.pipe? →
        fd = 0 ∧ w.input = some d ∨ fd = 1 ∧ w.output = some d := by
  obtain ⟨hx, hlife⟩ := Machine.active?_eq_some.mp hp
  obtain ⟨-, w, hw, hst⟩ := L.stance hrun p proc _ hx hlife
  obtain ⟨hends, hnodup⟩ := pipes_new L.sound hrun
  cases hst with
  | launch _ hpart htable =>
    have hget (fd : Fd) : proc.context.descriptors.get fd =
        if fd = 0 then w.input else if fd = 1 then w.output else L.context.descriptors.get fd := by
      rw [htable, w.table_apply]
      rfl
    refine ⟨w, hw, hpart, hget, fun q pipe readEnd writeEnd hpiped => ?_, hnodup,
      fun fd d object pipe hd hobject hpipe hmem => ?_⟩
    · obtain ⟨hnew, -, hread, hwrite⟩ := hends q pipe readEnd writeEnd hpiped
      exact ⟨hnew, hread, hwrite⟩
    · rw [hget] at hd
      split at hd
      · next h0 => exact Or.inl ⟨h0, hd⟩
      · split at hd
        · next h1 => exact Or.inr ⟨h1, hd⟩
        · obtain ⟨e, he, hpipe'⟩ := List.mem_filterMap.mp hmem
          cases e with
          | piped q _ readEnd writeEnd =>
            cases hpipe'
            have hold := L.pipe_lt_of_base hrun hd hobject hpipe
            exact absurd (hends q pipe readEnd writeEnd he).1 (Nat.not_le_of_lt hold)
          | _ => cases hpipe'

/-- The right side of a pipe that is itself the left side of a pipe, started with nothing open: the
ends of both pipes come to the numbers that are to be bound. -/
theorem launch_wired_inner : ∃ h m proc,
    Run (Task.dynamics .idle .bare)
      (.bare .idle .empty (.pipe (.pipe (.exec [[0x61]]) (.exec [[0x62]])) (.exec [[0x63]]))) h m ∧
      m.active? 3 = some (proc, .executing (.launch [[0x62]])) ∧
      ∀ fd, proc.context.descriptors.get fd =
        if fd = 0 then some ⟨2, false⟩ else if fd = 1 then some ⟨1, false⟩ else none := by
  let t : Command := .pipe (.pipe (.exec [[0x61]]) (.exec [[0x62]])) (.exec [[0x63]])
  let L := LineStart.bare .idle FileSystem.pipesBelow_empty t
  let reached := Run.replay (Task.dynamics .idle .bare) [] (.bare .idle .empty t)
    [.step 0, .step 0, .step 1, .step 1, .step 1, .step 1, .step 1, .step 3, .step 3, .step 3]
  have hreached : ∃ h m proc, reached = some (h, m) ∧
      m.active? 3 = some (proc, .executing (.launch [[0x62]])) := ⟨_, _, _, rfl, rfl⟩
  have hwiring : (reached.map fun r => L.wiring (events .idle .bare r.1) 3) =
      some (some ⟨.exec [[0x62]], some ⟨2, false⟩, some ⟨1, false⟩, none, false⟩) := by
    decide +kernel
  obtain ⟨h, m, proc, hr, hp⟩ := hreached
  have hrun := Run.of_replay .start hr
  obtain ⟨w, hw, -, hget, -⟩ := launch_wired L hrun hp
  rw [hr, Option.map_some, hw] at hwiring
  cases hwiring
  exact ⟨h, m, proc, hrun, hp, hget⟩

end LineStart

end PipeShell
