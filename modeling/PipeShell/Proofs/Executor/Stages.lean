import Mathlib.Algebra.BigOperators.Group.Finset.Basic
import Mathlib.Algebra.Order.BigOperators.Group.List
import PipeShell.Proofs.Command.Words
import PipeShell.Proofs.Executor.Launches

/-!
# What running a line takes

The processes of a pipeline that make pipes follow each other along the right sides of the pipes,
and each has the process of one stage on its left side; the last of them has the process of the last
stage on its right side. A `Spine` is this chain as far as it has been started, and every process of
the line is on it (`Spine.mem_of_given`). The pipes and processes of a line can be counted along it
(`length_filterMap_eq_sum`), and so can its stages.

At any time a line has made no more pipes than it has bytes `|`, and started no more than two
processes for each of them; nobody else than the processes of its stages tries to become a program,
and they try those of their segments once at most (`LineStart.Sparing`). Once the line is run, it
has made all pipes and started all processes, and every stage that nothing was in the way of has
tried to become its program (`LineStart.Thorough`).
-/

namespace PipeShell

set_option synthInstance.maxSize 1000

variable {U : Userland} {ex : Executor} {m₀ m m' : Machine (Task U.State)}
  {h : Past (Task U.State)} {mv : Move} {p q x y z : Pid} {proc proc' : Process (Task U.State)}
  {c c' : Control} {es : List Event} {w : Wiring} {left right t : Command} {side : Side}

/-! ## What has been begun -/

/-- At most one pipe was made, and its sides were started in order as far as they were. -/
def Begun (pipes : List (Descriptor × Descriptor)) (started : List (Side × Pid)) : Prop :=
  pipes.length ≤ 1 ∧
    (started = [] ∨ (∃ l, started = [(.left, l)]) ∨ ∃ l r, started = [(.right, r), (.left, l)])

namespace Control

variable {pipes : List (Descriptor × Descriptor)} {started : List (Side × Pid)}
  {ended : Pid → ExitStatus → Prop}

theorem Sides.begun (hs : c.Sides pipes started ended) : Begun pipes started := by
  have none_yet (hs : pipes = [] ∧ started = []) : Begun pipes started :=
    ⟨by simp [hs.1], Or.inl hs.2⟩
  have of_paired {l r : Pid} (hpair : Paired pipes started l r) : Begun pipes started :=
    ⟨hpair.1.le, Or.inr (Or.inr ⟨l, r, hpair.2⟩)⟩
  induction c with
  | forkLeft => exact ⟨hs.1.le, Or.inl hs.2⟩
  | forkRight _ l => exact ⟨hs.1.le, Or.inr (Or.inl ⟨l, hs.2⟩)⟩
  | closeEnds | waitLeft => exact of_paired hs
  | waitRight =>
    obtain ⟨_, _, hpair, -⟩ := hs
    exact of_paired hpair
  | connected =>
    obtain ⟨_, _, _, _, hpair, -⟩ := hs
    exact of_paired hpair
  | noting _ _ _ ih => exact ih hs
  | exit =>
    rcases hs with hs | ⟨l, r, hpair⟩
    · exact none_yet hs
    · exact of_paired hpair
  | _ => exact none_yet hs

/-- Also with what the next step adds to it. -/
theorem Sides.begun_step (hs : c.Sides pipes started ended) (ex : Executor)
    (m : Machine (Task U.State)) (p : Pid) (context : Context) :
    Begun (((c.event? ex m p context).bind Event.ends?).toList ++ pipes)
      (((c.event? ex m p context).bind Event.started?).toList ++ started) := by
  cases he : c.event? ex m p context with
  | none => exact hs.begun
  | some e =>
    cases makes_of_event? he with
    | opened | noLeft | noRight => exact hs.begun
    | piped =>
      obtain ⟨rfl, rfl⟩ := hs
      exact ⟨Nat.le_refl 1, Or.inl rfl⟩
    | left =>
      obtain ⟨hone, rfl⟩ := hs
      exact ⟨hone.le, Or.inr (Or.inl ⟨_, rfl⟩)⟩
    | right =>
      obtain ⟨hone, rfl⟩ := hs
      exact ⟨hone.le, Or.inr (Or.inr ⟨_, _, rfl⟩)⟩

end Control

theorem LineStart.begun (L : LineStart m₀) (hrun : Run (Task.dynamics U ex) m₀ h m) (x : Pid) :
    Begun (pipesOf (events U ex h) x) (startedOf (events U ex h) x) := by
  induction hrun with
  | start => exact ⟨Nat.zero_le 1, Or.inl rfl⟩
  | @move h m m' hrun mv hm ih =>
    by_cases hx : mv = .step x ∧ ∃ proc c, m.processes[x]? = some proc ∧
        proc.life = .active (.executing c)
    · obtain ⟨rfl, proc, c, hp, hlife⟩ := hx
      rw [pipesOf_step hp hlife, startedOf_step hp hlife]
      cases he : c.event? ex m x proc.context with
      | none => exact ih
      | some e =>
        have hs := (L.sides hrun x proc hp (not_stranded_of_event? hrun hp hlife he)).1 c hlife
        exact he ▸ hs.begun_step ex m x proc.context
    · obtain ⟨hpipes, hstarted⟩ := done_of_ne ex h mv fun hmv proc c hp hlife =>
        hx ⟨hmv, proc, c, hp, hlife⟩
      rw [hpipes, hstarted]
      exact ih

/-! ## The parts of the sides -/

/-- The part of a pipe that is for a side. -/
def Side.part (left right : Command) : Side → Command
  | .left => left
  | .right => right

theorem Wiring.part_of_side? {w' : Wiring} (hpart : w.part = .pipe left right)
    (hside : w.side? side = some w') : w'.part = side.part left right := by
  unfold Wiring.side? at hside
  split at hside
  · next hpipe _ =>
    cases hpart.symm.trans hpipe
    cases hside
    rfl
  · next hpipe _ =>
    cases hpart.symm.trans hpipe
    cases hside
    rfl
  · cases hside

namespace LineStart

variable (L : LineStart m₀)

/-- Who was given a pipe has it as its part all the time. -/
theorem given_rel_wiring (es : List Event) (x : Pid) :
    Option.Rel (fun w w' => ∀ left right, w.part = .pipe left right → w'.part = .pipe left right)
      (L.given es x) (L.wiring es x) := by
  have same (o : Option Wiring) : Option.Rel (fun w w' => ∀ left right,
      w.part = .pipe left right → w'.part = .pipe left right) o o := by
    cases o with
    | none => exact .none
    | some w => exact .some fun _ _ => id
  induction es with
  | nil => exact same _
  | cons e es ih =>
    -- An event changes the part of its mover only, and that only if it is a redirection.
    have advanced (hadvance : ∀ (w : Wiring) left right, w.part = .pipe left right →
        (e.advance w).part = .pipe left right) : Option.Rel (fun w w' => ∀ left right,
          w.part = .pipe left right → w'.part = .pipe left right) (L.given es x)
          (Function.update (L.wiring es) e.mover ((L.wiring es e.mover).map fun w => e.advance w)
            x) := by
      by_cases hx : x = e.mover
      · subst hx
        rw [Function.update_self]
        revert ih
        generalize L.given es e.mover = o
        generalize L.wiring es e.mover = o'
        intro ih
        cases ih with
        | none => exact .none
        | some hrel => exact .some fun left right hpart => hadvance _ _ _ (hrel left right hpart)
      · rw [Function.update_of_ne hx]
        exact ih
    cases e with
    | forked p side child =>
      by_cases hx : x = child
      · subst hx
        simp only [given, wiring, List.foldr_cons, Event.after, Function.update_self]
        exact same _
      · rw [L.given_cons fun p' side' heq => hx (by cases heq; rfl)]
        simpa only [wiring, List.foldr_cons, Event.after, Function.update_of_ne hx] using ih
    | opened p direction file =>
      refine advanced fun w left right hpart => ?_
      cases direction <;> simp [Event.advance, Wiring.opens, hpart]
    | piped | stranded | reaped => exact advanced fun w left right hpart => hpart

/-- A process that was started for a side of a pipe was given the part for this side. -/
theorem part_of_forked (hrun : Run (Task.dynamics U ex) m₀ h m)
    (hw : L.given (events U ex h) x = some w) (hpart : w.part = .pipe left right)
    (hf : .forked x side y ∈ events U ex h) :
    ∃ w', L.given (events U ex h) y = some w' ∧ w'.part = side.part left right := by
  obtain ⟨w₁, w', hw₁, hside, hgiven⟩ := L.given_of_forked hrun hf
  have hrel := L.given_rel_wiring (events U ex h) x
  rw [hw, hw₁] at hrel
  cases hrel with
  | some hrel => exact ⟨w', hgiven, Wiring.part_of_side? (hrel left right hpart) hside⟩

/-- Who has started somebody was given a part of the line. -/
theorem given_of_forked_by (hrun : Run (Task.dynamics U ex) m₀ h m)
    (hf : .forked x side y ∈ events U ex h) : ∃ w, L.given (events U ex h) x = some w := by
  obtain ⟨w₁, -, hw₁, -⟩ := L.given_of_forked hrun hf
  have hrel := L.given_rel_wiring (events U ex h) x
  rw [hw₁] at hrel
  cases hgiven : L.given (events U ex h) x with
  | none =>
    rw [hgiven] at hrel
    cases hrel
  | some w => exact ⟨w, rfl⟩

end LineStart

/-! ## The chain of processes -/

/-- The processes of a pipeline that process `x` was started for, as far as there are any: those
that make pipes and those of the stages, first to last. -/
inductive Spine (es : List Event) : Command → Pid → List Pid → List Pid → Prop
  | stage {t : Command} (ht : t.isStage) (x : Pid) : Spine es t x [] [x]
  | alone {left : Command} (hleft : left.isStage) (right : Command) {x : Pid}
    (hx : startedOf es x = []) : Spine es (.pipe left right) x [x] []
  | begun {left : Command} (hleft : left.isStage) (right : Command) {x l : Pid}
    (hx : startedOf es x = [(.left, l)]) : Spine es (.pipe left right) x [x] [l]
  | paired {left right : Command} {x l r : Pid} {makers stages : List Pid} (hleft : left.isStage)
    (hx : startedOf es x = [(.right, r), (.left, l)]) (hright : Spine es right r makers stages) :
    Spine es (.pipe left right) x (x :: makers) (l :: stages)

theorem forked_of_startedOf {started : List (Side × Pid)} (hx : startedOf es x = started)
    (hmem : (side, y) ∈ started) : .forked x side y ∈ es :=
  mem_startedOf.mp (hx ▸ hmem)

theorem LineStart.exists_spine (L : LineStart m₀) (hrun : Run (Task.dynamics U ex) m₀ h m)
    (ht : t.isPipeline) (x : Pid) : ∃ makers stages, Spine (events U ex h) t x makers stages := by
  induction t generalizing x with
  | exec | redirect => exact ⟨[], [x], .stage ht x⟩
  | pipe left right _ ih =>
    rw [Command.isPipeline, Bool.and_eq_true] at ht
    rcases (L.begun hrun x).2 with hx | ⟨l, hx⟩ | ⟨l, r, hx⟩
    · exact ⟨[x], [], .alone ht.1 right hx⟩
    · exact ⟨[x], [l], .begun ht.1 right hx⟩
    · obtain ⟨makers, stages, hright⟩ := ih ht.2 r
      exact ⟨x :: makers, l :: stages, .paired ht.1 hx hright⟩

namespace Spine

variable {makers stages : List Pid}

theorem length_makers (hs : Spine es t x makers stages) : makers.length + 1 ≤ t.stageCount := by
  have one_le (t : Command) : 1 ≤ t.stageCount := by
    induction t with
    | pipe _ _ ihl => exact Nat.le_trans ihl (Nat.le_add_right _ _)
    | exec | redirect => exact Nat.le_refl 1
  induction hs with
  | stage => exact one_le _
  | @alone left _ right | @begun left _ right => exact Nat.add_le_add (one_le left) (one_le right)
  | @paired left right _ _ _ _ _ _ _ _ ih =>
    have := one_le left
    rw [Command.stageCount, List.length_cons]
    omega

theorem mem_start (hs : Spine es t x makers stages) : x ∈ makers ∨ x ∈ stages := by
  cases hs with
  | stage => exact Or.inr (.head _)
  | _ => exact Or.inl (.head _)

/-- Whoever was started by one of the chain is on it. -/
theorem mem_of_forked (hs : Spine es t x makers stages) (hz : z ∈ makers)
    (hf : .forked z side y ∈ es) : y ∈ makers ∨ y ∈ stages := by
  rw [← mem_startedOf] at hf
  induction hs with
  | stage => cases hz
  | alone _ _ hx =>
    obtain rfl := List.mem_singleton.mp hz
    rw [hx] at hf
    cases hf
  | begun _ _ hx =>
    obtain rfl := List.mem_singleton.mp hz
    rw [hx] at hf
    cases List.mem_singleton.mp hf
    exact Or.inr (.head _)
  | paired _ hx hright ih =>
    rcases List.mem_cons.mp hz with rfl | hz
    · rw [hx] at hf
      rcases List.mem_cons.mp hf with heq | hf
      · cases heq
        exact hright.mem_start.imp (.tail _) (.tail _)
      · cases List.mem_singleton.mp hf
        exact Or.inr (.head _)
    · exact (ih hz).imp (.tail _) (.tail _)

/-- The process of a stage is where the chain starts, or was started by one of the chain. -/
theorem forked_of_mem_stages (hs : Spine es t x makers stages) (hy : y ∈ stages) :
    y = x ∨ ∃ z ∈ makers, ∃ side, .forked z side y ∈ es := by
  induction hs with
  | stage => exact Or.inl (List.mem_singleton.mp hy)
  | alone => cases hy
  | begun _ _ hx =>
    obtain rfl := List.mem_singleton.mp hy
    exact Or.inr ⟨_, .head _, .left, forked_of_startedOf hx (.head _)⟩
  | paired _ hx _ ih =>
    right
    rcases List.mem_cons.mp hy with rfl | hy
    · exact ⟨_, .head _, .left, forked_of_startedOf hx (.tail _ (.head _))⟩
    · rcases ih hy with rfl | ⟨z, hz, hf⟩
      · exact ⟨_, .head _, .right, forked_of_startedOf hx (.head _)⟩
      · exact ⟨z, .tail _ hz, hf⟩

/-- If every maker has started both sides, the chain is as long as the pipeline. -/
theorem length_eq (hs : Spine es t x makers stages)
    (hpaired : ∀ z ∈ makers, ∃ l r, startedOf es z = [(.right, r), (.left, l)]) :
    makers.length + 1 = t.stageCount ∧ stages.length = t.stageCount := by
  induction hs with
  | stage ht => simp [Command.stageCount_of_isStage ht]
  | alone _ _ hx | begun _ _ hx =>
    obtain ⟨l, r, hboth⟩ := hpaired _ (.head _)
    cases hx.symm.trans hboth
  | paired hleft _ _ ih =>
    obtain ⟨hmakers, hstages⟩ := ih fun z hz => hpaired z (.tail _ hz)
    rw [Command.stageCount, Command.stageCount_of_isStage hleft, List.length_cons,
      List.length_cons]
    omega

/-! ## The chain in a run -/

variable (hrun : Run (Task.dynamics U ex) m₀ h m)
include hrun

theorem le_of_mem (hs : Spine (events U ex h) t x makers stages) (hz : z ∈ makers) : x ≤ z := by
  induction hs with
  | stage => cases hz
  | alone | begun => exact (List.mem_singleton.mp hz).ge
  | paired _ hx _ ih =>
    rcases List.mem_cons.mp hz with rfl | hz
    · exact Nat.le_refl _
    · obtain ⟨-, hlt, -⟩ := child_of_forked hrun (forked_of_startedOf hx (.head _))
      exact Nat.le_trans hlt.le (ih hz)

theorem nodup_makers (hs : Spine (events U ex h) t x makers stages) : makers.Nodup := by
  induction hs with
  | stage => exact List.nodup_nil
  | alone | begun => exact List.nodup_singleton _
  | paired _ hx hright ih =>
    obtain ⟨-, hlt, -⟩ := child_of_forked hrun (forked_of_startedOf hx (.head _))
    exact List.nodup_cons.mpr ⟨fun hz =>
      absurd (hright.le_of_mem hrun hz) (Nat.not_le_of_lt hlt), ih⟩

theorem nodup_stages (hs : Spine (events U ex h) t x makers stages) : stages.Nodup := by
  induction hs with
  | stage | begun => exact List.nodup_singleton _
  | alone => exact List.nodup_nil
  | paired _ hx hright ih =>
    have hl := forked_of_startedOf hx (.tail _ (.head _))
    have hr := forked_of_startedOf hx (.head _)
    refine List.nodup_cons.mpr ⟨fun hmem => ?_, ih⟩
    rcases hright.forked_of_mem_stages hmem with rfl | ⟨z, hz, side, hf⟩
    · cases forked_unique hrun hl hr
    · -- It would be a child of two processes.
      obtain ⟨-, -, proc, hp, hparent⟩ := child_of_forked hrun hl
      obtain ⟨-, -, proc', hp', hparent'⟩ := child_of_forked hrun hf
      obtain rfl := Option.some.inj (hp.symm.trans hp')
      obtain ⟨-, hlt, -⟩ := child_of_forked hrun hr
      have hle := hright.le_of_mem hrun hz
      rw [← hparent', hparent] at hle
      exact absurd hle (Nat.not_le_of_lt hlt)

variable (L : LineStart m₀)

/-- The makers were given pipes. -/
theorem pipe_of_mem_makers (hs : Spine (events U ex h) t x makers stages)
    (hw : L.given (events U ex h) x = some w) (hpart : w.part = t) (hz : z ∈ makers) :
    ∃ w' left right, L.given (events U ex h) z = some w' ∧ w'.part = .pipe left right := by
  induction hs generalizing w with
  | stage => cases hz
  | alone | begun =>
    obtain rfl := List.mem_singleton.mp hz
    exact ⟨w, _, _, hw, hpart⟩
  | paired _ hx _ ih =>
    rcases List.mem_cons.mp hz with rfl | hz
    · exact ⟨w, _, _, hw, hpart⟩
    · obtain ⟨w', hw', hpart'⟩ :=
        L.part_of_forked hrun hw hpart (forked_of_startedOf hx (.head _))
      exact ih hw' hpart' hz

/-- The processes of the stages were given the stages, in order. -/
theorem stage_of_getElem? (hs : Spine (events U ex h) t x makers stages)
    (hw : L.given (events U ex h) x = some w) (hpart : w.part = t) {i : Nat}
    (hy : stages[i]? = some y) :
    ∃ w', L.given (events U ex h) y = some w' ∧ w'.part.isStage ∧
      t.stages[i]? = some w'.part := by
  have of_left {x l : Pid} {left right : Command} {w : Wiring} (hleft : left.isStage)
      (hw : L.given (events U ex h) x = some w) (hpart : w.part = .pipe left right)
      (hf : .forked x .left l ∈ events U ex h) :
      ∃ w', L.given (events U ex h) l = some w' ∧ w'.part.isStage ∧
        (Command.pipe left right).stages[0]? = some w'.part := by
    obtain ⟨w', hw', hpart'⟩ := L.part_of_forked hrun hw hpart hf
    refine ⟨w', hw', hpart' ▸ hleft, ?_⟩
    rw [Command.stages, Command.stages_of_isStage hleft, hpart']
    rfl
  induction hs generalizing w i with
  | stage ht =>
    cases i with
    | zero =>
      cases hy
      exact ⟨w, hw, hpart ▸ ht, by rw [Command.stages_of_isStage ht, hpart]; rfl⟩
    | succ => cases hy
  | alone => cases hy
  | begun hleft _ hx =>
    cases i with
    | zero =>
      cases hy
      exact of_left hleft hw hpart (forked_of_startedOf hx (.head _))
    | succ => cases hy
  | paired hleft hx _ ih =>
    cases i with
    | zero =>
      cases hy
      exact of_left hleft hw hpart (forked_of_startedOf hx (.tail _ (.head _)))
    | succ i =>
      obtain ⟨w', hw', hpart'⟩ :=
        L.part_of_forked hrun hw hpart (forked_of_startedOf hx (.head _))
      obtain ⟨w'', hw'', hstage, hget⟩ := ih hw' hpart' hy
      refine ⟨w'', hw'', hstage, ?_⟩
      rw [Command.stages, Command.stages_of_isStage hleft, List.singleton_append]
      exact hget

/-- Every process of the line is on the chain of its first process. -/
theorem mem_of_given (hs : Spine (events U ex h) L.tree L.root makers stages)
    (hroot : L.given (events U ex h) L.root = some L.whole) :
    ∀ x w, L.given (events U ex h) x = some w → x ∈ makers ∨ x ∈ stages := by
  intro x
  induction x using Nat.strongRecOn with
  | ind x ih =>
    intro w hw
    rcases L.forked_of_given hw with rfl | ⟨p, side, hf⟩
    · exact hs.mem_start
    · obtain ⟨-, hlt, -⟩ := child_of_forked hrun hf
      obtain ⟨w', hw'⟩ := L.given_of_forked_by hrun hf
      rcases ih p hlt w' hw' with hp | hp
      · exact hs.mem_of_forked hp hf
      · -- The process of a stage starts nobody.
        obtain ⟨i, hi⟩ := List.mem_iff_getElem?.mp hp
        obtain ⟨w'', hw'', hstage, -⟩ := hs.stage_of_getElem? hrun L hroot rfl hi
        obtain ⟨pipe, readEnd, writeEnd, hpiped⟩ := L.piped_of_forked hrun hf
        have hmem := mem_pipesOf.mpr ⟨pipe, hpiped⟩
        rw [L.pipesOf_of_isStage hrun hw'' hstage] at hmem
        cases hmem

end Spine

/-! ## Counting -/

/-- Events can be counted by who they are about. -/
theorem length_filterMap_eq_sum {β : Type} {f : Event → Option β} {ps : List Pid}
    (hnodup : ps.Nodup) (hmem : ∀ e ∈ es, (f e).isSome → e.mover ∈ ps) :
    (es.filterMap f).length =
      (ps.map fun x => (es.filterMap fun e => if e.mover = x then f e else none).length).sum := by
  let movers := es.filterMap fun e => (f e).map fun _ => e.mover
  have hlength : movers.length = (es.filterMap f).length := by
    simp [movers, List.length_filterMap_eq_countP]
  have hcount (x : Pid) : movers.count x =
      (es.filterMap fun e => if e.mover = x then f e else none).length := by
    rw [List.count, List.countP_filterMap, List.length_filterMap_eq_countP]
    congr 1
    funext e
    cases f e <;> by_cases hx : e.mover = x <;> simp [hx]
  have hcovered : ∀ x ∈ (movers : Multiset Pid), x ∈ ps.toFinset := by
    intro x hx
    obtain ⟨e, he, hsome⟩ := List.mem_filterMap.mp (Multiset.mem_coe.mp hx)
    obtain ⟨b, hb, rfl⟩ := Option.map_eq_some_iff.mp hsome
    exact List.mem_toFinset.mpr (hmem e he (by simp [hb]))
  have hsum := Multiset.sum_count_eq_card hcovered
  simp only [Multiset.coe_count, Multiset.coe_card] at hsum
  rw [← hlength, ← hsum, ← List.sum_toFinset _ hnodup]
  exact Finset.sum_congr rfl fun x _ => hcount x

/-- The processes that were started for sides of pipes are all different. -/
theorem nodup_started (hrun : Run (Task.dynamics U ex) m₀ h m) :
    (((events U ex h).filterMap Event.started?).map Prod.snd).Nodup := by
  induction hrun with
  | start => exact List.nodup_nil
  | @move h m m' hrun mv hm ih =>
    rw [events_cons]
    cases he : m.event? U ex mv with
    | none => exact ih
    | some e =>
      cases e with
      | forked p side child =>
        refine List.nodup_cons.mpr ⟨fun hmem => ?_, ih⟩
        obtain ⟨⟨side', _⟩, hstarted, rfl⟩ := List.mem_map.mp hmem
        obtain ⟨e, hf, heq⟩ := List.mem_filterMap.mp hstarted
        cases e with
        | forked p' =>
          cases heq
          obtain ⟨-, -, proc, hx, -⟩ := child_of_forked hrun hf
          exact absurd (forked_of_event? he).1 (Nat.ne_of_lt (List.getElem?_eq_some_iff.mp hx).1)
        | _ => cases heq
      | _ => exact ih

theorem length_pipes (es : List Event) :
    (es.filterMap Event.pipe?).length = (es.filterMap Event.ends?).length := by
  rw [List.length_filterMap_eq_countP, List.length_filterMap_eq_countP]
  congr 1
  funext e
  cases e <;> rfl

namespace Spine

variable {makers stages : List Pid} {L : LineStart m₀}

/-- What a line has made and started can be counted along the chain. -/
theorem length_events (hs : Spine (events U ex h) L.tree L.root makers stages)
    (hrun : Run (Task.dynamics U ex) m₀ h m)
    (hroot : L.given (events U ex h) L.root = some L.whole) :
    ((events U ex h).filterMap Event.pipe?).length =
        (makers.map fun x => (pipesOf (events U ex h) x).length).sum ∧
      ((events U ex h).filterMap Event.started?).length =
        (makers.map fun x => (startedOf (events U ex h) x).length).sum := by
  have maker {x : Pid} (hx : pipesOf (events U ex h) x ≠ []) : x ∈ makers := by
    have hne : answers ex h x ≠ [] := fun hnone => hx <| List.length_eq_zero_iff.mp <| by
      rw [length_pipesOf, hnone]
      rfl
    cases hw : L.given (events U ex h) x with
    | none => exact absurd (L.answers_of_given_eq_none hrun hw) hne
    | some w =>
      refine (hs.mem_of_given hrun L hroot x w hw).resolve_right fun hmem => ?_
      obtain ⟨i, hi⟩ := List.mem_iff_getElem?.mp hmem
      obtain ⟨w', hw', hstage, -⟩ := hs.stage_of_getElem? hrun L hroot rfl hi
      exact hx (L.pipesOf_of_isStage hrun hw' hstage)
  rw [length_pipes]
  refine ⟨length_filterMap_eq_sum (hs.nodup_makers hrun) fun e he hsome => maker ?_,
    length_filterMap_eq_sum (hs.nodup_makers hrun) fun e he hsome => maker ?_⟩
  · cases e with
    | piped p pipe => exact List.ne_nil_of_mem (mem_pipesOf.mpr ⟨pipe, he⟩)
    | _ => cases hsome
  · cases e with
    | forked p =>
      obtain ⟨pipe, readEnd, writeEnd, hp⟩ := L.piped_of_forked hrun he
      exact List.ne_nil_of_mem (mem_pipesOf.mpr ⟨pipe, hp⟩)
    | _ => cases hsome

end Spine

/-! ## What a line takes -/

/-- Nothing more is made, started or tried than a line asks for, `stages` being the processes of its
stages, as far as they were started. -/
structure LineStart.Sparing (ex : Executor) (h : Past (Task U.State)) (line : Bytes)
    (stages : List Pid) : Prop where
  pipes : ((events U ex h).filterMap Event.pipe?).length ≤ line.count 0x7C ∧
    ((events U ex h).filterMap Event.pipe?).Nodup
  started : ((events U ex h).filterMap Event.started?).length ≤ 2 * line.count 0x7C ∧
    (((events U ex h).filterMap Event.started?).map Prod.snd).Nodup
  nodup : stages.Nodup
  /-- Only the process of a stage tries to become a program. It does so once at most, with the words
  that its segment of the line has as arguments. -/
  launches : ∀ x, launches ex h x = [] ∨ ∃ (i : Nat) (segment : List Token),
    stages[i]? = some x ∧ (Grammar.segments (Token.body line))[i]? = some segment ∧
      launches ex h x = [Grammar.arguments segment]

/-- All is made, started and tried that a line asks for. -/
structure LineStart.Thorough (ex : Executor) (h : Past (Task U.State)) (line : Bytes)
    (stages : List Pid) : Prop where
  pipes : ((events U ex h).filterMap Event.pipe?).length = line.count 0x7C
  started : ((events U ex h).filterMap Event.started?).length = 2 * line.count 0x7C
  length : stages.length = line.count 0x7C + 1
  /-- A stage with a word, none of whose words holds NUL and all of whose redirections have
  succeeded, has tried to become its program. -/
  launches : ∀ (i : Nat) (x : Pid) (segment : List Token), stages[i]? = some x →
    (Grammar.segments (Token.body line))[i]? = some segment → Grammar.arguments segment ≠ [] →
    Control.isPassable (Grammar.arguments segment) →
    (openings ex h x).length = (Grammar.redirections segment).length →
    .bound false ∉ answers ex h x → launches ex h x = [Grammar.arguments segment]

namespace LineStart

variable (L : LineStart m₀)

/-- The line is what its first process was given. -/
theorem given_root (hrun : Run (Task.dynamics U ex) m₀ h m) :
    L.given (events U ex h) L.root = some L.whole := by
  induction hrun with
  | start => exact L.given_nil_root
  | move hrun mv hm ih =>
    rw [L.given_of_lt (Nat.lt_of_lt_of_le (List.getElem?_eq_some_iff.mp L.process).1
      hrun.length_le)]
    exact ih

variable {L} {line : Bytes} {makers stages : List Pid}

section

variable (hs : Spine (events U ex h) L.tree L.root makers stages)
  (hline : Command.parse line = .ok L.tree) (hrun : Run (Task.dynamics U ex) m₀ h m)
include hs hline hrun

/-- The process of a stage was given the tree of its segment of the line. -/
theorem segment_of_getElem? {i : Nat} (hx : stages[i]? = some x) :
    ∃ w segment, L.given (events U ex h) x = some w ∧ w.part = Grammar.tree segment ∧
      (Grammar.segments (Token.body line))[i]? = some segment := by
  obtain ⟨w, hw, -, hget⟩ := hs.stage_of_getElem? hrun L (L.given_root hrun) rfl hx
  rw [Command.stages_of_parse hline, List.getElem?_map] at hget
  obtain ⟨segment, hsegment, hpart⟩ := Option.map_eq_some_iff.mp hget
  exact ⟨w, segment, hw, hpart.symm, hsegment⟩

theorem sparing : Sparing ex h line stages := by
  have hcount := Command.stageCount_of_parse hline
  have hmakers := hs.length_makers
  obtain ⟨hpipes, hstarted⟩ := hs.length_events hrun (L.given_root hrun)
  have bounded {f : Pid → Nat} {k : Nat} (hf : ∀ x ∈ makers, f x ≤ k) :
      (makers.map f).sum ≤ makers.length * k := by
    simpa using List.sum_le_card_nsmul (makers.map f) k (by simpa using hf)
  refine ⟨⟨?_, (pipes_new L.sound hrun).2⟩, ⟨?_, nodup_started hrun⟩, hs.nodup_stages hrun,
    fun x => ?_⟩
  · have hle := bounded fun x _ => (L.begun hrun x).1
    omega
  · have hle := bounded fun x _ =>
      show (startedOf (events U ex h) x).length ≤ 2 by
        rcases (L.begun hrun x).2 with hx | ⟨l, hx⟩ | ⟨l, r, hx⟩ <;> simp [hx]
    omega
  · cases hw : L.given (events U ex h) x with
    | none =>
      left
      rw [launches, L.answers_of_given_eq_none hrun hw, List.filterMap_nil]
    | some w =>
      rcases hs.mem_of_given hrun L (L.given_root hrun) x w hw with hmem | hmem
      · obtain ⟨w', left, right, hw', hpart⟩ :=
          hs.pipe_of_mem_makers hrun L (L.given_root hrun) rfl hmem
        exact Or.inl (L.launches_of_pipe hrun hw' hpart)
      · obtain ⟨i, hi⟩ := List.mem_iff_getElem?.mp hmem
        obtain ⟨w', segment, hw', hpart, hsegment⟩ := segment_of_getElem? hs hline hrun hi
        refine (L.launches_of_isStage hrun hw' (hpart ▸ Grammar.isStage_tree segment)).imp_right
          fun hone => ⟨i, segment, hi, hsegment, ?_⟩
        rw [hone, hpart, Grammar.argv_tree]

theorem thorough (hran : L.Ran ex h m) (hpiped : ∀ x, .piped false ∉ answers ex h x) :
    Thorough ex h line stages := by
  have hcount := Command.stageCount_of_parse hline
  obtain ⟨hpipes, hstarted⟩ := hs.length_events hrun (L.given_root hrun)
  have paired {x : Pid} (hx : x ∈ makers) : ∃ l r,
      Paired (pipesOf (events U ex h) x) (startedOf (events U ex h) x) l r := by
    obtain ⟨w, left, right, hw, hpart⟩ :=
      hs.pipe_of_mem_makers hrun L (L.given_root hrun) rfl hx
    exact hran.paired hrun hw hpart (hpiped x)
  obtain ⟨hmakers, hstages⟩ := hs.length_eq fun x hx => by
    obtain ⟨l, r, -, hboth⟩ := paired hx
    exact ⟨l, r, hboth⟩
  have constant {f : Pid → Nat} {k : Nat} (hf : ∀ x ∈ makers, f x = k) :
      (makers.map f).sum = makers.length * k := by
    simpa using List.sum_eq_card_nsmul (makers.map f) k (by simpa using hf)
  refine ⟨?_, ?_, hstages.trans hcount,
    fun i x segment hx hsegment hargv hpass hopened hbound => ?_⟩
  · have heq := constant fun x hx => show (pipesOf (events U ex h) x).length = 1 by
      obtain ⟨l, r, hone, -⟩ := paired hx
      exact hone
    omega
  · have heq := constant fun x hx => show (startedOf (events U ex h) x).length = 2 by
      obtain ⟨l, r, -, hboth⟩ := paired hx
      rw [hboth]
      rfl
    omega
  · obtain ⟨w, segment', hw, hpart, hsegment'⟩ := segment_of_getElem? hs hline hrun hx
    obtain rfl := Option.some.inj (hsegment.symm.trans hsegment')
    have hlaunches := hran.launches_eq hrun hw (hpart ▸ Grammar.isStage_tree segment)
    rw [hpart, Grammar.argv_tree, Grammar.redirectionCount_tree] at hlaunches
    exact hlaunches hargv hpass hopened hbound

end

variable (L)

/-- A line with some bytes `|` has a stage more than these. However its processes move, it takes no
more than a pipe and two processes for each `|`, and one program for each stage. It takes that much
once it is run, unless a pipe could not be made. -/
theorem resources (hline : Command.parse line = .ok L.tree)
    (hrun : Run (Task.dynamics U ex) m₀ h m) :
    L.tree.stageCount = line.count 0x7C + 1 ∧ ∃ stages : List Pid,
      Sparing ex h line stages ∧
        (L.Ran ex h m → (∀ x, .piped false ∉ answers ex h x) →
          Thorough ex h line stages) := by
  obtain ⟨makers, stages, hs⟩ := L.exists_spine hrun (Command.isPipeline_of_parse hline) L.root
  exact ⟨Command.stageCount_of_parse hline, stages, sparing hs hline hrun,
    thorough hs hline hrun⟩

/-- A line with an ill-formed word is run to its end. Neither of its programs is there. -/
theorem resources_ill_formed : ∃ h m,
    Command.parse [0xE9, 0x7C, 0x62] = .ok (.pipe (.exec [[0xE9]]) (.exec [[0x62]])) ∧
    Run (Task.dynamics .idle .bare)
      (.bare .idle .empty (.pipe (.exec [[0xE9]]) (.exec [[0x62]]))) h m ∧
    (LineStart.bare .idle FileSystem.pipesBelow_empty (.pipe (.exec [[0xE9]]) (.exec [[0x62]]))).Ran
      .bare h m ∧
    (∃ stages, Sparing .bare h [0xE9, 0x7C, 0x62] stages ∧
      Thorough .bare h [0xE9, 0x7C, 0x62] stages) ∧
    launches .bare h 1 = [[[0xE9]]] ∧ launches .bare h 2 = [[[0x62]]] := by
  let t : Command := .pipe (.exec [[0xE9]]) (.exec [[0x62]])
  let L := LineStart.bare .idle FileSystem.pipesBelow_empty t
  have hline : Command.parse [0xE9, 0x7C, 0x62] = .ok t := by
    decide +kernel
  have hreached : (Run.replay (Task.dynamics .idle .bare) [] (.bare .idle .empty t)
      (List.replicate 8 (Move.step 0) ++ List.replicate 11 (Move.step 1) ++
        List.replicate 11 (Move.step 2) ++ List.replicate 9 (Move.step 0))).map (fun r =>
          ((List.range r.2.processes.length).all fun x => (r.2.active? x).isNone,
          (r.2 :: r.1.map Prod.fst).all fun m => (List.range m.processes.length).all fun x =>
            (m.endOf? x).all (· ∈ [.exited 0, .exited 1]),
          (List.range r.2.processes.length).all fun x =>
            (answers .bare r.1 x).all (· ≠ .piped false),
          (events .idle .bare r.1).all (!·.strands), launches .bare r.1 1, launches .bare r.1 2)) =
      some (true, true, true, true, [[[0xE9]]], [[[0x62]]]) := by
    decide +kernel
  obtain ⟨⟨h, m⟩, hr, hsummary⟩ := Option.map_eq_some_iff.mp hreached
  simp only [Prod.mk.injEq, List.all_eq_true] at hsummary
  obtain ⟨hidle, hunsignaled, hpiped, hgranted, hleft, hright⟩ := hsummary
  have hrun := Run.of_replay .start hr
  have hran : L.Ran .bare h m := by
    constructor
    · rintro x ⟨proc, c, hx, hlife, -⟩
      have hnone := hidle x (List.mem_range.mpr (List.getElem?_eq_some_iff.mp hx).1)
      rw [Machine.active?_eq_some.mpr ⟨hx, hlife⟩] at hnone
      cases hnone
    · intro x hmem
      cases hgranted _ hmem
    · intro x w signal _ he
      have unsignaled {m' : Machine (Task Userland.idle.State)} (hm' : m' ∈ m :: h.map Prod.fst)
          (he : m'.endOf? x = some (.signaled signal)) : False := by
        obtain ⟨proc, hx, -⟩ := Machine.endOf?_eq_some.mp he
        have hexited := hunsignaled m' hm' x
          (List.mem_range.mpr (List.getElem?_eq_some_iff.mp hx).1)
        simp [he] at hexited
      rcases he with he | ⟨r, hr, he⟩
      · exact (unsignaled (.head _) he).elim
      · exact (unsignaled (.tail _ (List.mem_map_of_mem hr)) he).elim
  obtain ⟨-, stages, hsparing, hthorough⟩ := resources L hline hrun
  refine ⟨h, m, hline, hrun, hran, ⟨stages, hsparing, hthorough hran fun x hmem => ?_⟩, hleft,
    hright⟩
  by_cases hx : x < m.processes.length
  · have hne := hpiped x (List.mem_range.mpr hx) _ hmem
    simp at hne
  · rw [answers_of_le hrun (Nat.not_lt.mp hx)] at hmem
    cases hmem

/-- In `/a|b` the program of the first stage ends the process of the line by a signal before this
one has started the second stage: no pipe and no process was refused, nobody can go on, and one
process was started instead of two. In `/a`, which makes no pipe and starts nobody, the program
starts a process. -/
theorem resources_differ :
    (∃ files t, Command.parse [0x2F, 0x61, 0x7C, 0x62] = .ok t ∧ files.PipesBelow 0 ∧ ∃ h m,
        Run (Task.dynamics (.striking 100 9) .bare) (.bare (.striking 100 9) files t) h m ∧
        (∀ x, .piped false ∉ answers .bare h x) ∧
        (∀ x, .stranded x ∉ events (.striking 100 9) .bare h) ∧ (∀ x, ¬m.Goes .bare x) ∧
        ((events (.striking 100 9) .bare h).filterMap Event.started?).length = 1) ∧
      ∃ files t, Command.parse [0x2F, 0x61] = .ok t ∧ files.PipesBelow 0 ∧ ∃ h m child,
        Run (Task.dynamics .leaving .bare) (.bare .leaving files t) h m ∧
        m.processes[1]? = some child ∧ child.parent = 0 := by
  let files : FileSystem := ⟨[.directory 0o755 0 [([0x61], 1)], .program 0o755 [0x61]]⟩
  have hfiles : files.PipesBelow 0 := by simp [files, FileSystem.PipesBelow]
  constructor
  · let t : Command := .pipe (.exec [[0x2F, 0x61]]) (.exec [[0x62]])
    have hline : Command.parse [0x2F, 0x61, 0x7C, 0x62] = .ok t := by
      decide +kernel
    have hreached : (Run.replay (Task.dynamics (.striking 100 9) .bare) []
        (.bare (.striking 100 9) files t)
        (List.replicate 2 (Move.step 0) ++ List.replicate 8 (Move.step 1))).map (fun r =>
          (r.2.processes.map (·.life), answers .bare r.1 0, answers .bare r.1 1,
            (events (.striking 100 9) .bare r.1))) =
        some ([.ended (.signaled 9), .active (.program ())], [.piped true],
          [.bound true, .launched [[0x2F, 0x61]] true],
          [.forked 0 .left 1, .piped 0 0 ⟨0, false⟩ ⟨1, false⟩]) := by
      decide +kernel
    obtain ⟨⟨h, m⟩, hr, hsummary⟩ := Option.map_eq_some_iff.mp hreached
    simp only [Prod.mk.injEq] at hsummary
    obtain ⟨hlives, hfirst, hsecond, hevents⟩ := hsummary
    have hrun := Run.of_replay .start hr
    have hlength : m.processes.length = 2 := by simpa using congrArg List.length hlives
    refine ⟨files, t, hline, hfiles, h, m, hrun, fun x hmem => ?_, fun x hmem => ?_, ?_, ?_⟩
    · rcases x with _ | _ | x
      · simp [hfirst] at hmem
      · simp [hsecond] at hmem
      · rw [answers_of_le hrun (hlength ▸ Nat.le_add_left 2 x)] at hmem
        cases hmem
    · rw [hevents] at hmem
      simp at hmem
    · rintro x ⟨proc, c, hx, hlife, -⟩
      have hmem : proc.life ∈ m.processes.map (·.life) :=
        List.mem_map.mpr ⟨proc, List.mem_of_getElem? hx, rfl⟩
      rw [hlives, hlife] at hmem
      simp at hmem
    · rw [hevents]
      rfl
  · let t : Command := .exec [[0x2F, 0x61]]
    have hline : Command.parse [0x2F, 0x61] = .ok t := by
      decide +kernel
    have hreached : (Run.replay (Task.dynamics .leaving .bare) [] (.bare .leaving files t)
        (List.replicate 4 (Move.step 0))).map (fun r => r.2.processes.map (·.parent)) =
        some [0, 0] := by
      decide +kernel
    obtain ⟨⟨h, m⟩, hr, hparents⟩ := Option.map_eq_some_iff.mp hreached
    have hlength : m.processes.length = 2 := by simpa using congrArg List.length hparents
    have hx := List.getElem?_eq_getElem (l := m.processes) (i := 1) (by omega)
    refine ⟨files, t, hline, hfiles, h, m, _, Run.of_replay .start hr, hx, ?_⟩
    have hparent := congrArg (·[1]?) hparents
    simpa [hx] using hparent

end LineStart

end PipeShell
