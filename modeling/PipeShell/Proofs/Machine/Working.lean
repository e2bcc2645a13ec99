import PipeShell.Machine.Work

/-!
# What becomes of work

Work has a result, or its process ends on the way, or it goes on for ever. What is said of work is
said of all three (`Progress.Ensures`), and is put together along `Work.bind` (`Work.ensures_bind`).
Where only results count, `Work.bind_finished` takes work apart.
-/

namespace PipeShell

/-- Of a result and the machine that comes with it, `done` holds; of the end of the process and the
machine after that, `ended` does; and `stuck` holds if there is neither. -/
def Progress.Ensures {κ α : Type} (done : α → Machine κ → Prop)
    (ended : ExitStatus → Machine κ → Prop) (stuck : Prop) : Progress κ α → Prop
  | .finished a m => done a m
  | .ended status m => ended status m
  | .stuck => stuck

theorem Progress.Ensures.mono {κ α : Type} {done done' : α → Machine κ → Prop}
    {ended ended' : ExitStatus → Machine κ → Prop} {stuck stuck' : Prop} {x : Progress κ α}
    (h : x.Ensures done ended stuck) (hdone : ∀ a m, done a m → done' a m)
    (hended : ∀ status m, ended status m → ended' status m) (hstuck : stuck → stuck') :
    x.Ensures done' ended' stuck' := by
  cases x with
  | finished a m => exact hdone a m h
  | ended status m => exact hended status m h
  | stuck => exact hstuck h

/-! ## What came of work -/

/-- Whether work has a result. -/
def Progress.isFinished {κ α : Type} : Progress κ α → Bool
  | finished .. => true
  | _ => false

theorem Progress.exists_of_isFinished {κ α : Type} {w : Progress κ α} (hw : w.isFinished) :
    ∃ result m, w = .finished result m := by
  cases w with
  | finished result m => exact ⟨result, m, rfl⟩
  | ended | stuck => cases hw

/-- The result that work has. -/
def Progress.result? {κ α : Type} : Progress κ α → Option α
  | finished result _ => some result
  | _ => none

theorem Progress.exists_of_result? {κ α : Type} {w : Progress κ α} {result : α}
    (hw : w.result? = some result) : ∃ m, w = .finished result m := by
  cases w with
  | finished result m =>
    cases hw
    exact ⟨m, rfl⟩
  | ended | stuck => cases hw

/-- How the process of work has ended, if it has. -/
def Progress.end? {κ α : Type} : Progress κ α → Option ExitStatus
  | ended status _ => some status
  | _ => none

theorem Progress.exists_of_end? {κ α : Type} {w : Progress κ α} {status : ExitStatus}
    (hw : w.end? = some status) : ∃ m, w = .ended status m := by
  cases w with
  | ended status m =>
    cases hw
    exact ⟨m, rfl⟩
  | finished | stuck => cases hw

namespace Work

variable {κ α β : Type} {m m' : Machine κ} {p : Pid} {proc : Process κ}

/-! ## Postconditions -/

theorem ensures_bind {w : Work κ α} {f : α → Work κ β} {Q : α → Machine κ → Prop}
    {done : β → Machine κ → Prop} {ended : ExitStatus → Machine κ → Prop} {stuck : Prop}
    (hw : (w p m).Ensures Q ended stuck)
    (hf : ∀ a m, Q a m → (f a p m).Ensures done ended stuck) :
    ((w >>= f) p m).Ensures done ended stuck := by
  simp only [bind]
  cases h : w p m with
  | finished a m' =>
    rw [h] at hw
    exact hf a m' hw
  | ended status m' =>
    rw [h] at hw
    exact hw
  | stuck =>
    rw [h] at hw
    exact hw

/-- A call is over, or has ended the process, or goes on for ever. -/
theorem ensures_call {c : Call} {done : c.Reply → Machine κ → Prop}
    {ended : ExitStatus → Machine κ → Prop} {stuck : Prop} (hp : m.processes[p]? = some proc)
    (h : match c.perform m.store proc.context m.held (Pid.number p) (m.parentNumber proc) with
      | .done reply store context =>
        done reply ({ m with store }.setProcess p { proc with context })
      | .killed signal => ended (.signaled signal) (m.finish p (.signaled signal))
      | .underway .. | .blocked => stuck) :
    ((Calling.call c : Work κ c.Reply) p m).Ensures done ended stuck := by
  simp only [Calling.call, hp]
  cases hc : c.perform m.store proc.context m.held (Pid.number p) (m.parentNumber proc) with
  | done reply store context =>
    rw [hc] at h
    exact h
  | killed signal =>
    rw [hc] at h
    exact h
  | underway store context =>
    rw [hc] at h
    exact h
  | blocked =>
    rw [hc] at h
    exact h

/-- A process is created, or the attempt is refused. -/
theorem ensures_fork {child state : κ} {f : Except Errno Pid → Work κ β}
    {done : β → Machine κ → Prop} {ended : ExitStatus → Machine κ → Prop} {stuck : Prop}
    (hp : m.processes[p]? = some proc) (hlife : proc.life = .active state)
    (hrefused : ∀ e, m.refusal? = some e →
      (f (.error e) p m.attempted).Ensures done ended stuck)
    (hcreated : m.refusal? = none →
      (f (.ok m.processes.length) p (m.attempted.spawn p proc child state)).Ensures
        done ended stuck) :
    ((fork child >>= f) p m).Ensures done ended stuck := by
  have hactive : m.active? p = some (proc, state) := by simp [Machine.active?, hp, hlife]
  simp only [bind, fork, hactive]
  cases h : m.refusal? with
  | some e => exact hrefused e h
  | none => exact hcreated h

/-! ## Results -/

theorem bind_finished {w : Work κ α} {f : α → Work κ β} {b : β} :
    (w >>= f) p m = .finished b m' ↔
      ∃ a m₁, w p m = .finished a m₁ ∧ f a p m₁ = .finished b m' := by
  simp only [bind]
  cases w p m with
  | finished a m₁ =>
    refine ⟨fun h => ⟨a, m₁, rfl, h⟩, ?_⟩
    rintro ⟨a', m₁', heq, h⟩
    cases heq
    exact h
  | ended => simp
  | stuck => simp

theorem pure_finished {a b : α} :
    (pure a : Work κ α) p m = .finished b m' ↔ b = a ∧ m' = m := by
  simp only [pure, Progress.finished.injEq, eq_comm]

theorem call_finished {c : Call} {reply : c.Reply} :
    (Calling.call c : Work κ c.Reply) p m = .finished reply m' ↔
      ∃ proc store context, m.processes[p]? = some proc ∧
        c.perform m.store proc.context m.held (Pid.number p) (m.parentNumber proc) =
          .done reply store context ∧
        m' = { m with store }.setProcess p { proc with context } := by
  simp only [Calling.call]
  cases m.processes[p]? with
  | none => simp
  | some proc =>
    simp only
    cases hc : c.perform m.store proc.context m.held (Pid.number p) (m.parentNumber proc) with
    | done reply' store context =>
      constructor
      · intro h
        cases h
        exact ⟨proc, _, _, rfl, hc, rfl⟩
      · rintro ⟨_, _, _, hp, hc', rfl⟩
        cases hp
        cases hc.symm.trans hc'
        rfl
    | _ => simp [hc]

end Work

end PipeShell
