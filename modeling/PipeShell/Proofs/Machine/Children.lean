import PipeShell.Proofs.Machine.Runs

/-!
# Children

A move changes the children of a process in two ways only: the end of one of them was taken by the
process itself (`Machine.reaping?`), or the process started a new one (`Machine.bearing?`). This is
`Machine.childrenOf_of_make?`. Nobody comes back who has ended (`Machine.active?_of_make?`), and
the process whose end was taken had ended before and was a child of the one who took it
(`Machine.of_reaping?`).
-/

namespace PipeShell

namespace Machine

variable {κ : Type} {d : Dynamics κ} {m m' : Machine κ} {mv : Move} {p q x y child : Pid}
  {proc proc' : Process κ} {state : κ}

/-! ## Ends -/

/-- Who is not active is not there or has ended. -/
theorem active?_eq_none : m.active? x = none ↔
    ∀ proc state, m.processes[x]? = some proc → proc.life ≠ .active state := by
  constructor
  · intro h proc state hx hlife
    rw [active?_eq_some.mpr ⟨hx, hlife⟩] at h
    cases h
  · intro h
    cases hactive : m.active? x with
    | none => rfl
    | some s =>
      obtain ⟨hx, hlife⟩ := active?_eq_some.mp (show m.active? x = some (s.1, s.2) from hactive)
      exact absurd hlife (h _ _ hx)

/-- Nobody comes back who has ended. -/
theorem active?_of_make? (h : m.make? d mv = some m') (hlt : x < m.processes.length)
    (hx : m.active? x = none) : m'.active? x = none := by
  rw [active?_eq_none] at hx ⊢
  intro proc' state' hx' hlife'
  cases make?_becomes h hx' with
  | acted _ hp hlife _ => exact hx _ _ hp hlife
  | interrupted _ hp hlife => exact hx _ _ hp hlife
  | touched hp _ ht =>
    cases ht with
    | unchanged => exact hx _ _ hp hlife'
    | told => exact hx _ _ hp hlife'
    | killed => cases hlife'
    | reaped => cases hlife'
  | born _ _ _ hlength => exact absurd hlength (Nat.ne_of_lt hlt)

/-! ## Taking an end -/

theorem reaping?_eq_none (hmv : m.asking? d mv = some (p, child)) (h : m.await p child = none) :
    m.reaping? d mv = none := by
  rw [reaping?, hmv, Option.filter_eq_none_iff]
  rintro ⟨p', child'⟩ heq
  cases heq
  simp [h]

/-- A process takes the end only of a child of its own, which has ended before. -/
theorem of_reaping? (h : m.make? d mv = some m') (hr : m.reaping? d mv = some (p, child)) :
    ∃ proc status, m.processes[child]? = some proc ∧ proc.parent = p ∧
      proc.life = .ended status ∧ m'.processes[child]? = some { proc with life := .reaped } := by
  obtain ⟨hasking, hawait⟩ := Option.filter_eq_some_iff.mp hr
  simp only at hawait
  split at hawait
  · next status m₁ hm₁ =>
    rcases await_cases hm₁ with ⟨-, hreply, -⟩ | ⟨proc, status', hchild, hparent, hended, -, rfl⟩
    · cases hreply
    · refine ⟨proc, status', hchild, hparent, hended, ?_⟩
      have hreaped := getElem?_setProcess hchild { proc with life := .reaped } child
      rw [if_pos rfl] at hreaped
      rcases make?_cases h with ⟨q, procq, state, rfl, hq, hlife, hact⟩ |
        ⟨q, procq, state, _, _, rfl, -⟩ | ⟨clock, rfl, -⟩ | ⟨q, child', reply, rfl, hm'⟩
      · have hactive := active?_eq_some.mpr ⟨hq, hlife⟩
        have hne : child ≠ q := by
          rintro rfl
          obtain rfl := Option.some.inj (hq.symm.trans hchild)
          cases hlife.symm.trans hended
        obtain ⟨hq₁, -⟩ := await_other hq hlife hm₁
        simp only [asking?, hactive] at hasking
        split at hasking
        · next ha =>
          cases hasking
          simp only [act, ha, hm₁, Option.some.injEq] at hact
          rw [← hact, resume_eq hq₁ hlife, getElem?_setProcess hq₁, if_neg hne, hreaped]
        · next ha =>
          cases hasking
          simp only [act, ha, hm₁, Option.some.injEq] at hact
          rw [← hact, resume_eq hq₁ hlife, getElem?_setProcess hq₁, if_neg hne, hreaped]
        · cases hasking
      · cases hasking
      · cases hasking
      · cases hasking
        cases hm'.symm.trans hm₁
        exact hreaped
  · cases hawait

/-- The end of a process was taken in a move, or it was taken before. -/
theorem reaped_iff_of_make? (h : m.make? d mv = some m') (hx : m.processes[x]? = some proc)
    (hx' : m'.processes[x]? = some proc') :
    proc'.life = .reaped ↔ proc.life = .reaped ∨ m.reaping? d mv = some (proc.parent, x) := by
  constructor
  · intro hlife'
    cases make?_becomes h hx' with
    | acted _ hp hlife hacts =>
      rcases hacts.active_or_finished hlife with ⟨state', hactive⟩ | ⟨status, rfl⟩
      · cases hactive.symm.trans hlife'
      · cases hlife'
    | interrupted => cases hlife'
    | touched hp _ ht =>
      obtain rfl := Option.some.inj (hx.symm.trans hp)
      cases ht with
      | unchanged => exact Or.inl hlife'
      | told => exact Or.inl hlife'
      | killed => cases hlife'
      | reaped _ _ hr => exact Or.inr hr
    | born => cases hlife'
  · rintro (hlife | hr)
    · cases make?_becomes h hx' with
      | acted _ hp hactive _ =>
        obtain rfl := Option.some.inj (hx.symm.trans hp)
        cases hlife.symm.trans hactive
      | interrupted _ hp hactive =>
        obtain rfl := Option.some.inj (hx.symm.trans hp)
        cases hlife.symm.trans hactive
      | touched hp _ ht =>
        obtain rfl := Option.some.inj (hx.symm.trans hp)
        cases ht with
        | unchanged => exact hlife
        | told => exact hlife
        | killed _ hactive => cases hlife.symm.trans hactive
        | reaped => rfl
      | born _ _ _ hlength =>
        exact absurd hlength (Nat.ne_of_lt (List.getElem?_eq_some_iff.mp hx).1)
    · obtain ⟨proc₀, status, hchild, -, -, hreaped⟩ := of_reaping? h hr
      obtain rfl := Option.some.inj (hx'.symm.trans hreaped)
      rfl

/-- Who has taken the end of a process. -/
def reaper? (m : Machine κ) (x : Pid) : Option Pid :=
  match m.processes[x]? with
  | some ⟨parent, _, .reaped⟩ => some parent
  | _ => none

theorem reaper?_eq_some : m.reaper? x = some p ↔
    ∃ proc, m.processes[x]? = some proc ∧ proc.life = .reaped ∧ proc.parent = p := by
  unfold reaper?
  constructor
  · intro h
    split at h
    · next hx =>
      cases h
      exact ⟨_, hx, rfl, rfl⟩
    · cases h
  · rintro ⟨⟨parent, context, life⟩, hx, hlife, hparent⟩
    subst hlife hparent
    simp only [hx]

theorem reaper?_eq_none_of_le (h : m.processes.length ≤ x) : m.reaper? x = none := by
  simp [reaper?, List.getElem?_eq_none h]

/-- An end is taken once. -/
theorem reaper?_of_reaping? (h : m.make? d mv = some m')
    (hr : m.reaping? d mv = some (p, x)) : m.reaper? x = none ∧ m'.reaper? x = some p := by
  obtain ⟨proc, status, hx, hparent, hended, hx'⟩ := of_reaping? h hr
  refine ⟨?_, reaper?_eq_some.mpr ⟨_, hx', rfl, hparent⟩⟩
  rw [Option.eq_none_iff_forall_ne_some]
  intro q hq
  obtain ⟨proc', hproc', hreaped, -⟩ := reaper?_eq_some.mp hq
  obtain rfl := Option.some.inj (hx.symm.trans hproc')
  cases hended.symm.trans hreaped

theorem reaper?_of_make? (h : m.make? d mv = some m')
    (hr : ∀ p, m.reaping? d mv ≠ some (p, x)) : m'.reaper? x = m.reaper? x := by
  refine Option.ext fun p => ?_
  rw [reaper?_eq_some, reaper?_eq_some]
  constructor
  · rintro ⟨proc', hx', hlife', hparent'⟩
    cases make?_becomes h hx' with
    | born => cases hlife'
    | acted _ hx | interrupted _ hx | touched hx =>
      obtain ⟨proc₁, hx₁, hparent⟩ := parent_of_make? h hx
      obtain rfl := Option.some.inj (hx'.symm.trans hx₁)
      exact ⟨_, hx, ((reaped_iff_of_make? h hx hx').mp hlife').resolve_right (hr _),
        hparent.symm.trans hparent'⟩
  · rintro ⟨proc, hx, hlife, hparent⟩
    obtain ⟨proc', hx', hparent'⟩ := parent_of_make? h hx
    exact ⟨proc', hx', (reaped_iff_of_make? h hx hx').mpr (Or.inl hlife), hparent'.trans hparent⟩

/-! ## Starting a process -/

/-- Who starts a process in a move. -/
def bearing? (d : Dynamics κ) (m : Machine κ) : Move → Option Pid
  | .step p =>
    match m.active? p with
    | some (_, state) =>
      match d.action state, m.refusal? with
      | .fork .., none => some p
      | _, _ => none
    | none => none
  | _ => none

theorem bearing?_eq_some (h : m.bearing? d mv = some p) :
    ∃ proc state child next, mv = .step p ∧ m.processes[p]? = some proc ∧
      proc.life = .active state ∧ d.action state = .fork child next ∧ m.refusal? = none := by
  unfold bearing? at h
  split at h
  · split at h
    · next proc state hactive =>
      split at h
      · next child next ha hgranted =>
        cases h
        obtain ⟨hp, hlife⟩ := active?_eq_some.mp hactive
        exact ⟨proc, state, child, next, rfl, hp, hlife, ha, hgranted⟩
      · cases h
    · cases h
  · cases h

theorem bearing?_of_fork (hp : m.processes[p]? = some proc) (hlife : proc.life = .active state)
    {childState : κ} {next : Except Errno Pid → κ} (ha : d.action state = .fork childState next)
    (hgranted : m.refusal? = none) : m.bearing? d (.step p) = some p := by
  simp [bearing?, active?_eq_some.mpr ⟨hp, hlife⟩, ha, hgranted]

/-- Whoever starts a process is the parent of a new one. -/
theorem born_of_bearing? (h : m.make? d mv = some m') (hb : m.bearing? d mv = some p) :
    ∃ proc state, m'.processes[m.processes.length]? = some proc ∧ proc.parent = p ∧
      proc.life = .active state := by
  obtain ⟨proc, state, child, next, rfl, hp, hlife, ha, hgranted⟩ := bearing?_eq_some hb
  simp only [make?, step, active?_eq_some.mpr ⟨hp, hlife⟩, ha, act, hgranted, spawn,
    Option.some.injEq] at h
  subst h
  exact ⟨⟨p, { proc.context with pending := [] }, .active child⟩, child,
    by simp [setProcess, attempted], rfl, rfl⟩

/-- A child that is there after a move was there before, or was started just now. -/
theorem child_of_make? (h : m.make? d mv = some m') (hy : m'.processes[y]? = some proc')
    (hparent : proc'.parent = p) :
    (∃ proc, m.processes[y]? = some proc ∧ proc.parent = p) ∨
      m.bearing? d mv = some p ∧ y = m.processes.length := by
  cases make?_becomes h hy with
  | born hmv hp hlife hlength child next ha hgranted =>
    subst hmv hparent
    exact Or.inr ⟨bearing?_of_fork hp hlife ha hgranted, hlength⟩
  | acted _ hy₀ | interrupted _ hy₀ | touched hy₀ =>
    obtain ⟨proc₁, hy₁, hparent₁⟩ := parent_of_make? h hy₀
    obtain rfl := Option.some.inj (hy.symm.trans hy₁)
    exact Or.inl ⟨_, hy₀, hparent₁.symm.trans hparent⟩

/-! ## Children -/

theorem mem_childrenOf : y ∈ m.childrenOf p ↔
    ∃ proc, m.processes[y]? = some proc ∧ proc.parent = p ∧ y ≠ p ∧ proc.life ≠ .reaped := by
  simp only [childrenOf, List.mem_map, List.mem_filter, Bool.and_eq_true, beq_iff_eq, bne_iff_ne,
    Prod.exists, exists_eq_right, List.mem_zipIdx_iff_getElem?]
  refine exists_congr fun proc => and_congr_right fun hy => ?_
  rw [and_assoc]
  refine and_congr_right fun _ => and_congr_right fun _ => ?_
  cases proc.life <;> simp

/-- How a move changes the list of the children of a process: the one whose end the process has
taken is missing, and the one that it has started is new. -/
def Renews (d : Dynamics κ) (m : Machine κ) (mv : Move) (p : Pid) (old new : List Pid) : Prop :=
  ∀ y, y ∈ new ↔ y ∈ old ∧ m.reaping? d mv ≠ some (p, y) ∨
    m.bearing? d mv = some p ∧ y = m.processes.length

theorem Renews.refl {l : List Pid} (hr : ∀ y, m.reaping? d mv ≠ some (p, y))
    (hb : m.bearing? d mv ≠ some p) : m.Renews d mv p l l := by
  simp [Renews, hr, hb]

/-- Lists of the same children are renewed to lists of the same children. -/
theorem Renews.congr {l l' k k' : List Pid} (hl : m.Renews d mv p l l')
    (hk : m.Renews d mv p k k') (h : ∀ y, y ∈ l ↔ y ∈ k) (y : Pid) : y ∈ l' ↔ y ∈ k' := by
  rw [hl y, hk y, h y]

theorem childrenOf_of_make? (h : m.make? d mv = some m') (p : Pid) :
    m.Renews d mv p (m.childrenOf p) (m'.childrenOf p) := by
  intro y
  rw [mem_childrenOf, mem_childrenOf]
  constructor
  · rintro ⟨proc', hy', hparent', hne, hlife'⟩
    refine (child_of_make? h hy' hparent').imp_left fun ⟨proc, hy, hparent⟩ => ?_
    obtain ⟨hreaped, hreaping⟩ := not_or.mp (mt (reaped_iff_of_make? h hy hy').mpr hlife')
    exact ⟨⟨proc, hy, hparent, hne, hreaped⟩, hparent ▸ hreaping⟩
  · rintro (⟨⟨proc, hy, hparent, hne, hlife⟩, hreaping⟩ | ⟨hb, rfl⟩)
    · obtain ⟨proc', hy', hparent'⟩ := parent_of_make? h hy
      refine ⟨proc', hy', hparent'.trans hparent, hne, fun hlife' => ?_⟩
      rcases (reaped_iff_of_make? h hy hy').mp hlife' with hreaped | hr
      · exact hlife hreaped
      · exact hreaping (hparent ▸ hr)
    · obtain ⟨proc', state, hy', hparent', hlife'⟩ := born_of_bearing? h hb
      obtain ⟨proc, _, _, _, -, hp, -⟩ := bearing?_eq_some hb
      refine ⟨proc', hy', hparent', ?_, by simp [hlife']⟩
      exact Ne.symm (Nat.ne_of_lt (List.getElem?_eq_some_iff.mp hp).1)

/-- A process that is new has no children. -/
theorem childrenOf_length (hs : m.Sound) (h : m.make? d mv = some m') :
    y ∉ m'.childrenOf m.processes.length := by
  intro hy
  rcases (childrenOf_of_make? h _ y).mp hy with ⟨hy, -⟩ | ⟨hb, -⟩
  · obtain ⟨proc, hx, hparent, -⟩ := mem_childrenOf.mp hy
    exact absurd hparent (Nat.ne_of_lt (hs.parents y proc hx))
  · obtain ⟨proc, _, _, _, -, hp, -⟩ := bearing?_eq_some hb
    exact absurd (List.getElem?_eq_some_iff.mp hp).1 (Nat.lt_irrefl _)

/-! ## Descent -/

/-- Who was there before a move descends from whom it descended then. -/
theorem Descends.of_make? {a : Pid} (hs : m.Sound) (h : m.make? d mv = some m')
    (hd : m'.Descends a x) (hlt : x < m.processes.length) : m.Descends a x := by
  induction hd with
  | self => exact .self
  | child hx' _ ih =>
    have hx := List.getElem?_eq_getElem hlt
    obtain ⟨proc₁, hx₁, hparent⟩ := parent_of_make? h hx
    obtain rfl := Option.some.inj (hx'.symm.trans hx₁)
    refine .child hx ?_
    rw [← hparent]
    exact ih (hparent ▸ hs.parents _ _ hx)

end Machine

end PipeShell
