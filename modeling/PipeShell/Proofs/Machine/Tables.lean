import Mathlib.Logic.Function.Basic
import PipeShell.Proofs.Machine.Soundness

/-!
# What calls do to descriptor tables

Closing and copying change one entry of a table, and most calls change none. Whatever a process
calls for, all that it has open afterwards was open before, under some number, or is new
(`Call.perform_keeps`): nobody comes by the open files of others.
-/

namespace PipeShell

namespace DescriptorTable

theorem get_set_eq_update (t : DescriptorTable) (fd : Fd) (e : Option Descriptor) :
    (t.set fd e).get = Function.update t.get fd e :=
  funext fun fd' => by rw [get_set, Function.update_apply]

theorem get_onExec (t : DescriptorTable) (fd : Fd) :
    t.onExec.get fd = (t.get fd).filter fun d => !d.closeOnExec := by
  unfold onExec get
  rw [List.getElem?_map]
  cases t.slots[fd]? <;> simp

theorem Valid.onExec {t : DescriptorTable} {s : Store} (h : t.Valid s) :
    t.onExec.Valid s := by
  intro fd d hd
  rw [get_onExec] at hd
  exact h fd d (Option.filter_eq_some_iff.mp hd).1

theorem get_empty (fd : Fd) : empty.get fd = none := by
  simp [empty, get]

theorem valid_empty (s : Store) : empty.Valid s := by
  intro fd d hd
  rw [get_empty] at hd
  cases hd

end DescriptorTable

/-! ## Closing and copying -/

namespace Store

variable {s s' : Store} {context context' : Context}

/-- After closing, nothing is open under the number, whether or not something was. -/
theorem close_done {fd : Fd} {reply : Except Errno Unit}
    (h : s.close context fd = .done reply s' context') :
    context'.descriptors.get = Function.update context.descriptors.get fd none ∧
      context'.opening = context.opening ∧ context'.limit = context.limit := by
  unfold close at h
  split at h
  · next hnone =>
    cases h
    exact ⟨by rw [← hnone, Function.update_eq_self], rfl, rfl⟩
  · cases h
    exact ⟨DescriptorTable.get_set_eq_update .., rfl, rfl⟩

theorem close_ne_underway {fd : Fd} : s.close context fd ≠ .underway s' context' := by
  unfold close
  split <;> simp

/-- Copying a descriptor is refused only to processes that may not have the target. -/
theorem duplicate_done {source target : Fd} {d : Descriptor} {reply : Except Errno Unit}
    (hsource : context.descriptors.get source = some d) (hkept : d.closeOnExec = false)
    (hne : source ≠ target) (h : s.duplicate context source target = .done reply s' context') :
    (∃ e, reply = .error e ∧ context' = context ∧ context.limit ≤ target) ∨
      reply = .ok () ∧
        context'.descriptors.get = Function.update context.descriptors.get target (some d) ∧
        context'.opening = context.opening ∧ context'.limit = context.limit := by
  simp only [duplicate, hsource, if_neg hne] at h
  split at h
  · next hlimit =>
    cases h
    exact Or.inl ⟨_, rfl, rfl, hlimit⟩
  · cases h
    have hcopy : ({ d with closeOnExec := false } : Descriptor) = d := by rw [← hkept]
    exact Or.inr ⟨rfl, hcopy ▸ DescriptorTable.get_set_eq_update .., rfl, rfl⟩

theorem duplicate_ne_underway {source target : Fd} :
    s.duplicate context source target ≠ .underway s' context' := by
  unfold duplicate
  repeat' split
  all_goals simp

end Store

/-! ## What is open -/

namespace Store

variable {s s' : Store} {d : Descriptor}

/-- What is open through a descriptor. -/
def objectOf? (s : Store) (d : Descriptor) : Option Object :=
  (s.descriptions[d.description]?).map (·.object)

theorem lt_of_objectOf? {object : Object} (h : s.objectOf? d = some object) :
    d.description < s.descriptions.length := by
  obtain ⟨desc, hdesc, -⟩ := Option.map_eq_some_iff.mp h
  exact (List.getElem?_eq_some_iff.mp hdesc).1

theorem Grows.objectOf? (hs : s.Grows s') {object : Object} (h : s.objectOf? d = some object) :
    s'.objectOf? d = some object := by
  obtain ⟨desc, hdesc, rfl⟩ := Option.map_eq_some_iff.mp h
  obtain ⟨desc', hdesc', hobject⟩ := hs.descriptions _ desc hdesc
  exact Option.map_eq_some_iff.mpr ⟨desc', hdesc', hobject⟩

theorem Grows.objectOf?_eq (hs : s.Grows s') (hd : d.description < s.descriptions.length) :
    s'.objectOf? d = s.objectOf? d := by
  have hdesc : s.objectOf? d = some s.descriptions[d.description].object := by
    simp [Store.objectOf?, List.getElem?_eq_getElem hd]
  rw [hdesc, hs.objectOf? hdesc]

end Store

/-! ## Where open files come from -/

/-- All that is open in a table was open in another one, or has a description from `n` on. -/
def DescriptorTable.From (t old : DescriptorTable) (n : Nat) : Prop :=
  ∀ fd d, t.get fd = some d →
    (∃ fd' d', old.get fd' = some d' ∧ d'.description = d.description) ∨ n ≤ d.description

namespace DescriptorTable

variable {t old : DescriptorTable} {n : Nat}

theorem From.refl (t : DescriptorTable) (n : Nat) : t.From t n :=
  fun fd d hd => Or.inl ⟨fd, d, hd, rfl⟩

theorem From.empty (old : DescriptorTable) (n : Nat) : DescriptorTable.empty.From old n := by
  intro fd d hd
  rw [get_empty] at hd
  cases hd

theorem From.onExec (t : DescriptorTable) (n : Nat) : t.onExec.From t n := by
  intro fd d hd
  rw [get_onExec] at hd
  exact Or.inl ⟨fd, d, (Option.filter_eq_some_iff.mp hd).1, rfl⟩

theorem From.set (h : t.From old n) (fd : Fd) {e : Option Descriptor}
    (he : ∀ d, e = some d →
      (∃ fd' d', old.get fd' = some d' ∧ d'.description = d.description) ∨ n ≤ d.description) :
    (t.set fd e).From old n := by
  intro fd' d hd
  rw [get_set] at hd
  split at hd
  · exact he d hd
  · exact h fd' d hd

end DescriptorTable

/-- A process that goes on after a call does so in a context of this kind. -/
def Outcome.Leaves {ρ : Type} (P : Context → Prop) : Outcome ρ → Prop
  | .done _ _ context | .underway _ context => P context
  | .blocked | .killed _ => True

theorem Outcome.Leaves.imp {ρ : Type} {P Q : Context → Prop} {o : Outcome ρ} (h : o.Leaves P)
    (hpq : ∀ context, P context → Q context) : o.Leaves Q := by
  cases o with
  | done | underway => exact hpq _ h
  | blocked | killed => trivial

/-- What a call leaves open comes from what was open. -/
def Outcome.Keeps {ρ : Type} (s : Store) (context : Context) (o : Outcome ρ) : Prop :=
  o.Leaves fun context' => context'.descriptors.From context.descriptors s.descriptions.length

namespace Store

variable {s : Store} {context : Context}

theorem openFile_keeps (held : Object → Bool) (path : Bytes) (flags : OpenFlags) (mode : Mode) :
    (s.openFile context held path flags mode).Keeps s context := by
  cases hopening : context.opening with
  | some o =>
    rcases openFile_opening hopening held path flags mode with h | h
    · rw [h]
      exact .refl _ _
    · rw [h]
      trivial
  | none =>
    have htaking : (s.taking context flags.closeOnExec).descriptors.From context.descriptors
        s.descriptions.length := by
      refine (DescriptorTable.From.refl _ _).set _ fun d hd => Or.inr ?_
      cases hd
      exact Nat.le_refl _
    rcases openFile_cases hopening held path flags mode with ⟨e, h⟩ | ⟨object, s', -, -, h⟩
    · rw [h]
      exact .refl _ _
    · rcases h with h | ⟨o, -, h⟩
      · rw [h]
        exact htaking
      · rw [h]
        exact htaking

theorem makePipe_keeps : (s.makePipe context).Keeps s context := by
  rcases makePipe_cases s context with ⟨e, h⟩ | ⟨s', r, w, -, -, -, -, -, -, -, -, h⟩
  · rw [h]
    exact .refl _ _
  · rw [h]
    refine ((DescriptorTable.From.refl _ _).set r fun d hd => Or.inr ?_).set w fun d hd => Or.inr ?_
    · cases hd
      exact Nat.le_refl _
    · cases hd
      exact Nat.le_succ _

end Store

namespace Call

variable {s : Store} {context : Context}

/-- Whether a call is about descriptors. -/
def isOnTable : Call → Bool
  | openFile .. | close _ | duplicate .. | duplicateAbove .. | makePipe => true
  | _ => false

/-- A call that is not about descriptors leaves them as they are. -/
theorem perform_leaves (held : Object → Bool) (pid parent : Nat) {c : Call}
    (hc : c.isOnTable = false) :
    (c.perform s context held pid parent).Leaves fun context' =>
      context'.descriptors = context.descriptors ∧ context'.opening = context.opening ∧
        context'.limit = context.limit := by
  cases c with
  | openFile | close | duplicate | duplicateAbove | makePipe => cases hc
  | read fd count =>
    simp only [perform, Store.read]
    repeat' split
    all_goals first | exact ⟨rfl, rfl, rfl⟩ | trivial
  | write fd data =>
    simp only [perform, Store.write]
    repeat' split
    all_goals first | exact ⟨rfl, rfl, rfl⟩ | trivial
  | rewind fd count =>
    simp only [perform, Store.rewind]
    repeat' split
    all_goals exact ⟨rfl, rfl, rfl⟩
  | setMode fd mode =>
    simp only [perform, Store.setMode]
    repeat' split
    all_goals exact ⟨rfl, rfl, rfl⟩
  | changeDirectory path =>
    simp only [perform, enterDirectory]
    repeat' split
    all_goals exact ⟨rfl, rfl, rfl⟩
  | pause time =>
    simp only [perform, Store.pause]
    repeat' split
    all_goals first | exact ⟨rfl, rfl, rfl⟩ | trivial
  | makeDirectory | removeDirectory | removeFile | makeSymlink | makeName | rename =>
    simp only [perform, changed]
    split <;> exact ⟨rfl, rfl, rfl⟩
  | makeFifo | setModeOf =>
    simp only [perform, altered]
    split <;> exact ⟨rfl, rfl, rfl⟩
  | _ => exact ⟨rfl, rfl, rfl⟩

/-- Calls other than opening a file do not make a process wait for a partner. -/
theorem perform_opening (held : Object → Bool) (pid parent : Nat) {c : Call}
    (hc : ∀ path flags mode, c ≠ .openFile path flags mode) :
    (c.perform s context held pid parent).Leaves fun context' =>
      context'.opening = context.opening := by
  cases hon : c.isOnTable with
  | false => exact (perform_leaves held pid parent hon).imp fun _ h => h.2.1
  | true =>
    cases c with
    | openFile path flags mode => exact absurd rfl (hc path flags mode)
    | makePipe =>
      rcases Store.makePipe_cases s context with ⟨e, h⟩ | ⟨s', r, w, -, -, -, -, -, -, -, -, h⟩
      · rw [perform, h]
        rfl
      · rw [perform, h]
        rfl
    | close =>
      simp only [perform, Store.close]
      split <;> exact rfl
    | duplicate =>
      simp only [perform, Store.duplicate]
      repeat' split
      all_goals exact rfl
    | duplicateAbove =>
      simp only [perform, Store.duplicateAbove]
      repeat' split
      all_goals exact rfl
    | _ => cases hon

/-- Whatever a process calls for, all that it has open afterwards was open before or is new. -/
theorem perform_keeps (held : Object → Bool) (pid parent : Nat) (c : Call) :
    (c.perform s context held pid parent).Keeps s context := by
  cases hon : c.isOnTable with
  | false =>
    refine (perform_leaves held pid parent hon).imp fun context' h => ?_
    rw [h.1]
    exact .refl _ _
  | true =>
    cases c with
    | openFile path flags mode => exact Store.openFile_keeps held path flags mode
    | makePipe => exact Store.makePipe_keeps
    | close fd =>
      simp only [perform, Store.close]
      split
      · exact .refl _ _
      · exact (DescriptorTable.From.refl _ _).set fd (by simp)
    | duplicate source target =>
      simp only [perform, Store.duplicate]
      split
      · exact .refl _ _
      · next d hd =>
        repeat' split
        · exact .refl _ _
        · exact .refl _ _
        · refine (DescriptorTable.From.refl _ _).set target fun d' hd' => Or.inl ⟨source, d, hd, ?_⟩
          cases hd'
          rfl
    | duplicateAbove source least =>
      simp only [perform, Store.duplicateAbove]
      split
      · exact .refl _ _
      · next d hd =>
        repeat' split
        · exact .refl _ _
        · exact .refl _ _
        · refine (DescriptorTable.From.refl _ _).set _ fun d' hd' => Or.inl ⟨source, d, hd, ?_⟩
          cases hd'
          rfl
    | _ => cases hon

end Call

end PipeShell
