import PipeShell.Proofs.Machine.Blanking
import PipeShell.Proofs.Machine.Tables

/-!
# Opening files

Why a file cannot be opened. A lookup fails for many reasons, but never for want of a number for a
descriptor (`Store.spared_openPath`): that a process may have no more of them is found out apart
from the path, and only if all the numbers that it may have are taken
(`Store.limit_le_of_openFile`). The same goes for making a pipe, which takes two numbers
(`Store.makePipe_ok`).
-/

namespace PipeShell

/-- Whether a call was refused for want of a number for a descriptor. -/
def Errno.isShortage (e : Errno) : Bool := e == .tooManyOpenFiles || e == .badDescriptor

/-- Not a failure for want of a number. -/
def Spared {α : Type} (r : Except Errno α) : Prop := ∀ e, r = .error e → e.isShortage = false

namespace Spared

variable {α β : Type}

theorem ok (a : α) : Spared (.ok a) := fun _ h => by cases h

theorem error {e : Errno} (h : e.isShortage = false) : Spared (α := α) (.error e) :=
  fun _ heq => Except.error.inj heq ▸ h

theorem bind {r : Except Errno α} {f : α → Except Errno β} (h : Spared r)
    (hf : ∀ a, Spared (f a)) : Spared (r >>= f) := by
  cases r with
  | ok a => exact hf a
  | error e => exact error (h e rfl)

/-- A check that is made first. -/
theorem guard {c : Prop} [Decidable c] {e : Errno} {f : PUnit → Except Errno β}
    (he : e.isShortage = false) (hf : Spared (f ⟨⟩)) :
    Spared (if c then Except.error e >>= f else f ⟨⟩) := by
  split
  · exact error he
  · exact hf

end Spared

/-! ## Looking paths up -/

namespace FileSystem

variable (fs : FileSystem)

theorem spared_admissible (path : Bytes) : Spared (admissible path) := by
  unfold admissible
  repeat' split
  all_goals first | exact .ok _ | exact .error (by decide)

theorem spared_maySearch (dir : NodeId) : Spared (fs.maySearch dir) := by
  unfold maySearch
  repeat' split
  all_goals first | exact .ok _ | exact .error (by decide)

theorem spared_enter (opened : Fd → Option Object) (dir : NodeId) (name : Bytes) :
    Spared (fs.enter opened dir name) := by
  refine (fs.spared_maySearch dir).bind fun _ => ?_
  repeat' split
  all_goals first | exact .ok _ | exact .error (by decide)

theorem spared_walk (opened : Fd → Option Object) (followed : Bool → Bool)
    {follow : NodeId → List Bytes → Bool → Except Errno Place}
    (hfollow : ∀ dir names slashed, Spared (follow dir names slashed)) (dir : NodeId)
    (names : List Bytes) (slashed : Bool) :
    Spared (fs.walk opened followed follow dir names slashed) := by
  fun_induction fs.walk opened followed follow dir names slashed with
  | case1 => exact .ok _
  | case2 => exact (fs.spared_maySearch _).bind fun _ => .ok _
  | case4 _ _ _ _ e henter => exact .error (fs.spared_enter _ _ _ e henter)
  | case5 => exact hfollow _ _ _
  | case8 _ _ _ _ _ _ _ _ ih => exact ih
  | _ => first | exact .ok _ | exact .error (by decide)

theorem spared_trace (opened : Fd → Option Object) (followed : Bool → Bool) (links : Nat) :
    ∀ dir names slashed, Spared (fs.trace opened followed links dir names slashed) := by
  induction links with
  | zero => exact fs.spared_walk opened followed fun _ _ _ => .error (by decide)
  | succ links ih => exact fs.spared_walk opened followed ih

theorem spared_locate (followed : Bool → Bool) (view : View) (path : Bytes) :
    Spared (fs.locate followed view path) :=
  (spared_admissible path).bind fun _ => fs.spared_trace _ _ _ _ _ _

theorem spared_targetAt (view : View) (place : Place) : Spared (fs.targetAt view place) := by
  cases place with
  | unnamed => exact .ok _
  | named dir name slashed =>
    refine (fs.spared_enter _ dir name).bind fun _ => ?_
    split
    · exact .error (by decide)
    · exact .ok _

theorem spared_resolve (view : View) (path : Bytes) : Spared (fs.resolve view path) :=
  (fs.spared_locate _ view path).bind fun place => fs.spared_targetAt view place

theorem spared_mayLink (dir : NodeId) : Spared (fs.mayLink dir) := by
  unfold mayLink mayChange
  repeat' split
  all_goals first | exact .ok _ | exact .error (by decide)

end FileSystem

namespace Store

variable (s : Store) (context : Context)

theorem spared_mayOpen (node : Node) (flags : OpenFlags) : Spared (mayOpen node flags) := by
  unfold mayOpen
  repeat' split
  all_goals first | exact .ok _ | exact .error (by decide)

theorem spared_openObject (object : Object) (flags : OpenFlags) :
    Spared (s.openObject object flags) := by
  cases object with
  | readEnd | writeEnd => exact .ok _
  | node id =>
    simp only [openObject, openNode]
    split
    · exact .error (by decide)
    · refine (spared_mayOpen _ flags).bind fun _ => ?_
      split <;> exact .ok _

/-- A path is never refused for want of a number. -/
theorem spared_openPath (path : Bytes) (flags : OpenFlags) (mode : Mode) :
    Spared (s.openPath context path flags mode) := by
  unfold openPath
  split
  · exact (s.files.spared_resolve _ path).bind fun object => s.spared_openObject object flags
  · refine (s.files.spared_locate _ _ path).bind fun place => ?_
    cases place with
    | unnamed => exact .error (by cases flags.exclusive <;> decide)
    | named dir name slashed =>
      refine .guard (by decide) ?_
      simp only
      split
      · exact .guard (by decide) (s.spared_openObject _ flags)
      · next e henter =>
        exact .guard (s.files.spared_enter _ dir name e henter)
          ((s.files.spared_mayLink dir).bind fun _ => .ok _)

variable {s context}

/-! ## Taking numbers -/

/-- Opening a file is refused for want of a number only if all that the process may have are
taken. -/
theorem limit_le_of_openFile {held : Object → Bool} {path : Bytes} {flags : OpenFlags} {mode : Mode}
    {e : Errno} {s' : Store} {context' : Context}
    (h : s.openFile context held path flags mode = .done (.error e) s' context')
    (he : e.isShortage) : context.limit ≤ context.descriptors.lowestFree := by
  by_contra hlimit
  unfold openFile at h
  split at h
  · split at h <;> cases h
  · split at h
    · next hadmissible =>
      cases h
      simp [FileSystem.spared_admissible path e hadmissible] at he
    · rw [if_neg hlimit] at h
      split at h
      · next hpath =>
        cases h
        simp [s.spared_openPath context path flags mode e hpath] at he
      · simp only [install_eq, if_pos (Nat.not_le.mp hlimit)] at h
        split at h
        · unfold meet at h
          simp only at h
          split at h <;> cases h
        · cases h

end Store

namespace DescriptorTable

theorem lowestFree_le {t : DescriptorTable} {fd : Fd} (h : t.get fd = none) : t.lowestFree ≤ fd :=
  Nat.le_of_not_lt fun hlt => t.get_ne_none_of_lt_lowestFree hlt h

end DescriptorTable

namespace Store

variable {s : Store} {context : Context}

/-- A pipe can be made as long as two numbers are free. -/
theorem makePipe_ok {a b : Fd} (hne : a ≠ b) (ha : context.descriptors.get a = none)
    (hb : context.descriptors.get b = none) (hal : a < context.limit) (hbl : b < context.limit) :
    ∃ fds s' context', s.makePipe context = .done (.ok fds) s' context' := by
  have hr := Nat.lt_of_le_of_lt (DescriptorTable.lowestFree_le ha) hal
  set r := context.descriptors.lowestFree with hrdef
  -- The number that the first end does not take is left for the second.
  obtain ⟨fd, hfd, hfdl, hfdne⟩ : ∃ fd, context.descriptors.get fd = none ∧
      fd < context.limit ∧ fd ≠ r := by
    by_cases har : a = r
    · exact ⟨b, hb, hbl, har ▸ hne.symm⟩
    · exact ⟨a, ha, hal, har⟩
  have hw : (context.descriptors.set r (some ⟨s.descriptions.length, false⟩)).lowestFree <
      context.limit := by
    have hfree :
        (context.descriptors.set r (some ⟨s.descriptions.length, false⟩)).get fd = none := by
      rw [DescriptorTable.get_set, if_neg hfdne, hfd]
    exact Nat.lt_of_le_of_lt (DescriptorTable.lowestFree_le hfree) hfdl
  simp only [makePipe, install_eq, taking, ← hrdef, if_pos hr, if_pos hw]
  exact ⟨_, _, _, rfl⟩

end Store

end PipeShell
