import Mathlib.Data.List.TakeWhile
import Mathlib.Tactic.Common
import PipeShell.Text.Blank

/-!
# Trimming

`Text.trimBy` takes off what satisfies a condition at both ends of a list, and nothing else
(`Text.exists_trimBy`). Where nothing of a list is to be trimmed off, it is what is left of all
lists that have it in the middle (`Text.trimBy_eq_iff`).
-/

namespace PipeShell

namespace Text

variable {α : Type} {p : α → Bool} {x : α} {l left right w : List α}

theorem trimBy_append (hx : p x = true) (l : List α) : trimBy p (l ++ [x]) = trimBy p l := by
  rw [trimBy, trimBy, List.dropWhile_append]
  split
  · next hempty =>
    rw [List.isEmpty_iff.mp hempty, List.dropWhile_cons_of_pos hx]
    rfl
  · rw [List.reverse_append, List.reverse_singleton, List.singleton_append,
      List.dropWhile_cons_of_pos hx]

theorem trimBy_append_of_forall (h : ∀ x ∈ right, p x = true) (l : List α) :
    trimBy p (l ++ right) = trimBy p l := by
  induction right generalizing l with
  | nil => rw [List.append_nil]
  | cons x right ih =>
    obtain ⟨hx, hright⟩ := List.forall_mem_cons.mp h
    rw [List.append_cons, ih hright, trimBy_append hx]

theorem trimBy_of_forall_append (h : ∀ x ∈ left, p x = true) (l : List α) :
    trimBy p (left ++ l) = trimBy p l := by
  rw [trimBy, trimBy, List.dropWhile_append_of_pos h]

/-- What is trimmed off satisfies the condition. -/
theorem exists_trimBy (p : α → Bool) (l : List α) :
    ∃ left right, l = left ++ trimBy p l ++ right ∧ (∀ x ∈ left, p x = true) ∧
      ∀ x ∈ right, p x = true := by
  let inner := l.dropWhile p
  refine ⟨l.takeWhile p, (inner.reverse.takeWhile p).reverse, ?_,
    fun x hx => List.mem_takeWhile_imp hx, fun x hx => ?_⟩
  · have hinner : trimBy p l ++ (inner.reverse.takeWhile p).reverse = inner := by
      rw [trimBy, ← List.reverse_append, List.takeWhile_append_dropWhile, List.reverse_reverse]
    rw [List.append_assoc, hinner, List.takeWhile_append_dropWhile]
  · exact List.mem_takeWhile_imp (List.mem_reverse.mp hx)

/-- What is left of a list after trimming, when trimming takes nothing off that. -/
theorem trimBy_eq_iff (hw : trimBy p w = w) :
    trimBy p l = w ↔ ∃ left right, l = left ++ w ++ right ∧ (∀ x ∈ left, p x = true) ∧
      ∀ x ∈ right, p x = true := by
  constructor
  · rintro rfl
    exact exists_trimBy p l
  · rintro ⟨left, right, rfl, hleft, hright⟩
    rw [trimBy_append_of_forall hright, trimBy_of_forall_append hleft, hw]

theorem trimBy_of_forall_not (h : ∀ x ∈ l, p x = false) : trimBy p l = l := by
  have hdrop {l : List α} (h : ∀ x ∈ l, p x = false) : l.dropWhile p = l := by
    cases l with
    | nil => rfl
    | cons x l => exact List.dropWhile_cons_of_neg (by simp [h x])
  rw [trimBy, hdrop h, hdrop (by simpa using h), List.reverse_reverse]

end Text

end PipeShell
