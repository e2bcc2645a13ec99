import PipeShell.Proofs.Command.Reading

/-!
# The shape of the trees of lines

A tree that a line is read as is a `Command.isPipeline`: stages joined by pipes from the right, no
pipe being inside a stage (`Command.isPipeline_of_parse`). Its `Command.stages` are the trees of the
segments of the line, in order (`Command.stages_of_parse`), and each has the arguments and the
redirections of its segment (`Grammar.argv_tree`, `Grammar.redirectionCount_tree`).
-/

namespace PipeShell

namespace Command

/-- Whether a tree is a program with redirections around it. -/
def isStage : Command → Bool
  | exec _ => true
  | redirect t _ _ => t.isStage
  | pipe .. => false

/-- Whether a tree is made of stages that are joined by pipes from the right. -/
def isPipeline : Command → Bool
  | pipe left right => left.isStage && right.isPipeline
  | t => t.isStage

/-- The stages of a tree, first to last. -/
def stages : Command → List Command
  | pipe left right => left.stages ++ right.stages
  | t => [t]

/-- The words of the program of a stage. -/
def argv : Command → List Bytes
  | exec argv => argv
  | redirect t _ _ => t.argv
  | pipe .. => []

/-- The number of redirections around the program of a stage. -/
def redirectionCount : Command → Nat
  | redirect t _ _ => t.redirectionCount + 1
  | _ => 0

theorem stages_of_isStage {t : Command} (h : t.isStage) : t.stages = [t] := by
  cases t with
  | pipe => simp [isStage] at h
  | exec | redirect => rfl

theorem isPipeline_of_isStage {t : Command} (h : t.isStage) : t.isPipeline := by
  cases t with
  | pipe => simp [isStage] at h
  | exec | redirect => exact h

theorem isStage_foldl_redirect (rs : List Redirection) {t : Command} (h : t.isStage) :
    (rs.foldl (fun target r => .redirect target r.file r.direction) t).isStage := by
  induction rs generalizing t with
  | nil => exact h
  | cons r rs ih => exact ih h

theorem argv_foldl_redirect (rs : List Redirection) (t : Command) :
    (rs.foldl (fun target r => .redirect target r.file r.direction) t).argv = t.argv := by
  induction rs generalizing t with
  | nil => rfl
  | cons r rs ih => exact ih _

theorem redirectionCount_foldl_redirect (rs : List Redirection) (t : Command) :
    (rs.foldl (fun target r => .redirect target r.file r.direction) t).redirectionCount =
      t.redirectionCount + rs.length := by
  induction rs generalizing t with
  | nil => rfl
  | cons r rs ih =>
    rw [List.foldl_cons, ih, redirectionCount, List.length_cons]
    omega

end Command

namespace Grammar

theorem isStage_tree (segment : List Token) : (tree segment).isStage :=
  Command.isStage_foldl_redirect _ rfl

@[simp] theorem argv_tree (segment : List Token) : (tree segment).argv = arguments segment :=
  Command.argv_foldl_redirect _ _

@[simp] theorem redirectionCount_tree (segment : List Token) :
    (tree segment).redirectionCount = (redirections segment).length :=
  (Command.redirectionCount_foldl_redirect _ _).trans (Nat.zero_add _)

theorem stages_joined {ts : List Command} (h : ∀ t ∈ ts, t.isStage) (hne : ts ≠ []) :
    (joined ts).stages = ts := by
  fun_induction joined ts with
  | case1 => exact absurd rfl hne
  | case2 t => exact Command.stages_of_isStage (h t (List.mem_singleton.mpr rfl))
  | case3 t ts hts ih =>
    rw [List.forall_mem_cons] at h
    rw [Command.stages, Command.stages_of_isStage h.1, ih h.2 hts, List.singleton_append]

theorem isPipeline_joined {ts : List Command} (h : ∀ t ∈ ts, t.isStage) :
    (joined ts).isPipeline := by
  fun_induction joined ts with
  | case1 => rfl
  | case2 t => exact Command.isPipeline_of_isStage (h t (List.mem_singleton.mpr rfl))
  | case3 t ts hne ih =>
    rw [List.forall_mem_cons] at h
    simp [Command.isPipeline, h.1, ih h.2]

end Grammar

/-- Every line that is read is read as the trees of its segments, joined by pipes. -/
theorem Command.eq_joined_of_parse {line : Bytes} {t : Command} (h : parse line = .ok t) :
    t = Grammar.joined ((Grammar.segments (Token.body line)).map Grammar.tree) := by
  rw [parse_eq, Grammar.reading] at h
  split at h
  · cases h
  · split at h
    · cases h
    · exact (Except.ok.inj h).symm

theorem Grammar.isStage_of_mem_trees {segments : List (List Token)} {t : Command}
    (h : t ∈ segments.map tree) : t.isStage := by
  obtain ⟨segment, -, rfl⟩ := List.mem_map.mp h
  exact isStage_tree segment

/-- Every line that is read is read as stages that are joined by pipes. -/
theorem Command.isPipeline_of_parse {line : Bytes} {t : Command} (h : parse line = .ok t) :
    t.isPipeline := by
  rw [eq_joined_of_parse h]
  exact Grammar.isPipeline_joined fun _ => Grammar.isStage_of_mem_trees

/-- The stages of a tree are the trees of the segments of its line. -/
theorem Command.stages_of_parse {line : Bytes} {t : Command} (h : parse line = .ok t) :
    t.stages = (Grammar.segments (Token.body line)).map Grammar.tree := by
  rw [eq_joined_of_parse h]
  exact Grammar.stages_joined (fun _ => Grammar.isStage_of_mem_trees)
    (by simp [Grammar.segments])

end PipeShell
