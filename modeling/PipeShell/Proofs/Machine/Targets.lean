import PipeShell.Proofs.Machine.Opening

/-!
# What opening a path does to the files

To open a path for reading changes no file (`Store.openPath_reading_ok`). To open it for writing
empties the file that it leads to or makes a new one, and nothing else happens to any file
(`FileSystem.Rewrites`). The path leads to what was opened afterwards (`Store.openPath_writing_ok`):
a path that has been followed to its end once is followed to the same end when a file was emptied or
a name was added (`FileSystem.Grown.locate`).
-/

namespace PipeShell

/-- The permission bits of a regular file: a program is one as well. -/
def Node.regular? : Node → Option Mode
  | .file mode _ | .program mode _ => some mode
  | _ => none

namespace FileSystem

variable {fs fs' : FileSystem} {opened : Fd → Option Object} {id dir : NodeId} {name : Bytes}
  {node : Node} {view : View} {path : Bytes}

/-! ## Nodes -/

theorem node?_setNode_of_some {old : Node} (hid : fs.node? id = some old) (node : Node)
    (x : NodeId) : (fs.setNode id node).node? x = if x = id then some node else fs.node? x := by
  rw [node?_setNode]
  by_cases hx : x = id
  · subst hx
    rw [if_pos rfl, if_pos rfl, hid, Option.map_some]
  · rw [if_neg (Ne.symm hx), if_neg hx]

theorem node?_link {mode : Mode} {parent : NodeId} {entries : List (Bytes × NodeId)}
    (hdir : fs.node? dir = some (.directory mode parent entries)) (name : Bytes) (node : Node)
    (x : NodeId) : (fs.link dir name node).2.node? x =
      if x = dir then some (.directory mode parent (entries ++ [(name, fs.nodes.length)]))
      else if x = fs.nodes.length then some node else fs.node? x := by
  have hlt := (List.getElem?_eq_some_iff.mp hdir).1
  have hdir' : (⟨fs.nodes ++ [node]⟩ : FileSystem).node? dir =
      some (.directory mode parent entries) := (List.getElem?_append_left hlt).trans hdir
  simp only [link, addEntry, hdir', node?_setNode_of_some hdir']
  by_cases hx : x = dir
  · rw [if_pos hx, if_pos hx]
  · rw [if_neg hx, if_neg hx]
    by_cases hlength : x = fs.nodes.length
    · rw [if_pos hlength, hlength]
      exact List.getElem?_concat_length
    · rw [if_neg hlength]
      rcases Nat.lt_or_ge x fs.nodes.length with hlt | hge
      · exact List.getElem?_append_left hlt
      · simp only [node?]
        rw [List.getElem?_eq_none hge, List.getElem?_eq_none]
        rw [List.length_append, List.length_singleton]
        exact Nat.lt_of_le_of_ne hge (Ne.symm hlength)

/-! ## Following a path again -/

/-- What a name leads to in the files it leads to in the others as well, and a name that is missing
does not lead to a link there. -/
structure Grown (opened : Fd → Option Object) (fs fs' : FileSystem) : Prop where
  enter : ∀ dir name target, fs.enter opened dir name = .ok target →
    fs'.enter opened dir name = .ok target ∧ fs'.linkTarget? target = fs.linkTarget? target
  missing : ∀ dir name, fs.enter opened dir name = .error .noEntry →
    fs'.enter opened dir name = .error .noEntry ∨
      ∃ id, fs'.enter opened dir name = .ok (.node id) ∧ fs'.linkTarget? (.node id) = none

theorem Grown.refl (opened : Fd → Option Object) (fs : FileSystem) : Grown opened fs fs where
  enter _ _ _ h := ⟨h, rfl⟩
  missing _ _ h := Or.inl h

theorem maySearch_ne_noEntry (dir : NodeId) : fs.maySearch dir ≠ .error .noEntry := by
  intro h
  unfold maySearch at h
  repeat' split at h
  all_goals cases h

/-- The names that stand for directories are never missing. -/
theorem enter_ne_noEntry (h : isDots name = true) : fs.enter opened dir name ≠ .error .noEntry := by
  intro henter
  simp only [enter, bind, Except.bind] at henter
  split at henter
  · next e hsearch =>
    cases henter
    exact maySearch_ne_noEntry dir hsearch
  · split at henter
    · cases henter
    · rcases Bool.or_eq_true_iff.mp h with h | h
      · rw [if_pos h] at henter
        cases henter
      · rw [if_pos h] at henter
        split at henter <;> cases henter

/-- A path that ends at a name without a slash is followed to the same end. -/
theorem Grown.walk (h : Grown opened fs fs')
    {follow follow' : NodeId → List Bytes → Bool → Except Errno Place} {dir' : NodeId}
    {name' : Bytes}
    (hfollow : ∀ {dir names slashed}, follow dir names slashed = .ok (.named dir' name' false) →
      follow' dir names slashed = .ok (.named dir' name' false))
    {dir : NodeId} {names : List Bytes} {slashed : Bool}
    (ht : fs.walk opened (fun slashed => !slashed) follow dir names slashed =
      .ok (.named dir' name' false)) :
    fs'.walk opened (fun _ => true) follow' dir names slashed = .ok (.named dir' name' false) := by
  fun_induction fs.walk opened (fun slashed => !slashed) follow dir names slashed with
  | case1 | case4 | case9 => cases ht
  | case2 dir name rest hlast =>
    cases hs : fs.maySearch dir with
    | error e =>
      rw [hs] at ht
      cases ht
    | ok =>
      rw [hs] at ht
      cases ht
      simp at hlast
  | case3 _ _ _ _ e henter hlast =>
    cases ht
    simp only [Bool.and_eq_true, List.isEmpty_iff, decide_eq_true_eq] at hlast
    obtain ⟨rfl, rfl⟩ := hlast
    have hdots : isDots name' = false := by
      by_contra hdots
      exact enter_ne_noEntry (by simpa using hdots) henter
    unfold FileSystem.walk
    rcases h.missing _ _ henter with henter' | ⟨id, henter', hlink⟩
    · simp [henter']
    · simp [henter', hlink, hdots]
  | case5 _ _ _ _ _ henter _ hlink =>
    obtain ⟨henter', hlink'⟩ := h.enter _ _ _ henter
    unfold FileSystem.walk
    simpa [henter', hlink', hlink] using hfollow ht
  | case6 _ _ _ _ henter hlink =>
    obtain ⟨henter', hlink'⟩ := h.enter _ _ _ henter
    unfold FileSystem.walk
    simpa [henter', hlink', hlink] using ht
  | case7 _ _ target henter hlink hnode =>
    obtain ⟨henter', hlink'⟩ := h.enter _ _ _ henter
    unfold FileSystem.walk
    cases target with
    | node id => exact absurd rfl (hnode id)
    | _ => simpa [henter', hlink', hlink] using ht
  | case8 _ _ _ _ _ _ henter hlink ih =>
    obtain ⟨henter', hlink'⟩ := h.enter _ _ _ henter
    unfold FileSystem.walk
    simpa [henter', hlink', hlink] using ih ht

theorem Grown.trace (h : Grown opened fs fs') {links : Nat} {dir dir' : NodeId}
    {names : List Bytes} {name' : Bytes} {slashed : Bool}
    (ht : fs.trace opened (fun slashed => !slashed) links dir names slashed =
      .ok (.named dir' name' false)) :
    fs'.trace opened (fun _ => true) links dir names slashed = .ok (.named dir' name' false) := by
  induction links generalizing dir names slashed with
  | zero =>
    refine h.walk (fun hfollow => ?_) ht
    cases hfollow
  | succ links ih => exact h.walk ih ht

theorem Grown.locate (h : Grown view.opened fs fs')
    (hlocate : fs.locate (fun slashed => !slashed) view path = .ok (.named dir name false)) :
    fs'.locate (fun _ => true) view path = .ok (.named dir name false) := by
  simp only [FileSystem.locate, bind, Except.bind] at hlocate ⊢
  split at hlocate
  · cases hlocate
  · exact h.trace hlocate

/-- A path that ends at a name without a slash leads to what the name leads to. -/
theorem Grown.resolve (h : Grown view.opened fs fs')
    (hlocate : fs.locate (fun slashed => !slashed) view path = .ok (.named dir name false)) :
    fs'.resolve view path = fs'.enter view.opened dir name := by
  simp only [FileSystem.resolve, h.locate hlocate, bind, Except.bind, targetAt]
  cases fs'.enter view.opened dir name <;> rfl

/-- Other bytes or permissions of a file change nothing about what names lead to. -/
theorem grown_setNode {mode mode' : Mode} {data' : Bytes} (hid : fs.node? id = some node)
    (hregular : node.regular? = some mode) (opened : Fd → Option Object) :
    Grown opened fs (fs.setNode id (.file mode' data')) := by
  have hnode := node?_setNode_of_some hid (.file mode' data')
  have henter (dir : NodeId) (name : Bytes) :
      (fs.setNode id (.file mode' data')).enter opened dir name = fs.enter opened dir name := by
    unfold enter maySearch listing? isDescriptorList
    rw [hnode]
    by_cases hdir : dir = id
    · subst hdir
      cases node <;> cases hregular <;> simp [hid, Node.isDirectory, bind, Except.bind]
    · rw [if_neg hdir]
  refine ⟨fun dir name target h => ⟨(henter dir name).trans h, ?_⟩,
    fun dir name h => Or.inl ((henter dir name).trans h)⟩
  cases target with
  | node x =>
    simp only [linkTarget?, hnode]
    by_cases hx : x = id
    · subst hx
      cases node <;> cases hregular <;> simp [hid]
    · rw [if_neg hx]
  | _ => rfl

/-- What a name leads to in a directory. -/
theorem enter_directory {mode : Mode} {parent : NodeId} {entries : List (Bytes × NodeId)}
    (hdir : fs.node? dir = some (.directory mode parent entries)) (name : Bytes) :
    fs.enter opened dir name =
      if mode.maySearch then
        if name = dot then .ok (.node dir)
        else if name = dotDot then .ok (.node parent)
        else if nameLimit < name.length then .error .nameTooLong
        else (entries.lookup name).elim (.error .noEntry) fun id => .ok (.node id)
      else .error .accessDenied := by
  have hsearch : fs.maySearch dir = if mode.maySearch then .ok () else .error .accessDenied := by
    unfold maySearch
    rw [hdir]
    rfl
  simp only [enter, hsearch, bind, Except.bind]
  by_cases h : mode.maySearch = true
  · simp only [if_pos h, listing?, isDescriptorList, hdir, Option.bind_some, Node.listing?,
      beq_iff_eq, Bool.false_eq_true, if_false]
    cases entries.lookup name <;> rfl
  · simp only [if_neg h]

/-- What names lead to in files with one name more. -/
theorem enter_link {mode : Mode} {parent : NodeId} {entries : List (Bytes × NodeId)}
    (hdir : fs.node? dir = some (.directory mode parent entries))
    (hname : fs.enter opened dir name = .error .noEntry) (hnode : node.isDirectory = false)
    (dir' : NodeId) (name' : Bytes) :
    (fs.link dir name node).2.enter opened dir' name' =
      if dir' = dir ∧ name' = name then .ok (.node fs.nodes.length)
      else fs.enter opened dir' name' := by
  have hlink := node?_link hdir name node
  by_cases hd : dir' = dir
  · subst hd
    rw [enter_directory (by rw [hlink, if_pos rfl]), enter_directory hdir]
    rw [enter_directory hdir] at hname
    split at hname
    · next hsearch =>
      rw [if_pos hsearch, if_pos hsearch]
      split at hname
      · cases hname
      split at hname
      · cases hname
      split at hname
      · cases hname
      · next hdot hdots hlong =>
        have hnone : entries.lookup name = none := by
          cases hlookup : entries.lookup name with
          | none => rfl
          | some => simp [hlookup] at hname
        by_cases hn : name' = name
        · subst hn
          simp [hdot, hdots, hlong, hnone, List.lookup_append]
        · rw [if_neg (show ¬(dir' = dir' ∧ name' = name) from fun h => hn h.2),
            List.lookup_append]
          simp [List.lookup_cons, beq_eq_false_iff_ne.mpr hn]
    · cases hname
  · rw [if_neg fun h => hd h.1]
    unfold enter maySearch listing? isDescriptorList
    simp only [hlink, if_neg hd]
    by_cases hlength : dir' = fs.nodes.length
    · have hnone : fs.node? dir' = none := List.getElem?_eq_none (Nat.le_of_eq hlength.symm)
      simp [hlength, hnode, hlength ▸ hnone, bind, Except.bind]
    · simp [hlength]

theorem grown_link {mode : Mode} {parent : NodeId} {entries : List (Bytes × NodeId)}
    (hdir : fs.node? dir = some (.directory mode parent entries))
    (hname : fs.enter opened dir name = .error .noEntry) (mode' : Mode) (data : Bytes) :
    Grown opened fs (fs.link dir name (.file mode' data)).2 := by
  have hlink := node?_link hdir name (.file mode' data)
  have hfile : (Node.file mode' data).isDirectory = false := rfl
  have henter := enter_link hdir hname hfile
  refine ⟨fun dir' name' target h => ⟨?_, ?_⟩, fun dir' name' h => ?_⟩
  · rw [henter, if_neg ?_, h]
    rintro ⟨rfl, rfl⟩
    cases hname.symm.trans h
  · cases target with
    | node x =>
      simp only [linkTarget?, hlink]
      by_cases hx : x = dir
      · subst hx
        simp [hdir]
      · rw [if_neg hx]
        by_cases hlength : x = fs.nodes.length
        · have hnone : fs.node? x = none := List.getElem?_eq_none (Nat.le_of_eq hlength.symm)
          rw [if_pos hlength, hnone]
        · rw [if_neg hlength]
    | _ => rfl
  · rw [henter]
    split
    · have hne : fs.nodes.length ≠ dir :=
        Nat.ne_of_gt (List.getElem?_eq_some_iff.mp hdir).1
      exact Or.inr ⟨_, rfl, by simp [linkTarget?, hlink, hne]⟩
    · exact Or.inl h

/-! ## Opening -/

/-- How the files change when a path is opened for writing: the regular file that it leads to is
emptied, a missing one is made, and what is no regular file is left alone. The path leads to
`target` then. -/
inductive Rewrites (fs : FileSystem) (view : View) (path : Bytes) (mode : Mode) :
    FileSystem → Object → Prop
  | emptied {id : NodeId} {node : Node} {old : Mode}
    (hpath : fs.resolve view path = .ok (.node id)) (hid : fs.node? id = some node)
    (hregular : node.regular? = some old) :
    Rewrites fs view path mode (fs.setNode id (.file old.withoutPrivileges [])) (.node id)
  | made {dir : NodeId} {name : Bytes} (hpath : fs.resolve view path = .error .noEntry)
    (hplace : fs.locate (fun _ => true) view path = .ok (.named dir name false))
    (hdir : ∃ mode parent entries, fs.node? dir = some (.directory mode parent entries)) :
    Rewrites fs view path mode (fs.link dir name (.file mode [])).2 (.node fs.nodes.length)
  | left {target : Object} (hpath : fs.resolve view path = .ok target)
    (hfile : ∀ id node, target = .node id → fs.node? id = some node → node.regular? = none) :
    Rewrites fs view path mode fs target

theorem directory_of_mayLink (h : fs.mayLink dir = .ok ()) :
    ∃ mode parent entries, fs.node? dir = some (.directory mode parent entries) := by
  unfold mayLink at h
  split at h
  · cases h
  · split at h
    · next mode parent entries hdir => exact ⟨mode, parent, entries, hdir⟩
    · cases h

end FileSystem

namespace Store

variable {s : Store} {context : Context} {path : Bytes} {flags : OpenFlags} {mode : Mode}
  {o : Opened}

/-- What is open once an object is opened: the object, or the end of the pipe that the flags ask
for. -/
def reopened (fs : FileSystem) (flags : OpenFlags) : Object → Object
  | .node id => match fs.node? id with
    | some (.fifo _ pipe) => pipeEnd pipe flags
    | _ => .node id
  | .readEnd pipe | .writeEnd pipe => pipeEnd pipe flags

theorem pipeEnd_ne_node (pipe : PipeId) (flags : OpenFlags) (n : NodeId) :
    pipeEnd pipe flags ≠ .node n := by
  unfold pipeEnd
  split <;> simp

theorem openNode_eq {fs : FileSystem} {id : NodeId} (h : openNode fs id flags = .ok o) :
    ∃ node, fs.node? id = some node ∧ o.files = fs.setNode id (opened node flags) ∧
      o.object = reopened fs flags (.node id) ∧ ∀ n, o.object = .node n → o.meets = false := by
  unfold openNode at h
  split at h
  · cases h
  · next node hid =>
    refine ⟨node, hid, ?_⟩
    simp only [bind, Except.bind, pure, Except.pure] at h
    split at h
    · cases h
    · split at h
      · cases h
        exact ⟨(FileSystem.setNode_self hid).symm, by simp [reopened, hid],
          fun _ hn => absurd hn (pipeEnd_ne_node _ _ _)⟩
      · next hfifo =>
        cases h
        refine ⟨rfl, ?_, fun _ _ => rfl⟩
        cases node with
        | fifo mode pipe => exact absurd rfl (hfifo mode pipe)
        | _ => simp [reopened, hid]

/-- To open a path for reading changes no file, and nobody has to be met but at a pipe. -/
theorem openPath_reading_ok (h : s.openPath context path .reading mode = .ok o) :
    ∃ target, s.files.resolve (s.view context) path = .ok target ∧ o.files = s.files ∧
      o.object = reopened s.files .reading target ∧ ∀ n, o.object = .node n → o.meets = false := by
  simp only [openPath, OpenFlags.reading, Bool.not_false, if_true, bind, Except.bind] at h
  split at h
  · cases h
  · next target hpath =>
    refine ⟨target, hpath, ?_⟩
    cases target with
    | node id =>
      obtain ⟨node, hid, hfiles, hobject, hmeets⟩ := openNode_eq h
      have hopened : opened node .reading = node := by cases node <;> rfl
      rw [← OpenFlags.reading, hopened, FileSystem.setNode_self hid] at hfiles
      exact ⟨hfiles, hobject, hmeets⟩
    | readEnd | writeEnd =>
      cases h
      exact ⟨rfl, rfl, fun _ _ => rfl⟩

/-- To open what a path leads to for writing empties it if it is a file. -/
theorem openObject_writing_ok {view : View} {target : Object} (mode : Mode)
    (hpath : s.files.resolve view path = .ok target)
    (h : s.openObject target .writing = .ok o) :
    s.files.Rewrites view path mode o.files target ∧
      s.files.Grown view.opened o.files ∧ o.object = reopened o.files .writing target := by
  cases target with
  | readEnd | writeEnd =>
    cases h
    exact ⟨.left hpath fun _ _ heq => (by cases heq), .refl _ _, rfl⟩
  | node id =>
    obtain ⟨node, hid, hfiles, hobject, -⟩ := openNode_eq h
    cases hregular : node.regular? with
    | some old =>
      have hopened : opened node .writing = .file old.withoutPrivileges [] := by
        cases node <;> cases hregular <;> rfl
      rw [hfiles, hobject, hopened]
      refine ⟨.emptied hpath hid hregular, FileSystem.grown_setNode hid hregular _, ?_⟩
      cases node <;> cases hregular <;>
        simp [reopened, hid, FileSystem.node?_setNode_of_some hid]
    | none =>
      have hopened : opened node .writing = node := by
        cases node <;> first | rfl | cases hregular
      rw [hopened, FileSystem.setNode_self hid] at hfiles
      rw [hfiles]
      refine ⟨.left hpath fun _ node' heq hnode => ?_, .refl _ _, hobject⟩
      cases heq
      obtain rfl := Option.some.inj (hid.symm.trans hnode)
      exact hregular

/-- To open a path for writing empties a file or makes one. -/
theorem openPath_writing_ok (h : s.openPath context path .writing mode = .ok o) :
    ∃ target, s.files.Rewrites (s.view context) path (mode.masked context.umask) o.files target ∧
      o.files.resolve (s.view context) path = .ok target ∧
      o.object = reopened o.files .writing target := by
  simp only [openPath, OpenFlags.writing, Bool.not_true, Bool.false_eq_true, if_false, bind,
    Except.bind, Bool.not_false, Bool.and_true] at h
  split at h
  · cases h
  · next place hplace =>
    cases place with
    | unnamed => cases h
    | named dir name slashed =>
      cases slashed with
      | true => cases h
      | false =>
        have hpath := (FileSystem.Grown.refl _ _).resolve hplace
        simp only [Bool.false_eq_true, if_false] at h
        split at h
        · next target henter =>
          rw [henter] at hpath
          obtain ⟨hrewrites, hgrown, hobject⟩ :=
            openObject_writing_ok (mode.masked context.umask) hpath h
          refine ⟨target, hrewrites, ?_, hobject⟩
          rw [hgrown.resolve hplace, (hgrown.enter _ _ _ henter).1]
        · next e henter =>
          split at h
          · cases h
          · next hmissing =>
            obtain rfl : e = .noEntry := by simpa using hmissing
            split at h
            · cases h
            · next hlink =>
              obtain ⟨dirMode, parent, entries, hdir⟩ := FileSystem.directory_of_mayLink hlink
              cases h
              rw [henter] at hpath
              have hgrown := FileSystem.grown_link hdir henter (mode.masked context.umask) []
              refine ⟨.node s.files.nodes.length, .made hpath
                ((FileSystem.Grown.refl _ _).locate hplace) ⟨_, _, _, hdir⟩, ?_, ?_⟩
              · rw [hgrown.resolve hplace, FileSystem.enter_link hdir henter rfl,
                  if_pos ⟨rfl, rfl⟩]
              · have hne : s.files.nodes.length ≠ dir :=
                  Nat.ne_of_gt (List.getElem?_eq_some_iff.mp hdir).1
                simp only [reopened, FileSystem.node?_link hdir, if_neg hne, if_pos]
                rfl

end Store

end PipeShell
