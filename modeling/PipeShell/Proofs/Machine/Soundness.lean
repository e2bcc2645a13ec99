import Mathlib.Tactic.Common
import PipeShell.Machine.Call

/-!
# References stay valid

Tables refer to descriptions, descriptions and named pipes refer to pipes. A store is `Store.Sound`
if its references to pipes lead to pipes there are, and a table is `DescriptorTable.Valid` if all
that is open in it has a description. No call makes a reference that leads nowhere, and no call
turns an open file into another one or forgets a pipe (`Store.Grows`), whichever process makes it
(`Call.perform_sound`). So a pipe that was made just now is no pipe that anybody could have known
before.
-/

namespace PipeShell

/-! ## Nodes -/

namespace FileSystem

theorem node?_setNode (fs : FileSystem) (id' : NodeId) (node : Node) (id : NodeId) :
    (fs.setNode id' node).node? id =
      if id' = id then (fs.node? id).map fun _ => node else fs.node? id := by
  simp only [node?, setNode, List.getElem?_set]
  split
  · next h =>
    subst h
    split
    · next hlt => rw [List.getElem?_eq_getElem hlt, Option.map_some]
    · next hge => rw [List.getElem?_eq_none (Nat.le_of_not_lt hge), Option.map_none]
  · rfl

/-- The files with one node replaced by itself. -/
theorem setNode_self {fs : FileSystem} {id : NodeId} {node : Node} (hid : fs.node? id = some node) :
    fs.setNode id node = fs := by
  obtain ⟨hlt, rfl⟩ := List.getElem?_eq_some_iff.mp hid
  rw [setNode, List.set_getElem_self]

/-! ## Named pipes -/

/-- The named pipes among the files belong to the first `n` pipes. -/
def PipesBelow (fs : FileSystem) (n : Nat) : Prop :=
  ∀ mode pipe, Node.fifo mode pipe ∈ fs.nodes → pipe < n

variable {fs fs' : FileSystem} {n : Nat}

theorem PipesBelow.mono (h : fs.PipesBelow n) {n' : Nat} (hn : n ≤ n') : fs.PipesBelow n' :=
  fun mode pipe hp => Nat.lt_of_lt_of_le (h mode pipe hp) hn

theorem PipesBelow.node? (h : fs.PipesBelow n) {id : NodeId} {mode : Mode} {pipe : PipeId}
    (hid : fs.node? id = some (.fifo mode pipe)) : pipe < n :=
  h mode pipe (List.mem_of_getElem? hid)

theorem PipesBelow.setNode (h : fs.PipesBelow n) (id : NodeId) {node : Node}
    (hnode : ∀ mode pipe, node = .fifo mode pipe → pipe < n) :
    (fs.setNode id node).PipesBelow n := by
  intro mode pipe hp
  rcases List.mem_or_eq_of_mem_set hp with hp | hp
  · exact h mode pipe hp
  · exact hnode mode pipe hp.symm

theorem PipesBelow.setFile (h : fs.PipesBelow n) (id : NodeId) (mode : Mode) (data : Bytes) :
    (fs.setNode id (.file mode data)).PipesBelow n :=
  h.setNode id (by simp)

theorem PipesBelow.withMode (h : fs.PipesBelow n) {id : NodeId} {node : Node}
    (hid : fs.node? id = some node) (mode : Mode) :
    (fs.setNode id (node.withMode mode)).PipesBelow n := by
  refine h.setNode id fun mode' pipe hp => ?_
  cases node <;> simp only [Node.withMode, Node.fifo.injEq, reduceCtorEq] at hp
  exact hp.2 ▸ h.node? hid

theorem PipesBelow.dropEntry (h : fs.PipesBelow n) (dir : NodeId) (name : Bytes) :
    (fs.dropEntry dir name).PipesBelow n := by
  unfold FileSystem.dropEntry
  split
  · exact h.setNode _ (by simp)
  · exact h

theorem PipesBelow.addEntry (h : fs.PipesBelow n) (dir : NodeId) (name : Bytes) (id : NodeId) :
    (fs.addEntry dir name id).PipesBelow n := by
  unfold FileSystem.addEntry
  split
  · exact h.setNode _ (by simp)
  · exact h

theorem PipesBelow.reparent (h : fs.PipesBelow n) (id dir : NodeId) :
    (fs.reparent id dir).PipesBelow n := by
  unfold FileSystem.reparent
  split
  · exact h.setNode _ (by simp)
  · exact h

theorem PipesBelow.link (h : fs.PipesBelow n) (dir : NodeId) (name : Bytes) {node : Node}
    (hnode : ∀ mode pipe, node = .fifo mode pipe → pipe < n) :
    (fs.link dir name node).2.PipesBelow n := by
  refine PipesBelow.addEntry (fun mode pipe hp => ?_) dir name _
  rcases List.mem_append.mp hp with hp | hp
  · exact h mode pipe hp
  · exact hnode mode pipe (List.mem_singleton.mp hp).symm

theorem PipesBelow.makeNode (h : fs.PipesBelow n) {view : View} {path : Bytes} {node : Node}
    (hnode : ∀ mode pipe, node = .fifo mode pipe → pipe < n)
    (hr : fs.makeNode view path node = .ok fs') : fs'.PipesBelow n := by
  simp only [FileSystem.makeNode, bind, Except.bind, pure, Except.pure] at hr
  split at hr
  · cases hr
  · cases hr
    exact h.link _ _ hnode

theorem PipesBelow.makeDirectory (h : fs.PipesBelow n) {view : View} {umask : Nat} {path : Bytes}
    (hr : fs.makeDirectory view umask path = .ok fs') : fs'.PipesBelow n := by
  simp only [FileSystem.makeDirectory, bind, Except.bind, pure, Except.pure] at hr
  split at hr
  · cases hr
  · cases hr
    exact h.link _ _ (by simp)

theorem PipesBelow.makeSymlink (h : fs.PipesBelow n) {view : View} {target path : Bytes}
    (hr : fs.makeSymlink view target path = .ok fs') : fs'.PipesBelow n := by
  simp only [FileSystem.makeSymlink, bind, Except.bind] at hr
  split at hr
  · cases hr
  · exact h.makeNode (by simp) hr

theorem PipesBelow.makeName (h : fs.PipesBelow n) {view : View} {source path : Bytes}
    (hr : fs.makeName view source path = .ok fs') : fs'.PipesBelow n := by
  have added (dir : NodeId) (name : Bytes) (id : NodeId) := h.addEntry dir name id
  simp only [FileSystem.makeName, bind, Except.bind, pure, Except.pure] at hr
  repeat' split at hr
  all_goals grind

theorem PipesBelow.removeDirectory (h : fs.PipesBelow n) {view : View} {path : Bytes}
    (hr : fs.removeDirectory view path = .ok fs') : fs'.PipesBelow n := by
  have dropped (dir : NodeId) (name : Bytes) := h.dropEntry dir name
  simp only [FileSystem.removeDirectory, bind, Except.bind, pure, Except.pure] at hr
  repeat' split at hr
  all_goals grind

theorem PipesBelow.removeFile (h : fs.PipesBelow n) {view : View} {path : Bytes}
    (hr : fs.removeFile view path = .ok fs') : fs'.PipesBelow n := by
  have dropped (dir : NodeId) (name : Bytes) := h.dropEntry dir name
  simp only [FileSystem.removeFile, bind, Except.bind, pure, Except.pure] at hr
  repeat' split at hr
  all_goals grind

theorem PipesBelow.rename (h : fs.PipesBelow n) {view : View} {source path : Bytes}
    (hr : fs.rename view source path = .ok fs') : fs'.PipesBelow n := by
  have moved (fromDir toDir id : NodeId) (fromName toName : Bytes) :=
    (((h.dropEntry fromDir fromName).dropEntry toDir toName).addEntry toDir toName id).reparent
      id toDir
  simp only [FileSystem.rename, bind, Except.bind, pure, Except.pure] at hr
  repeat' split at hr
  all_goals grind

/-! ## What a path leads to -/

/-- A name leads to a node, or to what is open under a number. -/
theorem enter_object {opened : Fd → Option Object} {dir : NodeId} {name : Bytes} {object : Object}
    (h : fs.enter opened dir name = .ok object) :
    (∃ id, object = .node id) ∨ ∃ fd, opened fd = some object := by
  simp only [enter, bind, Except.bind] at h
  repeat' split at h
  all_goals simp only [Except.ok.injEq, reduceCtorEq] at h
  all_goals try exact Or.inl ⟨_, h.symm⟩
  next hbind =>
    obtain ⟨fd, -, hfd⟩ := Option.bind_eq_some_iff.mp hbind
    exact Or.inr ⟨fd, h ▸ hfd⟩

theorem resolve_object {view : View} {path : Bytes} {object : Object}
    (h : fs.resolve view path = .ok object) :
    (∃ id, object = .node id) ∨ ∃ fd, view.opened fd = some object := by
  simp only [resolve, targetAt, bind, Except.bind] at h
  repeat' split at h
  all_goals simp only [Except.ok.injEq, reduceCtorEq] at h
  · exact Or.inl ⟨_, h.symm⟩
  · next he _ => exact enter_object (h ▸ he)

end FileSystem

/-- The pipe that an object is an end of. -/
def Object.pipe? : Object → Option PipeId
  | readEnd pipe | writeEnd pipe => some pipe
  | node _ => none

namespace Store

/-! ## Growing -/

/-- Every open file is still there and open on the same object, and so are the pipes. -/
structure Grows (s s' : Store) : Prop where
  descriptions : ∀ (id : DescriptionId) (d : Description), s.descriptions[id]? = some d →
    ∃ d' : Description, s'.descriptions[id]? = some d' ∧ d'.object = d.object
  pipes : s.pipes.length ≤ s'.pipes.length

theorem Grows.refl (s : Store) : s.Grows s := ⟨fun _ d h => ⟨d, h, rfl⟩, Nat.le_refl _⟩

theorem Grows.trans {s s' s'' : Store} (h : s.Grows s') (h' : s'.Grows s'') : s.Grows s'' := by
  refine ⟨fun id d hd => ?_, Nat.le_trans h.pipes h'.pipes⟩
  obtain ⟨d', hd', ho⟩ := h.descriptions id d hd
  obtain ⟨d'', hd'', ho'⟩ := h'.descriptions id d' hd'
  exact ⟨d'', hd'', ho'.trans ho⟩

theorem Grows.length_le {s s' : Store} (h : s.Grows s') :
    s.descriptions.length ≤ s'.descriptions.length := by
  by_contra hlt
  obtain ⟨d', hd', -⟩ := h.descriptions s'.descriptions.length _
    (List.getElem?_eq_getElem (Nat.lt_of_not_le hlt))
  simp at hd'

/-- Descriptions and named pipes refer to pipes that there are. -/
structure Sound (s : Store) : Prop where
  descriptions : ∀ d ∈ s.descriptions, ∀ pipe, d.object.pipe? = some pipe → pipe < s.pipes.length
  files : s.files.PipesBelow s.pipes.length

end Store

/-- Everything that is open has a description. -/
def DescriptorTable.Valid (t : DescriptorTable) (s : Store) : Prop :=
  ∀ fd d, t.get fd = some d → d.description < s.descriptions.length

theorem DescriptorTable.Valid.grows {t : DescriptorTable} {s s' : Store} (h : t.Valid s)
    (hs : s.Grows s') : t.Valid s' :=
  fun fd d hd => Nat.lt_of_lt_of_le (h fd d hd) hs.length_le

theorem DescriptorTable.Valid.set {t : DescriptorTable} {s : Store} (h : t.Valid s) (fd : Fd)
    {e : Option Descriptor} (he : ∀ d, e = some d → d.description < s.descriptions.length) :
    (t.set fd e).Valid s := by
  intro fd' d hd
  rw [get_set] at hd
  split at hd
  · exact he d hd
  · exact h fd' d hd

/-- What a call leaves behind: the store has grown and is sound, and the process has nothing open
without a description. -/
def Outcome.Sound {ρ : Type} (s : Store) : Outcome ρ → Prop
  | .done _ s' context | .underway s' context =>
    s.Grows s' ∧ s'.Sound ∧ context.descriptors.Valid s'
  | .blocked | .killed _ => True

namespace Store

variable {s : Store} {context : Context} {ρ : Type}

theorem Sound.done (hs : s.Sound) (hc : context.descriptors.Valid s) (reply : ρ) :
    (Outcome.done reply s context).Sound s :=
  ⟨.refl s, hs, hc⟩

/-- The store with other files is as sound as the files are. -/
theorem Sound.withFiles (hs : s.Sound) {files : FileSystem}
    (hf : files.PipesBelow s.pipes.length) : s.Grows { s with files } ∧ { s with files }.Sound :=
  ⟨⟨fun _ d h => ⟨d, h, rfl⟩, Nat.le_refl _⟩, ⟨hs.descriptions, hf⟩⟩

theorem Sound.withPipes (hs : s.Sound) (pipes : List Bytes)
    (hp : s.pipes.length ≤ pipes.length) : s.Grows { s with pipes } ∧ { s with pipes }.Sound :=
  ⟨⟨fun _ d h => ⟨d, h, rfl⟩, hp⟩,
    ⟨fun d hd pipe hpipe => Nat.lt_of_lt_of_le (hs.descriptions d hd pipe hpipe) hp,
      hs.files.mono hp⟩⟩

theorem mem_of_description? {fd : Fd} {id : DescriptionId} {d : Description}
    (h : s.description? context fd = some (id, d)) :
    s.descriptions[id]? = some d ∧
      ∃ e, context.descriptors.get fd = some e ∧ e.description = id := by
  unfold description? at h
  split at h
  · simp at h
  · next e he =>
    obtain ⟨d', hd', heq⟩ := Option.map_eq_some_iff.mp h
    obtain ⟨rfl, rfl⟩ := Prod.mk.inj heq
    exact ⟨hd', e, he, rfl⟩

/-- Moving along an open file changes nothing else about it. -/
theorem Sound.seek (hs : s.Sound) {id : DescriptionId} {d : Description}
    (hd : s.descriptions[id]? = some d) (offset : Nat) :
    s.Grows (s.seek id d offset) ∧ (s.seek id d offset).Sound := by
  refine ⟨⟨fun id' d' hd' => ?_, Nat.le_refl _⟩, ⟨fun d' hd' => ?_, hs.files⟩⟩
  · simp only [Store.seek, List.getElem?_set]
    split
    · next h =>
      subst h
      have hlt := (List.getElem?_eq_some_iff.mp hd).1
      obtain rfl := Option.some.inj (hd.symm.trans hd')
      exact ⟨_, if_pos hlt, rfl⟩
    · exact ⟨d', hd', rfl⟩
  · rcases List.mem_or_eq_of_mem_set hd' with h | rfl
    · exact hs.descriptions d' h
    · exact hs.descriptions d (List.mem_of_getElem? hd)

/-! ## Opening -/

/-- What is known of an object that was opened: it is a node, or an end of a pipe with a name, or an
end of a pipe of which the process had an end already. The flags tell which end. -/
def Findable (s : Store) (context : Context) (flags : OpenFlags) (object : Object) : Prop :=
  (∃ id, object = .node id) ∨ ∃ pipe, object = pipeEnd pipe flags ∧
    ((∃ mode, Node.fifo mode pipe ∈ s.files.nodes) ∨
      ∃ fd id d, s.description? context fd = some (id, d) ∧ d.object.pipe? = some pipe)

theorem Findable.pipe_lt {flags : OpenFlags} {object : Object} (hs : s.Sound)
    (h : s.Findable context flags object) {pipe : PipeId} (hp : object.pipe? = some pipe) :
    pipe < s.pipes.length := by
  rcases h with ⟨id, rfl⟩ | ⟨pipe', rfl, h⟩
  · simp [Object.pipe?] at hp
  · obtain rfl : pipe' = pipe := by
      unfold pipeEnd at hp
      split at hp <;> simpa [Object.pipe?] using hp
    rcases h with ⟨mode, hm⟩ | ⟨fd, id, d, hd, hp'⟩
    · exact hs.files mode _ hm
    · exact hs.descriptions d (List.mem_of_getElem? (mem_of_description? hd).1) _ hp'

theorem openNode_ok {fs : FileSystem} {id : NodeId} {flags : OpenFlags} {r : Opened}
    (h : openNode fs id flags = .ok r) :
    (∀ n, fs.PipesBelow n → r.files.PipesBelow n) ∧
      (r.object = .node id ∨ ∃ mode pipe, Node.fifo mode pipe ∈ fs.nodes ∧
        r.object = pipeEnd pipe flags) := by
  unfold openNode at h
  split at h
  · simp at h
  · next node hn =>
    simp only [bind, Except.bind, pure, Except.pure] at h
    split at h
    · simp at h
    · split at h
      · next mode pipe _ =>
        cases h
        exact ⟨fun _ hf => hf, Or.inr ⟨mode, pipe, List.mem_of_getElem? hn, rfl⟩⟩
      · next hfifo =>
        cases h
        refine ⟨fun n hf => hf.setNode id fun mode pipe hp => ?_, Or.inl rfl⟩
        cases node with
        | file | program => simp only [opened] at hp; split at hp <;> simp at hp
        | fifo mode' pipe' => exact absurd rfl (hfifo mode' pipe')
        | _ => simp [opened] at hp

theorem openObject_ok {object : Object} {flags : OpenFlags} {r : Opened}
    (h : s.openObject object flags = .ok r)
    (ho : (∃ id, object = .node id) ∨ ∃ fd, (s.view context).opened fd = some object) :
    (∀ n, s.files.PipesBelow n → r.files.PipesBelow n) ∧ s.Findable context flags r.object := by
  have held {pipe : PipeId} (hp : object.pipe? = some pipe) :
      ∃ fd id d, s.description? context fd = some (id, d) ∧ d.object.pipe? = some pipe := by
    rcases ho with ⟨id, rfl⟩ | ⟨fd, hfd⟩
    · simp [Object.pipe?] at hp
    · obtain ⟨⟨id, d⟩, hd, rfl⟩ := Option.map_eq_some_iff.mp hfd
      exact ⟨fd, id, d, hd, hp⟩
  cases object with
  | node id =>
    obtain ⟨hf, ho | ⟨mode, pipe, hm, ho⟩⟩ := openNode_ok h
    · exact ⟨hf, Or.inl ⟨id, ho⟩⟩
    · exact ⟨hf, Or.inr ⟨pipe, ho, Or.inl ⟨mode, hm⟩⟩⟩
  | readEnd pipe | writeEnd pipe =>
    cases h
    exact ⟨fun _ hf => hf, Or.inr ⟨pipe, rfl, Or.inr (held rfl)⟩⟩

theorem openPath_ok {path : Bytes} {flags : OpenFlags} {mode : Mode} {r : Opened}
    (h : s.openPath context path flags mode = .ok r) :
    (∀ n, s.files.PipesBelow n → r.files.PipesBelow n) ∧ s.Findable context flags r.object := by
  simp only [openPath, bind, Except.bind, pure, Except.pure] at h
  split at h
  · split at h
    · simp at h
    · next hres => exact openObject_ok h (FileSystem.resolve_object hres)
  · split at h
    · simp at h
    · split at h
      · simp at h
      · split at h
        · simp at h
        · split at h
          · next henter =>
            split at h
            · simp at h
            · exact openObject_ok h (FileSystem.enter_object henter)
          · split at h
            · simp at h
            · split at h
              · simp at h
              · cases h
                exact ⟨fun n hf => hf.link _ _ (by simp), Or.inl ⟨_, rfl⟩⟩

/-- What the store is after an object was opened: it has one more description. -/
structure Opens (s : Store) (context : Context) (flags : OpenFlags) (object : Object)
    (s' : Store) : Prop where
  descriptions : s'.descriptions =
    s.descriptions ++ [⟨object, flags.read, flags.write, flags.append, 0⟩]
  pipes : s'.pipes.length = s.pipes.length
  files : ∀ n, s.files.PipesBelow n → s'.files.PipesBelow n
  findable : s.Findable context flags object

/-- The context with the next description under the lowest free number. -/
def taking (s : Store) (context : Context) (closeOnExec : Bool) : Context :=
  { context with
    descriptors := context.descriptors.set context.descriptors.lowestFree
      (some ⟨s.descriptions.length, closeOnExec⟩) }

theorem install_eq (d : Description) (closeOnExec : Bool) :
    install s context d closeOnExec =
      if context.descriptors.lowestFree < context.limit then
        some (context.descriptors.lowestFree, { s with descriptions := s.descriptions ++ [d] },
          s.taking context closeOnExec)
      else none := by
  unfold install DescriptorTable.allocate
  by_cases h : context.descriptors.lowestFree < context.limit <;> simp [h, taking]

theorem length_pipesOnOpen (held : Object → Bool) (object : Object) :
    (s.pipesOnOpen held object).length = s.pipes.length := by
  unfold pipesOnOpen
  split
  · rfl
  · split <;> simp
  · split <;> simp

/-- The store with what a path leads to as the file that was opened last. -/
def withOpened (s : Store) (o : Opened) (flags : OpenFlags) : Store :=
  { s with
    files := o.files
    descriptions := s.descriptions ++ [⟨o.object, flags.read, flags.write, flags.append, 0⟩] }

/-- Opening a file fails without a trace, or what its path leads to is the file that was opened
last, under the lowest free number; a named pipe still has to meet its other end. -/
theorem openFile_eq (hopening : context.opening = none) (held : Object → Bool) (path : Bytes)
    (flags : OpenFlags) (mode : Mode) :
    (∃ e, s.openFile context held path flags mode = .done (.error e) s context) ∨
      ∃ o, s.openPath context path flags mode = .ok o ∧
        context.descriptors.lowestFree < context.limit ∧
        s.openFile context held path flags mode =
          if o.meets then
            (s.withOpened o flags).meet (s.taking context flags.closeOnExec) held o.object
              context.descriptors.lowestFree
          else
            .done (.ok context.descriptors.lowestFree) (s.withOpened o flags)
              (s.taking context flags.closeOnExec) := by
  unfold openFile
  simp only [hopening]
  split
  · exact Or.inl ⟨_, rfl⟩
  · split
    · exact Or.inl ⟨_, rfl⟩
    · next hlimit =>
      rw [Nat.not_le] at hlimit
      split
      · exact Or.inl ⟨_, rfl⟩
      · next object files meets hpath =>
        simp only [install_eq, if_pos hlimit]
        exact Or.inr ⟨_, hpath, hlimit, rfl⟩

/-- To meet the other end of a pipe changes the pipes only, and the process may have to wait. -/
theorem meet_cases (s : Store) (context : Context) (held : Object → Bool) (object : Object)
    (fd : Fd) : ∃ s', s'.files = s.files ∧ s'.descriptions = s.descriptions ∧
      s'.pipes.length = s.pipes.length ∧
      (s.meet context held object fd = .done (.ok fd) s' context ∨
        ∃ o : Opening, o.fd = fd ∧
          s.meet context held object fd = .underway s' { context with opening := some o }) := by
  refine ⟨{ s with pipes := s.pipesOnOpen held object, arrivals := s.arrivals ++ [object] },
    rfl, rfl, length_pipesOnOpen held object, ?_⟩
  simp only [meet]
  split
  · exact Or.inl rfl
  · exact Or.inr ⟨_, rfl, rfl⟩

/-- Opening a file fails without a trace, or takes the lowest free number for what its path leads
to. The process has to wait then if that is a pipe whose other end is not open. -/
theorem openFile_opens (hopening : context.opening = none) (held : Object → Bool) (path : Bytes)
    (flags : OpenFlags) (mode : Mode) :
    (∃ e, s.openFile context held path flags mode = .done (.error e) s context) ∨
      ∃ o s', s.openPath context path flags mode = .ok o ∧
        context.descriptors.lowestFree < context.limit ∧ s'.files = o.files ∧
        s'.descriptions =
          s.descriptions ++ [⟨o.object, flags.read, flags.write, flags.append, 0⟩] ∧
        s'.pipes.length = s.pipes.length ∧
        (s.openFile context held path flags mode =
            .done (.ok context.descriptors.lowestFree) s' (s.taking context flags.closeOnExec) ∨
          ∃ opening : Opening, opening.fd = context.descriptors.lowestFree ∧
            s.openFile context held path flags mode =
              .underway s'
                { s.taking context flags.closeOnExec with opening := some opening }) := by
  refine (openFile_eq hopening held path flags mode).imp_right fun ⟨o, hpath, hlimit, h⟩ => ?_
  rw [h]
  split
  · obtain ⟨s', hfiles, hdescriptions, hpipes, hmeet⟩ := meet_cases (s.withOpened o flags)
      (s.taking context flags.closeOnExec) held o.object context.descriptors.lowestFree
    exact ⟨o, s', hpath, hlimit, hfiles, hdescriptions, hpipes, hmeet⟩
  · exact ⟨o, s.withOpened o flags, hpath, hlimit, rfl, rfl, rfl, Or.inl rfl⟩

theorem openFile_cases (hopening : context.opening = none) (held : Object → Bool) (path : Bytes)
    (flags : OpenFlags) (mode : Mode) :
    (∃ e, s.openFile context held path flags mode = .done (.error e) s context) ∨
      ∃ object s', s.Opens context flags object s' ∧
        context.descriptors.lowestFree < context.limit ∧
        (s.openFile context held path flags mode =
            .done (.ok context.descriptors.lowestFree) s' (s.taking context flags.closeOnExec) ∨
          ∃ o : Opening, o.fd = context.descriptors.lowestFree ∧
            s.openFile context held path flags mode =
              .underway s' { s.taking context flags.closeOnExec with opening := some o }) := by
  refine (openFile_opens hopening held path flags mode).imp_right
    fun ⟨o, s', hpath, hlimit, hfiles, hdescriptions, hpipes, h⟩ => ?_
  obtain ⟨hbelow, hfindable⟩ := openPath_ok hpath
  exact ⟨o.object, s', ⟨hdescriptions, hpipes, hfiles ▸ hbelow, hfindable⟩, hlimit, h⟩

/-- A file that is being opened is open, or still waited for. -/
theorem openFile_opening {o : Opening} (hopening : context.opening = some o)
    (held : Object → Bool) (path : Bytes) (flags : OpenFlags) (mode : Mode) :
    s.openFile context held path flags mode = .done (.ok o.fd) s { context with opening := none } ∨
      s.openFile context held path flags mode = .blocked := by
  unfold openFile
  simp only [hopening]
  split
  · exact Or.inl rfl
  · exact Or.inr rfl

/-- Making a pipe fails without a trace, or takes the two lowest free numbers for the ends of a pipe
that was not there before. -/
theorem makePipe_cases (s : Store) (context : Context) :
    (∃ e, s.makePipe context = .done (.error e) s context) ∨
      ∃ s' r w, r < context.limit ∧ w < context.limit ∧ context.descriptors.get r = none ∧
        context.descriptors.get w = none ∧ r ≠ w ∧
        s'.files = s.files ∧ s'.pipes = s.pipes ++ [[]] ∧
        s'.descriptions = s.descriptions ++ [⟨.readEnd s.pipes.length, true, false, false, 0⟩,
          ⟨.writeEnd s.pipes.length, false, true, false, 0⟩] ∧
        s.makePipe context = .done (.ok (r, w)) s' { context with
          descriptors := (context.descriptors.set r (some ⟨s.descriptions.length, false⟩)).set w
            (some ⟨s.descriptions.length + 1, false⟩) } := by
  have hr := context.descriptors.get_lowestFree
  set r := context.descriptors.lowestFree with hrdef
  set table := context.descriptors.set r (some ⟨s.descriptions.length, false⟩) with htable
  have hw := table.get_lowestFree
  rw [htable, DescriptorTable.get_set, ← htable] at hw
  simp only [makePipe, install_eq, taking, ← hrdef, ← htable]
  by_cases hrl : r < context.limit
  · by_cases hwl : table.lowestFree < context.limit
    · have hne : table.lowestFree ≠ r := fun h => by simp [h] at hw
      rw [if_neg hne] at hw
      refine Or.inr ⟨{ s with
          pipes := s.pipes ++ [[]]
          descriptions := s.descriptions ++ [⟨.readEnd s.pipes.length, true, false, false, 0⟩,
            ⟨.writeEnd s.pipes.length, false, true, false, 0⟩] },
        r, table.lowestFree, hrl, hwl, hr, hw, hne.symm, rfl, rfl, rfl, ?_⟩
      simp [hrl, hwl, ← htable]
    · simp [hrl, hwl]
  · simp [hrl]

/-! ## Calls -/

theorem Grows.of_append {s' : Store} {new : List Description}
    (hd : s'.descriptions = s.descriptions ++ new) (hp : s.pipes.length ≤ s'.pipes.length) :
    s.Grows s' := by
  refine ⟨fun id d h => ⟨d, ?_, rfl⟩, hp⟩
  rw [hd, List.getElem?_append_left (List.getElem?_eq_some_iff.mp h).1, h]

theorem Opens.sound {flags : OpenFlags} {object : Object} {s' : Store}
    (h : s.Opens context flags object s') (hs : s.Sound) : s.Grows s' ∧ s'.Sound := by
  refine ⟨.of_append h.descriptions (Nat.le_of_eq h.pipes.symm), ⟨fun d hd pipe hp => ?_, ?_⟩⟩
  · rw [h.pipes]
    rw [h.descriptions, List.mem_append, List.mem_singleton] at hd
    rcases hd with hd | rfl
    · exact hs.descriptions d hd pipe hp
    · exact h.findable.pipe_lt hs hp
  · rw [h.pipes]
    exact h.files _ hs.files

theorem Opens.valid_taking {flags : OpenFlags} {object : Object} {s' : Store}
    (h : s.Opens context flags object s') (hs : s.Sound) (hc : context.descriptors.Valid s)
    (closeOnExec : Bool) : (s.taking context closeOnExec).descriptors.Valid s' := by
  refine (hc.grows (h.sound hs).1).set _ fun d hd => ?_
  obtain rfl := Option.some.inj hd
  simp [h.descriptions]

theorem openFile_sound (hs : s.Sound) (hc : context.descriptors.Valid s) (held : Object → Bool)
    (path : Bytes) (flags : OpenFlags) (mode : Mode) :
    (s.openFile context held path flags mode).Sound s := by
  cases hopening : context.opening with
  | some o =>
    rcases openFile_opening hopening held path flags mode with h | h
    · rw [h]
      exact ⟨.refl s, hs, hc⟩
    · rw [h]
      trivial
  | none =>
    rcases openFile_cases hopening held path flags mode with ⟨e, h⟩ | ⟨object, s', ho, -, h⟩
    · rw [h]
      exact hs.done hc _
    · obtain ⟨hgrows, hsound⟩ := ho.sound hs
      have hvalid := ho.valid_taking hs hc flags.closeOnExec
      rcases h with h | ⟨o, -, h⟩
      · rw [h]
        exact ⟨hgrows, hsound, hvalid⟩
      · rw [h]
        exact ⟨hgrows, hsound, hvalid⟩

theorem makePipe_sound (hs : s.Sound) (hc : context.descriptors.Valid s) :
    (s.makePipe context).Sound s := by
  rcases makePipe_cases s context with ⟨e, h⟩ | ⟨s', r, w, -, -, -, -, -, hf, hp, hd, h⟩
  · rw [h]
    exact hs.done hc _
  · rw [h]
    have hgrows : s.Grows s' := .of_append hd (by simp [hp])
    refine ⟨hgrows, ⟨fun d hd' pipe hpipe => ?_, ?_⟩, ?_⟩
    · rw [hd, List.mem_append] at hd'
      rw [hp, List.length_append, List.length_singleton]
      rcases hd' with hd' | hd'
      · exact Nat.lt_succ_of_lt (hs.descriptions d hd' pipe hpipe)
      · simp only [List.mem_cons, List.not_mem_nil, or_false] at hd'
        rcases hd' with rfl | rfl <;> simp_all [Object.pipe?]
    · rw [hf]
      exact hs.files.mono (by simp [hp])
    · refine ((hc.grows hgrows).set r fun d he => ?_).set w fun d he => ?_
      · obtain rfl := Option.some.inj he
        simp [hd]
      · obtain rfl := Option.some.inj he
        simp [hd]

theorem read_sound (hs : s.Sound) (hc : context.descriptors.Valid s) (held : Object → Bool)
    (fd : Fd) (count : Nat) : (s.read context held fd count).Sound s := by
  unfold read
  split
  · exact hs.done hc _
  · next id d hd =>
    split
    · exact hs.done hc _
    · split
      · exact hs.done hc _
      · split
        · split
          · trivial
          · exact hs.done hc _
        · obtain ⟨hgrows, hsound⟩ := hs.withPipes (s.pipes.set _ _)
            (Nat.le_of_eq (List.length_set ..).symm)
          exact ⟨hgrows, hsound, hc.grows hgrows⟩
      · split
        · obtain ⟨hgrows, hsound⟩ := hs.seek (mem_of_description? hd).1 _
          exact ⟨hgrows, hsound, hc.grows hgrows⟩
        all_goals exact hs.done hc _

theorem write_sound (hs : s.Sound) (hc : context.descriptors.Valid s) (held : Object → Bool)
    (fd : Fd) (data : Bytes) : (s.write context held fd data).Sound s := by
  unfold write
  split
  · exact hs.done hc _
  · next id d hd =>
    split
    · exact hs.done hc _
    · split
      · exact hs.done hc _
      · split
        · split
          · trivial
          · exact hs.done hc _
          · exact ⟨.refl s, hs, hc⟩
        · simp only
          split
          · trivial
          · obtain ⟨hgrows, hsound⟩ := hs.withPipes (s.pipes.set _ _)
              (Nat.le_of_eq (List.length_set ..).symm)
            exact ⟨hgrows, hsound, hc.grows hgrows⟩
      · split
        · obtain ⟨hgrows, hsound⟩ := hs.withFiles (hs.files.setFile _ _ _)
          obtain ⟨hgrows', hsound'⟩ := hsound.seek (mem_of_description? hd).1 _
          exact ⟨hgrows.trans hgrows', hsound', hc.grows (hgrows.trans hgrows')⟩
        all_goals exact hs.done hc _

/-- Writing is over at once, or is not possible yet, or ends the process. -/
theorem write_ne_underway {held : Object → Bool} {fd : Fd} {data : Bytes} {s' : Store}
    {context' : Context} : s.write context held fd data ≠ .underway s' context' := by
  intro h
  unfold write at h
  split at h
  · cases h
  · split at h
    · cases h
    · split at h
      · cases h
      · split at h
        · split at h <;> cases h
        · simp only at h
          split at h <;> cases h
      · split at h <;> cases h

theorem setMode_sound (hs : s.Sound) (hc : context.descriptors.Valid s) (fd : Fd) (mode : Mode) :
    (s.setMode context fd mode).Sound s := by
  unfold setMode
  split
  · exact hs.done hc _
  · split
    · next id _ =>
      simp only
      split
      · next node hn =>
        obtain ⟨hgrows, hsound⟩ := hs.withFiles (hs.files.withMode hn (mode &&& 0o7777))
        exact ⟨hgrows, hsound, hc.grows hgrows⟩
      · exact hs.done hc _
    · exact hs.done hc _

theorem makeFifo_sound {s' : Store} (hs : s.Sound) {path : Bytes} {mode : Mode}
    (h : s.makeFifo context path mode = .ok s') : s.Grows s' ∧ s'.Sound := by
  simp only [makeFifo, bind, Except.bind, pure, Except.pure] at h
  split at h
  · simp at h
  · next files hf =>
    cases h
    obtain ⟨hgrows, hsound⟩ := hs.withPipes (s.pipes ++ [[]]) (by simp)
    have hnode (mode' : Mode) (pipe : PipeId)
        (hn : Node.fifo (mode.masked context.umask) s.pipes.length = .fifo mode' pipe) :
        pipe < (s.pipes ++ [[]]).length := by
      cases hn
      simp
    obtain ⟨hgrows', hsound'⟩ := hsound.withFiles (hsound.files.makeNode hnode hf)
    exact ⟨hgrows.trans hgrows', hsound'⟩

theorem setModeOf_sound {s' : Store} (hs : s.Sound) {path : Bytes} {mode : Mode}
    (h : s.setModeOf context path mode = .ok s') : s.Grows s' ∧ s'.Sound := by
  simp only [setModeOf, bind, Except.bind, pure, Except.pure] at h
  split at h
  · simp at h
  · split at h
    · split at h
      · next node hn =>
        cases h
        exact hs.withFiles (hs.files.withMode hn (mode &&& 0o7777))
      · cases h
        exact ⟨.refl s, hs⟩
    · cases h
      exact ⟨.refl s, hs⟩

end Store

namespace Call

variable {s : Store} {context : Context}

theorem changed_sound (hs : s.Sound) (hc : context.descriptors.Valid s)
    {r : Except Errno FileSystem} (hr : ∀ files, r = .ok files → files.PipesBelow s.pipes.length) :
    (changed s context r).Sound s := by
  cases r with
  | error e => exact hs.done hc _
  | ok files =>
    obtain ⟨hgrows, hsound⟩ := hs.withFiles (hr files rfl)
    exact ⟨hgrows, hsound, hc.grows hgrows⟩

theorem altered_sound (hs : s.Sound) (hc : context.descriptors.Valid s) {r : Except Errno Store}
    (hr : ∀ s', r = .ok s' → s.Grows s' ∧ s'.Sound) : (altered s context r).Sound s := by
  cases r with
  | error e => exact hs.done hc _
  | ok s' =>
    obtain ⟨hgrows, hsound⟩ := hr s' rfl
    exact ⟨hgrows, hsound, hc.grows hgrows⟩

/-- Whatever a process calls for, references stay valid. -/
theorem perform_sound (hs : s.Sound) (hc : context.descriptors.Valid s) (held : Object → Bool)
    (pid parent : Nat) (c : Call) : (c.perform s context held pid parent).Sound s := by
  cases c with
  | openFile path flags mode => exact Store.openFile_sound hs hc held path flags mode
  | makePipe => exact Store.makePipe_sound hs hc
  | read fd count => exact Store.read_sound hs hc held fd count
  | write fd data => exact Store.write_sound hs hc held fd data
  | close fd =>
    simp only [perform, Store.close]
    split
    · exact hs.done hc _
    · exact ⟨.refl s, hs, hc.set fd (by simp)⟩
  | duplicate source target =>
    simp only [perform, Store.duplicate]
    split
    · exact hs.done hc _
    · next d hd =>
      split
      · exact hs.done hc _
      · split
        · exact hs.done hc _
        · exact ⟨.refl s, hs, hc.set target fun _ h => Option.some.inj h ▸ hc source d hd⟩
  | duplicateAbove source least =>
    simp only [perform, Store.duplicateAbove]
    split
    · exact hs.done hc _
    · next d hd =>
      split
      · exact hs.done hc _
      · split
        · exact hs.done hc _
        · exact ⟨.refl s, hs, hc.set _ fun _ h => Option.some.inj h ▸ hc source d hd⟩
  | rewind fd count =>
    simp only [perform, Store.rewind]
    split
    · exact hs.done hc _
    · next id d hd =>
      split
      · obtain ⟨hgrows, hsound⟩ := hs.seek (Store.mem_of_description? hd).1 (d.offset - count)
        exact ⟨hgrows, hsound, hc.grows hgrows⟩
      · exact hs.done hc _
  | changeDirectory path =>
    simp only [perform, enterDirectory]
    split
    · exact hs.done hc _
    · split
      · exact ⟨.refl s, hs, hc⟩
      · exact hs.done hc _
  | makeDirectory => exact changed_sound hs hc fun _ h => hs.files.makeDirectory h
  | removeDirectory => exact changed_sound hs hc fun _ h => hs.files.removeDirectory h
  | removeFile => exact changed_sound hs hc fun _ h => hs.files.removeFile h
  | makeSymlink => exact changed_sound hs hc fun _ h => hs.files.makeSymlink h
  | makeName => exact changed_sound hs hc fun _ h => hs.files.makeName h
  | rename => exact changed_sound hs hc fun _ h => hs.files.rename h
  | makeFifo path mode => exact altered_sound hs hc fun _ h => Store.makeFifo_sound hs h
  | setModeOf path mode => exact altered_sound hs hc fun _ h => Store.setModeOf_sound hs h
  | setMode fd mode => exact Store.setMode_sound hs hc fd mode
  | pause time =>
    simp only [perform, Store.pause]
    split
    · exact ⟨.refl s, hs, hc⟩
    · split
      · exact ⟨.refl s, hs, hc⟩
      · trivial
  | note level message =>
    simp only [perform]
    rcases s.note_cases pid level message with hnote | ⟨id, mode, data, record, -, -, hnote⟩
    · rw [hnote]
      exact hs.done hc _
    · have hfiles : (s.files.setNode id (.file mode.withoutPrivileges
          (data ++ record))).PipesBelow s.pipes.length := hs.files.setNode id (by simp)
      obtain ⟨hgrows, hsound⟩ := hs.withFiles hfiles
      rw [hnote]
      exact ⟨hgrows, hsound, hc.grows hgrows⟩
  | _ => exact ⟨.refl s, hs, hc⟩

end Call

end PipeShell
