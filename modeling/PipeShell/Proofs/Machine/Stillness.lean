import PipeShell.Proofs.Machine.Veil

/-!
# What discreet calls leave alone

A discreet call does not read standard input of the session, and does not change what is still to be
read there: the file keeps its content, the pipe keeps its bytes, and nobody gets hold of the end of
the pipe that bytes could be written to (`Streams.Keeps`, `Call.perform_still`). The journal must go
to another file.
-/

namespace PipeShell

/-! ## Files -/

namespace FileSystem

/-- There are more nodes afterwards, at most, and none has become a device without room. -/
structure KeepsRoom (fs fs' : FileSystem) : Prop where
  length : fs.nodes.length ≤ fs'.nodes.length
  room : ∀ id, id < fs.nodes.length → fs'.node? id = some .fullDevice →
    fs.node? id = some .fullDevice

/-- Moreover, if `id` is a file it has the same content. -/
structure Stays (id : NodeId) (fs fs' : FileSystem) : Prop extends KeepsRoom fs fs' where
  file : ∀ mode data, fs.node? id = some (.file mode data) →
    ∃ mode', fs'.node? id = some (.file mode' data)

variable {id : NodeId} {fs fs' fs'' : FileSystem}

theorem KeepsRoom.refl (fs : FileSystem) : fs.KeepsRoom fs :=
  ⟨Nat.le_refl _, fun _ _ hfull => hfull⟩

theorem KeepsRoom.trans (h : KeepsRoom fs fs') (h' : KeepsRoom fs' fs'') : KeepsRoom fs fs'' :=
  ⟨Nat.le_trans h.length h'.length, fun id hid hfull =>
    h.room id hid (h'.room id (Nat.lt_of_lt_of_le hid h.length) hfull)⟩

theorem KeepsRoom.setNode {id' : NodeId} {node : Node}
    (hnode : node = .fullDevice → fs.node? id' = some .fullDevice) :
    fs.KeepsRoom (fs.setNode id' node) := by
  refine ⟨Nat.le_of_eq List.length_set.symm, fun id hid hfull => ?_⟩
  rw [node?_setNode] at hfull
  split at hfull
  · next heq =>
    obtain ⟨_, -, rfl⟩ := Option.map_eq_some_iff.mp hfull
    exact heq ▸ hnode rfl
  · exact hfull

theorem Stays.refl (id : NodeId) (fs : FileSystem) : fs.Stays id fs :=
  ⟨.refl fs, fun mode _ h => ⟨mode, h⟩⟩

theorem Stays.trans (h : Stays id fs fs') (h' : Stays id fs' fs'') : Stays id fs fs'' := by
  refine ⟨h.toKeepsRoom.trans h'.toKeepsRoom, fun mode data hfile => ?_⟩
  obtain ⟨mode', hfile'⟩ := h.file mode data hfile
  exact h'.file mode' data hfile'

/-- A node is replaced that is another one, or a file that keeps its content, or no file. -/
theorem Stays.setNode {id' : NodeId} {node : Node}
    (hnode : node = .fullDevice → fs.node? id' = some .fullDevice)
    (h : id' = id → ∀ mode data, fs.node? id = some (.file mode data) →
      ∃ mode', node = .file mode' data) : fs.Stays id (fs.setNode id' node) := by
  refine ⟨.setNode hnode, fun mode data hfile => ?_⟩
  rw [node?_setNode]
  split
  · next heq =>
    obtain ⟨mode', rfl⟩ := h heq mode data hfile
    exact ⟨mode', by rw [hfile, Option.map_some]⟩
  · exact ⟨mode, hfile⟩

/-- A directory is replaced by another one. -/
theorem Stays.setDirectory {dir parent parent' : NodeId} {mode mode' : Mode}
    {entries entries' : List (Bytes × NodeId)}
    (hdir : fs.node? dir = some (.directory mode parent entries)) (id : NodeId) :
    fs.Stays id (fs.setNode dir (.directory mode' parent' entries')) := by
  refine .setNode (fun heq => by cases heq) fun heq mode data hfile => ?_
  rw [← heq, hdir] at hfile
  cases hfile

theorem stays_addEntry (id : NodeId) (fs : FileSystem) (dir : NodeId) (name : Bytes)
    (id' : NodeId) : fs.Stays id (fs.addEntry dir name id') := by
  unfold addEntry
  split
  · next hdir => exact .setDirectory hdir id
  · exact .refl id fs

theorem stays_dropEntry (id : NodeId) (fs : FileSystem) (dir : NodeId) (name : Bytes) :
    fs.Stays id (fs.dropEntry dir name) := by
  unfold dropEntry
  split
  · next hdir => exact .setDirectory hdir id
  · exact .refl id fs

theorem stays_reparent (id : NodeId) (fs : FileSystem) (id' dir : NodeId) :
    fs.Stays id (fs.reparent id' dir) := by
  unfold reparent
  split
  · next hdir => exact .setDirectory hdir id
  · exact .refl id fs

theorem stays_link (id : NodeId) (fs : FileSystem) (dir : NodeId) (name : Bytes) (node : Node) :
    fs.Stays id (fs.link dir name node).2 := by
  refine Stays.trans ⟨⟨?_, fun id' hid' hfull => ?_⟩, fun mode data hfile => ⟨mode, ?_⟩⟩
    (stays_addEntry id _ dir name _)
  · simp
  · exact (List.getElem?_append_left hid').symm.trans hfull
  · exact (List.getElem?_append_left (List.getElem?_eq_some_iff.mp hfile).1).trans hfile

theorem Stays.makeNode {view : View} {path : Bytes} {node : Node}
    (h : fs.makeNode view path node = .ok fs') (id : NodeId) : fs.Stays id fs' := by
  simp only [FileSystem.makeNode, bind, Except.bind, pure, Except.pure] at h
  split at h
  · cases h
  · cases h
    exact stays_link ..

theorem Stays.makeDirectory {view : View} {umask : Nat} {path : Bytes}
    (h : fs.makeDirectory view umask path = .ok fs') (id : NodeId) : fs.Stays id fs' := by
  simp only [FileSystem.makeDirectory, bind, Except.bind, pure, Except.pure] at h
  split at h
  · cases h
  · cases h
    exact stays_link ..

theorem Stays.makeSymlink {view : View} {target path : Bytes}
    (h : fs.makeSymlink view target path = .ok fs') (id : NodeId) : fs.Stays id fs' := by
  simp only [FileSystem.makeSymlink, bind, Except.bind] at h
  split at h
  · cases h
  · exact Stays.makeNode h id

theorem Stays.makeName {view : View} {source path : Bytes}
    (h : fs.makeName view source path = .ok fs') (id : NodeId) : fs.Stays id fs' := by
  have added (dir : NodeId) (name : Bytes) (id' : NodeId) := stays_addEntry id fs dir name id'
  simp only [FileSystem.makeName, bind, Except.bind, pure, Except.pure] at h
  repeat' split at h
  all_goals grind

theorem Stays.removeDirectory {view : View} {path : Bytes}
    (h : fs.removeDirectory view path = .ok fs') (id : NodeId) : fs.Stays id fs' := by
  have dropped (dir : NodeId) (name : Bytes) := stays_dropEntry id fs dir name
  simp only [FileSystem.removeDirectory, bind, Except.bind, pure, Except.pure] at h
  repeat' split at h
  all_goals grind

theorem Stays.removeFile {view : View} {path : Bytes}
    (h : fs.removeFile view path = .ok fs') (id : NodeId) : fs.Stays id fs' := by
  have dropped (dir : NodeId) (name : Bytes) := stays_dropEntry id fs dir name
  simp only [FileSystem.removeFile, bind, Except.bind, pure, Except.pure] at h
  repeat' split at h
  all_goals grind

theorem Stays.rename {view : View} {source path : Bytes}
    (h : fs.rename view source path = .ok fs') (id : NodeId) : fs.Stays id fs' := by
  have moved (fromDir toDir id' : NodeId) (fromName toName : Bytes) :
      fs.Stays id ((((fs.dropEntry fromDir fromName).dropEntry toDir toName).addEntry toDir toName
        id').reparent id' toDir) :=
    ((stays_dropEntry id fs fromDir fromName).trans (stays_dropEntry id _ toDir toName)).trans
      ((stays_addEntry id _ toDir toName id').trans (stays_reparent id _ id' toDir))
  have same := Stays.refl id fs
  simp only [FileSystem.rename, bind, Except.bind, pure, Except.pure] at h
  repeat' split at h
  all_goals grind

theorem Stays.withMode {id' : NodeId} {node : Node} (hnode : fs.node? id' = some node)
    (mode : Mode) (id : NodeId) : fs.Stays id (fs.setNode id' (node.withMode mode)) := by
  refine .setNode (fun heq => ?_) fun heq mode' data hfile => ⟨mode, ?_⟩
  · rw [hnode]
    cases node <;> first | rfl | cases heq
  rw [← heq, hnode] at hfile
  cases hfile
  rfl

end FileSystem

/-! ## What is to be read -/

namespace Streams

/-- Nothing has happened to what is still to be read from standard input: the open file is as far as
it was, its content is the same, and the other end of the pipe was not opened anew. -/
structure Keeps (st : Streams) (s s' : Store) : Prop where
  nodes : s.files.KeepsRoom s'.files
  input : ∀ id, st.input = some id → s'.descriptions[id]? = s.descriptions[id]?
  file : ∀ node mode data, st.source = some (.node node) →
    s.files.node? node = some (.file mode data) →
      ∃ mode', s'.files.node? node = some (.file mode' data)
  pipe : ∀ pipe, st.source = some (.readEnd pipe) → s'.pipes[pipe]? = s.pipes[pipe]?
  fresh : ∀ id d, s.descriptions.length ≤ id → s'.descriptions[id]? = some d →
    st.isSource d.object = true → some d.object = st.source
  journal : s'.journal = s.journal

/-- Standard input is open, and so is the pipe that it comes from if it comes from one. No records
are added to it. -/
structure IsOpen (st : Streams) (s : Store) (held : Object → Bool) : Prop where
  input : ∀ id, st.input = some id → id < s.descriptions.length
  source : ∀ pipe, st.source ≠ some (.writeEnd pipe)
  pipe : ∀ pipe, st.source = some (.readEnd pipe) →
    pipe < s.pipes.length ∧ held (.readEnd pipe) = true
  journal : ∀ id, s.journal.file = some id → st.source ≠ some (.node id)

variable {st : Streams} {s s' s'' : Store} {c : Context} {held : Object → Bool}

theorem Keeps.refl (st : Streams) (s : Store) : st.Keeps s s where
  nodes := .refl _
  input _ _ := rfl
  file _ mode _ _ hfile := ⟨mode, hfile⟩
  pipe _ _ := rfl
  fresh _ _ hle hd := absurd (List.getElem?_eq_some_iff.mp hd).1 (Nat.not_lt.mpr hle)
  journal := rfl

/-- Other files keep what is to be read if the file it is in stays. -/
theorem Keeps.withFiles {files : FileSystem} (hroom : s.files.KeepsRoom files)
    (hfiles : ∀ node, st.source = some (.node node) → s.files.Stays node files) :
    st.Keeps s { s with files } :=
  { Keeps.refl st s with
    nodes := hroom
    file := fun node mode data hsource => (hfiles node hsource).file mode data }

theorem Keeps.of_stays {files : FileSystem} (hfiles : ∀ node, s.files.Stays node files) :
    st.Keeps s { s with files } :=
  .withFiles (hfiles 0).toKeepsRoom fun node _ => hfiles node

theorem Keeps.setPipe {pipe : PipeId} (hpipe : st.source ≠ some (.readEnd pipe)) (waiting : Bytes) :
    st.Keeps s { s with pipes := s.pipes.set pipe waiting } :=
  { Keeps.refl st s with
    pipe := fun _ hsource => List.getElem?_set_ne (by
      rintro rfl
      exact hpipe hsource) }

/-- Another open file is read or written up to somewhere else. -/
theorem Keeps.seek (h : st.Keeps s s') {id : DescriptionId} (hid : some id ≠ st.input)
    {d : Description} (hd : s.descriptions[id]? = some d) (offset : Nat) :
    st.Keeps s (s'.seek id d offset) where
  nodes := h.nodes
  input id' hinput := by
    refine (List.getElem?_set_ne ?_).trans (h.input id' hinput)
    rintro rfl
    exact hid hinput.symm
  file := h.file
  pipe := h.pipe
  fresh id' d' hle hd' := by
    have hne : id ≠ id' := fun heq =>
      absurd (List.getElem?_eq_some_iff.mp hd).1 (Nat.not_lt.mpr (heq ▸ hle))
    exact h.fresh id' d' hle ((List.getElem?_set_ne hne).symm.trans hd')
  journal := h.journal

theorem shows_iff {id : DescriptionId} {d : Description} :
    st.shows id d = true ↔ some id ≠ st.input ∧ st.hides d.object = false := by
  simp [shows]

/-- The pipe that standard input comes from is neither of those whose ends are no source. -/
theorem source_ne_of_isSource {pipe : PipeId} (h : st.isSource (.readEnd pipe) = false) :
    st.source ≠ some (.readEnd pipe) := by
  rintro heq
  simp [isSource, heq] at h

end Streams

/-- The store that a call leaves is of this kind. -/
def Outcome.Changes {ρ : Type} (P : Store → Prop) : Outcome ρ → Prop
  | .done _ s _ | .underway s _ => P s
  | .blocked | .killed _ => True

namespace Store

variable {st : Streams} {s s' : Store} {c : Context} {held : Object → Bool}

open Streams FileSystem

theorem read_still {fd : Fd} {count : Nat} (h : st.isDiscreet s c (.read fd count) = true) :
    (s.read c held fd count).Changes (st.Keeps s) := by
  have hsame := Keeps.refl st s
  simp only [isDiscreet] at h
  unfold read
  split
  · exact hsame
  · next id d hd =>
    obtain ⟨hid, hhides⟩ := shows_iff.mp (by simpa [hd] using h)
    split
    · exact hsame
    · split
      · exact hsame
      · next pipe hobject =>
        rw [hobject] at hhides
        split
        · split
          · trivial
          · exact hsame
        · exact Keeps.setPipe (source_ne_of_isSource hhides) _
      · split
        · exact hsame.seek hid (mem_of_description? hd).1 _
        all_goals exact hsame

theorem write_still {fd : Fd} {data : Bytes} (h : st.isDiscreet s c (.write fd data) = true) :
    (s.write c held fd data).Changes (st.Keeps s) := by
  have hsame := Keeps.refl st s
  simp only [isDiscreet] at h
  unfold write
  split
  · exact hsame
  · next id d hd =>
    obtain ⟨hid, hsource⟩ : some id ≠ st.input ∧ st.isSource d.object = false := by
      simpa [hd] using h
    split
    · exact hsame
    · split
      · exact hsame
      · next pipe hobject =>
        rw [hobject] at hsource
        split
        · split
          · trivial
          · exact hsame
          · exact hsame
        · simp only
          split
          · trivial
          · exact Keeps.setPipe (source_ne_of_isSource ((Bool.or_comm ..).trans hsource)) _
      · next node hobject =>
        split
        · next mode old hfile =>
          have hfiles (mode' : Mode) (data' : Bytes) :
              st.Keeps s { s with files := s.files.setNode node (.file mode' data') } := by
            refine .withFiles (.setNode fun heq => by cases heq) fun node' hsource' => ?_
            refine .setNode (fun heq => by cases heq) fun heq => ?_
            simp [isSource, hobject, hsource', heq] at hsource
          exact (hfiles _ _).seek hid (mem_of_description? hd).1 _
        all_goals exact hsame

theorem rewind_still {fd : Fd} {count : Nat} (h : st.isDiscreet s c (.rewind fd count) = true) :
    (s.rewind c fd count).Changes (st.Keeps s) := by
  have hsame := Keeps.refl st s
  simp only [isDiscreet] at h
  unfold rewind
  split
  · exact hsame
  · next id d hd =>
    have hid : some id ≠ st.input := by simpa [hd] using h
    split
    · exact hsame.seek hid (mem_of_description? hd).1 _
    · exact hsame

theorem setMode_still (fd : Fd) (mode : Mode) :
    (s.setMode c fd mode).Changes (st.Keeps s) := by
  have hsame := Keeps.refl st s
  unfold setMode
  split
  · exact hsame
  · split
    · simp only
      split
      · next node hnode => exact .of_stays (.withMode hnode _)
      · exact hsame
    · exact hsame

theorem setModeOf_still {path : Bytes} {mode : Mode} (h : s.setModeOf c path mode = .ok s') :
    st.Keeps s s' := by
  simp only [setModeOf, bind, Except.bind, pure, Except.pure] at h
  split at h
  · cases h
  · split at h
    · split at h
      · next node hnode =>
        cases h
        exact .of_stays (.withMode hnode _)
      · cases h
        exact .refl st s
    · cases h
      exact .refl st s

theorem makeFifo_still (hopen : st.IsOpen s held) {path : Bytes} {mode : Mode}
    (h : s.makeFifo c path mode = .ok s') : st.Keeps s s' := by
  simp only [makeFifo, bind, Except.bind, pure, Except.pure] at h
  split at h
  · cases h
  · next files hfiles =>
    cases h
    have hkeeps : st.Keeps s { s with files } := .of_stays (.makeNode hfiles)
    exact { hkeeps with
      pipe := fun pipe hsource => List.getElem?_append_left (hopen.pipe pipe hsource).1 }

/-- Records go where they went after a pipe was made. -/
theorem journal_makePipe (s : Store) (c : Context) :
    (s.makePipe c).Changes fun s' => s'.journal = s.journal := by
  simp only [makePipe, install_eq]
  grind [Outcome.Changes]

theorem makePipe_still (hopen : st.IsOpen s held) : (s.makePipe c).Changes (st.Keeps s) := by
  rcases makePipe_cases s c with ⟨e, h⟩ | ⟨s', r, w, -, -, -, -, -, hfiles, hpipes, hds, h⟩
  · rw [h]
    exact .refl st s
  · have hjournal := journal_makePipe s c
    rw [h] at hjournal ⊢
    refine ⟨hfiles ▸ .refl _, fun id hinput => ?_,
      fun node mode data _ hfile => ⟨mode, ?_⟩, fun pipe hsource => ?_,
      fun id d hle hd hsource => ?_, hjournal⟩
    · rw [hds, List.getElem?_append_left (hopen.input id hinput)]
    · rw [hfiles]
      exact hfile
    · rw [hpipes, List.getElem?_append_left (hopen.pipe pipe hsource).1]
    · rw [hds, List.getElem?_append_right hle] at hd
      have hobject : d.object = .readEnd s.pipes.length ∨ d.object = .writeEnd s.pipes.length := by
        have hmem := List.mem_of_getElem? hd
        simp only [List.mem_cons, List.not_mem_nil, or_false] at hmem
        rcases hmem with rfl | rfl
        · exact Or.inl rfl
        · exact Or.inr rfl
      have hends : st.source = some (.readEnd s.pipes.length) ∨
          st.source = some (.writeEnd s.pipes.length) := by
        simp only [isSource, Bool.or_eq_true, beq_iff_eq] at hsource
        rcases hobject with heq | heq <;> rw [heq] at hsource
        · exact hsource.imp Eq.symm Eq.symm
        · exact hsource.symm.imp Eq.symm Eq.symm
      rcases hends with heq | heq
      · exact absurd (hopen.pipe _ heq).1 (Nat.lt_irrefl _)
      · exact absurd heq (hopen.source _)

theorem openNode_still {fs : FileSystem} {id : NodeId} {flags : OpenFlags} {o : Opened}
    (h : openNode fs id flags = .ok o) :
    fs.KeepsRoom o.files ∧
      ∀ node, (o.object = .node node → flags.truncate = false) → fs.Stays node o.files := by
  unfold openNode at h
  split at h
  · cases h
  · next found hnode =>
    simp only [bind, Except.bind, pure, Except.pure] at h
    split at h
    · cases h
    · split at h
      · cases h
        exact ⟨.refl fs, fun node _ => .refl node fs⟩
      · cases h
        have hroom (heq : opened found flags = .fullDevice) : fs.node? id = some .fullDevice := by
          rw [hnode]
          unfold opened at heq
          grind
        refine ⟨.setNode hroom, fun node hkept => .setNode hroom ?_⟩
        rintro rfl mode data hfile
        obtain rfl := Option.some.inj (hnode.symm.trans hfile)
        exact ⟨mode, by simp [opened, hkept rfl]⟩

theorem openObject_still {object : Object} {flags : OpenFlags} {o : Opened}
    (h : s.openObject object flags = .ok o) :
    s.files.KeepsRoom o.files ∧
      ∀ node, (o.object = .node node → flags.truncate = false) → s.files.Stays node o.files := by
  cases object with
  | node id => exact openNode_still h
  | readEnd | writeEnd =>
    cases h
    exact ⟨.refl _, fun node _ => .refl node _⟩

/-- A record changes no file but that of the journal. -/
theorem note_still (hopen : st.IsOpen s held) {pid : Nat} (level : Level) (message : Bytes) :
    st.Keeps s (s.note pid level message) := by
  rcases s.note_cases pid level message with h | ⟨id, mode, data, record, hfile, -, h⟩
  · rw [h]
    exact .refl st s
  · rw [h]
    refine .withFiles (.setNode fun heq => by cases heq) fun node hsource =>
      .setNode (fun heq => by cases heq) ?_
    rintro rfl
    exact absurd hsource (hopen.journal _ hfile)

/-- Opening a path changes no file but the one that is opened, and that one only if it is
emptied. -/
theorem openPath_still {path : Bytes} {flags : OpenFlags} {mode : Mode} {o : Opened}
    (h : s.openPath c path flags mode = .ok o) :
    s.files.KeepsRoom o.files ∧
      ∀ node, (o.object = .node node → flags.truncate = false) → s.files.Stays node o.files := by
  simp only [openPath, bind, Except.bind, pure, Except.pure] at h
  split at h
  · split at h
    · cases h
    · exact openObject_still h
  · split at h
    · cases h
    · split at h
      · cases h
      · split at h
        · cases h
        · split at h
          · split at h
            · cases h
            · exact openObject_still h
          · split at h
            · cases h
            · split at h
              · cases h
              · cases h
                exact ⟨(stays_link 0 ..).toKeepsRoom, fun node _ => stays_link node ..⟩

/-- The pipe that is the source is not cleared, since standard input is open. -/
theorem getElem?_pipesOnOpen (hopen : st.IsOpen s held) (object : Object) {pipe : PipeId}
    (hsource : st.source = some (.readEnd pipe)) :
    (s.pipesOnOpen held object)[pipe]? = s.pipes[pipe]? := by
  unfold pipesOnOpen
  split
  · rfl
  all_goals
    split
    · rfl
    · next hnot =>
      refine List.getElem?_set_ne ?_
      rintro rfl
      simp [(hopen.pipe _ hsource).2] at hnot

/-- A file is opened gently if it is not the source, or not for writing. -/
theorem withOpened_still (hopen : st.IsOpen s held) {path : Bytes} {flags : OpenFlags}
    {mode : Mode} {o : Opened} (hpath : s.openPath c path flags mode = .ok o)
    (hgentle : st.isSource o.object = true → flags.write = false ∧ flags.truncate = false) :
    st.Keeps s (s.withOpened o flags) := by
  obtain ⟨hroom, hstays⟩ := openPath_still hpath
  refine ⟨hroom, fun id hinput => List.getElem?_append_left (hopen.input id hinput),
    fun node mode data hsource hfile => ?_, fun _ _ => rfl, fun id d hle hd hsource => ?_, rfl⟩
  · refine (hstays node fun heq => (hgentle ?_).2).file mode data hfile
    simp [isSource, hsource, heq]
  · replace hd : (s.descriptions ++ [⟨o.object, flags.read, flags.write, flags.append, 0⟩])[id]? =
      some d := hd
    rw [List.getElem?_append_right hle] at hd
    obtain rfl := List.mem_singleton.mp (List.mem_of_getElem? hd)
    have hends : some o.object = st.source ∨ some o.object.partner = st.source := by
      simpa [isSource] using hsource
    rcases (openPath_ok hpath).2 with ⟨node, hobject⟩ | ⟨pipe, hobject, -⟩
    · rw [hobject] at hends
      exact hends.elim (fun h => hobject ▸ h) fun h => hobject ▸ h
    · refine hends.resolve_right fun heq => ?_
      rw [hobject, pipeEnd, (hgentle hsource).1] at heq
      exact hopen.source pipe heq.symm

theorem openFile_still (hopen : st.IsOpen s held) {path : Bytes} {flags : OpenFlags} {mode : Mode}
    (h : st.isDiscreet s c (.openFile path flags mode) = true) :
    (s.openFile c held path flags mode).Changes (st.Keeps s) := by
  have hsame := Keeps.refl st s
  cases hopening : c.opening with
  | some o =>
    rcases openFile_opening hopening held path flags mode with heq | heq
    · rw [heq]
      exact hsame
    · rw [heq]
      trivial
  | none =>
    rcases openFile_eq hopening held path flags mode with ⟨e, heq⟩ | ⟨o, hpath, -, heq⟩
    · rw [heq]
      exact hsame
    have hgentle (hsource : st.isSource o.object = true) :
        flags.write = false ∧ flags.truncate = false := by
      simpa [isDiscreet, hpath, hsource] using h
    have hopened := withOpened_still hopen hpath hgentle
    rw [heq]
    split
    · unfold meet
      split <;> exact { hopened with pipe := fun _ => getElem?_pipesOnOpen hopen o.object }
    · exact hopened

end Store

namespace Call

variable {st : Streams} {s : Store} {c : Context} {held : Object → Bool}

open Streams

theorem changed_still {result : Except Errno FileSystem}
    (h : ∀ files, result = .ok files → ∀ node, s.files.Stays node files) :
    (changed s c result).Changes (st.Keeps s) := by
  cases result with
  | error => exact .refl st s
  | ok files => exact .of_stays (h files rfl)

theorem altered_still {result : Except Errno Store}
    (h : ∀ s', result = .ok s' → st.Keeps s s') : (altered s c result).Changes (st.Keeps s) := by
  cases result with
  | error => exact .refl st s
  | ok s' => exact h s' rfl

/-- After a discreet call there is still the same to be read. -/
theorem perform_still (hopen : st.IsOpen s held) (pid parent : Nat) {call : Call}
    (h : st.isDiscreet s c call = true) :
    (call.perform s c held pid parent).Changes (st.Keeps s) := by
  have hsame := Keeps.refl st s
  cases call with
  | openFile => exact Store.openFile_still hopen h
  | makePipe => exact Store.makePipe_still hopen
  | read => exact Store.read_still h
  | write => exact Store.write_still h
  | rewind => exact Store.rewind_still h
  | setMode fd mode => exact Store.setMode_still fd mode
  | close fd =>
    simp only [perform, Store.close]
    split <;> exact hsame
  | duplicate =>
    simp only [perform, Store.duplicate]
    repeat' split
    all_goals exact hsame
  | duplicateAbove =>
    simp only [perform, Store.duplicateAbove]
    repeat' split
    all_goals exact hsame
  | changeDirectory =>
    simp only [perform, enterDirectory]
    repeat' split
    all_goals exact hsame
  | pause =>
    simp only [perform, Store.pause]
    repeat' split
    all_goals first | exact hsame | trivial
  | makeDirectory => exact changed_still fun _ h node => .makeDirectory h node
  | removeDirectory => exact changed_still fun _ h node => .removeDirectory h node
  | removeFile => exact changed_still fun _ h node => .removeFile h node
  | makeSymlink => exact changed_still fun _ h node => .makeSymlink h node
  | makeName => exact changed_still fun _ h node => .makeName h node
  | rename => exact changed_still fun _ h node => .rename h node
  | makeFifo => exact altered_still fun _ h => Store.makeFifo_still hopen h
  | setModeOf => exact altered_still fun _ h => Store.setModeOf_still h
  | note level message => exact Store.note_still hopen level message
  | _ => exact hsame

end Call

end PipeShell
