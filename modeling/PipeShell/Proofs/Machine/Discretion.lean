import PipeShell.Proofs.Machine.Veil

/-!
# Discreet calls

A discreet call does the same wherever the same is seen: it does not matter whether what cannot be
seen is forgotten before the call or after it (`Veil.perform_store`). Closing, copying and opening
files is always discreet as far as this goes, and so is writing to the outputs.
-/

namespace PipeShell.Veil

variable {v : Veil} {s : Store} {c : Context}

/-! ## What is open -/

theorem files_store : (v.store s).files = s.files.blanked v.outputs := rfl

theorem description?_store (hplace : v.place ≤ s.descriptions.length) (fd : Fd) :
    (v.store s).description? (v.context c) fd = (s.description? c fd).map fun found =>
      (v.entry found.1, v.description (v.entry found.1) found.2) := by
  simp only [Store.description?, context, DescriptorTable.get_seen]
  cases c.descriptors.get fd with
  | none => rfl
  | some d =>
    simp only [Option.map_some, Descriptor.renumber, store, List.getElem?_mapIdx,
      getElem?_placed hplace, Option.map_map]
    rfl

theorem view_store (hplace : v.place ≤ s.descriptions.length) :
    (v.store s).view (v.context c) = s.view c := by
  simp only [Store.view, description?_store hplace, Option.map_map]
  congr 1
  funext fd
  congr 1
  funext found
  exact Streams.object_description _ _

/-- How far a description was read or written is set before or after looking, and files are changed
before or after. What is not seen does not matter. -/
theorem seek_store (hplace : v.place ≤ s.descriptions.length) {files files' : FileSystem}
    (hfiles : files'.blanked v.outputs = files.blanked v.outputs) {id : DescriptionId}
    {d d' : Description} {offset offset' : Nat}
    (h : v.description (v.entry id) { d' with offset := offset' } =
      v.description (v.entry id) { d with offset }) :
    v.bare.store (({ v.store s with files := files' } : Store).seek (v.entry id) d' offset') =
      v.store (({ s with files } : Store).seek id d offset) := by
  simp only [Store.seek, store, toStreams_bare, placed_bare, hfiles, Streams.pipes_pipes,
    placed_set hplace, List.mapIdx_set, mapIdx_mapIdx_description, h]

theorem setPipe_store (pipe : PipeId) (waiting : Bytes) :
    v.bare.store { v.store s with pipes := (v.store s).pipes.set pipe waiting } =
      v.store { s with pipes := s.pipes.set pipe waiting } := by
  simp only [store, toStreams_bare, placed_bare, FileSystem.blanked_blanked,
    mapIdx_mapIdx_description, Streams.pipes_set, Streams.pipes_pipes]

theorem install_store (hplace : v.place ≤ s.descriptions.length) {d : Description}
    (hd : d.offset = 0) (closeOnExec : Bool) :
    ((v.store s).install (v.context c) d closeOnExec).map
        (fun r => (r.1, v.bare.store r.2.1, v.bare.context r.2.2)) =
      (s.install c d closeOnExec).map fun r => (r.1, v.store r.2.1, v.context r.2.2) := by
  have hlength : (v.store s).descriptions.length = v.entry s.descriptions.length := by
    rw [store, List.length_mapIdx, length_placed hplace]
  have htable := set_seen (v := v) c.descriptors c.descriptors.lowestFree
    (some ⟨s.descriptions.length, closeOnExec⟩)
  simp only [Option.map_some, Descriptor.renumber] at htable
  simp only [Store.install, DescriptorTable.allocate, context, hlength,
    DescriptorTable.lowestFree_seen]
  by_cases hlimit : c.descriptors.lowestFree < c.limit
  · simp only [hlimit, if_true, Option.map_some, store, toStreams_bare, placed_bare,
      FileSystem.blanked_blanked, Streams.pipes_pipes, placed_concat hplace, List.mapIdx_concat,
      mapIdx_mapIdx_description, Streams.description_of_new _ hd, htable]
  · simp only [hlimit, if_false, Option.map_none]

/-! ## Descriptors -/

theorem outcome_set {ρ : Type} (reply : ρ) (fd : Fd) (e : Option Descriptor) :
    v.bare.outcome (.done reply (v.store s) { v.context c with
        descriptors :=
          (c.descriptors.seen v.entry).set fd (e.map (Descriptor.renumber v.entry)) }) =
      v.outcome (.done reply s { c with descriptors := c.descriptors.set fd e }) := by
  simp only [outcome, bare_store_store, context, set_seen]

theorem close_store (fd : Fd) :
    v.bare.outcome ((v.store s).close (v.context c) fd) = v.outcome (s.close c fd) := by
  simp only [Store.close, context, DescriptorTable.get_seen]
  cases c.descriptors.get fd with
  | none => exact bare_outcome_outcome (.done _ s c)
  | some d => exact outcome_set _ fd none

theorem duplicate_store (source target : Fd) :
    v.bare.outcome ((v.store s).duplicate (v.context c) source target) =
      v.outcome (s.duplicate c source target) := by
  simp only [Store.duplicate, context, DescriptorTable.get_seen]
  cases c.descriptors.get source with
  | none => exact bare_outcome_outcome (.done _ s c)
  | some d =>
    simp only [Option.map_some]
    by_cases hlimit : c.limit ≤ target
    · simp only [hlimit, if_true]
      exact bare_outcome_outcome (.done _ s c)
    · by_cases hsame : source = target
      · simp only [hlimit, hsame, if_true, if_false]
        exact bare_outcome_outcome (.done _ s c)
      · simp only [hlimit, hsame, if_false]
        exact outcome_set _ target (some { d with closeOnExec := false })

theorem duplicateAbove_store (source least : Fd) :
    v.bare.outcome ((v.store s).duplicateAbove (v.context c) source least) =
      v.outcome (s.duplicateAbove c source least) := by
  simp only [Store.duplicateAbove, context, DescriptorTable.get_seen,
    DescriptorTable.lowestFreeFrom_seen]
  cases c.descriptors.get source with
  | none => exact bare_outcome_outcome (.done _ s c)
  | some d =>
    simp only [Option.map_some]
    by_cases hleast : c.limit ≤ least
    · simp only [hleast, if_true]
      exact bare_outcome_outcome (.done _ s c)
    · by_cases hlimit : c.limit ≤ c.descriptors.lowestFreeFrom least
      · simp only [hleast, hlimit, if_true, if_false]
        exact bare_outcome_outcome (.done _ s c)
      · simp only [hleast, hlimit, if_false]
        exact outcome_set _ _ (some { d with closeOnExec := true })

theorem length_le_of_install {d : Description} {closeOnExec : Bool} {fd : Fd} {s' : Store}
    {c' : Context} (h : s.install c d closeOnExec = some (fd, s', c')) :
    s.descriptions.length ≤ s'.descriptions.length := by
  unfold Store.install at h
  split at h
  · cases h
  · cases h
    simp

/-- In what is seen alike a new description is put in the same place. -/
theorem install_alike {s' : Store} {c' : Context} (hplace : v.place ≤ s.descriptions.length)
    (hplace' : v.place ≤ s'.descriptions.length) (hs : v.bare.store s' = v.store s)
    (hc : v.bare.context c' = v.context c) {d : Description} (hd : d.offset = 0)
    (closeOnExec : Bool) :
    s'.install c' d closeOnExec = none ∧ s.install c d closeOnExec = none ∨
      ∃ fd s₁' c₁' s₁ c₁, s'.install c' d closeOnExec = some (fd, s₁', c₁') ∧
        s.install c d closeOnExec = some (fd, s₁, c₁) ∧ v.bare.store s₁' = v.store s₁ ∧
        v.bare.context c₁' = v.context c₁ ∧ v.place ≤ s₁.descriptions.length ∧
        v.place ≤ s₁'.descriptions.length := by
  have hlaw := install_store (v := v) (c := c) hplace hd closeOnExec
  rw [← hs, ← hc] at hlaw
  replace hlaw := (install_store (v := v.bare) (c := c') hplace' hd closeOnExec).symm.trans hlaw
  cases h : s.install c d closeOnExec with
  | none =>
    rw [h] at hlaw
    exact Or.inl ⟨Option.map_eq_none_iff.mp hlaw, rfl⟩
  | some r =>
    obtain ⟨fd, s₁, c₁⟩ := r
    rw [h] at hlaw
    obtain ⟨⟨fd', s₁', c₁'⟩, h', heq⟩ := Option.map_eq_some_iff.mp hlaw
    simp only [Prod.mk.injEq] at heq
    obtain ⟨rfl, hs₁, hc₁⟩ := heq
    exact Or.inr ⟨fd', s₁', c₁', s₁, c₁, h', rfl, hs₁, hc₁,
      Nat.le_trans hplace (length_le_of_install h), Nat.le_trans hplace' (length_le_of_install h')⟩

theorem place_le_store (hplace : v.place ≤ s.descriptions.length) :
    v.place ≤ (v.store s).descriptions.length := by
  rw [store, List.length_mapIdx, length_placed hplace]
  unfold entry
  split
  · assumption
  · exact Nat.le_trans hplace (Nat.le_add_right _ _)

theorem makePipe_store (hplace : v.place ≤ s.descriptions.length) :
    v.bare.outcome ((v.store s).makePipe (v.context c)) = v.outcome (s.makePipe c) := by
  let grown : Store := { s with pipes := s.pipes ++ [[]] }
  have hgrown : { v.store s with pipes := (v.store s).pipes ++ [[]] } = v.store grown := by
    simp only [store, grown, Streams.pipes_concat_nil]
  have hpipe : (v.store s).pipes.length = s.pipes.length := Streams.length_pipes s.pipes
  have hrefused := bare_outcome_outcome (v := v)
    (.done (.error .tooManyOpenFiles : Except Errno (Fd × Fd)) s c)
  simp only [Store.makePipe, hgrown, hpipe]
  rcases install_alike (s := grown) (c := c) hplace (place_le_store (s := grown) hplace)
      (bare_store_store grown) (bare_context_context c)
      (d := ⟨.readEnd s.pipes.length, true, false, false, 0⟩) rfl false with
    ⟨hnone', hnone⟩ | ⟨readFd, s₁', c₁', s₁, c₁, hread', hread, hs₁, hc₁, hplace₁, hplace₁'⟩
  · rw [hnone', hnone]
    exact hrefused
  rw [hread', hread]
  simp only
  rcases install_alike hplace₁ hplace₁' hs₁ hc₁
      (d := ⟨.writeEnd s.pipes.length, false, true, false, 0⟩) rfl false with
    ⟨hnone', hnone⟩ | ⟨writeFd, s₂', c₂', s₂, c₂, hwrite', hwrite, hs₂, hc₂, -⟩
  · rw [hnone', hnone]
    exact hrefused
  · rw [hwrite', hwrite]
    simp only [outcome, hs₂, hc₂]

/-! ## Opening -/

theorem mayOpen_blank (node : Node) (flags : OpenFlags) :
    Store.mayOpen node.blank flags = Store.mayOpen node flags := by
  cases node with
  | file mode data =>
    simp only [Node.blank, Store.mayOpen, Mode.mayRead_withoutPrivileges,
      Mode.mayWrite_withoutPrivileges]
  | _ => rfl

theorem opened_blank (node : Node) (flags : OpenFlags) :
    Store.opened node.blank flags = (Store.opened node flags).blank := by
  cases node with
  | file mode data =>
    simp only [Node.blank, Store.opened]
    split <;> simp
  | program mode name =>
    simp only [Node.blank, Store.opened]
    split <;> simp
  | _ => rfl

/-- What is seen of what opening gives. -/
def found (v : Veil) (o : Store.Opened) : Store.Opened :=
  { o with files := o.files.blanked v.outputs }

theorem openNode_blanked (fs : FileSystem) (id : NodeId) (flags : OpenFlags) :
    Store.openNode (fs.blanked v.outputs) id flags = (Store.openNode fs id flags).map v.found := by
  have hset (node : Node) : (fs.setNode id (Store.opened node flags)).blanked v.outputs =
      (fs.blanked v.outputs).setNode id
        (if id ∈ v.outputs then Store.opened node.blank flags else Store.opened node flags) := by
    rw [FileSystem.blanked_setNode, opened_blank]
  have hopens {files : FileSystem} (node : Node)
      (h : (fs.setNode id (Store.opened node flags)).blanked v.outputs = files) :
      (.ok ⟨.node id, files, false⟩ : Except Errno Store.Opened) =
        .ok (v.found ⟨.node id, fs.setNode id (Store.opened node flags), false⟩) := by
    rw [← h]
    rfl
  unfold Store.openNode
  rw [FileSystem.node?_blanked]
  cases fs.node? id with
  | none => rfl
  | some node =>
    simp only [Option.map_some]
    by_cases hid : id ∈ v.outputs
    · simp only [hid, if_true, mayOpen_blank] at hset ⊢
      cases Store.mayOpen node flags with
      | error => rfl
      | ok =>
        cases node with
        | fifo => rfl
        | _ => exact hopens _ (hset _)
    · simp only [hid, if_false] at hset ⊢
      cases Store.mayOpen node flags with
      | error => rfl
      | ok =>
        cases node with
        | fifo => rfl
        | _ => exact hopens _ (hset _)

theorem openObject_store (object : Object) (flags : OpenFlags) :
    (v.store s).openObject object flags = (s.openObject object flags).map v.found := by
  cases object with
  | node id => exact openNode_blanked s.files id flags
  | _ => rfl

theorem openPath_store (hf : v.Fits s) (path : Bytes) (flags : OpenFlags) (mode : Mode) :
    (v.store s).openPath (v.context c) path flags mode =
      (s.openPath c path flags mode).map v.found := by
  have humask : (v.context c).umask = c.umask := rfl
  simp only [Store.openPath, view_store hf.place, files_store, humask, FileSystem.resolve_blanked,
    FileSystem.locate_blanked, FileSystem.enter_blanked, FileSystem.mayLink_blanked,
    openObject_store, FileSystem.link_blanked hf.new, bind, Except.bind]
  split
  · cases s.files.resolve (s.view c) path <;> rfl
  · cases s.files.locate (fun slashed => !slashed && !flags.exclusive) (s.view c) path with
    | error => rfl
    | ok place =>
      cases place with
      | unnamed => rfl
      | named dir name slashed =>
        cases slashed with
        | true => rfl
        | false =>
          cases hentry : s.files.enter (s.view c).opened dir name with
          | ok object =>
            simp only [hentry]
            cases flags.exclusive <;> rfl
          | error e =>
            simp only [hentry, Bool.false_eq_true, if_false]
            by_cases he : e = .noEntry
            · simp only [he, ne_eq, not_true_eq_false, if_false]
              cases s.files.mayLink dir <;> rfl
            · simp only [ne_eq, he, not_false_eq_true, if_true]
              rfl

/-- A pipe that is cleared on opening is the same before and after looking. -/
theorem pipesOnOpen_store (held : Object → Bool) (object : Object) :
    (v.store s).pipesOnOpen held object = v.pipes (s.pipesOnOpen held object) := by
  have hcleared (pipe : PipeId) :
      (v.pipes s.pipes).set pipe [] = v.pipes (s.pipes.set pipe []) := by
    rw [Streams.pipes_set, ite_self]
  cases object with
  | node => rfl
  | readEnd pipe | writeEnd pipe =>
    simp only [Store.pipesOnOpen]
    split
    · rfl
    · exact hcleared pipe

theorem meet_store (held : Object → Bool) (object : Object) (fd : Fd) :
    v.bare.outcome ((v.store s).meet (v.context c) held object fd) =
      v.outcome (s.meet c held object fd) := by
  let s' : Store := { s with
    pipes := s.pipesOnOpen held object, arrivals := s.arrivals ++ [object] }
  have hs' : ({ v.store s with
      pipes := (v.store s).pipesOnOpen held object, arrivals := (v.store s).arrivals ++ [object] } :
        Store) = v.store s' := by
    rw [pipesOnOpen_store]
    rfl
  simp only [Store.meet, hs']
  split
  · exact bare_outcome_outcome (.done _ s' c)
  · exact bare_outcome_outcome (.underway s' { c with
      opening := some ⟨fd, object.partner, (s.arrivals ++ [object]).length⟩ })

theorem openFile_store (hf : v.Fits s) (held : Object → Bool) (path : Bytes) (flags : OpenFlags)
    (mode : Mode) :
    v.bare.outcome ((v.store s).openFile (v.context c) held path flags mode) =
      v.outcome (s.openFile c held path flags mode) := by
  have hrefused (e : Errno) : v.bare.outcome (.done (.error e) (v.store s) (v.context c)) =
      v.outcome (.done (.error e : Except Errno Fd) s c) := bare_outcome_outcome (.done _ s c)
  have hopening : (v.context c).opening = c.opening := rfl
  have hfree : (v.context c).descriptors.lowestFree = c.descriptors.lowestFree :=
    DescriptorTable.lowestFree_seen
  have hlimit : (v.context c).limit = c.limit := rfl
  simp only [Store.openFile, hopening, hfree, hlimit, openPath_store hf]
  cases c.opening with
  | some o =>
    simp only [show (v.store s).arrivals = s.arrivals from rfl]
    split
    · exact bare_outcome_outcome (.done _ s { c with opening := none })
    · rfl
  | none =>
    simp only
    cases FileSystem.admissible path with
    | error e => exact hrefused e
    | ok =>
      simp only
      split
      · exact hrefused .tooManyOpenFiles
      cases s.openPath c path flags mode with
      | error e => exact hrefused e
      | ok o =>
        obtain ⟨object, files, meets⟩ := o
        let opened : Store := { s with files }
        simp only [Except.map, found]
        rw [show { v.store s with files := files.blanked v.outputs } = v.store opened from rfl]
        rcases install_alike (s := opened) (c := c) hf.place (place_le_store (s := opened) hf.place)
            (bare_store_store opened) (bare_context_context c)
            (d := ⟨object, flags.read, flags.write, flags.append, 0⟩) rfl flags.closeOnExec with
          ⟨hnone', hnone⟩ | ⟨fd, s₁', c₁', s₁, c₁, hinstall', hinstall, hs₁, hc₁, -⟩
        · simp only [hnone', opened, hnone]
          exact hrefused .tooManyOpenFiles
        · simp only [hinstall', opened, hinstall]
          split
          · rw [← meet_store (v := v), ← hs₁, ← hc₁]
            exact (meet_store (v := v.bare) held object fd).symm
          · simp only [outcome, hs₁, hc₁]

/-! ## Reading and writing -/

theorem shows_entry (hinput : ∀ id, v.input = some id → id < v.place) (id : DescriptionId)
    (d : Description) : v.shows (v.entry id) d = v.shows id d := by
  simp only [Streams.shows, entry_bne_input hinput]

theorem node?_store {id : NodeId} (h : v.hides (.node id) = false) :
    (v.store s).files.node? id = s.files.node? id := by
  have hid : id ∉ v.outputs := by simpa [Streams.hides] using h
  simp only [store, FileSystem.node?_blanked, if_neg hid, Option.map_id']

theorem read_store (hf : v.Fits s) (held : Object → Bool) {fd : Fd} (count : Nat)
    (h : v.isDiscreet s c (.read fd count) = true) :
    v.bare.outcome ((v.store s).read (v.context c) held fd count) =
      v.outcome (s.read c held fd count) := by
  have hsame (reply : Except Errno Bytes) : v.bare.outcome (.done reply (v.store s) (v.context c)) =
      v.outcome (.done reply s c) := bare_outcome_outcome (.done reply s c)
  simp only [Store.read, description?_store hf.place]
  simp only [Streams.isDiscreet] at h
  cases hd : s.description? c fd with
  | none => exact hsame _
  | some found =>
    obtain ⟨id, d⟩ := found
    have hshows : v.shows id d = true := by simpa [hd] using h
    have hhides : v.hides d.object = false := by
      simpa using (Bool.and_eq_true_iff.mp hshows).2
    have hdesc : v.description (v.entry id) d = d :=
      Streams.description_of_shows (by rwa [shows_entry hf.input])
    simp only [Option.map_some, hdesc]
    split
    · exact hsame _
    cases hobject : d.object with
    | writeEnd => exact hsame _
    | readEnd pipe =>
      rw [hobject] at hhides
      have hpipe : (v.store s).pipes[pipe]? = s.pipes[pipe]? := Streams.getElem?_pipes hhides _
      simp only [hpipe]
      cases (s.pipes[pipe]?).getD [] with
      | nil =>
        simp only
        split
        · rfl
        · exact hsame _
      | cons b waiting =>
        simp only [outcome, bare_context_context, setPipe_store]
    | node node =>
      rw [hobject] at hhides
      simp only [node?_store hhides]
      cases hnode : s.files.node? node with
      | none => exact hsame _
      | some found =>
        cases found with
        | file mode data =>
          simp only [outcome, bare_context_context]
          exact congrArg (fun s => Outcome.done _ s _)
            (seek_store hf.place (FileSystem.blanked_blanked s.files v.outputs) rfl)
        | _ => exact hsame _

theorem write_store (hf : v.Fits s) (held : Object → Bool) {fd : Fd} (data : Bytes)
    (h : v.isDiscreet s c (.write fd data) = true) :
    v.bare.outcome ((v.store s).write (v.context c) held fd data) =
      v.outcome (s.write c held fd data) := by
  have hsame (reply : Except Errno Nat) : v.bare.outcome (.done reply (v.store s) (v.context c)) =
      v.outcome (.done reply s c) := bare_outcome_outcome (.done reply s c)
  simp only [Store.write, description?_store hf.place]
  simp only [Streams.isDiscreet] at h
  cases hd : s.description? c fd with
  | none => exact hsame _
  | some found =>
    obtain ⟨id, d⟩ := found
    obtain ⟨hinput, hsource⟩ : some id ≠ v.input ∧ v.isSource d.object = false := by
      simpa [hd] using h
    simp only [Option.map_some, Streams.writable_description, Streams.object_description,
      Streams.append_description]
    split
    · exact hsame _
    cases hobject : d.object with
    | readEnd => exact hsame _
    | writeEnd pipe =>
      rw [hobject] at hsource
      have hpipe : (v.store s).pipes[pipe]? = s.pipes[pipe]? :=
        Streams.getElem?_pipes ((Streams.hides_writeEnd pipe).symm.trans hsource) _
      simp only [hpipe,
        show (v.context c).disposition pipeSignal = c.disposition pipeSignal from rfl]
      split
      · cases c.disposition pipeSignal with
        | untouched => rfl
        | ignored => exact hsame _
        | caught => exact bare_outcome_outcome (.done _ s (c.withPending pipeSignal))
      · split
        · rfl
        · simp only [outcome, bare_context_context, setPipe_store]
    | node node =>
      simp only [files_store,
        FileSystem.node?_blanked]
      cases hnode : s.files.node? node with
      | none => exact hsame _
      | some found =>
        cases found with
        | file mode old =>
          simp only [Option.map_some]
          by_cases houtput : node ∈ v.outputs
          · have hshows : v.shows (v.entry id) d = false := by
              simp [Streams.shows, Streams.hides, hobject, houtput]
            simp only [houtput, if_true, Node.blank, outcome, bare_context_context,
              Streams.description_of_hidden hshows]
            refine congrArg (fun s => Outcome.done _ s _) (seek_store hf.place ?_
              (Streams.description_eq_description hshows _ _))
            simp only [FileSystem.blanked_setNode, houtput, if_true, Node.blank,
              FileSystem.blanked_blanked]
            cases data.isEmpty <;> simp
          · have hshows : v.shows (v.entry id) d = true := by
              rw [shows_entry hf.input]
              simp [Streams.shows, Streams.hides, hobject, houtput, hinput]
            simp only [houtput, if_false, outcome, bare_context_context,
              Streams.description_of_shows hshows]
            refine congrArg (fun s => Outcome.done _ s _) (seek_store hf.place ?_ rfl)
            simp only [FileSystem.blanked_setNode, houtput, if_false, FileSystem.blanked_blanked]
        | _ =>
          simp only [Option.map_some, Node.blank, ite_self]
          exact hsame _

theorem rewind_store (hf : v.Fits s) {fd : Fd} (count : Nat) :
    v.bare.outcome ((v.store s).rewind (v.context c) fd count) =
      v.outcome (s.rewind c fd count) := by
  simp only [Store.rewind, description?_store hf.place]
  cases s.description? c fd with
  | none => exact bare_outcome_outcome (.done _ s c)
  | some found =>
    obtain ⟨id, d⟩ := found
    simp only [Option.map_some, Streams.object_description]
    cases d.object with
    | node =>
      simp only [outcome, bare_context_context]
      refine congrArg (fun s => Outcome.done _ s _)
        (seek_store hf.place (FileSystem.blanked_blanked s.files v.outputs) ?_)
      cases hshows : v.shows (v.entry id) d with
      | true => rw [Streams.description_of_shows hshows]
      | false =>
        rw [Streams.description_of_hidden hshows]
        exact Streams.description_eq_description hshows _ _
    | _ => exact bare_outcome_outcome (.done _ s c)

/-! ## Looking at files -/

theorem statusOf_store {object : Object} (h : v.hides object = false) :
    (v.store s).statusOf object = s.statusOf object := by
  cases object with
  | node id => simp only [Store.statusOf, node?_store h]
  | _ => rfl

theorem status_store (hf : v.Fits s) {path : Bytes}
    (h : v.isDiscreet s c (.status path) = true) :
    (v.store s).status (v.context c) path = s.status c path := by
  simp only [Store.status, view_store hf.place, files_store,
    FileSystem.resolve_blanked]
  simp only [Streams.isDiscreet] at h
  cases hr : s.files.resolve (s.view c) path with
  | error => rfl
  | ok object =>
    have hobject : v.hides object = false := by simpa [hr] using h
    simp only [bind, Except.bind, statusOf_store hobject]

theorem statusOfName_store (hf : v.Fits s) {path : Bytes}
    (h : v.isDiscreet s c (.statusOfName path) = true) :
    (v.store s).statusOfName (v.context c) path = s.statusOfName c path := by
  simp only [Store.statusOfName, view_store hf.place, files_store,
    FileSystem.resolveLink_blanked]
  simp only [Streams.isDiscreet] at h
  cases hr : s.files.resolveLink (s.view c) path with
  | error => rfl
  | ok found =>
    have hobject : v.hides found.1 = false := by simpa [hr] using h
    simp only [bind, Except.bind, statusOf_store hobject]

theorem statusFd_store (hf : v.Fits s) {fd : Fd} (h : v.isDiscreet s c (.statusFd fd) = true) :
    (v.store s).statusFd (v.context c) fd = s.statusFd c fd := by
  simp only [Store.statusFd, description?_store hf.place]
  simp only [Streams.isDiscreet] at h
  cases hd : s.description? c fd with
  | none => rfl
  | some found =>
    obtain ⟨id, d⟩ := found
    have hshows : v.shows id d = true := by simpa [hd] using h
    have hhides : v.hides d.object = false := by simpa using (Bool.and_eq_true_iff.mp hshows).2
    have hdesc := Streams.description_of_shows ((shows_entry hf.input id d).trans hshows)
    simp only [Option.map_some, hdesc, statusOf_store hhides]

theorem linkTarget_store (hf : v.Fits s) (path : Bytes) :
    (v.store s).linkTarget (v.context c) path = s.linkTarget c path := by
  simp only [Store.linkTarget, view_store hf.place, files_store,
    FileSystem.resolveLink_blanked, FileSystem.linkTarget?_blanked]

theorem directoryAt_store (hf : v.Fits s) (path : Bytes) :
    (v.store s).directoryAt (v.context c) path = s.directoryAt c path := by
  simp only [Store.directoryAt, view_store hf.place, files_store,
    FileSystem.resolve_blanked]
  cases s.files.resolve (s.view c) path with
  | error => rfl
  | ok object =>
    cases object with
    | node id =>
      simp only [bind, Except.bind]
      rcases FileSystem.node?_blanked_cases s.files v.outputs id with h | ⟨-, mode, data, h, h'⟩
      · rw [h]
      · rw [h, h']
        rfl
    | _ => rfl

theorem names_store (hf : v.Fits s) (path : Bytes) :
    (v.store s).names (v.context c) path = s.names c path := by
  have hfree : (v.context c).descriptors.lowestFree = c.descriptors.lowestFree :=
    DescriptorTable.lowestFree_seen
  have hlist : ((v.context c).descriptors.set c.descriptors.lowestFree (some ⟨0, false⟩)).openFds =
      (c.descriptors.set c.descriptors.lowestFree (some ⟨0, false⟩)).openFds := by
    rw [← DescriptorTable.openFds_seen (f := fun _ => 0),
      ← DescriptorTable.openFds_seen (t := c.descriptors.set _ _) (f := fun _ => 0)]
    refine congrArg _ (DescriptorTable.seen_eq_seen fun fd => ?_)
    rw [DescriptorTable.get_set, DescriptorTable.get_set, context, DescriptorTable.get_seen]
    split
    · rfl
    · cases c.descriptors.get fd <;> rfl
  simp only [Store.names, directoryAt_store hf, hfree, hlist]

/-! ## Changing files -/

theorem setFiles_store {files files' : FileSystem}
    (hfiles : files'.blanked v.outputs = files.blanked v.outputs) :
    v.bare.store { v.store s with files := files' } = v.store { s with files } := by
  simp only [store, toStreams_bare, placed_bare, hfiles, mapIdx_mapIdx_description,
    Streams.pipes_pipes]

theorem withMode_blanked (fs : FileSystem) {id : NodeId} {node : Node}
    (hnode : fs.node? id = some node) (mode : Mode) :
    ∃ node', (fs.blanked v.outputs).node? id = some node' ∧
      ((fs.blanked v.outputs).setNode id (node'.withMode mode)).blanked v.outputs =
        (fs.setNode id (node.withMode mode)).blanked v.outputs := by
  refine ⟨_, (FileSystem.node?_blanked ..).trans (congrArg _ hnode), ?_⟩
  simp only [FileSystem.blanked_setNode, FileSystem.blanked_blanked]
  split
  · cases node <;> rfl
  · rfl

theorem setMode_store (hf : v.Fits s) (fd : Fd) (mode : Mode) :
    v.bare.outcome ((v.store s).setMode (v.context c) fd mode) =
      v.outcome (s.setMode c fd mode) := by
  simp only [Store.setMode, description?_store hf.place]
  cases s.description? c fd with
  | none => exact bare_outcome_outcome (.done _ s c)
  | some found =>
    obtain ⟨id, d⟩ := found
    simp only [Option.map_some, Streams.object_description]
    cases d.object with
    | node node =>
      simp only [outcome, bare_context_context]
      refine congrArg (fun s => Outcome.done _ s _) (setFiles_store ?_)
      simp only [files_store]
      cases hnode : s.files.node? node with
      | none => simp [FileSystem.node?_blanked, hnode]
      | some found =>
        obtain ⟨found', hnode', hset⟩ := withMode_blanked (v := v) s.files hnode (mode &&& 0o7777)
        simp only [hnode', hset]
    | _ => exact bare_outcome_outcome (.done _ s c)

/-- The effect of changing files is that of changing them before or after looking. -/
theorem changed_store {result : Except Errno FileSystem} :
    v.bare.outcome (Call.changed (v.store s) (v.context c) (result.map (·.blanked v.outputs))) =
      v.outcome (Call.changed s c result) := by
  cases result with
  | error e => exact bare_outcome_outcome (.done _ s c)
  | ok files => exact bare_outcome_outcome (.done _ { s with files } c)

theorem altered_store {result result' : Except Errno Store}
    (h : result'.map v.bare.store = result.map v.store) :
    v.bare.outcome (Call.altered (v.store s) (v.context c) result') =
      v.outcome (Call.altered s c result) := by
  cases result with
  | error e =>
    cases result' with
    | error e' =>
      cases h
      exact bare_outcome_outcome (.done _ s c)
    | ok => cases h
  | ok changed =>
    cases result' with
    | error => cases h
    | ok changed' =>
      simp only [Except.map, Except.ok.injEq] at h
      simp only [Call.altered, outcome, bare_context_context, h]

theorem makeFifo_store (hf : v.Fits s) (path : Bytes) (mode : Mode) :
    ((v.store s).makeFifo (v.context c) path mode).map v.bare.store =
      (s.makeFifo c path mode).map v.store := by
  have hpipe : (v.store s).pipes.length = s.pipes.length := Streams.length_pipes s.pipes
  simp only [Store.makeFifo, view_store hf.place, hpipe,
    files_store,
    show (v.context c).umask = c.umask from rfl, FileSystem.makeNode_blanked hf.new]
  cases s.files.makeNode (s.view c) path (.fifo (mode.masked c.umask) s.pipes.length) with
  | error e => rfl
  | ok files =>
    simp only [Except.map, bind, Except.bind, pure, Except.pure]
    simp only [store, toStreams_bare, placed_bare, FileSystem.blanked_blanked,
      mapIdx_mapIdx_description, Streams.pipes_concat_nil, Streams.pipes_pipes]

theorem setModeOf_store (hf : v.Fits s) (path : Bytes) (mode : Mode) :
    ((v.store s).setModeOf (v.context c) path mode).map v.bare.store =
      (s.setModeOf c path mode).map v.store := by
  have hsame : (Except.ok (v.store s) : Except Errno Store).map v.bare.store =
      (Except.ok s : Except Errno Store).map v.store := congrArg Except.ok (bare_store_store s)
  simp only [Store.setModeOf, view_store hf.place,
    files_store, FileSystem.resolve_blanked]
  cases s.files.resolve (s.view c) path with
  | error e => rfl
  | ok object =>
    cases object with
    | node id =>
      simp only [bind, Except.bind]
      cases hnode : s.files.node? id with
      | none =>
        simp only [FileSystem.node?_blanked, hnode, Option.map_none]
        exact hsame
      | some node =>
        obtain ⟨node', hnode', hset⟩ := withMode_blanked (v := v) s.files hnode (mode &&& 0o7777)
        simp only [hnode', pure, Except.pure, Except.map]
        exact congrArg Except.ok (setFiles_store hset)
    | _ => exact hsame

/-- A record is added to the journal's file before or after looking, whether or not the file can be
seen. -/
theorem note_store (pid : Nat) (level : Level) (message : Bytes) :
    v.bare.store ((v.store s).note pid level message) = v.store (s.note pid level message) := by
  have hjournal : (v.store s).journal = s.journal := rfl
  have hclock : (v.store s).clock = s.clock := rfl
  simp only [Store.note, hjournal, hclock]
  cases s.journal.fileFor level with
  | none => exact bare_store_store s
  | some id =>
    simp only [files_store, FileSystem.node?_blanked]
    cases s.files.node? id with
    | none => exact bare_store_store s
    | some node =>
      cases node with
      | file mode data =>
        simp only [Option.map_some]
        by_cases hid : id ∈ v.outputs
        · simp only [hid, if_true, Node.blank]
          refine setFiles_store ?_
          simp only [FileSystem.blanked_setNode, hid, if_true, Node.blank,
            FileSystem.blanked_blanked, Mode.withoutPrivileges_withoutPrivileges]
        · simp only [hid, if_false]
          refine setFiles_store ?_
          simp only [FileSystem.blanked_setNode, hid, if_false, FileSystem.blanked_blanked]
      | _ =>
        simp only [Option.map_some, Node.blank, ite_self]
        exact bare_store_store s

/-- A discreet call is answered alike and does alike, whether or not what cannot be seen was
forgotten before. -/
theorem perform_store (hf : v.Fits s) (held : Object → Bool) (pid parent : Nat) {call : Call}
    (h : v.isDiscreet s c call = true) :
    v.bare.outcome (call.perform (v.store s) (v.context c) held pid parent) =
      v.outcome (call.perform s c held pid parent) := by
  cases call with
  | openFile path flags mode => exact openFile_store hf held path flags mode
  | close fd => exact close_store fd
  | duplicate source target => exact duplicate_store source target
  | duplicateAbove source least => exact duplicateAbove_store source least
  | makePipe => exact makePipe_store hf.place
  | read fd count => exact read_store hf held count h
  | write fd data => exact write_store hf held data h
  | rewind fd count => exact rewind_store hf count
  | changeDirectory path =>
    simp only [Call.perform, Call.enterDirectory, directoryAt_store hf]
    cases s.directoryAt c path with
    | error e => exact bare_outcome_outcome (.done _ s c)
    | ok found =>
      simp only
      split
      · exact bare_outcome_outcome (.done _ s { c with directory := found.1 })
      · exact bare_outcome_outcome (.done _ s c)
  | makeDirectory path =>
    simp only [Call.perform, files_store, view_store hf.place,
      FileSystem.makeDirectory_blanked hf.new]
    exact changed_store
  | removeDirectory path =>
    simp only [Call.perform, files_store, view_store hf.place, FileSystem.removeDirectory_blanked]
    exact changed_store
  | removeFile path =>
    simp only [Call.perform, files_store, view_store hf.place, FileSystem.removeFile_blanked]
    exact changed_store
  | makeSymlink target path =>
    simp only [Call.perform, files_store, view_store hf.place,
      FileSystem.makeSymlink_blanked hf.new]
    exact changed_store
  | makeName source path =>
    simp only [Call.perform, files_store, view_store hf.place, FileSystem.makeName_blanked]
    exact changed_store
  | makeFifo path mode => exact altered_store (makeFifo_store hf path mode)
  | rename source path =>
    simp only [Call.perform, files_store, view_store hf.place, FileSystem.rename_blanked]
    exact changed_store
  | setMode fd mode => exact setMode_store hf fd mode
  | setModeOf path mode => exact altered_store (setModeOf_store hf path mode)
  | status path =>
    simp only [Call.perform, status_store hf h]
    exact bare_outcome_outcome (.done _ s c)
  | statusOfName path =>
    simp only [Call.perform, statusOfName_store hf h]
    exact bare_outcome_outcome (.done _ s c)
  | linkTarget path =>
    simp only [Call.perform, linkTarget_store hf]
    exact bare_outcome_outcome (.done _ s c)
  | statusFd fd =>
    simp only [Call.perform, statusFd_store hf h]
    exact bare_outcome_outcome (.done _ s c)
  | names path =>
    simp only [Call.perform, names_store hf]
    exact bare_outcome_outcome (.done _ s c)
  | currentDirectory =>
    simp only [Call.perform, files_store, FileSystem.pathOf_blanked]
    exact bare_outcome_outcome (.done _ s c)
  | umask replacement =>
    exact bare_outcome_outcome (.done c.umask s { c with umask := replacement.getD c.umask })
  | setEnvironment replacement =>
    exact bare_outcome_outcome (.done () s { c with environment := replacement })
  | setDisposition signal d => exact bare_outcome_outcome (.done () s (c.withDisposition signal d))
  | takeSignals => exact bare_outcome_outcome (.done c.pending s { c with pending := [] })
  | pause time =>
    simp only [Call.perform, Store.pause, show (v.context c).wakes = c.wakes from rfl,
      show (v.store s).clock = s.clock from rfl]
    cases c.wakes with
    | none => exact bare_outcome_outcome (.underway s { c with wakes := some (s.clock + time) })
    | some moment =>
      simp only
      split
      · exact bare_outcome_outcome (.done () s { c with wakes := none })
      · rfl
  | note level message =>
    simp only [Call.perform, outcome, note_store, bare_context_context]
  | environment => exact bare_outcome_outcome (.done c.environment s c)
  | processId => exact bare_outcome_outcome (.done pid s c)
  | parentId => exact bare_outcome_outcome (.done parent s c)
  | disposition signal => exact bare_outcome_outcome (.done (c.disposition signal) s c)

end PipeShell.Veil
