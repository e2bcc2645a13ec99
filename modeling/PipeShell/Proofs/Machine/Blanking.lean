import Mathlib.Tactic.Common
import PipeShell.Machine.Image

/-!
# Files that nobody looks into

`FileSystem.blanked` forgets what some files hold. Paths lead where they led, and it does not matter
whether names are made, removed and moved before or after forgetting (`FileSystem.rename_blanked`
and the like). The same programs are found as long as none of the files may be executed
(`Image.find?_blanked`).
-/

namespace PipeShell

/-! ## Permission bits -/

namespace Mode

/-- Bits that are not lost on writing. -/
theorem and_withoutPrivileges (mode : Mode) {bits : Nat}
    (hown : (0o7777 ^^^ 0o4000) &&& bits = bits) (hgroup : (0o7777 ^^^ 0o2000) &&& bits = bits) :
    mode.withoutPrivileges &&& bits = mode &&& bits := by
  unfold withoutPrivileges
  simp only
  split
  · rw [Nat.and_assoc, hgroup, Nat.and_assoc, hown]
  · rw [Nat.and_assoc, hown]

@[simp] theorem mayRead_withoutPrivileges (mode : Mode) :
    mode.withoutPrivileges.mayRead = mode.mayRead := by
  rw [mayRead, and_withoutPrivileges mode rfl rfl, mayRead]

@[simp] theorem mayWrite_withoutPrivileges (mode : Mode) :
    mode.withoutPrivileges.mayWrite = mode.mayWrite := by
  rw [mayWrite, and_withoutPrivileges mode rfl rfl, mayWrite]

@[simp] theorem maySearch_withoutPrivileges (mode : Mode) :
    mode.withoutPrivileges.maySearch = mode.maySearch := by
  rw [maySearch, and_withoutPrivileges mode rfl rfl, maySearch]

/-- Nothing more is lost on writing again. -/
@[simp] theorem withoutPrivileges_withoutPrivileges (mode : Mode) :
    mode.withoutPrivileges.withoutPrivileges = mode.withoutPrivileges := by
  have hgroup : (mode &&& (0o7777 ^^^ 0o4000)) &&& 0o010 = mode &&& 0o010 := by
    rw [Nat.and_assoc]
    rfl
  have hgroup' : (mode &&& (0o7777 ^^^ 0o4000) &&& (0o7777 ^^^ 0o2000)) &&& 0o010 =
      mode &&& 0o010 := by
    rw [Nat.and_assoc, Nat.and_assoc]
    rfl
  unfold withoutPrivileges
  by_cases h : mode &&& 0o010 = 0
  · simp only [hgroup, h, bne_self_eq_false, Bool.false_eq_true, if_false, Nat.and_assoc,
      Nat.and_self]
  · have h' : (mode &&& 0o010 != 0) = true := by simpa using h
    simp only [hgroup, h', if_true]
    rw [Nat.and_assoc _ (0o7777 ^^^ 0o2000), Nat.and_comm (0o7777 ^^^ 0o2000), ← Nat.and_assoc,
      Nat.and_assoc mode, Nat.and_self]
    simp only [hgroup', h', if_true]
    rw [Nat.and_assoc _ (0o7777 ^^^ 0o2000), Nat.and_self]

end Mode

/-- A node, whatever it holds if it is a file. Permission bits that are lost on writing are not
kept. -/
def Node.blank : Node → Node
  | .file mode _ => .file mode.withoutPrivileges []
  | node => node

/-- The files, whatever some of them hold. -/
def FileSystem.blanked (fs : FileSystem) (hidden : List NodeId) : FileSystem :=
  ⟨fs.nodes.mapIdx fun id node => if id ∈ hidden then node.blank else node⟩

namespace FileSystem

variable {fs : FileSystem} {hidden : List NodeId}

/-! ## Nodes -/

theorem node?_blanked (fs : FileSystem) (hidden : List NodeId) (id : NodeId) :
    (fs.blanked hidden).node? id =
      (fs.node? id).map fun node => if id ∈ hidden then node.blank else node :=
  List.getElem?_mapIdx

@[simp] theorem length_nodes_blanked (fs : FileSystem) (hidden : List NodeId) :
    (fs.blanked hidden).nodes.length = fs.nodes.length :=
  List.length_mapIdx

@[simp] theorem blanked_blanked (fs : FileSystem) (hidden : List NodeId) :
    (fs.blanked hidden).blanked hidden = fs.blanked hidden := by
  simp only [blanked, List.mapIdx_mapIdx]
  congr 2
  funext id node
  simp only [Function.comp_apply]
  split
  · cases node <;> simp [Node.blank]
  · rfl

/-- A node is the same afterwards, or is a file whose content is forgotten. -/
theorem node?_blanked_cases (fs : FileSystem) (hidden : List NodeId) (id : NodeId) :
    (fs.blanked hidden).node? id = fs.node? id ∨
      id ∈ hidden ∧ ∃ mode data, fs.node? id = some (.file mode data) ∧
        (fs.blanked hidden).node? id = some (.file mode.withoutPrivileges []) := by
  rw [node?_blanked]
  by_cases hid : id ∈ hidden
  · cases hnode : fs.node? id with
    | none => exact Or.inl rfl
    | some node =>
      cases node with
      | file mode data => exact Or.inr ⟨hid, mode, data, rfl, by simp [hid, Node.blank]⟩
      | _ => exact Or.inl (by simp [Node.blank])
  · exact Or.inl (by simp [hid])

@[simp] theorem isDirectory_blanked (id : NodeId) :
    (fs.blanked hidden).isDirectory id = fs.isDirectory id := by
  rcases node?_blanked_cases fs hidden id with h | ⟨-, mode, data, h, h'⟩
  · simp only [isDirectory, h]
  · simp only [isDirectory, h, h', Node.isDirectory]

@[simp] theorem listing?_blanked (id : NodeId) :
    (fs.blanked hidden).listing? id = fs.listing? id := by
  rcases node?_blanked_cases fs hidden id with h | ⟨-, mode, data, h, h'⟩
  · simp only [listing?, h]
  · simp only [listing?, h, h', Option.bind_some, Node.listing?]

@[simp] theorem maySearch_blanked (dir : NodeId) :
    (fs.blanked hidden).maySearch dir = fs.maySearch dir := by
  rcases node?_blanked_cases fs hidden dir with h | ⟨-, mode, data, h, h'⟩
  · simp only [maySearch, h]
  · simp [maySearch, h, h', Node.isDirectory]

@[simp] theorem isDescriptorList_blanked (dir : NodeId) :
    (fs.blanked hidden).isDescriptorList dir = fs.isDescriptorList dir := by
  rcases node?_blanked_cases fs hidden dir with h | ⟨-, mode, data, h, h'⟩
  · simp only [isDescriptorList, h]
  · simp only [isDescriptorList, h, h']

@[simp] theorem linkTarget?_blanked (object : Object) :
    (fs.blanked hidden).linkTarget? object = fs.linkTarget? object := by
  cases object with
  | node id =>
    rcases node?_blanked_cases fs hidden id with h | ⟨-, mode, data, h, h'⟩
    · simp only [linkTarget?, h]
    · simp only [linkTarget?, h, h']
  | _ => rfl

@[simp] theorem mayChange_blanked (dir : NodeId) :
    (fs.blanked hidden).mayChange dir = fs.mayChange dir := by
  rcases node?_blanked_cases fs hidden dir with h | ⟨-, mode, data, h, h'⟩
  · simp only [mayChange, h]
  · simp only [mayChange, h, h']

@[simp] theorem isLinked_blanked (dir : NodeId) :
    (fs.blanked hidden).isLinked dir = fs.isLinked dir := by
  simp [isLinked]

@[simp] theorem mayLink_blanked (dir : NodeId) :
    (fs.blanked hidden).mayLink dir = fs.mayLink dir := by
  rcases node?_blanked_cases fs hidden dir with h | ⟨-, mode, data, h, h'⟩
  · simp only [mayLink, isLinked_blanked, mayChange_blanked, h]
  · simp only [mayLink, isLinked_blanked, h, h']

@[simp] theorem mayReplace_blanked (id old : NodeId) :
    (fs.blanked hidden).mayReplace id old = fs.mayReplace id old := by
  rcases node?_blanked_cases fs hidden old with h | ⟨-, mode, data, h, h'⟩
  · simp only [mayReplace, isDirectory_blanked, h]
  · cases hid : fs.isDirectory id <;> simp [mayReplace, hid, h, h']

@[simp] theorem liesBelow_blanked (top : NodeId) (fuel : Nat) (dir : NodeId) :
    (fs.blanked hidden).liesBelow top fuel dir = fs.liesBelow top fuel dir := by
  induction fuel generalizing dir with
  | zero => rfl
  | succ fuel ih =>
    rcases node?_blanked_cases fs hidden dir with h | ⟨-, mode, data, h, h'⟩
    · simp only [liesBelow, ih, h]
    · simp only [liesBelow, h, h']

@[simp] theorem ancestry_blanked (fuel : Nat) (dir : NodeId) :
    (fs.blanked hidden).ancestry fuel dir = fs.ancestry fuel dir := by
  induction fuel generalizing dir with
  | zero => rfl
  | succ fuel ih => simp only [ancestry, listing?_blanked, ih]

@[simp] theorem pathOf_blanked (dir : NodeId) :
    (fs.blanked hidden).pathOf dir = fs.pathOf dir := by
  simp only [pathOf, ancestry_blanked, length_nodes_blanked]

/-! ## Paths -/

@[simp] theorem enter_blanked (opened : Fd → Option Object) (dir : NodeId) (name : Bytes) :
    (fs.blanked hidden).enter opened dir name = fs.enter opened dir name := by
  simp only [enter, maySearch_blanked, listing?_blanked, isDescriptorList_blanked]

@[simp] theorem walk_blanked (opened : Fd → Option Object) (followed : Bool → Bool)
    (follow : NodeId → List Bytes → Bool → Except Errno Place) :
    (fs.blanked hidden).walk opened followed follow = fs.walk opened followed follow := by
  funext dir names slashed
  fun_induction fs.walk opened followed follow dir names slashed with
  | case1 => rw [walk]
  | case4 dir name rest hfollowed e henter hmissing =>
    rw [walk, if_neg hfollowed, enter_blanked, henter]
    simp only [if_neg hmissing]
  | _ =>
    rw [walk]
    simp_all

@[simp] theorem trace_blanked (opened : Fd → Option Object) (followed : Bool → Bool) (links : Nat) :
    (fs.blanked hidden).trace opened followed links = fs.trace opened followed links := by
  induction links with
  | zero => rw [trace, trace, walk_blanked]
  | succ links ih => rw [trace, trace, walk_blanked, ih]

@[simp] theorem locate_blanked (followed : Bool → Bool) (view : View) (path : Bytes) :
    (fs.blanked hidden).locate followed view path = fs.locate followed view path := by
  simp only [locate, trace_blanked]

@[simp] theorem leadsToDirectory_blanked (object : Object) :
    (fs.blanked hidden).leadsToDirectory object = fs.leadsToDirectory object := by
  cases object <;> simp only [leadsToDirectory, isDirectory_blanked]

@[simp] theorem targetAt_blanked (view : View) (place : Place) :
    (fs.blanked hidden).targetAt view place = fs.targetAt view place := by
  cases place <;> simp only [targetAt, enter_blanked, leadsToDirectory_blanked]

@[simp] theorem resolve_blanked (view : View) (path : Bytes) :
    (fs.blanked hidden).resolve view path = fs.resolve view path := by
  simp only [resolve, locate_blanked, targetAt_blanked]

@[simp] theorem resolveLink_blanked (view : View) (path : Bytes) :
    (fs.blanked hidden).resolveLink view path = fs.resolveLink view path := by
  simp only [resolveLink, locate_blanked, targetAt_blanked, isDescriptorList_blanked]

@[simp] theorem entryAt_blanked (view : View) (dir : NodeId) (name : Bytes) (slashed : Bool) :
    (fs.blanked hidden).entryAt view dir name slashed = fs.entryAt view dir name slashed := by
  simp only [entryAt, enter_blanked, isDescriptorList_blanked, isDirectory_blanked]

@[simp] theorem vacancy_blanked (view : View) (path : Bytes) (directory : Bool) :
    (fs.blanked hidden).vacancy view path directory = fs.vacancy view path directory := by
  simp only [vacancy, locateName, locate_blanked, enter_blanked, mayLink_blanked]

/-! ## Changes -/

theorem blanked_setNode (id : NodeId) (node : Node) :
    (fs.setNode id node).blanked hidden =
      (fs.blanked hidden).setNode id (if id ∈ hidden then node.blank else node) := by
  simp only [setNode, blanked, List.mapIdx_set]

/-- Replacing a node that is no file. -/
theorem blanked_setNode_of_blank (id : NodeId) {node : Node} (hnode : node.blank = node) :
    (fs.setNode id node).blanked hidden = (fs.blanked hidden).setNode id node := by
  rw [blanked_setNode, hnode, ite_self]

@[simp] theorem addEntry_blanked (dir : NodeId) (name : Bytes) (id : NodeId) :
    (fs.blanked hidden).addEntry dir name id = (fs.addEntry dir name id).blanked hidden := by
  rcases node?_blanked_cases fs hidden dir with h | ⟨-, mode, data, h, h'⟩
  · unfold addEntry
    rw [h]
    split
    · exact (blanked_setNode_of_blank dir rfl).symm
    · rfl
  · simp only [addEntry, h, h']

@[simp] theorem dropEntry_blanked (dir : NodeId) (name : Bytes) :
    (fs.blanked hidden).dropEntry dir name = (fs.dropEntry dir name).blanked hidden := by
  rcases node?_blanked_cases fs hidden dir with h | ⟨-, mode, data, h, h'⟩
  · unfold dropEntry
    rw [h]
    split
    · exact (blanked_setNode_of_blank dir rfl).symm
    · rfl
  · simp only [dropEntry, h, h']

@[simp] theorem reparent_blanked (id dir : NodeId) :
    (fs.blanked hidden).reparent id dir = (fs.reparent id dir).blanked hidden := by
  rcases node?_blanked_cases fs hidden id with h | ⟨-, mode, data, h, h'⟩
  · unfold reparent
    rw [h]
    split
    · exact (blanked_setNode_of_blank id rfl).symm
    · rfl
  · simp only [reparent, h, h']

/-- A new node is none of those whose content is forgotten. -/
theorem link_blanked (hnew : fs.nodes.length ∉ hidden) (dir : NodeId) (name : Bytes)
    (node : Node) :
    (fs.blanked hidden).link dir name node =
      ((fs.link dir name node).1, (fs.link dir name node).2.blanked hidden) := by
  have happend : (⟨(fs.blanked hidden).nodes ++ [node]⟩ : FileSystem) =
      FileSystem.blanked ⟨fs.nodes ++ [node]⟩ hidden := by
    simp only [blanked, List.mapIdx_concat, hnew, if_false]
  simp only [link, happend, addEntry_blanked, length_nodes_blanked]

theorem makeNode_blanked (hnew : fs.nodes.length ∉ hidden) (view : View) (path : Bytes)
    (node : Node) :
    (fs.blanked hidden).makeNode view path node =
      (fs.makeNode view path node).map (·.blanked hidden) := by
  simp only [makeNode, vacancy_blanked, link_blanked hnew, bind, Except.bind, pure, Except.pure]
  split <;> rfl

theorem makeDirectory_blanked (hnew : fs.nodes.length ∉ hidden) (view : View) (umask : Nat)
    (path : Bytes) :
    (fs.blanked hidden).makeDirectory view umask path =
      (fs.makeDirectory view umask path).map (·.blanked hidden) := by
  simp only [makeDirectory, vacancy_blanked, link_blanked hnew, bind, Except.bind, pure,
    Except.pure]
  split <;> rfl

theorem makeSymlink_blanked (hnew : fs.nodes.length ∉ hidden) (view : View) (target path : Bytes) :
    (fs.blanked hidden).makeSymlink view target path =
      (fs.makeSymlink view target path).map (·.blanked hidden) := by
  simp only [makeSymlink, makeNode_blanked hnew, bind, Except.bind]
  split <;> rfl

theorem makeName_blanked (view : View) (source path : Bytes) :
    (fs.blanked hidden).makeName view source path =
      (fs.makeName view source path).map (·.blanked hidden) := by
  simp only [makeName, resolveLink_blanked, vacancy_blanked, isDirectory_blanked, addEntry_blanked,
    bind, Except.bind, pure, Except.pure]
  repeat' split
  all_goals rfl

theorem removeDirectory_blanked (view : View) (path : Bytes) :
    (fs.blanked hidden).removeDirectory view path =
      (fs.removeDirectory view path).map (·.blanked hidden) := by
  simp only [removeDirectory, locateName, locate_blanked, entryAt_blanked, mayChange_blanked,
    dropEntry_blanked, bind, Except.bind, pure, Except.pure]
  split
  · rfl
  · split
    · rfl
    · split
      · rfl
      · split
        · rfl
        · next id _ _ _ _ =>
          rcases node?_blanked_cases fs hidden id with h | ⟨-, mode, data, h, h'⟩
          · rw [h]
            split <;> rfl
          · simp only [h, h']
            rfl

theorem removeFile_blanked (view : View) (path : Bytes) :
    (fs.blanked hidden).removeFile view path =
      (fs.removeFile view path).map (·.blanked hidden) := by
  simp only [removeFile, locateName, locate_blanked, entryAt_blanked, isDirectory_blanked,
    mayChange_blanked, dropEntry_blanked, bind, Except.bind, pure, Except.pure]
  repeat' split
  all_goals rfl

theorem rename_blanked (view : View) (source path : Bytes) :
    (fs.blanked hidden).rename view source path =
      (fs.rename view source path).map (·.blanked hidden) := by
  simp only [rename, locateName, locate_blanked, entryAt_blanked, isDirectory_blanked,
    liesBelow_blanked, length_nodes_blanked, enter_blanked, mayReplace_blanked, mayChange_blanked,
    mayLink_blanked, dropEntry_blanked, addEntry_blanked, reparent_blanked,
    bind, Except.bind, pure, Except.pure]
  repeat' split
  all_goals rfl

/-- Whether none of these files may be executed. -/
def isInert (fs : FileSystem) (hidden : List NodeId) : Bool :=
  hidden.all fun id =>
    match fs.node? id with
    | some (.file mode _) => !mode.maySearch
    | _ => true

theorem maySearch_of_isInert (hinert : fs.isInert hidden = true) {id : NodeId} (hid : id ∈ hidden)
    {mode : Mode} {data : Bytes} (hfile : fs.node? id = some (.file mode data)) :
    mode.maySearch = false := by
  simpa [hfile] using List.all_eq_true.mp hinert id hid

@[simp] theorem isInert_blanked : (fs.blanked hidden).isInert hidden = fs.isInert hidden := by
  refine List.all_congr rfl fun id => ?_
  rcases node?_blanked_cases fs hidden id with h | ⟨-, mode, data, h, h'⟩
  · rw [h]
  · simp only [h, h', Mode.maySearch_withoutPrivileges]

end FileSystem

/-! ## Programs -/

namespace Image

variable {fs : FileSystem} {hidden : List NodeId}

theorem load_blanked (hinert : fs.isInert hidden = true) (view : View) (env : Environment)
    (depth : Nat) (path : Bytes) (argv : List Bytes) :
    load (fs.blanked hidden) view env depth path argv = load fs view env depth path argv := by
  induction depth generalizing path argv with
  | zero => rfl
  | succ depth ih =>
    simp only [load, FileSystem.resolve_blanked, ih]
    refine bind_congr fun object => ?_
    cases object with
    | node id =>
      rcases FileSystem.node?_blanked_cases fs hidden id with h | ⟨hid, mode, data, h, h'⟩
      · simp only [h]
      · simp only [h, h', FileSystem.maySearch_of_isInert hinert hid h,
          Mode.maySearch_withoutPrivileges]
        rfl
    | _ => rfl

theorem ofPath?_blanked (hinert : fs.isInert hidden = true) (view : View) (env : Environment)
    (path : Bytes) (argv : List Bytes) :
    ofPath? (fs.blanked hidden) view env path argv = ofPath? fs view env path argv := by
  simp only [ofPath?, load_blanked hinert]

theorem search_blanked (hinert : fs.isInert hidden = true) (view : View) (env : Environment)
    (limit : Nat) (name : Bytes) (argv dirs : List Bytes) (denied : Bool) (last : Errno) :
    search (fs.blanked hidden) view env limit name argv dirs denied last =
      search fs view env limit name argv dirs denied last := by
  induction dirs generalizing denied last with
  | nil => rfl
  | cons dir dirs ih => simp only [search, ofPath?_blanked hinert, ih]

/-- The same program is found, as long as none of the files may be executed. -/
theorem find?_blanked (hinert : fs.isInert hidden = true) (view : View) (env : Environment)
    (argv : List Bytes) :
    find? (fs.blanked hidden) view env argv = find? fs view env argv := by
  unfold find?
  simp only [ofPath?_blanked hinert, search_blanked hinert]

end Image

end PipeShell
