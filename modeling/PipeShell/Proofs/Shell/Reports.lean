import PipeShell.Proofs.Executor.Answers
import PipeShell.Proofs.Machine.Working
import PipeShell.Shell.Session

/-!
# What a session writes

A session writes to standard error and to the journal, and this changes little
(`Machine.Reported`): no process, no descriptor and no directory of a process, and of what processes
share only what is in the file or pipe that standard error is, and in the journal's file
(`Store.Written`). Nothing is opened, made or cut off.

A message need not come through. The pipe that standard error is may break and end the session, some
write may be refused, which ends it as well (`Machine.Breaks`), or the session may wait for room for
ever (`Machine.Clogs`). There is nothing else that a message leads to (`Runner.warn_ensures`).
-/

namespace PipeShell

/-! ## What writing changes -/

namespace Store

/-- What was open before has been written to, at most: `target` has got another content, and the
file that the journal goes to. Nothing was opened, made or cut off. -/
structure Written (s s' : Store) (target : Option Object) : Prop where
  journal : s'.journal = s.journal
  descriptions : s'.descriptions.map (·.object) = s.descriptions.map (·.object)
  pipes : s'.pipes.length = s.pipes.length
  nodes : s'.files.nodes.length = s.files.nodes.length
  files : ∀ id, s'.files.node? id = s.files.node? id ∨
    (target = some (.node id) ∨ s.journal.file = some id) ∧
      ∃ mode data mode' data', s.files.node? id = some (.file mode data) ∧
        s'.files.node? id = some (.file mode' data') ∧ data.length ≤ data'.length

variable {s s' s'' : Store} {target : Option Object} {context context' : Context}

theorem Written.refl (s : Store) (target : Option Object) : s.Written s target :=
  ⟨rfl, rfl, rfl, rfl, fun _ => Or.inl rfl⟩

theorem Written.trans (h : s.Written s' target) (h' : s'.Written s'' target) :
    s.Written s'' target where
  journal := h'.journal.trans h.journal
  descriptions := h'.descriptions.trans h.descriptions
  pipes := h'.pipes.trans h.pipes
  nodes := h'.nodes.trans h.nodes
  files id := by
    rcases h.files id with hsame | ⟨htarget, mode, data, mode', data', hold, hnew, hle⟩
    · rw [← hsame, ← h.journal]
      exact h'.files id
    · refine Or.inr ⟨htarget, mode, data, ?_⟩
      rcases h'.files id with hsame' | ⟨-, mode₁, data₁, mode₂, data₂, hold', hnew', hle'⟩
      · exact ⟨mode', data', hold, hsame'.trans hnew, hle⟩
      · cases hnew.symm.trans hold'
        exact ⟨mode₂, data₂, hold, hnew', Nat.le_trans hle hle'⟩

/-- What only the journal's file has got is the same whatever else might have been written to. -/
theorem Written.weaken (h : s.Written s' none) (target : Option Object) : s.Written s' target where
  journal := h.journal
  descriptions := h.descriptions
  pipes := h.pipes
  nodes := h.nodes
  files id := (h.files id).imp_right fun ⟨hid, hfile⟩ =>
    ⟨Or.inr (hid.resolve_left (Option.some_ne_none _).symm), hfile⟩

theorem Written.objectOf? (h : s.Written s' target) (d : Descriptor) :
    s'.objectOf? d = s.objectOf? d := by
  have hget := congrArg (fun l => l[d.description]?) h.descriptions
  simpa only [Store.objectOf?, List.getElem?_map] using hget

theorem length_le_splice (data : Bytes) (position : Nat) (new : Bytes) :
    data.length ≤ (FileSystem.splice data position new).length := by
  simp only [FileSystem.splice, List.length_append, List.length_take, List.length_replicate,
    List.length_drop]
  omega

theorem objectOf?_of_description? {fd : Fd} {id : DescriptionId} {d : Description}
    (h : s.description? context fd = some (id, d)) :
    s.descriptions[id]? = some d ∧
      (context.descriptors.get fd).bind s.objectOf? = some d.object := by
  unfold description? at h
  split at h
  · cases h
  · next e he =>
    obtain ⟨desc, hdesc, heq⟩ := Option.map_eq_some_iff.mp h
    cases heq
    exact ⟨hdesc, by simp [he, Store.objectOf?, hdesc]⟩

/-- Moving the offset of an open file changes no file. -/
theorem Written.seek (h : s.Written s' target) {id : DescriptionId} {d : Description}
    (hd : s'.descriptions[id]? = some d) (offset : Nat) :
    s.Written (s'.seek id d offset) target where
  journal := h.journal
  descriptions := by
    obtain ⟨hlt, hget⟩ := List.getElem?_eq_some_iff.mp hd
    rw [← h.descriptions, Store.seek, List.map_set]
    refine List.ext_getElem? fun n => ?_
    rw [List.getElem?_set]
    split
    · next heq =>
      subst heq
      simp [hget, hlt]
    · rfl
  pipes := h.pipes
  nodes := h.nodes
  files := h.files

/-- A file that does not become shorter has been written to, at most. -/
theorem Written.setFile {node : NodeId} {mode : Mode} {old new : Bytes}
    (htarget : target = some (.node node) ∨ s.journal.file = some node)
    (hfile : s.files.node? node = some (.file mode old)) (mode' : Mode)
    (hle : old.length ≤ new.length) :
    s.Written { s with files := s.files.setNode node (.file mode' new) } target where
  journal := rfl
  descriptions := rfl
  pipes := rfl
  nodes := List.length_set ..
  files id := by
    simp only [FileSystem.node?, FileSystem.setNode, List.getElem?_set]
    split
    · next heq =>
      subst heq
      obtain ⟨hlt, -⟩ := List.getElem?_eq_some_iff.mp hfile
      rw [if_pos hlt]
      exact Or.inr ⟨htarget, mode, old, mode', new, hfile, rfl, hle⟩
    · exact Or.inl rfl

/-- A record is in the journal's file, if it is anywhere, and nothing else is another store. -/
theorem exists_note (s : Store) (pid : Nat) (level : Level) (message : Bytes) :
    ∃ files, s.note pid level message = { s with files } ∧ s.Written { s with files } none := by
  rcases s.note_cases pid level message with hsame | ⟨id, mode, data, record, hid, hfile, heq⟩
  · exact ⟨s.files, hsame, .refl s none⟩
  · exact ⟨_, heq, .setFile (Or.inr hid) hfile _ (by simp)⟩

/-- A write that is over has changed the content of what was written to, at most. -/
theorem write_written {held : Object → Bool} {fd : Fd} {data : Bytes} {reply : Except Errno Nat}
    (h : s.write context held fd data = .done reply s' context') :
    context'.descriptors = context.descriptors ∧ context'.directory = context.directory ∧
      s.Written s' ((context.descriptors.get fd).bind s.objectOf?) := by
  have same : s.Written s ((context.descriptors.get fd).bind s.objectOf?) := .refl s _
  unfold write at h
  split at h
  · cases h
    exact ⟨rfl, rfl, same⟩
  · next id d hd =>
    obtain ⟨hid, hobject⟩ := objectOf?_of_description? hd
    split at h
    · cases h
      exact ⟨rfl, rfl, same⟩
    · split at h
      · cases h
        exact ⟨rfl, rfl, same⟩
      · split at h
        · split at h <;> cases h <;> exact ⟨rfl, rfl, same⟩
        · simp only at h
          split at h
          · cases h
          · cases h
            exact ⟨rfl, rfl, rfl, rfl, List.length_set .., rfl, fun _ => Or.inl rfl⟩
      · next node hnode =>
        split at h
        · next mode old hfile =>
          cases h
          rw [hobject, hnode]
          exact ⟨rfl, rfl,
            (Written.setFile (Or.inl rfl) hfile _ (length_le_splice old _ data)).seek hid _⟩
        all_goals
          cases h
          exact ⟨rfl, rfl, same⟩

end Store

/-! ## Reports -/

namespace Machine

variable {κ : Type} {m m' m'' : Machine κ} {p x : Pid} {proc : Process κ}

/-- What standard error is for a process. -/
def errorOf (m : Machine κ) (proc : Process κ) : Option Object :=
  (proc.context.descriptors.get Fd.stderr).bind m.store.objectOf?

/-- Process `p` has written to standard error and to the journal, at most. -/
def Reported (m m' : Machine κ) (p : Pid) : Prop :=
  ∃ proc store context, m.processes[p]? = some proc ∧
    m' = { m with store }.setProcess p { proc with context } ∧
    context.descriptors = proc.context.descriptors ∧ context.directory = proc.context.directory ∧
    m.store.Written store (m.errorOf proc)

/-- There are more records in the journal's file, at most. -/
def Noted (m m' : Machine κ) : Prop :=
  ∃ files, m' = { m with store := { m.store with files } } ∧
    m.store.Written { m.store with files } none

theorem Noted.refl (m : Machine κ) : m.Noted m := ⟨m.store.files, rfl, .refl _ _⟩

theorem Noted.trans (h : m.Noted m') (h' : m'.Noted m'') : m.Noted m'' := by
  obtain ⟨_, rfl, hwritten⟩ := h
  obtain ⟨files, rfl, hwritten'⟩ := h'
  exact ⟨files, rfl, hwritten.trans hwritten'⟩

theorem Noted.processes (h : m.Noted m') : m'.processes = m.processes := by
  obtain ⟨_, rfl, -⟩ := h
  rfl

theorem Reported.refl (hp : m.processes[p]? = some proc) : m.Reported m p :=
  ⟨proc, m.store, proc.context, hp, (setProcess_self hp).symm, rfl, rfl, .refl _ _⟩

theorem errorOf_setProcess {store : Store} {context : Context} {target : Option Object}
    (htable : context.descriptors = proc.context.descriptors)
    (hwritten : m.store.Written store target) :
    errorOf ({ m with store }.setProcess p { proc with context }) { proc with context } =
      m.errorOf proc := by
  simp only [errorOf, htable]
  exact congrArg (Option.bind _) (funext hwritten.objectOf?)

theorem Reported.trans (h : m.Reported m' p) (h' : m'.Reported m'' p) : m.Reported m'' p := by
  obtain ⟨proc, store, context, hp, rfl, htable, hdirectory, hwritten⟩ := h
  obtain ⟨proc', store', context', hp', rfl, htable', hdirectory', hwritten'⟩ := h'
  have hlt := (List.getElem?_eq_some_iff.mp hp).1
  obtain rfl : proc' = { proc with context } := by
    simpa [setProcess, hlt] using hp'.symm
  refine ⟨proc, store', context', hp, by simp [setProcess], htable'.trans htable,
    hdirectory'.trans hdirectory, hwritten.trans ?_⟩
  rwa [errorOf_setProcess htable hwritten] at hwritten'

theorem Noted.reported (h : m.Noted m') (hp : m.processes[p]? = some proc) : m.Reported m' p := by
  obtain ⟨files, rfl, hwritten⟩ := h
  exact ⟨proc, _, proc.context, hp, (setProcess_self (by exact hp)).symm, rfl, rfl,
    hwritten.weaken _⟩

theorem Reported.exists_getElem? (h : m.Reported m' p) :
    ∃ proc proc', m.processes[p]? = some proc ∧ m'.processes[p]? = some proc' ∧
      proc'.parent = proc.parent ∧ proc'.life = proc.life ∧
      proc'.context.descriptors = proc.context.descriptors ∧
      proc'.context.directory = proc.context.directory := by
  obtain ⟨proc, store, context, hp, rfl, htable, hdirectory, -⟩ := h
  have hlt := (List.getElem?_eq_some_iff.mp hp).1
  exact ⟨proc, { proc with context }, hp, by simp [setProcess, hlt], rfl, rfl, htable, hdirectory⟩

/-- A write of process `p` to standard error has this outcome, after other reports. -/
def ReportMeets (m : Machine κ) (p : Pid) (outcome : Outcome (Except Errno Nat) → Prop)
    (m' : Machine κ) : Prop :=
  m.Reported m' p ∧ ∃ proc data, m'.processes[p]? = some proc ∧
    outcome (m'.store.write proc.context m'.held Fd.stderr data)

/-- There is no room on standard error for what process `p` writes there, and will not be as long as
nobody else moves. -/
def Clogs (m : Machine κ) (p : Pid) : Prop := ∃ m', m.ReportMeets p (· = .blocked) m'

/-- Some write of process `p` to standard error was refused, or nothing was taken, although it is
open. -/
def Spoiled (m m' : Machine κ) (p : Pid) : Prop :=
  ∃ m₁ proc, m.Reported m₁ p ∧ m₁.processes[p]? = some proc ∧ m₁.Rebuffs proc.context ∧
    m₁.Reported m' p

/-- Process `p` has ended because it could not write to standard error. -/
inductive Breaks (m : Machine κ) (p : Pid) : ExitStatus → Machine κ → Prop
  /-- A signal has ended it, which it got for writing. -/
  | struck {m' : Machine κ} {signal : Nat} (hmeets : m.ReportMeets p (· = .killed signal) m') :
    Breaks m p (.signaled signal) (m'.finish p (.signaled signal))
  | spoiled {m' : Machine κ} (hspoiled : m.Spoiled m' p) :
    Breaks m p (.exited Console.alarmCode) (m'.finish p (.exited Console.alarmCode))

theorem Reported.meets {outcome : Outcome (Except Errno Nat) → Prop} (h : m.Reported m' p)
    (hmeets : m'.ReportMeets p outcome m'') : m.ReportMeets p outcome m'' :=
  ⟨h.trans hmeets.1, hmeets.2⟩

theorem Reported.clogs (h : m.Reported m' p) (hclogs : m'.Clogs p) : m.Clogs p :=
  hclogs.imp fun _ => h.meets

theorem Reported.spoiled (h : m.Reported m' p) (hspoiled : m'.Spoiled m'' p) : m.Spoiled m'' p := by
  obtain ⟨m₁, proc, hbefore, hp, hrebuffs, hafter⟩ := hspoiled
  exact ⟨m₁, proc, h.trans hbefore, hp, hrebuffs, hafter⟩

theorem Spoiled.trans (h : m.Spoiled m' p) (hafter : m'.Reported m'' p) : m.Spoiled m'' p := by
  obtain ⟨m₁, proc, hbefore, hp, hrebuffs, hafter'⟩ := h
  exact ⟨m₁, proc, hbefore, hp, hrebuffs, hafter'.trans hafter⟩

theorem Reported.breaks {status : ExitStatus} (h : m.Reported m' p)
    (hbreaks : m'.Breaks p status m'') : m.Breaks p status m'' := by
  cases hbreaks with
  | struck hmeets => exact .struck (h.meets hmeets)
  | spoiled hspoiled => exact .spoiled (h.spoiled hspoiled)

end Machine

/-! ## Messages -/

namespace Work

variable {κ : Type} {m m' : Machine κ} {p : Pid} {proc : Process κ}

/-- The machine with a record in the journal. -/
def noted (m : Machine κ) (p : Pid) (level : Level) (message : Bytes) : Machine κ :=
  { m with store := m.store.note (Pid.number p) level message }

theorem noted_noted (m : Machine κ) (p : Pid) (level : Level) (message : Bytes) :
    m.Noted (noted m p level message) := by
  obtain ⟨files, heq, hwritten⟩ := m.store.exists_note (Pid.number p) level message
  exact ⟨files, by rw [noted, heq], hwritten⟩

/-- A record changes the machine and nothing else. -/
theorem note_eq (hp : m.processes[p]? = some proc) (level : Level) (message : Bytes) :
    (Calling.note level message : Work κ Unit) p m = .finished () (noted m p level message) := by
  refine call_finished.mpr ⟨proc, _, _, hp, rfl, ?_⟩
  exact (Machine.setProcess_self (m := noted m p level message) hp).symm

theorem note_finished {level : Level} {message : Bytes} {result : Unit} :
    (Calling.note level message : Work κ Unit) p m = .finished result m' ↔
      (∃ proc, m.processes[p]? = some proc) ∧ m' = noted m p level message := by
  constructor
  · intro h
    obtain ⟨proc, -, -, hp, -, -⟩ := call_finished.mp h
    rw [note_eq hp] at h
    cases h
    exact ⟨⟨proc, hp⟩, rfl⟩
  · rintro ⟨⟨proc, hp⟩, rfl⟩
    exact note_eq hp level message

/-- Work goes on from the machine with the record. -/
theorem ensures_note {β : Type} {f : Unit → Work κ β} {done : β → Machine κ → Prop}
    {ended : ExitStatus → Machine κ → Prop} {stuck : Prop} (hp : m.processes[p]? = some proc)
    {level : Level} {message : Bytes}
    (h : (f () p (noted m p level message)).Ensures done ended stuck) :
    (((Calling.note level message : Work κ Unit) >>= f) p m).Ensures done ended stuck := by
  simp only [bind, note_eq hp]
  exact h

/-- What a piece of a message leads to. -/
theorem writePiece_ensures (hp : m.processes[p]? = some proc) (fuel : Nat) (piece : Bytes) :
    ((Console.writePiece Fd.stderr fuel piece : Work κ _) p m).Ensures
      (fun result m' => m.Reported m' p ∧ (result.isOk = false → m.Spoiled m' p))
      (m.Breaks p) (m.Clogs p) := by
  induction fuel generalizing m proc piece with
  | zero => exact ⟨.refl hp, nofun⟩
  | succ fuel ih =>
    unfold Console.writePiece
    split
    · exact ⟨.refl hp, nofun⟩
    · next hne =>
      refine ensures_bind (Q := fun reply m' => m.Reported m' p ∧
        ∀ e, Console.left piece reply = .error e → m.Spoiled m' p)
        (ensures_call (c := .write Fd.stderr piece) hp ?_) ?_
      · simp only [Call.perform]
        split
        · next reply store context hwrite =>
          obtain ⟨htable, hdirectory, hwritten⟩ := Store.write_written hwrite
          have hreported : m.Reported ({ m with store }.setProcess p { proc with context }) p :=
            ⟨proc, store, context, hp, rfl, htable, hdirectory, hwritten⟩
          refine ⟨hreported, fun e he => ⟨m, proc, .refl hp, hp, ?_, hreported⟩⟩
          refine ⟨piece, reply, store, context, by simpa using hne, hwrite, ?_⟩
          exact Console.refused_of_left he
        · next signal hwrite => exact .struck ⟨.refl hp, proc, piece, hp, hwrite⟩
        · next hwrite => exact absurd hwrite Store.write_ne_underway
        · next hwrite => exact ⟨m, .refl hp, proc, piece, hp, hwrite⟩
      · rintro reply m₁ ⟨hreported, hspoiled⟩
        cases he : Console.left piece reply with
        | error e => exact ⟨hreported, fun _ => hspoiled e he⟩
        | ok rest =>
          obtain ⟨_, _, _, hp₁, -⟩ := hreported.exists_getElem?
          exact (ih hp₁ rest).mono
            (fun _ _ h => ⟨hreported.trans h.1, fun hr => hreported.spoiled (h.2 hr)⟩)
            (fun _ _ => hreported.breaks) hreported.clogs

/-- What the pieces of a message lead to. -/
theorem writePieces_ensures (hp : m.processes[p]? = some proc) (pieces : List Bytes) :
    ((Console.writePieces Fd.stderr pieces : Work κ _) p m).Ensures
      (fun result m' => m.Reported m' p ∧ (result.isOk = false → m.Spoiled m' p))
      (m.Breaks p) (m.Clogs p) := by
  induction pieces generalizing m proc with
  | nil => exact ⟨.refl hp, nofun⟩
  | cons piece rest ih =>
    refine ensures_bind (writePiece_ensures hp piece.length piece) ?_
    rintro result m₁ ⟨hreported, hspoiled⟩
    cases result with
    | error e => exact ⟨hreported, fun _ => hspoiled rfl⟩
    | ok _ =>
      obtain ⟨_, _, _, hp₁, -⟩ := hreported.exists_getElem?
      exact (ih hp₁).mono
        (fun _ _ h => ⟨hreported.trans h.1, fun hr => hreported.spoiled (h.2 hr)⟩)
        (fun _ _ => hreported.breaks) hreported.clogs

/-- A text is printed on standard error, or the process ends over that, or waits for ever. -/
theorem print_ensures (hp : m.processes[p]? = some proc) (console : Console) (text : Bytes) :
    ((console.print Fd.stderr text : Work κ Unit) p m).Ensures
      (fun _ m' => m.Reported m' p) (m.Breaks p) (m.Clogs p) := by
  refine ensures_bind (writePieces_ensures hp (console.pieces Fd.stderr text)) ?_
  rintro result m₁ ⟨hreported, hspoiled⟩
  cases result with
  | ok _ => exact hreported
  | error e =>
    -- The report of the failure changes nothing about its being one.
    obtain ⟨_, _, _, hp₁, -⟩ := hreported.exists_getElem?
    refine ensures_bind ((writePieces_ensures hp₁ (console.alarm Fd.stderr e)).mono
      (fun _ _ h => (hspoiled rfl).trans h.1) (fun _ _ => hreported.breaks) hreported.clogs) ?_
    exact fun _ m₂ h => .spoiled h

end Work

/-- A session that has a message to give gives it, or ends, or waits for ever. -/
theorem Runner.warn_ensures {U : Userland} {m : Machine (Task U.State)} {p : Pid}
    {proc : Process (Task U.State)} (r : Runner U) (hp : m.processes[p]? = some proc)
    (message : Bytes) :
    ((r.warn message : Work (Task U.State) Unit) p m).Ensures (fun _ m' => m.Reported m' p)
      (m.Breaks p) (m.Clogs p) :=
  Work.print_ensures hp r.executor.console (message ++ [0x0A])

end PipeShell
