import PipeShell.Proofs.Machine.Targets
import PipeShell.Proofs.Shell.Lockstep
import PipeShell.Shell.PlainEditor

/-!
# Line editors without a terminal

What is asked of a line editor whose input is no terminal is `Editor.OffTerminal`: it gives the
input line by line, and it reads the history from a file that it opens and closes again. Afterwards
the session has the same open as before, and there is one more open file that nobody refers to
(`Machine.Recalled`). So a session that has loaded its history and one that has not are side by side
(`Machine.Recalled.abreast`). The history may be any file that is no pipe: to read from a pipe could
take something away from others, or wait.

The line editor of the executable is of this kind (`Editor.offTerminal_plain`).
-/

namespace PipeShell

variable {U : Userland} {κ : Type} {p : Pid} {s : Store} {c : Context} {d : Description} {fd : Fd}

/-! ## A file that is read -/

namespace Store

/-- The store with one more open file. -/
def withLast (s : Store) (d : Description) : Store :=
  { s with descriptions := s.descriptions ++ [d] }

/-- Opening a path that leads to no pipe for reading. -/
theorem openFile_reading (held : Object → Bool) (hidle : c.opening = none) {path : Bytes}
    {mode : Mode} (hpath : ∀ o, s.openPath c path .reading mode = .ok o →
      ∃ node, o.object = .node node) :
    (∃ e, s.openFile c held path .reading mode = .done (.error e) s c) ∨
      ∃ fd d node, s.openFile c held path .reading mode =
          .done (.ok fd) (s.withLast d)
            { c with
              descriptors := c.descriptors.set fd (some ⟨s.descriptions.length, false⟩) } ∧
        d.readable = true ∧ d.object = .node node ∧ c.descriptors.get fd = none := by
  refine (openFile_eq hidle held path .reading mode).imp_right fun ⟨o, hopen, _, h⟩ => ?_
  obtain ⟨node, hnode⟩ := hpath o hopen
  obtain ⟨-, -, hfiles, -, hmeets⟩ := openPath_reading_ok hopen
  rw [h, hmeets node hnode, withOpened, hfiles]
  exact ⟨_, _, node, rfl, rfl, hnode, DescriptorTable.get_lowestFree _⟩

/-- Reading from the file that was opened last. -/
theorem read_last (held : Object → Bool) {closeOnExec : Bool}
    (hfd : c.descriptors.get fd = some ⟨s.descriptions.length, closeOnExec⟩)
    (hreadable : d.readable = true) {node : NodeId} (hobject : d.object = .node node)
    (count : Nat) :
    ∃ reply offset, (s.withLast d).read c held fd count =
      .done reply (s.withLast { d with offset }) c := by
  have hd : (s.withLast d).description? c fd = some (s.descriptions.length, d) := by
    simp [description?, withLast, hfd]
  have hseek (offset : Nat) : (s.withLast d).seek s.descriptions.length d offset =
      s.withLast { d with offset } := by
    simp [seek, withLast]
  unfold read
  simp only [hd, hreadable, hobject, Bool.not_true, Bool.false_eq_true, if_false, hseek]
  split
  · exact ⟨_, _, rfl⟩
  all_goals exact ⟨_, d.offset, by rw [← hreadable, ← hobject]⟩

end Store

namespace Machine

variable {m : Machine κ} {proc : Process κ} {table : DescriptorTable}

/-- The machine with one more open file, and with another table for process `p`, which is `proc`. -/
def withOpened (m : Machine κ) (p : Pid) (proc : Process κ) (d : Description)
    (table : DescriptorTable) : Machine κ :=
  { m with store := m.store.withLast d }.setProcess p
    { proc with context := { proc.context with descriptors := table } }

theorem getElem?_withOpened (hp : m.processes[p]? = some proc) (x : Pid) :
    (m.withOpened p proc d table).processes[x]? = if x = p then
      some { proc with context := { proc.context with descriptors := table } }
    else m.processes[x]? :=
  getElem?_setProcess (by exact hp) _ x

/-- A call on the file that was opened last. -/
theorem call_withOpened (hp : m.processes[p]? = some proc) {call : Call} {reply : call.Reply}
    {d' : Description} {table' : DescriptorTable}
    (h : call.perform (m.withOpened p proc d table).store
      { proc.context with descriptors := table } (m.withOpened p proc d table).held
      (Pid.number p) ((m.withOpened p proc d table).parentNumber
        { proc with context := { proc.context with descriptors := table } }) =
      .done reply (m.store.withLast d') { proc.context with descriptors := table' }) :
    (Calling.call call : Work κ call.Reply) p (m.withOpened p proc d table) =
      .finished reply (m.withOpened p proc d' table') := by
  refine Work.call_finished.mpr ⟨_, _, _, (getElem?_withOpened hp p).trans (if_pos rfl), h, ?_⟩
  simp only [withOpened, setProcess, List.set_set]

theorem read_withOpened (hp : m.processes[p]? = some proc) {closeOnExec : Bool}
    (hfd : table.get fd = some ⟨m.store.descriptions.length, closeOnExec⟩)
    (hreadable : d.readable = true) {node : NodeId} (hobject : d.object = .node node)
    (count : Nat) :
    ∃ reply offset, (Calling.call (.read fd count) : Work κ _) p (m.withOpened p proc d table) =
      .finished reply (m.withOpened p proc { d with offset } table) := by
  obtain ⟨reply, offset, hread⟩ := Store.read_last (m.withOpened p proc d table).held
    (s := m.store) (c := { proc.context with descriptors := table }) hfd hreadable hobject count
  exact ⟨reply, offset, call_withOpened hp hread⟩

theorem readFrom_withOpened (hp : m.processes[p]? = some proc) {closeOnExec : Bool}
    (hfd : table.get fd = some ⟨m.store.descriptions.length, closeOnExec⟩)
    (hreadable : d.readable = true) {node : NodeId} (hobject : d.object = .node node)
    (fuel : Nat) (blocks : List Bytes) :
    ∃ found offset, (Calling.readFrom fd fuel blocks : Work κ _) p (m.withOpened p proc d table) =
      .finished found (m.withOpened p proc { d with offset } table) := by
  induction fuel generalizing d blocks with
  | zero => exact ⟨_, d.offset, rfl⟩
  | succ fuel ih =>
    obtain ⟨reply, offset, hread⟩ := read_withOpened hp hfd hreadable hobject Calling.blockSize
    rcases reply with e | _ | ⟨b, block⟩
    · exact ⟨_, offset, Work.bind_finished.mpr ⟨_, _, hread, rfl⟩⟩
    · exact ⟨_, offset, Work.bind_finished.mpr ⟨_, _, hread, rfl⟩⟩
    · obtain ⟨found, offset', hrest⟩ := ih (d := { d with offset }) hreadable hobject
        ((b :: block) :: blocks)
      exact ⟨found, offset', Work.bind_finished.mpr ⟨_, _, hread, hrest⟩⟩

theorem close_withOpened (hp : m.processes[p]? = some proc) {e : Descriptor}
    (hfd : table.get fd = some e) :
    (Calling.close fd : Work κ Unit) p (m.withOpened p proc d table) =
      .finished () (m.withOpened p proc d (table.set fd none)) := by
  have hclose : (Calling.call (.close fd) : Work κ _) p (m.withOpened p proc d table) =
      .finished (.ok ()) (m.withOpened p proc d (table.set fd none)) := by
    refine call_withOpened hp ?_
    simp only [Call.perform, Store.close, hfd]
    rfl
  exact Work.bind_finished.mpr ⟨_, _, hclose, rfl⟩

/-- A file was opened by process `p` and closed again, at most. -/
def Recalled (m : Machine κ) (p : Pid) (m' : Machine κ) : Prop :=
  ∃ proc, m.processes[p]? = some proc ∧ (m' = m ∨ ∃ d table node,
    m' = m.withOpened p proc d table ∧ d.object = .node node ∧
      ∀ fd, table.get fd = proc.context.descriptors.get fd)

/-- Opening a file for reading. -/
theorem open_finished (hp : m.processes[p]? = some proc) (hidle : proc.context.opening = none)
    {path : Bytes} (hpath : ∀ o, m.store.openPath proc.context path .reading 0 = .ok o →
      ∃ node, o.object = .node node) :
    ∃ reply n, (Calling.call (.openFile path .reading 0) : Work κ _) p m = .finished reply n ∧
      ((∃ e, reply = .error e ∧ n = m) ∨ ∃ fd d node table, reply = .ok fd ∧
        n = m.withOpened p proc d table ∧ d.readable = true ∧ d.object = .node node ∧
        table = proc.context.descriptors.set fd (some ⟨m.store.descriptions.length, false⟩) ∧
        proc.context.descriptors.get fd = none) := by
  rcases Store.openFile_reading m.held hidle hpath with
    ⟨e, h⟩ | ⟨fd, d, node, h, hreadable, hobject, hfree⟩
  · exact ⟨.error e, m, Work.call_finished.mpr ⟨proc, _, _, hp, h, (setProcess_self hp).symm⟩,
      Or.inl ⟨e, rfl, rfl⟩⟩
  · exact ⟨.ok fd, _, Work.call_finished.mpr ⟨proc, _, _, hp, h, rfl⟩,
      Or.inr ⟨fd, d, node, _, rfl, rfl, hreadable, hobject, rfl, hfree⟩⟩

/-- Loading a history opens a file at most, and closes it again. -/
theorem load_finished (hp : m.processes[p]? = some proc) (hidle : proc.context.opening = none)
    {path : Bytes} (hpath : ∀ o, m.store.openPath proc.context path .reading 0 = .ok o →
      ∃ node, o.object = .node node) (h : PipeShell.History) :
    ∃ result n, (h.load path : Work κ _) p m = .finished result n ∧ m.Recalled p n := by
  obtain ⟨reply, n, hopen, hn⟩ := open_finished hp hidle hpath
  rcases hn with ⟨e, rfl, rfl⟩ | ⟨fd, d, node, table, rfl, rfl, hreadable, hobject, rfl, hfree⟩
  · exact ⟨_, n, Work.bind_finished.mpr ⟨_, _, hopen, rfl⟩, proc, hp, Or.inl rfl⟩
  · have hfd : (proc.context.descriptors.set fd
        (some ⟨m.store.descriptions.length, false⟩)).get fd =
          some ⟨m.store.descriptions.length, false⟩ := by
      rw [DescriptorTable.get_set, if_pos rfl]
    obtain ⟨⟨data, error⟩, offset, hread⟩ :=
      readFrom_withOpened hp hfd hreadable hobject Calling.patience []
    have hclose := close_withOpened (d := { d with offset }) hp hfd
    have hload : ∃ result, (h.load path : Work κ _) p m = .finished result
        (m.withOpened p proc { d with offset } ((proc.context.descriptors.set fd
          (some ⟨m.store.descriptions.length, false⟩)).set fd none)) := by
      cases error with
      | none | some =>
        exact ⟨_, Work.bind_finished.mpr ⟨_, _, hopen, Work.bind_finished.mpr ⟨_, _, hread,
          Work.bind_finished.mpr ⟨_, _, hclose, rfl⟩⟩⟩⟩
    obtain ⟨result, hload⟩ := hload
    refine ⟨result, _, hload, proc, hp,
      Or.inr ⟨{ d with offset }, _, node, rfl, hobject, fun fd' => ?_⟩⟩
    rw [DescriptorTable.get_set, DescriptorTable.get_set]
    split
    · next heq => rw [heq, hfree]
    · rfl

end Machine

/-! ## Side by side -/

section Sessions

variable {m m' : Machine (Task U.State)} {proc : Process (Task U.State)} {table : DescriptorTable}
  {st : Streams} {rest : Bytes}

theorem Machine.Attached.withOpened (ha : m.Attached p st rest) (hp : m.processes[p]? = some proc)
    {node : NodeId} (hobject : d.object = .node node)
    (htable : ∀ fd, table.get fd = proc.context.descriptors.get fd) :
    (m.withOpened p proc d table).Attached p st rest := by
  obtain ⟨proc₀, hp₀, hlife⟩ := ha.attended
  obtain rfl := Option.some.inj (hp₀.symm.trans hp)
  have hget (x : Pid) : (m.withOpened p proc₀ d table).processes[x]? = if x = p then
      some { proc₀ with context := { proc₀.context with descriptors := table } }
    else m.processes[x]? := Machine.getElem?_withOpened hp x
  have hgrows : m.store.Grows (m.withOpened p proc₀ d table).store := by
    refine ⟨fun id d' hd' => ⟨d', ?_, rfl⟩, Nat.le_refl _⟩
    exact (List.getElem?_append_left (List.getElem?_eq_some_iff.mp hd').1).trans hd'
  have hfrom (x : Pid) (procx : Process (Task U.State))
      (hx : (m.withOpened p proc₀ d table).processes[x]? = some procx) :
      ∃ procx₀, m.processes[x]? = some procx₀ ∧ procx.parent = procx₀.parent ∧
        ∀ fd, procx.context.descriptors.get fd = procx₀.context.descriptors.get fd := by
    rw [hget] at hx
    split at hx
    · next heq =>
      cases hx
      exact ⟨proc₀, heq ▸ hp, rfl, htable⟩
    · exact ⟨procx, hx, rfl, fun _ => rfl⟩
  refine ha.of_keeps hp ((hget p).trans (if_pos rfl)) hlife htable ⟨⟨?_, ?_⟩, ?_, ?_⟩ hgrows ?_ ?_
  · intro d' hd' pipe hpipe
    rcases List.mem_append.mp hd' with hd' | hd'
    · exact ha.sound.store.descriptions d' hd' pipe hpipe
    · rw [List.mem_singleton.mp hd', hobject] at hpipe
      cases hpipe
  · exact ha.sound.store.files
  · intro x procx hx fd e he
    obtain ⟨procx₀, hx₀, -, hsame⟩ := hfrom x procx hx
    exact (ha.sound.tables x procx₀ hx₀).grows hgrows fd e ((hsame fd).symm.trans he)
  · intro x procx hx
    obtain ⟨procx₀, hx₀, hparent, -⟩ := hfrom x procx hx
    rw [hparent]
    exact Nat.lt_of_lt_of_eq (ha.sound.parents x procx₀ hx₀) (Machine.length_setProcess _).symm
  · refine { Streams.Keeps.refl st m.store with
      input := ?_
      fresh := fun id d' hle hd' hsource => ?_ }
    · exact fun id hid => List.getElem?_append_left (ha.isOpen.input id hid)
    · obtain rfl : d' = d := by
        have hd' : (m.store.descriptions ++ [d])[id]? = some d' := hd'
        rw [List.getElem?_append_right hle] at hd'
        exact List.mem_singleton.mp (List.mem_of_getElem? hd')
      rw [hobject] at hsource ⊢
      rcases Bool.or_eq_true_iff.mp hsource with heq | heq <;> exact beq_iff_eq.mp heq
  · intro x procx hx
    obtain ⟨procx₀, hx₀, -, hsame⟩ := hfrom x procx hx
    exact ⟨x, procx₀, hx₀, fun fd e he => Or.inl ⟨fd, e, (hsame fd).symm.trans he, rfl⟩⟩

theorem Machine.Attached.alike_withOpened (ha : m.Attached p st rest)
    (hp : m.processes[p]? = some proc)
    (htable : ∀ fd, table.get fd = proc.context.descriptors.get fd) :
    (m.veil st [d]).Alike m (m.withOpened p proc d table) where
  fits := ha.fits [d]
  store := by
    have hplaced : (m.veil st [d]).placed m.store.descriptions = m.store.descriptions ++ [d] := by
      simp [Veil.placed, Machine.veil]
    simp only [Veil.store, hplaced, Veil.placed_bare]
    rfl
  processes := by
    refine List.ext_getElem? fun x => ?_
    rw [List.getElem?_map, List.getElem?_map, Machine.getElem?_withOpened hp]
    -- What is open was there before the file was opened, so it goes by the same number.
    have hseen (procx : Process (Task U.State)) (hx : m.processes[x]? = some procx)
        (t : DescriptorTable) (ht : ∀ fd, t.get fd = procx.context.descriptors.get fd) :
        t.seen (m.veil st [d]).bare.entry =
          procx.context.descriptors.seen (m.veil st [d]).entry := by
      refine DescriptorTable.seen_eq_seen fun fd => ?_
      rw [ht]
      cases he : procx.context.descriptors.get fd with
      | none => rfl
      | some e =>
        have hlt : e.description < (m.veil st [d]).place := ha.sound.tables x procx hx fd e he
        rw [Option.map_some, Option.map_some, Veil.renumber_bare, Descriptor.renumber, Veil.entry,
          if_pos hlt]
    split
    · next heq =>
      subst heq
      rw [hp, Option.map_some, Option.map_some, Veil.process, Veil.process, Veil.context,
        Veil.context]
      simp only [hseen proc hp table htable]
    · cases hx : m.processes[x]? with
      | none => rfl
      | some procx =>
        rw [Option.map_some, Option.map_some, Veil.process, Veil.process, Veil.context,
          Veil.context, hseen procx hx _ fun _ => rfl]
  refusals := rfl

/-- A session that has loaded its history and one that has not are side by side. -/
theorem Machine.Recalled.abreast (hr : m.Recalled p m') (ha : m.Attached p st rest) :
    ∃ v : Veil, v.toStreams = st ∧ v.Abreast p rest rest m m' := by
  obtain ⟨proc, hp, rfl | ⟨d, table, node, rfl, hobject, htable⟩⟩ := hr
  · exact ⟨m'.veil st [], rfl, ha.abreast⟩
  · exact ⟨m.veil st [d], rfl, ha.alike_withOpened hp htable, ha, ha.withOpened hp hobject htable⟩

end Sessions

/-! ## Line editors -/

/-- What is asked of a line editor whose input is no terminal, when process `p` is a session with
these streams and `ahead` is what the editor has read ahead. It gives the input line by line, each
without its line feed and without a carriage return before that, a last line that is not terminated
as it is, and then the end; what else it does when it reads cannot be seen. To load a history it
opens a file at most. -/
structure Editor.OffTerminal (e : Editor (Task U.State)) (ahead : e.Reader → Bytes) (p : Pid)
    (st : Streams) : Prop where
  read_line : ∀ {m : Machine (Task U.State)} {rest before after : Bytes} {reader : e.Reader}
    (prompt : Bytes) (history : e.History), m.Attached p st rest →
    ahead reader ++ rest = before ++ 0x0A :: after → 0x0A ∉ before →
    Utf8.isValid before = true → 0x08 ∉ before →
    m.Covert p st (e.read prompt history reader) fun found rest' =>
      found.1 = .line (LineSource.stripReturn before) ∧ ahead found.2 ++ rest' = after
  read_last : ∀ {m : Machine (Task U.State)} {rest : Bytes} {reader : e.Reader} (prompt : Bytes)
    (history : e.History), m.Attached p st rest → 0x0A ∉ ahead reader ++ rest →
    Utf8.isValid (ahead reader ++ rest) = true → 0x08 ∉ ahead reader ++ rest →
    m.Covert p st (e.read prompt history reader) fun found rest' =>
      found.1 = (if ahead reader ++ rest = [] then .endOfInput else .line (ahead reader ++ rest)) ∧
        ahead found.2 ++ rest' = []
  load : ∀ {m : Machine (Task U.State)} {proc : Process (Task U.State)} {path : Bytes}
    (history : e.History), m.processes[p]? = some proc → proc.context.opening = none →
    (∀ o, m.store.openPath proc.context path .reading 0 = .ok o → ∃ node, o.object = .node node) →
    ∃ found n, e.load path history p m = .finished found n ∧ m.Recalled p n
  add : ∀ (m : Machine (Task U.State)) (history : e.History) (line : Bytes),
    ∃ found, e.add history line p m = .finished found m

namespace Editor

variable {m : Machine (Task U.State)} {st : Streams} {rest : Bytes}

/-- Showing a prompt cannot be seen. -/
theorem covert_showPrompt (ha : m.Attached p st rest) (hinput : st.input.isSome = true)
    (prompt : Bytes) : m.Covert p st (showPrompt prompt) fun result rest' =>
      result = .ok () ∧ rest' = rest := by
  refine ha.covert_environment.bind ?_
  rintro n environment _ hn rfl
  split
  · refine (hn.covert_writeAll hinput (Or.inl rfl) prompt).bind ?_
    rintro o result _ ho ⟨rfl | rfl, rfl⟩
    · exact ho.covert_pure ⟨rfl, rfl⟩
    · exact ho.covert_pure ⟨rfl, rfl⟩
  · exact hn.covert_pure ⟨rfl, rfl⟩

/-- What a user has entered when a text was read. -/
def entryOf : LineSource.Text → Entry Bytes
  | .line text => .line text
  | .endOfInput => .endOfInput
  | .failed e => .failed (StartError.systemMessage e)
  | .notText => .failed notText

/-- To read an entry is to show a prompt and to take a line. -/
theorem covert_read (ha : m.Attached p st rest) (hinput : st.input.isSome = true)
    (prompt : Bytes) (history : PipeShell.History) {ahead : Bytes}
    {Q : LineSource.Text × Bytes → Bytes → Prop}
    (h : ∀ n : Machine (Task U.State), n.Attached p st rest →
      n.Yields p st (LineSource.nextText ahead) Q) :
    m.Covert p st ((plain (Task U.State)).read prompt history ahead) fun found rest' =>
      ∃ text, found.1 = entryOf text ∧ Q (text, found.2) rest' := by
  refine (covert_showPrompt ha hinput prompt).bind ?_
  rintro n _ _ hn ⟨rfl, rfl⟩
  refine (hn.covert_of_yields hinput (h n hn)).bind ?_
  rintro o ⟨text, ahead⟩ rest' ho hQ
  cases text <;> exact ho.covert_pure ⟨_, rfl, hQ⟩

/-- The line editor of the executable reads lines off a session's standard input. -/
theorem offTerminal_plain (hinput : st.input.isSome = true) :
    (plain (Task U.State)).OffTerminal id p st where
  read_line prompt history ha hline hb hvalid hplain := by
    refine (covert_read ha hinput prompt history fun n hn =>
      LineSource.nextText_line (hn.uses hinput).toFeeds hline hb hvalid hplain).mono ?_
    rintro ⟨entry, ahead⟩ rest' ⟨text, rfl, ahead', hfound, hrest⟩
    cases hfound
    exact ⟨rfl, hrest⟩
  read_last prompt history ha hfeed hvalid hplain := by
    refine (covert_read ha hinput prompt history fun n hn =>
      LineSource.nextText_last (hn.uses hinput).toFeeds hfeed hvalid hplain).mono ?_
    rintro ⟨entry, ahead⟩ rest' ⟨text, rfl, hfound, rfl⟩
    obtain ⟨rfl, rfl⟩ := Prod.mk.inj hfound
    refine ⟨?_, rfl⟩
    split <;> rfl
  load history hp hidle hpath := by
    obtain ⟨⟨history', result⟩, n, hload, hn⟩ := Machine.load_finished hp hidle hpath history
    exact ⟨_, n, Work.bind_finished.mpr ⟨_, _, hload, rfl⟩, hn⟩
  add m history line := ⟨_, rfl⟩

end Editor

/-! ## Loading the history -/

namespace Interactive

variable {e : Editor (Task U.State)} {ahead : e.Reader → Bytes} {m : Machine (Task U.State)}
  {proc : Process (Task U.State)} {st : Streams} {rest : Bytes}

/-- Loading the history is always finished, and leaves a session side by side with one that has not
loaded it. -/
theorem loadHistory_finished (he : e.OffTerminal ahead p st) (ha : m.Attached p st rest)
    (hp : m.processes[p]? = some proc) (hidle : proc.context.opening = none) {path : Bytes}
    (hpath : ∀ o, m.store.openPath proc.context path .reading 0 = .ok o →
      ∃ node, o.object = .node node) (s : Interactive e) :
    ∃ history n, loadHistory path s p m = .finished ((), { s with history }) n ∧
      ∃ v : Veil, v.toStreams = st ∧ v.Abreast p rest rest m n := by
  obtain ⟨⟨history, result⟩, n, hload, hrecalled⟩ := he.load s.history hp hidle hpath
  have hrevise : revise (e.load path) s p m = .finished (result, { s with history }) n :=
    Work.bind_finished.mpr ⟨_, _, Work.bind_finished.mpr ⟨_, _, hload, rfl⟩, rfl⟩
  obtain ⟨v, rfl, hn⟩ := hrecalled.abreast ha
  have records (level : Level) (message : Bytes) : ∃ o, v.Abreast p rest rest m o ∧
      (Calling.note level message : Talk e Unit) { s with history } p n =
        .finished ((), { s with history }) o := by
    refine hn.talk_second ?_
    exact (hn.second.covert_note level message).lift _
  refine ⟨history, ?_⟩
  cases result with
  | error reason =>
    obtain ⟨o, ho, hnote⟩ := records .warn _
    exact ⟨o, Work.bind_finished.mpr ⟨_, _, hrevise, hnote⟩, v, rfl, ho⟩
  | ok =>
    obtain ⟨o, ho, hnote⟩ := records .debug _
    exact ⟨o, Work.bind_finished.mpr ⟨_, _, hrevise, hnote⟩, v, rfl, ho⟩

end Interactive

end PipeShell
