import PipeShell.Proofs.Shell.Attached
import PipeShell.Shell.Interactive

/-!
# What cannot be seen of a session

Reading, printing and keeping the journal change nothing of a machine that can be seen
(`Streams.Unseen`). Work that does no more than that, and is always finished, is `Machine.Covert`:
records in the journal, reading, and what a session prints whose outputs have room
(`Machine.Attached.covert_print`).
-/

namespace PipeShell

/-! ## Stores -/

namespace Veil

variable {v : Veil} {s : Store} {c : Context}

/-- How far a stream was read or written cannot be seen. -/
theorem store_seek (hplace : v.place ≤ s.descriptions.length) {id : DescriptionId}
    {d : Description} (hd : s.descriptions[id]? = some d)
    (hhidden : v.shows (v.entry id) d = false) (offset : Nat) :
    v.store (s.seek id d offset) = v.store s := by
  have hsame : v.description (v.entry id) { d with offset } = v.description (v.entry id) d :=
    Streams.description_eq_description hhidden offset d.offset
  have hget : ((v.placed s.descriptions).mapIdx v.description)[v.entry id]? =
      some (v.description (v.entry id) d) := by
    rw [List.getElem?_mapIdx, getElem?_placed hplace, hd, Option.map_some]
  obtain ⟨hlt, hget⟩ := List.getElem?_eq_some_iff.mp hget
  simp only [store, Store.seek, placed_set hplace, List.mapIdx_set, hsame]
  rw [← hget, List.set_getElem_self]

/-- What is in an output cannot be seen. -/
theorem store_setNode {id : NodeId} (hid : id ∈ v.outputs) {node node' : Node}
    (hnode : s.files.node? id = some node) (hblank : node'.blank = node.blank) :
    v.store { s with files := s.files.setNode id node' } = v.store s := by
  have hfiles : (s.files.setNode id node').blanked v.outputs = s.files.blanked v.outputs := by
    have hget : (s.files.blanked v.outputs).node? id = some node.blank := by
      rw [FileSystem.node?_blanked, hnode, Option.map_some, if_pos hid]
    rw [FileSystem.blanked_setNode, if_pos hid, hblank, FileSystem.setNode_self hget]
  simp only [store, hfiles]

/-- How far standard input was read cannot be seen. -/
theorem store_drained (hf : v.Fits s) (offset : Nat) (waiting : Bytes) :
    v.store (v.drained s offset waiting) = v.store s := by
  have hpipes : v.pipes (v.drained s offset waiting).pipes = v.pipes s.pipes := by
    simp only [Streams.drained]
    split
    · next pipe hsource =>
      have hhides : v.hides (.readEnd pipe) = true := by
        simp [Streams.hides, Streams.isSource, hsource]
      rw [Streams.pipes_set, if_pos hhides]
      refine List.ext_getElem? fun i => ?_
      rw [List.getElem?_set, Streams.length_pipes]
      split
      · next heq =>
        subst heq
        split
        · next hlt =>
          simp [Streams.pipes, List.getElem?_mapIdx, hhides, List.getElem?_eq_getElem hlt]
        · next hge => rw [List.getElem?_eq_none (by simpa using hge)]
      · rfl
    · rfl
  have hdescriptions : v.store { s with
      descriptions := (v.drained s offset waiting).descriptions } = v.store s := by
    unfold Streams.drained
    cases hinput : v.input with
    | none => rfl
    | some input =>
      have hentry : some (v.entry input) = v.input := (entry_eq_input hf.input).mpr hinput.symm
      have hlt := Nat.lt_of_lt_of_le (hf.input input hinput) hf.place
      have hd := List.getElem?_eq_getElem hlt
      have hseek : v.store (s.seek input s.descriptions[input] offset) = v.store s :=
        store_seek hf.place hd (by simp [Streams.shows, hentry]) offset
      rw [← hseek]
      simp only [Store.modify_offset hd, Store.seek]
  rw [← hdescriptions]
  simp only [store, hpipes]
  rfl

end Veil

/-! ## Work that cannot be seen -/

/-- Nothing has changed that can be seen. -/
structure Streams.Unseen (st : Streams) (s s' : Store) : Prop where
  fits : ∀ v : Veil, v.toStreams = st → v.Fits s → v.Fits s'
  store : ∀ v : Veil, v.toStreams = st → v.Fits s → v.store s' = v.store s

namespace Streams.Unseen

variable {st : Streams} {s s' s'' : Store} {c : Context}

theorem refl (st : Streams) (s : Store) : st.Unseen s s :=
  ⟨fun _ _ hf => hf, fun _ _ _ => rfl⟩

theorem trans (h : st.Unseen s s') (h' : st.Unseen s' s'') : st.Unseen s s'' where
  fits v hv hf := h'.fits v hv (h.fits v hv hf)
  store v hv hf := (h'.store v hv (h.fits v hv hf)).trans (h.store v hv hf)

/-- What is in an output cannot be seen. -/
theorem setFile {id : NodeId} (hid : id ∈ st.outputs) {mode mode' : Mode} {old new : Bytes}
    (hfile : s.files.node? id = some (.file mode old))
    (hmode : mode'.withoutPrivileges = mode.withoutPrivileges) :
    st.Unseen s { s with files := s.files.setNode id (.file mode' new) } := by
  constructor
  · rintro v - hf
    exact ⟨hf.input, hf.place, by simpa [FileSystem.setNode] using hf.outputs⟩
  · rintro v rfl -
    exact Veil.store_setNode hid hfile (by simp [Node.blank, hmode])

/-- A record in the journal cannot be seen if its file is an output. -/
theorem note (hjournal : ∀ id, s.journal.file = some id → id ∈ st.outputs) (pid : Nat)
    (level : Level) (message : Bytes) : st.Unseen s (s.note pid level message) := by
  rcases s.note_cases pid level message with h | ⟨id, mode, data, record, hid, hfile, h⟩
  · rw [h]
    exact refl st s
  · rw [h]
    exact setFile (hjournal id hid) hfile (by simp)

/-- Nor can it be seen how far an output was written. -/
theorem seek {id : DescriptionId} {d : Description} (hd : s.descriptions[id]? = some d)
    {node : NodeId} (hobject : d.object = .node node) (hnode : node ∈ st.outputs) (offset : Nat) :
    st.Unseen s (s.seek id d offset) := by
  constructor
  · rintro v - hf
    exact ⟨hf.input, by simpa [Store.seek] using hf.place, hf.outputs⟩
  · rintro v rfl hf
    exact Veil.store_seek hf.place hd (by simp [Streams.shows, Streams.hides, hobject, hnode]) _

/-- How far standard input was read cannot be seen. -/
theorem drained (st : Streams) (s : Store) (offset : Nat) (waiting : Bytes) :
    st.Unseen s (st.drained s offset waiting) := by
  constructor
  · rintro v rfl hf
    exact ⟨hf.input, Nat.le_trans hf.place (v.grows_drained s offset waiting).length_le, hf.outputs⟩
  · rintro v rfl hf
    exact Veil.store_drained hf offset waiting

/-- What is written to an output cannot be seen, and there is room for it. -/
theorem write (held : Object → Bool) {fd : Fd} (data : Bytes)
    (houtput : ∀ id d, s.description? c fd = some (id, d) →
      ∃ node ∈ st.outputs, d.object = .node node)
    (hroom : ∀ node ∈ st.outputs, s.files.node? node ≠ some .fullDevice) :
    ∃ reply s', s.write c held fd data = .done reply s' c ∧ st.Unseen s s' ∧
      (reply = .ok data.length ∨ reply = .error .badDescriptor) := by
  unfold Store.write
  split
  · exact ⟨_, s, rfl, refl st s, Or.inr rfl⟩
  · next id d hd =>
    obtain ⟨node, hnode, hobject⟩ := houtput id d hd
    obtain ⟨hdesc, -⟩ := Store.objectOf?_of_description? hd
    split
    · exact ⟨_, s, rfl, refl st s, Or.inr rfl⟩
    · simp only [hobject]
      split
      · next mode old hfile =>
        refine ⟨_, _, rfl, ?_, Or.inl rfl⟩
        have hmode : (if data.isEmpty then mode else mode.withoutPrivileges).withoutPrivileges =
            mode.withoutPrivileges := by
          split <;> simp
        exact (setFile hnode hfile hmode).trans (seek (by exact hdesc) hobject hnode _)
      · next hfull => exact absurd hfull (hroom node hnode)
      · exact ⟨_, s, rfl, refl st s, Or.inl rfl⟩

end Streams.Unseen

variable {U : Userland} {m m' : Machine (Task U.State)} {p : Pid} {st : Streams} {rest : Bytes}
  {α β : Type} {w : Work (Task U.State) α} {Q : α → Bytes → Prop}

/-- Work of a session that is finished without anything that can be seen; what it gives and what it
leaves to be read are as `Q` says. -/
def Machine.Covert (m : Machine (Task U.State)) (p : Pid) (st : Streams)
    (w : Work (Task U.State) α) (Q : α → Bytes → Prop) : Prop :=
  ∃ a rest n, w p m = .finished a n ∧ n.processes = m.processes ∧ n.refusals = m.refusals ∧
    st.Unseen m.store n.store ∧ n.Attached p st rest ∧ Q a rest

namespace Machine.Covert

theorem bind {f : α → Work (Task U.State) β} {R : β → Bytes → Prop} (h : m.Covert p st w Q)
    (hf : ∀ (n : Machine (Task U.State)) a rest, n.Attached p st rest → Q a rest →
      n.Covert p st (f a) R) :
    m.Covert p st (w >>= f) R := by
  obtain ⟨a, rest, n, hw, hprocesses, hrefusals, hunseen, hn, hQ⟩ := h
  obtain ⟨b, rest', n', hb, hprocesses', hrefusals', hunseen', hn', hR⟩ := hf n a rest hn hQ
  exact ⟨b, rest', n', Work.bind_finished.mpr ⟨a, n, hw, hb⟩, hprocesses'.trans hprocesses,
    hrefusals'.trans hrefusals, hunseen.trans hunseen', hn', hR⟩

theorem mono {R : α → Bytes → Prop} (h : m.Covert p st w Q)
    (hR : ∀ a rest, Q a rest → R a rest) : m.Covert p st w R := by
  obtain ⟨a, rest, n, hw, hprocesses, hrefusals, hunseen, hn, hQ⟩ := h
  exact ⟨a, rest, n, hw, hprocesses, hrefusals, hunseen, hn, hR a rest hQ⟩

end Machine.Covert

namespace Machine.Attached

theorem covert_pure (ha : m.Attached p st rest) {a : α} (hQ : Q a rest) :
    m.Covert p st (pure a) Q :=
  ⟨a, rest, m, rfl, rfl, rfl, .refl st m.store, ha, hQ⟩

/-- Reading cannot be seen. -/
theorem covert_of_yields (ha : m.Attached p st rest) (hinput : st.input.isSome = true)
    (h : m.Yields p st w Q) : m.Covert p st w Q := by
  obtain ⟨a, rest', n, hw, hdrains, hfeeds, hQ⟩ := h
  have hn := ha.drains hinput hdrains hfeeds
  obtain ⟨offset, waiting, -, rfl⟩ := hdrains
  exact ⟨a, rest', _, hw, rfl, rfl, .drained st m.store offset waiting, hn, hQ⟩

/-- A call that leaves the process as it was and changes nothing that can be seen. -/
theorem covert_call (ha : m.Attached p st rest) {c : Call} {R : c.Reply → Prop}
    (hc : c.isOnTable = false)
    (h : ∀ proc, m.processes[p]? = some proc → st.isDiscreet m.store proc.context c = true ∧
      ∃ reply store,
        c.perform m.store proc.context m.held (Pid.number p) (m.parentNumber proc) =
          .done reply store proc.context ∧ st.Unseen m.store store ∧ R reply) :
    m.Covert p st (Calling.call c) fun reply rest' => R reply ∧ rest' = rest := by
  obtain ⟨proc, hp, -⟩ := ha.attended
  obtain ⟨hdiscreet, reply, store, hdone, hunseen, hR⟩ := h proc hp
  have hself : { m with store }.setProcess p { proc with context := proc.context } =
      { m with store } := setProcess_self (by exact hp)
  have hn := (ha.call hp hc hdiscreet hdone).2
  rw [hself] at hn
  exact ⟨reply, rest, _, Work.call_finished.mpr ⟨proc, _, _, hp, hdone, hself.symm⟩, rfl, rfl,
    hunseen, hn, hR, rfl⟩

theorem covert_environment (ha : m.Attached p st rest) :
    m.Covert p st (Calling.call .environment) fun _ rest' => rest' = rest :=
  (ha.covert_call (R := fun _ => True) rfl fun _ _ =>
    ⟨rfl, _, m.store, rfl, .refl st m.store, trivial⟩).mono fun _ _ h => h.2

theorem covert_note (ha : m.Attached p st rest) (level : Level) (message : Bytes) :
    m.Covert p st (Calling.note level message) fun _ rest' => rest' = rest :=
  (ha.covert_call (c := .note level message) (R := fun _ => True) rfl fun _ _ =>
    ⟨rfl, _, _, rfl, .note ha.journal _ level message, trivial⟩).mono fun _ _ h => h.2

/-! ## Printing -/

theorem covert_write (ha : m.Attached p st rest) (hinput : st.input.isSome = true) {fd : Fd}
    (hfd : fd = Fd.stdout ∨ fd = Fd.stderr) (data : Bytes) :
    m.Covert p st (Calling.call (.write fd data)) fun reply rest' =>
      (reply = .ok data.length ∨ reply = .error .badDescriptor) ∧ rest' = rest :=
  have huses := ha.uses hinput
  ha.covert_call (c := .write fd data) rfl fun _ hp =>
    ⟨ha.isDiscreet_write hp hfd data, Streams.Unseen.write m.held data
      (fun _ _ hd => huses.object_of_output hp hfd hd) huses.room⟩

/-- A piece is written in one call. -/
theorem covert_writePiece (ha : m.Attached p st rest) (hinput : st.input.isSome = true) {fd : Fd}
    (hfd : fd = Fd.stdout ∨ fd = Fd.stderr) (fuel : Nat) (piece : Bytes) :
    m.Covert p st (Console.writePiece fd fuel piece) fun result rest' =>
      result = .ok () ∧ rest' = rest := by
  cases fuel with
  | zero => exact ha.covert_pure ⟨rfl, rfl⟩
  | succ fuel =>
    unfold Console.writePiece
    split
    · exact ha.covert_pure ⟨rfl, rfl⟩
    · next hpiece =>
      refine (ha.covert_write hinput hfd piece).bind ?_
      rintro n reply _ hn ⟨hreply, rfl⟩
      have hleft : Console.left piece reply = .ok [] := by
        rcases hreply with rfl | rfl
        · cases piece with
          | nil => simp at hpiece
          | cons b bs => simp [Console.left]
        · rfl
      rw [hleft]
      have hnothing : (Console.writePiece fd fuel [] : Work (Task U.State) _) = pure (.ok ()) := by
        cases fuel <;> rfl
      dsimp only
      rw [hnothing]
      exact hn.covert_pure ⟨rfl, rfl⟩

/-- All is written in one call. -/
theorem covert_writeAll (ha : m.Attached p st rest) (hinput : st.input.isSome = true) {fd : Fd}
    (hfd : fd = Fd.stdout ∨ fd = Fd.stderr) (data : Bytes) :
    m.Covert p st (Calling.writeAll fd data) fun result rest' =>
      (result = .ok () ∨ result = .error .badDescriptor) ∧ rest' = rest := by
  unfold Calling.writeAll Calling.writeFrom
  split
  · exact ha.covert_pure ⟨Or.inl rfl, rfl⟩
  · refine (ha.covert_write hinput hfd data).bind ?_
    rintro n reply _ hn ⟨rfl | rfl, rfl⟩
    · have hnothing : (Calling.writeFrom fd data.length (data.drop data.length) :
          Work (Task U.State) _) = pure (.ok ()) := by
        rw [List.drop_length]
        cases data.length <;> rfl
      dsimp only
      rw [hnothing]
      exact hn.covert_pure ⟨Or.inl rfl, rfl⟩
    · exact hn.covert_pure ⟨Or.inr rfl, rfl⟩

theorem covert_writePieces (ha : m.Attached p st rest) (hinput : st.input.isSome = true) {fd : Fd}
    (hfd : fd = Fd.stdout ∨ fd = Fd.stderr) (pieces : List Bytes) :
    m.Covert p st (Console.writePieces fd pieces) fun result rest' =>
      result = .ok () ∧ rest' = rest := by
  induction pieces generalizing m with
  | nil => exact ha.covert_pure ⟨rfl, rfl⟩
  | cons piece pieces ih =>
    refine (ha.covert_writePiece hinput hfd _ piece).bind ?_
    rintro n _ _ hn ⟨rfl, rfl⟩
    exact ih hn

/-- What a session prints cannot be seen, and there is room for it. -/
theorem covert_print (ha : m.Attached p st rest) (hinput : st.input.isSome = true)
    (console : Console) {fd : Fd} (hfd : fd = Fd.stdout ∨ fd = Fd.stderr) (text : Bytes) :
    m.Covert p st (console.print fd text) fun _ rest' => rest' = rest := by
  refine (ha.covert_writePieces hinput hfd (console.pieces fd text)).bind ?_
  rintro n _ _ hn ⟨rfl, rfl⟩
  exact hn.covert_pure rfl

end Machine.Attached

/-! ## Talk -/

section Talk

open Interactive (Talk)

variable {e : Editor (Task U.State)}

/-- Work of a session that remembers does not change what it remembers. -/
theorem Machine.Covert.lift {a : Type} {w : Work (Task U.State) a} {R : a → Bytes → Prop}
    (h : m.Covert p st w R) (s : Interactive e) :
    m.Covert p st ((liftM w : Talk e a) s) fun found rest' => found.2 = s ∧ R found.1 rest' := by
  refine h.bind ?_
  rintro n found rest' hn hR
  exact hn.covert_pure ⟨rfl, hR⟩

end Talk

end PipeShell
