import Mathlib.Algebra.Order.BigOperators.Group.List
import PipeShell.Proofs.Command.Words
import PipeShell.Proofs.Machine.Heedless
import PipeShell.Proofs.Shell.Lines
import PipeShell.Proofs.Text.Trimming
import PipeShell.Proofs.Text.Utf8
import PipeShell.Shell.LineSource

/-!
# The lines of an input

Two readers take lines off standard input. The one reads byte by byte and leaves what comes after
the line, the other one reads blocks ahead. When standard input is a file or a pipe of which `rest`
was not read yet (`Machine.Feeds`), both give the same lines, and neither changes anything but how
far it was read (`Machine.Yields`): a line up to a line feed comes without it and without a carriage
return before it (`LineSource.next_line`, `LineSource.nextText_line`).

A last line that is not terminated keeps its carriage return if the text is read in blocks
(`LineSource.next_last`, `LineSource.nextText_last`). Such a line asks for the same
(`Request.ofLine_append_return`).
-/

namespace PipeShell

/-! ## Carriage returns -/

theorem Token.body_append_blank {b : UInt8} (hb : isBlank b = true) (line : Bytes) :
    body (line ++ [b]) = body line := by
  induction line using line_cases with
  | nil => exact body_cons_blank hb []
  | blank c rest hc ih => rw [List.cons_append, body_cons_blank hc, ih, body_cons_blank hc]
  | symbol c t rest ht ih => rw [List.cons_append, body_cons_symbol ht, ih, body_cons_symbol ht]
  | word w rest hw hrest ih =>
    have hends : endsWord (rest ++ [b]) = true := by
      cases rest with
      | nil => simp [endsWord, isWordByte, hb]
      | cons c rest => exact hrest
    rw [List.append_assoc, body_word hw hends, ih, body_word hw hrest]

namespace Request

theorem afterCd?_append_return (line : Bytes) :
    afterCd? (line ++ [0x0D]) = (afterCd? line).map (· ++ [0x0D]) := by
  refine Option.ext fun path => ?_
  simp only [Option.map_eq_some_iff, afterCd?_eq_some]
  rcases line with _ | ⟨a, _ | ⟨b, _ | ⟨c, rest⟩⟩⟩ <;> simp [and_assoc]

/-- A carriage return at the end of a line asks for nothing else. -/
theorem ofLine_append_return (line : Bytes) : ofLine (line ++ [0x0D]) = ofLine line := by
  have htrim (bytes : Bytes) : Text.trimAscii (bytes ++ [0x0D]) = Text.trimAscii bytes :=
    Text.trimBy_append rfl bytes
  have hparse : Command.parse (line ++ [0x0D]) = Command.parse line := by
    rw [Command.parse_eq, Command.parse_eq, Token.body_append_blank rfl]
  rw [ofLine, ofLine, htrim, afterCd?_append_return, hparse]
  cases afterCd? line with
  | none => rfl
  | some path => simp only [Option.map_some, htrim]

end Request

namespace LineSource

variable {line : Bytes}

/-! ## Texts -/

theorem takeBack_of_notMem (kept : Bytes) (sizes : List UInt8) {parts : List (List Char)}
    (h : backspace ∉ parts) :
    takeBack kept sizes parts = (Utf8.encode parts.flatten).reverse ++ kept := by
  induction parts generalizing kept sizes with
  | nil => rfl
  | cons part parts ih =>
    rw [List.mem_cons, not_or] at h
    obtain ⟨hpart, hparts⟩ := h
    simp [takeBack, Ne.symm hpart, ih _ _ hparts, Utf8.encode]

/-- A text without backspaces stays as it is. -/
theorem withoutBackspaces_of_notMem (hvalid : Utf8.isValid line = true) (h : 0x08 ∉ line) :
    withoutBackspaces line = line := by
  have hclusters : backspace ∉ Text.Grapheme.clusters (Utf8.chars line) := by
    intro hmem
    refine h (Utf8.mem_of_mem_chars hvalid (c := '\x08') ?_ (by decide))
    rw [← Text.Grapheme.flatten_clusters (Utf8.chars line)]
    exact List.mem_flatten.mpr ⟨_, hmem, List.mem_singleton.mpr rfl⟩
  rw [withoutBackspaces, takeBack_of_notMem _ _ hclusters, List.append_nil, List.reverse_reverse,
    Text.Grapheme.flatten_clusters, Utf8.encode_chars hvalid]

theorem isValid_stripReturn (h : Utf8.isValid line = true) :
    Utf8.isValid (stripReturn line) = true := by
  rw [stripReturn]
  split
  · next hlast =>
    obtain ⟨front, rfl⟩ := List.getLast?_eq_some_iff.mp hlast
    rw [Utf8.isValid_append_ascii (by decide), Bool.and_eq_true] at h
    rw [List.dropLast_concat]
    exact h.1
  · exact h

theorem mem_of_mem_stripReturn {b : UInt8} (h : b ∈ stripReturn line) : b ∈ line := by
  rw [stripReturn] at h
  split at h
  · exact List.mem_of_mem_dropLast h
  · exact h

end LineSource

/-! ## Standard input -/

/-- What was not read yet of what is open through a description. -/
def Store.unread? (s : Store) (d : Description) : Option Bytes :=
  match d.object with
  | .node node =>
    match s.files.node? node with
    | some (.file _ data) => some (data.drop d.offset)
    | _ => none
  | .readEnd pipe => s.pipes[pipe]?
  | .writeEnd _ => none

/-- The store with standard input read up to somewhere else. -/
def Streams.drained (st : Streams) (s : Store) (offset : Nat) (waiting : Bytes) : Store :=
  { s with
    descriptions := match st.input with
      | some id => s.descriptions.modify id fun d => { d with offset }
      | none => s.descriptions
    pipes := match st.source with
      | some (.readEnd pipe) => s.pipes.set pipe waiting
      | _ => s.pipes }

theorem Streams.getElem?_drained (st : Streams) (s : Store) (offset : Nat) (waiting : Bytes)
    (id : DescriptionId) :
    (st.drained s offset waiting).descriptions[id]? = (s.descriptions[id]?).map fun d =>
      if st.input = some id then { d with offset } else d := by
  unfold drained
  cases st.input with
  | none => simp
  | some input => simp only [List.getElem?_modify, Option.map_eq_map, Option.some.injEq]

theorem Streams.length_pipes_drained (st : Streams) (s : Store) (offset : Nat) (waiting : Bytes) :
    (st.drained s offset waiting).pipes.length = s.pipes.length := by
  simp only [drained]
  split
  · exact List.length_set
  · rfl

theorem Streams.grows_drained (st : Streams) (s : Store) (offset : Nat) (waiting : Bytes) :
    s.Grows (st.drained s offset waiting) := by
  refine ⟨fun id d hd => ?_, Nat.le_of_eq (st.length_pipes_drained s offset waiting).symm⟩
  rw [getElem?_drained, hd]
  refine ⟨_, rfl, ?_⟩
  split <;> rfl

theorem Streams.drained_drained (st : Streams) (s : Store) (offset offset' : Nat)
    (waiting waiting' : Bytes) :
    st.drained (st.drained s offset waiting) offset' waiting' = st.drained s offset' waiting' := by
  obtain ⟨input, source, outputs⟩ := st
  rcases source with _ | _ | _ | _ <;> cases input <;>
    simp only [drained, List.modify_modify_eq, List.set_set] <;> rfl

theorem Store.modify_offset {s : Store} {id : DescriptionId} {d : Description}
    (hd : s.descriptions[id]? = some d) (offset : Nat) :
    s.descriptions.modify id (fun d => { d with offset }) =
      s.descriptions.set id { d with offset } := by
  rw [List.modify_eq_set_getElem?, hd]
  rfl

theorem Store.modify_offset_self {s : Store} {id : DescriptionId} {d : Description}
    (hd : s.descriptions[id]? = some d) :
    s.descriptions.modify id (fun d' => { d' with offset := d.offset }) = s.descriptions := by
  rw [modify_offset hd]
  obtain ⟨hlt, rfl⟩ := List.getElem?_eq_some_iff.mp hd
  exact List.set_getElem_self hlt

/-- Standard input is not read beyond the end of a file. -/
def Streams.Within (st : Streams) (s : Store) (offset : Nat) : Prop :=
  ∀ id d node mode data, st.input = some id → s.descriptions[id]? = some d →
    st.source = some (.node node) → s.files.node? node = some (.file mode data) →
    offset ≤ max d.offset data.length

theorem Streams.Within.trans {st : Streams} {s : Store} {offset offset' : Nat} {waiting : Bytes}
    (h : st.Within s offset) (h' : st.Within (st.drained s offset waiting) offset') :
    st.Within s offset' := by
  intro id d node mode data hinput hd hsource hnode
  have hd' : (st.drained s offset waiting).descriptions[id]? = some { d with offset } := by
    rw [getElem?_drained, hd, Option.map_some, if_pos hinput]
  have hle := h id d node mode data hinput hd hsource hnode
  have hle' := h' id _ node mode data hinput hd' hsource hnode
  exact Nat.le_trans hle' (max_le hle (Nat.le_max_right _ _))

namespace Machine

variable {κ : Type} {m m' m'' : Machine κ} {p : Pid} {st : Streams} {rest : Bytes}

/-- At most standard input was read up to somewhere else. -/
def Drains (st : Streams) (m m' : Machine κ) : Prop :=
  ∃ offset waiting, st.Within m.store offset ∧
    m' = { m with store := st.drained m.store offset waiting }

theorem Drains.trans (h : Drains st m m') (h' : Drains st m' m'') : Drains st m m'' := by
  obtain ⟨_, _, hwithin, rfl⟩ := h
  obtain ⟨offset, waiting, hwithin', rfl⟩ := h'
  exact ⟨offset, waiting, hwithin.trans hwithin', by simp only [Streams.drained_drained]⟩

/-- Standard input of process `p` is one of the streams, and `rest` is what was not read of it yet.
Nobody could write to the pipe that it comes from. -/
structure Feeds (m : Machine κ) (p : Pid) (st : Streams) (rest : Bytes) : Prop where
  process : ∃ proc e, m.processes[p]? = some proc ∧
    proc.context.descriptors.get Fd.stdin = some e ∧ st.input = some e.description
  unread : ∃ id d, st.input = some id ∧ m.store.descriptions[id]? = some d ∧ d.readable = true ∧
    st.source = some d.object ∧ m.store.unread? d = some rest
  quiet : st.Quiet m

/-- Work that changes nothing but how far standard input of process `p` was read; what it gives and
what it leaves are as `Q` says. -/
def Yields {α : Type} (m : Machine κ) (p : Pid) (st : Streams) (w : Work κ α)
    (Q : α → Bytes → Prop) : Prop :=
  ∃ a rest m', w p m = .finished a m' ∧ Drains st m m' ∧ m'.Feeds p st rest ∧ Q a rest

variable {α β : Type} {w : Work κ α} {Q : α → Bytes → Prop}

theorem Drains.refl (h : m.Feeds p st rest) : Drains st m m := by
  obtain ⟨id, d, hinput, hd, -, hsource, hunread⟩ := h.unread
  refine ⟨d.offset, rest, fun id' d' node mode data hinput' hd' _ _ => ?_, ?_⟩
  · obtain rfl := Option.some.inj (hinput.symm.trans hinput')
    obtain rfl := Option.some.inj (hd.symm.trans hd')
    exact Nat.le_max_left _ _
  have hstore : st.drained m.store d.offset rest = m.store := by
    unfold Streams.drained
    simp only [hinput, hsource, Store.modify_offset_self hd]
    unfold Store.unread? at hunread
    cases hobject : d.object with
    | readEnd pipe =>
      simp only [hobject] at hunread ⊢
      obtain ⟨hpipe, rfl⟩ := List.getElem?_eq_some_iff.mp hunread
      rw [List.set_getElem_self]
    | _ => rfl
  rw [hstore]

theorem Feeds.yields (h : m.Feeds p st rest) {a : α} (hw : w p m = .finished a m)
    (hQ : Q a rest) : m.Yields p st w Q :=
  ⟨a, rest, m, hw, .refl h, h, hQ⟩

theorem Feeds.pure (h : m.Feeds p st rest) {a : α} (hQ : Q a rest) : m.Yields p st (pure a) Q :=
  h.yields rfl hQ

theorem Yields.bind {f : α → Work κ β} {R : β → Bytes → Prop} (h : m.Yields p st w Q)
    (hf : ∀ (m' : Machine κ) a rest, m'.Feeds p st rest → Q a rest → m'.Yields p st (f a) R) :
    m.Yields p st (w >>= f) R := by
  obtain ⟨a, rest, m', hw, hdrains, hfeeds, hQ⟩ := h
  obtain ⟨b, rest', m'', hb, hdrains', hfeeds', hR⟩ := hf m' a rest hfeeds hQ
  exact ⟨b, rest', m'', Work.bind_finished.mpr ⟨a, m', hw, hb⟩, hdrains.trans hdrains', hfeeds', hR⟩

theorem Yields.imp {R : α → Bytes → Prop} (h : m.Yields p st w Q)
    (hR : ∀ a rest, Q a rest → R a rest) : m.Yields p st w R := by
  obtain ⟨a, rest, m', hw, hdrains, hfeeds, hQ⟩ := h
  exact ⟨a, rest, m', hw, hdrains, hfeeds, hR a rest hQ⟩

/-- Everybody has the same open as before standard input was read. -/
theorem held_drained (m : Machine κ) (st : Streams) (offset : Nat) (waiting : Bytes) :
    ({ m with store := st.drained m.store offset waiting } : Machine κ).held = m.held := by
  funext object
  simp only [held]
  congr 1
  funext proc
  simp only [Holds]
  congr 1
  funext id
  rw [Streams.getElem?_drained]
  cases m.store.descriptions[id]? with
  | none => rfl
  | some d =>
    simp only [Option.map_some]
    split <;> rfl

theorem Feeds.description? (h : m.Feeds p st rest) :
    ∃ proc id d, m.processes[p]? = some proc ∧ st.input = some id ∧
      m.store.description? proc.context Fd.stdin = some (id, d) ∧ d.readable = true ∧
      st.source = some d.object ∧ m.store.unread? d = some rest := by
  obtain ⟨proc, e, hp, he, hinput⟩ := h.process
  obtain ⟨id, d, hid, hd, hread⟩ := h.unread
  obtain rfl := Option.some.inj (hid.symm.trans hinput)
  refine ⟨proc, _, d, hp, hid, ?_, hread⟩
  rw [Store.description?, he]
  simp only [hd, Option.map_some]

/-- Reading that changes nothing but how far standard input was read. -/
theorem Feeds.of_read (h : m.Feeds p st rest) {q : Pid} {proc : Process κ} {fd : Fd}
    {id : DescriptionId} {d : Description} (hq : m.processes[q]? = some proc)
    (hinput : st.input = some id)
    (hd : m.store.description? proc.context fd = some (id, d)) {count : Nat}
    (offset : Nat) (hwithin : st.Within m.store offset) (waiting : Bytes)
    (hread : m.store.read proc.context m.held fd count =
      .done (.ok (rest.take count)) (st.drained m.store offset waiting) proc.context)
    (hunread : (st.drained m.store offset waiting).unread? { d with offset } =
      some (rest.drop count)) :
    ∃ m', (Calling.call (.read fd count) : Work κ _) q m = .finished (.ok (rest.take count)) m' ∧
      Drains st m m' ∧ m'.Feeds p st (rest.drop count) := by
  obtain ⟨id', d', hinput', hd', hreadable, hsource, -⟩ := h.unread
  obtain rfl := Option.some.inj (hinput'.symm.trans hinput)
  obtain rfl : d' = d :=
    Option.some.inj (hd'.symm.trans (Store.objectOf?_of_description? hd).1)
  refine ⟨_, Work.call_finished.mpr ⟨proc, _, _, hq, hread, ?_⟩, ⟨offset, waiting, hwithin, rfl⟩,
    ⟨h.process, ⟨id', { d' with offset }, hinput, ?_, hreadable, hsource, hunread⟩, ?_⟩⟩
  · exact (setProcess_self (by exact hq)).symm
  · rw [Streams.getElem?_drained, hd', Option.map_some, if_pos hinput]
  · intro pipe hpipe
    rw [held_drained]
    exact h.quiet pipe hpipe

/-- Whoever reads from the open file that is standard input gets what comes next. -/
theorem Feeds.read_by (h : m.Feeds p st rest) {q : Pid} {proc : Process κ} {fd : Fd}
    {id : DescriptionId} {d : Description} (hq : m.processes[q]? = some proc)
    (hinput : st.input = some id)
    (hdescription : m.store.description? proc.context fd = some (id, d)) (count : Nat) :
    ∃ m', (Calling.call (.read fd count) : Work κ _) q m = .finished (.ok (rest.take count)) m' ∧
      Drains st m m' ∧ m'.Feeds p st (rest.drop count) := by
  obtain ⟨hd, -⟩ := Store.objectOf?_of_description? hdescription
  obtain ⟨id', d', hinput', hd', hreadable, hobject, hunread⟩ := h.unread
  obtain rfl := Option.some.inj (hinput'.symm.trans hinput)
  obtain rfl := Option.some.inj (hd'.symm.trans hd)
  unfold Store.unread? at hunread
  cases hsource : d'.object with
  | node node =>
    simp only [hsource] at hunread
    split at hunread
    · next mode data hnode =>
      cases hunread
      let found := (data.drop d'.offset).take count
      have hrest : data.drop (d'.offset + found.length) = (data.drop d'.offset).drop count := by
        simp only [List.drop_drop, found, List.length_take, List.length_drop]
        rcases Nat.le_total count (data.length - d'.offset) with hle | hle
        · rw [Nat.min_eq_left hle]
        · rw [Nat.min_eq_right hle, List.drop_eq_nil_of_le (by omega),
            List.drop_eq_nil_of_le (by omega)]
      refine h.of_read hq hinput hdescription (d'.offset + found.length) ?_ [] ?_ ?_
      · intro id'' d'' node' mode' data' hinput'' hd'' hnode' hdata
        obtain rfl := Option.some.inj (hinput.symm.trans hinput'')
        obtain rfl := Option.some.inj (hd.symm.trans hd'')
        obtain rfl : node = node' := Object.node.inj
          (hsource.symm.trans (Option.some.inj (hobject.symm.trans hnode')))
        cases hnode.symm.trans hdata
        simp only [found, List.length_take, List.length_drop]
        omega
      · simp [Store.read, hdescription, hreadable, hsource, hnode, Store.seek, Streams.drained,
          Store.modify_offset hd, hinput, hobject, found]
      · simp only [Store.unread?, hsource, Streams.drained, hnode, hrest]
    · cases hunread
  | readEnd pipe =>
    simp only [hsource] at hunread
    obtain ⟨hlt, hrest⟩ := List.getElem?_eq_some_iff.mp hunread
    have hquiet : m.held (.writeEnd pipe) = false :=
      h.quiet pipe (by simp [Streams.isSource, hobject, hsource])
    refine h.of_read hq hinput hdescription d'.offset ?_ (rest.drop count) ?_ ?_
    · intro _ _ node _ _ _ _ hnode _
      cases hsource.symm.trans (Option.some.inj (hobject.symm.trans hnode))
    · simp only [Store.read, hdescription, hreadable, hsource, Bool.not_true, Bool.false_eq_true,
        if_false, hunread, Option.getD_some, Streams.drained, hinput, Store.modify_offset_self hd,
        hobject]
      cases rest with
      | nil =>
        have hset : m.store.pipes.set pipe [] = m.store.pipes := by
          rw [← hrest, List.set_getElem_self]
        simp only [hquiet, Bool.and_false, Bool.false_eq_true, if_false, List.take_nil,
          List.drop_nil, hset]
      | cons => rfl
    · simp only [Store.unread?, hsource, Streams.drained, hobject, List.getElem?_set_self hlt]
  | writeEnd pipe => simp [hsource] at hunread

/-- Reading gives what comes next. -/
theorem Feeds.read (h : m.Feeds p st rest) (count : Nat) :
    m.Yields p st (Calling.call (.read Fd.stdin count)) fun reply rest' =>
      reply = .ok (rest.take count) ∧ rest' = rest.drop count := by
  obtain ⟨proc, id, d, hp, hinput, hdescription, -⟩ := h.description?
  obtain ⟨m', hw, hdrains, hfeeds⟩ := h.read_by hp hinput hdescription count
  exact ⟨_, _, m', hw, hdrains, hfeeds, rfl, rfl⟩

/-- The bytes that were not read yet are among all there are. -/
theorem Feeds.volume (h : m.Feeds p st rest) :
    m.Yields p st Work.volume fun n rest' => rest' = rest ∧ rest.length ≤ n := by
  refine h.yields rfl ⟨rfl, ?_⟩
  obtain ⟨-, d, -, hd, -, -, hunread⟩ := h.unread
  change _ ≤ List.foldl (· + ·) 0 _
  rw [← List.sum_eq_foldl, List.sum_append]
  unfold Store.unread? at hunread
  split at hunread
  · next node _ =>
    split at hunread
    · next mode data hnode =>
      cases hunread
      refine Nat.le_trans ?_ (Nat.le_add_right _ _)
      refine Nat.le_trans ?_ (List.le_sum_of_mem (List.mem_map_of_mem (List.mem_of_getElem? hnode)))
      rw [List.length_drop]
      exact Nat.sub_le _ _
    · cases hunread
  · refine Nat.le_trans ?_ (Nat.le_add_left _ _)
    exact List.le_sum_of_mem (List.mem_map_of_mem (List.mem_of_getElem? hunread))
  · cases hunread

end Machine

namespace LineSource

open Machine

variable {κ : Type} {m : Machine κ} {p : Pid} {st : Streams} {before after rest ahead : Bytes}

/-! ## One byte at a time -/

theorem nextFrom_line (h : m.Feeds p st (before ++ 0x0A :: after)) (hb : 0x0A ∉ before)
    {fuel : Nat} (hfuel : before.length < fuel) (seen : Bytes) :
    m.Yields p st (nextFrom fuel seen) fun reply rest' =>
      reply = .ok (some (stripReturn (seen.reverse ++ before))) ∧ rest' = after := by
  induction before generalizing m fuel seen with
  | nil =>
    obtain ⟨fuel, rfl⟩ := Nat.exists_eq_add_one.mpr hfuel
    refine (h.read 1).bind ?_
    rintro m' _ _ h' ⟨rfl, rfl⟩
    exact h'.pure (by simp)
  | cons b before ih =>
    obtain ⟨fuel, rfl⟩ := Nat.exists_eq_add_one.mpr (Nat.zero_lt_of_lt hfuel)
    rw [List.mem_cons, not_or] at hb
    refine (h.read 1).bind ?_
    rintro m' _ _ h' ⟨rfl, rfl⟩
    have hnext := ih h' hb.2 (Nat.lt_of_succ_lt_succ hfuel) (b :: seen)
    simpa [Ne.symm hb.1] using hnext

theorem nextFrom_last (h : m.Feeds p st rest) (hrest : 0x0A ∉ rest) {fuel : Nat}
    (hfuel : rest.length < fuel) (seen : Bytes) :
    m.Yields p st (nextFrom fuel seen) fun reply rest' =>
      reply = .ok (lastLine (seen.reverse ++ rest)) ∧ rest' = [] := by
  induction rest generalizing m fuel seen with
  | nil =>
    obtain ⟨fuel, rfl⟩ := Nat.exists_eq_add_one.mpr hfuel
    refine (h.read 1).bind ?_
    rintro m' _ _ h' ⟨rfl, rfl⟩
    exact h'.pure (by simp)
  | cons b rest ih =>
    obtain ⟨fuel, rfl⟩ := Nat.exists_eq_add_one.mpr (Nat.zero_lt_of_lt hfuel)
    rw [List.mem_cons, not_or] at hrest
    refine (h.read 1).bind ?_
    rintro m' _ _ h' ⟨rfl, rfl⟩
    have hnext := ih h' hrest.2 (Nat.lt_of_succ_lt_succ hfuel) (b :: seen)
    simpa [Ne.symm hrest.1] using hnext

/-- The next line of a script that is terminated. -/
theorem next_line (h : m.Feeds p st (before ++ 0x0A :: after)) (hb : 0x0A ∉ before) :
    m.Yields p st next fun reply rest' =>
      reply = .ok (some (stripReturn before)) ∧ rest' = after := by
  refine h.volume.bind ?_
  rintro m' n _ h' ⟨rfl, hle⟩
  rw [List.length_append] at hle
  exact nextFrom_line h' hb (by omega) []

/-- The last line of a script that is not terminated. -/
theorem next_last (h : m.Feeds p st rest) (hrest : 0x0A ∉ rest) :
    m.Yields p st next fun reply rest' => reply = .ok (lastLine rest) ∧ rest' = [] := by
  refine h.volume.bind ?_
  rintro m' n _ h' ⟨rfl, hle⟩
  exact nextFrom_last h' hrest (by omega) []

/-! ## In blocks -/

theorem block_yields (h : m.Feeds p st rest) :
    m.Yields p st block fun reply rest' =>
      reply = .ok (rest.take aheadLimit) ∧ rest' = rest.drop aheadLimit := by
  refine (h.read aheadLimit).bind ?_
  rintro m' _ _ h' ⟨rfl, rfl⟩
  exact h'.pure ⟨rfl, rfl⟩

theorem takeWhile_feed (hb : 0x0A ∉ before) (after : Bytes) :
    (before ++ 0x0A :: after).takeWhile (· != 0x0A) = before := by
  rw [List.takeWhile_append_of_pos fun b hmem => by simpa using ne_of_mem_of_not_mem hmem hb]
  simp

theorem upToFeed_of_mem (fuel : Nat) (hb : 0x0A ∉ before) (after : Bytes) :
    upToFeed (κ := κ) (fuel + 1) (before ++ 0x0A :: after) =
      pure (.ok (before ++ [0x0A], after)) := by
  simp only [upToFeed, takeWhile_feed hb, List.drop_left]

/-- When all is used up that was read ahead, a block is read. At the end it is empty, and otherwise
reading goes on from it. -/
theorem upToFeed_block (h : m.Feeds p st rest) (ha : 0x0A ∉ ahead) {fuel : Nat}
    {Q : Except Errno (Bytes × Bytes) → Bytes → Prop} (hend : rest = [] → Q (.ok (ahead, [])) [])
    (hmore : ∀ m' : Machine κ, m'.Feeds p st (rest.drop aheadLimit) → rest ≠ [] →
      m'.Yields p st (upToFeed fuel (rest.take aheadLimit)) fun reply =>
        Q (reply.map fun (line, rest) => (ahead ++ line, rest))) :
    m.Yields p st (upToFeed (fuel + 1) ahead) Q := by
  have hahead : ahead.takeWhile (· != 0x0A) = ahead := by
    rw [List.takeWhile_eq_self_iff]
    intro b hmem
    simpa using ne_of_mem_of_not_mem hmem ha
  simp only [upToFeed, hahead, List.drop_length]
  refine (block_yields h).bind ?_
  rintro m' _ _ h' ⟨rfl, rfl⟩
  by_cases hne : rest = []
  · subst hne
    exact h'.pure (hend rfl)
  · cases hblock : rest.take aheadLimit with
    | nil => simp [aheadLimit, hne] at hblock
    | cons b more =>
      rw [hblock] at hmore
      exact (hmore m' h' hne).bind fun _ _ _ h'' hQ => h''.pure hQ

/-- What is read up to a line feed comes from what was read ahead and from what follows it. -/
theorem upToFeed_line (h : m.Feeds p st rest) (hline : ahead ++ rest = before ++ 0x0A :: after)
    (hb : 0x0A ∉ before) {fuel : Nat} (hfuel : rest.length < fuel) :
    m.Yields p st (upToFeed fuel ahead) fun reply rest' =>
      ∃ ahead', reply = .ok (before ++ [0x0A], ahead') ∧ ahead' ++ rest' = after := by
  induction fuel generalizing m ahead before rest with
  | zero => cases hfuel
  | succ fuel ih =>
    by_cases ha : 0x0A ∈ ahead
    · obtain ⟨before', ahead', rfl, hb'⟩ := List.eq_append_cons_of_mem ha
      rw [List.append_assoc, List.cons_append] at hline
      obtain rfl : before' = before := by
        rw [← takeWhile_feed hb' (ahead' ++ rest), hline, takeWhile_feed hb]
      rw [upToFeed_of_mem fuel hb']
      exact h.pure ⟨ahead', rfl, (List.cons.inj (List.append_cancel_left hline)).2⟩
    · obtain ⟨before', rfl, rfl⟩ : ∃ before', before = ahead ++ before' ∧
          rest = before' ++ 0x0A :: after := by
        rcases List.append_eq_append_iff.mp hline with ⟨c, hbefore, hrest⟩ | ⟨c, hahead, hrest⟩
        · exact ⟨c, hbefore, hrest⟩
        · cases c with
          | nil => exact ⟨[], by simpa using hahead.symm, by simpa using hrest.symm⟩
          | cons b c =>
            obtain ⟨rfl, -⟩ := List.cons.inj hrest
            exact absurd (by simp [hahead]) ha
      refine upToFeed_block h ha (by simp) fun m' h' _ => ?_
      refine (ih h' (List.take_append_drop _ _) (fun hmem => hb (List.mem_append_right _ hmem))
        ?_).imp ?_
      · simp only [List.length_drop, List.length_append, List.length_cons, aheadLimit] at hfuel ⊢
        omega
      · rintro _ rest' ⟨ahead', rfl, hafter⟩
        exact ⟨ahead', by simp [Except.map], hafter⟩

/-- Without a line feed, all is read. -/
theorem upToFeed_last (h : m.Feeds p st rest) (ha : 0x0A ∉ ahead) (hrest : 0x0A ∉ rest)
    {fuel : Nat} (hfuel : rest.length < fuel) :
    m.Yields p st (upToFeed fuel ahead) fun reply rest' =>
      reply = .ok (ahead ++ rest, []) ∧ rest' = [] := by
  induction fuel generalizing m ahead rest with
  | zero => cases hfuel
  | succ fuel ih =>
    refine upToFeed_block h ha (by rintro rfl; simp) fun m' h' hne => ?_
    refine (ih h' (fun hmem => hrest (List.mem_of_mem_take hmem))
      (fun hmem => hrest (List.mem_of_mem_drop hmem)) ?_).imp ?_
    · have hpos := List.length_pos_iff.mpr hne
      simp only [List.length_drop, aheadLimit]
      omega
    · rintro _ _ ⟨rfl, rfl⟩
      simp [Except.map]

/-- The next line of a text that is terminated. -/
theorem nextText_line (h : m.Feeds p st rest) (hline : ahead ++ rest = before ++ 0x0A :: after)
    (hb : 0x0A ∉ before) (hvalid : Utf8.isValid before = true) (hplain : 0x08 ∉ before) :
    m.Yields p st (nextText ahead) fun reply rest' =>
      ∃ ahead', reply = (.line (stripReturn before), ahead') ∧ ahead' ++ rest' = after := by
  refine h.volume.bind ?_
  rintro m' n _ h' ⟨rfl, hle⟩
  refine (upToFeed_line h' hline hb (by omega)).bind ?_
  rintro m'' _ rest' h'' ⟨ahead', rfl, hafter⟩
  have hvalid' : Utf8.isValid (before ++ [0x0A]) = true := by
    rw [Utf8.isValid_append_ascii (by decide), hvalid, Utf8.isValid_nil]
    rfl
  have htext : withoutBackspaces (chomp (before ++ [0x0A])) = stripReturn before := by
    rw [chomp, if_pos List.getLast?_concat, List.dropLast_concat]
    exact withoutBackspaces_of_notMem (isValid_stripReturn hvalid)
      fun hmem => hplain (mem_of_mem_stripReturn hmem)
  obtain ⟨b, line, hcons⟩ := List.exists_cons_of_ne_nil (List.concat_ne_nil 0x0A before)
  rw [hcons] at hvalid' htext ⊢
  simp only [hvalid', if_true, htext]
  exact h''.pure ⟨ahead', rfl, hafter⟩

/-- The last line of a text that is not terminated; none if there is nothing left. -/
theorem nextText_last (h : m.Feeds p st rest) (hfeed : 0x0A ∉ ahead ++ rest)
    (hvalid : Utf8.isValid (ahead ++ rest) = true) (hplain : 0x08 ∉ ahead ++ rest) :
    m.Yields p st (nextText ahead) fun reply rest' =>
      reply = (if ahead ++ rest = [] then .endOfInput else .line (ahead ++ rest), []) ∧
        rest' = [] := by
  refine h.volume.bind ?_
  rintro m' n rest h' ⟨rfl, hle⟩
  refine (upToFeed_last h' (fun hmem => hfeed (List.mem_append_left _ hmem))
    (fun hmem => hfeed (List.mem_append_right _ hmem)) (by omega)).bind ?_
  rintro m'' _ _ h'' ⟨rfl, rfl⟩
  generalize ahead ++ rest = line at hfeed hvalid hplain
  cases line with
  | nil => exact h''.pure ⟨rfl, rfl⟩
  | cons b line =>
    have htext : withoutBackspaces (chomp (b :: line)) = b :: line := by
      rw [chomp, if_neg fun hlast => hfeed (List.mem_of_getLast? hlast)]
      exact withoutBackspaces_of_notMem hvalid hplain
    simp only [hvalid, if_true, htext]
    exact h''.pure ⟨by simp, rfl⟩

end LineSource

end PipeShell
