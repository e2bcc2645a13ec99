import PipeShell.Proofs.Shell.Readers

/-!
# Lines of an input that is shared

Programs read from the same open file as the shell that started them, so where the shell stops
reading is where they begin, and the other way round. An input with the content `data` stands at an
offset (`Machine.StandsAt`), and `LineAt` says which line starts there and where the next one does.

However the shell's lines and the reading of others take turns, every line is the one at the offset
that the input stands at (`Use.Follows`). If nobody else reads, the shell gets all the lines of the
text, and after any number of them just what follows them is left (`LineSource.lines_exact`).
-/

namespace PipeShell

variable {κ : Type} {m m' : Machine κ} {p : Pid} {st : Streams} {data : Bytes}
  {offset offset' : Nat} {line : Option Bytes}

/-! ## Where an input stands -/

/-- How far something with the content `data` was read: a file up to its offset, while a pipe holds
what is left. -/
def Store.ReadUpTo (s : Store) (d : Description) (data : Bytes) (offset : Nat) : Prop :=
  match d.object with
  | .node node => d.offset = offset ∧ ∃ mode, s.files.node? node = some (.file mode data)
  | .readEnd pipe => s.pipes[pipe]? = some (data.drop offset)
  | .writeEnd _ => False

namespace Machine

/-- Process `q` has the open file that is standard input, under some number. -/
def Shares (m : Machine κ) (st : Streams) (q : Pid) (fd : Fd) : Prop :=
  ∃ proc e, m.processes[q]? = some proc ∧ proc.context.descriptors.get fd = some e ∧
    st.input = some e.description

/-- Standard input of process `p` is one of the streams, has the content `data` and was read up to
an offset. Nobody could write to the pipe that it comes from. -/
structure StandsAt (m : Machine κ) (p : Pid) (st : Streams) (data : Bytes) (offset : Nat) :
    Prop where
  process : m.Shares st p Fd.stdin
  position : ∃ id d, st.input = some id ∧ m.store.descriptions[id]? = some d ∧
    d.readable = true ∧ st.source = some d.object ∧ m.store.ReadUpTo d data offset
  le : offset ≤ data.length
  quiet : st.Quiet m

theorem StandsAt.feeds (h : m.StandsAt p st data offset) : m.Feeds p st (data.drop offset) := by
  obtain ⟨id, d, hinput, hd, hreadable, hobject, hposition⟩ := h.position
  refine ⟨h.process, ⟨id, d, hinput, hd, hreadable, hobject, ?_⟩, h.quiet⟩
  unfold Store.ReadUpTo at hposition
  unfold Store.unread?
  cases hd' : d.object with
  | node =>
    simp only [hd'] at hposition ⊢
    obtain ⟨rfl, mode, hnode⟩ := hposition
    simp only [hnode]
  | readEnd =>
    simp only [hd'] at hposition ⊢
    exact hposition
  | writeEnd => simp only [hd'] at hposition

/-- What is left tells how far an input was read, since nobody reads beyond the end. -/
theorem StandsAt.drains (h : m.StandsAt p st data offset) (hdrains : Drains st m m')
    (hfeeds : m'.Feeds p st (data.drop offset')) (hle : offset' ≤ data.length) :
    m'.StandsAt p st data offset' := by
  obtain ⟨id, d, hinput, hd, -, hobject, hposition⟩ := h.position
  obtain ⟨id', d', hinput', hd', hreadable', hobject', hunread'⟩ := hfeeds.unread
  refine ⟨hfeeds.process, ⟨id', d', hinput', hd', hreadable', hobject', ?_⟩, hle, hfeeds.quiet⟩
  obtain rfl := Option.some.inj (hinput.symm.trans hinput')
  obtain ⟨position, waiting, hwithin, rfl⟩ := hdrains
  rw [Streams.getElem?_drained, hd, Option.map_some, if_pos hinput, Option.some.injEq] at hd'
  subst hd'
  unfold Store.ReadUpTo at hposition ⊢
  unfold Store.unread? at hunread'
  cases hsource : d.object with
  | node node =>
    simp only [hsource] at hposition hunread' ⊢
    obtain ⟨rfl, mode, hnode⟩ := hposition
    have hnode' : (st.drained m.store position waiting).files.node? node = some (.file mode data) :=
      hnode
    rw [hnode', Option.some.injEq] at hunread'
    have hbound := hwithin id d node mode data hinput hd (hobject.trans (congrArg some hsource))
      hnode
    have hlength := congrArg List.length hunread'
    rw [List.length_drop, List.length_drop] at hlength
    have hstart := h.le
    exact ⟨by omega, mode, hnode⟩
  | readEnd pipe =>
    simp only [hsource] at hunread' ⊢
    exact hunread'
  | writeEnd pipe => simp only [hsource] at hposition

/-- Only what is left of standard input changes for those who share it. -/
theorem Shares.drains {q : Pid} {fd : Fd} (h : m.Shares st q fd) (hdrains : Drains st m m') :
    m'.Shares st q fd := by
  obtain ⟨_, _, -, rfl⟩ := hdrains
  exact h

end Machine

/-! ## One line -/

/-- The line that starts at an offset, and the offset after it: a line ends at the next line feed,
or where the data end. There is none at the end of the data. -/
inductive LineAt (data : Bytes) (offset : Nat) : Option Bytes → Nat → Prop
  | terminated (before after : Bytes) (hdata : data.drop offset = before ++ 0x0A :: after)
    (hfirst : 0x0A ∉ before) :
    LineAt data offset (some (LineSource.stripReturn before)) (offset + before.length + 1)
  | unterminated (hlt : offset < data.length) (hlast : 0x0A ∉ data.drop offset) :
    LineAt data offset (some (LineSource.stripReturn (data.drop offset))) data.length
  | ended (hend : offset = data.length) : LineAt data offset none data.length

namespace LineAt

/-- There is always a line unless all was read. -/
theorem eq_none_iff (h : LineAt data offset line offset') : line = none ↔ offset = data.length := by
  cases h with
  | terminated before after hdata =>
    refine ⟨fun heq => (by cases heq), fun heq => ?_⟩
    rw [heq, List.drop_length] at hdata
    simp at hdata
  | unterminated hlt =>
    exact ⟨fun heq => (by cases heq), fun heq => absurd heq (Nat.ne_of_lt hlt)⟩
  | ended hend => exact ⟨fun _ => hend, fun _ => rfl⟩

theorem le (h : LineAt data offset line offset') : offset' ≤ data.length := by
  cases h with
  | terminated before after hdata =>
    have hlength := congrArg List.length hdata
    simp only [List.length_drop, List.length_append, List.length_cons] at hlength
    omega
  | unterminated | ended => exact Nat.le_refl _

end LineAt

/-- After a line feed, what is left begins one further. -/
theorem drop_after_feed {before after : Bytes} (h : data.drop offset = before ++ 0x0A :: after) :
    data.drop (offset + before.length + 1) = after := by
  rw [Nat.add_assoc, ← List.drop_drop, h, ← List.drop_drop, List.drop_left]
  rfl

namespace LineSource

open Machine

/-- The shell gets the line at the offset that its input stands at, and leaves the input after it.
-/
theorem next_at (h : m.StandsAt p st data offset) :
    ∃ line offset' m', (next : Work κ _) p m = .finished (.ok line) m' ∧
      LineAt data offset line offset' ∧ Drains st m m' ∧ m'.StandsAt p st data offset' := by
  by_cases hfeed : 0x0A ∈ data.drop offset
  · obtain ⟨before, after, hdata, hfirst⟩ := List.eq_append_cons_of_mem hfeed
    have hline := LineAt.terminated before after hdata hfirst
    obtain ⟨_, rest, m', hw, hdrains, hfeeds, rfl, rfl⟩ := next_line (hdata ▸ h.feeds) hfirst
    rw [← drop_after_feed hdata] at hfeeds
    exact ⟨_, _, m', hw, hline, hdrains, h.drains hdrains hfeeds hline.le⟩
  · obtain ⟨_, rest, m', hw, hdrains, hfeeds, rfl, rfl⟩ := next_last h.feeds hfeed
    rw [← List.drop_length (l := data)] at hfeeds
    refine ⟨_, data.length, m', hw, ?_, hdrains, h.drains hdrains hfeeds (Nat.le_refl _)⟩
    rcases Nat.lt_or_eq_of_le h.le with hlt | heq
    · have hne : (data.drop offset).isEmpty = false := by simp [hlt]
      rw [lastLine, hne]
      exact .unterminated hlt hfeed
    · subst heq
      rw [lastLine, List.drop_length]
      exact .ended rfl

end LineSource

/-! ## Taking turns -/

/-- One use of an input. -/
inductive Use
  /-- The shell takes a line. -/
  | line
  /-- Process `q` reads at most `count` bytes through its descriptor `fd`. -/
  | bytes (q : Pid) (fd : Fd) (count : Nat)
deriving DecidableEq, Repr

/-- What a use gives. -/
inductive Gain
  | line (reply : Except Errno (Option Bytes))
  | bytes (reply : Except Errno Bytes)
deriving DecidableEq

namespace Use

/-- What is done in a use. -/
def work : Use → Work κ Gain
  | .line => do return .line (← LineSource.next)
  | .bytes q fd count => fun _ m =>
    (do return .bytes (← Calling.call (.read fd count)) : Work κ Gain) q m

/-- One use after the other. -/
def all : List Use → Work κ (List Gain)
  | [] => return []
  | use :: uses => do
    let gain ← use.work
    return gain :: (← all uses)

/-- What the uses of an input give that stands at an offset, and where it stands afterwards: the
shell gets the line at the offset of the moment, and others get the bytes that are there. -/
inductive Follows (data : Bytes) : Nat → List Use → List Gain → Nat → Prop
  | nil (offset : Nat) : Follows data offset [] [] offset
  | line {offset offset' last : Nat} {line : Option Bytes} {uses : List Use} {gains : List Gain}
    (hline : LineAt data offset line offset') (h : Follows data offset' uses gains last) :
    Follows data offset (.line :: uses) (.line (.ok line) :: gains) last
  | bytes {offset last : Nat} (q : Pid) (fd : Fd) (count : Nat) {uses : List Use}
    {gains : List Gain} (h : Follows data (min (offset + count) data.length) uses gains last) :
    Follows data offset (.bytes q fd count :: uses)
      (.bytes (.ok ((data.drop offset).take count)) :: gains) last

/-- The input is used by those only who have it open. -/
def Among (m : Machine κ) (st : Streams) (uses : List Use) : Prop :=
  ∀ q fd count, .bytes q fd count ∈ uses → m.Shares st q fd

theorem all_cons {use : Use} {uses : List Use} {gain : Gain} {gains : List Gain}
    {m m' m'' : Machine κ} (hw : use.work p m = .finished gain m')
    (hall : all uses p m' = .finished gains m'') :
    all (use :: uses) p m = .finished (gain :: gains) m'' :=
  Work.bind_finished.mpr ⟨gain, m', hw, Work.bind_finished.mpr ⟨gains, m'', hall, rfl⟩⟩

/-- A read by somebody who shares the input. -/
theorem bytes_at (h : m.StandsAt p st data offset) {q : Pid} {fd : Fd} (hq : m.Shares st q fd)
    (count : Nat) :
    ∃ m', (Use.bytes q fd count).work p m =
        .finished (.bytes (.ok ((data.drop offset).take count))) m' ∧
      Machine.Drains st m m' ∧ m'.StandsAt p st data (min (offset + count) data.length) := by
  obtain ⟨proc, e, hproc, he, hinput⟩ := hq
  obtain ⟨id, d, hid, hd, -⟩ := h.position
  obtain rfl := Option.some.inj (hid.symm.trans hinput)
  have hdescription : m.store.description? proc.context fd = some (e.description, d) := by
    rw [Store.description?, he]
    simp only [hd, Option.map_some]
  obtain ⟨m', hw, hdrains, hfeeds⟩ := h.feeds.read_by hproc hinput hdescription count
  refine ⟨m', Work.bind_finished.mpr ⟨_, m', hw, rfl⟩, hdrains,
    h.drains hdrains ?_ (Nat.min_le_right _ _)⟩
  rw [List.drop_drop] at hfeeds
  rcases Nat.le_total (offset + count) data.length with hle | hle
  · rwa [Nat.min_eq_left hle]
  · rw [List.drop_eq_nil_of_le hle] at hfeeds
    rwa [Nat.min_eq_right hle, List.drop_length]

/-- However the uses take turns, each begins where the one before it stopped. -/
theorem all_follows (uses : List Use) (h : m.StandsAt p st data offset) (hamong : Among m st uses) :
    ∃ gains m' last, all uses p m = .finished gains m' ∧ Follows data offset uses gains last ∧
      m'.StandsAt p st data last := by
  induction uses generalizing m offset with
  | nil => exact ⟨[], m, offset, rfl, .nil offset, h⟩
  | cons use uses ih =>
    have hrest {m' : Machine κ} (hdrains : Machine.Drains st m m') : Among m' st uses :=
      fun q fd count hmem => (hamong q fd count (.tail _ hmem)).drains hdrains
    cases use with
    | line =>
      obtain ⟨line, offset', m', hw, hline, hdrains, h'⟩ := LineSource.next_at h
      obtain ⟨gains, m'', last, hall, hfollows, h''⟩ := ih h' (hrest hdrains)
      exact ⟨_, m'', last, all_cons (Work.bind_finished.mpr ⟨_, m', hw, rfl⟩) hall,
        .line hline hfollows, h''⟩
    | bytes q fd count =>
      obtain ⟨m', hw, hdrains, h'⟩ := bytes_at h (hamong q fd count (.head _)) count
      obtain ⟨gains, m'', last, hall, hfollows, h''⟩ := ih h' (hrest hdrains)
      exact ⟨_, m'', last, all_cons hw hall, .bytes q fd count hfollows, h''⟩

end Use

/-! ## Nobody else reads -/

namespace LineSource

/-- The lines of a text: what stands before, between and after the line feeds. Nothing after the
last one is no line. -/
def linesOf (text : Bytes) : List Bytes :=
  let parts := text.splitOn 0x0A
  (if parts.getLast? = some [] then parts.dropLast else parts).map stripReturn

theorem linesOf_terminated {before : Bytes} (hfirst : 0x0A ∉ before) (after : Bytes) :
    linesOf (before ++ 0x0A :: after) = stripReturn before :: linesOf after := by
  obtain ⟨part, parts, hparts⟩ := List.exists_cons_of_ne_nil (List.splitOn_ne_nil 0x0A after)
  simp only [linesOf, List.splitOn_append_cons_self_of_not_mem hfirst, hparts]
  by_cases hlast : (part :: parts).getLast? = some [] <;> simp_all

theorem linesOf_unterminated {text : Bytes} (hlast : 0x0A ∉ text) (hne : text ≠ []) :
    linesOf text = [stripReturn text] := by
  simp [linesOf, List.splitOn_eq_singleton hlast, hne]

/-- What is left of a text after some of its lines. -/
def afterLines (k : Nat) (text : Bytes) : Bytes :=
  List.intercalate [0x0A] ((text.splitOn 0x0A).drop k)

theorem afterLines_terminated {before : Bytes} (hfirst : 0x0A ∉ before) (after : Bytes) (k : Nat) :
    afterLines (k + 1) (before ++ 0x0A :: after) = afterLines k after := by
  rw [afterLines, List.splitOn_append_cons_self_of_not_mem hfirst, List.drop_succ_cons, afterLines]

theorem afterLines_unterminated {text : Bytes} (hlast : 0x0A ∉ text) (k : Nat) :
    afterLines (k + 1) text = [] := by
  rw [afterLines, List.splitOn_eq_singleton hlast, List.drop_succ_cons, List.drop_nil]
  rfl

theorem afterLines_nil (k : Nat) : afterLines k [] = [] := by
  cases k with
  | zero => rfl
  | succ k => exact afterLines_unterminated (by simp) k

theorem afterLines_zero (text : Bytes) : afterLines 0 text = text :=
  List.intercalate_splitOn 0x0A

end LineSource

namespace LineAt

open LineSource

/-- The line at an offset is the first one of what is left there. -/
theorem linesOf_zero (h : LineAt data offset line offset') :
    (linesOf (data.drop offset))[0]? = line := by
  cases h with
  | terminated before after hdata hfirst => rw [hdata, linesOf_terminated hfirst]; rfl
  | unterminated hlt hlast => rw [linesOf_unterminated hlast (by simp [hlt])]; rfl
  | ended hend => rw [hend, List.drop_length]; rfl

/-- After it come the others. -/
theorem linesOf_succ (h : LineAt data offset line offset') (i : Nat) :
    (linesOf (data.drop offset))[i + 1]? = (linesOf (data.drop offset'))[i]? := by
  cases h with
  | terminated before after hdata hfirst =>
    rw [hdata, linesOf_terminated hfirst, drop_after_feed hdata, List.getElem?_cons_succ]
  | unterminated hlt hlast =>
    rw [linesOf_unterminated hlast (by simp [hlt]), List.drop_length]
    rfl
  | ended hend =>
    rw [hend, List.drop_length]
    rfl

theorem afterLines_succ (h : LineAt data offset line offset') (k : Nat) :
    afterLines (k + 1) (data.drop offset) = afterLines k (data.drop offset') := by
  cases h with
  | terminated before after hdata hfirst =>
    rw [hdata, afterLines_terminated hfirst, drop_after_feed hdata]
  | unterminated hlt hlast =>
    rw [afterLines_unterminated hlast, List.drop_length, afterLines_nil]
  | ended hend => rw [hend, List.drop_length, afterLines_nil, afterLines_nil]

end LineAt

/-- If nobody else reads, the lines come one after the other. -/
theorem Use.all_lines (k : Nat) (h : m.StandsAt p st data offset) :
    ∃ m' last, all (List.replicate k .line) p m = .finished ((List.range k).map fun i =>
        .line (.ok (LineSource.linesOf (data.drop offset))[i]?)) m' ∧
      m'.StandsAt p st data last ∧
      data.drop last = LineSource.afterLines k (data.drop offset) := by
  induction k generalizing m offset with
  | zero => exact ⟨m, offset, rfl, h, (LineSource.afterLines_zero _).symm⟩
  | succ k ih =>
    obtain ⟨line, offset', m', hw, hline, -, h'⟩ := LineSource.next_at h
    obtain ⟨m'', last, hall, h'', hrest⟩ := ih h'
    refine ⟨m'', last, ?_, h'', hrest.trans (hline.afterLines_succ k).symm⟩
    rw [List.replicate_succ, List.range_succ_eq_map, List.map_cons, List.map_map,
      hline.linesOf_zero]
    refine all_cons (Work.bind_finished.mpr ⟨_, m', hw, rfl⟩) ?_
    simpa only [Function.comp_def, hline.linesOf_succ] using hall

/-- Lines are taken without reading ahead. However the shell's lines take turns with the reading of
others, every line is the one at the offset that the input stands at, which it leaves just after
it; if nobody else reads, the lines are those of the text, in order, then none for ever, and after
any number of them just what follows is left. -/
theorem LineSource.lines_exact (h : m.StandsAt p st data offset) :
    (∀ uses, Use.Among m st uses → ∃ gains m' last, Use.all uses p m = .finished gains m' ∧
      Use.Follows data offset uses gains last ∧ m'.StandsAt p st data last) ∧
    ∀ k, ∃ m' last, Use.all (List.replicate k .line) p m = .finished ((List.range k).map fun i =>
        .line (.ok (linesOf (data.drop offset))[i]?)) m' ∧
      m'.StandsAt p st data last ∧ data.drop last = afterLines k (data.drop offset) :=
  ⟨fun uses hamong => Use.all_follows uses h hamong, fun k => Use.all_lines k h⟩

/-- A machine with two processes that share a file. -/
def Machine.sharing (data : Bytes) : Machine Unit :=
  let context : Context := { Context.bare with descriptors := ⟨[some ⟨0, false⟩]⟩ }
  ⟨⟨⟨[.file 0o644 data]⟩, [⟨.node 0, true, false, false, 0⟩], [], [], .silent, 0⟩,
    [⟨0, context, .active ()⟩, ⟨0, context, .active ()⟩], []⟩

/-- Standard input of the two processes. -/
def Streams.sharing : Streams := ⟨some 0, some (.node 0), []⟩

theorem Machine.standsAt_sharing (data : Bytes) :
    (sharing data).StandsAt 0 .sharing data 0 where
  process := ⟨_, _, rfl, rfl, rfl⟩
  position := ⟨_, _, rfl, rfl, rfl, rfl, rfl, _, rfl⟩
  le := Nat.zero_le _
  quiet pipe hpipe := by cases hpipe

/-- Between two lines of the shell the other process reads a byte. -/
theorem LineSource.lines_exact_shared : ∃ m' last,
    Use.all [.line, .bytes 1 0 1, .line, .line] 0
        (.sharing [0x61, 0x0D, 0x0A, 0x78, 0x62, 0x0D]) =
      .finished [.line (.ok (some [0x61])), .bytes (.ok [0x78]), .line (.ok (some [0x62])),
        .line (.ok none)] m' ∧
    m'.StandsAt 0 .sharing [0x61, 0x0D, 0x0A, 0x78, 0x62, 0x0D] last := by
  let uses : List Use := [.line, .bytes 1 0 1, .line, .line]
  have hamong : Use.Among (.sharing [0x61, 0x0D, 0x0A, 0x78, 0x62, 0x0D]) .sharing uses := by
    intro q fd count hmem
    simp only [uses, List.mem_cons, Use.bytes.injEq, List.not_mem_nil, or_false, reduceCtorEq,
      false_or] at hmem
    obtain ⟨rfl, rfl, rfl⟩ := hmem
    exact ⟨_, _, rfl, rfl, rfl⟩
  obtain ⟨gains, m', last, hall, -, hstands⟩ :=
    (lines_exact (Machine.standsAt_sharing _)).1 uses hamong
  have hgains : (Use.all uses 0 (.sharing [0x61, 0x0D, 0x0A, 0x78, 0x62, 0x0D])).result? =
      some [.line (.ok (some [0x61])), .bytes (.ok [0x78]), .line (.ok (some [0x62])),
        .line (.ok none)] := by
    decide +kernel
  rw [hall, Progress.result?, Option.some.injEq] at hgains
  subst hgains
  exact ⟨m', last, hall, hstands⟩

end PipeShell
