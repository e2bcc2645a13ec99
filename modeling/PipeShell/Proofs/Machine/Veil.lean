import PipeShell.Proofs.Machine.Blanking
import PipeShell.Proofs.Machine.Tables

/-!
# What cannot be seen of a session

A session reads its lines from one stream and writes to others, one of which may be the file of its
journal (`Streams`). A `Veil` hides from a process how far these were read and written and what the
outputs hold, and under which numbers the open files go: `Veil.store` and `Veil.context` are what is
left to see. Two machines in which the same is seen may still differ in what one session has read
ahead, in what it has written, and in files that it has opened and closed (`Veil.spare`).

A call is discreet if it neither looks at what is hidden nor changes what is still to be read
(`Streams.isDiscreet`).
-/

namespace PipeShell

/-! ## Tables -/

/-- A descriptor whose description goes by another number. -/
def Descriptor.renumber (f : DescriptionId → DescriptionId) (d : Descriptor) : Descriptor :=
  { d with description := f d.description }

namespace DescriptorTable

/-- The slots up to the last that is not closed. -/
def trim : List (Option Descriptor) → List (Option Descriptor)
  | [] => []
  | some d :: slots => some d :: trim slots
  | none :: slots =>
    match trim slots with
    | [] => []
    | slot :: slots => none :: slot :: slots

/-- The table when descriptions go by other numbers. How many closed slots come last does not
count. -/
def seen (f : DescriptionId → DescriptionId) (t : DescriptorTable) : DescriptorTable :=
  ⟨trim (t.slots.map fun slot => slot.map (Descriptor.renumber f))⟩

variable {f g : DescriptionId → DescriptionId} {t t' : DescriptorTable}

/-- Two lists with the same open slots are the same up to the last of these. -/
theorem trim_eq_trim {slots slots' : List (Option Descriptor)}
    (h : ∀ i : Nat, slots[i]?.getD none = slots'[i]?.getD none) : trim slots = trim slots' := by
  induction slots generalizing slots' with
  | nil =>
    induction slots' with
    | nil => rfl
    | cons slot slots' ih =>
      obtain rfl : slot = none := by simpa using (h 0).symm
      have hrest : [] = trim slots' := ih fun i => by simpa using h (i + 1)
      simp [trim, ← hrest]
  | cons slot slots ih =>
    cases slots' with
    | nil =>
      obtain rfl : slot = none := by simpa using h 0
      have hrest : trim slots = trim [] := ih fun i => by simpa using h (i + 1)
      simp [trim, hrest]
    | cons slot' slots' =>
      obtain rfl : slot = slot' := by simpa using h 0
      have hrest : trim slots = trim slots' := ih fun i => by simpa using h (i + 1)
      cases slot <;> simp only [trim, hrest]

theorem exists_trim_append (slots : List (Option Descriptor)) :
    ∃ n, trim slots ++ List.replicate n none = slots := by
  fun_induction trim slots with
  | case1 => exact ⟨0, rfl⟩
  | case2 d slots ih =>
    obtain ⟨n, hn⟩ := ih
    exact ⟨n, by rw [List.cons_append, hn]⟩
  | case3 slots hnil ih =>
    obtain ⟨n, hn⟩ := ih
    rw [hnil, List.nil_append] at hn
    exact ⟨n + 1, by rw [List.nil_append, List.replicate_succ, hn]⟩
  | case4 slots slot rest hrest ih =>
    obtain ⟨n, hn⟩ := ih
    exact ⟨n, by rw [List.cons_append, ← hrest, hn]⟩

theorem getD_trim (slots : List (Option Descriptor)) (i : Nat) :
    (trim slots)[i]?.getD none = slots[i]?.getD none := by
  obtain ⟨n, hn⟩ := exists_trim_append slots
  conv => rhs; rw [← hn]
  rw [List.getElem?_append]
  split
  · rfl
  · next hge =>
    rw [List.getElem?_eq_none (Nat.le_of_not_lt hge), List.getElem?_replicate]
    split <;> rfl

theorem exists_seen_append (f : DescriptionId → DescriptionId) (t : DescriptorTable) :
    ∃ n, (t.seen f).slots ++ List.replicate n none =
      t.slots.map fun slot => slot.map (Descriptor.renumber f) :=
  exists_trim_append _

theorem firstFree_append_none (slots : List (Option Descriptor)) (n : Nat) :
    firstFree (slots ++ List.replicate n none) = firstFree slots := by
  fun_induction firstFree slots with
  | case1 => cases n <;> rfl
  | case2 => rfl
  | case3 d slots ih => rw [List.cons_append, firstFree, ih]

theorem firstFree_map (f : Descriptor → Descriptor) (slots : List (Option Descriptor)) :
    firstFree (slots.map fun slot => slot.map f) = firstFree slots := by
  fun_induction firstFree slots with
  | case3 _ slots ih => simpa [firstFree] using ih
  | _ => rfl

@[simp] theorem get_seen (fd : Fd) :
    (t.seen f).get fd = (t.get fd).map (Descriptor.renumber f) := by
  simp only [get, seen, getD_trim, List.getElem?_map]
  cases t.slots[fd]? <;> rfl

/-- Tables are seen alike if the same descriptors are open in them. -/
theorem seen_eq_seen
    (h : ∀ fd, (t.get fd).map (Descriptor.renumber f) = (t'.get fd).map (Descriptor.renumber g)) :
    t.seen f = t'.seen g := by
  refine congrArg DescriptorTable.mk (trim_eq_trim fun i => ?_)
  have hi := h i
  rw [List.getElem?_map, List.getElem?_map]
  unfold get at hi
  revert hi
  cases t.slots[i]? <;> cases t'.slots[i]? <;> simp

@[simp] theorem lowestFreeFrom_seen (least : Fd) :
    (t.seen f).lowestFreeFrom least = t.lowestFreeFrom least := by
  obtain ⟨n, hn⟩ := exists_seen_append f t
  have hfree := firstFree_map (Descriptor.renumber f) (t.slots.drop least)
  rw [List.map_drop, ← hn, List.drop_append, List.drop_replicate, firstFree_append_none] at hfree
  rw [lowestFreeFrom, lowestFreeFrom, hfree]

@[simp] theorem lowestFree_seen : (t.seen f).lowestFree = t.lowestFree := by
  simpa [lowestFreeFrom, lowestFree] using lowestFreeFrom_seen (t := t) (f := f) 0

@[simp] theorem openFds_seen : (t.seen f).openFds = t.openFds := by
  obtain ⟨n, hn⟩ := exists_seen_append f t
  have hfds : openFds ⟨t.slots.map fun slot => slot.map (Descriptor.renumber f)⟩ = t.openFds := by
    simp only [openFds, List.zipIdx_map, List.filter_map, List.map_map]
    congr 1
    refine List.filter_congr fun e _ => ?_
    simp
  have hclosed (k : Nat) : ((List.replicate n (none : Option Descriptor)).zipIdx k).filter
      (·.1.isSome) = [] := by
    refine List.filter_eq_nil_iff.mpr fun e he => ?_
    obtain ⟨-, -, h⟩ := List.mem_zipIdx he
    simp [h]
  rw [← hfds, ← hn]
  simp only [openFds, List.zipIdx_append, List.filter_append, hclosed, List.append_nil]

@[simp] theorem held_seen : (t.seen f).held = t.held.map f := by
  obtain ⟨n, hn⟩ := exists_seen_append f t
  have hheld : held ⟨t.slots.map fun slot => slot.map (Descriptor.renumber f)⟩ = t.held.map f := by
    simp only [held, List.filterMap_map, List.map_filterMap]
    congr 1
    funext slot
    cases slot <;> rfl
  rw [← hheld, ← hn]
  simp [held]

end DescriptorTable

/-! ## Streams -/

/-- What the streams of a session are. Standard input may be none of them. -/
structure Streams where
  /-- The open file that is standard input. -/
  input : Option DescriptionId
  /-- The file or the pipe that is open there. -/
  source : Option Object
  /-- The files and devices that standard output, standard error and the journal go to. -/
  outputs : List NodeId

namespace Streams

/-- Whether an object is where standard input comes from, or the other end of it. -/
def isSource (st : Streams) (object : Object) : Bool :=
  some object == st.source || some object.partner == st.source

/-- Whether it cannot be seen what is in an object: it is an output, or the pipe that standard input
comes from. -/
def hides (st : Streams) : Object → Bool
  | .node id => st.outputs.contains id
  | object => st.isSource object

/-- Whether it can be seen of an open file what is in it, and how far it was read or written. -/
def shows (st : Streams) (id : DescriptionId) (d : Description) : Bool :=
  some id != st.input && !st.hides d.object

/-- A description. It cannot be seen how far a stream was read or written. -/
def description (st : Streams) (id : DescriptionId) (d : Description) : Description :=
  if st.shows id d then d else { d with offset := 0 }

/-- The bytes that wait in pipes. -/
def pipes (st : Streams) (ps : List Bytes) : List Bytes :=
  ps.mapIdx fun pipe waiting => if st.hides (.readEnd pipe) then [] else waiting

/-- Whether a call neither looks at what cannot be seen nor changes what is to be read. -/
def isDiscreet (st : Streams) (s : Store) (c : Context) : Call → Bool
  | .read fd _ | .statusFd fd => (s.description? c fd).all fun (id, d) => st.shows id d
  | .write fd _ =>
    (s.description? c fd).all fun (id, d) => some id != st.input && !st.isSource d.object
  | .rewind fd _ => (s.description? c fd).all fun (id, _) => some id != st.input
  | .openFile path flags mode =>
    match s.openPath c path flags mode with
    | .ok o => !(st.isSource o.object && (flags.write || flags.truncate))
    | .error _ => true
  | .status path =>
    match s.files.resolve (s.view c) path with
    | .ok object => !st.hides object
    | .error _ => true
  | .statusOfName path =>
    match s.files.resolveLink (s.view c) path with
    | .ok (object, _) => !st.hides object
    | .error _ => true
  | _ => true

end Streams

/-- How a machine is seen by somebody who does not look at the streams of a session. There are
descriptions in sight to which nobody refers: `spare`, from number `place` on. -/
structure Veil extends Streams where
  place : Nat
  spare : List Description

namespace Veil

variable (v : Veil)

/-- The same without further descriptions. -/
def bare : Veil := { v with spare := [] }

/-- The number that a description goes by. -/
def entry (id : Nat) : Nat :=
  if id < v.place then id else id + v.spare.length

/-- The descriptions that are in sight. -/
def placed (ds : List Description) : List Description :=
  ds.take v.place ++ v.spare ++ ds.drop v.place

/-- What is seen of a process. -/
def context (c : Context) : Context :=
  { c with descriptors := c.descriptors.seen v.entry }

/-- What is seen of what processes share. -/
def store (s : Store) : Store :=
  { s with
    files := s.files.blanked v.outputs
    descriptions := (v.placed s.descriptions).mapIdx v.description
    pipes := v.pipes s.pipes }

/-- What is seen of the effect of a call. -/
def outcome {ρ : Type} : Outcome ρ → Outcome ρ
  | .done reply s c => .done reply (v.store s) (v.context c)
  | .underway s c => .underway (v.store s) (v.context c)
  | .blocked => .blocked
  | .killed signal => .killed signal

/-- What is seen is there. -/
structure Fits (s : Store) : Prop where
  input : ∀ id, v.input = some id → id < v.place
  place : v.place ≤ s.descriptions.length
  outputs : ∀ id ∈ v.outputs, id < s.files.nodes.length

variable {v} {s : Store} {c : Context}

theorem Fits.new (hf : v.Fits s) : s.files.nodes.length ∉ v.outputs :=
  fun hmem => Nat.lt_irrefl _ (hf.outputs _ hmem)

/-! ## Descriptions -/

theorem entry_eq_input (hinput : ∀ id, v.input = some id → id < v.place) {id : Nat} :
    some (v.entry id) = v.input ↔ some id = v.input := by
  unfold entry
  split
  · exact Iff.rfl
  · next hge =>
    refine ⟨fun h => absurd (hinput _ h.symm) ?_, fun h => absurd (hinput _ h.symm) hge⟩
    exact fun hlt => hge (Nat.lt_of_le_of_lt (Nat.le_add_right id _) hlt)

theorem entry_bne_input (hinput : ∀ id, v.input = some id → id < v.place) (id : Nat) :
    (some (v.entry id) != v.input) = (some id != v.input) := by
  rw [Bool.eq_iff_iff, bne_iff_ne, bne_iff_ne, ne_eq, ne_eq, entry_eq_input hinput]

@[simp] theorem toStreams_bare : v.bare.toStreams = v.toStreams := rfl

@[simp] theorem entry_bare (id : Nat) : v.bare.entry id = id := by
  unfold entry
  split <;> rfl

@[simp] theorem renumber_bare (d : Descriptor) : d.renumber v.bare.entry = d := by
  simp only [Descriptor.renumber, entry_bare]

@[simp] theorem placed_bare (ds : List Description) : v.bare.placed ds = ds := by
  simp [placed, bare]

theorem length_placed {ds : List Description} (hplace : v.place ≤ ds.length) :
    (v.placed ds).length = v.entry ds.length := by
  simp only [placed, List.length_append, List.length_take, List.length_drop, entry]
  rw [if_neg (Nat.not_lt.mpr hplace)]
  omega

theorem getElem?_placed {ds : List Description} (hplace : v.place ≤ ds.length) (id : Nat) :
    (v.placed ds)[v.entry id]? = ds[id]? := by
  simp only [placed, entry, List.append_assoc]
  split
  · next hlt =>
    rw [List.getElem?_append_left (by simp; omega), List.getElem?_take_of_lt hlt]
  · next hge =>
    rw [List.getElem?_append_right (by simp; omega), List.getElem?_append_right (by simp; omega),
      List.getElem?_drop]
    simp only [List.length_take, Nat.min_eq_left hplace]
    rw [show v.place + (id + v.spare.length - v.place - v.spare.length) = id by omega]

theorem placed_concat {ds : List Description} (hplace : v.place ≤ ds.length) (d : Description) :
    v.placed (ds ++ [d]) = v.placed ds ++ [d] := by
  simp only [placed, List.append_assoc]
  rw [List.take_append_of_le_length hplace, List.drop_append_of_le_length hplace]

theorem placed_set {ds : List Description} (hplace : v.place ≤ ds.length) (id : Nat)
    (d : Description) : v.placed (ds.set id d) = (v.placed ds).set (v.entry id) d := by
  simp only [placed, entry]
  split
  · next hlt =>
    rw [List.take_set, List.drop_set_of_lt hlt, List.set_append_left _ _ (by simp; omega),
      List.set_append_left _ _ (by simp; omega)]
  · next hge =>
    rw [List.take_set_of_le (Nat.le_of_not_lt hge), List.drop_set, if_neg hge,
      List.set_append_right _ _ (by simp; omega)]
    simp only [List.length_append, List.length_take, Nat.min_eq_left hplace]
    congr 2
    omega

end Veil

namespace Streams

variable {st : Streams}

@[simp] theorem object_description (id : DescriptionId) (d : Description) :
    (st.description id d).object = d.object := by
  unfold description
  split <;> rfl

@[simp] theorem readable_description (id : DescriptionId) (d : Description) :
    (st.description id d).readable = d.readable := by
  unfold description
  split <;> rfl

@[simp] theorem writable_description (id : DescriptionId) (d : Description) :
    (st.description id d).writable = d.writable := by
  unfold description
  split <;> rfl

@[simp] theorem append_description (id : DescriptionId) (d : Description) :
    (st.description id d).append = d.append := by
  unfold description
  split <;> rfl

theorem description_of_new (id : DescriptionId) {d : Description} (h : d.offset = 0) :
    st.description id d = d := by
  unfold description
  split
  · rfl
  · rw [← h]

@[simp] theorem shows_description (id : DescriptionId) (d : Description) :
    st.shows id (st.description id d) = st.shows id d := by
  simp only [shows, object_description]

theorem description_of_shows {id : DescriptionId} {d : Description} (h : st.shows id d = true) :
    st.description id d = d :=
  if_pos h

theorem description_of_hidden {id : DescriptionId} {d : Description} (h : st.shows id d = false) :
    st.description id d = { d with offset := 0 } :=
  if_neg (by simp [h])

@[simp] theorem description_description (id : DescriptionId) (d : Description) :
    st.description id (st.description id d) = st.description id d := by
  cases h : st.shows id d with
  | true => rw [description_of_shows (by rwa [shows_description])]
  | false =>
    rw [description_of_hidden h]
    exact description_of_hidden h

/-- What is not seen of a description does not matter. -/
theorem description_eq_description {id : DescriptionId} {d : Description}
    (h : st.shows id d = false) (offset offset' : Nat) :
    st.description id { d with offset } = st.description id { d with offset := offset' } := by
  have hshows (offset : Nat) : st.shows id { d with offset } = false := h
  simp only [description, hshows, Bool.false_eq_true, if_false]

theorem hides_writeEnd (pipe : PipeId) : st.hides (.writeEnd pipe) = st.hides (.readEnd pipe) :=
  Bool.or_comm ..

@[simp] theorem pipes_pipes (ps : List Bytes) : st.pipes (st.pipes ps) = st.pipes ps := by
  simp only [pipes, List.mapIdx_mapIdx]
  congr 1
  funext pipe waiting
  simp only [Function.comp_apply]
  split <;> rfl

@[simp] theorem length_pipes (ps : List Bytes) : (st.pipes ps).length = ps.length :=
  List.length_mapIdx

theorem pipes_concat_nil (ps : List Bytes) : st.pipes (ps ++ [[]]) = st.pipes ps ++ [[]] := by
  simp only [pipes, List.mapIdx_concat, ite_self]

theorem pipes_set (ps : List Bytes) (pipe : PipeId) (waiting : Bytes) :
    st.pipes (ps.set pipe waiting) =
      (st.pipes ps).set pipe (if st.hides (.readEnd pipe) then [] else waiting) := by
  simp only [pipes, List.mapIdx_set]

theorem getElem?_pipes {pipe : PipeId} (h : st.hides (.readEnd pipe) = false) (ps : List Bytes) :
    (st.pipes ps)[pipe]? = ps[pipe]? := by
  simp [pipes, List.getElem?_mapIdx, h]

end Streams

namespace Veil

variable {v : Veil} {s : Store} {c : Context}

/-! ## Looking twice -/

/-- A table that is seen is not seen differently. -/
theorem seen_bare {t t' : DescriptorTable}
    (h : ∀ fd, t.get fd = (t'.get fd).map (Descriptor.renumber v.entry)) :
    t.seen v.bare.entry = t'.seen v.entry := by
  refine DescriptorTable.seen_eq_seen fun fd => ?_
  rw [← h fd]
  cases t.get fd <;> simp

/-- An entry of a table is replaced before or after looking. -/
theorem set_seen (t : DescriptorTable) (fd : Fd) (e : Option Descriptor) :
    ((t.seen v.entry).set fd (e.map (Descriptor.renumber v.entry))).seen v.bare.entry =
      (t.set fd e).seen v.entry := by
  refine seen_bare fun fd' => ?_
  rw [DescriptorTable.get_set, DescriptorTable.get_set, DescriptorTable.get_seen]
  split <;> rfl

@[simp] theorem bare_context_context (c : Context) :
    v.bare.context (v.context c) = v.context c := by
  simp only [context, seen_bare (t := c.descriptors.seen v.entry) DescriptorTable.get_seen]

theorem mapIdx_mapIdx_description (ds : List Description) :
    (ds.mapIdx v.description).mapIdx v.description = ds.mapIdx v.description := by
  rw [List.mapIdx_mapIdx]
  congr 1
  funext id d
  exact Streams.description_description id d

@[simp] theorem bare_store_store (s : Store) : v.bare.store (v.store s) = v.store s := by
  simp only [store, toStreams_bare, placed_bare, FileSystem.blanked_blanked,
    mapIdx_mapIdx_description, Streams.pipes_pipes]

@[simp] theorem bare_outcome_outcome {ρ : Type} (o : Outcome ρ) :
    v.bare.outcome (v.outcome o) = v.outcome o := by
  cases o <;> simp only [outcome, bare_context_context, bare_store_store]

end Veil

end PipeShell
