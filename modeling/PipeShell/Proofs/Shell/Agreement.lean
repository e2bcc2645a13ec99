import PipeShell.Proofs.Shell.Recall
import PipeShell.Proofs.Shell.Turns

/-!
# Scripts and users

A session that reads a script and one with a user handle the same lines when they start in the same
state with the same input, and one after the other with the same outcome (`Interactive.same_turns`).
All that a line may differ in is a carriage return at the end of an input that is not terminated,
which the session with a user keeps (`Turn.Lines`). The proof goes from line to line: when both
sessions stand side by side before a line (`Veil.Abreast`), they do so after it.

What two machines side by side have in common is what can be seen of them. So the programs that the
lines start may look neither at standard input nor at what the session has written: a program that
does may end in another way (`Interactive.turns_differ`). And what the session with a user prints of
its own needs room.
-/

namespace PipeShell

variable {U : Userland} {v : Veil} {m m' n n' : Machine (Task U.State)} {p : Pid}
  {data rest rest' : Bytes} {r : Runner U} {path : Bytes} {theme : Theme}
  {look : Role → Bytes → Bytes} {e : Editor (Task U.State)} {ahead : e.Reader → Bytes}
  {s : Interactive e} {status : Nat} {st : Streams}

/-! ## Turns -/

/-- Two turns in machines that are seen alike: the status of the line before is the same, and so is
what comes of the line. -/
structure Turn.Matches (v : Veil) (t t' : Turn U) : Prop where
  request : Request.ofLine t'.line = Request.ofLine t.line
  status : t'.status = t.status
  machine : v.Alike t.machine t'.machine
  outcome : Progress.Agree v (fun a b m m' => b = a ∧ v.Alike m m') t.outcome t'.outcome

/-- Where turns match, a line has the same flow, the same status and the same directory behind it,
and the same files but for the outputs. -/
theorem Turn.Matches.effects {t t' : Turn U} (h : Turn.Matches v t t') {found : Flow × Nat}
    (ho : t.outcome = .finished found n) : ∃ n', t'.outcome = .finished found n' ∧
      (∀ id, id ∉ v.outputs → n'.store.files.node? id = n.store.files.node? id) ∧
      ∀ (q : Pid) (proc : Process (Task U.State)), n.processes[q]? = some proc →
        ∃ proc', n'.processes[q]? = some proc' ∧
          proc'.context.directory = proc.context.directory := by
  obtain ⟨n', ho', hn⟩ : ∃ n', t'.outcome = .finished found n' ∧ v.Alike n n' := by
    have houtcome := h.outcome
    rw [ho] at houtcome
    generalize t'.outcome = o' at houtcome
    cases houtcome with
    | finished hsame => exact ⟨_, by rw [hsame.1], hsame.2⟩
  refine ⟨n', ho', fun id hid => ?_, fun q proc hq => ?_⟩
  · have hnode := congrArg (fun fs => fs.node? id) hn.files
    simp only [FileSystem.node?_blanked, if_neg hid, Option.map_id'] at hnode
    exact hnode
  · obtain ⟨proc', hq', hproc⟩ := hn.exists_process hq
    exact ⟨proc', hq', (Veil.sameContext hproc).directory⟩

/-- The turns of two sessions with the same input. The lines are those of the input, as far as the
sessions go; at the end of an input that is not terminated the second one keeps a carriage
return. -/
inductive Turn.Lines : Bytes → List (Turn U) → List (Turn U) → Prop
  | ended (data : Bytes) : Lines data [] []
  | terminated {before after : Bytes} {t t' : Turn U} {ts ts' : List (Turn U)}
    (hfirst : 0x0A ∉ before) (hline : t.line = LineSource.stripReturn before)
    (hline' : t'.line = t.line) (h : Lines after ts ts') :
    Lines (before ++ 0x0A :: after) (t :: ts) (t' :: ts')
  | unterminated {data : Bytes} {t t' : Turn U} (hne : data ≠ []) (hlast : 0x0A ∉ data)
    (hline : t.line = LineSource.stripReturn data) (hline' : t'.line = data) : Lines data [t] [t']

/-- Without a line feed there is one turn at most. -/
theorem Turn.Lines.of_notMem {ts ts' : List (Turn U)} (h : Lines data ts ts')
    (hdata : 0x0A ∉ data) : ts = [] ∧ ts' = [] ∨ data ≠ [] ∧ ∃ t t', ts = [t] ∧ ts' = [t'] ∧
      t.line = LineSource.stripReturn data ∧ t'.line = data := by
  cases h with
  | ended => exact Or.inl ⟨rfl, rfl⟩
  | terminated => simp at hdata
  | unterminated hne _ hline hline' => exact Or.inr ⟨hne, _, _, rfl, rfl, hline, hline'⟩

/-- Two sessions end in the same way, none of them because it cannot read. -/
inductive Ending.Agree {ε ε' : Type} : Ending ε → Ending ε' → Prop
  | left : Agree .left .left
  | endOfInput : Agree .endOfInput .endOfInput
  | unfinished : Agree .unfinished .unfinished

/-- Two sessions side by side, one that reads a script and one with a user, with their turns. -/
structure Observed.Agree (v : Veil) (data : Bytes)
    (o : Progress (Task U.State) (Ending Errno × Nat) × List (Turn U))
    (o' : Progress (Task U.State) (Ending Bytes × Interactive e) × List (Turn U)) :
    Prop where
  turns : List.Forall₂ (Turn.Matches v) o.2 o'.2
  lines : Turn.Lines data o.2 o'.2
  ending : Progress.Agree v
    (fun a b m m' => a.1.Agree b.1 ∧ b.2.status = a.2 ∧ v.Alike m m') o.1 o'.1

/-! ## One line of a script -/

namespace CommandLine

/-- What a session that reads a script does when a line was handled. -/
def proceed (r : Runner U) (fuel : Nat) :
    Flow × Nat → Observed (Task U.State) (Turn U) (Ending Errno × Nat)
  | (.leave, status) => pure (.left, status)
  | (.goOn, status) => (observed r).run fuel status

theorem next_finished {found : Except Errno (Option Bytes)}
    (h : (LineSource.next : Work (Task U.State) _) p m = .finished found n) (status : Nat) :
    (script r).next status p m = .finished (found, status) n :=
  Work.bind_finished.mpr ⟨_, _, h, rfl⟩

theorem observed_end (h : (LineSource.next : Work (Task U.State) _) p m = .finished (.ok none) n)
    (fuel : Nat) :
    (observed r).run (fuel + 1) status p m = (.finished (.endOfInput, status) n, []) :=
  Observed.quiet_bind (next_finished h status)

theorem observed_line {line : Bytes}
    (h : (LineSource.next : Work (Task U.State) _) p m = .finished (.ok (some line)) n)
    (fuel : Nat) : (observed r).run (fuel + 1) status p m =
      (Session.observe r line status >>= proceed r fuel) p n := by
  refine (Observed.quiet_bind (next_finished h status)).trans ?_
  refine congrArg (fun f => (Session.observe r line status >>= f) p n) (funext fun found => ?_)
  obtain ⟨flow, status⟩ := found
  cases flow <;> rfl

end CommandLine

/-! ## One entry of a user -/

namespace Session

variable {α : Type} {line : Bytes} {f : Flow × Nat → Observed (Task U.State) (Turn U) α}

theorem observe_finished {found : Flow × Nat}
    (h : Session.handle r line status p m = .finished found n) :
    (observe r line status >>= f) p m =
      ((f found p n).1, ⟨line, status, m, .finished found n⟩ :: (f found p n).2) := by
  simp only [bind, observe, h, List.singleton_append]

theorem observe_ended {s : ExitStatus} (h : Session.handle r line status p m = .ended s n) :
    (observe r line status >>= f) p m = (.ended s n, [⟨line, status, m, .ended s n⟩]) := by
  simp only [bind, observe, h]

theorem observe_stuck (h : Session.handle r line status p m = .stuck) :
    (observe r line status >>= f) p m = (.stuck, [⟨line, status, m, .stuck⟩]) := by
  simp only [bind, observe, h]

theorem mem_observe (r : Runner U) (line : Bytes) (status : Nat) (p : Pid)
    (m : Machine (Task U.State)) (f : Flow × Nat → Observed (Task U.State) (Turn U) α) :
    ⟨line, status, m, Session.handle r line status p m⟩ ∈
      ((observe r line status >>= f) p m).2 := by
  cases h : Session.handle r line status p m with
  | finished => simp [observe_finished h]
  | ended => simp [observe_ended h]
  | stuck => simp [observe_stuck h]

end Session

theorem Observed.bind_assoc {κ τ α β γ : Type} (w : Observed κ τ α) (f : α → Observed κ τ β)
    (g : β → Observed κ τ γ) : w >>= f >>= g = w >>= fun a => f a >>= g := by
  funext p m
  simp only [bind]
  rcases w p m with ⟨⟨a, n⟩ | _ | _, seen⟩
  · rcases hf : f a p n with ⟨_ | _ | _, more⟩ <;> simp [hf]
  all_goals rfl

namespace Interactive

/-- What a session with a user does when a line was handled. -/
def proceed (e : Editor (Task U.State)) (r : Runner U) (path : Bytes) (theme : Theme)
    (look : Role → Bytes → Bytes) (fuel : Nat) (s : Interactive e) (found : Flow × Nat) :
    Observed (Task U.State) (Turn U) (Ending Bytes × Interactive e) :=
  (observed e r path).follow theme look ((observed e r path).exchange theme look fuel) found.1
    { s with status := found.2 }

theorem observed_entry (theme : Theme) (look : Role → Bytes → Bytes) {entry : Entry Bytes}
    {reader : e.Reader}
    (h : e.read (look .prompt (theme.message .prompt)) s.history s.reader p m =
      .finished (entry, reader) n) (fuel : Nat) :
    (observed e r path).exchange theme look (fuel + 1) s p m =
      (observed e r path).answer theme look ((observed e r path).exchange theme look fuel)
        entry { s with reader } p n := by
  have hask : ask (look .prompt (theme.message .prompt)) s p m =
      .finished (entry, { s with reader }) n :=
    Work.bind_finished.mpr ⟨_, _, Work.bind_finished.mpr ⟨_, _, h, rfl⟩, rfl⟩
  exact Observed.quiet_bind hask

theorem observed_line (r : Runner U) (path : Bytes) (theme : Theme) (look : Role → Bytes → Bytes)
    (text : Bytes) (fuel : Nat) (s : Interactive e) :
    ((observed e r path).handle text >>=
      (observed e r path).follow theme look ((observed e r path).exchange theme look fuel)) s =
        Session.observe r text s.status >>= proceed e r path theme look fuel s :=
  Observed.bind_assoc _ _ _

section After

variable (r path theme look)
  (next : StateT (Interactive e) (Observed (Task U.State) (Turn U)) (Ending Bytes))

/-- What the session with a user prints. -/
theorem say_finished (h : v.Abreast p rest rest' m m') (hinput : v.input.isSome = true) {fd : Fd}
    (hfd : fd = Fd.stdout ∨ fd = Fd.stderr) (line : Bytes) (s : Interactive e) :
    ∃ n', v.Abreast p rest rest' m n' ∧
      (liftM (r.executor.console.printLine fd line : Work (Task U.State) Unit) : Talk e Unit) s p
        m' = .finished ((), s) n' :=
  h.talk_second ((h.second.covert_print hinput r.executor.console hfd _).lift s)

/-- What the session with a user keeps a record of. -/
theorem note_finished (h : v.Abreast p rest rest' m m') (level : Level) (message : Bytes)
    (s : Interactive e) : ∃ n', v.Abreast p rest rest' m n' ∧
      (Calling.note level message : Talk e Unit) s p m' = .finished ((), s) n' :=
  h.talk_second ((h.second.covert_note level message).lift s)

/-- A session says good-bye. -/
theorem follow_leave (h : v.Abreast p rest rest' m m') (hinput : v.input.isSome = true)
    (s : Interactive e) : ∃ n', v.Abreast p rest rest' m n' ∧
      (observed e r path).follow theme look next .leave s p m' =
        (.finished (.left, s) n', []) := by
  obtain ⟨n', hn, hsay⟩ := say_finished r h hinput (Or.inl rfl)
    (look .success (theme.message .exit)) s
  exact ⟨n', hn, Observed.quietState_bind hsay⟩

/-- A session that goes on shows its status first if that is not 0. -/
theorem follow_goOn (h : v.Abreast p rest rest' m m') (hinput : v.input.isSome = true)
    (s : Interactive e) : ∃ n', v.Abreast p rest rest' m n' ∧
      (observed e r path).follow theme look next .goOn s p m' = next s p n' := by
  have hget : (conversation e r path).status s p m' = .finished (s.status, s) m' := rfl
  by_cases hstatus : s.status = 0
  · refine ⟨m', h, (Observed.quietState_bind hget).trans ?_⟩
    simp only [hstatus, ne_eq, not_true, if_false]
  · obtain ⟨n', hn, hcomplain⟩ := say_finished r h hinput (Or.inr rfl)
      (Conversation.statusLine look theme s.status) s
    refine ⟨n', hn, (Observed.quietState_bind hget).trans ?_⟩
    simp only [hstatus, ne_eq, not_false_eq_true, if_true]
    exact Observed.quietState_bind hcomplain

/-- At the end of its input a session says so. -/
theorem answer_end (h : v.Abreast p rest rest' m m') (hinput : v.input.isSome = true)
    (s : Interactive e) : ∃ n', v.Abreast p rest rest' m n' ∧
      (observed e r path).answer theme look next .endOfInput s p m' =
        (.finished (.endOfInput, s) n', []) := by
  obtain ⟨n', hn, hnote⟩ := note_finished h .info (Bytes.ofString "接收到 EOF，退出 tinysh") s
  obtain ⟨o', ho, hsay⟩ := say_finished r hn hinput (Or.inl rfl)
    (0x0A :: look .warning (theme.message .endOfInput)) s
  exact ⟨o', ho, (Observed.quietState_bind hnote).trans (Observed.quietState_bind hsay)⟩

/-- Offering a line to the history is always finished. -/
theorem remember_finished (he : e.OffTerminal ahead p v.toStreams)
    (h : v.Abreast p rest rest' m m') (line : Bytes) (s : Interactive e) :
    ∃ history n', v.Abreast p rest rest' m n' ∧
      remember line s p m' = .finished ((), { s with history }) n' := by
  obtain ⟨⟨history, result⟩, hadd⟩ := he.add m' s.history line
  have hrevise : revise (e.add · line) s p m' = .finished (result, { s with history }) m' :=
    Work.bind_finished.mpr ⟨_, _, Work.bind_finished.mpr ⟨_, _, hadd, rfl⟩, rfl⟩
  refine ⟨history, ?_⟩
  cases result with
  | error reason =>
    obtain ⟨n', hn, hnote⟩ := note_finished h .warn _ { s with history }
    exact ⟨n', hn, Work.bind_finished.mpr ⟨_, _, hrevise, hnote⟩⟩
  | ok => exact ⟨m', h, Work.bind_finished.mpr ⟨_, _, hrevise, rfl⟩⟩

/-- A line that was entered is offered to the history, if it is not blank, and then handled. -/
theorem answer_line (he : e.OffTerminal ahead p v.toStreams) (h : v.Abreast p rest rest' m m')
    (text : Bytes) (s : Interactive e) (fuel : Nat) :
    ∃ history n', v.Abreast p rest rest' m n' ∧
      (observed e r path).answer theme look ((observed e r path).exchange theme look fuel)
        (.line text) s p m' =
          (Session.observe r text s.status >>= proceed e r path theme look fuel { s with history })
            p n' := by
  simp only [Conversation.answer]
  split
  · obtain ⟨history, n', hn, hremember⟩ := remember_finished he h text s
    refine ⟨history, n', hn, ?_⟩
    exact (Observed.quietState_bind hremember).trans
      (congrFun (congrFun (observed_line r path theme look text fuel _) p) n')
  · exact ⟨s.history, m', h,
      congrFun (congrFun (observed_line r path theme look text fuel s) p) m'⟩

end After

/-- What a session with a user comes to once it is over: its history is saved. -/
def conclude (path : Bytes) (p : Pid) : Progress (Task U.State) (Ending Bytes × Interactive e) →
    Progress (Task U.State) (Ending Bytes × Interactive e)
  | .finished (ending, s) m =>
    match saveHistory path s p m with
    | .finished (_, s) m => .finished (ending, s) m
    | .ended status m => .ended status m
    | .stuck => .stuck
  | .ended status m => .ended status m
  | .stuck => .stuck

theorem observed_run (r : Runner U) (theme : Theme) (look : Role → Bytes → Bytes)
    {s' s'' : Interactive e} (hload : loadHistory path s p m = .finished ((), s') n)
    (hsay : (conversation e r path).say (look .success (theme.message .welcome)) s' p n =
      .finished ((), s'') n') (fuel : Nat) :
    (observed e r path).run theme look fuel s p m =
      (conclude path p ((observed e r path).exchange theme look fuel s'' p n').1,
        ((observed e r path).exchange theme look fuel s'' p n').2) := by
  have hconverse : (observed e r path).converse theme look fuel s p m =
      (observed e r path).exchange theme look fuel s'' p n' :=
    (Observed.quietState_bind hload).trans (Observed.quietState_bind hsay)
  generalize (observed e r path).exchange theme look fuel s'' p n' = o at hconverse
  rcases o with ⟨⟨⟨ending, s₁⟩, n₁⟩ | _ | _, seen⟩
  · have hquiet : (observed e r path).saveHistory s₁ p n₁ = (saveHistory path s₁ p n₁, []) := rfl
    simp only [Conversation.run, bind, StateT.bind, hconverse, hquiet, conclude]
    rcases saveHistory path s₁ p n₁ with _ | _ | _ <;>
      simp only [pure, StateT.pure, List.append_nil]
  · simp only [Conversation.run, bind, StateT.bind, hconverse, conclude]
  · simp only [Conversation.run, bind, StateT.bind, hconverse, conclude]

end Interactive

/-! ## Side by side -/

/-- A carriage return at the end of a line asks for nothing. -/
theorem Request.ofLine_stripReturn (line : Bytes) :
    ofLine (LineSource.stripReturn line) = ofLine line := by
  unfold LineSource.stripReturn
  split
  · next hlast =>
    obtain ⟨front, rfl⟩ := List.getLast?_eq_some_iff.mp hlast
    rw [List.dropLast_concat, ofLine_append_return]
  · rfl

section Sessions

variable (he : e.OffTerminal ahead p v.toStreams) (hinput : v.input.isSome = true)

include he hinput

/-- When nothing is left to be read, both sessions are over. -/
theorem Veil.Abreast.ended (h : v.Abreast p [] rest' m m') (hahead : ahead s.reader ++ rest' = [])
    (fuel : Nat) :
    Observed.Agree v [] ((CommandLine.observed r).run fuel s.status p m)
      ((Interactive.observed e r path).exchange theme look fuel s p m') := by
  cases fuel with
  | zero => exact ⟨.nil, .ended [], .finished ⟨.unfinished, rfl, h.alike⟩⟩
  | succ fuel =>
    obtain ⟨_, _, n, hnext, hn, rfl, rfl⟩ := h.covert_first (h.first.covert_of_yields hinput
      (LineSource.next_last (h.first.uses hinput).toFeeds (by simp)))
    have hlast : 0x0A ∉ ahead s.reader ++ rest' ∧ Utf8.isValid (ahead s.reader ++ rest') = true ∧
        0x08 ∉ ahead s.reader ++ rest' := by
      rw [hahead]
      exact ⟨by simp, Utf8.isValid_nil, by simp⟩
    obtain ⟨⟨entry, reader⟩, rest₁, n', hread, hn', hentry, -⟩ := hn.covert_second
      (he.read_last (look .prompt (theme.message .prompt)) s.history hn.second hlast.1 hlast.2.1
        hlast.2.2)
    rw [if_pos hahead] at hentry
    obtain rfl : entry = .endOfInput := hentry
    obtain ⟨o', ho', hanswer⟩ := Interactive.answer_end r path theme look
      ((Interactive.observed e r path).exchange theme look fuel) hn' hinput { s with reader }
    rw [CommandLine.observed_end hnext, Interactive.observed_entry theme look hread, hanswer]
    exact ⟨.nil, .ended [], .finished ⟨.endOfInput, rfl, ho'.alike⟩⟩

omit he in
/-- A line that asks for the same is handled alike, and then the sessions go on. -/
theorem Veil.Abreast.turn (h : v.Abreast p rest rest' m m') (hpolicy : v.Heedless r.policy)
    {line line' : Bytes} (hline : Request.ofLine line' = Request.ofLine line) {fuel : Nat}
    (hsteps : ∀ x ∈ Session.steps r line p m,
      v.steps (Task.dynamics U r.executor) x.1 x.2 = true)
    (hnext : ∀ n n' s', v.Abreast p rest rest' n n' → s'.reader = s.reader →
      Session.handle r line s.status p m = .finished (.goOn, s'.status) n →
      Observed.Agree v rest ((CommandLine.observed r).run fuel s'.status p n)
        ((Interactive.observed e r path).exchange theme look fuel s' p n'))
    (hlines : ∀ ts ts' : List (Turn U), Turn.Lines rest ts ts' → ∀ t t' : Turn U,
      t.line = line → t'.line = line' → Turn.Lines data (t :: ts) (t' :: ts')) :
    Observed.Agree v data
      ((Session.observe r line s.status >>= CommandLine.proceed r fuel) p m)
      ((Session.observe r line' s.status >>= Interactive.proceed e r path theme look fuel s)
        p m') := by
  have hhandle := h.handle hpolicy hline s.status hsteps
  generalize ho : Session.handle r line s.status p m = o at hhandle
  generalize ho' : Session.handle r line' s.status p m' = o' at hhandle
  cases hhandle with
  | @finished reply reply' n n' hsame =>
    obtain ⟨hreply, hn⟩ := hsame
    subst hreply
    rw [Session.observe_finished ho, Session.observe_finished ho']
    have hturn : Turn.Matches v (U := U) ⟨line, s.status, m, .finished reply' n⟩
        ⟨line', s.status, m', .finished reply' n'⟩ :=
      ⟨hline, rfl, h.alike, .finished ⟨rfl, hn.alike⟩⟩
    obtain ⟨flow, status⟩ := reply'
    cases flow with
    | leave =>
      obtain ⟨o', ho', hfollow⟩ := Interactive.follow_leave r path theme look
        ((Interactive.observed e r path).exchange theme look fuel) hn hinput { s with status }
      simp only [CommandLine.proceed, Interactive.proceed, hfollow]
      exact ⟨.cons hturn .nil, hlines _ _ (.ended rest) _ _ rfl rfl,
        .finished ⟨.left, rfl, ho'.alike⟩⟩
    | goOn =>
      obtain ⟨o', ho', hfollow⟩ := Interactive.follow_goOn r path theme look
        ((Interactive.observed e r path).exchange theme look fuel) hn hinput { s with status }
      simp only [CommandLine.proceed, Interactive.proceed, hfollow]
      obtain ⟨hturns, hlines', hending⟩ := hnext n o' { s with status } ho' rfl ho
      exact ⟨.cons hturn hturns, hlines _ _ hlines' _ _ rfl rfl, hending⟩
  | @ended status n n' hlike =>
    rw [Session.observe_ended ho, Session.observe_ended ho']
    exact ⟨.cons ⟨hline, rfl, h.alike, .ended status hlike⟩ .nil,
      hlines _ _ (.ended rest) _ _ rfl rfl, .ended status hlike⟩
  | stuck =>
    rw [Session.observe_stuck ho, Session.observe_stuck ho']
    exact ⟨.cons ⟨hline, rfl, h.alike, .stuck⟩ .nil, hlines _ _ (.ended rest) _ _ rfl rfl, .stuck⟩

/-- Both sessions read a line each, and are left with the same. -/
theorem Veil.Abreast.read (h : v.Abreast p rest rest' m m') (r : Runner U) (path : Bytes)
    (theme : Theme) (look : Role → Bytes → Bytes) {line text after : Bytes}
    (hfirst : m.Yields p v.toStreams LineSource.next fun reply rest₁ =>
      reply = .ok (some line) ∧ rest₁ = after)
    (hsecond : ∀ n : Machine (Task U.State), n.Attached p v.toStreams rest' →
      n.Covert p v.toStreams (e.read (look .prompt (theme.message .prompt)) s.history s.reader)
        fun found rest₁ => found.1 = .line text ∧ ahead found.2 ++ rest₁ = after) (fuel : Nat) :
    ∃ n n' rest₁ s', v.Abreast p after rest₁ n n' ∧ s'.status = s.status ∧
      ahead s'.reader ++ rest₁ = after ∧
      (CommandLine.observed r).run (fuel + 1) s.status p m =
        (Session.observe r line s.status >>= CommandLine.proceed r fuel) p n ∧
      (Interactive.observed e r path).exchange theme look (fuel + 1) s p m' =
        (Session.observe r text s.status >>=
          Interactive.proceed e r path theme look fuel s') p n' := by
  obtain ⟨_, _, n, hnext, hn, rfl, rfl⟩ :=
    h.covert_first (h.first.covert_of_yields hinput hfirst)
  obtain ⟨⟨entry, reader⟩, rest₁, o', hread, ho', hentry, hahead⟩ :=
    hn.covert_second (hsecond m' hn.second)
  obtain rfl : entry = .line text := hentry
  obtain ⟨history, n', hn', hanswer⟩ := Interactive.answer_line r path theme look he ho' text
    { s with reader } fuel
  refine ⟨n, n', rest₁, { s with reader, history }, hn', rfl, hahead,
    CommandLine.observed_line hnext fuel, ?_⟩
  rw [Interactive.observed_entry theme look hread, hanswer]

/-- Two sessions side by side handle the same lines, one after the other, with the same outcome. -/
theorem Veil.Abreast.sessions (h : v.Abreast p rest rest' m m') (path : Bytes) (theme : Theme)
    (look : Role → Bytes → Bytes) (hpolicy : v.Heedless r.policy)
    (hdata : ahead s.reader ++ rest' = rest) (hvalid : Utf8.isValid rest = true)
    (hplain : 0x08 ∉ rest) (fuel : Nat)
    (hdiscreet : ∀ t ∈ ((CommandLine.observed r).run fuel s.status p m).2,
      ∀ x ∈ Session.steps r t.line p t.machine,
        v.steps (Task.dynamics U r.executor) x.1 x.2 = true) :
    Observed.Agree v rest ((CommandLine.observed r).run fuel s.status p m)
      ((Interactive.observed e r path).exchange theme look fuel s p m') := by
  induction fuel generalizing m m' rest rest' s with
  | zero => exact ⟨.nil, .ended rest, .finished ⟨.unfinished, rfl, h.alike⟩⟩
  | succ fuel ih =>
    by_cases hfeed : 0x0A ∈ rest
    · obtain ⟨before, after, rfl, hfirst⟩ := List.eq_append_cons_of_mem hfeed
      rw [Utf8.isValid_append_ascii (by decide), Bool.and_eq_true] at hvalid
      rw [List.mem_append, List.mem_cons, not_or, not_or] at hplain
      obtain ⟨n, n', rest₁, s', hn, hstatus, hahead, hscript, htalk⟩ :=
        h.read he hinput r path theme look
          (LineSource.next_line (h.first.uses hinput).toFeeds hfirst)
          (fun o ho => he.read_line _ s.history ho hdata hfirst hvalid.1 hplain.1) fuel
      rw [hscript, ← hstatus] at hdiscreet
      rw [hscript, htalk, ← hstatus]
      refine hn.turn hinput hpolicy rfl (hdiscreet _ (Session.mem_observe ..)) ?_ ?_
      · intro o o' s'' ho hreader hhandle
        refine ih ho (hreader ▸ hahead) hvalid.2 hplain.2.2 fun t ht => hdiscreet t ?_
        rw [Session.observe_finished hhandle]
        exact List.mem_cons_of_mem _ ht
      · intro ts ts' hlines t t' hline hline'
        exact .terminated hfirst hline (hline'.trans hline.symm) hlines
    · by_cases hrest : rest = []
      · subst hrest
        exact h.ended he hinput hdata (fuel + 1)
      · have hlast : LineSource.lastLine rest = some (LineSource.stripReturn rest) :=
          if_neg (by simpa using hrest)
        have htext (o : Machine (Task U.State)) (ho : o.Attached p v.toStreams rest') :
            o.Covert p v.toStreams
              (e.read (look .prompt (theme.message .prompt)) s.history s.reader)
              fun found rest₁ => found.1 = .line rest ∧ ahead found.2 ++ rest₁ = [] := by
          subst hdata
          have hread := he.read_last (look .prompt (theme.message .prompt)) s.history ho hfeed
            hvalid hplain
          rwa [if_neg hrest] at hread
        obtain ⟨n, n', rest₁, s', hn, hstatus, hahead, hscript, htalk⟩ :=
          h.read he hinput r path theme look
            (hlast ▸ LineSource.next_last (h.first.uses hinput).toFeeds hfeed) htext fuel
        rw [hscript, ← hstatus] at hdiscreet
        rw [hscript, htalk, ← hstatus]
        refine hn.turn hinput hpolicy (Request.ofLine_stripReturn rest).symm
          (hdiscreet _ (Session.mem_observe ..)) ?_ ?_
        · intro o o' s'' ho hreader _
          exact ho.ended he hinput (hreader ▸ hahead) fuel
        · intro ts ts' hlines t t' hline hline'
          obtain ⟨rfl, rfl⟩ := (hlines.of_notMem (by simp)).resolve_right fun h => h.1 rfl
          exact .unterminated hrest hfeed hline hline'

end Sessions

/-- A session with a user and one that reads a script handle the same lines with the same outcome,
if the programs that run meanwhile neither look at the streams of the session nor change what is to
be read. Then the session with a user saves its history. -/
theorem Interactive.same_turns (r : Runner U) (path : Bytes) (theme : Theme)
    (look : Role → Bytes → Bytes) {proc : Process (Task U.State)} (ha : m.Attached p st data)
    (hinput : st.input.isSome = true) (he : e.OffTerminal ahead p st) (reader : e.Reader)
    (hreader : ahead reader = []) (history : e.History) (hp : m.processes[p]? = some proc)
    (hidle : proc.context.opening = none)
    (hhistory : ∀ o, m.store.openPath proc.context path .reading 0 = .ok o →
      ∃ node, o.object = .node node)
    (hpolicy : st.Heedless r.policy) (hvalid : Utf8.isValid data = true) (hplain : 0x08 ∉ data)
    (fuel : Nat)
    (hdiscreet : ∀ t ∈ ((CommandLine.observed r).run fuel 0 p m).2,
      ∀ x ∈ Session.steps r t.line p t.machine,
        st.steps (Task.dynamics U r.executor) x.1 x.2 = true) :
    ∃ (turns turns' : List (Turn U)) (ending : Progress (Task U.State) (Ending Errno × Nat))
      (ending' : Progress (Task U.State) (Ending Bytes × Interactive e)) (v : Veil),
      (CommandLine.observed r).run fuel 0 p m = (ending, turns) ∧
      (CommandLine.script r).run fuel 0 p m = ending ∧
      (observed e r path).run theme look fuel ⟨0, reader, history⟩ p m =
        (conclude path p ending', turns') ∧
      (conversation e r path).run theme look fuel ⟨0, reader, history⟩ p m =
        conclude path p ending' ∧
      v.toStreams = st ∧ Observed.Agree v data (ending, turns) (ending', turns') := by
  obtain ⟨history', n, hload, v, rfl, hn⟩ :=
    loadHistory_finished he ha hp hidle hhistory ⟨0, reader, history⟩
  obtain ⟨n', hn', hsay⟩ := say_finished r hn hinput (Or.inl rfl)
    (look .success (theme.message .welcome)) (⟨0, reader, history'⟩ : Interactive e)
  have hrun := observed_run r theme look hload hsay fuel
  have hdata : ahead reader ++ data = data := by rw [hreader, List.nil_append]
  have hagree := hn'.sessions he hinput (s := ⟨0, reader, history'⟩) path theme look hpolicy hdata
    hvalid hplain fuel hdiscreet
  refine ⟨_, _, _, _, v, rfl, ?_, hrun, ?_, rfl, hagree⟩
  · rw [← CommandLine.forget_observed]
    rfl
  · rw [← forget_observed]
    exact congrArg Prod.fst hrun

/-! ## A small session -/

/-- The streams of a session that reads from a file, writes to another one, and keeps its journal in
a third. -/
def Streams.filed : Streams := ⟨some 0, some (.node 2), [3, 4]⟩

/-- A session that reads `data` from a file and writes to another one, with one program among its
files. Only what goes wrong is kept in its journal. -/
def Machine.filed (U : Userland) (data : Bytes) : Machine (Task U.State) :=
  let context : Context :=
    { Context.bare with descriptors := ⟨[some ⟨0, false⟩, some ⟨1, false⟩, some ⟨1, false⟩]⟩ }
  ⟨⟨⟨[.directory 0o755 0 [([0x61], 1)], .program 0o755 [0x61], .file 0o644 data,
      .file 0o644 [], .file 0o644 []]⟩,
      [⟨.node 2, true, false, false, 0⟩, ⟨.node 3, false, true, true, 0⟩],
      [], [], ⟨some .warn, some 4, fun _ => []⟩, 0⟩, [⟨0, context, .active .attended⟩], []⟩

theorem Machine.attached_filed (U : Userland) (data : Bytes) :
    (filed U data).Attached 0 .filed data where
  sound := by
    refine sound_singleton ⟨by simp [Object.pipe?], by simp [FileSystem.PipesBelow]⟩ ?_ rfl
    rintro (_ | _ | _ | fd) e he <;> cases he <;> simp
  attended := ⟨_, rfl, rfl⟩
  outputs id hid := by
    simp only [Streams.filed, List.mem_cons, List.not_mem_nil, or_false] at hid
    rcases hid with rfl | rfl <;> simp [filed]
  apart id hid := by
    simp only [Streams.filed, List.mem_cons, List.not_mem_nil, or_false] at hid
    rcases hid with rfl | rfl <;> simp [Streams.filed]
  journal id hid := by
    cases hid
    simp [Streams.filed]
  source := nofun
  uses _ := by
    refine ⟨⟨⟨_, _, rfl, rfl, rfl⟩, ⟨_, _, rfl, rfl, rfl, rfl, rfl⟩, fun pipe hpipe => ?_⟩,
      ⟨_, rfl, fun fd e hfd he => ⟨3, by simp [Streams.filed], ?_⟩⟩, fun id hid hfull => ?_⟩
    · cases hpipe
    · rcases hfd with rfl | rfl <;> cases he <;> rfl
    · simp only [Streams.filed, List.mem_cons, List.not_mem_nil, or_false] at hid
      rcases hid with rfl | rfl <;> cases hfull

/-- Programs that tell by their code whether standard output is empty. -/
def Userland.curious : Userland where
  State := Option Nat
  action
    | none => .call (.statusFd Fd.stdout) fun
      | .ok (status, _) => some (if status.size = 0 then 1 else 0)
      | .error _ => some 2
    | some code => .halt code
  start _ := none

namespace Interactive

/-- The state in which the small session starts. -/
def fresh (κ : Type) : Interactive (Editor.plain κ) := ⟨0, [], .empty⟩

/-- A session with a user gets a last line with its carriage return. -/
theorem same_turns_return : ∃ t t' : Turn .idle,
    ((CommandLine.observed (.brisk .idle)).run 1 0 0 (.filed .idle [0x2F, 0x61, 0x0D])).2 = [t] ∧
    ((observed (.plain _) (.brisk .idle) [0x2F, 0x68]).run (.ofName []) (fun _ text => text) 1
      (fresh _) 0 (.filed .idle [0x2F, 0x61, 0x0D])).2 = [t'] ∧
    t.line = [0x2F, 0x61] ∧ t'.line = [0x2F, 0x61, 0x0D] ∧
    t.outcome.result? = some (.goOn, 0) ∧ t'.outcome.result? = some (.goOn, 0) := by
  have hscript : ((CommandLine.observed (.brisk .idle)).run 1 0 0
      (.filed .idle [0x2F, 0x61, 0x0D])).2.map (fun t => (t.line, t.outcome.result?)) =
        [([0x2F, 0x61], some (.goOn, 0))] := by
    decide +kernel
  have hsteps : ((CommandLine.observed (.brisk .idle)).run 1 0 0
      (.filed .idle [0x2F, 0x61, 0x0D])).2.all (fun t =>
        (Session.steps (.brisk .idle) t.line 0 t.machine).all fun x =>
          Streams.filed.steps (Task.dynamics .idle (Runner.brisk .idle).executor) x.1 x.2) =
            true := by
    decide +kernel
  have hhistory : ((Machine.filed .idle [0x2F, 0x61, 0x0D]).store.openPath
      { Context.bare with
        descriptors := ⟨[some ⟨0, false⟩, some ⟨1, false⟩, some ⟨1, false⟩]⟩ }
      [0x2F, 0x68] .reading 0).isOk = false := by
    decide +kernel
  obtain ⟨t, hturns, ht⟩ := List.map_eq_singleton_iff.mp hscript
  obtain ⟨hline, hresult⟩ := Prod.mk.inj ht
  obtain ⟨n, houtcome⟩ := Progress.exists_of_result? hresult
  obtain ⟨turns, turns', ending, ending', v, hscript, -, htalk, -, -, hmatches, hlines, -⟩ :=
    same_turns (.brisk .idle) [0x2F, 0x68] (.ofName []) (fun _ text => text)
      (Machine.attached_filed .idle [0x2F, 0x61, 0x0D]) rfl (Editor.offTerminal_plain rfl)
      [] rfl .empty rfl rfl
      (fun o ho => by simp [ho, Except.isOk, Except.toBool] at hhistory)
      (Streams.heedless_oldestFirst _ _) (by decide +kernel) (by decide) 1
      (by simpa using hsteps)
  rw [hscript] at hturns
  rw [hscript, fresh, htalk]
  subst hturns
  rcases hlines.of_notMem (by decide) with ⟨hnone, -⟩ | ⟨-, t, t', ht, rfl, -, hline'⟩
  · cases hnone
  · cases ht
    cases hmatches with
    | cons hmatch =>
      obtain ⟨n', houtcome', -⟩ := hmatch.effects houtcome
      exact ⟨t, t', rfl, rfl, hline, hline', hresult, by rw [houtcome']; rfl⟩

/-- A program that looks at standard output sees whether the session has said anything. -/
theorem turns_differ :
    (∀ state fd count next, Userland.curious.action state ≠ .call (.read fd count) next) ∧
    Utf8.isValid [0x2F, 0x61] = true ∧ 0x08 ∉ ([0x2F, 0x61] : Bytes) ∧
    ((CommandLine.observed (.brisk .curious)).run 1 0 0 (.filed .curious [0x2F, 0x61])).2.map
      (·.outcome.result?) = [some (.goOn, 1)] ∧
    ((observed (.plain _) (.brisk .curious) [0x2F, 0x68]).run (.ofName []) (fun _ text => text) 1
      (fresh _) 0 (.filed .curious [0x2F, 0x61])).2.map (·.outcome.result?) =
        [some (.goOn, 0)] := by
  refine ⟨?_, by decide +kernel, by decide, by decide +kernel, by decide +kernel⟩
  rintro (_ | code) fd count next h <;> cases h

end Interactive

end PipeShell
