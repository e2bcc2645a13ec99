import PipeShell.Proofs.Shell.Lockstep

/-!
# A session does not look at its log

What was written to the log does not matter for what a session does. If nothing is hidden but what
the log holds (`Machine.log`), a session is beside itself (`Machine.Logs.abreast`), and lists of
lines that ask for the same come to the same in machines that are seen alike, provided that the
programs do not look at the log either (`Veil.Abreast.summary`): the session ends in the same way,
with as many lines left and the same status, or its process ends in the same way, or it goes on for
ever.
-/

namespace PipeShell

variable {U : Userland} {m m' : Machine (Task U.State)} {p : Pid} {r : Runner U}

/-! ## The log -/

/-- All that is hidden from somebody who does not look at the log. -/
def Machine.log {κ : Type} (m : Machine κ) : Streams := ⟨none, none, m.store.journal.file.toList⟩

/-- Process `p` is a session, and the file of its log is there if it has one. -/
structure Machine.Logs (m : Machine (Task U.State)) (p : Pid) : Prop where
  sound : m.Sound
  attended : ∃ proc, m.processes[p]? = some proc ∧ proc.life = .active .attended
  file : ∀ id, m.store.journal.file = some id → id < m.store.files.nodes.length

theorem Machine.Logs.attached (h : m.Logs p) : m.Attached p m.log [] where
  sound := h.sound
  attended := h.attended
  outputs id hid := h.file id (Option.mem_toList.mp hid)
  apart _ _ hsource := by cases hsource
  journal id hid := Option.mem_toList.mpr hid
  source _ := rfl
  uses hinput := by cases hinput

theorem Machine.Logs.abreast (h : m.Logs p) : (m.veil m.log []).Abreast p [] [] m m :=
  h.attached.abreast

namespace Session

/-! ## Lists of lines -/

/-- The steps that are made while lines are handled. -/
def stepsAll (r : Runner U) : List Bytes → Nat → Pid → Machine (Task U.State) →
    List (Machine (Task U.State) × Pid)
  | [], _, _, _ => []
  | line :: lines, status, p, m => steps r line p m ++
    match handle r line status p m with
    | .finished (.goOn, status) m => stepsAll r lines status p m
    | _ => []

theorem stepsAll_goOn {line : Bytes} {lines : List Bytes} {status status' : Nat}
    (h : handle r line status p m = .finished (.goOn, status') m') :
    stepsAll r (line :: lines) status p m = steps r line p m ++ stepsAll r lines status' p m' := by
  rw [stepsAll, h]

/-- Handles lines; gives how the session ends, how many lines are left then, and the status. -/
def summary (r : Runner U) (lines : List Bytes) (status : Nat) :
    Work (Task U.State) (Ending Errno × Nat × Nat) :=
  (fun (ending, left, last) => (ending, left.length, last)) <$> handleAll r lines status

theorem summary_cons (line : Bytes) (lines : List Bytes) (status : Nat) :
    summary r (line :: lines) status = handle r line status >>= fun result =>
      match result.1 with
      | .goOn => summary r lines result.2
      | .leave => pure (.left, lines.length, result.2) := by
  funext p m
  rw [summary, handleAll_cons]
  simp only [Functor.map, bind]
  cases handle r line status p m with
  | finished result =>
    obtain ⟨flow, last⟩ := result
    cases flow <;> rfl
  | ended | stuck => rfl

end Session

/-- Lists of lines that ask for the same come to the same. -/
theorem Veil.Abreast.summary {v : Veil} {rest rest' : Bytes} (h : v.Abreast p rest rest' m m')
    (hpolicy : v.Heedless r.policy) {lines lines' : List Bytes}
    (hlines : lines'.map Request.ofLine = lines.map Request.ofLine) (status : Nat)
    (hsteps : ∀ x ∈ Session.stepsAll r lines status p m,
      v.steps (Task.dynamics U r.executor) x.1 x.2 = true) :
    Progress.Agree v (v.Same p rest rest') (Session.summary r lines status p m)
      (Session.summary r lines' status p m') := by
  induction lines generalizing m m' lines' status with
  | nil =>
    obtain rfl := List.map_eq_nil_iff.mp hlines
    exact h.pure _
  | cons line lines ih =>
    obtain ⟨line', lines', rfl, hline, hlines⟩ := List.map_eq_cons_iff.mp hlines
    have hsame := h.handle hpolicy hline status fun x hx =>
      hsteps x (List.mem_append_left _ hx)
    rw [Session.summary_cons, Session.summary_cons]
    refine hsame.bind ?_
    rintro _ ⟨flow, last⟩ n n' hhandle ⟨rfl, hn⟩
    cases flow with
    | goOn =>
      rw [Session.stepsAll_goOn hhandle] at hsteps
      exact ih hn hlines last fun x hx => hsteps x (List.mem_append_right _ hx)
    | leave =>
      have hlength : lines'.length = lines.length := by simpa using congrArg List.length hlines
      dsimp only
      rw [hlength]
      exact hn.pure _

end PipeShell
