import Mathlib
import PipeShell.Proofs.Executor.Events
import PipeShell.Proofs.Machine.Moves
import PipeShell.Proofs.Machine.Targets
import PipeShell.Proofs.Machine.Working
import PipeShell.Proofs.Settings.Mode
import PipeShell.Settings.Dotenv
import PipeShell.Settings.Load

/-!
# What loading the settings does

What loads a variable file may set variables that are no texts yet, and changes no file
(`Work.Preserving`); the loader of the executable is like that (`Dotenv.preserving_load`). When it
is done, the settings are known, and only then are directories made, while the variables stay as
they are (`Settings.makeAll_returns`). So a mode that cannot be read leaves all files as they were
(`Settings.parseMode_load`).
-/

namespace PipeShell

/-! ## Variables -/

namespace Environment

variable {env : Environment} {name other value v : Bytes}

theorem lookup_set_of_ne (h : name ≠ other) :
    (env.set other value).get? name = env.get? name := by
  have hbeq : (name == other) = false := beq_false_of_ne h
  unfold set get?
  split
  · clear * - h hbeq
    induction env with
    | nil => rfl
    | cons w env ih =>
      rw [List.map_cons, List.lookup_cons, List.lookup_cons, ih]
      by_cases hkey : w.1 = other
      · simp [hkey, hbeq]
      · simp [hkey]
  · rw [List.lookup_append]
    simp [List.lookup_cons, hbeq]

/-- The variables that are texts stay as they are. -/
def Extends (env' env : Environment) : Prop :=
  ∀ name v, env.text? name = some v → env'.text? name = some v

theorem Extends.refl (env : Environment) : env.Extends env := fun _ _ h => h

theorem Extends.trans {env₁ env₂ env₃ : Environment} (h : env₃.Extends env₂)
    (h' : env₂.Extends env₁) : env₃.Extends env₁ :=
  fun name v hv => h name v (h' name v hv)

/-- A variable that is no text may be set. -/
theorem extends_set (h : env.text? other = none) (value : Bytes) :
    (env.set other value).Extends env := by
  intro name v hv
  have hne : name ≠ other := by
    rintro rfl
    rw [h] at hv
    cases hv
  rwa [text?, lookup_set_of_ne hne, ← text?]

end Environment

/-! ## What stays as it is -/

variable {κ α β : Type} {m n : Machine κ} {p : Pid}

/-- The files are the same in both machines, and so are the variables of process `p` that are
texts. -/
structure Machine.Preserved (m : Machine κ) (p : Pid) (n : Machine κ) : Prop where
  files : n.store.files = m.store.files
  process : ∀ proc, m.processes[p]? = some proc → ∃ proc', n.processes[p]? = some proc' ∧
    proc'.context.environment.Extends proc.context.environment

theorem Machine.Preserved.refl (m : Machine κ) (p : Pid) : m.Preserved p m :=
  ⟨rfl, fun proc hp => ⟨proc, hp, .refl _⟩⟩

theorem Machine.Preserved.trans {o : Machine κ} (h : m.Preserved p n) (h' : n.Preserved p o) :
    m.Preserved p o := by
  refine ⟨h'.files.trans h.files, fun proc hp => ?_⟩
  obtain ⟨proc', hp', hext⟩ := h.process proc hp
  obtain ⟨proc'', hp'', hext'⟩ := h'.process proc' hp'
  exact ⟨proc'', hp'', hext'.trans hext⟩

/-- A call that is over preserves what it has left in the store and in the context. -/
theorem Machine.Preserved.of_call {c : Call} {reply : c.Reply}
    (h : (Calling.call c : Work κ c.Reply) p m = .finished reply n)
    (hcall : ∀ proc (store : Store) (context : Context), m.processes[p]? = some proc →
      c.perform m.store proc.context m.held (Pid.number p) (m.parentNumber proc) =
        .done reply store context →
      store.files = m.store.files ∧ context.environment.Extends proc.context.environment) :
    m.Preserved p n := by
  obtain ⟨proc, store, context, hp, hdone, rfl⟩ := Work.call_finished.mp h
  obtain ⟨hfiles, hext⟩ := hcall proc store context hp hdone
  refine ⟨hfiles, fun proc' hp' => ⟨{ proc with context }, ?_, ?_⟩⟩
  · exact (Machine.getElem?_setProcess (by exact hp) _ p).trans (if_pos rfl)
  · obtain rfl := Option.some.inj (hp.symm.trans hp')
    exact hext

namespace Work

/-- Work that changes no file and no variable that is a text, whenever it is finished. -/
def Preserving (w : Work κ α) : Prop :=
  ∀ ⦃p m a n⦄, w p m = .finished a n → m.Preserved p n

theorem Preserving.pure (a : α) : (pure a : Work κ α).Preserving := by
  rintro p m _ _ ⟨⟩
  exact .refl m p

theorem Preserving.bind {w : Work κ α} {f : α → Work κ β} (hw : w.Preserving)
    (hf : ∀ a, (f a).Preserving) : (w >>= f).Preserving := by
  intro p m b n h
  obtain ⟨a, o, ha, hb⟩ := bind_finished.mp h
  exact (hw ha).trans (hf a hb)

/-- A call that asks for something. -/
theorem preserving_query {c : Call} (hc : ∀ (store : Store) (context : Context)
    (held : Object → Bool) (pid parent : Nat), ∃ reply,
      c.perform store context held pid parent = .done reply store context) :
    (Calling.call c : Work κ c.Reply).Preserving := by
  refine fun p m a n h => .of_call h fun proc store context _ hdone => ?_
  obtain ⟨reply, hquery⟩ := hc m.store proc.context m.held (Pid.number p) (m.parentNumber proc)
  cases hquery.symm.trans hdone
  exact ⟨rfl, .refl _⟩

end Work

/-! ## The variable file -/

namespace Dotenv

theorem preserving_open (path : Bytes) :
    (Calling.openForReading path : Work κ (Except Errno Fd)).Preserving := by
  refine fun p m a n h => .of_call h fun proc store context _ hdone => ?_
  simp only [Call.perform] at hdone
  cases hopening : proc.context.opening with
  | some o =>
    simp only [Store.openFile, hopening] at hdone
    split at hdone <;> cases hdone
    exact ⟨rfl, .refl _⟩
  | none =>
    rcases m.store.openFile_opens hopening m.held path .reading 0 with
      ⟨e, hopen⟩ | ⟨o, s', hpath, -, hfiles, -, -, hopen | ⟨opening, -, hopen⟩⟩ <;>
      cases hopen.symm.trans hdone
    · exact ⟨rfl, .refl _⟩
    · obtain ⟨_, _, hsame, -⟩ := Store.openPath_reading_ok hpath
      exact ⟨hfiles.trans hsame, .refl _⟩

theorem preserving_read (fd : Fd) (count : Nat) :
    (Calling.call (.read fd count) : Work κ (Except Errno Bytes)).Preserving := by
  refine fun p m a n h => .of_call h fun proc store context _ hdone => ?_
  simp only [Call.perform, Store.read] at hdone
  repeat' split at hdone
  all_goals
    cases hdone
    try exact ⟨rfl, .refl _⟩

theorem preserving_readFrom (fd : Fd) (fuel : Nat) (blocks : List Bytes) :
    (Calling.readFrom fd fuel blocks : Work κ (Bytes × Option Errno)).Preserving := by
  induction fuel generalizing blocks with
  | zero => exact .pure _
  | succ fuel ih =>
    unfold Calling.readFrom
    refine (preserving_read fd _).bind fun reply => ?_
    split
    · exact .pure _
    · exact .pure _
    · exact ih _

theorem preserving_close (fd : Fd) : (Calling.close fd : Work κ Unit).Preserving := by
  have hclose : (Calling.call (.close fd) : Work κ (Except Errno Unit)).Preserving := by
    refine fun p m a n h => .of_call h fun proc store context _ hdone => ?_
    simp only [Call.perform, Store.close] at hdone
    split at hdone <;> cases hdone <;> exact ⟨rfl, .refl _⟩
  exact hclose.bind fun _ => .pure ()

theorem preserving_find (name : Bytes) (fuel : Nat) (directory : Bytes) :
    (find name fuel directory : Work κ (Option Bytes)).Preserving := by
  have hstatus (path : Bytes) :
      (Calling.call (.status path) : Work κ (Except Errno FileStatus)).Preserving :=
    Work.preserving_query fun _ _ _ _ _ => ⟨_, rfl⟩
  induction fuel generalizing directory with
  | zero => exact .pure none
  | succ fuel ih =>
    unfold find
    refine (hstatus _).bind fun reply => ?_
    cases reply with
    | ok status =>
      dsimp only
      split
      · exact .pure _
      · split
        · exact ih _
        · exact .pure none
    | error e =>
      dsimp only
      split
      · split
        · exact ih _
        · exact .pure none
      · exact .pure none

/-- Only variables that are no texts are set. -/
theorem preserving_applyLines (known : Environment) (lines : List Bytes) :
    (applyLines known lines : Work κ Unit).Preserving := by
  induction lines generalizing known with
  | nil => exact .pure ()
  | cons line lines ih =>
    unfold applyLines
    split
    · exact .pure ()
    intro p m _ n h
    obtain ⟨environment, m', henvironment, hrest⟩ := Work.bind_finished.mp h
    obtain ⟨proc, _, _, hp, hdone, rfl⟩ := Work.call_finished.mp henvironment
    cases hdone
    rw [Machine.setProcess_self hp] at hrest
    dsimp only at hrest
    generalize EnvFile.line _ _ = found at hrest
    cases found with
    | blank => exact ih known hrest
    | refused =>
      cases hrest
      exact .refl m p
    | setting name value =>
      dsimp only at hrest
      split at hrest
      · next hunset =>
        have hset (value : Bytes) {o : Machine κ} {reply : Unit}
            (h : (Calling.call (.setEnvironment (proc.context.environment.set (Utf8.encode name)
              value)) : Work κ Unit) p m = .finished reply o) : m.Preserved p o := by
          refine .of_call h fun proc' store context hp' hdone => ?_
          obtain rfl := Option.some.inj (hp.symm.trans hp')
          cases hdone
          exact ⟨rfl, Environment.extends_set (Option.isNone_iff_eq_none.mp hunset) value⟩
        split at hrest
        · cases hrest
        · obtain ⟨_, o, hcall, hlast⟩ := Work.bind_finished.mp hrest
          exact (hset _ hcall).trans (ih _ hlast)
      · exact ih _ hrest

/-- The loader of the executable changes no file and no variable that is a text. -/
theorem preserving_load (name : Bytes) : (load name : Work κ Unit).Preserving := by
  have hdirectory : (Calling.call .currentDirectory : Work κ (Except Errno Bytes)).Preserving :=
    Work.preserving_query fun _ _ _ _ _ => ⟨_, rfl⟩
  refine hdirectory.bind fun reply => ?_
  cases reply with
  | error e => exact .pure ()
  | ok directory =>
    refine (preserving_find name _ directory).bind fun found => ?_
    cases found with
    | none => exact .pure ()
    | some path =>
      refine (preserving_open path).bind fun opened => ?_
      cases opened with
      | error e => exact .pure ()
      | ok fd =>
        refine (preserving_readFrom fd _ []).bind fun found => ?_
        exact (preserving_close fd).bind fun _ => preserving_applyLines [] _

end Dotenv

/-! ## Directories -/

/-- Process `p` has these variables, and these are the files. -/
structure Machine.Stands (m : Machine κ) (p : Pid) (files : FileSystem) (env : Environment) :
    Prop where
  files : m.store.files = files
  process : ∃ proc, m.processes[p]? = some proc ∧ proc.context.environment = env

/-- Work of process `p` is finished, with a result and a machine that `Q` holds of. -/
abbrev Work.Returns (w : Work κ α) (p : Pid) (m : Machine κ) (Q : α → Machine κ → Prop) : Prop :=
  (w p m).Ensures Q (fun _ _ => False) False

namespace Machine.Stands

open Calling (call)

variable {files : FileSystem} {env : Environment}

theorem environment (h : m.Stands p files env) :
    (call .environment : Work κ Environment).Returns p m fun r n => r = env ∧ n = m := by
  obtain ⟨proc, hp, rfl⟩ := h.process
  exact Work.ensures_call hp ⟨rfl, setProcess_self hp⟩

theorem status (h : m.Stands p files env) (path : Bytes) :
    (call (.status path) : Work κ (Except Errno FileStatus)).Returns p m fun _ n => n = m := by
  obtain ⟨proc, hp, -⟩ := h.process
  exact Work.ensures_call hp (setProcess_self hp)

/-- The files may change, but the variables stay as they are. -/
theorem makeDirectory (h : m.Stands p files env) (path : Bytes) :
    (call (.makeDirectory path) : Work κ (Except Errno Unit)).Returns p m fun _ n =>
      ∃ files', n.Stands p files' env := by
  obtain ⟨proc, hp, rfl⟩ := h.process
  have hstands (s : Store) : ({ m with store := s }.setProcess p proc).Stands p s.files
      proc.context.environment :=
    ⟨rfl, proc, (getElem?_setProcess (by exact hp) proc p).trans (if_pos rfl), rfl⟩
  refine Work.ensures_call hp ?_
  simp only [Call.perform]
  cases m.store.files.makeDirectory (m.store.view proc.context) proc.context.umask path with
  | ok files' => exact ⟨files', hstands { m.store with files := files' }⟩
  | error e => exact ⟨_, hstands m.store⟩

end Machine.Stands

namespace Settings

variable {files : FileSystem} {env : Environment}

theorem isDirectory_returns (h : m.Stands p files env) (path : Bytes) :
    (isDirectory path : Work κ Bool).Returns p m fun _ n => n.Stands p files env := by
  refine Work.ensures_bind (h.status path) fun reply n hn => ?_
  cases reply with
  | ok | error => exact hn ▸ h

theorem makeLast_returns (h : m.Stands p files env) (path : Bytes) :
    (makeLast path : Work κ (Except Errno Unit)).Returns p m fun _ n =>
      ∃ files', n.Stands p files' env := by
  refine Work.ensures_bind (h.makeDirectory path) fun reply n hn => ?_
  obtain ⟨files', hn⟩ := hn
  cases reply with
  | ok => exact ⟨files', hn⟩
  | error e =>
    refine Work.ensures_bind (isDirectory_returns hn path) fun holds n hn => ?_
    cases holds <;> exact ⟨files', hn⟩

theorem makeAll_returns (h : m.Stands p files env) (fuel : Nat) (path : Bytes) :
    (makeAll fuel path : Work κ (Except Errno Unit)).Returns p m fun _ n =>
      ∃ files', n.Stands p files' env := by
  induction fuel generalizing m files path with
  | zero => exact ⟨files, h⟩
  | succ fuel ih =>
    unfold makeAll
    split
    · exact ⟨files, h⟩
    refine Work.ensures_bind (h.makeDirectory path) fun reply n hn => ?_
    obtain ⟨files', hn⟩ := hn
    cases reply with
    | ok => exact ⟨files', hn⟩
    | error e =>
      simp only
      split
      · refine Work.ensures_bind (isDirectory_returns hn path) fun holds n hn => ?_
        cases holds <;> exact ⟨files', hn⟩
      · cases Path.parent? path with
        | none => exact ⟨files', hn⟩
        | some parent =>
          refine Work.ensures_bind (ih hn parent) fun reply n hn => ?_
          obtain ⟨files', hn⟩ := hn
          cases reply with
          | error e => exact ⟨files', hn⟩
          | ok => exact makeLast_returns hn path

/-! ## The mode -/

/-- The variable that the mode is read from. -/
def modeVariable : Bytes := Bytes.ofString "TINYSH_REDIRECT_MODE"

/-- The mode that variables set: what their text says, if it says something, or else the default. -/
def HasMode (env : Environment) (mode : Nat) : Prop :=
  (env.text? modeVariable = none ∧ mode = 0o644) ∨
    ∃ v, env.text? modeVariable = some v ∧ parseMode (Utf8.chars v) = some mode

theorem ofEnvironment_cases (env : Environment) :
    (∃ v, env.text? modeVariable = some v ∧ parseMode (Utf8.chars v) = none ∧
      ofEnvironment env = .error (.invalidMode v)) ∨
    ∃ settings, ofEnvironment env = .ok settings ∧ HasMode env settings.redirectMode := by
  unfold ofEnvironment HasMode
  simp only
  rw [← modeVariable]
  cases hv : env.text? modeVariable with
  | none => exact .inr ⟨_, rfl, .inl ⟨rfl, rfl⟩⟩
  | some v =>
    cases hmode : parseMode (Utf8.chars v) with
    | none =>
      refine .inl ⟨v, rfl, hmode, ?_⟩
      simp only [hmode]
    | some mode =>
      simp only [hmode]
      exact .inr ⟨_, rfl, .inr ⟨v, rfl, hmode⟩⟩

/-- How the settings turn out if the variables are `env`, and the files were `files` at the
beginning and are `files'` at the end. -/
def TurnsOut (env : Environment) (files files' : FileSystem) (result : Except StartError Settings) :
    Prop :=
  (∃ v, env.text? modeVariable = some v ∧ parseMode (Utf8.chars v) = none ∧
    result = .error (.invalidMode v) ∧ files' = files) ∨
  ∃ mode, HasMode env mode ∧ ∀ settings, result = .ok settings → settings.redirectMode = mode

theorem load_returns {loader : Bytes → Work κ Unit} {debug : Bool}
    (hloader : loader (envFileName debug) p m = .finished () n) (h : n.Stands p files env) :
    (load loader debug).Returns p m fun result o =>
      ∃ files', o.Stands p files' env ∧ TurnsOut env files files' result := by
  have hloaded : (loader (envFileName debug)).Returns p m fun _ o => o = n := by
    rw [Work.Returns, hloader]
    exact rfl
  refine Work.ensures_bind hloaded fun _ o ho => ?_
  subst ho
  refine Work.ensures_bind h.environment fun environment o ho => ?_
  obtain ⟨rfl, rfl⟩ := ho
  obtain ⟨v, hv, hmode, hof⟩ | ⟨settings, hof, hmode⟩ := ofEnvironment_cases environment
  · rw [hof]
    exact ⟨files, h, .inl ⟨v, hv, hmode, rfl, rfl⟩⟩
  · have houtcome (files' : FileSystem) {result : Except StartError Settings}
        (hresult : ∀ settings', result = .ok settings' → settings' = settings) :
        TurnsOut environment files files' result :=
      .inr ⟨_, hmode, fun settings' h => congrArg redirectMode (hresult settings' h)⟩
    rw [hof]
    dsimp only
    cases Path.parent? settings.historyFile with
    | none => exact ⟨files, h, houtcome _ fun _ h => (Except.ok.inj h).symm⟩
    | some parent =>
      refine Work.ensures_bind (makeAll_returns h _ parent) fun made n hmade => ?_
      obtain ⟨files', hn⟩ := hmade
      cases made with
      | ok => exact ⟨files', hn, houtcome _ fun _ h => (Except.ok.inj h).symm⟩
      | error e => exact ⟨files', hn, houtcome _ nofun⟩

/-- A mode is read as it is written, and no other is ever set.

What can be read are the ways to write a number that is not too large, and the number is kept. The
variables may be set by any loader of variable files that changes no file and leaves variables that
are texts as they are. When it is done, loading the settings always comes to an end, and a variable
that was a text at the beginning is the same text then. If the mode is a text that cannot be read,
loading fails because of that text and has changed no file. Otherwise settings that are returned
have the mode of the text, or the default if there is no text. -/
theorem parseMode_load {loader : Bytes → Work κ Unit} (debug : Bool) {proc : Process κ}
    (hpreserving : ∀ name, (loader name).Preserving) (hp : m.processes[p]? = some proc)
    (hloader : loader (envFileName debug) p m = .finished () n) :
    (∀ v mode, parseMode v = some mode ↔
      ∃ t : ModeText, t.text = v ∧ t.value = mode ∧ mode ≤ maxMode) ∧
    (∀ t : ModeText, maxMode < t.value → parseMode t.text = none) ∧
    ∃ result o proc', load loader debug p m = .finished result o ∧ o.processes[p]? = some proc' ∧
      (∀ v, proc.context.environment.text? modeVariable = some v →
        proc'.context.environment.text? modeVariable = some v) ∧
      (∀ v, proc'.context.environment.text? modeVariable = some v →
        parseMode (Utf8.chars v) = none → result = .error (.invalidMode v) ∧
          (StartError.invalidMode v).kind = "InvalidInput" ∧ o.store.files = m.store.files) ∧
      ∀ settings, result = .ok settings →
        HasMode proc'.context.environment settings.redirectMode := by
  refine ⟨fun _ _ => parseMode_eq_some_iff, fun _ => parseMode_of_too_large, ?_⟩
  obtain ⟨hfiles, hprocess⟩ := hpreserving _ hloader
  obtain ⟨proc₁, hp₁, hext⟩ := hprocess proc hp
  have hload := load_returns hloader ⟨hfiles, proc₁, hp₁, rfl⟩
  cases hrun : load loader debug p m with
  | ended | stuck =>
    rw [Work.Returns, hrun] at hload
    exact hload.elim
  | finished result o =>
    rw [Work.Returns, hrun] at hload
    obtain ⟨files', ⟨rfl, proc', hp', henv⟩, hout⟩ := hload
    rw [← henv] at hext hout
    refine ⟨result, o, proc', rfl, hp', hext _, fun v hv hnone => ?_, fun settings hok => ?_⟩
    · obtain ⟨v', hv', -, rfl, hsame⟩ | ⟨mode, ⟨hunset, -⟩ | ⟨v', hv', hmode⟩, -⟩ := hout
      · obtain rfl := Option.some.inj (hv.symm.trans hv')
        exact ⟨rfl, rfl, hsame⟩
      · rw [hunset] at hv
        cases hv
      · obtain rfl := Option.some.inj (hv.symm.trans hv')
        rw [hmode] at hnone
        cases hnone
    · obtain ⟨v, -, -, rfl, -⟩ | ⟨mode, hmode, hsettings⟩ := hout
      · cases hok
      · exact hsettings settings hok ▸ hmode

/-- A machine whose only process has a mode among its variables. -/
def withMode (text : Bytes) : Machine Unit :=
  ⟨⟨.empty, [], [], [], .silent, 0⟩,
    [⟨0, { Context.bare with environment := [(modeVariable, text)] }, .active ()⟩], []⟩

/-- The digit nine is not octal, so loading fails. -/
theorem load_nine : ∃ n, (load Dotenv.load true : Work Unit _) 0 (withMode [0x39]) =
    .finished (.error (.invalidMode [0x39])) n ∧ n.store.files = .empty := by
  obtain ⟨o, hloader⟩ : ∃ o, (Dotenv.load (envFileName true) : Work Unit Unit) 0
      (withMode [0x39]) = .finished () o :=
    Progress.exists_of_result? (by decide +kernel)
  obtain ⟨-, -, result, n, proc', hload, -, hkeep, hrefused, -⟩ :=
    parseMode_load true Dotenv.preserving_load rfl hloader
  have hnone : parseMode (Utf8.chars [0x39]) = none := by decide +kernel
  obtain ⟨rfl, -, hfiles⟩ := hrefused [0x39] (hkeep [0x39] (by decide +kernel)) hnone
  exact ⟨n, hload, hfiles⟩

end Settings

end PipeShell
