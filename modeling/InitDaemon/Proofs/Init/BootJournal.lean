import InitDaemon.Proofs.Init.StepRecords
import InitDaemon.Proofs.Process.Waiting

/-!
# What the journal of a boot tells

The boot chain tries the rescue shell and the session task tries the session, each of them once at
most, and both ask for another power state only with a reason. Each entry is judged by those before
it.
-/

namespace InitDaemon.Journal

/-- The rescue shell has just been spawned. -/
def ShellSpawned (command : String) (pid : Pid) (journal : List Record) : Prop :=
  ∃ time time' time'' earlier, journal = ⟨time'', .spawned pid (Text.wordsOf command)⟩ ::
    ⟨time', .notice .rescueHelp⟩ :: ⟨time, .notice .rescueEntered⟩ :: earlier

/-- The wait for the rescue shell has just ended. -/
def ShellEnded (journal : List Record) : Prop :=
  ∃ pid time earlier, journal = ⟨time, .waitedBlocking pid true⟩ :: earlier

/-- The session could not be spawned. -/
def SessionUnborn (journal : List Record) : Prop :=
  ∃ e time time' earlier, journal =
    ⟨time', .notice .sessionEnded⟩ :: ⟨time, .notice (.sessionSpawnFailed e)⟩ :: earlier

/-- The session was spawned when it was tried. -/
def SessionSpawned (command : String) (pid : Pid) (journal : List Record) : Prop :=
  ∃ time time' earlier, journal = ⟨time', .spawned pid (Text.wordsOf command)⟩ ::
    ⟨time, .notice .sessionStarting⟩ :: earlier

/-- The rescue shell was spawned or could not be. -/
def ShellTried (command : String) (journal : List Record) : Prop :=
  (∃ pid tried, ShellSpawned command pid tried ∧ tried <:+ journal) ∨
    ∃ e, Told (.rescueSpawnFailed e) journal

/-- The session was spawned or could not be. -/
def SessionTried (command : String) (journal : List Record) : Prop :=
  (∃ pid tried, SessionSpawned command pid tried ∧ tried <:+ journal) ∨
    ∃ e, Told (.sessionSpawnFailed e) journal

/-- The process of the session has been collected. -/
def SessionOver (command : String) (journal : List Record) : Prop :=
  ∃ pid tried, SessionSpawned command pid tried ∧ Reaps pid tried journal

variable {config : Config} {chain id : TaskId} {state : PowerState} {cause : PowerCause}
  {journal journal' earlier : List Record} {r : Record} {e : Entry} {n : Notice}

/-- Whether a task has a reason to ask for another power state. The session task comes right after
the boot chain. -/
def PowerFits (config : Config) (chain id : TaskId) (state : PowerState) (earlier : List Record) :
    PowerCause → Prop
  | .signal => True
  | .rescue => id = chain ∧ ShellEnded earlier
  | .session => id = chain + 1 ∧ state = .off ∧
    (SessionUnborn earlier ∨ SessionOver config.session earlier)
  | .request => False

/-- Whether an entry may stand after the earlier ones. -/
def Fits (config : Config) (chain : TaskId) (earlier : List Record) : Entry → Prop
  | .notice .rescueEntered => ¬ Told .rescueEntered earlier ∧
    ∃ e, outcomeAfter? earlier config.bootTarget = some (.error e)
  | .waitedBlocking pid suspended => suspended = true ∧ ShellSpawned config.rescue pid earlier
  | .notice .sessionStarting => ¬ Told .sessionStarting earlier ∧
    ∀ unit ∈ config.foundation, outcomeAfter? earlier unit = some (.ok ())
  | .powerRequested id cause state => PowerFits config chain id state earlier cause
  | _ => True

/-- Every entry fits. -/
def Conducts (config : Config) (chain : TaskId) : List Record → Prop
  | [] => True
  | r :: earlier => Fits config chain earlier r.entry ∧ Conducts config chain earlier

/-- The power state that the boot chain asks for after the rescue shell. -/
def rescuePower? (r : Record) : Option PowerState :=
  match r.entry with
  | .powerRequested _ .rescue state => some state
  | _ => none

theorem ShellTried.mono {command : String} (h : ShellTried command journal)
    (hsuffix : journal <:+ journal') : ShellTried command journal' := by
  rcases h with ⟨pid, tried, hspawned, htried⟩ | ⟨e, htold⟩
  · exact .inl ⟨pid, tried, hspawned, htried.trans hsuffix⟩
  · exact .inr ⟨e, htold.mono hsuffix⟩

theorem SessionTried.mono {command : String} (h : SessionTried command journal)
    (hsuffix : journal <:+ journal') : SessionTried command journal' := by
  rcases h with ⟨pid, tried, hspawned, htried⟩ | ⟨e, htold⟩
  · exact .inl ⟨pid, tried, hspawned, htried.trans hsuffix⟩
  · exact .inr ⟨e, htold.mono hsuffix⟩

theorem fits_of_not_turn (he : ¬ e.IsTurn) : Fits config chain earlier e := by
  cases e with
  | notice n =>
    cases n with
    | rescueEntered | sessionStarting => exact absurd trivial he
    | _ => trivial
  | waitedBlocking | powerRequested => exact absurd trivial he
  | _ => trivial

theorem not_turn_of_mute (he : e.IsMute) : ¬ e.IsTurn := by
  cases e with
  | notice n =>
    cases n with
    | rescueEntered | sessionStarting => exact he.elim
    | _ => exact id
  | waitedBlocking | powerRequested => exact he.elim
  | _ => exact id

theorem rescuePower?_of_ne (h : ∀ id state, r.entry ≠ .powerRequested id .rescue state) :
    rescuePower? r = none := by
  rw [rescuePower?]
  split
  next heq => exact absurd heq (h _ _)
  next => rfl

theorem Gains.conducts (h : Gains (fun e => ¬ e.IsTurn) journal journal')
    (hjournal : Conducts config chain journal) : Conducts config chain journal' := by
  obtain ⟨new, rfl, hnew⟩ := h
  induction new with
  | nil => exact hjournal
  | cons r new ih =>
    obtain ⟨hr, hnew⟩ := List.forall_mem_cons.mp hnew
    exact ⟨fits_of_not_turn hr, ih hnew⟩

theorem Gains.rescuePowers (h : Gains (fun e => ∀ id state, e ≠ .powerRequested id .rescue state)
    journal journal') : journal'.filterMap rescuePower? = journal.filterMap rescuePower? := by
  obtain ⟨new, rfl, hnew⟩ := h
  have hnone : new.filterMap rescuePower? = [] :=
    List.filterMap_eq_nil_iff.mpr fun r hr => rescuePower?_of_ne (hnew r hr)
  rw [List.filterMap_append, hnone, List.nil_append]

end InitDaemon.Journal
