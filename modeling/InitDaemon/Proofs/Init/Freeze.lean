import InitDaemon.Proofs.Init.PollSteps
import InitDaemon.Proofs.Init.StepRecords
import InitDaemon.Proofs.Init.StepTasks
import InitDaemon.Proofs.Process.Reaping

/-!
# Steps in a shutdown

Once a shutdown has begun, no step begins an action, launches a service or counts a crash. Units
that nobody has asked for before are turned down as soon as someone asks for them, and the starts
that are under way end when they get to their actions.
-/

namespace InitDaemon

open Std InitDaemon.Units InitDaemon.Journal

/-- Begins an action, performs a setup step or tells of the launch of a service. -/
def Entry.IsStart : Entry → Prop
  | .began _ | .hosted _ => True
  | .notice n => n.IsLaunch
  | _ => False

/-- The unit was turned down because of a shutdown, or because of a dependency. -/
inductive Declined (unit : String) : Outcome → Prop
  | shutdown : Declined unit (.error (.shuttingDown unit))
  | dependency (d reason : String) : Declined unit (.error (.dependency unit d reason))

/-- A service is launched from outside. -/
def Init.Move.IsLaunch {σ : Type} : Init.Move σ → Prop
  | .launch .. => True
  | _ => False

instance {σ : Type} : DecidablePred fun m : Init.Move σ => m.IsLaunch
  | .launch .. => .isTrue trivial
  | .poll _ | .pass _ | .change _ | .raise _ | .deliver | .ring | .takeBack | .request .. | .boot
  | .watch | .supervise _ | .power _ | .powerStage .. | .stopRestarts | .rescue | .spawn _
  | .spawnAndReport _ | .release _ | .tick _ => .isFalse id

theorem Entry.IsMute.not_isStart {e : Entry} (h : e.IsMute) : ¬ e.IsStart := by
  cases e with
  | notice n =>
    cases n with
    | targetReached | serviceStarted | restarting | restartingAfterPause | restartFailed =>
      exact h.elim
    | _ => exact id
  | began | hosted => exact h.elim
  | _ => exact id

namespace Init

variable {σ : Type} {s s' t t' : Init σ} {m : Move σ}

/-! ## The process table -/

theorem rests_freeze (sup : Supervisor σ) : sup.Rests sup.freeze := by
  rw [Supervisor.freeze]
  split
  · exact .refl sup
  · exact Supervisor.rests_of_eq rfl rfl

theorem rests_demand (s : Init σ) (id : TaskId) (cause : PowerCause) (state : PowerState) :
    s.toSupervisor.Rests (s.demand id cause state).toSupervisor :=
  (s.toSupervisor.rests_inWorld (s.toWorld.note (.powerRequested id cause state))).trans
    (rests_freeze _)

theorem rests_heed (s : Init σ) (id : TaskId) (outcome : Option RescueOutcome) :
    s.toSupervisor.Rests (s.heed id outcome).toSupervisor := by
  rcases outcome with _ | _ | _ | _
  · exact .refl _
  · exact .refl _
  · exact s.rests_demand id .rescue .restart
  · exact s.rests_demand id .rescue .off

theorem rests_conclude (s : Init σ) (id : TaskId) (unit : String) (o : Outcome) :
    s.toSupervisor.Rests (s.conclude id unit o).toSupervisor := by
  obtain ⟨new, readiness, queue, heq, -, -⟩ := s.conclude_eq id unit o
  rw [heq]
  exact Supervisor.rests_of_eq rfl rfl

variable [Platform σ]

theorem rests_rescued (hstopping : s.stopping = true) :
    s.toSupervisor.Rests s.rescued.toSupervisor :=
  (s.toSupervisor.rests_say .rescueEntered).trans
    (Supervisor.Errands.rests s.toSupervisor.errands_rescue hstopping)

theorem rests_opened (s : Init σ) (id : TaskId) :
    s.toSupervisor.Rests (s.opened id).toSupervisor := by
  have hspawned : s.toSupervisor.Rests
      ((s.toSupervisor.say .sessionStarting).spawnAndAwait s.config.session).2 :=
    (s.toSupervisor.rests_say .sessionStarting).trans (Supervisor.rests_spawnAndAwait _ _)
  rw [opened]
  split
  next heq => rwa [heq] at hspawned
  next e sup heq =>
    rw [heq] at hspawned
    let s₁ : Init σ := ({ s with toSupervisor := sup }.say (.sessionSpawnFailed e)).say .sessionEnded
    have hended : s.toSupervisor.Rests s₁.toSupervisor :=
      (hspawned.trans (sup.rests_say _)).trans (Supervisor.rests_say _ .sessionEnded)
    exact hended.trans (s₁.rests_demand id .session .off)

theorem rests_staged (s : Init σ) (id : TaskId) (state : PowerState) (stage : PowerStage) :
    s.toSupervisor.Rests (s.staged id state stage).toSupervisor := by
  have hstaged : s.toSupervisor.Rests (s.powerStage id state stage).2.toSupervisor :=
    Supervisor.rests_of_eq rfl rfl
  rw [staged]
  split
  next heq => rwa [heq] at hstaged
  next r _ heq =>
    rw [heq] at hstaged
    cases r with
    | ok => exact hstaged
    | error => exact hstaged.trans (Supervisor.rests_of_eq rfl rfl)

theorem Turns.rests {id : TaskId} (h : s.Turns id s') (hstopping : s.stopping = true) :
    s.toSupervisor.Rests s'.toSupervisor := by
  cases h with
  | despair => exact (rests_rescued hstopping).trans (rests_heed _ _ _)
  | enterSession => exact s.rests_opened id
  | demand => exact s.rests_demand id _ _
  | stage => exact s.rests_staged id _ _

theorem Step.rests (h : Step m s s') (hstopping : s.stopping = true) (hm : ¬ m.IsLaunch) :
    s.toSupervisor.Rests s'.toSupervisor := by
  cases h with
  | arrange | remark | elapse | change | mark | stopRestarts | powerStage | add | proceed | leave
  | begin => exact Supervisor.rests_of_eq rfl rfl
  | host _ _ _ hrunning => cases hstopping.symm.trans hrunning
  | chore _ _ hchore => exact hchore.rests hstopping
  | launch => exact absurd trivial hm
  | release _ pid => exact s.toSupervisor.rests_release pid
  | rescue => exact rests_rescued hstopping
  | ask =>
    rename_i unit chain hwants
    rcases s.request_cases unit chain with ⟨-, h, -, heq⟩ | ⟨-, e, -, heq⟩ | ⟨-, -, heq⟩
    all_goals
      rw [heq]
      exact Supervisor.rests_of_eq rfl rfl
  | refuse => exact s.rests_conclude _ _ _
  | finish => exact (s.toSupervisor.rests_inWorld _).trans (rests_conclude (s.note _) _ _ _)
  | turn h => exact h.rests hstopping

/-! ## What is frozen -/

/-- What is still written. An outcome is the result of an action that has begun before, or the unit
is declined. -/
def Late (s : Init σ) (e : Entry) : Prop :=
  ¬ e.IsStart ∧ ∀ unit o, e = .resolved unit o →
    Begun s.journal unit ∨
      Declined unit o ∧ (¬ s.Entered unit → o = .error (.shuttingDown unit))

/-- No start begins between the two states. -/
structure Frozen (s s' : Init σ) : Prop where
  stopping : s'.stopping = true
  rests : s.toSupervisor.Rests s'.toSupervisor
  journal : Gains s.Late s.journal s'.journal
  starts : ∀ id unit, s'.Starts id unit → s.Starts id unit
  entered : ∀ unit, s.Entered unit → s'.Entered unit
  resolved : ∀ unit, s'.Entered unit → s.Entered unit ∨
    ∃ r ∈ s'.journal, ∃ o, r.entry = .resolved unit o

namespace Frozen

omit [Platform σ] in
theorem refl (hstopping : s.stopping = true) : s.Frozen s where
  stopping := hstopping
  rests := .refl _
  journal := .refl _
  starts _ _ h := h
  entered _ h := h
  resolved _ h := .inl h

omit [Platform σ] in
theorem begun (h : s.Frozen s') {unit : String} (hunit : Begun s'.journal unit) :
    Begun s.journal unit :=
  (h.journal.begun hunit).resolve_right fun hlate => hlate.1 trivial

omit [Platform σ] in
theorem rejection (h : s.Frozen s') {unit : String} {chain : List String} :
    s'.rejection? unit chain = some (.shuttingDown unit) := by
  rw [rejection?, if_pos h.stopping]

/-- Only units that were entered before have starts. -/
theorem writes (h : s.Frozen t) (hentered : ∀ id unit, s.Starts id unit → s.Entered unit)
    (hm : ¬ m.IsLaunch) {e : Entry} (he : t.Writes t' m e) : s.Late e := by
  cases he with
  | mute he =>
    refine ⟨he.not_isStart, ?_⟩
    rintro unit o rfl
    exact he.elim
  | final he =>
    refine ⟨?_, ?_⟩
    · cases e with
      | began | hosted | notice => exact he.elim
      | _ => exact id
    · rintro unit o rfl
      exact he.elim
  | launch hn hallowed =>
    rcases hallowed with hrunning | ⟨unit, u, rfl⟩
    · cases h.stopping.symm.trans hrunning
    · exact absurd trivial hm
  | hosted _ hrunning | setup _ hrunning | begin _ hrunning =>
    cases h.stopping.symm.trans hrunning
  | reject hwants hnew hrejected =>
    cases h.rejection.symm.trans hrejected
    refine ⟨id, fun unit o heq => ?_⟩
    cases heq
    exact .inr ⟨.shutdown, fun _ => rfl⟩
  | refuse ht hrefused =>
    refine ⟨id, fun unit o heq => .inr ?_⟩
    cases heq
    have hold := hentered _ _ (h.starts _ _ ⟨_, _, ht⟩)
    refine ⟨?_, fun hnew => absurd hold hnew⟩
    cases hrefused with
    | dependency => exact .dependency _ _
    | shutdown => exact .shutdown
  | finish _ hbegun =>
    refine ⟨id, fun unit o heq => .inl ?_⟩
    cases heq
    exact h.begun hbegun
  | rescue _ he | turn _ _ he =>
    refine ⟨?_, ?_⟩
    · cases e with
      | notice n =>
        cases n with
        | rescueEntered | sessionStarting => exact id
        | _ => exact he.elim
      | waitedBlocking | powerRequested => exact id
      | _ => exact he.elim
    · rintro unit o rfl
      exact he.elim
  | request | act => exact ⟨id, nofun⟩

theorem step (h : s.Frozen t) (hentered : ∀ id unit, s.Starts id unit → s.Entered unit)
    (hm : ¬ m.IsLaunch) (hstep : Step m t t') : s.Frozen t' where
  stopping := hstep.continues.stopping h.stopping
  rests := h.rests.trans (hstep.rests h.stopping hm)
  journal := h.journal.trans (hstep.gains.mono fun _ he => h.writes hentered hm he)
  starts := by
    rintro id unit ⟨chain, phase, ht'⟩
    rcases hstep.start_arrives ht' with ⟨phase₀, ht, -⟩ | ⟨-, -, -, haccepted, -⟩
    · exact h.starts id unit ⟨chain, phase₀, ht⟩
    · cases h.rejection.symm.trans haccepted
  entered unit hunit := hstep.entered (h.entered unit hunit)
  resolved unit hunit := by
    have hsuffix := hstep.continues.journal
    rcases hstep.enters hunit with hold | ⟨hnew, chain, -, rfl⟩
    · refine (h.resolved unit hold).imp_right ?_
      rintro ⟨r, hr, hresolved⟩
      exact ⟨r, hsuffix.mem hr, hresolved⟩
    · rcases t.request_cases unit chain with ⟨hold, -⟩ | ⟨-, e, -, heq⟩ | ⟨-, haccepted, -⟩
      · exact absurd hold hnew
      · rw [heq]
        refine .inr ⟨⟨t.now, .resolved unit (.error e)⟩, ?_, _, rfl⟩
        exact List.mem_cons_of_mem _ List.mem_cons_self
      · cases h.rejection.symm.trans haccepted

theorem steps (h : s.Frozen t) (hentered : ∀ id unit, s.Starts id unit → s.Entered unit)
    (hm : ¬ m.IsLaunch) (hsteps : Steps m t t') : s.Frozen t' := by
  induction hsteps with
  | refl => exact h
  | tail _ hstep ih => exact ih.step hentered hm hstep

end Frozen

/-- Neither the scheduler nor a tick starts anything in a shutdown. -/
theorem Leads.frozen {s₀ : Init σ} (hs : Leads s₀ .idle s) (hstopping : s.stopping = true)
    {moves : List (Move σ)} (hmoves : ∀ m ∈ moves, ¬ m.IsLaunch) : s.Frozen (s.run moves) := by
  have hentered : ∀ id unit, s.Starts id unit → s.Entered unit :=
    fun id unit hstarts => (hs.workflow.pending id unit hstarts).entered
  have hrun : ∀ (moves : List (Move σ)) (t : Init σ), Leads s₀ .idle t → s.Frozen t →
      (∀ m ∈ moves, ¬ m.IsLaunch) → s.Frozen (t.run moves) := by
    intro moves
    induction moves with
    | nil => exact fun _ _ h _ => h
    | cons m moves ih =>
      intro t ht h hmoves
      exact ih (t.perform m) (ht.perform m)
        (h.steps hentered (hmoves m List.mem_cons_self) (ht.steps m))
        fun m' hm' => hmoves m' (List.mem_cons_of_mem m hm')
  exact hrun moves s hs (.refl hstopping) hmoves

end Init

end InitDaemon
