import InitDaemon.Proofs.Host.Quiet
import InitDaemon.Proofs.Init.Operation

/-!
# What is spawned in a shutdown

Once a shutdown has begun no service is launched, none is restarted, and no action begins. Still
spawned is what tasks owe from before: the daemon of the message bus, the session and the rescue
shell.
-/

namespace InitDaemon

open Std InitDaemon.Units

/-- The command line that was to become a process. -/
def Entry.argv? : Entry → Option (List String)
  | .spawned _ argv | .spawnFailed argv => some argv
  | _ => none

theorem Entry.IsAside.argv? {e : Entry} (h : e.IsAside) : e.argv? = none := by
  cases e with
  | spawned => exact h.elim
  | spawnFailed => exact h.elim
  | _ => rfl

namespace Journal

/-- From the one journal to the other only commands that are allowed have been spawned. -/
def SpawnsOnly (allowed : String → Prop) (journal journal' : List Record) : Prop :=
  ∃ new, journal' = new ++ journal ∧ ∀ r ∈ new, ∀ argv, r.entry.argv? = some argv →
    ∃ command, allowed command ∧ argv = Text.wordsOf command

namespace SpawnsOnly

variable {allowed : String → Prop} {journal journal' journal'' : List Record}

theorem refl (journal : List Record) : SpawnsOnly allowed journal journal :=
  ⟨[], rfl, List.forall_mem_nil _⟩

theorem trans (h : SpawnsOnly allowed journal journal')
    (h' : SpawnsOnly allowed journal' journal'') : SpawnsOnly allowed journal journal'' := by
  obtain ⟨new, rfl, hnew⟩ := h
  obtain ⟨new', rfl, hnew'⟩ := h'
  refine ⟨new' ++ new, (List.append_assoc ..).symm, fun r hr => ?_⟩
  rcases List.mem_append.mp hr with hr | hr
  · exact hnew' r hr
  · exact hnew r hr

theorem aside {new : List Record} (h : ∀ r ∈ new, r.entry.argv? = none) (journal : List Record) :
    SpawnsOnly allowed journal (new ++ journal) := by
  refine ⟨new, rfl, fun r hr argv hargv => ?_⟩
  cases (h r hr).symm.trans hargv

theorem command {command : String} (h : allowed command) {r : Record}
    (hr : r.entry.argv? = some (Text.wordsOf command)) (journal : List Record) :
    SpawnsOnly allowed journal (r :: journal) := by
  refine ⟨[r], rfl, List.forall_mem_singleton.mpr fun argv hargv => ⟨command, h, ?_⟩⟩
  cases hr.symm.trans hargv
  rfl

end SpawnsOnly

end Journal

namespace Supervisor

open Journal

variable {σ : Type} {s s' : Supervisor σ} {allowed : String → Prop}

theorem Idles.spawnsOnly (h : s.Idles s') : SpawnsOnly allowed s.journal s'.journal := by
  obtain ⟨new, hnew, haside⟩ := h.world.journal
  rw [hnew]
  exact .aside (fun r hr => (haside r hr).argv?) s.journal

theorem settle_journal (pid : Pid) (status : Option ExitStatus) (s : Supervisor σ) :
    (s.settle pid status).journal = s.journal := by
  obtain ⟨waiters, settled, heq⟩ := s.settle_eq pid status
  rw [heq]

variable [Platform σ]

theorem spawnsOnly_spawn {command : String} (h : allowed command) (s : Supervisor σ) :
    SpawnsOnly allowed s.journal (s.spawn command).2.journal := by
  rcases hspawned : s.spawn command with ⟨e | pid, s'⟩
  · rw [spawn] at hspawned
    split at hspawned
    next => cases hspawned; exact .refl _
    next program args hwords =>
      split at hspawned
      next => cases hspawned
      next w heq =>
        cases hspawned
        obtain ⟨-, hsame | hfailed⟩ := World.spawn_error heq
        · rw [hsame]
          exact .refl _
        · rw [hfailed]
          rw [← hwords]
          exact .command h rfl _
  · rw [(spawn_journal hspawned).2]
    exact .command h rfl _

theorem spawnsOnly_spawnAndAwait {command : String} (h : allowed command) (s : Supervisor σ) :
    SpawnsOnly allowed s.journal (s.spawnAndAwait command).2.journal := by
  have hspawned := spawnsOnly_spawn h s
  rw [spawnAndAwait]
  split
  next pid s₁ heq =>
    rw [heq] at hspawned
    dsimp only
    rwa [settle_journal]
  next heq => rwa [heq] at hspawned

/-! ## Ticks in a shutdown -/

theorem spawnsOnly_handleExit (hstopping : s.stopping = true) (pid : Pid) (status : ExitStatus)
    (now : Nat) : SpawnsOnly allowed s.journal (s.handleExit pid status now).journal := by
  obtain ⟨display, waiters, settled, heq⟩ := s.collect_eq pid status
  have hcollected : SpawnsOnly allowed s.journal (s.collect pid status).journal := by
    rw [heq]
    exact .aside (List.forall_mem_singleton.mpr rfl) s.journal
  have hstill : (s.collect pid status).stopping = true := by rw [heq]; exact hstopping
  rw [handleExit_eq]
  split
  next unit _ =>
    -- The policy looks for a shutdown before it counts a crash.
    refine hcollected.trans ?_
    generalize s.collect pid status = s at hstill
    rw [applyRestartPolicy]
    split
    next => exact .refl _
    next =>
      split
      · exact .refl _
      · exact .aside (List.forall_mem_singleton.mpr rfl) s.journal
  next => exact hcollected

/-- What ends in a shutdown is not started again. -/
theorem spawnsOnly_tick (hstopping : s.stopping = true) :
    SpawnsOnly allowed s.journal (s.tick s.now).2.journal := by
  have hlaunched : s.launchDueRestarts s.now = s := by rw [launchDueRestarts, if_pos hstopping]
  have hwaited : ∀ {r : Except Errno (Option (Pid × ExitStatus))} {w : World σ},
      s.toWorld.tryWaitAny = (r, w) → w.journal = s.journal := by
    rintro r w h
    cases h
    rfl
  rw [tick_eq, hlaunched, collectAny]
  split
  next pid status w heq =>
    rw [← hwaited heq]
    exact spawnsOnly_handleExit (s := { s with toWorld := w }) hstopping pid status s.now
  next heq =>
    rw [← hwaited heq]
    exact .refl _
  next heq =>
    rw [← hwaited heq]
    exact .refl _
  next heq =>
    rw [← hwaited heq]
    exact .aside (List.forall_mem_singleton.mpr rfl) _

theorem Deed.spawnsOnly (h : Deed allowed s s') (hstopping : s.stopping = true) :
    SpawnsOnly allowed s.journal s'.journal := by
  cases h with
  | idle h => exact h.spawnsOnly
  | wait => exact .aside (List.forall_mem_singleton.mpr rfl) s.journal
  | release pid =>
    rw [Supervisor.release]
    dsimp only
    rw [settle_journal]
    exact .refl _
  | spawn command h => exact spawnsOnly_spawn h s
  | spawnAndAwait command h => exact spawnsOnly_spawnAndAwait h s
  | begin unit u hu hrunning => cases hstopping.symm.trans hrunning
  | tick => exact spawnsOnly_tick hstopping

theorem Deeds.spawnsOnly (h : Deeds allowed s s') (hstopping : s.stopping = true) :
    SpawnsOnly allowed s.journal s'.journal := by
  induction h with
  | refl => exact .refl _
  | tail hdeeds hdeed ih => exact ih.trans (hdeed.spawnsOnly (Deeds.settings hdeeds |>.2 hstopping))

end Supervisor

namespace Init

open Journal

variable {σ : Type}

/-- A task of the init goes on to spawn the command even if a shutdown begins. -/
def Owes (s : Init σ) (command : String) : Prop :=
  ∃ (id : TaskId) (t : Task), s.tasks[id]? = some t ∧ command ∈ t.owed s.config

variable [Platform σ] [QuietSetup σ] {s s' : Init σ}

/-- Once a shutdown has begun nothing is spawned but what is owed. -/
theorem spawns_only_owed (hstopping : s.stopping = true) (h : s.Operates s') :
    SpawnsOnly s.Owes s.journal s'.journal := by
  -- While the shutdown goes on no task takes on anything that no task owed when it began.
  have hs : s.Does s.Owes s := by
    refine ⟨.refl, fun id t ht command hcommand => ⟨id, t, ht, hcommand⟩, fun hrunning => ?_⟩
    cases hstopping.symm.trans hrunning
  exact (hs.operates h).deeds.spawnsOnly hstopping

/-! ## A shutdown that comes early -/

/-- The boot target needs the bus and a service that gets its settle delay. -/
def lateGraph : Graph where
  disk := (∅ : ExtTreeMap String UnitDef).insert "slow" { start := .command "/sbin/slow" }
    |>.insert "late" { dependencies := (∅ : ExtTreeSet String).insertMany ["dbus", "slow"] }
  builtin := (∅ : ExtTreeMap String UnitDef).insert "dbus" { start := .builtin .dbus }

/-- It takes a while to make a machine id. -/
def lateMachine : Simulation.Script where
  children.endings := (∅ : ExtTreeMap String Simulation.Endings).insert "/usr/bin/dbus-uuidgen"
      (.always ⟨.exited 0, 50⟩)
    |>.insert "/usr/bin/dbus-daemon" (.always ⟨.exited 0, 0⟩)

def freshLate : Init Simulation.Script :=
  fresh { bootTarget := "late", foundation := ["slow"] } lateGraph lateMachine []

/-- A signal comes while everyone waits. -/
def lateMoves : List (Move Simulation.Script) :=
  [.boot, .watch, .poll 0, .poll 1, .poll 3, .poll 4, .poll 5, .raise .terminate, .deliver, .poll 2]

/-- The machine id is there, the service has had its delay, and the boot target is turned down. -/
def lateGrace : List (Move Simulation.Script) :=
  [.pass 50, .tick 50, .poll 5, .tick 50, .poll 5, .pass 100, .ring, .poll 4, .poll 1, .poll 3,
    .poll 0]

theorem late_runs : freshLate.PermitsAll lateMoves ∧ (freshLate.run lateMoves).stopping = true ∧
    (freshLate.run lateMoves).PermitsAll lateGrace := by
  decide +kernel

theorem late_spawns_only_owed : (freshLate.run lateMoves).stopping = true ∧
    (freshLate.run lateMoves).Operates ((freshLate.run lateMoves).run lateGrace) ∧
    SpawnsOnly (freshLate.run lateMoves).Owes (freshLate.run lateMoves).journal
      ((freshLate.run lateMoves).run lateGrace).journal := by
  obtain ⟨-, hstopping, hgrace⟩ := late_runs
  have hoperates : (freshLate.run lateMoves).Operates ((freshLate.run lateMoves).run lateGrace) :=
    ⟨lateGrace, hgrace, rfl⟩
  exact ⟨hstopping, hoperates, spawns_only_owed hstopping hoperates⟩

/-- The bus, the session and the rescue shell are all spawned between the signal and the last
call. -/
theorem late_debts_paid : freshLate.Operates (freshLate.run lateMoves) ∧
    (freshLate.run lateMoves).stopping = true ∧
    (freshLate.run lateMoves).Operates ((freshLate.run lateMoves).run lateGrace) ∧
    ((freshLate.run lateMoves).run lateGrace).journal.filterMap (·.entry.argv?) =
      ["/bin/sh"] :: ["/bin/bash"] :: ["/usr/bin/dbus-daemon", "--system", "--fork"] ::
        (freshLate.run lateMoves).journal.filterMap (·.entry.argv?) ∧
    ∀ r ∈ ((freshLate.run lateMoves).run lateGrace).journal,
      r.entry ≠ .rebooted .off ∧ r.entry ≠ .rebooted .restart := by
  obtain ⟨hmoves, hstopping, hgrace⟩ := late_runs
  refine ⟨⟨lateMoves, hmoves, rfl⟩, hstopping, ⟨lateGrace, hgrace, rfl⟩, ?_⟩
  decide +kernel

end Init

end InitDaemon
