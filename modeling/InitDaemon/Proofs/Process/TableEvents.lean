import InitDaemon.Proofs.Process.Accounts
import InitDaemon.Proofs.Process.Ticks
import Mathlib.Logic.Relation

/-!
# The table of a supervisor

Each operation of a supervisor changes its table as the journal tells. Processes are started by
spawns, launches and restarts; they end only by the look of a tick, or by a release.
-/

namespace InitDaemon

open Std InitDaemon.Journal InitDaemon.Units

/-- An entry that tells neither of a wish for another power state nor of a last call. -/
def Entry.IsCalm : Entry → Prop
  | .powerRequested .. | .rebooted _ => False
  | _ => True

namespace Supervisor

variable {σ : Type} {s s' s'' : Supervisor σ}

def table (s : Supervisor σ) : Table where
  processes := s.processes
  waiters := s.waiters
  settled := s.settled
  nextTicket := s.nextTicket

/-- What a record of the journal tells. Tickets and releases leave no record. -/
def told (r : Record) : Option Event :=
  match r.entry with
  | .spawned pid argv => some (.started pid (argv.headD ""))
  | .notice (.serviceStarted unit pid) => some (.filed pid unit)
  | .notice (.reaped pid status _) => some (.ended pid (some status))
  | _ => none

/-- The events that new records of the journal tell of. -/
def toldSince (s s' : Supervisor σ) : List Event :=
  (s'.journal.take (s'.journal.length - s.journal.length)).filterMap told

def Event.IsEnd : Event → Prop
  | .ended .. => True
  | .started .. | .filed .. | .awaited .. => False

/-- Processes may have been started but none has ended, and the tables have changed as the journal
tells. -/
structure Follows (new : List Record) (s s' : Supervisor σ) : Prop where
  journal : s'.journal = new ++ s.journal
  table : s'.table = (new.filterMap told).foldr (fun event t => t.after event) s.table
  no_end : ∀ event ∈ new.filterMap told, ¬ event.IsEnd
  calm : ∀ r ∈ new, r.entry.IsCalm

theorem toldSince_eq {new : List Record} (h : s'.journal = new ++ s.journal) :
    s.toldSince s' = new.filterMap told := by
  rw [toldSince, h, List.length_append, Nat.add_sub_cancel, List.take_left]

namespace Follows

variable {new new' : List Record}

theorem refl (s : Supervisor σ) : Follows [] s s :=
  ⟨rfl, rfl, List.forall_mem_nil _, List.forall_mem_nil _⟩

theorem trans (h : Follows new s s') (h' : Follows new' s' s'') :
    Follows (new' ++ new) s s'' where
  journal := by rw [h'.journal, h.journal, List.append_assoc]
  table := by rw [h'.table, h.table, List.filterMap_append, List.foldr_append]
  no_end event hevent := by
    rw [List.filterMap_append] at hevent
    exact (List.mem_append.mp hevent).elim (h'.no_end event) (h.no_end event)
  calm r hr := (List.mem_append.mp hr).elim (h'.calm r) (h.calm r)

/-- Nothing happens to the tables that the journal does not tell. -/
theorem of_aside (hnew : new.filterMap told = []) (hcalm : ∀ r ∈ new, r.entry.IsCalm)
    (hjournal : s'.journal = new ++ s.journal) (htable : s'.table = s.table) : Follows new s s' :=
  ⟨hjournal, by rw [hnew]; exact htable, by rw [hnew]; exact List.forall_mem_nil _, hcalm⟩

end Follows

theorem ticket?_of_told {records : List Record} :
    ∀ event ∈ records.filterMap told, event.ticket? = none := by
  intro event hevent
  obtain ⟨r, -, hr⟩ := List.mem_filterMap.mp hevent
  rw [told] at hr
  split at hr
  all_goals cases hr
  all_goals rfl

/-- When no process ends, records are added at most. -/
theorem table_follows {new : List Record} (h : Follows new s s') :
    ∃ processes : ExtTreeMap Pid ProcessRecord,
      s'.table = { s.table with processes := processes } ∧
      ∀ pid, pid ∈ s.processes → pid ∈ processes := by
  have hend := h.no_end
  have hticket : ∀ event ∈ new.filterMap told, event.ticket? = none := ticket?_of_told
  rw [h.table]
  generalize new.filterMap told = events at hend hticket
  induction events with
  | nil => exact ⟨s.processes, rfl, fun _ hpid => hpid⟩
  | cons event events ih =>
    obtain ⟨hevent, hends⟩ := List.forall_mem_cons.mp hend
    obtain ⟨hgiven, htickets⟩ := List.forall_mem_cons.mp hticket
    obtain ⟨processes, htable, hmem⟩ := ih hends htickets
    rw [List.foldr_cons, htable]
    cases event with
    | started pid program =>
      exact ⟨processes.insert pid ⟨program, none⟩, rfl,
        fun other hother => ExtTreeMap.mem_insert.mpr (.inr (hmem other hother))⟩
    | filed pid unit =>
      exact ⟨processes.insert pid ⟨unit, some unit⟩, rfl,
        fun other hother => ExtTreeMap.mem_insert.mpr (.inr (hmem other hother))⟩
    | awaited => cases hgiven
    | ended => exact absurd trivial hevent

theorem present_follows {new : List Record} (hs : s.table.Present) (h : Follows new s s') :
    s'.table.Present := by
  obtain ⟨processes, htable, hmem⟩ := table_follows h
  rw [htable]
  exact fun pid hpid => hmem pid (hs pid hpid)

theorem follows_say (s : Supervisor σ) (n : Notice) (hn : told ⟨s.now, .notice n⟩ = none) :
    Follows [⟨s.now, .notice n⟩] s (s.say n) :=
  .of_aside (by rw [List.filterMap_cons, hn]; rfl) (List.forall_mem_singleton.mpr trivial) rfl rfl

/-- A machine that has been asked to spawn, and nothing else. -/
def OnlySpawns [Platform σ] : σ → σ → Prop :=
  Relation.ReflTransGen fun m m' => ∃ time argv env, m' = (Platform.spawn time argv env m).2

/-- An operation that starts processes and ends none. -/
structure Starts [Platform σ] (s s' : Supervisor σ) : Prop where
  follows : ∃ new, Follows new s s'
  machine : OnlySpawns s.machine s'.machine

section

variable [Platform σ]

theorem Starts.refl (s : Supervisor σ) : s.Starts s :=
  ⟨⟨[], .refl s⟩, .refl⟩

theorem Starts.trans (h : s.Starts s') (h' : s'.Starts s'') : s.Starts s'' := by
  obtain ⟨new, hnew⟩ := h.follows
  obtain ⟨new', hnew'⟩ := h'.follows
  exact ⟨⟨new' ++ new, hnew.trans hnew'⟩, .trans h.machine h'.machine⟩

theorem Starts.of_eq {α : Type} {a : α} {p : α × Supervisor σ} (h : s.Starts p.2)
    (heq : p = (a, s')) : s.Starts s' := by
  rwa [heq] at h

theorem starts_of_same (hworld : s'.toWorld = s.toWorld) (htable : s'.table = s.table) :
    s.Starts s' := by
  refine ⟨⟨[], .of_aside rfl (List.forall_mem_nil _) ?_ htable⟩, ?_⟩
  · rw [hworld]
    rfl
  · rw [hworld]
    exact .refl

theorem starts_say (s : Supervisor σ) (n : Notice) (hn : told ⟨s.now, .notice n⟩ = none) :
    s.Starts (s.say n) :=
  ⟨⟨_, s.follows_say n hn⟩, .refl⟩

end

theorem table_settle (s : Supervisor σ) (pid : Pid) (outcome : Option ExitStatus) :
    (s.settle pid outcome).table = s.table.settle pid outcome := by
  have hwaiters : s.table.waiters[pid]? = s.waiters[pid]? := rfl
  rw [settle, Table.settle, hwaiters]
  cases s.waiters[pid]? <;> rfl

theorem table_release (s : Supervisor σ) (pid : Pid) :
    (s.release pid).table = s.table.after (.ended pid none) := by
  have hsettle := s.table_settle pid none
  rw [Table.after, ← hsettle]
  rfl

theorem table_collect (s : Supervisor σ) (pid : Pid) (status : ExitStatus) :
    (s.collect pid status).table = s.table.after (.ended pid (some status)) := by
  rw [collect, table_settle]
  change Table.settle { s.table with processes := s.processes.erase pid } pid (some status) = _
  have hwaiters : ∀ processes : ExtTreeMap Pid ProcessRecord,
      ({ s.table with processes := processes } : Table).waiters[pid]? = s.table.waiters[pid]? :=
    fun _ => rfl
  rw [Table.after, Table.settle, Table.settle, hwaiters]
  cases s.table.waiters[pid]? <;> rfl

theorem journal_collect (s : Supervisor σ) (pid : Pid) (status : ExitStatus) :
    ∃ r, told r = some (.ended pid (some status)) ∧
      (s.collect pid status).journal = r :: s.journal :=
  ⟨⟨s.now, .notice (.reaped pid status (s.processes[pid]?.elim "unknown" (·.display)))⟩, rfl,
    journal_settle _ _ _⟩

variable [Platform σ]

/-- A spawned process is started under its first word. -/
theorem spawn_ok {command : String} {pid : Pid} (h : s.spawn command = (.ok pid, s')) :
    ∃ argv, s'.journal = ⟨s.now, .spawned pid argv⟩ :: s.journal ∧
      s'.table = s.table.after (.started pid (argv.headD "")) := by
  refine ⟨Text.wordsOf command, (spawn_journal h).2, ?_⟩
  rw [spawn] at h
  split at h
  next => cases h
  next program args hwords =>
    rw [hwords]
    split at h
    next => cases h; rfl
    next => cases h

theorem onlySpawns_world (argv env : List String) (w : World σ) :
    OnlySpawns w.machine (w.spawn argv env).2.machine := by
  refine .single ⟨w.now, argv, env, ?_⟩
  simp only [World.spawn]
  split <;> rfl

theorem onlySpawns_spawn (command : String) (s : Supervisor σ) :
    OnlySpawns s.machine (s.spawn command).2.machine := by
  rw [spawn]
  split
  next => exact .refl
  next program args _ =>
    have hspawned := onlySpawns_world (program :: args) s.config.env s.toWorld
    split
    all_goals next heq => rwa [heq] at hspawned

theorem spawn_failed {command : String} {e : SpawnError} (h : s.spawn command = (.error e, s')) :
    s.Starts s' ∧ s'.table = s.table := by
  have hmachine := onlySpawns_spawn command s
  rw [h] at hmachine
  rw [spawn] at h
  split at h
  next => cases h; exact ⟨.refl s, rfl⟩
  next program args _ =>
    split at h
    next => cases h
    next e w heq =>
      cases h
      obtain ⟨-, hsame | hnew⟩ := World.spawn_error heq
      · exact ⟨⟨⟨[], .of_aside rfl (List.forall_mem_nil _) hsame rfl⟩, hmachine⟩, rfl⟩
      · have hcalm : ∀ r ∈ [Record.mk s.now (.spawnFailed (program :: args))], r.entry.IsCalm :=
          List.forall_mem_singleton.mpr trivial
        exact ⟨⟨⟨[_], .of_aside rfl hcalm hnew rfl⟩, hmachine⟩, rfl⟩

theorem starts_spawn (command : String) (s : Supervisor σ) : s.Starts (s.spawn command).2 := by
  rcases h : s.spawn command with ⟨_ | pid, s'⟩
  · exact (spawn_failed h).1
  · have hmachine := onlySpawns_spawn command s
    rw [h] at hmachine
    obtain ⟨argv, hjournal, htable⟩ := spawn_ok h
    exact ⟨⟨[⟨s.now, .spawned pid argv⟩], hjournal, htable, by simp [told, Event.IsEnd],
      List.forall_mem_singleton.mpr trivial⟩, hmachine⟩

theorem launchService_failed {unit : String} {u : UnitDef} {e : SpawnError}
    (h : s.launchService unit u = (.error e, s')) : s'.table = s.table := by
  rw [launchService] at h
  split at h
  next => cases h
  next =>
    split at h
    next => cases h
    next heq => cases h; exact (spawn_failed heq).2

theorem spawnAndAwait_failed {command : String} {e : SpawnError}
    (h : s.spawnAndAwait command = (.error e, s')) : s'.table = s.table := by
  rw [spawnAndAwait] at h
  split at h
  next => cases h
  next heq => cases h; exact (spawn_failed heq).2

theorem starts_launchService (unit : String) (u : UnitDef) (s : Supervisor σ) :
    s.Starts (s.launchService unit u).2 := by
  rw [launchService]
  split
  next => exact s.starts_say _ rfl
  next command _ =>
    split
    next pid t heq =>
      have hmachine := onlySpawns_spawn command s
      rw [heq] at hmachine
      obtain ⟨argv, hjournal, htable⟩ := spawn_ok heq
      refine ⟨⟨[⟨t.now, .notice (.serviceStarted unit pid)⟩, ⟨s.now, .spawned pid argv⟩],
        ?_, ?_, ?_, ?_⟩, hmachine⟩
      · exact congrArg (⟨t.now, .notice (.serviceStarted unit pid)⟩ :: ·) hjournal
      · exact congrArg (fun t : Table => t.after (.filed pid unit)) htable
      · simp [told, Event.IsEnd]
      · simp [Entry.IsCalm]
    next heq => exact (spawn_failed heq).1

theorem starts_relaunch (unit : String) (u : UnitDef) (s : Supervisor σ) :
    s.Starts (s.relaunch unit u) := by
  have hlaunch := s.starts_launchService unit u
  rw [relaunch]
  split
  next heq => exact hlaunch.of_eq heq
  next heq => exact (hlaunch.of_eq heq).trans (starts_say _ _ rfl)

theorem starts_crashed (unit : String) (u : UnitDef) (now : Nat) (s : Supervisor σ) :
    s.Starts (s.crashed unit u now) := by
  have hcounted : ∀ crashes, s.Starts { s with crashes := crashes } :=
    fun _ => starts_of_same rfl rfl
  rw [crashed]
  split
  next => exact ((hcounted _).trans (starts_say _ _ rfl)).trans (starts_relaunch _ _ _)
  next => exact (hcounted _).trans (starts_say _ _ rfl)

theorem starts_applyRestartPolicy (unit : String) (now : Nat) (s : Supervisor σ) :
    s.Starts (s.applyRestartPolicy unit now) := by
  rw [applyRestartPolicy]
  split
  next => exact .refl s
  next u _ =>
    split
    · exact .refl s
    · split
      · exact s.starts_say _ rfl
      · exact s.starts_crashed unit u now

theorem starts_relaunchDue (units : List String) (s : Supervisor σ) :
    s.Starts (s.relaunchDue units) := by
  induction units generalizing s with
  | nil => exact .refl s
  | cons unit rest ih =>
    rw [relaunchDue]
    split
    next => exact ((s.starts_say _ rfl).trans (starts_relaunch _ _ _)).trans (ih _)
    next => exact ih s

theorem starts_launchDueRestarts (now : Nat) (s : Supervisor σ) :
    s.Starts (s.launchDueRestarts now) := by
  rw [launchDueRestarts]
  split
  · exact .refl s
  · have htaken : s.Starts { s with crashes := (s.crashes.takeDue now).2 } := starts_of_same rfl rfl
    exact htaken.trans (starts_relaunchDue _ _)

/-- What is left to do of an exit once the process has been collected starts processes at most. -/
theorem starts_handleExit (pid : Pid) (status : ExitStatus) (now : Nat) (s : Supervisor σ) :
    (s.collect pid status).Starts (s.handleExit pid status now) := by
  rw [handleExit_eq]
  split
  next => exact starts_applyRestartPolicy _ _ _
  next => exact .refl _

theorem table_handleExit {pid : Pid} (h : pid ∉ s.processes) (hpresent : s.table.Present)
    (status : ExitStatus) (now : Nat) : (s.handleExit pid status now).table = s.table := by
  rw [handleExit_eq, ExtTreeMap.getElem?_eq_none h]
  exact (s.table_collect pid status).trans (Table.after_ended hpresent h _)

/-- A tick starts the processes that are due, collects one process if there is one to collect, and
starts processes again. -/
theorem tick_cases (now : Nat) (s : Supervisor σ) :
    (∃ pid status w, (s.launchDueRestarts now).toWorld.tryWaitAny = (.ok (some (pid, status)), w) ∧
      s.tick now = (.reaped pid,
        { s.launchDueRestarts now with toWorld := w }.handleExit pid status now)) ∨
    (∀ pid status w,
      (s.launchDueRestarts now).toWorld.tryWaitAny ≠ (.ok (some (pid, status)), w)) ∧
      (∀ pid, (s.tick now).1 ≠ .reaped pid) ∧ ∃ new, Follows new s (s.tick now).2 := by
  obtain ⟨new, hlaunched⟩ := (s.starts_launchDueRestarts now).follows
  have hwaited : ∀ {r w}, (s.launchDueRestarts now).toWorld.tryWaitAny = (r, w) →
      Follows new s { s.launchDueRestarts now with toWorld := w } := by
    intro r w h
    obtain ⟨-, rfl⟩ := Prod.ext_iff.mp h
    exact ⟨hlaunched.journal, hlaunched.table, hlaunched.no_end, hlaunched.calm⟩
  rcases h : (s.launchDueRestarts now).toWorld.tryWaitAny with ⟨e | _ | ⟨pid, status⟩, w⟩
  · refine .inr ⟨fun _ _ _ heq => (by cases heq), ?_⟩
    rw [tick, h]
    cases e
    all_goals first
      | exact ⟨fun _ heq => (by cases heq), new, hwaited h⟩
      | exact ⟨fun _ heq => (by cases heq), _, (hwaited h).trans (follows_say _ _ rfl)⟩
  · refine .inr ⟨fun _ _ _ heq => (by cases heq), ?_⟩
    rw [tick, h]
    exact ⟨fun _ heq => (by cases heq), new, hwaited h⟩
  · refine .inl ⟨pid, status, w, rfl, ?_⟩
    rw [tick, h]

end Supervisor

end InitDaemon
