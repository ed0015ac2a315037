import InitDaemon.Proofs.Init.RescueShell
import InitDaemon.Proofs.Init.StepTasks

/-!
# The process table over a step

Tickets stay in order over every step. If the kernel gives no number twice and nobody outside takes
records away, whoever waits for a process goes on waiting until a tick collects it.
-/

namespace InitDaemon.Init

open Std InitDaemon.Units InitDaemon.Journal

variable {σ : Type} {s s' : Init σ} {m : Move σ} {id : TaskId} {pid : Pid} {ticket : Ticket}

/-- Goes on beside a boot. Nobody outside boots a second time, asks for another power state, runs a
rescue shell or takes records away. -/
def Move.IsAmbient : Move σ → Prop
  | .boot | .power _ | .powerStage .. | .rescue | .release _ => False
  | _ => True

instance {σ : Type} : DecidablePred fun m : Move σ => m.IsAmbient
  | .boot | .power _ | .powerStage .. | .rescue | .release _ => .isFalse False.elim
  | .poll _ | .pass _ | .change _ | .raise _ | .deliver | .ring | .takeBack | .request .. | .watch
  | .supervise _ | .stopRestarts | .spawn _ | .spawnAndReport _ | .launch .. | .tick _ =>
    .isTrue trivial

/-! ## The table after a turn -/

theorem table_demand (s : Init σ) (id : TaskId) (cause : PowerCause) (state : PowerState) :
    (s.demand id cause state).table = s.table := by
  change ((s.note (.powerRequested id cause state)).toSupervisor.freeze).table = s.table
  rw [Supervisor.freeze]
  split <;> rfl

theorem table_heed (s : Init σ) (id : TaskId) (outcome : Option RescueOutcome) :
    (s.heed id outcome).table = s.table := by
  rcases outcome with _ | _ | _ | _
  · rfl
  · rfl
  · exact s.table_demand id .rescue .restart
  · exact s.table_demand id .rescue .off

theorem table_conclude (s : Init σ) (id : TaskId) (unit : String) (o : Outcome) :
    (s.conclude id unit o).table = s.table := by
  obtain ⟨new, readiness, queue, heq, -, -⟩ := s.conclude_eq id unit o
  rw [heq]
  rfl

theorem table_request (s : Init σ) (unit : String) (chain : List String) :
    (s.request unit chain).2.table = s.table := by
  rcases s.request_cases unit chain with ⟨-, h, -, heq⟩ | ⟨-, e, -, heq⟩ | ⟨-, -, heq⟩
  all_goals
    rw [heq]
    rfl

variable [Platform σ]

theorem table_staged (s : Init σ) (id : TaskId) (state : PowerState) (stage : PowerStage) :
    (s.staged id state stage).table = s.table := by
  have hstaged : (s.powerStage id state stage).2.table = s.table := rfl
  rw [staged]
  split
  next heq =>
    rw [heq] at hstaged
    exact hstaged
  next r _ heq =>
    rw [heq] at hstaged
    cases r with
    | ok => exact hstaged
    | error => exact hstaged

/-- The session is tried, and the table is that after the trial. -/
theorem table_opened (s : Init σ) (id : TaskId) : (s.opened id).table =
    ((s.toSupervisor.say .sessionStarting).spawnAndAwait s.config.session).2.table := by
  rw [opened]
  split
  next heq =>
    rw [heq]
    rfl
  next heq =>
    rw [heq]
    exact table_demand _ id .session .off

theorem opened_suffix (s : Init σ) (id : TaskId) :
    ((s.toSupervisor.say .sessionStarting).spawnAndAwait s.config.session).2.journal <:+
      (s.opened id).journal := by
  rw [opened]
  split
  next heq =>
    rw [heq]
    exact List.suffix_rfl
  next e sup heq =>
    rw [heq]
    have hdemanded := continues_demand
      ((({ s with toSupervisor := sup } : Init σ).say (.sessionSpawnFailed e)).say .sessionEnded)
      id .session .off
    exact ((List.suffix_cons _ _).trans (List.suffix_cons _ _)).trans hdemanded.journal

/-! ## Tickets -/

theorem Turns.neat (h : s.Turns id s') (hs : s.table.Neat) : s'.table.Neat := by
  cases h with
  | despair =>
    rw [table_heed]
    exact Supervisor.Errands.neat (s := s.toSupervisor.say .rescueEntered)
      s.toSupervisor.errands_rescue hs
  | enterSession =>
    rw [table_opened]
    exact Supervisor.Chore.neat (.spawnAndAwait (s.toSupervisor.say .sessionStarting) _) hs
  | demand => exact s.table_demand id _ _ ▸ hs
  | stage => exact s.table_staged id _ _ ▸ hs

theorem Step.neat (h : Step m s s') (hs : s.table.Neat) : s'.table.Neat := by
  cases h with
  | arrange | remark | elapse | change | mark | host | stopRestarts | powerStage | add | proceed
  | leave | begin => exact hs
  | chore _ _ hchore => exact hchore.neat hs
  | launch _ unit u => exact (Supervisor.starts_launchService unit u s.toSupervisor).neat hs
  | release _ pid =>
    exact (Supervisor.table_release s.toSupervisor pid).symm ▸ hs.ended pid none
  | rescue =>
    exact Supervisor.Errands.neat (s := s.toSupervisor.say .rescueEntered)
      s.toSupervisor.errands_rescue hs
  | ask => exact s.table_request _ _ ▸ hs
  | refuse => exact s.table_conclude _ _ _ ▸ hs
  | finish => exact (table_conclude (s.note _) _ _ _).symm ▸ hs
  | turn h => exact h.neat hs

/-! ## Entries of a step without a turn -/

theorem not_turn_of_preparatory {n : Notice} (h : n.IsPreparatory) :
    ¬ (Entry.notice n).IsTurn := by
  cases n with
  | rescueEntered | sessionStarting => exact h.elim
  | _ => exact id

theorem not_turn_of_launch {n : Notice} (h : n.IsLaunch) : ¬ (Entry.notice n).IsTurn := by
  cases n with
  | rescueEntered | sessionStarting => exact h.elim
  | _ => exact id

theorem not_turn_of_final {e : Entry} (h : e.IsFinal) : ¬ e.IsTurn := by
  cases e with
  | signalledAll | synced | rebooted | powerStaged => exact id
  | _ => exact h.elim

/-- Nobody takes a turn by the way. -/
theorem Step.calm [PlainSetup σ] (h : Step m s s') (hm : m.IsAmbient)
    (hno : ∀ id, m = .poll id → ¬ s.Turns id s') :
    Gains (fun e => ¬ e.IsTurn) s.journal s'.journal := by
  refine h.gains.mono fun e he => ?_
  cases he with
  | mute he => exact not_turn_of_mute he
  | final he => exact not_turn_of_final he
  | launch hn => exact not_turn_of_launch hn
  | setup hn =>
    obtain ⟨now, step, machine, hn⟩ := hn
    exact not_turn_of_preparatory (PlainSetup.host_preparatory now step machine _ hn)
  | hosted | request | reject | refuse | begin | act | finish => exact id
  | rescue heq =>
    subst heq
    exact hm.elim
  | turn heq h => exact absurd h (hno _ heq)

/-! ## Whoever waits -/

/-- Whoever waits for a process still does, unless a tick has collected it. -/
def StillWaits (pid : Pid) (ticket : Ticket) (s s' : Init σ) : Prop :=
  Reaps pid s.journal s'.journal ∨
    s'.waiters[pid]? = some ticket ∧ pid ∈ uncollected s'.journal

omit [Platform σ] in
theorem stillWaits_of_gains
    (hgains : Gains (fun e => ∀ pid suspended, e ≠ .waitedBlocking pid suspended) s.journal
      s'.journal)
    (hpid : pid ∈ uncollected s.journal)
    (hwaits : s'.waiters[pid]? = some ticket ∨ Reaps pid s.journal s'.journal) :
    StillWaits pid ticket s s' := by
  rcases hwaits with hwaits | hreaps
  · rcases uncollected_gains hgains hpid with hstill | hreaps
    · exact .inr ⟨hwaits, hstill⟩
    · exact .inl hreaps
  · exact .inl hreaps

omit [Platform σ] in
theorem waiters_of_table (h : s'.table = s.table) (hwaits : s.waiters[pid]? = some ticket) :
    s'.waiters[pid]? = some ticket :=
  (congrArg (fun t => t.waiters[pid]?) h).trans hwaits

theorem ne_waitedBlocking_of_not_turn {e : Entry} (h : ¬ e.IsTurn) (pid : Pid) (suspended : Bool) :
    e ≠ .waitedBlocking pid suspended := by
  rintro rfl
  exact h trivial

theorem Step.waits [PlainSetup σ] (h : Step m s s') (hm : m.IsAmbient)
    (hno : ∀ id, m = .poll id → ¬ s.Turns id s') (hfresh : FreshNumbers s'.journal)
    (hpid : pid ∈ uncollected s.journal) (hwaits : s.waiters[pid]? = some ticket) :
    StillWaits pid ticket s s' := by
  have hgains := h.calm hm hno
  refine stillWaits_of_gains (hgains.mono fun _ => ne_waitedBlocking_of_not_turn) hpid ?_
  cases h with
  | arrange | remark | elapse | change | mark | host | stopRestarts | powerStage | add | proceed
  | leave | begin => exact .inl hwaits
  | chore _ _ hchore => exact hchore.waits hfresh hpid hwaits
  | launch _ unit u =>
    exact .inl ((Supervisor.starts_launchService unit u s.toSupervisor).waiters ▸ hwaits)
  | release | rescue => exact hm.elim
  | ask => exact .inl (waiters_of_table (s.table_request _ _) hwaits)
  | refuse => exact .inl (waiters_of_table (s.table_conclude _ _ _) hwaits)
  | finish => exact .inl (waiters_of_table (table_conclude (s.note _) _ _ _) hwaits)
  | turn h => exact absurd h (hno _ rfl)

omit [Platform σ] in
theorem ne_waitedBlocking_of_tells {e : Entry} (h : s.toSupervisor.Tells e) (pid : Pid)
    (suspended : Bool) : e ≠ .waitedBlocking pid suspended := by
  rintro rfl
  rcases h with h | ⟨-, n, heq, -⟩
  · exact h
  · cases heq

/-- Not even the rescue shell comes between a process and the one who waits for it. -/
theorem Turns.waits (h : s.Turns id s') (hfresh : FreshNumbers s'.journal)
    (hpid : pid ∈ uncollected s.journal) (hwaits : s.waiters[pid]? = some ticket) :
    StillWaits pid ticket s s' := by
  have hmute {e : Entry} (he : e.IsMute) (pid : Pid) (suspended : Bool) :
      e ≠ .waitedBlocking pid suspended :=
    ne_waitedBlocking_of_not_turn (not_turn_of_mute he) pid suspended
  cases h with
  | despair =>
    have hheeds := gains_heed s.rescued id s.toSupervisor.rescue.1
    have hstill := s.toSupervisor.rescues.waits (hfresh.mono hheeds.suffix) hpid hwaits
    have hwaiting := stillWaits_of_gains (s := s.rescued) (hheeds.mono ?_) hstill.2
      (.inl (waiters_of_table (table_heed _ _ _) hstill.1))
    · exact hwaiting.imp_left fun hreaps => hreaps.earlier s.continues_rescued.journal
    · rintro e (he | ⟨state, rfl⟩)
      · exact hmute he
      · exact fun _ _ => Entry.noConfusion
  | enterSession =>
    have hsuffix := s.opened_suffix id
    refine stillWaits_of_gains ((s.gains_opened id).mono ?_) hpid ?_
    · rintro e (he | rfl | rfl)
      · exact ne_waitedBlocking_of_tells he
      · exact fun _ _ => Entry.noConfusion
      · exact fun _ _ => Entry.noConfusion
    · have hchore := Supervisor.Chore.spawnAndAwait (s.toSupervisor.say .sessionStarting)
        s.config.session
      rcases hchore.waits (hfresh.mono hsuffix) hpid hwaits with hstill | hreaps
      · exact .inl ((congrArg (fun t => t.waiters[pid]?) (s.table_opened id)).trans hstill)
      · exact .inr ((hreaps.later hsuffix).earlier (List.suffix_cons _ _))
  | @demand t cause state =>
    refine stillWaits_of_gains ((s.gains_demand id cause state).mono ?_) hpid
      (.inl (waiters_of_table (s.table_demand id cause state) hwaits))
    rintro e (he | rfl)
    · exact hmute he
    · exact fun _ _ => Entry.noConfusion
  | @stage state phase stage =>
    refine stillWaits_of_gains ((s.gains_staged id state stage).mono ?_) hpid
      (.inl (waiters_of_table (s.table_staged id state stage) hwaits))
    rintro e (he | he)
    · exact hmute he
    · exact ne_waitedBlocking_of_not_turn (not_turn_of_final he)

end InitDaemon.Init
