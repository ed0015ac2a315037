import InitDaemon.Proofs.Init.BootJournal
import InitDaemon.Proofs.Init.PollSteps
import InitDaemon.Proofs.Process.Traced

/-!
# The rescue shell

The rescue shell cannot be spawned, or never ends, or its end cannot be learnt, or it ends with a
status. When the console is handed back, the process table is what it was before.
-/

namespace InitDaemon

open Std Traced InitDaemon.Journal

/-- What the operator asks for in leaving the rescue shell. -/
def RescueOutcome.power? : RescueOutcome → Option PowerState
  | .resume => none
  | .reboot => some .restart
  | .powerOff => some .off

/-- The power state that the exit code of a rescue shell asks for. -/
def KernelCall.verdict? : KernelCall → Option PowerState
  | .waitBlocking _ (some (.ok (.exited 2))) => some .restart
  | .waitBlocking _ (some (.ok (.exited 3))) => some .off
  | _ => none

theorem KernelCall.verdict?_waitBlocking (pid : Pid) (status : ExitStatus) :
    (KernelCall.waitBlocking pid (some (.ok status))).verdict? =
      (RescueOutcome.ofStatus status).power? := by
  unfold verdict? RescueOutcome.ofStatus ExitStatus.code?
  split
  next heq => cases heq; rfl
  next heq => cases heq; rfl
  next hne hne' =>
    split
    next heq =>
      cases status with
      | exited code => exact absurd (Option.some.inj heq ▸ rfl) (hne pid)
      | signaled => cases heq
    next heq =>
      cases status with
      | exited code => exact absurd (Option.some.inj heq ▸ rfl) (hne' pid)
      | signaled => cases heq
    next => rfl

theorem KernelCall.IsRoutine.verdict? {call : KernelCall} (h : call.IsRoutine) :
    call.verdict? = none := by
  cases call with
  | spawn | tryWaitAny => rfl
  | _ => exact h.elim

namespace Supervisor.Table

variable {t : Table} {pid : Pid}

/-- A process that comes and goes leaves nothing behind. -/
theorem ended_started (h : t.Present) (hpid : pid ∉ t.processes) (program : String)
    (outcome : Option ExitStatus) :
    (t.after (.started pid program)).after (.ended pid outcome) = t := by
  have hstarted : pid ∉ (t.after (.started pid program)).waiters := mt (h pid) hpid
  have hprocesses : (t.processes.insert pid ⟨program, none⟩).erase pid = t.processes := by
    refine ExtTreeMap.ext_getElem? fun other => ?_
    rw [ExtTreeMap.getElem?_erase]
    split
    next heq =>
      cases LawfulEqCmp.eq_of_compare heq
      exact (ExtTreeMap.getElem?_eq_none hpid).symm
    next hne => rw [ExtTreeMap.getElem?_insert, if_neg hne]
  have hended : (t.after (.started pid program)).after (.ended pid outcome) =
      { (t.after (.started pid program)).settle pid outcome with
        processes := (t.processes.insert pid ⟨program, none⟩).erase pid } := rfl
  rw [hended, settle_of_not_mem hstarted, hprocesses]
  rfl

end Supervisor.Table

/-- What follows from the answer of the wait for a rescue shell. -/
def RescueOutcome.ofAnswer : Except Errno ExitStatus → RescueOutcome
  | .ok status => .ofStatus status
  | .error _ => .resume

theorem KernelCall.verdict?_ofAnswer (pid : Pid) (answer : Except Errno ExitStatus) :
    (KernelCall.waitBlocking pid (some answer)).verdict? =
      (RescueOutcome.ofAnswer answer).power? := by
  cases answer with
  | ok status => exact verdict?_waitBlocking pid status
  | error => rfl

namespace Supervisor

section

variable {σ : Type} {s s' t : Supervisor σ} {pid : Pid}

/-- Nothing happens but that something is said. -/
def Mutters (s s' : Supervisor σ) : Prop :=
  ∃ new, s' = { s with toWorld := { s.toWorld with journal := new ++ s.journal } } ∧
    ∀ r ∈ new, r.entry.IsAside ∧ r.entry.IsMute

namespace Mutters

theorem refl (s : Supervisor σ) : s.Mutters s :=
  ⟨[], rfl, List.forall_mem_nil _⟩

theorem say {n : Notice} (h : s.Mutters s') (haside : (Entry.notice n).IsAside)
    (hn : n.IsRemark) : s.Mutters (s'.say n) := by
  obtain ⟨new, rfl, hnew⟩ := h
  exact ⟨⟨s.now, .notice n⟩ :: new, rfl, List.forall_mem_cons.mpr ⟨⟨haside, hn⟩, hnew⟩⟩

theorem table (h : s.Mutters s') : s'.table = s.table := by
  obtain ⟨new, rfl, -⟩ := h
  rfl

theorem machine (h : s.Mutters s') : s'.machine = s.machine := by
  obtain ⟨new, rfl, -⟩ := h
  rfl

theorem uncollected (h : s.Mutters s') : uncollected s'.journal = uncollected s.journal := by
  obtain ⟨new, rfl, hnew⟩ := h
  exact uncollected_append fun r hr => (hnew r hr).1

theorem gains (h : s.Mutters s') : Gains Entry.IsMute s.journal s'.journal := by
  obtain ⟨new, rfl, hnew⟩ := h
  exact ⟨new, rfl, fun r hr => (hnew r hr).2⟩

end Mutters

variable [Platform σ]

theorem spawn_refused {command : String} {e : SpawnError}
    (h : s.spawn command = (.error e, s')) : s'.table = s.table ∧
      (s'.journal = s.journal ∨ ∃ argv, s'.journal = ⟨s.now, .spawnFailed argv⟩ :: s.journal) := by
  refine ⟨(spawn_failed h).2, ?_⟩
  rw [spawn] at h
  split at h
  next =>
    cases h
    exact .inl rfl
  next program args _ =>
    split at h
    next => cases h
    next e w heq =>
      cases h
      exact (World.spawn_error heq).2.imp_right fun hfailed => ⟨_, hfailed⟩

/-! ## What becomes of it -/

/-- The console is about to be handed over. -/
def announced {σ : Type} (s : Supervisor σ) : Supervisor σ :=
  (s.say .rescueEntered).say .rescueHelp

inductive Rescues (s : Supervisor σ) : Option RescueOutcome → Supervisor σ → Prop
  | unborn {e : SpawnError} {t s' : Supervisor σ}
    (hspawned : s.announced.spawn s.config.rescue = (.error e, t)) (hmutters : t.Mutters s')
    (htold : Journal.Told (.rescueSpawnFailed e) s'.journal) : Rescues s (some .resume) s'
  | endless {pid : Pid} {t : Supervisor σ} {w : World σ}
    (hspawned : s.announced.spawn s.config.rescue = (.ok pid, t))
    (hwaited : t.toWorld.waitBlocking pid true = (none, w)) :
    Rescues s none { t with toWorld := w }
  | ended {pid : Pid} {t s' : Supervisor σ} {w : World σ} {answer : Except Errno ExitStatus}
    (hspawned : s.announced.spawn s.config.rescue = (.ok pid, t))
    (hwaited : t.toWorld.waitBlocking pid true = (some answer, w))
    (hmutters : ({ t with toWorld := w }.release pid).Mutters s')
    (hleft : RescueOutcome.ofAnswer answer ≠ .resume → s' = { t with toWorld := w }.release pid) :
    Rescues s (some (.ofAnswer answer)) s'

theorem rescue_eq {outcome : Option RescueOutcome}
    (h : s.announced.spawnRescue = (outcome, t)) :
    s.rescue = (outcome, if outcome == some .resume then t.say .bootResumed else t) :=
  congrArg (fun r : Option RescueOutcome × Supervisor σ =>
    (r.1, if r.1 == some .resume then r.2.say .bootResumed else r.2)) h

theorem rescues (s : Supervisor σ) : s.Rescues s.rescue.1 s.rescue.2 := by
  have hconfig : s.announced.config = s.config := rfl
  rcases hspawned : s.announced.spawn s.config.rescue with ⟨e | pid, t⟩
  · have hshell : s.announced.spawnRescue = (some .resume, t.say (.rescueSpawnFailed e)) := by
      rw [spawnRescue, hconfig, hspawned]
    rw [rescue_eq hshell]
    have hmutters := ((Mutters.refl t).say (n := .rescueSpawnFailed e) trivial trivial).say
      (n := .bootResumed) trivial trivial
    exact .unborn hspawned hmutters ⟨_, List.mem_cons_of_mem _ List.mem_cons_self, rfl⟩
  · have hawaited : s.announced.spawnRescue = t.awaitRescue pid := by
      rw [spawnRescue, hconfig, hspawned]
    rw [awaitRescue] at hawaited
    rcases hwaited : t.toWorld.waitBlocking pid true with ⟨_ | e | status, w⟩
    · rw [hwaited] at hawaited
      rw [rescue_eq hawaited]
      exact .endless hspawned hwaited
    · rw [hwaited] at hawaited
      rw [rescue_eq hawaited]
      have hmutters := ((Mutters.refl ({ t with toWorld := w }.release pid)).say
        (n := .rescueWaitFailed e) trivial trivial).say (n := .bootResumed) trivial trivial
      exact .ended hspawned hwaited hmutters fun hne => absurd rfl hne
    · rw [hwaited] at hawaited
      rw [rescue_eq hawaited]
      have hmutters := Mutters.refl ({ t with toWorld := w }.release pid)
      by_cases hstatus : RescueOutcome.ofStatus status = .resume
      · rw [if_pos (beq_iff_eq.mpr (congrArg some hstatus))]
        exact .ended hspawned hwaited (hmutters.say (n := .bootResumed) trivial trivial)
          fun hne => absurd hstatus hne
      · rw [if_neg fun heq => hstatus (Option.some.inj (beq_iff_eq.mp heq))]
        exact .ended hspawned hwaited hmutters fun _ => rfl

variable {outcome : Option RescueOutcome}

/-! ## The process table -/

/-- What is said does not matter to the kernel. -/
theorem spawn_announced (s : Supervisor σ) (command : String) :
    (s.announced.spawn command).1 = (s.spawn command).1 := by
  have hcall (argv : List String) :
      Platform.spawn s.announced.now argv s.announced.config.env s.announced.machine =
        Platform.spawn s.now argv s.config.env s.machine := rfl
  simp only [spawn, World.spawn, hcall]
  rcases Text.wordsOf command with _ | ⟨program, args⟩
  · rfl
  · dsimp only
    rcases Platform.spawn s.now (program :: args) s.config.env s.machine with ⟨e | pid, machine⟩
    · cases e <;> rfl
    · rfl

theorem Rescues.table (h : s.Rescues outcome s') (hended : outcome.isSome)
    (hpresent : s.table.Present)
    (hfresh : ∀ pid ∈ s.processes, (s.spawn s.config.rescue).1 ≠ .ok pid) :
    s'.table = s.table := by
  have hannounced : s.announced.table = s.table := rfl
  cases h with
  | unborn hspawned hmutters => exact hmutters.table.trans (spawn_refused hspawned).1
  | endless => cases hended
  | @ended pid t _ w _ hspawned _ hmutters =>
    obtain ⟨argv, -, htable⟩ := spawn_ok hspawned
    have hworld : ({ t with toWorld := w } : Supervisor σ).table = t.table := rfl
    have hnew : pid ∉ s.processes := fun hpid => by
      refine hfresh pid hpid ?_
      rw [← s.spawn_announced, hspawned]
    rw [hmutters.table, table_release, hworld, htable, hannounced]
    exact Table.ended_started hpresent hnew _ none

/-! ## The journal -/

theorem journal_waited {w : World σ} {answer : Option (Except Errno ExitStatus)}
    (hspawned : s.announced.spawn s.config.rescue = (.ok pid, t))
    (hwaited : t.toWorld.waitBlocking pid true = (answer, w)) :
    w.journal = ⟨t.now, .waitedBlocking pid true⟩ ::
      ⟨s.now, .spawned pid (Text.wordsOf s.config.rescue)⟩ :: s.announced.journal := by
  have hjournal := t.toWorld.waitBlocking_journal pid true
  rw [hwaited] at hjournal
  exact hjournal.trans (congrArg _ (spawn_journal hspawned).2)

/-- The number of the shell is not that of a process which is waited for. -/
theorem waits_shell {ticket : Ticket} {w : World σ} {answer : Option (Except Errno ExitStatus)}
    {other : Pid} (hspawned : s.announced.spawn s.config.rescue = (.ok other, t))
    (hwaited : t.toWorld.waitBlocking other true = (answer, w)) (hfresh : FreshNumbers w.journal)
    (hpid : pid ∈ uncollected s.journal) (hwaits : s.waiters[pid]? = some ticket) :
    other ≠ pid ∧ t.waiters[pid]? = some ticket ∧ pid ∈ uncollected w.journal := by
  have hjournal := journal_waited hspawned hwaited
  rw [hjournal] at hfresh ⊢
  have hne : other ≠ pid := by
    rintro rfl
    exact hfresh.2.1 other rfl hpid
  have hwaiters := (s.announced.starts_spawn s.config.rescue).waiters
  rw [hspawned] at hwaiters
  refine ⟨hne, hwaiters ▸ hwaits, ?_⟩
  exact List.mem_filter.mpr ⟨List.mem_cons_of_mem _ hpid, decide_eq_true hne.symm⟩

/-- Whoever waits for another process still waits for it. -/
theorem Rescues.waits {ticket : Ticket} (h : s.Rescues outcome s')
    (hfresh : FreshNumbers s'.journal) (hpid : pid ∈ uncollected s.journal)
    (hwaits : s.waiters[pid]? = some ticket) :
    s'.waiters[pid]? = some ticket ∧ pid ∈ uncollected s'.journal := by
  have hannounced : s.announced.waiters[pid]? = some ticket := hwaits
  cases h with
  | unborn hspawned hmutters =>
    obtain ⟨htable, hjournal⟩ := spawn_refused hspawned
    refine ⟨?_, ?_⟩
    · have hwaiters := congrArg (fun t => t.waiters[pid]?) (hmutters.table.trans htable)
      exact hwaiters.trans hannounced
    · rw [hmutters.uncollected]
      rcases hjournal with hjournal | ⟨argv, hjournal⟩
      · exact hjournal ▸ hpid
      · exact hjournal ▸ hpid
  | endless hspawned hwaited => exact (waits_shell hspawned hwaited hfresh hpid hwaits).2
  | @ended other t _ w _ hspawned hwaited hmutters =>
    have hreleased : ({ t with toWorld := w }.release other).journal = w.journal :=
      journal_release _ other
    have hsuffix := hmutters.gains.suffix
    rw [hreleased] at hsuffix
    obtain ⟨hne, hstill, hpid⟩ :=
      waits_shell hspawned hwaited (hfresh.mono hsuffix) hpid hwaits
    refine ⟨?_, ?_⟩
    · have hwaiters := congrArg (fun t => t.waiters[pid]?) hmutters.table
      exact hwaiters.trans (waits_settle hne hstill)
    · rw [hmutters.uncollected, hreleased]
      exact hpid

theorem Rescues.conducts {config : Config} {chain : TaskId} (h : s.Rescues outcome s')
    (hconfig : s.config = config) (hs : Conducts config chain s.journal)
    (hfits : Fits config chain s.journal (.notice .rescueEntered)) :
    Conducts config chain s'.journal := by
  have hannounced : Conducts config chain s.announced.journal := ⟨trivial, hfits, hs⟩
  have hwaited {pid : Pid} {t : Supervisor σ} {w : World σ}
      {answer : Option (Except Errno ExitStatus)}
      (hspawned : s.announced.spawn s.config.rescue = (.ok pid, t))
      (hwaited : t.toWorld.waitBlocking pid true = (answer, w)) :
      Conducts config chain w.journal := by
    rw [journal_waited hspawned hwaited, hconfig]
    exact ⟨⟨rfl, _, _, _, _, rfl⟩, trivial, hannounced⟩
  cases h with
  | unborn hspawned hmutters =>
    refine (hmutters.gains.mono fun _ => not_turn_of_mute).conducts ?_
    have hgains := gains_spawn s.config.rescue s.announced
    rw [hspawned] at hgains
    exact (hgains.mono fun _ => not_turn_of_mute).conducts hannounced
  | endless hspawned hwaits => exact hwaited hspawned hwaits
  | ended hspawned hwaits hmutters =>
    refine (hmutters.gains.mono fun _ => not_turn_of_mute).conducts ?_
    rw [journal_release]
    exact hwaited hspawned hwaits

theorem Rescues.tried (h : s.Rescues outcome s') : ShellTried s.config.rescue s'.journal := by
  have hspawned {pid : Pid} {t : Supervisor σ} {w : World σ}
      {answer : Option (Except Errno ExitStatus)}
      (hspawned : s.announced.spawn s.config.rescue = (.ok pid, t))
      (hwaited : t.toWorld.waitBlocking pid true = (answer, w)) :
      ShellTried s.config.rescue w.journal := by
    rw [journal_waited hspawned hwaited]
    exact .inl ⟨pid, _, ⟨_, _, _, _, rfl⟩, List.suffix_cons _ _⟩
  cases h with
  | unborn _ _ htold => exact .inr ⟨_, htold⟩
  | endless hspawns hwaited => exact hspawned hspawns hwaited
  | @ended pid t _ w _ hspawns hwaited hmutters =>
    have hsuffix := hmutters.gains.suffix
    rw [journal_release] at hsuffix
    exact (hspawned hspawns hwaited).mono hsuffix

/-- Whoever leaves the shell with a wish has just been waited for. -/
theorem Rescues.ended_of_wish {o : RescueOutcome} (h : s.Rescues (some o) s')
    (hwish : o ≠ .resume) : ShellEnded s'.journal := by
  cases h with
  | unborn => exact absurd rfl hwish
  | ended hspawned hwaited _ hleft =>
    rw [hleft hwish, journal_release]
    exact ⟨_, _, _, journal_waited hspawned hwaited⟩

end

/-! ## The trace -/

section

variable {σ : Type} [Platform σ] {s s' : Supervisor (Traced σ)} {outcome : Option RescueOutcome}

/-- The verdicts of the rescue shells are those of the calls. -/
theorem Rescues.verdicts (h : s.Rescues outcome s') :
    s'.calls.filterMap (·.call.verdict?) =
      (outcome.bind RescueOutcome.power?).toList ++ s.calls.filterMap (·.call.verdict?) := by
  have hspawned {r : Except SpawnError Pid} {t : Supervisor (Traced σ)}
      (hspawned : s.announced.spawn s.config.rescue = (r, t)) :
      t.calls.filterMap (·.call.verdict?) = s.calls.filterMap (·.call.verdict?) := by
    have hmakes := s.announced.makes_spawn s.config.rescue
    rw [hspawned] at hmakes
    obtain ⟨new, hcalls, hnew⟩ := hmakes
    have hnone : new.filterMap (·.call.verdict?) = [] :=
      List.filterMap_eq_nil_iff.mpr fun c hc => (hnew c hc).verdict?
    rw [hcalls, List.filterMap_append, hnone, List.nil_append]
    rfl
  cases h with
  | unborn hspawns hmutters =>
    have hcalls : s'.calls = _ := congrArg Traced.calls hmutters.machine
    rw [hcalls]
    exact hspawned hspawns
  | @endless pid t w hspawns hwaited =>
    have hcalls := t.toWorld.calls_waitBlocking pid true
    rw [hwaited] at hcalls
    have hw : ({ t with toWorld := w } : Supervisor (Traced σ)).calls = w.calls := rfl
    rw [hw, hcalls, List.filterMap_cons]
    exact hspawned hspawns
  | @ended pid t _ w answer hspawns hwaited hmutters =>
    have hcalls := t.toWorld.calls_waitBlocking pid true
    rw [hwaited] at hcalls
    have hw : s'.calls = w.calls :=
      (congrArg Traced.calls hmutters.machine).trans (calls_settle { t with toWorld := w } pid none)
    rw [hw, hcalls, List.filterMap_cons, KernelCall.verdict?_ofAnswer, hspawned hspawns]
    cases RescueOutcome.ofAnswer answer with
    | resume | reboot | powerOff => rfl

end

end Supervisor

end InitDaemon
