import Mathlib.Logic.Relation
import InitDaemon.Proofs.Process.Deeds

/-!
# Chores

Whatever is done with the process table is made up of a few chores. Services are launched, and
crashes counted, only while no shutdown has begun.
-/

namespace InitDaemon

open Std InitDaemon.Journal

namespace Notice

/-- Tells of the launch of a service, or of one that failed. -/
def IsLaunch : Notice → Prop
  | targetReached _ | serviceStarted .. | restarting _ | restartingAfterPause _
  | restartFailed .. => True
  | _ => False

/-- Tells that the rescue shell or the session is tried. -/
def IsTrial : Notice → Prop
  | rescueEntered | sessionStarting => True
  | _ => False

/-- Tells of neither. -/
def IsRemark : Notice → Prop
  | targetReached _ | serviceStarted .. | restarting _ | restartingAfterPause _ | restartFailed ..
  | rescueEntered | sessionStarting => False
  | _ => True

end Notice

/-- Tells of no unit and of no shutdown. -/
def Entry.IsMute : Entry → Prop
  | .notice n => n.IsRemark
  | .spawned .. | .spawnFailed _ | .completed .. => True
  | _ => False

namespace Journal

/-- From the one journal to the other there are only entries of a kind. -/
def Gains (p : Entry → Prop) (journal journal' : List Record) : Prop :=
  ∃ new, journal' = new ++ journal ∧ ∀ r ∈ new, p r.entry

namespace Gains

variable {p q : Entry → Prop} {journal journal' journal'' : List Record}

theorem refl (journal : List Record) : Gains p journal journal :=
  ⟨[], rfl, List.forall_mem_nil _⟩

theorem trans (h : Gains p journal journal') (h' : Gains p journal' journal'') :
    Gains p journal journal'' := by
  obtain ⟨new, rfl, hnew⟩ := h
  obtain ⟨new', rfl, hnew'⟩ := h'
  refine ⟨new' ++ new, (List.append_assoc ..).symm, fun r hr => ?_⟩
  exact (List.mem_append.mp hr).elim (hnew' r) (hnew r)

theorem cons {r : Record} (hr : p r.entry) (journal : List Record) :
    Gains p journal (r :: journal) :=
  ⟨[r], rfl, List.forall_mem_singleton.mpr hr⟩

theorem mono (h : Gains p journal journal') (hpq : ∀ e, p e → q e) : Gains q journal journal' := by
  obtain ⟨new, heq, hnew⟩ := h
  exact ⟨new, heq, fun r hr => hpq _ (hnew r hr)⟩

theorem suffix (h : Gains p journal journal') : journal <:+ journal' := by
  obtain ⟨new, heq, -⟩ := h
  exact ⟨new, heq.symm⟩

end Gains

/-- The journal holds a notice. -/
def Told (n : Notice) (journal : List Record) : Prop :=
  ∃ r ∈ journal, r.entry = .notice n

theorem Told.mono {n : Notice} {journal journal' : List Record} (h : Told n journal)
    (hsuffix : journal <:+ journal') : Told n journal' := by
  obtain ⟨r, hr, heq⟩ := h
  exact ⟨r, hsuffix.mem hr, heq⟩

theorem Gains.told {p : Entry → Prop} {n : Notice} {journal journal' : List Record}
    (h : Gains p journal journal') (htold : Told n journal') : Told n journal ∨ p (.notice n) := by
  obtain ⟨new, rfl, hnew⟩ := h
  obtain ⟨r, hr, heq⟩ := htold
  rcases List.mem_append.mp hr with hr | hr
  · exact .inr (heq ▸ hnew r hr)
  · exact .inl ⟨r, hr, heq⟩

end Journal

namespace Supervisor

variable {σ : Type} [Platform σ]

inductive Chore : Supervisor σ → Supervisor σ → Prop
  | remark (s : Supervisor σ) {n : Notice} (hn : n.IsRemark) : Chore s (s.say n)
  | boast (s : Supervisor σ) {n : Notice} (hn : n.IsLaunch) (hrunning : s.stopping = false) :
    Chore s (s.say n)
  | count (s : Supervisor σ) (crashes : CrashTracker) (hrunning : s.stopping = false) :
    Chore s { s with crashes := crashes }
  | spawn (s : Supervisor σ) (command : String) : Chore s (s.spawn command).2
  | spawnAndAwait (s : Supervisor σ) (command : String) : Chore s (s.spawnAndAwait command).2
  /-- Files a process under a unit. -/
  | file (s : Supervisor σ) (pid : Pid) (unit : String) (hrunning : s.stopping = false) :
    Chore s { s with processes := s.processes.insert pid ⟨unit, some unit⟩ }
  | look (s : Supervisor σ) : Chore s { s with toWorld := s.toWorld.tryWaitAny.2 }
  | collect (s : Supervisor σ) {pid : Pid} {status : ExitStatus}
    (hended : s.toWorld.tryWaitAny.1 = .ok (some (pid, status))) :
    Chore s (collect { s with toWorld := s.toWorld.tryWaitAny.2 } pid status)

abbrev Chores : Supervisor σ → Supervisor σ → Prop :=
  Relation.ReflTransGen Chore

/-- A chore, or what is done for the rescue shell while everything else stands still. -/
inductive Errand : Supervisor σ → Supervisor σ → Prop
  | chore {s s' : Supervisor σ} (h : Chore s s') : Errand s s'
  | wait (s : Supervisor σ) (pid : Pid) :
    Errand s { s with toWorld := (s.toWorld.waitBlocking pid true).2 }
  | release (s : Supervisor σ) (pid : Pid) : Errand s (s.release pid)

abbrev Errands : Supervisor σ → Supervisor σ → Prop :=
  Relation.ReflTransGen Errand

variable {s s' s'' : Supervisor σ}

theorem Errands.of_eq {α : Type} {a : α} {p : α × Supervisor σ} (h : s.Errands p.2)
    (heq : p = (a, s')) : s.Errands s' := by
  rwa [heq] at h

theorem Chores.of_eq {α : Type} {a : α} {p : α × Supervisor σ} (h : s.Chores p.2)
    (heq : p = (a, s')) : s.Chores s' := by
  rwa [heq] at h

/-! ## What a chore leaves alone -/

omit [Platform σ] in
theorem stopping_settle (s : Supervisor σ) (pid : Pid) (status : Option ExitStatus) :
    (s.settle pid status).stopping = s.stopping := by
  obtain ⟨waiters, settled, heq⟩ := s.settle_eq pid status
  rw [heq]

theorem stopping_spawn (command : String) (s : Supervisor σ) :
    (s.spawn command).2.stopping = s.stopping := by
  rw [Supervisor.spawn]
  split
  next => rfl
  next => split <;> rfl

theorem stopping_launchService (unit : String) (u : UnitDef) (s : Supervisor σ) :
    (s.launchService unit u).2.stopping = s.stopping := by
  rw [launchService]
  split
  next => rfl
  next command _ =>
    have hspawned := stopping_spawn command s
    split
    next heq => rwa [heq] at hspawned
    next heq => rwa [heq] at hspawned

theorem Chore.stopping (h : s.Chore s') : s'.stopping = s.stopping := by
  cases h with
  | spawn command => exact stopping_spawn command s
  | spawnAndAwait command =>
    have hspawned := stopping_spawn command s
    rw [Supervisor.spawnAndAwait]
    split
    next pid t heq =>
      rw [heq] at hspawned
      exact (t.stopping_settle pid none).trans hspawned
    next heq => rwa [heq] at hspawned
  | collect => exact stopping_settle _ _ _
  | remark | boast | count | file | look => rfl

theorem Chores.stopping (h : s.Chores s') : s'.stopping = s.stopping := by
  induction h with
  | refl => rfl
  | tail _ hchore ih => exact hchore.stopping.trans ih

theorem Errands.stopping (h : s.Errands s') : s'.stopping = s.stopping := by
  induction h with
  | refl => rfl
  | tail _ herrand ih =>
    refine Eq.trans ?_ ih
    cases herrand with
    | chore h => exact h.stopping
    | wait => rfl
    | release => exact stopping_settle _ _ _

theorem Chore.grows (h : s.Chore s') : s.Grows s' := by
  cases h with
  | remark | boast => exact s.grows_say _
  | count crashes => exact s.grows_crashes crashes
  | spawn command => exact s.grows_spawn command
  | spawnAndAwait command => exact s.grows_spawnAndAwait command
  | file => exact s.grows_processes _
  | look => exact grows_inWorld s.toWorld.grows_tryWaitAny
  | collect =>
    exact (grows_inWorld s.toWorld.grows_tryWaitAny).trans
      (((grows_processes _ _).trans (grows_say _ _)).trans (grows_settle _ _ _))

theorem Errands.grows (h : s.Errands s') : s.Grows s' := by
  induction h with
  | refl => exact .refl s
  | tail _ herrand ih =>
    refine ih.trans ?_
    cases herrand with
    | chore h => exact h.grows
    | wait pid => exact grows_inWorld (World.grows_waitBlocking pid true _)
    | release pid => exact grows_release _ pid

/-! ## What a chore writes -/

/-- What chores may write. -/
def Tells (s : Supervisor σ) (e : Entry) : Prop :=
  e.IsMute ∨ s.stopping = false ∧ ∃ n, e = .notice n ∧ n.IsLaunch

omit [Platform σ] in
theorem journal_release (s : Supervisor σ) (pid : Pid) : (s.release pid).journal = s.journal :=
  s.journal_settle pid none

theorem gains_spawn (command : String) (s : Supervisor σ) :
    Gains Entry.IsMute s.journal (s.spawn command).2.journal := by
  rw [Supervisor.spawn]
  split
  next => exact .refl _
  next program args _ =>
    rcases hspawned : s.toWorld.spawn (program :: args) s.config.env with ⟨e | pid, w⟩
    · obtain ⟨-, hsame | hfailed⟩ := World.spawn_error hspawned
      · exact hsame ▸ .refl _
      · exact hfailed ▸ .cons trivial _
    · obtain ⟨-, hjournal⟩ := World.spawn_journal hspawned
      exact hjournal ▸ .cons trivial _

theorem Chore.gains (h : s.Chore s') : Gains s.Tells s.journal s'.journal := by
  have hspawned (command : String) : Gains s.Tells s.journal (s.spawn command).2.journal :=
    (gains_spawn command s).mono fun _ => .inl
  cases h with
  | remark hn => exact .cons (.inl hn) _
  | boast hn hrunning => exact .cons (.inr ⟨hrunning, _, rfl, hn⟩) _
  | spawn command => exact hspawned command
  | spawnAndAwait command =>
    have hspawned := hspawned command
    rw [Supervisor.spawnAndAwait]
    split
    next pid t heq =>
      rw [heq] at hspawned
      exact (t.journal_settle pid none).symm ▸ hspawned
    next heq => rwa [heq] at hspawned
  | collect =>
    rw [Supervisor.collect, journal_settle]
    exact .cons (.inl trivial) _
  | count | file | look => exact .refl _

theorem Errands.gains (h : s.Errands s') :
    Gains (fun e => s.Tells e ∨ ∃ pid, e = .waitedBlocking pid true) s.journal s'.journal := by
  induction h with
  | refl => exact .refl _
  | tail herrands herrand ih =>
    refine ih.trans ?_
    cases herrand with
    | chore h =>
      refine h.gains.mono fun e he => .inl ?_
      rwa [Tells, Errands.stopping herrands] at he
    | wait pid =>
      dsimp only
      rw [World.waitBlocking_journal]
      exact .cons (.inr ⟨pid, rfl⟩) _
    | release pid => exact (journal_release _ pid).symm ▸ .refl _

/-! ## Operations as chores -/

theorem chores_launchService (unit : String) (u : UnitDef) (hrunning : s.stopping = false) :
    s.Chores (s.launchService unit u).2 := by
  rw [launchService]
  split
  next => exact .single (.boast s trivial hrunning)
  next command _ =>
    have hspawned : s.Chores (s.spawn command).2 := .single (.spawn s command)
    have hstill := stopping_spawn command s
    split
    next pid t heq =>
      rw [heq] at hstill
      have hfiled := (hspawned.of_eq heq).tail (.file t pid unit (hstill.trans hrunning))
      exact hfiled.tail (.boast _ trivial (hstill.trans hrunning))
    next heq => exact hspawned.of_eq heq

theorem chores_relaunch (unit : String) (u : UnitDef) (hrunning : s.stopping = false) :
    s.Chores (s.relaunch unit u) := by
  have hlaunched := s.chores_launchService unit u hrunning
  have hstill := Chores.stopping hlaunched
  rw [relaunch]
  split
  next heq => exact hlaunched.of_eq heq
  next t heq =>
    rw [heq] at hstill
    exact (hlaunched.of_eq heq).tail (.boast t trivial (hstill.trans hrunning))

theorem chores_relaunchDue (units : List String) (hrunning : s.stopping = false) :
    s.Chores (s.relaunchDue units) := by
  induction units generalizing s with
  | nil => exact .refl
  | cons unit units ih =>
    rw [relaunchDue]
    split
    next u _ =>
      have hboasted : s.Chores (s.say (.restartingAfterPause unit)) :=
        .single (.boast s trivial hrunning)
      have hrelaunched := hboasted.trans (chores_relaunch unit u hrunning)
      exact hrelaunched.trans (ih ((Chores.stopping hrelaunched).trans hrunning))
    next => exact ih hrunning

theorem chores_launchDueRestarts (clock : Nat) (s : Supervisor σ) :
    s.Chores (s.launchDueRestarts clock) := by
  rw [launchDueRestarts]
  split
  next => exact .refl
  next hstopping =>
    have hrunning : s.stopping = false := by simpa using hstopping
    have hcounted : s.Chores { s with crashes := (s.crashes.takeDue clock).2 } :=
      .single (.count s _ hrunning)
    exact hcounted.trans (chores_relaunchDue _ hrunning)

theorem chores_applyRestartPolicy (unit : String) (clock : Nat) (s : Supervisor σ) :
    s.Chores (s.applyRestartPolicy unit clock) := by
  rw [applyRestartPolicy]
  split
  next => exact .refl
  next u _ =>
    split
    next => exact .refl
    next =>
      split
      next => exact .single (.remark s trivial)
      next hstopping =>
        have hrunning : s.stopping = false := by simpa using hstopping
        rw [crashed]
        split
        next crashes _ =>
          have hcounted : s.Chores { s with crashes := crashes } := .single (.count s _ hrunning)
          have hboasted := hcounted.tail (.boast _ (n := .restarting unit) trivial hrunning)
          exact hboasted.trans (chores_relaunch unit u hrunning)
        next deadline crashes _ =>
          have hcounted : s.Chores { s with crashes := crashes } := .single (.count s _ hrunning)
          exact hcounted.tail (.remark _ trivial)

theorem chores_tick (clock : Nat) (s : Supervisor σ) : s.Chores (s.tick clock).2 := by
  have hlaunched := s.chores_launchDueRestarts clock
  rw [tick]
  generalize s.launchDueRestarts clock = t at hlaunched
  have hlooked := hlaunched.tail (.look t)
  split
  next pid status w heq =>
    obtain ⟨hended, rfl⟩ := Prod.ext_iff.mp heq
    have hcollected := hlaunched.tail (.collect t hended)
    dsimp only
    rw [handleExit_eq]
    split
    · exact hcollected.trans (chores_applyRestartPolicy _ clock _)
    · exact hcollected
  next heq => obtain ⟨-, rfl⟩ := Prod.ext_iff.mp heq; exact hlooked
  next heq => obtain ⟨-, rfl⟩ := Prod.ext_iff.mp heq; exact hlooked
  next heq =>
    obtain ⟨-, rfl⟩ := Prod.ext_iff.mp heq
    exact hlooked.tail (.remark _ trivial)

end Supervisor

end InitDaemon
