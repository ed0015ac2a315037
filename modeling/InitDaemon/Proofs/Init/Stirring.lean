import InitDaemon.Proofs.Init.OtherPolls
import InitDaemon.Proofs.Init.PauseOrder
import InitDaemon.Proofs.Process.TableEvents

/-!
# What a task stirs up

A task that goes on writes into the journal, wakes those that waited for what it does, and brings in
tasks that start units or look after processes. All this leaves the shutdowns that pause where they
are.
-/

namespace InitDaemon

open Std InitDaemon.Units

/-! ## Kinds of tasks -/

namespace Task

def pause? : Task → Option Pause
  | .power state (.pausing deadline next) => some ⟨state, deadline, next⟩
  | _ => none

/-- Starts a unit or looks after a process. -/
def IsAide : Task → Prop
  | .start .. | .watchNetworkManager _ | .reap .. | .report _ => True
  | _ => False

/-- May yet ask for another power state. -/
def IsCaller : Task → Prop
  | .watchSignals .. | .bootChain _ | .session _ | .power _ .fresh => True
  | _ => False

/-- A session waits for no more units than the foundation has, and no shutdown has yet to set the
alarm for its pause. -/
def Fits (config : Config) : Task → Prop
  | .session (.awaiting handles) => handles.length ≤ config.foundation.length
  | .power _ (.delayed ..) => False
  | _ => True

variable {t t' : Task}

theorem IsAide.pause?_eq (h : t.IsAide) : t.pause? = none := by
  cases t with
  | power => exact h.elim
  | _ => rfl

theorem IsCaller.pause?_eq (h : t.IsCaller) : t.pause? = none := by
  cases t with
  | power state phase =>
    cases phase with
    | fresh => rfl
    | delayed => exact h.elim
    | pausing => exact h.elim
  | _ => rfl

theorem IsAide.not_isCaller (h : t.IsAide) : ¬ t.IsCaller := by
  cases t with
  | start | watchNetworkManager | reap | report => exact not_false
  | watchSignals | bootChain | session | power => exact h.elim

theorem IsAide.fits (h : t.IsAide) (config : Config) : t.Fits config := by
  cases t with
  | session => exact h.elim
  | power => exact h.elim
  | _ => trivial

theorem Fits.kind {config : Config} (h : t.Fits config) :
    t.IsAide ∨ t.IsCaller ∨ ∃ state deadline next, t = .power state (.pausing deadline next) := by
  cases t with
  | power state phase =>
    cases phase with
    | fresh => exact .inr (.inl trivial)
    | delayed => exact h.elim
    | pausing deadline next => exact .inr (.inr ⟨state, deadline, next, rfl⟩)
  | start | watchNetworkManager | reap | report => exact .inl trivial
  | watchSignals | bootChain | session => exact .inr (.inl trivial)

theorem eq_of_pause? {q : Pause} (h : t.pause? = some q) :
    t = .power q.state (.pausing q.deadline q.next) := by
  cases t with
  | power state phase =>
    cases phase with
    | pausing deadline next =>
      cases h
      rfl
    | fresh | delayed => cases h
  | start | watchNetworkManager | watchSignals | bootChain | session | reap | report => cases h

theorem pause?_of_awaits {channel : Channel} (h : Init.awaits channel t = true) :
    t.pause? = none := by
  cases t with
  | power => cases h
  | _ => rfl

theorem pause?_of_holdsSettled {settled : ExtTreeMap Ticket (Option ExitStatus)}
    (h : Init.holdsSettled settled t = true) : t.pause? = none := by
  cases t with
  | power => cases h
  | _ => rfl

/-- Waits for the end of a process. -/
def HoldsTicket (t : Task) : Prop :=
  ∃ settled, Init.holdsSettled settled t = true

def IsFree (t : Task) : Prop :=
  t.pause? = none

theorem HoldsTicket.isFree (h : t.HoldsTicket) : t.IsFree := by
  obtain ⟨settled, hholds⟩ := h
  exact pause?_of_holdsSettled hholds

/-- A task goes on as a task of its own kind. -/
def Becomes (config : Config) (t t' : Task) : Prop :=
  t.IsAide ∧ t'.IsAide ∨ t.IsCaller ∧ t'.IsCaller ∧ t'.Fits config

theorem Becomes.isFree {config : Config} (h : t.Becomes config t') : t'.IsFree :=
  h.elim (fun haide => haide.2.pause?_eq) fun hcaller => hcaller.2.1.pause?_eq

end Task

/-! ## Calm journals -/

namespace Journal

def StaysCalm (journal journal' : List Record) : Prop :=
  ∃ new, journal' = new ++ journal ∧ ∀ r ∈ new, r.entry.IsCalm

namespace StaysCalm

variable {journal journal' journal'' : List Record}

theorem refl (journal : List Record) : StaysCalm journal journal :=
  ⟨[], rfl, List.forall_mem_nil _⟩

theorem trans (h : StaysCalm journal journal') (h' : StaysCalm journal' journal'') :
    StaysCalm journal journal'' := by
  obtain ⟨new, rfl, hnew⟩ := h
  obtain ⟨new', rfl, hnew'⟩ := h'
  refine ⟨new' ++ new, (List.append_assoc ..).symm, fun r hr => ?_⟩
  rcases List.mem_append.mp hr with hr | hr
  · exact hnew' r hr
  · exact hnew r hr

theorem note (e : Entry) (he : e.IsCalm) (time : Nat) (journal : List Record) :
    StaysCalm journal (⟨time, e⟩ :: journal) :=
  ⟨[⟨time, e⟩], rfl, List.forall_mem_singleton.mpr he⟩

end StaysCalm

end Journal

open Journal

namespace World

variable {σ : Type}

theorem calm_foldl_say (notices : List Notice) (w : World σ) :
    StaysCalm w.journal (notices.foldl say w).journal := by
  induction notices generalizing w with
  | nil => exact .refl _
  | cons n notices ih =>
    exact (StaysCalm.note (.notice n) trivial w.now w.journal).trans (ih (w.say n))

theorem calm_host [Platform σ] (step : HostStep) (w : World σ) :
    StaysCalm w.journal (w.host step).2.journal := by
  simp only [host]
  exact (StaysCalm.note (.hosted step) trivial w.now w.journal).trans (calm_foldl_say _ _)

theorem calm_waitBlocking [Platform σ] (pid : Pid) (suspended : Bool) (w : World σ) :
    StaysCalm w.journal (w.waitBlocking pid suspended).2.journal := by
  simp only [waitBlocking]
  split
  all_goals exact .note (.waitedBlocking pid suspended) trivial _ _

end World

namespace Supervisor

variable {σ : Type} {s s' : Supervisor σ}

/-- The work of the process table: the clock goes on, and nothing is said about power states. -/
structure Works (s s' : Supervisor σ) : Prop where
  config : s'.config = s.config
  now_le : s.now ≤ s'.now
  calm : StaysCalm s.journal s'.journal

theorem works_of_grows (h : s.Grows s') (hcalm : StaysCalm s.journal s'.journal) : s.Works s' :=
  ⟨h.config, h.world.now_le, hcalm⟩

theorem Follows.calm_journal {new : List Record} (h : Follows new s s') :
    StaysCalm s.journal s'.journal :=
  ⟨new, h.journal, h.calm⟩

theorem works_release (s : Supervisor σ) (pid : Pid) : s.Works (s.release pid) := by
  refine works_of_grows (grows_release s pid) ?_
  rw [show (s.release pid).journal = s.journal from journal_settle s pid none]
  exact .refl _

variable [Platform σ]

theorem Starts.calm (h : s.Starts s') : StaysCalm s.journal s'.journal := by
  obtain ⟨new, hnew⟩ := h.follows
  exact hnew.calm_journal

theorem works_spawn (command : String) (s : Supervisor σ) : s.Works (s.spawn command).2 :=
  works_of_grows (grows_spawn command s) (starts_spawn command s).calm

theorem works_launchService (unit : String) (u : UnitDef) (s : Supervisor σ) :
    s.Works (s.launchService unit u).2 :=
  works_of_grows (grows_launchService unit u s) (starts_launchService unit u s).calm

theorem works_spawnAndAwait (command : String) (s : Supervisor σ) :
    s.Works (s.spawnAndAwait command).2 := by
  refine works_of_grows (grows_spawnAndAwait command s) ?_
  have hspawned := (starts_spawn command s).calm
  rw [spawnAndAwait]
  split
  next pid t heq =>
    rw [heq] at hspawned
    rw [← journal_settle t pid none] at hspawned
    exact hspawned
  next heq =>
    rw [heq] at hspawned
    exact hspawned

theorem works_tick (now : Nat) (s : Supervisor σ) : s.Works (s.tick now).2 := by
  refine works_of_grows (grows_tick now s) ?_
  rcases s.tick_cases now with ⟨pid, status, w, hlook, htick⟩ | ⟨-, -, new, hnew⟩
  · obtain ⟨-, rfl⟩ := Prod.ext_iff.mp hlook
    have hlaunched := (s.starts_launchDueRestarts now).calm
    have hexit := (starts_handleExit pid status now { s.launchDueRestarts now with
      toWorld := (s.launchDueRestarts now).toWorld.tryWaitAny.2 }).calm
    rw [htick]
    refine hlaunched.trans (StaysCalm.trans ?_ hexit)
    rw [collect, journal_settle]
    exact .note (.notice _) trivial _ _
  · exact hnew.calm_journal

end Supervisor

namespace Init

variable {σ : Type} {wakes : Task → Prop} {id : TaskId} {t : Task} {s₀ s s' s'' : Init σ}

theorem isSome_halt_stop (s : Init σ) (id : TaskId) (halt : Halt) :
    (s.stop id halt).halt.isSome = true := by
  change (s.halt <|> some halt).isSome = true
  cases s.halt with
  | none => rfl
  | some => rfl

theorem isWaiting_iff {c : TaskId} : s.isWaiting c = true ↔ c ∉ s.queue ++ s.deferred := by
  simp [isWaiting]

theorem wake_cases (s : Init σ) (c : TaskId) :
    c ∉ s.queue ++ s.deferred ∧ s.wake c = { s with queue := s.queue ++ [c] } ∨
      c ∈ s.queue ++ s.deferred ∧ s.wake c = s := by
  by_cases h : s.isWaiting c = true
  · exact .inl ⟨isWaiting_iff.mp h, if_pos h⟩
  · exact .inr ⟨not_not.mp (isWaiting_iff.not.mp h), if_neg h⟩

/-- Who is put at the end of the queue only when waiting has one place at most. -/
theorem once_append {c c' : TaskId} (h : c ∉ s.queue ++ s.deferred)
    (hcount : (s.queue ++ s.deferred).count c' ≤ 1) :
    (s.queue ++ [c] ++ s.deferred).count c' ≤ 1 := by
  by_cases heq : c' = c
  · subst heq
    have hzero := List.count_eq_zero.mpr h
    simp only [List.count_append, List.count_singleton_self] at hzero ⊢
    omega
  · simpa [List.count_append, List.count_singleton, Ne.symm heq] using hcount

/-! ## Before a task comes to rest -/

/-- What may become of a state before the task that goes on comes to rest. Only tasks of the given
kind are woken. -/
structure Stirs (wakes : Task → Prop) (id : TaskId) (s s' : Init σ) : Prop where
  config : s'.config = s.config
  now_le : s.now ≤ s'.now
  calm : StaysCalm s.journal s'.journal
  halt : s'.halt = s.halt
  deferred : s'.deferred = s.deferred
  alarms_sublist : s'.alarms.Sublist s.alarms
  other_alarms : s'.alarms.filter (·.task != id) = s.alarms.filter (·.task != id)
  nextTask_le : s.nextTask ≤ s'.nextTask
  tasks : ∀ c : TaskId, s'.tasks[c]? = s.tasks[c]? ∨
    s.nextTask ≤ c ∧ c < s'.nextTask ∧ ∃ t, s'.tasks[c]? = some t ∧ t.IsAide
  queue : ∃ woken, s'.queue = s.queue ++ woken ∧ ∀ c ∈ woken,
    s.nextTask ≤ c ∧ c < s'.nextTask ∨ ∃ t, s.tasks[c]? = some t ∧ wakes t
  once : ∀ c < s.nextTask, (s.queue ++ s.deferred).count c ≤ 1 →
    (s'.queue ++ s'.deferred).count c ≤ 1

namespace Stirs

theorem refl (wakes : Task → Prop) (id : TaskId) (s : Init σ) : s.Stirs wakes id s where
  config := rfl
  now_le := Nat.le_refl _
  calm := .refl _
  halt := rfl
  deferred := rfl
  alarms_sublist := .refl _
  other_alarms := rfl
  nextTask_le := Nat.le_refl _
  tasks _ := .inl rfl
  queue := ⟨[], (List.append_nil _).symm, List.forall_mem_nil _⟩
  once _ _ h := h

theorem task_eq (h : s.Stirs wakes id s') {c : TaskId} (hc : c < s.nextTask) :
    s'.tasks[c]? = s.tasks[c]? :=
  (h.tasks c).resolve_right fun hnew => Nat.not_le_of_lt hc hnew.1

theorem trans (h : s.Stirs wakes id s') (h' : s'.Stirs wakes id s'') : s.Stirs wakes id s'' where
  config := h'.config.trans h.config
  now_le := Nat.le_trans h.now_le h'.now_le
  calm := h.calm.trans h'.calm
  halt := h'.halt.trans h.halt
  deferred := h'.deferred.trans h.deferred
  alarms_sublist := h'.alarms_sublist.trans h.alarms_sublist
  other_alarms := h'.other_alarms.trans h.other_alarms
  nextTask_le := Nat.le_trans h.nextTask_le h'.nextTask_le
  tasks c := by
    rcases h'.tasks c with heq' | ⟨hge, hlt, t, ht, haide⟩
    · rw [heq']
      exact (h.tasks c).imp_right fun ⟨hge, hlt, hnew⟩ =>
        ⟨hge, Nat.lt_of_lt_of_le hlt h'.nextTask_le, hnew⟩
    · exact .inr ⟨Nat.le_trans h.nextTask_le hge, hlt, t, ht, haide⟩
  queue := by
    obtain ⟨woken, hwoken, hold⟩ := h.queue
    obtain ⟨woken', hwoken', hold'⟩ := h'.queue
    refine ⟨woken ++ woken', by rw [hwoken', hwoken, List.append_assoc], fun c hc => ?_⟩
    rcases List.mem_append.mp hc with hc | hc
    · exact (hold c hc).imp_left fun hnew => ⟨hnew.1, Nat.lt_of_lt_of_le hnew.2 h'.nextTask_le⟩
    · rcases hold' c hc with ⟨hge, hlt⟩ | ⟨t, ht, hwakes⟩
      · exact .inl ⟨Nat.le_trans h.nextTask_le hge, hlt⟩
      · rcases h.tasks c with heq | ⟨hge, hlt, -⟩
        · exact .inr ⟨t, heq ▸ ht, hwakes⟩
        · exact .inl ⟨hge, Nat.lt_of_lt_of_le hlt h'.nextTask_le⟩
  once c hc hcount :=
    h'.once c (Nat.lt_of_lt_of_le hc h.nextTask_le) (h.once c hc hcount)

theorem of_eq {α : Type} {a : α} {p : α × Init σ} (h : s.Stirs wakes id p.2) (heq : p = (a, s')) :
    s.Stirs wakes id s' := by
  rwa [heq] at h

/-! ### The world -/

theorem table {sup : Supervisor σ} (hs : s₀.Stirs wakes id s) (h : s.toSupervisor.Works sup) :
    s₀.Stirs wakes id { s with toSupervisor := sup } :=
  hs.trans { refl wakes id s with config := h.config, now_le := h.now_le, calm := h.calm }

theorem world {w : World σ} (hs : s₀.Stirs wakes id s) (hnow : s.now ≤ w.now)
    (hcalm : StaysCalm s.journal w.journal) : s₀.Stirs wakes id { s with toWorld := w } := by
  have hworks : s.toSupervisor.Works { s.toSupervisor with toWorld := w } := ⟨rfl, hnow, hcalm⟩
  exact hs.table hworks

theorem note (hs : s₀.Stirs wakes id s) (e : Entry) (he : e.IsCalm) :
    s₀.Stirs wakes id (s.note e) :=
  hs.world (Nat.le_refl _) (.note e he _ _)

theorem say (hs : s₀.Stirs wakes id s) (n : Notice) : s₀.Stirs wakes id (s.say n) :=
  hs.note (.notice n) trivial

theorem host [Platform σ] (hs : s₀.Stirs wakes id s) (step : HostStep) :
    s₀.Stirs wakes id (s.host step).2 :=
  hs.world (World.grows_host step s.toWorld).now_le (World.calm_host step s.toWorld)

/-- Neither readiness nor the suspension matters. -/
theorem of_fields (hs : s₀.Stirs wakes id s) (htable : s'.toSupervisor = s.toSupervisor)
    (htasks : s'.tasks = s.tasks) (hnext : s'.nextTask = s.nextTask) (hqueue : s'.queue = s.queue)
    (hdeferred : s'.deferred = s.deferred) (halarms : s'.alarms = s.alarms)
    (hhalt : s'.halt = s.halt) : s₀.Stirs wakes id s' where
  config := htable ▸ hs.config
  now_le := htable ▸ hs.now_le
  calm := htable ▸ hs.calm
  halt := hhalt ▸ hs.halt
  deferred := hdeferred ▸ hs.deferred
  alarms_sublist := halarms ▸ hs.alarms_sublist
  other_alarms := halarms ▸ hs.other_alarms
  nextTask_le := hnext ▸ hs.nextTask_le
  tasks := by
    rw [htasks, hnext]
    exact hs.tasks
  queue := by
    rw [hqueue, hnext]
    exact hs.queue
  once := by
    rw [hqueue, hdeferred]
    exact hs.once

/-! ### Waking -/

theorem stirs_wake {c : TaskId} (ht : s.tasks[c]? = some t) (hwakes : wakes t) :
    s.Stirs wakes id (s.wake c) := by
  rcases s.wake_cases c with ⟨hwaiting, heq⟩ | ⟨-, heq⟩
  · rw [heq]
    exact { refl wakes id s with
      queue := ⟨[c], rfl, List.forall_mem_singleton.mpr (.inr ⟨t, ht, hwakes⟩)⟩
      once := fun c' _ hcount => once_append hwaiting hcount }
  · rw [heq]
    exact refl wakes id s

theorem wakeAll {ids : List TaskId} (hs : s₀.Stirs wakes id s)
    (hids : ∀ c ∈ ids, ∃ t, s.tasks[c]? = some t ∧ wakes t) :
    s₀.Stirs wakes id (s.wakeAll ids) := by
  induction ids generalizing s with
  | nil => exact hs
  | cons c ids ih =>
    obtain ⟨⟨t, ht, hwakes⟩, hrest⟩ := List.forall_mem_cons.mp hids
    refine ih (s := s.wake c) (hs.trans (stirs_wake ht hwakes)) fun c' hc' => ?_
    have htasks : (s.wake c).tasks = s.tasks := by
      rcases s.wake_cases c with ⟨-, heq⟩ | ⟨-, heq⟩
      all_goals rw [heq]
    rw [htasks]
    exact hrest c' hc'

theorem wakeWhere {p : Task → Bool} (hs : s₀.Stirs wakes id s)
    (h : ∀ t, p t = true → wakes t) : s₀.Stirs wakes id (s.wakeAll (s.tasksWhere p)) := by
  refine hs.wakeAll fun c hc => ?_
  obtain ⟨t, ht, hp⟩ := mem_tasksWhere.mp hc
  exact ⟨t, ht, h t hp⟩

theorem inTable {α : Type} {f : Supervisor σ → α × Supervisor σ} (hs : s₀.Stirs wakes id s)
    (hwakes : ∀ t, t.HoldsTicket → wakes t) (h : s.toSupervisor.Works (f s.toSupervisor).2) :
    s₀.Stirs wakes id (s.inTable f).2 :=
  (hs.table h).wakeWhere fun t ht => hwakes t ⟨_, ht⟩

theorem resolve (hs : s₀.Stirs wakes id s) (hwakes : ∀ t channel, awaits channel t = true → wakes t)
    (unit : String) (o : Outcome) : s₀.Stirs wakes id (s.resolve unit o) := by
  rw [Init.resolve]
  split
  next => exact hs
  next channel _ =>
    have hsent : s₀.Stirs wakes id { s with readiness := s.readiness.send channel o } :=
      hs.of_fields rfl rfl rfl rfl rfl rfl rfl
    exact (hsent.note (.resolved unit o) trivial).wakeWhere fun t => hwakes t channel

/-! ### Other tasks -/

theorem addTask (hs : s₀.Stirs wakes id s) (ht : t.IsAide) : s₀.Stirs wakes id (s.addTask t) := by
  refine hs.trans { refl wakes id s with
    nextTask_le := Nat.le_succ _
    tasks := fun c => ?_
    queue := ⟨[s.nextTask], rfl, List.forall_mem_singleton.mpr
      (.inl ⟨Nat.le_refl _, Nat.lt_succ_self _⟩)⟩
    once := fun c hc hcount => ?_ }
  · rw [Init.addTask, getElem?_insert_task]
    split
    next heq => exact .inr ⟨Nat.le_of_eq heq, heq ▸ Nat.lt_succ_self _, t, rfl, ht⟩
    next => exact .inl rfl
  · have hne : s.nextTask ≠ c := (Nat.ne_of_lt hc).symm
    simpa [Init.addTask, List.count_append, List.count_singleton, hne] using hcount

theorem dropAlarms (hs : s₀.Stirs wakes id s) : s₀.Stirs wakes id (s.dropAlarms id) :=
  hs.trans { refl wakes id s with
    alarms_sublist := List.filter_sublist
    other_alarms := by simp [Init.dropAlarms] }

theorem request (hs : s₀.Stirs wakes id s) (unit : String) (chain : List String) :
    s₀.Stirs wakes id (s.request unit chain).2 := by
  rw [Init.request]
  split
  next h _ => exact hs.note (.requested h chain) trivial
  next =>
    rw [Init.enter]
    have hentered : s₀.Stirs wakes id
        (s.entering unit chain ((s.rejection? unit chain).map .error)) := by
      have hnoted := hs.note (.requested ⟨unit, s.readiness.next⟩ chain) trivial
      exact hnoted.of_fields rfl rfl rfl rfl rfl rfl rfl
    cases hrejected : s.rejection? unit chain with
    | some e =>
      rw [hrejected] at hentered
      exact (hentered.note (.resolved unit (.error e)) trivial).say (.rejected e)
    | none =>
      rw [hrejected] at hentered
      exact hentered.addTask trivial

theorem requestAll (hs : s₀.Stirs wakes id s) (chain units : List String) :
    s₀.Stirs wakes id (s.requestAll chain units).2 :=
  requestAll_induction (fun _ unit _ h => h.request unit chain) hs

end Stirs

end Init

end InitDaemon
