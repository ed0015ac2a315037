import InitDaemon.Proofs.Init.PollSteps
import InitDaemon.Proofs.Init.PowerCourse
import InitDaemon.Proofs.Init.StepRecords
import InitDaemon.Proofs.Init.StepTasks
import InitDaemon.Proofs.Process.Traced

/-!
# The calls of a request

However many requests for another power state overlap, the kernel calls of a shutdown are made by
the tasks of the requests alone. Each of them makes its calls in order until one comes to the last
call.
-/

namespace InitDaemon

open Std Traced

namespace World

variable {σ : Type} [Platform σ]

/-- The signal is heard and a pause follows, or the last calls come at once. -/
theorem calls_terminate (state : PowerState) (grace : Nat) (w : World (Traced σ)) :
    (∃ w', w.powerStage state grace .terminate = (.pause grace .kill, w') ∧ w'.now = w.now ∧
      w'.calls = ⟨w.now, .signalAll .terminate (.ok ())⟩ :: w.calls) ∨
    ∃ e r w', w.powerStage state grace .terminate = (.ended r, w') ∧
      w'.calls = ⟨w.now, .reboot state r⟩ :: ⟨w.now, .sync⟩ ::
        ⟨w.now, .signalAll .terminate (.error e)⟩ :: w.calls := by
  have hcalls : (w.terminateAll state).2.calls =
      ⟨w.now, .signalAll .terminate (w.terminateAll state).1⟩ :: w.calls := rfl
  have hnow : (w.terminateAll state).2.now = w.now := rfl
  rw [powerStage]
  rcases hsent : w.terminateAll state with ⟨e | _, w₁⟩
  · rw [hsent] at hcalls hnow
    refine .inr ⟨e, _, _, rfl, ?_⟩
    rw [← hcalls, ← hnow]
    rfl
  · rw [hsent] at hcalls hnow
    exact .inl ⟨w₁, rfl, hnow, hcalls⟩

theorem calls_kill (state : PowerState) (grace : Nat) (w : World (Traced σ)) :
    ∃ answer w', w.powerStage state grace .kill = (.pause cleanupPause .finish, w') ∧
      w'.now = w.now ∧ w'.calls = ⟨w.now, .signalAll .kill answer⟩ :: w.calls :=
  ⟨_, _, rfl, rfl, rfl⟩

theorem calls_finish (state : PowerState) (grace : Nat) (w : World (Traced σ)) :
    ∃ r w', w.powerStage state grace .finish = (.ended r, w') ∧
      w'.calls = ⟨w.now, .reboot state r⟩ :: ⟨w.now, .sync⟩ :: w.calls :=
  ⟨_, _, rfl, rfl⟩

/-- A shutdown that nothing else runs beside is the stages of a task with the pauses between them. -/
theorem requestPowerState_eq (state : PowerState) (grace : Nat) (w : World σ) :
    w.requestPowerState state grace =
      match w.powerStage state grace .terminate with
      | (.ended r, w) => (r, w)
      | (.pause delay _, w) =>
        let (_, w) := (w.elapse delay).powerStage state grace .kill
        (w.elapse cleanupPause).lastCalls state := by
  rw [requestPowerState, powerStage]
  rcases w.terminateAll state with ⟨e | _, w'⟩ <;> rfl

end World

/-! ## The calls of one request -/

/-- The calls that a request has made before a stage, the latest first. The stage is not due before
the deadline. -/
def PowerStage.MadeBefore (grace deadline : Nat) : PowerStage → List TimedCall → Prop
  | .terminate, calls => calls = []
  | .kill, calls =>
    ∃ time, calls = [⟨time, .signalAll .terminate (.ok ())⟩] ∧ time + grace ≤ deadline
  | .finish, calls =>
    ∃ time time' answer,
      calls = [⟨time', .signalAll .kill answer⟩, ⟨time, .signalAll .terminate (.ok ())⟩] ∧
      time + grace ≤ time' ∧ time' + World.cleanupPause ≤ deadline

/-- The calls of a shutdown that a task has made before it has come to its place. -/
def Task.Made (grace : Nat) : Task → List TimedCall → Prop
  | .power _ (.delayed deadline next), calls | .power _ (.pausing deadline next), calls =>
    next.MadeBefore grace deadline calls
  | _, calls => calls = []

/-- The calls of a request that comes to its end, the latest first. -/
inductive CallsToTheEnd (grace : Nat) (state : PowerState) : List TimedCall → Prop
  /-- The first signal reaches nobody. -/
  | unheard (time : Nat) (e : Errno) (answer : Except Errno Unit) :
    CallsToTheEnd grace state [⟨time, .reboot state answer⟩, ⟨time, .sync⟩,
      ⟨time, .signalAll .terminate (.error e)⟩]
  | heard {time time' time'' : Nat} (answer answer' : Except Errno Unit)
    (hgrace : time + grace ≤ time') (hpause : time' + World.cleanupPause ≤ time'') :
    CallsToTheEnd grace state [⟨time'', .reboot state answer'⟩, ⟨time'', .sync⟩,
      ⟨time', .signalAll .kill answer⟩, ⟨time, .signalAll .terminate (.ok ())⟩]

namespace Init

variable {σ : Type} {s s' : Init (Traced σ)} {m : Move (Traced σ)} {id : TaskId}
  {final : TaskId → List TimedCall}

def Move.polled? {σ : Type} : Move σ → Option TaskId
  | .poll id => some id
  | _ => none

/-- The calls between two states. -/
def newCalls (s s' : Init (Traced σ)) : List TimedCall :=
  s'.calls.take (s'.calls.length - s.calls.length)

theorem newCalls_eq {new : List TimedCall} (h : s'.calls = new ++ s.calls) :
    newCalls s s' = new := by
  rw [newCalls, h, List.length_append, Nat.add_sub_cancel, List.take_left']
  rfl

def finalOf (calls : List TimedCall) : List TimedCall :=
  calls.filter (·.call.isFinal)

theorem finalOf_append (calls calls' : List TimedCall) :
    finalOf (calls ++ calls') = finalOf calls ++ finalOf calls' :=
  List.filter_append ..

/-- The calls of a shutdown by each task after new calls by the task that is polled. -/
def madeAfter (polled : Option TaskId) (new : List TimedCall) (final : TaskId → List TimedCall)
    (id : TaskId) : List TimedCall :=
  if polled = some id then finalOf new ++ final id else final id

section

variable {polled : Option TaskId} {new new' : List TimedCall}

theorem madeAfter_silent (hnew : ∀ c ∈ new, c.call.isFinal = false) :
    madeAfter polled new final = final := by
  have hnone : finalOf new = [] := List.filter_eq_nil_iff.mpr fun c hc => by simp [hnew c hc]
  funext id
  rw [madeAfter, hnone, List.nil_append, ite_self]

theorem madeAfter_append :
    madeAfter polled new' (madeAfter polled new final) = madeAfter polled (new' ++ new) final := by
  funext id
  rw [madeAfter, madeAfter, madeAfter]
  split
  · rw [finalOf_append, List.append_assoc]
  · rfl

theorem madeAfter_self : madeAfter (some id) new final id = finalOf new ++ final id :=
  if_pos rfl

theorem madeAfter_other {id' : TaskId} (hne : id ≠ id') :
    madeAfter (some id) new final id' = final id' :=
  if_neg fun heq => hne (Option.some.inj heq)

end

/-! ## Before the end -/

/-- Nobody has come to the last call. -/
structure Underway (s : Init (Traced σ)) (final : TaskId → List TimedCall) : Prop where
  id_lt : ∀ (id : TaskId) t, s.tasks[id]? = some t → id < s.nextTask
  made : ∀ (id : TaskId) t, s.tasks[id]? = some t →
    t.Made s.config.shutdownGrace (final id)
  unused : ∀ id, s.nextTask ≤ id → final id = []
  frozen : s.HasRequest → s.stopping = true
  quiet : s.stopping = false → ∀ c ∈ s.calls, c.call.isFinal = false
  up : ∀ c ∈ s.calls, c.call.isReboot = false

/-- A task has come to the last call. -/
structure Ended (s : Init (Traced σ)) (id : TaskId) (final : TaskId → List TimedCall) : Prop where
  halted : s.halt.isSome
  stopping : s.stopping = true
  last : ∃ time state answer earlier,
    s.calls = ⟨time, .reboot state answer⟩ :: ⟨time, .sync⟩ :: earlier ∧
      (∀ c ∈ earlier, c.call.isReboot = false) ∧
      CallsToTheEnd s.config.shutdownGrace state (final id)

variable {t t' : Task} {grace : Nat} {calls : List TimedCall}

/-! ## Tasks that make no such call -/

theorem made_mark {signal : Signal} : (mark signal t).Made grace calls ↔ t.Made grace calls := by
  unfold mark
  split <;> rfl

theorem Proceeds.made (h : s.Proceeds t t') (hmade : t.Made grace calls) :
    t'.Made grace calls := by
  cases h <;> exact hmade

theorem Demands.made {cause : PowerCause} {state : PowerState} (h : s.Demands t cause state)
    (hmade : t.Made grace calls) : calls = [] := by
  cases h <;> exact hmade

theorem Move.Adds.made (h : m.Adds t) : t.Made grace [] := by
  cases t with
  | power state phase =>
    cases phase with
    | fresh => rfl
    | delayed => cases m <;> exact h.elim
    | pausing => cases m <;> exact h.elim
  | _ => rfl

/-- A task that is added has made no request yet. -/
theorem Move.Adds.fresh {state : PowerState} {phase : PowerPhase}
    (h : m.Adds (.power state phase)) : phase = .fresh := by
  cases phase with
  | fresh => rfl
  | delayed => cases m <;> exact h.elim
  | pausing => cases m <;> exact h.elim

/-! ## Demands -/

theorem calls_demand (s : Init (Traced σ)) (id : TaskId) (cause : PowerCause)
    (state : PowerState) : (s.demand id cause state).calls = s.calls := by
  change ((s.note (.powerRequested id cause state)).toSupervisor.freeze).calls = s.calls
  rw [Supervisor.freeze]
  split <;> rfl

theorem stopping_demand (s : Init (Traced σ)) (id : TaskId) (cause : PowerCause)
    (state : PowerState) : (s.demand id cause state).stopping = true := by
  change ((s.note (.powerRequested id cause state)).toSupervisor.freeze).stopping = true
  rw [Supervisor.freeze]
  split
  next hstopping => exact hstopping
  next => rfl

/-- The task has made no call of a shutdown yet, and if it has become one then nothing more is
started. -/
structure Expects (s : Init (Traced σ)) (id : TaskId) : Prop where
  made : ∀ t, s.tasks[id]? = some t → t.Made s.config.shutdownGrace []
  frozen : ∀ state phase, s.tasks[id]? = some (.power state phase) → s.stopping = true

theorem expects_demand (s : Init (Traced σ)) (id : TaskId) (cause : PowerCause)
    (state : PowerState) : (s.demand id cause state).Expects id where
  made t ht := by
    have hself : (s.demand id cause state).tasks[id]? = _ := tasks_suspend_self _ id _
    cases hself.symm.trans ht
    rfl
  frozen _ _ _ := s.stopping_demand id cause state

theorem expects_heed (s : Init (Traced σ)) (id : TaskId) (outcome : Option RescueOutcome) :
    (s.heed id outcome).Expects id := by
  have herased (s' : Init (Traced σ)) (htasks : s'.tasks = s.tasks.erase id) :
      s'.Expects id := by
    have hnone : s'.tasks[id]? = none := by
      rw [htasks, getElem?_erase_task, if_pos rfl]
    exact ⟨fun t ht => (by cases hnone.symm.trans ht),
      fun _ _ ht => (by cases hnone.symm.trans ht)⟩
  rcases outcome with _ | _ | _ | _
  · exact herased _ rfl
  · exact herased _ rfl
  · exact s.expects_demand id .rescue .restart
  · exact s.expects_demand id .rescue .off

theorem calls_heed (s : Init (Traced σ)) (id : TaskId) (outcome : Option RescueOutcome) :
    (s.heed id outcome).calls = s.calls := by
  rcases outcome with _ | _ | _ | _
  · rfl
  · rfl
  · exact s.calls_demand id .rescue .restart
  · exact s.calls_demand id .rescue .off

variable [Platform σ]

theorem silent_rescued (s : Init (Traced σ)) : Silent s.calls s.rescued.calls :=
  Supervisor.Errands.silent (s := s.toSupervisor.say .rescueEntered) s.toSupervisor.errands_rescue

theorem expects_opened (s : Init (Traced σ)) (id : TaskId) : (s.opened id).Expects id := by
  rw [opened]
  split
  next c sup heq =>
    have hself := tasks_suspend_self ({ s with toSupervisor := sup } : Init (Traced σ)) id
      (.session (.running c.ticket))
    refine ⟨fun t ht => ?_, fun _ _ ht => ?_⟩
    · cases hself.symm.trans ht
      rfl
    · cases hself.symm.trans ht
  next => exact expects_demand _ id .session .off

theorem makes_opened (s : Init (Traced σ)) (id : TaskId) :
    Makes KernelCall.IsRoutine s.calls (s.opened id).calls := by
  have hspawned :=
    (s.toSupervisor.say .sessionStarting).makes_spawnAndAwait s.config.session
  rw [opened]
  split
  next c sup heq =>
    rw [heq] at hspawned
    exact hspawned
  next e sup heq =>
    rw [heq] at hspawned
    have hended := calls_demand (({ s with toSupervisor := sup } : Init (Traced σ)).say
      (.sessionSpawnFailed e) |>.say .sessionEnded) id .session .off
    exact hended.symm ▸ hspawned

/-! ## A stage -/

section

variable {state : PowerState} {stage : PowerStage}

theorem staged_pause {delay : Nat} {next : PowerStage} {w : World (Traced σ)}
    (h : (s.toWorld.note (.powerStaged id stage)).powerStage state s.config.shutdownGrace stage =
      (.pause delay next, w)) :
    s.staged id state stage = ({ s with toWorld := w } : Init (Traced σ)).suspend id
      (.power state (.delayed (w.now + delay) next)) := by
  have hstage : s.powerStage id state stage = (.pause delay next, { s with toWorld := w }) :=
    congrArg (fun r : PowerProgress × World (Traced σ) =>
      (r.1, ({ s with toWorld := r.2 } : Init (Traced σ)))) h
  rw [staged, hstage]

theorem staged_end {r : Except Errno Unit} {w : World (Traced σ)}
    (h : (s.toWorld.note (.powerStaged id stage)).powerStage state s.config.shutdownGrace stage =
      (.ended r, w)) :
    s.staged id state stage = ({ s with toWorld := w } : Init (Traced σ)).powerEnded id r := by
  have hstage : s.powerStage id state stage = (.ended r, { s with toWorld := w }) :=
    congrArg (fun r : PowerProgress × World (Traced σ) =>
      (r.1, ({ s with toWorld := r.2 } : Init (Traced σ)))) h
  rw [staged, hstage]

omit [Platform σ] in
theorem due_made {phase : PowerPhase} (hdue : phase.Due s.now stage)
    (hmade : (Task.power state phase).Made grace calls) :
    phase ≠ .fresh ∧ ∃ deadline ≤ s.now, stage.MadeBefore grace deadline calls := by
  cases phase with
  | fresh => exact hdue.elim
  | delayed deadline next =>
    obtain ⟨hle, rfl⟩ := hdue
    exact ⟨PowerPhase.noConfusion, deadline, hle, hmade⟩
  | pausing deadline next =>
    obtain ⟨hle, rfl⟩ := hdue
    exact ⟨PowerPhase.noConfusion, deadline, hle, hmade⟩

omit [Platform σ] in
/-- The state after a stage that a pause follows. -/
theorem Underway.pause {phase : PowerPhase} {deadline : Nat} {next : PowerStage} {c : TimedCall}
    {w : World (Traced σ)} (h : s.Underway final)
    (ht : s.tasks[id]? = some (.power state phase)) (hphase : phase ≠ .fresh)
    (hcalls : w.calls = c :: s.calls) (hc : c.call.isFinal = true) (hup : c.call.isReboot = false)
    (hmade : next.MadeBefore s.config.shutdownGrace deadline (c :: final id)) :
    (({ s with toWorld := w } : Init (Traced σ)).suspend id
      (.power state (.delayed deadline next))).Underway (madeAfter (some id) [c] final) := by
  have hstopping := h.frozen ⟨id, state, phase, ht, hphase⟩
  have hself : madeAfter (some id) [c] final id = c :: final id := by
    rw [madeAfter_self, finalOf, List.filter_cons, if_pos hc]
    rfl
  constructor
  case id_lt =>
    intro id' t' ht'
    rcases getElem?_insert_cases ht' with ⟨rfl, -⟩ | hold
    · exact h.id_lt id _ ht
    · exact h.id_lt id' t' hold
  case made =>
    intro id' t' ht'
    by_cases heq : id = id'
    · subst heq
      cases (tasks_suspend_self _ id _).symm.trans ht'
      rw [hself]
      exact hmade
    · rw [madeAfter_other heq]
      rcases getElem?_insert_cases ht' with ⟨hsame, -⟩ | hold
      · exact absurd hsame heq
      · exact h.made id' t' hold
  case unused =>
    intro id' hid'
    rw [madeAfter_other (Nat.ne_of_lt (Nat.lt_of_lt_of_le (h.id_lt id _ ht) hid'))]
    exact h.unused id' hid'
  case frozen => exact fun _ => hstopping
  case quiet => exact fun hrunning => by cases hstopping.symm.trans hrunning
  case up =>
    intro c' hc'
    rcases List.mem_cons.mp (hcalls ▸ hc') with rfl | hc'
    · exact hup
    · exact h.up c' hc'

omit [Platform σ] in
theorem powerEnded_fields (s : Init (Traced σ)) (id : TaskId) (r : Except Errno Unit) :
    (s.powerEnded id r).tasks = s.tasks.erase id ∧ (s.powerEnded id r).config = s.config ∧
      (s.powerEnded id r).stopping = s.stopping ∧ (s.powerEnded id r).calls = s.calls := by
  cases r with
  | ok => exact ⟨rfl, rfl, rfl, rfl⟩
  | error => exact ⟨rfl, rfl, rfl, rfl⟩

omit [Platform σ] in
/-- The state after the last call. -/
theorem Underway.finish {r : Except Errno Unit} {time : Nat} {new : List TimedCall}
    {w : World (Traced σ)} (h : s.Underway final) (hstopping : s.stopping = true)
    (hcalls : w.calls = ⟨time, .reboot state r⟩ :: ⟨time, .sync⟩ :: (new ++ s.calls))
    (hup : ∀ c ∈ new, c.call.isReboot = false)
    (hmade : CallsToTheEnd s.config.shutdownGrace state
      (⟨time, .reboot state r⟩ :: ⟨time, .sync⟩ :: (finalOf new ++ final id))) :
    (({ s with toWorld := w } : Init (Traced σ)).powerEnded id r).tasks[id]? = none ∧
      (({ s with toWorld := w } : Init (Traced σ)).powerEnded id r).Ended id
        (madeAfter (some id) (⟨time, .reboot state r⟩ :: ⟨time, .sync⟩ :: new) final) := by
  let t : Init (Traced σ) := { s with toWorld := w }
  obtain ⟨htasks, hconfig, hstill, hsame⟩ := t.powerEnded_fields id r
  refine ⟨?_, isSome_halt_powerEnded _ id r, hstill.trans hstopping,
    time, state, r, new ++ s.calls, hsame.trans hcalls, fun c hc => ?_, ?_⟩
  · rw [htasks, getElem?_erase_task, if_pos rfl]
  · exact (List.mem_append.mp hc).elim (hup c) (h.up c)
  · rw [hconfig, madeAfter_self]
    exact hmade

/-- The task that has made the new calls goes on with its request, or has come to the last call. -/
def GoesOn (s : Init (Traced σ)) (id : TaskId) (final : TaskId → List TimedCall) : Prop :=
  s.Underway final ∨ s.tasks[id]? = none ∧ s.Ended id final

theorem Underway.performs {phase : PowerPhase} (h : s.Underway final)
    (ht : s.tasks[id]? = some (.power state phase)) (hdue : phase.Due s.now stage) :
    ∃ new, (s.staged id state stage).calls = new ++ s.calls ∧
      (s.staged id state stage).GoesOn id (madeAfter (some id) new final) := by
  obtain ⟨hphase, deadline, hle, hmade⟩ := due_made hdue (h.made id _ ht)
  have hstopping := h.frozen ⟨id, state, phase, ht, hphase⟩
  cases stage with
  | terminate =>
    have hfinal : final id = [] := hmade
    rcases World.calls_terminate state s.config.shutdownGrace
        (s.toWorld.note (.powerStaged id .terminate)) with
      ⟨w, heq, hnow, hcalls⟩ | ⟨e, r, w, heq, hcalls⟩
    · rw [staged_pause heq]
      refine ⟨[_], hcalls, .inl (h.pause ht hphase hcalls rfl rfl ⟨s.now, ?_, ?_⟩)⟩
      · rw [hfinal]
        rfl
      · exact Nat.le_of_eq (congrArg (· + s.config.shutdownGrace) hnow.symm)
    · rw [staged_end heq]
      obtain ⟨-, -, -, hsame⟩ := powerEnded_fields ({ s with toWorld := w } : Init (Traced σ)) id r
      refine ⟨_ :: _ :: [_], hsame.trans hcalls, .inr (h.finish hstopping hcalls ?_ ?_)⟩
      · exact List.forall_mem_singleton.mpr rfl
      · rw [hfinal]
        exact .unheard s.now e r
  | kill =>
    obtain ⟨answer, w, heq, hnow, hcalls⟩ := World.calls_kill state s.config.shutdownGrace
      (s.toWorld.note (.powerStaged id .kill))
    obtain ⟨time, hfinal, hgrace⟩ := hmade
    rw [staged_pause heq]
    refine ⟨[_], hcalls, .inl (h.pause ht hphase hcalls rfl rfl ?_)⟩
    refine ⟨time, s.now, answer, congrArg _ hfinal, Nat.le_trans hgrace hle, ?_⟩
    exact Nat.le_of_eq (congrArg (· + World.cleanupPause) hnow.symm)
  | finish =>
    obtain ⟨r, w, heq, hcalls⟩ := World.calls_finish state s.config.shutdownGrace
      (s.toWorld.note (.powerStaged id .finish))
    obtain ⟨time, time', answer, hfinal, hgrace, hpause⟩ := hmade
    rw [staged_end heq]
    obtain ⟨-, -, -, hsame⟩ := powerEnded_fields ({ s with toWorld := w } : Init (Traced σ)) id r
    refine ⟨_ :: [_], hsame.trans hcalls, .inr ?_⟩
    refine h.finish hstopping (List.nil_append s.calls ▸ hcalls)
      (fun _ hc => absurd hc List.not_mem_nil) ?_
    rw [hfinal]
    exact .heard answer r hgrace (Nat.le_trans hpause hle)

end

omit [Platform σ] in
theorem Underway.quiet_silent (h : s.Underway final) (hcontinues : s.Continues s')
    (hsilent : Silent s.calls s'.calls) (hrunning : s'.stopping = false) :
    ∀ c ∈ s'.calls, c.call.isFinal = false := by
  obtain ⟨new, hcalls, hnew⟩ := hsilent
  have hbefore : s.stopping = false := Bool.eq_false_iff.mpr fun hstopping => by
    cases (hcontinues.stopping hstopping).symm.trans hrunning
  rw [hcalls]
  exact fun c hc => (List.mem_append.mp hc).elim (hnew c) (h.quiet hbefore c)

omit [Platform σ] in
theorem Underway.up_silent (h : s.Underway final) (hsilent : Silent s.calls s'.calls) :
    ∀ c ∈ s'.calls, c.call.isReboot = false := by
  obtain ⟨new, hcalls, hnew⟩ := hsilent
  have hup {call : KernelCall} (hcall : call.isFinal = false) : call.isReboot = false := by
    cases call with
    | reboot => cases hcall
    | _ => rfl
  rw [hcalls]
  exact fun c hc => (List.mem_append.mp hc).elim (fun hc => hup (hnew c hc)) (h.up c)

/-- A turn at which no stage is performed. -/
theorem Underway.expects (h : s.Underway final) (hturns : s.Turns id s') (hold : final id = [])
    (hsilent : Silent s.calls s'.calls) (hexpects : s'.Expects id) : s'.Underway final := by
  have hcontinues := hturns.continues
  obtain ⟨t₀, ht₀, -⟩ := hturns.there
  constructor
  case id_lt =>
    intro id' t' ht'
    refine Nat.lt_of_lt_of_le ?_ hcontinues.nextTask_le
    by_cases heq : id = id'
    · exact heq ▸ h.id_lt id t₀ ht₀
    · exact h.id_lt id' t' (hturns.others heq ▸ ht')
  case made =>
    intro id' t' ht'
    by_cases heq : id = id'
    · subst heq
      rw [hold]
      exact hexpects.made t' ht'
    · rw [hcontinues.config]
      exact h.made id' t' (hturns.others heq ▸ ht')
  case unused => exact fun id' hid' => h.unused id' (Nat.le_trans hcontinues.nextTask_le hid')
  case frozen =>
    rintro ⟨id', state, phase, ht', hphase⟩
    by_cases heq : id = id'
    · subst heq
      exact hexpects.frozen state phase ht'
    · have hrequest : s.HasRequest := ⟨id', state, phase, hturns.others heq ▸ ht', hphase⟩
      exact hcontinues.stopping (h.frozen hrequest)
  case quiet => exact h.quiet_silent hcontinues hsilent
  case up => exact h.up_silent hsilent

theorem Underway.turn (h : s.Underway final) (hturns : s.Turns id s') :
    ∃ new, s'.calls = new ++ s.calls ∧ s'.GoesOn id (madeAfter (some id) new final) := by
  have hexpects (hold : final id = []) (hsilent : Silent s.calls s'.calls)
      (hexpects : s'.Expects id) :
      ∃ new, s'.calls = new ++ s.calls ∧ s'.GoesOn id (madeAfter (some id) new final) := by
    have hunderway := h.expects hturns hold hsilent hexpects
    obtain ⟨new, hcalls, hnew⟩ := hsilent
    exact ⟨new, hcalls, .inl ((madeAfter_silent hnew).symm ▸ hunderway)⟩
  cases hturns with
  | despair ht =>
    refine hexpects (h.made id _ ht) ?_ (expects_heed _ _ _)
    rw [calls_heed]
    exact s.silent_rescued
  | enterSession ht =>
    have hsilent := (s.makes_opened id).mono fun _ => KernelCall.IsRoutine.isFinal
    exact hexpects (h.made id _ ht) hsilent (s.expects_opened id)
  | demand ht hdemands =>
    refine hexpects (hdemands.made (h.made id _ ht)) ?_ (s.expects_demand id _ _)
    rw [calls_demand]
    exact .refl _
  | stage ht hdue => exact h.performs ht hdue

/-! ## Steps -/

/-- The init makes it of its own: no one changes the machine or performs stages from outside. -/
def Move.IsOwn {σ : Type} : Move σ → Prop
  | .change _ | .powerStage .. => False
  | _ => True

/-- What is called by the way, when no one takes a turn. -/
theorem Step.makes (h : Step m s s') (hm : m.IsOwn) :
    (∃ id, m = .poll id ∧ s.Turns id s') ∨
      Makes (fun call => call.IsRoutine ∨ m = .rescue ∧ call.isFinal = false) s.calls s'.calls := by
  have hroutine (hmakes : Makes KernelCall.IsRoutine s.calls s'.calls) :
      Makes (fun call => call.IsRoutine ∨ m = .rescue ∧ call.isFinal = false) s.calls s'.calls :=
    hmakes.mono fun _ => .inl
  cases h with
  | turn h => exact .inl ⟨_, rfl, h⟩
  | change | powerStage => exact hm.elim
  | host _ _ step => exact .inr (World.calls_host step s.toWorld ▸ .refl _)
  | chore _ _ hchore => exact .inr (hroutine hchore.makes)
  | launch _ unit u => exact .inr (hroutine (s.toSupervisor.makes_launchService unit u))
  | release _ pid => exact .inr (Supervisor.calls_settle s.toSupervisor pid none ▸ .refl _)
  | rescue => exact .inr (s.silent_rescued.mono fun _ hcall => .inr ⟨rfl, hcall⟩)
  | @ask _ _ unit chain =>
    rcases s.request_cases unit chain with ⟨-, h, -, heq⟩ | ⟨-, e, -, heq⟩ | ⟨-, -, heq⟩
    all_goals
      rw [heq]
      exact .inr (.refl _)
  | @refuse _ id unit _ _ e =>
    obtain ⟨new, readiness, queue, heq, -, -⟩ := s.conclude_eq id unit (.error e)
    rw [heq]
    exact .inr (.refl _)
  | @finish _ id unit _ _ _ _ o =>
    obtain ⟨new, readiness, queue, heq, -, -⟩ :=
      (s.note (.acted unit o)).conclude_eq id unit o
    rw [endAction, heq]
    exact .inr (.refl _)
  | arrange | remark | elapse | mark | stopRestarts | add | proceed | leave | begin =>
    exact .inr (.refl _)

/-- Only requests make calls of a shutdown. -/
theorem Step.silent (h : Step m s s') (hm : m.IsOwn) :
    (∃ id, m = .poll id ∧ s.Turns id s') ∨ Silent s.calls s'.calls :=
  (h.makes hm).imp_right fun hmakes =>
    hmakes.mono fun _ hcall => hcall.elim KernelCall.IsRoutine.isFinal And.right

/-- A step that is no turn of the polled task. -/
theorem Underway.calm (h : s.Underway final) (hstep : Step m s s')
    (hno : ∀ id, m = .poll id → ¬ s.Turns id s') (hsilent : Silent s.calls s'.calls) :
    s'.Underway final := by
  have hcontinues := hstep.continues
  constructor
  case id_lt => exact hstep.id_lt h.id_lt
  case made =>
    intro id t' ht'
    rw [hcontinues.config]
    cases hstep.arrives ht' with
    | stayed ht => exact h.made id t' ht
    | marked ht => exact made_mark.mpr (h.made id _ ht)
    | added hid _ hadds =>
      rw [h.unused id (Nat.le_of_eq hid.symm)]
      exact hadds.made
    | started hid => exact h.unused id (Nat.le_of_eq hid.symm)
    | proceeded _ ht hproceeds => exact hproceeds.made (h.made id _ ht)
    | turned hm hturns => exact absurd hturns (hno id hm)
  case unused => exact fun id hid => h.unused id (Nat.le_trans hcontinues.nextTask_le hid)
  case frozen =>
    rintro ⟨id, state, phase, ht', hphase⟩
    have hrequest : s.HasRequest := by
      generalize heq : Task.power state phase = task at ht'
      cases hstep.arrives ht' with
      | stayed ht => exact ⟨id, state, phase, heq ▸ ht, hphase⟩
      | marked ht => exact ⟨id, state, phase, mark_power.mp heq.symm ▸ ht, hphase⟩
      | added _ _ hadds =>
        subst heq
        exact absurd hadds.fresh hphase
      | started => cases heq
      | proceeded _ ht hproceeds =>
        subst heq
        cases hproceeds with
        | pauses => exact ⟨id, state, _, ht, PowerPhase.noConfusion⟩
      | turned hm hturns => exact absurd hturns (hno id hm)
    exact hcontinues.stopping (h.frozen hrequest)
  case quiet => exact h.quiet_silent hcontinues hsilent
  case up => exact h.up_silent hsilent

/-- Where a move has got to: if someone has come to the last call then the polled task has, and it is
gone. -/
def Course (m : Move (Traced σ)) (final : TaskId → List TimedCall) (s : Init (Traced σ)) : Prop :=
  s.Underway final ∨
    ∃ id, m = .poll id ∧ id < s.nextTask ∧ s.tasks[id]? = none ∧ s.Ended id final

theorem Underway.step (h : s.Underway final) (hm : m.IsOwn) (hstep : Step m s s') :
    ∃ new, s'.calls = new ++ s.calls ∧ Course m (madeAfter m.polled? new final) s' := by
  by_cases hturn : ∃ id, m = .poll id ∧ s.Turns id s'
  · obtain ⟨id, rfl, hturns⟩ := hturn
    obtain ⟨t, ht, -⟩ := hturns.there
    obtain ⟨new, hcalls, hunderway | ⟨hgone, hended⟩⟩ := h.turn hturns
    · exact ⟨new, hcalls, .inl hunderway⟩
    · have hlt := Nat.lt_of_lt_of_le (h.id_lt id t ht) hstep.continues.nextTask_le
      exact ⟨new, hcalls, .inr ⟨id, rfl, hlt, hgone, hended⟩⟩
  · have hsilent := (hstep.silent hm).resolve_left hturn
    have hunderway := h.calm hstep (fun id hm hturns => hturn ⟨id, hm, hturns⟩) hsilent
    obtain ⟨new, hcalls, hnew⟩ := hsilent
    exact ⟨new, hcalls, .inl ((madeAfter_silent hnew).symm ▸ hunderway)⟩

/-- After the last call nothing more is called. -/
theorem Ended.step (h : s.Ended id final) (hlt : id < s.nextTask) (hgone : s.tasks[id]? = none)
    (hstep : Step (.poll id) s s') :
    s'.calls = s.calls ∧ s'.tasks[id]? = none ∧ s'.Ended id final := by
  have hcontinues := hstep.continues
  have hadded (tasks : ExtTreeMap TaskId Task) (t : Task) (htasks : tasks = s.tasks) :
      (tasks.insert s.nextTask t)[id]? = none := by
    rw [htasks, getElem?_insert_task, if_neg (Nat.ne_of_gt hlt)]
    exact hgone
  have hstays : s'.calls = s.calls ∧ s'.halt = s.halt ∧ s'.tasks[id]? = none := by
    cases hstep with
    | arrange | remark => exact ⟨rfl, rfl, hgone⟩
    | host _ _ step => exact ⟨World.calls_host step s.toWorld, rfl, hgone⟩
    | chore _ _ _ hthere =>
      obtain ⟨t, ht⟩ := hthere id rfl
      cases hgone.symm.trans ht
    | add => exact ⟨rfl, rfl, hadded _ _ rfl⟩
    | @ask _ _ unit chain =>
      rcases s.request_cases unit chain with ⟨-, h, -, heq⟩ | ⟨-, e, -, heq⟩ | ⟨-, -, heq⟩
      · exact heq ▸ ⟨rfl, rfl, hgone⟩
      · exact heq ▸ ⟨rfl, rfl, hgone⟩
      · exact heq ▸ ⟨rfl, rfl, hadded _ _ rfl⟩
    | proceed ht | leave ht | refuse ht | begin ht | finish ht => cases hgone.symm.trans ht
    | turn hturns =>
      obtain ⟨t, ht, -⟩ := hturns.there
      cases hgone.symm.trans ht
  obtain ⟨hcalls, hhalt, hgone'⟩ := hstays
  refine ⟨hcalls, hgone', hhalt ▸ h.halted, hcontinues.stopping h.stopping, ?_⟩
  rw [hcalls, hcontinues.config]
  exact h.last

theorem Underway.steps (h : s.Underway final) (hm : m.IsOwn) (hsteps : Steps m s s') :
    ∃ new, s'.calls = new ++ s.calls ∧ Course m (madeAfter m.polled? new final) s' := by
  induction hsteps with
  | refl =>
    have hnone : madeAfter m.polled? [] final = final :=
      madeAfter_silent fun _ hc => absurd hc List.not_mem_nil
    exact ⟨[], rfl, .inl (hnone.symm ▸ h)⟩
  | tail _ hstep ih =>
    obtain ⟨new, hcalls, hunderway | ⟨id, rfl, hlt, hgone, hended⟩⟩ := ih
    · obtain ⟨new', hcalls', hcourse⟩ := hunderway.step hm hstep
      rw [madeAfter_append] at hcourse
      exact ⟨new' ++ new, by rw [hcalls', hcalls, List.append_assoc], hcourse⟩
    · obtain ⟨hcalls', hgone', hended'⟩ := hended.step hlt hgone hstep
      have hlt' := Nat.lt_of_lt_of_le hlt hstep.continues.nextTask_le
      exact ⟨new, hcalls'.trans hcalls, .inr ⟨id, rfl, hlt', hgone', hended'⟩⟩

end Init

end InitDaemon
