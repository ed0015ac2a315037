import InitDaemon.Proofs.Init.Steps

/-!
# What a step does

Each step in a form that shows what changes. No step touches the configuration, the graph or the
cycle table, forgets what is in the journal or takes a shutdown back.
-/

namespace InitDaemon.Init

open Std InitDaemon.Units InitDaemon.Journal

variable {σ : Type} {s s' s'' : Init σ} {m : Move σ}

/-! ## Requests and conclusions -/

/-- Only the first request for a unit does more than give a handle. -/
theorem request_cases (s : Init σ) (unit : String) (chain : List String) :
    (s.Entered unit ∧ ∃ h, h.unit = unit ∧
      (s.request unit chain).2 = s.note (.requested h chain)) ∨
    (¬ s.Entered unit ∧ ∃ e, s.rejection? unit chain = some e ∧
      (s.request unit chain).2 = (s.turnedDown unit chain e).say (.rejected e)) ∨
    (¬ s.Entered unit ∧ s.rejection? unit chain = none ∧
      (s.request unit chain).2 = s.takenUp unit chain) := by
  rw [Init.request]
  cases hsubscribed : s.readiness.subscribe? unit with
  | some h =>
    obtain ⟨hunit, hsender⟩ := Readiness.subscribe?_eq_some_iff.mp hsubscribed
    exact .inl ⟨⟨h.channel, hunit ▸ hsender⟩, h, hunit, rfl⟩
  | none =>
    have hnew : ¬ s.Entered unit := by
      rintro ⟨channel, hsender⟩
      rw [Readiness.subscribe?_eq_none_iff] at hsubscribed
      cases hsubscribed.symm.trans hsender
    rw [Init.enter]
    cases hrejected : s.rejection? unit chain with
    | some e => exact .inr (.inl ⟨hnew, e, rfl, rfl⟩)
    | none => exact .inr (.inr ⟨hnew, rfl, rfl⟩)

theorem resolve_eq (s : Init σ) (unit : String) (o : Outcome) : ∃ new readiness queue,
    s.resolve unit o = { s.noting new with readiness := readiness, queue := queue } ∧
      readiness.senders = s.readiness.senders ∧ ∀ r ∈ new, r.entry = .resolved unit o := by
  rw [resolve]
  cases s.readiness.senders[unit]? with
  | none => exact ⟨[], s.readiness, s.queue, rfl, rfl, List.forall_mem_nil _⟩
  | some channel =>
    obtain ⟨queue, heq, -⟩ := wakeAll_eq
      ({ s with readiness := s.readiness.send channel o }.note (.resolved unit o))
      (tasksWhere ({ s with readiness := s.readiness.send channel o }.note (.resolved unit o))
        (awaits channel))
    exact ⟨[⟨s.now, .resolved unit o⟩], s.readiness.send channel o, queue, heq, rfl,
      List.forall_mem_singleton.mpr rfl⟩

theorem conclude_eq (s : Init σ) (id : TaskId) (unit : String) (o : Outcome) :
    ∃ new readiness queue, s.conclude id unit o =
      { s.noting new with
        readiness := readiness, tasks := s.tasks.erase id, queue := queue } ∧
      readiness.senders = s.readiness.senders ∧
      ∀ r ∈ new, r.entry.IsRemark ∨ r.entry = .resolved unit o := by
  cases o with
  | ok =>
    obtain ⟨new, readiness, queue, heq, hsenders, hnew⟩ := s.resolve_eq unit (.ok ())
    refine ⟨new, readiness, queue, ?_, hsenders, fun r hr => .inr (hnew r hr)⟩
    rw [conclude, heq]
    rfl
  | error e =>
    obtain ⟨new, readiness, queue, heq, hsenders, hnew⟩ :=
      (s.say (.startFailed unit e)).resolve_eq unit (.error e)
    refine ⟨new ++ [⟨s.now, .notice (.startFailed unit e)⟩], readiness, queue, ?_, hsenders, ?_⟩
    · rw [conclude, heq, noting, noting, List.append_assoc]
      rfl
    · intro r hr
      rcases List.mem_append.mp hr with hr | hr
      · exact .inr (hnew r hr)
      · exact .inl (List.mem_singleton.mp hr ▸ trivial)

theorem tasks_conclude (s : Init σ) (id : TaskId) (unit : String) (o : Outcome) :
    (s.conclude id unit o).tasks = s.tasks.erase id := by
  obtain ⟨new, readiness, queue, heq, -, -⟩ := s.conclude_eq id unit o
  rw [heq]

/-! ## What every step keeps -/

structure Continues (s s' : Init σ) : Prop where
  config : s'.config = s.config
  graph : s'.graph = s.graph
  cycles : s'.cycles = s.cycles
  stopping : s.stopping = true → s'.stopping = true
  bounded : s.Bounded → s'.Bounded
  journal : s.journal <:+ s'.journal
  nextTask_le : s.nextTask ≤ s'.nextTask

namespace Continues

theorem refl (s : Init σ) : s.Continues s :=
  ⟨rfl, rfl, rfl, id, id, List.suffix_rfl, Nat.le_refl _⟩

theorem trans (h : s.Continues s') (h' : s'.Continues s'') : s.Continues s'' where
  config := h'.config.trans h.config
  graph := h'.graph.trans h.graph
  cycles := h'.cycles.trans h.cycles
  stopping hs := h'.stopping (h.stopping hs)
  bounded hs := h'.bounded (h.bounded hs)
  journal := h.journal.trans h'.journal
  nextTask_le := Nat.le_trans h.nextTask_le h'.nextTask_le

theorem of_grows (h : s.toSupervisor.Grows s'.toSupervisor) (hcycles : s'.cycles = s.cycles)
    (hnext : s'.nextTask = s.nextTask) : s.Continues s' := by
  obtain ⟨new, hnew, -⟩ := h.world.journal
  exact ⟨h.config, h.graph, hcycles, h.stopping, h.bounded, ⟨new, hnew.symm⟩,
    Nat.le_of_eq hnext.symm⟩

theorem noting (s : Init σ) (new : List Record) : s.Continues (s.noting new) :=
  { refl s with journal := List.suffix_append _ _ }

end Continues

theorem continues_request (s : Init σ) (unit : String) (chain : List String) :
    s.Continues (s.request unit chain).2 := by
  rcases s.request_cases unit chain with ⟨-, h, -, heq⟩ | ⟨-, e, -, heq⟩ | ⟨-, -, heq⟩
  · rw [heq]
    exact .noting s [⟨s.now, .requested h chain⟩]
  · rw [heq]
    exact { Continues.refl s with
      journal := (List.suffix_cons _ _).trans ((List.suffix_cons _ _).trans (List.suffix_cons _ _)) }
  · rw [heq]
    exact { Continues.refl s with
      journal := List.suffix_cons _ _, nextTask_le := Nat.le_succ s.nextTask }

theorem continues_conclude (s : Init σ) (id : TaskId) (unit : String) (o : Outcome) :
    s.Continues (s.conclude id unit o) := by
  obtain ⟨new, readiness, queue, heq, -, -⟩ := s.conclude_eq id unit o
  rw [heq]
  exact { Continues.noting s new with }

theorem grows_freeze (s : Supervisor σ) : s.Grows s.freeze := by
  rw [Supervisor.freeze]
  split
  · exact .refl s
  · exact (s.grows_say _).trans (Supervisor.grows_stopRestarts _)

theorem continues_demand (s : Init σ) (id : TaskId) (cause : PowerCause) (state : PowerState) :
    s.Continues (s.demand id cause state) :=
  have hnoted : s.toWorld.Grows (s.toWorld.note (.powerRequested id cause state)) :=
    World.grows_note _ _ trivial
  .of_grows ((Supervisor.grows_inWorld hnoted).trans (grows_freeze _)) rfl rfl

theorem continues_heed (s : Init σ) (id : TaskId) (outcome : Option RescueOutcome) :
    s.Continues (s.heed id outcome) := by
  rcases outcome with _ | _ | _ | _
  · exact { Continues.refl s with }
  · exact { Continues.refl s with }
  · exact s.continues_demand id .rescue .restart
  · exact s.continues_demand id .rescue .off

variable [Platform σ]

theorem continues_rescued (s : Init σ) : s.Continues s.rescued :=
  .of_grows ((s.toSupervisor.grows_say _).trans
    (Supervisor.Errands.grows s.toSupervisor.errands_rescue)) rfl rfl

theorem continues_opened (s : Init σ) (id : TaskId) : s.Continues (s.opened id) := by
  have hspawned := (s.toSupervisor.grows_say .sessionStarting).trans
    (Supervisor.grows_spawnAndAwait s.config.session _)
  rw [opened]
  split
  next c sup heq =>
    rw [heq] at hspawned
    exact .of_grows hspawned rfl rfl
  next e sup heq =>
    rw [heq] at hspawned
    have hended : s.Continues (({ s with toSupervisor := sup }.say (.sessionSpawnFailed e)).say
        .sessionEnded) :=
      .of_grows ((hspawned.trans (Supervisor.grows_say _ _)).trans (Supervisor.grows_say _ _))
        rfl rfl
    exact hended.trans (continues_demand _ id .session .off)

theorem continues_staged (s : Init σ) (id : TaskId) (state : PowerState) (stage : PowerStage) :
    s.Continues (s.staged id state stage) := by
  have hstaged : s.Continues (s.powerStage id state stage).2 :=
    .of_grows (Supervisor.grows_inWorld ((World.grows_note _ (.powerStaged id stage) trivial).trans
      (World.grows_powerStage state _ stage _))) rfl rfl
  rw [staged]
  split
  next heq =>
    rw [heq] at hstaged
    exact { hstaged with }
  next r _ heq =>
    rw [heq] at hstaged
    cases r with
    | ok => exact { hstaged with }
    | error e => exact hstaged.trans { Continues.noting _ [⟨_, .notice (.rebootFailed e)⟩] with }

theorem Turns.continues {id : TaskId} (h : s.Turns id s') : s.Continues s' := by
  cases h with
  | despair => exact s.continues_rescued.trans (continues_heed _ _ _)
  | enterSession => exact s.continues_opened id
  | demand => exact s.continues_demand id _ _
  | stage => exact s.continues_staged id _ _

theorem Step.continues (h : Step m s s') : s.Continues s' := by
  cases h with
  | arrange | mark | proceed | leave => exact { Continues.refl s with }
  | remark | begin => exact .noting s [_]
  | elapse | change => exact { Continues.refl s with }
  | host _ _ step => exact .of_grows (Supervisor.grows_inWorld (World.grows_host step _)) rfl rfl
  | chore _ _ hchore => exact .of_grows hchore.grows rfl rfl
  | launch _ unit u => exact .of_grows (Supervisor.grows_launchService unit u _) rfl rfl
  | release _ pid => exact .of_grows (Supervisor.grows_release _ pid) rfl rfl
  | stopRestarts => exact .of_grows (Supervisor.grows_stopRestarts _) rfl rfl
  | powerStage _ state grace stage =>
    exact .of_grows (Supervisor.grows_inWorld (World.grows_powerStage state grace stage _)) rfl rfl
  | rescue => exact s.continues_rescued
  | add => exact { Continues.refl s with nextTask_le := Nat.le_succ s.nextTask }
  | ask => exact s.continues_request _ _
  | refuse => exact s.continues_conclude _ _ _
  | finish => exact (Continues.noting s [_]).trans (continues_conclude _ _ _ _)
  | turn h => exact h.continues

theorem Steps.continues (h : Steps m s s') : s.Continues s' := by
  induction h with
  | refl => exact .refl s
  | tail _ hstep ih => exact ih.trans hstep.continues

end InitDaemon.Init
