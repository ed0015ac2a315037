import InitDaemon.Proofs.Init.Places

/-!
# The course of a shutdown

A shutdown that begins asks every process to end and pauses, and if nobody is left to be asked it
makes the last call at once. When the pause is over it goes on to the next pause or makes the last
call.
-/

namespace InitDaemon

open Std InitDaemon.Journal

namespace Journal

/-- The last call is made, and nothing else is said of power states. -/
def LastCall (state : PowerState) (journal journal' : List Record) : Prop :=
  ∃ time before, StaysCalm journal before ∧
    StaysCalm (⟨time, .rebooted state⟩ :: before) journal'

/-- The request to end reaches nobody, and the last call is made at once. -/
def Unheard (state : PowerState) (journal journal' : List Record) : Prop :=
  ∃ time e before, StaysCalm journal before ∧
    LastCall state (⟨time, .notice (.terminateFailed e)⟩ :: before) journal'

variable {state : PowerState} {journal before after journal' : List Record}

theorem LastCall.around (h : LastCall state before after) (hbefore : StaysCalm journal before)
    (hafter : StaysCalm after journal') : LastCall state journal journal' := by
  obtain ⟨time, mid, hmid, hlast⟩ := h
  exact ⟨time, mid, hbefore.trans hmid, hlast.trans hafter⟩

theorem Unheard.around (h : Unheard state before after) (hbefore : StaysCalm journal before)
    (hafter : StaysCalm after journal') : Unheard state journal journal' := by
  obtain ⟨time, e, mid, hmid, hlast⟩ := h
  exact ⟨time, e, mid, hbefore.trans hmid, hlast.around (.refl _) hafter⟩

end Journal

namespace World

variable {σ : Type} [Platform σ]

/-- The clock stands still, and the journal tells nothing of power states. -/
structure Speaks (w w' : World σ) : Prop where
  now : w'.now = w.now
  calm : StaysCalm w.journal w'.journal

omit [Platform σ] in
theorem Speaks.trans {w w' w'' : World σ} (h : w.Speaks w') (h' : w'.Speaks w'') : w.Speaks w'' :=
  ⟨h'.now.trans h.now, h.calm.trans h'.calm⟩

omit [Platform σ] in
theorem speaks_note (w : World σ) (e : Entry) (he : e.IsCalm) : w.Speaks (w.note e) :=
  ⟨rfl, .note e he _ _⟩

theorem speaks_signalAll (signal : ShutdownSignal) (w : World σ) :
    w.Speaks (w.signalAll signal).2 :=
  ⟨rfl, .note (.signalledAll signal) trivial _ _⟩

theorem speaks_terminateAll (state : PowerState) (w : World σ) :
    w.Speaks (w.terminateAll state).2 := by
  have hsaid := (w.speaks_note (.notice (.goingDown state)) trivial).trans
    (speaks_note _ (.notice .terminating) trivial)
  exact hsaid.trans (speaks_signalAll .terminate _)

theorem speaks_killAll (w : World σ) : w.Speaks w.killAll :=
  (w.speaks_note (.notice .killing) trivial).trans (speaks_signalAll .kill _)

theorem lastCall (state : PowerState) (w : World σ) :
    LastCall state w.journal (w.lastCalls state).2.journal := by
  have hsynced : StaysCalm w.journal (w.say .syncing).sync.journal :=
    (StaysCalm.note (.notice .syncing) trivial w.now w.journal).trans (.note .synced trivial _ _)
  exact ⟨w.now, _, hsynced, .refl _⟩

theorem powerStage_terminate (state : PowerState) (grace : Nat) (w : World σ) :
    (∃ w', w.powerStage state grace .terminate = (.pause grace .kill, w') ∧ w.Speaks w') ∨
      ∃ r w', w.powerStage state grace .terminate = (.ended r, w') ∧
        Unheard state w.journal w'.journal := by
  have hsignalled := w.speaks_terminateAll state
  rcases hterminated : w.terminateAll state with ⟨e | _, w₁⟩
  · rw [hterminated] at hsignalled
    rw [powerStage, hterminated]
    have hlast := lastCall state (w₁.say (.terminateFailed e))
    exact .inr ⟨_, _, rfl, w₁.now, e, w₁.journal, hsignalled.calm, hlast⟩
  · rw [hterminated] at hsignalled
    rw [powerStage, hterminated]
    exact .inl ⟨w₁, rfl, hsignalled⟩

end World

namespace Init

variable {σ : Type} {s s' s'' : Init σ} {id : TaskId} {state : PowerState}

/-- Nothing but the process table, the machine and the journal has changed. -/
structure Speaks (s s' : Init σ) : Prop where
  eq : s' = { s with toSupervisor := s'.toSupervisor }
  config : s'.config = s.config
  world : s.toWorld.Speaks s'.toWorld

namespace Speaks

theorem trans (h : s.Speaks s') (h' : s'.Speaks s'') : s.Speaks s'' where
  eq := by rw [h'.eq, h.eq]
  config := h'.config.trans h.config
  world := h.world.trans h'.world

theorem nextTask (h : s.Speaks s') : s'.nextTask = s.nextTask := by rw [h.eq]

theorem queue (h : s.Speaks s') : s'.queue = s.queue := by rw [h.eq]

theorem deferred (h : s.Speaks s') : s'.deferred = s.deferred := by rw [h.eq]

theorem alarms (h : s.Speaks s') : s'.alarms = s.alarms := by rw [h.eq]

theorem keeps (h : s.Speaks s') (hs : s.Tidy) : s.Keeps s' := by
  have htasks : s'.tasks = s.tasks := by rw [h.eq]
  have hhalt : s'.halt = s.halt := by rw [h.eq]
  exact hs.keeps_of_fields htasks h.queue h.alarms h.nextTask h.deferred h.config
    (Nat.le_of_eq h.world.now.symm) h.world.calm fun hsome => hhalt ▸ hsome

end Speaks

theorem speaks_world {w : World σ} (h : s.toWorld.Speaks w) : s.Speaks { s with toWorld := w } :=
  ⟨rfl, rfl, h⟩

theorem speaks_beginShutdown (s : Init σ) : s.Speaks s.beginShutdown := by
  rw [beginShutdown]
  split
  · exact ⟨rfl, rfl, rfl, .refl _⟩
  · exact ⟨rfl, rfl, s.toWorld.speaks_note (.notice .restartsStopped) trivial⟩

theorem calm_powerEnded (s : Init σ) (id : TaskId) (r : Except Errno Unit) :
    StaysCalm s.journal (s.powerEnded id r).journal := by
  cases r with
  | ok => exact .refl _
  | error e => exact .note (.notice (.rebootFailed e)) trivial _ _

theorem isSome_halt_powerEnded (s : Init σ) (id : TaskId) (r : Except Errno Unit) :
    (s.powerEnded id r).halt.isSome = true := by
  cases r with
  | ok => exact s.isSome_halt_stop id .powerDown
  | error e => exact isSome_halt_stop _ id .stuck

variable [Platform σ]

theorem powerStage_kill (s : Init σ) (id : TaskId) (state : PowerState) :
    ∃ s', s.powerStage id state .kill = (.pause World.cleanupPause .finish, s') ∧ s.Speaks s' :=
  ⟨_, rfl, speaks_world ((s.toWorld.speaks_note (.powerStaged id .kill) trivial).trans
    (World.speaks_killAll _))⟩

theorem powerStage_terminate (s : Init σ) (id : TaskId) (state : PowerState) :
    (∃ s', s.powerStage id state .terminate = (.pause s.config.shutdownGrace .kill, s') ∧
      s.Speaks s') ∨
    ∃ r s', s.powerStage id state .terminate = (.ended r, s') ∧
      Unheard state s.journal s'.journal := by
  have hnoted := s.toWorld.speaks_note (.powerStaged id .terminate) trivial
  rw [powerStage, inWorld]
  rcases World.powerStage_terminate state s.config.shutdownGrace
    (s.note (.powerStaged id .terminate)).toWorld with ⟨w, heq, hspeaks⟩ | ⟨r, w, heq, hunheard⟩
  · rw [heq]
    exact .inl ⟨_, rfl, speaks_world (hnoted.trans hspeaks)⟩
  · rw [heq]
    exact .inr ⟨r, _, rfl, hunheard.around hnoted.calm (.refl _)⟩

theorem runPower_of_stage {stage : PowerStage} {p : PowerProgress × Init σ} {left : Nat}
    (h : s.powerStage id state stage = p) (hleft : left = 0 ∨ ∀ s', p ≠ (.pause 0 .kill, s')) :
    s.runPower id state stage left = afterStage id state left p := by
  unfold runPower
  rw [h]
  split
  next =>
    rcases hleft with hzero | hne
    · cases hzero
    · exact absurd rfl (hne _)
  next => rfl

/-- The task sleeps after the kill. -/
theorem runPower_kill (s : Init σ) (id : TaskId) (state : PowerState) {left : Nat}
    (hleft : left ≠ 0) : ∃ s', s.Speaks s' ∧ s.runPower id state .kill left =
      s'.pauseUntil id state (s.now + World.cleanupPause) .finish := by
  obtain ⟨s', hstage, hspeaks⟩ := s.powerStage_kill id state
  refine ⟨s', hspeaks, ?_⟩
  rw [runPower_of_stage hstage (.inr fun _ heq => by cases heq), afterStage, if_neg hleft,
    hspeaks.world.now]

theorem runPower_finish (s : Init σ) (id : TaskId) (state : PowerState) (left : Nat) :
    LastCall state s.journal (s.runPower id state .finish left).journal ∧
      (s.runPower id state .finish left).halt.isSome := by
  have hnoted := s.toWorld.speaks_note (.powerStaged id .finish) trivial
  have hlast := World.lastCall state (s.note (.powerStaged id .finish)).toWorld
  exact ⟨hlast.around hnoted.calm (calm_powerEnded _ id _), isSome_halt_powerEnded _ id _⟩

/-- A shutdown pauses first, unless nobody is left to be asked to end. -/
theorem runPower_terminate (s : Init σ) (id : TaskId) (state : PowerState) {left : Nat}
    (hleft : 2 ≤ left) :
    (∃ s', s.Speaks s' ∧ s.runPower id state .terminate left =
      s'.pauseUntil id state (Pauses.firstPause s.now s.config.shutdownGrace state).deadline
        (Pauses.firstPause s.now s.config.shutdownGrace state).next) ∨
    Unheard state s.journal (s.runPower id state .terminate left).journal ∧
      (s.runPower id state .terminate left).halt.isSome := by
  have hpatient : left ≠ 0 := by omega
  rcases s.powerStage_terminate id state with ⟨s₁, hstage, hspeaks⟩ | ⟨r, s₁, hstage, hunheard⟩
  · left
    by_cases hgrace : s.config.shutdownGrace = 0
    · -- The kill follows at once.
      obtain ⟨s₂, hkill, hspeaks'⟩ := s₁.powerStage_kill id state
      have hrun : s.runPower id state .terminate left =
          afterStage id state (left - 1) (s₁.powerStage id state .kill) := by
        obtain ⟨n, rfl⟩ : ∃ n, left = n + 1 := ⟨left - 1, by omega⟩
        rw [hgrace] at hstage
        unfold runPower
        rw [hstage]
        rfl
      have hless : left - 1 ≠ 0 := by omega
      refine ⟨s₂, hspeaks.trans hspeaks', ?_⟩
      rw [hrun, hkill, afterStage, if_neg hless, hspeaks'.world.now, hspeaks.world.now,
        Pauses.firstPause, if_pos hgrace]
    · refine ⟨s₁, hspeaks, ?_⟩
      have hpause : ∀ s', (PowerProgress.pause s.config.shutdownGrace .kill, s₁) ≠
          (PowerProgress.pause 0 .kill, s') := by
        intro s' heq
        simp only [Prod.mk.injEq, PowerProgress.pause.injEq] at heq
        exact hgrace heq.1.1
      rw [runPower_of_stage hstage (.inr hpause), afterStage, if_neg hpatient, hspeaks.world.now,
        Pauses.firstPause, if_neg hgrace]
  · right
    rw [runPower_of_stage hstage (.inr fun _ heq => by cases heq)]
    exact ⟨hunheard.around (.refl _) (calm_powerEnded s₁ id r), s₁.isSome_halt_powerEnded id r⟩

/-! ## Between two pauses -/

/-- Whoever asks for another power state pauses behind all others, unless nobody is left to be asked
to end. -/
theorem Tidy.asks (h : s.Tidy) (hask : s.Asks s' id) : ∃ cause state,
    (s'.Tidy ∧ s'.config = s.config ∧
        s'.pauses = s.pauses.sleep id (Pauses.firstPause s.now s.config.shutdownGrace state) ∧
        StaysCalm (⟨s.now, .powerRequested id cause state⟩ :: s.journal) s'.journal) ∨
      Unheard state (⟨s.now, .powerRequested id cause state⟩ :: s.journal) s'.journal ∧
        s'.halt.isSome := by
  obtain ⟨cause, state, left, hleft, rfl⟩ := hask.eq
  refine ⟨cause, state, ?_⟩
  have hnoted : (s.note (.powerRequested id cause state)).Tidy :=
    Tidy.of_fields (s := s) rfl rfl rfl h rfl rfl rfl
  have hbegun := (s.note (.powerRequested id cause state)).speaks_beginShutdown
  have hterminate :=
    (s.note (.powerRequested id cause state)).beginShutdown.runPower_terminate id state hleft
  rcases hterminate with ⟨s₁, hstage, hpower⟩ | ⟨hunheard, hhalt⟩
  · have hspeaks := hbegun.trans hstage
    have hkeeps := hspeaks.keeps hnoted
    have hqueue : s₁.queue = s.queue := hspeaks.queue
    have hdeferred : s₁.deferred = s.deferred := hspeaks.deferred
    have halarms : s₁.alarms = s.alarms := hspeaks.alarms
    have hnext : s₁.nextTask = s.nextTask := hspeaks.nextTask
    have hnow : s₁.now = s.now := hspeaks.world.now
    have hpauses : s₁.pauses = s.pauses := by rw [hkeeps.pauses, hnow]; rfl
    have hfirst : Pauses.firstPause (s.note (.powerRequested id cause state)).beginShutdown.now
        (s.note (.powerRequested id cause state)).beginShutdown.config.shutdownGrace state =
          Pauses.firstPause s.now s.config.shutdownGrace state := by
      rw [hbegun.world.now, hbegun.config]
      rfl
    obtain ⟨hidqueue, hiddeferred⟩ := not_or.mp (List.mem_append.not.mp hask.out)
    rw [hfirst] at hpower
    rw [Init.power, hpower]
    refine .inl ⟨hkeeps.tidy.pauseUntil (hnext ▸ hask.lt) (hdeferred ▸ hiddeferred) state _ _,
      hkeeps.config, ?_, hkeeps.calm⟩
    rw [pauses_pauseUntil (hqueue ▸ hidqueue) (halarms ▸ hask.no_alarm), hpauses]
    congr 1
    rw [Pause.mk.injEq]
    exact ⟨(Pauses.firstPause_state ..).symm, rfl, rfl⟩
  · exact .inr ⟨hunheard.around hbegun.world.calm (.refl _), hhalt⟩

/-- Whoever is at the head of the line goes on to the last pause or makes the last call. -/
theorem Tidy.resumes {grace : Nat} {rest : List TaskId} {q : Pause} (h : s.Tidy)
    (hsound : s.pauses.Sound grace) (hline : s.pauses.line = id :: rest)
    (hq : s.pause? id = some q) :
    s.Advances (s.pollQueued id) ∨ q.next = .finish ∧
      LastCall q.state s.journal (s.pollQueued id).journal ∧ (s.pollQueued id).halt.isSome := by
  obtain ⟨t, ht, hpause⟩ := Option.bind_eq_some_iff.mp hq
  obtain rfl := Task.eq_of_pause? hpause
  -- Only those stand in line whose pause is over, so the poll goes on with the next stage.
  have hidline : id ∈ s.pauses.line := hline ▸ List.mem_cons_self
  have hdue : ¬ s.now < q.deadline := Nat.not_lt_of_le (hsound.due id q hidline hq)
  have hpoll : s.pollQueued id = (s.unqueue id).runPower id q.state q.next patience := by
    have hqueue : s.pollQueued id = (s.unqueue id).poll id := rfl
    have htask : (s.unqueue id).tasks[id]? =
        some (.power q.state (.pausing q.deadline q.next)) := ht
    rw [hqueue, Init.poll, htask]
    exact if_neg hdue
  rw [hpoll]
  rcases hsound.stage id q hq with ⟨hkill, -⟩ | ⟨hfinish, -⟩
  · left
    have hpatient : patience ≠ 0 := by decide
    obtain ⟨s₁, hspeaks, hrun⟩ := (s.unqueue id).runPower_kill id q.state hpatient
    have hold := h.placed id _ ht
    have hpausing : ¬ (Task.power q.state (.pausing q.deadline q.next)).IsFree := fun hfree => by
      cases hfree
    have hkeeps := hspeaks.keeps (h.unqueue id)
    have hqueue : s₁.queue = s.queue.erase id := hspeaks.queue
    have hdeferred : s₁.deferred = s.deferred := hspeaks.deferred
    have halarms : s₁.alarms = s.alarms := hspeaks.alarms
    have hnext : s₁.nextTask = s.nextTask := hspeaks.nextTask
    have hpauses : s₁.pauses = { s.pauses with line := rest } := by
      rw [hkeeps.pauses, hspeaks.world.now, pauses_unqueue, hline, List.erase_cons_head]
      rfl
    rw [hkill, hrun]
    refine ⟨?_, hkeeps.config, hkeeps.calm, hkeeps.halt, ?_⟩
    · exact hkeeps.tidy.pauseUntil (hnext ▸ hold.lt) (hdeferred ▸ hold.not_deferred hpausing) _ _ _
    · rw [pauses_pauseUntil (hqueue ▸ not_mem_erase_of_line hsound hidline)
        (halarms ▸ no_alarm_of_line hsound hidline), hpauses, ← Pauses.sleep_leave]
      exact .kill s.pauses id rest q hline hq hkill
  · right
    rw [hfinish]
    exact ⟨rfl, (s.unqueue id).runPower_finish id q.state patience⟩

end Init

end InitDaemon
