import InitDaemon.Proofs.Init.RequestCalls
import InitDaemon.Simulation.Script

/-!
# The order of the final calls

In every run, however many requests for another power state overlap, no signal goes out to all
processes before the set of units is frozen. At most one task comes to the last call, and nothing is
called after that.
-/

namespace InitDaemon

open Std Traced InitDaemon.Journal

namespace Journal

theorem Gains.split {p : Entry → Prop} {journal journal' earlier : List Record} {r : Record}
    (h : Gains p journal journal') (hr : r :: earlier <:+ journal') :
    r :: earlier <:+ journal ∨ p r.entry ∧ journal <:+ earlier := by
  obtain ⟨new, rfl, hnew⟩ := h
  induction new with
  | nil => exact .inl hr
  | cons r' new ih =>
    rcases List.suffix_cons_iff.mp hr with heq | hr
    · cases heq
      exact .inr ⟨hnew r List.mem_cons_self, List.suffix_append _ _⟩
    · exact ih (fun r hr => hnew r (List.mem_cons_of_mem _ hr)) hr

end Journal

namespace Init

/-! ## The freeze before the signals -/

section

variable {σ : Type} {s s' : Init σ} {m : Move σ} {id : TaskId} {flagged : List Record → Prop}

theorem stops_demand (s : Init σ) (id : TaskId) (cause : PowerCause) (state : PowerState) :
    s.stopping = true ∨ Told .restartsStopped (s.demand id cause state).journal := by
  change _ ∨ Told .restartsStopped ((s.note (.powerRequested id cause state)).toSupervisor.freeze).journal
  rw [Supervisor.freeze]
  split
  next hstopping => exact .inl hstopping
  next => exact .inr ⟨_, List.mem_cons_self, rfl⟩

theorem stops_heed (s : Init σ) (id : TaskId) (outcome : Option RescueOutcome)
    (hstopping : (s.heed id outcome).stopping = true) :
    s.stopping = true ∨ Told .restartsStopped (s.heed id outcome).journal := by
  rcases outcome with _ | _ | _ | _
  · exact .inl hstopping
  · exact .inl hstopping
  · exact s.stops_demand id .rescue .restart
  · exact s.stops_demand id .rescue .off

variable [Platform σ]

theorem stopping_rescued (s : Init σ) : s.rescued.stopping = s.stopping :=
  Supervisor.Errands.stopping (s := s.toSupervisor.say .rescueEntered)
    s.toSupervisor.errands_rescue

theorem stops_opened (s : Init σ) (id : TaskId) (hstopping : (s.opened id).stopping = true) :
    s.stopping = true ∨ Told .restartsStopped (s.opened id).journal := by
  have hspawned := Supervisor.Chore.stopping
    (.spawnAndAwait (s.toSupervisor.say .sessionStarting) s.config.session)
  rw [opened] at hstopping ⊢
  split at hstopping
  next heq =>
    rw [heq] at hspawned
    exact .inl (hspawned.symm.trans hstopping)
  next e sup heq =>
    rw [heq] at hspawned
    have hdemanded := stops_demand
      ((({ s with toSupervisor := sup } : Init σ).say (.sessionSpawnFailed e)).say .sessionEnded)
      id .session .off
    exact hdemanded.imp_left hspawned.symm.trans

theorem stopping_staged (s : Init σ) (id : TaskId) (state : PowerState) (stage : PowerStage) :
    (s.staged id state stage).stopping = s.stopping := by
  have hstaged : (s.powerStage id state stage).2.stopping = s.stopping := rfl
  rw [staged]
  split
  next heq => rwa [heq] at hstaged
  next r _ heq =>
    rw [heq] at hstaged
    cases r with
    | ok => exact hstaged
    | error => exact hstaged

theorem Turns.stops (h : s.Turns id s') (hstopping : s'.stopping = true) :
    s.stopping = true ∨ Told .restartsStopped s'.journal := by
  cases h with
  | despair =>
    exact (s.rescued.stops_heed id _ hstopping).imp_left s.stopping_rescued.symm.trans
  | enterSession => exact s.stops_opened id hstopping
  | demand => exact s.stops_demand id _ _
  | @stage state _ stage => exact .inl ((s.stopping_staged id state stage).symm.trans hstopping)

/-- Apart from those who use the init from outside, no one freezes it without a word. -/
theorem Step.stops (h : Step m s s') (hstopping : s'.stopping = true) :
    s.stopping = true ∨ m = .stopRestarts ∨ Told .restartsStopped s'.journal := by
  cases h with
  | stopRestarts => exact .inr (.inl rfl)
  | chore _ _ hchore => exact .inl (hchore.stopping.symm.trans hstopping)
  | launch _ unit u =>
    exact .inl ((s.toSupervisor.stopping_launchService unit u).symm.trans hstopping)
  | release _ pid => exact .inl ((s.toSupervisor.stopping_settle pid none).symm.trans hstopping)
  | rescue => exact .inl (s.stopping_rescued.symm.trans hstopping)
  | @ask _ _ unit chain =>
    rcases s.request_cases unit chain with ⟨-, h, -, heq⟩ | ⟨-, e, -, heq⟩ | ⟨-, -, heq⟩
    all_goals
      rw [heq] at hstopping
      exact .inl hstopping
  | @refuse _ id unit _ _ e =>
    obtain ⟨new, readiness, queue, heq, -, -⟩ := s.conclude_eq id unit (.error e)
    rw [heq] at hstopping
    exact .inl hstopping
  | @finish _ id unit _ _ _ _ o =>
    obtain ⟨new, readiness, queue, heq, -, -⟩ :=
      (s.note (.acted unit o)).conclude_eq id unit o
    rw [endAction, heq] at hstopping
    exact .inl hstopping
  | turn h => exact (h.stops hstopping).imp_right .inr
  | arrange | remark | elapse | change | mark | host | powerStage | add | proceed | leave
  | begin => exact .inl hstopping

/-- A way in which a journal tells that the set of units is frozen. -/
structure IsFlag (flagged : List Record → Prop) : Prop where
  mono : ∀ journal journal', journal <:+ journal' → flagged journal → flagged journal'
  noted : ∀ journal, Told .restartsStopped journal → flagged journal

/-- The freeze shows in the journal, and does so before the first signal to all. -/
structure Heralded (flagged : List Record → Prop) (s : Init σ) : Prop where
  stopped : s.stopping = true → flagged s.journal
  signalled : ∀ r earlier, r :: earlier <:+ s.journal →
    ∀ signal, r.entry = .signalledAll signal → flagged earlier

theorem Heralded.step (h : s.Heralded flagged) (hflag : IsFlag flagged)
    (hfrozen : s.HasRequest → s.stopping = true) (hm : m.IsOwn)
    (hfreezes : m = .stopRestarts → flagged s.journal) (hstep : Step m s s') :
    s'.Heralded flagged where
  stopped hstopping := by
    have hsuffix := hstep.continues.journal
    rcases hstep.stops hstopping with hstopping | hm | hstopped
    · exact hflag.mono _ _ hsuffix (h.stopped hstopping)
    · exact hflag.mono _ _ hsuffix (hfreezes hm)
    · exact hflag.noted _ hstopped
  signalled r earlier hr signal hsignal := by
    rcases hstep.gains.split hr with hr | ⟨hwrites, hsuffix⟩
    · exact h.signalled r earlier hr signal hsignal
    · refine hflag.mono _ _ hsuffix (h.stopped (hfrozen ?_))
      rw [hsignal] at hwrites
      cases hwrites with
      | mute he => exact he.elim
      | final _ hstaged =>
        refine hstaged.resolve_left ?_
        rintro ⟨state, grace, stage, rfl⟩
        exact hm
      | rescue _ he | turn _ _ he => exact he.elim

end

/-! ## Moves that can be made -/

section

variable {σ : Type} {s₀ s : Init (Traced σ)} {m : Move (Traced σ)} {moves : List (Move (Traced σ))}
  {id : TaskId} {final : TaskId → List TimedCall} {flagged : List Record → Prop}

/-- Whether the move can be made. The machine keeps its trace, other power states are asked for in
tasks, and after a halt only the world outside goes on. -/
def Possible (s : Init (Traced σ)) : Move (Traced σ) → Prop
  | .pass _ | .raise _ => True
  | .change machine => machine.calls = s.calls
  | .powerStage .. => False
  | _ => s.halt = none

instance : DecidablePred s.Possible
  | .pass _ | .raise _ => .isTrue trivial
  | .change machine => inferInstanceAs (Decidable (machine.calls = s.calls))
  | .powerStage .. => .isFalse False.elim
  | .poll _ | .deliver | .ring | .takeBack | .request .. | .boot | .watch | .supervise _ | .power _
  | .stopRestarts | .rescue | .spawn _ | .spawnAndReport _ | .launch .. | .release _ | .tick _ =>
    inferInstanceAs (Decidable (s.halt = none))

variable [Platform σ]

def AllPossible : Init (Traced σ) → List (Move (Traced σ)) → Prop
  | _, [] => True
  | s, m :: moves => s.Possible m ∧ (s.perform m).AllPossible moves

instance decidableAllPossible : (s : Init (Traced σ)) → DecidablePred s.AllPossible
  | _, [] => .isTrue trivial
  | s, m :: moves =>
    have := decidableAllPossible (s.perform m) moves
    inferInstanceAs (Decidable (s.Possible m ∧ (s.perform m).AllPossible moves))

/-- The calls that a task makes in a run, the latest first. -/
def callsBy (id : TaskId) : Init (Traced σ) → List (Move (Traced σ)) → List TimedCall
  | _, [] => []
  | s, m :: moves =>
    callsBy id (s.perform m) moves ++ if m.polled? = some id then newCalls s (s.perform m) else []

omit [Platform σ] in
theorem madeAfter_none {new : List TimedCall} : madeAfter none new final = final := by
  funext id
  exact if_neg (Option.some_ne_none id).symm

/-! ## The course of a run -/

/-- Where a run has got to. -/
structure Composed (flagged : List Record → Prop) (final : TaskId → List TimedCall)
    (s : Init (Traced σ)) : Prop where
  phase : s.Underway final ∨ ∃ id, s.Ended id final
  heralded : s.Heralded flagged

omit [Platform σ] in
theorem Course.phase (h : Course m final s) : s.Underway final ∨ ∃ id, s.Ended id final :=
  h.imp_right fun ⟨id, _, _, _, hended⟩ => ⟨id, hended⟩

omit [Platform σ] in
theorem Course.frozen (h : Course m final s) (hrequest : s.HasRequest) : s.stopping = true := by
  rcases h with h | ⟨id, -, -, -, h⟩
  · exact h.frozen hrequest
  · exact h.stopping

theorem Underway.composed (h : s.Underway final) (hs : Leads s₀ .idle s) (hheralded : s.Heralded flagged)
    (hflag : IsFlag flagged) (hm : m.IsOwn) (hfreezes : m = .stopRestarts → flagged s.journal) :
    Composed flagged (madeAfter m.polled? (newCalls s (s.perform m)) final) (s.perform m) := by
  have hsteps := hs.steps m
  constructor
  case phase =>
    obtain ⟨new, hcalls, hcourse⟩ := h.steps hm hsteps
    rw [newCalls_eq hcalls]
    exact hcourse.phase
  case heralded =>
    generalize s.perform m = s' at hsteps
    induction hsteps with
    | refl => exact hheralded
    | tail hsteps hstep ih =>
      obtain ⟨new, -, hcourse⟩ := h.steps hm hsteps
      refine ih.step hflag hcourse.frozen hm (fun heq => ?_) hstep
      exact hflag.mono _ _ (Steps.continues hsteps).journal (hfreezes heq)

/-- After a halt there is nothing but the world outside. -/
theorem Ended.perform (h : s.Ended id final) (hm : s.Possible m) :
    m.polled? = none ∧ (s.perform m).Ended id final ∧ (s.perform m).journal = s.journal ∧
      (s.perform m).stopping = s.stopping := by
  have hhalted : s.halt ≠ none := Option.isSome_iff_ne_none.mp h.halted
  cases m with
  | pass | raise => exact ⟨rfl, { h with }, rfl, rfl⟩
  | change machine =>
    refine ⟨rfl, { h with last := ?_ }, rfl, rfl⟩
    obtain ⟨time, state, answer, earlier, hcalls, hlast⟩ := h.last
    exact ⟨time, state, answer, earlier, Eq.trans hm hcalls, hlast⟩
  | powerStage => exact hm.elim
  | _ => exact absurd hm hhalted

theorem Composed.perform (h : Composed flagged final s) (hs : Leads s₀ .idle s)
    (hflag : IsFlag flagged) (hm : s.Possible m)
    (hfreezes : m = .stopRestarts → flagged s.journal) :
    Composed flagged (madeAfter m.polled? (newCalls s (s.perform m)) final) (s.perform m) := by
  obtain ⟨hunderway | ⟨id, hended⟩, hheralded⟩ := h
  · cases m with
    | powerStage => exact hm.elim
    | change machine =>
      have hpolled : (Move.change machine).polled? = none := rfl
      rw [hpolled, madeAfter_none]
      have hcalls : machine.calls = s.calls := hm
      refine ⟨.inl { hunderway with quiet := fun hrunning c hc => ?_, up := fun c hc => ?_ },
        { hheralded with }⟩
      · exact hunderway.quiet hrunning c (hcalls ▸ hc)
      · exact hunderway.up c (hcalls ▸ hc)
    | _ => exact hunderway.composed hs hheralded hflag trivial hfreezes
  · obtain ⟨hpolled, hended', hjournal, hstopping⟩ := hended.perform hm
    rw [hpolled, madeAfter_none]
    refine ⟨.inr ⟨id, hended'⟩, ?_, ?_⟩
    · rw [hjournal, hstopping]
      exact hheralded.stopped
    · rw [hjournal]
      exact hheralded.signalled

theorem Composed.run (hflag : IsFlag flagged) (h : Composed flagged final s) (hs : Leads s₀ .idle s)
    (hmoves : s.AllPossible moves)
    (hfreezes : ∀ before after, moves = before ++ .stopRestarts :: after →
      flagged (s.run before).journal) :
    Composed flagged (fun id => finalOf (s.callsBy id moves) ++ final id) (s.run moves) := by
  induction moves generalizing s final with
  | nil => exact h
  | cons m moves ih =>
    obtain ⟨hm, hmoves⟩ := hmoves
    have hperformed := h.perform hs hflag hm fun heq => hfreezes [] moves (heq ▸ rfl)
    have hrun := ih hperformed (hs.perform m) hmoves fun before after heq =>
      hfreezes (m :: before) after (heq ▸ rfl)
    have hmade : (fun id => finalOf (callsBy id s (m :: moves)) ++ final id) =
        fun id => finalOf (callsBy id (s.perform m) moves) ++
          madeAfter m.polled? (newCalls s (s.perform m)) final id := by
      funext id
      rw [callsBy, finalOf_append, List.append_assoc, madeAfter]
      split
      · rfl
      · rfl
    rw [hmade]
    exact hrun

end

/-! ## Every run -/

section

variable {σ : Type} [Platform σ]

/-- The journal tells of the freeze, or someone outside has called for it before. -/
def Flagged (s : Init (Traced σ)) (moves : List (Move (Traced σ))) (journal : List Record) : Prop :=
  Told .restartsStopped journal ∨ ∃ before after, moves = before ++ .stopRestarts :: after ∧
    (s.run before).journal <:+ journal

theorem isFlag_flagged (s : Init (Traced σ)) (moves : List (Move (Traced σ))) :
    IsFlag (s.Flagged moves) where
  mono journal journal' hsuffix := by
    rintro (htold | ⟨before, after, hmoves, hbefore⟩)
    · exact .inl (htold.mono hsuffix)
    · exact .inr ⟨before, after, hmoves, hbefore.trans hsuffix⟩
  noted _ := .inl

/-- The calls of a shutdown in a run come in order. -/
structure FinalOrder (s : Init (Traced σ)) (moves : List (Move (Traced σ))) : Prop where
  /-- There are none before the set of units is frozen. -/
  quiet : (s.run moves).stopping = false → ∀ c ∈ (s.run moves).calls, c.call.isFinal = false
  signalled : ∀ r earlier, r :: earlier <:+ (s.run moves).journal →
    ∀ signal, r.entry = .signalledAll signal → s.Flagged moves earlier
  /-- The last call is the only one of its kind, and comes right after the one before it. The task
  that has made it has waited for the processes, unless there was none to hear it. -/
  last : (∀ c ∈ (s.run moves).calls, c.call.isReboot = false) ∨
    ∃ id time state answer earlier,
      (s.run moves).calls = ⟨time, .reboot state answer⟩ :: ⟨time, .sync⟩ :: earlier ∧
      (∀ c ∈ earlier, c.call.isReboot = false) ∧
      CallsToTheEnd s.config.shutdownGrace state (finalOf (s.callsBy id moves))

variable {config : Config} {graph : Units.Graph} {machine : σ} {notices : List Notice}

omit [Platform σ] in
theorem calls_fresh : (fresh config graph (⟨machine, []⟩ : Traced σ) notices).calls = [] := by
  have hcycles := World.calls_foldl_say (graph.findCycles.map Notice.cycleFound)
    (notices.foldl World.say ⟨(⟨machine, []⟩ : Traced σ), 0, []⟩)
  rw [List.foldl_map, World.calls_foldl_say] at hcycles
  exact hcycles

omit [Platform σ] in
theorem notices_fresh :
    ∀ r ∈ (fresh config graph (⟨machine, []⟩ : Traced σ) notices).journal,
      ∃ n, r.entry = .notice n := by
  have hgains : Gains (fun e => ∃ n, e = .notice n) []
      (fresh config graph (⟨machine, []⟩ : Traced σ) notices).journal :=
    gains_fresh (fun n _ => ⟨n, rfl⟩) fun cycle => ⟨.cycleFound cycle, rfl⟩
  obtain ⟨new, hnew, hnotice⟩ := hgains
  rw [List.append_nil] at hnew
  exact fun r hr => hnotice r (hnew ▸ hr)

omit [Platform σ] in
theorem composed_fresh {flagged : List Record → Prop} :
    Composed flagged (fun _ => []) (fresh config graph (⟨machine, []⟩ : Traced σ) notices) := by
  let s : Init (Traced σ) := fresh config graph ⟨machine, []⟩ notices
  have hcalls : s.calls = [] := calls_fresh
  have hstopping : s.stopping = false := rfl
  have htasks (id : TaskId) : s.tasks[id]? = none := by
    simp [s, fresh, Init.new]
  refine ⟨.inl ?_, ?_, ?_⟩
  · exact {
      id_lt := fun id t ht => by cases (htasks id).symm.trans ht
      made := fun id t ht => by cases (htasks id).symm.trans ht
      unused := fun _ _ => rfl
      frozen := by
        rintro ⟨id, state, phase, ht, -⟩
        cases (htasks id).symm.trans ht
      quiet := fun _ c hc => absurd (hcalls ▸ hc) List.not_mem_nil
      up := fun c hc => absurd (hcalls ▸ hc) List.not_mem_nil }
  · exact fun hstopped => by cases hstopping.symm.trans hstopped
  · intro r earlier hr signal hsignal
    obtain ⟨n, hn⟩ := notices_fresh r (hr.mem List.mem_cons_self)
    cases hsignal.symm.trans hn

/-- In every run of an init, with any number of requests for another power state at any time. -/
theorem final_calls_ordered (moves : List (Move (Traced σ)))
    (hmoves : (fresh config graph (⟨machine, []⟩ : Traced σ) notices).AllPossible moves) :
    FinalOrder (fresh config graph (⟨machine, []⟩ : Traced σ) notices) moves := by
  let s : Init (Traced σ) := fresh config graph ⟨machine, []⟩ notices
  have hleads : Leads s .idle s := leads_fresh config graph (⟨machine, []⟩ : Traced σ) notices
  have hstart : Composed (s.Flagged moves) (fun _ => []) s := composed_fresh
  have hrun := hstart.run (s.isFlag_flagged moves) hleads hmoves
    fun before after heq => .inr ⟨before, after, heq, List.suffix_rfl⟩
  have hconfig : (s.run moves).config = s.config := (hleads.reaches ⟨moves, rfl⟩).later.config
  obtain ⟨hunderway | ⟨id, hended⟩, hheralded⟩ := hrun
  · exact ⟨hunderway.quiet, hheralded.signalled, .inl hunderway.up⟩
  · refine ⟨fun hrunning => ?_, hheralded.signalled, .inr ?_⟩
    · cases hended.stopping.symm.trans hrunning
    · obtain ⟨time, state, answer, earlier, hcalls, hup, hmade⟩ := hended.last
      rw [hconfig, List.append_nil] at hmade
      exact ⟨id, time, state, answer, earlier, hcalls, hup, hmade⟩

end

/-! ## Requests that overlap -/

/-- Two requests, of which the second comes to the end first. -/
def overlappingMoves : List (Move (Traced Simulation.Script)) :=
  [.power .off, .power .restart, .poll 0, .pass 10, .poll 1, .pass 6000, .poll 0, .poll 1,
    .pass 6200, .poll 1, .raise .terminate, .pass 7000]

theorem overlapping_requests_ordered :
    (fresh {} {} (⟨{}, []⟩ : Traced Simulation.Script) []).AllPossible overlappingMoves ∧
      FinalOrder (fresh {} {} (⟨{}, []⟩ : Traced Simulation.Script) []) overlappingMoves ∧
      ((fresh {} {} (⟨{}, []⟩ : Traced Simulation.Script) []).run overlappingMoves).calls =
        [⟨6200, .reboot .restart (.ok ())⟩, ⟨6200, .sync⟩, ⟨6000, .signalAll .kill (.ok ())⟩,
          ⟨6000, .signalAll .kill (.ok ())⟩, ⟨10, .signalAll .terminate (.ok ())⟩,
          ⟨0, .signalAll .terminate (.ok ())⟩] := by
  have hmoves :
      (fresh {} {} (⟨{}, []⟩ : Traced Simulation.Script) []).AllPossible overlappingMoves := by
    decide +kernel
  refine ⟨hmoves, final_calls_ordered overlappingMoves hmoves, ?_⟩
  decide +kernel

end Init

end InitDaemon
