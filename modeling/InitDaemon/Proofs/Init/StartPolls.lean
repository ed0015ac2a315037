import InitDaemon.Proofs.Init.Loops
import InitDaemon.Proofs.Init.OtherTasks
import InitDaemon.Proofs.Init.Requests
import InitDaemon.Proofs.Init.Stages

/-!
# A start task goes on

Wherever a start task goes on, it leads to a state in which everything fits again: it waits at a
later place, or its unit has its verdict.
-/

namespace InitDaemon.Init

open Std InitDaemon.Units InitDaemon.Journal

variable {σ : Type} {s₀ s s' : Init σ} {f : Focus} {id : TaskId} {unit : String}
  {chain : List String} {o : Outcome} {u : UnitDef}

namespace Leads

/-! ## Ending -/

theorem graph_eq (hs : Leads s₀ f s) : s.graph = s₀.graph :=
  hs.later.graph

theorem conclude {new : List Record} (hs : Leads s₀ f s) (hfocus : f.task? = some id)
    (hstarts : s.Starts id unit) (hnew : ∀ r ∈ new, IsMinor r)
    (hacted : ∀ r ∈ new, ∀ v o', r.entry = .acted v o' → v = unit ∧ o' = o)
    (hjustified : (s.noting new).Justified unit o) :
    Leads s₀ .idle ((s.noting new).conclude id unit o) := by
  cases o with
  | ok => exact hs.resolveEnd hfocus hstarts hnew hacted hjustified
  | error e =>
    have hsaid : ((s.noting new).say (.startFailed unit e)) =
        s.noting (⟨s.now, .notice (.startFailed unit e)⟩ :: new) := rfl
    rw [Init.conclude, hsaid]
    refine hs.resolveEnd hfocus hstarts ?_ ?_ (hjustified.later (later_noting _ [_]))
    · exact List.forall_mem_cons.mpr ⟨isMinor_of_isPlain trivial, hnew⟩
    · exact List.forall_mem_cons.mpr ⟨by simp, hacted⟩

theorem refuse (hs : Leads s₀ (.starting id unit) s) (hjustified : s.Justified unit o) :
    Leads s₀ .idle (s.conclude id unit o) := by
  have hnoted : s = s.noting [] := rfl
  rw [hnoted] at hjustified ⊢
  exact hs.conclude rfl hs.workflow.focus.1 (by simp) (by simp) hjustified

theorem endAction (hs : Leads s₀ (.acting id unit) s) (hown : o.IsOwn)
    (hsettled : o = .ok () → HasSettled s.graph s.config.settleDelay s.journal s.now unit) :
    Leads s₀ .idle (s.endAction id unit o) := by
  obtain ⟨hstarts, hbegun⟩ := hs.workflow.focus
  obtain ⟨-, -, ⟨u, hu⟩, hcycles⟩ := hs.workflow.pending id unit hstarts
  have hnoted : s.note (.acted unit o) = s.noting [⟨s.now, .acted unit o⟩] := rfl
  rw [Init.endAction, hnoted]
  refine hs.conclude rfl hstarts (by simp [IsMinor]) (by simp) ⟨?_, ?_, ?_, ?_, ?_, ?_⟩
  · exact fun heq => (hsettled heq).mono (List.suffix_cons _ _) (Nat.le_refl _)
  · intro hstopping
    refine .own hu (hs.ledger.acyclic hcycles) (fun d hd => ?_) hown (acted_cons.mpr (.inl rfl))
    have hready := (hs.ledger.begun unit hbegun).2 u hu d hd
    exact ((hs.ledger.justified d _ hready).decided hstopping).mono
      fun _ _ hacted => hacted.mono (List.suffix_cons _ _)
  · rintro v rfl
    exact hown
  · rintro name chain rfl
    exact hown.elim
  · rintro members rfl
    exact hown.elim
  · rintro v d reason rfl
    exact hown.elim

theorem endWithoutCommand (hs : Leads s₀ (.acting id unit) s) (hunit : s₀.RunsNoCommand unit)
    (hown : o.IsOwn) : Leads s₀ .idle (s.endAction id unit o) := by
  refine hs.endAction hown fun _ u line hu hline => ?_
  rw [hunit u (hs.graph_eq ▸ hu)] at hline
  cases hline

/-! ## Built-in actions -/

theorem of_eq {α : Type} {a : α} {p : α × Init σ} (hs : Leads s₀ f p.2) (heq : p = (a, s')) :
    Leads s₀ f s' := by
  rwa [heq] at hs

variable [Platform σ]

theorem host (hs : Leads s₀ f s) (step : HostStep) : Leads s₀ f (s.host step).2 :=
  hs.quiet (quiet_inWorld (World.grows_host step _))

theorem ensureAll (hs : Leads s₀ f s) (paths : List String) :
    Leads s₀ f (s.ensureAll paths).2 :=
  ensureAll_induction (fun _ _ h => h.host _) hs paths

theorem ensureEach (hs : Leads s₀ f s) (paths : List String) :
    Leads s₀ f (s.ensureEach paths) :=
  ensureEach_induction (fun _ _ h => h.host _) (fun _ _ _ h => h.quiet (quiet_say _)) hs paths

theorem spawnAndAwait (hs : Leads s₀ f s) (command : String) :
    Leads s₀ f (s.spawnAndAwait command).2 :=
  hs.quiet (quiet_inTable (Supervisor.grows_spawnAndAwait command _))

/-- Leaves the task where it waits for the process that it has just started. -/
theorem awaitProcess {command : String} {c : Completion} {phase : StartPhase}
    (hs : Leads s₀ (.acting id unit) s) (hunit : s₀.RunsNoCommand unit)
    (heq : s.spawnAndAwait command = (.ok c, s')) (hphase : WaitsForTicket phase c.ticket) :
    Leads s₀ .idle (s'.suspend id (.start unit chain phase)) := by
  have hspawned : Leads s₀ (.acting id unit) s' := (hs.spawnAndAwait command).of_eq heq
  obtain ⟨hstarts, hbegun⟩ := hspawned.workflow.focus
  have hlive := Supervisor.live_spawnAndAwait (toSupervisor_inTable heq)
  have hfresh := Supervisor.not_settled_spawnAndAwait hs.ledger.bounded (toSupervisor_inTable heq)
  have hcommand : s'.RunsNoCommand unit := fun u hu => hunit u (hspawned.graph_eq ▸ hu)
  have hhandles : (Task.start unit chain phase).handles = [] := by
    rcases hphase with rfl | rfl <;> rfl
  refine hspawned.park rfl hstarts ?_ (fun _ h => h) (fun _ h => h) ?_ ?_
  · rw [hhandles]
    simp
  · rcases hphase with rfl | rfl <;> exact ⟨hbegun, hcommand, hlive⟩
  · rcases hphase with rfl | rfl <;> exact fun ht => absurd ht hfresh

theorem beginBus (hs : Leads s₀ (.acting id unit) s) (hunit : s₀.RunsNoCommand unit) :
    Leads s₀ .idle (s.beginBus id unit chain) := by
  have hensured := hs.ensureAll busDirectories
  rw [Init.beginBus]
  split
  next heq => exact (hensured.of_eq heq).endWithoutCommand hunit trivial
  next s₁ heq =>
    have hspawned := (hensured.of_eq heq).spawnAndAwait uuidgenCommand
    split
    next heq' => exact (hspawned.of_eq heq').endWithoutCommand hunit trivial
    next heq' => exact (hensured.of_eq heq).awaitProcess hunit heq' (.inl rfl)

omit [Platform σ] in
theorem judgeMachineId (hs : Leads s₀ f s) (status : Option ExitStatus) :
    Leads s₀ f (s.judgeMachineId status) :=
  judgeMachineId_induction (fun _ h => h.quiet (quiet_say _)) (fun _ _ h => h.quiet (quiet_say _))
    hs status

theorem startBus (hs : Leads s₀ (.acting id unit) s) (hunit : s₀.RunsNoCommand unit)
    (status : Option ExitStatus) : Leads s₀ .idle (s.startBus id unit chain status) := by
  have hjudged := hs.judgeMachineId status
  have hspawned := hjudged.spawnAndAwait busCommand
  rw [Init.startBus]
  split
  next heq => exact (hspawned.of_eq heq).endWithoutCommand hunit trivial
  next heq => exact hjudged.awaitProcess hunit heq (.inr rfl)

omit [Platform σ] in
theorem finishBus (hs : Leads s₀ (.acting id unit) s) (hunit : s₀.RunsNoCommand unit)
    (status : Option ExitStatus) : Leads s₀ .idle (s.finishBus id unit status) := by
  cases status with
  | none => exact hs.endWithoutCommand hunit trivial
  | some status =>
    rw [Init.finishBus]
    split
    · exact (hs.quiet (quiet_say _)).endWithoutCommand hunit trivial
    · exact hs.endWithoutCommand hunit trivial

theorem startNetworkManager (hs : Leads s₀ (.acting id unit) s) (hunit : s₀.RunsNoCommand unit) :
    Leads s₀ .idle (s.startNetworkManager id unit) := by
  have hspawned := hs.spawnAndAwait networkManagerCommand
  rw [Init.startNetworkManager]
  split
  next heq => exact (hspawned.of_eq heq).endWithoutCommand hunit trivial
  next c s₁ heq =>
    have hsaid := (hspawned.of_eq heq).quiet (quiet_say (.networkManagerStarted c.pid))
    have hwatched : Leads s₀ (.acting id unit)
        ((s₁.say (.networkManagerStarted c.pid)).addTask (.watchNetworkManager c.ticket)) :=
      hsaid.addTask trivial (List.forall_mem_nil _)
    exact hwatched.endWithoutCommand hunit trivial

theorem startElogind (hs : Leads s₀ f s) : Leads s₀ f s.startElogind.2 :=
  startElogind_induction (fun _ _ h => h.host _) (fun _ h => h.quiet (quiet_say _))
    (fun _ path h => h.quiet (quiet_inTable (Supervisor.grows_spawn path _)))
    (fun _ _ h => h.quiet (quiet_say _)) hs

theorem isOwn_startElogind (s : Init σ) : s.startElogind.1.IsOwn := by
  rw [Init.startElogind]
  split
  next => trivial
  next path _ =>
    split
    next => trivial
    next => split <;> trivial

theorem startUserSessions (hs : Leads s₀ (.acting id unit) s) (hunit : s₀.RunsNoCommand unit) :
    Leads s₀ .idle (s.startUserSessions id unit) := by
  have helogind := hs.startElogind
  have hown := isOwn_startElogind s
  rw [Init.startUserSessions]
  split
  next heq =>
    exact ((helogind.of_eq heq).ensureEach sessionDirectories).endWithoutCommand hunit trivial
  next heq =>
    rw [heq] at hown
    exact (helogind.of_eq heq).endWithoutCommand hunit hown

theorem hostAction (hs : Leads s₀ (.acting id unit) s) (hunit : s₀.RunsNoCommand unit)
    (b : Builtin) (step : HostStep) : Leads s₀ .idle (s.hostAction id unit b step) := by
  have hown : Outcome.IsOwn (actionOutcome b.name (s.host step).1) := by
    cases (s.host step).1 <;> trivial
  exact (hs.host step).endWithoutCommand hunit hown

theorem runBuiltin (hs : Leads s₀ (.acting id unit) s) (hunit : s₀.RunsNoCommand unit)
    (b : Builtin) : Leads s₀ .idle (s.runBuiltin id unit chain b) := by
  cases b with
  | mounts => exact hs.hostAction hunit .mounts .mountAll
  | network => exact hs.hostAction hunit .network .startNetwork
  | hostname => exact hs.hostAction hunit .hostname .setHostname
  | dbus => exact hs.beginBus hunit
  | networkManager => exact hs.startNetworkManager hunit
  | userSessions => exact hs.startUserSessions hunit
  | plymouthQuit => exact hs.endWithoutCommand hunit trivial

/-! ## The unit's task -/

omit [Platform σ] in
theorem letSettle (hs : Leads s₀ (.acting id unit) s) (deadline : Nat)
    (hdeadline : HasSettled s.graph s.config.settleDelay s.journal deadline unit) :
    Leads s₀ .idle (s.letSettle id unit chain deadline) := by
  obtain ⟨hstarts, hbegun⟩ := hs.workflow.focus
  rw [Init.letSettle]
  split
  next =>
    exact hs.park rfl hstarts (by simp [Task.handles]) (fun _ h => h)
      (fun _ h => List.mem_append_left _ h) ⟨hbegun, hdeadline⟩
      (.inl (List.mem_append_right _ (List.mem_singleton.mpr rfl)))
  next hdue =>
    exact hs.endAction trivial fun _ => hdeadline.mono List.suffix_rfl (Nat.not_lt.mp hdue)

theorem startService {earlier : List Record} (hs : Leads s₀ (.acting id unit) s)
    (hu : s.graph.get? unit = some u) (hjournal : s.journal = ⟨s.now, .began unit⟩ :: earlier)
    (patience : Nat) : Leads s₀ .idle (s.startService id unit chain u patience) := by
  have hlaunched := hs.quiet (quiet_inTable (Supervisor.grows_launchService unit u s.toSupervisor))
  rw [Init.startService]
  split
  next heq => exact (hlaunched.of_eq heq).endAction trivial (by simp)
  next heq =>
    have hnone := Supervisor.launchService_none (toSupervisor_inTable heq)
    refine (hlaunched.of_eq heq).endWithoutCommand (fun u' hu' => ?_) trivial
    rw [← hs.graph_eq, hu] at hu'
    cases hu'
    exact hnone
  next pid s₁ heq =>
    have hs₁ : Leads s₀ (.acting id unit) s₁ := hlaunched.of_eq heq
    obtain ⟨hstarts, hbegun⟩ := hs₁.workflow.focus
    obtain ⟨line, hline, hnow, hjournal₁⟩ :=
      Supervisor.launchService_some (toSupervisor_inTable heq)
    have hdeadline : HasSettled s₁.graph s₁.config.settleDelay s₁.journal
        (s₁.now + s₁.config.settleDelay) unit := by
      intro u' line' hu' hline'
      rw [hs₁.graph_eq, ← hs.graph_eq, hu] at hu'
      cases hu'
      cases hline.symm.trans hline'
      refine ⟨s₁.now, ⟨pid, earlier, ?_⟩, Nat.le_refl _⟩
      simp only [hjournal₁, hjournal, hnow, List.suffix_rfl]
    split
    next =>
      exact hs₁.park rfl hstarts (by simp [Task.handles])
        (fun _ h => List.mem_append_left _ h) (fun _ h => h) ⟨hbegun, hdeadline⟩
        (.inr (List.mem_append_right _ (List.mem_singleton.mpr rfl)))
    next => exact hs₁.letSettle _ hdeadline

theorem beginAction (hs : Leads s₀ (.starting id unit) s) (hu : s.graph.get? unit = some u)
    (hready : s.DependenciesReady unit) (patience : Nat) :
    Leads s₀ .idle (s.beginAction id unit chain u patience) := by
  rw [Init.beginAction]
  split
  next hstopping =>
    refine hs.refuse ⟨by simp, fun hrunning => ?_, by simp, by simp, by simp, by simp⟩
    cases hstopping.symm.trans hrunning
  next =>
    have hbegun : Leads s₀ (.acting id unit) ((s.say (.starting unit chain)).note (.began unit)) :=
      (hs.quiet (quiet_say _)).began hready
    dsimp only
    split
    next b hstart =>
      refine hbegun.runBuiltin (fun u' hu' => ?_) b
      rw [← hs.graph_eq, hu] at hu'
      cases hu'
      rw [UnitDef.execStart?, hstart]
    next => exact hbegun.startService hu rfl patience

theorem awaitDependencies (hs : Leads s₀ (.starting id unit) s)
    (hu : s.graph.get? unit = some u) (patience : Nat) (handles : List Handle)
    (hhandles : ∀ h ∈ handles, Requested s.journal h) (hremaining : s.Remaining unit handles) :
    Leads s₀ .idle (s.awaitDependencies id unit chain u patience handles) := by
  obtain ⟨hstarts, hunbegun⟩ := hs.workflow.focus
  obtain ⟨u', before, hu', hsplit, hbefore⟩ := hremaining
  cases hu.symm.trans hu'
  induction handles generalizing patience before with
  | nil =>
    rw [Init.awaitDependencies]
    refine hs.beginAction hu (fun u' hu' d hd => ?_) patience
    cases hu.symm.trans hu'
    rw [List.map_nil, List.append_nil] at hsplit
    exact hbefore d (hsplit ▸ (by simpa using hd))
  | cons h handles ih =>
    have hstage : s.Stage unit (.awaiting (h :: handles)) :=
      ⟨hunbegun, u, before, hu, hsplit, hbefore⟩
    cases patience with
    | zero =>
      exact hs.park rfl hstarts hhandles (fun _ h => List.mem_append_left _ h) (fun _ h => h) hstage
        (fun _ => .inr (List.mem_append_right _ (List.mem_singleton.mpr rfl)))
    | succ patience =>
      have hwait := hs.ledger.wait? (hhandles h List.mem_cons_self)
      rw [Init.awaitDependencies]
      split
      next hok =>
        rw [hwait] at hok
        refine ih patience (fun h' hh' => hhandles h' (List.mem_cons_of_mem h hh'))
          (before ++ [h.unit]) (fun d hd => ?_) (by simpa using hsplit)
        rcases List.mem_append.mp hd with hd | hd
        · exact hbefore d hd
        · rw [List.mem_singleton.mp hd, hok]
      next e hfailed =>
        rw [hwait] at hfailed
        have hacyclic := hs.ledger.acyclic (hs.workflow.pending id unit hstarts).acyclic
        have hmem : h.unit ∈ u.dependencies := by
          rw [← ExtTreeSet.mem_toList, hsplit, List.map_cons]
          exact List.mem_append_right before List.mem_cons_self
        have hblames : s.Blames unit h.unit e.text := ⟨hacyclic, ⟨u, hu, hmem⟩, e, hfailed, rfl⟩
        refine hs.refuse ⟨by simp, fun hstopping => ?_, by simp, by simp, by simp, ?_⟩
        · refine .dependency hu hacyclic hmem (fun d hd hlt => ?_)
            ((hs.ledger.justified _ _ hfailed).decided hstopping)
          exact (hs.ledger.justified d _ (hbefore d (mem_before_of_lt hsplit hd hlt))).decided
            hstopping
        · rintro v d reason heq
          cases heq
          exact ⟨rfl, hblames⟩
      next hnone =>
        rw [hwait] at hnone
        exact hs.park rfl hstarts hhandles (fun _ h => h) (fun _ h => h) hstage
          (fun hne => absurd hnone hne)

end Leads

/-! ## A poll -/

theorem not_mem_of_getElem?_eq_none {settled : ExtTreeMap Ticket (Option ExitStatus)}
    {ticket : Ticket} (h : settled[ticket]? = none) : ticket ∉ settled := by
  simp [ExtTreeMap.mem_iff_isSome_getElem?, h]

def unqueue (s : Init σ) (id : TaskId) : Init σ :=
  { s with queue := s.queue.erase id }

theorem later_unqueue (s : Init σ) (id : TaskId) : s.Later (s.unqueue id) :=
  { Later.refl s with }

/-- The task need not be awake then if it is in focus. -/
theorem Leads.unqueue (hs : Leads s₀ .idle s)
    (hid : ∀ unit chain phase, s.tasks[id]? = some (.start unit chain phase) →
      f.task? = some id ∨ (s.unqueue id).Awake id phase)
    (hfits : Focus.Fits s f) : Leads s₀ f (s.unqueue id) where
  later := hs.later.trans (s.later_unqueue id)
  ledger := hs.ledger.same rfl rfl rfl
  workflow := { hs.workflow with
    pending := fun id' unit hstarts => { hs.workflow.pending id' unit hstarts with }
    phase := fun id' unit chain phase ht hne => by
      obtain ⟨hstage, hawake⟩ := hs.workflow.phase id' unit chain phase ht (by simp [Focus.task?])
      refine ⟨hstage.later (s.later_unqueue id) fun hb => hb, ?_⟩
      by_cases heq : id' = id
      · subst heq
        exact (hid unit chain phase ht).resolve_left hne
      · exact hawake.mono (Nat.le_refl _)
          (fun h => h.imp_left fun hq => (List.mem_erase_of_ne heq).mpr hq) (fun _ h => .inl h)
          (fun _ _ h => .inl h) (fun _ _ _ h => .inl h)
    focus := hfits }

variable [Platform σ]

theorem Leads.pollStart {phase : StartPhase} (hs : Leads s₀ .idle s)
    (ht : s.tasks[id]? = some (.start unit chain phase)) :
    Leads s₀ .idle ((s.unqueue id).pollStart id unit chain phase) := by
  have hstarts : s.Starts id unit := ⟨chain, phase, ht⟩
  obtain ⟨-, -, ⟨u, hu⟩, -⟩ := hs.workflow.pending id unit hstarts
  obtain ⟨hstage, hawake⟩ := hs.workflow.phase id unit chain phase ht (by simp [Focus.task?])
  have hfocus : ∀ f : Focus, f.task? = some id → Focus.Fits s f → Leads s₀ f (s.unqueue id) :=
    fun f hf hfits => hs.unqueue (fun _ _ _ _ => .inl hf) hfits
  -- A task whose time has not come yet is left where it is.
  have hasleep : (s.unqueue id).Awake id phase → Leads s₀ .idle (s.unqueue id) := fun hawake =>
    hs.unqueue (fun _ _ _ ht' => by cases ht.symm.trans ht'; exact .inr hawake) trivial
  cases phase with
  | fresh =>
    have hstarting := hfocus (.starting id unit) rfl ⟨hstarts, hstage⟩
    obtain ⟨hrequested, hunits, hhandles⟩ :=
      hstarting.requestAll (unit :: chain) u.dependencies.toList
    have hu' : ((s.unqueue id).requestAll (unit :: chain) u.dependencies.toList).2.graph.get? unit =
        some u := by
      rw [hrequested.graph_eq, ← hs.graph_eq, hu]
    have hu₁ : (s.unqueue id).graph.get? unit = some u := hu
    simp only [Init.pollStart, hu₁]
    exact hrequested.awaitDependencies hu' patience _ hhandles
      ⟨u, [], hu', by rw [hunits, List.nil_append], by simp⟩
  | awaiting handles =>
    have hstarting := hfocus (.starting id unit) rfl ⟨hstarts, hstage.1⟩
    have hu₁ : (s.unqueue id).graph.get? unit = some u := hu
    simp only [Init.pollStart, hu₁]
    exact hstarting.awaitDependencies hu patience handles (hs.workflow.handles id _ ht) hstage.2
  | started deadline =>
    exact (hfocus (.acting id unit) rfl ⟨hstarts, hstage.1⟩).letSettle deadline hstage.2
  | settling deadline =>
    rw [Init.pollStart]
    split
    next hearly =>
      refine hasleep (.inl ?_)
      exact hawake.resolve_right fun hdue => absurd hearly (Nat.not_lt.mpr hdue.1)
    next hdue =>
      exact (hfocus (.acting id unit) rfl ⟨hstarts, hstage.1⟩).endAction trivial
        fun _ => hstage.2.mono List.suffix_rfl (Nat.not_lt.mp hdue)
  | makingMachineId ticket =>
    rw [Init.pollStart]
    split
    next status _ =>
      exact (hfocus (.acting id unit) rfl ⟨hstarts, hstage.1⟩).startBus
        (fun u hu => hstage.2.1 u (hs.graph_eq ▸ hu)) status
    next hnone => exact hasleep fun hsettled => absurd hsettled (not_mem_of_getElem?_eq_none hnone)
  | startingBus ticket =>
    rw [Init.pollStart]
    split
    next status _ =>
      exact (hfocus (.acting id unit) rfl ⟨hstarts, hstage.1⟩).finishBus
        (fun u hu => hstage.2.1 u (hs.graph_eq ▸ hu)) status
    next hnone => exact hasleep fun hsettled => absurd hsettled (not_mem_of_getElem?_eq_none hnone)

end InitDaemon.Init
