import InitDaemon.Proofs.Init.Deadlock
import InitDaemon.Proofs.Init.Freeze

/-!
# Starts in a shutdown

A shutdown turns down every unit that nobody has asked for before, and every start that has not come
to its action. Starts that wait for nothing but each other come to their ends when they are polled.
-/

namespace InitDaemon

open Std InitDaemon.Units InitDaemon.Journal

namespace Init

variable {σ : Type} {s₀ s s' : Init σ} {id : TaskId} {unit : String} {chain : List String}

theorem exists_outcomeAfter? {journal : List Record} {r : Record} {o : Outcome} (hr : r ∈ journal)
    (heq : r.entry = .resolved unit o) : ∃ o', outcomeAfter? journal unit = some o' := by
  rw [← Option.isSome_iff_exists, outcomeAfter?, List.findSome?_isSome_iff]
  exact ⟨r, hr, by simp [resolution?, heq]⟩

/-- The unit is turned down because of the shutdown as soon as someone asks for it, and gets no
task. -/
structure TurnsDown (s : Init σ) (unit : String) (chain : List String) : Prop where
  outcome : (s.request unit chain).2.outcome? unit = some (.error (.shuttingDown unit))
  tasks : (s.request unit chain).2.tasks = s.tasks
  nextTask : (s.request unit chain).2.nextTask = s.nextTask

theorem Ledger.turnsDown (hs : s.Ledger) (hstopping : s.stopping = true) (hnew : ¬ s.Entered unit)
    (chain : List String) : s.TurnsDown unit chain := by
  have hrejection : s.rejection? unit chain = some (.shuttingDown unit) := by
    rw [rejection?, if_pos hstopping]
  rcases s.request_cases unit chain with ⟨hold, -⟩ | ⟨-, e, hrejected, heq⟩ | ⟨-, haccepted, -⟩
  · exact absurd hold hnew
  · cases hrejection.symm.trans hrejected
    have houtcome : (s.turnedDown unit chain (.shuttingDown unit)).outcome? unit =
        some (.error (.shuttingDown unit)) := (outcome?_turnedDown hs unit).trans (if_pos rfl)
    exact ⟨heq ▸ houtcome, heq ▸ rfl, heq ▸ rfl⟩
  · cases hrejection.symm.trans haccepted

namespace Frozen

theorem turned_down (h : s.Frozen s') (hs : s.Ledger) (hs' : s'.Ledger) (hnew : ¬ s.Entered unit)
    (hunit : s'.Entered unit) : s'.outcome? unit = some (.error (.shuttingDown unit)) := by
  obtain ⟨r, hr, o, heq⟩ := (h.resolved unit hunit).resolve_left hnew
  obtain ⟨o, ho⟩ := exists_outcomeAfter? hr heq
  rw [hs'.outcome, ho]
  rcases h.journal.outcome ho with hold | ⟨-, hlate⟩
  · exact absurd (entered_of_outcome ((hs.outcome unit).trans hold)) hnew
  · rcases hlate unit o rfl with hbegun | ⟨-, hdeclined⟩
    · exact absurd (hs.begun unit hbegun).1 hnew
    · rw [hdeclined hnew]

theorem declined (h : s.Frozen s') (hs : s.Ledger) (hs' : s'.Ledger)
    (hunresolved : s.outcome? unit = none) (hunbegun : ¬ Begun s.journal unit) {o : Outcome}
    (ho : s'.outcome? unit = some o) : Declined unit o := by
  rw [hs'.outcome] at ho
  rcases h.journal.outcome ho with hold | ⟨-, hlate⟩
  · cases hunresolved.symm.trans ((hs.outcome unit).trans hold)
  · rcases hlate unit o rfl with hbegun | ⟨hdeclined, -⟩
    · exact absurd hbegun hunbegun
    · exact hdeclined

end Frozen

/-! ## A start that goes on in a shutdown -/

theorem outcome?_conclude (hs : s.Channels) (hunit : s.Entered unit) (id : TaskId) (o : Outcome) :
    (s.conclude id unit o).outcome? unit = some o := by
  obtain ⟨channel, hchannel⟩ := hunit
  have hresolved (s' : Init σ) (heq : s'.readiness = s.readiness) :
      ((s'.resolve unit o).endTask id).outcome? unit = some o := by
    obtain ⟨queue, hend, -, -⟩ := resolve_endTask_eq (s := s') id o (heq.symm ▸ hchannel)
    rw [hend]
    change (s'.readiness.send channel o).outcomeOf? unit = some o
    rw [heq, Readiness.outcomeOf?_send hs.consistent hchannel, if_pos rfl]
  cases o with
  | ok => exact hresolved s rfl
  | error e => exact hresolved (s.say (.startFailed unit e)) rfl

variable [Platform σ]

/-- A start that does not end is left before a dependency without an outcome, or after it has used
up its patience. -/
theorem awaitDependencies_stopping (hs : s.Channels) (hstopping : s.stopping = true)
    (hunit : s.Entered unit) (id : TaskId) (chain : List String) (u : UnitDef) (left : Nat)
    (handles : List Handle) (hgiven : ∀ h ∈ handles, Requested s.journal h) :
    (s.awaitDependencies id unit chain u left handles).outcome? unit ≠ none ∨ ∃ rest,
      (s.awaitDependencies id unit chain u left handles).tasks[id]? =
        some (.start unit chain (.awaiting rest)) ∧
      ((∃ h ∈ handles, s.outcome? h.unit = none) ∨ rest.length + left = handles.length) := by
  induction handles generalizing left with
  | nil =>
    rw [awaitDependencies, beginAction, if_pos hstopping, outcome?_conclude hs hunit]
    exact .inl (Option.some_ne_none _)
  | cons h handles ih =>
    cases left with
    | zero => exact .inr ⟨_, ExtTreeMap.getElem?_insert_self, .inr rfl⟩
    | succ left =>
      rw [awaitDependencies]
      split
      next =>
        refine (ih left fun h hh => hgiven h (List.mem_cons_of_mem _ hh)).imp_right ?_
        rintro ⟨rest, hrest, ⟨h', hh', hnone⟩ | hlength⟩
        · exact ⟨rest, hrest, .inl ⟨h', List.mem_cons_of_mem _ hh', hnone⟩⟩
        · exact ⟨rest, hrest, .inr (congrArg Nat.succ hlength)⟩
      next =>
        rw [outcome?_conclude hs hunit]
        exact .inl (Option.some_ne_none _)
      next hnone =>
        rw [hs.wait? (hgiven h List.mem_cons_self)] at hnone
        exact .inr ⟨_, ExtTreeMap.getElem?_insert_self, .inl ⟨h, List.mem_cons_self, hnone⟩⟩

/-- A poll gets a start to its end or to a later place, if what it waits for is decided. -/
theorem Leads.poll_stopping {phase : StartPhase} (hs : Leads s₀ .idle s)
    (hstopping : s.stopping = true) (ht : s.tasks[id]? = some (.start unit chain phase))
    (hunbegun : ¬ Begun s.journal unit) :
    (s.perform (.poll id)).outcome? unit ≠ none ∨ ∃ rest,
      (s.perform (.poll id)).tasks[id]? = some (.start unit chain (.awaiting rest)) ∧
      ∀ handles, phase = .awaiting handles →
        (∃ h ∈ handles, s.outcome? h.unit = none) ∨ rest.length < handles.length := by
  have hstarts : s.Starts id unit := ⟨chain, phase, ht⟩
  obtain ⟨hentered, -, ⟨u, hu⟩, -⟩ := hs.workflow.pending id unit hstarts
  obtain ⟨hstage, -⟩ := hs.workflow.phase id unit chain phase ht (by simp [Focus.task?])
  have hpoll : s.perform (.poll id) = (s.unqueue id).pollStart id unit chain phase := by
    change (s.unqueue id).poll id = _
    have ht' : (s.unqueue id).tasks[id]? = some (.start unit chain phase) := ht
    rw [Init.poll, ht']
    rfl
  have hu' : (s.unqueue id).graph.get? unit = some u := hu
  rw [hpoll]
  cases phase with
  | fresh =>
    have hfits : Focus.Fits s (.starting id unit) := ⟨hstarts, hstage⟩
    have hstarting : Leads (s.unqueue id) (.starting id unit) (s.unqueue id) :=
      (hs.unqueue (fun _ _ _ _ => .inl rfl) hfits).restart
    obtain ⟨hrequested, -, hgiven⟩ :=
      hstarting.requestAll (unit :: chain) u.dependencies.toList
    have hentered' : (s.unqueue id).Entered unit := hentered
    have hended := awaitDependencies_stopping hrequested.ledger.toChannels
      (hrequested.later.stopping hstopping) (hentered'.later hrequested.later) id chain u patience
      _ hgiven
    simp only [Init.pollStart, hu']
    refine hended.imp_right ?_
    rintro ⟨rest, hrest, -⟩
    exact ⟨rest, hrest, fun _ h => by cases h⟩
  | awaiting handles =>
    have hledger : (s.unqueue id).Ledger := hs.ledger.same rfl rfl rfl
    have hended := awaitDependencies_stopping hledger.toChannels hstopping hentered id chain u
      patience handles (hs.workflow.handles id _ ht)
    simp only [Init.pollStart, hu']
    refine hended.imp_right ?_
    rintro ⟨rest, hrest, hnext⟩
    refine ⟨rest, hrest, fun handles' heq => ?_⟩
    cases heq
    refine hnext.imp_right fun hlength => ?_
    rw [← hlength]
    exact Nat.lt_add_of_pos_right (by decide)
  | started | settling | makingMachineId | startingBus => exact absurd hstage.1 hunbegun

/-! ## All starts end -/

/-- A shutdown has begun, and the actions that had begun before it are over. -/
structure WindsDown (s₀ s : Init σ) : Prop where
  leads : Leads s₀ .idle s
  stopping : s.stopping = true
  decided : ∀ unit, Begun s.journal unit → s.outcome? unit ≠ none

def pollAll (s : Init σ) (ids : List TaskId) : Init σ :=
  s.run (ids.map .poll)

theorem pollAll_append (s : Init σ) (ids ids' : List TaskId) :
    s.pollAll (ids ++ ids') = (s.pollAll ids).pollAll ids' := by
  rw [pollAll, List.map_append, run_append]
  rfl

namespace WindsDown

theorem frozen_pollAll (h : WindsDown s₀ s) (ids : List TaskId) : s.Frozen (s.pollAll ids) :=
  h.leads.frozen h.stopping fun m hm => by
    obtain ⟨id, -, rfl⟩ := List.mem_map.mp hm
    exact not_false

theorem leads_pollAll (h : WindsDown s₀ s) (ids : List TaskId) : Leads s .idle (s.pollAll ids) :=
  h.leads.restart.reaches ⟨_, rfl⟩

theorem outcome_pollAll (h : WindsDown s₀ s) (ids : List TaskId) (ho : s.outcome? unit ≠ none) :
    (s.pollAll ids).outcome? unit ≠ none := by
  obtain ⟨o, ho⟩ := Option.ne_none_iff_exists'.mp ho
  rw [(h.leads_pollAll ids).later.outcome unit o ho]
  exact Option.some_ne_none o

theorem pollAll (h : WindsDown s₀ s) (ids : List TaskId) : WindsDown s₀ (s.pollAll ids) where
  leads := (h.leads_pollAll ids).after h.leads.later
  stopping := (h.frozen_pollAll ids).stopping
  decided unit hbegun :=
    h.outcome_pollAll ids (h.decided unit ((h.frozen_pollAll ids).begun hbegun))

/-- A unit that the polls have brought up was turned down. -/
theorem settled_pollAll (h : WindsDown s₀ s) (ids : List TaskId)
    (hsettled : s.Entered unit → s.outcome? unit ≠ none)
    (hentered : (s.pollAll ids).Entered unit) : (s.pollAll ids).outcome? unit ≠ none := by
  by_cases hold : s.Entered unit
  · exact h.outcome_pollAll ids (hsettled hold)
  · rw [(h.frozen_pollAll ids).turned_down h.leads.ledger (h.leads_pollAll ids).ledger hold hentered]
    exact Option.some_ne_none _

/-- A start that waits for a dependency is before its action. -/
theorem awaiting_ends (h : WindsDown s₀ s) {u : UnitDef} (hu : s.graph.get? unit = some u)
    (hsettled : ∀ d ∈ u.dependencies, s.Entered d → s.outcome? d ≠ none) {handles : List Handle}
    (ht : s.tasks[id]? = some (.start unit chain (.awaiting handles))) :
    ∃ ids, (s.pollAll ids).outcome? unit ≠ none := by
  -- Each poll leaves fewer dependencies to wait for.
  induction hlength : handles.length using Nat.strongRecOn generalizing s handles with
  | ind n ih =>
    subst hlength
    obtain ⟨⟨hunbegun, u', before, hu', hsplit, -⟩, -⟩ :=
      h.leads.workflow.phase id unit chain _ ht (by simp [Focus.task?])
    cases hu.symm.trans hu'
    rcases h.leads.poll_stopping h.stopping ht hunbegun with hdone | ⟨rest, ht', hrest⟩
    · exact ⟨[id], hdone⟩
    · rcases hrest handles rfl with ⟨handle, hhandle, hnone⟩ | hlt
      · have hmem : handle.unit ∈ u.dependencies := by
          rw [← ExtTreeSet.mem_toList, hsplit]
          exact List.mem_append_right before (List.mem_map_of_mem hhandle)
        have hentered :=
          h.leads.ledger.entered (h.leads.workflow.handles id _ ht handle hhandle)
        exact absurd hnone (hsettled _ hmem hentered)
      · have hgraph := (h.leads_pollAll [id]).later.graph
        obtain ⟨ids, hids⟩ := ih rest.length hlt (h.pollAll [id]) (hgraph ▸ hu)
          (fun d hd => h.settled_pollAll [id] (hsettled d hd)) ht' rfl
        exact ⟨id :: ids, hids⟩

/-- The start of a unit whose dependencies are decided ends. -/
theorem start_ends (h : WindsDown s₀ s) (hstarts : s.Starts id unit) {u : UnitDef}
    (hu : s.graph.get? unit = some u)
    (hsettled : ∀ d ∈ u.dependencies, s.Entered d → s.outcome? d ≠ none) :
    ∃ ids, (s.pollAll ids).outcome? unit ≠ none := by
  have hunbegun : ¬ Begun s.journal unit := fun hbegun =>
    h.decided unit hbegun (h.leads.workflow.pending id unit hstarts).unresolved
  obtain ⟨chain, phase, ht⟩ := hstarts
  rcases h.leads.poll_stopping h.stopping ht hunbegun with hdone | ⟨rest, ht', -⟩
  · exact ⟨[id], hdone⟩
  · have hgraph := (h.leads_pollAll [id]).later.graph
    obtain ⟨ids, hids⟩ := (h.pollAll [id]).awaiting_ends (hgraph ▸ hu)
      (fun d hd => h.settled_pollAll [id] (hsettled d hd)) ht'
    exact ⟨id :: ids, hids⟩

/-- Units come to their ends one after the other if each of them does on its own. -/
theorem all_end (h : WindsDown s₀ s) (units : List String)
    (hend : ∀ ids, ∀ unit ∈ units, (s.pollAll ids).Entered unit →
      ∃ ids', ((s.pollAll ids).pollAll ids').outcome? unit ≠ none) :
    ∃ ids, ∀ unit ∈ units, (s.pollAll ids).Entered unit → (s.pollAll ids).outcome? unit ≠ none := by
  induction units with
  | nil => exact ⟨[], nofun⟩
  | cons unit units ih =>
    obtain ⟨ids, hids⟩ := ih fun ids unit' hunit' => hend ids unit' (List.mem_cons_of_mem _ hunit')
    by_cases hentered : (s.pollAll ids).Entered unit
    · obtain ⟨ids', hids'⟩ := hend ids unit List.mem_cons_self hentered
      refine ⟨ids ++ ids', fun unit' hunit' => ?_⟩
      rw [pollAll_append]
      rcases List.mem_cons.mp hunit' with rfl | hunit'
      · exact fun _ => hids'
      · exact (h.pollAll ids).settled_pollAll ids' (hids unit' hunit')
    · refine ⟨ids, fun unit' hunit' => ?_⟩
      rcases List.mem_cons.mp hunit' with rfl | hunit'
      · exact fun hold => absurd hold hentered
      · exact hids unit' hunit'

/-- Nobody waits for ever when the actions are over, since starts wait for each other along no
cycle. -/
theorem unit_ends (h : WindsDown s₀ s) (hentered : s.Entered unit) :
    ∃ ids, (s.pollAll ids).outcome? unit ≠ none := by
  by_cases hdone : s.outcome? unit ≠ none
  · exact ⟨[], hdone⟩
  rw [ne_eq, not_not] at hdone
  obtain ⟨id, hstarts⟩ := h.leads.workflow.exists_start unit hentered hdone
  have hacyclic := h.leads.ledger.acyclic (h.leads.workflow.pending id unit hstarts).acyclic
  refine acyclic_induction (P := fun unit => ∀ t, WindsDown s₀ t → t.graph = s.graph →
    t.Entered unit → ∃ ids, (t.pollAll ids).outcome? unit ≠ none) Graph.successors_mem_names ?_
    unit hacyclic s h rfl hentered
  intro unit _ ih t ht hgraph hentered
  by_cases hdone : t.outcome? unit ≠ none
  · exact ⟨[], hdone⟩
  rw [ne_eq, not_not] at hdone
  obtain ⟨id, hstarts⟩ := ht.leads.workflow.exists_start unit hentered hdone
  obtain ⟨-, -, ⟨u, hu⟩, -⟩ := ht.leads.workflow.pending id unit hstarts
  have hgraph_pollAll (ids : List TaskId) : (t.pollAll ids).graph = t.graph :=
    (ht.leads_pollAll ids).later.graph
  obtain ⟨ids, hids⟩ := ht.all_end u.dependencies.toList fun ids d hd hentered => by
    by_cases hdone : (t.pollAll ids).outcome? d ≠ none
    · exact ⟨[], hdone⟩
    rw [ne_eq, not_not] at hdone
    have hpolled := ht.pollAll ids
    obtain ⟨id, hstarts⟩ := hpolled.leads.workflow.exists_start d hentered hdone
    obtain ⟨hedge, hacyclic⟩ := hpolled.leads.ledger.successor
      (hpolled.leads.workflow.pending id d hstarts) (hgraph_pollAll ids ▸ hu)
      (ExtTreeSet.mem_toList.mp hd)
    rw [hgraph_pollAll, hgraph] at hedge hacyclic
    exact ih d hedge hacyclic _ hpolled ((hgraph_pollAll ids).trans hgraph) hentered
  have hpolled := ht.pollAll ids
  by_cases hdone : (t.pollAll ids).outcome? unit ≠ none
  · exact ⟨ids, hdone⟩
  rw [ne_eq, not_not] at hdone
  have hstill := hentered.later (ht.leads_pollAll ids).later
  obtain ⟨id, hstarts⟩ := hpolled.leads.workflow.exists_start unit hstill hdone
  obtain ⟨ids', hids'⟩ := hpolled.start_ends hstarts (hgraph_pollAll ids ▸ hu)
    fun d hd => hids d (ExtTreeSet.mem_toList.mpr hd)
  exact ⟨ids ++ ids', pollAll_append t ids ids' ▸ hids'⟩

end WindsDown

/-! ## What a shutdown freezes -/

/-- What holds from a state in a shutdown to a later one. -/
structure Freezes (s s' : Init σ) : Prop where
  stopping : s'.stopping = true
  /-- No own action begins, no setup step is made, and neither the scheduler nor a tick launches a
  service or fails to. -/
  nothing_starts : Gains (fun e => ¬ e.IsStart) s.journal s'.journal
  none_filed : ∀ pid unit, s'.FiledUnder pid unit → s.FiledUnder pid unit
  crashes : s'.crashes = s.crashes
  turns_down : ∀ unit chain, ¬ s'.Entered unit → s'.TurnsDown unit chain
  turned_down : ∀ unit, ¬ s.Entered unit → s'.Entered unit →
    s'.outcome? unit = some (.error (.shuttingDown unit)) ∧ ∀ id, ¬ s'.Starts id unit
  declined : ∀ id unit, s.Starts id unit → ¬ Begun s.journal unit →
    ∀ o, s'.outcome? unit = some o → Declined unit o
  /-- Once the actions that had begun are over, nothing but polls gets every start to its end. -/
  ends : (∀ unit, Begun s'.journal unit → s'.outcome? unit ≠ none) →
    ∀ unit, s'.Entered unit → ∃ ids, (s'.pollAll ids).outcome? unit ≠ none
  collects : ∀ clock pid status, s'.toWorld.tryWaitAny.1 = .ok (some (pid, status)) →
    (s'.toSupervisor.tick clock).1 = .reaped pid ∧
      Supervisor.Collects pid status s'.toSupervisor (s'.toSupervisor.tick clock).2

variable {config : Config} {graph : Graph} {machine : σ} {notices : List Notice}

/-- A shutdown that has begun, whatever was under way, ends the starts and the restarts and lets
processes be collected as before. -/
theorem shutdown_freezes_starts (hs : (fresh config graph machine notices).Reaches s)
    (hstopping : s.stopping = true) {moves : List (Move σ)}
    (hmoves : ∀ m ∈ moves, ¬ m.IsLaunch) : s.Freezes (s.run moves) := by
  have hleads := hs.leads
  have hleads' : Leads s .idle (s.run moves) := hleads.restart.reaches ⟨moves, rfl⟩
  have hfrozen := hleads.frozen hstopping hmoves
  have hwinds (hdecided : ∀ unit, Begun (s.run moves).journal unit →
      (s.run moves).outcome? unit ≠ none) : WindsDown s (s.run moves) :=
    ⟨hleads', hfrozen.stopping, hdecided⟩
  exact {
    stopping := hfrozen.stopping
    nothing_starts := hfrozen.journal.mono fun _ hlate => hlate.1
    none_filed := hfrozen.rests.filed
    crashes := hfrozen.rests.crashes
    turns_down := fun unit chain hnew =>
      hleads'.ledger.turnsDown hfrozen.stopping hnew chain
    turned_down := fun unit hnew hentered =>
      ⟨hfrozen.turned_down hleads.ledger hleads'.ledger hnew hentered, fun id hstarts =>
        hnew (hleads.workflow.pending id unit (hfrozen.starts id unit hstarts)).entered⟩
    declined := fun id unit hstarts hunbegun o =>
      hfrozen.declined hleads.ledger hleads'.ledger
        (hleads.workflow.pending id unit hstarts).unresolved hunbegun
    ends := fun hdecided unit hentered => (hwinds hdecided).unit_ends hentered
    collects := fun clock pid status hended =>
      Supervisor.tick_collects hfrozen.stopping hended clock }

/-- A service that is restarted always ends in the shutdown. A unit was waiting for it. -/
def frozenMachine : Simulation.Script where
  children.endings := (∅ : ExtTreeMap String Simulation.Endings).insert "/sbin/b"
    (.always ⟨.exited 1, 130⟩)

def frozenGraph : Graph where
  disk := twoUnits.disk.insert "b" { start := .command "/sbin/b", restart := .always }

def movesBeforeFreeze : List (Move Simulation.Script) :=
  [.request "a" [], .poll 0, .poll 1, .stopRestarts]

def movesAfterFreeze : List (Move Simulation.Script) :=
  [.request "c" [], .pass 100, .ring, .poll 1, .poll 0, .pass 130, .tick 130]

def frozenUnits : Init Simulation.Script :=
  (fresh {} frozenGraph frozenMachine []).run movesBeforeFreeze

theorem waiting_unit_frozen :
    (fresh {} frozenGraph frozenMachine []).Reaches frozenUnits ∧ frozenUnits.stopping = true ∧
      (∀ m ∈ movesAfterFreeze, ¬ m.IsLaunch) ∧
      frozenUnits.Freezes (frozenUnits.run movesAfterFreeze) ∧
      (frozenUnits.run movesAfterFreeze).outcome? "a" = some (.error (.shuttingDown "a")) ∧
      (frozenUnits.run movesAfterFreeze).outcome? "c" = some (.error (.shuttingDown "c")) := by
  have hreaches : (fresh {} frozenGraph frozenMachine []).Reaches frozenUnits :=
    ⟨movesBeforeFreeze, rfl⟩
  have hstopping : frozenUnits.stopping = true := by decide +kernel
  have hmoves : ∀ m ∈ movesAfterFreeze, ¬ m.IsLaunch := by decide
  refine ⟨hreaches, hstopping, hmoves, shutdown_freezes_starts hreaches hstopping hmoves, ?_⟩
  decide +kernel

end Init

end InitDaemon
