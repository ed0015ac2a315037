import InitDaemon.Proofs.Init.Booting

/-!
# The turns of a boot

The boot chain despairs once at most and the session is tried once at most. A task of the boot that
asks for another power state has its reason in the journal.
-/

namespace InitDaemon.Init

open Std InitDaemon.Units InitDaemon.Journal

variable {σ : Type} {s s' : Init σ} {m : Move σ} {id chain : TaskId} {n : Notice}

theorem conducts_demand {config : Config} {cause : PowerCause} {state : PowerState}
    (hs : Conducts config chain s.journal)
    (hfits : PowerFits config chain id state s.journal cause) :
    Conducts config chain (s.demand id cause state).journal :=
  have hnoted : Conducts config chain (s.note (.powerRequested id cause state)).journal :=
    ⟨hfits, hs⟩
  ((gains_freeze _).mono fun _ => not_turn_of_mute).conducts hnoted

/-- The boot chain asks for another power state only right after a rescue shell. -/
theorem conducts_heed {config : Config} {outcome : Option RescueOutcome}
    (hs : Conducts config chain s.journal)
    (hwish : ∀ o, outcome = some o → o ≠ .resume → ShellEnded s.journal) :
    Conducts config chain (s.heed chain outcome).journal := by
  rcases outcome with _ | _ | _ | _
  · exact hs
  · exact hs
  · exact conducts_demand hs ⟨rfl, hwish .reboot rfl RescueOutcome.noConfusion⟩
  · exact conducts_demand hs ⟨rfl, hwish .powerOff rfl RescueOutcome.noConfusion⟩

variable [Platform σ]

omit [Platform σ] in
theorem not_turn_of_tells {e : Entry} (h : s.toSupervisor.Tells e) : ¬ e.IsTurn := by
  rcases h with hmute | ⟨-, n, rfl, hlaunch⟩
  · exact not_turn_of_mute hmute
  · exact not_turn_of_launch hlaunch

/-- Only the boot chain tries the rescue shell, and only the session task the session. -/
theorem Turns.told (h : s.Turns id s') (hn : n.IsTrial) (htold : Told n s'.journal) :
    Told n s.journal ∨
      (n = .rescueEntered ∧ ∃ target, s.tasks[id]? = some (.bootChain target)) ∨
      (n = .sessionStarting ∧ ∃ phase, s.tasks[id]? = some (.session phase)) := by
  have hmute : ¬ (Entry.notice n).IsMute := fun hmute => not_turn_of_mute hmute hn
  cases h with
  | despair ht =>
    rcases (gains_heed _ _ _).told htold with htold | he | ⟨state, heq⟩
    · rcases s.gains_rescued.told htold with htold | he | heq | ⟨pid, heq⟩
      · exact .inl htold
      · exact absurd hn (not_turn_of_tells he)
      · cases heq
        exact .inr (.inl ⟨rfl, _, ht⟩)
      · cases heq
    · exact absurd he hmute
    · cases heq
  | enterSession ht =>
    rcases (s.gains_opened id).told htold with htold | he | heq | heq
    · exact .inl htold
    · exact absurd hn (not_turn_of_tells he)
    · cases heq
      exact .inr (.inr ⟨rfl, _, ht⟩)
    · cases heq
  | demand =>
    rcases (s.gains_demand id _ _).told htold with htold | he | heq
    · exact .inl htold
    · exact absurd he hmute
    · cases heq
  | stage =>
    rcases (s.gains_staged id _ _).told htold with htold | he | he
    · exact .inl htold
    · exact absurd he hmute
    · exact absurd hn (not_turn_of_final he)

/-! ## The trial of the session -/

/-- The session runs, or its end has come at once. -/
theorem opened_cases (s : Init σ) (id : TaskId) :
    (∃ c sup, (s.toSupervisor.say .sessionStarting).spawnAndAwait s.config.session = (.ok c, sup) ∧
      s.opened id = ({ s with toSupervisor := sup } : Init σ).suspend id
        (.session (.running c.ticket)) ∧
      SessionSpawned s.config.session c.pid sup.journal ∧
      sup.waiters[c.pid]? = some c.ticket) ∨
    ∃ e sup, (s.toSupervisor.say .sessionStarting).spawnAndAwait s.config.session =
        (.error e, sup) ∧
      s.opened id = (({ s with toSupervisor := sup }.say (.sessionSpawnFailed e)).say
        .sessionEnded).demand id .session .off := by
  rw [opened]
  rcases htrial : (s.toSupervisor.say .sessionStarting).spawnAndAwait s.config.session with
    ⟨e | c, sup⟩
  · exact .inr ⟨e, sup, rfl, rfl⟩
  · obtain ⟨hjournal, hwaits⟩ := Supervisor.spawnAndAwait_ok htrial
    exact .inl ⟨c, sup, rfl, rfl, ⟨_, _, _, hjournal⟩, hwaits⟩

theorem sessionAt_opened (s : Init σ) (id : TaskId) (ticket : Ticket)
    (ht : (s.opened id).tasks[id]? = some (.session (.running ticket))) :
    (s.opened id).SessionAt (.running ticket) := by
  have hconfig := (s.continues_opened id).config
  rcases s.opened_cases id with ⟨c, sup, -, heq, hspawned, hwaits⟩ | ⟨e, sup, -, heq⟩
  · rw [heq] at ht hconfig ⊢
    cases (tasks_suspend_self _ _ _).symm.trans ht
    refine ⟨c.pid, sup.journal, hconfig ▸ hspawned, List.suffix_rfl, .inr ⟨hwaits, ?_⟩⟩
    obtain ⟨time, time', earlier, hjournal⟩ := hspawned
    change c.pid ∈ uncollected sup.journal
    rw [hjournal]
    exact List.mem_cons_self
  · rw [heq] at ht
    cases (tasks_suspend_self _ _ _).symm.trans ht

theorem tried_opened (s : Init σ) (id : TaskId) :
    SessionTried s.config.session (s.opened id).journal := by
  rcases s.opened_cases id with ⟨c, sup, -, heq, hspawned, -⟩ | ⟨e, sup, -, heq⟩
  · rw [heq]
    exact .inl ⟨c.pid, sup.journal, hspawned, List.suffix_rfl⟩
  · rw [heq]
    refine .inr ⟨e, Told.mono ?_ (continues_demand _ id .session .off).journal⟩
    exact ⟨_, List.mem_cons_of_mem _ List.mem_cons_self, rfl⟩

theorem conducts_opened {config : Config} (hs : Conducts config chain s.journal)
    (hfits : Fits config chain s.journal (.notice .sessionStarting)) :
    Conducts config chain (s.opened (chain + 1)).journal := by
  have htried : Conducts config chain
      ((s.toSupervisor.say .sessionStarting).spawnAndAwait s.config.session).2.journal := by
    have hgains := Supervisor.Chore.gains
      (.spawnAndAwait (s.toSupervisor.say .sessionStarting) s.config.session)
    have hbefore : Conducts config chain (s.toSupervisor.say .sessionStarting).journal :=
      ⟨hfits, hs⟩
    exact (hgains.mono fun _ => not_turn_of_tells).conducts hbefore
  rcases s.opened_cases (chain + 1) with ⟨c, sup, htrial, heq, -⟩ | ⟨e, sup, htrial, heq⟩
  · rw [htrial] at htried
    rw [heq]
    exact htried
  · rw [htrial] at htried
    rw [heq]
    have hended : Conducts config chain ((({ s with toSupervisor := sup } : Init σ).say
        (.sessionSpawnFailed e)).say .sessionEnded).journal := ⟨trivial, trivial, htried⟩
    exact conducts_demand hended ⟨rfl, rfl, .inl ⟨e, _, _, _, rfl⟩⟩

theorem Leads.continues {s₀ : Init σ} (hs : Leads s₀ .idle s) (moves : List (Move σ)) :
    s.Continues (s.run moves) := by
  induction moves generalizing s with
  | nil => exact .refl s
  | cons m moves ih => exact (Steps.continues (hs.steps m)).trans (ih (hs.perform m))

namespace Booting

/-- A turn, as far as it is the same for all tasks. -/
theorem turn (h : s.Booting chain) (hturns : s.Turns id s')
    (hside : s'.nextTask ≤ chain ∨ chain + 1 < s.nextTask) (hfresh : FreshNumbers s'.journal)
    (hrunning : ∀ ticket, s'.tasks[id]? = some (.session (.running ticket)) →
      id = chain + 1 ∧ s'.SessionAt (.running ticket))
    (hchain : ∀ target, s.tasks[id]? = some (.bootChain target) → s'.ChainFate id)
    (hsession : ∀ phase, s.tasks[id]? = some (.session phase) → s'.SessionFate id)
    (hconducts : Conducts s.config chain s'.journal) : s'.Booting chain := by
  have hstep : Step (.poll id) s s' := .turn hturns
  have hcontinues := hstep.continues
  have hlt : id < s'.nextTask := by
    obtain ⟨t, ht, -⟩ := hturns.there
    exact Nat.lt_of_lt_of_le (h.firm.id_lt id t ht) hcontinues.nextTask_le
  constructor
  case firm => exact h.firm.step hstep
  case neat => exact hstep.neat h.neat
  case chainTask =>
    intro id' target ht'
    by_cases heq : id = id'
    · subst heq
      rcases hturns.task ht' with ⟨ticket, heq⟩ | ⟨state, deadline, next, heq⟩
      · cases heq
      · cases heq
    · rw [hturns.others heq] at ht'
      obtain ⟨hid, hnew, hunit⟩ := h.chainTask id' target ht'
      refine ⟨hid, fun htold => ?_, hcontinues.config ▸ hunit⟩
      rcases hturns.told (n := .rescueEntered) trivial htold with hold | ⟨-, target, ht⟩ | ⟨hne, -⟩
      · exact hnew hold
      · exact heq ((h.chainTask id target ht).1.trans hid.symm)
      · cases hne
  case sessionTask =>
    intro id' phase ht'
    by_cases heq : id = id'
    · subst heq
      rcases hturns.task ht' with ⟨ticket, heq⟩ | ⟨state, deadline, next, heq⟩
      · cases heq
        exact hrunning ticket ht'
      · cases heq
    · rw [hturns.others heq] at ht'
      obtain ⟨hid, hphase⟩ := h.sessionTask id' phase ht'
      refine ⟨hid, hphase.step h.firm hstep (fun htold => ?_) fun pid ticket hpid hwaits =>
        hturns.waits hfresh hpid hwaits⟩
      rcases hturns.told (n := .sessionStarting) trivial htold with hold | ⟨hne, -⟩ | ⟨-, phase, ht⟩
      · exact hold
      · cases hne
      · exact absurd ((h.sessionTask id phase ht).1.trans hid.symm) heq
  case unasked =>
    intro id' state ht'
    by_cases heq : id = id'
    · subst heq
      rcases hturns.task ht' with ⟨ticket, heq⟩ | ⟨state, deadline, next, heq⟩
      · cases heq
      · cases heq
    · exact h.unasked id' state (hturns.others heq ▸ ht')
  case chainFate =>
    intro hbegun
    have hbooted := hside.resolve_left (Nat.not_le.mpr hbegun)
    refine (h.chainFate (Nat.lt_of_succ_lt hbooted)).step h.firm hstep fun target ht => ?_
    by_cases heq : id = chain
    · subst heq
      exact hchain target ht
    · exact .inl ⟨target, (hturns.others heq).trans ht⟩
  case sessionFate =>
    intro hbegun
    have hbooted := hside.resolve_left (Nat.not_le.mpr (Nat.lt_of_succ_lt hbegun))
    refine (h.sessionFate hbooted).step h.firm hstep fun phase ht => ?_
    by_cases heq : id = chain + 1
    · subst heq
      exact hsession phase ht
    · exact .inl ⟨phase, (hturns.others heq).trans ht⟩
  case untold =>
    intro hle n hn htold
    rcases hturns.told hn htold with hold | ⟨-, target, ht⟩ | ⟨-, phase, ht⟩
    · exact h.untold (Nat.le_trans hcontinues.nextTask_le hle) n hn hold
    · exact Nat.not_lt.mpr hle ((h.chainTask id target ht).1 ▸ hlt)
    · obtain ⟨rfl, -⟩ := h.sessionTask id phase ht
      exact Nat.not_lt.mpr hle (Nat.lt_of_succ_lt hlt)
  case conducts => exact hcontinues.config ▸ hconducts

/-! ## The boot chain -/

theorem despair {u : Handle} {e : StartError} (h : s.Booting chain)
    (ht : s.tasks[id]? = some (.bootChain (some u)))
    (hfailed : outcomeAfter? s.journal u.unit = some (.error e))
    (hside : (s.rescued.heed id s.toSupervisor.rescue.1).nextTask ≤ chain ∨ chain + 1 < s.nextTask)
    (hfresh : FreshNumbers (s.rescued.heed id s.toSupervisor.rescue.1).journal) :
    (s.rescued.heed id s.toSupervisor.rescue.1).Booting chain := by
  have hturns : s.Turns id (s.rescued.heed id s.toSupervisor.rescue.1) := .despair ht hfailed
  have hstep : Step (.poll id) s _ := .turn hturns
  obtain ⟨rfl, hnew, hunit⟩ := h.chainTask id _ ht
  rw [hunit u rfl] at hfailed
  have hrescues := s.toSupervisor.rescues
  refine h.turn hturns hside hfresh (fun ticket ht' => ?_) (fun _ _ => ?_) (fun phase ht' => ?_) ?_
  · rcases s.rescued.tasks_heed id s.toSupervisor.rescue.1 with heq | ⟨state, deadline, heq⟩
    · rw [heq, getElem?_erase_task, if_pos rfl] at ht'
      cases ht'
    · rw [heq, getElem?_insert_task, if_pos rfl] at ht'
      cases ht'
  · have htried : ShellTried s.config.rescue s.rescued.journal := hrescues.tried
    rw [← hstep.continues.config] at htried hfailed
    exact .inr (.inr ⟨htried.mono (gains_heed _ _ _).suffix, e, h.firm.outcome hstep hfailed⟩)
  · cases ht.symm.trans ht'
  · have hrescued := hrescues.conducts rfl h.conducts ⟨hnew, e, hfailed⟩
    refine conducts_heed (s := s.rescued) hrescued fun o ho hwish => ?_
    exact (ho ▸ hrescues).ended_of_wish hwish

/-! ## The session -/

theorem enterSession (h : s.Booting chain) (ht : s.tasks[id]? = some (.session (.awaiting [])))
    (hside : (s.opened id).nextTask ≤ chain ∨ chain + 1 < s.nextTask)
    (hfresh : FreshNumbers (s.opened id).journal) : (s.opened id).Booting chain := by
  have hconfig := (s.continues_opened id).config
  obtain ⟨rfl, hnew, ready, hunits, hready⟩ := h.sessionTask id _ ht
  have hfits : Fits s.config chain s.journal (.notice .sessionStarting) := by
    refine ⟨hnew, fun unit hunit => hready unit ?_⟩
    rwa [hunits, List.map_nil, List.append_nil] at hunit
  refine h.turn (.enterSession ht) hside hfresh (fun ticket ht' => ⟨rfl, ?_⟩) (fun _ ht' => ?_)
    (fun _ _ => .inr (.inl ?_)) (conducts_opened h.conducts hfits)
  · exact s.sessionAt_opened (chain + 1) ticket ht'
  · cases ht.symm.trans ht'
  · exact hconfig.symm ▸ s.tried_opened (chain + 1)

/-- Whoever waits for the session goes on when its process has been collected. -/
theorem demand {t : Task} {cause : PowerCause} {state : PowerState} (h : s.Booting chain)
    (ht : s.tasks[id]? = some t) (hdemands : s.Demands t cause state)
    (hside : (s.demand id cause state).nextTask ≤ chain ∨ chain + 1 < s.nextTask)
    (hfresh : FreshNumbers (s.demand id cause state).journal) :
    (s.demand id cause state).Booting chain := by
  have hturns : s.Turns id (s.demand id cause state) := .demand ht hdemands
  have hself : (s.demand id cause state).tasks[id]? = _ := tasks_suspend_self _ id _
  refine h.turn hturns hside hfresh (fun ticket ht' => ?_) (fun target ht' => ?_)
    (fun phase ht' => ?_) (conducts_demand h.conducts ?_)
  · cases hself.symm.trans ht'
  · cases ht.symm.trans ht'
    cases hdemands
  · cases ht.symm.trans ht'
    cases hdemands with
    | session =>
      have hcontinues := hturns.continues
      obtain ⟨-, pid, tried, hspawned, hsuffix, -⟩ := h.sessionTask id _ ht
      rw [← hcontinues.config] at hspawned
      exact .inr (.inl (.inl ⟨pid, tried, hspawned, hsuffix.trans hcontinues.journal⟩))
  · cases hdemands with
    | signal => trivial
    | request => exact absurd ht (h.unasked id state)
    | session hsettled =>
      obtain ⟨hid, pid, tried, hspawned, -, hreaps | ⟨hwaits, -⟩⟩ := h.sessionTask id _ ht
      · exact ⟨hid, rfl, .inr ⟨pid, tried, hspawned, hreaps⟩⟩
      · exact absurd hsettled (h.neat.unsettled pid _ hwaits)

theorem stage {state : PowerState} {phase : PowerPhase} {stage : PowerStage} (h : s.Booting chain)
    (ht : s.tasks[id]? = some (.power state phase)) (hdue : phase.Due s.now stage)
    (hside : (s.staged id state stage).nextTask ≤ chain ∨ chain + 1 < s.nextTask)
    (hfresh : FreshNumbers (s.staged id state stage).journal) :
    (s.staged id state stage).Booting chain := by
  refine h.turn (.stage ht hdue) hside hfresh (fun ticket ht' => ?_) (fun target ht' => ?_)
    (fun phase ht' => ?_) (((s.gains_staged id state stage).mono ?_).conducts h.conducts)
  · rcases s.tasks_staged id state stage with ⟨deadline, next, heq⟩ | heq
    · rw [heq, getElem?_insert_task, if_pos rfl] at ht'
      cases ht'
    · rw [heq, getElem?_erase_task, if_pos rfl] at ht'
      cases ht'
  · cases ht.symm.trans ht'
  · cases ht.symm.trans ht'
  · rintro e (he | he)
    · exact not_turn_of_mute he
    · exact not_turn_of_final he

/-! ## Steps -/

theorem step [PlainSetup σ] (h : s.Booting chain) (hstep : Step m s s') (hm : m.IsAmbient)
    (hside : s'.nextTask ≤ chain ∨ chain + 1 < s.nextTask) (hfresh : FreshNumbers s'.journal) :
    s'.Booting chain := by
  by_cases hturn : ∃ id, m = .poll id ∧ s.Turns id s'
  · obtain ⟨id, -, hturns⟩ := hturn
    cases hturns with
    | despair ht hfailed => exact h.despair ht hfailed hside hfresh
    | enterSession ht => exact h.enterSession ht hside hfresh
    | demand ht hdemands => exact h.demand ht hdemands hside hfresh
    | stage ht hdue => exact h.stage ht hdue hside hfresh
  · exact h.calm hstep (fun id hpoll hturns => hturn ⟨id, hpoll, hturns⟩) hm hside hfresh

theorem steps [PlainSetup σ] (h : s.Booting chain) (hsteps : Steps m s s') (hm : m.IsAmbient)
    (hside : s'.nextTask ≤ chain ∨ chain + 1 < s.nextTask) (hfresh : FreshNumbers s'.journal) :
    s'.Booting chain := by
  induction hsteps with
  | refl => exact h
  | tail hsteps hstep ih =>
    have hcontinues := hstep.continues
    have hbefore := ih (hside.imp_left (Nat.le_trans hcontinues.nextTask_le))
      (hfresh.mono hcontinues.journal)
    refine hbefore.step hstep hm (hside.imp_right fun hbooted => ?_) hfresh
    exact Nat.lt_of_lt_of_le hbooted (Steps.continues hsteps).nextTask_le

/-! ## The course of a boot -/

/-- The boot begins. -/
theorem boot (h : s.Booting s.nextTask) : s.boot.Booting s.nextTask := by
  have hcases {id : TaskId} {t : Task} (ht : s.boot.tasks[id]? = some t) :
      (s.nextTask + 1 = id ∧ Task.session .fresh = t) ∨
        (s.nextTask = id ∧ Task.bootChain none = t) ∨ s.tasks[id]? = some t :=
    (getElem?_insert_cases ht).imp_right getElem?_insert_cases
  have huntold {n : Notice} (hn : n.IsTrial) : ¬ Told n s.boot.journal := by
    have hgains : Gains (fun e => ¬ e.IsTurn) s.journal s.boot.journal := .cons id _
    exact fun htold => (hgains.told htold).elim (h.untold (Nat.le_refl _) n hn) fun hne => hne hn
  constructor
  case firm =>
    have hsteps := s.steps_boot
    generalize s.boot = s' at hsteps
    induction hsteps with
    | refl => exact h.firm
    | tail _ hstep ih => exact ih.step hstep
  case neat => exact h.neat
  case chainTask =>
    intro id target ht
    rcases hcases ht with ⟨-, heq⟩ | ⟨hid, heq⟩ | hold
    · cases heq
    · cases heq
      exact ⟨hid.symm, huntold trivial, fun _ hu => absurd hu (Option.not_mem_none _)⟩
    · have hlt := h.firm.id_lt id _ hold
      exact absurd (h.chainTask id target hold).1 (Nat.ne_of_lt hlt)
  case sessionTask =>
    intro id phase ht
    rcases hcases ht with ⟨hid, heq⟩ | ⟨-, heq⟩ | hold
    · cases heq
      exact ⟨hid.symm, huntold trivial⟩
    · cases heq
    · have hlt := h.firm.id_lt id _ hold
      exact absurd (h.sessionTask id phase hold).1 (Nat.ne_of_lt (Nat.lt_succ_of_lt hlt))
  case unasked =>
    intro id state ht
    rcases hcases ht with ⟨-, heq⟩ | ⟨-, heq⟩ | hold
    · cases heq
    · cases heq
    · exact h.unasked id state hold
  case chainFate =>
    refine fun _ => .inl ⟨none, ?_⟩
    change ((s.tasks.insert s.nextTask _).insert (s.nextTask + 1) _)[s.nextTask]? = _
    rw [getElem?_insert_task, if_neg (Nat.succ_ne_self _), getElem?_insert_task, if_pos rfl]
  case sessionFate => exact fun _ => .inl ⟨.fresh, ExtTreeMap.getElem?_insert_self⟩
  case untold => exact fun hle => absurd hle (Nat.not_le.mpr (Nat.lt_of_succ_lt (Nat.lt_succ_self _)))
  case conducts => exact ⟨trivial, h.conducts⟩

theorem run [PlainSetup σ] {s₀ : Init σ} {moves : List (Move σ)} (h : s.Booting chain)
    (hs : Leads s₀ .idle s) (hmoves : ∀ m ∈ moves, m.IsAmbient)
    (hside : (s.run moves).nextTask ≤ chain ∨ chain + 1 < s.nextTask)
    (hfresh : FreshNumbers (s.run moves).journal) : (s.run moves).Booting chain := by
  induction moves generalizing s with
  | nil => exact h
  | cons m moves ih =>
    obtain ⟨hm, hmoves⟩ := List.forall_mem_cons.mp hmoves
    have hsteps := hs.steps m
    have hrest := (hs.perform m).continues moves
    have hmoved := h.steps hsteps hm (hside.imp_left (Nat.le_trans hrest.nextTask_le))
      (hfresh.mono hrest.journal)
    refine ih hmoved (hs.perform m) hmoves (hside.imp_right fun hbooted => ?_) hfresh
    exact Nat.lt_of_lt_of_le hbooted (Steps.continues hsteps).nextTask_le

end Booting

omit [Platform σ] in
theorem booting_fresh {config : Config} {graph : Graph} {machine : σ} {notices : List Notice}
    (hnotices : ∀ n ∈ notices, n.IsPreparatory) (chain : TaskId) :
    (fresh config graph machine notices).Booting chain := by
  let s := fresh config graph machine notices
  have htasks (id : TaskId) : s.tasks[id]? = none := by
    simp [s, fresh, Init.new]
  have hgains : Gains (fun e => ¬ e.IsTurn) [] s.journal :=
    gains_fresh (fun n hn => not_turn_of_preparatory (hnotices n hn)) fun _ => id
  constructor
  case firm => exact firm_fresh config graph machine notices
  case neat => exact .empty
  case chainTask => exact fun id target ht => by cases (htasks id).symm.trans ht
  case sessionTask => exact fun id phase ht => by cases (htasks id).symm.trans ht
  case unasked => exact fun id state ht => by cases (htasks id).symm.trans ht
  case chainFate => exact fun hlt => absurd hlt (Nat.not_lt_zero _)
  case sessionFate => exact fun hlt => absurd hlt (Nat.not_lt_zero _)
  case untold =>
    intro _ n hn htold
    rcases hgains.told htold with ⟨r, hr, -⟩ | hne
    · exact List.not_mem_nil hr
    · exact hne hn
  case conducts => exact hgains.conducts trivial

end InitDaemon.Init
