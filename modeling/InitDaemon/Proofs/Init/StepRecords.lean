import InitDaemon.Proofs.Init.StepEffects

/-!
# What a step writes

Whatever a step writes into the journal, the state before it has the reason.
-/

namespace InitDaemon

open Std InitDaemon.Units InitDaemon.Journal

/-- Belongs to the shutdown itself. -/
def Entry.IsFinal : Entry → Prop
  | .signalledAll _ | .synced | .rebooted _ | .powerStaged .. => True
  | _ => False

/-- Tells of the rescue shell, the session or a shutdown. -/
def Entry.IsTurn : Entry → Prop
  | .notice n => n.IsTrial
  | .waitedBlocking .. | .powerRequested .. => True
  | _ => False

/-- A setup step of the platform may say it. -/
def SaysInSetup (σ : Type) [Platform σ] (n : Notice) : Prop :=
  ∃ (now : Nat) (step : HostStep) (machine : σ), n ∈ (Platform.host now step machine).1.2

theorem Entry.IsRemark.isMute {e : Entry} (h : e.IsRemark) : e.IsMute := by
  cases e with
  | notice => exact h
  | completed => trivial
  | _ => exact h.elim

namespace Journal

variable {p : Entry → Prop} {journal journal' : List Record} {unit : String} {o : Outcome}

theorem Gains.begun (h : Gains p journal journal') (hunit : Begun journal' unit) :
    Begun journal unit ∨ p (.began unit) := by
  obtain ⟨new, rfl, hnew⟩ := h
  obtain ⟨r, hr, heq⟩ := hunit
  rcases List.mem_append.mp hr with hr | hr
  · exact .inr (heq ▸ hnew r hr)
  · exact .inl ⟨r, hr, heq⟩

theorem eq_of_resolution? {r : Record} (h : resolution? unit r = some o) :
    r.entry = .resolved unit o := by
  rw [resolution?] at h
  split at h
  next heq =>
    split at h
    next hunit => rw [heq, hunit, Option.some.inj h]
    next => cases h
  next => cases h

theorem Gains.outcome (h : Gains p journal journal') (ho : outcomeAfter? journal' unit = some o) :
    outcomeAfter? journal unit = some o ∨ p (.resolved unit o) := by
  obtain ⟨new, rfl, hnew⟩ := h
  induction new with
  | nil => exact .inl ho
  | cons r new ih =>
    rw [List.cons_append, outcomeAfter?_cons] at ho
    cases hr : resolution? unit r with
    | none =>
      rw [hr] at ho
      exact ih (fun r hr => hnew r (List.mem_cons_of_mem _ hr)) ho
    | some o' =>
      rw [hr] at ho
      cases ho
      have heq : r.entry = .resolved unit o := eq_of_resolution? hr
      exact .inr (heq ▸ hnew r List.mem_cons_self)

end Journal

namespace World

variable {σ : Type}

theorem gains_foldl_say {p : Entry → Prop} {notices : List Notice}
    (h : ∀ n ∈ notices, p (.notice n)) (w : World σ) :
    Gains p w.journal (notices.foldl say w).journal := by
  induction notices generalizing w with
  | nil => exact .refl _
  | cons n notices ih =>
    obtain ⟨hn, hnotices⟩ := List.forall_mem_cons.mp h
    exact (Gains.cons (r := ⟨w.now, .notice n⟩) hn _).trans (ih hnotices _)

variable [Platform σ]

theorem gains_host {p : Entry → Prop} (step : HostStep) (w : World σ) (hstep : p (.hosted step))
    (hsaid : ∀ n, SaysInSetup σ n → p (.notice n)) :
    Gains p w.journal (w.host step).2.journal :=
  (Gains.cons (r := ⟨w.now, .hosted step⟩) hstep _).trans
    (gains_foldl_say (fun n hn => hsaid n ⟨w.now, step, w.machine, hn⟩) _)

/-- The shutdown tells of itself alone. -/
theorem gains_powerStage (state : PowerState) (grace : Nat) (stage : PowerStage) (w : World σ) :
    Gains (fun e => e.IsMute ∨ e.IsFinal) w.journal (w.powerStage state grace stage).2.journal := by
  have hlast (w : World σ) :
      Gains (fun e => e.IsMute ∨ e.IsFinal) w.journal (w.lastCalls state).2.journal :=
    ((Gains.cons (.inl trivial) _).trans (.cons (.inr trivial) _)).trans (.cons (.inr trivial) _)
  cases stage with
  | terminate =>
    have hsignalled : Gains (fun e => e.IsMute ∨ e.IsFinal) w.journal
        (w.terminateAll state).2.journal :=
      ((Gains.cons (.inl trivial) _).trans (.cons (.inl trivial) _)).trans (.cons (.inr trivial) _)
    rw [powerStage]
    split
    next heq => rwa [heq] at hsignalled
    next heq =>
      rw [heq] at hsignalled
      exact (hsignalled.trans (.cons (.inl trivial) _)).trans (hlast _)
  | kill => exact (Gains.cons (.inl trivial) _).trans (.cons (.inr trivial) _)
  | finish => exact hlast w

end World

namespace Init

variable {σ : Type} {s s' : Init σ} {m : Move σ}

/-- A task has become a shutdown. -/
def HasRequest (s : Init σ) : Prop :=
  ∃ (id : TaskId) (state : PowerState) (phase : PowerPhase),
    s.tasks[id]? = some (.power state phase) ∧ phase ≠ .fresh

variable [Platform σ]

omit [Platform σ] in
theorem gains_fresh {p : Entry → Prop} {config : Config} {graph : Graph} {machine : σ}
    {notices : List Notice} (hnotices : ∀ n ∈ notices, p (.notice n))
    (hcycles : ∀ cycle, p (.notice (.cycleFound cycle))) :
    Gains p [] (fresh config graph machine notices).journal := by
  have hloaded := World.gains_foldl_say hnotices (⟨machine, 0, []⟩ : World σ)
  have hcycles' : ∀ n ∈ graph.findCycles.map Notice.cycleFound, p (.notice n) :=
    List.forall_mem_map.mpr fun cycle _ => hcycles cycle
  have hfound := World.gains_foldl_say hcycles' (notices.foldl World.say ⟨machine, 0, []⟩)
  rw [List.foldl_map] at hfound
  exact hloaded.trans hfound

/-- What a step from the one state to the other writes, and why. -/
inductive Writes (s s' : Init σ) (m : Move σ) : Entry → Prop
  | mute {e : Entry} (he : e.IsMute) : Writes s s' m e
  | final {e : Entry} (he : e.IsFinal)
    (hstaged : (∃ state grace stage, m = .powerStage state grace stage) ∨ s.HasRequest) :
    Writes s s' m e
  | launch {n : Notice} (hn : n.IsLaunch)
    (hrunning : s.stopping = false ∨ ∃ unit u, m = .launch unit u) : Writes s s' m (.notice n)
  | hosted (step : HostStep) (hrunning : s.stopping = false) : Writes s s' m (.hosted step)
  | setup {n : Notice} (hn : SaysInSetup σ n) (hrunning : s.stopping = false) :
    Writes s s' m (.notice n)
  | request {h : Handle} {chain : List String} (hwants : s.Wants m h.unit chain) :
    Writes s s' m (.requested h chain)
  | reject {unit : String} {chain : List String} {e : StartError} (hwants : s.Wants m unit chain)
    (hnew : ¬ s.Entered unit) (hrejected : s.rejection? unit chain = some e)
    (hentered : s'.Entered unit) : Writes s s' m (.resolved unit (.error e))
  | refuse {id : TaskId} {unit : String} {chain : List String} {phase : StartPhase}
    {e : StartError} (ht : s.tasks[id]? = some (.start unit chain phase))
    (h : s.Refuses unit phase e) (hgone : s'.tasks[id]? = none) :
    Writes s s' m (.resolved unit (.error e))
  | begin {id : TaskId} {unit : String} {chain : List String}
    (ht : s.tasks[id]? = some (.start unit chain (.awaiting []))) (hrunning : s.stopping = false) :
    Writes s s' m (.began unit)
  | act {unit : String} (hbegun : Begun s.journal unit) (o : Outcome) :
    Writes s s' m (.acted unit o)
  | finish {id : TaskId} {unit : String} {chain : List String} {phase : StartPhase}
    (ht : s.tasks[id]? = some (.start unit chain phase)) (hbegun : Begun s.journal unit)
    (o : Outcome) (hgone : s'.tasks[id]? = none) : Writes s s' m (.resolved unit o)
  | rescue {e : Entry} (hm : m = .rescue) (he : e.IsTurn) : Writes s s' m e
  | turn {id : TaskId} {e : Entry} (hm : m = .poll id) (h : s.Turns id s') (he : e.IsTurn) :
    Writes s s' m e

omit [Platform σ] in
theorem entered_request (s : Init σ) (unit : String) (chain : List String) :
    (s.request unit chain).2.Entered unit := by
  rcases s.request_cases unit chain with ⟨hold, h, -, heq⟩ | ⟨-, e, -, heq⟩ | ⟨-, -, heq⟩
  · exact heq ▸ hold
  · exact heq ▸ (entered_entering unit chain (some (.error e)) unit).mpr (.inl rfl)
  · exact heq ▸ (entered_entering unit chain none unit).mpr (.inl rfl)

theorem gains_request {unit : String} {chain : List String} (h : s.Wants m unit chain) :
    Gains (s.Writes (s.request unit chain).2 m) s.journal (s.request unit chain).2.journal := by
  have hentered := s.entered_request unit chain
  rcases s.request_cases unit chain with ⟨-, handle, hunit, heq⟩ | ⟨hnew, e, hrejected, heq⟩ |
    ⟨-, -, heq⟩
  · rw [heq]
    exact .cons (.request (hunit.symm ▸ h)) _
  · rw [heq]
    exact ((Gains.cons (.request h) _).trans (.cons (.reject h hnew hrejected (heq ▸ hentered)) _)).trans
      (.cons (.mute trivial) _)
  · rw [heq]
    exact .cons (.request h) _

omit [Platform σ] in
theorem gains_conclude {p : Entry → Prop} {id : TaskId} {unit : String} {o : Outcome}
    (hremark : ∀ e : Entry, e.IsRemark → p e) (hresolved : p (.resolved unit o)) :
    Gains p s.journal (s.conclude id unit o).journal := by
  obtain ⟨new, readiness, queue, heq, -, hnew⟩ := s.conclude_eq id unit o
  rw [heq]
  exact ⟨new, rfl, fun r hr => (hnew r hr).elim (hremark _) fun heq => heq ▸ hresolved⟩

omit [Platform σ] in
theorem gains_freeze (sup : Supervisor σ) : Gains Entry.IsMute sup.journal sup.freeze.journal := by
  rw [Supervisor.freeze]
  split
  · exact .refl _
  · exact .cons trivial _

omit [Platform σ] in
theorem gains_demand (s : Init σ) (id : TaskId) (cause : PowerCause) (state : PowerState) :
    Gains (fun e => e.IsMute ∨ e = .powerRequested id cause state) s.journal
      (s.demand id cause state).journal := by
  have hnoted : Gains (fun e => e.IsMute ∨ e = .powerRequested id cause state) s.journal
      (s.note (.powerRequested id cause state)).journal := .cons (.inr rfl) _
  exact hnoted.trans ((gains_freeze _).mono fun _ => .inl)

theorem gains_rescued (s : Init σ) :
    Gains (fun e => s.toSupervisor.Tells e ∨ e = .notice .rescueEntered ∨
      ∃ pid, e = .waitedBlocking pid true) s.journal s.rescued.journal :=
  (Gains.cons (.inr (.inl rfl)) _).trans
    ((Supervisor.Errands.gains s.toSupervisor.errands_rescue).mono fun _ => .imp_right .inr)

omit [Platform σ] in
theorem gains_heed (s : Init σ) (id : TaskId) (outcome : Option RescueOutcome) :
    Gains (fun e => e.IsMute ∨ ∃ state, e = .powerRequested id .rescue state) s.journal
      (s.heed id outcome).journal := by
  rcases outcome with _ | _ | _ | _
  · exact .refl _
  · exact .refl _
  · exact (s.gains_demand id .rescue .restart).mono fun _ => .imp_right fun he => ⟨_, he⟩
  · exact (s.gains_demand id .rescue .off).mono fun _ => .imp_right fun he => ⟨_, he⟩

theorem gains_opened (s : Init σ) (id : TaskId) :
    Gains (fun e => s.toSupervisor.Tells e ∨ e = .notice .sessionStarting ∨
      e = .powerRequested id .session .off) s.journal (s.opened id).journal := by
  have hspawned := Supervisor.Chore.gains
    (.spawnAndAwait (s.toSupervisor.say .sessionStarting) s.config.session)
  have hopened : Gains (fun e => s.toSupervisor.Tells e ∨ e = .notice .sessionStarting ∨
      e = .powerRequested id .session .off) s.journal
        ((s.toSupervisor.say .sessionStarting).spawnAndAwait s.config.session).2.journal :=
    (Gains.cons (.inr (.inl rfl)) _).trans (hspawned.mono fun _ => .inl)
  rw [opened]
  split
  next heq => rwa [heq] at hopened
  next e sup heq =>
    rw [heq] at hopened
    let s₁ : Init σ := ({ s with toSupervisor := sup }.say (.sessionSpawnFailed e)).say .sessionEnded
    have hended : Gains _ s.journal s₁.journal :=
      (hopened.trans (.cons (.inl (.inl trivial)) _)).trans (.cons (.inl (.inl trivial)) _)
    refine hended.trans ((gains_demand s₁ id .session .off).mono ?_)
    rintro e (he | rfl)
    · exact .inl (.inl he)
    · exact .inr (.inr rfl)

theorem gains_staged (s : Init σ) (id : TaskId) (state : PowerState) (stage : PowerStage) :
    Gains (fun e => e.IsMute ∨ e.IsFinal) s.journal (s.staged id state stage).journal := by
  have hstaged : Gains (fun e => e.IsMute ∨ e.IsFinal) s.journal
      (s.powerStage id state stage).2.journal :=
    (Gains.cons (.inr trivial) _).trans (World.gains_powerStage state _ stage _)
  rw [staged]
  split
  next heq => rwa [heq] at hstaged
  next r s₁ heq =>
    rw [heq] at hstaged
    cases r with
    | ok => exact hstaged
    | error e => exact hstaged.trans (.cons (.inl trivial) _)

/-- Whether a shutdown has begun or not. -/
theorem gains_launch (unit : String) (u : UnitDef) (sup : Supervisor σ) :
    Gains (fun e => e.IsMute ∨ ∃ n, e = .notice n ∧ n.IsLaunch) sup.journal
      (sup.launchService unit u).2.journal := by
  rw [Supervisor.launchService]
  split
  next => exact .cons (.inr ⟨_, rfl, trivial⟩) _
  next command _ =>
    have hspawned : Gains (fun e => e.IsMute ∨ ∃ n, e = .notice n ∧ n.IsLaunch) sup.journal
        (sup.spawn command).2.journal := (Supervisor.gains_spawn command sup).mono fun _ => .inl
    split
    next heq =>
      rw [heq] at hspawned
      exact hspawned.trans (.cons (.inr ⟨_, rfl, trivial⟩) _)
    next heq => rwa [heq] at hspawned

theorem Turns.gains {id : TaskId} (h : s.Turns id s') :
    Gains (fun e => s.toSupervisor.Tells e ∨ e.IsFinal ∧ s.HasRequest ∨ e.IsTurn)
      s.journal s'.journal := by
  have hdemanded (cause : PowerCause) (state : PowerState) (e : Entry)
      (he : e.IsMute ∨ e = .powerRequested id cause state) :
      s.toSupervisor.Tells e ∨ e.IsFinal ∧ s.HasRequest ∨ e.IsTurn := by
    rcases he with he | rfl
    · exact .inl (.inl he)
    · exact .inr (.inr trivial)
  cases h with
  | despair ht hfailed =>
    refine (s.gains_rescued.mono ?_).trans ((gains_heed _ _ _).mono ?_)
    · rintro e (he | rfl | ⟨pid, rfl⟩)
      · exact .inl he
      · exact .inr (.inr trivial)
      · exact .inr (.inr trivial)
    · rintro e (he | ⟨state, rfl⟩)
      · exact .inl (.inl he)
      · exact .inr (.inr trivial)
  | enterSession ht =>
    refine (s.gains_opened id).mono ?_
    rintro e (he | rfl | rfl)
    · exact .inl he
    · exact .inr (.inr trivial)
    · exact .inr (.inr trivial)
  | demand => exact (s.gains_demand id _ _).mono (hdemanded _ _)
  | @stage state phase _ ht hdue =>
    have hphase : phase ≠ .fresh := by
      rintro rfl
      exact hdue
    refine (s.gains_staged id _ _).mono ?_
    rintro e (he | he)
    · exact .inl (.inl he)
    · exact .inr (.inl ⟨he, id, state, phase, ht, hphase⟩)

theorem Step.gains (h : Step m s s') : Gains (s.Writes s' m) s.journal s'.journal := by
  have hremark : ∀ e : Entry, e.IsRemark → s.Writes s' m e := fun _ he => .mute he.isMute
  have htells : ∀ e : Entry, s.toSupervisor.Tells e → s.Writes s' m e := by
    rintro e (he | ⟨hrunning, n, rfl, hn⟩)
    · exact .mute he
    · exact .launch hn (.inl hrunning)
  have hgone (s : Init σ) (id : TaskId) (unit : String) (o : Outcome) :
      (s.conclude id unit o).tasks[id]? = none := by
    rw [tasks_conclude, getElem?_erase_task, if_pos rfl]
  cases h with
  | arrange | elapse | change | mark | stopRestarts | add | proceed | leave => exact .refl _
  | remark _ _ he => exact .cons (hremark _ he) _
  | host _ id step hrunning =>
    exact World.gains_host step s.toWorld (.hosted step hrunning) fun n hn => .setup hn hrunning
  | chore _ _ hchore => exact hchore.gains.mono htells
  | launch _ unit u =>
    refine (gains_launch unit u s.toSupervisor).mono ?_
    rintro e (he | ⟨n, rfl, hn⟩)
    · exact .mute he
    · exact .launch hn (.inr ⟨unit, u, rfl⟩)
  | release _ pid =>
    dsimp only
    rw [Supervisor.journal_release]
    exact .refl _
  | powerStage _ state grace stage =>
    refine (World.gains_powerStage ..).mono fun e he => he.elim .mute fun he => ?_
    exact .final he (.inl ⟨state, grace, stage, rfl⟩)
  | rescue =>
    refine s.gains_rescued.mono ?_
    rintro e (he | rfl | ⟨pid, rfl⟩)
    · exact htells e he
    · exact .rescue rfl trivial
    · exact .rescue rfl trivial
  | ask hwants => exact gains_request hwants
  | refuse ht h => exact gains_conclude hremark (.refuse ht h (hgone _ _ _ _))
  | begin ht hrunning => exact .cons (.begin ht hrunning) _
  | finish ht hbegun o =>
    exact (Gains.cons (.act hbegun o) _).trans
      (gains_conclude hremark (.finish ht hbegun o (hgone _ _ _ _)))
  | turn h =>
    refine h.gains.mono ?_
    rintro e (he | ⟨he, hrequest⟩ | he)
    · exact htells e he
    · exact .final he (.inr hrequest)
    · exact .turn rfl h he

end Init

end InitDaemon
