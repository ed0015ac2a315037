import InitDaemon.Proofs.Init.OtherPolls
import InitDaemon.Simulation.Script

/-!
# Runs

Whatever happens to an init is a move: a task is polled, time passes, a signal is raised or
delivered, alarms ring, or something is asked of the init from outside. Moves come in any order, a
task may be polled at any time, and between two moves the machine may change at will. In every
state that a run leads to everything fits.
-/

namespace InitDaemon.Init

open Std InitDaemon.Units InitDaemon.Journal

variable {σ : Type}

inductive Move (σ : Type)
  | poll (id : TaskId)
  | pass (time : Nat)
  /-- The machine does something of its own. -/
  | change (machine : σ)
  | raise (signal : Signal)
  | deliver
  | ring
  | takeBack
  | request (unit : String) (chain : List String)
  | boot
  | watch
  | supervise (childEvents : Bool)
  | power (state : PowerState)
  | powerStage (state : PowerState) (grace : Nat) (stage : PowerStage)
  | stopRestarts
  | rescue
  | spawn (command : String)
  | spawnAndReport (command : String)
  | launch (unit : String) (u : UnitDef)
  | release (pid : Pid)
  | tick (clock : Nat)

variable [Platform σ]

/-- Starts a process, and writes its end into the journal when it comes. -/
def spawnAndReport (s : Init σ) (command : String) : Init σ :=
  match s.spawnAndAwait command with
  | (.ok c, s) => s.addTask (.report c)
  | (.error _, s) => s

def perform (s : Init σ) : Move σ → Init σ
  | .poll id => s.pollQueued id
  | .pass time => s.passTo time
  | .change machine => { s with toWorld := { s.toWorld with machine := machine } }
  | .raise signal => s.raise signal
  | .deliver => s.deliverRaised
  | .ring => s.ring
  | .takeBack => s.takeBack
  | .request unit chain => (s.request unit chain).2
  | .boot => s.boot
  | .watch => s.watchSignals
  | .supervise childEvents =>
    s.addTask (.reap (if childEvents then some false else none) .fresh)
  | .power state => s.addTask (.power state .fresh)
  | .powerStage state grace stage => (s.inWorld (World.powerStage state grace stage)).2
  | .stopRestarts => { s with toSupervisor := s.toSupervisor.stopRestarts }
  | .rescue => s.runRescue.2
  | .spawn command => (s.inTable (Supervisor.spawn command)).2
  | .spawnAndReport command => s.spawnAndReport command
  | .launch unit u => (s.inTable (Supervisor.launchService unit u)).2
  | .release pid => (s.inTable fun sup => ((), sup.release pid)).2
  | .tick clock => (s.inTable (Supervisor.tick clock)).2

def run (s : Init σ) (moves : List (Move σ)) : Init σ :=
  moves.foldl perform s

omit [Platform σ] in
/-- An init on a machine that nothing has been done with but the loading of the graph. -/
def fresh (config : Config) (graph : Graph) (machine : σ) (notices : List Notice) : Init σ :=
  .new config graph (notices.foldl World.say { machine := machine })

def Reaches (s s' : Init σ) : Prop :=
  ∃ moves, s' = s.run moves

variable {s₀ s s' : Init σ} {f : Focus} {id : TaskId}

theorem run_append (s : Init σ) (moves moves' : List (Move σ)) :
    s.run (moves ++ moves') = (s.run moves).run moves' :=
  List.foldl_append

theorem Reaches.move (h : s.Reaches s') (move : Move σ) : s.Reaches (s'.perform move) := by
  obtain ⟨moves, rfl⟩ := h
  exact ⟨moves ++ [move], by rw [run_append]; rfl⟩

/-! ## Signals and alarms -/

section

omit [Platform σ]

theorem mark_eq_start {signal : Signal} {t : Task} {unit : String} {chain : List String}
    {phase : StartPhase} : mark signal t = .start unit chain phase ↔
      t = .start unit chain phase := by
  unfold mark
  split <;> simp

theorem handles_mark (signal : Signal) (t : Task) : (mark signal t).handles = t.handles := by
  unfold mark
  split <;> rfl

theorem quiet_mark (signal : Signal) (hs : s.Workflow f) :
    s.Quiet { s with tasks := s.tasks.map fun _ t => mark signal t } where
  table := .refl _
  readiness := rfl
  cycles := rfl
  nextTask_le := Nat.le_refl _
  starts id unit chain phase := by
    change (s.tasks.map _)[id]? = _ ↔ _
    rw [ExtTreeMap.getElem?_map]
    cases s.tasks[id]? with
    | none => simp
    | some t => simpa using mark_eq_start
  tasks id t ht := by
    change (s.tasks.map _)[id]? = _ at ht
    rw [ExtTreeMap.getElem?_map, Option.map_eq_some_iff] at ht
    obtain ⟨t', ht', rfl⟩ := ht
    rw [handles_mark]
    exact .inr ⟨hs.id_lt id t' ht', hs.handles id t' ht'⟩
  runnable _ hrun := hrun
  alarms _ _ _ _ ha := .inl ha
  tickets _ _ _ _ _ _ _ ht := .inl ht

theorem quiet_raised (raised : List Signal) : s.Quiet { s with raised := raised } where
  toBeside := .of_eq rfl rfl rfl rfl rfl rfl
  table := .refl _
  readiness := rfl
  cycles := rfl

theorem quiet_takeBack : s.Quiet s.takeBack where
  table := .refl _
  readiness := rfl
  cycles := rfl
  nextTask_le := Nat.le_refl _
  starts _ _ _ _ := .rfl
  tasks _ _ ht := .inl ht
  runnable id hrun := by
    refine .inl (List.mem_append.mpr (hrun.imp_right fun hd => ?_))
    exact List.mem_reverse.mpr hd
  alarms _ _ _ _ ha := .inl ha
  tickets _ _ _ _ _ _ _ ht := .inl ht

theorem quiet_ring : s.Quiet s.ring := by
  have hring : s.ring = ({ s with
      alarms := (s.alarms.partition (·.deadline ≤ s.now)).2 } : Init σ).wakeAll
        (((s.alarms.partition (·.deadline ≤ s.now)).1.mergeSort
          fun a b => a.deadline ≤ b.deadline).map Alarm.task) := rfl
  obtain ⟨queue, heq, hold, hwoken⟩ := wakeAll_eq
    ({ s with alarms := (s.alarms.partition (·.deadline ≤ s.now)).2 } : Init σ)
    (((s.alarms.partition (·.deadline ≤ s.now)).1.mergeSort
      fun a b => a.deadline ≤ b.deadline).map Alarm.task)
  rw [hring, heq]
  refine {
    table := .refl _, readiness := rfl, cycles := rfl, nextTask_le := Nat.le_refl _
    starts := fun _ _ _ _ => .rfl
    tasks := fun _ _ ht => .inl ht
    runnable := fun id hrun => hrun.imp_left (hold id)
    alarms := ?_
    tickets := fun _ _ _ _ _ _ _ ht => .inl ht }
  intro id unit deadline _ ha
  by_cases hdue : deadline ≤ s.now
  · refine .inr ⟨hdue, hwoken id (List.mem_map.mpr ⟨⟨deadline, id⟩, ?_, rfl⟩)⟩
    simpa [List.partition_eq_filter_filter] using ⟨ha, hdue⟩
  · refine .inl ?_
    change _ ∈ (s.alarms.partition _).2
    simpa [List.partition_eq_filter_filter] using ⟨ha, Nat.lt_of_not_le hdue⟩

theorem Leads.deliver (hs : Leads s₀ f s) (signal : Signal) : Leads s₀ f (s.deliver signal) :=
  (hs.quiet (quiet_mark signal hs.workflow)).quiet (quiet_wakeAll _)

theorem Leads.deliverRaised (hs : Leads s₀ f s) : Leads s₀ f s.deliverRaised :=
  deliverRaised_induction (hs.quiet (quiet_raised [])) fun _ signal h => h.deliver signal

end

/-! ## Moves -/

theorem Leads.spawnAndReport (hs : Leads s₀ f s) (command : String) :
    Leads s₀ f (s.spawnAndReport command) := by
  have hspawned := hs.spawnAndAwait command
  rw [Init.spawnAndReport]
  split
  next heq => exact (hspawned.of_eq heq).addTask trivial (List.forall_mem_nil _)
  next heq => exact hspawned.of_eq heq

theorem Leads.perform (hs : Leads s₀ .idle s) (move : Move σ) :
    Leads s₀ .idle (s.perform move) := by
  cases move with
  | poll id => exact hs.pollQueued id
  | pass time => exact hs.quiet (quiet_world (World.grows_of_eq (Nat.le_max_left ..) rfl))
  | change machine => exact hs.quiet (quiet_world (World.grows_machine _ machine))
  | raise signal => exact hs.quiet (quiet_raised _)
  | deliver => exact hs.deliverRaised
  | ring => exact hs.quiet quiet_ring
  | takeBack => exact hs.quiet quiet_takeBack
  | request unit chain => exact hs.request unit chain
  | boot =>
    have hchain : Leads s₀ .idle ((s.say .booting).addTask (.bootChain none)) :=
      (hs.quiet (quiet_say .booting)).addTask trivial (List.forall_mem_nil _)
    exact hchain.addTask trivial (List.forall_mem_nil _)
  | watch => exact hs.addTask trivial (List.forall_mem_nil _)
  | supervise childEvents => exact hs.addTask trivial (List.forall_mem_nil _)
  | power state => exact hs.addTask trivial (List.forall_mem_nil _)
  | powerStage state grace stage =>
    exact hs.quiet (quiet_inWorld (World.grows_powerStage state grace stage _))
  | stopRestarts => exact hs.quiet (quiet_table (Supervisor.grows_stopRestarts _) rfl)
  | rescue => exact hs.runRescue
  | spawn command => exact hs.quiet (quiet_inTable (Supervisor.grows_spawn command _))
  | spawnAndReport command => exact hs.spawnAndReport command
  | launch unit u => exact hs.quiet (quiet_inTable (Supervisor.grows_launchService unit u _))
  | release pid =>
    exact hs.quiet (quiet_inTable (f := fun sup => ((), sup.release pid))
      (Supervisor.grows_release _ pid))
  | tick clock => exact hs.quiet (quiet_inTable (Supervisor.grows_tick clock _))

theorem Leads.reaches (hs : Leads s₀ .idle s) (h : s.Reaches s') : Leads s₀ .idle s' := by
  obtain ⟨moves, rfl⟩ := h
  induction moves generalizing s with
  | nil => exact hs
  | cons move moves ih => exact ih (hs.perform move)

/-! ## The start of a run -/

section

variable (config : Config) (graph : Graph) (machine : σ) (notices : List Notice)

omit [Platform σ]

theorem journal_fresh : ∀ r ∈ (fresh config graph machine notices).journal, r.entry.IsPlain := by
  have hnotices : (World.mk machine 0 []).Grows (notices.foldl World.say ⟨machine, 0, []⟩) :=
    World.grows_foldl_say notices _
  have hcycles := World.grows_foldl_say (graph.findCycles.map Notice.cycleFound)
    (notices.foldl World.say ⟨machine, 0, []⟩)
  rw [List.foldl_map] at hcycles
  obtain ⟨new, hnew, hplain⟩ := (hnotices.trans hcycles).journal
  rw [List.append_nil] at hnew
  exact fun r hr => hplain r (hnew ▸ hr)

theorem minor_fresh : ∀ r ∈ (fresh config graph machine notices).journal, IsMinor r :=
  fun r hr => isMinor_of_isPlain (journal_fresh config graph machine notices r hr)

theorem outcome?_fresh (unit : String) :
    (fresh config graph machine notices).outcome? unit = none :=
  Readiness.outcomeOf?_eq_none (by simp [fresh, Init.new])

theorem ledger_fresh : (fresh config graph machine notices).Ledger where
  consistent := Readiness.consistent_empty
  cycles := rfl
  bounded ticket := by
    rintro (hsettled | ⟨pid, hwaits⟩)
    · simp [fresh, Init.new] at hsettled
    · simp [fresh, Init.new] at hwaits
  given h := by
    rintro ⟨r, hr, chain, heq⟩
    have hplain := journal_fresh config graph machine notices r hr
    rw [heq] at hplain
    exact hplain.elim
  outcome unit := by
    have hnone : outcomeAfter? ((fresh config graph machine notices).journal ++ []) unit = none :=
      outcomeAfter?_minor (minor_fresh config graph machine notices)
    rw [List.append_nil] at hnone
    rw [hnone, outcome?_fresh]
  orderly := by
    have horderly : Orderly graph config.settleDelay
        ((fresh config graph machine notices).journal ++ []) :=
      Orderly.minor (fun _ _ _ hsuffix => by simp at hsuffix)
        (minor_fresh config graph machine notices)
    rwa [List.append_nil] at horderly
  begun unit := by
    rintro ⟨r, hr, heq⟩
    have hplain := journal_fresh config graph machine notices r hr
    rw [heq] at hplain
    exact hplain.elim
  acted unit o := by
    rintro ⟨r, hr, heq⟩
    have hplain := journal_fresh config graph machine notices r hr
    rw [heq] at hplain
    exact hplain.elim
  justified unit o ho := by
    rw [outcome?_fresh] at ho
    cases ho

theorem leads_fresh :
    Leads (fresh config graph machine notices) .idle (fresh config graph machine notices) where
  later := .refl _
  ledger := ledger_fresh config graph machine notices
  workflow := by
    have hnone : ∀ id : TaskId, (fresh config graph machine notices).tasks[id]? = none := by
      simp [fresh, Init.new]
    have hstarts : ∀ id unit, ¬ (fresh config graph machine notices).Starts id unit := by
      rintro id unit ⟨chain, phase, ht⟩
      cases (hnone id).symm.trans ht
    exact {
      id_lt := fun id t ht => by cases (hnone id).symm.trans ht
      handles := fun id t ht => by cases (hnone id).symm.trans ht
      pending := fun id unit h => absurd h (hstarts id unit)
      unique := fun id id' unit h _ => absurd h (hstarts id unit)
      exists_start := fun unit hentered _ => by
        obtain ⟨channel, hchannel⟩ := hentered
        simp [fresh, Init.new] at hchannel
      phase := fun id unit chain phase ht => by cases (hnone id).symm.trans ht
      focus := trivial }

end

theorem Reaches.leads {config : Config} {graph : Graph} {machine : σ} {notices : List Notice}
    (h : (fresh config graph machine notices).Reaches s) :
    Leads (fresh config graph machine notices) .idle s :=
  (leads_fresh config graph machine notices).reaches h

/-! ## The policy of the program -/

section

variable {q : Init σ → Prop} (hpoll : ∀ s id, q s → q (s.pollQueued id))

include hpoll

theorem turn_induction (p : Policy) (hs : q s) : q (s.turn p) := by
  have hroot : q (s.pollRoot p) := by
    rw [pollRoot]
    split
    next id _ =>
      split
      · exact hpoll s id hs
      · exact hs
    next => exact hs
  have htasks : ∀ n s, q s → q (s.pollTasks p n) := by
    intro n
    induction n with
    | zero => exact fun _ hs => hs
    | succ n ih =>
      intro s hs
      rw [pollTasks]
      split
      · split
        next id _ => exact ih _ (hpoll s id hs)
        next => exact hs
      · exact hs
  exact htasks turnLength _ hroot

/-- Whatever the policy, the program polls and looks outside, and nothing else. -/
theorem settle_induction (hlook : ∀ s, q s → q s.lookOutside) (p : Policy) (fuel : Nat)
    (hs : q s) : q (s.settle p fuel) := by
  induction fuel generalizing s with
  | zero => exact hs
  | succ fuel ih =>
    rw [Init.settle]
    split
    · exact hs
    · exact ih (hlook _ (turn_induction hpoll p hs))

end

theorem Reaches.settle (p : Policy) (fuel : Nat) (h : s.Reaches s') :
    s.Reaches (s'.settle p fuel) :=
  settle_induction (fun _ id h => h.move (.poll id))
    (fun _ h => ((h.move .deliver).move .ring).move .takeBack) p fuel h

/-! ## A run with two units -/

/-- A unit with nothing to run that depends on a service. -/
def twoUnits : Graph :=
  { disk := (∅ : ExtTreeMap String UnitDef)
      |>.insert "a" { dependencies := .ofList ["b"] }
      |>.insert "b" { start := .command "/sbin/b" } }

/-- The first unit is asked for and waits for the second one, which gets its settle delay. -/
def firstMoves : List (Move Simulation.Script) :=
  [.request "a" [], .poll 0, .poll 1]

def laterMoves : List (Move Simulation.Script) :=
  [.pass 100, .ring, .poll 1, .poll 0]

def freshTwoUnits : Init Simulation.Script :=
  fresh {} twoUnits {} []

theorem first_unit_requested : Requested (freshTwoUnits.run firstMoves).journal ⟨"a", 0⟩ :=
  ⟨⟨0, .requested ⟨"a", 0⟩ []⟩, by decide +kernel, [], rfl⟩

end InitDaemon.Init
