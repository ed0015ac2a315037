import InitDaemon.Proofs.Init.Runs
import InitDaemon.Proofs.Process.Chores
import InitDaemon.Proofs.Process.Deeds

/-!
# Steps

A move is made up of steps, each of which changes one thing. While a task goes on, the place that
it has come to stands in the table of tasks, so that what is left after each step is a state like
any other. What a step finds decided is told from the journal.
-/

namespace InitDaemon

open Std InitDaemon.Units InitDaemon.Journal

def Entry.IsRemark : Entry → Prop
  | .notice n => n.IsRemark
  | .completed .. => True
  | _ => False

/-- The unit's own action has begun. -/
def StartPhase.IsActing : StartPhase → Prop
  | .fresh | .awaiting _ => False
  | _ => True

/-- The time of a stage has come. -/
def PowerPhase.Due (now : Nat) (stage : PowerStage) : PowerPhase → Prop
  | .fresh => False
  | .delayed deadline next | .pausing deadline next => deadline ≤ now ∧ next = stage

namespace Supervisor

variable {σ : Type}

/-- Nothing is restarted from here on. -/
def freeze (s : Supervisor σ) : Supervisor σ :=
  if s.stopping then s else (s.say .restartsStopped).stopRestarts

variable [Platform σ]

/-! ## The rescue shell as the process table sees it -/

def awaitRescue (s : Supervisor σ) (pid : Pid) : Option RescueOutcome × Supervisor σ :=
  match s.toWorld.waitBlocking pid true with
  | (none, w) => (none, { s with toWorld := w })
  | (some r, w) =>
    let s := { s with toWorld := w }.release pid
    match r with
    | .ok status => (some (.ofStatus status), s)
    | .error e => (some .resume, s.say (.rescueWaitFailed e))

def spawnRescue (s : Supervisor σ) : Option RescueOutcome × Supervisor σ :=
  match s.spawn s.config.rescue with
  | (.ok pid, s) => s.awaitRescue pid
  | (.error e, s) => (some .resume, s.say (.rescueSpawnFailed e))

def rescue (s : Supervisor σ) : Option RescueOutcome × Supervisor σ :=
  let (outcome, s) := ((s.say .rescueEntered).say .rescueHelp).spawnRescue
  (outcome, if outcome == some .resume then s.say .bootResumed else s)

theorem errands_awaitRescue (s : Supervisor σ) (pid : Pid) : s.Errands (s.awaitRescue pid).2 := by
  have hwaited : s.Errands { s with toWorld := (s.toWorld.waitBlocking pid true).2 } :=
    .single (.wait s pid)
  rw [awaitRescue]
  split
  next heq =>
    rw [heq] at hwaited
    exact hwaited
  next r w heq =>
    rw [heq] at hwaited
    have hreleased := hwaited.tail (.release { s with toWorld := w } pid)
    cases r with
    | ok status => exact hreleased
    | error e => exact hreleased.tail (.chore (.remark _ trivial))

theorem errands_spawnRescue (s : Supervisor σ) : s.Errands s.spawnRescue.2 := by
  have hspawned : s.Errands (s.spawn s.config.rescue).2 := .single (.chore (.spawn s _))
  rw [spawnRescue]
  split
  next pid t heq => exact (hspawned.of_eq heq).trans (t.errands_awaitRescue pid)
  next heq => exact (hspawned.of_eq heq).tail (.chore (.remark _ trivial))

theorem errands_rescue (s : Supervisor σ) : (s.say .rescueEntered).Errands s.rescue.2 := by
  have hhelped : (s.say .rescueEntered).Errands ((s.say .rescueEntered).say .rescueHelp) :=
    .single (.chore (.remark _ trivial))
  have hspawned := hhelped.trans (errands_spawnRescue _)
  rw [rescue]
  dsimp only
  split
  · exact hspawned.tail (.chore (.remark _ trivial))
  · exact hspawned

end Supervisor

namespace Init

variable {σ : Type}

/-! ## What a task may do -/

/-- A task goes on to a later place, and nothing else happens. -/
inductive Proceeds (s : Init σ) : Task → Task → Prop
  | waits {unit : String} {chain : List String} {u : UnitDef} {handles : List Handle}
    (hu : s.graph.get? unit = some u) (hunits : handles.map Handle.unit = u.dependencies.toList)
    (hentered : ∀ h ∈ handles, s.Entered h.unit) :
    s.Proceeds (.start unit chain .fresh) (.start unit chain (.awaiting handles))
  | passes {unit : String} {chain : List String} {h : Handle} {rest : List Handle}
    (hready : outcomeAfter? s.journal h.unit = some (.ok ())) :
    s.Proceeds (.start unit chain (.awaiting (h :: rest))) (.start unit chain (.awaiting rest))
  | acts {unit : String} {chain : List String} {phase phase' : StartPhase}
    (hbegun : Begun s.journal unit) (hacting : phase'.IsActing) :
    s.Proceeds (.start unit chain phase) (.start unit chain phase')
  | hopes {h : Handle} (hunit : h.unit = s.config.bootTarget) (hentered : s.Entered h.unit) :
    s.Proceeds (.bootChain none) (.bootChain (some h))
  | founds {handles : List Handle} (hunits : handles.map Handle.unit = s.config.foundation)
    (hentered : ∀ h ∈ handles, s.Entered h.unit) :
    s.Proceeds (.session .fresh) (.session (.awaiting handles))
  | finds {h : Handle} {rest : List Handle}
    (hready : outcomeAfter? s.journal h.unit = some (.ok ())) :
    s.Proceeds (.session (.awaiting (h :: rest))) (.session (.awaiting rest))
  | pauses {state : PowerState} {deadline : Nat} {next : PowerStage} :
    s.Proceeds (.power state (.delayed deadline next)) (.power state (.pausing deadline next))
  | looks {childEvent childEvent' : Option Bool} {phase phase' : ReapPhase} :
    s.Proceeds (.reap childEvent phase) (.reap childEvent' phase')

/-- A task ends, and nothing else happens. -/
inductive Leaves (s : Init σ) : Task → Prop
  | reached {h : Handle} (hready : outcomeAfter? s.journal h.unit = some (.ok ())) :
    s.Leaves (.bootChain (some h))
  | refused {h : Handle} {rest : List Handle} {e : StartError}
    (hfailed : outcomeAfter? s.journal h.unit = some (.error e)) :
    s.Leaves (.session (.awaiting (h :: rest)))
  | network (ticket : Ticket) : s.Leaves (.watchNetworkManager ticket)
  | report (c : Completion) : s.Leaves (.report c)

/-- Why a start ends before the unit's own action has begun. -/
inductive Refuses (s : Init σ) (unit : String) : StartPhase → StartError → Prop
  | dependency {h : Handle} {rest : List Handle} {e : StartError}
    (hfailed : outcomeAfter? s.journal h.unit = some (.error e)) :
    s.Refuses unit (.awaiting (h :: rest)) (.dependency unit h.unit e.text)
  | shutdown (hstopping : s.stopping = true) : s.Refuses unit (.awaiting []) (.shuttingDown unit)

/-- Who asks for another power state, apart from those for whom a process did not turn out well. -/
inductive Demands (s : Init σ) : Task → PowerCause → PowerState → Prop
  | signal (terminated interrupted : Bool) (state : PowerState) :
    s.Demands (.watchSignals terminated interrupted) .signal state
  | request (state : PowerState) : s.Demands (.power state .fresh) .request state
  | session {ticket : Ticket} (hsettled : ticket ∈ s.settled) :
    s.Demands (.session (.running ticket)) .session .off

/-- Who asks for a unit, and in which move. -/
inductive Wants (s : Init σ) : Move σ → String → List String → Prop
  | outside (unit : String) (chain : List String) : s.Wants (.request unit chain) unit chain
  | dependency {id : TaskId} {unit d : String} {chain : List String} {u : UnitDef}
    (ht : s.tasks[id]? = some (.start unit chain .fresh)) (hu : s.graph.get? unit = some u)
    (hd : d ∈ u.dependencies) : s.Wants (.poll id) d (unit :: chain)
  | target {id : TaskId} (ht : s.tasks[id]? = some (.bootChain none)) :
    s.Wants (.poll id) s.config.bootTarget []
  | foundation {id : TaskId} {unit : String} (ht : s.tasks[id]? = some (.session .fresh))
    (hunit : unit ∈ s.config.foundation) : s.Wants (.poll id) unit []

/-- Which tasks a move brings in, apart from those that start units. -/
def Move.Adds : Move σ → Task → Prop
  | .poll _, .watchNetworkManager _ => True
  | .boot, .bootChain none => True
  | .boot, .session .fresh => True
  | .watch, .watchSignals false false => True
  | .supervise _, .reap _ .fresh => True
  | .power state, .power state' .fresh => state' = state
  | .spawnAndReport _, .report _ => True
  | _, _ => False

/-- Asks for another power state. The first stage of the shutdown is due at once. -/
def demand (s : Init σ) (id : TaskId) (cause : PowerCause) (state : PowerState) : Init σ :=
  { s with toSupervisor := (s.note (.powerRequested id cause state)).toSupervisor.freeze }.suspend id
    (.power state (.delayed s.now .terminate))

/-- The boot chain goes on after the rescue shell. -/
def heed (s : Init σ) (id : TaskId) : Option RescueOutcome → Init σ
  | none => s.stop id .blocked
  | some .resume => s.endTask id
  | some .reboot => s.demand id .rescue .restart
  | some .powerOff => s.demand id .rescue .off

variable [Platform σ]

/-- The rescue shell has had its run. -/
def rescued (s : Init σ) : Init σ :=
  { s with toSupervisor := s.toSupervisor.rescue.2, suspended := s.toSupervisor.rescue.1.isNone }

/-- The session is tried. -/
def opened (s : Init σ) (id : TaskId) : Init σ :=
  match (s.toSupervisor.say .sessionStarting).spawnAndAwait s.config.session with
  | (.ok c, sup) => { s with toSupervisor := sup }.suspend id (.session (.running c.ticket))
  | (.error e, sup) =>
    (({ s with toSupervisor := sup }.say (.sessionSpawnFailed e)).say .sessionEnded).demand id
      .session .off

/-- A stage of a shutdown is performed. -/
def staged (s : Init σ) (id : TaskId) (state : PowerState) (stage : PowerStage) : Init σ :=
  match s.powerStage id state stage with
  | (.pause delay next, s) => s.suspend id (.power state (.delayed (s.now + delay) next))
  | (.ended r, s) => s.powerEnded id r

/-! ## The steps of a move -/

/-- A task becomes a shutdown or goes on with one, or hands over to the rescue shell or the session.
-/
inductive Turns (s : Init σ) (id : TaskId) : Init σ → Prop
  | despair {h : Handle} {e : StartError} (ht : s.tasks[id]? = some (.bootChain (some h)))
    (hfailed : outcomeAfter? s.journal h.unit = some (.error e)) :
    Turns s id (s.rescued.heed id s.toSupervisor.rescue.1)
  | enterSession (ht : s.tasks[id]? = some (.session (.awaiting []))) : Turns s id (s.opened id)
  | demand {t : Task} {cause : PowerCause} {state : PowerState} (ht : s.tasks[id]? = some t)
    (h : s.Demands t cause state) : Turns s id (s.demand id cause state)
  | stage {state : PowerState} {phase : PowerPhase} {stage : PowerStage}
    (ht : s.tasks[id]? = some (.power state phase)) (hdue : phase.Due s.now stage) :
    Turns s id (s.staged id state stage)

inductive Step : Move σ → Init σ → Init σ → Prop
  /-- The order in which tasks go on. -/
  | arrange (m : Move σ) (s : Init σ) (queue deferred : List TaskId) (alarms : List Alarm)
    (raised : List Signal) :
    Step m s { s with queue := queue, deferred := deferred, alarms := alarms, raised := raised }
  | remark (m : Move σ) (s : Init σ) {e : Entry} (he : e.IsRemark) : Step m s (s.note e)
  | elapse (s : Init σ) (time : Nat) : Step (.pass time) s (s.passTo time)
  | change (s : Init σ) (machine : σ) :
    Step (.change machine) s { s with toWorld := { s.toWorld with machine := machine } }
  | mark (s : Init σ) (signal : Signal) :
    Step .deliver s { s with tasks := s.tasks.map fun _ t => Init.mark signal t }
  | host (s : Init σ) (id : TaskId) (step : HostStep) (hrunning : s.stopping = false) :
    Step (.poll id) s (s.host step).2
  /-- A task that is polled has not come to its end then. -/
  | chore (m : Move σ) (s : Init σ) {sup : Supervisor σ} (h : s.toSupervisor.Chore sup)
    (hthere : ∀ id, m = .poll id → ∃ t, s.tasks[id]? = some t) :
    Step m s { s with toSupervisor := sup }
  | launch (s : Init σ) (unit : String) (u : UnitDef) : Step (.launch unit u) s
      { s with toSupervisor := (s.toSupervisor.launchService unit u).2 }
  | release (s : Init σ) (pid : Pid) :
    Step (.release pid) s { s with toSupervisor := s.toSupervisor.release pid }
  | stopRestarts (s : Init σ) :
    Step .stopRestarts s { s with toSupervisor := s.toSupervisor.stopRestarts }
  | powerStage (s : Init σ) (state : PowerState) (grace : Nat) (stage : PowerStage) :
    Step (.powerStage state grace stage) s
      (s.inWorld (World.powerStage state grace stage)).2
  | rescue (s : Init σ) : Step .rescue s s.rescued
  | add (m : Move σ) (s : Init σ) {t : Task} (h : m.Adds t) : Step m s (s.addTask t)
  | ask {m : Move σ} {s : Init σ} {unit : String} {chain : List String}
    (h : s.Wants m unit chain) : Step m s (s.request unit chain).2
  | proceed {s : Init σ} {id : TaskId} {t t' : Task} (ht : s.tasks[id]? = some t)
    (h : s.Proceeds t t') : Step (.poll id) s (s.suspend id t')
  | leave {s : Init σ} {id : TaskId} {t : Task} (ht : s.tasks[id]? = some t) (h : s.Leaves t) :
    Step (.poll id) s (s.endTask id)
  | refuse {s : Init σ} {id : TaskId} {unit : String} {chain : List String} {phase : StartPhase}
    {e : StartError} (ht : s.tasks[id]? = some (.start unit chain phase))
    (h : s.Refuses unit phase e) : Step (.poll id) s (s.conclude id unit (.error e))
  | begin {s : Init σ} {id : TaskId} {unit : String} {chain : List String}
    (ht : s.tasks[id]? = some (.start unit chain (.awaiting []))) (hrunning : s.stopping = false) :
    Step (.poll id) s (s.note (.began unit))
  | finish {s : Init σ} {id : TaskId} {unit : String} {chain : List String} {phase : StartPhase}
    (ht : s.tasks[id]? = some (.start unit chain phase)) (hbegun : Begun s.journal unit)
    (o : Outcome) : Step (.poll id) s (s.endAction id unit o)
  | turn {s s' : Init σ} {id : TaskId} (h : s.Turns id s') : Step (.poll id) s s'

abbrev Steps (m : Move σ) : Init σ → Init σ → Prop :=
  Relation.ReflTransGen (Step m)

theorem Steps.requeue {m : Move σ} {s s' : Init σ} (h : Steps m s s') (queue : List TaskId) :
    Steps m s { s' with queue := queue } :=
  h.tail (.arrange m s' queue s'.deferred s'.alarms s'.raised)

theorem steps_chores {m : Move σ} {s : Init σ} {sup : Supervisor σ}
    (h : s.toSupervisor.Chores sup) (hthere : ∀ id, m = .poll id → ∃ t, s.tasks[id]? = some t) :
    Steps m s { s with toSupervisor := sup } := by
  induction h with
  | refl => exact .refl
  | tail _ hchore ih => exact ih.tail (.chore m _ hchore hthere)

end Init

end InitDaemon
