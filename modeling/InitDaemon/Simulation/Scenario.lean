import InitDaemon.Init.Poll
import InitDaemon.Simulation.Script
import InitDaemon.Units.Directory

/-!
# Scenarios

A scenario is a list of steps from outside on an init over a scripted platform. After a step every
task runs until all have to wait, unless the step is held; the clock moves only in steps that wait
themselves, and then from one sleeping task to the next.
-/

namespace InitDaemon.Simulation

open Std InitDaemon.Units

inductive Step
  | start (unit : String) (chain : List String)
  | wait (unit : String) (chain : List String) (limit : Nat)
  | outcome (unit : String)
  | advance (delay : Nat)
  | spawn (command : String)
  | spawnAwait (command : String)
  /-- The definition is taken from the graph if none is given. -/
  | launch (unit : String) (definition : Option UnitDef)
  | launchAndSettle (unit : String) (definition : Option UnitDef)
  | endOf (pid : Pid) (status : ExitStatus) (delay : Nat)
  | endOfLatest (program : String) (status : ExitStatus) (delay : Nat)
  | failWait (errno : Errno)
  | release (pid : Pid)
  | stopRestarts
  | tick (clock : Option Nat)
  | pidOf (unit : String)
  | display (pid : Pid)
  | pending (unit : String)
  | state
  | supervise (childEvents : Bool)
  | boot
  | watch
  | signal (signal : Signal)
  | rescue
  | power (state : PowerState)
  | requestPowerState (state : PowerState) (grace : Nat)

inductive Answer
  | nothing
  | done
  | outcome (o : Option Outcome)
  | waited (elapsed : Nat) (o : Outcome)
  | timeout
  | unrequested
  | number (n : Int)
  | name (s : String)
  | spawnFailed (e : SpawnError)
  | neverSpawned
  | noSuchUnit
  | ticked (t : Tick)
  | state (running : Nat) (stopping suspended : Bool) (env : List String)
  | notWatching
  | rescued (o : RescueOutcome)
  | powered (r : Except Errno Unit)

structure Scenario where
  init : Init Script
  handles : ExtTreeMap String Handle := ∅
  watching : Bool := false

namespace Scenario

/-- Tasks go on after a halt: only the task that halts the init is gone. -/
def policy : Init.Policy := { obeysHalt := false }

/-- More polls than any step needs. -/
def fuel : Nat := 10000000

/-! ## Starting -/

def insertUnits (g : Graph) (w : World Script) : List (String × UnitDef) → Graph × World Script
  | [] => (g, w)
  | (name, u) :: rest =>
    let w := (g.insertNotices name).foldl World.say w
    insertUnits (g.insert name u).2 w rest

/-- An init with units in the order given and, unless left out, the built-in ones. -/
def new (config : Config) (units : List (String × UnitDef)) (builtins : Bool) (script : Script) :
    Scenario :=
  let (graph, world) := insertUnits {} { machine := script } units
  if builtins then
    { init := .new config graph.addBuiltins (graph.shadowNotices.foldl World.say world) }
  else { init := .new config graph world }

/-! ## Time -/

/-- If no task can go on and no signal is on its way, lets time pass up to the next sleeping task,
but not beyond `target`. -/
def passIdle (target : Nat) (s : Init Script) : Init Script :=
  if s.queue.isEmpty && s.deferred.isEmpty && s.raised.isEmpty then
    s.passTo (min (s.nextDeadline?.getD target) target)
  else s

/-- Takes turns and lets time pass up to `target`, unless `enough` holds before a turn. What is due
at that time is woken but does not run. -/
def passUntil (enough : Init Script → Bool) (target : Nat) : Nat → Init Script → Init Script
  | 0, s => s
  | fuel + 1, s =>
    if enough s || target ≤ s.now then s
    else
      let s := s.turn policy
      let s := if enough s then s else passIdle target s
      passUntil enough target fuel s.lookOutside

def advance (delay : Nat) (s : Init Script) : Init Script :=
  passUntil (fun _ => false) (s.now + delay) fuel s

/-! ## Steps -/

def onInit (s : Scenario) (answer : Answer) (init : Init Script) : Answer × Scenario :=
  (answer, { s with init := init })

def ask (s : Scenario) (unit : String) (chain : List String) : Handle × Scenario :=
  let (h, init) := s.init.request unit chain
  (h, { s with init := init, handles := s.handles.insert unit h })

def wait (s : Scenario) (unit : String) (chain : List String) (limit : Nat) : Answer × Scenario :=
  let (h, s) := s.ask unit chain
  let begun := s.init.now
  let known (i : Init Script) := (i.readiness.wait? h).isSome
  let init := passUntil known (begun + limit) fuel s.init
  match init.readiness.wait? h with
  | some o => s.onInit (.waited (init.now - begun) o) init
  | none => s.onInit .timeout init

def definitionOf (s : Scenario) (unit : String) (definition : Option UnitDef) : Option UnitDef :=
  definition <|> s.init.graph.get? unit

def launch (s : Scenario) (unit : String) (definition : Option UnitDef) :
    Except Answer (Option Pid) × Scenario :=
  match s.definitionOf unit definition with
  | none => (.error .noSuchUnit, s)
  | some u =>
    let (r, init) := s.init.inTable (Supervisor.launchService unit u)
    (r.mapError .spawnFailed, { s with init := init })

def onScript (s : Scenario) (f : Script → Script) : Scenario :=
  let i := s.init
  { s with init := { i with toWorld := { i.toWorld with machine := f i.machine } } }

def scheduleEnd (s : Scenario) (pid : Pid) (status : ExitStatus) (delay : Nat) : Scenario :=
  s.onScript fun m => m.scheduleEnd ⟨s.init.now + delay, pid, status⟩

/-- The pauses of a shutdown let the tasks go on. -/
def requestPower (state : PowerState) (grace : Nat) (s : Init Script) :
    Except Errno Unit × Init Script :=
  match s.inWorld (World.terminateAll state) with
  | (.ok (), s) =>
    let ((), s) := (advance grace s).inWorld fun w => ((), w.killAll)
    (advance World.cleanupPause s).inWorld (World.lastCalls state)
  | (.error e, s) => (s.say (.terminateFailed e)).inWorld (World.lastCalls state)

def perform (s : Scenario) : Step → Answer × Scenario
  | .start unit chain =>
    let (h, s) := s.ask unit chain
    (.outcome (s.init.readiness.outcome? h), s)
  | .wait unit chain limit => s.wait unit chain limit
  | .outcome unit =>
    (match s.handles[unit]? with
      | some h => .outcome (s.init.readiness.outcome? h)
      | none => .unrequested, s)
  | .advance delay =>
    let init := advance delay s.init
    s.onInit (.number init.now) init
  | .spawn command =>
    match s.init.inTable (Supervisor.spawn command) with
    | (.ok pid, init) => s.onInit (.number pid) init
    | (.error e, init) => s.onInit (.spawnFailed e) init
  | .spawnAwait command =>
    match s.init.spawnAndAwait command with
    | (.ok c, init) => s.onInit (.number c.pid) (init.addTask (.report c))
    | (.error e, init) => s.onInit (.spawnFailed e) init
  | .launch unit definition =>
    match s.launch unit definition with
    | (.ok (some pid), s) => (.number pid, s)
    | (.ok none, s) => (.nothing, s)
    | (.error a, s) => (a, s)
  | .launchAndSettle unit definition =>
    match s.launch unit definition with
    | (.ok (some _), s) => s.onInit .done (advance s.init.config.settleDelay s.init)
    | (.ok none, s) => (.done, s)
    | (.error a, s) => (a, s)
  | .endOf pid status delay => (.number pid, s.scheduleEnd pid status delay)
  | .endOfLatest program status delay =>
    match s.init.machine.latest[program]? with
    | some pid => (.number pid, s.scheduleEnd pid status delay)
    | none => (.neverSpawned, s)
  | .failWait errno => (.nothing, s.onScript fun m => { m with waitFailure := some errno })
  | .release pid =>
    s.onInit .nothing (s.init.inTable fun sup => ((), sup.release pid)).2
  | .stopRestarts =>
    s.onInit .nothing { s.init with toSupervisor := s.init.toSupervisor.stopRestarts }
  | .tick clock =>
    let (t, init) := s.init.inTable (Supervisor.tick (clock.getD s.init.now))
    s.onInit (.ticked t) init
  | .pidOf unit => (s.init.pidOf? unit |>.elim .nothing .number, s)
  | .display pid => (s.init.display? pid |>.elim .nothing .name, s)
  | .pending unit => (s.init.crashes.deadline? unit |>.elim .nothing fun t => .number t, s)
  | .state =>
    (.state s.init.running s.init.stopping s.init.suspended s.init.machine.env, s)
  | .supervise childEvents =>
    s.onInit .nothing
      (s.init.addTask (.reap (if childEvents then some false else none) .fresh))
  | .boot => s.onInit .nothing s.init.boot
  | .watch => (.nothing, { s with init := s.init.watchSignals, watching := true })
  | .signal signal =>
    if signal == .child || s.watching then s.onInit .nothing (s.init.raise signal)
    else (.notWatching, s)
  | .rescue =>
    match s.init.runRescue with
    | (some o, init) => s.onInit (.rescued o) init
    | (none, init) => s.onInit .nothing init
  | .power state => s.onInit .nothing (s.init.addTask (.power state .fresh))
  | .requestPowerState state grace =>
    let (r, init) := requestPower state grace s.init
    s.onInit (.powered r) init

/-- Performs a step and, unless held, lets every task run. Gives the records made meanwhile, oldest
first. -/
def act (s : Scenario) (step : Step) (hold : Bool) : (Answer × List Record) × Scenario :=
  let before := s.init.journal.length
  let (a, s) := s.perform step
  let init := if hold then s.init else s.init.settle policy fuel
  let new := (init.journal.take (init.journal.length - before)).reverse
  ((a, new), { s with init := init })

def runSteps (s : Scenario) : List (Step × Bool) → List (Answer × List Record) × Scenario
  | [] => ([], s)
  | (step, hold) :: rest =>
    let (r, s) := s.act step hold
    let (rs, s) := s.runSteps rest
    (r :: rs, s)

end Scenario

end InitDaemon.Simulation
