import InitDaemon.Init.Task
import InitDaemon.Units.Cycles

/-!
# The state of the init

The process table together with the readiness of each unit that was ever asked for and the tasks.
A unit's readiness is entered before its task starts and is resolved once. Tasks that can go on
stand in a queue; those that let others go first are kept apart. A signal is noted when it is raised
and reaches the tasks later.
-/

namespace InitDaemon

open Std InitDaemon.Units

/-- A sleeping task and the time at which it is due. -/
structure Alarm where
  deadline : Nat
  task : TaskId
deriving DecidableEq, Repr, Inhabited

structure Init (σ : Type) extends Supervisor σ where
  /-- The members of the cycle that a unit lies on. -/
  cycles : ExtTreeMap String (List String) := ∅
  readiness : Readiness := {}
  /-- Set while the rescue shell has the console. -/
  suspended : Bool := false
  tasks : ExtTreeMap TaskId Task := ∅
  nextTask : TaskId := 0
  /-- Tasks that can go on, the next one first. -/
  queue : List TaskId := []
  deferred : List TaskId := []
  /-- In the order in which the tasks fell asleep. -/
  alarms : List Alarm := []
  raised : List Signal := []
  halt : Option Halt := none

namespace Init

variable {σ : Type}

/-! ## The world and the process table -/

def say (s : Init σ) (n : Notice) : Init σ :=
  { s with toSupervisor := s.toSupervisor.say n }

def note (s : Init σ) (e : Entry) : Init σ :=
  { s with toWorld := s.toWorld.note e }

def inWorld {α : Type} (f : World σ → α × World σ) (s : Init σ) : α × Init σ :=
  let (a, w) := f s.toWorld
  (a, { s with toWorld := w })

def host [Platform σ] (step : HostStep) (s : Init σ) : Except HostError Unit × Init σ :=
  s.inWorld (World.host step)

/-! ## Tasks -/

def isWaiting (s : Init σ) (id : TaskId) : Bool :=
  !s.queue.contains id && !s.deferred.contains id

/-- Puts a task at the end of the queue unless it stands there already. -/
def wake (s : Init σ) (id : TaskId) : Init σ :=
  if s.isWaiting id then { s with queue := s.queue ++ [id] } else s

def wakeAll (s : Init σ) (ids : List TaskId) : Init σ :=
  ids.foldl wake s

/-- The tasks in the order of their start that satisfy `p`. -/
def tasksWhere (s : Init σ) (p : Task → Bool) : List TaskId :=
  (s.tasks.filter fun _ t => p t).keys

def addTask (s : Init σ) (t : Task) : Init σ :=
  { s with
    tasks := s.tasks.insert s.nextTask t
    nextTask := s.nextTask + 1
    queue := s.queue ++ [s.nextTask] }

def suspend (s : Init σ) (id : TaskId) (t : Task) : Init σ :=
  { s with tasks := s.tasks.insert id t }

/-- Leaves a task at a place where it lets others go first. -/
def defer (s : Init σ) (id : TaskId) (t : Task) : Init σ :=
  { s with tasks := s.tasks.insert id t, deferred := s.deferred ++ [id] }

def sleepUntil (s : Init σ) (id : TaskId) (deadline : Nat) (t : Task) : Init σ :=
  { s with tasks := s.tasks.insert id t, alarms := s.alarms ++ [⟨deadline, id⟩] }

def endTask (s : Init σ) (id : TaskId) : Init σ :=
  { s with tasks := s.tasks.erase id }

def dropAlarms (s : Init σ) (id : TaskId) : Init σ :=
  { s with alarms := s.alarms.filter (·.task != id) }

def stop (s : Init σ) (id : TaskId) (h : Halt) : Init σ :=
  { s.endTask id with halt := s.halt <|> some h }

/-- How often a task may find what it waits for in one poll. After that it lets others go first. -/
def patience : Nat := 128

/-! ## Tickets -/

def holdsSettled (settled : ExtTreeMap Ticket (Option ExitStatus)) : Task → Bool
  | .start _ _ (.makingMachineId ticket) | .start _ _ (.startingBus ticket)
  | .watchNetworkManager ticket | .session (.running ticket) | .report ⟨_, ticket⟩ =>
    ticket ∈ settled
  | _ => false

/-- Does something with the process table, and wakes whoever waited for it. -/
def inTable {α : Type} (f : Supervisor σ → α × Supervisor σ) (s : Init σ) : α × Init σ :=
  let (a, sup) := f s.toSupervisor
  let s := { s with toSupervisor := sup }
  (a, s.wakeAll (s.tasksWhere (holdsSettled s.settled)))

def spawnAndAwait [Platform σ] (command : String) (s : Init σ) :
    Except SpawnError Completion × Init σ :=
  s.inTable (Supervisor.spawnAndAwait command)

/-! ## Readiness -/

def awaits (channel : Channel) : Task → Bool
  | .start _ _ (.awaiting (h :: _)) | .session (.awaiting (h :: _)) | .bootChain (some h) =>
    h.channel == channel
  | _ => false

def outcome? (s : Init σ) (unit : String) : Option Outcome :=
  s.readiness.outcomeOf? unit

/-- Sends the outcome of a unit to whoever waits for it. -/
def resolve (s : Init σ) (unit : String) (outcome : Outcome) : Init σ :=
  match s.readiness.senders[unit]? with
  | none => s
  | some channel =>
    let s := { s with readiness := s.readiness.send channel outcome }
    let s := s.note (.resolved unit outcome)
    s.wakeAll (s.tasksWhere (awaits channel))

/-- Why a unit is turned down as soon as it is asked for. -/
def rejection? (s : Init σ) (unit : String) (chain : List String) : Option StartError :=
  if s.stopping then some (.shuttingDown unit)
  else match s.graph.get? unit with
    | none => some (.notFound unit chain)
    | some _ => s.cycles[unit]?.map .cycle

/-- Enters a unit that nobody has asked for before, and starts it unless it is turned down. -/
def enter (s : Init σ) (unit : String) (chain : List String) : Handle × Init σ :=
  let rejected := s.rejection? unit chain
  let (h, readiness) := s.readiness.enter unit (rejected.map .error)
  let s := { s with readiness := readiness }.note (.requested h chain)
  match rejected with
  | some e => (h, (s.note (.resolved unit (.error e))).say (.rejected e))
  | none => (h, s.addTask (.start unit chain .fresh))

/-- Asks for a unit. Only the first request starts it; later ones join it. -/
def request (s : Init σ) (unit : String) (chain : List String) : Handle × Init σ :=
  match s.readiness.subscribe? unit with
  | some h => (h, s.note (.requested h chain))
  | none => s.enter unit chain

def requestAll (s : Init σ) (chain : List String) : List String → List Handle × Init σ
  | [] => ([], s)
  | unit :: rest =>
    let (h, s) := s.request unit chain
    let (hs, s) := s.requestAll chain rest
    (h :: hs, s)

/-! ## A fresh init -/

def cycleTable (cycles : List (List String)) : ExtTreeMap String (List String) :=
  cycles.foldl (fun table cycle =>
    cycle.foldl (fun table member => table.insert member cycle) table) ∅

/-- An init that has been given its graph and does nothing yet. -/
def new (config : Config) (graph : Graph) (world : World σ) : Init σ :=
  let cycles := graph.findCycles
  { toWorld := cycles.foldl (fun w cycle => w.say (.cycleFound cycle)) world
    config, graph
    crashes :=
      { window := config.crashWindow, threshold := config.crashThreshold,
        cooldown := config.crashCooldown }
    cycles := cycleTable cycles }

end Init

end InitDaemon
