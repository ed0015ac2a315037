import InitDaemon.Init.Lifecycle

/-!
# Running the init

`poll` lets one task go on until it has to wait again. Everything that happens to an init is a
poll, the passing of time, a signal or a request from outside, in any order; the policy here takes
tasks in turns. In a turn tasks are polled first come, first served, and after it the init looks
outside: at the signals that were raised, the alarms that are due and the tasks that let others go
first.
-/

namespace InitDaemon

namespace Init

variable {σ : Type}

/-! ## Signals and requests from outside -/

def mark : Signal → Task → Task
  | .terminate, .watchSignals _ interrupted => .watchSignals true interrupted
  | .interrupt, .watchSignals terminated _ => .watchSignals terminated true
  | .child, .reap (some _) phase => .reap (some true) phase
  | _, t => t

def wakes : Signal → Task → Bool
  | .terminate, .watchSignals .. | .interrupt, .watchSignals .. => true
  | .child, .reap (some _) (.idle _) => true
  | _, _ => false

/-- Notes a signal, which reaches the tasks at the next look outside. -/
def raise (s : Init σ) (signal : Signal) : Init σ :=
  { s with raised := signal :: s.raised }

def deliver (s : Init σ) (signal : Signal) : Init σ :=
  let woken := s.tasksWhere (wakes signal)
  { s with tasks := s.tasks.map fun _ t => mark signal t }.wakeAll woken

def deliverRaised (s : Init σ) : Init σ :=
  (Signal.all.filter s.raised.contains).foldl deliver { s with raised := [] }

def watchSignals (s : Init σ) : Init σ :=
  s.addTask (.watchSignals false false)

def boot (s : Init σ) : Init σ :=
  ((s.say .booting).addTask (.bootChain none)).addTask (.session .fresh)

/-! ## Time -/

def nextDeadline? (s : Init σ) : Option Nat :=
  (s.alarms.map (·.deadline)).min?

/-- Wakes the tasks that are due, the earliest first and those of one time in the order in which
they fell asleep. -/
def ring (s : Init σ) : Init σ :=
  let (due, later) := s.alarms.partition (·.deadline ≤ s.now)
  let due := due.mergeSort fun a b => a.deadline ≤ b.deadline
  { s with alarms := later }.wakeAll (due.map Alarm.task)

def passTo (s : Init σ) (time : Nat) : Init σ :=
  { s with toWorld := { s.toWorld with now := max s.now time } }

/-! ## Tasks -/

variable [Platform σ]

def pollReport (s : Init σ) (id : TaskId) (c : Completion) : Init σ :=
  match s.settled[c.ticket]? with
  | some status => (s.note (.completed c.pid status)).endTask id
  | none => s

def pollNetworkManager (s : Init σ) (id : TaskId) (ticket : Ticket) : Init σ :=
  match s.settled[ticket]? with
  | some (some status) => (s.say (.networkManagerEnded status)).endTask id
  | some none => s.endTask id
  | none => s

def pollTask (s : Init σ) (id : TaskId) : Task → Init σ
  | .start unit chain phase => s.pollStart id unit chain phase
  | .watchNetworkManager ticket => s.pollNetworkManager id ticket
  | .watchSignals terminated interrupted => s.pollSignals id terminated interrupted
  | .bootChain target => s.pollBootChain id target
  | .session phase => s.pollSession id phase
  | .power state phase => s.pollPower id state phase
  | .reap childEvent phase => s.pollReap id childEvent phase
  | .report c => s.pollReport id c

def poll (s : Init σ) (id : TaskId) : Init σ :=
  match s.tasks[id]? with
  | some t => s.pollTask id t
  | none => s

/-! ## Turns -/

/-- Who goes first, and whether anyone goes on after a halt. -/
structure Policy where
  /-- A task that is polled at the start of a turn only, before all others. -/
  root : Option TaskId := none
  obeysHalt : Bool := true
deriving DecidableEq, Repr, Inhabited

omit [Platform σ] in
def mayRun (s : Init σ) (p : Policy) : Bool :=
  !(p.obeysHalt && s.halt.isSome)

def pollQueued (s : Init σ) (id : TaskId) : Init σ :=
  { s with queue := s.queue.erase id }.poll id

def pollRoot (p : Policy) (s : Init σ) : Init σ :=
  match p.root with
  | some id => if s.mayRun p && s.queue.contains id then s.pollQueued id else s
  | none => s

/-- Polls the queue from its head, at most `n` times. -/
def pollTasks (p : Policy) : Nat → Init σ → Init σ
  | 0, s => s
  | n + 1, s =>
    if s.mayRun p then
      match s.queue.find? fun id => p.root != some id with
      | some id => pollTasks p n (s.pollQueued id)
      | none => s
    else s

def turnLength : Nat := 61

def turn (p : Policy) (s : Init σ) : Init σ :=
  (s.pollRoot p).pollTasks p turnLength

omit [Platform σ] in
/-- Those that let others go first stand in the queue again, the last of them first. -/
def takeBack (s : Init σ) : Init σ :=
  { s with queue := s.queue ++ s.deferred.reverse, deferred := [] }

omit [Platform σ] in
def lookOutside (s : Init σ) : Init σ :=
  s.deliverRaised.ring.takeBack

omit [Platform σ] in
def isQuiet (s : Init σ) : Bool :=
  s.queue.isEmpty && s.deferred.isEmpty && s.raised.isEmpty &&
    s.nextDeadline?.all fun deadline => s.now < deadline

/-- Takes turns until all is quiet, but at most `fuel` of them. -/
def settle (p : Policy) : Nat → Init σ → Init σ
  | 0, s => s
  | fuel + 1, s =>
    if s.isQuiet || !s.mayRun p then s else settle p fuel (s.turn p).lookOutside

end Init

end InitDaemon
