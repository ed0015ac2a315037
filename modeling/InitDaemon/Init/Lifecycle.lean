import InitDaemon.Init.Start

/-!
# Boot, session, rescue and shutdown

The boot chain starts the boot target and hands over to the rescue shell if that fails. Beside it
the session waits for the foundation units and runs the interactive shell, whose end shuts the
machine down. A signal shuts it down too, and so does the operator of the rescue shell.
-/

namespace InitDaemon

namespace Init

variable {σ : Type}

/-! ## Shutdown -/

/-- Freezes the set of units: nothing is started or restarted from here on. -/
def beginShutdown (s : Init σ) : Init σ :=
  if s.stopping then s
  else
    let s := s.say .restartsStopped
    { s with toSupervisor := s.toSupervisor.stopRestarts }

/-- The last call has answered: the uptime is over, or nothing more can be done. -/
def powerEnded (s : Init σ) (id : TaskId) : Except Errno Unit → Init σ
  | .ok () => s.stop id .powerDown
  | .error e => (s.say (.rebootFailed e)).stop id .stuck

def pauseUntil (s : Init σ) (id : TaskId) (state : PowerState) (deadline : Nat)
    (next : PowerStage) : Init σ :=
  s.sleepUntil id deadline (.power state (.pausing deadline next))

/-- Sleeps through the pause after a stage, or ends the task after the last one. Without patience
the task lets others go first before it sets its alarm. -/
def afterStage (id : TaskId) (state : PowerState) (patience : Nat) :
    PowerProgress × Init σ → Init σ
  | (.ended r, s) => s.powerEnded id r
  | (.pause delay next, s) =>
    let deadline := s.now + delay
    if patience = 0 then s.defer id (.power state (.delayed deadline next))
    else s.pauseUntil id state deadline next

variable [Platform σ]

def powerStage (s : Init σ) (id : TaskId) (state : PowerState) (stage : PowerStage) :
    PowerProgress × Init σ :=
  (s.note (.powerStaged id stage)).inWorld (World.powerStage state s.config.shutdownGrace stage)

/-- Performs a stage of a shutdown. Without a grace period the kill follows at once. `patience` is
what is left of it. -/
def runPower (s : Init σ) (id : TaskId) (state : PowerState) (stage : PowerStage)
    (patience : Nat) : Init σ :=
  match s.powerStage id state stage, patience with
  | (.pause 0 .kill, s), patience + 1 => afterStage id state patience (s.powerStage id state .kill)
  | r, patience => afterStage id state patience r

def power (s : Init σ) (id : TaskId) (cause : PowerCause) (state : PowerState) (patience : Nat) :
    Init σ :=
  let s := s.note (.powerRequested id cause state)
  s.beginShutdown.runPower id state .terminate patience

def pollPower (s : Init σ) (id : TaskId) (state : PowerState) : PowerPhase → Init σ
  | .fresh => s.power id .request state patience
  | .delayed deadline next =>
    if s.now < deadline then s.pauseUntil id state deadline next
    else s.runPower id state next patience
  | .pausing deadline next => if s.now < deadline then s else s.runPower id state next patience

/-! ## Rescue -/

/-- Collects the rescue shell while everything else stands still. There is no answer if the shell
never ends. -/
def awaitRescue (s : Init σ) (pid : Pid) : Option RescueOutcome × Init σ :=
  match s.inWorld (World.waitBlocking pid s.suspended) with
  | (none, s) => (none, s)
  | (some r, s) =>
    let ((), s) := s.inTable fun sup => ((), sup.release pid)
    match r with
    | .ok status => (some (.ofStatus status), s)
    | .error e => (some .resume, s.say (.rescueWaitFailed e))

def spawnRescue (s : Init σ) : Option RescueOutcome × Init σ :=
  match s.inTable (Supervisor.spawn s.config.rescue) with
  | (.ok pid, s) => s.awaitRescue pid
  | (.error e, s) => (some .resume, s.say (.rescueSpawnFailed e))

def runRescue (s : Init σ) : Option RescueOutcome × Init σ :=
  let s := (s.say .rescueEntered).say .rescueHelp
  match { s with suspended := true }.spawnRescue with
  | (none, s) => (none, s)
  | (some outcome, s) =>
    let s := { s with suspended := false }
    (some outcome, if outcome == .resume then s.say .bootResumed else s)

/-! ## Boot chain -/

def afterRescue (id : TaskId) : Option RescueOutcome × Init σ → Init σ
  | (none, s) => s.stop id .blocked
  | (some .resume, s) => s.endTask id
  | (some .reboot, s) => s.power id .rescue .restart patience
  | (some .powerOff, s) => s.power id .rescue .off patience

def awaitBootTarget (s : Init σ) (id : TaskId) (target : Handle) : Init σ :=
  match s.readiness.wait? target with
  | none => s.suspend id (.bootChain (some target))
  | some (.ok ()) => (s.say (.bootTargetReached s.config.bootTarget)).endTask id
  | some (.error e) => afterRescue id (s.say (.bootFailed e)).runRescue

def pollBootChain (s : Init σ) (id : TaskId) : Option Handle → Init σ
  | some target => s.awaitBootTarget id target
  | none =>
    let (target, s) := s.request s.config.bootTarget []
    s.awaitBootTarget id target

/-! ## Session -/

/-- The end of the session is the end of the uptime. -/
def endSession (s : Init σ) (id : TaskId) (patience : Nat) : Init σ :=
  (s.say .sessionEnded).power id .session .off patience

def startSession (s : Init σ) (id : TaskId) (patience : Nat) : Init σ :=
  match (s.say .sessionStarting).spawnAndAwait s.config.session with
  | (.ok c, s) =>
    let t : Task := .session (.running c.ticket)
    if patience = 0 then s.defer id t else s.suspend id t
  | (.error e, s) => (s.say (.sessionSpawnFailed e)).endSession id patience

/-- Waits for the remaining foundation units, one after the other. `patience` is what is left of
it. -/
def awaitFoundation (s : Init σ) (id : TaskId) : Nat → List Handle → Init σ
  | patience, [] => s.startSession id patience
  | 0, h :: rest => s.defer id (.session (.awaiting (h :: rest)))
  | patience + 1, h :: rest =>
    match s.readiness.wait? h with
    | some (.ok ()) => s.awaitFoundation id patience rest
    | some (.error e) => (s.say (.sessionRefused e)).endTask id
    | none => s.suspend id (.session (.awaiting (h :: rest)))

def pollSession (s : Init σ) (id : TaskId) : SessionPhase → Init σ
  | .fresh =>
    let (handles, s) := s.requestAll [] s.config.foundation
    s.awaitFoundation id patience handles
  | .awaiting handles => s.awaitFoundation id patience handles
  | .running ticket => if ticket ∈ s.settled then s.endSession id patience else s

/-! ## Signals -/

def pollSignals (s : Init σ) (id : TaskId) (terminated interrupted : Bool) : Init σ :=
  if terminated then s.power id .signal .off patience
  else if interrupted then s.power id .signal .restart patience
  else s

/-! ## Collecting processes -/

/-- Sleeps before the next look: after a failure for the pause that follows one, and otherwise for
the idle interval at most. -/
def reapLater (s : Init σ) (id : TaskId) (childEvent : Option Bool) (failed : Bool) : Init σ :=
  if failed then
    let deadline := s.now + s.config.errorBackoff
    s.sleepUntil id deadline (.reap childEvent (.failing deadline))
  else
    let deadline := s.now + s.config.idleInterval
    s.sleepUntil id deadline (.reap childEvent (.idle deadline))

/-- Looks for a process that has ended. If there is none, a child event that has come meanwhile is a
reason to look again, and so is a pause that lasts no time. -/
def reap (s : Init σ) (id : TaskId) (childEvent : Option Bool) : Nat → Init σ
  | 0 => s.defer id (.reap childEvent .yielding)
  | patience + 1 =>
    match s.inTable (Supervisor.tick s.now) with
    | (.reaped _, s) => s.defer id (.reap childEvent .yielding)
    | (.idle, s) =>
      if childEvent == some true then s.reap id (some false) patience
      else if s.config.idleInterval = 0 then s.reap id childEvent patience
      else s.reapLater id childEvent false
    | (.failed, s) =>
      if s.config.errorBackoff = 0 then s.reap id childEvent patience
      else s.reapLater id childEvent true

def pollReap (s : Init σ) (id : TaskId) (childEvent : Option Bool) : ReapPhase → Init σ
  | .fresh | .yielding => s.reap id childEvent patience
  | .idle deadline =>
    if childEvent == some true then (s.dropAlarms id).reap id (some false) patience
    else if s.now < deadline then s
    else (s.dropAlarms id).reap id childEvent patience
  | .failing deadline => if s.now < deadline then s else s.reap id childEvent patience

end Init

end InitDaemon
