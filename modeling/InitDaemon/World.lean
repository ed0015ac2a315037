import InitDaemon.Process.Platform
import InitDaemon.Readiness

/-!
# The world of the init

A platform, the clock and the journal of what has happened. Everything that the init asks of its
platform goes through here, so that the journal is complete.
-/

namespace InitDaemon

inductive PowerStage
  | terminate
  | kill
  | finish
deriving DecidableEq, Repr, Inhabited

/-- What follows a stage: a pause before the next one, or the answer of the last call. -/
inductive PowerProgress
  | pause (delay : Nat) (next : PowerStage)
  | ended (result : Except Errno Unit)

inductive PowerCause
  | signal
  | rescue
  | session
  /-- Someone who uses the init from outside. -/
  | request
deriving DecidableEq, Repr, Inhabited

inductive Entry
  | notice (n : Notice)
  | spawned (pid : Pid) (argv : List String)
  | spawnFailed (argv : List String)
  | waitedBlocking (pid : Pid) (suspended : Bool)
  | signalledAll (signal : ShutdownSignal)
  | synced
  | rebooted (state : PowerState)
  | hosted (step : HostStep)
  /-- The end of a process that someone waited for, or its release. -/
  | completed (pid : Pid) (status : Option ExitStatus)
  /-- A unit was asked for and a handle was given; `chain` holds those that asked, nearest first. -/
  | requested (handle : Handle) (chain : List String)
  | began (unit : String)
  | acted (unit : String) (outcome : Outcome)
  | resolved (unit : String) (outcome : Outcome)
  | powerRequested (task : Nat) (cause : PowerCause) (state : PowerState)
  /-- The request of a task entered a stage. -/
  | powerStaged (task : Nat) (stage : PowerStage)
deriving DecidableEq, Repr

structure Record where
  time : Nat
  entry : Entry
deriving DecidableEq, Repr

structure World (σ : Type) where
  machine : σ
  /-- Milliseconds since the start. -/
  now : Nat := 0
  /-- The latest record first. -/
  journal : List Record := []

namespace World

variable {σ : Type} [Platform σ]

omit [Platform σ] in
def note (w : World σ) (e : Entry) : World σ :=
  { w with journal := ⟨w.now, e⟩ :: w.journal }

omit [Platform σ] in
def say (w : World σ) (n : Notice) : World σ :=
  w.note (.notice n)

/-- Starts a process. An attempt that never reaches the machine leaves no record. -/
def spawn (argv env : List String) (w : World σ) : Except SpawnError Pid × World σ :=
  let (r, m) := Platform.spawn w.now argv env w.machine
  let w := { w with machine := m }
  match r with
  | .ok pid => (r, w.note (.spawned pid argv))
  | .error (.fork _) => (r, w.note (.spawnFailed argv))
  | .error _ => (r, w)

def tryWaitAny (w : World σ) : Except Errno (Option (Pid × ExitStatus)) × World σ :=
  let (r, m) := Platform.tryWaitAny w.now w.machine
  (r, { w with machine := m })

/-- Waits for a process while nothing else happens. There is no answer if it never ends. -/
def waitBlocking (pid : Pid) (suspended : Bool) (w : World σ) :
    Option (Except Errno ExitStatus) × World σ :=
  let w := w.note (.waitedBlocking pid suspended)
  match Platform.waitBlocking w.now pid w.machine with
  | (.never, m) => (none, { w with machine := m })
  | (.at t r, m) => (some r, { w with machine := m, now := max w.now t })

def signalAll (signal : ShutdownSignal) (w : World σ) : Except Errno Unit × World σ :=
  let (r, m) := Platform.signalAll w.now signal w.machine
  (r, { w with machine := m }.note (.signalledAll signal))

def sync (w : World σ) : World σ :=
  { w with machine := Platform.sync w.now w.machine }.note .synced

def reboot (state : PowerState) (w : World σ) : Except Errno Unit × World σ :=
  let (r, m) := Platform.reboot w.now state w.machine
  (r, { w with machine := m }.note (.rebooted state))

def host (step : HostStep) (w : World σ) : Except HostError Unit × World σ :=
  let ((r, notices), m) := Platform.host w.now step w.machine
  (r, notices.foldl say ({ w with machine := m }.note (.hosted step)))

def isExecutable (path : String) (w : World σ) : Bool :=
  Platform.isExecutable path w.machine

/-! ## Shutdown

Processes are asked to end, then killed; file systems are flushed before the last call. If the
first signal reaches nobody the waiting is left out. -/

/-- The pause between the kill and the end, in milliseconds. -/
def cleanupPause : Nat := 100

def terminateAll (state : PowerState) (w : World σ) : Except Errno Unit × World σ :=
  ((w.say (.goingDown state)).say .terminating).signalAll .terminate

/-- Whether the kill reaches anyone does not matter. -/
def killAll (w : World σ) : World σ :=
  ((w.say .killing).signalAll .kill).2

def lastCalls (state : PowerState) (w : World σ) : Except Errno Unit × World σ :=
  (w.say .syncing).sync.reboot state

def powerStage (state : PowerState) (grace : Nat) (stage : PowerStage) (w : World σ) :
    PowerProgress × World σ :=
  match stage with
  | .terminate =>
    match w.terminateAll state with
    | (.ok (), w) => (.pause grace .kill, w)
    | (.error e, w) =>
      let (r, w) := (w.say (.terminateFailed e)).lastCalls state
      (.ended r, w)
  | .kill => (.pause cleanupPause .finish, w.killAll)
  | .finish =>
    let (r, w) := w.lastCalls state
    (.ended r, w)

omit [Platform σ] in
def elapse (delay : Nat) (w : World σ) : World σ :=
  { w with now := w.now + delay }

/-- A whole shutdown in a world where nothing else happens. -/
def requestPowerState (state : PowerState) (grace : Nat) (w : World σ) :
    Except Errno Unit × World σ :=
  match w.terminateAll state with
  | (.ok (), w) => (((w.elapse grace).killAll).elapse cleanupPause).lastCalls state
  | (.error e, w) => (w.say (.terminateFailed e)).lastCalls state

end World

end InitDaemon
