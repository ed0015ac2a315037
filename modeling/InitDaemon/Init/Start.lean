import InitDaemon.Init.Basic

/-!
# Starting units

A unit's task asks for all dependencies, waits for them in name order and then begins the unit's
own action. The first dependency that failed ends the start.
-/

namespace InitDaemon

namespace Init

variable {σ : Type}

def conclude (s : Init σ) (id : TaskId) (unit : String) (outcome : Outcome) : Init σ :=
  let s := match outcome with
    | .error e => s.say (.startFailed unit e)
    | .ok () => s
  (s.resolve unit outcome).endTask id

def endAction (s : Init σ) (id : TaskId) (unit : String) (outcome : Outcome) : Init σ :=
  (s.note (.acted unit outcome)).conclude id unit outcome

def actionOutcome (unit : String) (r : Except HostError Unit) : Outcome :=
  r.mapError fun e => .action unit e.text

variable [Platform σ]

/-! ## Built-in actions

Errors name the built-in unit that the action belongs to. -/

def busDirectories : List String := ["/run/dbus", "/var/lib/dbus"]

def uuidgenCommand : String := "/usr/bin/dbus-uuidgen --ensure"

def busCommand : String := "/usr/bin/dbus-daemon --system --fork"

def networkManagerCommand : String := "/usr/sbin/NetworkManager"

def elogindPaths : List String := ["/usr/libexec/elogind", "/usr/lib/elogind/elogind"]

def elogindDirectory : String := "/run/systemd"

def sessionDirectories : List String :=
  ["/var/lib/lightdm", "/var/lib/lightdm/data", "/var/log/lightdm", "/var/cache/lightdm"]

def ensureAll (s : Init σ) : List String → Except HostError Unit × Init σ
  | [] => (.ok (), s)
  | path :: rest =>
    match s.host (.ensureDirectory path) with
    | (.ok (), s) => s.ensureAll rest
    | (.error e, s) => (.error e, s)

def ensureEach (s : Init σ) : List String → Init σ
  | [] => s
  | path :: rest =>
    match s.host (.ensureDirectory path) with
    | (.ok (), s) => s.ensureEach rest
    | (.error e, s) => (s.say (.directorySkipped path e)).ensureEach rest

/-- The bus needs a machine id, so its daemon comes second. -/
def beginBus (s : Init σ) (id : TaskId) (unit : String) (chain : List String) : Init σ :=
  match s.ensureAll busDirectories with
  | (.error e, s) => s.endAction id unit (.error (.action Builtin.dbus.name e.text))
  | (.ok (), s) =>
    match s.spawnAndAwait uuidgenCommand with
    | (.error e, s) => s.endAction id unit (.error (.spawn Builtin.dbus.name e.text))
    | (.ok c, s) => s.suspend id (.start unit chain (.makingMachineId c.ticket))

/-- A machine id that could not be made is no reason to give up. -/
def judgeMachineId (s : Init σ) : Option ExitStatus → Init σ
  | some status => if status.success then s else s.say (.uuidgenEnded status)
  | none => s.say .uuidgenNotReaped

def startBus (s : Init σ) (id : TaskId) (unit : String) (chain : List String)
    (status : Option ExitStatus) : Init σ :=
  match (s.judgeMachineId status).spawnAndAwait busCommand with
  | (.error e, s) => s.endAction id unit (.error (.spawn Builtin.dbus.name e.text))
  | (.ok c, s) => s.suspend id (.start unit chain (.startingBus c.ticket))

/-- The daemon's first process ends once the bus can be used. -/
def finishBus (s : Init σ) (id : TaskId) (unit : String) (status : Option ExitStatus) : Init σ :=
  match status with
  | some status =>
    if status.success then (s.say .busUp).endAction id unit (.ok ())
    else
      s.endAction id unit
        (.error (.action Builtin.dbus.name ("dbus-daemon exited with " ++ status.text)))
  | none =>
    s.endAction id unit (.error (.action Builtin.dbus.name "dbus-daemon was never reaped"))

def startNetworkManager (s : Init σ) (id : TaskId) (unit : String) : Init σ :=
  match s.spawnAndAwait networkManagerCommand with
  | (.error e, s) => s.endAction id unit (.error (.spawn Builtin.networkManager.name e.text))
  | (.ok c, s) =>
    let s := s.say (.networkManagerStarted c.pid)
    (s.addTask (.watchNetworkManager c.ticket)).endAction id unit (.ok ())

/-- The login manager is started if it is there. -/
def startElogind (s : Init σ) : Outcome × Init σ :=
  match elogindPaths.find? fun path => s.toWorld.isExecutable path with
  | none => (.ok (), s.say .elogindMissing)
  | some path =>
    match s.host (.ensureDirectory elogindDirectory) with
    | (.error e, s) => (.error (.action Builtin.userSessions.name e.text), s)
    | (.ok (), s) =>
      match s.inTable (Supervisor.spawn path) with
      | (.error e, s) => (.error (.spawn Builtin.userSessions.name e.text), s)
      | (.ok pid, s) => (.ok (), s.say (.elogindStarted pid))

def startUserSessions (s : Init σ) (id : TaskId) (unit : String) : Init σ :=
  match s.startElogind with
  | (.ok (), s) => (s.ensureEach sessionDirectories).endAction id unit (.ok ())
  | (.error e, s) => s.endAction id unit (.error e)

/-- A built-in unit whose action is a single step of the host. -/
def hostAction (s : Init σ) (id : TaskId) (unit : String) (b : Builtin) (step : HostStep) :
    Init σ :=
  let (r, s) := s.host step
  s.endAction id unit (actionOutcome b.name r)

def runBuiltin (s : Init σ) (id : TaskId) (unit : String) (chain : List String) :
    Builtin → Init σ
  | .mounts => s.hostAction id unit .mounts .mountAll
  | .network => s.hostAction id unit .network .startNetwork
  | .hostname => s.hostAction id unit .hostname .setHostname
  | .dbus => s.beginBus id unit chain
  | .networkManager => s.startNetworkManager id unit
  | .userSessions => s.startUserSessions id unit
  | .plymouthQuit => s.endAction id unit (.ok ())

/-! ## The task of a unit -/

def letSettle (s : Init σ) (id : TaskId) (unit : String) (chain : List String) (deadline : Nat) :
    Init σ :=
  if s.now < deadline then s.sleepUntil id deadline (.start unit chain (.settling deadline))
  else s.endAction id unit (.ok ())

/-- A service gets its settle delay before its dependents go on. -/
def startService (s : Init σ) (id : TaskId) (unit : String) (chain : List String) (u : UnitDef)
    (patience : Nat) : Init σ :=
  match s.inTable (Supervisor.launchService unit u) with
  | (.error e, s) => s.endAction id unit (.error (.spawn unit e.text))
  | (.ok none, s) => s.endAction id unit (.ok ())
  | (.ok (some _), s) =>
    let deadline := s.now + s.config.settleDelay
    if patience = 0 then s.defer id (.start unit chain (.started deadline))
    else s.letSettle id unit chain deadline

/-- Begins a unit's own action, unless a shutdown has begun meanwhile. -/
def beginAction (s : Init σ) (id : TaskId) (unit : String) (chain : List String) (u : UnitDef)
    (patience : Nat) : Init σ :=
  if s.stopping then s.conclude id unit (.error (.shuttingDown unit))
  else
    let s := (s.say (.starting unit chain)).note (.began unit)
    match u.start with
    | .builtin b => s.runBuiltin id unit chain b
    | _ => s.startService id unit chain u patience

/-- Waits for the remaining dependencies of a unit, one after the other. `patience` is what is left
of it. -/
def awaitDependencies (s : Init σ) (id : TaskId) (unit : String) (chain : List String)
    (u : UnitDef) : Nat → List Handle → Init σ
  | patience, [] => s.beginAction id unit chain u patience
  | 0, h :: rest => s.defer id (.start unit chain (.awaiting (h :: rest)))
  | patience + 1, h :: rest =>
    match s.readiness.wait? h with
    | some (.ok ()) => s.awaitDependencies id unit chain u patience rest
    | some (.error e) => s.conclude id unit (.error (.dependency unit h.unit e.text))
    | none => s.suspend id (.start unit chain (.awaiting (h :: rest)))

/-- All dependencies are asked for before the first one is waited for, so that they start side by
side. -/
def pollStart (s : Init σ) (id : TaskId) (unit : String) (chain : List String) :
    StartPhase → Init σ
  | .fresh =>
    match s.graph.get? unit with
    | none => s.conclude id unit (.error (.notFound unit chain))
    | some u =>
      let (handles, s) := s.requestAll (unit :: chain) u.dependencies.toList
      s.awaitDependencies id unit chain u patience handles
  | .awaiting handles =>
    match s.graph.get? unit with
    | none => s.conclude id unit (.error (.notFound unit chain))
    | some u => s.awaitDependencies id unit chain u patience handles
  | .started deadline => s.letSettle id unit chain deadline
  | .settling deadline => if s.now < deadline then s else s.endAction id unit (.ok ())
  | .makingMachineId ticket =>
    match s.settled[ticket]? with
    | some status => s.startBus id unit chain status
    | none => s
  | .startingBus ticket =>
    match s.settled[ticket]? with
    | some status => s.finishBus id unit status
    | none => s

end Init

end InitDaemon
