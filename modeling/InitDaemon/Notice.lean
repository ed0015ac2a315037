import InitDaemon.ExitStatus
import InitDaemon.Failure
import InitDaemon.Log.Level
import InitDaemon.Power
import InitDaemon.Text.Quoted

/-!
# Notices

Everything that the init says on the console. A notice has a level, a topic and a text; the topic
is what log filters look at.
-/

namespace InitDaemon

inductive Notice
  -- Unit files
  | duplicateUnit (name : String)
  | shadowedUnit (name : String)
  | unreadableDirectory (path : String) (errno : Errno)
  | unreadableUnit (path : String) (reason : ReadError)
  | unitsLoaded (count : Nat)
  -- Start of units
  | cycleFound (members : List String)
  | rejected (reason : StartError)
  | startFailed (unit : String) (reason : StartError)
  | starting (unit : String) (chain : List String)
  -- Built-in actions
  | uuidgenEnded (status : ExitStatus)
  | uuidgenNotReaped
  | busUp
  | networkManagerStarted (pid : Pid)
  | networkManagerEnded (status : ExitStatus)
  | elogindStarted (pid : Pid)
  | elogindMissing
  | directorySkipped (path : String) (reason : HostError)
  -- Processes
  | targetReached (unit : String)
  | serviceStarted (unit : String) (pid : Pid)
  | waitFailed (errno : Errno)
  | reaped (pid : Pid) (status : ExitStatus) (display : String)
  | restartSuppressed (unit : String)
  | restarting (unit : String)
  | crashLoop (unit : String) (pause : Nat)
  | restartingAfterPause (unit : String)
  | restartFailed (unit : String) (reason : SpawnError)
  -- Boot, rescue and session
  | booting
  | bootTargetReached (unit : String)
  | bootFailed (reason : StartError)
  | rescueEntered
  | rescueHelp
  | rescueWaitFailed (errno : Errno)
  | rescueSpawnFailed (reason : SpawnError)
  | bootResumed
  | sessionRefused (reason : StartError)
  | sessionStarting
  | sessionSpawnFailed (reason : SpawnError)
  | sessionEnded
  -- Shutdown
  | restartsStopped
  | goingDown (state : PowerState)
  | terminating
  | terminateFailed (errno : Errno)
  | killing
  | syncing
  | rebootFailed (errno : Errno)
  -- File systems
  | mountingBasics
  | fallingBack (reason : HostError)
  | linkFailed (link target : String) (errno : Errno)
  | alreadyMounted (target : String)
  | mounted (fstype target : String)
  | nodeFailed (path : String) (errno : Errno)
  | readingFstab (path : String)
  | fstabUnreadable (path : String) (reason : ReadError)
  | remounting (target : String)
  | entryMounted (target : String)
  | entryFailed (target : String) (errno : Errno)
  -- Network
  | raisingLoopback
  | ipMissing
  | settingHostname (name : String)
  -- The program
  | notFirstProcess
  | kernelArguments (arguments : List String)
deriving DecidableEq, Repr, Inhabited

namespace Notice

def level : Notice → Level
  | duplicateUnit _ | shadowedUnit _ | unreadableDirectory .. => .debug
  | unreadableUnit .. => .warn
  | unitsLoaded _ => .info
  | cycleFound _ => .error
  | rejected _ => .warn
  | startFailed .. => .error
  | starting .. => .info
  | uuidgenEnded _ | uuidgenNotReaped => .warn
  | busUp | networkManagerStarted _ => .info
  | networkManagerEnded _ => .warn
  | elogindStarted _ => .info
  | elogindMissing | directorySkipped .. => .debug
  | targetReached _ | serviceStarted .. => .info
  | waitFailed _ => .error
  | reaped .. => .info
  | restartSuppressed _ => .debug
  | restarting _ => .info
  | crashLoop .. => .warn
  | restartingAfterPause _ => .info
  | restartFailed .. => .error
  | booting | bootTargetReached _ => .info
  | bootFailed _ => .error
  | rescueEntered | rescueHelp => .warn
  | rescueWaitFailed _ | rescueSpawnFailed _ => .error
  | bootResumed => .info
  | sessionRefused _ => .error
  | sessionStarting => .info
  | sessionSpawnFailed _ => .error
  | sessionEnded | restartsStopped | goingDown _ | terminating => .info
  | terminateFailed _ => .debug
  | killing | syncing => .info
  | rebootFailed _ => .error
  | mountingBasics => .info
  | fallingBack _ => .warn
  | linkFailed .. | alreadyMounted _ => .debug
  | mounted .. => .info
  | nodeFailed .. => .debug
  | readingFstab _ => .info
  | fstabUnreadable .. => .debug
  | remounting _ | entryMounted _ => .info
  | entryFailed .. => .warn
  | raisingLoopback | ipMissing | settingHostname _ => .info
  | notFirstProcess => .warn
  | kernelArguments _ => .debug

def topic : Notice → String
  | duplicateUnit _ | shadowedUnit _ | unreadableDirectory .. | unreadableUnit ..
  | unitsLoaded _ => "sysinit::units::graph"
  | cycleFound _ => "sysinit::manager"
  | rejected _ | startFailed .. | starting .. => "sysinit::manager::scheduler"
  | uuidgenEnded _ | uuidgenNotReaped | busUp | networkManagerStarted _ | networkManagerEnded _
  | elogindStarted _ | elogindMissing | directorySkipped .. => "sysinit::manager::actions"
  | targetReached _ | serviceStarted .. | waitFailed _ | reaped .. | restartSuppressed _
  | restarting _ | crashLoop .. | restartingAfterPause _ | restartFailed .. =>
    "sysinit::manager::supervisor"
  | booting | bootTargetReached _ | bootFailed _ | rescueEntered | rescueHelp | rescueWaitFailed _
  | rescueSpawnFailed _ | bootResumed | sessionRefused _ | sessionStarting | sessionSpawnFailed _
  | sessionEnded | restartsStopped => "sysinit::pid1::lifecycle"
  | goingDown _ | terminating | terminateFailed _ | killing | syncing | rebootFailed _ =>
    "sysinit::pid1::shutdown"
  | mountingBasics | fallingBack _ | linkFailed .. | alreadyMounted _ | mounted .. | nodeFailed ..
  | readingFstab _ | fstabUnreadable .. | remounting _ | entryMounted _ | entryFailed .. =>
    "sysinit::pid1::mount"
  | raisingLoopback | ipMissing | settingHostname _ => "sysinit::pid1::network"
  | notFirstProcess | kernelArguments _ => "sysinit"

/-- Who asked for a unit, nearest first; nobody but the boot itself gives an empty chain. -/
def describeChain (chain : List String) : String :=
  if chain.isEmpty then "boot" else ",".intercalate chain

def text : Notice → String
  | duplicateUnit name => name ++ " already loaded, ignoring duplicate"
  | shadowedUnit name => "Built-in " ++ name ++ " overrides unit file"
  | unreadableDirectory path errno => "Cannot read " ++ path ++ ": " ++ errno.ioText
  | unreadableUnit path reason => "Cannot read " ++ path ++ ": " ++ reason.text
  | unitsLoaded count => "Loaded " ++ toString count ++ " unit files"
  | cycleFound members => "Dependency cycle detected: " ++ " -> ".intercalate members
  | rejected reason => reason.text
  | startFailed unit reason => "Failed to start " ++ unit ++ ": " ++ reason.text
  | starting unit chain => "[" ++ unit ++ "] starting due to " ++ describeChain chain
  | uuidgenEnded status => "dbus-uuidgen exited with " ++ status.text
  | uuidgenNotReaped => "dbus-uuidgen was never reaped"
  | busUp => "D-Bus system bus is up"
  | networkManagerStarted pid => "Started NetworkManager (PID " ++ toString pid ++ ")"
  | networkManagerEnded status => "NetworkManager exited (" ++ status.text ++ ")"
  | elogindStarted pid => "Started elogind (PID " ++ toString pid ++ ")"
  | elogindMissing => "elogind not installed"
  | directorySkipped path reason => path ++ ": " ++ reason.text
  | targetReached unit => "Reached target " ++ unit
  | serviceStarted unit pid => "Started " ++ unit ++ " (PID " ++ toString pid ++ ")"
  | waitFailed errno => "Monitor error: waitpid failed: " ++ errno.text
  | reaped pid status display =>
    "Reaped PID " ++ toString pid ++ " (" ++ status.text ++ ") name: " ++ display
  | restartSuppressed unit => "Not restarting " ++ unit ++ ": shutting down"
  | restarting unit => "Restarting " ++ unit ++ "..."
  | crashLoop unit pause =>
    "Service " ++ unit ++ " crashing too fast. Pausing for " ++ toString (pause / 1000) ++ "s."
  | restartingAfterPause unit => "Restarting " ++ unit ++ " after backoff..."
  | restartFailed unit reason => "Failed to restart " ++ unit ++ ": " ++ reason.text
  | booting => "Booting..."
  | bootTargetReached unit => "Boot target " ++ unit ++ " reached"
  | bootFailed reason => "Boot error: " ++ reason.text
  | rescueEntered => "Dropping to rescue shell..."
  | rescueHelp => "Type 'exit' to continue boot, 'exit 2' to reboot, 'exit 3' to power off."
  | rescueWaitFailed errno => "Waiting for rescue shell failed: " ++ errno.text
  | rescueSpawnFailed reason => "Failed to spawn rescue shell: " ++ reason.text
  | bootResumed => "Resuming boot..."
  | sessionRefused reason => "Not starting session: " ++ reason.text
  | sessionStarting => "Services ready. Spawning shell..."
  | sessionSpawnFailed reason => "Failed to spawn session shell: " ++ reason.text
  | sessionEnded => "Shell exited. Shutting down..."
  | restartsStopped => "Stopping service restarts"
  | goingDown .restart => "Rebooting..."
  | goingDown .off => "Powering off..."
  | terminating => "Sending SIGTERM to all processes"
  | terminateFailed errno => "kill(-1, SIGTERM): " ++ errno.text
  | killing => "Sending SIGKILL to remaining processes"
  | syncing => "Syncing filesystems"
  | rebootFailed errno => "reboot() failed: " ++ errno.text
  | mountingBasics => "Mounting pseudo-filesystems..."
  | fallingBack reason => reason.text ++ ", falling back to tmpfs"
  | linkFailed link target errno =>
    "Failed to link " ++ link ++ " -> " ++ target ++ ": " ++ errno.ioText
  | alreadyMounted target => target ++ " already mounted"
  | mounted fstype target => "Mounted " ++ fstype ++ " on " ++ target
  | nodeFailed path errno => "Failed to create " ++ path ++ ": " ++ errno.text
  | readingFstab path => "Processing " ++ path ++ "..."
  | fstabUnreadable path reason => "Cannot read " ++ path ++ ": " ++ reason.text
  | remounting target => "Remounting " ++ target ++ " with fstab options"
  | entryMounted target => "Mounted " ++ target
  | entryFailed target errno => "Failed to mount " ++ target ++ ": " ++ errno.text
  | raisingLoopback => "Bringing up loopback..."
  | ipMissing => "'ip' command not found, skipping loopback setup"
  | settingHostname name => "Setting hostname to " ++ name
  | notFirstProcess => "Not running as PID 1; mounts and reboot will likely fail"
  | kernelArguments arguments => "Ignoring kernel arguments: " ++ Text.quotedList arguments

end Notice

end InitDaemon
