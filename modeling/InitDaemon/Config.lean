/-!
# Configuration

There is no configuration file: a boot takes the defaults. Durations are in milliseconds.
-/

namespace InitDaemon

structure Config where
  unitDirs : List String := ["/usr/lib/systemd/system", "/usr/lib/systemd/user"]
  bootTarget : String := "lightdm.service"
  foundation : List String := ["mounts", "network", "hostname"]
  session : String := "/bin/bash"
  rescue : String := "/bin/sh"
  /-- The environment of every process that is spawned. -/
  env : List String :=
    ["PATH=/usr/local/sbin:/usr/local/bin:/usr/sbin:/usr/bin:/sbin:/bin", "TERM=linux",
      "HOME=/root", "USER=root"]
  /-- The time that a new service gets before its dependents are released. -/
  settleDelay : Nat := 100
  /-- The longest sleep between two looks for exited children. -/
  idleInterval : Nat := 500
  /-- The pause after a failed look for exited children. -/
  errorBackoff : Nat := 5000
  crashWindow : Nat := 15000
  crashThreshold : Nat := 5
  crashCooldown : Nat := 300000
  /-- The time between the two signals of a shutdown. -/
  shutdownGrace : Nat := 5000
deriving DecidableEq, Repr, Inhabited

end InitDaemon
