import InitDaemon.Host.Setup

/-!
# Loopback and host name
-/

namespace InitDaemon.Host

open Setup Text

def ipPaths : List String :=
  ["/sbin/ip", "/bin/ip", "/usr/bin/ip", "/usr/sbin/ip"]

def ipArguments : List String :=
  ["link", "set", "lo", "up"]

def helperPath : String := "PATH=/sbin:/usr/sbin:/bin:/usr/bin"

def hostnamePath : String := "/etc/hostname"

def fallbackHostname : String := "localhost"

/-- The trimmed text of the host name file, if there is one that is not blank. -/
def hostnameOf (content : Option String) : String :=
  match content.map fun text => trim text.toList with
  | some (c :: cs) => String.ofList (c :: cs)
  | _ => fallbackHostname

variable {σ : Type} [Files σ]

/-- Brings the loopback interface up. A machine without the program for it does without. -/
def startNetwork : Setup HostError σ Unit := do
  say .raisingLoopback
  match ← ask fun m => ipPaths.find? fun path => isExecutable path m with
  | none => say .ipMissing
  | some ip =>
    match ← call (Files.run ip (ip :: ipArguments) [helperPath]) with
    | .error e => throw (.command (" ".intercalate (ip :: ipArguments)) e)
    | .ok status => unless status.success do throw (.status (status.code?.getD (-1)))

def setHostname : Setup HostError σ Unit := do
  let name := hostnameOf (← ask (Files.readText hostnamePath)).toOption
  say (.settingHostname name)
  match ← call (Files.setHostname name) with
  | .ok () => return
  | .error e => throw (.hostname e)

end InitDaemon.Host
