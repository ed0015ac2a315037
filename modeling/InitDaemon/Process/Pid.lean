/-!
# Process numbers
-/

namespace InitDaemon

/-- The number of a process. The kernel's answers are taken as they come, so a number may be
negative. -/
abbrev Pid := Int

end InitDaemon
