import InitDaemon.CommandLine
import InitDaemon.Config
import InitDaemon.CrashTracker
import InitDaemon.Errno
import InitDaemon.ExitStatus
import InitDaemon.Failure
import InitDaemon.Fstab
import InitDaemon.Host.Files
import InitDaemon.Host.Mount
import InitDaemon.Host.Network
import InitDaemon.Host.Path
import InitDaemon.Host.Setup
import InitDaemon.Init.Basic
import InitDaemon.Init.Lifecycle
import InitDaemon.Init.Poll
import InitDaemon.Init.Start
import InitDaemon.Init.Task
import InitDaemon.Log.Filter
import InitDaemon.Log.Level
import InitDaemon.Log.Line
import InitDaemon.Main
import InitDaemon.Notice
import InitDaemon.Power
import InitDaemon.Process.Kernel
import InitDaemon.Process.Pid
import InitDaemon.Process.Platform
import InitDaemon.Process.WaitStatus
import InitDaemon.Program
import InitDaemon.Proofs.CrashHistory
import InitDaemon.Proofs.FstabLines
import InitDaemon.Proofs.FstabOptions
import InitDaemon.Proofs.Host.FstabPhase
import InitDaemon.Proofs.Host.MountRounds
import InitDaemon.Proofs.Init.Agreement
import InitDaemon.Proofs.Init.BootConduct
import InitDaemon.Proofs.Init.BuiltinStarts
import InitDaemon.Proofs.Init.Conduct
import InitDaemon.Proofs.Init.Deadlock
import InitDaemon.Proofs.Init.DependencyOrder
import InitDaemon.Proofs.Init.FinalCalls
import InitDaemon.Proofs.Init.FirstRequest
import InitDaemon.Proofs.Init.NeededUnits
import InitDaemon.Proofs.Init.Operation
import InitDaemon.Proofs.Init.PolicyOrder
import InitDaemon.Proofs.Init.Services
import InitDaemon.Proofs.Init.PollSteps
import InitDaemon.Proofs.Init.RequestChains
import InitDaemon.Proofs.Init.RootCauses
import InitDaemon.Proofs.Init.WindDown
import InitDaemon.Proofs.Init.Shutdown
import InitDaemon.Proofs.Init.SingleStart
import InitDaemon.Proofs.Process.CrashLoops
import InitDaemon.Proofs.Process.Deaths
import InitDaemon.Proofs.Process.Deeds
import InitDaemon.Proofs.Process.FaithfulTable
import InitDaemon.Proofs.Process.Keeping
import InitDaemon.Proofs.Process.Standing
import InitDaemon.Proofs.Process.Ticks
import InitDaemon.Proofs.Process.UnitLaunches
import InitDaemon.Proofs.Process.WaitCalls
import InitDaemon.Proofs.Startup
import InitDaemon.Proofs.Units.FileMeaning
import InitDaemon.Proofs.Units.Pictures
import InitDaemon.Proofs.Units.UnitFiles
import InitDaemon.Proofs.Units.Visits
import InitDaemon.Readiness
import InitDaemon.Simulation.Children
import InitDaemon.Simulation.Machine
import InitDaemon.Simulation.Processes
import InitDaemon.Simulation.Scenario
import InitDaemon.Simulation.Script
import InitDaemon.Simulation.Session
import InitDaemon.Simulation.Shell.Arithmetic
import InitDaemon.Simulation.Shell.Builtins
import InitDaemon.Simulation.Shell.Command
import InitDaemon.Simulation.Shell.Evaluation
import InitDaemon.Simulation.Shell.Expansion
import InitDaemon.Simulation.Shell.FileTree
import InitDaemon.Simulation.Shell.Glob
import InitDaemon.Simulation.Shell.Grammar
import InitDaemon.Simulation.Shell.Lexer
import InitDaemon.Simulation.Shell.Printing
import InitDaemon.Simulation.Shell.Programs
import InitDaemon.Simulation.Shell.State
import InitDaemon.Simulation.Shell.Subshell
import InitDaemon.Simulation.Shell.Test
import InitDaemon.Supervisor
import InitDaemon.Text.Blank
import InitDaemon.Text.ControlSequence
import InitDaemon.Text.Pattern.Basic
import InitDaemon.Text.Pattern.Reader
import InitDaemon.Text.Printable
import InitDaemon.Text.Quoted
import InitDaemon.Units.Basic
import InitDaemon.Units.Cycles
import InitDaemon.Units.Directory
import InitDaemon.Units.Dot
import InitDaemon.Units.File
import InitDaemon.Units.Graph
import InitDaemon.World
