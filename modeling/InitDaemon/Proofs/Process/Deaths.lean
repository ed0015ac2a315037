import InitDaemon.Proofs.Process.TableEvents
import InitDaemon.Simulation.Machine
import Mathlib.Data.List.Basic

/-!
# No death is lost

The kernel tells the death of a child once, in a word. Whatever it has told before in the same look,
a tick that is told the death of a recorded child by an exit or by a signal with a name does all
that is to be done about it. The kernel has signals without a name as well: the word that tells of
one of these cannot be read, and the child that it killed keeps its record for ever.
-/

namespace InitDaemon

open Std InitDaemon.Units

/-! ## What kills a child -/

inductive Death
  | exit (code : Fin 256)
  | kill (signal : Nat) (core : Bool)
deriving DecidableEq, Repr

namespace Death

/-- The code stands in the second byte, the signal in the first, with a bit for a core dump. -/
def word : Death → Nat
  | exit code => code.val * 256
  | kill signal core => signal + if core then 128 else 0

def status : Death → ExitStatus
  | exit code => .exited code.val
  | kill signal _ => .signaled signal

/-- The signals are those from 1 to 64. -/
def Possible : Death → Prop
  | exit _ => True
  | kill signal _ => 1 ≤ signal ∧ signal ≤ 64

def Named : Death → Prop
  | exit _ => True
  | kill signal _ => signal ≤ 31

instance : DecidablePred Named
  | exit _ => inferInstanceAs (Decidable True)
  | kill signal _ => inferInstanceAs (Decidable (signal ≤ 31))

instance : DecidablePred Possible
  | exit _ => inferInstanceAs (Decidable True)
  | kill signal _ => inferInstanceAs (Decidable (1 ≤ signal ∧ signal ≤ 64))

variable {death : Death} {pid : Pid}

theorem change_of_named (hpid : pid ≠ 0) (hdeath : death.Possible) (hnamed : death.Named) :
    WaitAnswer.change ⟨pid, death.word⟩ = .ok (.ended pid death.status) := by
  cases death with
  | exit code =>
    have hterm : WaitAnswer.termSignal (code.val * 256) = 0 := by
      rw [WaitAnswer.termSignal]
      omega
    have hcode : WaitAnswer.exitCode (code.val * 256) = code.val := by
      have hlt := code.isLt
      rw [WaitAnswer.exitCode]
      omega
    simp only [WaitAnswer.change, word, hterm, hcode, status, hpid, if_false, if_true]
  | kill signal core =>
    obtain ⟨hpos, -⟩ := hdeath
    have hterm : WaitAnswer.termSignal (word (kill signal core)) = signal := by
      have hle : signal ≤ 31 := hnamed
      rw [WaitAnswer.termSignal, word]
      split <;> omega
    have hname : WaitAnswer.namedSignal signal = .ok signal := if_pos ⟨hpos, hnamed⟩
    have hle : signal ≤ 31 := hnamed
    have h0 : signal ≠ 0 := by omega
    have h127 : signal ≠ 127 := by omega
    simp only [WaitAnswer.change, hterm, hname, hpid, h0, h127, if_false, ne_eq, not_false_eq_true,
      if_true]
    rfl

theorem change_of_nameless (hpid : pid ≠ 0) (hdeath : death.Possible) (hnamed : ¬ death.Named) :
    WaitAnswer.change ⟨pid, death.word⟩ = .error .EINVAL := by
  cases death with
  | exit code => exact absurd trivial hnamed
  | kill signal core =>
    obtain ⟨-, hle⟩ := hdeath
    have hlt : 31 < signal := Nat.lt_of_not_le hnamed
    have hterm : WaitAnswer.termSignal (word (kill signal core)) = signal := by
      rw [WaitAnswer.termSignal, word]
      split <;> omega
    have hname : WaitAnswer.namedSignal signal = .error .EINVAL := if_neg (by omega)
    have h0 : signal ≠ 0 := by omega
    have h127 : signal ≠ 127 := by omega
    simp only [WaitAnswer.change, hterm, hname, hpid, h0, h127, if_false, ne_eq, not_false_eq_true,
      if_true]
    rfl

end Death

/-! ## Answers that are given in advance -/

/-- A machine whose looks for children are answered from a list, and which has no children after
its end. -/
structure Tape (σ : Type) where
  machine : σ
  answers : List (Except Errno WaitAnswer)

namespace Tape

variable {σ : Type}

def lift {α : Type} (f : σ → α × σ) (t : Tape σ) : α × Tape σ :=
  ((f t.machine).1, { t with machine := (f t.machine).2 })

def waitAny (t : Tape σ) : Except Errno WaitAnswer × Tape σ :=
  match t.answers with
  | [] => (.error .ECHILD, t)
  | answer :: rest => (answer, { t with answers := rest })

instance [Files σ] : Files (Tape σ) where
  readText path t := Files.readText path t.machine
  present path t := Files.present path t.machine
  isDirectory path t := Files.isDirectory path t.machine
  device? path t := Files.device? path t.machine
  isExecutable path t := Files.isExecutable path t.machine
  makeDirectory path := lift (Files.makeDirectory path)
  mount call := lift (Files.mount call)
  makeNode node := lift (Files.makeNode node)
  makeLink target link := lift (Files.makeLink target link)
  setHostname name := lift (Files.setHostname name)
  run program argv env := lift (Files.run program argv env)

instance [Kernel σ] : Kernel (Tape σ) where
  setTime time t := { t with machine := Kernel.setTime time t.machine }
  fork argv env := lift (Kernel.fork argv env)
  waitAny := waitAny
  waitFor pid := lift (Kernel.waitFor pid)
  signalAll signal := lift (Kernel.signalAll signal)
  sync t := { t with machine := Kernel.sync t.machine }
  reboot state := lift (Kernel.reboot state)
  backlog t := t.answers.length + Kernel.backlog t.machine
  backlog_waitAny t a t' h _ := by
    rw [waitAny] at h
    split at h
    next => cases h
    next answer rest heq =>
      cases h
      have hless : rest.length < t.answers.length := by
        rw [heq]
        exact Nat.lt_succ_self _
      exact Nat.add_lt_add_right hless _
  backlog_waitFor pid t time r t' h hr := by
    obtain ⟨hanswer, rfl⟩ := Prod.ext_iff.mp h
    have hless := Kernel.backlog_waitFor pid t.machine time r _ (Prod.ext hanswer rfl) hr
    exact Nat.add_lt_add_left hless _

section

variable [Kernel σ] {m : σ} {answers rest : List (Except Errno WaitAnswer)} {a : WaitAnswer}
  {e : Errno}

theorem tryWaitAny_nil : Kernel.tryWaitAny (⟨m, []⟩ : Tape σ) = (.error .ECHILD, ⟨m, []⟩) := by
  rw [Kernel.tryWaitAny]
  split
  next h => cases h; rfl
  next h => cases h

theorem tryWaitAny_error :
    Kernel.tryWaitAny (⟨m, .error e :: rest⟩ : Tape σ) = (.error e, ⟨m, rest⟩) := by
  rw [Kernel.tryWaitAny]
  split
  next h => cases h; rfl
  next h => cases h

/-- A look ends with the first answer that is neither a stop nor a continuation. -/
theorem tryWaitAny_ok : Kernel.tryWaitAny (⟨m, .ok a :: rest⟩ : Tape σ) =
    match a.change with
    | .error e => (.error e, ⟨m, rest⟩)
    | .ok .unchanged => (.ok none, ⟨m, rest⟩)
    | .ok (.ended pid status) => (.ok (some (pid, status)), ⟨m, rest⟩)
    | .ok (.stopped _) | .ok (.continued _) => Kernel.tryWaitAny ⟨m, rest⟩ := by
  rw [Kernel.tryWaitAny]
  split
  next h => cases h
  next h =>
    cases h
    split
    all_goals next heq => simp only [heq]

theorem answers_spawn (argv env : List String) (t : Tape σ) :
    (Kernel.spawn argv env t).2.answers = t.answers := by
  rw [Kernel.spawn]
  split
  · rfl
  · split <;> rfl

/-- A look takes some of the answers, and never passes over the death of a child among them. -/
theorem tryWaitAny_reads (m : σ) (answers : List (Except Errno WaitAnswer)) :
    ∃ consumed rest, answers = consumed ++ rest ∧
      (Kernel.tryWaitAny (⟨m, answers⟩ : Tape σ)).2 = ⟨m, rest⟩ ∧
      ∀ pid death, .ok ⟨pid, Death.word death⟩ ∈ consumed → pid ≠ 0 → death.Possible →
        (Kernel.tryWaitAny (⟨m, answers⟩ : Tape σ)).1 =
          if death.Named then .ok (some (pid, death.status)) else .error .EINVAL := by
  induction answers with
  | nil =>
    rw [tryWaitAny_nil]
    exact ⟨[], [], rfl, rfl, fun _ _ hmem => absurd hmem List.not_mem_nil⟩
  | cons answer answers ih =>
    cases answer with
    | error e =>
      rw [tryWaitAny_error]
      refine ⟨[.error e], answers, rfl, rfl, fun pid death hmem => ?_⟩
      cases List.mem_singleton.mp hmem
    | ok a =>
      rw [tryWaitAny_ok]
      -- The death that is told is the last answer, or it comes after a stop or a continuation.
      have hlast : ∀ pid death, (.ok ⟨pid, Death.word death⟩ : Except Errno WaitAnswer) = .ok a →
          pid ≠ 0 → death.Possible → a.change =
            if death.Named then .ok (.ended pid death.status) else .error .EINVAL := by
        rintro pid death heq hpid hpossible
        cases heq
        split
        next hnamed => exact Death.change_of_named hpid hpossible hnamed
        next hnamed => exact Death.change_of_nameless hpid hpossible hnamed
      cases hchange : a.change with
      | error e =>
        refine ⟨[.ok a], answers, rfl, rfl, fun pid death hmem hpid hpossible => ?_⟩
        have hread := hlast pid death (List.mem_singleton.mp hmem) hpid hpossible
        rw [hchange] at hread
        split at hread
        next => cases hread
        next hnameless => cases hread; exact (if_neg hnameless).symm
      | ok change =>
        cases change with
        | unchanged =>
          refine ⟨[.ok a], answers, rfl, rfl, fun pid death hmem hpid hpossible => ?_⟩
          have hread := hlast pid death (List.mem_singleton.mp hmem) hpid hpossible
          rw [hchange] at hread
          split at hread <;> cases hread
        | ended child status =>
          refine ⟨[.ok a], answers, rfl, rfl, fun pid death hmem hpid hpossible => ?_⟩
          have hread := hlast pid death (List.mem_singleton.mp hmem) hpid hpossible
          rw [hchange] at hread
          split at hread
          next hnamed => cases hread; exact (if_pos hnamed).symm
          next => cases hread
        | stopped child | continued child =>
          obtain ⟨consumed, rest, rfl, hrest, hreads⟩ := ih
          refine ⟨.ok a :: consumed, rest, rfl, hrest, fun pid death hmem hpid hpossible => ?_⟩
          rcases List.mem_cons.mp hmem with heq | hmem
          · have hread := hlast pid death heq hpid hpossible
            rw [hchange] at hread
            split at hread <;> cases hread
          · exact hreads pid death hmem hpid hpossible

end

end Tape

namespace Supervisor

variable {σ : Type} [Files σ] [Kernel σ] {s s' : Supervisor (Direct (Tape σ))} {now : Nat}
  {pid : Pid} {death : Death}

/-- The answers that the kernel still has for the init. -/
def answers (s : Supervisor (Direct (Tape σ))) : List (Except Errno WaitAnswer) :=
  s.machine.machine.answers

theorem answers_onlySpawns {m m' : Direct (Tape σ)} (h : OnlySpawns m m') :
    m'.machine.answers = m.machine.answers := by
  induction h with
  | refl => rfl
  | tail _ hspawn ih =>
    obtain ⟨time, argv, env, rfl⟩ := hspawn
    exact (Tape.answers_spawn argv env _).trans ih

/-- What is done at once when a process has been collected. -/
structure Collects {σ : Type} (pid : Pid) (status : ExitStatus) (s s' : Supervisor σ) : Prop where
  processes : s'.processes = s.processes.erase pid
  waiters : s'.waiters[pid]? = none
  told : ∀ ticket, s.waiters[pid]? = some ticket → s'.settled[ticket]? = some (some status)
  graph : s'.graph = s.graph
  crashes : s'.crashes = s.crashes
  stopping : s'.stopping = s.stopping

theorem collects_collect {σ : Type} (s : Supervisor σ) (pid : Pid) (status : ExitStatus) :
    Collects pid status s (s.collect pid status) := by
  have htable := s.table_collect pid status
  obtain ⟨display, waiters, settled, heq⟩ := s.collect_eq pid status
  refine ⟨by rw [heq], ?_, fun ticket hticket => ?_, by rw [heq], by rw [heq], by rw [heq]⟩
  · exact settle_waiters _ _ _
  · have hwaits : s.table.waiters[pid]? = some ticket := hticket
    have hsettled := congrArg Table.settled htable
    rw [Table.after, Table.settle, hwaits] at hsettled
    change (s.collect pid status).table.settled[ticket]? = _
    rw [hsettled]
    exact ExtTreeMap.getElem?_insert_self

/-- A tick takes the answers of one look and no others. -/
theorem tick_reads (s : Supervisor (Direct (Tape σ))) (now : Nat) :
    ∃ consumed, s.answers = consumed ++ (s.tick now).2.answers ∧
      ∀ pid death, .ok ⟨pid, Death.word death⟩ ∈ consumed → pid ≠ 0 → death.Possible →
        (s.launchDueRestarts now).toWorld.tryWaitAny.1 =
          if death.Named then .ok (some (pid, death.status)) else .error .EINVAL := by
  have hlaunched := answers_onlySpawns (s.starts_launchDueRestarts now).machine
  obtain ⟨consumed, rest, hanswers, hlook, hreads⟩ := Tape.tryWaitAny_reads
    (Kernel.setTime (s.launchDueRestarts now).now (s.launchDueRestarts now).machine.machine.machine)
    (s.launchDueRestarts now).answers
  refine ⟨consumed, ?_, hreads⟩
  have hrest : (s.launchDueRestarts now).toWorld.tryWaitAny.2.machine.machine.answers = rest :=
    congrArg Tape.answers hlook
  have hleft : (s.tick now).2.answers = rest := by
    rw [tick]
    split
    next pid status w heq =>
      rw [heq] at hrest
      have hhandled := answers_onlySpawns (starts_handleExit pid status now
        { s.launchDueRestarts now with toWorld := w }).machine
      obtain ⟨display, waiters, settled, hcollected⟩ :=
        collect_eq { s.launchDueRestarts now with toWorld := w } pid status
      rw [hcollected] at hhandled
      exact hhandled.trans hrest
    next heq => rw [heq] at hrest; exact hrest
    next heq => rw [heq] at hrest; exact hrest
    next heq => rw [heq] at hrest; exact hrest
  rw [hleft, ← hanswers]
  exact hlaunched.symm

/-- The tick that is told a death which cannot be read fails, and all records stay. -/
theorem tick_of_error {σ : Type} [Platform σ] {s : Supervisor σ} {e : Errno} (he : e ≠ .ECHILD)
    (h : (s.launchDueRestarts now).toWorld.tryWaitAny.1 = .error e) :
    (s.tick now).1 = .failed ∧ (s.tick now).2.table = (s.launchDueRestarts now).table := by
  rcases hlook : (s.launchDueRestarts now).toWorld.tryWaitAny with ⟨r, w⟩
  rw [hlook] at h
  subst h
  rw [tick, hlook]
  cases e
  case ECHILD => exact absurd rfl he
  all_goals exact ⟨rfl, rfl⟩

/-- The tick that is told the death of a process with a record collects the process and applies the
restart policy of its unit. -/
theorem tick_of_ended {σ : Type} [Platform σ] {s : Supervisor σ} {status : ExitStatus}
    {record : ProcessRecord} (hrecord : (s.launchDueRestarts now).processes[pid]? = some record)
    (h : (s.launchDueRestarts now).toWorld.tryWaitAny.1 = .ok (some (pid, status))) :
    ∃ collected, Collects pid status (s.launchDueRestarts now) collected ∧
      s.tick now = (.reaped pid, match record.unit with
        | some unit => collected.applyRestartPolicy unit now
        | none => collected) := by
  rcases hlook : (s.launchDueRestarts now).toWorld.tryWaitAny with ⟨r, w⟩
  rw [hlook] at h
  subst h
  have hcollects := collects_collect { s.launchDueRestarts now with toWorld := w } pid status
  refine ⟨_, ⟨hcollects.processes, hcollects.waiters, hcollects.told, hcollects.graph,
    hcollects.crashes, hcollects.stopping⟩, ?_⟩
  have hrecord' : ({ s.launchDueRestarts now with toWorld := w } : Supervisor σ).processes[pid]? =
      some record := hrecord
  rw [tick, hlook]
  refine congrArg (Prod.mk (Tick.reaped pid)) ?_
  cases hunit : record.unit
  all_goals rw [handleExit_eq, hrecord', Option.bind_some, hunit]

/-- The waiter of a process that has been collected keeps its answer whatever the restart policy
starts. -/
theorem settled_applyRestartPolicy {σ : Type} [Platform σ] (unit : String) (s : Supervisor σ) :
    (s.applyRestartPolicy unit now).settled = s.settled := by
  obtain ⟨new, hnew⟩ := (s.starts_applyRestartPolicy unit now).follows
  obtain ⟨processes, htable, -⟩ := table_follows hnew
  exact congrArg Table.settled htable

/-- The service of `web` runs with number 7, and someone waits for its end. -/
def watched (answers : List (Except Errno WaitAnswer)) :
    Supervisor (Direct (Tape Simulation.Machine)) where
  machine := ⟨⟨{}, answers⟩⟩
  config := {}
  graph.disk := (∅ : ExtTreeMap String UnitDef).insert "web"
    { start := .command "/sbin/web", restart := .always }
  processes := (∅ : ExtTreeMap Pid ProcessRecord).insert 7 ⟨"web", some "web"⟩
  waiters := (∅ : ExtTreeMap Pid Ticket).insert 7 0
  nextTicket := 1
  crashes := { window := 100, threshold := 3, cooldown := 200 }

def stopped : Except Errno WaitAnswer := .ok ⟨7, 20 * 256 + 127⟩

def killedAfterStop : List (Except Errno WaitAnswer) :=
  [stopped, .ok ⟨7, (Death.kill 9 true).word⟩]

end Supervisor

end InitDaemon
