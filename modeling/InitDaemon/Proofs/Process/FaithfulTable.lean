import InitDaemon.Proofs.Process.TableEvents
import InitDaemon.Simulation.Script
import Mathlib.Data.List.Induction

/-!
# Faithful tables

After any calls, in any order, the records of a supervisor, its tickets and whoever waits are what
the events of the calls make of them. A tick ends the process that the kernel reports and no other
one, and a call that fails leaves the table as it was.
-/

namespace InitDaemon

open Std InitDaemon.Journal InitDaemon.Units

namespace Supervisor

inductive Call
  | spawn (command : String)
  | launchService (unit : String) (u : UnitDef)
  | spawnAndAwait (command : String)
  | release (pid : Pid)
  | tick (now : Nat)
  | stopRestarts
  /-- Time goes by. -/
  | elapse (delay : Nat)

variable {σ : Type} [Platform σ] {s s' : Supervisor σ}

def perform (s : Supervisor σ) : Call → Supervisor σ
  | .spawn command => (s.spawn command).2
  | .launchService unit u => (s.launchService unit u).2
  | .spawnAndAwait command => (s.spawnAndAwait command).2
  | .release pid => s.release pid
  | .tick now => (s.tick now).2
  | .stopRestarts => s.stopRestarts
  | .elapse delay => { s with toWorld := s.toWorld.elapse delay }

/-- The events of a call: what the journal tells, and the tickets and releases. -/
def eventsOf (s : Supervisor σ) : Call → List Event
  | .spawnAndAwait command =>
    match s.spawnAndAwait command with
    | (.ok completion, s') => .awaited completion.pid completion.ticket :: s.toldSince s'
    | (.error _, s') => s.toldSince s'
  | .release pid => [.ended pid none]
  | call => s.toldSince (s.perform call)

/-- The events of a sequence of calls, latest first, and the supervisor after them. -/
def performAll (s : Supervisor σ) (calls : List Call) : List Event × Supervisor σ :=
  calls.foldl (fun (events, s) call => (s.eventsOf call ++ events, s.perform call)) ([], s)

section

variable {past new : List Event} {call : Call}

theorem ticketsInOrder_append (horder : TicketsInOrder past)
    (hnew : ∀ event ∈ new, event.ticket? = none) : TicketsInOrder (new ++ past) := by
  induction new with
  | nil => exact horder
  | cons event new ih =>
    obtain ⟨hevent, hrest⟩ := List.forall_mem_cons.mp hnew
    cases event with
    | awaited => cases hevent
    | started | filed | ended => exact ih hrest

/-- What a call does to the tables is what its events do. -/
structure Told (past : List Event) (call : Call) (s : Supervisor σ) : Prop where
  table : (s.perform call).table = (s.eventsOf call).foldr (fun event t => t.after event) s.table
  order : TicketsInOrder past → s.table = .ofEvents past → TicketsInOrder (s.eventsOf call ++ past)

/-- A call that gives out no ticket and releases nothing. -/
theorem told_of_journal {records : List Record}
    (hevents : s.eventsOf call = s.toldSince (s.perform call))
    (hjournal : (s.perform call).journal = records ++ s.journal)
    (htable : (s.perform call).table =
      (records.filterMap told).foldr (fun event t => t.after event) s.table) : Told past call s where
  table := by rw [hevents, toldSince_eq hjournal, htable]
  order horder _ := by
    rw [hevents, toldSince_eq hjournal]
    exact ticketsInOrder_append horder ticket?_of_told

theorem told_of_follows (hevents : s.eventsOf call = s.toldSince (s.perform call))
    (h : ∃ new, Follows new s (s.perform call)) : Told past call s := by
  obtain ⟨records, hrecords⟩ := h
  exact told_of_journal hevents hrecords.journal hrecords.table

/-- The events of a tick that collects a process. -/
theorem tick_reaped {now : Nat} {pid : Pid} {status : ExitStatus} {w : World σ}
    (h : (s.launchDueRestarts now).toWorld.tryWaitAny = (.ok (some (pid, status)), w))
    (htick : s.tick now =
      (.reaped pid, { s.launchDueRestarts now with toWorld := w }.handleExit pid status now)) :
    ∃ earlier later r, told r = some (.ended pid (some status)) ∧
      Follows earlier s (s.launchDueRestarts now) ∧
      (s.tick now).2.journal = later ++ r :: (earlier ++ s.journal) ∧
      (s.tick now).2.table = (later.filterMap told).foldr (fun event t => t.after event)
        ((s.launchDueRestarts now).table.after (.ended pid (some status))) ∧
      ∀ event ∈ later.filterMap told, ¬ event.IsEnd := by
  obtain ⟨-, rfl⟩ := Prod.ext_iff.mp h
  obtain ⟨earlier, hearlier⟩ := (s.starts_launchDueRestarts now).follows
  obtain ⟨later, hlater⟩ := (starts_handleExit pid status now { s.launchDueRestarts now with
    toWorld := (s.launchDueRestarts now).toWorld.tryWaitAny.2 }).follows
  obtain ⟨r, hr, hjournal⟩ := journal_collect
    { s.launchDueRestarts now with toWorld := (s.launchDueRestarts now).toWorld.tryWaitAny.2 }
    pid status
  refine ⟨earlier, later, r, hr, hearlier, ?_, ?_, hlater.no_end⟩
  · rw [htick, hlater.journal, hjournal]
    exact congrArg (fun rest => later ++ r :: rest) hearlier.journal
  · rw [htick, hlater.table, table_collect]
    rfl

theorem told_tick (now : Nat) (s : Supervisor σ) : Told past (.tick now) s := by
  rcases s.tick_cases now with ⟨pid, status, w, h, htick⟩ | ⟨-, -, hnew⟩
  · obtain ⟨earlier, later, r, hr, hearlier, hjournal, htable, -⟩ := tick_reaped h htick
    have hjournal' : (s.perform (.tick now)).journal = (later ++ r :: earlier) ++ s.journal := by
      rw [List.append_assoc]
      exact hjournal
    refine told_of_journal rfl hjournal' ?_
    rw [List.filterMap_append, List.filterMap_cons_some hr, List.foldr_append, List.foldr_cons,
      ← hearlier.table]
    exact htable
  · exact told_of_follows rfl hnew

theorem told_spawnAndAwait (command : String) (s : Supervisor σ) :
    Told past (.spawnAndAwait command) s := by
  rcases h : s.spawn command with ⟨e | pid, t⟩
  · have hcall : s.spawnAndAwait command = (.error e, t) := by rw [spawnAndAwait, h]
    refine told_of_follows ?_ ?_
    · rw [eventsOf, perform, hcall]
    · rw [perform, hcall]
      exact (spawn_failed h).1.follows
  · obtain ⟨argv, hjournal, htable⟩ := spawn_ok h
    have hsettled := t.table_settle pid none
    have hnext : (t.settle pid none).nextTicket = s.nextTicket :=
      calc (t.settle pid none).nextTicket
        _ = (t.table.settle pid none).nextTicket := congrArg Table.nextTicket hsettled
        _ = t.table.nextTicket := Table.nextTicket_settle
        _ = s.nextTicket := congrArg Table.nextTicket htable
    have hcall : s.spawnAndAwait command = (.ok ⟨pid, s.nextTicket⟩,
        { t.settle pid none with
          waiters := (t.settle pid none).waiters.insert pid s.nextTicket
          nextTicket := s.nextTicket + 1 }) := by
      rw [spawnAndAwait, h, ← hnext]
    have hevents : s.eventsOf (.spawnAndAwait command) =
        [.awaited pid s.nextTicket, .started pid (argv.headD "")] := by
      have htold : s.toldSince (t.settle pid none) = [.started pid (argv.headD "")] :=
        (toldSince_eq (((journal_settle t pid none).trans hjournal).trans List.singleton_append.symm))
      simp only [eventsOf, hcall]
      exact congrArg (.awaited pid s.nextTicket :: ·) htold
    constructor
    · rw [hevents, perform, hcall, List.foldr_cons, List.foldr_cons, List.foldr_nil, ← htable,
        Table.after, ← hsettled]
      rfl
    · intro horder hs
      rw [hevents]
      exact ⟨congrArg Table.nextTicket hs, ⟨_, past, rfl⟩, horder⟩

theorem told_call (past : List Event) (call : Call) (s : Supervisor σ) : Told past call s := by
  cases call with
  | spawn command => exact told_of_follows rfl (s.starts_spawn command).follows
  | launchService unit u => exact told_of_follows rfl (s.starts_launchService unit u).follows
  | spawnAndAwait command => exact s.told_spawnAndAwait command
  | release pid => exact ⟨s.table_release pid, fun horder _ => horder⟩
  | tick now => exact s.told_tick now
  | stopRestarts => exact told_of_follows rfl ⟨[], .of_aside rfl (List.forall_mem_nil _) rfl rfl⟩
  | elapse delay => exact told_of_follows rfl ⟨[], .of_aside rfl (List.forall_mem_nil _) rfl rfl⟩

theorem performAll_concat (s : Supervisor σ) (calls : List Call) (call : Call) :
    s.performAll (calls ++ [call]) =
      ((s.performAll calls).2.eventsOf call ++ (s.performAll calls).1,
        (s.performAll calls).2.perform call) := by
  simp [performAll]

theorem told_calls (hs : s.table = .empty) (calls : List Call) :
    (s.performAll calls).2.table = .ofEvents (s.performAll calls).1 ∧
      TicketsInOrder (s.performAll calls).1 := by
  induction calls using List.reverseRecOn with
  | nil => exact ⟨hs, trivial⟩
  | append_singleton calls call ih =>
    obtain ⟨htable, horder⟩ := ih
    have htold := told_call (s.performAll calls).1 call (s.performAll calls).2
    rw [performAll_concat]
    refine ⟨?_, htold.order horder htable⟩
    rw [htold.table, htable, Table.ofEvents, Table.ofEvents, List.foldr_append]

end

/-! ## The table of a supervisor -/

/-- What holds of a supervisor after the events that it has seen, latest first. -/
structure Faithful (events : List Event) (s : Supervisor σ) : Prop where
  recorded : ∀ pid, s.processes[pid]? = recordOf pid events
  waited : ∀ pid, pid ∈ s.waiters → pid ∈ s.processes
  resolved : ∀ ticket, s.settled[ticket]? = outcomeOf ticket events
  /-- No number is given out twice as long as a ticket for its first process is open. -/
  own : ∀ pid program past ticket, .started pid program :: past <:+ events →
    awaitedBy ticket past = some pid → outcomeOf ticket past ≠ none
  tickets : (events.filterMap Event.ticket?).Nodup
  /-- A tick ends the process that the kernel reports, with the reported status, and no other. -/
  reported : ∀ now pid outcome, .ended pid outcome ∈ s.eventsOf (.tick now) ↔
    ∃ status w, outcome = some status ∧
      (s.launchDueRestarts now).toWorld.tryWaitAny = (.ok (some (pid, status)), w)
  unknown : ∀ now pid s', s.tick now = (.reaped pid, s') →
    pid ∉ (s.launchDueRestarts now).processes → s'.table = (s.launchDueRestarts now).table
  spawn_failed : ∀ command e s', s.spawn command = (.error e, s') → s'.table = s.table
  launch_failed : ∀ unit u e s', s.launchService unit u = (.error e, s') → s'.table = s.table
  await_failed : ∀ command e s', s.spawnAndAwait command = (.error e, s') → s'.table = s.table

theorem ended_mem_tick (now : Nat) (pid : Pid) (outcome : Option ExitStatus) (s : Supervisor σ) :
    .ended pid outcome ∈ s.eventsOf (.tick now) ↔ ∃ status w, outcome = some status ∧
      (s.launchDueRestarts now).toWorld.tryWaitAny = (.ok (some (pid, status)), w) := by
  rcases s.tick_cases now with ⟨pid', status, w, h, htick⟩ | ⟨hnone, -, new, hnew⟩
  · obtain ⟨earlier, later, r, hr, hearlier, hjournal, -, hlater⟩ := tick_reaped h htick
    have hevents : s.eventsOf (.tick now) = later.filterMap told ++
        .ended pid' (some status) :: earlier.filterMap told := by
      rw [← List.cons_append, ← List.append_assoc] at hjournal
      rw [← List.filterMap_cons_some hr, ← List.filterMap_append]
      exact toldSince_eq hjournal
    rw [hevents, List.mem_append, List.mem_cons, h]
    constructor
    · rintro (hmem | heq | hmem)
      · exact (hlater _ hmem trivial).elim
      · cases heq
        exact ⟨status, w, rfl, rfl⟩
      · exact (hearlier.no_end _ hmem trivial).elim
    · rintro ⟨status', w', rfl, heq⟩
      cases heq
      exact .inr (.inl rfl)
  · refine ⟨fun hmem => ?_, fun ⟨status, w, _, h⟩ => absurd h (hnone pid status w)⟩
    have hevents : s.eventsOf (.tick now) = new.filterMap told := toldSince_eq hnew.journal
    rw [hevents] at hmem
    exact (hnew.no_end _ hmem trivial).elim

/-- Collecting a process without a record leaves the tables as the tick's first part made them. -/
theorem tick_unknown {now : Nat} {pid : Pid} (hs : s.table.Present)
    (htick : s.tick now = (.reaped pid, s')) (hpid : pid ∉ (s.launchDueRestarts now).processes) :
    s'.table = (s.launchDueRestarts now).table := by
  rcases s.tick_cases now with ⟨pid', status, w, -, heq⟩ | ⟨-, hnone, -⟩
  · rw [heq] at htick
    cases htick
    obtain ⟨new, hnew⟩ := (s.starts_launchDueRestarts now).follows
    have hlaunched : (s.launchDueRestarts now).table.Present := present_follows hs hnew
    exact table_handleExit (s := { s.launchDueRestarts now with toWorld := w }) hpid hlaunched
      status now
  · exact absurd (congrArg Prod.fst htick) (hnone pid)

/-- The table of a supervisor, the tickets and whoever waits are at any time what the calls so far
and the answers of the kernel make of them. -/
theorem faithful_performAll (s : Supervisor σ) (calls : List Call) (hnew : s.table = .empty)
    (hfree : NumbersFree (s.performAll calls).1) :
    Faithful (s.performAll calls).1 (s.performAll calls).2 := by
  obtain ⟨htable, horder⟩ := s.told_calls hnew calls
  have haccounts := Accounts.of_events _ hfree horder
  rw [← htable] at haccounts
  constructor
  case recorded => exact haccounts.processes
  case waited => exact haccounts.present
  case resolved => exact haccounts.settled
  case own =>
    intro pid program past ticket hsuffix hawaited
    have hpast := (List.suffix_cons _ _).trans hsuffix
    exact (Accounts.of_events past (hfree.suffix hpast) (horder.suffix hpast)).settled_before_reuse
      (hfree.suffix hsuffix) hawaited
  case tickets => exact Accounts.nodup_tickets _ hfree horder
  case reported => exact fun now pid outcome => ended_mem_tick now pid outcome _
  case unknown => exact fun now pid s' => tick_unknown haccounts.present
  case spawn_failed => exact fun command e s' h => (spawn_failed h).2
  case launch_failed => exact fun unit u e s' h => launchService_failed h
  case await_failed => exact fun command e s' h => spawnAndAwait_failed h

/-! ## A number that is used twice -/

/-- Both programs get the same number, and end with different statuses. -/
def sharedNumber : Simulation.Script where
  children.firstPids :=
    ((∅ : ExtTreeMap String Int).insert "/sbin/probe" 7).insert "/sbin/web" 7
  children.endings :=
    ((∅ : ExtTreeMap String Simulation.Endings).insert "/sbin/probe" (.always ⟨.exited 3, 0⟩)).insert
      "/sbin/web" (.always ⟨.signaled 9, 5⟩)

def sharedCalls : List Call :=
  [.spawnAndAwait "/sbin/probe -q", .tick 0,
    .launchService "web.service" { start := .command "/sbin/web" }, .elapse 5, .tick 5]

def sharedStart : Supervisor Simulation.Script where
  machine := sharedNumber
  config := {}
  graph := {}
  crashes := { window := 100, threshold := 3, cooldown := 200 }

theorem shared_number_faithful :
    sharedStart.table = .empty ∧ NumbersFree (sharedStart.performAll sharedCalls).1 ∧
      Faithful (sharedStart.performAll sharedCalls).1 (sharedStart.performAll sharedCalls).2 ∧
      (sharedStart.performAll sharedCalls).2.settled[0]? = some (some (.exited 3)) := by
  have hnew : sharedStart.table = .empty := rfl
  have hfree : NumbersFree (sharedStart.performAll sharedCalls).1 := by decide +kernel
  have hfaithful : Faithful (sharedStart.performAll sharedCalls).1
      (sharedStart.performAll sharedCalls).2 := by
    apply faithful_performAll sharedStart sharedCalls
    · exact hnew
    · exact hfree
  have houtcome : outcomeOf 0 (sharedStart.performAll sharedCalls).1 = some (some (.exited 3)) := by
    decide +kernel
  have hsettled : (sharedStart.performAll sharedCalls).2.settled[0]? = some (some (.exited 3)) := by
    rw [hfaithful.resolved, houtcome]
  exact ⟨hnew, hfree, hfaithful, hsettled⟩

example : (sharedStart.performAll sharedCalls).1 =
    [.ended 7 (some (.signaled 9)), .filed 7 "web.service", .started 7 "/sbin/web",
      .ended 7 (some (.exited 3)), .awaited 7 0, .started 7 "/sbin/probe"] := by
  decide +kernel

end Supervisor

end InitDaemon
