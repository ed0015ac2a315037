import InitDaemon.Supervisor
import Mathlib.Tactic.ByContra

/-!
# What the process table holds

A process number names one process after another. A record belongs to the process that got the
number last, for as long as that process has neither been collected nor released; a ticket belongs
to the process that it was given out with, whoever gets the number later. All of this is read off
the events in the order in which they happened, and tables that are brought up to date event by
event are shown to agree with it.
-/

namespace InitDaemon

open Std

namespace Supervisor

inductive Event
  | started (pid : Pid) (program : String)
  | filed (pid : Pid) (unit : String)
  | awaited (pid : Pid) (ticket : Ticket)
  /-- Collected with a status, or released without. -/
  | ended (pid : Pid) (outcome : Option ExitStatus)
deriving DecidableEq, Repr

/-! ## What the events tell, latest first -/

namespace Event

def awaitedAs? (ticket : Ticket) : Event → Option Pid
  | awaited pid other => if other = ticket then some pid else none
  | started .. | filed .. | ended .. => none

def endOf? (pid : Pid) : Event → Option (Option ExitStatus)
  | ended other outcome => if other = pid then some outcome else none
  | started .. | filed .. | awaited .. => none

def started? : Event → Option Pid
  | started pid _ => some pid
  | filed .. | awaited .. | ended .. => none

def ticket? : Event → Option Ticket
  | awaited _ ticket => some ticket
  | started .. | filed .. | ended .. => none

end Event

/-- The record of a number: that of the process which got it last, until its end. -/
def recordOf (pid : Pid) : List Event → Option ProcessRecord
  | [] => none
  | .started other program :: past => if other = pid then some ⟨program, none⟩ else recordOf pid past
  | .filed other unit :: past => if other = pid then some ⟨unit, some unit⟩ else recordOf pid past
  | .awaited .. :: past => recordOf pid past
  | .ended other _ :: past => if other = pid then none else recordOf pid past

/-- The number of the process that a ticket was given out with. -/
def awaitedBy (ticket : Ticket) (events : List Event) : Option Pid :=
  events.findSome? (Event.awaitedAs? ticket)

/-- What happened since a ticket was given out, in the order of time. -/
def sinceAwaited (ticket : Ticket) (events : List Event) : List Event :=
  (events.takeWhile fun event => event.awaitedAs? ticket = none).reverse

/-- The first end that came to the number of a ticket's process. -/
def outcomeOf (ticket : Ticket) (events : List Event) : Option (Option ExitStatus) :=
  (awaitedBy ticket events).bind fun pid =>
    (sinceAwaited ticket events).findSome? (Event.endOf? pid)

/-- No process got a number that still had a record. -/
def NumbersFree : List Event → Prop
  | [] => True
  | event :: past => (∀ pid ∈ event.started?, recordOf pid past = none) ∧ NumbersFree past

instance decidableNumbersFree : DecidablePred NumbersFree
  | [] => .isTrue trivial
  | event :: past =>
    have := decidableNumbersFree past
    inferInstanceAs (Decidable ((∀ pid ∈ event.started?, recordOf pid past = none) ∧
      NumbersFree past))

theorem NumbersFree.suffix {events past : List Event} (h : NumbersFree events)
    (hpast : past <:+ events) : NumbersFree past := by
  obtain ⟨later, rfl⟩ := hpast
  induction later with
  | nil => exact h
  | cons event later ih => exact ih h.2

section History

variable {events past : List Event} {event : Event} {pid other : Pid} {ticket : Ticket}
  {outcome : Option ExitStatus}

theorem awaitedBy_of_none (h : event.awaitedAs? ticket = none) :
    awaitedBy ticket (event :: past) = awaitedBy ticket past := by
  rw [awaitedBy, List.findSome?_cons, h]
  rfl

theorem awaitedBy_of_some (h : event.awaitedAs? ticket = some pid) :
    awaitedBy ticket (event :: past) = some pid := by
  rw [awaitedBy, List.findSome?_cons, h]

theorem outcomeOf_of_none (h : event.awaitedAs? ticket = none) : outcomeOf ticket (event :: past) =
    (outcomeOf ticket past).or ((awaitedBy ticket past).bind fun pid => event.endOf? pid) := by
  rw [outcomeOf, awaitedBy_of_none h, outcomeOf, sinceAwaited, sinceAwaited, List.takeWhile_cons,
    if_pos (decide_eq_true h)]
  cases awaitedBy ticket past with
  | none => rfl
  | some pid => simp [List.findSome?_append]

theorem outcomeOf_of_some (h : event.awaitedAs? ticket = some pid) :
    outcomeOf ticket (event :: past) = none := by
  rw [outcomeOf, sinceAwaited, List.takeWhile_cons, if_neg (by simp [h])]
  simp

theorem outcomeOf_quiet (h : event.awaitedAs? ticket = none) (hend : ∀ pid, event.endOf? pid = none) :
    outcomeOf ticket (event :: past) = outcomeOf ticket past := by
  rw [outcomeOf_of_none h]
  simp [hend]

end History

/-! ## The tables alone -/

structure Table where
  processes : ExtTreeMap Pid ProcessRecord
  waiters : ExtTreeMap Pid Ticket
  settled : ExtTreeMap Ticket (Option ExitStatus)
  nextTicket : Ticket

namespace Table

def empty : Table := ⟨∅, ∅, ∅, 0⟩

def settle (t : Table) (pid : Pid) (outcome : Option ExitStatus) : Table :=
  match t.waiters[pid]? with
  | some ticket =>
    { t with waiters := t.waiters.erase pid, settled := t.settled.insert ticket outcome }
  | none => t

def after (t : Table) : Event → Table
  | .started pid program => { t with processes := t.processes.insert pid ⟨program, none⟩ }
  | .filed pid unit => { t with processes := t.processes.insert pid ⟨unit, some unit⟩ }
  | .awaited pid ticket =>
    { t.settle pid none with
      waiters := (t.settle pid none).waiters.insert pid ticket
      nextTicket := ticket + 1 }
  | .ended pid outcome => { t.settle pid outcome with processes := t.processes.erase pid }

/-- The tables after all events, the latest of which is the first of the list. -/
def ofEvents (events : List Event) : Table :=
  events.foldr (fun event t => t.after event) empty

/-- Whoever is waited for has a record. -/
def Present (t : Table) : Prop :=
  ∀ pid, pid ∈ t.waiters → pid ∈ t.processes

variable {t : Table} {pid : Pid}

theorem settle_of_not_mem (h : pid ∉ t.waiters) (outcome : Option ExitStatus) :
    t.settle pid outcome = t := by
  rw [settle, ExtTreeMap.getElem?_eq_none h]

theorem nextTicket_settle {outcome : Option ExitStatus} :
    (t.settle pid outcome).nextTicket = t.nextTicket := by
  rw [settle]
  split <;> rfl

theorem mem_waiters_settle {other : Pid} {outcome : Option ExitStatus} :
    other ∈ (t.settle pid outcome).waiters ↔ pid ≠ other ∧ other ∈ t.waiters := by
  by_cases hpid : pid ∈ t.waiters
  · obtain ⟨ticket, hticket⟩ := Option.isSome_iff_exists.mp
      (ExtTreeMap.mem_iff_isSome_getElem?.mp hpid)
    rw [settle, hticket]
    simp
  · rw [settle_of_not_mem hpid]
    exact ⟨fun h => ⟨fun heq => hpid (heq ▸ h), h⟩, And.right⟩

theorem present_insert (h : t.Present) (record : ProcessRecord) :
    Present { t with processes := t.processes.insert pid record } :=
  fun other hother => ExtTreeMap.mem_insert.mpr (.inr (h other hother))

theorem present_ended (h : t.Present) (pid : Pid) (outcome : Option ExitStatus) :
    (t.after (.ended pid outcome)).Present := by
  intro other hother
  obtain ⟨hne, hmem⟩ := mem_waiters_settle.mp hother
  exact ExtTreeMap.mem_erase.mpr ⟨fun heq => hne (LawfulEqCmp.eq_of_compare heq), h other hmem⟩

/-- The end of a process without a record changes nothing. -/
theorem after_ended (h : t.Present) (hpid : pid ∉ t.processes) (outcome : Option ExitStatus) :
    t.after (.ended pid outcome) = t := by
  rw [after, settle_of_not_mem (mt (h pid) hpid)]
  have hsame : t.processes.erase pid = t.processes := by
    refine ExtTreeMap.ext_getElem? fun other => ?_
    rw [ExtTreeMap.getElem?_erase]
    split
    next heq =>
      cases LawfulEqCmp.eq_of_compare heq
      exact (ExtTreeMap.getElem?_eq_none hpid).symm
    next => rfl
  rw [hsame]

end Table

/-- Tickets are numbered, and each is given out with a process that has just been started. -/
def TicketsInOrder : List Event → Prop
  | [] => True
  | .awaited pid ticket :: past =>
    ticket = (Table.ofEvents past).nextTicket ∧
      (∃ program earlier, past = .started pid program :: earlier) ∧ TicketsInOrder past
  | .started .. :: past | .filed .. :: past | .ended .. :: past => TicketsInOrder past

theorem TicketsInOrder.suffix {events past : List Event} (h : TicketsInOrder events)
    (hpast : past <:+ events) : TicketsInOrder past := by
  obtain ⟨later, rfl⟩ := hpast
  induction later with
  | nil => exact h
  | cons event later ih =>
    cases event with
    | awaited => exact ih h.2.2
    | started | filed | ended => exact ih h

/-- The tables agree with what the events tell. -/
structure Accounts (events : List Event) (t : Table) : Prop where
  processes : ∀ pid, t.processes[pid]? = recordOf pid events
  settled : ∀ ticket, t.settled[ticket]? = outcomeOf ticket events
  waiting : ∀ pid ticket, t.waiters[pid]? = some ticket ↔
    awaitedBy ticket events = some pid ∧ outcomeOf ticket events = none
  present : t.Present
  bounded : ∀ ticket pid, awaitedBy ticket events = some pid → ticket < t.nextTicket

namespace Accounts

variable {past : List Event} {event : Event} {t : Table} {pid : Pid} {ticket : Ticket}

theorem empty : Accounts [] .empty where
  processes _ := ExtTreeMap.getElem?_empty
  settled _ := ExtTreeMap.getElem?_empty
  waiting pid ticket := by simp [Table.empty, awaitedBy]
  present pid h := absurd h ExtTreeMap.not_mem_empty
  bounded ticket pid h := by cases h

/-- An event that neither gives out a ticket nor ends a process leaves all tickets alone. -/
theorem quiet (h : Accounts past t) {processes : ExtTreeMap Pid ProcessRecord}
    (hticket : ∀ ticket, event.awaitedAs? ticket = none) (hend : ∀ pid, event.endOf? pid = none)
    (hprocesses : ∀ pid, processes[pid]? = recordOf pid (event :: past))
    (hpresent : Table.Present { t with processes := processes }) :
    Accounts (event :: past) { t with processes := processes } where
  processes := hprocesses
  settled ticket := by
    rw [outcomeOf_quiet (hticket ticket) hend]
    exact h.settled ticket
  waiting pid ticket := by
    rw [outcomeOf_quiet (hticket ticket) hend, awaitedBy_of_none (hticket ticket)]
    exact h.waiting pid ticket
  present := hpresent
  bounded ticket pid hawaited := by
    rw [awaitedBy_of_none (hticket ticket)] at hawaited
    exact h.bounded ticket pid hawaited

theorem started (h : Accounts past t) (pid : Pid) (program : String) :
    Accounts (.started pid program :: past) (t.after (.started pid program)) := by
  refine h.quiet (fun _ => rfl) (fun _ => rfl) (fun other => ?_) (Table.present_insert h.present _)
  rw [ExtTreeMap.getElem?_insert, h.processes other, recordOf]
  simp only [Std.compare_eq_iff_eq]

theorem filed (h : Accounts past t) (pid : Pid) (unit : String) :
    Accounts (.filed pid unit :: past) (t.after (.filed pid unit)) := by
  refine h.quiet (fun _ => rfl) (fun _ => rfl) (fun other => ?_) (Table.present_insert h.present _)
  rw [ExtTreeMap.getElem?_insert, h.processes other, recordOf]
  simp only [Std.compare_eq_iff_eq]

/-- Nobody waits for a number without a record. -/
theorem waiters_eq_none (h : Accounts past t) (hpid : recordOf pid past = none) :
    t.waiters[pid]? = none := by
  by_contra hwaits
  have hmem : pid ∈ t.waiters := ExtTreeMap.mem_iff_isSome_getElem?.mpr
    (Option.isSome_iff_ne_none.mpr hwaits)
  have hpresent := ExtTreeMap.mem_iff_isSome_getElem?.mp (h.present pid hmem)
  rw [h.processes, hpid] at hpresent
  cases hpresent

/-- A ticket waits for one number only. -/
theorem waits_for_one {other : Pid} (h : Accounts past t) (hpid : t.waiters[pid]? = some ticket)
    (hother : t.waiters[other]? = some ticket) : pid = other := by
  have hawaited := ((h.waiting pid ticket).mp hpid).1
  rw [((h.waiting other ticket).mp hother).1] at hawaited
  exact (Option.some.inj hawaited).symm

theorem awaited (h : Accounts past t) (hpresent : pid ∈ t.processes)
    (hnone : t.waiters[pid]? = none) :
    Accounts (.awaited pid t.nextTicket :: past) (t.after (.awaited pid t.nextTicket)) := by
  have hsettle : t.settle pid none = t := by rw [Table.settle, hnone]
  have hnew : awaitedBy t.nextTicket past = none := by
    by_contra hsome
    obtain ⟨other, hother⟩ := Option.ne_none_iff_exists'.mp hsome
    exact Nat.lt_irrefl _ (h.bounded _ _ hother)
  have hself : (Event.awaited pid t.nextTicket).awaitedAs? t.nextTicket = some pid := if_pos rfl
  have hquiet : ∀ other, (Event.awaited pid t.nextTicket).endOf? other = none := fun _ => rfl
  have hrest : ∀ ticket, ticket ≠ t.nextTicket →
      (Event.awaited pid t.nextTicket).awaitedAs? ticket = none :=
    fun ticket hne => if_neg (Ne.symm hne)
  rw [Table.after, hsettle]
  constructor
  case processes => exact h.processes
  case settled =>
    intro ticket
    by_cases heq : ticket = t.nextTicket
    · subst heq
      rw [outcomeOf_of_some hself, h.settled, outcomeOf, hnew]
      rfl
    · rw [outcomeOf_quiet (hrest ticket heq) hquiet]
      exact h.settled ticket
  case waiting =>
    intro other ticket
    simp only [ExtTreeMap.getElem?_insert, Std.compare_eq_iff_eq]
    by_cases heq : ticket = t.nextTicket
    · subst heq
      rw [awaitedBy_of_some hself, outcomeOf_of_some hself]
      have hold := h.waiting other t.nextTicket
      rw [hnew] at hold
      split
      next hpid => simp [hpid]
      next hpid => simp [hold, hpid]
    · rw [awaitedBy_of_none (hrest ticket heq), outcomeOf_quiet (hrest ticket heq) hquiet,
        ← h.waiting other ticket]
      split
      next hpid =>
        subst hpid
        simp [hnone, Ne.symm heq]
      next => rfl
  case present =>
    intro other hother
    rcases ExtTreeMap.mem_insert.mp hother with heq | hother
    · exact LawfulEqCmp.eq_of_compare heq ▸ hpresent
    · exact h.present other hother
  case bounded =>
    intro ticket other hother
    by_cases heq : ticket = t.nextTicket
    · exact heq ▸ Nat.lt_succ_self _
    · rw [awaitedBy_of_none (hrest ticket heq)] at hother
      exact Nat.lt_succ_of_lt (h.bounded ticket other hother)

/-- The end of a process settles the ticket that waits for its number, and no other one. -/
theorem outcomeOf_ended (h : Accounts past t) (pid : Pid) (outcome : Option ExitStatus)
    (ticket : Ticket) : outcomeOf ticket (.ended pid outcome :: past) =
      if t.waiters[pid]? = some ticket then some outcome else outcomeOf ticket past := by
  rw [outcomeOf_of_none rfl]
  split
  next hwaits =>
    obtain ⟨hawaited, hopen⟩ := (h.waiting pid ticket).mp hwaits
    simp [hopen, hawaited, Event.endOf?]
  next hwaits =>
    cases hpast : outcomeOf ticket past with
    | some earlier => rfl
    | none =>
      cases hawaited : awaitedBy ticket past with
      | none => rfl
      | some other =>
        have hne : pid ≠ other := by
          rintro rfl
          exact hwaits ((h.waiting pid ticket).mpr ⟨hawaited, hpast⟩)
        simp [Event.endOf?, hne]

theorem ended (h : Accounts past t) (pid : Pid) (outcome : Option ExitStatus) :
    Accounts (.ended pid outcome :: past) (t.after (.ended pid outcome)) := by
  have hprocesses : ∀ other, (t.processes.erase pid)[other]? =
      recordOf other (.ended pid outcome :: past) := by
    intro other
    rw [ExtTreeMap.getElem?_erase, h.processes other, recordOf]
    simp only [Std.compare_eq_iff_eq]
  have hawaited : ∀ ticket, awaitedBy ticket (.ended pid outcome :: past) = awaitedBy ticket past :=
    fun ticket => awaitedBy_of_none rfl
  have hpresent := Table.present_ended h.present pid outcome
  rw [Table.after, Table.settle] at hpresent ⊢
  cases hwaits : t.waiters[pid]? with
  | none =>
    rw [hwaits] at hpresent
    have houtcome : ∀ ticket, outcomeOf ticket (.ended pid outcome :: past) =
        outcomeOf ticket past := fun ticket => by
      rw [h.outcomeOf_ended, hwaits, if_neg nofun]
    refine ⟨hprocesses, fun ticket => ?_, fun other ticket => ?_, hpresent,
      fun ticket other hother => ?_⟩
    · rw [houtcome]
      exact h.settled ticket
    · rw [houtcome, hawaited]
      exact h.waiting other ticket
    · rw [hawaited] at hother
      exact h.bounded ticket other hother
  | some own =>
    rw [hwaits] at hpresent
    have houtcome : ∀ ticket, outcomeOf ticket (.ended pid outcome :: past) =
        if own = ticket then some outcome else outcomeOf ticket past := fun ticket => by
      rw [h.outcomeOf_ended, hwaits]
      simp only [Option.some.injEq]
    refine ⟨hprocesses, fun ticket => ?_, fun other ticket => ?_, hpresent,
      fun ticket other hother => ?_⟩
    · rw [houtcome, ExtTreeMap.getElem?_insert, h.settled ticket]
      simp only [Std.compare_eq_iff_eq]
    · have hold := h.waiting other ticket
      rw [houtcome, hawaited, ExtTreeMap.getElem?_erase]
      simp only [Std.compare_eq_iff_eq]
      by_cases hticket : own = ticket
      · subst hticket
        -- The ticket is settled now, and nobody else waits for it.
        have hgone : (if pid = other then none else t.waiters[other]?) ≠ some own := by
          split
          next => exact nofun
          next hne => exact fun hother => hne (h.waits_for_one hwaits hother)
        simp [hgone]
      · rw [if_neg hticket, ← hold]
        split
        next hpid =>
          subst hpid
          simp [hwaits, hticket]
        next => rfl
    · rw [hawaited] at hother
      exact h.bounded ticket other hother

theorem of_events : ∀ events : List Event, NumbersFree events → TicketsInOrder events →
    Accounts events (.ofEvents events)
  | [], _, _ => empty
  | .started pid program :: past, hfree, horder => (of_events past hfree.2 horder).started pid program
  | .filed pid unit :: past, hfree, horder => (of_events past hfree.2 horder).filed pid unit
  | .ended pid outcome :: past, hfree, horder => (of_events past hfree.2 horder).ended pid outcome
  | .awaited pid ticket :: past, hfree, horder => by
    obtain ⟨rfl, ⟨program, earlier, rfl⟩, hpast⟩ := horder
    -- Nobody waited for the number before the process got it.
    have hearlier := of_events earlier hfree.2.2 hpast
    have hnone := hearlier.waiters_eq_none (hfree.2.1 pid rfl)
    exact (hearlier.started pid program).awaited (ExtTreeMap.mem_insert_self) hnone
termination_by events => events.length

theorem mem_tickets {events : List Event} (h : ticket ∈ events.filterMap Event.ticket?) :
    awaitedBy ticket events ≠ none := by
  obtain ⟨event, hevent, hticket⟩ := List.mem_filterMap.mp h
  refine fun hnone => absurd (List.findSome?_eq_none_iff.mp hnone event hevent) ?_
  cases event with
  | awaited pid other => simp_all [Event.ticket?, Event.awaitedAs?]
  | started | filed | ended => cases hticket

theorem nodup_tickets : ∀ events : List Event, NumbersFree events → TicketsInOrder events →
    (events.filterMap Event.ticket?).Nodup
  | [], _, _ => List.nodup_nil
  | .started .. :: past, hfree, horder | .filed .. :: past, hfree, horder
  | .ended .. :: past, hfree, horder => nodup_tickets past hfree.2 horder
  | .awaited pid ticket :: past, hfree, horder => by
    obtain ⟨rfl, -, hpast⟩ := horder
    refine List.nodup_cons.mpr ⟨fun hmem => ?_, nodup_tickets past hfree.2 hpast⟩
    obtain ⟨other, hother⟩ := Option.ne_none_iff_exists'.mp (mem_tickets hmem)
    exact Nat.lt_irrefl _ ((of_events past hfree.2 hpast).bounded _ _ hother)

/-- The ticket of a process is settled before its number is used again. -/
theorem settled_before_reuse {program : String} (h : Accounts past t)
    (hfree : NumbersFree (.started pid program :: past)) (hawaited : awaitedBy ticket past = some pid) :
    outcomeOf ticket past ≠ none := by
  intro hopen
  have hwaits := (h.waiting pid ticket).mpr ⟨hawaited, hopen⟩
  rw [h.waiters_eq_none (hfree.1 pid rfl)] at hwaits
  cases hwaits

end Accounts

end Supervisor

end InitDaemon
