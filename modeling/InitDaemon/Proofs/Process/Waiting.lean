import InitDaemon.Proofs.Process.TableEvents
import InitDaemon.Proofs.Process.Chores

/-!
# Waiting for a process

A ticket belongs to one process, and is open for as long as the process has a waiter. If the kernel
gives no number twice, whoever waits for a process waits until a tick collects it.
-/

namespace InitDaemon

open Std InitDaemon.Journal InitDaemon.Units

namespace Journal

variable {journal journal' journal'' : List Record} {pid : Pid}

/-- From the one journal to the other the process was collected. -/
def Reaps (pid : Pid) (journal journal' : List Record) : Prop :=
  ∃ new, journal' = new ++ journal ∧
    ∃ r ∈ new, ∃ status display, r.entry = .notice (.reaped pid status display)

theorem Reaps.earlier (h : Reaps pid journal' journal'') (hsuffix : journal <:+ journal') :
    Reaps pid journal journal'' := by
  obtain ⟨new, rfl, r, hr, hreaped⟩ := h
  obtain ⟨new', rfl⟩ := hsuffix
  exact ⟨new ++ new', (List.append_assoc ..).symm, r, List.mem_append_left _ hr, hreaped⟩

theorem Reaps.later (h : Reaps pid journal journal') (hsuffix : journal' <:+ journal'') :
    Reaps pid journal journal'' := by
  obtain ⟨new, rfl, r, hr, hreaped⟩ := h
  obtain ⟨new', rfl⟩ := hsuffix
  exact ⟨new' ++ new, (List.append_assoc ..).symm, r, List.mem_append_right _ hr, hreaped⟩

/-- Apart from the wait for the rescue shell, only ticks collect processes. -/
theorem uncollected_gains
    (h : Gains (fun e => ∀ pid suspended, e ≠ .waitedBlocking pid suspended) journal journal')
    (hpid : pid ∈ uncollected journal) :
    pid ∈ uncollected journal' ∨ Reaps pid journal journal' := by
  obtain ⟨new, rfl, hnew⟩ := h
  induction new with
  | nil => exact .inl hpid
  | cons r new ih =>
    obtain ⟨hr, hnew⟩ := List.forall_mem_cons.mp hnew
    rcases ih hnew with hstill | hreaped
    · rw [List.cons_append, uncollected]
      split
      next => exact .inl (List.mem_cons_of_mem _ hstill)
      next pid' status display heq =>
        by_cases hsame : pid' = pid
        · exact .inr ⟨r :: new, rfl, r, List.mem_cons_self, status, display, hsame ▸ heq⟩
        · exact .inl (List.mem_filter.mpr ⟨hstill, decide_eq_true (Ne.symm hsame)⟩)
      next pid' suspended heq => exact absurd heq (hr pid' suspended)
      next => exact .inl hstill
    · exact .inr (hreaped.later (List.suffix_cons _ _))

end Journal

namespace Supervisor

/-! ## Tickets -/

namespace Table

variable {t : Table} {pid other : Pid} {ticket : Ticket} {outcome : Option ExitStatus}

/-- Each ticket that someone waits with is open and belongs to one process. -/
structure Neat (t : Table) : Prop where
  present : t.Present
  bounded : ∀ ticket, ticket ∈ t.settled ∨ (∃ pid : Pid, t.waiters[pid]? = some ticket) →
    ticket < t.nextTicket
  single : ∀ (pid other : Pid) ticket, t.waiters[pid]? = some ticket →
    t.waiters[other]? = some ticket → pid = other
  unsettled : ∀ (pid : Pid) ticket, t.waiters[pid]? = some ticket → ticket ∉ t.settled

theorem getElem?_waiters_settle :
    (t.settle pid outcome).waiters[other]? = if pid = other then none else t.waiters[other]? := by
  rw [settle]
  split
  next => simp [ExtTreeMap.getElem?_erase]
  next hnone =>
    split
    next heq => exact heq ▸ hnone
    next => rfl

theorem mem_settled_settle : ticket ∈ (t.settle pid outcome).settled ↔
    ticket ∈ t.settled ∨ t.waiters[pid]? = some ticket := by
  rw [settle]
  split
  next own hown =>
    rw [ExtTreeMap.mem_insert, hown, or_comm, Option.some_inj]
    exact or_congr_right ⟨LawfulEqCmp.eq_of_compare, fun heq => heq ▸ ReflCmp.compare_self⟩
  next hnone => simp [hnone]

theorem waiters_of_settle (h : (t.settle pid outcome).waiters[other]? = some ticket) :
    pid ≠ other ∧ t.waiters[other]? = some ticket := by
  rw [getElem?_waiters_settle] at h
  split at h
  next => cases h
  next hne => exact ⟨hne, h⟩

namespace Neat

theorem empty : Table.empty.Neat where
  present pid hpid := absurd hpid ExtTreeMap.not_mem_empty
  bounded ticket := by
    rintro (hsettled | ⟨pid, hwaits⟩)
    · exact absurd hsettled ExtTreeMap.not_mem_empty
    · cases ExtTreeMap.getElem?_empty.symm.trans hwaits
  single pid other ticket hwaits := by cases ExtTreeMap.getElem?_empty.symm.trans hwaits
  unsettled pid ticket hwaits := by cases ExtTreeMap.getElem?_empty.symm.trans hwaits

theorem settle (h : t.Neat) (pid : Pid) (outcome : Option ExitStatus) :
    (t.settle pid outcome).Neat where
  present other hother := by
    have hprocesses : (t.settle pid outcome).processes = t.processes := by
      rw [Table.settle]
      split <;> rfl
    exact hprocesses ▸ h.present other (mem_waiters_settle.mp hother).2
  bounded ticket := by
    rw [nextTicket_settle]
    rintro (hsettled | ⟨other, hwaits⟩)
    · exact h.bounded ticket ((mem_settled_settle.mp hsettled).imp_right fun hown => ⟨pid, hown⟩)
    · exact h.bounded ticket (.inr ⟨other, (waiters_of_settle hwaits).2⟩)
  single other other' ticket hother hother' :=
    h.single other other' ticket (waiters_of_settle hother).2 (waiters_of_settle hother').2
  unsettled other ticket hother hsettled := by
    obtain ⟨hne, hwaits⟩ := waiters_of_settle hother
    rcases mem_settled_settle.mp hsettled with hsettled | hown
    · exact h.unsettled other ticket hwaits hsettled
    · exact hne (h.single pid other ticket hown hwaits)

theorem ended (h : t.Neat) (pid : Pid) (outcome : Option ExitStatus) :
    (t.after (.ended pid outcome)).Neat :=
  { h.settle pid outcome with present := present_ended h.present pid outcome }

theorem insert (h : t.Neat) (pid : Pid) (record : ProcessRecord) :
    Neat { t with processes := t.processes.insert pid record } :=
  { h with present := present_insert h.present record }

/-- The next ticket is given out with a process that has a record. -/
theorem awaited (h : t.Neat) (hpid : pid ∈ t.processes) :
    (t.after (.awaited pid t.nextTicket)).Neat := by
  have hsettled := h.settle pid none
  have hprocesses : (t.settle pid none).processes = t.processes := by
    rw [Table.settle]
    split <;> rfl
  have hlt {ticket : Ticket} (hlive : ticket ∈ (t.settle pid none).settled ∨
      ∃ other : Pid, (t.settle pid none).waiters[other]? = some ticket) : ticket < t.nextTicket :=
    nextTicket_settle ▸ hsettled.bounded ticket hlive
  have hwaiters {other : Pid} {ticket : Ticket}
      (hother : (t.after (.awaited pid t.nextTicket)).waiters[other]? = some ticket) :
      pid = other ∧ ticket = t.nextTicket ∨ (t.settle pid none).waiters[other]? = some ticket := by
    change ((t.settle pid none).waiters.insert pid t.nextTicket)[other]? = _ at hother
    rw [ExtTreeMap.getElem?_insert] at hother
    split at hother
    next heq => exact .inl ⟨LawfulEqCmp.eq_of_compare heq, (Option.some.inj hother).symm⟩
    next => exact .inr hother
  constructor
  case present =>
    intro other hother
    change other ∈ (t.settle pid none).processes
    rcases ExtTreeMap.mem_insert.mp hother with heq | hother
    · exact LawfulEqCmp.eq_of_compare heq ▸ hprocesses ▸ hpid
    · exact hsettled.present other hother
  case bounded =>
    rintro ticket (hsettled | ⟨other, hother⟩)
    · exact Nat.lt_succ_of_lt (hlt (.inl hsettled))
    · rcases hwaiters hother with ⟨-, rfl⟩ | hold
      · exact Nat.lt_succ_self _
      · exact Nat.lt_succ_of_lt (hlt (.inr ⟨other, hold⟩))
  case single =>
    intro other other' ticket hother hother'
    rcases hwaiters hother with ⟨heq, rfl⟩ | hold
    · rcases hwaiters hother' with ⟨heq', -⟩ | hold'
      · exact heq.symm.trans heq'
      · exact absurd (hlt (.inr ⟨other', hold'⟩)) (Nat.lt_irrefl _)
    · rcases hwaiters hother' with ⟨-, rfl⟩ | hold'
      · exact absurd (hlt (.inr ⟨other, hold⟩)) (Nat.lt_irrefl _)
      · exact hsettled.single other other' ticket hold hold'
  case unsettled =>
    intro other ticket hother hin
    rcases hwaiters hother with ⟨-, rfl⟩ | hold
    · exact Nat.lt_irrefl _ (hlt (.inl hin))
    · exact hsettled.unsettled other ticket hold hin

end Neat

end Table

/-! ## Operations -/

/-- Starts a process or files it under a unit. -/
def Event.IsBirth : Event → Prop
  | .started .. | .filed .. => True
  | .awaited .. | .ended .. => False

variable {σ : Type} {s s' : Supervisor σ} {pid : Pid} {ticket : Ticket}

theorem Follows.births {new : List Record} (h : Follows new s s') :
    ∀ event ∈ new.filterMap told, event.IsBirth := by
  intro event hevent
  have hno_end := h.no_end event hevent
  obtain ⟨r, -, htold⟩ := List.mem_filterMap.mp hevent
  rw [told] at htold
  split at htold
  next => cases htold; trivial
  next => cases htold; trivial
  next => cases htold; exact absurd trivial hno_end
  next => cases htold

theorem births_foldr {events : List Event} (h : ∀ event ∈ events, event.IsBirth) (t : Table) :
    (events.foldr (fun event t => t.after event) t).waiters = t.waiters ∧
      (t.Neat → (events.foldr (fun event t => t.after event) t).Neat) := by
  induction events with
  | nil => exact ⟨rfl, id⟩
  | cons event events ih =>
    obtain ⟨hevent, hevents⟩ := List.forall_mem_cons.mp h
    obtain ⟨hwaiters, hneat⟩ := ih hevents
    cases event with
    | started | filed => exact ⟨hwaiters, fun ht => (hneat ht).insert _ _⟩
    | awaited | ended => exact hevent.elim

variable [Platform σ]

theorem Starts.waiters (h : s.Starts s') : s'.waiters = s.waiters := by
  obtain ⟨new, hnew⟩ := h.follows
  have htable := (births_foldr hnew.births s.table).1
  rw [← hnew.table] at htable
  exact htable

theorem Starts.neat (h : s.Starts s') (hs : s.table.Neat) : s'.table.Neat := by
  obtain ⟨new, hnew⟩ := h.follows
  rw [hnew.table]
  exact (births_foldr hnew.births s.table).2 hs

theorem mem_processes_spawn {command : String} (h : s.spawn command = (.ok pid, s')) :
    pid ∈ s'.processes := by
  obtain ⟨argv, -, htable⟩ := spawn_ok h
  have hprocesses : s'.processes = s.processes.insert pid ⟨argv.headD "", none⟩ :=
    congrArg Table.processes htable
  exact hprocesses ▸ ExtTreeMap.mem_insert_self

theorem table_spawnAndAwait {command : String} (h : s.spawn command = (.ok pid, s')) :
    (s.spawnAndAwait command).2.table = s'.table.after (.awaited pid s'.table.nextTicket) := by
  have hsettled := s'.table_settle pid none
  have hnext : (s'.settle pid none).nextTicket = s'.table.nextTicket :=
    (congrArg Table.nextTicket hsettled).trans Table.nextTicket_settle
  rw [spawnAndAwait, h]
  dsimp only
  rw [hnext, Table.after, ← hsettled]
  rfl

/-- Someone waits for the process that has just been spawned. -/
theorem spawnAndAwait_ok {command : String} {c : Completion}
    (h : s.spawnAndAwait command = (.ok c, s')) :
    s'.journal = ⟨s.now, .spawned c.pid (Text.wordsOf command)⟩ :: s.journal ∧
      s'.waiters[c.pid]? = some c.ticket := by
  rw [Supervisor.spawnAndAwait] at h
  split at h
  next pid t heq =>
    cases h
    exact ⟨(t.journal_settle pid none).trans (spawn_journal heq).2,
      ExtTreeMap.getElem?_insert_self⟩
  next => cases h

theorem Chore.neat (h : s.Chore s') (hs : s.table.Neat) : s'.table.Neat := by
  cases h with
  | remark | boast | count | look => exact hs
  | spawn command => exact (s.starts_spawn command).neat hs
  | spawnAndAwait command =>
    have hstarts := s.starts_spawn command
    rcases hspawned : s.spawn command with ⟨e | pid, t⟩
    · rw [Supervisor.spawnAndAwait, hspawned]
      exact (hstarts.of_eq hspawned).neat hs
    · rw [table_spawnAndAwait hspawned]
      exact ((hstarts.of_eq hspawned).neat hs).awaited (mem_processes_spawn hspawned)
  | file => exact hs.insert _ _
  | collect =>
    rw [table_collect]
    exact hs.ended _ _

theorem Errands.neat (h : s.Errands s') (hs : s.table.Neat) : s'.table.Neat := by
  induction h with
  | refl => exact hs
  | tail _ herrand ih =>
    cases herrand with
    | chore h => exact h.neat ih
    | wait => exact ih
    | release pid =>
      rw [table_release]
      exact ih.ended pid none

/-! ## Whoever waits -/

omit [Platform σ] in
theorem waits_settle {other : Pid} {outcome : Option ExitStatus} (hne : other ≠ pid)
    (hwaits : s.waiters[pid]? = some ticket) :
    (s.settle other outcome).waiters[pid]? = some ticket := by
  have hsettled := congrArg (fun t => t.waiters[pid]?) (s.table_settle other outcome)
  refine hsettled.trans (Eq.trans Table.getElem?_waiters_settle ?_)
  rw [if_neg hne]
  exact hwaits

/-- The number of a process that is waited for is given to no other one. -/
theorem Chore.waits (h : s.Chore s') (hfresh : FreshNumbers s'.journal)
    (hpid : pid ∈ uncollected s.journal) (hwaits : s.waiters[pid]? = some ticket) :
    s'.waiters[pid]? = some ticket ∨ Reaps pid s.journal s'.journal := by
  cases h with
  | remark | boast | count | file | look => exact .inl hwaits
  | spawn command => exact .inl ((s.starts_spawn command).waiters ▸ hwaits)
  | spawnAndAwait command =>
    have hstarts := s.starts_spawn command
    rw [Supervisor.spawnAndAwait] at hfresh ⊢
    split at hfresh
    next other t heq =>
      have hold : t.waiters[pid]? = some ticket := (hstarts.of_eq heq).waiters ▸ hwaits
      have hne : other ≠ pid := by
        rintro rfl
        dsimp only at hfresh
        rw [journal_settle, (spawn_journal heq).2] at hfresh
        exact hfresh.not_mem hpid
      refine .inl ?_
      dsimp only
      rw [ExtTreeMap.getElem?_insert, if_neg fun heq => hne (LawfulEqCmp.eq_of_compare heq)]
      exact waits_settle hne hold
    next heq => exact .inl ((hstarts.of_eq heq).waiters ▸ hwaits)
  | @collect other status =>
    by_cases heq : other = pid
    · subst heq
      refine .inr ⟨[_], journal_settle _ _ _, _, List.mem_singleton_self _, status, _, rfl⟩
    · refine .inl ?_
      rw [Supervisor.collect]
      exact waits_settle heq hwaits

end Supervisor

end InitDaemon
