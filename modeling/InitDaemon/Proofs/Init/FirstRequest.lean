import InitDaemon.Proofs.Init.MoveCourse

/-!
# The first request decides

The shutdown that was asked for first stays ahead of all later ones, so the last call is made with
its power state. There are two ways past it: a later shutdown that finds nobody to ask to end makes
the last call at once, and a session whose foundation has used up its patience falls asleep too
late.
-/

namespace InitDaemon

open Std InitDaemon.Journal

/-- The power state that was asked for. -/
def Entry.asked? : Entry → Option PowerState
  | .powerRequested _ _ state => some state
  | _ => none

def Entry.rebooted? : Entry → Option PowerState
  | .rebooted state => some state
  | _ => none

/-- Nobody was left to be asked to end. -/
def Entry.isUnheard : Entry → Bool
  | .notice (.terminateFailed _) => true
  | _ => false

theorem Entry.IsCalm.asked? {e : Entry} (h : e.IsCalm) : e.asked? = none := by
  cases e with
  | powerRequested => exact h.elim
  | _ => rfl

theorem Entry.IsCalm.rebooted? {e : Entry} (h : e.IsCalm) : e.rebooted? = none := by
  cases e with
  | rebooted => exact h.elim
  | _ => rfl

namespace Journal

variable {state : PowerState} {journal journal' : List Record}

/-- The power states that were asked for, the latest first. -/
def requests (journal : List Record) : List PowerState :=
  journal.filterMap (·.entry.asked?)

/-- The power states of the last calls, the latest first. -/
def reboots (journal : List Record) : List PowerState :=
  journal.filterMap (·.entry.rebooted?)

/-- Each shutdown but the first finds somebody to ask to end. -/
def Heard (journal : List Record) : Prop :=
  ∀ r earlier, r :: earlier <:+ journal → r.entry.isUnheard = true → (requests earlier).length ≤ 1

theorem Heard.of_suffix (h : Heard journal') (hsuffix : journal <:+ journal') : Heard journal :=
  fun r earlier hr => h r earlier (hr.trans hsuffix)

theorem heard_cons {r : Record} : Heard (r :: journal) ↔
    (r.entry.isUnheard = true → (requests journal).length ≤ 1) ∧ Heard journal := by
  constructor
  · intro h
    exact ⟨h r journal List.suffix_rfl, h.of_suffix (List.suffix_cons r journal)⟩
  · rintro ⟨hnew, hold⟩ r' earlier hsuffix
    rcases List.suffix_cons_iff.mp hsuffix with heq | hsuffix
    · obtain ⟨rfl, rfl⟩ := List.cons.inj heq
      exact hnew
    · exact hold r' earlier hsuffix

instance decidableHeard : DecidablePred Heard
  | [] => .isTrue fun r earlier hsuffix => by simp at hsuffix
  | _ :: earlier =>
    have := decidableHeard earlier
    decidable_of_iff' _ heard_cons

namespace StaysCalm

theorem requests_eq (h : StaysCalm journal journal') : requests journal' = requests journal := by
  obtain ⟨new, rfl, hnew⟩ := h
  have hnone : new.filterMap (·.entry.asked?) = [] :=
    List.filterMap_eq_nil_iff.mpr fun r hr => (hnew r hr).asked?
  rw [requests, List.filterMap_append, hnone]
  rfl

theorem reboots_eq (h : StaysCalm journal journal') : reboots journal' = reboots journal := by
  obtain ⟨new, rfl, hnew⟩ := h
  have hnone : new.filterMap (·.entry.rebooted?) = [] :=
    List.filterMap_eq_nil_iff.mpr fun r hr => (hnew r hr).rebooted?
  rw [reboots, List.filterMap_append, hnone]
  rfl

theorem suffix (h : StaysCalm journal journal') : journal <:+ journal' := by
  obtain ⟨new, rfl, -⟩ := h
  exact List.suffix_append new journal

end StaysCalm

namespace LastCall

theorem requests_eq (h : LastCall state journal journal') :
    requests journal' = requests journal := by
  obtain ⟨time, before, hbefore, hafter⟩ := h
  exact hafter.requests_eq.trans hbefore.requests_eq

theorem reboots_eq (h : LastCall state journal journal') :
    reboots journal' = state :: reboots journal := by
  obtain ⟨time, before, hbefore, hafter⟩ := h
  exact hafter.reboots_eq.trans (congrArg (state :: ·) hbefore.reboots_eq)

theorem suffix (h : LastCall state journal journal') : journal <:+ journal' := by
  obtain ⟨time, before, hbefore, hafter⟩ := h
  exact (hbefore.suffix.trans (List.suffix_cons _ _)).trans hafter.suffix

end LastCall

namespace Unheard

theorem requests_eq (h : Unheard state journal journal') :
    requests journal' = requests journal := by
  obtain ⟨time, e, before, hbefore, hlast⟩ := h
  exact hlast.requests_eq.trans hbefore.requests_eq

theorem reboots_eq (h : Unheard state journal journal') :
    reboots journal' = state :: reboots journal := by
  obtain ⟨time, e, before, hbefore, hlast⟩ := h
  exact hlast.reboots_eq.trans (congrArg (state :: ·) hbefore.reboots_eq)

theorem length_le (h : Unheard state journal journal') (hheard : Heard journal') :
    (requests journal).length ≤ 1 := by
  obtain ⟨time, e, before, hbefore, hlast⟩ := h
  have hone := hheard _ before hlast.suffix rfl
  rwa [hbefore.requests_eq] at hone

end Unheard

end Journal

namespace Init

variable {σ : Type} {s s' : Init σ} {config : Config}

/-- No last call has been made, and the shutdown that was asked for first is ahead. -/
structure Undecided (config : Config) (s : Init σ) : Prop where
  ready : s.Ready config
  reboots : reboots s.journal = []
  first : requests s.journal = [] ∧ (∀ c, s.pauses.pause? c = none) ∨
    ∃ leader q, s.pauses.Leads leader q ∧ (requests s.journal).getLast? = some q.state

/-- The last call has been made, and nobody goes on. -/
structure Decided (s : Init σ) : Prop where
  halt : s.halt.isSome
  reboots : ∃ state, reboots s.journal = [state] ∧ (requests s.journal).getLast? = some state

theorem Undecided.advances (h : s.Undecided config) (hs : s.Advances s') :
    s'.Undecided config where
  ready := h.ready.advances hs
  reboots := hs.calm.reboots_eq.trans h.reboots
  first := by
    rw [hs.calm.requests_eq]
    rcases h.first with ⟨hnone, hpauses⟩ | ⟨leader, q, hleads, hfirst⟩
    · exact .inl ⟨hnone, hs.step.none hpauses⟩
    · obtain ⟨q', hstate, hleads'⟩ := hleads.step h.ready.sound hs.step
      exact .inr ⟨leader, q', hleads', hstate ▸ hfirst⟩

/-- A new request falls in behind the first one, and only the first one can make the last call. -/
theorem Undecided.progress (h : s.Undecided config) (hs : s.Progress s')
    (hheard : Heard s'.journal) : s'.Undecided config ∨ s'.Decided := by
  cases hs with
  | advances hs => exact .inl (h.advances hs)
  | begins s₁ hs id cause state hid htidy hconfig hpauses hcalm =>
    have h₁ := h.advances hs
    have hsound := h₁.ready.sound
    rw [h₁.ready.config_eq] at hpauses
    have hrequests : requests s'.journal = state :: requests s₁.journal := hcalm.requests_eq
    left
    constructor
    case ready =>
      refine ⟨htidy, hconfig.trans h₁.ready.config_eq, ?_⟩
      rw [hpauses]
      exact hsound.begin hid state
    case reboots => exact hcalm.reboots_eq.trans h₁.reboots
    case first =>
      rw [hpauses, hrequests]
      right
      rcases h₁.first with ⟨hnone, hfree⟩ | ⟨leader, q, hleads, hfirst⟩
      · refine ⟨id, _, Pauses.leads_sleep hfree id _, ?_⟩
        rw [hnone, Pauses.firstPause_state]
        rfl
      · refine ⟨leader, q, hleads.begin hsound hid state, ?_⟩
        rw [List.getLast?_cons, hfirst]
        rfl
  | unheard s₁ hs id cause state hunheard hhalt =>
    have h₁ := h.advances hs
    have hrequests : requests (⟨s₁.now, .powerRequested id cause state⟩ :: s₁.journal) =
        state :: requests s₁.journal := rfl
    -- Nobody has asked before, since this shutdown is unheard.
    have hone := hunheard.length_le hheard
    rw [hrequests, List.length_cons] at hone
    have hnone : requests s₁.journal = [] := List.eq_nil_of_length_eq_zero (by omega)
    refine .inr ⟨hhalt, state, hunheard.reboots_eq.trans (congrArg (state :: ·) h₁.reboots), ?_⟩
    rw [hunheard.requests_eq, hrequests, hnone]
    rfl
  | ends id rest q hline hq hfinish hlast hhalt =>
    refine .inr ⟨hhalt, q.state, hlast.reboots_eq.trans (congrArg (q.state :: ·) h.reboots), ?_⟩
    rw [hlast.requests_eq]
    rcases h.first with ⟨-, hpauses⟩ | ⟨leader, q', hleads, hfirst⟩
    · cases (hpauses id).symm.trans hq
    · obtain rfl := hleads.eq_of_finish h.ready.sound hline hq hfinish
      cases hq.symm.trans hleads.pauses
      exact hfirst

variable [Platform σ]

theorem decides_perform (h : s.Undecided config ∨ s.Decided) {move : Move σ}
    (hpatient : config.foundation.length + 2 ≤ patience) (hmove : s.InOrder move)
    (hheard : Heard (s.perform move).journal) :
    (s.perform move).Undecided config ∨ (s.perform move).Decided := by
  rcases h with h | h
  · exact h.progress (h.ready.perform hpatient hmove) hheard
  · have hpoll : ∀ id, move ≠ .poll id := by
      rintro id rfl
      have hhalt := h.halt
      rw [hmove.1] at hhalt
      cases hhalt
    obtain ⟨hcalm, hhalt⟩ := calm_perform hmove hpoll
    right
    refine ⟨hhalt ▸ h.halt, ?_⟩
    rw [hcalm.reboots_eq, hcalm.requests_eq]
    exact h.reboots

theorem decides_run {s₀ : Init σ} (hs : Leads s₀ .idle s) (h : s.Undecided config ∨ s.Decided)
    (hpatient : config.foundation.length + 2 ≤ patience) {moves : List (Move σ)}
    (hmoves : s.AllInOrder moves) (hheard : Heard (s.run moves).journal) :
    (s.run moves).Undecided config ∨ (s.run moves).Decided := by
  induction moves generalizing s with
  | nil => exact h
  | cons move moves ih =>
    have hstep := hs.perform move
    -- The journal of the whole run tells what was heard up to any point of it.
    have hlater : (s.perform move).journal <:+ (s.run (move :: moves)).journal :=
      (hstep.restart.reaches ⟨moves, rfl⟩).later.journal
    exact ih hstep (decides_perform h hpatient hmoves.1 (hheard.of_suffix hlater)) hmoves.2 hheard

section

variable (config : Config) (graph : Units.Graph) (machine : σ) (notices : List Notice)

omit [Platform σ]

theorem calm_fresh : StaysCalm [] (fresh config graph machine notices).journal := by
  have hnotices := World.calm_foldl_say notices (⟨machine, 0, []⟩ : World σ)
  have hcycles := World.calm_foldl_say (graph.findCycles.map Notice.cycleFound)
    (notices.foldl World.say (⟨machine, 0, []⟩ : World σ))
  rw [List.foldl_map] at hcycles
  exact hnotices.trans hcycles

theorem undecided_fresh : (fresh config graph machine notices).Undecided config := by
  have hcalm := calm_fresh config graph machine notices
  exact ⟨ready_fresh config graph machine notices, hcalm.reboots_eq,
    .inl ⟨hcalm.requests_eq, pause?_fresh config graph machine notices⟩⟩

end

/-- The init makes no last call, or one with the power state that was asked for first. -/
theorem first_request_decides {graph : Units.Graph} {machine : σ} {notices : List Notice}
    (h : (fresh config graph machine notices).RunsInOrder s)
    (hpatient : config.foundation.length + 2 ≤ patience) (hheard : Heard s.journal) :
    reboots s.journal = [] ∨ ∃ state, reboots s.journal = [state] ∧
      (requests s.journal).getLast? = some state := by
  obtain ⟨moves, hmoves, rfl⟩ := h
  have hleads := leads_fresh config graph machine notices
  have hundecided := undecided_fresh config graph machine notices
  exact (decides_run hleads (.inl hundecided) hpatient hmoves hheard).imp Undecided.reboots
    Decided.reboots

/-! ## A reboot that a dying session follows -/

/-- The session ends soon after it has been asked to. -/
def freshSession : Init Simulation.Script :=
  fresh { foundation := [] } {}
    { children.endings := (∅ : ExtTreeMap String Simulation.Endings).insert "/bin/bash"
        (.always ⟨.signaled 15, 10⟩) } []

/-- A reboot is asked for at once, and the session is collected in its grace period. -/
def interruptMoves : List (Move Simulation.Script) :=
  [.boot, .watch, .poll 1, .raise .interrupt, .deliver, .poll 2, .pass 10, .tick 10]

/-- The session asks for a power-off, which stays behind the reboot. -/
def heardMoves : List (Move Simulation.Script) :=
  interruptMoves ++ [.poll 1, .pass 5000, .ring, .poll 2, .pass 5010, .ring, .poll 1, .pass 5100,
    .ring, .poll 2]

theorem interrupt_decides :
    freshSession.config.foundation.length + 2 ≤ patience ∧
      freshSession.RunsInOrder (freshSession.run heardMoves) ∧
      Heard (freshSession.run heardMoves).journal ∧
      requests (freshSession.run heardMoves).journal = [.off, .restart] ∧
      reboots (freshSession.run heardMoves).journal = [.restart] ∧
      (requests (freshSession.run heardMoves).journal).getLast? = some .restart := by
  have hruns : freshSession.AllInOrder heardMoves ∧ Heard (freshSession.run heardMoves).journal ∧
      requests (freshSession.run heardMoves).journal = [.off, .restart] ∧
      reboots (freshSession.run heardMoves).journal = [.restart] := by
    decide +kernel
  obtain ⟨hmoves, hheard, hrequests, hreboots⟩ := hruns
  have hpatient : freshSession.config.foundation.length + 2 ≤ patience := by decide +kernel
  have horder : freshSession.RunsInOrder (freshSession.run heardMoves) := ⟨heardMoves, hmoves, rfl⟩
  refine ⟨hpatient, horder, hheard, hrequests, hreboots, ?_⟩
  rcases first_request_decides horder hpatient hheard with hnone | ⟨state, hstate, hfirst⟩
  · cases hnone.symm.trans hreboots
  · cases hstate.symm.trans hreboots
    exact hfirst

/-- The session was the last process, and its power-off is carried out in the grace period of the
reboot. -/
def unheardMoves : List (Move Simulation.Script) :=
  interruptMoves ++ [.change { (freshSession.run interruptMoves).machine with
    terminateFailure := some .ESRCH }, .poll 1]

/-- There is no grace period. The session looks at as many units as it has patience for. -/
def freshLong : Init Simulation.Script :=
  fresh { bootTarget := "t", foundation := List.replicate 127 "f", session := " "
          shutdownGrace := 0 }
    { disk := (∅ : ExtTreeMap String UnitDef).insert "f" {} |>.insert "t"
        { start := .command "/sbin/t" } }
    { blocking := [.ok (.exited 2)] } []

/-- The session asks for a power-off. The boot target is turned down, and the rescue shell asks for
a reboot, which falls asleep first. -/
def longMoves : List (Move Simulation.Script) :=
  [.request "f" [], .poll 0, .boot, .poll 1, .poll 2, .poll 3, .poll 1, .takeBack, .poll 2,
    .pass 100]

theorem long_ring : (freshLong.run longMoves).ring = ({ freshLong.run longMoves with
    alarms := (freshLong.run longMoves).alarms.filter (100 < ·.deadline) } :
      Init Simulation.Script).wakeAll [1, 2] := by
  have hnow : (freshLong.run longMoves).now = 100 := by decide +kernel
  have hsorted : (freshLong.run longMoves).alarms.Pairwise fun a b => a.deadline ≤ b.deadline := by
    decide +kernel
  have hdue : ((freshLong.run longMoves).alarms.filter (·.deadline ≤ 100)).map Alarm.task =
      [1, 2] := by
    decide +kernel
  rw [ring_eq, due_of_sorted hsorted, hnow, hdue]

/-- A later request makes the last call. -/
theorem later_request_reboots :
    freshSession.AllInOrder unheardMoves ∧
      requests (freshSession.run unheardMoves).journal = [.off, .restart] ∧
      reboots (freshSession.run unheardMoves).journal = [.off] ∧
      freshLong.AllInOrder (longMoves ++ [.ring, .poll 1]) ∧
      requests (freshLong.run (longMoves ++ [.ring, .poll 1])).journal = [.restart, .off] ∧
      reboots (freshLong.run (longMoves ++ [.ring, .poll 1])).journal = [.restart] := by
  have hunheard : freshSession.AllInOrder unheardMoves ∧
      requests (freshSession.run unheardMoves).journal = [.off, .restart] ∧
      reboots (freshSession.run unheardMoves).journal = [.off] := by
    decide +kernel
  have hlong : freshLong.AllInOrder longMoves := by decide +kernel
  have hrun : freshLong.run (longMoves ++ [.ring, .poll 1]) =
      (freshLong.run longMoves).ring.pollQueued 1 := run_append freshLong longMoves _
  have hlast : (freshLong.run longMoves).ring.InOrder (.poll 1) ∧
      requests ((freshLong.run longMoves).ring.pollQueued 1).journal = [.restart, .off] ∧
      reboots ((freshLong.run longMoves).ring.pollQueued 1).journal = [.restart] := by
    rw [long_ring]
    decide +kernel
  rw [hrun]
  exact ⟨hunheard.1, hunheard.2.1, hunheard.2.2,
    allInOrder_append hlong ⟨trivial, hlast.1, trivial⟩, hlast.2⟩

end Init

end InitDaemon
