import InitDaemon.Proofs.Init.Runs

/-!
# Started once, decided once

A unit gets one start task, its own action begins once, and its outcome is final. Every handle on
it, whenever it was given, reads that outcome.
-/

namespace InitDaemon.Init

open InitDaemon.Units InitDaemon.Journal

variable {σ : Type} {s s' : Init σ} {h : Handle} {config : Config} {graph : Graph}
  {machine : σ} {notices : List Notice}

/-- No unit is started or decided a second time from one state to a later one. -/
structure StartsOnce (s s' : Init σ) : Prop where
  /-- A unit that has been asked for gets no task but the one that it has got then. -/
  no_further_task : ∀ id unit, s.Entered unit → s'.Starts id unit → s.Starts id unit
  task_eq : ∀ id id' unit, s.Starts id unit → s'.Starts id' unit → id' = id
  action : ∀ (unit : String) (r : Record) (earlier : List Record), r :: earlier <:+ s'.journal →
    r.entry = .began unit → ¬ Begun earlier unit
  outcome : ∀ unit o, s.outcome? unit = some o → s'.outcome? unit = some o

/-- Whoever holds a handle learns what has become of the unit and nothing else. -/
structure Answers (s : Init σ) (h : Handle) : Prop where
  outcome : s.readiness.outcome? h = s.outcome? h.unit
  wait : s.readiness.wait? h = s.outcome? h.unit
  not_abandoned : ∀ unit, s.readiness.wait? h ≠ some (.error (.abandoned unit))
  /-- The good outcome that stands in for a missing one is not given to anyone. -/
  not_missing : s.readiness.arrival h ≠ .arrived none

theorem Leads.startsOnce (hs : s.Workflow .idle) (h : Leads s .idle s') : s.StartsOnce s' where
  no_further_task := h.later.starts
  task_eq id id' unit hid hid' := by
    have hentered := (hs.pending id unit hid).entered
    exact hs.unique id' id unit (h.later.starts id' unit hentered hid') hid
  action unit r earlier hsuffix hbegan := (h.ledger.orderly unit r earlier hsuffix hbegan).1
  outcome := h.later.outcome

theorem Ledger.answers (hs : s.Ledger) (hh : Requested s.journal h) : s.Answers h where
  outcome := Readiness.outcome?_handle h (hs.given h hh)
  wait := hs.wait? hh
  not_abandoned unit hwait := by
    rw [hs.wait? hh] at hwait
    exact (hs.justified h.unit _ hwait).not_abandoned unit rfl
  not_missing harrived := by
    rw [Readiness.arrival] at harrived
    split at harrived
    next hsome =>
      rw [Arrival.arrived.inj harrived] at hsome
      cases hsome
    next => split at harrived <;> cases harrived

variable [Platform σ]

/-- From any state of a run to any later one no unit is started or decided twice. Every request is
answered with a handle on the unit, no task waits with any other handle, and handles that were given
by the first state answer for their units in the second one. -/
theorem started_once_decided_once (hs : (fresh config graph machine notices).Reaches s)
    (hs' : s.Reaches s') :
    s.StartsOnce s' ∧
      (∀ unit chain, (s.request unit chain).1.unit = unit ∧
        Requested (s.request unit chain).2.journal (s.request unit chain).1) ∧
      (∀ (id : TaskId) t, s.tasks[id]? = some t → ∀ h ∈ t.handles, Requested s.journal h) ∧
      ∀ h, Requested s.journal h → s'.Answers h := by
  have hleads := hs.leads
  have hleads' := hleads.restart.reaches hs'
  refine ⟨hleads'.startsOnce hleads.workflow, s.request_handle, hleads.workflow.handles, ?_⟩
  intro h hh
  exact hleads'.ledger.answers (hh.mono hleads'.later.journal)

/-- A handle that was given while the first of two units was waiting reads its outcome later. -/
theorem early_handle_answers :
    (freshTwoUnits.run (firstMoves ++ laterMoves)).Answers ⟨"a", 0⟩ := by
  have hreaches : freshTwoUnits.Reaches (freshTwoUnits.run firstMoves) := ⟨_, rfl⟩
  have hreaches' : (freshTwoUnits.run firstMoves).Reaches
      (freshTwoUnits.run (firstMoves ++ laterMoves)) := ⟨laterMoves, run_append ..⟩
  exact (started_once_decided_once hreaches hreaches').2.2.2 _ first_unit_requested

end InitDaemon.Init
