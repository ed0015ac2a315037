import InitDaemon.Proofs.Init.StepRecords
import InitDaemon.Proofs.Init.StepTasks

/-!
# Firm outcomes

No unit is resolved twice, not even in the course of a single move: only its start task resolves a
unit that was accepted, and goes as it does so.
-/

namespace InitDaemon.Init

open Std InitDaemon.Units InitDaemon.Journal

variable {σ : Type} {s s' : Init σ} {m : Move σ} {unit : String} {o : Outcome}

/-- Units that nobody has asked for have no outcome, and neither have those that are being started.
-/
structure Firm (s : Init σ) : Prop where
  id_lt : ∀ (id : TaskId) t, s.tasks[id]? = some t → id < s.nextTask
  entered : ∀ unit o, outcomeAfter? s.journal unit = some o → s.Entered unit
  starting : ∀ id unit, s.Starts id unit → s.Entered unit
  pending : ∀ id unit, s.Starts id unit → outcomeAfter? s.journal unit = none
  unique : ∀ id id' unit, s.Starts id unit → s.Starts id' unit → id = id'

/-- Whether a unit is turned down does not depend on those that asked for it. -/
theorem rejection?_eq_none_iff (chain chain' : List String) :
    s.rejection? unit chain = none ↔ s.rejection? unit chain' = none := by
  rw [rejection?, rejection?]
  split
  · exact .rfl
  · split
    · exact iff_of_false (Option.some_ne_none _) (Option.some_ne_none _)
    · exact .rfl

variable [Platform σ]

/-- Who resolves a unit. -/
theorem Writes.resolver (h : s.Writes s' m (.resolved unit o)) :
    (¬ s.Entered unit ∧ s'.Entered unit ∧ ∃ chain e, s.rejection? unit chain = some e) ∨
      ∃ id, s.Starts id unit ∧ s'.tasks[id]? = none := by
  cases h with
  | mute he | final he | rescue _ he | turn _ _ he => exact he.elim
  | reject _ hnew hrejected hentered => exact .inl ⟨hnew, hentered, _, _, hrejected⟩
  | refuse ht _ hgone | finish ht _ _ hgone => exact .inr ⟨_, ⟨_, _, ht⟩, hgone⟩

namespace Firm

/-- A unit that has its outcome keeps it. -/
theorem outcome (h : s.Firm) (hstep : Step m s s') (ho : outcomeAfter? s.journal unit = some o) :
    outcomeAfter? s'.journal unit = some o := by
  obtain ⟨o', ho'⟩ : ∃ o', outcomeAfter? s'.journal unit = some o' := by
    obtain ⟨new, hnew⟩ := hstep.continues.journal
    rw [← Option.isSome_iff_exists, ← hnew, outcomeAfter?, List.findSome?_append]
    rw [outcomeAfter?] at ho
    rw [ho]
    cases new.findSome? (resolution? unit) <;> rfl
  rcases hstep.gains.outcome ho' with hold | hwrites
  · exact (hold.symm.trans ho) ▸ ho'
  · rcases hwrites.resolver with ⟨hnew, -⟩ | ⟨id, hstarts, -⟩
    · exact absurd (h.entered unit o ho) hnew
    · cases (h.pending id unit hstarts).symm.trans ho

theorem step (h : s.Firm) (hstep : Step m s s') : s'.Firm := by
  have hfresh {unit : String} (hnew : ¬ s.Entered unit) : outcomeAfter? s.journal unit = none :=
    Option.eq_none_iff_forall_ne_some.mpr fun o ho => hnew (h.entered unit o ho)
  constructor
  case id_lt => exact hstep.id_lt h.id_lt
  case entered =>
    intro unit o ho
    rcases hstep.gains.outcome ho with hold | hwrites
    · exact hstep.entered (h.entered unit o hold)
    · rcases hwrites.resolver with ⟨-, hentered, -⟩ | ⟨id, hstarts, -⟩
      · exact hentered
      · exact hstep.entered (h.starting id unit hstarts)
  case starting =>
    rintro id unit ⟨chain, phase, ht'⟩
    rcases hstep.start_arrives ht' with ⟨phase₀, ht, -⟩ | ⟨-, -, -, -, hentered, -⟩
    · exact hstep.entered (h.starting id unit ⟨chain, phase₀, ht⟩)
    · exact hentered
  case pending =>
    rintro id unit ⟨chain, phase, ht'⟩
    refine Option.eq_none_iff_forall_ne_some.mpr fun o ho => ?_
    rcases hstep.start_arrives ht' with ⟨phase₀, ht, -⟩ | ⟨-, -, hnew, haccepted, -⟩
    · rcases hstep.gains.outcome ho with hold | hwrites
      · cases (h.pending id unit ⟨chain, phase₀, ht⟩).symm.trans hold
      · rcases hwrites.resolver with ⟨hnew, -⟩ | ⟨id', hstarts, hgone⟩
        · exact hnew (h.starting id unit ⟨chain, phase₀, ht⟩)
        · cases h.unique id id' unit ⟨chain, phase₀, ht⟩ hstarts
          cases hgone.symm.trans ht'
    · rcases hstep.gains.outcome ho with hold | hwrites
      · cases (hfresh hnew).symm.trans hold
      · rcases hwrites.resolver with ⟨-, -, chain', e, hrejected⟩ | ⟨id', hstarts, -⟩
        · cases ((rejection?_eq_none_iff chain chain').mp haccepted).symm.trans hrejected
        · exact hnew (h.starting id' unit hstarts)
  case unique =>
    rintro id id' unit ⟨chain, phase, ht⟩ ⟨chain', phase', ht'⟩
    rcases hstep.start_arrives ht with ⟨phase₀, hold, -⟩ | ⟨-, -, hnew, -, -, hid⟩
    · rcases hstep.start_arrives ht' with ⟨phase₀', hold', -⟩ | ⟨-, -, hnew', -⟩
      · exact h.unique id id' unit ⟨chain, phase₀, hold⟩ ⟨chain', phase₀', hold'⟩
      · exact absurd (h.starting id unit ⟨chain, phase₀, hold⟩) hnew'
    · rcases hstep.start_arrives ht' with ⟨phase₀', hold', -⟩ | ⟨-, -, -, -, -, hid'⟩
      · exact absurd (h.starting id' unit ⟨chain', phase₀', hold'⟩) hnew
      · exact hid.trans hid'.symm

end Firm

omit [Platform σ] in
theorem firm_fresh (config : Config) (graph : Graph) (machine : σ) (notices : List Notice) :
    (fresh config graph machine notices).Firm := by
  have htasks (id : TaskId) : (fresh config graph machine notices).tasks[id]? = none := by
    simp [fresh, Init.new]
  have hstarts (id : TaskId) (unit : String) :
      ¬ (fresh config graph machine notices).Starts id unit := by
    rintro ⟨chain, phase, ht⟩
    cases (htasks id).symm.trans ht
  have houtcome (unit : String) :
      outcomeAfter? (fresh config graph machine notices).journal unit = none := by
    rw [← (ledger_fresh config graph machine notices).outcome, outcome?_fresh]
  exact {
    id_lt := fun id t ht => by cases (htasks id).symm.trans ht
    entered := fun unit o ho => by cases (houtcome unit).symm.trans ho
    starting := fun id unit h => absurd h (hstarts id unit)
    pending := fun id unit h => absurd h (hstarts id unit)
    unique := fun id id' unit h _ => absurd h (hstarts id unit) }

end InitDaemon.Init
