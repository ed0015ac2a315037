import InitDaemon.Proofs.Init.OrderedRuns
import InitDaemon.Proofs.Init.PowerCourse

/-!
# The course of a move

What one move of a run in order can do to the shutdowns, told once: it leaves all of them in their
order, begins one, or makes the last call, and after the last call nobody goes on.
-/

namespace InitDaemon.Init

open Std InitDaemon.Journal

variable {σ : Type} {id : TaskId} {s s' : Init σ} {config : Config}

inductive Progress (s s' : Init σ) : Prop
  | advances (h : s.Advances s')
  /-- A task of a later state asks for another power state and falls asleep behind all others. -/
  | begins (s₁ : Init σ) (hs : s.Advances s₁) (id : TaskId) (cause : PowerCause)
    (state : PowerState) (hid : s₁.pause? id = none) (htidy : s'.Tidy)
    (hconfig : s'.config = s₁.config)
    (hpauses : s'.pauses =
      s₁.pauses.sleep id (Pauses.firstPause s₁.now s₁.config.shutdownGrace state))
    (hcalm : StaysCalm (⟨s₁.now, .powerRequested id cause state⟩ :: s₁.journal) s'.journal)
  | unheard (s₁ : Init σ) (hs : s.Advances s₁) (id : TaskId) (cause : PowerCause)
    (state : PowerState)
    (h : Unheard state (⟨s₁.now, .powerRequested id cause state⟩ :: s₁.journal) s'.journal)
    (hhalt : s'.halt.isSome)
  | ends (id : TaskId) (rest : List TaskId) (q : Pause) (hline : s.pauses.line = id :: rest)
    (hq : s.pause? id = some q) (hfinish : q.next = .finish)
    (hlast : LastCall q.state s.journal s'.journal) (hhalt : s'.halt.isSome)

/-- Everyone has a place. -/
structure Ready (config : Config) (s : Init σ) : Prop where
  tidy : s.Tidy
  config_eq : s.config = config
  sound : s.pauses.Sound config.shutdownGrace

theorem Ready.advances (h : s.Ready config) (hs : s.Advances s') : s'.Ready config where
  tidy := hs.tidy
  config_eq := hs.config.trans h.config_eq
  sound := h.sound.step hs.step

/-- Everyone has a place until nobody goes on any more. -/
theorem Ready.progress (h : s.Ready config) (hs : s.Progress s') (hhalt : s'.halt = none) :
    s'.Ready config := by
  cases hs with
  | advances hs => exact h.advances hs
  | begins s₁ hs id cause state hid htidy hconfig hpauses =>
    have hready := h.advances hs
    refine ⟨htidy, hconfig.trans hready.config_eq, ?_⟩
    rw [hpauses, hready.config_eq]
    exact hready.sound.begin hid state
  | unheard s₁ hs id cause state hunheard hsome =>
    rw [hhalt] at hsome
    cases hsome
  | ends id rest q hline hq hfinish hlast hsome =>
    rw [hhalt] at hsome
    cases hsome

variable [Platform σ]

theorem Ready.poll (h : s.Ready config) (hpatient : config.foundation.length + 2 ≤ patience)
    (hmove : s.InOrder (.poll id)) : s.Progress (s.pollQueued id) := by
  obtain ⟨-, hid, hhead⟩ := hmove
  cases hq : s.pause? id with
  | none =>
    rcases h.tidy.poll hid hq (h.config_eq ▸ hpatient) with hkeeps | ⟨s₁, hkeeps, hask⟩
    · exact .advances hkeeps.advances
    · obtain ⟨cause, state, ⟨htidy, hconfig, hpauses, hcalm⟩ | ⟨hunheard, hhalt⟩⟩ :=
        hkeeps.tidy.asks hask
      · exact .begins s₁ hkeeps.advances id cause state hask.free htidy hconfig hpauses hcalm
      · exact .unheard s₁ hkeeps.advances id cause state hunheard hhalt
  | some q =>
    obtain ⟨rest, hline⟩ := List.head?_eq_some_iff.mp (hhead (by rw [hq]; rfl))
    rcases h.tidy.resumes h.sound hline hq with hadvances | ⟨hfinish, hlast, hhalt⟩
    · exact .advances hadvances
    · exact .ends id rest q hline hq hfinish hlast hhalt

theorem Ready.perform (h : s.Ready config) (hpatient : config.foundation.length + 2 ≤ patience)
    {move : Move σ} (hmove : s.InOrder move) : s.Progress (s.perform move) := by
  by_cases hpoll : ∃ id, move = .poll id
  · obtain ⟨id, rfl⟩ := hpoll
    exact h.poll hpatient hmove
  · exact .advances (h.tidy.advances_perform h.sound hmove fun id heq => hpoll ⟨id, heq⟩)

theorem halt_perform {move : Move σ} (hmove : s.InOrder move)
    (hhalt : (s.perform move).halt = none) : s.halt = none := by
  by_cases hpoll : ∃ id, move = .poll id
  · obtain ⟨id, rfl⟩ := hpoll
    exact hmove.1
  · rw [← (calm_perform hmove fun id heq => hpoll ⟨id, heq⟩).2]
    exact hhalt

theorem Ready.run {moves : List (Move σ)} (h : s.halt = none → s.Ready config)
    (hpatient : config.foundation.length + 2 ≤ patience) (hmoves : s.AllInOrder moves)
    (hhalt : (s.run moves).halt = none) : (s.run moves).Ready config := by
  induction moves generalizing s with
  | nil => exact h hhalt
  | cons move moves ih =>
    refine ih (s := s.perform move) (fun hnone => ?_) hmoves.2 hhalt
    have hready := h (halt_perform hmoves.1 hnone)
    exact hready.progress (hready.perform hpatient hmoves.1) hnone

section

variable (config : Config) (graph : Units.Graph) (machine : σ) (notices : List Notice)

omit [Platform σ]

theorem pause?_fresh (c : TaskId) : (fresh config graph machine notices).pause? c = none := by
  have hnone : (fresh config graph machine notices).tasks[c]? = none := by
    simp [fresh, Init.new]
  rw [pause?, hnone]
  rfl

theorem ready_fresh : (fresh config graph machine notices).Ready config := by
  have hnone : ∀ c : TaskId, (fresh config graph machine notices).tasks[c]? = none := by
    simp [fresh, Init.new]
  have hpause : ∀ c, (fresh config graph machine notices).pauses.pause? c = none :=
    pause?_fresh config graph machine notices
  refine ⟨?_, rfl, ?_⟩
  · refine ⟨List.forall_mem_nil _, List.forall_mem_nil _, List.forall_mem_nil _, fun c t ht => ?_⟩
    cases (hnone c).symm.trans ht
  · constructor
    case nodup => exact List.nodup_nil
    case mem_iff =>
      intro c
      rw [hpause]
      exact ⟨fun hmem => absurd hmem List.not_mem_nil, fun hsome => by cases hsome⟩
    case due => exact fun c q hc => absurd hc List.not_mem_nil
    case alarm => exact fun a q ha => absurd ha List.not_mem_nil
    case stage =>
      intro c q hq
      cases (hpause c).symm.trans hq

end

end InitDaemon.Init
