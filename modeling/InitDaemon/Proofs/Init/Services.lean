import InitDaemon.Proofs.Host.Quiet
import InitDaemon.Proofs.Init.Operation
import InitDaemon.Proofs.Process.Keeping

/-!
# Services under an init

What a run of an init makes of a service: never more than one process, and none lost without a
trace.
-/

namespace InitDaemon.Init

open Std InitDaemon.Units InitDaemon.Journal Supervisor

variable {σ : Type}

/-! ## The start of a run -/

section

variable (config : Config) (graph : Graph) (machine : σ) {notices : List Notice} (unit : String)

theorem idles_fresh (hnotices : ∀ n ∈ notices, (Entry.notice n).IsAside) :
    (World.mk machine 0 []).Idles (fresh config graph machine notices).toWorld := by
  have haside : ∀ n ∈ graph.findCycles.map Notice.cycleFound, (Entry.notice n).IsAside := by
    rintro n hn
    obtain ⟨cycle, -, rfl⟩ := List.mem_map.mp hn
    trivial
  have hcycles := (notices.foldl World.say ⟨machine, 0, []⟩).idles_foldl_say haside
  rw [List.foldl_map] at hcycles
  exact (World.idles_foldl_say _ hnotices).trans hcycles

theorem kept_fresh (hnotices : ∀ n ∈ notices, (Entry.notice n).IsAside) :
    Kept unit (fresh config graph machine notices).toSupervisor := by
  obtain ⟨new, hnew, haside⟩ := (idles_fresh config graph machine hnotices).journal
  have hattempts : attempts (fresh config graph machine notices).journal unit = [] := by
    rw [hnew, attempts_append haside]
    rfl
  have huncollected : uncollected (fresh config graph machine notices).journal = [] := by
    rw [hnew, uncollected_append haside]
    rfl
  have hfiled : ∀ pid unit', ¬ (fresh config graph machine notices).FiledUnder pid unit' := by
    rintro pid unit' ⟨record, hrecord, -⟩
    simp [fresh, Init.new] at hrecord
  constructor
  case toLone =>
    have hparked : (fresh config graph machine notices).crashes.deadline? unit = none := by
      simp [fresh, Init.new, CrashTracker.deadline?]
    exact .of_vacant ⟨fun pid => hfiled pid unit, hparked⟩
  case tallies =>
    refine ⟨fun pid unit' hpid => absurd hpid (hfiled pid unit'), ?_⟩
    rw [huncollected]
    exact List.forall_mem_nil _
  case begun => exact fun hlaunched => absurd hattempts hlaunched
  case command => exact fun hlaunched => absurd hattempts hlaunched
  case covered => exact fun _ _ hlaunched => absurd hattempts hlaunched

end

/-! ## Own runs -/

variable [Platform σ] {s s' : Init σ} {config : Config} {graph : Graph} {machine : σ}
  {notices : List Notice} {unit : String} {u : UnitDef}

theorem Reaches.beginsOnce (h : (fresh config graph machine notices).Reaches s) (unit : String) :
    BeginsOnce s.journal unit :=
  fun r earlier hsuffix hbegan => (h.leads.ledger.orderly unit r earlier hsuffix hbegan).1

variable [QuietSetup σ]

theorem Operates.kept (h : (fresh config graph machine notices).Operates s)
    (hnotices : ∀ n ∈ notices, (Entry.notice n).IsAside) (unit : String) :
    Kept unit s.toSupervisor :=
  (kept_fresh config graph machine unit hnotices).deeds h.deeds
    ((h.reaches ⟨[], rfl⟩).beginsOnce unit)

/-- A process that has not been collected has its record. So a number is fresh if the table does not
have it. -/
theorem Operates.recorded (h : (fresh config graph machine notices).Operates s)
    (hnotices : ∀ n ∈ notices, (Entry.notice n).IsAside) :
    ∀ pid ∈ uncollected s.journal, pid ∈ s.processes :=
  (h.kept hnotices "").tallies.recorded

def LaunchedOnce (s : Init σ) (unit : String) : Prop :=
  ∃ time pid, ⟨time, .notice (.serviceStarted unit pid)⟩ ∈ s.journal

/-- What is promised of the service of a unit. -/
structure Attends (s : Init σ) (unit : String) (u : UnitDef) : Prop where
  unique : ∀ pid pid', s.FiledUnder pid unit → s.FiledUnder pid' unit → pid = pid'
  pidOf? : ∀ pid, s.pidOf? unit = some pid ↔ s.FiledUnder pid unit
  covered : u.restart = .always → s.LaunchedOnce unit →
    ExactlyOne (s.Runs unit) (s.Parked unit) (LastFailed s.journal unit)
  /-- A parked unit waits for the end of its cool-down. -/
  parked : ∀ deadline s', s.crashes.deadline? unit = some deadline → s.Operates s' →
    Awaited s.toSupervisor unit deadline s'.toSupervisor
  /-- At the end of its cool-down it is launched, and a second time by the same tick only if that
  collects a process of the unit. -/
  due : ∀ deadline, s.crashes.deadline? unit = some deadline → deadline ≤ s.now →
    ∃ r, attempts (s.launchDueRestarts s.now).journal unit = r :: attempts s.journal unit ∧
      r.time = s.now ∧
      (attempts (s.tick s.now).2.journal unit = r :: attempts s.journal unit ∨
        ∃ pid r', (s.tick s.now).1 = .reaped pid ∧
          (s.launchDueRestarts s.now).FiledUnder pid unit ∧
          attempts (s.tick s.now).2.journal unit = r' :: r :: attempts s.journal unit)
  failed : LastFailed s.journal unit → ∀ s', s.Operates s' →
    attempts s'.journal unit = attempts s.journal unit

theorem service_attended (hnotices : ∀ n ∈ notices, (Entry.notice n).IsAside)
    (h : (fresh config graph machine notices).Operates s) (hstopping : s.stopping = false)
    (hfresh : FreshNumbers s.journal) (hdisk : graph.disk[unit]? = some u)
    (hbuiltin : unit ∉ graph.builtin) : s.Attends unit u := by
  have hs := h.kept hnotices unit
  have hreaches := h.reaches (⟨[], rfl⟩ : (fresh config graph machine notices).Reaches _)
  have honce : ∀ s', s.Operates s' → BeginsOnce s'.journal unit := fun s' h' =>
    (h'.reaches hreaches).beginsOnce unit
  have hu : s.graph.get? unit = some u := by
    rw [hreaches.leads.later.graph]
    have hnone : graph.builtin[unit]? = none := ExtTreeMap.getElem?_eq_none hbuiltin
    simp [fresh, Init.new, Graph.get?, hnone, hdisk]
  constructor
  case unique => exact hs.unique
  case pidOf? => exact fun pid => hs.pidOf?_eq_some_iff
  case covered =>
    rintro halways ⟨time, pid, hmem⟩
    have hlaunched : attempts s.journal unit ≠ [] :=
      List.ne_nil_of_mem (List.mem_filter.mpr ⟨hmem, by simp [isAttempt]⟩)
    refine hs.exactlyOne (hs.covered hfresh ⟨hs.command hlaunched, ?_, hstopping⟩ hlaunched)
    intro u' hu'
    cases hu.symm.trans hu'
    exact halways
  case parked => exact fun deadline s' hparked h' => hs.parked_deeds hparked h'.deeds (honce s' h')
  case due => exact fun deadline hparked hdue => hs.tick_due hparked hdue hstopping
  case failed => exact fun hfailed s' h' => hs.failed hfailed h'.deeds (honce s' h')

/-! ## A service that ends as soon as it starts -/

def shaky : UnitDef :=
  { start := .command "/sbin/shaky", restart := .always }

def shakyMachine : Simulation.Script where
  children.endings :=
    (∅ : ExtTreeMap String Simulation.Endings).insert "/sbin/shaky" (.always ⟨.exited 1, 0⟩)

/-- Two crashes within a second park a service for a second. -/
def freshShaky : Init Simulation.Script :=
  fresh { crashThreshold := 2, crashWindow := 1000, crashCooldown := 1000 }
    { disk := (∅ : ExtTreeMap String UnitDef).insert "shaky" shaky } shakyMachine []

/-- The service is started, crashes twice and is parked until a second later. -/
def shakyMoves : List (Move Simulation.Script) :=
  [.request "shaky" [], .poll 0, .tick 0, .tick 0, .pass 1000]

theorem shaky_parked : freshShaky.PermitsAll shakyMoves ∧
    (freshShaky.run shakyMoves).stopping = false ∧
    FreshNumbers (freshShaky.run shakyMoves).journal ∧ (freshShaky.run shakyMoves).now = 1000 ∧
    (freshShaky.run shakyMoves).crashes.deadline? "shaky" = some 1000 := by
  decide +kernel

theorem shaky_attended : (freshShaky.run shakyMoves).crashes.deadline? "shaky" = some 1000 ∧
    (freshShaky.run shakyMoves).Attends "shaky" shaky := by
  obtain ⟨hpermitted, hstopping, hfresh, -, hparked⟩ := shaky_parked
  refine ⟨hparked, service_attended (List.forall_mem_nil _) ⟨shakyMoves, hpermitted, rfl⟩ hstopping
    hfresh ExtTreeMap.getElem?_insert_self ?_⟩
  simp

/-- The tick at the end of the cool-down collects the process that it has just launched. -/
theorem shaky_launched_twice : freshShaky.Operates (freshShaky.run shakyMoves) ∧
    (freshShaky.run shakyMoves).stopping = false ∧ (freshShaky.run shakyMoves).now = 1000 ∧
    (freshShaky.run shakyMoves).crashes.deadline? "shaky" = some 1000 ∧
    FreshNumbers ((freshShaky.run shakyMoves).tick 1000).2.journal ∧
    ¬ ∃ r, attempts ((freshShaky.run shakyMoves).tick 1000).2.journal "shaky" =
      r :: attempts (freshShaky.run shakyMoves).journal "shaky" := by
  obtain ⟨hpermitted, hstopping, -, hnow, hparked⟩ := shaky_parked
  have htwice : FreshNumbers ((freshShaky.run shakyMoves).tick 1000).2.journal ∧
      (attempts ((freshShaky.run shakyMoves).tick 1000).2.journal "shaky").length =
        (attempts (freshShaky.run shakyMoves).journal "shaky").length + 2 := by
    decide +kernel
  refine ⟨⟨shakyMoves, hpermitted, rfl⟩, hstopping, hnow, hparked, htwice.1, ?_⟩
  rintro ⟨r, hr⟩
  have hlength := htwice.2
  rw [hr, List.length_cons] at hlength
  omega

end InitDaemon.Init
