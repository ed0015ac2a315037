import Mathlib.Logic.Relation
import InitDaemon.Proofs.Process.OneInstance
import InitDaemon.Proofs.Init.Journal
import InitDaemon.Init.Start

/-!
# What an init does with its process table

All that an init ever does with its process table is one of a few deeds. A service is launched for
the first time when the own action of its unit begins, and by ticks after that. Once a shutdown has
begun no action begins. Other commands are spawned only if they are allowed.
-/

namespace InitDaemon

open Std InitDaemon.Journal InitDaemon.Units

/-! ## Worlds in which no process comes or goes -/

namespace World

structure Idles {σ : Type} (w w' : World σ) : Prop where
  now_le : w.now ≤ w'.now
  journal : ∃ new, w'.journal = new ++ w.journal ∧ ∀ r ∈ new, r.entry.IsAside

variable {σ : Type} {w w' w'' : World σ}

theorem Idles.refl (w : World σ) : w.Idles w :=
  ⟨Nat.le_refl _, [], rfl, List.forall_mem_nil _⟩

theorem Idles.trans (h : w.Idles w') (h' : w'.Idles w'') : w.Idles w'' := by
  obtain ⟨new, hnew, haside⟩ := h.journal
  obtain ⟨new', hnew', haside'⟩ := h'.journal
  refine ⟨Nat.le_trans h.now_le h'.now_le, new' ++ new, ?_, ?_⟩
  · rw [hnew', hnew, List.append_assoc]
  · rintro r hr
    exact (List.mem_append.mp hr).elim (haside' r) (haside r)

theorem Idles.of_eq {α : Type} {a : α} {p : α × World σ} (h : w.Idles p.2) (heq : p = (a, w')) :
    w.Idles w' := by
  rwa [heq] at h

theorem idles_machine (w : World σ) (machine : σ) : w.Idles { w with machine := machine } :=
  ⟨Nat.le_refl _, [], rfl, List.forall_mem_nil _⟩

theorem idles_note (w : World σ) (e : Entry) (he : e.IsAside) : w.Idles (w.note e) :=
  ⟨Nat.le_refl _, [⟨w.now, e⟩], rfl, by simpa using he⟩

theorem idles_foldl_say {notices : List Notice} (w : World σ)
    (h : ∀ n ∈ notices, (Entry.notice n).IsAside) : w.Idles (notices.foldl say w) := by
  induction notices generalizing w with
  | nil => exact .refl w
  | cons n notices ih =>
    obtain ⟨hn, hnotices⟩ := List.forall_mem_cons.mp h
    exact (w.idles_note (.notice n) hn).trans (ih _ hnotices)

variable [Platform σ]

theorem idles_signalAll (signal : ShutdownSignal) (w : World σ) : w.Idles (w.signalAll signal).2 :=
  (w.idles_machine _).trans (idles_note _ (.signalledAll signal) trivial)

theorem waitBlocking_journal (pid : Pid) (suspended : Bool) (w : World σ) :
    (w.waitBlocking pid suspended).2.journal =
      ⟨w.now, .waitedBlocking pid suspended⟩ :: w.journal := by
  simp only [waitBlocking]
  split <;> rfl

/-- Once it is noted that a process is waited for, nothing but time goes on. -/
theorem idles_waitBlocking (pid : Pid) (suspended : Bool) (w : World σ) :
    (w.note (.waitedBlocking pid suspended)).Idles (w.waitBlocking pid suspended).2 := by
  refine ⟨?_, [], w.waitBlocking_journal pid suspended, List.forall_mem_nil _⟩
  simp only [waitBlocking]
  split
  · exact Nat.le_refl _
  · exact Nat.le_max_left ..

theorem idles_terminateAll (state : PowerState) (w : World σ) :
    w.Idles (w.terminateAll state).2 := by
  have hsaid := (w.idles_note (.notice (.goingDown state)) trivial).trans
    (idles_note _ (.notice .terminating) trivial)
  exact hsaid.trans (idles_signalAll .terminate _)

theorem idles_killAll (w : World σ) : w.Idles w.killAll :=
  (w.idles_note (.notice .killing) trivial).trans (idles_signalAll .kill _)

theorem idles_lastCalls (state : PowerState) (w : World σ) : w.Idles (w.lastCalls state).2 := by
  have hsynced : w.Idles (w.say .syncing).sync :=
    ((w.idles_note (.notice .syncing) trivial).trans (idles_machine _ _)).trans
      (idles_note _ .synced trivial)
  exact (hsynced.trans (idles_machine _ _)).trans (idles_note _ (.rebooted state) trivial)

theorem idles_powerStage (state : PowerState) (grace : Nat) (stage : PowerStage) (w : World σ) :
    w.Idles (w.powerStage state grace stage).2 := by
  cases stage with
  | terminate =>
    have hsignalled := w.idles_terminateAll state
    simp only [powerStage]
    split
    next heq => exact hsignalled.of_eq heq
    next e w₁ heq =>
      have hsaid := w₁.idles_note (.notice (.terminateFailed e)) trivial
      exact ((hsignalled.of_eq heq).trans hsaid).trans (idles_lastCalls _ _)
  | kill => exact w.idles_killAll
  | finish => exact w.idles_lastCalls state

end World

/-- The setup steps of a platform tell nothing about processes. -/
class QuietSetup (σ : Type) [Platform σ] : Prop where
  host_aside : ∀ (now : Nat) (step : HostStep) (machine : σ),
    ∀ n ∈ (Platform.host now step machine).1.2, (Entry.notice n).IsAside

/-- Belongs to a setup step, or to what comes before the boot. -/
def Notice.IsPreparatory : Notice → Prop
  | duplicateUnit _ | shadowedUnit _ | unreadableDirectory .. | unreadableUnit .. | unitsLoaded _
  | cycleFound _ | mountingBasics | fallingBack _ | linkFailed .. | alreadyMounted _ | mounted ..
  | nodeFailed .. | readingFstab _ | fstabUnreadable .. | remounting _ | entryMounted _
  | entryFailed .. | raisingLoopback | ipMissing | settingHostname _ | notFirstProcess
  | kernelArguments _ => True
  | _ => False

theorem Notice.IsPreparatory.isAside {n : Notice} (h : n.IsPreparatory) :
    (Entry.notice n).IsAside := by
  cases n <;> trivial

/-- The setup steps of a platform tell of nothing but themselves. -/
class PlainSetup (σ : Type) [Platform σ] : Prop where
  host_preparatory : ∀ (now : Nat) (step : HostStep) (machine : σ),
    ∀ n ∈ (Platform.host now step machine).1.2, n.IsPreparatory

instance {σ : Type} [Platform σ] [PlainSetup σ] : QuietSetup σ where
  host_aside now step machine n hn :=
    (PlainSetup.host_preparatory now step machine n hn).isAside

theorem World.idles_host {σ : Type} [Platform σ] [QuietSetup σ] (step : HostStep) (w : World σ) :
    w.Idles (w.host step).2 := by
  have haside := QuietSetup.host_aside w.now step w.machine
  simp only [host]
  exact ((w.idles_machine _).trans (idles_note _ (.hosted step) trivial)).trans
    (idles_foldl_say _ haside)

namespace Supervisor

variable {σ : Type}

structure Idles (s s' : Supervisor σ) : Prop where
  world : s.toWorld.Idles s'.toWorld
  config : s'.config = s.config
  graph : s'.graph = s.graph
  crashes : s'.crashes = s.crashes
  processes : s'.processes = s.processes
  stopping : s.stopping = true → s'.stopping = true

theorem idles_stopRestarts (s : Supervisor σ) : s.Idles s.stopRestarts :=
  ⟨.refl _, rfl, rfl, rfl, rfl, fun _ => rfl⟩

variable [Platform σ]

inductive Deed (allowed : String → Prop) : Supervisor σ → Supervisor σ → Prop
  | idle {s s'} (h : s.Idles s') : Deed allowed s s'
  /-- Waits for a process of no unit while nothing else happens. -/
  | wait (s : Supervisor σ) (pid : Pid) (suspended : Bool)
    (h : ∀ unit, ¬ s.FiledUnder pid unit) :
    Deed allowed s { s with toWorld := s.note (.waitedBlocking pid suspended) }
  | release (s : Supervisor σ) (pid : Pid) (h : pid ∉ uncollected s.journal) :
    Deed allowed s (s.release pid)
  | spawn (s : Supervisor σ) (command : String) (h : allowed command) :
    Deed allowed s (s.spawn command).2
  | spawnAndAwait (s : Supervisor σ) (command : String) (h : allowed command) :
    Deed allowed s (s.spawnAndAwait command).2
  /-- The own action of a unit begins and launches the unit's service. -/
  | begin (s : Supervisor σ) (unit : String) (u : UnitDef) (hu : s.graph.get? unit = some u)
    (hstopping : s.stopping = false) :
    Deed allowed s (launchService unit u { s with toWorld := s.note (.began unit) }).2
  | tick (s : Supervisor σ) : Deed allowed s (s.tick s.now).2

def Deeds (allowed : String → Prop) : Supervisor σ → Supervisor σ → Prop :=
  Relation.ReflTransGen (Deed allowed)

/-! ## What a deed means to a unit -/

section

variable {s s' : Supervisor σ} {unit unit' : String} {pid : Pid}

omit [Platform σ]

namespace Idles

theorem journal (h : s.Idles s') : s.journal <:+ s'.journal := by
  obtain ⟨new, hnew, -⟩ := h.world.journal
  exact ⟨new, hnew.symm⟩

theorem uncollected (h : s.Idles s') : uncollected s'.journal = uncollected s.journal := by
  obtain ⟨new, hnew, haside⟩ := h.world.journal
  rw [hnew, uncollected_append haside]

theorem standing (h : s.Idles s') (unit : String) : s'.standing unit = s.standing unit := by
  obtain ⟨new, hnew, haside⟩ := h.world.journal
  exact standing_eq h.crashes (by rw [hnew, attempts_append haside])

theorem attempts (h : s.Idles s') (unit : String) :
    attempts s'.journal unit = attempts s.journal unit :=
  congrArg Standing.attempts (h.standing unit)

theorem deadline? (h : s.Idles s') (unit : String) :
    s'.crashes.deadline? unit = s.crashes.deadline? unit :=
  congrArg Standing.deadline? (h.standing unit)

theorem filed_iff (h : s.Idles s') : s'.FiledUnder pid unit ↔ s.FiledUnder pid unit := by
  rw [FiledUnder, FiledUnder, h.processes]

theorem tallies (h : s.Idles s') (hs : s.Tallies) : s'.Tallies :=
  hs.of_eq h.processes h.uncollected

end Idles

theorem spares_wait (unit : String) (suspended : Bool) (h : ∀ unit, ¬ s.FiledUnder pid unit) :
    s.Spares unit { s with toWorld := s.note (.waitedBlocking pid suspended) } where
  now := rfl
  graph := rfl
  stopping := rfl
  window := rfl
  threshold := rfl
  cooldown := rfl
  journal := List.suffix_cons _ _
  tallies hs := by
    constructor
    case filed =>
      intro pid' unit' hfiled
      refine List.mem_filter.mpr ⟨hs.filed pid' unit' hfiled, decide_eq_true ?_⟩
      rintro rfl
      exact h unit' hfiled
    case recorded => exact fun pid' hpid => hs.recorded pid' (List.mem_filter.mp hpid).1
  standing := rfl
  filed _ hfiled := hfiled
  still_filed _ _ _ hfiled := hfiled

theorem release_eq (s : Supervisor σ) (pid : Pid) : ∃ waiters settled, s.release pid =
    { s with processes := s.processes.erase pid, waiters := waiters, settled := settled } := by
  obtain ⟨waiters, settled, heq⟩ := s.settle_eq pid none
  rw [release, heq]
  exact ⟨waiters, settled, rfl⟩

/-- A process that has been collected elsewhere was none of a unit's. -/
theorem spares_release (unit : String) (h : pid ∉ uncollected s.journal) :
    s.Spares unit (s.release pid) := by
  obtain ⟨waiters, settled, heq⟩ := s.release_eq pid
  have hfiled : ∀ pid' unit', (s.release pid).FiledUnder pid' unit' ↔
      pid ≠ pid' ∧ s.FiledUnder pid' unit' := fun _ _ => filed_of_erase (by rw [heq])
  rw [heq] at hfiled ⊢
  refine {
    now := rfl, graph := rfl, stopping := rfl, window := rfl, threshold := rfl, cooldown := rfl
    journal := List.suffix_rfl, standing := rfl
    tallies := fun hs => ⟨fun pid' unit' hpid => ?_, fun pid' hpid => ?_⟩
    filed := fun pid' hpid => ((hfiled pid' unit).mp hpid).2
    still_filed := fun hs _ pid' hpid => (hfiled pid' unit).mpr ⟨?_, hpid⟩ }
  · exact hs.filed pid' unit' ((hfiled pid' unit').mp hpid).2
  · refine ExtTreeMap.mem_erase.mpr ⟨fun hsame => ?_, hs.recorded pid' hpid⟩
    exact h (LawfulEqCmp.eq_of_compare hsame ▸ hpid)
  · rintro rfl
    exact h (hs.filed pid unit hpid)

end

variable {s s' : Supervisor σ} {allowed : String → Prop} {unit : String}

theorem Deed.induction (unit : String) {p : Supervisor σ → Prop}
    (hidle : ∀ s s' : Supervisor σ, s.Idles s' → p s → p s')
    (htouch : ∀ s s', Touches unit s s' → p s → p s')
    (hbegin : ∀ s u, s.graph.get? unit = some u → s.stopping = false → p s →
      p (launchService unit u { s with toWorld := s.note (.began unit) }).2)
    (h : Deed allowed s s') (hs : p s) : p s' := by
  cases h with
  | idle h => exact hidle _ _ h hs
  | wait pid suspended h => exact htouch _ _ (.spared (spares_wait unit suspended h)) hs
  | release pid h => exact htouch _ _ (.spared (spares_release unit h)) hs
  | spawn command => exact htouch _ _ (.spared (spares_spawn unit command s)) hs
  | spawnAndAwait command => exact htouch _ _ (.spared (spares_spawnAndAwait unit command s)) hs
  | begin unit' u hu hstopping =>
    by_cases heq : unit' = unit
    · subst heq
      exact hbegin s u hu hstopping hs
    · have hnoted := s.spares_note unit (.began unit') trivial
      exact htouch _ _ (.spared (hnoted.trans (spares_launchService heq u _))) hs
  | tick => exact tick_induction unit htouch hs

theorem Deeds.induction (unit : String) {p : Supervisor σ → Prop}
    (hidle : ∀ s s' : Supervisor σ, s.Idles s' → p s → p s')
    (htouch : ∀ s s', Touches unit s s' → p s → p s')
    (hbegin : ∀ s u, s.graph.get? unit = some u → s.stopping = false → p s →
      p (launchService unit u { s with toWorld := s.note (.began unit) }).2)
    (h : Deeds allowed s s') (hs : p s) : p s' := by
  induction h with
  | refl => exact hs
  | tail _ hdeed ih => exact hdeed.induction unit hidle htouch hbegin ih

/-- No deed changes the configuration, or takes a shutdown back. -/
theorem Deed.settings (h : Deed allowed s s') :
    s'.config = s.config ∧ (s.stopping = true → s'.stopping = true) := by
  have hgrown : ∀ {t t' : Supervisor σ}, t.Grows t' →
      t'.config = t.config ∧ (t.stopping = true → t'.stopping = true) :=
    fun h => ⟨h.config, h.stopping⟩
  cases h with
  | idle h => exact ⟨h.config, h.stopping⟩
  | wait => exact ⟨rfl, id⟩
  | release pid => exact hgrown (s.grows_release pid)
  | spawn command => exact hgrown (grows_spawn command s)
  | spawnAndAwait command => exact hgrown (grows_spawnAndAwait command s)
  | begin unit u =>
    have h := grows_launchService unit u { s with toWorld := s.note (.began unit) }
    exact ⟨h.config, h.stopping⟩
  | tick => exact hgrown (grows_tick s.now s)

theorem Deeds.settings (h : Deeds allowed s s') :
    s'.config = s.config ∧ (s.stopping = true → s'.stopping = true) := by
  induction h with
  | refl => exact ⟨rfl, id⟩
  | tail _ hdeed ih =>
    exact ⟨hdeed.settings.1.trans ih.1, fun hstopping => hdeed.settings.2 (ih.2 hstopping)⟩

end Supervisor

end InitDaemon
