import InitDaemon.Proofs.Process.Deeds

/-!
# No service is lost

A service that is restarted always is running, or is parked, or its last launch has failed, once it
was launched. A parked unit is launched again when its cool-down is over, and not before. A unit
whose last launch failed is never launched again.
-/

namespace InitDaemon

open Std InitDaemon.Journal InitDaemon.Units

namespace Journal

/-- The own action of the unit begins once at most. -/
def BeginsOnce (journal : List Record) (unit : String) : Prop :=
  ∀ r earlier, r :: earlier <:+ journal → r.entry = .began unit → ¬ Begun earlier unit

theorem BeginsOnce.mono {journal journal' : List Record} {unit : String}
    (h : BeginsOnce journal' unit) (hsuffix : journal <:+ journal') : BeginsOnce journal unit :=
  fun r earlier hr => h r earlier (hr.trans hsuffix)

end Journal

namespace Supervisor

variable {σ : Type} {s s' : Supervisor σ} {allowed : String → Prop} {unit : String}
  {deadline : Nat}

def Runs (s : Supervisor σ) (unit : String) : Prop :=
  ∃ pid, s.FiledUnder pid unit

def Parked (s : Supervisor σ) (unit : String) : Prop :=
  ∃ deadline, s.crashes.deadline? unit = some deadline

def RunsCommand (s : Supervisor σ) (unit : String) : Prop :=
  ∃ u, s.graph.get? unit = some u ∧ u.execStart? ≠ none

/-- The unit has a service, which is restarted whenever it ends. -/
structure Lasts (s : Supervisor σ) (unit : String) : Prop where
  command : s.RunsCommand unit
  always : ∀ u, s.graph.get? unit = some u → u.restart = .always
  stopping : s.stopping = false

structure Kept (unit : String) (s : Supervisor σ) : Prop extends Lone unit s where
  tallies : s.Tallies
  begun : attempts s.journal unit ≠ [] → Begun s.journal unit
  command : attempts s.journal unit ≠ [] → s.RunsCommand unit
  covered : FreshNumbers s.journal → s.Lasts unit → attempts s.journal unit ≠ [] →
    s.Runs unit ∨ s.Parked unit ∨ LastFailed s.journal unit

def ExactlyOne (p q r : Prop) : Prop :=
  p ∧ ¬ q ∧ ¬ r ∨ ¬ p ∧ q ∧ ¬ r ∨ ¬ p ∧ ¬ q ∧ r

theorem Lone.exactlyOne (hs : Lone unit s)
    (h : s.Runs unit ∨ s.Parked unit ∨ LastFailed s.journal unit) :
    ExactlyOne (s.Runs unit) (s.Parked unit) (LastFailed s.journal unit) := by
  rcases h with ⟨pid, hpid⟩ | ⟨deadline, hparked⟩ | hfailed
  · obtain ⟨hnone, hfailed⟩ := hs.filed pid hpid
    refine .inl ⟨⟨pid, hpid⟩, ?_, hfailed⟩
    rintro ⟨deadline, hparked⟩
    cases hnone.symm.trans hparked
  · refine .inr (.inl ⟨?_, ⟨deadline, hparked⟩, hs.parked deadline hparked⟩)
    rintro ⟨pid, hpid⟩
    exact hs.not_filed hparked pid hpid
  · obtain ⟨hnone, hunparked⟩ := hs.vacant hfailed
    refine .inr (.inr ⟨?_, ?_, hfailed⟩)
    · rintro ⟨pid, hpid⟩
      exact hnone pid hpid
    · rintro ⟨deadline, hparked⟩
      cases hunparked.symm.trans hparked

/-! ## One attempt -/

theorem runsCommand_congr (h : s'.graph = s.graph) :
    s'.RunsCommand unit ↔ s.RunsCommand unit := by
  rw [RunsCommand, RunsCommand, h]

theorem Lasts.passed (h : s'.Lasts unit) (hpassed : s.Passes s') : s.Lasts unit where
  command := (runsCommand_congr hpassed.graph).mp h.command
  always := hpassed.graph ▸ h.always
  stopping := hpassed.stopping ▸ h.stopping

theorem Relaunches.attempt (h : Relaunches unit s s') (hcommand : s.RunsCommand unit) :
    ∃ r, attempts s'.journal unit = r :: attempts s.journal unit ∧ r.time = s.now := by
  cases h with
  | launched pid h => exact ⟨_, attempts_of_standing h.standing, rfl⟩
  | failed e h => exact ⟨_, attempts_of_standing h.standing, rfl⟩
  | spared hnone h =>
    obtain ⟨u, hu, hexec⟩ := hcommand
    exact absurd (hnone u hu) hexec

theorem Relaunches.attempt? (h : Relaunches unit s s') :
    ∃ r? : Option Record, attempts s'.journal unit = r?.toList ++ attempts s.journal unit ∧
      ∀ r ∈ r?, r.time = s.now := by
  cases h with
  | launched pid h => exact ⟨some _, attempts_of_standing h.standing, by simp⟩
  | failed e h => exact ⟨some _, attempts_of_standing h.standing, by simp⟩
  | spared _ h => exact ⟨none, h.attempts, by simp⟩

/-- A unit is touched for one attempt at most. -/
theorem Touches.attempt? (h : Touches unit s s') :
    ∃ r? : Option Record, attempts s'.journal unit = r?.toList ++ attempts s.journal unit ∧
      ∀ r ∈ r?, r.time = s.now := by
  cases h with
  | spared h => exact ⟨none, h.attempts, by simp⟩
  | rested pid _ _ h => exact ⟨none, attempts_of_standing h.standing, by simp⟩
  | parked pid _ _ _ h => exact ⟨none, attempts_of_standing h.standing, by simp⟩
  | restarted pid _ _ _ counted h h' =>
    obtain ⟨r?, hr, htime⟩ := h'.attempt?
    exact ⟨r?, hr.trans (congrArg _ (attempts_of_standing h.standing)), h.now ▸ htime⟩
  | resumed deadline _ _ _ unparked h h' =>
    obtain ⟨r?, hr, htime⟩ := h'.attempt?
    exact ⟨r?, hr.trans (congrArg _ (attempts_of_standing h.standing)), h.now ▸ htime⟩

/-- Unless its launch fails, a process of the unit runs then. -/
theorem Relaunches.runs (h : Relaunches unit s s') (hcommand : s.RunsCommand unit)
    (htallies : s.Tallies) (hfresh : FreshNumbers s'.journal) :
    s'.Runs unit ∨ LastFailed s'.journal unit := by
  cases h with
  | launched pid h => exact .inl ⟨pid, h.files htallies hfresh⟩
  | failed e h =>
    refine .inr ⟨⟨s.now, .notice (.restartFailed unit e)⟩, e, ?_, rfl⟩
    rw [attempts_of_standing h.standing]
    rfl
  | spared hnone h =>
    obtain ⟨u, hu, hexec⟩ := hcommand
    exact absurd (hnone u hu) hexec

/-! ## What keeps a service -/

namespace Kept

theorem idle (hs : Kept unit s) (h : s.Idles s') : Kept unit s' := by
  have hattempts := h.attempts unit
  have hdeadline := h.deadline? unit
  have hlast := lastFailed_congr hattempts
  have hfiled : ∀ pid, s'.FiledUnder pid unit ↔ s.FiledUnder pid unit := fun _ => h.filed_iff
  constructor
  case tallies => exact h.tallies hs.tallies
  case begun =>
    rw [hattempts]
    exact fun hlaunched => (hs.begun hlaunched).mono h.journal
  case command =>
    rw [hattempts, runsCommand_congr h.graph]
    exact hs.command
  case covered =>
    intro hfresh hlasts hlaunched
    have hstopping : s.stopping = false := by
      cases hstopping : s.stopping with
      | false => rfl
      | true => exact (h.stopping hstopping).symm.trans hlasts.stopping
    have hlasts' : s.Lasts unit :=
      ⟨(runsCommand_congr h.graph).mp hlasts.command, h.graph ▸ hlasts.always, hstopping⟩
    rw [hattempts] at hlaunched
    have hcovered := hs.covered (hfresh.mono h.journal) hlasts' hlaunched
    simpa only [Runs, Parked, hfiled, hdeadline, hlast] using hcovered
  case toLone =>
    constructor
    case unique => simpa only [hfiled] using hs.unique
    case filed => simpa only [hfiled, hdeadline, hlast] using hs.filed
    case parked => simpa only [hdeadline, hlast] using hs.parked
    case launched => simpa only [Vacant, hfiled, hdeadline, hattempts] using hs.launched

theorem touched (hs : Kept unit s) (h : Touches unit s s') : Kept unit s' := by
  have hpassed := h.passes
  have hlaunched : attempts s'.journal unit ≠ [] → attempts s.journal unit ≠ [] :=
    mt fun hnone => ((hs.launched hnone).spared h).attempts.trans hnone
  refine ⟨hs.toLone.touched h, hpassed.tallies hs.tallies, ?_, ?_, ?_⟩
  · exact fun hne => (hs.begun (hlaunched hne)).mono hpassed.journal
  · exact fun hne => (runsCommand_congr hpassed.graph).mpr (hs.command (hlaunched hne))
  · intro hfresh hlasts hlaunched
    have hlasts' := hlasts.passed hpassed
    cases h with
    | spared h =>
      have hcovered := hs.covered (hfresh.mono h.journal) hlasts' (h.attempts ▸ hlaunched)
      refine hcovered.imp ?_ (Or.imp ?_ (lastFailed_congr h.attempts).mpr)
      · exact fun ⟨pid, hpid⟩ => ⟨pid, h.still_filed hs.tallies hfresh pid hpid⟩
      · exact fun ⟨deadline, hparked⟩ => ⟨deadline, h.deadline?.trans hparked⟩
    | rested pid _ hidle _ =>
      -- A service that lasts is not left to rest.
      obtain ⟨u, hu, -⟩ := hlasts'.command
      rcases hidle with hstopping | hno
      · cases hlasts'.stopping.symm.trans hstopping
      · cases (hlasts'.always u hu).symm.trans (hno u hu)
    | parked pid _ _ _ h => exact .inr (.inl ⟨_, deadline?_of_standing h.standing⟩)
    | restarted pid _ _ _ counted h h' =>
      have hcommand := (runsCommand_congr h'.passes.graph).mp hlasts.command
      have hruns := h'.runs hcommand (h.tallies hs.tallies) hfresh
      exact hruns.imp_right .inr
    | resumed deadline _ _ _ unparked h h' =>
      have hcommand := (runsCommand_congr h'.passes.graph).mp hlasts.command
      have hruns := h'.runs hcommand (h.tallies hs.tallies) hfresh
      exact hruns.imp_right .inr

theorem launched_of_parked (hs : Kept unit s)
    (hparked : s.crashes.deadline? unit = some deadline) : attempts s.journal unit ≠ [] := by
  intro hnone
  cases (hs.launched hnone).2.symm.trans hparked

section

variable [Platform σ]

/-- The first launch of a unit finds nothing of an earlier one. -/
theorem begun_once (hs : Kept unit s) (u : UnitDef)
    (honce : BeginsOnce
      (launchService unit u { s with toWorld := s.note (.began unit) }).2.journal unit) :
    attempts s.journal unit = [] := by
  have hpassed := passes_launchService unit u { s with toWorld := s.note (.began unit) }
  refine Classical.byContradiction fun hlaunched => ?_
  exact honce ⟨s.now, .began unit⟩ s.journal hpassed.journal rfl (hs.begun hlaunched)

theorem begins {u : UnitDef} (hs : Kept unit s) (hu : s.graph.get? unit = some u)
    (honce : BeginsOnce
      (launchService unit u { s with toWorld := s.note (.began unit) }).2.journal unit) :
    Kept unit (launchService unit u { s with toWorld := s.note (.began unit) }).2 := by
  have hnone := hs.begun_once u honce
  have hnoted : s.Spares unit { s with toWorld := s.note (.began unit) } :=
    s.spares_note unit (.began unit) trivial
  have hvacant := hnoted.vacant (hs.launched hnone)
  have htallies := hnoted.tallies hs.tallies
  rcases launchService_cases unit u { s with toWorld := s.note (.began unit) } with h |
    ⟨hexec, pid, h⟩
  · have hstill := h.attempts.trans (hnoted.attempts.trans hnone)
    exact ⟨.of_vacant (h.vacant hvacant), h.tallies htallies, fun hne => absurd hstill hne,
      fun hne => absurd hstill hne, fun _ _ hne => absurd hstill hne⟩
  · refine ⟨.launches h hvacant, h.tallies htallies, fun _ => ?_, fun _ => ?_, fun hfresh _ _ => ?_⟩
    · exact ⟨⟨s.now, .began unit⟩, h.journal.mem List.mem_cons_self, rfl⟩
    · exact ⟨u, by rw [h.graph]; exact hu, hexec⟩
    · exact .inl ⟨pid, h.files htallies hfresh⟩

/-- What is kept by deeds as long as the unit begins once. Its first launch finds nothing of an
earlier one. -/
theorem induction {p : Supervisor σ → Prop} (hs : Kept unit s) (h : Deeds allowed s s')
    (honce : BeginsOnce s'.journal unit)
    (hidle : ∀ t t' : Supervisor σ, Kept unit t → t.Idles t' → p t → p t')
    (htouch : ∀ t t', Kept unit t → Touches unit t t' → p t → p t')
    (hbegin : ∀ t u, attempts t.journal unit = [] → p t →
      p (launchService unit u { t with toWorld := t.note (.began unit) }).2)
    (hp : p s) : Kept unit s' ∧ p s' := by
  refine h.induction unit (p := fun t => BeginsOnce t.journal unit → Kept unit t ∧ p t)
    ?_ ?_ ?_ (fun _ => ⟨hs, hp⟩) honce
  · intro t t' h ht honce
    obtain ⟨hkept, hp⟩ := ht (honce.mono h.journal)
    exact ⟨hkept.idle h, hidle t t' hkept h hp⟩
  · intro t t' h ht honce
    obtain ⟨hkept, hp⟩ := ht (honce.mono h.passes.journal)
    exact ⟨hkept.touched h, htouch t t' hkept h hp⟩
  · intro t u hu _ ht honce
    have hpassed := passes_launchService unit u { t with toWorld := t.note (.began unit) }
    obtain ⟨hkept, hp⟩ := ht (honce.mono ((List.suffix_cons _ _).trans hpassed.journal))
    exact ⟨hkept.begins hu honce, hbegin t u (hkept.begun_once u honce) hp⟩

theorem deeds (hs : Kept unit s) (h : Deeds allowed s s') (honce : BeginsOnce s'.journal unit) :
    Kept unit s' :=
  (hs.induction (p := fun _ => True) h honce (fun _ _ _ _ _ => trivial) (fun _ _ _ _ _ => trivial)
    (fun _ _ _ _ => trivial) trivial).1

/-- Nothing is launched again once a launch has failed. -/
theorem failed (hs : Kept unit s) (hfailed : LastFailed s.journal unit) (h : Deeds allowed s s')
    (honce : BeginsOnce s'.journal unit) :
    attempts s'.journal unit = attempts s.journal unit := by
  refine (hs.induction (p := fun t => attempts t.journal unit = attempts s.journal unit) h honce
    ?_ ?_ ?_ rfl).2
  · exact fun t t' _ h hsame => (h.attempts unit).trans hsame
  · intro t t' hkept h hsame
    have hvacant := hkept.vacant ((lastFailed_congr hsame).mpr hfailed)
    exact (hvacant.spared h).attempts.trans hsame
  · exact fun t u hnone hsame => absurd (hsame.symm.trans hnone) hfailed.ne_nil

end

end Kept

/-! ## The end of a cool-down -/

/-- What has become of a unit that was parked until `deadline`: it is still parked, or it has been
launched at that time or later. -/
inductive Awaited (s : Supervisor σ) (unit : String) (deadline : Nat) (s' : Supervisor σ) : Prop
  | parked (hparked : s'.crashes.deadline? unit = some deadline)
    (hsame : attempts s'.journal unit = attempts s.journal unit)
  | launched (new : List Record) (hnew : new ≠ [])
    (hattempts : attempts s'.journal unit = new ++ attempts s.journal unit)
    (hnow : deadline ≤ s'.now) (hlate : ∀ r ∈ new, deadline ≤ r.time)

theorem Awaited.touched {t t' : Supervisor σ} (ht : Awaited s unit deadline t)
    (hkept : Kept unit t) (hcommand : t.RunsCommand unit) (h : Touches unit t t') :
    Awaited s unit deadline t' := by
  cases ht with
  | launched new hne hnew hnow hlate =>
    obtain ⟨r?, hr?, htime⟩ := h.attempt?
    refine .launched (r?.toList ++ new) (by simp [hne]) ?_ (h.passes.now ▸ hnow) fun r hr => ?_
    · rw [hr?, hnew, List.append_assoc]
    · rcases List.mem_append.mp hr with hr | hr
      · exact htime r (Option.mem_toList.mp hr) ▸ hnow
      · exact hlate r hr
  | parked hparked hsame =>
    have hnone := hkept.not_filed hparked
    cases h with
    | spared h => exact .parked (h.deadline?.trans hparked) (h.attempts.trans hsame)
    | rested pid hfiled => exact absurd hfiled (hnone pid)
    | parked pid hfiled => exact absurd hfiled (hnone pid)
    | restarted pid hfiled => exact absurd hfiled (hnone pid)
    | resumed deadline' hparked' hdue _ unparked h h' =>
      cases hparked.symm.trans hparked'
      obtain ⟨r, hr, htime⟩ := h'.attempt ((runsCommand_congr h.graph).mpr hcommand)
      refine .launched [r] (by simp) ?_ ?_ ?_
      · rw [hr, attempts_of_standing h.standing, ← hsame]
        rfl
      · rw [h'.passes.now, h.now]
        exact hdue
      · rw [List.forall_mem_singleton, htime, h.now]
        exact hdue

variable [Platform σ]

/-- A parked unit is launched once its cool-down is over, and not before. -/
theorem Kept.parked_deeds (hs : Kept unit s) (hparked : s.crashes.deadline? unit = some deadline)
    (h : Deeds allowed s s') (honce : BeginsOnce s'.journal unit) : Awaited s unit deadline s' := by
  have hlaunched := hs.launched_of_parked hparked
  have hcommand := hs.command hlaunched
  -- That the unit has a command goes through the induction too: without one the end of the
  -- cool-down would pass without an attempt.
  refine (hs.induction (p := fun t => t.RunsCommand unit ∧ Awaited s unit deadline t) h honce
    ?_ ?_ ?_ ⟨hcommand, .parked hparked rfl⟩).2.2
  · rintro t t' _ h ⟨hcommand, hawaited⟩
    refine ⟨(runsCommand_congr h.graph).mpr hcommand, ?_⟩
    cases hawaited with
    | parked hparked hsame =>
      exact .parked ((h.deadline? unit).trans hparked) ((h.attempts unit).trans hsame)
    | launched new hne hnew hnow hlate =>
      have hnow' := Nat.le_trans hnow h.world.now_le
      exact .launched new hne ((h.attempts unit).trans hnew) hnow' hlate
  · rintro t t' hkept h ⟨hcommand, hawaited⟩
    exact ⟨(runsCommand_congr h.passes.graph).mpr hcommand, hawaited.touched hkept hcommand h⟩
  · rintro t u hnone ⟨hcommand, hawaited⟩
    refine absurd ?_ hlaunched
    cases hawaited with
    | parked _ hsame => exact hsame.symm.trans hnone
    | launched new hne hnew => exact (List.append_eq_nil_iff.mp (hnew.symm.trans hnone)).2

theorem attempt?_collectAny (unit : String) (s : Supervisor σ) : ∃ r? : Option Record,
    attempts s.collectAny.2.journal unit = r?.toList ++ attempts s.journal unit := by
  obtain ⟨t, hwaited, hcollected⟩ := touches_collectAny unit s
  obtain ⟨r?, hr, -⟩ := hcollected.attempt?
  exact ⟨r?, hr.trans (congrArg _ hwaited.attempts)⟩

/-- The tick that finds the cool-down over launches the unit once. It does so a second time only if
it then collects a process of the unit. -/
theorem Kept.tick_due (hs : Kept unit s) (hparked : s.crashes.deadline? unit = some deadline)
    (hdue : deadline ≤ s.now) (hstopping : s.stopping = false) :
    ∃ r, attempts (s.launchDueRestarts s.now).journal unit = r :: attempts s.journal unit ∧
      r.time = s.now ∧
      (attempts (s.tick s.now).2.journal unit = r :: attempts s.journal unit ∨
        ∃ pid r', (s.tick s.now).1 = .reaped pid ∧
          (s.launchDueRestarts s.now).FiledUnder pid unit ∧
          attempts (s.tick s.now).2.journal unit = r' :: r :: attempts s.journal unit) := by
  have hcommand := hs.command (hs.launched_of_parked hparked)
  obtain ⟨unparked, h, h'⟩ := launchDueRestarts_due hparked hdue hstopping
  obtain ⟨r, hr, htime⟩ := h'.attempt ((runsCommand_congr h.graph).mpr hcommand)
  rw [attempts_of_standing h.standing] at hr
  refine ⟨r, hr, htime.trans h.now, ?_⟩
  rw [tick_eq]
  by_cases hcollected : ∃ pid, (s.launchDueRestarts s.now).collectAny.1 = .reaped pid ∧
      (s.launchDueRestarts s.now).FiledUnder pid unit
  · obtain ⟨pid, hreaped, hfiled⟩ := hcollected
    obtain ⟨r?, hr?⟩ := attempt?_collectAny unit (s.launchDueRestarts s.now)
    rw [hr] at hr?
    cases r? with
    | none => exact .inl hr?
    | some r' => exact .inr ⟨pid, r', hreaped, hfiled, hr?⟩
  · refine .inl ((spares_collectAny fun pid hreaped hfiled => ?_).attempts.trans hr)
    exact hcollected ⟨pid, hreaped, hfiled⟩

end Supervisor

end InitDaemon
