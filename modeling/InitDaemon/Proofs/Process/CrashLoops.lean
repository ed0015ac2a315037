import InitDaemon.Proofs.Process.OneInstance
import InitDaemon.Simulation.Script

/-!
# Crash loops are slowed down

However often a service crashes, the attempts to launch it in any window number at most `threshold`.
While a process is filed under the unit, every attempt in the window that ends now but the last one
has its crash in the history. A unit that is parked has no attempt in the window that ends with its
cool-down.
-/

namespace InitDaemon

open Std InitDaemon.Journal InitDaemon.Units

namespace Journal

variable {records : List Record} {start stop time : Nat} {r : Record}

def countSince (records : List Record) (time : Nat) : Nat :=
  records.countP fun r => time ≤ r.time

/-- How many records fall into a half-open interval. -/
def countWithin (records : List Record) (start stop : Nat) : Nat :=
  records.countP fun r => start ≤ r.time ∧ r.time < stop

theorem countWithin_le_countSince : countWithin records start stop ≤ countSince records start := by
  refine List.countP_mono_left fun r _ h => ?_
  simp only [decide_eq_true_eq] at h ⊢
  exact h.1

theorem countSince_eq_zero (h : ∀ r ∈ records, r.time < time) : countSince records time = 0 := by
  refine List.countP_eq_zero.mpr fun r hr => ?_
  have hlt := h r hr
  simp only [decide_eq_true_eq]
  omega

theorem countSince_cons_le : countSince (r :: records) time ≤ 1 + countSince records time := by
  rw [countSince, List.countP_cons, countSince]
  split <;> omega

/-- A new record makes an interval no fuller than it was, or counts with all since its start. -/
theorem countWithin_cons : countWithin (r :: records) start stop = countWithin records start stop ∨
    r.time < stop ∧ countWithin (r :: records) start stop ≤ 1 + countSince records start := by
  have hle : countWithin records start stop ≤ countSince records start := countWithin_le_countSince
  rw [countWithin, List.countP_cons, ← countWithin]
  split
  next hwithin =>
    simp only [decide_eq_true_eq] at hwithin
    exact .inr ⟨hwithin.2, by omega⟩
  next => exact .inl rfl

end Journal

namespace CrashTracker

variable {t : CrashTracker} {unit : String} {now time : Nat}

/-- All crashes in the window that ends now still count, and so does the new one. -/
theorem countP_recentCrashes (htime : now < time + t.window) (hnow : time ≤ now) :
    1 + (t.crashesOf unit).countP (time ≤ ·) ≤ (t.recentCrashes unit now).countP (time ≤ ·) := by
  have hkept : (t.crashesOf unit).countP (time ≤ ·) ≤
      ((t.crashesOf unit).filter fun crash => now - crash < t.window).countP (time ≤ ·) := by
    rw [List.countP_filter]
    refine List.countP_mono_left fun crash _ hcrash => ?_
    simp only [decide_eq_true_eq, Bool.and_eq_true] at hcrash ⊢
    omega
  rw [recentCrashes, List.countP_append]
  have hnew : [now].countP (time ≤ ·) = 1 := by simp [hnow]
  omega

end CrashTracker

namespace Supervisor

variable {σ : Type} {s s' : Supervisor σ} {unit : String} {pid : Pid} {u : UnitDef}

structure Paced (unit : String) (s : Supervisor σ) : Prop extends Lone unit s where
  threshold_pos : 1 ≤ s.crashes.threshold
  window_le : s.crashes.window ≤ s.crashes.cooldown
  past : ∀ r ∈ (s.standing unit).attempts, r.time ≤ s.now
  cooled : ∀ deadline, (s.standing unit).deadline? = some deadline →
    ∀ r ∈ (s.standing unit).attempts, r.time + s.crashes.window ≤ deadline
  counted : ∀ pid, s.FiledUnder pid unit → ∀ time, s.now < time + s.crashes.window →
    countSince (s.standing unit).attempts time ≤
      1 + (s.standing unit).crashes.countP (time ≤ ·)
  bounded : ∀ start, countWithin (s.standing unit).attempts start (start + s.crashes.window) ≤
    s.crashes.threshold

namespace Paced

theorem elapse (hs : Paced unit s) (delay : Nat) :
    Paced unit { s with toWorld := s.toWorld.elapse delay } := by
  have hle : s.now ≤ (s.toWorld.elapse delay).now := Nat.le_add_right _ _
  exact { hs with
    past := fun r hr => Nat.le_trans (hs.past r hr) hle
    counted := fun pid hpid time htime => hs.counted pid hpid time (Nat.lt_of_le_of_lt hle htime) }

/-- The attempts are as before. Nothing more than that is to be shown of a unit without a
process. -/
theorem calm (hs : Paced unit s) (h : s.Passes s')
    (hattempts : (s'.standing unit).attempts = (s.standing unit).attempts) (hlone : Lone unit s')
    (hcooled : ∀ deadline, (s'.standing unit).deadline? = some deadline →
      ∀ r ∈ (s.standing unit).attempts, r.time + s.crashes.window ≤ deadline)
    (hcounted : ∀ pid, s'.FiledUnder pid unit → s.FiledUnder pid unit ∧
      (s'.standing unit).crashes = (s.standing unit).crashes) : Paced unit s' where
  toLone := hlone
  threshold_pos := h.threshold ▸ hs.threshold_pos
  window_le := by rw [h.window, h.cooldown]; exact hs.window_le
  past := by rw [hattempts, h.now]; exact hs.past
  cooled := by rw [hattempts, h.window]; exact hcooled
  counted pid hpid := by
    obtain ⟨hold, hcrashes⟩ := hcounted pid hpid
    rw [hattempts, hcrashes, h.now, h.window]
    exact hs.counted pid hold
  bounded := by rw [hattempts, h.window, h.threshold]; exact hs.bounded

theorem spared (hs : Paced unit s) (h : s.Spares unit s') : Paced unit s' := by
  refine hs.calm h.toPasses (by rw [h.standing]) (hs.toLone.spared h) ?_ ?_
  · rw [h.standing]
    exact hs.cooled
  · exact fun pid hpid => ⟨h.filed pid hpid, by rw [h.standing]⟩

/-- An attempt is in its place if each one in the window that ends now has its crash. -/
theorem attempted {r : Record} (hs : Paced unit s) (h : s.Passes s') (hlone : Lone unit s')
    (hstanding : s'.standing unit =
      { s.standing unit with attempts := r :: (s.standing unit).attempts })
    (hr : r.time = s.now) (hparked : (s.standing unit).deadline? = none)
    (hcrashes : ∀ time, s.now < time + s.crashes.window →
      countSince (s.standing unit).attempts time ≤ (s.standing unit).crashes.countP (time ≤ ·))
    (hroom : ∀ time, s.now < time + s.crashes.window →
      countSince (s.standing unit).attempts time < s.crashes.threshold) : Paced unit s' where
  toLone := hlone
  threshold_pos := h.threshold ▸ hs.threshold_pos
  window_le := by rw [h.window, h.cooldown]; exact hs.window_le
  past := by
    rw [hstanding, h.now]
    exact List.forall_mem_cons.mpr ⟨Nat.le_of_eq hr, hs.past⟩
  cooled deadline hdeadline := by
    rw [hstanding] at hdeadline
    cases hparked.symm.trans hdeadline
  counted pid hpid time htime := by
    rw [h.now, h.window] at htime
    rw [hstanding]
    exact Nat.le_trans countSince_cons_le (Nat.add_le_add_left (hcrashes time htime) 1)
  bounded start := by
    rw [hstanding, h.window, h.threshold]
    rcases countWithin_cons with hsame | ⟨hlt, hle⟩
    · rw [hsame]
      exact hs.bounded start
    · exact Nat.le_trans hle (Nat.add_comm _ 1 ▸ hroom start (hr ▸ hlt))

theorem relaunched (hs : Paced unit s) (h : Relaunches unit s s') (hvacant : s.Vacant unit)
    (hcrashes : ∀ time, s.now < time + s.crashes.window →
      countSince (s.standing unit).attempts time ≤ (s.standing unit).crashes.countP (time ≤ ·))
    (hroom : ∀ time, s.now < time + s.crashes.window →
      countSince (s.standing unit).attempts time < s.crashes.threshold) : Paced unit s' := by
  have hlone := Lone.relaunches h hvacant
  cases h with
  | launched pid h => exact hs.attempted h.toPasses hlone h.standing rfl hvacant.2 hcrashes hroom
  | failed e h => exact hs.attempted h.toPasses hlone h.standing rfl hvacant.2 hcrashes hroom
  | spared _ h => exact hs.spared h

theorem touched (hs : Paced unit s) (h : Touches unit s s') : Paced unit s' := by
  have hlone := hs.toLone.touched h
  cases h with
  | spared h => exact hs.spared h
  | rested pid hfiled _ h =>
    have hnone := h.none_filed hs.toLone hfiled
    refine hs.calm h.toPasses (by rw [h.standing]) hlone ?_ fun p hp => absurd hp (hnone p)
    rw [h.standing]
    exact hs.cooled
  | parked pid hfiled _ _ h =>
    have hnone := h.none_filed hs.toLone hfiled
    refine hs.calm h.toPasses (by rw [h.standing]) hlone ?_ fun p hp => absurd hp (hnone p)
    rw [h.standing]
    intro deadline hdeadline r hr
    cases hdeadline
    have hpast := hs.past r hr
    have hwindow := hs.window_le
    omega
  | restarted pid hfiled _ hsparse counted h h' =>
    have hnone := h.none_filed hs.toLone hfiled
    have hdeadline : (s.standing unit).deadline? = none := (hs.filed pid hfiled).1
    have hvacant : counted.Vacant unit :=
      ⟨hnone, (deadline?_of_standing h.standing).trans hdeadline⟩
    have hcounted : Paced unit counted := by
      refine hs.calm h.toPasses (by rw [h.standing]) (.of_vacant hvacant) ?_
        fun p hp => absurd hp (hnone p)
      rw [h.standing]
      exact hs.cooled
    have hcrashes : ∀ time, s.now < time + s.crashes.window →
        countSince (s.standing unit).attempts time ≤
          (s.crashes.recentCrashes unit s.now).countP (time ≤ ·) := by
      intro time htime
      by_cases hle : time ≤ s.now
      · exact Nat.le_trans (hs.counted pid hfiled time htime)
          (CrashTracker.countP_recentCrashes htime hle)
      · rw [countSince_eq_zero fun r hr => Nat.lt_of_le_of_lt (hs.past r hr) (Nat.not_le.mp hle)]
        exact Nat.zero_le _
    refine hcounted.relaunched h' hvacant ?_ ?_
    · rw [h.now, h.window, h.standing]
      exact hcrashes
    · rw [h.now, h.window, h.threshold, h.standing]
      intro time htime
      have hlength := Nat.le_trans (hcrashes time htime) List.countP_le_length
      exact Nat.lt_of_le_of_lt hlength hsparse
  | resumed deadline hparked hdue _ unparked h h' =>
    have hnone : ∀ p, ¬ unparked.FiledUnder p unit := fun p hp =>
      hs.not_filed hparked p ((h.filed_iff p).mp hp).2
    have hvacant : unparked.Vacant unit := ⟨hnone, deadline?_of_standing h.standing⟩
    have hunparked : Paced unit unparked := by
      refine hs.calm h.toPasses (by rw [h.standing]) (.of_vacant hvacant) ?_
        fun p hp => absurd hp (hnone p)
      rw [h.standing]
      nofun
    -- Every attempt has left the window by the end of the cool-down.
    have hzero : ∀ time, s.now < time + s.crashes.window →
        countSince (s.standing unit).attempts time = 0 := by
      intro time htime
      refine countSince_eq_zero fun r hr => ?_
      have hcooled := hs.cooled deadline hparked r hr
      omega
    refine hunparked.relaunched h' hvacant ?_ ?_
    · rw [h.now, h.window, h.standing]
      exact fun time htime => Nat.le_trans (Nat.le_of_eq (hzero time htime)) (Nat.zero_le _)
    · rw [h.now, h.window, h.threshold, h.standing]
      exact fun time htime => (hzero time htime).symm ▸ hs.threshold_pos

end Paced

/-! ## Runs of ticks -/

/-- No process of the unit was ever started. -/
def Unlaunched (s : Supervisor σ) (unit : String) : Prop :=
  s.Vacant unit ∧ attempts s.journal unit = []

theorem paced_unlaunched (hthreshold : 1 ≤ s.crashes.threshold)
    (hcooldown : s.crashes.window ≤ s.crashes.cooldown) (hs : s.Unlaunched unit) :
    Paced unit s := by
  have hattempts : (s.standing unit).attempts = [] := hs.2
  refine ⟨.of_vacant hs.1, hthreshold, hcooldown, ?_, ?_, ?_, ?_⟩
  · rw [hattempts]
    exact List.forall_mem_nil _
  · rw [hattempts]
    exact fun _ _ => List.forall_mem_nil _
  · exact fun pid hpid => absurd hpid (hs.1.1 pid)
  · rw [hattempts]
    exact fun _ => Nat.zero_le _

variable [Platform σ]

/-- A tick after a delay, at the time that it has become. -/
def tickAfter (s : Supervisor σ) (delay : Nat) : Supervisor σ :=
  let s := { s with toWorld := s.toWorld.elapse delay }
  (s.tick s.now).2

def ticks (s : Supervisor σ) (delays : List Nat) : Supervisor σ :=
  delays.foldl tickAfter s

theorem Paced.launchService (hs : Paced unit s) (hnew : s.Unlaunched unit) (u : UnitDef) :
    Paced unit (s.launchService unit u).2 := by
  rcases s.launchService_cases unit u with h | ⟨-, pid, h⟩
  · exact hs.spared h
  · have hattempts : (s.standing unit).attempts = [] := hnew.2
    refine hs.relaunched (.launched pid h) hnew.1 ?_ ?_
    · rw [hattempts]
      exact fun _ _ => Nat.zero_le _
    · rw [hattempts]
      exact fun _ _ => hs.threshold_pos

theorem Paced.ticks (hs : Paced unit s) (delays : List Nat) (start : Nat) :
    countWithin (attempts (s.ticks delays).journal unit) start (start + s.crashes.window) ≤
      s.crashes.threshold := by
  induction delays generalizing s with
  | nil => exact hs.bounded start
  | cons delay delays ih =>
    have helapsed := hs.elapse delay
    have hticked := ih (tick_induction unit (fun _ _ h hs => hs.touched h) helapsed)
    have hpassed := passes_tick { s with toWorld := s.toWorld.elapse delay }
    rwa [hpassed.window, hpassed.threshold] at hticked

/-- In any window the launches of a unit number at most `threshold`: the first one, restarts at once
and restarts after a cool-down together. -/
theorem launches_rate_limited (s : Supervisor σ) (unit : String) (u : UnitDef)
    (delays : List Nat) (hnew : s.Unlaunched unit) (hthreshold : 1 ≤ s.crashes.threshold)
    (hcooldown : s.crashes.window ≤ s.crashes.cooldown) (start : Nat) :
    countWithin (attempts ((s.launchService unit u).2.ticks delays).journal unit) start
      (start + s.crashes.window) ≤ s.crashes.threshold := by
  have hlaunched := (paced_unlaunched hthreshold hcooldown hnew).launchService hnew u
  have hbounded := hlaunched.ticks delays start
  have hpassed := s.passes_launchService unit u
  rwa [hpassed.window, hpassed.threshold] at hbounded

/-! ## A service that ends as soon as it starts -/

def crashing : UnitDef :=
  { start := .command "/sbin/crashing", restart := .always }

/-- Three crashes within 100 milliseconds park a service for 200. -/
def crashingTable : Supervisor Simulation.Script where
  machine.children.endings :=
    (∅ : ExtTreeMap String Simulation.Endings).insert "/sbin/crashing" (.always ⟨.exited 1, 0⟩)
  config := {}
  graph.disk := (∅ : ExtTreeMap String UnitDef).insert "crashing" crashing
  crashes := { window := 100, threshold := 3, cooldown := 200 }

theorem crashing_rate_limited :
    crashingTable.Unlaunched "crashing" ∧ 1 ≤ crashingTable.crashes.threshold ∧
      crashingTable.crashes.window ≤ crashingTable.crashes.cooldown ∧
      countWithin (attempts ((crashingTable.launchService "crashing" crashing).2.ticks
        [0, 10, 10, 100, 100, 0]).journal "crashing") 180 280 ≤ 3 := by
  have hnew : crashingTable.Unlaunched "crashing" := by
    refine ⟨⟨?_, by decide +kernel⟩, rfl⟩
    rintro pid ⟨record, hrecord, -⟩
    simp [crashingTable] at hrecord
  exact ⟨hnew, by decide, by decide, launches_rate_limited crashingTable "crashing" crashing
    [0, 10, 10, 100, 100, 0] hnew (by decide) (by decide) 180⟩

example : (attempts ((crashingTable.launchService "crashing" crashing).2.ticks
    [0, 10, 10, 100, 100, 0]).journal "crashing").map Record.time = [220, 220, 220, 10, 0, 0] := by
  decide +kernel

end Supervisor

end InitDaemon
