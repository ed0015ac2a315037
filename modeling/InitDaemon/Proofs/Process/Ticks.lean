import InitDaemon.Proofs.Process.Standing

/-!
# What a tick means to a unit

A tick touches a unit twice at most. First the unit is launched again if its cool-down is over. Then
a process of its may be collected, and the unit rests, is parked or is launched again at once.
-/

namespace InitDaemon

open Std InitDaemon.Journal

/-! ## The crash tracker -/

namespace CrashTracker

variable {t : CrashTracker} {unit unit' : String} {now deadline : Nat}

theorem deadline?_takeDue : (t.takeDue now).2.deadline? unit =
    (t.deadline? unit).filter fun deadline => now < deadline :=
  ExtTreeMap.getElem?_filter'

theorem mem_dueUnits :
    unit ∈ (t.takeDue now).1 ↔ ∃ deadline, t.deadline? unit = some deadline ∧ deadline ≤ now := by
  have hkey : unit ∈ (t.takeDue now).1 ↔
      unit ∈ t.parked.filter fun _ deadline => decide (deadline ≤ now) := ExtTreeMap.mem_keys
  rw [hkey, ExtTreeMap.mem_iff_isSome_getElem?, ExtTreeMap.getElem?_filter', deadline?]
  cases t.parked[unit]? with
  | none => simp
  | some deadline => simp [Option.filter_some]

theorem nodup_dueUnits : (t.takeDue now).1.Nodup :=
  ExtTreeMap.nodup_keys

theorem judge_of_lt (h : (t.recentCrashes unit now).length < t.threshold) :
    t.judge unit now =
      (.restart, { t with history := t.history.insert unit (t.recentCrashes unit now) }) :=
  if_pos h

theorem judge_of_le (h : t.threshold ≤ (t.recentCrashes unit now).length) :
    t.judge unit now =
      (.coolDown (now + t.cooldown),
        { t with
          history := t.history.insert unit []
          parked := t.parked.insert unit (now + t.cooldown) }) :=
  if_neg (Nat.not_lt.mpr h)

end CrashTracker

namespace Supervisor

variable {σ : Type} {s s' s'' : Supervisor σ} {unit unit' : String} {pid pid' : Pid} {u : UnitDef}
  {now : Nat}

/-! ## The effects on a unit -/

/-- Whatever is done with the process table in one go, but for the first launch of a unit, has one
of these effects on the unit. -/
inductive Touches (unit : String) (s s' : Supervisor σ) : Prop
  | spared (h : s.Spares unit s')
  | rested (pid : Pid) (hfiled : s.FiledUnder pid unit)
    (hidle : s.stopping = true ∨ ∀ u, s.graph.get? unit = some u → u.restart = .no)
    (h : Alters unit (s.standing unit) (some pid) s s')
  | parked (pid : Pid) (hfiled : s.FiledUnder pid unit) (hstopping : s.stopping = false)
    (hcrowded : s.crashes.threshold ≤ (s.crashes.recentCrashes unit s.now).length)
    (h : Alters unit { s.standing unit with
      crashes := [], deadline? := some (s.now + s.crashes.cooldown) } (some pid) s s')
  | restarted (pid : Pid) (hfiled : s.FiledUnder pid unit) (hstopping : s.stopping = false)
    (hsparse : (s.crashes.recentCrashes unit s.now).length < s.crashes.threshold)
    (counted : Supervisor σ)
    (h : Alters unit { s.standing unit with crashes := s.crashes.recentCrashes unit s.now }
      (some pid) s counted)
    (h' : Relaunches unit counted s')
  | resumed (deadline : Nat) (hparked : s.crashes.deadline? unit = some deadline)
    (hdue : deadline ≤ s.now) (hstopping : s.stopping = false) (unparked : Supervisor σ)
    (h : Alters unit { s.standing unit with deadline? := none } none s unparked)
    (h' : Relaunches unit unparked s')

theorem Touches.passes (h : Touches unit s s') : s.Passes s' := by
  cases h with
  | spared h => exact h.toPasses
  | rested pid _ _ h => exact h.toPasses
  | parked pid _ _ _ h => exact h.toPasses
  | restarted pid _ _ _ counted h h' => exact h.toPasses.trans h'.passes
  | resumed deadline _ _ _ unparked h h' => exact h.toPasses.trans h'.passes

/-! ## Changes to the crash tracker -/

/-- A change in the crash tracker shows in the standing alone. -/
theorem alters_crashes (s : Supervisor σ) (unit : String) (crashes : CrashTracker)
    (hwindow : crashes.window = s.crashes.window)
    (hthreshold : crashes.threshold = s.crashes.threshold)
    (hcooldown : crashes.cooldown = s.crashes.cooldown) :
    Alters unit { s.standing unit with
      crashes := crashes.crashesOf unit, deadline? := crashes.deadline? unit } none s
      { s with crashes := crashes } where
  now := rfl
  graph := rfl
  stopping := rfl
  window := hwindow
  threshold := hthreshold
  cooldown := hcooldown
  journal := List.suffix_rfl
  tallies h := h.of_eq rfl rfl
  standing := rfl
  filed_iff _ := (and_iff_right nofun).symm

/-- The crashes of one unit are no matter of another. -/
theorem spares_crashes {crashes : CrashTracker} (hwindow : crashes.window = s.crashes.window)
    (hthreshold : crashes.threshold = s.crashes.threshold)
    (hcooldown : crashes.cooldown = s.crashes.cooldown)
    (hcrashes : crashes.crashesOf unit = s.crashes.crashesOf unit)
    (hdeadline : crashes.deadline? unit = s.crashes.deadline? unit) :
    s.Spares unit { s with crashes := crashes } := by
  have haltered := s.alters_crashes unit crashes hwindow hthreshold hcooldown
  rw [hcrashes, hdeadline] at haltered
  exact haltered.spares nofun

theorem Alters.say {standing : Standing} {gone? : Option Pid}
    (h : Alters unit standing gone? s s') (n : Notice) (hn : (Entry.notice n).IsAside) :
    Alters unit standing gone? s (s'.say n) where
  toPasses := h.toPasses.trans (s'.spares_say unit n hn).toPasses
  standing := (s'.spares_say unit n hn).standing.trans h.standing
  filed_iff := h.filed_iff

/-! ## Collecting a process -/

/-- The record of a process that has ended is gone, and whoever waited for it is told. -/
def collect (s : Supervisor σ) (pid : Pid) (status : ExitStatus) : Supervisor σ :=
  ({ s with processes := s.processes.erase pid }.say
    (.reaped pid status (s.processes[pid]?.elim "unknown" (·.display)))).settle pid (some status)

theorem collect_eq (s : Supervisor σ) (pid : Pid) (status : ExitStatus) :
    ∃ display waiters settled, s.collect pid status =
      { s with
        toWorld := s.toWorld.say (.reaped pid status display)
        processes := s.processes.erase pid, waiters := waiters, settled := settled } := by
  obtain ⟨waiters, settled, heq⟩ := settle_eq ({ s with processes := s.processes.erase pid }.say
    (.reaped pid status (s.processes[pid]?.elim "unknown" (·.display)))) pid (some status)
  exact ⟨_, waiters, settled, heq⟩

theorem alters_collect (unit : String) (s : Supervisor σ) (pid : Pid) (status : ExitStatus) :
    Alters unit (s.standing unit) (some pid) s (s.collect pid status) := by
  obtain ⟨display, waiters, settled, heq⟩ := s.collect_eq pid status
  have hfiled : ∀ pid' unit', (s.collect pid status).FiledUnder pid' unit' ↔
      pid ≠ pid' ∧ s.FiledUnder pid' unit' :=
    fun _ _ => filed_of_erase (by rw [heq])
  have huncollected : uncollected (s.collect pid status).journal =
      (uncollected s.journal).filter fun other => other ≠ pid := by
    rw [heq]
    rfl
  have hpassed : s.Passes (s.collect pid status) := by
    refine {
      now := by rw [heq]; rfl, graph := by rw [heq], stopping := by rw [heq]
      window := by rw [heq], threshold := by rw [heq], cooldown := by rw [heq]
      journal := by rw [heq]; exact List.suffix_cons _ _
      tallies := fun hs => ⟨fun pid' unit' h => ?_, fun pid' hpid => ?_⟩ }
    · obtain ⟨hne, hold⟩ := (hfiled pid' unit').mp h
      rw [huncollected]
      exact List.mem_filter.mpr ⟨hs.filed pid' unit' hold, by simpa using hne.symm⟩
    · rw [huncollected] at hpid
      obtain ⟨hmem, hne⟩ := List.mem_filter.mp hpid
      rw [heq]
      refine ExtTreeMap.mem_erase.mpr ⟨fun hsame => ?_, hs.recorded pid' hmem⟩
      exact of_decide_eq_true hne (LawfulEqCmp.eq_of_compare hsame).symm
  refine { hpassed with standing := ?_, filed_iff := fun pid' => ?_ }
  · exact standing_eq (by rw [heq]) (by rw [heq]; rfl)
  · rw [hfiled]
    simp

theorem collect_crashes (s : Supervisor σ) (pid : Pid) (status : ExitStatus) :
    (s.collect pid status).crashes = s.crashes := by
  obtain ⟨display, waiters, settled, heq⟩ := s.collect_eq pid status
  rw [heq]

variable [Platform σ]

theorem handleExit_eq (pid : Pid) (status : ExitStatus) (now : Nat) (s : Supervisor σ) :
    s.handleExit pid status now = match s.processes[pid]?.bind (·.unit) with
      | some unit => (s.collect pid status).applyRestartPolicy unit now
      | none => s.collect pid status :=
  rfl

theorem handleExit_filed {status : ExitStatus} (h : s.FiledUnder pid unit) :
    s.handleExit pid status now = (s.collect pid status).applyRestartPolicy unit now := by
  obtain ⟨record, hrecord, hunit⟩ := h
  rw [handleExit_eq, hrecord, Option.bind_some, hunit]

/-! ## The end of a process of another unit -/

theorem spares_crashed (hne : unit' ≠ unit) (u : UnitDef) (now : Nat) (s : Supervisor σ) :
    s.Spares unit (s.crashed unit' u now) := by
  rw [crashed]
  by_cases hlt : (s.crashes.recentCrashes unit' now).length < s.crashes.threshold
  · rw [CrashTracker.judge_of_lt hlt]
    have hcounted : s.Spares unit { s with crashes := { s.crashes with
        history := s.crashes.history.insert unit' (s.crashes.recentCrashes unit' now) } } :=
      spares_crashes rfl rfl rfl
        (by simp [CrashTracker.crashesOf, ExtTreeMap.getElem?_insert, hne]) rfl
    exact (hcounted.trans (spares_say unit _ (.restarting unit') trivial)).trans
      (spares_relaunch hne u _)
  · rw [CrashTracker.judge_of_le (Nat.not_lt.mp hlt)]
    have hparked : s.Spares unit { s with crashes := { s.crashes with
        history := s.crashes.history.insert unit' []
        parked := s.crashes.parked.insert unit' (now + s.crashes.cooldown) } } :=
      spares_crashes rfl rfl rfl
        (by simp [CrashTracker.crashesOf, ExtTreeMap.getElem?_insert, hne])
        (by simp [CrashTracker.deadline?, ExtTreeMap.getElem?_insert, hne])
    exact hparked.trans (spares_say unit _ (.crashLoop unit' _) trivial)

theorem spares_applyRestartPolicy (hne : unit' ≠ unit) (now : Nat) (s : Supervisor σ) :
    s.Spares unit (s.applyRestartPolicy unit' now) := by
  rw [applyRestartPolicy]
  split
  next => exact .refl unit s
  next u _ =>
    split
    · exact .refl unit s
    · split
      · exact s.spares_say unit (.restartSuppressed unit') trivial
      · exact s.spares_crashed hne u now

theorem spares_handleExit (h : ¬ s.FiledUnder pid unit) (status : ExitStatus) (now : Nat) :
    s.Spares unit (s.handleExit pid status now) := by
  have hcollected : s.Spares unit (s.collect pid status) :=
    (alters_collect unit s pid status).spares fun pid' hfiled heq => by
      cases heq
      exact h hfiled
  rw [handleExit_eq]
  split
  next unit' hunit =>
    obtain ⟨record, hrecord, hrecord'⟩ := Option.bind_eq_some_iff.mp hunit
    refine hcollected.trans (spares_applyRestartPolicy ?_ now _)
    rintro rfl
    exact h ⟨record, hrecord, hrecord'⟩
  next => exact hcollected

/-! ## The end of a process of the unit -/

theorem touches_crashed (hfiled : s.FiledUnder pid unit) (hu : s.graph.get? unit = some u)
    (hstopping : s.stopping = false) (hcrashes : s'.crashes = s.crashes)
    (hcollected : Alters unit (s.standing unit) (some pid) s s') :
    Touches unit s (s'.crashed unit u s.now) := by
  rw [crashed, hcrashes]
  by_cases hlt : (s.crashes.recentCrashes unit s.now).length < s.crashes.threshold
  · rw [CrashTracker.judge_of_lt hlt]
    have hcounted := s'.alters_crashes unit { s.crashes with
      history := s.crashes.history.insert unit (s.crashes.recentCrashes unit s.now) }
      (by rw [hcrashes]) (by rw [hcrashes]) (by rw [hcrashes])
    rw [CrashTracker.crashesOf, ExtTreeMap.getElem?_insert_self, hcollected.standing] at hcounted
    exact .restarted pid hfiled hstopping hlt _ (hcollected.before hcounted)
      ((relaunches (hcollected.graph ▸ hu)).after (spares_say unit _ (.restarting unit) trivial))
  · rw [CrashTracker.judge_of_le (Nat.not_lt.mp hlt)]
    have hparked := s'.alters_crashes unit { s.crashes with
      history := s.crashes.history.insert unit []
      parked := s.crashes.parked.insert unit (s.now + s.crashes.cooldown) }
      (by rw [hcrashes]) (by rw [hcrashes]) (by rw [hcrashes])
    rw [CrashTracker.crashesOf, CrashTracker.deadline?, ExtTreeMap.getElem?_insert_self,
      ExtTreeMap.getElem?_insert_self, hcollected.standing] at hparked
    exact .parked pid hfiled hstopping (Nat.not_lt.mp hlt)
      ((hcollected.before hparked).say (.crashLoop unit _) trivial)

theorem touches_handleExit (unit : String) (s : Supervisor σ) (pid : Pid) (status : ExitStatus) :
    Touches unit s (s.handleExit pid status s.now) := by
  by_cases hfiled : s.FiledUnder pid unit
  case neg => exact .spared (spares_handleExit hfiled status s.now)
  have hcollected := alters_collect unit s pid status
  rw [handleExit_filed hfiled, applyRestartPolicy]
  split
  next hnone =>
    rw [hcollected.graph] at hnone
    exact .rested pid hfiled (.inr fun u hu => by cases hnone.symm.trans hu) hcollected
  next u hu =>
    have hu' : s.graph.get? unit = some u := hcollected.graph ▸ hu
    split
    next hno =>
      refine .rested pid hfiled (.inr fun u' hu'' => ?_) hcollected
      cases hu'.symm.trans hu''
      exact LawfulBEq.eq_of_beq hno
    next =>
      split
      next hstopping =>
        exact .rested pid hfiled (.inl (hcollected.stopping ▸ hstopping))
          (hcollected.say (.restartSuppressed unit) trivial)
      next hstopping =>
        have hrunning : s.stopping = false := by
          rw [hcollected.stopping] at hstopping
          simpa using hstopping
        exact touches_crashed hfiled hu' hrunning (s.collect_crashes pid status) hcollected

/-! ## The restarts that are due -/

theorem spares_relaunchDue {units : List String} (h : unit ∉ units) (s : Supervisor σ) :
    s.Spares unit (s.relaunchDue units) := by
  induction units generalizing s with
  | nil => exact .refl unit s
  | cons unit' rest ih =>
    obtain ⟨hne, hrest⟩ := not_or.mp (mt List.mem_cons.mpr h)
    rw [relaunchDue]
    split
    next u _ =>
      have hsaid := s.spares_say unit (.restartingAfterPause unit') trivial
      exact (hsaid.trans (spares_relaunch (Ne.symm hne) u _)).trans (ih hrest _)
    next => exact ih hrest s

theorem relaunches_relaunchDue {units : List String} (h : unit ∈ units) (hnodup : units.Nodup)
    (s : Supervisor σ) : Relaunches unit s (s.relaunchDue units) := by
  induction units generalizing s with
  | nil => cases h
  | cons unit' rest ih =>
    obtain ⟨hnot, hrest⟩ := List.nodup_cons.mp hnodup
    rw [relaunchDue]
    rcases List.mem_cons.mp h with rfl | hmem
    · split
      next u hu =>
        have hsaid := s.spares_say unit (.restartingAfterPause unit) trivial
        exact ((relaunches (hsaid.graph ▸ hu)).after hsaid).before (spares_relaunchDue hnot _)
      next hnone =>
        exact .spared (fun u hu => by cases hnone.symm.trans hu) (spares_relaunchDue hnot s)
    · have hne : unit' ≠ unit := fun heq => hnot (heq ▸ hmem)
      split
      next u _ =>
        have hsaid := s.spares_say unit (.restartingAfterPause unit') trivial
        exact (ih hmem hrest _).after (hsaid.trans (spares_relaunch hne u _))
      next => exact ih hmem hrest s

/-- A cool-down that is over ends with a launch. -/
theorem launchDueRestarts_due {deadline : Nat} (hparked : s.crashes.deadline? unit = some deadline)
    (hdue : deadline ≤ s.now) (hstopping : s.stopping = false) :
    ∃ unparked, Alters unit { s.standing unit with deadline? := none } none s unparked ∧
      Relaunches unit unparked (s.launchDueRestarts s.now) := by
  have htaken := s.alters_crashes unit (s.crashes.takeDue s.now).2 rfl rfl rfl
  rw [CrashTracker.deadline?_takeDue, hparked, Option.filter_some,
    if_neg (by simpa using hdue)] at htaken
  have hmem := CrashTracker.mem_dueUnits.mpr ⟨deadline, hparked, hdue⟩
  rw [launchDueRestarts, if_neg (by simp [hstopping])]
  exact ⟨_, htaken, relaunches_relaunchDue hmem CrashTracker.nodup_dueUnits _⟩

theorem spares_launchDueRestarts
    (h : ∀ deadline, s.crashes.deadline? unit = some deadline → s.now < deadline) :
    s.Spares unit (s.launchDueRestarts s.now) := by
  rw [launchDueRestarts]
  split
  next => exact .refl unit s
  next =>
    have hnot : unit ∉ (s.crashes.takeDue s.now).1 := by
      intro hmem
      obtain ⟨deadline, hparked, hle⟩ := CrashTracker.mem_dueUnits.mp hmem
      exact Nat.not_lt.mpr hle (h deadline hparked)
    have htaken : s.Spares unit { s with crashes := (s.crashes.takeDue s.now).2 } := by
      refine spares_crashes rfl rfl rfl rfl ?_
      rw [CrashTracker.deadline?_takeDue]
      cases hparked : s.crashes.deadline? unit with
      | none => rfl
      | some deadline => simpa using h deadline hparked
    exact htaken.trans (spares_relaunchDue hnot _)

theorem touches_launchDueRestarts (unit : String) (s : Supervisor σ) :
    Touches unit s (s.launchDueRestarts s.now) := by
  by_cases hdue : ∃ deadline, s.crashes.deadline? unit = some deadline ∧ deadline ≤ s.now
  · obtain ⟨deadline, hparked, hle⟩ := hdue
    cases hstopping : s.stopping with
    | true =>
      rw [launchDueRestarts, hstopping]
      exact .spared (.refl unit s)
    | false =>
      obtain ⟨unparked, hunparked, hrelaunched⟩ := launchDueRestarts_due hparked hle hstopping
      exact .resumed deadline hparked hle hstopping unparked hunparked hrelaunched
  · refine .spared (spares_launchDueRestarts fun deadline hparked => ?_)
    exact Nat.lt_of_not_le fun hle => hdue ⟨deadline, hparked, hle⟩

/-! ## A tick -/

/-- The second part of a tick, in which at most one process is collected. -/
def collectAny (s : Supervisor σ) : Tick × Supervisor σ :=
  match s.toWorld.tryWaitAny with
  | (.ok (some (pid, status)), w) =>
    (.reaped pid, { s with toWorld := w }.handleExit pid status s.now)
  | (.ok none, w) | (.error .ECHILD, w) => (.idle, { s with toWorld := w })
  | (.error e, w) => (.failed, { s with toWorld := w }.say (.waitFailed e))

theorem tick_eq (s : Supervisor σ) : s.tick s.now = (s.launchDueRestarts s.now).collectAny := by
  have hnow : (s.launchDueRestarts s.now).now = s.now :=
    (touches_launchDueRestarts "" s).passes.now
  rw [collectAny, hnow]
  rfl

theorem spares_tryWaitAny {r : Except Errno (Option (Pid × ExitStatus))} {w : World σ}
    (unit : String) (h : s.toWorld.tryWaitAny = (r, w)) :
    s.Spares unit { s with toWorld := w } := by
  rw [World.tryWaitAny] at h
  cases h
  exact s.spares_machine unit _

theorem spares_collectAny
    (h : ∀ pid, s.collectAny.1 = .reaped pid → ¬ s.FiledUnder pid unit) :
    s.Spares unit s.collectAny.2 := by
  rw [collectAny] at h ⊢
  split
  next pid status w heq =>
    rw [heq] at h
    have hexited := spares_handleExit (s := { s with toWorld := w }) (h pid rfl) status s.now
    exact (spares_tryWaitAny unit heq).trans hexited
  next heq => exact spares_tryWaitAny unit heq
  next heq => exact spares_tryWaitAny unit heq
  next e w _ heq =>
    exact (spares_tryWaitAny unit heq).trans (spares_say unit _ (.waitFailed e) trivial)

/-- Collecting a process changes the machine first and touches the unit then. -/
theorem touches_collectAny (unit : String) (s : Supervisor σ) :
    ∃ t, s.Spares unit t ∧ Touches unit t s.collectAny.2 := by
  rw [collectAny]
  split
  next pid status w heq =>
    have hwaited := spares_tryWaitAny unit heq
    have hexited := touches_handleExit unit { s with toWorld := w } pid status
    rw [hwaited.now] at hexited
    exact ⟨_, hwaited, hexited⟩
  next heq => exact ⟨_, spares_tryWaitAny unit heq, .spared (.refl unit _)⟩
  next heq => exact ⟨_, spares_tryWaitAny unit heq, .spared (.refl unit _)⟩
  next e w _ heq =>
    exact ⟨_, spares_tryWaitAny unit heq, .spared (spares_say unit _ (.waitFailed e) trivial)⟩

/-- A tick is no more than touches. -/
theorem tick_induction (unit : String) {p : Supervisor σ → Prop}
    (hp : ∀ s s', Touches unit s s' → p s → p s') (hs : p s) : p (s.tick s.now).2 := by
  have hlaunched := hp _ _ (touches_launchDueRestarts unit s) hs
  rw [tick_eq]
  obtain ⟨t, hwaited, hcollected⟩ := touches_collectAny unit (s.launchDueRestarts s.now)
  exact hp _ _ hcollected (hp _ _ (.spared hwaited) hlaunched)

theorem passes_tick (s : Supervisor σ) : s.Passes (s.tick s.now).2 :=
  tick_induction "" (fun _ _ h hs => hs.trans h.passes) (.refl s)

end Supervisor

end InitDaemon
