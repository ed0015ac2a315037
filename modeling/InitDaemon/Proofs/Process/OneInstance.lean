import InitDaemon.Proofs.Process.Ticks

/-!
# One process for a unit

A unit that was launched once is in one of few states: a process is filed under it, or it is parked,
or its last launch failed, or it rests. Nothing that touches it later leads to a second process.
-/

namespace InitDaemon

open Std InitDaemon.Journal

namespace Journal

/-- The last attempt to launch the unit's service failed. -/
def LastFailed (journal : List Record) (unit : String) : Prop :=
  ∃ r e, (attempts journal unit).head? = some r ∧ r.entry = .notice (.restartFailed unit e)

theorem LastFailed.ne_nil {journal : List Record} {unit : String} (h : LastFailed journal unit) :
    attempts journal unit ≠ [] := by
  intro hnone
  obtain ⟨r, e, hhead, -⟩ := h
  rw [hnone] at hhead
  cases hhead

end Journal

namespace Supervisor

variable {σ : Type} {s s' : Supervisor σ} {unit : String} {pid pid' : Pid} {deadline : Nat}

def Vacant (s : Supervisor σ) (unit : String) : Prop :=
  (∀ pid, ¬ s.FiledUnder pid unit) ∧ s.crashes.deadline? unit = none

structure Lone (unit : String) (s : Supervisor σ) : Prop where
  unique : ∀ pid pid', s.FiledUnder pid unit → s.FiledUnder pid' unit → pid = pid'
  filed : ∀ pid, s.FiledUnder pid unit →
    s.crashes.deadline? unit = none ∧ ¬ LastFailed s.journal unit
  parked : ∀ deadline, s.crashes.deadline? unit = some deadline → ¬ LastFailed s.journal unit
  launched : attempts s.journal unit = [] → s.Vacant unit

/-! ## Reading the standing -/

section

variable {st : Standing}

theorem deadline?_of_standing (h : s.standing unit = st) :
    s.crashes.deadline? unit = st.deadline? :=
  congrArg Standing.deadline? h

theorem attempts_of_standing (h : s.standing unit = st) : attempts s.journal unit = st.attempts :=
  congrArg Standing.attempts h

theorem lastFailed_congr (h : attempts s'.journal unit = attempts s.journal unit) :
    LastFailed s'.journal unit ↔ LastFailed s.journal unit := by
  rw [LastFailed, LastFailed, h]

end

theorem Spares.deadline? (h : s.Spares unit s') :
    s'.crashes.deadline? unit = s.crashes.deadline? unit :=
  deadline?_of_standing h.standing

theorem Spares.attempts (h : s.Spares unit s') :
    attempts s'.journal unit = attempts s.journal unit :=
  attempts_of_standing h.standing

theorem Spares.vacant (h : s.Spares unit s') (hs : s.Vacant unit) : s'.Vacant unit :=
  ⟨fun pid hfiled => hs.1 pid (h.filed pid hfiled), h.deadline?.trans hs.2⟩

/-- A unit without a process that is not parked can be touched by its first launch alone. -/
theorem Vacant.spared (hs : s.Vacant unit) (h : Touches unit s s') : s.Spares unit s' := by
  cases h with
  | spared h => exact h
  | rested pid hfiled => exact absurd hfiled (hs.1 pid)
  | parked pid hfiled => exact absurd hfiled (hs.1 pid)
  | restarted pid hfiled => exact absurd hfiled (hs.1 pid)
  | resumed deadline hparked => cases hs.2.symm.trans hparked

/-- The only process of a unit is gone. -/
theorem Alters.none_filed {standing : Standing} (h : Alters unit standing (some pid) s s')
    (hs : Lone unit s) (hfiled : s.FiledUnder pid unit) : ∀ pid, ¬ s'.FiledUnder pid unit := by
  intro pid' hfiled'
  obtain ⟨hne, hold⟩ := (h.filed_iff pid').mp hfiled'
  exact hne (congrArg some (hs.unique pid pid' hfiled hold))

/-! ## What keeps a unit lone -/

namespace Lone

theorem of_vacant (h : s.Vacant unit) : Lone unit s where
  unique pid _ hpid _ := absurd hpid (h.1 pid)
  filed pid hpid := absurd hpid (h.1 pid)
  parked deadline hparked := by cases h.2.symm.trans hparked
  launched _ := h

theorem vacant (hs : Lone unit s) (h : LastFailed s.journal unit) : s.Vacant unit := by
  refine ⟨fun pid hpid => (hs.filed pid hpid).2 h, ?_⟩
  cases hparked : s.crashes.deadline? unit with
  | none => rfl
  | some deadline => exact absurd h (hs.parked deadline hparked)

theorem not_filed (hs : Lone unit s) (hparked : s.crashes.deadline? unit = some deadline) :
    ∀ pid, ¬ s.FiledUnder pid unit := by
  intro pid hpid
  cases (hs.filed pid hpid).1.symm.trans hparked

/-- The order of the table does not matter to a look for the unit's process. -/
theorem pidOf?_eq_some_iff (hs : Lone unit s) :
    s.pidOf? unit = some pid ↔ s.FiledUnder pid unit := by
  have hsound : ∀ pid, s.pidOf? unit = some pid → s.FiledUnder pid unit := by
    intro pid hpid
    rw [pidOf?, Option.map_eq_some_iff] at hpid
    obtain ⟨⟨pid', record⟩, hfound, rfl⟩ := hpid
    have hmem := List.mem_of_find?_eq_some hfound
    have hunit := List.find?_some hfound
    exact ⟨record, ExtTreeMap.mem_toList_iff_getElem?_eq_some.mp hmem, by simpa using hunit⟩
  constructor
  · exact hsound pid
  · rintro hfiled
    cases hlook : s.pidOf? unit with
    | some pid' => rw [hs.unique pid' pid (hsound pid' hlook) hfiled]
    | none =>
      rw [pidOf?, Option.map_eq_none_iff, List.find?_eq_none] at hlook
      obtain ⟨record, hrecord, hunit⟩ := hfiled
      have hmem := ExtTreeMap.mem_toList_iff_getElem?_eq_some.mpr hrecord
      exact absurd (by simpa using hunit) (hlook (pid, record) hmem)

theorem spared (hs : Lone unit s) (h : s.Spares unit s') : Lone unit s' where
  unique pid pid' hpid hpid' := hs.unique pid pid' (h.filed pid hpid) (h.filed pid' hpid')
  filed pid hpid := by
    obtain ⟨hdeadline, hfailed⟩ := hs.filed pid (h.filed pid hpid)
    exact ⟨h.deadline?.trans hdeadline, mt (lastFailed_congr h.attempts).mp hfailed⟩
  parked deadline hparked :=
    mt (lastFailed_congr h.attempts).mp (hs.parked deadline (h.deadline? ▸ hparked))
  launched hnone := h.vacant (hs.launched (h.attempts ▸ hnone))

theorem launches (h : Launches unit pid s s') (hs : s.Vacant unit) : Lone unit s' := by
  have hfiled : ∀ pid', s'.FiledUnder pid' unit → pid' = pid := fun pid' hpid' =>
    (h.filed pid' hpid').resolve_right (hs.1 pid')
  have hdeadline : s'.crashes.deadline? unit = none :=
    (deadline?_of_standing h.standing).trans hs.2
  have hattempts := attempts_of_standing h.standing
  refine ⟨fun p p' hp hp' => (hfiled p hp).trans (hfiled p' hp').symm,
    fun p _ => ⟨hdeadline, ?_⟩, fun d hparked => ?_, fun hnone => ?_⟩
  · rintro ⟨r, e, hhead, hr⟩
    rw [hattempts] at hhead
    cases hhead
    cases hr
  · cases hdeadline.symm.trans hparked
  · cases hattempts.symm.trans hnone

theorem relaunches (h : Relaunches unit s s') (hs : s.Vacant unit) : Lone unit s' := by
  cases h with
  | launched pid h => exact .launches h hs
  | failed e h =>
    refine .of_vacant ⟨fun pid hpid => hs.1 pid (h.filed pid hpid), ?_⟩
    exact (deadline?_of_standing h.standing).trans hs.2
  | spared _ h => exact .of_vacant (h.vacant hs)

theorem touched (hs : Lone unit s) (h : Touches unit s s') : Lone unit s' := by
  cases h with
  | spared h => exact hs.spared h
  | rested pid hfiled _ h =>
    refine .of_vacant ⟨h.none_filed hs hfiled, ?_⟩
    exact (deadline?_of_standing h.standing).trans (hs.filed pid hfiled).1
  | parked pid hfiled _ _ h =>
    have hnone := h.none_filed hs hfiled
    have hattempts := attempts_of_standing h.standing
    refine ⟨fun p _ hp _ => absurd hp (hnone p), fun p hp => absurd hp (hnone p),
      fun _ _ => mt (lastFailed_congr hattempts).mp (hs.filed pid hfiled).2, fun h => ?_⟩
    exact absurd hfiled ((hs.launched (hattempts.symm.trans h)).1 pid)
  | restarted pid hfiled _ _ counted h h' =>
    refine relaunches h' ⟨h.none_filed hs hfiled, ?_⟩
    exact (deadline?_of_standing h.standing).trans (hs.filed pid hfiled).1
  | resumed deadline hparked _ _ unparked h h' =>
    refine relaunches h' ⟨fun pid hpid => ?_, deadline?_of_standing h.standing⟩
    exact hs.not_filed hparked pid ((h.filed_iff pid).mp hpid).2

end Lone

end Supervisor

end InitDaemon
