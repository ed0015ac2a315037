import InitDaemon.Proofs.Process.Numbers

/-!
# The standing of a unit

What is known of a unit's service: the processes filed under it, the crashes counted against it, the
end of its cool-down and the attempts to launch it. Whatever is done with the process table has one
of few effects on a unit: it spares the unit, it launches the unit's service or fails to, or it
takes a process away from the unit.
-/

namespace InitDaemon

open Std InitDaemon.Journal

/-- What is known of the service of a unit, its processes apart. -/
structure Standing where
  crashes : List Nat
  deadline? : Option Nat
  attempts : List Record

namespace Supervisor

variable {σ : Type}

def FiledUnder (s : Supervisor σ) (pid : Pid) (unit : String) : Prop :=
  ∃ record, s.processes[pid]? = some record ∧ record.unit = some unit

def standing (s : Supervisor σ) (unit : String) : Standing where
  crashes := s.crashes.crashesOf unit
  deadline? := s.crashes.deadline? unit
  attempts := attempts s.journal unit

/-- The process table has what the journal tells. -/
structure Tallies (s : Supervisor σ) : Prop where
  filed : ∀ pid unit, s.FiledUnder pid unit → pid ∈ uncollected s.journal
  recorded : ∀ pid ∈ uncollected s.journal, pid ∈ s.processes

/-- What is left alone by everything that is done in one moment. -/
structure Passes (s s' : Supervisor σ) : Prop where
  now : s'.now = s.now
  graph : s'.graph = s.graph
  stopping : s'.stopping = s.stopping
  window : s'.crashes.window = s.crashes.window
  threshold : s'.crashes.threshold = s.crashes.threshold
  cooldown : s'.crashes.cooldown = s.crashes.cooldown
  journal : s.journal <:+ s'.journal
  tallies : s.Tallies → s'.Tallies

/-- What leaves a unit alone. Its processes stay unless a number is used twice. -/
structure Spares (unit : String) (s s' : Supervisor σ) : Prop extends Passes s s' where
  standing : s'.standing unit = s.standing unit
  filed : ∀ pid, s'.FiledUnder pid unit → s.FiledUnder pid unit
  still_filed : s.Tallies → FreshNumbers s'.journal →
    ∀ pid, s.FiledUnder pid unit → s'.FiledUnder pid unit

/-- The service of a unit is launched. -/
structure Launches (unit : String) (pid : Pid) (s s' : Supervisor σ) : Prop
    extends Passes s s' where
  standing : s'.standing unit = { s.standing unit with
    attempts := ⟨s.now, .notice (.serviceStarted unit pid)⟩ :: (s.standing unit).attempts }
  filed : ∀ pid', s'.FiledUnder pid' unit → pid' = pid ∨ s.FiledUnder pid' unit
  files : s.Tallies → FreshNumbers s'.journal → s'.FiledUnder pid unit

/-- A launch fails, and that is noted. -/
structure Fails (unit : String) (e : SpawnError) (s s' : Supervisor σ) : Prop
    extends Passes s s' where
  standing : s'.standing unit = { s.standing unit with
    attempts := ⟨s.now, .notice (.restartFailed unit e)⟩ :: (s.standing unit).attempts }
  filed : ∀ pid, s'.FiledUnder pid unit → s.FiledUnder pid unit

/-- What comes of a relaunch. A unit that does not exist or has nothing to run is spared. -/
inductive Relaunches (unit : String) (s s' : Supervisor σ) : Prop
  | launched (pid : Pid) (h : Launches unit pid s s')
  | failed (e : SpawnError) (h : Fails unit e s s')
  | spared (hnone : ∀ u, s.graph.get? unit = some u → u.execStart? = none) (h : Spares unit s s')

/-- A unit gets a new standing, and a process of its may be gone. -/
structure Alters (unit : String) (standing : Standing) (gone? : Option Pid)
    (s s' : Supervisor σ) : Prop extends Passes s s' where
  standing : s'.standing unit = standing
  filed_iff : ∀ pid, s'.FiledUnder pid unit ↔ gone? ≠ some pid ∧ s.FiledUnder pid unit

variable {s s' s'' : Supervisor σ} {unit unit' : String} {pid pid' : Pid} {u : UnitDef}
  {command : String}

theorem Passes.refl (s : Supervisor σ) : s.Passes s :=
  ⟨rfl, rfl, rfl, rfl, rfl, rfl, List.suffix_rfl, id⟩

theorem Passes.trans (h : s.Passes s') (h' : s'.Passes s'') : s.Passes s'' where
  now := h'.now.trans h.now
  graph := h'.graph.trans h.graph
  stopping := h'.stopping.trans h.stopping
  window := h'.window.trans h.window
  threshold := h'.threshold.trans h.threshold
  cooldown := h'.cooldown.trans h.cooldown
  journal := h.journal.trans h'.journal
  tallies := h'.tallies ∘ h.tallies

namespace Spares

theorem refl (unit : String) (s : Supervisor σ) : s.Spares unit s :=
  ⟨.refl s, rfl, fun _ h => h, fun _ _ _ h => h⟩

theorem trans (h : s.Spares unit s') (h' : s'.Spares unit s'') : s.Spares unit s'' where
  toPasses := h.toPasses.trans h'.toPasses
  standing := h'.standing.trans h.standing
  filed pid hfiled := h.filed pid (h'.filed pid hfiled)
  still_filed htallies hfresh pid hfiled :=
    h'.still_filed (h.tallies htallies) hfresh pid
      (h.still_filed htallies (hfresh.mono h'.journal) pid hfiled)

theorem of_eq {α : Type} {a : α} {p : α × Supervisor σ} (h : s.Spares unit p.2)
    (heq : p = (a, s')) : s.Spares unit s' := by
  rwa [heq] at h

end Spares

namespace Relaunches

theorem passes (h : Relaunches unit s s') : s.Passes s' := by
  cases h with
  | launched pid h => exact h.toPasses
  | failed e h => exact h.toPasses
  | spared _ h => exact h.toPasses

theorem after (h : Relaunches unit s' s'') (hs : s.Spares unit s') : Relaunches unit s s'' := by
  cases h with
  | launched pid h =>
    have hpassed := hs.toPasses.trans h.toPasses
    refine .launched pid { hpassed with standing := ?_, filed := ?_, files := ?_ }
    · rw [h.standing, hs.standing, hs.now]
    · exact fun pid' hfiled => (h.filed pid' hfiled).imp_right (hs.filed pid')
    · exact fun htallies => h.files (hs.tallies htallies)
  | failed e h =>
    refine .failed e { hs.toPasses.trans h.toPasses with standing := ?_, filed := ?_ }
    · rw [h.standing, hs.standing, hs.now]
    · exact fun pid hfiled => hs.filed pid (h.filed pid hfiled)
  | spared hnone h => exact .spared (hs.graph ▸ hnone) (hs.trans h)

theorem before (h : Relaunches unit s s') (hs : s'.Spares unit s'') : Relaunches unit s s'' := by
  cases h with
  | launched pid h =>
    have hpassed := h.toPasses.trans hs.toPasses
    refine .launched pid { hpassed with standing := ?_, filed := ?_, files := ?_ }
    · rw [hs.standing, h.standing]
    · exact fun pid' hfiled => h.filed pid' (hs.filed pid' hfiled)
    · exact fun htallies hfresh => hs.still_filed (h.tallies htallies) hfresh pid
        (h.files htallies (hfresh.mono hs.journal))
  | failed e h =>
    refine .failed e { h.toPasses.trans hs.toPasses with standing := ?_, filed := ?_ }
    · rw [hs.standing, h.standing]
    · exact fun pid hfiled => h.filed pid (hs.filed pid hfiled)
  | spared hnone h => exact .spared hnone (h.trans hs)

end Relaunches

namespace Alters

variable {standing standing' : Standing} {gone? : Option Pid}

theorem before (h : Alters unit standing gone? s s')
    (hs : Alters unit standing' none s' s'') : Alters unit standing' gone? s s'' where
  toPasses := h.toPasses.trans hs.toPasses
  standing := hs.standing
  filed_iff pid := by simp [hs.filed_iff, h.filed_iff]

/-- What takes no process of the unit and leaves its standing spares it. -/
theorem spares (h : Alters unit (s.standing unit) gone? s s')
    (hgone : ∀ pid, s.FiledUnder pid unit → gone? ≠ some pid) : s.Spares unit s' where
  toPasses := h.toPasses
  standing := h.standing
  filed pid hfiled := ((h.filed_iff pid).mp hfiled).2
  still_filed _ _ pid hfiled := (h.filed_iff pid).mpr ⟨hgone pid hfiled, hfiled⟩

end Alters

/-! ## The table -/

theorem standing_eq (hcrashes : s'.crashes = s.crashes)
    (hattempts : attempts s'.journal unit = attempts s.journal unit) :
    s'.standing unit = s.standing unit := by
  rw [standing, standing, hcrashes, hattempts]

theorem Tallies.of_eq (h : s.Tallies) (hprocesses : s'.processes = s.processes)
    (hjournal : uncollected s'.journal = uncollected s.journal) : s'.Tallies where
  filed pid unit hfiled := by
    rw [hjournal]
    rw [FiledUnder, hprocesses] at hfiled
    exact h.filed pid unit hfiled
  recorded pid hpid := by
    rw [hjournal] at hpid
    rw [hprocesses]
    exact h.recorded pid hpid

theorem filed_of_erase (h : s'.processes = s.processes.erase pid) :
    s'.FiledUnder pid' unit ↔ pid ≠ pid' ∧ s.FiledUnder pid' unit := by
  rw [FiledUnder, FiledUnder, h, ExtTreeMap.getElem?_erase]
  by_cases heq : pid = pid'
  · simp [heq]
  · simp [heq]

/-- What changes neither the processes nor the crashes spares every unit, if the journal gets no
record about processes. -/
theorem spares_of_eq (hnow : s'.now = s.now) (hgraph : s'.graph = s.graph)
    (hstopping : s'.stopping = s.stopping) (hcrashes : s'.crashes = s.crashes)
    (hprocesses : s'.processes = s.processes) (hjournal : s.journal <:+ s'.journal)
    (huncollected : uncollected s'.journal = uncollected s.journal)
    (hattempts : attempts s'.journal unit = attempts s.journal unit) : s.Spares unit s' where
  now := hnow
  graph := hgraph
  stopping := hstopping
  window := by rw [hcrashes]
  threshold := by rw [hcrashes]
  cooldown := by rw [hcrashes]
  journal := hjournal
  tallies h := h.of_eq hprocesses huncollected
  standing := standing_eq hcrashes hattempts
  filed pid h := by rwa [FiledUnder, hprocesses] at h
  still_filed _ _ pid h := by rwa [FiledUnder, hprocesses]

theorem spares_note (unit : String) (s : Supervisor σ) (e : Entry) (he : e.IsAside) :
    s.Spares unit { s with toWorld := s.note e } :=
  spares_of_eq rfl rfl rfl rfl rfl (List.suffix_cons _ _) (uncollected_aside he)
    (attempts_aside he)

theorem spares_say (unit : String) (s : Supervisor σ) (n : Notice)
    (hn : (Entry.notice n).IsAside) : s.Spares unit (s.say n) :=
  s.spares_note unit (.notice n) hn

theorem spares_machine (unit : String) (s : Supervisor σ) (machine : σ) :
    s.Spares unit { s with machine := machine } :=
  spares_of_eq rfl rfl rfl rfl rfl List.suffix_rfl rfl rfl

theorem settle_eq (s : Supervisor σ) (pid : Pid) (status : Option ExitStatus) :
    ∃ waiters settled,
      s.settle pid status = { s with waiters := waiters, settled := settled } := by
  rw [settle]
  split
  · exact ⟨_, _, rfl⟩
  · exact ⟨_, _, rfl⟩

theorem spares_settle (unit : String) (s : Supervisor σ) (pid : Pid)
    (status : Option ExitStatus) : s.Spares unit (s.settle pid status) := by
  obtain ⟨waiters, settled, heq⟩ := s.settle_eq pid status
  rw [heq]
  exact spares_of_eq rfl rfl rfl rfl rfl List.suffix_rfl rfl rfl

/-! ## Starting processes -/

/-- A new process is entered into the table together with its record in the journal. -/
structure Enters (pid : Pid) (record : ProcessRecord) (s s' : Supervisor σ) : Prop where
  now : s'.now = s.now
  graph : s'.graph = s.graph
  stopping : s'.stopping = s.stopping
  crashes : s'.crashes = s.crashes
  processes : ∀ q, s'.processes[q]? = if pid = q then some record else s.processes[q]?
  journal : ∃ argv, ⟨s.now, .spawned pid argv⟩ :: s.journal <:+ s'.journal
  uncollected : uncollected s'.journal = pid :: uncollected s.journal

namespace Enters

variable {record : ProcessRecord}

theorem filed_iff (h : Enters pid record s s') : s'.FiledUnder pid' unit ↔
    pid = pid' ∧ record.unit = some unit ∨ pid ≠ pid' ∧ s.FiledUnder pid' unit := by
  rw [FiledUnder, FiledUnder, h.processes]
  by_cases heq : pid = pid'
  · simp [heq]
  · simp [heq]

theorem tallies (h : Enters pid record s s') (hs : s.Tallies) : s'.Tallies := by
  constructor
  case filed =>
    intro pid' unit hfiled
    rw [h.uncollected, List.mem_cons]
    rcases h.filed_iff.mp hfiled with ⟨heq, -⟩ | ⟨-, hold⟩
    · exact .inl heq.symm
    · exact .inr (hs.filed pid' unit hold)
  case recorded =>
    intro pid' hpid
    rw [ExtTreeMap.mem_iff_isSome_getElem?, h.processes]
    split
    next => rfl
    next hne =>
      rw [h.uncollected, List.mem_cons] at hpid
      have hold := hs.recorded pid' (hpid.resolve_left fun heq => hne heq.symm)
      rwa [ExtTreeMap.mem_iff_isSome_getElem?] at hold

theorem passes (h : Enters pid record s s') : s.Passes s' where
  now := h.now
  graph := h.graph
  stopping := h.stopping
  window := by rw [h.crashes]
  threshold := by rw [h.crashes]
  cooldown := by rw [h.crashes]
  journal := by
    obtain ⟨argv, hsuffix⟩ := h.journal
    exact (List.suffix_cons _ _).trans hsuffix
  tallies := h.tallies

/-- A process of another unit takes none from the unit if its number is fresh. -/
theorem spares (h : Enters pid record s s') (hne : record.unit ≠ some unit)
    (hattempts : attempts s'.journal unit = attempts s.journal unit) : s.Spares unit s' where
  toPasses := h.passes
  standing := standing_eq h.crashes hattempts
  filed pid' hfiled := (h.filed_iff.mp hfiled).elim (fun hnew => absurd hnew.2 hne) And.right
  still_filed hs hfresh pid' hfiled := by
    obtain ⟨argv, hsuffix⟩ := h.journal
    have hnot := (hfresh.mono hsuffix).not_mem
    refine h.filed_iff.mpr (.inr ⟨?_, hfiled⟩)
    rintro rfl
    exact hnot (hs.filed pid unit hfiled)

end Enters

section Spawning

variable [Platform σ]

theorem enters_spawn (h : s.spawn command = (.ok pid, s')) :
    ∃ program, Enters pid ⟨program, none⟩ s s' ∧
      s'.journal = ⟨s.now, .spawned pid (Text.wordsOf command)⟩ :: s.journal := by
  have hjournal := (spawn_journal h).2
  rw [spawn] at h
  split at h
  next => cases h
  next program args _ =>
    split at h
    next w heq =>
      cases h
      refine ⟨program, ?_, hjournal⟩
      exact {
        now := (World.spawn_journal heq).1, graph := rfl, stopping := rfl, crashes := rfl
        processes := by simp [ExtTreeMap.getElem?_insert]
        journal := ⟨Text.wordsOf command, hjournal ▸ List.suffix_rfl⟩
        uncollected := by rw [hjournal]; rfl }
    next => cases h

theorem spares_spawn_error {e : SpawnError} (unit : String)
    (h : s.spawn command = (.error e, s')) : s.Spares unit s' := by
  rw [spawn] at h
  split at h
  next => cases h; exact .refl unit s
  next program args _ =>
    split at h
    next => cases h
    next w heq =>
      cases h
      obtain ⟨hnow, hsame | hfailed⟩ := World.spawn_error heq
      · exact spares_of_eq hnow rfl rfl rfl rfl (by simp [hsame]) (by simp [hsame])
          (by simp [hsame])
      · refine spares_of_eq hnow rfl rfl rfl rfl ?_ ?_ ?_
        · exact hfailed ▸ List.suffix_cons _ _
        · exact hfailed ▸ rfl
        · exact hfailed ▸ rfl

theorem spares_spawn (unit command : String) (s : Supervisor σ) :
    s.Spares unit (s.spawn command).2 := by
  rcases h : s.spawn command with ⟨e | pid, s'⟩
  · exact spares_spawn_error unit h
  · obtain ⟨program, hentered, hjournal⟩ := enters_spawn h
    refine hentered.spares (by simp) ?_
    exact hjournal ▸ rfl

theorem spares_spawnAndAwait (unit command : String) (s : Supervisor σ) :
    s.Spares unit (s.spawnAndAwait command).2 := by
  have hspawned := s.spares_spawn unit command
  rw [spawnAndAwait]
  split
  next pid s₁ heq =>
    refine (hspawned.of_eq heq).trans ((s₁.spares_settle unit pid none).trans ?_)
    exact spares_of_eq rfl rfl rfl rfl rfl List.suffix_rfl rfl rfl
  next heq => exact hspawned.of_eq heq

/-! ## Launching services -/

theorem enters_launchService (h : s.launchService unit u = (.ok (some pid), s')) :
    Enters pid ⟨unit, some unit⟩ s s' ∧ ∃ argv,
      s'.journal = ⟨s.now, .notice (.serviceStarted unit pid)⟩ ::
        ⟨s.now, .spawned pid argv⟩ :: s.journal := by
  obtain ⟨line, -, -, hjournal⟩ := launchService_some h
  rw [launchService] at h
  split at h
  next => cases h
  next =>
    split at h
    next s₁ heq =>
      cases h
      obtain ⟨program, hentered, -⟩ := enters_spawn heq
      refine ⟨?_, _, hjournal⟩
      exact {
        now := hentered.now, graph := hentered.graph, stopping := hentered.stopping
        crashes := hentered.crashes
        processes := by
          intro q
          change (s₁.processes.insert pid ⟨unit, some unit⟩)[q]? = _
          rw [ExtTreeMap.getElem?_insert, hentered.processes]
          by_cases heq : pid = q
          · simp [heq]
          · simp [heq]
        journal := ⟨Text.wordsOf line, by rw [hjournal]; exact List.suffix_cons _ _⟩
        uncollected := by rw [hjournal]; rfl }
    next => cases h

theorem spares_launchService_none (unit : String)
    (h : s.launchService unit' u = (.ok none, s')) : s.Spares unit s' := by
  rw [launchService] at h
  split at h
  next => cases h; exact s.spares_say unit (.targetReached unit') trivial
  next => split at h <;> cases h

theorem spares_launchService_error {e : SpawnError} (unit : String)
    (h : s.launchService unit' u = (.error e, s')) : s.Spares unit s' := by
  rw [launchService] at h
  split at h
  next => cases h
  next =>
    split at h
    next => cases h
    next heq => cases h; exact spares_spawn_error unit heq

theorem attempts_serviceStarted {journal : List Record} {time : Nat} {argv : List String} :
    attempts (⟨time, .notice (.serviceStarted unit' pid)⟩ :: ⟨time, .spawned pid argv⟩ :: journal)
      unit = if unit' = unit then
        ⟨time, .notice (.serviceStarted unit' pid)⟩ :: attempts journal unit
      else attempts journal unit := by
  simp [attempts_cons, isAttempt]

theorem launches (h : s.launchService unit u = (.ok (some pid), s')) :
    Launches unit pid s s' := by
  obtain ⟨hentered, argv, hjournal⟩ := enters_launchService h
  refine { hentered.passes with standing := ?_, filed := fun pid' hfiled => ?_, files := ?_ }
  · simp only [standing, hentered.crashes, hjournal, attempts_serviceStarted, if_pos]
  · exact (hentered.filed_iff.mp hfiled).imp (fun hnew => hnew.1.symm) And.right
  · exact fun _ _ => hentered.filed_iff.mpr (.inl ⟨rfl, rfl⟩)

theorem spares_launchService (hne : unit' ≠ unit) (u : UnitDef) (s : Supervisor σ) :
    s.Spares unit (s.launchService unit' u).2 := by
  rcases h : s.launchService unit' u with ⟨e | _ | pid, s'⟩
  · exact spares_launchService_error unit h
  · exact spares_launchService_none unit h
  · obtain ⟨hentered, argv, hjournal⟩ := enters_launchService h
    refine hentered.spares (by simpa using hne) ?_
    rw [hjournal, attempts_serviceStarted, if_neg hne]

theorem launchService_cases (unit : String) (u : UnitDef) (s : Supervisor σ) :
    s.Spares unit (s.launchService unit u).2 ∨
      u.execStart? ≠ none ∧ ∃ pid, Launches unit pid s (s.launchService unit u).2 := by
  rcases h : s.launchService unit u with ⟨e | _ | pid, s'⟩
  · exact .inl (spares_launchService_error unit h)
  · exact .inl (spares_launchService_none unit h)
  · obtain ⟨line, hline, -⟩ := launchService_some h
    exact .inr ⟨by simp [hline], pid, launches h⟩

theorem passes_launchService (unit : String) (u : UnitDef) (s : Supervisor σ) :
    s.Passes (s.launchService unit u).2 := by
  rcases s.launchService_cases unit u with h | ⟨-, pid, h⟩
  · exact h.toPasses
  · exact h.toPasses

theorem attempts_restartFailed {journal : List Record} {time : Nat} {e : SpawnError} :
    attempts (⟨time, .notice (.restartFailed unit' e)⟩ :: journal) unit =
      if unit' = unit then ⟨time, .notice (.restartFailed unit' e)⟩ :: attempts journal unit
      else attempts journal unit := by
  simp [attempts_cons, isAttempt]

omit [Platform σ] in
theorem passes_restartFailed (s : Supervisor σ) (e : SpawnError) :
    s.Passes (s.say (.restartFailed unit e)) where
  now := rfl
  graph := rfl
  stopping := rfl
  window := rfl
  threshold := rfl
  cooldown := rfl
  journal := List.suffix_cons _ _
  tallies h := h.of_eq rfl rfl

theorem spares_relaunch (hne : unit' ≠ unit) (u : UnitDef) (s : Supervisor σ) :
    s.Spares unit (s.relaunch unit' u) := by
  have hlaunched := s.spares_launchService hne u
  rw [relaunch]
  split
  next heq => exact hlaunched.of_eq heq
  next e s₁ heq =>
    refine (hlaunched.of_eq heq).trans ?_
    refine spares_of_eq rfl rfl rfl rfl rfl (List.suffix_cons _ _) rfl ?_
    exact attempts_restartFailed.trans (if_neg hne)

theorem relaunches (hu : s.graph.get? unit = some u) : Relaunches unit s (s.relaunch unit u) := by
  rw [relaunch]
  split
  next r s' heq =>
    cases r with
    | none =>
      refine .spared (fun u' hu' => ?_) (spares_launchService_none unit heq)
      cases hu.symm.trans hu'
      exact launchService_none heq
    | some pid => exact .launched pid (launches heq)
  next e s₁ heq =>
    have hspared := spares_launchService_error unit heq
    have hpassed : s.Passes (s₁.say (.restartFailed unit e)) :=
      hspared.toPasses.trans (s₁.passes_restartFailed e)
    refine .failed e { hpassed with standing := ?_, filed := ?_ }
    · have hattempts : attempts (s₁.say (.restartFailed unit e)).journal unit =
          ⟨s₁.now, .notice (.restartFailed unit e)⟩ :: attempts s₁.journal unit :=
        attempts_restartFailed.trans (if_pos rfl)
      rw [← hspared.standing, ← hspared.now]
      simp only [standing, hattempts]
      rfl
    · exact hspared.filed

end Spawning

end Supervisor

end InitDaemon
