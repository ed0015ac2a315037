import InitDaemon.Proofs.Process.Growth

/-!
# Process numbers in the journal

The journal tells which processes have been started and not been collected since, and how often the
service of a unit has been launched. A kernel may use a number again once its process has been
collected, and not before.
-/

namespace InitDaemon

/-- An entry that tells nothing about processes. -/
def Entry.IsAside : Entry → Prop
  | .spawned .. | .spawnFailed _ | .waitedBlocking .. | .notice (.serviceStarted ..)
  | .notice (.restartFailed ..) | .notice (.reaped ..) => False
  | _ => True

namespace Journal

variable {r : Record} {journal journal' new : List Record} {unit unit' : String} {pid pid' : Pid}
  {time : Nat}

/-! ## Processes that have not been collected -/

/-- The processes that were started and have not been collected by the end of a journal. -/
def uncollected : List Record → List Pid
  | [] => []
  | r :: earlier =>
    match r.entry with
    | .spawned pid _ => pid :: uncollected earlier
    | .notice (.reaped pid _ _) | .waitedBlocking pid _ =>
      (uncollected earlier).filter fun other => other ≠ pid
    | _ => uncollected earlier

def spawned? (r : Record) : Option Pid :=
  match r.entry with
  | .spawned pid _ => some pid
  | _ => none

/-- No process got the number of one that had not been collected. -/
def FreshNumbers : List Record → Prop
  | [] => True
  | r :: earlier => (∀ pid ∈ spawned? r, pid ∉ uncollected earlier) ∧ FreshNumbers earlier

instance decidableFreshNumbers : DecidablePred FreshNumbers
  | [] => .isTrue trivial
  | r :: earlier =>
    have := decidableFreshNumbers earlier
    inferInstanceAs (Decidable ((∀ pid ∈ spawned? r, pid ∉ uncollected earlier) ∧
      FreshNumbers earlier))

theorem uncollected_aside (h : r.entry.IsAside) : uncollected (r :: journal) =
    uncollected journal := by
  rw [uncollected]
  split
  next heq => rw [heq] at h; exact h.elim
  next heq => rw [heq] at h; exact h.elim
  next heq => rw [heq] at h; exact h.elim
  next => rfl

theorem uncollected_append (h : ∀ r ∈ new, r.entry.IsAside) :
    uncollected (new ++ journal) = uncollected journal := by
  induction new with
  | nil => rfl
  | cons r new ih =>
    obtain ⟨hr, hnew⟩ := List.forall_mem_cons.mp h
    exact (uncollected_aside hr).trans (ih hnew)

theorem FreshNumbers.mono (h : FreshNumbers journal') (hsuffix : journal <:+ journal') :
    FreshNumbers journal := by
  obtain ⟨new, rfl⟩ := hsuffix
  induction new with
  | nil => exact h
  | cons r new ih => exact ih h.2

theorem FreshNumbers.not_mem {argv : List String}
    (h : FreshNumbers (⟨time, .spawned pid argv⟩ :: journal)) : pid ∉ uncollected journal :=
  h.1 pid rfl

/-! ## Launches -/

/-- Whether a record tells of a launch of the unit's service, or of one that failed. -/
def isAttempt (unit : String) (r : Record) : Bool :=
  match r.entry with
  | .notice (.serviceStarted unit' _) | .notice (.restartFailed unit' _) => unit' == unit
  | _ => false

/-- The attempts to launch the service of a unit, but for a failed first one, the last one first. -/
def attempts (journal : List Record) (unit : String) : List Record :=
  journal.filter (isAttempt unit)

theorem attempts_cons : attempts (r :: journal) unit =
    if isAttempt unit r then r :: attempts journal unit else attempts journal unit := by
  rw [attempts, List.filter_cons]
  rfl

theorem attempts_aside (h : r.entry.IsAside) : attempts (r :: journal) unit =
    attempts journal unit := by
  rw [attempts_cons, if_neg]
  intro hattempt
  rw [isAttempt] at hattempt
  split at hattempt
  next heq => rw [heq] at h; exact h
  next heq => rw [heq] at h; exact h
  next => cases hattempt

theorem attempts_append (h : ∀ r ∈ new, r.entry.IsAside) :
    attempts (new ++ journal) unit = attempts journal unit := by
  induction new with
  | nil => rfl
  | cons r new ih =>
    obtain ⟨hr, hnew⟩ := List.forall_mem_cons.mp h
    exact (attempts_aside hr).trans (ih hnew)

end Journal

/-! ## Spawning -/

namespace World

open Journal

variable {σ : Type} [Platform σ] {w w' : World σ} {argv env : List String}

theorem spawn_error {e : SpawnError} (h : w.spawn argv env = (.error e, w')) : w'.now = w.now ∧
    (w'.journal = w.journal ∨ w'.journal = ⟨w.now, .spawnFailed argv⟩ :: w.journal) := by
  rcases hcall : Platform.spawn w.now argv env w.machine with ⟨_ | pid, machine⟩
  · simp only [spawn, hcall] at h
    split at h
    next heq => cases heq
    next => cases h; exact ⟨rfl, .inr rfl⟩
    next => cases h; exact ⟨rfl, .inl rfl⟩
  · simp only [spawn, hcall] at h
    cases h

end World

end InitDaemon
