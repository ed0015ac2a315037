import InitDaemon.Proofs.Process.Growth

/-!
# Reading the journal

The journal tells what has become of each unit: which handles were given on it, whether its own
action has begun and how that ended, its outcome, and when its service was started. What is left of
a journal from some record on is the journal as it was then.
-/

namespace InitDaemon.Journal

open InitDaemon.Units

def resolution? (unit : String) (r : Record) : Option Outcome :=
  match r.entry with
  | .resolved unit' o => if unit' = unit then some o else none
  | _ => none

/-- The outcome of a unit by the end of a journal. -/
def outcomeAfter? (journal : List Record) (unit : String) : Option Outcome :=
  journal.findSome? (resolution? unit)

def Begun (journal : List Record) (unit : String) : Prop :=
  ∃ r ∈ journal, r.entry = .began unit

def Acted (journal : List Record) (unit : String) (o : Outcome) : Prop :=
  ∃ r ∈ journal, r.entry = .acted unit o

def ownResult? (r : Record) : Option (String × Outcome) :=
  match r.entry with
  | .acted unit o => some (unit, o)
  | _ => none

/-- The results of own actions by the end of a journal, the last one first. -/
def ownResults (journal : List Record) : List (String × Outcome) :=
  journal.filterMap ownResult?

def Requested (journal : List Record) (h : Handle) : Prop :=
  ∃ r ∈ journal, ∃ chain, r.entry = .requested h chain

/-- The own action of a unit began at a time and spawned its command line at once. -/
def StartedAt (journal : List Record) (unit line : String) (time : Nat) : Prop :=
  ∃ (pid : Pid) (earlier : List Record),
    ⟨time, .notice (.serviceStarted unit pid)⟩ :: ⟨time, .spawned pid (Text.wordsOf line)⟩ ::
      ⟨time, .began unit⟩ :: earlier <:+ journal

/-- If the unit runs a command, the settle delay since its start is over. -/
def HasSettled (graph : Graph) (delay : Nat) (journal : List Record) (now : Nat)
    (unit : String) : Prop :=
  ∀ u line, graph.get? unit = some u → u.execStart? = some line →
    ∃ time, StartedAt journal unit line time ∧ time + delay ≤ now

/-- A dependent of the unit need not wait for it any longer. -/
structure Ready (graph : Graph) (delay : Nat) (journal : List Record) (now : Nat)
    (unit : String) : Prop where
  outcome : outcomeAfter? journal unit = some (.ok ())
  settled : HasSettled graph delay journal now unit

/-- No action begins twice, and none before all dependencies are ready. -/
def Orderly (graph : Graph) (delay : Nat) (journal : List Record) : Prop :=
  ∀ (unit : String) (r : Record) (earlier : List Record), r :: earlier <:+ journal →
    r.entry = .began unit →
      ¬ Begun earlier unit ∧ ∃ u, graph.get? unit = some u ∧
        ∀ d ∈ u.dependencies, Ready graph delay earlier r.time d

variable {graph : Graph} {delay now now' : Nat} {journal journal' new : List Record}
  {unit line : String} {h : Handle} {o : Outcome} {r : Record} {time : Nat}

/-! ## One more record -/

theorem outcomeAfter?_cons :
    outcomeAfter? (r :: journal) unit = (resolution? unit r <|> outcomeAfter? journal unit) := by
  rw [outcomeAfter?, List.findSome?_cons]
  cases resolution? unit r <;> rfl

theorem outcomeAfter?_cons_of_ne (hr : ∀ o, r.entry ≠ .resolved unit o) :
    outcomeAfter? (r :: journal) unit = outcomeAfter? journal unit := by
  have hnone : resolution? unit r = none := by
    rw [resolution?]
    split
    next unit' o heq =>
      refine if_neg ?_
      rintro rfl
      exact hr o heq
    next => rfl
  rw [outcomeAfter?_cons, hnone]
  rfl

theorem outcomeAfter?_resolved :
    outcomeAfter? (⟨time, .resolved unit o⟩ :: journal) unit = some o := by
  simp [outcomeAfter?_cons, resolution?]

theorem begun_cons : Begun (r :: journal) unit ↔ r.entry = .began unit ∨ Begun journal unit := by
  simp [Begun]

theorem acted_cons : Acted (r :: journal) unit o ↔ r.entry = .acted unit o ∨
    Acted journal unit o := by
  simp [Acted]

theorem acted_iff_mem_ownResults : Acted journal unit o ↔ (unit, o) ∈ ownResults journal := by
  rw [Acted, ownResults, List.mem_filterMap]
  refine exists_congr fun r => and_congr_right fun _ => ?_
  rw [ownResult?]
  split
  next heq => simp [heq]
  next hne => simpa using hne unit o

theorem requested_cons : Requested (r :: journal) h ↔ (∃ chain, r.entry = .requested h chain) ∨
    Requested journal h := by
  simp [Requested]

theorem orderly_cons : Orderly graph delay (r :: journal) ↔ Orderly graph delay journal ∧
    ∀ unit, r.entry = .began unit → ¬ Begun journal unit ∧ ∃ u, graph.get? unit = some u ∧
      ∀ d ∈ u.dependencies, Ready graph delay journal r.time d := by
  constructor
  · intro h
    exact ⟨fun unit r' earlier hsuffix => h unit r' earlier (hsuffix.trans (List.suffix_cons r _)),
      fun unit => h unit r journal List.suffix_rfl⟩
  · rintro ⟨hold, hnew⟩ unit r' earlier hsuffix hbegan
    rcases List.suffix_cons_iff.mp hsuffix with heq | hsuffix
    · obtain ⟨rfl, rfl⟩ := List.cons.inj heq
      exact hnew unit hbegan
    · exact hold unit r' earlier hsuffix hbegan

theorem Orderly.cons (h : Orderly graph delay journal) (hr : ∀ unit, r.entry ≠ .began unit) :
    Orderly graph delay (r :: journal) :=
  orderly_cons.mpr ⟨h, fun unit hbegan => absurd hbegan (hr unit)⟩

/-! ## More minor records -/

/-- A record that neither gives a handle nor begins an action nor resolves a unit. -/
def IsMinor (r : Record) : Prop :=
  (∀ h chain, r.entry ≠ .requested h chain) ∧ (∀ unit, r.entry ≠ .began unit) ∧
    ∀ unit o, r.entry ≠ .resolved unit o

theorem isMinor_of_isPlain (h : r.entry.IsPlain) : IsMinor r := by
  refine ⟨?_, ?_, ?_⟩
  all_goals
    intros
    intro heq
    rw [heq] at h
    exact h

theorem outcomeAfter?_minor (hnew : ∀ r ∈ new, IsMinor r) :
    outcomeAfter? (new ++ journal) unit = outcomeAfter? journal unit := by
  induction new with
  | nil => rfl
  | cons r new ih =>
    rw [List.cons_append, outcomeAfter?_cons_of_ne ((hnew r List.mem_cons_self).2.2 unit)]
    exact ih fun r' hr' => hnew r' (List.mem_cons_of_mem r hr')

theorem begun_minor (hnew : ∀ r ∈ new, IsMinor r) :
    Begun (new ++ journal) unit ↔ Begun journal unit := by
  induction new with
  | nil => exact .rfl
  | cons r new ih =>
    rw [List.cons_append, begun_cons, ih fun r' hr' => hnew r' (List.mem_cons_of_mem r hr')]
    exact or_iff_right ((hnew r List.mem_cons_self).2.1 unit)

theorem requested_minor (hnew : ∀ r ∈ new, IsMinor r) :
    Requested (new ++ journal) h ↔ Requested journal h := by
  induction new with
  | nil => exact .rfl
  | cons r new ih =>
    rw [List.cons_append, requested_cons, ih fun r' hr' => hnew r' (List.mem_cons_of_mem r hr')]
    exact or_iff_right fun ⟨chain, heq⟩ => (hnew r List.mem_cons_self).1 h chain heq

theorem Orderly.minor (h : Orderly graph delay journal) (hnew : ∀ r ∈ new, IsMinor r) :
    Orderly graph delay (new ++ journal) := by
  induction new with
  | nil => exact h
  | cons r new ih =>
    exact (ih fun r' hr' => hnew r' (List.mem_cons_of_mem r hr')).cons
      (hnew r List.mem_cons_self).2.1

theorem acted_append : Acted (new ++ journal) unit o ↔
    (∃ r ∈ new, r.entry = .acted unit o) ∨ Acted journal unit o := by
  simp only [Acted, List.mem_append, or_and_right, exists_or]

/-! ## Later journals -/

theorem Begun.mono (h : Begun journal unit) (hj : journal <:+ journal') : Begun journal' unit := by
  obtain ⟨r, hr, heq⟩ := h
  exact ⟨r, hj.mem hr, heq⟩

theorem Acted.mono (h : Acted journal unit o) (hj : journal <:+ journal') :
    Acted journal' unit o := by
  obtain ⟨r, hr, heq⟩ := h
  exact ⟨r, hj.mem hr, heq⟩

theorem Requested.mono (hh : Requested journal h) (hj : journal <:+ journal') :
    Requested journal' h := by
  obtain ⟨r, hr, heq⟩ := hh
  exact ⟨r, hj.mem hr, heq⟩

theorem HasSettled.mono (h : HasSettled graph delay journal now unit) (hj : journal <:+ journal')
    (hnow : now ≤ now') : HasSettled graph delay journal' now' unit := by
  intro u line hu hline
  obtain ⟨time, ⟨pid, earlier, hstarted⟩, hle⟩ := h u line hu hline
  exact ⟨time, ⟨pid, earlier, hstarted.trans hj⟩, Nat.le_trans hle hnow⟩

end InitDaemon.Journal
