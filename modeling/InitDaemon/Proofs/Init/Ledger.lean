import InitDaemon.Init.Basic
import InitDaemon.Proofs.Init.Journal
import InitDaemon.Proofs.Readiness
import InitDaemon.Proofs.Units.Verdict

/-!
# The ledger

What the journal of an init and the readiness of its units have to do with each other at any time:
the outcomes are those of the journal and are the verdicts on the units, every handle that was given
is a unit's own, and each action began when its time had come.
-/

namespace InitDaemon.Init

open Std InitDaemon.Units InitDaemon.Journal

/-! ## The cycle table -/

section

variable {cycles : List (List String)} {members : List String} {unit : String}

theorem getElem?_foldl_insert (cycle members : List String)
    (table : ExtTreeMap String (List String)) :
    (members.foldl (fun table member => table.insert member cycle) table)[unit]? =
      if unit ∈ members then some cycle else table[unit]? := by
  induction members generalizing table with
  | nil => simp
  | cons member members ih =>
    rw [List.foldl_cons, ih]
    by_cases hmem : unit ∈ members
    · simp [hmem]
    · by_cases heq : member = unit
      · simp [heq]
      · have hne : unit ≠ member := fun h => heq h.symm
        simp [hmem, ExtTreeMap.getElem?_insert, heq, hne]

theorem mem_of_cycleTable (h : (cycleTable cycles)[unit]? = some members) :
    members ∈ cycles ∧ unit ∈ members := by
  have hgeneral : ∀ table : ExtTreeMap String (List String),
      (cycles.foldl (fun table cycle =>
        cycle.foldl (fun table member => table.insert member cycle) table) table)[unit]? =
          some members → (members ∈ cycles ∧ unit ∈ members) ∨ table[unit]? = some members := by
    clear h
    induction cycles with
    | nil => exact fun _ h => .inr h
    | cons cycle cycles ih =>
      intro table h
      rw [List.foldl_cons] at h
      rcases ih _ h with ⟨hmem, hunit⟩ | h
      · exact .inl ⟨List.mem_cons_of_mem _ hmem, hunit⟩
      · rw [getElem?_foldl_insert] at h
        split at h
        next hunit =>
          cases h
          exact .inl ⟨List.mem_cons_self, hunit⟩
        next => exact .inr h
  rcases hgeneral ∅ h with h | h
  · exact h
  · simp at h

theorem cycleTable_eq_none (h : (cycleTable cycles)[unit]? = none) :
    ∀ cycle ∈ cycles, unit ∉ cycle := by
  have hgeneral : ∀ table : ExtTreeMap String (List String),
      (cycles.foldl (fun table cycle =>
        cycle.foldl (fun table member => table.insert member cycle) table) table)[unit]? = none →
          (∀ cycle ∈ cycles, unit ∉ cycle) ∧ table[unit]? = none := by
    clear h
    induction cycles with
    | nil => exact fun _ h => ⟨by simp, h⟩
    | cons cycle cycles ih =>
      intro table h
      rw [List.foldl_cons] at h
      obtain ⟨hrest, htable⟩ := ih _ h
      rw [getElem?_foldl_insert] at htable
      split at htable
      next => cases htable
      next hunit =>
        refine ⟨?_, htable⟩
        simpa [hunit] using hrest
  exact (hgeneral ∅ h).1

end

variable {σ : Type}

/-! ## What time keeps -/

def Starts (s : Init σ) (id : TaskId) (unit : String) : Prop :=
  ∃ chain phase, s.tasks[id]? = some (.start unit chain phase)

def Entered (s : Init σ) (unit : String) : Prop :=
  ∃ channel, s.readiness.senders[unit]? = some channel

def DependenciesReady (s : Init σ) (unit : String) : Prop :=
  ∀ u, s.graph.get? unit = some u → ∀ d ∈ u.dependencies, s.outcome? d = some (.ok ())

/-- What stays as it was from one state to a later one. A unit that has been asked for gets no
further start task. -/
structure Later (s s' : Init σ) : Prop where
  config : s'.config = s.config
  graph : s'.graph = s.graph
  cycles : s'.cycles = s.cycles
  now_le : s.now ≤ s'.now
  stopping : s.stopping = true → s'.stopping = true
  journal : s.journal <:+ s'.journal
  live : ∀ ticket, s.Live ticket → s'.Live ticket
  bounded : s.Bounded → s'.Bounded
  entered : ∀ (unit : String) (channel : Channel), s.readiness.senders[unit]? = some channel →
    s'.readiness.senders[unit]? = some channel
  outcome : ∀ unit o, s.outcome? unit = some o → s'.outcome? unit = some o
  starts : ∀ id unit, s.Entered unit → s'.Starts id unit → s.Starts id unit

variable {s s' s'' : Init σ} {unit : String} {o : Outcome} {h : Handle}

theorem Later.refl (s : Init σ) : s.Later s :=
  ⟨rfl, rfl, rfl, Nat.le_refl _, id, List.suffix_rfl, fun _ h => h, id, fun _ _ h => h,
    fun _ _ h => h, fun _ _ _ h => h⟩

theorem Entered.later (hu : s.Entered unit) (h : s.Later s') : s'.Entered unit := by
  obtain ⟨channel, hchannel⟩ := hu
  exact ⟨channel, h.entered unit channel hchannel⟩

theorem Later.trans (h : s.Later s') (h' : s'.Later s'') : s.Later s'' where
  config := h'.config.trans h.config
  graph := h'.graph.trans h.graph
  cycles := h'.cycles.trans h.cycles
  now_le := Nat.le_trans h.now_le h'.now_le
  stopping hs := h'.stopping (h.stopping hs)
  journal := h.journal.trans h'.journal
  live ticket ht := h'.live ticket (h.live ticket ht)
  bounded hb := h'.bounded (h.bounded hb)
  entered unit channel hu := h'.entered unit channel (h.entered unit channel hu)
  outcome unit o ho := h'.outcome unit o (h.outcome unit o ho)
  starts id unit hu hs := h.starts id unit hu (h'.starts id unit (hu.later h) hs)

theorem Later.running (h : s.Later s') (hs' : s'.stopping = false) : s.stopping = false := by
  cases hs : s.stopping with
  | false => rfl
  | true => exact (h.stopping hs).symm.trans hs'

theorem DependenciesReady.later (hu : s.DependenciesReady unit) (h : s.Later s') :
    s'.DependenciesReady unit := fun u hget d hd =>
  h.outcome d _ (hu u (h.graph ▸ hget) d hd)

/-! ## The ledger -/

/-- The dependency of a unit has failed, and the error of the unit quotes the one of the dependency.
-/
structure Blames (s : Init σ) (unit d reason : String) : Prop where
  acyclic : ¬ Cyclic s.graph.successors unit
  depends : s.graph.Depends unit d
  failed : ∃ e, s.outcome? d = some (.error e) ∧ reason = e.text

theorem Blames.later {d reason : String} (hb : s.Blames unit d reason) (h : s.Later s') :
    s'.Blames unit d reason := by
  obtain ⟨e, he, hreason⟩ := hb.failed
  refine ⟨?_, ?_, e, h.outcome d _ he, hreason⟩
  · rw [h.graph]
    exact hb.acyclic
  · rw [h.graph]
    exact hb.depends

structure Justified (s : Init σ) (unit : String) (o : Outcome) : Prop where
  settled : o = .ok () → HasSettled s.graph s.config.settleDelay s.journal s.now unit
  decided : s.stopping = false → Decides s.graph (Acted s.journal) unit o
  not_abandoned : ∀ v, o ≠ .error (.abandoned v)
  missing : ∀ name chain, o = .error (.notFound name chain) → s.graph.get? unit = none
  cyclic : ∀ members, o = .error (.cycle members) → Cyclic s.graph.successors unit
  blames : ∀ v d reason, o = .error (.dependency v d reason) → v = unit ∧ s.Blames unit d reason

theorem Justified.later (hj : s.Justified unit o) (h : s.Later s') : s'.Justified unit o where
  settled ho := by
    rw [h.graph, h.config]
    exact (hj.settled ho).mono h.journal h.now_le
  decided hstopping := by
    rw [h.graph]
    exact (hj.decided (h.running hstopping)).mono fun v o hacted => hacted.mono h.journal
  not_abandoned := hj.not_abandoned
  missing := by
    rw [h.graph]
    exact hj.missing
  cyclic := by
    rw [h.graph]
    exact hj.cyclic
  blames v d reason ho := (hj.blames v d reason ho).imp_right fun hb => hb.later h

/-- Every handle that was given is on the channel of its unit. -/
structure Channels (s : Init σ) : Prop where
  consistent : s.readiness.Consistent
  given : ∀ h, Requested s.journal h → s.readiness.senders[h.unit]? = some h.channel

/-- The journal and the readiness fit together. -/
structure Ledger (s : Init σ) : Prop extends Channels s where
  cycles : s.cycles = cycleTable s.graph.findCycles
  bounded : s.Bounded
  outcome : ∀ unit, s.outcome? unit = outcomeAfter? s.journal unit
  orderly : Orderly s.graph s.config.settleDelay s.journal
  begun : ∀ unit, Begun s.journal unit → s.Entered unit ∧ s.DependenciesReady unit
  acted : ∀ unit o, Acted s.journal unit o → s.outcome? unit = some o
  justified : ∀ unit o, s.outcome? unit = some o → s.Justified unit o

theorem Ledger.later (hs : s.Ledger) (h : s.Later s') (hconsistent : s'.readiness.Consistent)
    (hgiven : ∀ h, Requested s'.journal h → Requested s.journal h ∨
      s'.readiness.senders[h.unit]? = some h.channel)
    (houtcome : ∀ unit, s'.outcome? unit = outcomeAfter? s'.journal unit)
    (horderly : Orderly s.graph s.config.settleDelay s'.journal)
    (hbegun : ∀ unit, Begun s'.journal unit → Begun s.journal unit ∨
      s'.Entered unit ∧ s'.DependenciesReady unit)
    (hacted : ∀ unit o, Acted s'.journal unit o → Acted s.journal unit o ∨
      s'.outcome? unit = some o)
    (hjustified : ∀ unit o, s'.outcome? unit = some o → s.outcome? unit = some o ∨
      s'.Justified unit o) : s'.Ledger where
  consistent := hconsistent
  given handle hrequested :=
    (hgiven handle hrequested).elim (fun hold => h.entered _ _ (hs.given handle hold)) id
  cycles := by rw [h.cycles, h.graph, hs.cycles]
  bounded := h.bounded hs.bounded
  outcome := houtcome
  orderly := by
    rw [h.graph, h.config]
    exact horderly
  begun unit hunit := (hbegun unit hunit).elim
    (fun hold => ⟨(hs.begun unit hold).1.later h, (hs.begun unit hold).2.later h⟩) id
  acted unit o ho :=
    (hacted unit o ho).elim (fun hold => h.outcome unit o (hs.acted unit o hold)) id
  justified unit o ho :=
    (hjustified unit o ho).elim (fun hold => (hs.justified unit o hold).later h) id

theorem Ledger.same (hs : s.Ledger) (htable : s'.toSupervisor = s.toSupervisor)
    (hreadiness : s'.readiness = s.readiness) (hcycles : s'.cycles = s.cycles) : s'.Ledger := by
  cases s
  cases s'
  cases htable
  cases hreadiness
  cases hcycles
  exact { hs with
    justified := fun unit o ho => { hs.justified unit o ho with
      blames := fun v d reason heq =>
        ((hs.justified unit o ho).blames v d reason heq).imp_right fun hb => { hb with } } }

/-- A resolution is entered into the journal together with the readiness. -/
theorem Ledger.resolved {time : Nat} {new : List Record} (hs : s.Ledger) (h : s.Later s')
    (hconsistent : s'.readiness.Consistent)
    (hjournal : s'.journal = ⟨time, .resolved unit o⟩ :: (new ++ s.journal))
    (hnew : ∀ r ∈ new, IsMinor r)
    (hacted : ∀ r ∈ new, ∀ v o', r.entry = .acted v o' → v = unit ∧ o' = o)
    (houtcome : ∀ v, s'.outcome? v = if unit = v then some o else s.outcome? v)
    (hjustified : s'.Justified unit o) : s'.Ledger := by
  refine hs.later h hconsistent ?_ ?_ ?_ ?_ ?_ ?_
  · rw [hjournal]
    intro handle hh
    exact .inl ((requested_minor hnew).mp ((requested_cons.mp hh).resolve_left (by simp)))
  · intro v
    rw [houtcome, hjournal]
    split
    next heq => rw [heq, outcomeAfter?_resolved]
    next hne =>
      rw [hs.outcome, outcomeAfter?_cons_of_ne (by simp [hne]), outcomeAfter?_minor hnew]
  · rw [hjournal]
    exact (hs.orderly.minor hnew).cons (by simp)
  · rw [hjournal]
    exact fun v hb => .inl ((begun_minor hnew).mp ((begun_cons.mp hb).resolve_left (by simp)))
  · rw [hjournal]
    intro v o' ho
    rcases acted_append.mp ((acted_cons.mp ho).resolve_left (by simp)) with ⟨r, hr, heq⟩ | hold
    · obtain ⟨rfl, rfl⟩ := hacted r hr v o' heq
      exact .inr (by rw [houtcome, if_pos rfl])
    · exact .inl hold
  · intro v o' ho
    rw [houtcome] at ho
    split at ho
    next heq =>
      subst heq
      cases ho
      exact .inr hjustified
    next => exact .inl ho

theorem outcome?_eq_none (hu : ¬ s.Entered unit) : s.outcome? unit = none := by
  refine Readiness.outcomeOf?_eq_none ?_
  cases hsender : s.readiness.senders[unit]? with
  | none => rfl
  | some channel => exact absurd ⟨channel, hsender⟩ hu

theorem entered_of_outcome (ho : s.outcome? unit = some o) : s.Entered unit := by
  refine Classical.byContradiction fun hu => ?_
  rw [outcome?_eq_none hu] at ho
  cases ho

theorem Channels.wait? (hs : s.Channels) (hh : Requested s.journal h) :
    s.readiness.wait? h = s.outcome? h.unit :=
  Readiness.wait?_handle h (hs.given h hh)

theorem Channels.entered (hs : s.Channels) (hh : Requested s.journal h) : s.Entered h.unit :=
  ⟨h.channel, hs.given h hh⟩

theorem Ledger.acyclic (hs : s.Ledger) (hcycles : s.cycles[unit]? = none) :
    ¬ Cyclic s.graph.successors unit := by
  rw [hs.cycles] at hcycles
  rw [Graph.cyclic_iff]
  rintro ⟨members, hmem, hunit⟩
  exact cycleTable_eq_none hcycles members hmem hunit

end InitDaemon.Init
