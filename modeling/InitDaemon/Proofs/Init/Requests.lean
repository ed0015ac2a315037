import InitDaemon.Proofs.Init.Quiet

/-!
# Asking for units

A request joins the start of a unit that has been asked for before. Otherwise it enters the unit,
which is turned down with its verdict or gets its one start task.
-/

namespace InitDaemon.Init

open Std InitDaemon.Units InitDaemon.Journal

variable {σ : Type} {s₀ s s' : Init σ} {f : Focus} {unit : String} {chain : List String}
  {h : Handle} {e : StartError}

/-! ## Joining -/

theorem later_note (s : Init σ) (e : Entry) : s.Later (s.note e) :=
  { Later.refl s with journal := List.suffix_cons _ _ }

theorem Leads.joined (hs : Leads s₀ f s) (hh : s.readiness.senders[h.unit]? = some h.channel) :
    Leads s₀ f (s.note (.requested h chain)) := by
  have hbegun : ∀ unit,
      Begun (s.note (.requested h chain)).journal unit ↔ Begun s.journal unit := by
    intro unit
    exact begun_cons.trans (by simp)
  refine ⟨hs.later.trans (later_note s _), ?_, ?_⟩
  · refine hs.ledger.later (later_note s _) hs.ledger.consistent ?_ ?_ ?_ ?_ ?_ ?_
    · intro handle hrequested
      rcases requested_cons.mp hrequested with ⟨chain, heq⟩ | hold
      · cases heq
        exact .inr hh
      · exact .inl hold
    · exact fun unit => (hs.ledger.outcome unit).trans (outcomeAfter?_cons_of_ne (by simp)).symm
    · exact hs.ledger.orderly.cons (by simp)
    · exact fun unit hb => .inl ((hbegun unit).mp hb)
    · exact fun unit o ho => .inl ((acted_cons.mp ho).resolve_left (by simp))
    · exact fun unit o ho => .inl ho
  · refine hs.workflow.calm hs.ledger.toChannels ⟨.of_eq rfl rfl rfl rfl rfl rfl, later_note s _,
      fun _ h _ => h, fun _ _ => rfl⟩ rfl (fun _ unit _ _ => (hbegun unit).mp) ?_
    exact hs.workflow.focus.later (Nat.le_refl _) (fun _ _ _ => .rfl) hbegun

/-! ## Entering -/

/-- A unit has got its channel and the first handle on it. -/
def entering (s : Init σ) (unit : String) (chain : List String) (value : Option Outcome) :
    Init σ :=
  { s with readiness := (s.readiness.enter unit value).2 }.note
    (.requested ⟨unit, s.readiness.next⟩ chain)

variable (unit : String) (chain : List String) (value : Option Outcome)

theorem senders_entering (v : String) : (s.entering unit chain value).readiness.senders[v]? =
    if unit = v then some s.readiness.next else s.readiness.senders[v]? :=
  Readiness.senders_enter value

theorem outcome?_entering (hs : s.Ledger) (v : String) :
    (s.entering unit chain value).outcome? v = if unit = v then value else s.outcome? v :=
  Readiness.outcomeOf?_enter hs.consistent value

theorem entered_entering (v : String) : (s.entering unit chain value).Entered v ↔
    unit = v ∨ s.Entered v := by
  rw [Entered, senders_entering]
  split
  next heq => simp [heq]
  next hne => simp [hne, Entered]

variable {unit} in
theorem later_entering (hs : s.Ledger) (hnew : ¬ s.Entered unit) :
    s.Later (s.entering unit chain value) :=
  { Later.refl s with
    journal := List.suffix_cons _ _
    entered := by
      intro v channel hv
      rw [senders_entering, if_neg, hv]
      rintro rfl
      exact hnew ⟨channel, hv⟩
    outcome := by
      intro v o ho
      rw [outcome?_entering _ _ _ hs, if_neg, ho]
      rintro rfl
      exact hnew (entered_of_outcome ho) }

theorem begun_entering (v : String) :
    Begun (s.entering unit chain value).journal v ↔ Begun s.journal v :=
  begun_cons.trans (by simp)

variable {unit} in
theorem ledger_entering (hs : s.Ledger) (hnew : ¬ s.Entered unit) :
    (s.entering unit chain none).Ledger := by
  refine hs.later (later_entering chain none hs hnew) (hs.consistent.enter none) ?_ ?_ ?_ ?_ ?_ ?_
  · intro handle hh
    rcases requested_cons.mp hh with ⟨chain, heq⟩ | hold
    · cases heq
      exact .inr (by rw [senders_entering, if_pos rfl])
    · exact .inl hold
  · intro v
    have hcons : outcomeAfter? (s.entering unit chain none).journal v =
        outcomeAfter? s.journal v := outcomeAfter?_cons_of_ne (by simp)
    rw [outcome?_entering _ _ _ hs, hcons]
    split
    next heq =>
      rw [← hs.outcome, ← heq, outcome?_eq_none hnew]
    next => exact hs.outcome v
  · exact hs.orderly.cons (by simp)
  · exact fun v hb => .inl ((begun_entering unit chain none v).mp hb)
  · exact fun v o ho => .inl ((acted_cons.mp ho).resolve_left (by simp))
  · intro v o ho
    rw [outcome?_entering _ _ _ hs] at ho
    split at ho
    next => cases ho
    next => exact .inl ho

variable {unit chain}

/-- Why a unit is turned down. -/
theorem rejection_cases (hs : s.Ledger) (hrejected : s.rejection? unit chain = some e) :
    (s.stopping = true ∧ e = .shuttingDown unit) ∨
    (s.graph.get? unit = none ∧ e = .notFound unit chain) ∨
    ∃ members, IsCycle s.graph.successors members ∧ unit ∈ members ∧ e = .cycle members := by
  rw [rejection?] at hrejected
  split at hrejected
  next hstopping => exact .inl ⟨hstopping, (Option.some.inj hrejected).symm⟩
  next =>
    split at hrejected
    next hunit =>
      exact .inr (.inl ⟨hunit, (Option.some.inj hrejected).symm⟩)
    next =>
      obtain ⟨members, hmembers, rfl⟩ := Option.map_eq_some_iff.mp hrejected
      rw [hs.cycles] at hmembers
      obtain ⟨hmem, hunit⟩ := mem_of_cycleTable hmembers
      exact .inr (.inr ⟨members, Graph.isCycle_of_mem_findCycles hmem, hunit, rfl⟩)

theorem justified_rejection (hs : s.Ledger) (hrejected : s.rejection? unit chain = some e) :
    s.Justified unit (.error e) := by
  rcases rejection_cases hs hrejected with ⟨hstopping, rfl⟩ | ⟨hunit, rfl⟩ |
    ⟨members, hcycle, hunit, rfl⟩
  · refine ⟨by simp, fun hrunning => ?_, by simp, by simp, by simp, by simp⟩
    cases hstopping.symm.trans hrunning
  · exact ⟨by simp, fun _ => .notFound chain hunit, by simp, fun _ _ _ => hunit, by simp, by simp⟩
  · exact ⟨by simp, fun _ => .cycle hcycle hunit, by simp, by simp,
      fun _ _ => hcycle.cyclic unit hunit, by simp⟩

/-- The unit is entered with its verdict. -/
def turnedDown (s : Init σ) (unit : String) (chain : List String) (e : StartError) : Init σ :=
  (s.entering unit chain (some (.error e))).note (.resolved unit (.error e))

theorem outcome?_turnedDown (hs : s.Ledger) (v : String) :
    (s.turnedDown unit chain e).outcome? v =
      if unit = v then some (.error e) else s.outcome? v :=
  outcome?_entering unit chain (some (.error e)) hs v

theorem begun_turnedDown (v : String) :
    Begun (s.turnedDown unit chain e).journal v ↔ Begun s.journal v := by
  have hresolved : Begun (s.turnedDown unit chain e).journal v ↔
      Begun (s.entering unit chain (some (.error e))).journal v := begun_cons.trans (by simp)
  exact hresolved.trans (begun_entering unit chain _ v)

theorem ledger_turnedDown (hs : s.Ledger) (hnew : ¬ s.Entered unit)
    (hrejected : s.rejection? unit chain = some e) : (s.turnedDown unit chain e).Ledger := by
  have hlater : (s.entering unit chain none).Later (s.turnedDown unit chain e) :=
    { Later.refl (s.entering unit chain none) with
      journal := List.suffix_cons _ _
      outcome := by
        intro v o ho
        rw [outcome?_entering _ _ _ hs] at ho
        rw [outcome?_turnedDown hs]
        split at ho
        next => cases ho
        next hne => rw [if_neg hne, ho] }
  have hjournal : (s.turnedDown unit chain e).journal =
      ⟨s.now, .resolved unit (.error e)⟩ :: ([] ++ (s.entering unit chain none).journal) := rfl
  refine (ledger_entering chain hs hnew).resolved hlater (hs.consistent.enter _) hjournal (by simp)
    (by simp) ?_ ?_
  · intro v
    rw [outcome?_turnedDown hs, outcome?_entering _ _ _ hs]
    split <;> rfl
  · have hentering := later_entering chain none hs hnew
    exact (justified_rejection hs hrejected).later (hentering.trans hlater)

theorem Leads.turnedDown (hs : Leads s₀ f s) (hnew : ¬ s.Entered unit)
    (hrejected : s.rejection? unit chain = some e) :
    Leads s₀ f (s.turnedDown unit chain e) := by
  have hlater : s.Later (s.turnedDown unit chain e) :=
    (later_entering chain _ hs.ledger hnew).trans (later_note _ _)
  refine ⟨hs.later.trans hlater, ledger_turnedDown hs.ledger hnew hrejected, ?_⟩
  refine hs.workflow.calm hs.ledger.toChannels
    ⟨.of_eq rfl rfl rfl rfl rfl rfl, hlater, ?_, ?_⟩ rfl
    (fun _ v _ _ => (begun_turnedDown v).mp)
    (hs.workflow.focus.later (Nat.le_refl _) (fun _ _ _ => .rfl) begun_turnedDown)
  · intro v hv hnone
    rw [outcome?_turnedDown hs.ledger] at hnone
    split at hnone
    next => cases hnone
    next hne => exact ((entered_entering unit chain _ v).mp hv).resolve_left hne
  · intro v hv
    rw [outcome?_turnedDown hs.ledger, if_neg]
    rintro rfl
    exact hnew hv

/-- The unit is entered and gets its start task. -/
def takenUp (s : Init σ) (unit : String) (chain : List String) : Init σ :=
  (s.entering unit chain none).addTask (.start unit chain .fresh)

theorem tasks_takenUp (id : TaskId) : (s.takenUp unit chain).tasks[id]? =
    if s.nextTask = id then some (.start unit chain .fresh) else s.tasks[id]? :=
  getElem?_insert_task _ _

theorem starts_takenUp {id : TaskId} {v : String} :
    (s.takenUp unit chain).Starts id v ↔
      (if s.nextTask = id then unit = v else s.Starts id v) := by
  simp only [Starts, tasks_takenUp]
  split
  next => simp
  next => exact .rfl

theorem outcome?_takenUp (hs : s.Ledger) (hnew : ¬ s.Entered unit) (v : String) :
    (s.takenUp unit chain).outcome? v = s.outcome? v := by
  refine (outcome?_entering unit chain none hs v).trans ?_
  split
  next heq => rw [← heq, outcome?_eq_none hnew]
  next => rfl

theorem later_takenUp (hs : s.Ledger) (hnew : ¬ s.Entered unit) :
    s.Later (s.takenUp unit chain) :=
  { later_entering chain none hs hnew with
    starts := by
      intro id v hv hstarts
      rw [starts_takenUp] at hstarts
      split at hstarts
      next =>
        subst hstarts
        exact absurd hv hnew
      next => exact hstarts }

theorem of_rejection_eq_none (hrejected : s.rejection? unit chain = none) :
    s.stopping = false ∧ (∃ u, s.graph.get? unit = some u) ∧ s.cycles[unit]? = none := by
  rw [rejection?] at hrejected
  split at hrejected
  next => cases hrejected
  next hstopping =>
    split at hrejected
    next => cases hrejected
    next u hu => exact ⟨by simpa using hstopping, ⟨u, hu⟩, by simpa using hrejected⟩

theorem Workflow.takenUp (hs : s.Workflow f) (hledger : s.Ledger) (hnew : ¬ s.Entered unit)
    (hrejected : s.rejection? unit chain = none) : (s.takenUp unit chain).Workflow f := by
  have hlater : s.Later (s.takenUp unit chain) := later_takenUp hledger hnew
  have hbegun : ∀ v, Begun (s.takenUp unit chain).journal v ↔ Begun s.journal v :=
    begun_entering unit chain none
  have hne : ∀ id (t : Task), s.tasks[id]? = some t → s.nextTask ≠ id := fun id t ht heq =>
    Nat.lt_irrefl _ (heq ▸ hs.id_lt id t ht)
  obtain ⟨-, hexists, hcycles⟩ := of_rejection_eq_none hrejected
  have hpending : (s.takenUp unit chain).Pending unit :=
    ⟨(entered_entering unit chain none unit).mpr (.inl rfl),
      (outcome?_takenUp hledger hnew unit).trans (outcome?_eq_none hnew), hexists, hcycles⟩
  constructor
  case id_lt =>
    intro id t ht
    rw [tasks_takenUp] at ht
    split at ht
    next heq => exact heq ▸ Nat.lt_succ_self _
    next => exact Nat.lt_succ_of_lt (hs.id_lt id t ht)
  case handles =>
    intro id t ht handle hh
    rw [tasks_takenUp] at ht
    split at ht
    next =>
      cases ht
      cases hh
    next => exact (hs.handles id t ht handle hh).mono hlater.journal
  case pending =>
    intro id v hstarts
    rw [starts_takenUp] at hstarts
    split at hstarts
    next => exact hstarts ▸ hpending
    next =>
      have hold := hs.pending id v hstarts
      exact hold.later hlater ((outcome?_takenUp hledger hnew v).trans hold.unresolved)
  case unique =>
    intro id id' v hid hid'
    rw [starts_takenUp] at hid hid'
    split at hid <;> split at hid'
    next heq heq' => exact heq.symm.trans heq'
    next => exact absurd (hs.pending id' v hid').entered (hid ▸ hnew)
    next => exact absurd (hs.pending id v hid).entered (hid' ▸ hnew)
    next => exact hs.unique id id' v hid hid'
  case exists_start =>
    intro v hv hnone
    rcases (entered_entering unit chain none v).mp hv with heq | hv
    · exact ⟨s.nextTask, starts_takenUp.mpr (by rw [if_pos rfl]; exact heq)⟩
    · rw [outcome?_takenUp hledger hnew] at hnone
      obtain ⟨id, hid⟩ := hs.exists_start v hv hnone
      obtain ⟨_, _, ht⟩ := hid
      exact ⟨id, starts_takenUp.mpr (by rw [if_neg (hne id _ ht)]; exact ⟨_, _, ht⟩)⟩
  case phase =>
    intro id v chain' phase hid hfocus
    rw [tasks_takenUp] at hid
    split at hid
    next heq =>
      cases hid
      refine ⟨fun hb => hnew (hledger.begun _ ((hbegun _).mp hb)).1, .inl ?_⟩
      exact List.mem_append_right _ (List.mem_singleton.mpr heq.symm)
    next =>
      obtain ⟨hstage, hawake⟩ := hs.phase id v chain' phase hid hfocus
      refine ⟨hstage.later hlater (hbegun v).mp, ?_⟩
      refine hawake.mono (Nat.le_refl _) (fun hrun => hrun.imp_left (List.mem_append_left _))
        (fun _ ha => .inl ha) (fun _ _ ht => .inl ht) fun handle rest _ ho => ?_
      rw [outcome?_takenUp hledger hnew] at ho
      exact .inl ho
  case focus =>
    refine hs.focus.later (Nat.le_succ _) (fun id v hid => ?_) hbegun
    rw [starts_takenUp, if_neg]
    exact fun heq => Nat.lt_irrefl _ (heq ▸ hs.focus_lt hid)

/-! ## Requests -/

theorem Leads.enter (hs : Leads s₀ f s) (hnew : ¬ s.Entered unit) :
    Leads s₀ f (s.enter unit chain).2 := by
  rw [Init.enter]
  cases hrejected : s.rejection? unit chain with
  | some e => exact (hs.turnedDown hnew hrejected).quiet (quiet_say (.rejected e))
  | none =>
    have hlater : s.Later (s.takenUp unit chain) := later_takenUp hs.ledger hnew
    exact ⟨hs.later.trans hlater, (ledger_entering chain hs.ledger hnew).same rfl rfl rfl,
      hs.workflow.takenUp hs.ledger hnew hrejected⟩

theorem Leads.request (hs : Leads s₀ f s) (unit : String) (chain : List String) :
    Leads s₀ f (s.request unit chain).2 := by
  rw [Init.request]
  split
  next h hsubscribed =>
    obtain ⟨rfl, hsender⟩ := Readiness.subscribe?_eq_some_iff.mp hsubscribed
    exact hs.joined hsender
  next hnone =>
    refine hs.enter ?_
    rintro ⟨channel, hsender⟩
    rw [Readiness.subscribe?_eq_none_iff] at hnone
    cases hnone.symm.trans hsender

theorem request_handle (s : Init σ) (unit : String) (chain : List String) :
    (s.request unit chain).1.unit = unit ∧
      Requested (s.request unit chain).2.journal (s.request unit chain).1 := by
  rw [Init.request]
  split
  next h hsubscribed =>
    exact ⟨(Readiness.subscribe?_eq_some_iff.mp hsubscribed).1, requested_cons.mpr (.inl ⟨_, rfl⟩)⟩
  next =>
    rw [Init.enter]
    have hgiven : Requested (s.entering unit chain (((s.rejection? unit chain).map .error))).journal
        ⟨unit, s.readiness.next⟩ := requested_cons.mpr (.inl ⟨_, rfl⟩)
    cases hrejected : s.rejection? unit chain with
    | some e =>
      rw [hrejected] at hgiven
      exact ⟨rfl, hgiven.mono ((List.suffix_cons _ _).trans (List.suffix_cons _ _))⟩
    | none =>
      rw [hrejected] at hgiven
      exact ⟨rfl, hgiven⟩

theorem Leads.requestAll (chain : List String) (units : List String) (hs : Leads s₀ f s) :
    Leads s₀ f (s.requestAll chain units).2 ∧ (s.requestAll chain units).1.map Handle.unit = units ∧
      ∀ h ∈ (s.requestAll chain units).1, Requested (s.requestAll chain units).2.journal h := by
  induction units generalizing s₀ s with
  | nil => exact ⟨hs, rfl, by simp [Init.requestAll]⟩
  | cons unit units ih =>
    obtain ⟨hunit, hgiven⟩ := s.request_handle unit chain
    have hfirst := hs.request unit chain
    obtain ⟨hrest, hunits, hhandles⟩ := ih hfirst.restart
    rw [Init.requestAll]
    refine ⟨hrest.after hfirst.later, ?_, ?_⟩
    · rw [List.map_cons, hunit, hunits]
    · intro h hh
      rcases List.mem_cons.mp hh with rfl | hh
      · exact hgiven.mono hrest.later.journal
      · exact hhandles h hh

end InitDaemon.Init
