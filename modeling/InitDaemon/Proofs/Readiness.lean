import InitDaemon.Readiness

/-!
# Channels and handles

As long as every unit is entered once, each has a channel of its own: what is sent on it reaches
the unit's handles and no others, and a handle that was given stays open.
-/

namespace InitDaemon.Readiness

open Std

/-- Each unit has a channel of its own. -/
structure Consistent (r : Readiness) : Prop where
  lt_next : ∀ (unit : String) (channel : Channel), r.senders[unit]? = some channel →
    channel < r.next
  injective : ∀ (unit unit' : String) (channel : Channel), r.senders[unit]? = some channel →
    r.senders[unit']? = some channel → unit = unit'

variable {r : Readiness} {unit unit' : String} {h : Handle} {channel : Channel}

theorem consistent_empty : Consistent {} :=
  ⟨by simp, by simp⟩

theorem subscribe?_eq_some_iff :
    r.subscribe? unit = some h ↔ h.unit = unit ∧ r.senders[unit]? = some h.channel := by
  obtain ⟨handleUnit, handleChannel⟩ := h
  rw [subscribe?, Option.map_eq_some_iff]
  constructor
  · rintro ⟨channel, hsender, heq⟩
    cases heq
    exact ⟨rfl, hsender⟩
  · rintro ⟨rfl, hsender⟩
    exact ⟨handleChannel, hsender, rfl⟩

theorem subscribe?_eq_none_iff : r.subscribe? unit = none ↔ r.senders[unit]? = none := by
  rw [subscribe?, Option.map_eq_none_iff]

theorem outcomeOf?_eq (hsender : r.senders[unit]? = some channel) :
    r.outcomeOf? unit = r.values[channel]?.join := by
  simp [outcomeOf?, subscribe?, hsender, outcome?]

theorem outcomeOf?_eq_none (hunit : r.senders[unit]? = none) : r.outcomeOf? unit = none := by
  rw [outcomeOf?, subscribe?_eq_none_iff.mpr hunit, Option.bind_none]

/-! ## Entering a unit -/

theorem senders_enter (value : Option Outcome) :
    (r.enter unit value).2.senders[unit']? =
      if unit = unit' then some r.next else r.senders[unit']? := by
  simp [enter, ExtTreeMap.getElem?_insert]

theorem Consistent.enter (hr : r.Consistent) (value : Option Outcome) :
    (r.enter unit value).2.Consistent := by
  have hlt : ∀ (unit' : String) (channel : Channel),
      (r.enter unit value).2.senders[unit']? = some channel →
        unit = unit' ∧ channel = r.next ∨ channel < r.next ∧ r.senders[unit']? = some channel := by
    intro unit' channel hsender
    rw [senders_enter] at hsender
    split at hsender
    · exact .inl ⟨‹_›, (Option.some.inj hsender).symm⟩
    · exact .inr ⟨hr.lt_next _ _ hsender, hsender⟩
  constructor
  · intro unit' channel hsender
    rcases hlt unit' channel hsender with ⟨-, rfl⟩ | ⟨hlt, -⟩
    · exact Nat.lt_succ_self r.next
    · exact Nat.lt_succ_of_lt hlt
  · intro u u' channel hsender hsender'
    rcases hlt u channel hsender with ⟨rfl, heq⟩ | ⟨hchannel, hold⟩ <;>
      rcases hlt u' channel hsender' with ⟨rfl, heq'⟩ | ⟨hchannel', hold'⟩
    · rfl
    · exact absurd (heq ▸ hchannel') (Nat.lt_irrefl _)
    · exact absurd (heq' ▸ hchannel) (Nat.lt_irrefl _)
    · exact hr.injective u u' channel hold hold'

theorem outcomeOf?_enter (hr : r.Consistent) (value : Option Outcome) :
    (r.enter unit value).2.outcomeOf? unit' =
      if unit = unit' then value else r.outcomeOf? unit' := by
  split
  next heq =>
    have hsender : (r.enter unit value).2.senders[unit']? = some r.next := by
      rw [senders_enter, if_pos heq]
    rw [outcomeOf?_eq hsender]
    simp [enter]
  next hne =>
    cases hsender : r.senders[unit']? with
    | none =>
      rw [outcomeOf?_eq_none hsender, outcomeOf?_eq_none]
      rw [senders_enter, if_neg hne, hsender]
    | some channel =>
      have hlt : channel ≠ r.next := Nat.ne_of_lt (hr.lt_next _ _ hsender)
      have hsender' : (r.enter unit value).2.senders[unit']? = some channel := by
        rw [senders_enter, if_neg hne, hsender]
      rw [outcomeOf?_eq hsender, outcomeOf?_eq hsender']
      simp [enter, ExtTreeMap.getElem?_insert, hlt.symm]

/-! ## Sending an outcome -/

theorem Consistent.send (hr : r.Consistent) (channel : Channel) (o : Outcome) :
    (r.send channel o).Consistent :=
  ⟨hr.lt_next, hr.injective⟩

theorem outcomeOf?_send (hr : r.Consistent) (hunit : r.senders[unit]? = some channel)
    (o : Outcome) :
    (r.send channel o).outcomeOf? unit' = if unit = unit' then some o else r.outcomeOf? unit' := by
  split
  next heq =>
    have hsender : (r.send channel o).senders[unit']? = some channel := heq ▸ hunit
    rw [outcomeOf?_eq hsender]
    simp [send]
  next hne =>
    cases hsender : r.senders[unit']? with
    | none =>
      rw [outcomeOf?_eq_none hsender, outcomeOf?_eq_none (r := r.send channel o) hsender]
    | some channel' =>
      have hne' : channel ≠ channel' := by
        rintro rfl
        exact hne (hr.injective _ _ _ hunit hsender)
      rw [outcomeOf?_eq hsender, outcomeOf?_eq (r := r.send channel o) hsender]
      simp [send, ExtTreeMap.getElem?_insert, hne']

/-! ## Handles -/

theorem outcome?_handle (h : Handle) (hopen : r.senders[h.unit]? = some h.channel) :
    r.outcome? h = r.outcomeOf? h.unit := by
  rw [outcomeOf?_eq hopen, outcome?]

/-- Whoever waits with such a handle gets the outcome and nothing else. -/
theorem wait?_handle (h : Handle) (hopen : r.senders[h.unit]? = some h.channel) :
    r.wait? h = r.outcomeOf? h.unit := by
  rw [← outcome?_handle h hopen, wait?, arrival]
  cases hout : r.outcome? h with
  | some o => simp
  | none => simp [isOpen, hopen]

/-! ## The end of all channels -/

/-- Nobody waits for ever: who has no outcome once the sending ends are gone learns that there will
be none. -/
theorem wait?_abandon (r : Readiness) (h : Handle) :
    r.abandon.wait? h = some ((r.outcome? h).getD (.error (.abandoned h.unit))) := by
  have hkept : r.abandon.outcome? h = r.outcome? h := rfl
  have hclosed : r.abandon.isOpen h = false := by simp [isOpen, abandon]
  rw [wait?, arrival, hkept, hclosed]
  cases r.outcome? h <;> rfl

end InitDaemon.Readiness
