import InitDaemon.Proofs.Process.Ticks
import Mathlib.Data.Fin.Basic
import Mathlib.Data.List.FinRange
import Mathlib.Data.List.Induction

/-!
# The crash history

The tracker drops a crash once a later one comes `window` or more after it, and forgets all crashes
of a unit that it parks. Its answers are nevertheless those that the whole history of its calls
gives: which earlier crashes count is a question about all crashes since the last cool-down, and
whether a unit is parked is a question about its last cool-down and the calls after it.

A crash that calls for a cool-down beyond the last instant gets no answer. Its unit's crashes are
forgotten as in a cool-down, and when the unit is due stays as it was.
-/

namespace InitDaemon.CrashTracker

open Std

inductive Call
  | crash (unit : String) (time : Nat)
  | due (time : Nat)
deriving DecidableEq, Repr

/-- A call with its answer, which a crash may lack. -/
inductive Event
  | crashed (unit : String) (time : Nat) (decision : Option RestartDecision)
  | taken (time : Nat) (units : List String)
deriving DecidableEq, Repr

def respond (t : CrashTracker) : Call → Event × CrashTracker
  | .crash unit time => (.crashed unit time (t.recordCrash unit time).1, (t.recordCrash unit time).2)
  | .due time => (.taken time (t.takeDue time).1, (t.takeDue time).2)

/-- The events of a sequence of calls, latest first, and the tracker after them. -/
def replay (t : CrashTracker) (calls : List Call) : List Event × CrashTracker :=
  calls.foldl (fun (events, t) call => ((t.respond call).1 :: events, (t.respond call).2)) ([], t)

/-! ## What a history tells -/

namespace Event

def call : Event → Call
  | .crashed unit time _ => .crash unit time
  | .taken time _ => .due time

def crashOf? (unit : String) : Event → Option Nat
  | .crashed other time _ => if other = unit then some time else none
  | .taken .. => none

def coolDownOf? (unit : String) : Event → Option Nat
  | .crashed other _ (some (.coolDown deadline)) => if other = unit then some deadline else none
  | .crashed _ _ (some .restart) | .crashed _ _ none | .taken .. => none

/-- Whether the crashes of a unit are forgotten: at a cool-down, and where there is no answer. -/
def forgets (unit : String) : Event → Bool
  | .crashed other _ (some (.coolDown _)) | .crashed other _ none => other == unit
  | .crashed _ _ (some .restart) | .taken .. => false

def takenAt? : Event → Option Nat
  | .crashed .. => none
  | .taken time _ => some time

/-- What an event tells of a unit. -/
def about? (unit : String) : Event → Option Event
  | .crashed other time decision =>
    if other = unit then some (.crashed other time decision) else none
  | .taken time units => some (.taken time (if unit ∈ units then [unit] else []))

end Event

def Call.Concerns (unit : String) : Call → Prop
  | .crash other _ => other = unit
  | .due _ => True

instance (unit : String) : DecidablePred (Call.Concerns unit)
  | .crash other _ => inferInstanceAs (Decidable (other = unit))
  | .due _ => inferInstanceAs (Decidable True)

/-- The events after the last cool-down of a unit. -/
def sinceCoolDown (unit : String) (events : List Event) : List Event :=
  events.takeWhile fun event => event.coolDownOf? unit = none

/-- The crashes of a unit since they were last forgotten, latest first. -/
def crashesSince (unit : String) (events : List Event) : List Nat :=
  (events.takeWhile fun event => !event.forgets unit).filterMap (Event.crashOf? unit)

/-- What a crash at `last` after `earlier` ones, latest first, is judged by: one, and one more for
each earlier crash that all later ones followed in less than `window`. -/
def countAt (window : Nat) (earlier : List Nat) (last : Nat) : Nat :=
  1 + (List.finRange earlier.length).countP fun i =>
    (∀ j < i, earlier[j] - earlier[i] < window) ∧ last - earlier[i] < window

/-- The answer to a crash, which is missing where no instant holds the end of the cool-down. -/
def decisionAt (window threshold cooldown : Nat) (earlier : List Nat) (last : Nat) :
    Option RestartDecision :=
  if threshold ≤ countAt window earlier last then
    if last + cooldown ≤ lastInstant then some (.coolDown (last + cooldown)) else none
  else some .restart

/-- What counts against a unit. Once its crashes are forgotten there are none. -/
def countAfter (window : Nat) (unit : String) (events : List Event) : Nat :=
  match crashesSince unit events with
  | [] => 0
  | last :: earlier => countAt window earlier last

/-- The end of the last cool-down of a unit, unless a later call took it as over. -/
def pendingAfter (unit : String) (events : List Event) : Option Nat :=
  (events.findSome? (Event.coolDownOf? unit)).filter fun deadline =>
    ((sinceCoolDown unit events).filterMap Event.takenAt?).all (· < deadline)

/-- An answer is the one that the events before it call for. -/
def Answers (window threshold cooldown : Nat) (past : List Event) : Event → Prop
  | .crashed unit time decision =>
    decision = decisionAt window threshold cooldown (crashesSince unit past) time
  | .taken time units => units.Pairwise (· < ·) ∧
    ∀ unit, unit ∈ units ↔ ∃ deadline, pendingAfter unit past = some deadline ∧ deadline ≤ time

variable {window threshold cooldown time deadline : Nat} {unit other : String} {t t' : CrashTracker}
  {units : List String} {events : List Event} {call : Call}

section History

variable {event : Event}

theorem crashesSince_of_keeps (h : event.forgets unit = false) :
    crashesSince unit (event :: events) =
      (event.crashOf? unit).toList ++ crashesSince unit events := by
  simp only [crashesSince, List.takeWhile_cons, h, Bool.not_false, if_true, List.filterMap_cons]
  cases event.crashOf? unit <;> rfl

theorem crashesSince_of_forgets (h : event.forgets unit = true) :
    crashesSince unit (event :: events) = [] := by
  simp [crashesSince, h]

theorem pendingAfter_of_none (h : event.coolDownOf? unit = none) :
    pendingAfter unit (event :: events) =
      (pendingAfter unit events).filter fun deadline => event.takenAt?.all (· < deadline) := by
  simp only [pendingAfter, sinceCoolDown, List.takeWhile_cons, List.findSome?_cons, h, decide_true,
    if_true, List.filterMap_cons, Option.filter_filter]
  congr 1
  funext deadline
  cases event.takenAt? with
  | none => simp
  | some time => simp [Bool.and_comm]

theorem pendingAfter_of_crash (h : event.coolDownOf? unit = none) (htaken : event.takenAt? = none) :
    pendingAfter unit (event :: events) = pendingAfter unit events := by
  rw [pendingAfter_of_none h, htaken]
  cases pendingAfter unit events <;> rfl

theorem pendingAfter_of_some (h : event.coolDownOf? unit = some deadline) :
    pendingAfter unit (event :: events) = some deadline := by
  simp [pendingAfter, sinceCoolDown, h]

end History

/-! ## The crashes that are kept -/

/-- The crashes, latest first, that no later one has pushed out of the window. -/
def kept (window : Nat) : List Nat → List Nat
  | [] => []
  | last :: earlier => last :: (kept window earlier).filter fun crash => last - crash < window

theorem countP_kept (p : Nat → Bool) (times : List Nat) : (kept window times).countP p =
    (List.finRange times.length).countP fun i =>
      (∀ j < i, times[j] - times[i] < window) ∧ p times[i] := by
  induction times generalizing p with
  | nil => rfl
  | cons last earlier ih =>
    -- The first place is the last crash. All other places see it as a later one.
    rw [kept, List.countP_cons, List.countP_filter, ih]
    have hplaces : List.finRange (last :: earlier).length =
        0 :: (List.finRange earlier.length).map Fin.succ := List.finRange_succ
    rw [hplaces, List.countP_cons, List.countP_map]
    congr 1
    · refine List.countP_congr fun i _ => ?_
      have hlater : (∀ j < i.succ, (last :: earlier)[j] - earlier[i] < window) ↔
          last - earlier[i] < window ∧ ∀ j < i, earlier[j] - earlier[i] < window := by
        rw [Fin.forall_fin_succ]
        simp
      simp only [Function.comp_apply, decide_eq_true_eq, Bool.and_eq_true]
      change _ ↔ (∀ j < i.succ, (last :: earlier)[j] - earlier[i] < window) ∧ p earlier[i] = true
      rw [hlater]
      tauto
    · simp

theorem length_kept_cons (last : Nat) (earlier : List Nat) :
    (kept window (last :: earlier)).length = countAt window earlier last := by
  rw [kept, List.length_cons, ← List.countP_eq_length_filter, countP_kept, countAt, Nat.add_comm]
  simp

/-- The tracker holds what the history tells. -/
structure Reflects (t : CrashTracker) (events : List Event) : Prop where
  crashes : ∀ unit, t.crashesOf unit = (kept t.window (crashesSince unit events)).reverse
  parked : ∀ unit, t.deadline? unit = pendingAfter unit events

theorem recentCrashes_eq (h : t.Reflects events) : t.recentCrashes unit time =
    (kept t.window (time :: crashesSince unit events)).reverse := by
  rw [recentCrashes, h.crashes, kept, List.reverse_cons, List.filter_reverse]

theorem length_recentCrashes (h : t.Reflects events) : (t.recentCrashes unit time).length =
    countAt t.window (crashesSince unit events) time := by
  rw [recentCrashes_eq h, List.length_reverse, length_kept_cons]

theorem crashCount_eq (h : t.Reflects events) : t.crashCount unit =
    countAfter t.window unit events := by
  rw [crashCount, h.crashes, List.length_reverse, countAfter]
  cases crashesSince unit events with
  | nil => rfl
  | cons last earlier => exact length_kept_cons last earlier

/-! ## One call -/

/-- A call keeps what the tracker is set to. -/
structure SameSettings (t t' : CrashTracker) : Prop where
  window : t'.window = t.window
  threshold : t'.threshold = t.threshold
  cooldown : t'.cooldown = t.cooldown

theorem sameSettings_judge : t.SameSettings (t.judge unit time).2 := by
  rw [judge]
  split <;> exact ⟨rfl, rfl, rfl⟩

theorem sameSettings_respond : t.SameSettings (t.respond call).2 := by
  cases call with
  | crash unit time =>
    have hjudged : t.SameSettings (t.judge unit time).2 := sameSettings_judge
    simp only [respond, recordCrash]
    split
    next heq => rwa [heq] at hjudged
    next heq =>
      rw [heq] at hjudged
      split
      · exact hjudged
      · exact ⟨hjudged.window, hjudged.threshold, hjudged.cooldown⟩
  | due time => exact ⟨rfl, rfl, rfl⟩

/-- As long as an instant holds the end of its cool-down, a crash is answered as if times did not
end. -/
theorem recordCrash_eq_judge (h : time + t.cooldown ≤ lastInstant) :
    t.recordCrash unit time = (some (t.judge unit time).1, (t.judge unit time).2) := by
  by_cases hfew : (t.recentCrashes unit time).length < t.threshold
  · rw [recordCrash, judge_of_lt hfew]
  · rw [recordCrash, judge_of_le (Nat.not_lt.mp hfew)]
    exact if_pos h

theorem recordCrash_of_few (h : (t.recentCrashes unit time).length < t.threshold) :
    t.recordCrash unit time =
      (some .restart,
        { t with history := t.history.insert unit (t.recentCrashes unit time) }) := by
  rw [recordCrash, judge_of_lt h]

theorem recordCrash_of_many (h : t.threshold ≤ (t.recentCrashes unit time).length)
    (hfits : time + t.cooldown ≤ lastInstant) :
    t.recordCrash unit time =
      (some (.coolDown (time + t.cooldown)),
        { t with
          history := t.history.insert unit []
          parked := t.parked.insert unit (time + t.cooldown) }) := by
  rw [recordCrash_eq_judge hfits, judge_of_le h]

theorem recordCrash_of_late (h : t.threshold ≤ (t.recentCrashes unit time).length)
    (hlate : ¬ time + t.cooldown ≤ lastInstant) :
    t.recordCrash unit time = (none, { t with history := t.history.insert unit [] }) := by
  rw [recordCrash, judge_of_le h]
  exact if_neg hlate

theorem crashesOf_insert (t : CrashTracker) (unit other : String) (crashes : List Nat)
    (parked : ExtTreeMap String Nat) :
    { t with history := t.history.insert unit crashes, parked := parked }.crashesOf other =
      if unit = other then crashes else t.crashesOf other := by
  simp only [crashesOf, ExtTreeMap.getElem?_insert, Std.compare_eq_iff_eq]
  split <;> rfl

theorem reflects_restart (h : t.Reflects events) :
    { t with history := t.history.insert unit (t.recentCrashes unit time) }.Reflects
      (.crashed unit time (some .restart) :: events) where
  crashes other := by
    rw [crashesOf_insert, crashesSince_of_keeps rfl, Event.crashOf?]
    by_cases hunit : unit = other
    · subst hunit
      rw [if_pos rfl, if_pos rfl]
      exact recentCrashes_eq h
    · rw [if_neg hunit, if_neg hunit]
      exact h.crashes other
  parked other := by
    rw [pendingAfter_of_crash rfl rfl]
    exact h.parked other

/-- The crashes of a unit that are forgotten are no longer kept. -/
theorem crashesOf_forgotten (h : t.Reflects events) (parked : ExtTreeMap String Nat)
    {answer : Option RestartDecision}
    (hforgets : ∀ other, (Event.crashed unit time answer).forgets other = (unit == other))
    (other : String) :
    { t with history := t.history.insert unit [], parked := parked }.crashesOf other =
      (kept t.window (crashesSince other (.crashed unit time answer :: events))).reverse := by
  rw [crashesOf_insert]
  by_cases hunit : unit = other
  · rw [if_pos hunit, crashesSince_of_forgets ((hforgets other).trans (beq_iff_eq.mpr hunit))]
    rfl
  · rw [if_neg hunit, crashesSince_of_keeps ((hforgets other).trans (beq_eq_false_iff_ne.mpr hunit)),
      Event.crashOf?, if_neg hunit]
    exact h.crashes other

theorem reflects_coolDown (h : t.Reflects events) :
    { t with
      history := t.history.insert unit []
      parked := t.parked.insert unit deadline }.Reflects
      (.crashed unit time (some (.coolDown deadline)) :: events) where
  crashes := crashesOf_forgotten h _ fun _ => rfl
  parked other := by
    rw [deadline?, ExtTreeMap.getElem?_insert]
    by_cases hunit : unit = other
    · have hevent : (Event.crashed unit time (some (.coolDown deadline))).coolDownOf? other =
          some deadline := if_pos hunit
      rw [pendingAfter_of_some hevent, if_pos (Std.compare_eq_iff_eq.mpr hunit)]
    · have hevent : (Event.crashed unit time (some (.coolDown deadline))).coolDownOf? other = none :=
        if_neg hunit
      rw [pendingAfter_of_crash hevent rfl, if_neg (mt Std.compare_eq_iff_eq.mp hunit)]
      exact h.parked other

theorem reflects_unanswered (h : t.Reflects events) :
    { t with history := t.history.insert unit [] }.Reflects
      (.crashed unit time none :: events) where
  crashes := crashesOf_forgotten h _ fun _ => rfl
  parked other := by
    rw [pendingAfter_of_crash rfl rfl]
    exact h.parked other

theorem reflects_due (h : t.Reflects events) :
    (t.takeDue time).2.Reflects (.taken time units :: events) where
  crashes unit := by
    rw [crashesSince_of_keeps rfl]
    exact h.crashes unit
  parked unit := by
    rw [pendingAfter_of_none rfl, ← h.parked]
    exact deadline?_takeDue

theorem pairwise_dueUnits : (t.dueUnits time).Pairwise (· < ·) :=
  (ExtTreeMap.ordered_keys (t := t.parked.filter fun _ deadline => deadline ≤ time)).imp
    fun {a b} (h : compareOfLessAndEq a b = .lt) => compareOfLessAndEq_eq_lt.mp h

/-- A tracker that holds what the history tells answers by it and takes its own answer into it. -/
theorem respond_spec (h : t.Reflects events) (call : Call) :
    Answers t.window t.threshold t.cooldown events (t.respond call).1 ∧
      (t.respond call).2.Reflects ((t.respond call).1 :: events) := by
  cases call with
  | crash unit time =>
    simp only [respond, Answers, decisionAt]
    rw [← length_recentCrashes h]
    by_cases hfew : (t.recentCrashes unit time).length < t.threshold
    · rw [if_neg (Nat.not_le.mpr hfew), recordCrash_of_few hfew]
      exact ⟨rfl, reflects_restart h⟩
    · have hmany := Nat.not_lt.mp hfew
      rw [if_pos hmany]
      by_cases hfits : time + t.cooldown ≤ lastInstant
      · rw [if_pos hfits, recordCrash_of_many hmany hfits]
        exact ⟨rfl, reflects_coolDown h⟩
      · rw [if_neg hfits, recordCrash_of_late hmany hfits]
        exact ⟨rfl, reflects_unanswered h⟩
  | due time =>
    refine ⟨⟨pairwise_dueUnits, fun unit => ?_⟩, reflects_due h⟩
    rw [← h.parked]
    exact mem_dueUnits

/-! ## All calls -/

theorem replay_concat (t : CrashTracker) (calls : List Call) (call : Call) :
    t.replay (calls ++ [call]) =
      (((t.replay calls).2.respond call).1 :: (t.replay calls).1,
        ((t.replay calls).2.respond call).2) := by
  simp [replay]

theorem reflects_replay (window threshold cooldown : Nat) (calls : List Call) :
    let tracker : CrashTracker := { window, threshold, cooldown }
    SameSettings tracker (tracker.replay calls).2 ∧
      (tracker.replay calls).2.Reflects (tracker.replay calls).1 := by
  intro tracker
  induction calls using List.reverseRecOn with
  | nil =>
    refine ⟨⟨rfl, rfl, rfl⟩, fun unit => ?_, fun unit => ?_⟩
    · exact congrArg (Option.getD · []) ExtTreeMap.getElem?_empty
    · exact ExtTreeMap.getElem?_empty
  | append_singleton calls call ih =>
    obtain ⟨hsame, h⟩ := ih
    rw [replay_concat]
    have hnext : SameSettings _ ((tracker.replay calls).2.respond call).2 := sameSettings_respond
    exact ⟨⟨hnext.window.trans hsame.window, hnext.threshold.trans hsame.threshold,
      hnext.cooldown.trans hsame.cooldown⟩, (respond_spec h call).2⟩

theorem call_respond (t : CrashTracker) (call : Call) : (t.respond call).1.call = call := by
  cases call <;> rfl

theorem calls_replay (t : CrashTracker) (calls : List Call) :
    ((t.replay calls).1.map Event.call).reverse = calls := by
  induction calls using List.reverseRecOn with
  | nil => rfl
  | append_singleton calls call ih =>
    rw [replay_concat, List.map_cons, List.reverse_cons, ih, call_respond]

theorem answers_replay (window threshold cooldown : Nat) (calls : List Call) (event : Event)
    (past : List Event)
    (h : event :: past <:+ (replay { window, threshold, cooldown } calls).1) :
    Answers window threshold cooldown past event := by
  induction calls using List.reverseRecOn with
  | nil => exact absurd (List.suffix_nil.mp h) (List.cons_ne_nil _ _)
  | append_singleton calls call ih =>
    rw [replay_concat] at h
    rcases List.suffix_cons_iff.mp h with heq | hpast
    · obtain ⟨rfl, rfl⟩ := List.cons.inj heq
      obtain ⟨hsame, hreflects⟩ := reflects_replay window threshold cooldown calls
      have hanswers := (respond_spec hreflects call).1
      rwa [hsame.window, hsame.threshold, hsame.cooldown] at hanswers
    · exact ih hpast

/-! ## Other units -/

section Independence

variable {event event' : Event}

/-- Two events that a unit's part of a history cannot tell apart. -/
structure Alike (unit : String) (event event' : Event) : Prop where
  coolDown : event'.coolDownOf? unit = event.coolDownOf? unit
  forgets : event'.forgets unit = event.forgets unit
  crash : event'.crashOf? unit = event.crashOf? unit
  taken : event'.takenAt? = event.takenAt?

theorem alike_about (h : event.about? unit = some event') : Alike unit event event' := by
  cases event with
  | crashed other time answer =>
    by_cases hunit : other = unit
    · simp only [Event.about?, hunit, if_true, Option.some.injEq] at h
      subst h hunit
      exact ⟨rfl, rfl, rfl, rfl⟩
    · simp [Event.about?, hunit] at h
  | taken time units =>
    simp only [Event.about?, Option.some.injEq] at h
    subst h
    exact ⟨rfl, rfl, rfl, rfl⟩

/-- An event that tells nothing of a unit: the crash of another one. -/
theorem about?_eq_none (h : event.about? unit = none) :
    event.coolDownOf? unit = none ∧ event.forgets unit = false ∧ event.crashOf? unit = none ∧
      event.takenAt? = none := by
  cases event with
  | crashed other time answer =>
    have hunit : other ≠ unit := fun hunit => by simp [Event.about?, hunit] at h
    rcases answer with _ | _ | _ <;>
      simp [Event.coolDownOf?, Event.forgets, Event.crashOf?, Event.takenAt?, hunit]
  | taken time units => simp [Event.about?] at h

/-- The crashes of a unit are read off what the events tell of it. -/
theorem crashesSince_about (unit : String) (events : List Event) :
    crashesSince unit (events.filterMap (Event.about? unit)) = crashesSince unit events := by
  induction events with
  | nil => rfl
  | cons event events ih =>
    cases habout : event.about? unit with
    | none =>
      obtain ⟨-, hkeeps, hcrash, -⟩ := about?_eq_none habout
      rw [List.filterMap_cons_none habout, crashesSince_of_keeps hkeeps, hcrash]
      exact ih
    | some event' =>
      have halike := alike_about habout
      rw [List.filterMap_cons_some habout]
      cases hforgets : event.forgets unit with
      | true =>
        rw [crashesSince_of_forgets hforgets,
          crashesSince_of_forgets (halike.forgets.trans hforgets)]
      | false =>
        rw [crashesSince_of_keeps hforgets, crashesSince_of_keeps (halike.forgets.trans hforgets),
          halike.crash, ih]

/-- So is the end of its cool-down. -/
theorem pendingAfter_about (unit : String) (events : List Event) :
    pendingAfter unit (events.filterMap (Event.about? unit)) = pendingAfter unit events := by
  induction events with
  | nil => rfl
  | cons event events ih =>
    cases habout : event.about? unit with
    | none =>
      obtain ⟨hcool, -, -, htaken⟩ := about?_eq_none habout
      rw [List.filterMap_cons_none habout, pendingAfter_of_crash hcool htaken, ih]
    | some event' =>
      have halike := alike_about habout
      rw [List.filterMap_cons_some habout]
      cases hcool : event.coolDownOf? unit with
      | none =>
        rw [pendingAfter_of_none hcool, pendingAfter_of_none (halike.coolDown.trans hcool),
          halike.taken, ih]
      | some deadline =>
        rw [pendingAfter_of_some hcool, pendingAfter_of_some (halike.coolDown.trans hcool)]

theorem told_eq {past past' : List Event}
    (h : past'.filterMap (Event.about? unit) = past.filterMap (Event.about? unit)) :
    crashesSince unit past' = crashesSince unit past ∧
      pendingAfter unit past' = pendingAfter unit past := by
  rw [← crashesSince_about unit past, ← pendingAfter_about unit past, ← h]
  exact ⟨(crashesSince_about unit past').symm, (pendingAfter_about unit past').symm⟩

theorem about?_of_not_concerns (h : ¬ call.Concerns unit) :
    (t.respond call).1.about? unit = none := by
  cases call with
  | crash other time => exact if_neg h
  | due time => exact absurd trivial h

/-- Two trackers whose histories tell the same of a unit answer alike about it. -/
theorem about?_respond {past past' : List Event} (hsame : SameSettings t t') (ht : t.Reflects past)
    (ht' : t'.Reflects past')
    (h : past'.filterMap (Event.about? unit) = past.filterMap (Event.about? unit)) :
    (t'.respond call).1.about? unit = (t.respond call).1.about? unit := by
  obtain ⟨hcrashes, hpending⟩ := told_eq h
  cases call with
  | crash other time =>
    by_cases hunit : other = unit
    · subst hunit
      have hanswer : (t.recordCrash other time).1 = _ := (respond_spec ht (.crash other time)).1
      have hanswer' : (t'.recordCrash other time).1 = _ := (respond_spec ht' (.crash other time)).1
      rw [respond, respond, hanswer, hanswer', hcrashes, hsame.window, hsame.threshold,
        hsame.cooldown]
    · have hother : ¬ (Call.crash other time).Concerns unit := hunit
      rw [about?_of_not_concerns hother, about?_of_not_concerns hother]
  | due time =>
    have hmem := ((respond_spec ht (.due time)).1.2 unit)
    have hmem' := ((respond_spec ht' (.due time)).1.2 unit)
    rw [hpending, ← hmem] at hmem'
    simp only [respond, Event.about?, Option.some.injEq, Event.taken.injEq, true_and]
    exact if_congr hmem' rfl rfl

theorem about_replay (window threshold cooldown : Nat) (calls : List Call) (unit : String) :
    let tracker : CrashTracker := { window, threshold, cooldown }
    (tracker.replay (calls.filter (Call.Concerns unit))).1.filterMap (Event.about? unit) =
      (tracker.replay calls).1.filterMap (Event.about? unit) := by
  intro tracker
  induction calls using List.reverseRecOn with
  | nil => rfl
  | append_singleton calls call ih =>
    rw [List.filter_append, replay_concat, List.filterMap_cons]
    by_cases hconcerns : call.Concerns unit
    · obtain ⟨hsame, hreflects⟩ := reflects_replay window threshold cooldown calls
      obtain ⟨hsame', hreflects'⟩ := reflects_replay window threshold cooldown
        (calls.filter (Call.Concerns unit))
      have hsettings : SameSettings (tracker.replay calls).2
          (tracker.replay (calls.filter (Call.Concerns unit))).2 :=
        ⟨hsame'.window.trans hsame.window.symm, hsame'.threshold.trans hsame.threshold.symm,
          hsame'.cooldown.trans hsame.cooldown.symm⟩
      rw [List.filter_singleton, decide_eq_true hconcerns, cond_true, replay_concat,
        List.filterMap_cons, about?_respond hsettings hreflects hreflects' ih, ih]
    · rw [List.filter_singleton, decide_eq_false hconcerns, cond_false, List.append_nil,
        about?_of_not_concerns hconcerns]
      exact ih

end Independence

/-- The longest duration. Its seconds are an unsigned number of 64 bits. -/
def longestDuration : Nat :=
  0xffffffffffffffff * 1000 + 999

/-- A unit that crashes twice in a window of ten is parked. The crash of another unit and the call
that comes before the end of the cool-down change nothing of it. -/
example :
    (replay { window := 10, threshold := 2, cooldown := 5 }
      [.crash "web" 3, .crash "cron" 7, .crash "web" 12, .due 16, .due 17]).1 =
    [.taken 17 ["web"], .taken 16 [], .crashed "web" 12 (some (.coolDown 17)),
      .crashed "cron" 7 (some .restart), .crashed "web" 3 (some .restart)] := by
  decide +kernel

end InitDaemon.CrashTracker
