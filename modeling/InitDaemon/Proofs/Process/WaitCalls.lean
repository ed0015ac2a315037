import InitDaemon.Simulation.Machine
import Mathlib.Data.List.Induction

/-!
# What the kernel tells of children is reported once

Both ways of waiting for children repeat a call of the kernel until it gives an answer that is to be
reported. So the answers of the kernel are reported in their order, each once, and no answer is
taken from the kernel beyond the one that is reported. What is not reported is a stop or a
continuation, and for a blocking wait an interruption as well.
-/

namespace InitDaemon

/-! ## Repeated calls -/

section

variable {σ α β : Type}

/-- Calls in a row from one state to another, with their answers. -/
inductive Gives (call : σ → α × σ) : σ → List α → σ → Prop
  | nil (s : σ) : Gives call s [] s
  | cons {s mid s' : σ} {a : α} {answers : List α} (hcall : call s = (a, mid))
      (hrest : Gives call mid answers s') : Gives call s (a :: answers) s'

/-- The loop makes the call until an answer is to be reported. -/
def Repeats (call : σ → α × σ) (report? : α → Option β) (loop : σ → β × σ) : Prop :=
  ∀ s, loop s = match report? (call s).1 with
    | some b => (b, (call s).2)
    | none => loop (call s).2

variable {call : σ → α × σ} {report? : α → Option β} {loop : σ → β × σ} {s mid s' t : σ} {a : α}
  {b : β} {answers more passed : List α} {reports : List β}

theorem Gives.split (h : Gives call s (answers ++ more) s') :
    ∃ mid, Gives call s answers mid ∧ Gives call mid more s' := by
  induction answers generalizing s with
  | nil => exact ⟨s, .nil s, h⟩
  | cons a answers ih =>
    cases h with
    | cons hcall hrest =>
      obtain ⟨mid, hanswers, hmore⟩ := ih hrest
      exact ⟨mid, .cons hcall hanswers, hmore⟩

theorem Gives.of_eq (heq : loop s = loop t) (hne : reports ≠ []) (h : Gives loop t reports s') :
    Gives loop s reports s' := by
  cases h with
  | nil => exact absurd rfl hne
  | cons hcall hrest => exact .cons (heq.trans hcall) hrest

/-- Answers are cut after the last one that is to be reported. -/
theorem exists_last_reported (report? : α → Option β) (answers : List α) :
    ∃ told rest, answers = told ++ rest ∧ (∀ x ∈ told.getLast?, (report? x).isSome) ∧
      ∀ x ∈ rest, report? x = none := by
  induction answers using List.reverseRecOn with
  | nil => exact ⟨[], [], rfl, by simp, by simp⟩
  | append_singleton answers a ih =>
    cases ha : report? a with
    | some b => exact ⟨answers ++ [a], [], by simp, by simp [ha], by simp⟩
    | none =>
      obtain ⟨told, rest, rfl, hlast, hrest⟩ := ih
      refine ⟨told, rest ++ [a], by simp, hlast, ?_⟩
      rw [List.forall_mem_append, List.forall_mem_singleton]
      exact ⟨hrest, ha⟩

theorem filterMap_ne_nil (ha : a ∈ answers.getLast?) (hsome : (report? a).isSome) :
    answers.filterMap report? ≠ [] := by
  intro hnil
  rw [List.filterMap_eq_nil_iff] at hnil
  rw [hnil a (List.mem_of_getLast? ha)] at hsome
  cases hsome

namespace Repeats

variable (hloop : Repeats call report? loop)

include hloop

theorem of_some (hcall : call s = (a, mid)) (ha : report? a = some b) : loop s = (b, mid) := by
  rw [hloop s, hcall, ha]

theorem of_none (hcall : call s = (a, mid)) (ha : report? a = none) : loop s = loop mid := by
  rw [hloop s, hcall, ha]

/-- One run of the loop takes the answers up to the first that is to be reported. -/
theorem report (hgives : Gives call s (passed ++ [a]) s') (hpassed : ∀ x ∈ passed, report? x = none)
    (ha : report? a = some b) : loop s = (b, s') := by
  induction passed generalizing s with
  | nil =>
    cases hgives with
    | cons hcall hrest =>
      cases hrest
      exact hloop.of_some hcall ha
  | cons x passed ih =>
    rw [List.forall_mem_cons] at hpassed
    cases hgives with
    | cons hcall hrest =>
      rw [hloop.of_none hcall hpassed.1]
      exact ih hrest hpassed.2

/-- Runs in a row report all that is to be reported. -/
theorem reportAll (hgives : Gives call s answers s')
    (hlast : ∀ x ∈ answers.getLast?, (report? x).isSome) :
    Gives loop s (answers.filterMap report?) s' := by
  induction hgives with
  | nil s => exact .nil s
  | @cons s mid s' a answers hcall hrest ih =>
    cases answers with
    | nil =>
      cases hrest
      obtain ⟨b, ha⟩ := Option.isSome_iff_exists.mp (hlast a rfl)
      rw [List.filterMap_cons_some ha]
      exact .cons (hloop.of_some hcall ha) (.nil mid)
    | cons next answers =>
      have hrest' := ih hlast
      cases ha : report? a with
      | some b =>
        rw [List.filterMap_cons_some ha]
        exact .cons (hloop.of_some hcall ha) hrest'
      | none =>
        have hend : answers.getLast?.getD next ∈ (next :: answers).getLast? := List.getLast?_cons
        rw [List.filterMap_cons_none ha]
        exact hrest'.of_eq (hloop.of_none hcall ha) (filterMap_ne_nil hend (hlast _ hend))

end Repeats

end

/-! ## The two ways of waiting -/

/-- What a wait call tells, if it can be read. -/
def readAnswer (answer : Except Errno WaitAnswer) : Except Errno ChildChange :=
  answer.bind WaitAnswer.change

theorem readAnswer_ok (a : WaitAnswer) : readAnswer (.ok a) = a.change := rfl

def Blocking.map {α β : Type} (f : α → β) : Blocking α → Blocking β
  | .never => .never
  | .at time answer => .at time (f answer)

namespace Kernel

variable {σ : Type} [Kernel σ]

/-- What a look for any child tells. -/
def look (s : σ) : Except Errno ChildChange × σ :=
  (readAnswer (waitAny s).1, (waitAny s).2)

/-- What a blocking wait for a child tells. -/
def await (pid : Pid) (s : σ) : Blocking (Except Errno ChildChange) × σ :=
  ((waitFor pid s).1.map readAnswer, (waitFor pid s).2)

/-- What is reported of a look: everything but stops and continuations. -/
def found? : Except Errno ChildChange → Option (Except Errno (Option (Pid × ExitStatus)))
  | .ok (.ended pid status) => some (.ok (some (pid, status)))
  | .ok .unchanged => some (.ok none)
  | .ok (.stopped _) | .ok (.continued _) => none
  | .error e => some (.error e)

/-- What is reported of a blocking wait: an end, and every error but an interruption. -/
def status? : Blocking (Except Errno ChildChange) → Option (Blocking (Except Errno ExitStatus))
  | .never => some .never
  | .at time (.ok (.ended _ status)) => some (.at time (.ok status))
  | .at _ (.ok _) | .at _ (.error .EINTR) => none
  | .at time (.error e) => some (.at time (.error e))

theorem look_eq {s s' : σ} {answer : Except Errno WaitAnswer} (h : waitAny s = (answer, s')) :
    look s = (readAnswer answer, s') := by
  rw [look, h]

theorem await_eq {pid : Pid} {s s' : σ} {answer : Blocking (Except Errno WaitAnswer)}
    (h : waitFor pid s = (answer, s')) : await pid s = (answer.map readAnswer, s') := by
  rw [await, h]

theorem repeats_tryWaitAny : Repeats look found? (tryWaitAny (σ := σ)) := by
  intro s
  rw [tryWaitAny]
  split
  next e s' h => rw [look_eq h]; rfl
  next a s' h =>
    rw [look_eq h, readAnswer_ok]
    split
    all_goals next hc => simp only [hc, found?]

/-- No status word is an interruption. -/
theorem change_ne_interrupted (a : WaitAnswer) : a.change ≠ .error .EINTR := by
  rw [WaitAnswer.change, WaitAnswer.namedSignal, WaitAnswer.namedSignal]
  split_ifs <;> simp [Except.map]

theorem repeats_waitBlocking (pid : Pid) :
    Repeats (await pid) status? (waitBlocking (σ := σ) pid) := by
  intro s
  rw [waitBlocking]
  split
  next s' h => rw [await_eq h]; rfl
  next t s' h => rw [await_eq h]; rfl
  next t e s' hother h =>
    rw [await_eq h]
    cases e
    case EINTR => exact (hother rfl).elim
    all_goals rfl
  next t a s' h =>
    rw [await_eq h]
    rw [Blocking.map, readAnswer_ok]
    cases hchange : a.change with
    | error e =>
      have hne : e ≠ .EINTR := fun heq => change_ne_interrupted a (heq ▸ hchange)
      cases e
      case EINTR => exact absurd rfl hne
      all_goals rfl
    | ok change => cases change <;> rfl

/-- Waiting loses and repeats nothing that the kernel tells. A look reports the first answer that is
neither a stop nor a continuation and takes no answer after it, so looks in a row report all such
answers in their order. A blocking wait ends with the first end of a child or error other than an
interruption, whatever it is told before, and takes no answer after it. -/
theorem waiting_reports_each (s : σ) :
    (∀ passed answer report s', Gives look s (passed ++ [answer]) s' →
      (∀ x ∈ passed, found? x = none) → found? answer = some report →
      tryWaitAny s = (report, s')) ∧
    (∀ answers s', Gives look s answers s' → ∃ told rest mid, answers = told ++ rest ∧
      (∀ x ∈ told.getLast?, (found? x).isSome) ∧ (∀ x ∈ rest, found? x = none) ∧
      Gives look s told mid ∧ Gives tryWaitAny s (answers.filterMap found?) mid ∧
      Gives look mid rest s') ∧
    (∀ pid passed answer report s', Gives (await pid) s (passed ++ [answer]) s' →
      (∀ x ∈ passed, status? x = none) → status? answer = some report →
      waitBlocking pid s = (report, s')) := by
  refine ⟨fun passed answer report s' h hpassed hanswer => ?_, fun answers s' h => ?_,
    fun pid passed answer report s' h hpassed hanswer => ?_⟩
  · exact repeats_tryWaitAny.report h hpassed hanswer
  · obtain ⟨told, rest, rfl, hlast, hrest⟩ := exists_last_reported found? answers
    obtain ⟨mid, htold, hafter⟩ := h.split
    refine ⟨told, rest, mid, rfl, hlast, hrest, htold, ?_, hafter⟩
    rw [List.filterMap_append, List.filterMap_eq_nil_iff.mpr hrest, List.append_nil]
    exact repeats_tryWaitAny.reportAll htold hlast
  · exact (repeats_waitBlocking pid).report h hpassed hanswer

end Kernel

/-! ## Answers of a machine in memory -/

namespace Simulation.Machine

variable {told rest : List (Except Errno WaitAnswer)}

/-- Any answers at all can be told to those who look. -/
theorem gives_look (m : Machine) : Gives Kernel.look { m with answers := told ++ rest }
    (told.map readAnswer) { m with answers := rest } := by
  induction told with
  | nil => exact .nil _
  | cons answer told ih => exact .cons rfl ih

theorem gives_await (pid : Pid) (m : Machine) :
    Gives (Kernel.await pid) { m with answers := told ++ rest }
      (told.map fun answer => .at m.clock (readAnswer answer)) { m with answers := rest } := by
  induction told with
  | nil => exact .nil _
  | cons answer told ih => exact .cons rfl ih

/-- A stop, an exit with code 3, nothing new, an interruption, a continuation, and a death by
signal 9 with a core dump. -/
def mixed : List (Except Errno WaitAnswer) :=
  [.ok ⟨7, 20 * 256 + 127⟩, .ok ⟨7, 3 * 256⟩, .ok ⟨0, 0⟩, .error .EINTR, .ok ⟨8, 256 * 256 - 1⟩,
    .ok ⟨8, 9 + 128⟩]

theorem mixed_reported_each :
    Kernel.tryWaitAny ({ answers := mixed } : Machine) =
      (.ok (some (7, .exited 3)), { answers := mixed.drop 2 }) ∧
    (∃ mid, Gives Kernel.tryWaitAny ({ answers := mixed } : Machine)
      [.ok (some (7, .exited 3)), .ok none, .error .EINTR, .ok (some (8, .signaled 9))] mid) ∧
    Kernel.waitBlocking 8 ({ answers := mixed.drop 2 ++ [.error .ECHILD] } : Machine) =
      (.at 0 (.ok (.signaled 9)), { answers := [.error .ECHILD] }) := by
  obtain ⟨-, hall, -⟩ := Kernel.waiting_reports_each ({ answers := mixed ++ [] } : Machine)
  obtain ⟨hone, -, -⟩ :=
    Kernel.waiting_reports_each ({ answers := mixed.take 2 ++ mixed.drop 2 } : Machine)
  obtain ⟨-, -, hblocking⟩ :=
    Kernel.waiting_reports_each ({ answers := mixed.drop 2 ++ [.error .ECHILD] } : Machine)
  refine ⟨?_, ?_, ?_⟩
  · exact hone [.ok (.stopped 7)] (.ok (.ended 7 (.exited 3))) _ _ (gives_look {})
      (by decide) rfl
  · obtain ⟨told, rest, mid, -, -, -, -, hreports, -⟩ := hall _ _ (gives_look {})
    exact ⟨mid, hreports⟩
  · exact hblocking 8 [.at 0 (.ok .unchanged), .at 0 (.error .EINTR), .at 0 (.ok (.continued 8))]
      (.at 0 (.ok (.ended 8 (.signaled 9)))) _ _ (gives_await 8 {}) (by decide) rfl

end Simulation.Machine

end InitDaemon
