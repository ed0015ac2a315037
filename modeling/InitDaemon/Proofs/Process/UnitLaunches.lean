import InitDaemon.Proofs.Process.Traced
import InitDaemon.Proofs.Units.WrittenFiles

/-!
# Launching what a file defines

A unit that is read from a file either has nothing to run or its command has words. So its launch
is one call of the kernel, with words as arguments, and its answer is the answer of the kernel.
-/

namespace InitDaemon

open Text InitDaemon.Units

theorem wordsOf_ne_nil {line : String} (h : IsCommandLine line) : wordsOf line ≠ [] := by
  intro hnone
  rw [wordsOf, List.map_eq_nil_iff] at hnone
  have hfirst := head?_trim line.toList
  rw [trim_eq_self h.first h.last, hnone, List.head?_nil, Option.bind_none,
    List.head?_eq_none_iff] at hfirst
  exact h.ne_nil hfirst

theorem token_of_mem_wordsOf {line word : String} (h : word ∈ wordsOf line) : IsToken word := by
  obtain ⟨w, hw, rfl⟩ := List.mem_map.mp h
  exact token_of_mem_words hw

/-- Only an empty command line is refused as one. -/
theorem Kernel.spawn_ne_emptyCommand {σ : Type} [Kernel σ] {argv : List String} (h : argv ≠ [])
    (env : List String) (m : σ) : (Kernel.spawn argv env m).1 ≠ .error .emptyCommand := by
  rw [Kernel.spawn, if_neg (by simpa using h)]
  split
  next e hnul =>
    rw [rejectNul] at hnul
    split at hnul
    · cases hnul
      simp
    · cases hnul
  next =>
    dsimp only
    cases (Kernel.fork argv env m).1 <;> simp [Except.mapError]

namespace World

variable {σ : Type} [Platform σ]

theorem spawn_answer (argv env : List String) (w : World σ) :
    (w.spawn argv env).1 = (Platform.spawn w.now argv env w.machine).1 := by
  simp only [spawn]
  split <;> rfl

theorem calls_spawn (argv env : List String) (w : World (Traced σ)) :
    (w.spawn argv env).2.calls = ⟨w.now, .spawn argv (w.spawn argv env).1⟩ :: w.calls := by
  rw [spawn_answer]
  simp only [spawn]
  split <;> rfl

end World

namespace Supervisor

variable {σ : Type} [Platform σ]

/-- A command with words is handed to the machine. -/
theorem spawn_of_words {command : String} (h : wordsOf command ≠ []) (s : Supervisor σ) :
    (s.spawn command).1 = (s.toWorld.spawn (wordsOf command) s.config.env).1 ∧
    (s.spawn command).2.machine = (s.toWorld.spawn (wordsOf command) s.config.env).2.machine := by
  obtain ⟨program, args, hwords⟩ := List.exists_cons_of_ne_nil h
  rw [spawn, hwords]
  dsimp only
  split
  all_goals next heq => rw [heq]; exact ⟨rfl, rfl⟩

theorem launchService_of_reach {u : UnitDef} (h : u.start = .reach) (unit : String)
    (s : Supervisor σ) : s.launchService unit u = (.ok none, s.say (.targetReached unit)) := by
  rw [launchService, UnitDef.execStart?, h]

theorem launchService_of_command {u : UnitDef} {line : String} (h : u.start = .command line)
    (unit : String) (s : Supervisor σ) :
    (s.launchService unit u).1 = (s.spawn line).1.map some ∧
    (s.launchService unit u).2.machine = (s.spawn line).2.machine := by
  rw [launchService, UnitDef.execStart?, h]
  dsimp only
  split
  all_goals next heq => rw [heq]; exact ⟨rfl, rfl⟩

/-- What the launch of a unit asks of the kernel and gives back: nothing and nothing, or what one
call gives that is made with the words of the command. -/
def LaunchesPlainly (unit : String) (u : UnitDef) (s : Supervisor (Traced σ)) : Prop :=
  (u.start = .reach ∧ (s.launchService unit u).1 = .ok none ∧
    (s.launchService unit u).2.calls = s.calls) ∨
  ∃ line argv answer, u.start = .command line ∧ argv = wordsOf line ∧
    argv ≠ [] ∧ (∀ word ∈ argv, IsToken word) ∧
    (s.launchService unit u).2.calls = ⟨s.now, .spawn argv answer⟩ :: s.calls ∧
    (s.launchService unit u).1 = answer.map some

theorem launchesPlainly {u : UnitDef} (h : IsExpressible u) (unit : String)
    (s : Supervisor (Traced σ)) : s.LaunchesPlainly unit u := by
  rcases h.start with hreach | ⟨line, hcommand, hline⟩
  · refine .inl ⟨hreach, ?_⟩
    rw [launchService_of_reach hreach]
    exact ⟨rfl, rfl⟩
  · obtain ⟨hanswer, hmachine⟩ := launchService_of_command hcommand unit s
    obtain ⟨hspawned, hmachine'⟩ := spawn_of_words (wordsOf_ne_nil hline) s
    refine .inr ⟨line, wordsOf line, _, hcommand, rfl, wordsOf_ne_nil hline,
      fun word => token_of_mem_wordsOf, ?_, hanswer.trans (congrArg (Except.map some) hspawned)⟩
    rw [World.calls, hmachine, hmachine']
    exact World.calls_spawn (wordsOf line) s.config.env s.toWorld

/-- On the kernel itself no unit of a file is refused for an empty command. -/
theorem launchService_ne_emptyCommand {σ : Type} [Files σ] [Kernel σ] {u : UnitDef}
    (h : IsExpressible u) (unit : String) (s : Supervisor (Direct σ)) :
    (s.launchService unit u).1 ≠ .error .emptyCommand := by
  rcases h.start with hreach | ⟨line, hcommand, hline⟩
  · rw [launchService_of_reach hreach]
    simp
  · have hne := Kernel.spawn_ne_emptyCommand (wordsOf_ne_nil hline) s.config.env
      (Kernel.setTime s.now s.machine.machine)
    have hspawn : (s.spawn line).1 = (Kernel.spawn (wordsOf line) s.config.env
        (Kernel.setTime s.now s.machine.machine)).1 :=
      (spawn_of_words (wordsOf_ne_nil hline) s).1.trans (World.spawn_answer _ _ _)
    rw [(launchService_of_command hcommand unit s).1]
    intro herror
    cases hanswer : (s.spawn line).1 with
    | ok pid =>
      rw [hanswer] at herror
      cases herror
    | error e =>
      rw [hanswer] at herror
      cases herror
      exact hne (hspawn.symm.trans hanswer)

/-- Files define the units whose dependencies are words and whose command, if they have one, stands
on one line without blanks around it, all of them and no others. Such a unit can always be
launched: with no call of the kernel, or with one call whose arguments are words. -/
theorem file_units_launch_plainly :
    (∀ u : UnitDef, (∃ content, parse content = u) ↔ IsExpressible u) ∧
    (∀ content b, (parse content).start ≠ .builtin b) ∧
    (∀ content unit, ∀ (σ : Type) [Platform σ] (s : Supervisor (Traced σ)),
      s.LaunchesPlainly unit (parse content)) ∧
    ∀ content unit, ∀ (σ : Type) [Files σ] [Kernel σ] (s : Supervisor (Direct σ)),
      (s.launchService unit (parse content)).1 ≠ .error .emptyCommand := by
  refine ⟨fun u => exists_parse_eq_iff, fun content b hbuiltin => ?_,
    fun content unit σ _ s => launchesPlainly (isExpressible_parse content) unit s,
    fun content unit σ _ _ s => launchService_ne_emptyCommand (isExpressible_parse content) unit s⟩
  rcases (isExpressible_parse content).start with hreach | ⟨line, hcommand, -⟩
  · rw [hreach] at hbuiltin
    cases hbuiltin
  · rw [hcommand] at hbuiltin
    cases hbuiltin

end Supervisor

end InitDaemon
