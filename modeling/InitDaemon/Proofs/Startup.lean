import InitDaemon.Program
import InitDaemon.Proofs.Init.Operation

/-!
# The start of the program

The init that the program boots has come out of a fresh one by moves of its own. All that was said
before is about arguments and unit files.
-/

namespace InitDaemon

open Std InitDaemon.Units

namespace Units.Loading

def SaysAside (l : Loading) : Prop :=
  ∀ n ∈ l.notices, (Entry.notice n).IsAside

namespace SaysAside

variable {l : Loading}

theorem say {notices : List Notice} (hl : l.SaysAside)
    (h : ∀ n ∈ notices, (Entry.notice n).IsAside) : (l.say notices).SaysAside :=
  List.forall_mem_append.mpr ⟨hl, h⟩

theorem addFile (hl : l.SaysAside) (path : String) (file : String × FileContent) :
    (l.addFile path file).SaysAside := by
  obtain ⟨name, content | content⟩ := file
  · simp only [Loading.addFile]
    split
    · exact hl.say (List.forall_mem_singleton.mpr trivial)
    · exact hl
  · have hinserted : ∀ n ∈ l.graph.insertNotices name, (Entry.notice n).IsAside := by
      rw [Graph.insertNotices]
      split
      · exact List.forall_mem_singleton.mpr trivial
      · exact List.forall_mem_nil _
    simp only [Loading.addFile]
    split
    · exact hl.say hinserted
    · exact hl

theorem addDirectory (hl : l.SaysAside) (d : Directory) : (l.addDirectory d).SaysAside := by
  have hread : ∀ n ∈ d.notices, (Entry.notice n).IsAside := by
    rw [Directory.notices]
    split
    · exact List.forall_mem_nil _
    · exact List.forall_mem_singleton.mpr trivial
  exact List.foldlRecOn _ _ (hl.say hread) fun _ hl file _ => hl.addFile d.path file

theorem finish (hl : l.SaysAside) : l.finish.SaysAside := by
  have hshadowed : ∀ n ∈ l.graph.shadowNotices, (Entry.notice n).IsAside := by
    rintro n hn
    obtain ⟨b, -, rfl⟩ := List.mem_map.mp hn
    trivial
  exact hl.say (List.forall_mem_cons.mpr ⟨trivial, hshadowed⟩)

end SaysAside

theorem saysAside_buildGraph (dirs : List Directory) : (buildGraph dirs).SaysAside := by
  have hempty : SaysAside {} := List.forall_mem_nil _
  have hread : (dirs.foldl Loading.addDirectory {}).SaysAside :=
    List.foldlRecOn _ _ hempty fun _ hl d _ => hl.addDirectory d
  exact hread.finish

end Units.Loading

namespace Program

theorem greeting_aside (isFirstProcess : Bool) (kernelArguments : List String) :
    ∀ n ∈ greeting isFirstProcess kernelArguments, (Entry.notice n).IsAside := by
  rw [greeting]
  refine List.forall_mem_append.mpr ⟨?_, ?_⟩
  · split
    · exact List.forall_mem_nil _
    · exact List.forall_mem_singleton.mpr trivial
  · split
    · exact List.forall_mem_nil _
    · exact List.forall_mem_singleton.mpr trivial

/-- What is proved of runs from a fresh init is true of the program. -/
theorem action_operates {σ : Type} [Platform σ] {arguments : List String} {dirs : List Directory}
    {isFirstProcess : Bool} {machine : σ} {s : Init σ} {root : TaskId}
    (h : action arguments dirs isFirstProcess machine = .boot s root) :
    ∃ notices : List Notice, (∀ n ∈ notices, (Entry.notice n).IsAside) ∧
      (Init.fresh {} (buildGraph dirs).graph machine notices).Operates s := by
  rw [action] at h
  split at h
  next => cases h
  next => cases h
  next mode kernelArguments _ =>
    dsimp only at h
    split at h
    next => cases h
    next =>
      cases h
      refine ⟨greeting isFirstProcess kernelArguments ++ (buildGraph dirs).notices, ?_,
        [.boot, .watch, .supervise true], ?_, rfl⟩
      · exact List.forall_mem_append.mpr ⟨greeting_aside _ _, Loading.saysAside_buildGraph dirs⟩
      · exact ⟨rfl, trivial, trivial, trivial⟩

end Program

end InitDaemon
