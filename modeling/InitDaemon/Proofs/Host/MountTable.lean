import InitDaemon.Proofs.Host.Watched
import InitDaemon.Proofs.Text.Pieces

/-!
# The mount table

What is relied on of a machine that lists its mounts in a table: a new mount adds a line, and
nothing else takes a mount point away. A table that is missing appears with the file system that
holds it. Under these rules a watched machine is in order as long as no new mount is made on a
target that is listed.
-/

namespace InitDaemon

open Text

/-- A mount table can show the call. -/
structure MountCall.IsPlain (c : MountCall) : Prop where
  source : IsToken c.source
  target : IsToken c.target
  fstype : IsToken c.fstype

namespace Host

variable {σ : Type} [Files σ] {states : σ → Prop} {m m' : σ} {c : MountCall} {p : String}

/-! ## What a table lists -/

/-- A line of the mount table that is about the mount. -/
def TableLine (c : MountCall) (line : String) : Prop :=
  ∃ rest : String, '\n' ∉ rest.toList ∧ line = c.source ++ " " ++ c.target ++ " " ++ rest

omit [Files σ] in
theorem TableLine.words {line : String} (h : TableLine c line) (hc : c.IsPlain) :
    '\n' ∉ line.toList ∧ (words line.toList)[1]? = some c.target.toList := by
  obtain ⟨rest, hrest, rfl⟩ := h
  have hsource := not_mem_of_token hc.source
  have htarget := not_mem_of_token hc.target
  constructor
  · simp [hsource, htarget, hrest]
  · have hline : (c.source ++ " " ++ c.target ++ " " ++ rest).toList =
        c.source.toList ++ ' ' :: (c.target.toList ++ ' ' :: rest.toList) := by
      simp
    rw [hline, words_append_cons (by decide), words_append_cons (by decide),
      words_of_word hc.source.1 hc.source.2, words_of_word hc.target.1 hc.target.2]
    rfl

theorem listedMountPoints_append {text line : String} (h : Terminated text) (hc : c.IsPlain)
    (hline : TableLine c line) :
    listedMountPoints (text ++ (line ++ "\n")) = listedMountPoints text ++ [c.target] := by
  obtain ⟨hplain, htarget⟩ := hline.words hc
  rw [listedMountPoints, lines_append_line h hplain, List.filterMap_append, ← listedMountPoints]
  simp [words_dropReturn, htarget]

def Lists (m : σ) (p : String) : Prop :=
  ∃ text, Files.readText mountTable m = .ok text ∧ p ∈ listedMountPoints text

def HasTable (m : σ) : Prop :=
  ∃ text, Files.readText mountTable m = .ok text ∧ Terminated text

def LacksTable (m : σ) : Prop :=
  Files.readText mountTable m = .error (.errno .ENOENT) ∧ isMountPoint "/proc" m = false

theorem HasTable.isMountPoint_iff (h : HasTable m) : isMountPoint p m = true ↔ Lists m p := by
  obtain ⟨text, htext, -⟩ := h
  simp [isMountPoint, Lists, htext]

theorem LacksTable.not_lists (h : LacksTable m) : ¬ Lists m p := by
  rintro ⟨text, htext, -⟩
  cases h.1.symm.trans htext

/-! ## The rules -/

/-- Nothing was mounted between the two states. -/
structure KeepsTable (states : σ → Prop) (m m' : σ) : Prop where
  states : states m'
  text : Files.readText mountTable m' = Files.readText mountTable m
  lacks : LacksTable m → LacksTable m'

/-- What is relied on of a machine in the states that it can be in. -/
structure MountRules (states : σ → Prop) : Prop where
  makeDirectory : ∀ path m, states m → KeepsTable states m (Files.makeDirectory path m).2
  makeNode : ∀ node m, states m → KeepsTable states m (Files.makeNode node m).2
  makeLink : ∀ target link m, states m → KeepsTable states m (Files.makeLink target link m).2
  refused : ∀ c m e, states m → (Files.mount c m).1 = .error e →
    KeepsTable states m (Files.mount c m).2
  mounted : ∀ c m text, states m → c.IsPlain → c.flags.remount = false →
    Files.readText mountTable m = .ok text → (Files.mount c m).1 = .ok () →
      states (Files.mount c m).2 ∧ ∃ line, TableLine c line ∧
        Files.readText mountTable (Files.mount c m).2 = .ok (text ++ (line ++ "\n"))
  remounted : ∀ c m text, states m → c.IsPlain → c.flags.remount = true →
    Files.readText mountTable m = .ok text → Terminated text → (Files.mount c m).1 = .ok () →
      states (Files.mount c m).2 ∧ ∃ text', Terminated text' ∧
        Files.readText mountTable (Files.mount c m).2 = .ok text' ∧
          ∀ p ∈ listedMountPoints text, p ∈ listedMountPoints text'
  appears : ∀ c m, states m → c.IsPlain → c.flags.remount = false → c.target = "/proc" →
    LacksTable m → (Files.mount c m).1 = .ok () →
      states (Files.mount c m).2 ∧ ∃ text line, Terminated text ∧ TableLine c line ∧
        Files.readText mountTable (Files.mount c m).2 = .ok (text ++ (line ++ "\n"))

theorem KeepsTable.lists_iff (h : KeepsTable states m m') : Lists m' p ↔ Lists m p := by
  simp only [Lists, h.text]

theorem KeepsTable.hasTable (h : KeepsTable states m m') (hm : HasTable m) : HasTable m' := by
  obtain ⟨text, htext, hterminated⟩ := hm
  exact ⟨text, h.text.trans htext, hterminated⟩

/-- What a mount that succeeds does to the table. -/
structure Mounts (states : σ → Prop) (c : MountCall) (m m' : σ) : Prop where
  states : states m'
  table : HasTable m'
  lists : ∀ p, Lists m p → Lists m' p
  target : c.flags.remount = false → Lists m' c.target

theorem MountRules.mounts (hrules : MountRules states) (hm : states m) (hc : c.IsPlain)
    (htable : HasTable m ∨ LacksTable m ∧ c.target = "/proc" ∧ c.flags.remount = false)
    (hok : (Files.mount c m).1 = .ok ()) : Mounts states c m (Files.mount c m).2 := by
  have hadded {text line : String} (hterminated : Terminated text) (hline : TableLine c line)
      (htext : Files.readText mountTable (Files.mount c m).2 = .ok (text ++ (line ++ "\n")))
      (hstates : states (Files.mount c m).2)
      (hlists : ∀ p, Lists m p → p ∈ listedMountPoints text) :
      Mounts states c m (Files.mount c m).2 := by
    have hlisted := listedMountPoints_append hterminated hc hline
    refine ⟨hstates, ⟨_, htext, .append_line text line⟩, fun p hp => ⟨_, htext, ?_⟩,
      fun _ => ⟨_, htext, ?_⟩⟩
    · rw [hlisted]
      exact List.mem_append_left _ (hlists p hp)
    · rw [hlisted]
      exact List.mem_append_right _ (List.mem_singleton_self _)
  rcases htable with ⟨text, htext, hterminated⟩ | ⟨hlacks, htarget, hnew⟩
  · have hlists : ∀ p, Lists m p → p ∈ listedMountPoints text := by
      rintro p ⟨text', htext', hp⟩
      cases htext.symm.trans htext'
      exact hp
    cases hremount : c.flags.remount with
    | false =>
      obtain ⟨hstates, line, hline, hread⟩ := hrules.mounted c m text hm hc hremount htext hok
      exact hadded hterminated hline hread hstates hlists
    | true =>
      obtain ⟨hstates, text', hterminated', hread, hkept⟩ :=
        hrules.remounted c m text hm hc hremount htext hterminated hok
      exact ⟨hstates, ⟨text', hread, hterminated'⟩,
        fun p hp => ⟨text', hread, hkept p (hlists p hp)⟩,
        fun hnew => by cases hremount.symm.trans hnew⟩
  · obtain ⟨hstates, text, line, hterminated, hline, hread⟩ :=
      hrules.appears c m hm hc hnew htarget hlacks hok
    exact hadded hterminated hline hread hstates fun p hp => absurd hp hlacks.not_lists

/-! ## Machines in order -/

/-- The target of a new mount that succeeded. -/
def newTarget? : FileCall → Option String
  | .mount c (.ok ()) => if c.flags.remount then none else some c.target
  | _ => none

/-- The targets of the new mounts that succeeded, the latest first. -/
def newTargets (calls : List (SeenCall σ)) : List String :=
  calls.filterMap fun r => newTarget? r.call

/-- No new mount was made on a target that was listed, and those that succeeded are listed. -/
structure Orderly (states : σ → Prop) (w : Watched σ) : Prop where
  states : states w.machine
  table : HasTable w.machine ∨ LacksTable w.machine
  unlisted : ∀ r ∈ w.calls, ∀ c answer, r.call = .mount c answer → c.flags.remount = false →
    ¬ Lists r.before c.target
  listed : ∀ p ∈ newTargets w.calls, Lists w.machine p
  nodup : (newTargets w.calls).Nodup

variable {w w' w'' : Watched σ} {made made' : FileCall → Prop}

theorem Orderly.hasTable (h : Orderly states w) (hp : Lists w.machine p) : HasTable w.machine :=
  h.table.resolve_right fun hlacks => hlacks.not_lists hp

theorem Orderly.isMountPoint_iff (h : Orderly states w) (hp : HasTable w.machine ∨ p = "/proc") :
    isMountPoint p w.machine = true ↔ Lists w.machine p := by
  rcases h.table with htable | hlacks
  · exact htable.isMountPoint_iff
  · rcases hp with htable | rfl
    · exact htable.isMountPoint_iff
    · exact iff_of_false (by rw [hlacks.2]; decide) hlacks.not_lists

/-- The machine has come on by calls of a kind, and is in order. -/
structure Onward (states : σ → Prop) (made : FileCall → Prop) (w w' : Watched σ) : Prop where
  orderly : Orderly states w'
  lists : ∀ p, Lists w.machine p → Lists w'.machine p
  calls : ∃ new, w'.calls = new ++ w.calls ∧
    ∀ r ∈ new, made r.call ∧ ∀ p, Lists w.machine p → Lists r.before p

namespace Onward

theorem refl (h : Orderly states w) : Onward states made w w :=
  ⟨h, fun _ => id, [], rfl, List.forall_mem_nil _⟩

theorem trans (h : Onward states made w w') (h' : Onward states made w' w'') :
    Onward states made w w'' where
  orderly := h'.orderly
  lists p hp := h'.lists p (h.lists p hp)
  calls := by
    obtain ⟨new, heq, hnew⟩ := h.calls
    obtain ⟨new', heq', hnew'⟩ := h'.calls
    refine ⟨new' ++ new, by rw [heq', heq, List.append_assoc], fun r hr => ?_⟩
    rcases List.mem_append.mp hr with hr | hr
    · exact ⟨(hnew' r hr).1, fun p hp => (hnew' r hr).2 p (h.lists p hp)⟩
    · exact hnew r hr

theorem mono (h : Onward states made w w') (hmade : ∀ call, made call → made' call) :
    Onward states made' w w' where
  orderly := h.orderly
  lists := h.lists
  calls := by
    obtain ⟨new, heq, hnew⟩ := h.calls
    exact ⟨new, heq, fun r hr => ⟨hmade _ (hnew r hr).1, (hnew r hr).2⟩⟩

end Onward

/-- The machine has come on by calls of a kind, and nothing was mounted. -/
structure Still (states : σ → Prop) (made : FileCall → Prop) (w w' : Watched σ) : Prop
    extends Onward states made w w' where
  keeps : KeepsTable states w.machine w'.machine

namespace Still

theorem refl (h : Orderly states w) : Still states made w w where
  toOnward := .refl h
  keeps := ⟨h.states, rfl, id⟩

theorem trans (h : Still states made w w') (h' : Still states made w' w'') :
    Still states made w w'' where
  toOnward := h.toOnward.trans h'.toOnward
  keeps := ⟨h'.keeps.states, h'.keeps.text.trans h.keeps.text,
    fun hlacks => h'.keeps.lacks (h.keeps.lacks hlacks)⟩

theorem mono (h : Still states made w w') (hmade : ∀ call, made call → made' call) :
    Still states made' w w' where
  toOnward := h.toOnward.mono hmade
  keeps := h.keeps

end Still

/-! ## One call -/

/-- A call that mounts nothing keeps the machine in order. -/
theorem Orderly.still (h : Orderly states w) (call : FileCall)
    (hkeeps : KeepsTable states w.machine m') (hmade : made call)
    (hunlisted : ∀ c answer, call = .mount c answer → c.flags.remount = false →
      ¬ Lists w.machine c.target)
    (hquiet : newTarget? call = none) :
    Still states made w ⟨m', ⟨w.machine, call⟩ :: w.calls⟩ := by
  have htargets : newTargets (⟨w.machine, call⟩ :: w.calls) = newTargets w.calls := by
    simp only [newTargets, List.filterMap_cons, hquiet]
  refine ⟨⟨⟨hkeeps.states, ?_, ?_, ?_, ?_⟩, ?_, ?_⟩, hkeeps⟩
  · exact h.table.imp hkeeps.hasTable hkeeps.lacks
  · intro r hr
    rcases List.mem_cons.mp hr with rfl | hr
    · exact hunlisted
    · exact h.unlisted r hr
  · rw [htargets]
    exact fun p hp => hkeeps.lists_iff.mpr (h.listed p hp)
  · rw [htargets]
    exact h.nodup
  · exact fun p => hkeeps.lists_iff.mpr
  · exact ⟨[_], rfl, List.forall_mem_singleton.mpr ⟨hmade, fun _ => id⟩⟩

/-- A mount that succeeds keeps the machine in order, unless it is a new one on a target that is
listed. -/
theorem Orderly.mounts (h : Orderly states w) (hmounts : Mounts states c w.machine m')
    (hunlisted : c.flags.remount = false → ¬ Lists w.machine c.target)
    (hmade : made (.mount c (.ok ()))) :
    Onward states made w ⟨m', ⟨w.machine, .mount c (.ok ())⟩ :: w.calls⟩ := by
  have htargets : newTargets (⟨w.machine, .mount c (.ok ())⟩ :: w.calls) =
      if c.flags.remount then newTargets w.calls else c.target :: newTargets w.calls := by
    simp only [newTargets, List.filterMap_cons, newTarget?]
    cases c.flags.remount <;> rfl
  refine ⟨⟨hmounts.states, .inl hmounts.table, ?_, ?_, ?_⟩, hmounts.lists, ?_⟩
  · intro r hr
    rcases List.mem_cons.mp hr with rfl | hr
    · rintro c' answer heq
      cases heq
      exact hunlisted
    · exact h.unlisted r hr
  · rw [htargets]
    cases hremount : c.flags.remount with
    | true => exact fun p hp => hmounts.lists p (h.listed p hp)
    | false =>
      intro p hp
      rcases List.mem_cons.mp hp with rfl | hp
      · exact hmounts.target hremount
      · exact hmounts.lists p (h.listed p hp)
  · rw [htargets]
    cases hremount : c.flags.remount with
    | true => exact h.nodup
    | false =>
      -- Whatever was mounted before is still listed, and the target is not.
      refine List.nodup_cons.mpr ⟨fun hmem => ?_, h.nodup⟩
      exact hunlisted hremount (h.listed c.target hmem)
  · exact ⟨[_], rfl, List.forall_mem_singleton.mpr ⟨hmade, fun _ => id⟩⟩

theorem orderly_start (hm : states m) (htable : HasTable m ∨ LacksTable m) :
    Orderly states (⟨m, []⟩ : Watched σ) where
  states := hm
  table := htable
  unlisted := List.forall_mem_nil _
  listed := List.forall_mem_nil _
  nodup := List.nodup_nil

end Host

end InitDaemon
