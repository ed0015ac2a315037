import InitDaemon.Proofs.Units.Reachability

/-!
# The state of the search

What holds between two steps of the depth-first search. `path` lists the units whose visit has begun
and not ended, the latest first. Every unit on the stack is reached from all units of the path with
smaller numbers, and reaches one of them. A unit that has left the stack is done: it leads to units
that are done only.
-/

namespace InitDaemon.Units.Search

open Std

def number (s : Search) (v : String) : Nat :=
  s.index[v]?.getD 0

def Done (s : Search) (v : String) : Prop :=
  v ∈ s.index ∧ v ∉ s.stack

structure Sound (successors : String → List String) (path : List String) (s : Search) : Prop where
  mem_onStack : ∀ v, v ∈ s.onStack ↔ v ∈ s.stack
  met : ∀ v ∈ s.stack, v ∈ s.index
  low_known : ∀ v ∈ s.index, v ∈ s.lowlink
  number_lt : ∀ v ∈ s.index, s.number v < s.next
  descending : s.stack.Pairwise fun v w => s.number w < s.number v
  onPath : ∀ p ∈ path, p ∈ s.stack
  explored : ∀ v ∈ s.index, v ∉ path → ∀ w ∈ successors v, w ∈ s.index
  done_closed : ∀ v, s.Done v → ∀ w ∈ successors v, s.Done w
  reached : ∀ p ∈ path, ∀ v ∈ s.stack, s.number p ≤ s.number v → Reaches successors p v
  reaches : ∀ v ∈ s.stack, ∃ p ∈ path, s.number p ≤ s.number v ∧ Reaches successors v p
  found_nonempty : ∀ c ∈ s.found, c ≠ []
  found_done : ∀ c ∈ s.found, ∀ v ∈ c, s.Done v
  found_cycle : ∀ c ∈ s.found, IsCycle successors c
  found_all : ∀ v, s.Done v → Cyclic successors v → ∃ c ∈ s.found, v ∈ c
  found_order : s.found.Pairwise fun later earlier =>
    ∀ v ∈ earlier, ∀ w ∈ later, ¬ Reaches successors v w

/-- Numbers once given stay. -/
def Extends (s t : Search) : Prop :=
  ∀ v ∈ s.index, t.index[v]? = s.index[v]?

/-- Low links of the units met before stay too. -/
def KeepsLow (s t : Search) : Prop :=
  ∀ v ∈ s.index, t.lowlink[v]? = s.lowlink[v]?

variable {successors : String → List String} {path : List String} {s t u : Search}
  {v w : String} {n : Nat}

theorem mem_index_iff : v ∈ s.index ↔ ∃ n, s.index[v]? = some n :=
  ExtTreeMap.isSome_getElem?_iff_mem.symm.trans Option.isSome_iff_exists

theorem index_eq_number (h : v ∈ s.index) : s.index[v]? = some (s.number v) := by
  obtain ⟨n, hn⟩ := mem_index_iff.mp h
  rw [number, hn, Option.getD_some]

theorem Sound.stack_nodup (h : Sound successors path s) : s.stack.Nodup :=
  h.descending.imp fun hlt heq => (heq ▸ hlt).false

/-! ## Later states -/

theorem Extends.refl (s : Search) : s.Extends s :=
  fun _ _ => rfl

theorem Extends.mem (h : s.Extends t) (hv : v ∈ s.index) : v ∈ t.index := by
  rw [mem_index_iff, h v hv, ← mem_index_iff]
  exact hv

theorem Extends.trans (h : s.Extends t) (h' : t.Extends u) : s.Extends u :=
  fun v hv => (h' v (h.mem hv)).trans (h v hv)

theorem Extends.number_eq (h : s.Extends t) (hv : v ∈ s.index) : t.number v = s.number v := by
  rw [number, number, h v hv]

theorem KeepsLow.trans (h : s.KeepsLow t) (he : s.Extends t) (h' : t.KeepsLow u) :
    s.KeepsLow u :=
  fun v hv => (h' v (he.mem hv)).trans (h v hv)

theorem KeepsLow.setLow (h : s.KeepsLow t) (hv : v ∉ s.index) :
    s.KeepsLow { t with lowlink := t.lowlink.insert v n } := by
  intro w hw
  have hne : v ≠ w := fun heq => hv (heq ▸ hw)
  simpa [ExtTreeMap.getElem?_insert, hne] using h w hw

/-! ## Numbering a unit -/

theorem mem_enter_index : w ∈ (s.enter v).index ↔ v = w ∨ w ∈ s.index := by
  simp [enter]

theorem extends_enter (hv : v ∉ s.index) : s.Extends (s.enter v) := by
  intro w hw
  have hne : v ≠ w := fun heq => hv (heq ▸ hw)
  simp [enter, ExtTreeMap.getElem?_insert, hne]

theorem keepsLow_enter (hv : v ∉ s.index) : s.KeepsLow (s.enter v) := by
  intro w hw
  have hne : v ≠ w := fun heq => hv (heq ▸ hw)
  simp [enter, ExtTreeMap.getElem?_insert, hne]

theorem number_enter_self : (s.enter v).number v = s.next := by
  simp [number, enter]

theorem number_enter (hv : v ∉ s.index) (hw : w ∈ s.index) :
    (s.enter v).number w = s.number w :=
  (extends_enter hv).number_eq hw

theorem done_enter (hv : v ∉ s.index) : (s.enter v).Done w ↔ s.Done w := by
  have hstack : (s.enter v).stack = v :: s.stack := rfl
  rw [Done, Done, mem_enter_index, hstack, List.mem_cons]
  constructor
  · rintro ⟨hmet, hw⟩
    exact ⟨hmet.resolve_left fun heq => hw (.inl heq.symm), fun hmem => hw (.inr hmem)⟩
  · rintro ⟨hmet, hw⟩
    exact ⟨.inr hmet, fun hmem => hmem.elim (fun heq => hv (heq ▸ hmet)) hw⟩

/-- A visit may begin at a unit that has not been met and that the whole path reaches. -/
theorem Sound.enter (h : Sound successors path s) (hv : v ∉ s.index)
    (hpath : ∀ p ∈ path, Reaches successors p v) :
    Sound successors (v :: path) (s.enter v) := by
  have hself := number_enter_self (s := s) (v := v)
  have hother : ∀ {w}, w ∈ s.stack → (s.enter v).number w = s.number w :=
    fun hw => number_enter hv (h.met _ hw)
  have hlt : ∀ {w}, w ∈ s.stack → s.number w < s.next := fun hw => h.number_lt _ (h.met _ hw)
  have hstack : (s.enter v).stack = v :: s.stack := rfl
  constructor
  case mem_onStack =>
    intro w
    rw [hstack, List.mem_cons, ← h.mem_onStack, eq_comm]
    simp [Search.enter]
  case met =>
    intro w hw
    rw [mem_enter_index]
    exact (List.mem_cons.mp hw).imp Eq.symm (h.met w)
  case low_known =>
    intro w hw
    have hlow : w ∈ (s.enter v).lowlink ↔ v = w ∨ w ∈ s.lowlink := by simp [Search.enter]
    exact hlow.mpr ((mem_enter_index.mp hw).imp_right (h.low_known w))
  case number_lt =>
    intro w hw
    change (s.enter v).number w < s.next + 1
    rcases mem_enter_index.mp hw with rfl | hw
    · omega
    · have := h.number_lt w hw
      rw [number_enter hv hw]
      omega
  case descending =>
    refine List.pairwise_cons.mpr ⟨?_, ?_⟩
    · intro w hw
      rw [hself, hother hw]
      exact hlt hw
    · exact h.descending.imp_of_mem fun ha hb hab => by rwa [hother ha, hother hb]
  case onPath =>
    intro p hp
    exact (List.mem_cons.mp hp).elim (· ▸ List.mem_cons_self)
      fun hp => List.mem_cons_of_mem _ (h.onPath p hp)
  case explored =>
    intro w hw hnot x hx
    rw [List.mem_cons, not_or] at hnot
    have hw := (mem_enter_index.mp hw).resolve_left fun heq => hnot.1 heq.symm
    exact mem_enter_index.mpr (.inr (h.explored w hw hnot.2 x hx))
  case done_closed =>
    intro w hw x hx
    exact (done_enter hv).mpr (h.done_closed w ((done_enter hv).mp hw) x hx)
  case reached =>
    intro p hp w hw hle
    rcases List.mem_cons.mp hw with rfl | hold
    · rcases List.mem_cons.mp hp with rfl | hp
      · exact .refl
      · exact hpath p hp
    · rw [hother hold] at hle
      rcases List.mem_cons.mp hp with heq | hp
      · have := hlt hold
        rw [heq, hself] at hle
        omega
      · rw [hother (h.onPath p hp)] at hle
        exact h.reached p hp w hold hle
  case reaches =>
    intro w hw
    rcases List.mem_cons.mp hw with rfl | hw
    · exact ⟨w, List.mem_cons_self, Nat.le_refl _, .refl⟩
    · obtain ⟨p, hp, hle, hreach⟩ := h.reaches w hw
      refine ⟨p, List.mem_cons_of_mem _ hp, ?_, hreach⟩
      rwa [hother (h.onPath p hp), hother hw]
  case found_nonempty => exact h.found_nonempty
  case found_done => exact fun c hc w hw => (done_enter hv).mpr (h.found_done c hc w hw)
  case found_cycle => exact h.found_cycle
  case found_all => exact fun w hw => h.found_all w ((done_enter hv).mp hw)
  case found_order => exact h.found_order

/-! ## Lowering a low link -/

theorem lower_eq {own low : Nat} (hown : s.lowlink[v]? = some own) :
    s.lower v low = some { s with lowlink := s.lowlink.insert v (min own low) } := by
  simp [lower, hown]

/-- Low links are no part of what is sound, except that they are known. -/
theorem Sound.setLow (h : Sound successors path s) (low : Nat) :
    Sound successors path { s with lowlink := s.lowlink.insert v low } where
  mem_onStack := h.mem_onStack
  met := h.met
  low_known w hw := ExtTreeMap.mem_insert.mpr (.inr (h.low_known w hw))
  number_lt := h.number_lt
  descending := h.descending
  onPath := h.onPath
  explored := h.explored
  done_closed := h.done_closed
  reached := h.reached
  reaches := h.reaches
  found_nonempty := h.found_nonempty
  found_done := h.found_done
  found_cycle := h.found_cycle
  found_all := h.found_all
  found_order := h.found_order

end InitDaemon.Units.Search
