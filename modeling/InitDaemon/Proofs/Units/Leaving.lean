import InitDaemon.Proofs.Units.Exploring

/-!
# Ending a visit

Once all edges of a unit have been followed, either a unit below on the stack is reached, and the
unit stays on the stack with all that lies above, or what lies on the stack from the unit on is the
unit's component and leaves the stack.
-/

namespace InitDaemon.Units.Search

open Std

variable {successors : String → List String} {path : List String} {s t : Search}
  {v w x : String} {new below : List String} {low : Nat}

theorem splitStack_append (hv : v ∉ new) :
    splitStack v (new ++ v :: below) = (new ++ [v], below) := by
  induction new with
  | nil => simp [splitStack]
  | cons w new ih =>
    rw [List.mem_cons, not_or] at hv
    have hne : (w == v) = false := by simpa using Ne.symm hv.1
    simp [splitStack, hne, ih hv.2]

theorem mem_foldl_erase (component : List String) (names : ExtTreeSet String) :
    w ∈ component.foldl .erase names ↔ w ∈ names ∧ w ∉ component := by
  induction component generalizing names with
  | nil => simp
  | cons v component ih =>
    have herase : w ∈ names.erase v ↔ w ∈ names ∧ w ≠ v := by
      rw [and_comm, ne_comm]
      simp
    rw [List.foldl_cons, ih, List.mem_cons, not_or, herase, and_assoc]

@[simp] theorem mem_sorted {names : List String} : w ∈ sorted names ↔ w ∈ names :=
  List.mem_mergeSort

theorem sorted_pairwise {names : List String} (h : names.Nodup) :
    (sorted names).Pairwise (· < ·) := by
  have hle : (sorted names).Pairwise fun a b => decide (a ≤ b) = true := by
    apply List.pairwise_mergeSort
    · intro a b c hab hbc
      simp only [decide_eq_true_eq] at hab hbc ⊢
      exact String.le_trans hab hbc
    · intro a b
      simpa using String.le_total a b
  have hne : (sorted names).Nodup := (List.mergeSort_perm names _).nodup_iff.mpr h
  refine (hle.and hne).imp ?_
  rintro a b ⟨hab, hneq⟩
  refine String.not_le.mp fun hba => hneq (String.le_antisymm ?_ hba)
  simpa using hab

namespace Exploring

/-- All edges of units that have been met lead to units that have been met, the path apart. -/
theorem explored (h : Exploring successors path s v (successors v) new low t)
    (hw : w ∈ t.index) (hpath : w ∉ path) (hx : x ∈ successors w) : x ∈ t.index := by
  by_cases heq : w = v
  · exact h.seen_met x (heq ▸ hx)
  · exact h.sound.explored w hw (by simp [heq, hpath]) x hx

theorem not_mem_path (h : Exploring successors path s v (successors v) new low t)
    (hs : Sound successors path s) (hv : v ∉ s.index) (hw : w ∈ new ++ [v]) : w ∉ path := by
  intro hp
  have hmet := hs.met w (hs.onPath w hp)
  rcases List.mem_append.mp hw with hw | hw
  · exact h.fresh w hw hmet
  · exact hv (List.mem_singleton.mp hw ▸ hmet)

theorem mem_stack_of_component (h : Exploring successors path s v (successors v) new low t)
    (hw : w ∈ new ++ [v]) : w ∈ t.stack := by
  rw [h.mem_stack_iff]
  simpa [or_assoc] using Or.inl (b := w ∈ s.stack) hw

/-- Without a unit below that is reached, every edge from the component stays there or leads to a
unit that is done. -/
theorem no_escape (h : Exploring successors path s v (successors v) new s.next t)
    (hs : Sound successors path s) (hv : v ∉ s.index) (hw : w ∈ new ++ [v])
    (hx : x ∈ successors w) : x ∈ new ++ [v] ∨ t.Done x := by
  have hmet : x ∈ t.index :=
    h.explored (h.sound.met w (h.mem_stack_of_component hw)) (h.not_mem_path hs hv hw) hx
  by_cases hstack : x ∈ t.stack
  · rcases h.mem_stack_iff.mp hstack with hnew | rfl | hxs
    · exact .inl (List.mem_append_left _ hnew)
    · exact .inl (by simp)
    · have hlt := hs.number_lt x (hs.met x hxs)
      have hle : s.next ≤ s.number x := by
        rcases List.mem_append.mp hw with hw | hw
        · exact h.lowLink.le_new w hw x hx hxs
        · exact h.lowLink.le_seen x (List.mem_singleton.mp hw ▸ hx) hxs
      exact absurd hlt hle.not_gt
  · exact .inr ⟨hmet, hstack⟩

theorem reaches_stays (h : Exploring successors path s v (successors v) new s.next t)
    (hs : Sound successors path s) (hv : v ∉ s.index) (hw : w ∈ new ++ [v])
    (hreach : Reaches successors w x) : x ∈ new ++ [v] ∨ t.Done x := by
  refine hreach.mem_of_closed (P := fun y => y ∈ new ++ [v] ∨ t.Done y) ?_ (.inl hw)
  rintro y (hy | hy) z hz
  · exact h.no_escape hs hv hy hz
  · exact .inr (h.sound.done_closed y hy z hz)

theorem reaches_component (h : Exploring successors path s v (successors v) new low t)
    (hw : w ∈ new ++ [v]) : Reaches successors v w := by
  refine h.sound.reached v List.mem_cons_self w (h.mem_stack_of_component hw) ?_
  rw [h.number_self]
  rcases List.mem_append.mp hw with hw | hw
  · exact h.next_le_number hw
  · exact (List.mem_singleton.mp hw ▸ h.number_self).ge

theorem component_reaches (h : Exploring successors path s v (successors v) new s.next t)
    (hs : Sound successors path s) (hv : v ∉ s.index) (hw : w ∈ new ++ [v]) :
    Reaches successors w v := by
  obtain ⟨p, hp, -, hreach⟩ := h.sound.reaches w (h.mem_stack_of_component hw)
  rcases List.mem_cons.mp hp with rfl | hpath
  · exact hreach
  · rcases h.reaches_stays hs hv hw hreach with hcomp | hdone
    · exact absurd hpath (h.not_mem_path hs hv hcomp)
    · exact absurd (h.sound.onPath p hp) hdone.2

/-- What lies on the stack from the unit on is its component. -/
theorem mem_component_iff (h : Exploring successors path s v (successors v) new s.next t)
    (hs : Sound successors path s) (hv : v ∉ s.index) :
    w ∈ new ++ [v] ↔ Mutual successors v w := by
  constructor
  · exact fun hw => ⟨h.reaches_component hw, h.component_reaches hs hv hw⟩
  · intro hmutual
    rcases h.reaches_stays hs hv (by simp : v ∈ new ++ [v]) hmutual.1 with hcomp | hdone
    · exact hcomp
    · have hback := hmutual.2.mem_of_closed (fun y hy z hz => h.sound.done_closed y hy z hz) hdone
      exact absurd h.mem_stack hback.2

theorem component_nodup (h : Exploring successors path s v (successors v) new low t) :
    (new ++ [v]).Nodup ∧ ∀ w ∈ new ++ [v], w ∉ s.stack := by
  have hne := h.sound.stack_nodup
  rw [h.stack_eq, List.append_cons, List.nodup_append] at hne
  exact ⟨hne.1, fun w hw hws => hne.2.2 w hw w hws rfl⟩

theorem not_mem_new (h : Exploring successors path s v (successors v) new low t) : v ∉ new :=
  fun hmem => (List.nodup_append.mp h.component_nodup.1).2.2 v hmem v (by simp) rfl

theorem isCycle_component (h : Exploring successors path s v (successors v) new s.next t)
    (hs : Sound successors path s) (hv : v ∉ s.index) (hcyclic : Cyclic successors v) :
    IsCycle successors (sorted (new ++ [v])) where
  sorted := sorted_pairwise h.component_nodup.1
  cyclic w hw := hcyclic.mutual ((h.mem_component_iff hs hv).mp (mem_sorted.mp hw))
  mem_iff w hw x := by
    have hvw := (h.mem_component_iff hs hv).mp (mem_sorted.mp hw)
    rw [mem_sorted, h.mem_component_iff hs hv]
    exact ⟨hvw.symm.trans, hvw.trans⟩

/-- The test for a cycle: the component has another unit, or the unit is a successor of its own. -/
theorem isCycle_test_iff (h : Exploring successors path s v (successors v) new s.next t)
    (hs : Sound successors path s) (hv : v ∉ s.index) :
    (decide ((new ++ [v]).length > 1) || (successors v).contains v) = true ↔
      Cyclic successors v := by
  have hmem : ∀ w, w ∈ new ++ [v] ↔ Mutual successors v w :=
    fun w => h.mem_component_iff hs hv
  simp only [Bool.or_eq_true, decide_eq_true_eq, List.contains_iff_mem]
  constructor
  · rintro (hlength | hself)
    · obtain ⟨w, hw⟩ : ∃ w, w ∈ new := by
        cases new with
        | nil => simp at hlength
        | cons w new => exact ⟨w, List.mem_cons_self⟩
      have hne : v ≠ w := fun heq => h.not_mem_new (heq ▸ hw)
      exact .of_mutual hne ((hmem w).mp (List.mem_append_left _ hw))
    · exact .single hself
  · intro hcyclic
    rcases hcyclic.exists_mutual with hself | ⟨w, hne, hmutual⟩
    · exact .inr hself
    · rcases List.mem_append.mp ((hmem w).mpr hmutual) with hw | hw
      · have := List.length_pos_of_mem hw
        simp only [List.length_append, List.length_singleton]
        omega
      · exact absurd (List.mem_singleton.mp hw) hne

/-! ## The unit stays on the stack -/

theorem keep_reaches (h : Exploring successors path s v (successors v) new low t)
    (hs : Sound successors path s) (hv : v ∉ s.index) (hlow : low ≠ s.next) (hw : w ∈ t.stack) :
    ∃ p ∈ path, t.number p ≤ t.number w ∧ Reaches successors w p := by
  obtain ⟨p, hp, hle, hreach⟩ := h.sound.reaches w hw
  rcases List.mem_cons.mp hp with rfl | hpath
  · obtain ⟨x, hx, hnum, hpx⟩ := h.lowLink.reached.resolve_left hlow
    obtain ⟨q, hq, hqx, hreach'⟩ := hs.reaches x hx
    refine ⟨q, hq, ?_, (hreach.trans hpx).trans hreach'⟩
    rw [h.number_below hv hs (hs.onPath q hq)]
    have hnext := h.lowLink.le_next
    rw [← h.number_self] at hnext
    omega
  · exact ⟨p, hpath, hle, hreach⟩

/-- A unit that reaches one below on the stack stays there. -/
theorem keep (h : Exploring successors path s v (successors v) new low t)
    (hs : Sound successors path s) (hv : v ∉ s.index) (hlow : low ≠ s.next) :
    t.leave v (successors v) = some t ∧
      Visited successors path s v (new ++ [v]) low t := by
  have hown : t.index[v]? = some s.next := by
    rw [index_eq_number h.mem_index, h.number_self]
  refine ⟨by simp [leave, h.low_eq, hown, hlow], {
    sound := { h.sound with
      onPath := fun p hp => h.sound.onPath p (List.mem_cons_of_mem _ hp)
      explored := fun w hw hpath x hx => h.explored hw hpath hx
      reached := fun p hp => h.sound.reached p (List.mem_cons_of_mem _ hp)
      reaches := fun w hw => h.keep_reaches hs hv hlow hw }
    extend := h.extend_start hv
    keepsLow := h.keepsLow
    met := h.mem_index
    low_eq := h.low_eq
    stack_eq := by simp [h.stack_eq]
    fresh := ?_
    met_reached := h.met_reached
    low_reached := .inr (h.lowLink.reached.resolve_left hlow)
    low_le_new := ?_ }⟩
  · intro w hw
    rcases List.mem_append.mp hw with hw | hw
    · exact h.fresh w hw
    · exact List.mem_singleton.mp hw ▸ hv
  · intro w hw x hx hxs
    rcases List.mem_append.mp hw with hw | hw
    · exact h.lowLink.le_new w hw x hx hxs
    · exact h.lowLink.le_seen x (List.mem_singleton.mp hw ▸ hx) hxs

/-! ## The component leaves the stack -/

/-- The state after the component of `v` has left the stack. -/
def popped (s t : Search) (successors : List String) (v : String) (new : List String) : Search :=
  { t with
    stack := s.stack
    onStack := (new ++ [v]).foldl .erase t.onStack
    found :=
      if decide ((new ++ [v]).length > 1) || successors.contains v then
        sorted (new ++ [v]) :: t.found
      else t.found }

theorem leave_eq_popped (h : Exploring successors path s v (successors v) new s.next t) :
    t.leave v (successors v) = some (popped s t (successors v) v new) := by
  have hown : t.index[v]? = some s.next := by
    rw [index_eq_number h.mem_index, h.number_self]
  simp [leave, h.low_eq, hown, h.stack_eq, splitStack_append h.not_mem_new, popped]

theorem done_popped_iff (h : Exploring successors path s v (successors v) new low t) :
    (popped s t (successors v) v new).Done w ↔ t.Done w ∨ w ∈ new ++ [v] := by
  have hdisjoint := h.component_nodup.2
  change w ∈ t.index ∧ w ∉ s.stack ↔ (w ∈ t.index ∧ w ∉ t.stack) ∨ w ∈ new ++ [v]
  rw [h.stack_eq, List.append_cons, List.mem_append (t := s.stack)]
  constructor
  · rintro ⟨hmet, hws⟩
    by_cases hw : w ∈ new ++ [v]
    · exact .inr hw
    · exact .inl ⟨hmet, by simp only [hw, hws, or_self, not_false_iff]⟩
  · rintro (⟨hmet, hws⟩ | hw)
    · exact ⟨hmet, fun hmem => hws (.inr hmem)⟩
    · exact ⟨h.sound.met w (h.mem_stack_of_component hw), hdisjoint w hw⟩

theorem mem_popped_found (h : Exploring successors path s v (successors v) new s.next t)
    (hs : Sound successors path s) (hv : v ∉ s.index) {c : List String} :
    c ∈ (popped s t (successors v) v new).found ↔
      c ∈ t.found ∨ Cyclic successors v ∧ c = sorted (new ++ [v]) := by
  have htest := h.isCycle_test_iff hs hv
  rw [popped]
  split
  case isTrue hcyclic => simp [htest.mp hcyclic, or_comm]
  case isFalse hcyclic =>
    have hacyclic : ¬ Cyclic successors v := fun h => hcyclic (htest.mpr h)
    simp [hacyclic]

/-- What is done leads to nothing of the component that leaves the stack. -/
theorem not_reaches_component (h : Exploring successors path s v (successors v) new low t)
    (hdone : t.Done x) (hw : w ∈ new ++ [v]) : ¬ Reaches successors x w := by
  intro hreach
  have hdone := hreach.mem_of_closed (fun y hy z hz => h.sound.done_closed y hy z hz) hdone
  exact hdone.2 (h.mem_stack_of_component hw)

theorem sound_popped (h : Exploring successors path s v (successors v) new s.next t)
    (hs : Sound successors path s) (hv : v ∉ s.index) :
    Sound successors path (popped s t (successors v) v new) where
  mem_onStack w := by
    change w ∈ (new ++ [v]).foldl .erase t.onStack ↔ w ∈ s.stack
    rw [mem_foldl_erase, h.sound.mem_onStack, h.stack_eq, List.append_cons,
      List.mem_append (t := s.stack)]
    exact ⟨fun hw => hw.1.resolve_left hw.2,
      fun hw => ⟨.inr hw, fun hcomp => h.component_nodup.2 w hcomp hw⟩⟩
  met w hw := h.sound.met w (h.mem_stack_iff.mpr (.inr (.inr hw)))
  low_known := h.sound.low_known
  number_lt := h.sound.number_lt
  descending := by
    have hdesc := h.sound.descending
    rw [h.stack_eq] at hdesc
    exact (List.pairwise_cons.mp (List.pairwise_append.mp hdesc).2.1).2
  onPath := hs.onPath
  explored w hw hpath x hx := h.explored hw hpath hx
  done_closed w hw x hx := by
    rw [h.done_popped_iff] at hw ⊢
    rcases hw with hdone | hw
    · exact .inl (h.sound.done_closed w hdone x hx)
    · exact (h.no_escape hs hv hw hx).symm
  reached p hp w hw :=
    h.sound.reached p (List.mem_cons_of_mem _ hp) w (h.mem_stack_iff.mpr (.inr (.inr hw)))
  reaches w hw := by
    obtain ⟨p, hp, hle, hreach⟩ := hs.reaches w hw
    refine ⟨p, hp, ?_, hreach⟩
    change t.number p ≤ t.number w
    rwa [h.number_below hv hs (hs.onPath p hp), h.number_below hv hs hw]
  found_nonempty c hc := by
    rcases (h.mem_popped_found hs hv).mp hc with hc | ⟨-, rfl⟩
    · exact h.sound.found_nonempty c hc
    · have hmem : v ∈ sorted (new ++ [v]) := mem_sorted.mpr (by simp)
      exact List.ne_nil_of_mem hmem
  found_done c hc w hw := by
    rw [h.done_popped_iff]
    rcases (h.mem_popped_found hs hv).mp hc with hc | ⟨-, rfl⟩
    · exact .inl (h.sound.found_done c hc w hw)
    · exact .inr (mem_sorted.mp hw)
  found_cycle c hc := by
    rcases (h.mem_popped_found hs hv).mp hc with hc | ⟨hcyclic, rfl⟩
    · exact h.sound.found_cycle c hc
    · exact h.isCycle_component hs hv hcyclic
  found_all w hw hcyclic := by
    rcases h.done_popped_iff.mp hw with hdone | hw
    · obtain ⟨c, hc, hmem⟩ := h.sound.found_all w hdone hcyclic
      exact ⟨c, (h.mem_popped_found hs hv).mpr (.inl hc), hmem⟩
    · have hmutual := (h.mem_component_iff hs hv).mp hw
      refine ⟨_, (h.mem_popped_found hs hv).mpr (.inr ⟨hcyclic.mutual hmutual.symm, rfl⟩), ?_⟩
      exact mem_sorted.mpr hw
  found_order := by
    rw [popped]
    split
    · refine List.pairwise_cons.mpr ⟨?_, h.sound.found_order⟩
      intro c hc x hx w hw
      exact h.not_reaches_component (h.sound.found_done c hc x hx) (mem_sorted.mp hw)
    · exact h.sound.found_order

/-- A unit that reaches none below on the stack leaves it with its component. -/
theorem pop (h : Exploring successors path s v (successors v) new s.next t)
    (hs : Sound successors path s) (hv : v ∉ s.index) :
    t.leave v (successors v) = some (popped s t (successors v) v new) ∧
      Visited successors path s v [] s.next (popped s t (successors v) v new) :=
  ⟨h.leave_eq_popped, {
    sound := h.sound_popped hs hv
    extend := h.extend_start hv
    keepsLow := h.keepsLow
    met := h.mem_index
    low_eq := h.low_eq
    stack_eq := rfl
    fresh := by simp
    met_reached := h.met_reached
    low_reached := .inl ⟨rfl, le_rfl⟩
    low_le_new := by simp }⟩

/-- The end of a visit leaves numbers and low links as they are. It changes the stack only if the
low link is the unit's own number. -/
theorem leave (h : Exploring successors path s v (successors v) new low t)
    (hs : Sound successors path s) (hv : v ∉ s.index) :
    ∃ new' t', t.leave v (successors v) = some t' ∧ Visited successors path s v new' low t' ∧
      t'.index = t.index ∧ t'.lowlink = t.lowlink ∧ (low = s.next → t'.stack = s.stack) ∧
      (low ≠ s.next → t' = t) := by
  by_cases hlow : low = s.next
  · subst hlow
    obtain ⟨hleave, ht⟩ := h.pop hs hv
    exact ⟨_, _, hleave, ht, rfl, rfl, fun _ => rfl, fun hne => absurd rfl hne⟩
  · obtain ⟨hleave, ht⟩ := h.keep hs hv hlow
    exact ⟨_, _, hleave, ht, rfl, rfl, fun heq => absurd heq hlow, fun _ => rfl⟩

end Exploring

end InitDaemon.Units.Search
