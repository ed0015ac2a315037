import InitDaemon.Proofs.Units.SearchState

/-!
# Following the edges of a unit

The visit of a unit follows its edges one after the other. `new` is what the visit has put on the
stack above the unit, and `low` the unit's low link. No edge leads from there to a unit below that
has a smaller number than `low`, and `low` is the number of a unit below that is reached, unless it
is the unit's own number.
-/

namespace InitDaemon.Units.Search

open Std

/-- What is known of the low link of `v` in a visit that began in the state `s`. -/
structure LowLink (successors : String → List String) (s : Search) (v : String)
    (seen new : List String) (low : Nat) : Prop where
  le_next : low ≤ s.next
  reached : low = s.next ∨ ∃ x ∈ s.stack, s.number x = low ∧ Reaches successors v x
  le_seen : ∀ x ∈ seen, x ∈ s.stack → low ≤ s.number x
  le_new : ∀ w ∈ new, ∀ x ∈ successors w, x ∈ s.stack → low ≤ s.number x

/-- The state `t` of a visit of `v` that began in the state `s` and has followed the edges to
`seen`. -/
structure Exploring (successors : String → List String) (path : List String) (s : Search)
    (v : String) (seen new : List String) (low : Nat) (t : Search) : Prop where
  sound : Sound successors (v :: path) t
  extend : (s.enter v).Extends t
  keepsLow : s.KeepsLow t
  low_eq : t.lowlink[v]? = some low
  stack_eq : t.stack = new ++ v :: s.stack
  fresh : ∀ w ∈ new, w ∉ s.index
  seen_met : ∀ w ∈ seen, w ∈ t.index
  met_reached : ∀ w ∈ t.index, w ∈ s.index ∨ Reaches successors v w
  lowLink : LowLink successors s v seen new low

/-- The state `t` after a visit of `v` that began in the state `s`. -/
structure Visited (successors : String → List String) (path : List String) (s : Search)
    (v : String) (new : List String) (low : Nat) (t : Search) : Prop where
  sound : Sound successors path t
  extend : s.Extends t
  keepsLow : s.KeepsLow t
  met : v ∈ t.index
  low_eq : t.lowlink[v]? = some low
  stack_eq : t.stack = new ++ s.stack
  fresh : ∀ w ∈ new, w ∉ s.index
  met_reached : ∀ w ∈ t.index, w ∈ s.index ∨ Reaches successors v w
  low_reached : new = [] ∧ s.next ≤ low ∨
    ∃ x ∈ s.stack, s.number x = low ∧ Reaches successors v x
  low_le_new : ∀ w ∈ new, ∀ x ∈ successors w, x ∈ s.stack → low ≤ s.number x

variable {successors : String → List String} {path : List String} {s t u : Search}
  {v w : String} {seen seen' new new' : List String} {low m : Nat}

theorem LowLink.lower (h : LowLink successors s v seen new low)
    (hm : s.next ≤ m ∨ ∃ x ∈ s.stack, s.number x = m ∧ Reaches successors v x)
    (hseen : ∀ x ∈ seen', x ∈ s.stack → x ∈ seen ∨ m ≤ s.number x)
    (hnew : ∀ w ∈ new', w ∈ new ∨ ∀ x ∈ successors w, x ∈ s.stack → m ≤ s.number x) :
    LowLink successors s v seen' new' (min low m) where
  le_next := (Nat.min_le_left low m).trans h.le_next
  reached := by
    rcases Nat.le_total low m with hle | hle
    · rw [Nat.min_eq_left hle]
      exact h.reached
    · rw [Nat.min_eq_right hle]
      exact hm.imp_left fun hnext => Nat.le_antisymm (hle.trans h.le_next) hnext
  le_seen x hx hxs := by
    rcases hseen x hx hxs with hx | hle
    · exact (Nat.min_le_left low m).trans (h.le_seen x hx hxs)
    · exact (Nat.min_le_right low m).trans hle
  le_new w hw x hx hxs := by
    rcases hnew w hw with hw | hle
    · exact (Nat.min_le_left low m).trans (h.le_new w hw x hx hxs)
    · exact (Nat.min_le_right low m).trans (hle x hx hxs)

theorem Sound.exploring (h : Sound successors path s) (hv : v ∉ s.index)
    (hpath : ∀ p ∈ path, Reaches successors p v) :
    Exploring successors path s v [] [] s.next (s.enter v) where
  sound := h.enter hv hpath
  extend := .refl _
  keepsLow := keepsLow_enter hv
  low_eq := by simp [Search.enter]
  stack_eq := rfl
  fresh := by simp
  seen_met := by simp
  met_reached w hw := (mem_enter_index.mp hw).elim (fun heq => .inr (heq ▸ .refl)) .inl
  lowLink := ⟨le_rfl, .inl rfl, by simp, by simp⟩

namespace Exploring

theorem mem_index (h : Exploring successors path s v seen new low t) : v ∈ t.index :=
  h.extend.mem (mem_enter_index.mpr (.inl rfl))

theorem number_self (h : Exploring successors path s v seen new low t) : t.number v = s.next := by
  rw [h.extend.number_eq (mem_enter_index.mpr (.inl rfl)), number_enter_self]

theorem extend_start (h : Exploring successors path s v seen new low t) (hv : v ∉ s.index) :
    s.Extends t :=
  (extends_enter hv).trans h.extend

theorem mem_stack_iff (h : Exploring successors path s v seen new low t) :
    w ∈ t.stack ↔ w ∈ new ∨ w = v ∨ w ∈ s.stack := by
  simp [h.stack_eq]

theorem mem_stack (h : Exploring successors path s v seen new low t) : v ∈ t.stack :=
  h.mem_stack_iff.mpr (.inr (.inl rfl))

theorem next_le_number (h : Exploring successors path s v seen new low t) (hw : w ∈ new) :
    s.next ≤ t.number w := by
  have hdesc := h.sound.descending
  rw [h.stack_eq, List.pairwise_append] at hdesc
  have hlt := hdesc.2.2 w hw v List.mem_cons_self
  rw [h.number_self] at hlt
  exact hlt.le

theorem number_below (h : Exploring successors path s v seen new low t) (hv : v ∉ s.index)
    (hs : Sound successors path s) (hw : w ∈ s.stack) : t.number w = s.number w :=
  (h.extend_start hv).number_eq (hs.met w hw)

/-- What lies on the stack lies there from before, or its number is not smaller than the unit's. -/
theorem next_le_or_below (h : Exploring successors path s v seen new low t)
    (hv : v ∉ s.index) (hs : Sound successors path s) (hw : w ∈ t.stack) :
    s.next ≤ t.number w ∨ w ∈ s.stack ∧ s.number w = t.number w := by
  rcases h.mem_stack_iff.mp hw with hw | rfl | hw
  · exact .inl (h.next_le_number hw)
  · exact .inl h.number_self.ge
  · exact .inr ⟨hw, (h.number_below hv hs hw).symm⟩

theorem seen_met_append (h : Exploring successors path s v seen new low t)
    (ht : t.Extends u) (hw : w ∈ u.index) : ∀ x ∈ seen ++ [w], x ∈ u.index := by
  intro x hx
  rcases List.mem_append.mp hx with hx | hx
  · exact ht.mem (h.seen_met x hx)
  · exact List.mem_singleton.mp hx ▸ hw

/-- An edge to a unit that is done changes nothing. -/
theorem followDone (h : Exploring successors path s v seen new low t) (hw : t.Done w) :
    Exploring successors path s v (seen ++ [w]) new low t :=
  { h with
    seen_met := h.seen_met_append (.refl t) hw.1
    lowLink :=
      { h.lowLink with
        le_seen := by
          intro x hx hxs
          rcases List.mem_append.mp hx with hx | hx
          · exact h.lowLink.le_seen x hx hxs
          · cases List.mem_singleton.mp hx
            exact absurd (h.mem_stack_iff.mpr (.inr (.inr hxs))) hw.2 } }

/-- An edge to a unit on the stack lowers the low link to its number. -/
theorem followStack (h : Exploring successors path s v seen new low t) (hv : v ∉ s.index)
    (hs : Sound successors path s) (hedge : w ∈ successors v) (hw : w ∈ t.stack) :
    ∃ t', t.lower v (t.number w) = some t' ∧
      Exploring successors path s v (seen ++ [w]) new (min low (t.number w)) t' := by
  refine ⟨_, lower_eq h.low_eq, { h with
    sound := h.sound.setLow _
    keepsLow := ?_
    low_eq := by simp
    seen_met := h.seen_met_append (.refl t) (h.sound.met w hw)
    lowLink := h.lowLink.lower ?_ ?_ fun x hx => .inl hx }⟩
  · exact h.keepsLow.setLow hv
  · refine (h.next_le_or_below hv hs hw).imp_right ?_
    rintro ⟨hws, hnum⟩
    exact ⟨w, hws, hnum, .single hedge⟩
  · intro x hx hxs
    rcases List.mem_append.mp hx with hx | hx
    · exact .inl hx
    · cases List.mem_singleton.mp hx
      exact .inr (h.number_below hv hs hxs).le

/-- After the visit of a successor the low link is lowered to the successor's. -/
theorem followNew (h : Exploring successors path s v seen new low t) (hv : v ∉ s.index)
    (hs : Sound successors path s) (hedge : w ∈ successors v) (hnew : w ∉ t.index)
    (hw : Visited successors (v :: path) t w new' m u) :
    ∃ u', u.lower v m = some u' ∧
      Exploring successors path s v (seen ++ [w]) (new' ++ new) (min low m) u' := by
  have hlow : u.lowlink[v]? = some low := (hw.keepsLow v h.mem_index).trans h.low_eq
  refine ⟨_, lower_eq hlow, {
    sound := hw.sound.setLow _
    extend := h.extend.trans hw.extend
    keepsLow := (h.keepsLow.trans (h.extend_start hv) hw.keepsLow).setLow hv
    low_eq := by simp
    stack_eq := by simpa [h.stack_eq] using hw.stack_eq
    fresh := ?_
    seen_met := h.seen_met_append hw.extend hw.met
    met_reached := ?_
    lowLink := h.lowLink.lower ?_ ?_ ?_ }⟩
  · intro x hx
    rcases List.mem_append.mp hx with hx | hx
    · exact fun hxs => hw.fresh x hx ((h.extend_start hv).mem hxs)
    · exact h.fresh x hx
  · intro x hx
    rcases hw.met_reached x hx with hx | hreach
    · exact h.met_reached x hx
    · exact .inr (.head hedge hreach)
  · rcases hw.low_reached with ⟨-, hnext⟩ | ⟨x, hx, hnum, hreach⟩
    · have hlt := h.sound.number_lt v h.mem_index
      rw [h.number_self] at hlt
      exact .inl (hlt.le.trans hnext)
    · rcases h.next_le_or_below hv hs hx with hnext | ⟨hxs, heq⟩
      · exact .inl (hnum ▸ hnext)
      · exact .inr ⟨x, hxs, heq.trans hnum, .head hedge hreach⟩
  · intro x hx hxs
    rcases List.mem_append.mp hx with hx | hx
    · exact .inl hx
    · cases List.mem_singleton.mp hx
      exact absurd ((h.extend_start hv).mem (hs.met w hxs)) hnew
  · intro x hx
    rcases List.mem_append.mp hx with hx | hx
    · refine .inr fun y hy hys => ?_
      rw [← h.number_below hv hs hys]
      exact hw.low_le_new x hx y hy (h.mem_stack_iff.mpr (.inr (.inr hys)))
    · exact .inl hx

end Exploring

end InitDaemon.Units.Search
