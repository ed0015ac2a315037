import InitDaemon.Proofs.Units.CycleList

/-!
# The visits of the search

What holds of every visit that the search over a graph begins, at whatever depth. No look-up fails
in it, it gives the stack below back as it was, it meets what its unit leads to along units that
had not been met, and in the end the low link of its unit is the unit's own number exactly if the
unit is the first of its component that is met.
-/

namespace InitDaemon.Units

open Relation

namespace Search

/-- No name is on the stack twice, and the set beside the stack holds the names on it. -/
structure Tidy (s : Search) : Prop where
  nodup : s.stack.Nodup
  mem_onStack : ∀ w, w ∈ s.onStack ↔ w ∈ s.stack

/-- What holds where a visit of `v` begins. -/
structure Entry (successors : String → List String) (names path : List String) (fuel : Nat)
    (v : String) (s : Search) : Prop where
  sound : Sound successors path s
  fresh : v ∉ s.index
  named : v ∈ names
  reached : ∀ p ∈ path, Reaches successors p v
  enough : unmet names s ≤ fuel

variable {successors : String → List String} {names path seen rest new : List String}
  {s t : Search} {v w : String} {fuel low : Nat}

theorem Sound.tidy (h : Sound successors path s) : s.Tidy :=
  ⟨h.stack_nodup, h.mem_onStack⟩

/-- Fewer units are left once the unit itself is numbered. -/
theorem Entry.unmet_lt (h : Entry successors names path fuel v s) :
    unmet names (s.enter v) < fuel :=
  (unmet_enter_lt h.fresh h.named).trans_le h.enough

/-- The edges of a unit can be followed up to any of them. -/
theorem Entry.followed (h : Entry successors names path (fuel + 1) v s)
    (hnames : ∀ v, ∀ w ∈ successors v, w ∈ names) (hsucc : successors v = seen ++ rest) :
    ∃ new low t, seen.foldlM (follow (visit successors fuel) v) (s.enter v) = some t ∧
      Exploring successors path s v seen new low t := by
  have hseen : ∀ w ∈ seen, w ∈ successors v := fun w hw => hsucc ▸ List.mem_append_left rest hw
  have hfuel : unmet names (s.enter v) ≤ fuel := Nat.le_of_lt_succ h.unmet_lt
  exact (h.sound.exploring h.fresh h.reached).followAll (visitsFrom hnames fuel) h.sound h.fresh
    h.reached hfuel seen hseen fun w hw => hnames v w (hseen w hw)

/-- A visit of a successor begins as that of the unit did. -/
theorem Entry.inner (h : Entry successors names path (fuel + 1) v s)
    (hnames : ∀ v, ∀ w ∈ successors v, w ∈ names)
    (ht : Exploring successors path s v seen new low t) (hedge : w ∈ successors v)
    (hw : w ∉ t.index) : Entry successors names (v :: path) fuel w t where
  sound := ht.sound
  fresh := hw
  named := hnames v w hedge
  reached p hp := by
    rcases List.mem_cons.mp hp with rfl | hp
    · exact .single hedge
    · exact (h.reached p hp).tail hedge
  enough := (unmet_le ht.extend).trans (Nat.le_of_lt_succ h.unmet_lt)

theorem Entry.visited (h : Entry successors names path fuel v s)
    (hnames : ∀ v, ∀ w ∈ successors v, w ∈ names) :
    ∃ new low t, visit successors fuel v s = some t ∧ Visited successors path s v new low t :=
  visitsFrom hnames fuel path s v h.sound h.fresh h.named h.reached h.enough

/-! ## The end of a visit -/

/-- The low link tells whether a unit is the first of its component that is met. -/
theorem Exploring.low_eq_iff (h : Exploring successors path s v (successors v) new low t)
    (hs : Entry successors names path fuel v s) :
    low = s.next ↔ ∀ w, Mutual successors v w → w ∉ s.index := by
  constructor
  · rintro rfl w hw
    rcases List.mem_append.mp ((h.mem_component_iff hs.sound hs.fresh).mpr hw) with hw | hw
    · exact h.fresh w hw
    · exact List.mem_singleton.mp hw ▸ hs.fresh
  · intro hfirst
    refine h.lowLink.reached.resolve_right ?_
    rintro ⟨x, hx, -, hvx⟩
    -- A unit below leads to the path, and the path leads to `v`.
    obtain ⟨p, hp, -, hxp⟩ := hs.sound.reaches x hx
    exact hfirst x ⟨hvx, hxp.trans (hs.reached p hp)⟩ (hs.sound.met x hx)

/-- A visit meets what its unit leads to along units that had not been met. -/
theorem Visited.met_of_path (h : Visited successors path s v new low t)
    (hs : Sound successors path s)
    (hpath : ReflTransGen (fun a b => Edge successors a b ∧ a ∉ s.index) v w) : w ∈ t.index := by
  induction hpath with
  | refl => exact h.met
  | @tail a b _ hstep ih =>
    have ha : a ∉ path := fun hp => hstep.2 (hs.met a (hs.onPath a hp))
    exact h.sound.explored a ih ha b hstep.1

end Search

namespace Graph

open Search

variable {g : Graph} {fuel : Nat} {v : String} {s : Search}

/-- The visits that the search over a graph begins, with their fuel and the state that they begin
in: those of the names that have not been met when their turn comes, and in a visit those of the
successors that have not been met when their turn comes. -/
inductive Begins (g : Graph) : Nat → String → Search → Prop
  | root {before after : List String} {v : String} {s : Search}
    (hnames : g.names = before ++ v :: after)
    (hbefore : before.foldlM (visitRoot g.successors g.names.length) {} = some s)
    (hv : v ∉ s.index) : Begins g g.names.length v s
  | inner {fuel : Nat} {seen rest : List String} {v w : String} {s t : Search}
    (hvisit : Begins g (fuel + 1) v s) (hsucc : g.successors v = seen ++ w :: rest)
    (hseen : seen.foldlM (follow (visit g.successors fuel) v) (s.enter v) = some t)
    (hw : w ∉ t.index) : Begins g fuel w t

/-- No unit that lies in one component with `v` has been met. -/
def IsFirst (g : Graph) (s : Search) (v : String) : Prop :=
  ∀ w, ReflTransGen g.Needs v w → ReflTransGen g.Needs w v → w ∉ s.index

/-- A visit of `v` that begins in the state `s`, has followed all edges of `v` in the state `u` and
ends in the state `t`. -/
structure SoundVisit (g : Graph) (fuel : Nat) (v : String) (s u t : Search) : Prop where
  ends : visit g.successors (fuel + 1) v s = some t
  followed : (g.successors v).foldlM (follow (visit g.successors fuel) v) (s.enter v) = some u
  left : u.leave v (g.successors v) = some t
  /-- What is looked up at an edge is there: the unit's low link, the number of a unit on the stack,
  and the low link of a unit that has just been visited. -/
  lookups : ∀ seen w rest, g.successors v = seen ++ w :: rest → ∃ r,
    seen.foldlM (follow (visit g.successors fuel) v) (s.enter v) = some r ∧ v ∈ r.lowlink ∧
    (w ∈ r.onStack → w ∈ r.index) ∧
    (w ∉ r.index → ∃ r', visit g.successors fuel w r = some r' ∧ v ∈ r'.lowlink ∧ w ∈ r'.lowlink)
  tidy_start : s.Tidy
  tidy_end : t.Tidy
  stack_suffix : s.stack <:+ t.stack
  /-- The component of a first unit is popped down to the unit, and nothing below is. -/
  popped : g.IsFirst s v → ∃ above, u.stack = above ++ v :: s.stack ∧ v ∉ above ∧
    splitStack v u.stack = (above ++ [v], s.stack) ∧ t.stack = s.stack
  kept : ¬ g.IsFirst s v → t = u ∧ v ∈ t.stack
  met : ∀ w, ReflTransGen (fun a b => g.Needs a b ∧ a ∉ s.index) v w → w ∈ t.index
  low_iff : ∃ low own, u.lowlink[v]? = some low ∧ u.index[v]? = some own ∧
    t.lowlink[v]? = some low ∧ t.index[v]? = some own ∧ (low = own ↔ g.IsFirst s v)

theorem isFirst_iff : g.IsFirst s v ↔ ∀ w, Mutual g.successors v w → w ∉ s.index := by
  simp only [IsFirst, Mutual, needs_eq, and_imp]

/-- The roots can be visited up to any of them. -/
theorem exists_search_before {before rest : List String} (hnames : g.names = before ++ rest) :
    ∃ s, before.foldlM (visitRoot g.successors g.names.length) {} = some s ∧
      Sound g.successors [] s := by
  have hbefore : ∀ w ∈ before, w ∈ g.names := by
    intro w hw
    rw [hnames]
    exact List.mem_append_left rest hw
  obtain ⟨s, hs, hsound, -⟩ := sound_empty.visitRoots successors_mem_names before hbefore
  exact ⟨s, hs, hsound⟩

theorem Begins.entry (h : g.Begins fuel v s) :
    ∃ path, Entry g.successors g.names path fuel v s := by
  induction h with
  | @root before after v s hnames hbefore hv =>
    obtain ⟨s', hs', hsound⟩ := exists_search_before hnames
    cases hbefore.symm.trans hs'
    refine ⟨[], hsound, hv, ?_, by simp, List.countP_le_length⟩
    simp [hnames]
  | @inner fuel seen rest v w s t _ hsucc hseen hw ih =>
    obtain ⟨path, hentry⟩ := ih
    obtain ⟨new, low, t', ht', hexploring⟩ := hentry.followed successors_mem_names hsucc
    cases hseen.symm.trans ht'
    refine ⟨v :: path, hentry.inner successors_mem_names hexploring ?_ hw⟩
    simp [hsucc]

theorem lookups_of_entry {path seen rest : List String} {w : String}
    (h : Entry g.successors g.names path (fuel + 1) v s)
    (hsucc : g.successors v = seen ++ w :: rest) : ∃ r,
    seen.foldlM (follow (visit g.successors fuel) v) (s.enter v) = some r ∧ v ∈ r.lowlink ∧
    (w ∈ r.onStack → w ∈ r.index) ∧
    (w ∉ r.index → ∃ r', visit g.successors fuel w r = some r' ∧
      v ∈ r'.lowlink ∧ w ∈ r'.lowlink) := by
  obtain ⟨new, low, r, hfold, hr⟩ := h.followed successors_mem_names hsucc
  have hstack : w ∈ r.onStack → w ∈ r.index :=
    fun hw => hr.sound.met w ((hr.sound.mem_onStack w).mp hw)
  refine ⟨r, hfold, hr.sound.low_known v hr.mem_index, hstack, fun hw => ?_⟩
  have hinner := h.inner successors_mem_names hr (by simp [hsucc]) hw
  obtain ⟨new', low', r', hvisit, hr'⟩ := hinner.visited successors_mem_names
  exact ⟨r', hvisit, hr'.sound.low_known v (hr'.extend.mem hr.mem_index),
    hr'.sound.low_known w hr'.met⟩

/-- What a visit needs where it begins is enough for it to go well. -/
theorem visit_of_entry {path : List String} (h : Entry g.successors g.names path (fuel + 1) v s) :
    ∃ u t, g.SoundVisit fuel v s u t := by
  obtain ⟨new, low, u, hfollowed, hu⟩ :=
    h.followed successors_mem_names (List.append_nil (g.successors v)).symm
  obtain ⟨new', t, hleft, ht, hindex, hlowlink, hpopped, hkept⟩ := hu.leave h.sound h.fresh
  have hfirst : low = s.next ↔ g.IsFirst s v := (hu.low_eq_iff h).trans isFirst_iff.symm
  have hown : u.index[v]? = some s.next := by
    rw [index_eq_number hu.mem_index, hu.number_self]
  refine ⟨u, t, ?_⟩
  constructor
  case ends => simp [visit, hfollowed, hleft]
  case followed => exact hfollowed
  case left => exact hleft
  case lookups => exact fun seen w rest hsucc => lookups_of_entry h hsucc
  case tidy_start => exact h.sound.tidy
  case tidy_end => exact ht.sound.tidy
  case stack_suffix => exact ⟨new', ht.stack_eq.symm⟩
  case popped =>
    intro hv
    refine ⟨new, hu.stack_eq, hu.not_mem_new, ?_, hpopped (hfirst.mpr hv)⟩
    rw [hu.stack_eq, splitStack_append hu.not_mem_new]
  case kept =>
    intro hv
    obtain rfl := hkept (mt hfirst.mp hv)
    exact ⟨rfl, hu.mem_stack⟩
  case met =>
    intro w hpath
    rw [needs_eq] at hpath
    exact ht.met_of_path h.sound hpath
  case low_iff =>
    rw [hindex, hlowlink]
    exact ⟨low, s.next, hu.low_eq, hown, hu.low_eq, hown, hfirst⟩

/-- Every visit that the search begins goes well, and after each visit of a root the stack is
empty. -/
theorem visits_sound (g : Graph) :
    (∀ fuel v s, g.Begins fuel v s → ∃ less u t, fuel = less + 1 ∧ g.SoundVisit less v s u t) ∧
    ∀ before v after, g.names = before ++ v :: after → ∃ s t,
      before.foldlM (visitRoot g.successors g.names.length) {} = some s ∧
      visitRoot g.successors g.names.length s v = some t ∧ s.stack = [] ∧ t.stack = [] := by
  constructor
  · intro fuel v s hbegins
    obtain ⟨path, hentry⟩ := hbegins.entry
    obtain ⟨less, rfl⟩ := Nat.exists_eq_add_one.mpr (Nat.zero_lt_of_lt hentry.unmet_lt)
    obtain ⟨u, t, hvisit⟩ := visit_of_entry hentry
    exact ⟨less, u, t, rfl, hvisit⟩
  · intro before v after hnames
    obtain ⟨s, hs, hsound⟩ := exists_search_before hnames
    obtain ⟨t, ht, hsound', -⟩ := hsound.visitRoot successors_mem_names
      (hnames ▸ List.mem_append_right before List.mem_cons_self)
    exact ⟨s, t, hs, ht, hsound.stack_eq_nil, hsound'.stack_eq_nil⟩

theorem visits_of_two_cycles :
    twoCycles.Begins 4 "a" {} ∧ twoCycles.Begins 3 "b" (Search.enter {} "a") ∧
    (∃ u t, twoCycles.SoundVisit 3 "a" {} u t ∧ t.stack = []) ∧
    (∃ u t, twoCycles.SoundVisit 2 "b" (Search.enter {} "a") u t ∧ t.stack = ["b", "a"]) ∧
    twoCycles.names = ["a", "b"] ++ "c" :: ["d"] ∧ ∃ s t,
      ["a", "b"].foldlM (visitRoot twoCycles.successors twoCycles.names.length) {} = some s ∧
      visitRoot twoCycles.successors twoCycles.names.length s "c" = some t ∧
      s.stack = [] ∧ t.stack = [] := by
  have hnames : twoCycles.names = ["a", "b", "c", "d"] := by decide
  have ha : twoCycles.Begins 4 "a" {} := by
    have hfirst : twoCycles.names = [] ++ "a" :: ["b", "c", "d"] := hnames
    have hroot : twoCycles.Begins twoCycles.names.length "a" {} := .root hfirst rfl (by simp)
    rwa [hnames] at hroot
  have hb : twoCycles.Begins 3 "b" (Search.enter {} "a") := by
    have hsucc : twoCycles.successors "a" = [] ++ "b" :: ["d"] := by decide
    exact .inner ha hsucc rfl (by simp [mem_enter_index])
  obtain ⟨hvisits, hroots⟩ := visits_sound twoCycles
  obtain ⟨_, u, t, hfuel, hvisit⟩ := hvisits 4 "a" _ ha
  obtain ⟨_, u', t', hfuel', hvisit'⟩ := hvisits 3 "b" _ hb
  cases hfuel
  cases hfuel'
  refine ⟨ha, hb, ⟨u, t, hvisit, ?_⟩, ⟨u', t', hvisit', ?_⟩, hnames, hroots _ _ _ hnames⟩
  · have hstack : (visit twoCycles.successors 4 "a" {}).map Search.stack = some [] := by decide
    simpa [hvisit.ends] using hstack
  · have hstack : (visit twoCycles.successors 3 "b" (Search.enter {} "a")).map Search.stack =
        some ["b", "a"] := by decide
    simpa [hvisit'.ends] using hstack

end Graph

end InitDaemon.Units
