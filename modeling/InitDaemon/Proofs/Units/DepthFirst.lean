import InitDaemon.Proofs.Units.Leaving

/-!
# The depth-first search

A visit of a unit that has not been met always has an answer: no look-up fails, and the units that
have not been met are fuel enough. It meets only units that the unit reaches, and it leaves the
stack below untouched.
-/

namespace InitDaemon.Units.Search

open Std

variable {successors : String → List String} {names path : List String} {s t : Search}
  {v w : String} {fuel : Nat}

/-! ## Fuel -/

def unmet (names : List String) (s : Search) : Nat :=
  names.countP (· ∉ s.index)

theorem unmet_le (h : s.Extends t) : unmet names t ≤ unmet names s := by
  refine List.countP_mono_left fun w _ hw => ?_
  simp only [decide_eq_true_eq] at hw ⊢
  exact fun hmet => hw (h.mem hmet)

theorem unmet_enter_lt (hv : v ∉ s.index) (hname : v ∈ names) :
    unmet names (s.enter v) < unmet names s := by
  induction names with
  | nil => simp at hname
  | cons n names ih =>
    have hle : unmet names (s.enter v) ≤ unmet names s := unmet_le (extends_enter hv)
    simp only [unmet, List.countP_cons, decide_eq_true_eq] at ih hle ⊢
    rcases List.mem_cons.mp hname with rfl | hname
    · have hentered : v ∈ (s.enter v).index := mem_enter_index.mpr (.inl rfl)
      simp only [hv, hentered, not_true_eq_false, not_false_eq_true, if_true, if_false]
      omega
    · have hmono : n ∉ (s.enter v).index → n ∉ s.index :=
        fun hn hmet => hn (mem_enter_index.mpr (.inr hmet))
      have hfirst : (if n ∉ (s.enter v).index then 1 else 0) ≤ if n ∉ s.index then 1 else 0 := by
        split
        next hn => exact Nat.le_of_eq (if_pos (hmono hn)).symm
        next => exact Nat.zero_le _
      exact Nat.add_lt_add_of_lt_of_le (ih hname) hfirst

/-! ## Visits -/

/-- What a visit needs and gives, for a given amount of fuel. -/
def VisitsFrom (successors : String → List String) (names : List String) (fuel : Nat) : Prop :=
  ∀ (path : List String) (s : Search) (v : String), Sound successors path s → v ∉ s.index →
    v ∈ names → (∀ p ∈ path, Reaches successors p v) → unmet names s ≤ fuel →
      ∃ new low t, visit successors fuel v s = some t ∧ Visited successors path s v new low t

theorem Exploring.follow (hvisit : VisitsFrom successors names fuel)
    {seen new : List String} {low : Nat}
    (h : Exploring successors path s v seen new low t) (hs : Sound successors path s)
    (hv : v ∉ s.index) (hpath : ∀ p ∈ path, Reaches successors p v) (hedge : w ∈ successors v)
    (hname : w ∈ names) (hfuel : unmet names (s.enter v) ≤ fuel) :
    ∃ new' low' t', follow (visit successors fuel) v t w = some t' ∧
      Exploring successors path s v (seen ++ [w]) new' low' t' := by
  by_cases hmet : w ∈ t.index
  · by_cases hstack : w ∈ t.stack
    · obtain ⟨t', hlower, ht'⟩ := h.followStack hv hs hedge hstack
      refine ⟨_, _, t', ?_, ht'⟩
      have hon : w ∈ t.onStack := (h.sound.mem_onStack w).mpr hstack
      rw [Search.follow, if_neg (not_not_intro hmet), if_pos hon, index_eq_number hmet]
      exact hlower
    · refine ⟨_, _, t, ?_, h.followDone ⟨hmet, hstack⟩⟩
      have hon : w ∉ t.onStack := fun hon => hstack ((h.sound.mem_onStack w).mp hon)
      simp [Search.follow, hmet, hon]
  · have hreach : ∀ p ∈ v :: path, Reaches successors p w := by
      intro p hp
      rcases List.mem_cons.mp hp with rfl | hp
      · exact .single hedge
      · exact (hpath p hp).tail hedge
    obtain ⟨new', low', u, hu, hvisited⟩ := hvisit (v :: path) t w h.sound hmet hname hreach
      ((unmet_le h.extend).trans hfuel)
    obtain ⟨t', hlower, ht'⟩ := h.followNew hv hs hedge hmet hvisited
    refine ⟨_, _, t', ?_, ht'⟩
    simp [Search.follow, hmet, hu, hvisited.low_eq, hlower]

theorem Exploring.followAll (hvisit : VisitsFrom successors names fuel)
    (hs : Sound successors path s) (hv : v ∉ s.index)
    (hpath : ∀ p ∈ path, Reaches successors p v) (hfuel : unmet names (s.enter v) ≤ fuel)
    (rest : List String) {seen new : List String} {low : Nat}
    (h : Exploring successors path s v seen new low t) (hrest : ∀ w ∈ rest, w ∈ successors v)
    (hnames : ∀ w ∈ rest, w ∈ names) :
    ∃ new' low' t', rest.foldlM (Search.follow (visit successors fuel) v) t = some t' ∧
      Exploring successors path s v (seen ++ rest) new' low' t' := by
  induction rest generalizing seen new low t with
  | nil => exact ⟨new, low, t, rfl, by simpa using h⟩
  | cons w rest ih =>
    obtain ⟨new', low', t', hfollow, ht'⟩ := h.follow hvisit hs hv hpath
      (hrest w List.mem_cons_self) (hnames w List.mem_cons_self) hfuel
    obtain ⟨new'', low'', t'', hfold, ht''⟩ := ih ht'
      (fun x hx => hrest x (List.mem_cons_of_mem _ hx))
      (fun x hx => hnames x (List.mem_cons_of_mem _ hx))
    refine ⟨new'', low'', t'', ?_, by simpa using ht''⟩
    simp [List.foldlM_cons, hfollow, hfold]

theorem visitsFrom (hnames : ∀ v, ∀ w ∈ successors v, w ∈ names) (fuel : Nat) :
    VisitsFrom successors names fuel := by
  induction fuel with
  | zero =>
    intro path s v _ hv hname _ hfuel
    have := unmet_enter_lt hv hname
    omega
  | succ fuel ih =>
    intro path s v hs hv hname hpath hfuel
    have hfuel' : unmet names (s.enter v) ≤ fuel := by
      have := unmet_enter_lt hv hname
      omega
    obtain ⟨new, low, t, hfold, ht⟩ := (hs.exploring hv hpath).followAll ih hs hv hpath hfuel'
      (successors v) (fun _ hw => hw) (hnames v)
    rw [List.nil_append] at ht
    obtain ⟨new', t', hleave, ht', -⟩ := ht.leave hs hv
    refine ⟨new', low, t', ?_, ht'⟩
    simp [visit, hfold, hleave]

/-! ## The whole search -/

theorem sound_empty : Sound successors [] {} where
  mem_onStack := by simp
  met := by simp
  low_known := by simp
  number_lt := by simp
  descending := .nil
  onPath := by simp
  explored := by simp
  done_closed v hv := absurd hv.1 (by simp)
  reached := by simp
  reaches := by simp
  found_nonempty := by simp
  found_done := by simp
  found_cycle := by simp
  found_all v hv := absurd hv.1 (by simp)
  found_order := .nil

/-- With no visit in progress nothing is on the stack. -/
theorem Sound.stack_eq_nil (h : Sound successors [] s) : s.stack = [] := by
  refine List.eq_nil_iff_forall_not_mem.mpr fun v hv => ?_
  obtain ⟨p, hp, -⟩ := h.reaches v hv
  exact absurd hp List.not_mem_nil

theorem Sound.visitRoot (h : Sound successors [] s) (hnames : ∀ v, ∀ w ∈ successors v, w ∈ names)
    (hname : v ∈ names) :
    ∃ t, visitRoot successors names.length s v = some t ∧ Sound successors [] t ∧
      s.Extends t ∧ v ∈ t.index := by
  by_cases hmet : v ∈ s.index
  · exact ⟨s, by simp [Search.visitRoot, hmet], h, .refl s, hmet⟩
  · obtain ⟨new, low, t, hvisit, ht⟩ := visitsFrom hnames names.length [] s v h hmet hname
      (by simp) List.countP_le_length
    exact ⟨t, by simp [Search.visitRoot, hmet, hvisit], ht.sound, ht.extend, ht.met⟩

theorem Sound.visitRoots (hnames : ∀ v, ∀ w ∈ successors v, w ∈ names) (roots : List String)
    (h : Sound successors [] s) (hroots : ∀ v ∈ roots, v ∈ names) :
    ∃ t, roots.foldlM (Search.visitRoot successors names.length) s = some t ∧
      Sound successors [] t ∧ s.Extends t ∧ ∀ v ∈ roots, v ∈ t.index := by
  induction roots generalizing s with
  | nil => exact ⟨s, rfl, h, .refl s, by simp⟩
  | cons v roots ih =>
    obtain ⟨t, hvisit, ht, hst, hmet⟩ := h.visitRoot hnames (hroots v List.mem_cons_self)
    obtain ⟨u, hfold, hu, htu, hmets⟩ := ih ht fun w hw => hroots w (List.mem_cons_of_mem _ hw)
    refine ⟨u, by simp [List.foldlM_cons, hvisit, hfold], hu, hst.trans htu, ?_⟩
    intro w hw
    rcases List.mem_cons.mp hw with rfl | hw
    · exact htu.mem hmet
    · exact hmets w hw

end InitDaemon.Units.Search
