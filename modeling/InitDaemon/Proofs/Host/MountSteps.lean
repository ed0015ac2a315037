import InitDaemon.Proofs.Host.MountTable

/-!
# The steps of mounting

What each step comes to on a watched machine in order: which calls it has made, what is listed
afterwards and, where it fails, which call was the last one.
-/

namespace InitDaemon.Host

open Setup Text

variable {ε σ : Type} [Files σ] {states : σ → Prop} {w w' : Watched σ}
  {paths paths' : List String} {path : String} {c : MountCall}

/-! ## Directories -/

def MakesIn (paths : List String) : FileCall → Prop
  | .makeDirectory path _ => path ∈ paths
  | _ => False

theorem MakesIn.mono (h : ∀ p ∈ paths, p ∈ paths') :
    ∀ call, MakesIn paths call → MakesIn paths' call := by
  intro call hcall
  cases call with
  | makeDirectory path => exact h path hcall
  | _ => exact hcall.elim

/-- Calls were made, and the latest one is of a kind. -/
def LatestCall (p : FileCall → Prop) (w w' : Watched σ) : Prop :=
  ∃ r new, w'.calls = r :: (new ++ w.calls) ∧ p r.call

namespace LatestCall

variable {p q : FileCall → Prop} {w₁ : Watched σ}

omit [Files σ] in
theorem mono (h : LatestCall p w w') (hpq : ∀ call, p call → q call) : LatestCall q w w' := by
  obtain ⟨r, new, heq, hr⟩ := h
  exact ⟨r, new, heq, hpq _ hr⟩

theorem after {made : FileCall → Prop} (h : LatestCall p w₁ w')
    (h₁ : Onward states made w w₁) : LatestCall p w w' := by
  obtain ⟨r, new, heq, hr⟩ := h
  obtain ⟨new₁, heq₁, -⟩ := h₁.calls
  exact ⟨r, new ++ new₁, by rw [heq, heq₁, List.append_assoc], hr⟩

end LatestCall

def FailsIn (paths : List String) (e : Errno) (call : FileCall) : Prop :=
  ∃ path ∈ paths, call = .makeDirectory path (.error e)

theorem FailsIn.mono {e : Errno} (h : ∀ p ∈ paths, p ∈ paths') :
    ∀ call, FailsIn paths e call → FailsIn paths' e call := by
  rintro call ⟨path, hpath, heq⟩
  exact ⟨path, h path hpath, heq⟩

theorem alreadyThere_ends {e : Errno} {ok : Bool → Watched σ → Prop} {error : ε → Watched σ → Prop}
    (h : ∀ there, ok there w) :
    (alreadyThere path e : Setup ε (Watched σ) Bool).Ends w ok error := by
  rw [alreadyThere]
  exact .bind (.ask (.pure (h _)))

section

variable (hrules : MountRules states)

include hrules

theorem still_makeDirectory (h : Orderly states w) (hpath : path ∈ paths) :
    Still states (MakesIn paths) w (Files.makeDirectory path w).2 :=
  h.still (.makeDirectory path (Files.makeDirectory path w.machine).1)
    (hrules.makeDirectory path _ h.states) hpath (by rintro _ _ ⟨⟩) rfl

theorem climb_ends (h : Orderly states w) :
    (climb paths : Setup Errno (Watched σ) (List String)).Ends w
      (fun missing w' => Still states (MakesIn paths) w w' ∧ ∀ p ∈ missing, p ∈ paths)
      (fun e w' => Still states (MakesIn paths) w w' ∧ LatestCall (FailsIn paths e) w w') := by
  induction paths generalizing w with
  | nil => exact .pure ⟨.refl h, List.forall_mem_nil _⟩
  | cons path paths ih =>
    have hmade := still_makeDirectory hrules h (List.mem_cons_self (a := path) (l := paths))
    have hrest : ∀ p ∈ paths, p ∈ path :: paths := fun p hp => List.mem_cons_of_mem path hp
    rw [climb]
    split
    · exact .pure ⟨.refl h, List.forall_mem_nil _⟩
    · refine .bind (.call ?_)
      split
      · exact .pure ⟨hmade, List.forall_mem_nil _⟩
      · refine .bind ((ih hmade.orderly).mono ?_ ?_)
        · rintro missing w' ⟨hstill, hmissing⟩
          refine .pure ⟨hmade.trans (hstill.mono (MakesIn.mono hrest)), fun p hp => ?_⟩
          rcases List.mem_append.mp hp with hp | hp
          · exact hrest p (hmissing p hp)
          · exact List.mem_singleton.mp hp ▸ List.mem_cons_self
        · rintro e w' ⟨hstill, hfailed⟩
          exact ⟨hmade.trans (hstill.mono (MakesIn.mono hrest)),
            (hfailed.mono (FailsIn.mono hrest)).after hmade.toOnward⟩
      · next e _ heq =>
        refine .bind (alreadyThere_ends fun there => ?_)
        split
        · exact .pure ⟨hmade, List.forall_mem_nil _⟩
        · exact .throw ⟨hmade, _, [], rfl, path, List.mem_cons_self, congrArg _ heq⟩

theorem makeDirectories_ends (h : Orderly states w) :
    (makeDirectories paths : Setup Errno (Watched σ) Unit).Ends w
      (fun _ w' => Still states (MakesIn paths) w w')
      (fun e w' => Still states (MakesIn paths) w w' ∧ LatestCall (FailsIn paths e) w w') := by
  induction paths generalizing w with
  | nil => exact .pure (.refl h)
  | cons path paths ih =>
    have hmade := still_makeDirectory hrules h (List.mem_cons_self (a := path) (l := paths))
    have hrest : ∀ p ∈ paths, p ∈ path :: paths := fun p hp => List.mem_cons_of_mem path hp
    have hgone : (makeDirectories paths : Setup Errno (Watched σ) Unit).Ends
        (Files.makeDirectory path w).2
        (fun _ w' => Still states (MakesIn (path :: paths)) w w')
        (fun e w' => Still states (MakesIn (path :: paths)) w w' ∧
          LatestCall (FailsIn (path :: paths) e) w w') := by
      refine (ih hmade.orderly).mono ?_ ?_
      · intro _ w' hstill
        exact hmade.trans (hstill.mono (MakesIn.mono hrest))
      · rintro e w' ⟨hstill, hfailed⟩
        exact ⟨hmade.trans (hstill.mono (MakesIn.mono hrest)),
          (hfailed.mono (FailsIn.mono hrest)).after hmade.toOnward⟩
    rw [makeDirectories]
    refine .bind (.call ?_)
    split
    · exact hgone
    · next e heq =>
      refine .bind (alreadyThere_ends fun there => ?_)
      split
      · exact hgone
      · exact .throw ⟨hmade, _, [], rfl, path, List.mem_cons_self, congrArg _ heq⟩

theorem makeAll_ends (h : Orderly states w) (hnul : nulPosition? path = none) :
    (makeAll path : Setup DirectoryError (Watched σ) Unit).Ends w
      (fun _ w' => Still states (MakesIn (Path.ancestors path)) w w')
      (fun e w' => Still states (MakesIn (Path.ancestors path)) w w' ∧
        ∃ errno, e = .errno errno ∧ LatestCall (FailsIn (Path.ancestors path) errno) w w') := by
  rw [makeAll, hnul]
  refine .adaptExcept (.bind ((climb_ends hrules h).mono ?_ ?_))
  · rintro missing w' ⟨hstill, hmissing⟩
    refine (makeDirectories_ends hrules hstill.orderly).mono ?_ ?_
    · intro _ w'' hmade
      exact hstill.trans (hmade.mono (MakesIn.mono hmissing))
    · rintro e w'' ⟨hmade, hfailed⟩
      exact ⟨hstill.trans (hmade.mono (MakesIn.mono hmissing)), e, rfl,
        (hfailed.mono (FailsIn.mono hmissing)).after hstill.toOnward⟩
  · rintro e w' ⟨hstill, hfailed⟩
    exact ⟨hstill, e, rfl, hfailed⟩

end

/-! ## One file system -/

/-- A new mount that the machine gets to see as it is. -/
structure IsNewMount (c : MountCall) : Prop where
  plain : c.IsPlain
  fresh : c.flags.remount = false
  free : ([c.source, c.target, c.fstype] ++ c.data.toList).findSome? nulPosition? = none

theorem IsNewMount.target_free (h : IsNewMount c) : nulPosition? c.target = none :=
  List.findSome?_eq_none_iff.mp h.free c.target (by simp)

def IsMount (c : MountCall) : FileCall → Prop
  | .mount c' _ => c' = c
  | _ => False

/-- Mounts the file system, or makes a directory for it. -/
def IsFor (c : MountCall) : FileCall → Prop
  | .makeDirectory path _ => path ∈ Path.ancestors c.target
  | .mount c' _ => c' = c
  | _ => False

theorem IsMount.isFor : ∀ call, IsMount c call → IsFor c call := by
  intro call hcall
  cases call with
  | mount => exact hcall
  | _ => exact hcall.elim

theorem MakesIn.isFor : ∀ call, MakesIn (Path.ancestors c.target) call → IsFor c call := by
  intro call hcall
  cases call with
  | makeDirectory => exact hcall
  | _ => exact hcall.elim

/-- The failed call behind a failure to mount. -/
inductive BlamedOn (c : MountCall) : FileCall → HostError → Prop
  | directory {path : String} (e : Errno) (h : path ∈ Path.ancestors c.target) :
    BlamedOn c (.makeDirectory path (.error e)) (.mountPoint c.target (.errno e))
  | mount (e : Errno) : BlamedOn c (.mount c (.error e)) (.mount c.target c.fstype e)

/-- The target is listed. Where it was so before, nothing was done. -/
structure Provided (states : σ → Prop) (made : FileCall → Prop) (target : String)
    (w w' : Watched σ) : Prop where
  onward : Onward states made w w'
  listed : Lists w'.machine target
  idle : Lists w.machine target → w' = w

/-- The target is not listed, and the latest call is to blame. -/
structure Missed (states : σ → Prop) (c : MountCall) (e : HostError) (w w' : Watched σ) :
    Prop where
  still : Still states (IsFor c) w w'
  unlisted : ¬ Lists w'.machine c.target
  latest : LatestCall (BlamedOn c · e) w w'

section

variable (hrules : MountRules states)

include hrules

/-- A mount call is refused or succeeds. It is not made with a NUL in one of its strings. -/
theorem callMount_ends (h : Orderly states w) (hc : c.IsPlain)
    (htable : HasTable w.machine ∨ c.target = "/proc" ∧ c.flags.remount = false)
    (hunlisted : c.flags.remount = false → ¬ Lists w.machine c.target) :
    (callMount c : Setup ε (Watched σ) (Except Errno Unit)).Ends w
      (fun answer w' => match answer with
        | .ok () => Onward states (IsMount c) w w' ∧
          (c.flags.remount = false → Lists w'.machine c.target)
        | .error e => Still states (IsMount c) w w' ∧
          (([c.source, c.target, c.fstype] ++ c.data.toList).findSome? nulPosition? = none →
            LatestCall (· = .mount c (.error e)) w w'))
      (fun _ _ => False) := by
  have htable' : HasTable w.machine ∨
      LacksTable w.machine ∧ c.target = "/proc" ∧ c.flags.remount = false :=
    htable.elim .inl fun hproc => h.table.imp_right fun hlacks => ⟨hlacks, hproc⟩
  rw [callMount]
  split
  · next hnul =>
    refine .pure ⟨.refl h, fun hfree => ?_⟩
    rw [hfree] at hnul
    cases hnul
  · refine .call ?_
    have hcall : Files.mount c w = w.record (.mount c) (Files.mount c w.machine) := rfl
    rw [hcall, Watched.record]
    cases hanswer : (Files.mount c w.machine).1 with
    | error e =>
      have hstill : Still states (IsMount c) w
          ⟨(Files.mount c w.machine).2, ⟨w.machine, .mount c (.error e)⟩ :: w.calls⟩ := by
        refine h.still _ (hrules.refused c _ e h.states hanswer) rfl ?_ rfl
        rintro c' answer heq
        cases heq
        exact hunlisted
      exact ⟨hstill, fun _ => ⟨_, [], rfl, rfl⟩⟩
    | ok =>
      have hmounts := hrules.mounts h.states hc htable' hanswer
      exact ⟨h.mounts hmounts hunlisted rfl, hmounts.target⟩

theorem mountOne_ends (h : Orderly states w) (hc : IsNewMount c)
    (htable : HasTable w.machine ∨ c.target = "/proc") :
    (mountOne c : Setup HostError (Watched σ) Unit).Ends w
      (fun _ w' => Provided states (IsFor c) c.target w w')
      (fun e w' => Missed states c e w w') := by
  have hlisted := h.isMountPoint_iff htable
  -- The call comes last, with the mount point there or made.
  have hcalled {w₁ : Watched σ} (hstill : Still states (IsFor c) w w₁)
      (hnew : ¬ Lists w.machine c.target) : (do
        match ← callMount c with
        | .ok () => say (.mounted c.fstype c.target)
        | .error e => throw (.mount c.target c.fstype e) : Setup HostError (Watched σ) Unit).Ends w₁
      (fun _ w' => Provided states (IsFor c) c.target w w')
      (fun e w' => Missed states c e w w') := by
    have htable₁ : HasTable w₁.machine ∨ c.target = "/proc" ∧ c.flags.remount = false :=
      htable.imp hstill.keeps.hasTable fun hproc => ⟨hproc, hc.fresh⟩
    have hnew₁ : ¬ Lists w₁.machine c.target := fun hl => hnew (hstill.keeps.lists_iff.mp hl)
    refine .bind ((callMount_ends hrules hstill.orderly hc.plain htable₁ fun _ => hnew₁).mono ?_
      fun _ _ => False.elim)
    rintro (e | ⟨⟨⟩⟩) w' hw'
    · obtain ⟨hrefused, hlast⟩ := hw'
      have hstill' := hstill.trans (hrefused.mono IsMount.isFor)
      refine .throw ⟨hstill', fun hl => hnew (hstill'.keeps.lists_iff.mp hl), ?_⟩
      refine ((hlast hc.free).after hstill.toOnward).mono ?_
      rintro call rfl
      exact .mount e
    · obtain ⟨honward, htarget⟩ := hw'
      exact .say ⟨hstill.toOnward.trans (honward.mono IsMount.isFor), htarget hc.fresh,
        fun hl => absurd hl hnew⟩
  rw [mountOne]
  refine .bind (.ask ?_)
  split
  · next hmounted =>
    have hl := hlisted.mp hmounted
    exact .say ⟨.refl h, hl, fun _ => rfl⟩
  · next hmounted =>
    have hnew : ¬ Lists w.machine c.target := fun hl => hmounted (hlisted.mpr hl)
    refine .bind (.ask ?_)
    split
    · exact hcalled (.refl h) hnew
    · refine .bind (.adaptExcept ((makeAll_ends hrules h hc.target_free).mono ?_ ?_))
      · exact fun _ w₁ hstill => hcalled (hstill.mono MakesIn.isFor) hnew
      · rintro e w₁ ⟨hstill, errno, rfl, hlast⟩
        refine ⟨hstill.mono MakesIn.isFor, fun hl => hnew (hstill.keeps.lists_iff.mp hl),
          hlast.mono ?_⟩
        rintro call ⟨path, hpath, rfl⟩
        exact .directory errno hpath

end

/-! ## File systems one after the other -/

/-- The first mounts are there, and the next one has failed. -/
structure FailsAt (states : σ → Prop) (made : MountCall → FileCall → Prop) (done : List MountCall)
    (c : MountCall) (e : HostError) (w w' : Watched σ) : Prop where
  onward : Onward states (fun call => ∃ d ∈ done ++ [c], made d call) w w'
  mounted : ∀ d ∈ done, Lists w'.machine d.target
  unmounted : ¬ Lists w'.machine c.target
  latest : LatestCall (BlamedOn c · e) w w'

namespace FailsAt

variable {made made' : MountCall → FileCall → Prop} {done before : List MountCall} {e : HostError}
  {w₁ : Watched σ}

theorem after (h : FailsAt states made done c e w₁ w')
    (h₁ : Onward states (fun call => ∃ d ∈ before, made d call) w w₁)
    (hbefore : ∀ d ∈ before, Lists w₁.machine d.target) :
    FailsAt states made (before ++ done) c e w w' where
  onward := by
    rw [List.append_assoc]
    refine (h₁.mono ?_).trans (h.onward.mono ?_)
    · rintro call ⟨d, hd, hmade⟩
      exact ⟨d, List.mem_append_left _ hd, hmade⟩
    · rintro call ⟨d, hd, hmade⟩
      exact ⟨d, List.mem_append_right _ hd, hmade⟩
  mounted d hd := by
    rcases List.mem_append.mp hd with hd | hd
    · exact h.onward.lists _ (hbefore d hd)
    · exact h.mounted d hd
  unmounted := h.unmounted
  latest := h.latest.after h₁

theorem mono (h : FailsAt states made done c e w w')
    (hmade : ∀ d ∈ done ++ [c], ∀ call, made d call → made' d call) :
    FailsAt states made' done c e w w' where
  onward := h.onward.mono fun call ⟨d, hd, hcall⟩ => ⟨d, hd, hmade d hd call hcall⟩
  mounted := h.mounted
  unmounted := h.unmounted
  latest := h.latest

end FailsAt

section

variable (hrules : MountRules states)

include hrules

theorem mountEach_ends {mounts : List MountCall} (h : Orderly states w)
    (hmounts : ∀ c ∈ mounts, IsNewMount c)
    (htable : HasTable w.machine ∨ ∀ c ∈ mounts.head?, c.target = "/proc") :
    (mountEach mounts : Setup HostError (Watched σ) Unit).Ends w
      (fun _ w' => Onward states (fun call => ∃ c ∈ mounts, IsFor c call) w w' ∧
        (∀ c ∈ mounts, Lists w'.machine c.target) ∧
        ((∀ c ∈ mounts, Lists w.machine c.target) → w' = w))
      (fun e w' => ∃ done c rest, mounts = done ++ c :: rest ∧
        FailsAt states IsFor done c e w w') := by
  induction mounts generalizing w with
  | nil => exact .pure ⟨.refl h, List.forall_mem_nil _, fun _ => rfl⟩
  | cons c mounts ih =>
    obtain ⟨hc, hrest⟩ := List.forall_mem_cons.mp hmounts
    have hfirst : HasTable w.machine ∨ c.target = "/proc" :=
      htable.imp_right fun hproc => hproc c rfl
    have hlift : ∀ call, IsFor c call → ∃ d ∈ [c], IsFor d call := fun call hcall =>
      ⟨c, List.mem_singleton_self c, hcall⟩
    rw [mountEach]
    refine .bind ((mountOne_ends hrules h hc hfirst).mono ?_ ?_)
    · rintro _ w₁ ⟨honward, hlisted, hsame⟩
      have htable₁ := honward.orderly.hasTable hlisted
      refine (ih honward.orderly hrest (.inl htable₁)).mono ?_ ?_
      · rintro _ w' ⟨honward', hlisted', hsame'⟩
        refine ⟨(honward.mono ?_).trans (honward'.mono ?_), ?_, fun hall => ?_⟩
        · exact fun call hcall => ⟨c, List.mem_cons_self, hcall⟩
        · exact fun call ⟨d, hd, hcall⟩ => ⟨d, List.mem_cons_of_mem c hd, hcall⟩
        · exact List.forall_mem_cons.mpr ⟨honward'.lists _ hlisted, hlisted'⟩
        · obtain ⟨hlc, hlrest⟩ := List.forall_mem_cons.mp hall
          obtain rfl := hsame hlc
          exact hsame' hlrest
      · rintro e w' ⟨done, d, rest, rfl, hfails⟩
        refine ⟨c :: done, d, rest, rfl, hfails.after (honward.mono hlift) ?_⟩
        exact List.forall_mem_singleton.mpr hlisted
    · rintro e w' ⟨hstill, hunlisted, hlatest⟩
      exact ⟨[], c, mounts, rfl, hstill.toOnward.mono hlift, List.forall_mem_nil _, hunlisted,
        hlatest⟩

end

end InitDaemon.Host
