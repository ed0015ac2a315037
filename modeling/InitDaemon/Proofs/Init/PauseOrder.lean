import InitDaemon.Init.Poll
import Mathlib.Data.List.Nodup

/-!
# Shutdowns side by side

A shutdown pauses after every process has been asked to end, unless there is no grace period, and
again after the kill. Each of these pauses lasts the same time in every shutdown. Those that are due
go on by the ends of their pauses, and in the order in which they fell asleep where these are the
same. So the shutdown that began first stays ahead of all others to the end.
-/

namespace InitDaemon

/-- What is left of a shutdown that pauses. -/
structure Pause where
  state : PowerState
  deadline : Nat
  next : PowerStage

/-- The shutdowns that pause. Those that can go on stand in line, and the others sleep. -/
structure Pauses where
  now : Nat
  line : List TaskId
  asleep : List Alarm
  pause? : TaskId → Option Pause

namespace Pauses

variable {p p' : Pauses} {a b : Alarm} {id : TaskId} {leader : TaskId} {q r : Pause} {grace : Nat}

/-- The first pause of a shutdown that begins now. -/
def firstPause (now grace : Nat) (state : PowerState) : Pause :=
  if grace = 0 then ⟨state, now + World.cleanupPause, .finish⟩ else ⟨state, now + grace, .kill⟩

theorem firstPause_state (now grace : Nat) (state : PowerState) :
    (firstPause now grace state).state = state := by
  rw [firstPause]
  split
  all_goals rfl

theorem firstPause_stage (now grace : Nat) (state : PowerState) :
    (firstPause now grace state).next = .kill ∧ 0 < grace ∧
        (firstPause now grace state).deadline ≤ now + grace ∨
      (firstPause now grace state).next = .finish ∧
        (firstPause now grace state).deadline ≤ now + World.cleanupPause := by
  rw [firstPause]
  split
  next => exact .inr ⟨rfl, Nat.le_refl _⟩
  next hgrace => exact .inl ⟨rfl, Nat.pos_of_ne_zero hgrace, Nat.le_refl _⟩

def lastPause (now : Nat) (state : PowerState) : Pause :=
  ⟨state, now + World.cleanupPause, .finish⟩

def sleep (p : Pauses) (id : TaskId) (q : Pause) : Pauses :=
  { p with
    asleep := p.asleep ++ [⟨q.deadline, id⟩]
    pause? := fun c => if c = id then some q else p.pause? c }

/-- The head of the line goes on and has no place for now. -/
def leave (p : Pauses) (id : TaskId) (rest : List TaskId) : Pauses :=
  { p with line := rest, pause? := fun c => if c = id then none else p.pause? c }

theorem sleep_leave (p : Pauses) (id : TaskId) (rest : List TaskId) (q : Pause) :
    (p.leave id rest).sleep id q = ({ p with line := rest } : Pauses).sleep id q := by
  have hpause : ((p.leave id rest).sleep id q).pause? =
      (({ p with line := rest } : Pauses).sleep id q).pause? := by
    funext c
    by_cases hc : c = id
    · simp [sleep, hc]
    · simp [sleep, leave, hc]
  exact congrArg (Pauses.mk p.now rest (p.asleep ++ [⟨q.deadline, id⟩])) hpause

/-- The alarms that are due, in the order in which they ring. -/
structure Rings (p : Pauses) (due : List Alarm) : Prop where
  perm : due.Perm (p.asleep.filter (·.deadline ≤ p.now))
  sorted : due.Pairwise fun a b => a.deadline ≤ b.deadline
  stable : ∀ a b, [a, b].Sublist p.asleep → b.deadline ≤ p.now → a.deadline ≤ b.deadline →
    [a, b].Sublist due

/-- What can happen to the shutdowns that pause until one begins or ends. -/
inductive Step : Pauses → Pauses → Prop
  | pass (p : Pauses) (now : Nat) (h : p.now ≤ now) : Step p { p with now := now }
  | ring (p : Pauses) (due : List Alarm) (h : p.Rings due) :
    Step p { p with
      line := p.line ++ due.map Alarm.task, asleep := p.asleep.filter (p.now < ·.deadline) }
  /-- The head of the line performs the kill and pauses again. -/
  | kill (p : Pauses) (id : TaskId) (rest : List TaskId) (q : Pause) (hline : p.line = id :: rest)
    (hq : p.pause? id = some q) (hnext : q.next = .kill) :
    Step p ((p.leave id rest).sleep id (lastPause p.now q.state))

/-! ## Everyone has a place -/

structure Sound (grace : Nat) (p : Pauses) : Prop where
  nodup : (p.line ++ p.asleep.map Alarm.task).Nodup
  mem_iff : ∀ c, c ∈ p.line ++ p.asleep.map Alarm.task ↔ (p.pause? c).isSome
  due : ∀ c q, c ∈ p.line → p.pause? c = some q → q.deadline ≤ p.now
  alarm : ∀ a q, a ∈ p.asleep → p.pause? a.task = some q → q.deadline = a.deadline
  stage : ∀ c q, p.pause? c = some q →
    q.next = .kill ∧ 0 < grace ∧ q.deadline ≤ p.now + grace ∨
      q.next = .finish ∧ q.deadline ≤ p.now + World.cleanupPause

namespace Sound

theorem asleep_of_not_line (hp : p.Sound grace) (hq : p.pause? id = some q)
    (hline : id ∉ p.line) : ⟨q.deadline, id⟩ ∈ p.asleep := by
  have hmem : id ∈ p.line ++ p.asleep.map Alarm.task := (hp.mem_iff id).mpr (by rw [hq]; rfl)
  obtain ⟨a, ha, rfl⟩ := List.mem_map.mp ((List.mem_append.mp hmem).resolve_left hline)
  rw [hp.alarm a q ha hq]
  exact ha

theorem not_mem (hp : p.Sound grace) (h : p.pause? id = none) :
    id ∉ p.line ∧ id ∉ p.asleep.map Alarm.task := by
  have hmem := (hp.mem_iff id).not.mpr (by rw [h]; exact Bool.false_ne_true)
  exact ⟨fun hline => hmem (List.mem_append_left _ hline),
    fun hasleep => hmem (List.mem_append_right _ hasleep)⟩

theorem sleep (hp : p.Sound grace) (h : p.pause? id = none)
    (hstage : q.next = .kill ∧ 0 < grace ∧ q.deadline ≤ p.now + grace ∨
      q.next = .finish ∧ q.deadline ≤ p.now + World.cleanupPause) : (p.sleep id q).Sound grace := by
  have hplaces : (p.sleep id q).line ++ (p.sleep id q).asleep.map Alarm.task =
      (p.line ++ p.asleep.map Alarm.task) ++ [id] := by
    simp [Pauses.sleep]
  have hne : ∀ c, c ∈ p.line ++ p.asleep.map Alarm.task → c ≠ id := by
    rintro c hc rfl
    have hsome := (hp.mem_iff c).mp hc
    rw [h] at hsome
    cases hsome
  have hother : ∀ c, c ≠ id → (p.sleep id q).pause? c = p.pause? c := fun c hc => if_neg hc
  have hself : (p.sleep id q).pause? id = some q := if_pos rfl
  constructor
  case nodup =>
    rw [hplaces]
    exact hp.nodup.append (List.nodup_singleton id) (by simpa using fun hid => hne id hid rfl)
  case mem_iff =>
    intro c
    rw [hplaces, List.mem_append, hp.mem_iff, List.mem_singleton]
    by_cases hc : c = id
    · rw [hc, hself]
      simp
    · rw [hother c hc]
      simp [hc]
  case due =>
    intro c r hc hr
    rw [hother c (hne c (List.mem_append_left _ hc))] at hr
    exact hp.due c r hc hr
  case alarm =>
    intro a r ha hr
    rcases List.mem_append.mp ha with ha | ha
    · have htask : a.task ∈ p.asleep.map Alarm.task := List.mem_map_of_mem ha
      rw [hother a.task (hne a.task (List.mem_append_right _ htask))] at hr
      exact hp.alarm a r ha hr
    · cases List.mem_singleton.mp ha
      cases hself.symm.trans hr
      rfl
  case stage =>
    intro c r hr
    by_cases hc : c = id
    · rw [hc, hself] at hr
      cases hr
      exact hstage
    · rw [hother c hc] at hr
      exact hp.stage c r hr

theorem leave {rest : List TaskId} (hp : p.Sound grace) (hline : p.line = id :: rest) :
    (p.leave id rest).Sound grace := by
  have hnodup := hp.nodup
  rw [hline, List.cons_append, List.nodup_cons] at hnodup
  have hpause : ∀ c q, (if c = id then none else p.pause? c) = some q →
      c ≠ id ∧ p.pause? c = some q := by
    intro c q hq
    split at hq
    next => cases hq
    next hc => exact ⟨hc, hq⟩
  constructor
  case nodup => exact hnodup.2
  case mem_iff =>
    intro c
    have hc := hp.mem_iff c
    rw [hline, List.cons_append, List.mem_cons] at hc
    dsimp only [Pauses.leave]
    split
    next heq =>
      subst heq
      simpa using hnodup.1
    next hne =>
      rw [← hc]
      simp [hne]
  case due =>
    intro c q hc hq
    exact hp.due c q (hline ▸ List.mem_cons_of_mem id hc) (hpause c q hq).2
  case alarm => exact fun a q ha hq => hp.alarm a q ha (hpause a.task q hq).2
  case stage => exact fun c q hq => hp.stage c q (hpause c q hq).2

/-- An alarm rings if and only if it is due. -/
theorem mem_due_iff {due : List Alarm} (hp : p.Sound grace) (h : p.Rings due)
    (hq : p.pause? id = some q) (hline : id ∉ p.line) :
    ⟨q.deadline, id⟩ ∈ due ↔ q.deadline ≤ p.now := by
  rw [h.perm.mem_iff, List.mem_filter]
  have hasleep := hp.asleep_of_not_line hq hline
  exact ⟨fun hmem => of_decide_eq_true hmem.2, fun hdue => ⟨hasleep, decide_eq_true hdue⟩⟩

/-- Only those that do not sleep stood in line before. -/
theorem mem_line_iff {due : List Alarm} (hp : p.Sound grace) (h : p.Rings due)
    (hq : p.pause? id = some q) :
    id ∈ p.line ++ due.map Alarm.task ↔ id ∈ p.line ∨ q.deadline ≤ p.now := by
  rw [List.mem_append]
  refine or_congr_right' fun hline => ?_
  rw [← hp.mem_due_iff h hq hline]
  constructor
  · intro hmem
    obtain ⟨a, ha, rfl⟩ := List.mem_map.mp hmem
    rw [hp.alarm a q (List.mem_filter.mp (h.perm.mem_iff.mp ha)).1 hq]
    exact ha
  · exact fun hmem => List.mem_map.mpr ⟨_, hmem, rfl⟩

theorem ring {due : List Alarm} (hp : p.Sound grace) (h : p.Rings due) :
    ({ p with
      line := p.line ++ due.map Alarm.task
      asleep := p.asleep.filter (p.now < ·.deadline) } : Pauses).Sound grace := by
  have hsplit : (due ++ p.asleep.filter (p.now < ·.deadline)).Perm p.asleep := by
    have hpartition :=
      List.filter_append_perm (fun a : Alarm => decide (a.deadline ≤ p.now)) p.asleep
    simp only [← decide_not, Nat.not_le] at hpartition
    exact (h.perm.append_right _).trans hpartition
  have hplaces : ((p.line ++ due.map Alarm.task) ++
      (p.asleep.filter (p.now < ·.deadline)).map Alarm.task).Perm
        (p.line ++ p.asleep.map Alarm.task) := by
    rw [List.append_assoc, ← List.map_append]
    exact (hsplit.map Alarm.task).append_left p.line
  constructor
  case nodup => exact hplaces.nodup_iff.mpr hp.nodup
  case mem_iff => exact fun c => hplaces.mem_iff.trans (hp.mem_iff c)
  case due =>
    intro c q hc hq
    rcases List.mem_append.mp hc with hc | hc
    · exact hp.due c q hc hq
    · obtain ⟨a, ha, rfl⟩ := List.mem_map.mp hc
      obtain ⟨ha, hdue⟩ := List.mem_filter.mp (h.perm.mem_iff.mp ha)
      exact hp.alarm a q ha hq ▸ of_decide_eq_true hdue
  case alarm => exact fun a q ha hq => hp.alarm a q (List.mem_filter.mp ha).1 hq
  case stage => exact hp.stage

theorem begin (hp : p.Sound grace) (h : p.pause? id = none) (state : PowerState) :
    (p.sleep id (firstPause p.now grace state)).Sound grace :=
  hp.sleep h (firstPause_stage p.now grace state)

theorem step (hp : p.Sound grace) (h : Step p p') : p'.Sound grace := by
  cases h with
  | pass now h =>
    refine { hp with
      due := fun c q hc hq => Nat.le_trans (hp.due c q hc hq) h
      stage := fun c q hq => ?_ }
    refine (hp.stage c q hq).imp (fun hkill => ⟨hkill.1, hkill.2.1, ?_⟩) fun hfinish =>
      ⟨hfinish.1, ?_⟩
    · exact Nat.le_trans hkill.2.2 (Nat.add_le_add_right h _)
    · exact Nat.le_trans hfinish.2 (Nat.add_le_add_right h _)
  | ring due h => exact hp.ring h
  | kill id rest q hline =>
    exact (hp.leave hline).sleep (if_pos rfl) (.inr ⟨rfl, Nat.le_refl _⟩)

end Sound

/-! ## The first stays ahead -/

/-- Of two shutdowns that pause before the same stage the one goes on before the other. -/
structure Ahead (p : Pauses) (a b : Alarm) : Prop where
  in_line : a.task ∈ p.line → b.task ∈ p.line → [a.task, b.task].Sublist p.line
  asleep : a.task ∉ p.line → b.task ∉ p.line ∧
    (a.deadline < b.deadline ∨ a.deadline = b.deadline ∧ [a, b].Sublist p.asleep)

/-- A shutdown that no other one has overtaken. -/
structure Leads (p : Pauses) (leader : TaskId) (q : Pause) : Prop where
  pauses : p.pause? leader = some q
  ahead : ∀ c r, c ≠ leader → p.pause? c = some r → (q.next = .kill → r.next = .kill) ∧
    (r.next = q.next → p.Ahead ⟨q.deadline, leader⟩ ⟨r.deadline, c⟩)

/-- Two members of a list stand in it one after the other. -/
theorem pair_sublist_or {α : Type} {l : List α} {x y : α} (hx : x ∈ l) (hy : y ∈ l) (hne : x ≠ y) :
    [x, y].Sublist l ∨ [y, x].Sublist l := by
  obtain ⟨before, after, rfl⟩ := List.append_of_mem hx
  rcases List.mem_append.mp hy with hy | hy
  · right
    exact (List.singleton_sublist.mpr hy).append (List.singleton_sublist.mpr List.mem_cons_self)
  · left
    have hafter : y ∈ after := (List.mem_cons.mp hy).resolve_left hne.symm
    exact ((List.singleton_sublist.mpr hafter).cons_cons x).trans (List.sublist_append_right _ _)

namespace Leads

/-- Only the leader can be at the head of the line before a stage that it has still ahead of it. -/
theorem eq_of_head {rest : List TaskId} (h : p.Leads leader q) (hp : p.Sound grace)
    (hline : p.line = id :: rest) (hr : p.pause? id = some r) (hsame : r.next = q.next) :
    id = leader := by
  by_contra hne
  have hahead := (h.ahead id r hne hr).2 hsame
  have hid : id ∈ p.line := hline ▸ List.mem_cons_self
  have hleader : leader ∈ p.line := by
    by_contra hnot
    exact (hahead.asleep hnot).1 hid
  have hpair := hahead.in_line hleader hid
  rw [hline] at hpair
  have hnodup : (id :: rest).Nodup := hline ▸ hp.nodup.of_append_left
  cases hpair with
  | cons _ hrest => exact (List.nodup_cons.mp hnodup).1 (hrest.subset (by simp))
  | cons_cons => exact hne rfl

/-- Whoever is at the head of the line before the last stage is the leader. -/
theorem eq_of_finish {rest : List TaskId} (h : p.Leads leader q) (hp : p.Sound grace)
    (hline : p.line = id :: rest) (hr : p.pause? id = some r) (hfinish : r.next = .finish) :
    id = leader := by
  by_cases hid : id = leader
  · exact hid
  · refine h.eq_of_head hp hline hr ?_
    rcases hp.stage leader q h.pauses with ⟨hkill, -⟩ | ⟨hnext, -⟩
    · cases hfinish.symm.trans ((h.ahead id r hid hr).1 hkill)
    · exact hfinish.trans hnext.symm

/-- Someone falls asleep behind the leader. -/
theorem sleep (h : p.Leads leader q) (hp : p.Sound grace) (hne : id ≠ leader)
    (hid : id ∉ p.line) (hkill : q.next = .kill → r.next = .kill)
    (hdeadline : r.next = q.next → q.deadline ≤ r.deadline) : (p.sleep id r).Leads leader q := by
  refine ⟨(if_neg hne.symm).trans h.pauses, fun c t hc ht => ?_⟩
  by_cases heq : c = id
  · subst heq
    cases ht.symm.trans (if_pos rfl)
    refine ⟨hkill, fun hsame => ⟨fun _ hline => absurd hline hid, fun hline => ⟨hid, ?_⟩⟩⟩
    -- The leader sleeps already, so with the same deadline its alarm was set before.
    refine (Nat.lt_or_eq_of_le (hdeadline hsame)).imp_right fun hdeadline => ⟨hdeadline, ?_⟩
    have hasleep := List.singleton_sublist.mpr (hp.asleep_of_not_line h.pauses hline)
    exact hasleep.append (List.Sublist.refl _)
  · rw [Pauses.sleep] at ht
    obtain ⟨hkill, hahead⟩ := h.ahead c t hc (by simpa [heq] using ht)
    refine ⟨hkill, fun hsame => ⟨(hahead hsame).in_line, fun hline => ?_⟩⟩
    obtain ⟨hnot, horder⟩ := (hahead hsame).asleep hline
    exact ⟨hnot, horder.imp_right fun hpair =>
      ⟨hpair.1, hpair.2.trans (List.sublist_append_left _ _)⟩⟩

theorem ring {due : List Alarm} (h : p.Leads leader q) (hp : p.Sound grace) (hrings : p.Rings due) :
    ({ p with
      line := p.line ++ due.map Alarm.task
      asleep := p.asleep.filter (p.now < ·.deadline) } : Pauses).Leads leader q := by
  refine ⟨h.pauses, fun c r hc hr => ?_⟩
  obtain ⟨hkill, hahead⟩ := h.ahead c r hc hr
  refine ⟨hkill, fun hsame => ?_⟩
  obtain ⟨hline, hasleep⟩ := hahead hsame
  have hleader := hp.mem_line_iff hrings h.pauses
  have hother := hp.mem_line_iff hrings hr
  by_cases hin : leader ∈ p.line
  · refine ⟨fun _ hmem => ?_, fun hnot => absurd (hleader.mpr (.inl hin)) hnot⟩
    rcases List.mem_append.mp hmem with hmem | hmem
    · exact (hline hin hmem).trans (List.sublist_append_left _ _)
    · exact (List.singleton_sublist.mpr hin).append (List.singleton_sublist.mpr hmem)
  · obtain ⟨hnot, horder⟩ := hasleep hin
    have hle : q.deadline ≤ r.deadline := horder.elim Nat.le_of_lt fun heq => Nat.le_of_eq heq.1
    constructor
    · intro hmem hmem'
      have hdue : q.deadline ≤ p.now := (hleader.mp hmem).resolve_left hin
      have hdue' : r.deadline ≤ p.now := (hother.mp hmem').resolve_left hnot
      -- Both were asleep and ring now, in the order of their deadlines or of their alarms.
      have hpair : [⟨q.deadline, leader⟩, ⟨r.deadline, c⟩].Sublist due := by
        rcases horder with hlt | ⟨heq, hpair⟩
        · refine (pair_sublist_or ((hp.mem_due_iff hrings h.pauses hin).mpr hdue)
            ((hp.mem_due_iff hrings hr hnot).mpr hdue') fun heq => ?_).resolve_right fun hpair => ?_
          · exact hc (congrArg Alarm.task heq).symm
          · exact absurd (hrings.sorted.forall_sublist hpair) (Nat.not_le_of_lt hlt)
        · exact hrings.stable _ _ hpair hdue' (Nat.le_of_eq heq)
      exact (hpair.map Alarm.task).trans (List.sublist_append_right _ _)
    · intro hmem
      have hlate : p.now < q.deadline := Nat.lt_of_not_le fun hdue => hmem (hleader.mpr (.inr hdue))
      have hlate' : p.now < r.deadline := Nat.lt_of_lt_of_le hlate hle
      refine ⟨fun hmem' => ?_, horder.imp_right fun ⟨heq, hpair⟩ => ⟨heq, ?_⟩⟩
      · exact (hother.mp hmem').elim hnot fun hdue => absurd hdue (Nat.not_le_of_lt hlate')
      · have hkept := hpair.filter fun a => decide (p.now < a.deadline)
        simpa [List.filter_cons, hlate, hlate'] using hkept

theorem leave {rest : List TaskId} (h : p.Leads leader q) (hline : p.line = id :: rest)
    (hne : id ≠ leader) : (p.leave id rest).Leads leader q := by
  refine ⟨(if_neg hne.symm).trans h.pauses, fun c r hc hr => ?_⟩
  change (if c = id then none else p.pause? c) = some r at hr
  split at hr
  next => cases hr
  next hcid =>
    have hrest : ∀ c, c ≠ id → (c ∈ rest ↔ c ∈ p.line) := by
      intro c hc
      rw [hline, List.mem_cons]
      simp [hc]
    obtain ⟨hkill, hahead⟩ := h.ahead c r hc hr
    refine ⟨hkill, fun hsame => ⟨fun hin hin' => ?_, fun hout => ?_⟩⟩
    · have hpair := (hahead hsame).in_line ((hrest leader hne.symm).mp hin) ((hrest c hcid).mp hin')
      rw [hline] at hpair
      cases hpair with
      | cons _ hpair => exact hpair
      | cons_cons => exact absurd rfl hne
    · obtain ⟨hnot, horder⟩ := (hahead hsame).asleep ((hrest leader hne.symm).not.mp hout)
      exact ⟨(hrest c hcid).not.mpr hnot, horder⟩

theorem kill {rest : List TaskId} (h : p.Leads leader q) (hp : p.Sound grace)
    (hline : p.line = id :: rest) (hr : p.pause? id = some r) (hkill : r.next = .kill) :
    ∃ q', q'.state = q.state ∧
      ((p.leave id rest).sleep id (lastPause p.now r.state)).Leads leader q' := by
  by_cases hid : id = leader
  · -- The others are all before the kill.
    subst hid
    cases hr.symm.trans h.pauses
    refine ⟨lastPause p.now q.state, rfl, if_pos rfl, fun c t hc ht => ?_⟩
    have ht : p.pause? c = some t := by
      simpa [Pauses.sleep, Pauses.leave, hc] using ht
    exact ⟨nofun, fun hsame => by cases ((h.ahead c t hc ht).1 hkill).symm.trans hsame⟩
  · -- Whoever performs the kill without leading comes after the kill of the leader.
    have hfinish : q.next = .finish ∧ q.deadline ≤ p.now + World.cleanupPause := by
      refine (hp.stage leader q h.pauses).resolve_left fun hq => hid ?_
      exact h.eq_of_head hp hline hr (hkill.trans hq.1.symm)
    have hnot : id ∉ (p.leave id rest).line :=
      (List.nodup_cons.mp (hline ▸ hp.nodup.of_append_left)).1
    refine ⟨q, rfl, (h.leave hline hid).sleep (hp.leave hline) hid hnot ?_ fun _ => hfinish.2⟩
    exact fun hq => by cases hfinish.1.symm.trans hq

theorem begin (h : p.Leads leader q) (hp : p.Sound grace) (hid : p.pause? id = none)
    (state : PowerState) : (p.sleep id (firstPause p.now grace state)).Leads leader q := by
  have hne : id ≠ leader := by
    rintro rfl
    cases hid.symm.trans h.pauses
  refine h.sleep hp hne (hp.not_mem hid).1 ?_ ?_
  · intro hkill
    rw [firstPause, if_neg]
    rcases hp.stage leader q h.pauses with ⟨-, hgrace, -⟩ | ⟨hfinish, -⟩
    · exact Nat.ne_of_gt hgrace
    · cases hkill.symm.trans hfinish
  · rw [firstPause]
    rcases hp.stage leader q h.pauses with ⟨hkill, hgrace, hle⟩ | ⟨hfinish, hle⟩
    · rw [if_neg (Nat.ne_of_gt hgrace)]
      exact fun _ => hle
    · split
      · exact fun _ => hle
      · intro hsame
        cases hsame.trans hfinish

/-- Whatever happens, nobody overtakes the leader. -/
theorem step (h : p.Leads leader q) (hp : p.Sound grace) (hstep : Step p p') :
    ∃ q', q'.state = q.state ∧ p'.Leads leader q' := by
  cases hstep with
  | pass => exact ⟨q, rfl, h.pauses, fun c r hc hr => ⟨(h.ahead c r hc hr).1, fun hsame =>
      ⟨((h.ahead c r hc hr).2 hsame).in_line, ((h.ahead c r hc hr).2 hsame).asleep⟩⟩⟩
  | ring due hrings => exact ⟨q, rfl, h.ring hp hrings⟩
  | kill id rest r hline hr hkill => exact h.kill hp hline hr hkill

end Leads

theorem Step.none (h : Step p p') (hp : ∀ c, p.pause? c = none) (c : TaskId) :
    p'.pause? c = none := by
  cases h with
  | pass => exact hp c
  | ring => exact hp c
  | kill id rest q _ hq => cases (hp id).symm.trans hq

/-- The first shutdown leads. -/
theorem leads_sleep (h : ∀ c, p.pause? c = none) (id : TaskId) (q : Pause) :
    (p.sleep id q).Leads id q := by
  refine ⟨if_pos rfl, fun c r hc hr => ?_⟩
  rw [sleep] at hr
  simp [hc, h c] at hr

end Pauses

end InitDaemon
