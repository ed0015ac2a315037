import Mathlib.Data.List.Forall2
import InitDaemon.Proofs.FstabEntries
import InitDaemon.Proofs.Host.MountRounds

/-!
# The table of file systems, entry by entry

Once the basics are mounted, one mount call is made for each entry that is mounted at boot, in the
order of the table and whatever became of the calls before it. A target that is a mount point when
its turn comes is remounted.
-/

namespace InitDaemon.Host

open Setup Text

/-- The call does not reach the machine. -/
def HoldsNul (c : MountCall) : Prop :=
  ∃ s ∈ [c.source, c.target, c.fstype] ++ c.data.toList, '\x00' ∈ s.toList

instance (c : MountCall) : Decidable (HoldsNul c) :=
  inferInstanceAs (Decidable (∃ s ∈ _, _))

/-- A mount call that is made for an entry, and what comes of it. -/
structure Try (σ : Type) where
  before : σ
  call : MountCall
  answer : Except Errno Unit
  after : σ

namespace Try

variable {σ : Type}

def seen (t : Try σ) : SeenCall σ :=
  ⟨t.before, .mount t.call t.answer⟩

/-- The outcome is told, and nothing is made of it. -/
def notices (t : Try σ) : List Notice :=
  (if t.call.flags.remount then [.remounting t.call.target] else []) ++
    [match t.answer with
      | .ok () => .entryMounted t.call.target
      | .error e => .entryFailed t.call.target e]

variable [Files σ]

/-- The machine answers the call, unless it does not get to see it. -/
structure IsPerformed (t : Try σ) : Prop where
  seen : ¬ HoldsNul t.call → Files.mount t.call t.before = (t.answer, t.after)
  unseen : HoldsNul t.call → t.answer = .error .EINVAL ∧ t.after = t.before

/-- The call mounts what the entry says, as its options say. -/
structure IsFor (t : Try σ) (e : FstabEntry) : Prop where
  source : t.call.source = e.source
  target : t.call.target = e.mountPoint
  fstype : t.call.fstype = e.fstype
  readOnly : t.call.flags.readOnly = true ↔ "ro" ∈ e.optionList
  noSuid : t.call.flags.noSuid = true ↔ "nosuid" ∈ e.optionList
  noDev : t.call.flags.noDev = true ↔ "nodev" ∈ e.optionList
  noExec : t.call.flags.noExec = true ↔ "noexec" ∈ e.optionList
  noAtime : t.call.flags.noAtime = true ↔ "noatime" ∈ e.optionList
  remount : t.call.flags.remount = true ↔ isMountPoint e.mountPoint t.before = true
  no_data : t.call.data = none ↔ ∀ o ∈ e.optionList, o ∈ FstabEntry.flagWords
  data : ∀ text, t.call.data = some text →
    text = ",".intercalate (e.optionList.filter fun o => o ∉ FstabEntry.flagWords)

/-- The try for an entry on a machine. -/
def make (e : FstabEntry) (m : σ) : Try σ :=
  let call := entryCall e (isMountPoint e.mountPoint m)
  if HoldsNul call then ⟨m, call, .error .EINVAL, m⟩
  else ⟨m, call, (Files.mount call m).1, (Files.mount call m).2⟩

theorem make_before (e : FstabEntry) (m : σ) : (make e m).before = m := by
  rw [make]
  split <;> rfl

theorem make_call (e : FstabEntry) (m : σ) :
    (make e m).call = entryCall e (isMountPoint e.mountPoint m) := by
  rw [make]
  split <;> rfl

theorem make_isPerformed (e : FstabEntry) (m : σ) : (make e m).IsPerformed := by
  rw [make]
  split
  · next hnul => exact ⟨fun h => absurd hnul h, fun _ => ⟨rfl, rfl⟩⟩
  · next hnul => exact ⟨fun _ => rfl, fun h => absurd h hnul⟩

theorem make_isFor (e : FstabEntry) (m : σ) : (make e m).IsFor e := by
  have hdata : e.data.isEmpty = true ↔ ∀ o ∈ e.optionList, o ∈ FstabEntry.flagWords := by
    rw [FstabEntry.data_isEmpty_iff, FstabEntry.dataOptions_eq, List.filter_eq_nil_iff]
    simp only [decide_eq_true_eq, Classical.not_not]
  constructor
  case source | target | fstype => rw [make_call, entryCall]
  case readOnly | noSuid | noDev | noExec | noAtime =>
    rw [make_call, entryCall, FstabEntry.flags_eq]
    exact List.contains_iff_mem
  case remount =>
    rw [make_call, make_before]
    rfl
  case no_data =>
    rw [make_call, entryCall, ← hdata]
    split
    · next hempty => exact iff_of_true rfl hempty
    · next hempty => exact iff_of_false (Option.some_ne_none _) hempty
  case data =>
    intro text htext
    rw [make_call, entryCall] at htext
    split at htext
    · cases htext
    · rw [← FstabEntry.dataOptions_eq]
      exact (Option.some.inj htext).symm

end Try

variable {σ : Type}

/-- Each try starts where the one before it has ended. -/
inductive Linked : σ → List (Try σ) → σ → Prop
  | nil (m : σ) : Linked m [] m
  | cons (t : Try σ) {tries : List (Try σ)} {m' : σ} (h : Linked t.after tries m') :
    Linked t.before (t :: tries) m'

/-- The calls that the machine has seen, the latest first. -/
def seenCalls (tries : List (Try σ)) : List (SeenCall σ) :=
  ((tries.filter fun t => ¬ HoldsNul t.call).map Try.seen).reverse

/-- One try was made for each line of the table that stands for an entry that is mounted at boot,
and the machine was asked for nothing else. -/
structure EntriesTried [Files σ] (content : String) (tries : List (Try σ))
    (c c' : Console (Watched σ)) : Prop where
  lines : List.Forall₂ (fun line t => ∃ e : FstabEntry, e.IsAt line ∧ e.IsForBoot ∧ t.IsFor e)
    (Fstab.bootLines content) tries
  performed : ∀ t ∈ tries, t.IsPerformed
  linked : Linked c.machine.machine tries c'.machine.machine
  calls : c'.machine.calls = seenCalls tries ++ c.machine.calls
  notices : c'.notices = c.notices ++ .readingFstab fstabPath :: tries.flatMap Try.notices

/-! ## What the machine sees -/

theorem holdsNul_iff (c : MountCall) : HoldsNul c ↔
    (([c.source, c.target, c.fstype] ++ c.data.toList).findSome? nulPosition?).isSome = true := by
  rw [List.findSome?_isSome_iff, HoldsNul]
  refine exists_congr fun s => and_congr_right fun _ => ?_
  rw [nulPosition?]
  split
  · next hnul => exact iff_of_true (List.contains_iff_mem.mp hnul) rfl
  · next hnul => exact iff_of_false (mt List.contains_iff_mem.mpr hnul) nofun

theorem seenCalls_cons (t : Try σ) (tries : List (Try σ)) :
    seenCalls (t :: tries) = seenCalls tries ++ seenCalls [t] := by
  rw [seenCalls, seenCalls, seenCalls, ← List.singleton_append, List.filter_append, List.map_append,
    List.reverse_append]

theorem ok_of_bind {ε α β : Type} {step : Setup ε σ α} {next : α → Setup ε σ β}
    {c : Console σ} {b : β} (h : (step >>= next).run' c = some b) :
    ∃ a c', step c = .ok a c' ∧ (next a).run' c' = some b := by
  -- What a step answers is all that counts of it.
  have hanswer : EStateM.run' (fun _ => (step >>= next) c) c = some b := h
  cases hstep : step c with
  | ok a c' =>
    rw [bind_of_ok hstep] at hanswer
    exact ⟨a, c', rfl, hanswer⟩
  | error e c' =>
    rw [bind_of_error hstep] at hanswer
    cases hanswer

theorem ask_eq {ε α : Type} (query : σ → α) (c : Console σ) :
    (ask query : Setup ε σ α) c = .ok (query c.machine) c := rfl

theorem say_eq {ε : Type} (n : Notice) (c : Console σ) :
    (say n : Setup ε σ Unit) c = .ok () ⟨c.machine, c.notices ++ [n]⟩ := rfl

section

variable [Files σ] {ε : Type} {w : Watched σ}

theorem Try.IsPerformed.callMount_eq {t : Try σ} (h : t.IsPerformed)
    (hbefore : t.before = w.machine) (said : List Notice) :
    (callMount t.call : Setup ε (Watched σ) (Except Errno Unit)) ⟨w, said⟩ =
      .ok t.answer ⟨⟨t.after, seenCalls [t] ++ w.calls⟩, said⟩ := by
  rw [callMount]
  by_cases hnul : HoldsNul t.call
  · obtain ⟨hanswer, hafter⟩ := h.unseen hnul
    have hnone : seenCalls [t] = [] := by simp [seenCalls, hnul]
    rw [if_pos ((holdsNul_iff _).mp hnul), hanswer, hafter, hbefore, hnone]
    rfl
  · have hcall : Files.mount t.call w = (t.answer, ⟨t.after, t.seen :: w.calls⟩) := by
      change w.record (.mount t.call) (Files.mount t.call w.machine) = _
      rw [← hbefore, h.seen hnul, Watched.record, Try.seen, hbefore]
    have hone : seenCalls [t] = [t.seen] := by simp [seenCalls, hnul]
    rw [if_neg (mt (holdsNul_iff _).mpr hnul), hone]
    change EStateM.Result.ok (Files.mount t.call w).1 (Console.mk (Files.mount t.call w).2 said) = _
    rw [hcall]
    rfl

theorem Try.IsPerformed.mountEntry_eq {t : Try σ} {e : FstabEntry} (h : t.IsPerformed)
    (hbefore : t.before = w.machine) (hcall : t.call = entryCall e (isMountPoint e.mountPoint w))
    (said : List Notice) :
    mountEntry e ⟨w, said⟩ =
      .ok () ⟨⟨t.after, seenCalls [t] ++ w.calls⟩, said ++ t.notices⟩ := by
  have htarget : t.call.target = e.mountPoint := by rw [hcall, entryCall]
  have hremount : t.call.flags.remount = isMountPoint e.mountPoint w := by rw [hcall, entryCall]
  rw [mountEntry, Try.notices, hremount, htarget]
  refine (bind_of_ok (ask_eq _ _)).trans ?_
  dsimp only
  rw [← hcall]
  split
  · refine (bind_of_ok (say_eq _ _)).trans ((bind_of_ok (h.callMount_eq hbefore _)).trans ?_)
    rw [← List.append_assoc]
    cases t.answer with
    | error err => exact say_eq _ _
    | ok => exact say_eq _ _
  · refine (bind_of_ok (h.callMount_eq hbefore _)).trans ?_
    rw [List.nil_append]
    cases t.answer with
    | error err => exact say_eq _ _
    | ok => exact say_eq _ _

/-- The tries for entries one after the other. -/
def tries : List FstabEntry → σ → List (Try σ)
  | [], _ => []
  | e :: rest, m => Try.make e m :: tries rest (Try.make e m).after

theorem mountEntries_eq (entries : List FstabEntry) (w : Watched σ) (said : List Notice) : ∃ m',
    Linked w.machine (tries entries w.machine) m' ∧
      mountEntries entries ⟨w, said⟩ =
        .ok () ⟨⟨m', seenCalls (tries entries w.machine) ++ w.calls⟩,
          said ++ (tries entries w.machine).flatMap Try.notices⟩ := by
  induction entries generalizing w said with
  | nil => exact ⟨w.machine, .nil _, by rw [tries, List.flatMap_nil, List.append_nil]; rfl⟩
  | cons e rest ih =>
    let t := Try.make e w.machine
    obtain ⟨m', hlinked, hrest⟩ := ih ⟨t.after, seenCalls [t] ++ w.calls⟩ (said ++ t.notices)
    refine ⟨m', ?_, ?_⟩
    · have hlinked' := Linked.cons t hlinked
      rw [Try.make_before] at hlinked'
      exact hlinked'
    · have hcalls : seenCalls (t :: tries rest t.after) ++ w.calls =
          seenCalls (tries rest t.after) ++ (seenCalls [t] ++ w.calls) := by
        rw [seenCalls_cons, List.append_assoc]
      have hentry := (Try.make_isPerformed e w.machine).mountEntry_eq
        (Try.make_before e w.machine) (Try.make_call e w.machine) said
      refine (bind_of_ok hentry).trans (hrest.trans ?_)
      rw [tries, hcalls, List.flatMap_cons, List.append_assoc]

theorem tries_performed (entries : List FstabEntry) (m : σ) :
    ∀ t ∈ tries entries m, t.IsPerformed := by
  induction entries generalizing m with
  | nil => exact List.forall_mem_nil _
  | cons e rest ih => exact List.forall_mem_cons.mpr ⟨Try.make_isPerformed e m, ih _⟩

theorem tries_lines (content : String) (m : σ) :
    List.Forall₂ (fun line t => ∃ e : FstabEntry, e.IsAt line ∧ e.IsForBoot ∧ t.IsFor e)
      (Fstab.bootLines content) (tries (Fstab.bootEntries content) m) := by
  have hentries := Fstab.bootEntries_lines content
  generalize Fstab.bootLines content = lines at hentries ⊢
  generalize Fstab.bootEntries content = entries at hentries ⊢
  induction hentries generalizing m with
  | nil => exact .nil
  | @cons line e _ _ he _ ih => exact .cons ⟨e, he.1, he.2, Try.make_isFor e m⟩ (ih _)

theorem mountFstab_eq {content : String} (hread : Files.readText fstabPath w = .ok content)
    (said : List Notice) :
    ∃ c', mountFstab ⟨w, said⟩ = .ok () c' ∧
      EntriesTried content (tries (Fstab.bootEntries content) w.machine) ⟨w, said⟩ c' := by
  obtain ⟨m', hlinked, hentries⟩ :=
    mountEntries_eq (Fstab.bootEntries content) w (said ++ [.readingFstab fstabPath])
  rw [List.append_assoc, List.singleton_append] at hentries
  refine ⟨⟨⟨m', _⟩, _⟩, ?_, ⟨tries_lines content _, tries_performed _ _, hlinked, rfl, rfl⟩⟩
  rw [mountFstab]
  refine (bind_of_ok (say_eq _ _)).trans ((bind_of_ok (ask_eq _ _)).trans ?_)
  dsimp only
  rw [hread]
  exact hentries

end

/-! ## Under the rules of the mount table -/

section

variable [Files σ] {states : σ → Prop} {m : σ} {content : String} (hrules : MountRules states)

include hrules

theorem make_keeps {e : FstabEntry} (he : e ∈ Fstab.bootEntries content) (hstates : states m)
    (htable : HasTable m) :
    let t := Try.make e m
    (t.call.flags.remount = true ↔ Lists m t.call.target) ∧
      states t.after ∧ HasTable t.after ∧ (∀ p, Lists m p → Lists t.after p) ∧
        (t.answer = .ok () → Lists t.after t.call.target) := by
  intro t
  have hcall : t.call = entryCall e (isMountPoint e.mountPoint m) := Try.make_call e m
  have hremount : t.call.flags.remount = true ↔ Lists m t.call.target := by
    rw [hcall]
    exact htable.isMountPoint_iff
  have hplain : t.call.IsPlain := hcall ▸ entryCall_plain he _
  have hbefore : t.before = m := Try.make_before e m
  have hperformed : t.IsPerformed := Try.make_isPerformed e m
  refine ⟨hremount, ?_⟩
  by_cases hnul : HoldsNul t.call
  · obtain ⟨hanswer, hafter⟩ := hperformed.unseen hnul
    rw [hafter, hbefore, hanswer]
    exact ⟨hstates, htable, fun _ => id, nofun⟩
  · have hmount := hperformed.seen hnul
    rw [hbefore] at hmount
    cases hanswer : t.answer with
    | error err =>
      have hkeeps := hrules.refused t.call m err hstates (by rw [hmount, hanswer])
      rw [hmount] at hkeeps
      exact ⟨hkeeps.states, hkeeps.hasTable htable, fun _ => hkeeps.lists_iff.mpr, nofun⟩
    | ok =>
      have hmounts := hrules.mounts hstates hplain (.inl htable) (by rw [hmount, hanswer])
      rw [hmount] at hmounts
      refine ⟨hmounts.states, hmounts.table, hmounts.lists, fun _ => ?_⟩
      cases hnew : t.call.flags.remount with
      | false => exact hmounts.target hnew
      | true => exact hmounts.lists _ (hremount.mp hnew)

/-- An entry is remounted if its target is listed, and what is listed stays so. -/
theorem tries_listed {entries : List FstabEntry}
    (hentries : ∀ e ∈ entries, e ∈ Fstab.bootEntries content) (hstates : states m)
    (htable : HasTable m) :
    ∀ t ∈ tries entries m, (t.call.flags.remount = true ↔ Lists t.before t.call.target) ∧
      ∀ p, Lists m p → Lists t.before p := by
  induction entries generalizing m with
  | nil => exact List.forall_mem_nil _
  | cons e rest ih =>
    obtain ⟨he, hrest⟩ := List.forall_mem_cons.mp hentries
    obtain ⟨hremount, hstates', htable', hlists, -⟩ := make_keeps hrules he hstates htable
    refine List.forall_mem_cons.mpr ⟨?_, ?_⟩
    · rw [Try.make_before]
      exact ⟨hremount, fun _ => id⟩
    · intro t ht
      obtain ⟨hremount', hlists'⟩ := ih hrest hstates' htable' t ht
      exact ⟨hremount', fun p hp => hlists' p (hlists p hp)⟩

/-- What one entry has mounted is remounted by the later ones. -/
theorem tries_remount {entries : List FstabEntry}
    (hentries : ∀ e ∈ entries, e ∈ Fstab.bootEntries content) (hstates : states m)
    (htable : HasTable m) :
    (tries entries m).Pairwise fun t t' => t.answer = .ok () → t'.call.target = t.call.target →
      t'.call.flags.remount = true := by
  induction entries generalizing m with
  | nil => exact .nil
  | cons e rest ih =>
    obtain ⟨he, hrest⟩ := List.forall_mem_cons.mp hentries
    obtain ⟨-, hstates', htable', -, hmounted⟩ := make_keeps hrules he hstates htable
    refine .cons ?_ (ih hrest hstates' htable')
    intro t' ht' hok hsame
    obtain ⟨hremount, hlists⟩ := tries_listed hrules hrest hstates' htable' t' ht'
    rw [hremount, hsame]
    exact hlists _ (hmounted hok)

end

/-! ## The whole -/

/-- What is remounted is what is listed, and that is so for what an earlier try has mounted. -/
def RemountsListed [Files σ] (tries : List (Try σ)) : Prop :=
  (∀ t ∈ tries, t.call.flags.remount = true ↔ Lists t.before t.call.target) ∧
    tries.Pairwise fun t t' => t.answer = .ok () → t'.call.target = t.call.target →
      t'.call.flags.remount = true

variable [Files σ] {m : σ} {said : List Notice} {c : Console (Watched σ)} {content : String}

/-- Once the basics are mounted, mounting everything succeeds, whatever the entries of the table
come to. Each has its try, in the order of the table, and a target that is mounted, be it by an
earlier entry, is remounted. -/
theorem mountAll_tries_entries (hbasics : mountBasics ⟨⟨m, []⟩, said⟩ = .ok () c)
    (hread : Files.readText fstabPath c.machine = .ok content) :
    ∃ tries c', mountAll ⟨⟨m, []⟩, said⟩ = .ok () c' ∧ EntriesTried content tries c c' ∧
      ∀ states : σ → Prop, MountRules states → states m → HasTable m ∨ LacksTable m →
        RemountsListed tries := by
  obtain ⟨c', hfstab, htried⟩ := mountFstab_eq hread c.notices
  refine ⟨_, c', ?_, htried, ?_⟩
  · rw [mountAll_eq, bind_of_ok hbasics]
    exact hfstab
  · intro states hrules hm htable
    have hends := mountBasics_ends hrules (orderly_start hm htable) said
    rw [hbasics] at hends
    obtain ⟨horderly, hlisted, -⟩ := hends
    have htable' : HasTable c.machine.machine :=
      horderly.hasTable (hlisted (kernelMounts.head (by decide)) (by decide))
    constructor
    · intro t ht
      exact (tries_listed hrules (fun _ => id) horderly.states htable' t ht).1
    · exact tries_remount hrules (fun _ => id) horderly.states htable'

open Simulation in
theorem entries_on_machine_tried :
    let start : Console (Watched Machine) := ⟨⟨machineWithEntries, []⟩, []⟩
    ∃ c content tries c', mountBasics start = .ok () c ∧
      Files.readText fstabPath c.machine = .ok content ∧ mountAll start = .ok () c' ∧
        EntriesTried content tries c c' ∧ RemountsListed tries ∧ tries.length = 3 := by
  intro start
  let count : Setup HostError (Watched Machine) (Option Nat) := do
    mountBasics
    return (← ask (Files.readText fstabPath)).toOption.map fun content =>
      (Fstab.bootLines content).length
  have hcount : count.run' start = some (some 3) := by
    decide +kernel
  obtain ⟨_, c, hc, hlines⟩ := ok_of_bind hcount
  obtain ⟨content, hread, hlines⟩ := Option.map_eq_some_iff.mp (Option.some.inj hlines)
  cases hcontent : Files.readText fstabPath c.machine with
  | error e =>
    rw [hcontent] at hread
    cases hread
  | ok text =>
    rw [hcontent] at hread
    cases hread
    obtain ⟨tries, c', hall, htried, hrules⟩ := mountAll_tries_entries hc hcontent
    have htabled : machineWithEntries.IsTabled := .inl ⟨_, rfl⟩
    have htable : HasTable machineWithEntries := ⟨_, rfl, .append_line _ _⟩
    refine ⟨c, content, tries, c', hc, hcontent, hall, htried, ?_, ?_⟩
    · exact hrules _ Machine.mountRules htabled (.inl htable)
    · rw [← htried.lines.length_eq, hlines]

end InitDaemon.Host
