import InitDaemon.Fstab
import InitDaemon.Proofs.Text.Pieces
import Mathlib.Data.List.Forall2

/-!
# The table of file systems, line by line

Which lines of the table stand for entries, which of them are mounted at boot, and what becomes of
their options.
-/

namespace InitDaemon

open Text

/-! ## Lines -/

namespace FstabEntry

variable {e : FstabEntry} {line : List Char}

/-- The columns of a line that is no comment. -/
structure IsAt (e : FstabEntry) (line : List Char) : Prop where
  columns : ∃ rest, words line =
    e.source.toList :: e.mountPoint.toList :: e.fstype.toList :: rest ∧
      e.options = String.ofList (rest.headD [])
  comment : e.source.toList.head? ≠ some '#'

/-- An entry that a line can hold. -/
structure IsProper (e : FstabEntry) : Prop where
  source : IsToken e.source
  mountPoint : IsToken e.mountPoint
  fstype : IsToken e.fstype
  options : e.options = "" ∨ IsToken e.options
  comment : e.source.toList.head? ≠ some '#'

/-- Neither swap space nor left for later. -/
structure IsForBoot (e : FstabEntry) : Prop where
  fstype : e.fstype ≠ "swap"
  mountPoint : e.mountPoint ≠ "none" ∧ e.mountPoint ≠ "swap"
  auto : "noauto" ∉ e.optionList

theorem ofLine?_eq_some_iff : ofLine? line = some e ↔ e.IsAt line := by
  rw [ofLine?, head?_trim]
  constructor
  · intro h
    split at h
    · cases h
    · next hcomment =>
      split at h
      · next source mountPoint fstype rest hwords =>
        cases h
        rw [hwords] at hcomment
        exact ⟨⟨rest, by simpa using hwords, rfl⟩, by simpa using hcomment⟩
      · cases h
  · rintro ⟨⟨rest, hwords, hoptions⟩, hcomment⟩
    have hhead : (words line).head?.bind List.head? ≠ some '#' := by rwa [hwords]
    rw [if_neg hhead, hwords]
    dsimp only
    rw [String.ofList_toList, String.ofList_toList, String.ofList_toList, ← hoptions]

theorem IsAt.isProper (h : e.IsAt line) : e.IsProper := by
  obtain ⟨⟨rest, hwords, hoptions⟩, hcomment⟩ := h
  have htoken : ∀ column : String, column.toList ∈ words line → IsToken column := by
    intro column hmem
    rw [← String.ofList_toList (s := column)]
    exact token_of_mem_words hmem
  refine ⟨htoken _ ?_, htoken _ ?_, htoken _ ?_, ?_, hcomment⟩
  · simp [hwords]
  · simp [hwords]
  · simp [hwords]
  · cases rest with
    | nil => exact .inl hoptions
    | cons options further =>
      refine .inr (htoken _ ?_)
      simp [hwords, hoptions]

theorem isAuto_iff : e.isAuto = true ↔ "noauto" ∉ e.optionList := by
  have hpiece : ((splitAt ',' e.options.toList).map fun o => String.ofList (trim o)).contains
      "noauto" = true ↔ "noauto" ∈ e.optionList := by
    rw [List.contains_iff_mem, optionList, List.mem_map, List.mem_map]
    constructor
    · rintro ⟨piece, hpiece, heq⟩
      refine ⟨trim piece, List.mem_filter.mpr ⟨List.mem_map_of_mem hpiece, ?_⟩, heq⟩
      cases htrim : trim piece with
      | nil =>
        rw [htrim] at heq
        exact absurd heq (by decide)
      | cons => rfl
    · rintro ⟨option, hoption, heq⟩
      obtain ⟨piece, hpiece, rfl⟩ := List.mem_map.mp (List.mem_filter.mp hoption).1
      exact ⟨piece, hpiece, heq⟩
  rw [isAuto, Bool.not_eq_true', ← Bool.not_eq_true, hpiece]

theorem isForBoot_iff : (!e.isSwap && e.isAuto) = true ↔ e.IsForBoot := by
  rw [Bool.and_eq_true, isAuto_iff, isSwap]
  simp only [Bool.not_eq_true', Bool.or_eq_false_iff, beq_eq_false_iff_ne]
  constructor
  · rintro ⟨⟨⟨hfstype, hnone⟩, hswap⟩, hauto⟩
    exact ⟨hfstype, ⟨hnone, hswap⟩, hauto⟩
  · rintro ⟨hfstype, ⟨hnone, hswap⟩, hauto⟩
    exact ⟨⟨⟨hfstype, hnone⟩, hswap⟩, hauto⟩

/-! ## Options -/

/-- The options that are no data. -/
def flagWords : List String :=
  ["ro", "noatime", "nosuid", "nodev", "noexec", "rw", "defaults"]

theorem flagOf?_eq_none_iff {f : MountFlags} {o : String} :
    flagOf? f o = none ↔ o ∉ flagWords := by
  unfold flagOf?
  split <;> simp_all [flagWords]

theorem getD_flagOf? (f : MountFlags) (o : String) :
    (flagOf? f o).getD f = { f with
      readOnly := f.readOnly || "ro" == o
      noSuid := f.noSuid || "nosuid" == o
      noDev := f.noDev || "nodev" == o
      noExec := f.noExec || "noexec" == o
      noAtime := f.noAtime || "noatime" == o } := by
  unfold flagOf?
  split
  case h_8 hro hnoatime hnosuid hnodev hnoexec _ _ =>
    have hother : ∀ {word : String}, o ≠ word → (word == o) = false := fun h =>
      beq_eq_false_iff_ne.mpr h.symm
    simp only [hother hro, hother hnoatime, hother hnosuid, hother hnodev, hother hnoexec,
      Bool.or_false]
    rfl
  all_goals simp

/-- Each flag is set by its own word. -/
theorem flags_eq (e : FstabEntry) :
    e.flags = {
      readOnly := e.optionList.contains "ro"
      noSuid := e.optionList.contains "nosuid"
      noDev := e.optionList.contains "nodev"
      noExec := e.optionList.contains "noexec"
      noAtime := e.optionList.contains "noatime" } := by
  have hfold : ∀ (options : List String) (f : MountFlags),
      options.foldl (fun f o => (flagOf? f o).getD f) f = { f with
        readOnly := f.readOnly || options.contains "ro"
        noSuid := f.noSuid || options.contains "nosuid"
        noDev := f.noDev || options.contains "nodev"
        noExec := f.noExec || options.contains "noexec"
        noAtime := f.noAtime || options.contains "noatime" } := by
    intro options
    induction options with
    | nil => simp
    | cons o options ih =>
      intro f
      rw [List.foldl_cons, ih, getD_flagOf?]
      simp only [List.contains_cons, Bool.or_assoc]
  rw [flags, hfold]
  simp only [Bool.false_or]

theorem dataOptions_eq (e : FstabEntry) :
    e.dataOptions = e.optionList.filter fun o => o ∉ flagWords := by
  refine List.filter_congr fun o _ => ?_
  rw [Bool.eq_iff_iff, Option.isNone_iff_eq_none, decide_eq_true_iff]
  exact flagOf?_eq_none_iff

theorem ne_empty_of_mem_optionList {o : String} (h : o ∈ e.optionList) : o ≠ "" := by
  obtain ⟨piece, hpiece, rfl⟩ := List.mem_map.mp h
  obtain ⟨-, hne⟩ := List.mem_filter.mp hpiece
  intro heq
  have hnil : piece = [] := by simpa using congrArg String.toList heq
  rw [hnil] at hne
  cases hne

theorem data_isEmpty_iff : e.data.isEmpty = true ↔ e.dataOptions = [] := by
  rw [String.isEmpty_iff, data]
  constructor
  · intro hempty
    cases hoptions : e.dataOptions with
    | nil => rfl
    | cons o options =>
      -- The first option is part of the data.
      have ho : o ∈ e.dataOptions := hoptions ▸ List.mem_cons_self
      refine absurd ?_ (ne_empty_of_mem_optionList (List.mem_filter.mp ho).1)
      rw [hoptions] at hempty
      cases options with
      | nil => rwa [String.intercalate_singleton] at hempty
      | cons o' options =>
        rw [String.intercalate_cons_cons, String.append_eq_empty_iff, String.append_eq_empty_iff]
          at hempty
        exact hempty.1.1
  · intro hnone
    rw [hnone, String.intercalate_nil]

end FstabEntry

/-! ## Entries -/

namespace Fstab

variable {line : List Char} {content : String}

/-- The line stands for an entry that is mounted at boot. -/
def IsBootLine (line : List Char) : Prop :=
  ∃ e : FstabEntry, e.IsAt line ∧ e.IsForBoot

theorem isBootLine_iff_of_isAt {e : FstabEntry} (he : e.IsAt line) :
    IsBootLine line ↔ e.IsForBoot := by
  constructor
  · rintro ⟨e', he', hboot⟩
    rw [← FstabEntry.ofLine?_eq_some_iff] at he he'
    cases he.symm.trans he'
    exact hboot
  · intro hboot
    exact ⟨e, he, hboot⟩

theorem isBootLine_iff : IsBootLine line ↔
    (FstabEntry.ofLine? line).any (fun e => !e.isSwap && e.isAuto) = true := by
  cases hline : FstabEntry.ofLine? line with
  | none =>
    refine iff_of_false ?_ Bool.false_ne_true
    rintro ⟨e, he, -⟩
    cases hline.symm.trans (FstabEntry.ofLine?_eq_some_iff.mpr he)
  | some e =>
    rw [isBootLine_iff_of_isAt (FstabEntry.ofLine?_eq_some_iff.mp hline)]
    exact FstabEntry.isForBoot_iff.symm

instance : DecidablePred IsBootLine :=
  fun _ => decidable_of_iff _ isBootLine_iff.symm

def bootLines (content : String) : List (List Char) :=
  (lines content.toList).filter fun line => IsBootLine line

/-- What a partial function gives, one by one. -/
theorem forall₂_filterMap {α β : Type} (f : α → Option β) (as : List α) :
    List.Forall₂ (fun a b => f a = some b) (as.filter fun a => (f a).isSome) (as.filterMap f) := by
  induction as with
  | nil => exact .nil
  | cons a as ih =>
    cases ha : f a with
    | none =>
      rw [List.filterMap_cons_none ha, List.filter_cons_of_neg (by simp [ha])]
      exact ih
    | some b =>
      rw [List.filterMap_cons_some ha, List.filter_cons_of_pos (by simp [ha])]
      exact .cons ha ih

/-- The entries that are mounted at boot are those of such lines, in the same order. -/
theorem bootEntries_lines (content : String) :
    List.Forall₂ (fun line e => e.IsAt line ∧ e.IsForBoot) (bootLines content)
      (bootEntries content) := by
  have hsome : ∀ line e,
      (FstabEntry.ofLine? line).filter (fun e => !e.isSwap && e.isAuto) = some e ↔
        e.IsAt line ∧ e.IsForBoot := by
    intro line e
    rw [Option.filter_eq_some_iff, FstabEntry.ofLine?_eq_some_iff, FstabEntry.isForBoot_iff]
  have hboot : ∀ line, ((FstabEntry.ofLine? line).filter fun e => !e.isSwap && e.isAuto).isSome =
      decide (IsBootLine line) := by
    intro line
    rw [Bool.eq_iff_iff, Option.isSome_iff_exists, decide_eq_true_iff]
    exact exists_congr (hsome line)
  have hentries := forall₂_filterMap
    (fun line => (FstabEntry.ofLine? line).filter fun e => !e.isSwap && e.isAuto)
    (lines content.toList)
  simp only [hboot, hsome] at hentries
  rwa [bootLines, bootEntries, parse, List.filter_filterMap]

end Fstab

end InitDaemon
