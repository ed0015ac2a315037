import InitDaemon.Proofs.FstabEntries
import Mathlib.Data.String.Basic

/-!
# The options of an entry

A column of options becomes the flags of a mount call and a string of data, and nothing that it
says is lost on the way: two columns come to the same call exactly if they agree on the five flags
and on all other options, in their order, and the data cut at commas gives these options back.
-/

namespace InitDaemon

open Text

/-- Each flag is a bit of its own in the number that the machine gets. -/
theorem MountFlags.testBit_bits (f : MountFlags) :
    f.bits.testBit 0 = f.readOnly ∧ f.bits.testBit 1 = f.noSuid ∧ f.bits.testBit 2 = f.noDev ∧
      f.bits.testBit 3 = f.noExec ∧ f.bits.testBit 5 = f.remount ∧
      f.bits.testBit 10 = f.noAtime := by
  obtain ⟨_ | _, _ | _, _ | _, _ | _, _ | _, _ | _⟩ := f <;> decide

namespace FstabEntry

variable {e e' : FstabEntry} {o : String}

/-- The pieces of a column between commas, without the blanks around them and without those that
are empty then. -/
def columnOptions (column : String) : List String :=
  (((column.toList.splitOn ',').map trim).filter (· ≠ [])).map String.ofList

/-- An option with a flag of the mount call. -/
structure Switch where
  word : String
  isSet : MountFlags → Bool

def switches : List Switch :=
  [⟨"ro", MountFlags.readOnly⟩, ⟨"noatime", MountFlags.noAtime⟩, ⟨"nosuid", MountFlags.noSuid⟩,
    ⟨"nodev", MountFlags.noDev⟩, ⟨"noexec", MountFlags.noExec⟩]

/-- Options that change nothing. -/
def neutralWords : List String :=
  ["rw", "defaults"]

/-- The options of a column that only the file system understands. -/
def otherOptions (column : String) : List String :=
  (columnOptions column).filter fun o => o ∉ switches.map Switch.word ∧ o ∉ neutralWords

def cutAtCommas (data : String) : List String :=
  (data.toList.splitOn ',').map String.ofList

theorem optionList_eq (e : FstabEntry) : e.optionList = columnOptions e.options := by
  rw [optionList, columnOptions, splitAt_eq_splitOn]
  refine congrArg (List.map String.ofList) (List.filter_congr fun piece _ => ?_)
  cases piece <;> rfl

theorem mem_flagWords_iff : o ∈ flagWords ↔ o ∈ switches.map Switch.word ∨ o ∈ neutralWords := by
  simp only [flagWords, switches, neutralWords, List.map_cons, List.map_nil, List.mem_cons,
    List.not_mem_nil, or_false, or_assoc]

theorem dataOptions_eq_other (e : FstabEntry) : e.dataOptions = otherOptions e.options := by
  rw [dataOptions_eq, optionList_eq, otherOptions]
  refine List.filter_congr fun o _ => ?_
  rw [decide_eq_decide, mem_flagWords_iff, not_or]

/-! ## Flags -/

/-- Each flag is set by its own option. -/
theorem isSet_iff {s : Switch} (hs : s ∈ switches) :
    s.isSet e.flags = true ↔ s.word ∈ columnOptions e.options := by
  rw [flags_eq, optionList_eq]
  simp only [switches, List.mem_cons, List.not_mem_nil, or_false] at hs
  rcases hs with rfl | rfl | rfl | rfl | rfl <;> exact List.contains_iff_mem

theorem flags_remount (e : FstabEntry) : e.flags.remount = false := by
  rw [flags_eq]

theorem eq_of_switches {f f' : MountFlags} (hremount : f.remount = f'.remount)
    (h : ∀ s ∈ switches, s.isSet f = true ↔ s.isSet f' = true) : f = f' := by
  simp only [switches, List.forall_mem_cons, List.not_mem_nil, false_imp_iff, implies_true,
    and_true, ← Bool.eq_iff_iff] at h
  obtain ⟨hreadOnly, hnoAtime, hnoSuid, hnoDev, hnoExec⟩ := h
  cases f
  cases f'
  simp_all

theorem flags_eq_iff : e.flags = e'.flags ↔ ∀ s ∈ switches,
    (s.word ∈ columnOptions e.options ↔ s.word ∈ columnOptions e'.options) := by
  constructor
  · intro h s hs
    rw [← isSet_iff hs, ← isSet_iff hs, h]
  · intro h
    apply eq_of_switches
    · rw [flags_remount, flags_remount]
    · intro s hs
      rw [isSet_iff hs, isSet_iff hs]
      exact h s hs

/-! ## Data -/

theorem comma_not_mem (h : o ∈ columnOptions e.options) : ',' ∉ o.toList := by
  obtain ⟨piece, hpiece, rfl⟩ := List.mem_map.mp h
  obtain ⟨whole, hwhole, rfl⟩ := List.mem_map.mp (List.mem_filter.mp hpiece).1
  intro hcomma
  rw [String.toList_ofList] at hcomma
  exact not_mem_of_mem_splitOn hwhole ((trim_sublist whole).subset hcomma)

/-- The data that is handed over, cut at commas, is what it was made of. -/
theorem cutAtCommas_data (h : e.dataOptions ≠ []) : cutAtCommas e.data = e.dataOptions := by
  have hcomma : ∀ piece ∈ e.dataOptions.map String.toList, ',' ∉ piece := by
    intro piece hpiece
    obtain ⟨o, ho, rfl⟩ := List.mem_map.mp hpiece
    rw [dataOptions, optionList_eq] at ho
    exact comma_not_mem (List.mem_of_mem_filter ho)
  have hcut : e.data.toList.splitOn ',' = e.dataOptions.map String.toList := by
    rw [data, String.toList_intercalate]
    exact List.splitOn_intercalate ',' hcomma (by simpa using h)
  rw [cutAtCommas, hcut, List.map_map]
  simp [Function.comp_def]

theorem data_eq_empty_iff : e.data = "" ↔ e.dataOptions = [] := by
  rw [← String.isEmpty_iff, data_isEmpty_iff]

theorem data_eq_iff : e.data = e'.data ↔ e.dataOptions = e'.dataOptions := by
  constructor
  · intro h
    by_cases hnone : e.dataOptions = []
    · rw [hnone, eq_comm, ← data_eq_empty_iff, ← h, data_eq_empty_iff, hnone]
    · have hsome : e'.dataOptions ≠ [] := by
        rwa [ne_eq, ← data_eq_empty_iff, ← h, data_eq_empty_iff]
      rw [← cutAtCommas_data hnone, ← cutAtCommas_data hsome, h]
  · intro h
    rw [data, data, h]

/-- Options are neither lost nor changed: flags and data tell which of the five options with flags
a column holds and what its other options are, in their order. What is mounted at boot is neither
swap space nor has it an option that asks for the mount to be left for later. -/
theorem options_kept :
    (∀ e e' : FstabEntry, (e.flags = e'.flags ∧ e.data = e'.data) ↔
      (∀ s ∈ switches, s.word ∈ columnOptions e.options ↔ s.word ∈ columnOptions e'.options) ∧
      otherOptions e.options = otherOptions e'.options) ∧
    (∀ e : FstabEntry, (∀ s ∈ switches, s.isSet e.flags = true ↔ s.word ∈ columnOptions e.options) ∧
      (e.data = "" ↔ otherOptions e.options = []) ∧
      (e.data ≠ "" → cutAtCommas e.data = otherOptions e.options)) ∧
    (∀ content, ∀ e ∈ Fstab.bootEntries content, "noauto" ∉ cutAtCommas e.data ∧
      e.fstype ≠ "swap" ∧ e.mountPoint ≠ "none" ∧ e.mountPoint ≠ "swap") := by
  have hcut : ∀ e : FstabEntry, e.data ≠ "" → cutAtCommas e.data = otherOptions e.options := by
    intro e hdata
    rw [← dataOptions_eq_other]
    exact cutAtCommas_data (mt data_eq_empty_iff.mpr hdata)
  refine ⟨fun e e' => ?_, fun e => ⟨fun s hs => isSet_iff hs, ?_, hcut e⟩, ?_⟩
  · rw [flags_eq_iff, data_eq_iff, dataOptions_eq_other, dataOptions_eq_other]
  · rw [data_eq_empty_iff, dataOptions_eq_other]
  · intro content e he
    obtain ⟨hfstype, ⟨hnone, hswap⟩, hauto⟩ := isForBoot_iff.mp (List.mem_filter.mp he).2
    refine ⟨?_, hfstype, hnone, hswap⟩
    by_cases hdata : e.data = ""
    · rw [hdata]
      decide
    · rw [hcut e hdata, ← dataOptions_eq_other]
      exact fun hmem => hauto (List.mem_of_mem_filter hmem)

def scattered : FstabEntry where
  source := "tmpfs"
  mountPoint := "/tmp"
  fstype := "tmpfs"
  options := "ro, mode=1777,,rw ,nosuid,\tsize=2G,ro"

def respelled : FstabEntry :=
  { scattered with options := "nosuid,defaults,mode=1777,size=2G , ro" }

theorem respelled_options_kept :
    scattered.flags = respelled.flags ∧ scattered.data = respelled.data ∧
    scattered.data ≠ "" ∧ cutAtCommas scattered.data = ["mode=1777", "size=2G"] ∧
    ⟨"noatime", MountFlags.noAtime⟩ ∈ switches ∧ scattered.flags.noAtime = false := by
  obtain ⟨hsame, hone, -⟩ := options_kept
  obtain ⟨hflags, hdata⟩ := (hsame scattered respelled).mpr ⟨by decide, by decide⟩
  obtain ⟨hset, hnone, hcut⟩ := hone scattered
  have hother : otherOptions scattered.options = ["mode=1777", "size=2G"] := by decide
  have hne : scattered.data ≠ "" := by
    rw [ne_eq, hnone, hother]
    decide
  have hswitch : ⟨"noatime", MountFlags.noAtime⟩ ∈ switches := .tail _ (.head _)
  refine ⟨hflags, hdata, hne, (hcut hne).trans hother, hswitch, ?_⟩
  rw [← Bool.not_eq_true]
  exact fun h => absurd ((hset _ hswitch).mp h) (by decide)

end FstabEntry

end InitDaemon
