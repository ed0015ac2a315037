import InitDaemon.Proofs.FstabEntries
import Mathlib.Data.String.Basic

/-!
# The table of file systems as a format

A line with at least three columns that is no comment is an entry, wherever it stands and whatever
the other lines are. Entries may be laid out with any blanks between their columns: read back, they
are the same entries.
-/

namespace InitDaemon

open Text

/-! ## Layouts -/

/-- Blanks that stay on their line. -/
structure Gap where
  chars : List Char
  blank : ∀ c ∈ chars, isBlank c = true
  onLine : '\n' ∉ chars

/-- A gap between two columns. -/
structure Separator extends Gap where
  ne_nil : chars ≠ []

/-- What may stand behind the columns of an entry: nothing, or a blank and anything after it. -/
structure Remainder where
  chars : List Char
  head : ∀ c ∈ chars.head?, isBlank c = true
  onLine : '\n' ∉ chars

/-- How an entry is laid out on a line. Where the options are missing the line ends with blanks. -/
structure Layout where
  indent : Gap
  beforeMountPoint : Separator
  beforeType : Separator
  beforeOptions : Separator
  further : Remainder
  ending : Gap

namespace Separator

variable (s : Separator) (rest : List Char)

theorem head_append : ∀ c ∈ (s.chars ++ rest).head?, isBlank c = true := by
  intro c hc
  rw [List.head?_append_of_ne_nil _ s.ne_nil] at hc
  exact s.blank c (List.mem_of_mem_head? hc)

end Separator

namespace FstabEntry

variable {e : FstabEntry} {line : List Char}

/-- The line has the three columns of an entry and is no comment. -/
def Holds (line : List Char) : Prop :=
  3 ≤ (words line).length ∧ (words line).head?.bind List.head? ≠ some '#'

instance : DecidablePred Holds :=
  fun _ => inferInstanceAs (Decidable (_ ∧ _))

theorem isAt_congr {line' : List Char} (h : words line = words line') :
    e.IsAt line ↔ e.IsAt line' := by
  constructor
  · rintro ⟨hcolumns, hcomment⟩
    exact ⟨h ▸ hcolumns, hcomment⟩
  · rintro ⟨hcolumns, hcomment⟩
    exact ⟨h ▸ hcolumns, hcomment⟩

theorem ofLine?_congr {line' : List Char} (h : words line = words line') :
    ofLine? line = ofLine? line' := by
  apply Option.ext
  intro e
  rw [ofLine?_eq_some_iff, ofLine?_eq_some_iff]
  exact isAt_congr h

theorem isSome_ofLine? : (ofLine? line).isSome = decide (Holds line) := by
  rw [Bool.eq_iff_iff, Option.isSome_iff_exists, decide_eq_true_iff]
  constructor
  · rintro ⟨e, he⟩
    obtain ⟨⟨rest, hwords, -⟩, hcomment⟩ := ofLine?_eq_some_iff.mp he
    rw [Holds, hwords]
    exact ⟨by simp, hcomment⟩
  · rintro ⟨hlength, hcomment⟩
    rw [ofLine?, Text.head?_trim, if_neg hcomment]
    split
    · exact ⟨_, rfl⟩
    · next hshort =>
      rcases hwords : words line with _ | ⟨source, _ | ⟨mountPoint, _ | ⟨fstype, rest⟩⟩⟩
      case cons.cons.cons => exact absurd hwords (hshort source mountPoint fstype rest)
      all_goals simp [hwords] at hlength

/-- The options are empty where the line has no column for them. -/
theorem IsAt.options_eq_empty_iff (h : e.IsAt line) :
    e.options = "" ↔ (words line).length = 3 := by
  obtain ⟨⟨rest, hwords, hoptions⟩, -⟩ := h
  cases rest with
  | nil => simp [hwords, hoptions]
  | cons options further =>
    have hmem : options ∈ words line := by simp [hwords]
    have hne : e.options ≠ "" := by
      rw [hoptions]
      simpa using (token_of_mem_words hmem).1
    simp [hwords, hne]

end FstabEntry

namespace Fstab

open FstabEntry

theorem parse_eq (content : String) :
    parse content = (content.toList.splitOn '\n').filterMap ofLine? :=
  filterMap_lines (fun _ _ => ofLine?_congr) rfl content.toList

theorem parse_append (a b : String) : parse (a ++ "\n" ++ b) = parse a ++ parse b := by
  have hcut : (a ++ "\n" ++ b).toList.splitOn '\n' =
      a.toList.splitOn '\n' ++ b.toList.splitOn '\n' := by
    simp only [String.toList_append, List.append_assoc, List.splitOn_eq_splitOnP]
    exact List.splitOnP_append_cons a.toList b.toList (beq_self_eq_true '\n')
  rw [parse_eq, parse_eq, parse_eq, hcut, List.filterMap_append]

/-- The entries are those of the lines that hold one, in the same order. -/
theorem parse_lines (content : String) :
    List.Forall₂ (fun line e => e.IsAt line)
      ((content.toList.splitOn '\n').filter fun line => Holds line) (parse content) := by
  have hentries := forall₂_filterMap ofLine? (content.toList.splitOn '\n')
  simp only [isSome_ofLine?, ofLine?_eq_some_iff] at hentries
  rwa [parse_eq]

end Fstab

/-! ## Writing an entry -/

namespace Layout

variable {e : FstabEntry} (l : Layout)

def afterType (e : FstabEntry) : List Char :=
  if e.options = "" then l.ending.chars
  else l.beforeOptions.chars ++ (e.options.toList ++ l.further.chars)

/-- The line of an entry. -/
def write (e : FstabEntry) : List Char :=
  l.indent.chars ++ (e.source.toList ++ (l.beforeMountPoint.chars ++
    (e.mountPoint.toList ++ (l.beforeType.chars ++ (e.fstype.toList ++ l.afterType e)))))

theorem words_column {column : String} (h : IsToken column) {more : List Char}
    (hmore : ∀ c ∈ more.head?, isBlank c = true) :
    words (column.toList ++ more) = column.toList :: words more :=
  words_word_append h.1 h.2 hmore

theorem words_separated {column : String} (h : IsToken column) (s : Separator)
    (more : List Char) :
    words (column.toList ++ (s.chars ++ more)) = column.toList :: words more := by
  rw [words_column h (s.head_append more), words_blanks_append s.blank]

theorem head_afterType : ∀ c ∈ (l.afterType e).head?, isBlank c = true := by
  rw [afterType]
  split
  · intro c hc
    exact l.ending.blank c (List.mem_of_mem_head? hc)
  · exact l.beforeOptions.head_append _

theorem words_afterType (h : e.IsProper) : ∃ further,
    words (l.afterType e) = further ∧ e.options = String.ofList (further.headD []) := by
  refine ⟨_, rfl, ?_⟩
  rw [afterType]
  rcases h.options with hnone | htoken
  · have hblank : words l.ending.chars = [] := by
      rw [← List.append_nil l.ending.chars, words_blanks_append l.ending.blank]
      rfl
    simp [hnone, hblank]
  · have hne : e.options ≠ "" := by simpa using htoken.1
    rw [if_neg hne, words_blanks_append l.beforeOptions.blank, words_column htoken l.further.head]
    simp

/-- However an entry is laid out, its line has the columns of the entry. -/
theorem isAt_write (h : e.IsProper) : e.IsAt (l.write e) := by
  obtain ⟨further, hfurther, hoptions⟩ := l.words_afterType h
  refine ⟨⟨further, ?_, hoptions⟩, h.comment⟩
  rw [write, words_blanks_append l.indent.blank, words_separated h.source,
    words_separated h.mountPoint, words_column h.fstype l.head_afterType, hfurther]

theorem newline_not_mem_write (h : e.IsProper) : '\n' ∉ l.write e := by
  have hafter : '\n' ∉ l.afterType e := by
    rw [afterType]
    split
    · exact l.ending.onLine
    · next hsome =>
      have hoptions := h.options.resolve_left hsome
      simp only [List.mem_append, not_or]
      exact ⟨l.beforeOptions.onLine, not_mem_of_token hoptions, l.further.onLine⟩
  simp only [write, List.mem_append, not_or]
  exact ⟨l.indent.onLine, not_mem_of_token h.source, l.beforeMountPoint.onLine,
    not_mem_of_token h.mountPoint, l.beforeType.onLine,
    not_mem_of_token h.fstype, hafter⟩

end Layout

namespace Fstab

/-- Entries, each with its layout, one on a line. -/
def write (rows : List (Layout × FstabEntry)) : String :=
  "\n".intercalate (rows.map fun (l, e) => String.ofList (l.write e))

theorem parse_write_row {l : Layout} {e : FstabEntry} (h : e.IsProper) :
    parse (String.ofList (l.write e)) = [e] := by
  rw [parse_eq, String.toList_ofList, List.splitOn_eq_singleton (l.newline_not_mem_write h),
    List.filterMap_cons_some (FstabEntry.ofLine?_eq_some_iff.mpr (l.isAt_write h)),
    List.filterMap_nil]

theorem parse_write {rows : List (Layout × FstabEntry)} (h : ∀ row ∈ rows, row.2.IsProper) :
    parse (write rows) = rows.map Prod.snd := by
  induction rows with
  | nil => rfl
  | cons row rows ih =>
    rw [List.forall_mem_cons] at h
    cases rows with
    | nil =>
      rw [write, List.map_singleton, String.intercalate_singleton, parse_write_row h.1]
      rfl
    | cons next rows =>
      have hfirst : write (row :: next :: rows) =
          String.ofList (row.1.write row.2) ++ "\n" ++ write (next :: rows) :=
        String.intercalate_cons_cons
      rw [hfirst, parse_append, parse_write_row h.1, ih h.2]
      rfl

/-- The table and its format are inverse: entries are read from the lines that hold one and from no
others, each part of a text by itself, and entries that are written are read back. -/
theorem entries_read_back :
    (∀ content, List.Forall₂ (fun line e => e.IsAt line ∧ e.IsProper ∧
        (e.options = "" ↔ (words line).length = 3))
      ((content.toList.splitOn '\n').filter fun line => FstabEntry.Holds line) (parse content)) ∧
    (∀ a b, parse (a ++ "\n" ++ b) = parse a ++ parse b) ∧
    ∀ rows : List (Layout × FstabEntry), (∀ row ∈ rows, row.2.IsProper) →
      parse (write rows) = rows.map Prod.snd ∧
      parse (write rows ++ "\n") = rows.map Prod.snd := by
  refine ⟨fun content => ?_, parse_append, fun rows h => ⟨parse_write h, ?_⟩⟩
  · exact (parse_lines content).imp fun _ _ he => ⟨he, he.isProper, he.options_eq_empty_iff⟩
  · have hlast : parse (write rows ++ "\n") = parse (write rows) ++ parse "" := by
      rw [← parse_append, String.append_empty]
    rw [hlast, parse_write h]
    exact List.append_nil _

/-- A layout with blanks of several kinds and with lines that end as on other systems. -/
def spread : Layout where
  indent := ⟨[' ', '\t'], by simp [isBlank], by decide⟩
  beforeMountPoint := ⟨⟨['\t'], by simp [isBlank], by decide⟩, by decide⟩
  beforeType := ⟨⟨['\u00a0', ' '], by simp [isBlank], by decide⟩, by decide⟩
  beforeOptions := ⟨⟨['\u2003'], by simp [isBlank], by decide⟩, by decide⟩
  further := ⟨[' ', '0', '\t', '#', '2', '\r'], by simp [isBlank], by decide⟩
  ending := ⟨['\r'], by simp [isBlank], by decide⟩

def spreadRows : List (Layout × FstabEntry) :=
  [(spread, ⟨"/dev/sda1", "/", "ext4", "ro,nosuid"⟩), (spread, ⟨"tmpfs", "#tmp", "tmpfs", ""⟩)]

theorem spread_entries_read_back :
    (∀ row ∈ spreadRows, row.2.IsProper) ∧
    write spreadRows = " \t/dev/sda1\t/\u00a0 ext4\u2003ro,nosuid 0\t#2\r\n" ++
      " \ttmpfs\t#tmp\u00a0 tmpfs\r" ∧
    parse (write spreadRows ++ "\n") =
      [⟨"/dev/sda1", "/", "ext4", "ro,nosuid"⟩, ⟨"tmpfs", "#tmp", "tmpfs", ""⟩] := by
  have hproper : ∀ row ∈ spreadRows, row.2.IsProper := by
    rw [spreadRows, List.forall_mem_cons, List.forall_mem_singleton]
    constructor
    · exact ⟨by decide, by decide, by decide, .inr (by decide), by decide⟩
    · exact ⟨by decide, by decide, by decide, .inl rfl, by decide⟩
  exact ⟨hproper, by decide, (entries_read_back.2.2 spreadRows hproper).2⟩

end Fstab

end InitDaemon
