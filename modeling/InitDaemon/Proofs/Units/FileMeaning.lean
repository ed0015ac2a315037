import InitDaemon.Proofs.Text.Pieces
import InitDaemon.Proofs.Units.Components
import InitDaemon.Units.File
import Mathlib.Data.List.Induction
import Mathlib.Data.String.Basic

/-!
# What a unit file means

A unit file is read line by line, with a heading that changes on the way. What comes out is told
from the text as a whole: dependencies are gathered from every line that names some, and of the
lines that set the command or the restart policy the last one counts.
-/

namespace InitDaemon.Units

open Text

def trimmedLines (content : String) : List (List Char) :=
  (content.toList.splitOn '\n').map trim

def headingLine (name : String) : List Char :=
  '[' :: name.toList ++ [']']

/-- The section that follows some lines: the inside of the last heading among them, and one without
a name before the first. -/
def Heads (lines : List (List Char)) (name : String) : Prop :=
  (∃ before between, lines = before ++ headingLine name :: between ∧
    ∀ line ∈ between, ∀ other, line ≠ headingLine other) ∨
  (name = "" ∧ ∀ line ∈ lines, ∀ other, line ≠ headingLine other)

/-- A line that is no heading and no comment, with a key before its first equals sign. -/
def Assigns (line : List Char) (key value : String) : Prop :=
  (∀ name, line ≠ headingLine name) ∧ line.head? ≠ some '#' ∧ line.head? ≠ some ';' ∧
    ∃ k v, line = k ++ '=' :: v ∧ '=' ∉ k ∧ trim k = key.toList ∧ trim v = value.toList

def Sets (lines : List (List Char)) (name key value : String) : Prop :=
  ∃ before line after, lines = before ++ line :: after ∧ Heads before name ∧
    Assigns line key value

/-- No line further down sets the key in a section of that name. -/
def SetsLast (lines : List (List Char)) (name key value : String) : Prop :=
  ∃ before line after, lines = before ++ line :: after ∧ Heads before name ∧
    Assigns line key value ∧ ∀ between other rest, after = between ++ other :: rest →
      Heads (before ++ line :: between) name → ∀ v, ¬ Assigns other key v

/-- The bytes of a text between two offsets: none where they are out of order or where one of them
is past the end or inside a character. -/
def byteSlice? (s : String) (start stop : Nat) : Option String :=
  if start ≤ stop ∧ String.Pos.Raw.isValid s ⟨start⟩ ∧ String.Pos.Raw.isValid s ⟨stop⟩ then
    some (String.Pos.Raw.extract s ⟨start⟩ ⟨stop⟩)
  else none

structure Means (lines : List (List Char)) (u : UnitDef) : Prop where
  dependency : ∀ d, d ∈ u.dependencies ↔ ∃ key ∈ ["Requires", "Wants", "After"], ∃ value,
    Sets lines "Unit" key value ∧ IsWord d.toList value.toList
  command : ∀ v, u.start = .command v ↔ v ≠ "" ∧ SetsLast lines "Service" "ExecStart" v
  reach : u.start = .reach ↔
    SetsLast lines "Service" "ExecStart" "" ∨ ∀ v, ¬ Sets lines "Service" "ExecStart" v
  restart : u.restart = .always ↔ SetsLast lines "Service" "Restart" "always"

variable {lines : List (List Char)} {line raw : List Char} {name other key value k v : String}
variable {u : UnitDef} {r : Reading}

theorem headingLine_inj (h : headingLine name = headingLine other) : name = other := by
  simp only [headingLine, List.cons_append, List.cons.injEq, true_and, List.append_cancel_right_eq,
    String.toList_inj] at h
  exact h

theorem Assigns.unique (h : Assigns line key value) (h' : Assigns line k v) :
    k = key ∧ v = value := by
  obtain ⟨-, -, -, k₁, v₁, hline, hk₁, hkey, hvalue⟩ := h
  obtain ⟨-, -, -, k₂, v₂, hline', hk₂, hkey', hvalue'⟩ := h'
  have hcut := cutAt_eq_some_iff.mpr ⟨hline, hk₁⟩
  rw [cutAt_eq_some_iff.mpr ⟨hline', hk₂⟩, Option.some.injEq, Prod.mk.injEq] at hcut
  obtain ⟨rfl, rfl⟩ := hcut
  exact ⟨String.toList_inj.mp (hkey'.symm.trans hkey),
    String.toList_inj.mp (hvalue'.symm.trans hvalue)⟩

/-! ## One more line -/

theorem heads_nil : Heads [] name ↔ name = "" := by
  simp [Heads]

theorem heads_heading : Heads (lines ++ [headingLine other]) name ↔ name = other := by
  constructor
  · rintro (⟨before, between, hlines, hbetween⟩ | ⟨-, hnone⟩)
    · rcases List.eq_nil_or_concat between with rfl | ⟨between, last, rfl⟩
      · have hlast := List.append_inj_right' hlines (by simp)
        exact (headingLine_inj (by simpa using hlast)).symm
      · simp only [List.concat_eq_append, ← List.cons_append, ← List.append_assoc] at hlines
        have hlast := List.append_inj_right' hlines (by simp)
        rw [List.cons.injEq] at hlast
        exact absurd hlast.1.symm (hbetween last (by simp) other)
    · exact absurd rfl (hnone (headingLine other) (by simp) other)
  · rintro rfl
    exact .inl ⟨lines, [], rfl, by simp⟩

theorem heads_plain (hline : ∀ name, line ≠ headingLine name) :
    Heads (lines ++ [line]) name ↔ Heads lines name := by
  constructor
  · rintro (⟨before, between, hlines, hbetween⟩ | ⟨hname, hnone⟩)
    · rcases List.eq_nil_or_concat between with rfl | ⟨between, last, rfl⟩
      · have hlast := List.append_inj_right' hlines (by simp)
        rw [List.cons.injEq] at hlast
        exact absurd hlast.1 (hline name)
      · simp only [List.concat_eq_append, ← List.cons_append, ← List.append_assoc] at hlines
        have hfront := List.append_inj_left' hlines (by simp)
        exact .inl ⟨before, between, hfront, fun l hl => hbetween l (by simp [hl])⟩
    · exact .inr ⟨hname, fun l hl => hnone l (List.mem_append_left _ hl)⟩
  · rintro (⟨before, between, rfl, hbetween⟩ | ⟨hname, hnone⟩)
    · refine .inl ⟨before, between ++ [line], by simp, ?_⟩
      intro l hl
      rcases List.mem_append.mp hl with hl | hl
      · exact hbetween l hl
      · rw [List.mem_singleton.mp hl]
        exact hline
    · refine .inr ⟨hname, ?_⟩
      intro l hl
      rcases List.mem_append.mp hl with hl | hl
      · exact hnone l hl
      · rw [List.mem_singleton.mp hl]
        exact hline

/-- Some lines are followed by one section only. -/
theorem Heads.unique (h : Heads lines name) (h' : Heads lines other) : name = other := by
  induction lines using List.reverseRecOn with
  | nil => rw [heads_nil.mp h, heads_nil.mp h']
  | append_singleton lines line ih =>
    by_cases hline : ∃ inside, line = headingLine inside
    · obtain ⟨inside, rfl⟩ := hline
      rw [heads_heading.mp h, heads_heading.mp h']
    · rw [not_exists] at hline
      exact ih ((heads_plain hline).mp h) ((heads_plain hline).mp h')

theorem sets_append : Sets (lines ++ [line]) name key value ↔
    Sets lines name key value ∨ Heads lines name ∧ Assigns line key value := by
  constructor
  · rintro ⟨before, l, after, hlines, hheads, hassigns⟩
    rcases List.eq_nil_or_concat after with rfl | ⟨after, last, rfl⟩
    · have hfront := List.append_inj_left' hlines (by simp)
      have hlast := List.append_inj_right' hlines (by simp)
      rw [List.cons.injEq] at hlast
      exact .inr ⟨hfront ▸ hheads, hlast.1 ▸ hassigns⟩
    · simp only [List.concat_eq_append, ← List.cons_append, ← List.append_assoc] at hlines
      have hfront := List.append_inj_left' hlines (by simp)
      exact .inl ⟨before, l, after, hfront, hheads, hassigns⟩
  · rintro (⟨before, l, after, rfl, hheads, hassigns⟩ | ⟨hheads, hassigns⟩)
    · exact ⟨before, l, after ++ [line], by simp, hheads, hassigns⟩
    · exact ⟨lines, line, [], rfl, hheads, hassigns⟩

theorem setsLast_append : SetsLast (lines ++ [line]) name key value ↔
    Heads lines name ∧ Assigns line key value ∨
      SetsLast lines name key value ∧ ¬ (Heads lines name ∧ ∃ v, Assigns line key v) := by
  constructor
  · rintro ⟨before, l, after, hlines, hheads, hassigns, hlast⟩
    rcases List.eq_nil_or_concat after with rfl | ⟨after, end', rfl⟩
    · have hfront := List.append_inj_left' hlines (by simp)
      have hline := List.append_inj_right' hlines (by simp)
      rw [List.cons.injEq] at hline
      exact .inl ⟨hfront ▸ hheads, hline.1 ▸ hassigns⟩
    · simp only [List.concat_eq_append, ← List.cons_append, ← List.append_assoc] at hlines
      have hfront := List.append_inj_left' hlines (by simp)
      have hline := List.append_inj_right' hlines (by simp)
      rw [List.cons.injEq] at hline
      obtain ⟨rfl, -⟩ := hline
      subst hfront
      refine .inr ⟨⟨before, l, after, rfl, hheads, hassigns, ?_⟩, ?_⟩
      · rintro between o rest rfl hthere
        exact hlast between o (rest ++ [line]) (by simp) hthere
      · rintro ⟨hthere, v, hv⟩
        exact hlast after line [] (by simp) hthere v hv
  · rintro (⟨hheads, hassigns⟩ | ⟨⟨before, l, after, rfl, hheads, hassigns, hlast⟩, hnot⟩)
    · exact ⟨lines, line, [], rfl, hheads, hassigns, by simp⟩
    · refine ⟨before, l, after ++ [line], by simp, hheads, hassigns, ?_⟩
      intro between o rest hafter hthere v hv
      rcases List.eq_nil_or_concat rest with rfl | ⟨rest, end', rfl⟩
      · have hfront := List.append_inj_left' hafter (by simp)
        have hline := List.append_inj_right' hafter (by simp)
        rw [List.cons.injEq] at hline
        obtain ⟨rfl, -⟩ := hline
        subst hfront
        exact hnot ⟨hthere, v, hv⟩
      · simp only [List.concat_eq_append, ← List.cons_append, ← List.append_assoc] at hafter
        exact hlast between o rest (List.append_inj_left' hafter (by simp)) hthere v hv

theorem sets_append_plain (hline : ∀ key v, ¬ Assigns line key v) :
    Sets (lines ++ [line]) name key value ↔ Sets lines name key value := by
  simp only [sets_append, hline, and_false, or_false]

theorem setsLast_append_plain (hline : ∀ key v, ¬ Assigns line key v) :
    SetsLast (lines ++ [line]) name key value ↔ SetsLast lines name key value := by
  simp only [setsLast_append, hline, and_false, false_or, exists_false, not_false_eq_true, and_true]

theorem sets_append_assigned (hheads : Heads lines other) (hline : Assigns line k v) :
    Sets (lines ++ [line]) name key value ↔
      Sets lines name key value ∨ name = other ∧ key = k ∧ value = v := by
  rw [sets_append]
  refine or_congr_right ⟨?_, ?_⟩
  · rintro ⟨hname, hkey⟩
    exact ⟨hname.unique hheads, hline.unique hkey⟩
  · rintro ⟨rfl, rfl, rfl⟩
    exact ⟨hheads, hline⟩

theorem setsLast_append_here (hheads : Heads lines name) (hline : Assigns line key value) :
    SetsLast (lines ++ [line]) name key v ↔ v = value := by
  rw [setsLast_append]
  constructor
  · rintro (⟨-, hv⟩ | ⟨-, hnot⟩)
    · exact (hline.unique hv).2
    · exact absurd ⟨hheads, value, hline⟩ hnot
  · rintro rfl
    exact .inl ⟨hheads, hline⟩

theorem setsLast_append_elsewhere (hheads : Heads lines other) (hline : Assigns line k v)
    (hother : ¬ (other = name ∧ k = key)) :
    SetsLast (lines ++ [line]) name key value ↔ SetsLast lines name key value := by
  have hnot : ∀ v', ¬ (Heads lines name ∧ Assigns line key v') := by
    rintro v' ⟨hname, hkey⟩
    exact hother ⟨hheads.unique hname, (hkey.unique hline).1⟩
  rw [setsLast_append, ← exists_and_left]
  simp only [hnot, false_or, exists_false, not_false_eq_true, and_true]

/-! ## Reading a line -/

theorem headingOf?_eq_some_iff {inside : List Char} :
    headingOf? line = some inside ↔ line = '[' :: inside ++ [']'] := by
  rw [headingOf?.eq_def]
  split
  · next rest =>
    rw [List.cons_append, List.cons.injEq, eq_self, true_and]
    constructor
    · intro h
      obtain ⟨hlast, hinside⟩ := Option.ite_none_right_eq_some.mp h
      obtain rfl := Option.some.inj hinside
      obtain ⟨front, rfl⟩ := List.getLast?_eq_some_iff.mp hlast
      simp
    · rintro rfl
      simp
  · next hnot =>
    simp only [reduceCtorEq, false_iff]
    rintro rfl
    exact hnot (inside ++ [']']) rfl

theorem headingOf?_eq_none_iff : headingOf? line = none ↔ ∀ name, line ≠ headingLine name := by
  constructor
  · rintro h name rfl
    have hsome := headingOf?_eq_some_iff.mpr (show headingLine name = _ from rfl)
    rw [h] at hsome
    cases hsome
  · intro h
    cases hheading : headingOf? line with
    | none => rfl
    | some inside =>
      refine absurd (headingOf?_eq_some_iff.mp hheading) ?_
      simpa [headingLine] using h (String.ofList inside)

theorem isComment_eq_false_iff :
    isComment line = false ↔ line.head? ≠ some '#' ∧ line.head? ≠ some ';' := by
  cases line with
  | nil => simp [isComment]
  | cons c line =>
    rw [isComment.eq_def]
    split <;> simp_all

/-- The three kinds of lines: a heading, an assignment, and what is passed over. -/
theorem read_cases (raw : List Char) :
    (∃ name : String, Line.read raw = .heading name.toList ∧ trim raw = headingLine name) ∨
    (∃ key value : String, Line.read raw = .assignment key.toList value.toList ∧
      Assigns (trim raw) key value) ∨
    (Line.read raw = .other ∧ (∀ name, trim raw ≠ headingLine name) ∧
      ∀ key value, ¬ Assigns (trim raw) key value) := by
  cases hheading : headingOf? (trim raw) with
  | some inside =>
    refine .inl ⟨String.ofList inside, ?_, ?_⟩
    · simp [Line.read, hheading]
    · simpa [headingLine] using headingOf?_eq_some_iff.mp hheading
  | none =>
    have hplain := headingOf?_eq_none_iff.mp hheading
    refine .inr ?_
    cases hcomment : isComment (trim raw) with
    | true =>
      refine .inr ⟨by simp [Line.read, hheading, hcomment], hplain, ?_⟩
      rintro key value ⟨-, hhash, hsemicolon, -⟩
      rw [isComment_eq_false_iff.mpr ⟨hhash, hsemicolon⟩] at hcomment
      cases hcomment
    | false =>
      obtain ⟨hhash, hsemicolon⟩ := isComment_eq_false_iff.mp hcomment
      cases hcut : cutAt '=' (trim raw) with
      | none =>
        refine .inr ⟨by simp [Line.read, hheading, hcomment, hcut], hplain, ?_⟩
        rintro key value ⟨-, -, -, k, v, hline, hk, -⟩
        rw [cutAt_eq_some_iff.mpr ⟨hline, hk⟩] at hcut
        cases hcut
      | some pair =>
        obtain ⟨k, v⟩ := pair
        obtain ⟨hline, hk⟩ := cutAt_eq_some_iff.mp hcut
        refine .inl ⟨String.ofList (trim k), String.ofList (trim v), ?_, ?_⟩
        · simp [Line.read, hheading, hcomment, hcut]
        · exact ⟨hplain, hhash, hsemicolon, k, v, hline, hk, by simp, by simp⟩

/-! ## The invariant of the reading -/

theorem next_congr {raw' : List Char} (h : trim raw = trim raw') : r.next raw = r.next raw' := by
  simp only [Reading.next, Line.read, h]

theorem next_nil (r : Reading) : r.next [] = r := rfl

theorem assign_heading (r : Reading) (key : String) (value : List Char) :
    (r.assign key value).heading = r.heading := by
  simp only [Reading.assign]
  split_ifs <;> rfl

theorem mem_assign_dependencies {d : String} :
    d ∈ (r.assign key value.toList).unit.dependencies ↔ d ∈ r.unit.dependencies ∨
      r.heading = "Unit" ∧ key ∈ dependencyKeys ∧ IsWord d.toList value.toList := by
  have hword : d ∈ (words value.toList).map String.ofList ↔ IsWord d.toList value.toList := by
    rw [← mem_words_iff, List.mem_map]
    constructor
    · rintro ⟨w, hw, rfl⟩
      simpa using hw
    · intro hd
      exact ⟨d.toList, hd, String.ofList_toList⟩
  rw [Reading.assign]
  split_ifs with hunit hstart hrestart
  · simp only [Bool.and_eq_true, beq_iff_eq, List.contains_iff_mem] at hunit
    rw [← List.foldl_map, Graph.mem_foldl_insert, hword]
    simp only [hunit.1, hunit.2, true_and]
    exact or_comm
  all_goals
    simp only [Bool.and_eq_true, beq_iff_eq, List.contains_iff_mem] at hunit
    simp only [← and_assoc, hunit, false_and, or_false]

theorem assign_start (r : Reading) (key value : String) :
    (r.assign key value.toList).unit.start =
      if r.heading = "Service" ∧ key = "ExecStart" then
        if value = "" then .reach else .command value
      else r.unit.start := by
  rw [Reading.assign]
  split_ifs <;> simp_all

theorem assign_restart (r : Reading) (key value : String) :
    (r.assign key value.toList).unit.restart =
      if r.heading = "Service" ∧ key = "Restart" then .ofText value else r.unit.restart := by
  rw [Reading.assign]
  split_ifs <;> simp_all

theorem ofText_eq_always_iff : RestartPolicy.ofText value = .always ↔ value = "always" := by
  rw [RestartPolicy.ofText]
  split <;> simp_all

/-- What the lines so far mean, and the section that the next line stands in. -/
structure Reads (lines : List (List Char)) (r : Reading) : Prop where
  heads : Heads lines r.heading
  means : Means lines r.unit

theorem Means.plain (h : Means lines u) (hline : ∀ key v, ¬ Assigns line key v) :
    Means (lines ++ [line]) u where
  dependency d := by simpa only [sets_append_plain hline] using h.dependency d
  command v := by simpa only [setsLast_append_plain hline] using h.command v
  reach := by simpa only [setsLast_append_plain hline, sets_append_plain hline] using h.reach
  restart := by simpa only [setsLast_append_plain hline] using h.restart

theorem Reads.assign (h : Reads lines r) (hline : Assigns line key value) :
    Means (lines ++ [line]) (r.assign key value.toList).unit where
  dependency d := by
    rw [mem_assign_dependencies, h.means.dependency d]
    simp only [sets_append_assigned h.heads hline]
    constructor
    · rintro (⟨k, hk, v, hsets, hword⟩ | ⟨hheading, hkey, hword⟩)
      · exact ⟨k, hk, v, .inl hsets, hword⟩
      · exact ⟨key, hkey, value, .inr ⟨hheading.symm, rfl, rfl⟩, hword⟩
    · rintro ⟨k, hk, v, hsets | ⟨hheading, rfl, rfl⟩, hword⟩
      · exact .inl ⟨k, hk, v, hsets, hword⟩
      · exact .inr ⟨hheading.symm, hk, hword⟩
  command v := by
    rw [assign_start]
    by_cases hhere : r.heading = "Service" ∧ key = "ExecStart"
    · rw [if_pos hhere, ← hhere.1, ← hhere.2, setsLast_append_here h.heads hline]
      split
      · next hempty => simp +contextual [hempty]
      · next hvalue =>
        rw [StartAction.command.injEq, eq_comm]
        exact ⟨fun hv => ⟨hv ▸ hvalue, hv⟩, And.right⟩
    · rw [if_neg hhere, h.means.command v, setsLast_append_elsewhere h.heads hline hhere]
  reach := by
    rw [assign_start]
    simp only [sets_append_assigned h.heads hline]
    by_cases hhere : r.heading = "Service" ∧ key = "ExecStart"
    · rw [if_pos hhere, ← hhere.1, ← hhere.2, setsLast_append_here h.heads hline]
      have hset : ¬ ∀ v, ¬ (Sets lines r.heading key v ∨
          r.heading = r.heading ∧ key = key ∧ v = value) := fun hnone =>
        hnone value (.inr ⟨rfl, rfl, rfl⟩)
      rw [or_iff_left hset]
      split <;> simp_all [eq_comm]
    · have hnot : ∀ v, ¬ ("Service" = r.heading ∧ "ExecStart" = key ∧ v = value) :=
        fun v ⟨hheading, hkey, _⟩ => hhere ⟨hheading.symm, hkey.symm⟩
      rw [if_neg hhere, h.means.reach, setsLast_append_elsewhere h.heads hline hhere]
      simp only [hnot, or_false]
  restart := by
    rw [assign_restart]
    by_cases hhere : r.heading = "Service" ∧ key = "Restart"
    · rw [if_pos hhere, ← hhere.1, ← hhere.2, setsLast_append_here h.heads hline]
      rw [ofText_eq_always_iff, eq_comm]
    · rw [if_neg hhere, h.means.restart, setsLast_append_elsewhere h.heads hline hhere]

theorem reads_nil : Reads [] {} where
  heads := heads_nil.mpr rfl
  means := {
    dependency := by simp [Sets]
    command := by simp [SetsLast]
    reach := by simp [Sets]
    restart := by simp [SetsLast] }

theorem Reads.next (h : Reads lines r) (raw : List Char) :
    Reads (lines ++ [trim raw]) (r.next raw) := by
  rcases read_cases raw with ⟨name, hread, hline⟩ | ⟨key, value, hread, hline⟩ |
    ⟨hread, hplain, hnone⟩
  · have hnone : ∀ key v, ¬ Assigns (trim raw) key v := fun key v hassigns =>
      hassigns.1 name hline
    simp only [Reading.next, hread, String.ofList_toList]
    exact ⟨by rw [hline]; exact heads_heading.mpr rfl, h.means.plain hnone⟩
  · simp only [Reading.next, hread, String.ofList_toList]
    refine ⟨?_, h.assign hline⟩
    rw [assign_heading]
    exact (heads_plain hline.1).mpr h.heads
  · simp only [Reading.next, hread]
    exact ⟨(heads_plain hplain).mpr h.heads, h.means.plain hnone⟩

theorem reads_foldl (raws : List (List Char)) :
    Reads (raws.map trim) (raws.foldl Reading.next {}) := by
  induction raws using List.reverseRecOn with
  | nil => exact reads_nil
  | append_singleton raws raw ih =>
    rw [List.map_append, List.foldl_append]
    exact ih.next raw

/-- The cut that takes the name out of a heading falls between characters. -/
theorem byteSlice?_heading (name : String) :
    byteSlice? (String.ofList (headingLine name)) 1
      ((String.ofList (headingLine name)).utf8ByteSize - 1) = some name := by
  have hline : String.ofList (headingLine name) = "[" ++ name ++ "]" := by
    simp [headingLine, String.ext_iff]
  have hsize : ("[" ++ name ++ "]").utf8ByteSize - 1 = 1 + name.utf8ByteSize := by
    rw [String.utf8ByteSize_append, String.utf8ByteSize_append]
    exact Nat.add_sub_cancel (1 + name.utf8ByteSize) 1
  have hstart : String.Pos.Raw.isValid ("[" ++ name ++ "]") ⟨1⟩ := by
    rw [String.Pos.Raw.isValid_eq_true_iff, String.Pos.Raw.isValid_iff_exists_append]
    exact ⟨"[", name ++ "]", String.append_assoc, rfl⟩
  have hstop : String.Pos.Raw.isValid ("[" ++ name ++ "]") ⟨1 + name.utf8ByteSize⟩ := by
    rw [String.Pos.Raw.isValid_eq_true_iff, String.Pos.Raw.isValid_iff_exists_append]
    refine ⟨"[" ++ name, "]", rfl, String.Pos.Raw.ext ?_⟩
    exact (String.utf8ByteSize_append (s := "[") (t := name)).symm
  have hname : String.Pos.Raw.extract ("[" ++ name ++ "]") ⟨1⟩ ⟨1 + name.utf8ByteSize⟩ = name := by
    have hone : '['.utf8Size = 1 := rfl
    simpa [hone, String.append_assoc] using String.extract_of_valid ['['] name.toList [']']
  rw [hline, hsize, byteSlice?, if_pos ⟨Nat.le_add_right 1 _, hstart, hstop⟩, hname]

theorem exists_heading (hfirst : line.head? = some '[') (hlast : line.getLast? = some ']') :
    ∃ name, line = headingLine name := by
  obtain ⟨front, rfl⟩ := List.getLast?_eq_some_iff.mp hlast
  cases front with
  | nil => simp at hfirst
  | cons c front =>
    obtain rfl : c = '[' := by simpa using hfirst
    exact ⟨String.ofList front, by simp [headingLine]⟩

theorem parse_eq (content : String) :
    parse content = ((content.toList.splitOn '\n').foldl Reading.next {}).unit := by
  rw [parse, foldl_lines (fun r _ _ => next_congr (r := r)) next_nil]

/-- A unit file means what its lines say, and no heading in it makes the reader cut a character in
two. -/
theorem parse_means (content : String) :
    Means (trimmedLines content) (parse content) ∧
    ∀ line ∈ trimmedLines content, line.head? = some '[' → line.getLast? = some ']' →
      ∃ name, line = headingLine name ∧ headingOf? line = some name.toList ∧
        byteSlice? (String.ofList line) 1 ((String.ofList line).utf8ByteSize - 1) = some name := by
  constructor
  · rw [parse_eq]
    exact (reads_foldl _).means
  · intro line _ hfirst hlast
    obtain ⟨name, rfl⟩ := exists_heading hfirst hlast
    exact ⟨name, rfl, headingOf?_eq_some_iff.mpr rfl, byteSlice?_heading name⟩

end InitDaemon.Units
