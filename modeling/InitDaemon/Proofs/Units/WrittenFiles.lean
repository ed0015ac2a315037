import InitDaemon.Proofs.Units.FileMeaning

/-!
# What unit files can define

The dependencies of a unit that is read from a file are words, and its command stands on one line
without blanks around it. Every definition of this kind can be written as a file that is read back
as it was.
-/

namespace InitDaemon.Units

open Std Text

/-- One line that is not empty and neither begins nor ends with a blank. -/
structure IsCommandLine (line : String) : Prop where
  ne_nil : line.toList ≠ []
  oneLine : '\n' ∉ line.toList
  first : ∀ c ∈ line.toList.head?, isBlank c = false
  last : ∀ c ∈ line.toList.getLast?, isBlank c = false

/-- A definition that can come from a file. The restart policy may be any. -/
structure IsExpressible (u : UnitDef) : Prop where
  dependency : ∀ d ∈ u.dependencies, IsToken d
  start : u.start = .reach ∨ ∃ line, u.start = .command line ∧ IsCommandLine line

variable {raw : List Char} {raws : List (List Char)} {key value d : String} {u : UnitDef}
  {r : Reading}

/-! ## Reading -/

theorem isCommandLine_value (hraw : '\n' ∉ raw) (h : Assigns (trim raw) key value)
    (hne : value ≠ "") : IsCommandLine value := by
  obtain ⟨-, -, -, k, v, hline, -, -, hvalue⟩ := h
  refine ⟨by simpa using hne, ?_, ?_, ?_⟩
  · intro hmem
    rw [← hvalue] at hmem
    have hv : '\n' ∈ v := (trim_sublist v).subset hmem
    have hthere : '\n' ∈ trim raw := by
      rw [hline]
      exact List.mem_append_right k (List.mem_cons_of_mem '=' hv)
    exact hraw ((trim_sublist raw).subset hthere)
  · intro c hc
    rw [← hvalue] at hc
    exact first_not_blank hc
  · intro c hc
    rw [← hvalue] at hc
    exact last_not_blank hc

theorem IsExpressible.assign (h : IsExpressible r.unit)
    (hvalue : value ≠ "" → IsCommandLine value) :
    IsExpressible (r.assign key value.toList).unit where
  dependency d hd := by
    rcases mem_assign_dependencies.mp hd with hold | ⟨-, -, hne, hpiece, -⟩
    · exact h.dependency d hold
    · exact ⟨hne, hpiece⟩
  start := by
    rw [assign_start]
    split_ifs with hhere hempty
    · exact .inl rfl
    · exact .inr ⟨value, rfl, hvalue hempty⟩
    · exact h.start

theorem IsExpressible.next (h : IsExpressible r.unit) (hraw : '\n' ∉ raw) :
    IsExpressible (r.next raw).unit := by
  rcases read_cases raw with ⟨name, hread, -⟩ | ⟨key, value, hread, hassigns⟩ | ⟨hread, -, -⟩
  · simpa only [Reading.next, hread] using h
  · simp only [Reading.next, hread, String.ofList_toList]
    exact h.assign (isCommandLine_value hraw hassigns)
  · simpa only [Reading.next, hread] using h

theorem IsExpressible.foldl (h : IsExpressible r.unit) (hraws : ∀ raw ∈ raws, '\n' ∉ raw) :
    IsExpressible (raws.foldl Reading.next r).unit := by
  induction raws generalizing r with
  | nil => exact h
  | cons raw raws ih =>
    rw [List.forall_mem_cons] at hraws
    exact ih (h.next hraws.1) hraws.2

theorem isExpressible_empty : IsExpressible {} where
  dependency d hd := by simp at hd
  start := .inl rfl

theorem isExpressible_parse (content : String) : IsExpressible (parse content) := by
  rw [parse_eq]
  apply isExpressible_empty.foldl
  exact fun raw hraw => not_mem_of_mem_splitOn hraw

/-! ## Writing -/

def assignmentLine (key value : String) : String :=
  key ++ "=" ++ value

def startLines : StartAction → List String
  | .command line => [assignmentLine "ExecStart" line]
  | _ => []

def restartLines : RestartPolicy → List String
  | .always => [assignmentLine "Restart" "always"]
  | .no => []

def fileLines (u : UnitDef) : List String :=
  "[Unit]" :: (u.dependencies.toList.map (assignmentLine "After") ++
    "[Service]" :: (startLines u.start ++ restartLines u.restart))

/-- A file that defines the unit. -/
def write (u : UnitDef) : String :=
  "\n".intercalate (fileLines u)

theorem isCommandLine_of_token (h : IsToken d) : IsCommandLine d where
  ne_nil := h.1
  oneLine := not_mem_of_token h
  first c hc := h.2 c (List.mem_of_head? hc)
  last c hc := h.2 c (List.mem_of_getLast? hc)

/-- A word that can stand before an equals sign. -/
structure IsKey (key : String) : Prop where
  first : ∃ c rest, key.toList = c :: rest ∧ isBlank c = false ∧ c ≠ '[' ∧ c ≠ '#' ∧ c ≠ ';'
  plain : '=' ∉ key.toList
  trimmed : trim key.toList = key.toList

theorem isKey_after : IsKey "After" :=
  ⟨⟨'A', _, rfl, by decide⟩, by decide, by decide⟩

theorem isKey_execStart : IsKey "ExecStart" :=
  ⟨⟨'E', _, rfl, by decide⟩, by decide, by decide⟩

theorem isKey_restart : IsKey "Restart" :=
  ⟨⟨'R', _, rfl, by decide⟩, by decide, by decide⟩

theorem assigns_assignmentLine (hkey : IsKey key) (hvalue : IsCommandLine value) :
    Assigns (trim (assignmentLine key value).toList) key value := by
  obtain ⟨⟨c, rest, hkeyList, hblank, hheading, hhash, hsemicolon⟩, hplain, htrimmed⟩ := hkey
  have hlist : (assignmentLine key value).toList = key.toList ++ '=' :: value.toList := by
    simp [assignmentLine]
  have hfirst : (assignmentLine key value).toList.head? = some c := by
    rw [hlist, hkeyList]
    rfl
  have hlast : (assignmentLine key value).toList.getLast? = value.toList.getLast? := by
    obtain ⟨front, last, hvalueList⟩ := List.exists_cons_of_ne_nil hvalue.ne_nil
    rw [hlist, hvalueList, List.getLast?_append_cons, List.getLast?_cons_cons]
  have htrim : trim (assignmentLine key value).toList = key.toList ++ '=' :: value.toList := by
    rw [trim_eq_self, hlist]
    · intro c' hc'
      rw [hfirst, Option.mem_some] at hc'
      exact hc' ▸ hblank
    · rw [hlast]
      exact hvalue.last
  rw [htrim]
  refine ⟨?_, ?_, ?_, key.toList, value.toList, rfl, hplain, htrimmed, ?_⟩
  · intro name hname
    rw [hkeyList, headingLine, List.cons_append, List.cons_append, List.cons.injEq] at hname
    exact hheading hname.1
  · simpa [hkeyList] using hhash
  · simpa [hkeyList] using hsemicolon
  · exact trim_eq_self hvalue.first hvalue.last

theorem next_assignmentLine (hkey : IsKey key) (hvalue : IsCommandLine value) :
    r.next (assignmentLine key value).toList = r.assign key value.toList := by
  have hassigns := assigns_assignmentLine hkey hvalue
  rcases read_cases (assignmentLine key value).toList with ⟨name, -, hline⟩ |
    ⟨k, v, hread, hline⟩ | ⟨-, -, hnone⟩
  · exact absurd hline (hassigns.1 name)
  · obtain ⟨rfl, rfl⟩ := hassigns.unique hline
    rw [Reading.next, hread]
    simp only [String.ofList_toList]
  · exact absurd hassigns (hnone key value)

theorem next_after (hheading : r.heading = "Unit") (hd : IsToken d) :
    r.next (assignmentLine "After" d).toList =
      { r with unit.dependencies := r.unit.dependencies.insert d } := by
  rw [next_assignmentLine isKey_after (isCommandLine_of_token hd), Reading.assign, hheading,
    if_pos (by decide), words_of_word hd.1 hd.2, List.foldl_cons, List.foldl_nil,
    String.ofList_toList]

theorem foldl_after {ds : List String} (hheading : r.heading = "Unit") (hds : ∀ d ∈ ds, IsToken d) :
    (ds.map fun d => (assignmentLine "After" d).toList).foldl Reading.next r =
      { r with unit.dependencies := ds.foldl .insert r.unit.dependencies } := by
  induction ds generalizing r with
  | nil => rfl
  | cons d ds ih =>
    rw [List.forall_mem_cons] at hds
    rw [List.map_cons, List.foldl_cons, next_after hheading hds.1, ih (by exact hheading) hds.2]
    rfl

theorem foldl_insert_toList (ds : ExtTreeSet String) : ds.toList.foldl .insert ∅ = ds := by
  apply ExtTreeSet.ext_mem
  intro d
  simp [Graph.mem_foldl_insert]

theorem newline_not_mem_assignmentLine (hkey : '\n' ∉ key.toList) (hvalue : '\n' ∉ value.toList) :
    '\n' ∉ (assignmentLine key value).toList := by
  simp [assignmentLine, hkey, hvalue]

theorem newline_not_mem_fileLines (h : IsExpressible u) :
    ∀ line ∈ fileLines u, '\n' ∉ line.toList := by
  have hdependencies : ∀ line ∈ u.dependencies.toList.map (assignmentLine "After"),
      '\n' ∉ line.toList := by
    intro line hline
    obtain ⟨d, hd, rfl⟩ := List.mem_map.mp hline
    have htoken := h.dependency d (ExtTreeSet.mem_toList.mp hd)
    exact newline_not_mem_assignmentLine (by decide) (not_mem_of_token htoken)
  have hstart : ∀ line ∈ startLines u.start, '\n' ∉ line.toList := by
    rcases h.start with hreach | ⟨command, hcommand, hline⟩
    · rw [hreach]
      exact List.forall_mem_nil _
    · rw [hcommand, startLines, List.forall_mem_singleton]
      exact newline_not_mem_assignmentLine (by decide) hline.oneLine
  have hrestart : ∀ line ∈ restartLines u.restart, '\n' ∉ line.toList := by
    cases u.restart <;> decide
  rw [fileLines, List.forall_mem_cons, List.forall_mem_append, List.forall_mem_cons,
    List.forall_mem_append]
  exact ⟨by decide, hdependencies, by decide, hstart, hrestart⟩

/-! ## Reading what is written -/

theorem foldl_startLines (hheading : r.heading = "Service") (hstart : r.unit.start = .reach)
    (h : IsExpressible u) :
    ((startLines u.start).map String.toList).foldl Reading.next r =
      { r with unit.start := u.start } := by
  rcases h.start with hreach | ⟨command, hcommand, hline⟩
  · rw [hreach]
    change r = { r with unit.start := .reach }
    rw [← hstart]
  · have hne : command.toList.isEmpty = false := by simpa using hline.ne_nil
    rw [hcommand, startLines, List.map_singleton, List.foldl_cons, List.foldl_nil,
      next_assignmentLine isKey_execStart hline, Reading.assign, hheading, if_neg (by decide),
      if_pos (by decide), hne, String.ofList_toList]
    rfl

theorem foldl_restartLines (hheading : r.heading = "Service") (hrestart : r.unit.restart = .no) :
    ((restartLines u.restart).map String.toList).foldl Reading.next r =
      { r with unit.restart := u.restart } := by
  cases hpolicy : u.restart with
  | no =>
    change r = { r with unit.restart := .no }
    rw [← hrestart]
  | always =>
    have hline : IsCommandLine "always" := isCommandLine_of_token (by decide)
    rw [restartLines, List.map_singleton, List.foldl_cons, List.foldl_nil,
      next_assignmentLine isKey_restart hline, Reading.assign, hheading, if_neg (by decide),
      if_neg (by decide), if_pos (by decide)]
    rfl

theorem parse_write (h : IsExpressible u) : parse (write u) = u := by
  have hcut : (write u).toList.splitOn '\n' = (fileLines u).map String.toList := by
    rw [write, String.toList_intercalate]
    apply List.splitOn_intercalate
    · simpa using newline_not_mem_fileLines h
    · simp [fileLines]
  have hunit : Reading.next {} "[Unit]".toList = ⟨"Unit", {}⟩ := rfl
  have hservice : ∀ u : UnitDef, Reading.next ⟨"Unit", u⟩ "[Service]".toList = ⟨"Service", u⟩ :=
    fun _ => rfl
  have hdependencies : ∀ d ∈ u.dependencies.toList, IsToken d :=
    fun d hd => h.dependency d (ExtTreeSet.mem_toList.mp hd)
  rw [parse_eq, hcut, fileLines]
  simp only [List.map_cons, List.map_append, List.map_map, Function.comp_def, List.foldl_cons,
    List.foldl_append]
  rw [hunit, foldl_after rfl hdependencies, foldl_insert_toList, hservice,
    foldl_startLines rfl rfl h, foldl_restartLines rfl rfl]

theorem exists_parse_eq_iff : (∃ content, parse content = u) ↔ IsExpressible u := by
  constructor
  · rintro ⟨content, rfl⟩
    exact isExpressible_parse content
  · intro h
    exact ⟨write u, parse_write h⟩

end InitDaemon.Units
