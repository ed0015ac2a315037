import Mathlib.Data.Set.Card
import InitDaemon.Proofs.Units.Builtins
import InitDaemon.Units.Directory

/-!
# Unit files of several directories

A unit comes from the first directory in which its file can be read: a file that cannot be read
hides nothing. In which order a directory lists its files does not matter.
-/

namespace InitDaemon.Units

open Std

variable {d d' : Directory} {dirs dirs' : List Directory} {name text : String}

def HasUnitSuffix (name : String) : Prop :=
  ∃ stem, name = stem ++ ".service" ∨ name = stem ++ ".target"

theorem endsWith_iff (s pattern : String) : s.endsWith pattern = true ↔ ∃ stem, s = stem ++ pattern := by
  rw [← String.endsWith_toSlice, String.Slice.endsWith_string_iff, String.copy_toSlice]
  constructor
  · rintro ⟨cs, heq⟩
    refine ⟨String.ofList cs, String.toList_injective ?_⟩
    rw [String.toList_append, String.toList_ofList, heq]
  · rintro ⟨stem, rfl⟩
    exact ⟨stem.toList, (String.toList_append).symm⟩

theorem isUnitFile_iff : isUnitFile name = true ↔ HasUnitSuffix name := by
  rw [isUnitFile, Bool.or_eq_true, endsWith_iff, endsWith_iff, HasUnitSuffix, exists_or]

namespace Directory

/-- An entry of that name reads as that text. -/
def Offers (d : Directory) (name text : String) : Prop :=
  ∃ entries, d.entries = .ok entries ∧ (some name, .ok text) ∈ entries

/-- A name that is listed twice reads the same both times. -/
def IsSteady (d : Directory) : Prop :=
  ∀ entries, d.entries = .ok entries → ∀ name content content',
    (some name, content) ∈ entries → (some name, content') ∈ entries → content = content'

/-- The same directory, listed in another order. -/
inductive Reordered : Directory → Directory → Prop
  | listed (path : String) {entries entries' : List (Option String × FileContent)}
    (h : entries.Perm entries') : Reordered ⟨path, .ok entries⟩ ⟨path, .ok entries'⟩
  | unreadable (path : String) (errno : Errno) :
    Reordered ⟨path, .error errno⟩ ⟨path, .error errno⟩

/-- What a directory has to say of a name. -/
def text? (d : Directory) (name : String) : Option String :=
  d.listing[name]?.bind Except.toOption

/-! ## Listings -/

theorem listing_concat (path : String) (entries : List (Option String × FileContent))
    (name? : Option String) (content : FileContent) :
    listing ⟨path, .ok (entries ++ [(name?, content)])⟩ =
      match name? with
      | some name => (listing ⟨path, .ok entries⟩).insert name content
      | none => listing ⟨path, .ok entries⟩ := by
  cases name? <;> simp [listing]

theorem IsSteady.of_concat {path : String} {entries : List (Option String × FileContent)}
    {e : Option String × FileContent} (h : IsSteady ⟨path, .ok (entries ++ [e])⟩) :
    IsSteady ⟨path, .ok entries⟩ := by
  intro entries' heq name content content' hmem hmem'
  cases heq
  exact h _ rfl name content content' (List.mem_append_left _ hmem) (List.mem_append_left _ hmem')

/-- From the end, since a name that is listed again takes its last content. -/
theorem getElem?_listing {path : String} {entries : List (Option String × FileContent)}
    {content : FileContent} (h : IsSteady ⟨path, .ok entries⟩) :
    (listing ⟨path, .ok entries⟩)[name]? = some content ↔ (some name, content) ∈ entries := by
  induction entries using List.reverseRecOn with
  | nil => simp [listing]
  | append_singleton entries e ih =>
    obtain ⟨name?, content'⟩ := e
    have hrest := ih h.of_concat
    rw [listing_concat]
    cases name? with
    | none => simp [hrest]
    | some name' =>
      by_cases heq : name' = name
      · subst heq
        rw [ExtTreeMap.getElem?_insert_self]
        constructor
        · intro hsome
          cases hsome
          exact List.mem_append_right _ (List.mem_singleton_self _)
        · intro hmem
          have hlast := List.mem_append_right entries (List.mem_singleton_self (some name', content'))
          exact congrArg some (h _ rfl name' content' content hlast hmem)
      · simp [ExtTreeMap.getElem?_insert, heq, hrest, Ne.symm heq]

theorem text?_eq_some_iff (h : d.IsSteady) : d.text? name = some text ↔ d.Offers name text := by
  obtain ⟨path, errno | entries⟩ := d
  · simp [text?, listing, Offers]
  · have hcontent : ∀ content : FileContent, content.toOption = some text ↔ content = .ok text := by
      intro content
      cases content <;> simp [Except.toOption]
    simp only [text?, Option.bind_eq_some_iff, hcontent, getElem?_listing h, Offers]
    constructor
    · rintro ⟨_, hmem, rfl⟩
      exact ⟨entries, rfl, hmem⟩
    · rintro ⟨_, heq, hmem⟩
      cases heq
      exact ⟨_, hmem, rfl⟩

theorem Reordered.listing_eq (h : d.Reordered d') (hsteady : d.IsSteady) :
    d'.listing = d.listing := by
  cases h with
  | unreadable => rfl
  | @listed path entries entries' hperm =>
    have hsteady' : IsSteady ⟨path, .ok entries'⟩ := by
      intro _ heq name content content' hmem hmem'
      cases heq
      exact hsteady _ rfl name content content' (hperm.mem_iff.mpr hmem) (hperm.mem_iff.mpr hmem')
    apply ExtTreeMap.ext_getElem?
    intro name
    apply Option.ext
    intro content
    rw [getElem?_listing hsteady', getElem?_listing hsteady]
    exact hperm.mem_iff.symm

end Directory

/-! ## Loading -/

/-- The first definition of a name stays. -/
theorem Graph.getElem?_insert (g : Graph) (name : String) (u : UnitDef) (v : String) :
    (g.insert name u).2.disk[v]? = g.disk[v]?.or (if name = v then some u else none) := by
  by_cases heq : name = v
  · subst heq
    by_cases hmem : name ∈ g.disk
    · simp [Graph.insert, hmem]
    · simp [Graph.insert, hmem]
  · simp only [Graph.insert, if_neg heq]
    split
    · simp
    · simp [ExtTreeMap.getElem?_insert, heq]

/-- The definition that the file of a name stands for. -/
def unit? (name : String) (text : Option String) : Option UnitDef :=
  if isUnitFile name then text.map parse else none

namespace Loading

theorem disk_addFile (path : String) (l : Loading) (file : String × FileContent) :
    (l.addFile path file).graph.disk[name]? =
      l.graph.disk[name]?.or (if file.1 = name then unit? name file.2.toOption else none) := by
  obtain ⟨name', content⟩ := file
  by_cases hunit : isUnitFile name' = true
  · cases content with
    | error reason => simp [addFile, hunit, say, unit?, Except.toOption]
    | ok text =>
      simp only [addFile, hunit, if_true, say, Graph.getElem?_insert]
      by_cases heq : name' = name
      · subst heq
        simp [unit?, hunit, Except.toOption]
      · simp [heq]
  · by_cases heq : name' = name
    · subst heq
      simp [addFile, unit?, hunit]
    · simp [addFile, hunit, heq]

theorem disk_foldl_addFile (path : String) (files : List (String × FileContent)) (l : Loading) :
    (files.foldl (addFile path) l).graph.disk[name]? = l.graph.disk[name]?.or
      (files.findSome? fun file => if file.1 = name then unit? name file.2.toOption else none) := by
  induction files generalizing l with
  | nil => simp
  | cons file files ih =>
    rw [List.foldl_cons, ih, disk_addFile, List.findSome?_cons, Option.or_assoc]
    congr 1
    cases (if file.1 = name then unit? name file.2.toOption else none) <;> rfl

/-- No name stands in a listing twice, so its content alone decides. -/
theorem findSome?_listing (d : Directory) :
    (d.listing.toList.findSome? fun file =>
      if file.1 = name then unit? name file.2.toOption else none) = unit? name (d.text? name) := by
  have htext : ∀ content, (name, content) ∈ d.listing.toList → d.text? name = content.toOption := by
    intro content hmem
    rw [Directory.text?, ExtTreeMap.mem_toList_iff_getElem?_eq_some.mp hmem]
    rfl
  cases hfound : d.listing.toList.findSome? _ with
  | some u =>
    obtain ⟨⟨name', content⟩, hmem, hu⟩ := List.exists_of_findSome?_eq_some hfound
    split at hu
    · next heq =>
      obtain rfl : name' = name := heq
      rw [htext content hmem, hu]
    · cases hu
  | none =>
    rw [List.findSome?_eq_none_iff] at hfound
    cases hcontent : d.listing[name]? with
    | none => simp [unit?, Directory.text?, hcontent]
    | some content =>
      have hmem := ExtTreeMap.mem_toList_iff_getElem?_eq_some.mpr hcontent
      have hnone := hfound (name, content) hmem
      rw [if_pos rfl] at hnone
      rw [htext content hmem, hnone]

theorem disk_addDirectory (l : Loading) (d : Directory) :
    (l.addDirectory d).graph.disk[name]? = l.graph.disk[name]?.or (unit? name (d.text? name)) := by
  rw [addDirectory, disk_foldl_addFile, findSome?_listing]
  rfl

theorem disk_foldl_addDirectory (dirs : List Directory) (l : Loading) :
    (dirs.foldl addDirectory l).graph.disk[name]? = l.graph.disk[name]?.or
      (dirs.findSome? fun d => unit? name (d.text? name)) := by
  induction dirs generalizing l with
  | nil => simp
  | cons d dirs ih =>
    rw [List.foldl_cons, ih, disk_addDirectory, List.findSome?_cons, Option.or_assoc]
    congr 1
    cases unit? name (d.text? name) <;> rfl

theorem builtin_addDirectory (l : Loading) (d : Directory) :
    (l.addDirectory d).graph.builtin = l.graph.builtin := by
  have hfile : ∀ (l : Loading) (file : String × FileContent),
      (l.addFile d.path file).graph.builtin = l.graph.builtin := by
    intro l file
    simp only [addFile, Graph.insert, say]
    split
    · split
      · split <;> rfl
      · rfl
    · rfl
  have hsaid : (l.say d.notices).graph.builtin = l.graph.builtin := rfl
  rw [addDirectory]
  refine List.foldlRecOn d.listing.toList (addFile d.path)
    (motive := fun l' => l'.graph.builtin = l.graph.builtin) hsaid ?_
  intro l' hl' file _
  rw [hfile, hl']

end Loading

/-! ## The graph of a search path -/

theorem graph_buildGraph (dirs : List Directory) :
    (buildGraph dirs).graph = .besideBuiltins (dirs.foldl Loading.addDirectory {}).graph.disk := by
  have hempty : ({} : Loading).graph.builtin = ∅ := rfl
  have hbuiltin : (dirs.foldl Loading.addDirectory {}).graph.builtin = ∅ := by
    refine List.foldlRecOn dirs Loading.addDirectory
      (motive := fun l => l.graph.builtin = ∅) hempty ?_
    intro l hl d _
    rw [Loading.builtin_addDirectory, hl]
  rw [buildGraph, Loading.finish, Graph.besideBuiltins, Graph.addBuiltins, Graph.addBuiltins]
  dsimp only [Loading.say]
  rw [hbuiltin]

/-- Of the directories in which the name can be read, the first reads as that text. -/
def FirstOffers (dirs : List Directory) (name text : String) : Prop :=
  ∃ before d after, dirs = before ++ d :: after ∧ d.Offers name text ∧
    ∀ d' ∈ before, ∀ text', ¬ d'.Offers name text'

theorem disk_buildGraph (dirs : List Directory) (name : String) :
    (buildGraph dirs).graph.disk[name]? = unit? name (dirs.findSome? fun d => d.text? name) := by
  have hdisk : (buildGraph dirs).graph.disk = (dirs.foldl Loading.addDirectory {}).graph.disk := rfl
  have hempty : ({} : Loading).graph.disk[name]? = none := by simp
  rw [hdisk, Loading.disk_foldl_addDirectory, hempty, Option.none_or]
  by_cases hunit : isUnitFile name = true
  · simp only [unit?, hunit, if_true, List.map_findSome?]
    rfl
  · simp [unit?, hunit]

theorem firstOffers_iff (hsteady : ∀ d ∈ dirs, d.IsSteady) :
    dirs.findSome? (fun d => d.text? name) = some text ↔ FirstOffers dirs name text := by
  rw [List.findSome?_eq_some_iff]
  constructor
  · rintro ⟨before, d, after, rfl, htext, hbefore⟩
    refine ⟨before, d, after, rfl, (Directory.text?_eq_some_iff (hsteady d (by simp))).mp htext, ?_⟩
    intro d' hd' text' hoffers
    have hsome := (Directory.text?_eq_some_iff (hsteady d' (by simp [hd']))).mpr hoffers
    cases (hbefore d' hd').symm.trans hsome
  · rintro ⟨before, d, after, rfl, hoffers, hbefore⟩
    refine ⟨before, d, after, rfl, (Directory.text?_eq_some_iff (hsteady d (by simp))).mpr hoffers, ?_⟩
    intro d' hd'
    apply Option.eq_none_iff_forall_ne_some.mpr
    intro text' htext'
    exact hbefore d' hd' text' ((Directory.text?_eq_some_iff (hsteady d' (by simp [hd']))).mp htext')

theorem getElem?_disk_iff (hsteady : ∀ d ∈ dirs, d.IsSteady) (u : UnitDef) :
    (buildGraph dirs).graph.disk[name]? = some u ↔
      HasUnitSuffix name ∧ ∃ text, FirstOffers dirs name text ∧ u = parse text := by
  rw [disk_buildGraph, unit?, ← isUnitFile_iff]
  split
  · next hunit =>
    simp only [hunit, true_and, Option.map_eq_some_iff, firstOffers_iff hsteady]
    exact exists_congr fun text => and_congr_right fun _ => eq_comm
  · next hunit => simp [hunit]

theorem mem_disk_iff (hsteady : ∀ d ∈ dirs, d.IsSteady) :
    name ∈ (buildGraph dirs).graph.disk ↔
      HasUnitSuffix name ∧ ∃ d ∈ dirs, ∃ text, d.Offers name text := by
  have hoffered : (dirs.findSome? fun d => d.text? name).isSome = true ↔
      ∃ d ∈ dirs, ∃ text, d.Offers name text := by
    rw [List.findSome?_isSome_iff]
    refine exists_congr fun d => and_congr_right fun hd => ?_
    rw [Option.isSome_iff_exists]
    exact exists_congr fun text => Directory.text?_eq_some_iff (hsteady d hd)
  rw [ExtTreeMap.mem_iff_isSome_getElem?, disk_buildGraph, unit?, ← isUnitFile_iff, ← hoffered]
  split
  · next hunit => simp [hunit]
  · next hunit => simp [hunit]

theorem disk_buildGraph_append (dirs dirs' : List Directory) (name : String) :
    (buildGraph (dirs ++ dirs')).graph.disk[name]? =
      (buildGraph dirs).graph.disk[name]?.or (buildGraph dirs').graph.disk[name]? := by
  rw [disk_buildGraph, disk_buildGraph, disk_buildGraph, List.findSome?_append, unit?]
  split
  · next hunit =>
    rw [unit?, if_pos hunit, unit?, if_pos hunit]
    cases dirs.findSome? fun d => d.text? name <;> rfl
  · next hunit =>
    rw [unit?, if_neg hunit, unit?, if_neg hunit]
    rfl

theorem size_eq_ncard (disk : ExtTreeMap String UnitDef) : disk.size = {name | name ∈ disk}.ncard := by
  have hkeys : {name | name ∈ disk} = (disk.keys.toFinset : Set String) := by
    ext name
    simp
  rw [hkeys, Set.ncard_coe_finset, List.toFinset_card_of_nodup disk.nodup_keys,
    ExtTreeMap.length_keys]

theorem buildGraph_reordered (h : List.Forall₂ Directory.Reordered dirs dirs')
    (hsteady : ∀ d ∈ dirs, d.IsSteady) : buildGraph dirs' = buildGraph dirs := by
  have hloaded : ∀ l, dirs'.foldl Loading.addDirectory l = dirs.foldl Loading.addDirectory l := by
    induction h with
    | nil => exact fun _ => rfl
    | @cons d d' dirs dirs' hd _ ih =>
      intro l
      obtain ⟨hfirst, hrest⟩ := List.forall_mem_cons.mp hsteady
      have hadded : l.addDirectory d' = l.addDirectory d := by
        rw [Loading.addDirectory, Loading.addDirectory, hd.listing_eq hfirst]
        cases hd <;> rfl
      rw [List.foldl_cons, List.foldl_cons, hadded]
      exact ih hrest _
  rw [buildGraph, buildGraph, hloaded]

/-- A unit comes from the first directory in which its file can be read. Each is counted once, a
built-in hides the file of its name, the order of a listing does not matter, and more directories
add the units that were not there. -/
theorem buildGraph_first_readable (hsteady : ∀ d ∈ dirs, d.IsSteady) :
    let g := (buildGraph dirs).graph
    (∀ name, name ∈ g.disk ↔ HasUnitSuffix name ∧ ∃ d ∈ dirs, ∃ text, d.Offers name text) ∧
    (∀ name u, g.disk[name]? = some u ↔
      HasUnitSuffix name ∧ ∃ text, FirstOffers dirs name text ∧ u = parse text) ∧
    g.diskSize = {name | HasUnitSuffix name ∧ ∃ d ∈ dirs, ∃ text, d.Offers name text}.ncard ∧
    (∀ b : Builtin, g.get? b.name = some b.definition) ∧
    (∀ dirs', List.Forall₂ Directory.Reordered dirs dirs' → buildGraph dirs' = buildGraph dirs) ∧
    ∀ (dirs' : List Directory) (name : String), (buildGraph (dirs ++ dirs')).graph.disk[name]? =
      g.disk[name]?.or (buildGraph dirs').graph.disk[name]? := by
  refine ⟨fun name => mem_disk_iff hsteady, fun name u => getElem?_disk_iff hsteady u, ?_, ?_, ?_,
    disk_buildGraph_append dirs⟩
  · rw [Graph.diskSize, size_eq_ncard]
    simp only [mem_disk_iff hsteady]
  · intro b
    rw [graph_buildGraph]
    exact Graph.get?_builtin _ b
  · intro dirs' h
    exact buildGraph_reordered h hsteady

/-- A directory that is missing, one with a file that cannot be read, and one with the same file. -/
def searchPath : List Directory :=
  [⟨"/usr/local/lib", .error .ENOENT⟩,
    ⟨"/etc", .ok [(none, .ok ""), (some "a.service", .error (.errno .EACCES)), (some "a.txt", .ok "")]⟩,
    ⟨"/usr/lib", .ok [(some "a.service", .ok "[Service]\nExecStart=/sbin/a")]⟩]

theorem unreadable_file_hides_nothing : (∀ d ∈ searchPath, d.IsSteady) ∧
    (buildGraph searchPath).graph.disk["a.service"]? = some (parse "[Service]\nExecStart=/sbin/a") := by
  have hsteady : ∀ d ∈ searchPath, d.IsSteady := by
    intro d hd entries hentries name content content' hmem hmem'
    simp only [searchPath, List.mem_cons, List.not_mem_nil, or_false] at hd
    obtain rfl | rfl | rfl := hd
    · cases hentries
    · cases hentries
      grind
    · cases hentries
      grind
  obtain ⟨-, hunits, -⟩ := buildGraph_first_readable hsteady
  refine ⟨hsteady, (hunits _ _).mpr ⟨⟨"a", .inl rfl⟩, _, ?_, rfl⟩⟩
  refine ⟨searchPath.take 2, _, [], rfl, ⟨_, rfl, List.mem_singleton_self _⟩, ?_⟩
  rintro d hd text ⟨entries, hentries, hmem⟩
  simp only [searchPath, List.take_succ_cons, List.take_zero, List.mem_cons, List.not_mem_nil,
    or_false] at hd
  obtain rfl | rfl := hd
  · cases hentries
  · cases hentries
    grind

end InitDaemon.Units
