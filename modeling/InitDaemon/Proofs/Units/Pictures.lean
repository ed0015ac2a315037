import InitDaemon.Proofs.Text.Pieces
import InitDaemon.Proofs.Units.Components
import InitDaemon.Units.Dot
import Mathlib.Data.List.Sort

/-!
# Reading graph pictures

A picture is read as names between quotes and words outside of them. A name without a quote is read
back as it stands, whatever else it holds, so a picture tells the unit files of a graph and what
each of them depends on, and nothing else about the graph.
-/

namespace InitDaemon.Units

open Text Std

/-! ## Tokens -/

/-- A name, which ends at the next quote, or a word outside of names. -/
inductive DotToken
  | name (s : String)
  | word (s : String)
deriving DecidableEq, Repr

namespace DotToken

variable {name before : List Char} {c : Char}

def ofWords (cs : List Char) : List DotToken :=
  (words cs).map fun w => .word (String.ofList w)

/-- The pieces of a text between quotes are outside of names and inside of them in turn. -/
def ofPieces : List (List Char) → List DotToken
  | [] => []
  | [outside] => ofWords outside
  | outside :: inside :: pieces =>
    ofWords outside ++ .name (String.ofList inside) :: ofPieces pieces

def read (cs : List Char) : List DotToken :=
  ofPieces (cs.splitOn '"')

theorem ofWords_append_cons (hc : isBlank c = true) (before after : List Char) :
    ofWords (before ++ c :: after) = ofWords before ++ ofWords after := by
  rw [ofWords, words_append_cons hc, List.map_append, ofWords, ofWords]

/-- Words before a blank are read for themselves. -/
theorem read_words_append (hbefore : '"' ∉ before) (hc : isBlank c = true) (after : List Char) :
    read (before ++ c :: after) = ofWords before ++ read after := by
  have hquote : '"' ∉ before ++ [c] := by
    have hne : '"' ≠ c := by
      rintro rfl
      cases hc
    simp [hbefore, hne]
  obtain ⟨outside, pieces, hpieces⟩ := List.exists_cons_of_ne_nil (List.splitOn_ne_nil '"' after)
  have hsplit : (before ++ c :: after).splitOn '"' = (before ++ c :: outside) :: pieces := by
    rw [List.append_cons, splitOn_append_of_not_mem hquote, hpieces, List.modifyHead_cons,
      ← List.append_cons]
  rw [read, read, hsplit, hpieces]
  cases pieces with
  | nil => simp only [ofPieces, ofWords_append_cons hc]
  | cons inside pieces => simp only [ofPieces, ofWords_append_cons hc, List.append_assoc]

theorem read_blank_cons (hc : isBlank c = true) (after : List Char) :
    read (c :: after) = read after :=
  read_words_append List.not_mem_nil hc after

theorem read_name_append (hname : '"' ∉ name) (after : List Char) :
    read ('"' :: (name ++ '"' :: after)) = .name (String.ofList name) :: read after := by
  have hsplit : ('"' :: (name ++ '"' :: after)).splitOn '"' = [] :: name :: after.splitOn '"' := by
    rw [List.splitOn_cons_eq_if_modifyHead, if_pos (beq_self_eq_true '"'),
      List.splitOn_append_cons_self_of_not_mem hname]
  rw [read, hsplit]
  rfl

end DotToken

/-! ## Statements -/

namespace DotStatement

open DotToken

variable {st : DotStatement} {sts : List DotStatement}

def names : DotStatement → List String
  | node v => [v]
  | edge v w => [v, w]

def tokens : DotStatement → List DotToken
  | node v => [.name v, .word ";"]
  | edge v w => [.name v, .word "->", .name w, .word ";"]

/-- Statements up to the closing brace. -/
def readAll : List DotToken → Option (List DotStatement)
  | [.word "\x7d"] => some []
  | .name v :: .word ";" :: rest => (readAll rest).map (node v :: ·)
  | .name v :: .word "->" :: .name w :: .word ";" :: rest => (readAll rest).map (edge v w :: ·)
  | _ => none

theorem readAll_tokens_append (st : DotStatement) (rest : List DotToken) :
    readAll (st.tokens ++ rest) = (readAll rest).map (st :: ·) := by
  cases st <;> simp [tokens, readAll]

theorem readAll_flatMap (sts : List DotStatement) :
    readAll (sts.flatMap tokens ++ [.word "\x7d"]) = some sts := by
  induction sts with
  | nil => simp [readAll]
  | cons st sts ih =>
    rw [List.flatMap_cons, List.append_assoc, readAll_tokens_append, ih, Option.map_some]

theorem read_text_append (h : ∀ v ∈ st.names, '"' ∉ v.toList) (rest : List Char) :
    read (st.text.toList ++ rest) = st.tokens ++ read rest := by
  cases st with
  | node v =>
    have hv : '"' ∉ v.toList := h v (by simp [names])
    have htext : (node v).text.toList ++ rest =
        ' ' :: ' ' :: '"' :: (v.toList ++ '"' :: ([';'] ++ '\n' :: rest)) := by
      simp [text]
    rw [htext, read_blank_cons rfl, read_blank_cons rfl, read_name_append hv,
      read_words_append (by decide) rfl, String.ofList_toList]
    rfl
  | edge v w =>
    have hv : '"' ∉ v.toList := h v (by simp [names])
    have hw : '"' ∉ w.toList := h w (by simp [names])
    have htext : (edge v w).text.toList ++ rest = ' ' :: ' ' :: '"' :: (v.toList ++ '"' :: ' ' ::
        (['-', '>'] ++ ' ' :: '"' :: (w.toList ++ '"' :: ([';'] ++ '\n' :: rest)))) := by
      simp [text]
    rw [htext, read_blank_cons rfl, read_blank_cons rfl, read_name_append hv, read_blank_cons rfl,
      read_words_append (by decide) rfl, read_name_append hw, read_words_append (by decide) rfl,
      String.ofList_toList, String.ofList_toList]
    rfl

theorem read_texts_append (h : ∀ st ∈ sts, ∀ v ∈ st.names, '"' ∉ v.toList) (rest : List Char) :
    read ((String.join (sts.map text)).toList ++ rest) = sts.flatMap tokens ++ read rest := by
  induction sts with
  | nil => rfl
  | cons st sts ih =>
    rw [List.forall_mem_cons] at h
    rw [List.map_cons, String.join_cons, String.toList_append, List.append_assoc,
      read_text_append h.1, ih h.2, List.flatMap_cons, List.append_assoc]

end DotStatement

/-- The text that a picture begins with. -/
def pictureStart : String :=
  "digraph systemd \x7b\n" ++ "  rankdir=LR;\n" ++
    "  node [shape=box, style=filled, fillcolor=lightgrey];\n"

/-- The words that a picture begins with. -/
def pictureHeading : List DotToken :=
  ["digraph", "systemd", "\x7b", "rankdir=LR;", "node", "[shape=box,", "style=filled,",
    "fillcolor=lightgrey];"].map .word

/-- The statements of a picture, if a text is one. -/
def readPicture (picture : String) : Option (List DotStatement) :=
  (DotToken.read picture.toList).dropPrefix? pictureHeading >>= DotStatement.readAll

theorem read_pictureStart_append (rest : List Char) :
    DotToken.read (pictureStart.toList ++ rest) = pictureHeading ++ DotToken.read rest := by
  have hsplit : pictureStart.toList = pictureStart.toList.dropLast ++ ['\n'] := by decide
  have hquote : '"' ∉ pictureStart.toList.dropLast := by decide
  have hwords : DotToken.ofWords pictureStart.toList.dropLast = pictureHeading := by decide
  rw [hsplit, List.append_assoc, List.singleton_append, DotToken.read_words_append hquote rfl,
    hwords]

namespace Graph

variable {g g' : Graph} {v w : String}

/-- Neither the names of unit files nor those of their dependencies hold a quote. -/
def QuoteFree (g : Graph) : Prop :=
  ∀ (v : String) (u : UnitDef), g.disk[v]? = some u →
    '"' ∉ v.toList ∧ ∀ w ∈ u.dependencies, '"' ∉ w.toList

/-- The statements name each unit file once, in name order, and behind it each of its dependencies
once, in name order too. -/
def Draws (g : Graph) (sts : List DotStatement) : Prop :=
  ∃ rows : List (String × List String),
    sts = rows.flatMap (fun (v, ws) => .node v :: ws.map (.edge v)) ∧
    rows.Pairwise (fun row row' => row.1 < row'.1) ∧
    ∀ v ws, (v, ws) ∈ rows ↔ ∃ u, g.disk[v]? = some u ∧ ws.Pairwise (· < ·) ∧
      ∀ w, w ∈ ws ↔ w ∈ u.dependencies

theorem toDot_eq (g : Graph) :
    g.toDot = pictureStart ++ String.join (g.dotStatements.map DotStatement.text) ++ "\x7d\n" :=
  rfl

/-- Of a unit file only its name and its dependencies are shown. -/
theorem dotStatements_eq (g : Graph) : g.dotStatements =
    (g.disk.map fun _ u => u.dependencies).toList.flatMap fun (v, ws) =>
      .node v :: ws.toList.map (.edge v) := by
  rw [dotStatements, ExtTreeMap.toList_map, List.flatMap_map]

theorem node_mem_dotStatements : .node v ∈ g.dotStatements ↔ ∃ u, g.disk[v]? = some u := by
  simp [dotStatements, ExtTreeMap.mem_toList_iff_getElem?_eq_some]

theorem edge_mem_dotStatements :
    .edge v w ∈ g.dotStatements ↔ ∃ u, g.disk[v]? = some u ∧ w ∈ u.dependencies := by
  simp [dotStatements, ExtTreeMap.mem_toList_iff_getElem?_eq_some]

theorem draws_dotStatements (g : Graph) : g.Draws g.dotStatements := by
  refine ⟨g.disk.toList.map fun file => (file.1, file.2.dependencies.toList), ?_, ?_, ?_⟩
  · rw [List.flatMap_map, dotStatements]
  · rw [List.pairwise_map]
    exact g.disk.ordered_keys_toList.imp
      fun {a b} (h : compareOfLessAndEq a.1 b.1 = .lt) => compareOfLessAndEq_eq_lt.mp h
  · intro v ws
    have hmem : (v, ws) ∈ g.disk.toList.map (fun file => (file.1, file.2.dependencies.toList)) ↔
        ∃ u, g.disk[v]? = some u ∧ u.dependencies.toList = ws := by
      simp [ExtTreeMap.mem_toList_iff_getElem?_eq_some]
    rw [hmem]
    refine exists_congr fun u => and_congr_right fun _ => ?_
    constructor
    · rintro rfl
      exact ⟨toList_sorted u.dependencies, fun w => ExtTreeSet.mem_toList⟩
    · rintro ⟨hsorted, hws⟩
      exact (toList_sorted u.dependencies).eq_of_mem_iff hsorted
        fun w => ExtTreeSet.mem_toList.trans (hws w).symm

theorem quoteFree_iff : g.QuoteFree ↔ ∀ row ∈ g.disk.toList,
    '"' ∉ row.1.toList ∧ ∀ w ∈ row.2.dependencies.toList, '"' ∉ w.toList := by
  simp [QuoteFree, ExtTreeMap.mem_toList_iff_getElem?_eq_some]

instance : DecidablePred QuoteFree :=
  fun _ => decidable_of_iff _ quoteFree_iff.symm

theorem QuoteFree.of_mem (h : g.QuoteFree) {st : DotStatement} (hst : st ∈ g.dotStatements) :
    ∀ v ∈ st.names, '"' ∉ v.toList := by
  cases st with
  | node v =>
    obtain ⟨u, hu⟩ := node_mem_dotStatements.mp hst
    simpa [DotStatement.names] using (h v u hu).1
  | edge v w =>
    obtain ⟨u, hu, hw⟩ := edge_mem_dotStatements.mp hst
    simpa [DotStatement.names] using ⟨(h v u hu).1, (h v u hu).2 w hw⟩

theorem readPicture_toDot (h : g.QuoteFree) : readPicture g.toDot = some g.dotStatements := by
  have hend : DotToken.read "\x7d\n".toList = [.word "\x7d"] := by decide
  have hread : DotToken.read g.toDot.toList =
      pictureHeading ++ (g.dotStatements.flatMap DotStatement.tokens ++ [.word "\x7d"]) := by
    rw [toDot_eq, String.toList_append, String.toList_append, List.append_assoc,
      read_pictureStart_append, DotStatement.read_texts_append fun _ => h.of_mem, hend]
  rw [readPicture, hread, List.dropPrefix?_append_of_beq _ (beq_self_eq_true _)]
  exact DotStatement.readAll_flatMap g.dotStatements

theorem dotStatements_eq_iff : g.dotStatements = g'.dotStatements ↔
    ∀ v : String, g.disk[v]?.map UnitDef.dependencies = g'.disk[v]?.map UnitDef.dependencies := by
  constructor
  · intro h v
    have hnode : (∃ u, g.disk[v]? = some u) ↔ ∃ u, g'.disk[v]? = some u := by
      rw [← node_mem_dotStatements, ← node_mem_dotStatements, h]
    have hedge : ∀ w, (∃ u, g.disk[v]? = some u ∧ w ∈ u.dependencies) ↔
        ∃ u, g'.disk[v]? = some u ∧ w ∈ u.dependencies := by
      intro w
      rw [← edge_mem_dotStatements, ← edge_mem_dotStatements, h]
    cases hu : g.disk[v]? with
    | none =>
      rw [hu] at hnode
      have hnone : g'.disk[v]? = none := by simpa [Option.eq_none_iff_forall_ne_some] using hnode
      rw [hnone]
    | some u =>
      obtain ⟨u', hu'⟩ := hnode.mp ⟨u, hu⟩
      simp only [hu, hu', Option.some.injEq, exists_eq_left'] at hedge
      rw [hu', Option.map_some, Option.map_some, ExtTreeSet.ext_mem hedge]
  · intro h
    have hmap : g.disk.map (fun _ u => u.dependencies) =
        g'.disk.map fun _ u => u.dependencies := by
      apply ExtTreeMap.ext_getElem?
      intro v
      rw [ExtTreeMap.getElem?_map, ExtTreeMap.getElem?_map]
      exact h v
    rw [dotStatements_eq, dotStatements_eq, hmap]

/-- Pictures are equal exactly if they show the same unit files with the same dependencies, and
what is read from a picture are these and nothing else. -/
theorem picture_tells_unit_files :
    (∀ g g' : Graph, g.QuoteFree → g'.QuoteFree → (g.toDot = g'.toDot ↔
      ∀ v : String, g.disk[v]?.map UnitDef.dependencies = g'.disk[v]?.map UnitDef.dependencies)) ∧
    ∀ g : Graph, g.QuoteFree → ∃ sts, readPicture g.toDot = some sts ∧ g.Draws sts := by
  refine ⟨fun g g' h h' => ?_, fun g h => ⟨_, readPicture_toDot h, g.draws_dotStatements⟩⟩
  rw [← dotStatements_eq_iff]
  constructor
  · intro htext
    have hread : some g.dotStatements = some g'.dotStatements := by
      rw [← readPicture_toDot h, ← readPicture_toDot h', htext]
    exact Option.some.inj hread
  · intro hsts
    rw [toDot_eq, toDot_eq, hsts]

/-- A quote in a name is not told from the end of the name. -/
example : toDot { disk := (∅ : ExtTreeMap String UnitDef) |>.insert "a\";\n  \"b" {} } =
    toDot { disk := (∅ : ExtTreeMap String UnitDef) |>.insert "a" {} |>.insert "b" {} } := by
  decide

/-- Names of all kinds: that of a built-in unit, and others that look like parts of a picture. -/
def tangled : Graph :=
  addBuiltins
    { disk := (∅ : ExtTreeMap String UnitDef)
        |>.insert "mounts" { dependencies := .ofList ["x -> y", "a;\n  b", "mounts"] }
        |>.insert "x -> y" { dependencies := .ofList ["\x7d", ""] } }

/-- The same names and dependencies beside other actions, and without built-in units. -/
def tangledFiles : Graph :=
  { disk := (∅ : ExtTreeMap String UnitDef)
      |>.insert "x -> y" { dependencies := .ofList ["", "\x7d"], start := .command "/bin/y" }
      |>.insert "mounts" { dependencies := .ofList ["mounts", "a;\n  b", "x -> y"] } }

def tangledStatements : List DotStatement :=
  [.node "mounts", .edge "mounts" "a;\n  b", .edge "mounts" "mounts", .edge "mounts" "x -> y",
    .node "x -> y", .edge "x -> y" "", .edge "x -> y" "\x7d"]

theorem tangled_picture_tells :
    tangled.QuoteFree ∧ tangledFiles.QuoteFree ∧ tangled.toDot = tangledFiles.toDot ∧
    readPicture tangled.toDot = some tangledStatements ∧ tangled.Draws tangledStatements := by
  have h : tangled.QuoteFree := by decide
  have h' : tangledFiles.QuoteFree := by decide
  obtain ⟨htext, hread⟩ := picture_tells_unit_files
  have hsame : tangled.toDot = tangledFiles.toDot :=
    (htext tangled tangledFiles h h').mpr (dotStatements_eq_iff.mp (by decide))
  obtain ⟨sts, hsts, hdraws⟩ := hread tangled h
  have htangled : tangled.dotStatements = tangledStatements := by decide
  rw [readPicture_toDot h, htangled] at hsts
  cases hsts
  exact ⟨h, h', hsame, htangled ▸ readPicture_toDot h, hdraws⟩

end Graph

end InitDaemon.Units
