import InitDaemon.Text.Blank
import Mathlib.Data.List.Basic

/-!
# Lines and words of a text

A text is cut as the library cuts lists, and a word of a text is told by where it stands in it.
-/

namespace InitDaemon.Text

variable {p : Char → Bool} {c sep : Char} {cs w line key value : List Char}

theorem splitWhere_eq_splitOnP (p : Char → Bool) (cs : List Char) :
    splitWhere p cs = cs.splitOnP p := by
  induction cs with
  | nil => rw [splitWhere_nil, List.splitOnP_nil]
  | cons c cs ih => rw [splitWhere_cons, List.splitOnP_cons_eq_if_modifyHead, ih]

theorem splitAt_eq_splitOn (sep : Char) (cs : List Char) : splitAt sep cs = cs.splitOn sep := by
  rw [splitAt, splitWhere_eq_splitOnP, List.splitOn_eq_splitOnP]

theorem splitWhere_append_cons (hc : p c = true) (before after : List Char) :
    splitWhere p (before ++ c :: after) = splitWhere p before ++ splitWhere p after := by
  simp only [splitWhere_eq_splitOnP, List.splitOnP_append_cons before after hc]

theorem splitWhere_of_forall (h : ∀ c ∈ cs, p c = false) : splitWhere p cs = [cs] := by
  rw [splitWhere_eq_splitOnP, List.splitOnP_eq_singleton h]

/-- A stretch of a text without a separator, between two separators or ends of the text. -/
def IsPiece (p : Char → Bool) (w cs : List Char) : Prop :=
  (∀ c ∈ w, p c = false) ∧ ∃ before after, cs = before ++ w ++ after ∧
    (∀ c ∈ before.getLast?, p c = true) ∧ ∀ c ∈ after.head?, p c = true

theorem IsPiece.after (h : IsPiece p w cs) (first : List Char) (hc : p c = true) :
    IsPiece p w (first ++ c :: cs) := by
  obtain ⟨hw, before, after, rfl, hbefore, hafter⟩ := h
  refine ⟨hw, first ++ c :: before, after, by simp, ?_, hafter⟩
  cases before with
  | nil => simpa using hc
  | cons b before => simpa [List.getLast?_append] using hbefore

/-- Every text is its part before the first separator and, after that, a shorter text. -/
theorem exists_first_piece (p : Char → Bool) (cs : List Char) :
    ∃ first, (∀ c ∈ first, p c = false) ∧
      (cs = first ∨ ∃ c rest, cs = first ++ c :: rest ∧ p c = true) := by
  induction cs with
  | nil => exact ⟨[], by simp, .inl rfl⟩
  | cons c cs ih =>
    cases hc : p c with
    | true => exact ⟨[], by simp, .inr ⟨c, cs, rfl, hc⟩⟩
    | false =>
      obtain ⟨first, hfirst, hcs⟩ := ih
      refine ⟨c :: first, by simpa [hc] using hfirst, ?_⟩
      rcases hcs with rfl | ⟨s, rest, rfl, hs⟩
      · exact .inl rfl
      · exact .inr ⟨s, rest, rfl, hs⟩

theorem isPiece_of_mem (n : Nat) :
    ∀ cs : List Char, cs.length ≤ n → ∀ w ∈ splitWhere p cs, IsPiece p w cs := by
  induction n with
  | zero =>
    intro cs hn w hw
    obtain rfl := List.length_eq_zero_iff.mp (Nat.le_zero.mp hn)
    simp only [splitWhere_nil, List.mem_singleton] at hw
    exact ⟨by simp [hw], [], [], by simp [hw], by simp, by simp⟩
  | succ n ih =>
    intro cs hn w hw
    obtain ⟨first, hfirst, rfl | ⟨c, rest, rfl, hc⟩⟩ := exists_first_piece p cs
    · rw [splitWhere_of_forall hfirst, List.mem_singleton] at hw
      exact ⟨hw ▸ hfirst, [], [], by simp [hw], by simp, by simp⟩
    · rw [splitWhere_append_cons hc, splitWhere_of_forall hfirst] at hw
      rcases List.mem_append.mp hw with hw | hw
      · rw [List.mem_singleton] at hw
        exact ⟨hw ▸ hfirst, [], c :: rest, by simp [hw], by simp, by simpa using hc⟩
      · have hshort : rest.length ≤ n := by
          simp only [List.length_append, List.length_cons] at hn
          omega
        exact (ih rest hshort w hw).after first hc

theorem mem_splitWhere_iff : w ∈ splitWhere p cs ↔ IsPiece p w cs := by
  refine ⟨isPiece_of_mem cs.length cs (Nat.le_refl _) w, ?_⟩
  rintro ⟨hw, before, after, rfl, hbefore, hafter⟩
  have hhere : w ∈ splitWhere p (w ++ after) := by
    cases after with
    | nil => simp [splitWhere_of_forall hw]
    | cons c after =>
      rw [splitWhere_append_cons (hafter c rfl), splitWhere_of_forall hw]
      exact List.mem_append_left _ (List.mem_singleton_self w)
  rcases List.eq_nil_or_concat before with rfl | ⟨before, c, rfl⟩
  · exact hhere
  · have hc : p c = true := hbefore c (by simp)
    rw [List.concat_eq_append, List.append_assoc, List.append_assoc, List.singleton_append,
      splitWhere_append_cons hc]
    exact List.mem_append_right _ hhere

theorem not_mem_of_mem_splitOn {sep : Char} (hw : w ∈ cs.splitOn sep) : sep ∉ w := by
  rw [← splitAt_eq_splitOn, splitAt, mem_splitWhere_iff] at hw
  intro hmem
  simpa using hw.1 sep hmem

/-- What comes before the first separator adds to the first piece only. -/
theorem splitOn_append_of_not_mem {before : List Char} (h : sep ∉ before) (after : List Char) :
    (before ++ after).splitOn sep = (after.splitOn sep).modifyHead (before ++ ·) := by
  induction before with
  | nil =>
    obtain ⟨piece, pieces, hpieces⟩ := List.exists_cons_of_ne_nil (List.splitOn_ne_nil sep after)
    simp [hpieces]
  | cons c before ih =>
    rw [List.mem_cons, not_or] at h
    have hc : (c == sep) = false := beq_eq_false_iff_ne.mpr (Ne.symm h.1)
    rw [List.cons_append, List.splitOn_cons_eq_if_modifyHead, hc, ih h.2]
    simp [Function.comp_def]

/-- A word of a text: a stretch without blanks, between two blanks or ends of the text. -/
def IsWord (w cs : List Char) : Prop :=
  w ≠ [] ∧ IsPiece isBlank w cs

theorem mem_words_iff : w ∈ words cs ↔ IsWord w cs := by
  simp only [words, List.mem_filter, mem_splitWhere_iff, IsWord, Bool.not_eq_true',
    List.isEmpty_eq_false_iff]
  exact and_comm

theorem words_append_cons (hc : isBlank c = true) (before after : List Char) :
    words (before ++ c :: after) = words before ++ words after := by
  rw [words, splitWhere_append_cons hc, List.filter_append, words, words]

theorem words_of_word (hw : w ≠ []) (h : ∀ c ∈ w, isBlank c = false) : words w = [w] := by
  rw [words, splitWhere_of_forall h]
  simp [hw]

theorem words_blanks_append {blanks : List Char} (h : ∀ c ∈ blanks, isBlank c = true)
    (rest : List Char) : words (blanks ++ rest) = words rest := by
  induction blanks with
  | nil => rfl
  | cons c blanks ih =>
    rw [List.forall_mem_cons] at h
    have hfirst : words (c :: (blanks ++ rest)) = words (blanks ++ rest) :=
      words_append_cons h.1 [] (blanks ++ rest)
    rw [List.cons_append, hfirst, ih h.2]

/-- A word ends where a blank comes next. -/
theorem words_word_append {rest : List Char} (hw : w ≠ []) (h : ∀ c ∈ w, isBlank c = false)
    (hrest : ∀ c ∈ rest.head?, isBlank c = true) : words (w ++ rest) = w :: words rest := by
  cases rest with
  | nil =>
    rw [List.append_nil]
    exact words_of_word hw h
  | cons c rest =>
    have hc : isBlank c = true := hrest c rfl
    have hrest' : words (c :: rest) = words rest := words_append_cons hc [] rest
    rw [words_append_cons hc, words_of_word hw h, hrest', List.singleton_append]

/-- Without blanks, and not empty. -/
def IsToken (s : String) : Prop :=
  s.toList ≠ [] ∧ ∀ c ∈ s.toList, isBlank c = false

instance (s : String) : Decidable (IsToken s) :=
  @instDecidableAnd _ _ inferInstance (List.decidableBAll _ s.toList)

theorem not_mem_of_token {s : String} (h : IsToken s) : '\n' ∉ s.toList := by
  intro hmem
  cases h.2 '\n' hmem

theorem token_of_mem_words (h : w ∈ words cs) : IsToken (String.ofList w) := by
  obtain ⟨hne, hblank, -⟩ := mem_words_iff.mp h
  simpa [IsToken] using ⟨hne, hblank⟩

/-- The carriage return is no part of a word. -/
theorem words_dropReturn (cs : List Char) : words (dropReturn cs) = words cs := by
  rw [dropReturn]
  split
  · next hlast =>
    obtain ⟨front, rfl⟩ := List.getLast?_eq_some_iff.mp hlast
    rw [List.dropLast_concat, words_append_cons (by decide)]
    exact (List.append_nil _).symm
  · rfl

/-- The cut falls at the first separator. -/
theorem cutAt_eq_some_iff :
    cutAt sep line = some (key, value) ↔ line = key ++ sep :: value ∧ sep ∉ key := by
  induction line generalizing key with
  | nil => simp [cutAt]
  | cons c line ih =>
    by_cases hc : c = sep
    · subst hc
      cases key with
      | nil => simp [cutAt, eq_comm]
      | cons k key => simp +contextual [cutAt]
    · cases key with
      | nil => simp [cutAt, hc]
      | cons k key =>
        have hmap : cutAt sep (c :: line) = some (k :: key, value) ↔
            c = k ∧ cutAt sep line = some (key, value) := by
          simp only [cutAt, beq_iff_eq, hc, if_false, Option.map_eq_some_iff, Prod.exists,
            Prod.mk.injEq, List.cons.injEq]
          constructor
          · rintro ⟨a, b, hcut, ⟨rfl, rfl⟩, rfl⟩
            exact ⟨rfl, hcut⟩
          · rintro ⟨rfl, hcut⟩
            exact ⟨key, value, hcut, ⟨rfl, rfl⟩, rfl⟩
        rw [hmap, ih, List.cons_append, List.cons.injEq, List.mem_cons, not_or]
        constructor
        · rintro ⟨rfl, rfl, hkey⟩
          exact ⟨⟨rfl, rfl⟩, Ne.symm hc, hkey⟩
        · rintro ⟨⟨rfl, rfl⟩, -, hkey⟩
          exact ⟨rfl, rfl, hkey⟩

/-! ## Trimmed texts -/

/-- A trimmed text begins as its first word does. -/
theorem head?_trim (cs : List Char) : (trim cs).head? = (words cs).head?.bind List.head? := by
  induction cs with
  | nil => rfl
  | cons c cs ih =>
    cases hc : isBlank c with
    | true =>
      have htrim : trim (c :: cs) = trim cs := by
        rw [trim, trim, trimStart, trimStart, List.dropWhile_cons_of_pos hc]
      have hwords : words (c :: cs) = words cs := words_append_cons hc [] cs
      rw [htrim, hwords, ih]
    | false =>
      have htrim : (trim (c :: cs)).head? = some c := by
        have hstart : trimStart (c :: cs) = c :: cs := by
          rw [trimStart, List.dropWhile_cons_of_neg (by simp [hc])]
        rw [trim, hstart, trimEnd, List.head?_reverse, List.reverse_cons, List.dropWhile_append]
        split
        · rw [List.dropWhile_cons_of_neg (by simp [hc])]
          rfl
        · exact List.getLast?_concat
      have hwords : ((words (c :: cs)).head?.bind List.head?) = some c := by
        obtain ⟨piece, pieces, hpieces⟩ := List.exists_cons_of_ne_nil (splitWhere_ne_nil isBlank cs)
        rw [words, splitWhere_cons, hc, hpieces]
        rfl
      rw [htrim, hwords]

theorem first_not_blank (hc : c ∈ (trim cs).head?) : isBlank c = false := by
  rw [head?_trim] at hc
  obtain ⟨w, hw, hfirst⟩ := Option.bind_eq_some_iff.mp hc
  have hword := mem_words_iff.mp (List.mem_of_head? hw)
  exact hword.2.1 c (List.mem_of_head? hfirst)

theorem last_not_blank (hc : c ∈ (trim cs).getLast?) : isBlank c = false := by
  have hdrop := List.head?_dropWhile_not isBlank (trimStart cs).reverse
  rw [trim, trimEnd, List.getLast?_reverse] at hc
  rw [hc] at hdrop
  simpa using hdrop

/-- A text that neither begins nor ends with a blank is left as it is. -/
theorem trim_eq_self (hfirst : ∀ c ∈ cs.head?, isBlank c = false)
    (hlast : ∀ c ∈ cs.getLast?, isBlank c = false) : trim cs = cs := by
  have hstart : trimStart cs = cs := by
    cases cs with
    | nil => rfl
    | cons c cs => exact List.dropWhile_cons_of_neg (by simp [hfirst c rfl])
  have hend : trimEnd cs = cs := by
    rcases List.eq_nil_or_concat cs with rfl | ⟨front, c, rfl⟩
    · rfl
    · have hc : isBlank c = false := hlast c (by simp)
      simp [trimEnd, hc]
  rw [trim, hstart, hend]

theorem trim_sublist (cs : List Char) : (trim cs).Sublist cs := by
  have hend : (trimEnd (trimStart cs)).Sublist (trimStart cs) := by
    rw [trimEnd, ← List.reverse_sublist, List.reverse_reverse]
    exact List.dropWhile_sublist _
  exact hend.trans (List.dropWhile_sublist _)

theorem trimEnd_concat_blank (hc : isBlank c = true) (cs : List Char) :
    trimEnd (cs ++ [c]) = trimEnd cs := by
  simp [trimEnd, hc]

theorem trim_concat_blank (hc : isBlank c = true) (cs : List Char) :
    trim (cs ++ [c]) = trim cs := by
  rw [trim, trim, trimStart, trimStart, List.dropWhile_append]
  split
  · next hall =>
    rw [List.isEmpty_iff.mp hall]
    simp [trimEnd, hc]
  · exact trimEnd_concat_blank hc _

/-- A carriage return at the end of a line is blank, so no trimmed line has it. -/
theorem trim_dropReturn (cs : List Char) : trim (dropReturn cs) = trim cs := by
  rw [dropReturn]
  split
  · next hlast =>
    obtain ⟨front, rfl⟩ := List.getLast?_eq_some_iff.mp hlast
    rw [List.dropLast_concat]
    exact (trim_concat_blank (by decide) front).symm
  · rfl

/-! ## Lines -/

/-- The lines of a text are its pieces between line feeds, apart from the carriage returns and from
an empty piece at the end. -/
theorem exists_lines (cs : List Char) : ∃ front last, cs.splitOn '\n' = front ++ [last] ∧
    lines cs = front.map dropReturn ++ if last.isEmpty then [] else [last] := by
  rcases List.eq_nil_or_concat (cs.splitOn '\n') with hnone | ⟨front, last, hpieces⟩
  · exact absurd hnone (List.splitOn_ne_nil '\n' cs)
  · refine ⟨front, last, by simpa using hpieces, ?_⟩
    simp [lines, splitAt_eq_splitOn, hpieces]

/-- What sees only trimmed lines, and nothing in an empty one, sees the text cut at line feeds. -/
theorem foldl_lines {β : Type} {f : β → List Char → β}
    (hf : ∀ b l l', trim l = trim l' → f b l = f b l') (hnil : ∀ b, f b [] = b) (b : β)
    (cs : List Char) :
    (lines cs).foldl f b = (cs.splitOn '\n').foldl f b := by
  obtain ⟨front, last, hpieces, hlines⟩ := exists_lines cs
  have hfront : (front.map dropReturn).foldl f b = front.foldl f b := by
    rw [List.foldl_map]
    exact List.foldl_ext _ _ _ fun b l _ => hf b _ _ (trim_dropReturn l)
  rw [hlines, hpieces, List.foldl_append, List.foldl_append, hfront]
  cases last with
  | nil => simp [hnil]
  | cons c last => simp

/-- What sees only the words of a line, and nothing in an empty one, sees the text cut at line
feeds. -/
theorem filterMap_lines {β : Type} {f : List Char → Option β}
    (hf : ∀ l l', words l = words l' → f l = f l') (hnil : f [] = none) (cs : List Char) :
    (lines cs).filterMap f = (cs.splitOn '\n').filterMap f := by
  obtain ⟨front, last, hpieces, hlines⟩ := exists_lines cs
  have hfront : (front.map dropReturn).filterMap f = front.filterMap f := by
    rw [List.filterMap_map]
    exact List.filterMap_congr fun l _ => hf _ _ (words_dropReturn l)
  rw [hlines, hpieces, List.filterMap_append, List.filterMap_append, hfront]
  cases last with
  | nil => simp [hnil]
  | cons c last => simp

/-! ## Texts that are made of whole lines -/

/-- Each line of the text ends with a line feed. -/
def Terminated (text : String) : Prop :=
  text = "" ∨ ∃ front, text = front ++ "\n"

theorem Terminated.append_line (text line : String) : Terminated (text ++ (line ++ "\n")) :=
  .inr ⟨text ++ line, (String.append_assoc ..).symm⟩

theorem Terminated.splitAt_append {text : String} (h : Terminated text) :
    ∃ front, ∀ rest, splitAt '\n' (text.toList ++ rest) = front ++ splitAt '\n' rest := by
  rcases h with rfl | ⟨front, rfl⟩
  · exact ⟨[], fun _ => rfl⟩
  · refine ⟨splitAt '\n' front.toList, fun rest => ?_⟩
    rw [String.toList_append, List.append_assoc]
    exact splitWhere_append_cons rfl front.toList rest

theorem lines_of_splitAt {front : List (List Char)} (h : splitAt '\n' cs = front ++ [[]]) :
    lines cs = front.map dropReturn := by
  simp [lines, h]

/-- A line at the end of whole lines is one line more. -/
theorem lines_append_line {text line : String} (h : Terminated text)
    (hline : '\n' ∉ line.toList) :
    lines (text ++ (line ++ "\n")).toList = lines text.toList ++ [dropReturn line.toList] := by
  obtain ⟨front, hfront⟩ := h.splitAt_append
  have hbefore : splitAt '\n' text.toList = front ++ [[]] := by
    have hnothing := hfront []
    rw [List.append_nil] at hnothing
    exact hnothing
  have hlast : splitAt '\n' (line ++ "\n").toList = [line.toList] ++ [[]] := by
    have hplain : ∀ c ∈ line.toList, (c == '\n') = false := fun c hc =>
      beq_eq_false_iff_ne.mpr fun heq => hline (heq ▸ hc)
    rw [String.toList_append, ← splitWhere_of_forall hplain]
    exact splitWhere_append_cons rfl line.toList []
  have hafter : splitAt '\n' (text ++ (line ++ "\n")).toList =
      (front ++ [line.toList]) ++ [[]] := by
    rw [String.toList_append, hfront, hlast, List.append_assoc]
  rw [lines_of_splitAt hafter, lines_of_splitAt hbefore, List.map_append, List.map_singleton]

end InitDaemon.Text
