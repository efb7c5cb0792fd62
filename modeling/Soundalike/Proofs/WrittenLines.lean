import Soundalike.Proofs.Pieces

set_option autoImplicit false

/-!
# Whole lines and spaced words

A text that is empty or ends with a newline is made of whole lines, and the lines of what follows it
are not mixed with its own (`textLines_append`).  So one line of a text can be looked at where it
stands (`IsLineAt`), with the lines before it and those after it on either side
(`exists_textLines_at`).

Words that are written one after another with white space between them are found again as they were
(`IsSpaced.words_eq`).  Everything about the words of a text follows from one equation: at white
space they fall apart into those before it and those after it (`words_append_cons`).
-/

namespace Soundalike.Text

section

/-- A text of whole lines is empty or ends with a newline. -/
def WholeLines (text : Text) : Prop := text = [] ∨ ['\n'] <:+ text

/-- `line` is a line of the text `before ++ line ++ ending ++ after`: whole lines stand before it,
there is no newline in it, and only the last line of a text may lack an ending. -/
structure IsLineAt (before line ending after : Text) : Prop where
  wholeLines_before : WholeLines before
  newline_not_mem : '\n' ∉ line
  ends : IsLineEnd ending ∨ (ending = [] ∧ after = [])

variable {first second before line ending after : Text}

/-! ## Lines one after another -/

@[simp] theorem textLines_nil : textLines [] = [] := rfl

/-- The lines of a text after whole lines are lines of their own. -/
theorem textLines_append (hfirst : WholeLines first) (second : Text) :
    textLines (first ++ second) = textLines first ++ textLines second := by
  rcases hfirst with rfl | ⟨start, rfl⟩
  · rfl
  · have hends := lines_append_newline_cons '\n' '\r' start []
    unfold textLines
    rw [List.append_assoc, List.singleton_append, lines_append_newline_cons, hends, lines_nil,
      List.append_nil]

/-- A newline that follows whole lines is an empty line. -/
theorem textLines_newlines_append (count : Nat) (text : Text) :
    textLines (List.replicate count '\n' ++ text) =
      List.replicate count [] ++ textLines text := by
  induction count with
  | zero => rfl
  | succ count ih =>
    have hempty : textLines ['\n'] = [[]] := rfl
    rw [List.replicate_succ, List.replicate_succ, List.cons_append, ← List.singleton_append,
      textLines_append (Or.inr List.suffix_rfl), hempty, ih]
    rfl

/-- A line with its ending is whole. -/
theorem IsLineEnd.wholeLines (hending : IsLineEnd ending) (line : Text) :
    WholeLines (line ++ ending) := by
  obtain ⟨margin, -, rfl⟩ := hending.exists_margin
  rw [← List.append_assoc]
  exact Or.inr (List.suffix_append _ _)

/-- What is read of a line with its ending is the line, up to white space at its end. -/
theorem IsLineEnd.exists_textLines (hending : IsLineEnd ending) (hline : '\n' ∉ line) :
    ∃ written, textLines (line ++ ending) = [written] ∧ trim written = trim line := by
  obtain ⟨margin, hmargin, rfl⟩ := hending.exists_margin
  have hfree : '\n' ∉ line ++ margin := List.not_mem_append hline hmargin.2
  refine ⟨dropReturn '\r' (line ++ margin), ?_, ?_⟩
  · rw [← List.append_assoc, textLines, lines_append_cons '\r' hfree, lines_nil]
  · rw [trim_dropReturn, trim_append_blanks hmargin.1]

/-! ## A line where it stands -/

theorem IsLineAt.wholeLines_or (h : IsLineAt before line ending after) :
    WholeLines (line ++ ending) ∨ after = [] := by
  rcases h.ends with hending | ⟨-, hafter⟩
  · exact Or.inl (hending.wholeLines line)
  · exact Or.inr hafter

theorem IsLineAt.textLines_eq (h : IsLineAt before line ending after) :
    textLines (before ++ line ++ ending ++ after) =
      textLines before ++ textLines (line ++ ending) ++ textLines after := by
  rw [List.append_assoc before, List.append_assoc before, textLines_append h.wholeLines_before,
    List.append_assoc (textLines before)]
  rcases h.wholeLines_or with hwhole | rfl
  · rw [textLines_append hwhole]
  · simp

/-- The lines of a text around one of them, which is read up to white space at its end.  An empty
line at the end of a text counts only if it has an ending. -/
theorem exists_textLines_at (h : IsLineAt before line ending after) :
    ∃ written, trim written = trim line ∧
      (textLines (before ++ line ++ ending ++ after) =
          textLines before ++ written :: textLines after ∨
        (written = [] ∧ after = [] ∧
          textLines (before ++ line ++ ending ++ after) = textLines before)) := by
  rw [h.textLines_eq]
  rcases h.ends with hending | ⟨rfl, rfl⟩
  · obtain ⟨written, hlines, htrim⟩ := hending.exists_textLines h.newline_not_mem
    exact ⟨written, htrim, Or.inl (by simp [hlines])⟩
  · have hlines : textLines line = if line = [] then [] else [line] :=
      lines_of_not_mem '\r' h.newline_not_mem
    rw [List.append_nil, textLines_nil, List.append_nil, hlines]
    refine ⟨line, rfl, ?_⟩
    split
    · next hempty => exact Or.inr ⟨hempty, rfl, List.append_nil _⟩
    · exact Or.inl rfl

end

/-! ## Words -/

section

@[simp] theorem words_nil : words [] = [] := rfl

theorem words_append_cons {c : Char} (hc : isWhiteSpace c = true) (before after : Text) :
    words (before ++ c :: after) = words before ++ words after := by
  unfold words
  rw [splitWhere_append_cons hc, List.filter_append]

theorem words_blanks_append {blanks : Text} (hblanks : IsBlank blanks) (text : Text) :
    words (blanks ++ text) = words text := by
  induction blanks with
  | nil => rfl
  | cons c blanks ih =>
    obtain ⟨hc, hrest⟩ := List.forall_mem_cons.mp hblanks
    have hcut := words_append_cons hc [] (blanks ++ text)
    rw [List.nil_append, words_nil, List.nil_append] at hcut
    rw [List.cons_append, hcut, ih hrest]

/-- A word can be written in a text: it is not empty and has no white space in it. -/
structure IsWord (word : Text) : Prop where
  ne_nil : word ≠ []
  solid : ∀ c ∈ word, isWhiteSpace c = false

variable {word line : Text} {spaced : List Text}

theorem IsWord.words_eq (h : IsWord word) : words word = [word] := by
  have hpieces : splitWhere isWhiteSpace word = [word] := by
    obtain ⟨hne, hsolid⟩ := h
    clear hne
    induction word with
    | nil => rfl
    | cons c word ih =>
      obtain ⟨hc, hword⟩ := List.forall_mem_cons.mp hsolid
      simp [splitWhere, hc, ih hword]
  rw [words, hpieces, List.filter_singleton]
  simp [h.ne_nil]

/-! ## Gaps -/

/-- White space between two words of a line. -/
structure IsGap (gap : Text) : Prop where
  ne_nil : gap ≠ []
  isMargin : IsMargin gap

/-- The lines that hold words one after another, with gaps between them. -/
inductive IsSpaced : List Text → Text → Prop
  | last (word : Text) : IsSpaced [word] word
  | cons {word gap rest : Text} {others : List Text} (hgap : IsGap gap)
      (hrest : IsSpaced others rest) : IsSpaced (word :: others) (word ++ gap ++ rest)

theorem IsGap.exists_cons {gap : Text} (h : IsGap gap) :
    ∃ c rest, gap = c :: rest ∧ isWhiteSpace c = true ∧ IsBlank rest := by
  obtain ⟨c, rest, rfl⟩ := List.exists_cons_of_ne_nil h.ne_nil
  obtain ⟨hc, hrest⟩ := List.forall_mem_cons.mp h.isMargin.1
  exact ⟨c, rest, rfl, hc, hrest⟩

/-- The words of a line are found again. -/
theorem IsSpaced.words_eq (h : IsSpaced spaced line) (hwords : ∀ word ∈ spaced, IsWord word) :
    words line = spaced := by
  induction h with
  | last word => exact (hwords word List.mem_cons_self).words_eq
  | @cons word gap rest others hgap _ ih =>
    obtain ⟨hword, hothers⟩ := List.forall_mem_cons.mp hwords
    obtain ⟨c, blanks, rfl, hc, hblanks⟩ := hgap.exists_cons
    rw [List.append_assoc, List.cons_append, words_append_cons hc, words_blanks_append hblanks,
      hword.words_eq, ih hothers]
    rfl

/-- A line of words has only white space beside their characters. -/
theorem IsSpaced.mem_or_isWhiteSpace (h : IsSpaced spaced line) {c : Char} (hc : c ∈ line) :
    (∃ word ∈ spaced, c ∈ word) ∨ (isWhiteSpace c = true ∧ c ≠ '\n') := by
  induction h with
  | last word => exact Or.inl ⟨word, List.mem_cons_self, hc⟩
  | @cons word gap rest others hgap _ ih =>
    rcases List.mem_append.mp hc with hstart | hrest
    · rcases List.mem_append.mp hstart with hword | hmem
      · exact Or.inl ⟨word, List.mem_cons_self, hword⟩
      · exact Or.inr ⟨hgap.isMargin.1 c hmem, fun hc => hgap.isMargin.2 (hc ▸ hmem)⟩
    · refine (ih hrest).imp_left ?_
      rintro ⟨found, hfound, hmem⟩
      exact ⟨found, List.mem_cons_of_mem word hfound, hmem⟩

/-- What is in no word of a line, and in no gap, is not in the line. -/
theorem IsSpaced.not_mem (h : IsSpaced spaced line) {c : Char}
    (hc : c = '\n' ∨ isWhiteSpace c = false) (hwords : ∀ word ∈ spaced, c ∉ word) : c ∉ line := by
  intro hmem
  rcases h.mem_or_isWhiteSpace hmem with ⟨word, hword, hin⟩ | ⟨hwhite, hne⟩
  · exact hwords word hword hin
  · rcases hc with hnewline | hsolid
    · exact hne hnewline
    · exact ne_of_isWhiteSpace hwhite hsolid rfl

/-! ## Ends of a line -/

theorem IsSpaced.ne_nil_and_getLast? (h : IsSpaced spaced line)
    (hwords : ∀ word ∈ spaced, IsWord word) :
    line ≠ [] ∧ ∀ c ∈ line.getLast?, isWhiteSpace c = false := by
  induction h with
  | last word =>
    have hword := hwords word List.mem_cons_self
    exact ⟨hword.ne_nil, fun c hc => hword.solid c (List.mem_of_getLast? hc)⟩
  | cons _ _ ih =>
    obtain ⟨hne, hlast⟩ := ih (List.forall_mem_cons.mp hwords).right
    refine ⟨List.append_ne_nil_of_right_ne_nil _ hne, ?_⟩
    rwa [List.getLast?_append_of_ne_nil _ hne]

/-- A line of words starts with its first word, and white space comes after that if anything. -/
theorem IsSpaced.exists_rest {others : List Text} (h : IsSpaced (word :: others) line) :
    ∃ rest, line = word ++ rest ∧ ∀ c ∈ rest.head?, isWhiteSpace c = true := by
  cases h with
  | last => exact ⟨[], (List.append_nil _).symm, by simp⟩
  | @cons _ gap rest _ hgap hrest =>
    obtain ⟨c, blanks, rfl, hc, -⟩ := hgap.exists_cons
    exact ⟨c :: blanks ++ rest, List.append_assoc _ _ _, by simpa using hc⟩

/-- A line of words has no white space at its ends. -/
theorem IsSpaced.trim_eq (h : IsSpaced spaced line) (hwords : ∀ word ∈ spaced, IsWord word) :
    trim line = line := by
  refine trim_eq_self ?_ (h.ne_nil_and_getLast? hwords).right
  intro c hc
  cases spaced with
  | nil => cases h
  | cons word others =>
    have hword := hwords word List.mem_cons_self
    obtain ⟨rest, rfl, -⟩ := h.exists_rest
    rw [List.head?_append_of_ne_nil _ hword.ne_nil] at hc
    exact hword.solid c (List.mem_of_head? hc)

end

end Soundalike.Text
