import Mathlib.Data.List.Basic
import Mathlib.Data.List.TakeWhile
import Soundalike.Text.Basic

set_option autoImplicit false

/-!
# Pieces, lines and margins

Cutting a text writes nothing new: the pieces, words and lines of a text hold its own elements only
(`mem_of_mem_splitWhere`, `mem_of_mem_words`, `mem_of_mem_lines`), and putting pieces together adds
nothing but the separator (`mem_join`).  What stands before a place where a list is cut and what
stands after it are cut apart from each other (`splitWhere_append_cons`,
`lines_append_newline_cons`), so joined pieces are cut one by one (`split_join_eq_flatMap`).

A text is its trimmed form with blanks before and after it (`exists_blanks`), and blanks put before
or after a text do not change its trimmed form (`trim_append_blanks`, `trim_blanks_append`).  On a
line blanks are margins (`trim_margins`), and a carriage return that belongs to its ending is one
too (`trim_dropReturn`).
-/

namespace Soundalike.Text

/-! ## Pieces and words -/

section

variable {α : Type} {x : α}

/-- What is joined is written with the pieces and the separator. -/
theorem mem_join {separator : α} {pieces : List (List α)} (h : x ∈ join separator pieces) :
    x = separator ∨ ∃ piece ∈ pieces, x ∈ piece := by
  fun_induction join separator pieces with
  | case1 => cases h
  | case2 piece => exact Or.inr ⟨piece, List.mem_cons_self, h⟩
  | case3 piece next rest ih =>
    rcases List.mem_append.mp h with hpiece | htail
    · exact Or.inr ⟨piece, List.mem_cons_self, hpiece⟩
    · rcases List.mem_cons.mp htail with rfl | hrest
      · exact Or.inl rfl
      · refine (ih hrest).imp id ?_
        rintro ⟨found, hmem, hfound⟩
        exact ⟨found, List.mem_cons_of_mem piece hmem, hfound⟩

/-- A piece is written with elements of the list that is cut. -/
theorem mem_of_mem_splitWhere {p : α → Bool} {xs piece : List α}
    (hpiece : piece ∈ splitWhere p xs) (hx : x ∈ piece) : x ∈ xs := by
  induction xs generalizing piece with
  | nil => rwa [List.mem_singleton.mp hpiece] at hx
  | cons y ys ih =>
    rw [splitWhere] at hpiece
    split at hpiece
    · rcases List.mem_cons.mp hpiece with rfl | hrest
      · cases hx
      · exact List.mem_cons_of_mem y (ih hrest hx)
    · cases hpieces : splitWhere p ys with
      | nil => exact absurd hpieces (splitWhere_ne_nil p ys)
      | cons first rest =>
        rw [hpieces, List.modifyHead_cons] at hpiece
        rcases List.mem_cons.mp hpiece with rfl | hrest
        · rcases List.mem_cons.mp hx with rfl | hfirst
          · exact List.mem_cons_self
          · exact List.mem_cons_of_mem y (ih (hpieces ▸ List.mem_cons_self) hfirst)
        · exact List.mem_cons_of_mem y (ih (hpieces ▸ List.mem_cons_of_mem first hrest) hx)

/-- Before and after an element at which it is cut, a list is cut as if it were two. -/
theorem splitWhere_append_cons {p : α → Bool} (hx : p x = true) (before after : List α) :
    splitWhere p (before ++ x :: after) = splitWhere p before ++ splitWhere p after := by
  induction before with
  | nil => simp [splitWhere, hx]
  | cons y before ih =>
    rw [List.cons_append, splitWhere, splitWhere, ih]
    split
    · rfl
    · obtain ⟨piece, pieces, hpieces⟩ := List.exists_cons_of_ne_nil (splitWhere_ne_nil p before)
      simp [hpieces]

theorem mem_of_mem_words {text word : Text} {c : Char} (hword : word ∈ words text)
    (hc : c ∈ word) : c ∈ text :=
  mem_of_mem_splitWhere (List.mem_filter.mp hword).left hc

section

variable [DecidableEq α] {separator : α}

/-- What stands before the first separator and what stands after it are settled by the whole. -/
theorem append_cons_inj {first second rest others : List α} (hfirst : separator ∉ first)
    (hsecond : separator ∉ second) :
    first ++ separator :: rest = second ++ separator :: others ↔
      first = second ∧ rest = others := by
  constructor
  · intro h
    have hcut := congrArg (split separator) h
    rw [split_append_cons hfirst, split_append_cons hsecond] at hcut
    obtain ⟨rfl, -⟩ := List.cons.inj hcut
    exact ⟨rfl, List.tail_eq_of_cons_eq (List.append_cancel_left h)⟩
  · rintro ⟨rfl, rfl⟩
    rfl

/-- What is joined is cut at the separators between the pieces and at those within them. -/
theorem split_join_eq_flatMap {pieces : List (List α)} (hne : pieces ≠ []) :
    split separator (join separator pieces) = pieces.flatMap (split separator) := by
  fun_induction join separator pieces with
  | case1 => exact absurd rfl hne
  | case2 piece => exact (List.append_nil _).symm
  | case3 piece next rest ih =>
    have hcut := splitWhere_append_cons (p := (· = separator)) (decide_eq_true rfl) piece
      (join separator (next :: rest))
    rw [split, hcut, List.flatMap_cons, ← ih (List.cons_ne_nil next rest)]
    rfl

/-- Cutting every piece changes nothing exactly where no piece has a separator. -/
theorem flatMap_split_eq_self_iff {pieces : List (List α)} :
    pieces.flatMap (split separator) = pieces ↔ ∀ piece ∈ pieces, separator ∉ piece := by
  constructor
  · intro h piece hpiece
    rw [← h] at hpiece
    obtain ⟨whole, -, hcut⟩ := List.mem_flatMap.mp hpiece
    exact not_mem_of_mem_split hcut
  · intro h
    induction pieces with
    | nil => rfl
    | cons piece rest ih =>
      obtain ⟨hpiece, hrest⟩ := List.forall_mem_cons.mp h
      rw [List.flatMap_cons, split_eq_singleton hpiece, ih hrest]
      rfl

end

/-! ## Lines -/

section

variable [DecidableEq α]

theorem mem_of_mem_split {separator : α} {xs piece : List α} (hpiece : piece ∈ split separator xs)
    (hx : x ∈ piece) : x ∈ xs :=
  mem_of_mem_splitWhere hpiece hx

theorem mem_of_mem_dropReturn {carriage : α} {piece : List α} (h : x ∈ dropReturn carriage piece) :
    x ∈ piece := by
  rw [dropReturn] at h
  split at h
  · exact (List.dropLast_sublist piece).mem h
  · exact h

/-- A line is written with elements of one of the pieces between newlines. -/
theorem exists_piece_of_mem_linesOfPieces {carriage : α} {pieces : List (List α)} {line : List α}
    (h : line ∈ linesOfPieces carriage pieces) : ∃ piece ∈ pieces, ∀ x ∈ line, x ∈ piece := by
  fun_induction linesOfPieces carriage pieces with
  | case1 => cases h
  | case2 => cases h
  | case3 last => exact ⟨last, List.mem_cons_self, List.mem_singleton.mp h ▸ fun _ hx => hx⟩
  | case4 piece next rest ih =>
    rcases List.mem_cons.mp h with rfl | hrest
    · exact ⟨piece, List.mem_cons_self, fun _ => mem_of_mem_dropReturn⟩
    · obtain ⟨found, hmem, hfound⟩ := ih hrest
      exact ⟨found, List.mem_cons_of_mem piece hmem, hfound⟩

variable {newline carriage : α} {xs line : List α}

theorem mem_of_mem_lines (hline : line ∈ lines newline carriage xs) (hx : x ∈ line) : x ∈ xs := by
  obtain ⟨piece, hpiece, hsub⟩ := exists_piece_of_mem_linesOfPieces hline
  exact mem_of_mem_split hpiece (hsub x hx)

/-- No newline gets into a line. -/
theorem newline_not_mem_of_mem_lines (hline : line ∈ lines newline carriage xs) :
    newline ∉ line := by
  obtain ⟨piece, hpiece, hsub⟩ := exists_piece_of_mem_linesOfPieces hline
  exact fun hnewline => not_mem_of_mem_split hpiece (hsub newline hnewline)

/-- Every piece but those at the end has a newline after it. -/
theorem linesOfPieces_append (carriage : α) (pieces : List (List α)) {last : List (List α)}
    (hlast : last ≠ []) :
    linesOfPieces carriage (pieces ++ last) =
      pieces.map (dropReturn carriage) ++ linesOfPieces carriage last := by
  induction pieces with
  | nil => rfl
  | cons piece pieces ih =>
    have hrest : pieces ++ last ≠ [] := List.append_ne_nil_of_right_ne_nil pieces hlast
    obtain ⟨next, others, hothers⟩ := List.exists_cons_of_ne_nil hrest
    rw [List.cons_append, hothers, linesOfPieces, ← hothers, ih]
    rfl

theorem lines_append_newline_cons (newline carriage : α) (before after : List α) :
    lines newline carriage (before ++ newline :: after) =
      (split newline before).map (dropReturn carriage) ++ lines newline carriage after := by
  unfold lines split
  rw [splitWhere_append_cons (by simp)]
  exact linesOfPieces_append carriage _ (splitWhere_ne_nil _ after)

end

end

/-! ## Trimming -/

/-- Text of white space only. -/
def IsBlank (text : Text) : Prop := ∀ c ∈ text, isWhiteSpace c = true

theorem ne_of_isWhiteSpace {c d : Char} (hc : isWhiteSpace c = true)
    (hd : isWhiteSpace d = false) : c ≠ d := by
  rintro rfl
  exact Bool.false_ne_true (hd.symm.trans hc)

theorem IsBlank.not_mem {blanks : Text} (h : IsBlank blanks) {c : Char}
    (hc : isWhiteSpace c = false) : c ∉ blanks :=
  fun hmem => ne_of_isWhiteSpace (h c hmem) hc rfl

theorem IsBlank.reverse {text : Text} (h : IsBlank text) : IsBlank text.reverse :=
  fun c hc => h c (List.mem_reverse.mp hc)

theorem trimStart_blanks_append {blanks : Text} (h : IsBlank blanks) (text : Text) :
    trimStart (blanks ++ text) = trimStart text :=
  List.dropWhile_append_of_pos h

theorem trimEnd_append_blanks {blanks : Text} (h : IsBlank blanks) (text : Text) :
    trimEnd (text ++ blanks) = trimEnd text := by
  rw [trimEnd, List.reverse_append, List.dropWhile_append_of_pos h.reverse]
  rfl

theorem trim_blanks_append {blanks : Text} (h : IsBlank blanks) (text : Text) :
    trim (blanks ++ text) = trim text := by
  rw [trim, trimStart_blanks_append h]
  rfl

theorem trim_append_blanks {blanks : Text} (h : IsBlank blanks) (text : Text) :
    trim (text ++ blanks) = trim text := by
  have hstart : trimStart (text ++ blanks) =
      if (trimStart text).isEmpty then trimStart blanks else trimStart text ++ blanks :=
    List.dropWhile_append
  rw [trim, hstart]
  split
  · next hempty =>
    have hblanks : trimStart blanks = [] := List.dropWhile_eq_nil_iff.mpr h
    rw [trim, hblanks, List.isEmpty_iff.mp hempty]
  · exact trimEnd_append_blanks h _

/-- Behind its trimmed form a text without white space at its start has blanks only. -/
theorem exists_trimStart_eq (text : Text) :
    ∃ after, IsBlank after ∧ trimStart text = trim text ++ after := by
  have hend := List.takeWhile_append_dropWhile (p := isWhiteSpace) (l := (trimStart text).reverse)
  refine ⟨((trimStart text).reverse.takeWhile isWhiteSpace).reverse,
    IsBlank.reverse fun c hc => List.mem_takeWhile_imp hc, ?_⟩
  rw [trim, trimEnd, ← List.reverse_append, hend, List.reverse_reverse]

/-- Around its trimmed form a text has blanks only. -/
theorem exists_blanks (text : Text) :
    ∃ before after, IsBlank before ∧ IsBlank after ∧ text = before ++ trim text ++ after := by
  obtain ⟨after, hafter, htrim⟩ := exists_trimStart_eq text
  refine ⟨text.takeWhile isWhiteSpace, after, fun c hc => List.mem_takeWhile_imp hc, hafter, ?_⟩
  rw [List.append_assoc, ← htrim]
  exact List.takeWhile_append_dropWhile.symm

/-- A text that neither starts nor ends with white space is its own trimmed form. -/
theorem trim_eq_self {text : Text} (hfirst : ∀ c ∈ text.head?, isWhiteSpace c = false)
    (hlast : ∀ c ∈ text.getLast?, isWhiteSpace c = false) : trim text = text := by
  have hkeep : ∀ {text : Text}, (∀ c ∈ text.head?, isWhiteSpace c = false) →
      text.dropWhile isWhiteSpace = text := by
    intro text h
    cases text with
    | nil => rfl
    | cons c rest => exact List.dropWhile_cons_of_neg (by simpa using h c rfl)
  rw [trim, trimStart, hkeep hfirst, trimEnd, hkeep (by simpa using hlast), List.reverse_reverse]

theorem mem_of_mem_trim {text : Text} {c : Char} (h : c ∈ trim text) : c ∈ text := by
  obtain ⟨before, after, -, -, htext⟩ := exists_blanks text
  rw [htext]
  exact List.mem_append_left _ (List.mem_append_right _ h)

theorem trim_dropReturn (line : Text) : trim (dropReturn '\r' line) = trim line := by
  rw [dropReturn]
  split
  · next hlast =>
    have hline : line.dropLast ++ ['\r'] = line := List.dropLast_append_getLast? '\r' hlast
    have hreturn : IsBlank ['\r'] := List.forall_mem_singleton.mpr rfl
    conv => rhs; rw [← hline]
    exact (trim_append_blanks hreturn line.dropLast).symm
  · rfl

/-! ## Margins -/

/-- White space that does not end a line. -/
def IsMargin (text : Text) : Prop := IsBlank text ∧ '\n' ∉ text

/-- What stands behind a line. -/
inductive IsLineEnd : Text → Prop
  | newline : IsLineEnd ['\n']
  | returnNewline : IsLineEnd ['\r', '\n']

theorem IsMargin.nil : IsMargin [] := ⟨List.forall_mem_nil _, List.not_mem_nil⟩

theorem IsMargin.append {first second : Text} (hfirst : IsMargin first)
    (hsecond : IsMargin second) : IsMargin (first ++ second) :=
  ⟨List.forall_mem_append.mpr ⟨hfirst.1, hsecond.1⟩,
    fun h => (List.mem_append.mp h).elim hfirst.2 hsecond.2⟩

/-- Before its newline, an end of a line is a margin. -/
theorem IsLineEnd.exists_margin {ending : Text} (h : IsLineEnd ending) :
    ∃ margin, IsMargin margin ∧ ending = margin ++ ['\n'] := by
  cases h with
  | newline => exact ⟨[], .nil, rfl⟩
  | returnNewline => exact ⟨['\r'], ⟨List.forall_mem_singleton.mpr rfl, by decide⟩, rfl⟩

theorem trim_margins {before after : Text} (hbefore : IsMargin before) (hafter : IsMargin after)
    (text : Text) : trim (before ++ text ++ after) = trim text := by
  rw [trim_append_blanks hafter.1, trim_blanks_append hbefore.1]

theorem trim_of_isBlank {text : Text} (h : IsBlank text) : trim text = [] := by
  have htrim := trim_append_blanks h []
  rwa [List.nil_append] at htrim

theorem newline_not_mem_margins {before text after : Text} (hbefore : IsMargin before)
    (htext : '\n' ∉ text) (hafter : IsMargin after) : '\n' ∉ before ++ text ++ after := by
  simp only [List.mem_append, not_or]
  exact ⟨⟨hbefore.2, htext⟩, hafter.2⟩

end Soundalike.Text
