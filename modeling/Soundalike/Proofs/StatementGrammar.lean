import Mathlib.Data.List.Basic
import Soundalike.Rule.Source

set_option autoImplicit false

/-!
# The grammar of a statement

Which lines are statements, said without the reader.  A folding has exactly one equals sign and a
single character on each side of it; a rule has no equals sign and four fields, of which the first
is not empty once its quotes are gone.  `Writes` says which statement a line writes and `Faulty`
what is wrong with a line that writes none, and the reader answers exactly so (`ofText_eq_ok_iff`,
`ofText_eq_error_iff`).
-/

namespace Soundalike.Statement

/-- A line with exactly one equals sign, and the two sides of it. -/
structure HasSides (line left right : Text) : Prop where
  line_eq : line = left ++ foldingSign :: right
  left_free : foldingSign ∉ left
  right_free : foldingSign ∉ right

/-- Which statement a line writes. -/
inductive Writes : Text → Statement → Prop
  /-- two characters around one equals sign write a folding -/
  | folding {line left right : Text} {letter folded : Char} (hsides : HasSides line left right)
      (hletter : Text.trim left = [letter]) (hfolded : Text.trim right = [folded]) :
      Writes line (.folding letter folded)
  /-- four fields without an equals sign write the rule that is built of them, unquoted -/
  | rule {line pattern atStart beforeVowel elsewhere : Text} {built : Rule}
      (hsign : foldingSign ∉ line)
      (hfields : Text.words line = [pattern, atStart, beforeVowel, elsewhere])
      (hbuilt : Rule.ofFields? (unquote pattern) (unquote atStart) (unquote beforeVowel)
        (unquote elsewhere) = some built) :
      Writes line (.rule built)

/-- What is wrong with a line that writes no statement. -/
inductive Faulty : Text → Fault → Prop
  /-- there is more than one equals sign -/
  | malformedFolding {line : Text} (hsigns : 1 < line.count foldingSign) :
      Faulty line (.malformedFolding (line.count foldingSign + 1))
  /-- on one side of the only equals sign there is not exactly one character -/
  | sideNotSingle {line left right : Text} (hsides : HasSides line left right)
      (hlength : (Text.trim left).length ≠ 1 ∨ (Text.trim right).length ≠ 1) :
      Faulty line .sideNotSingle
  /-- there is no equals sign, and another number of fields than four -/
  | malformedRule {line : Text} (hsign : foldingSign ∉ line)
      (hlength : (Text.words line).length ≠ 4) :
      Faulty line (.malformedRule (Text.words line).length)
  /-- there are four fields, and nothing is left of the first without its quotes -/
  | emptyPattern {line pattern atStart beforeVowel elsewhere : Text} (hsign : foldingSign ∉ line)
      (hfields : Text.words line = [pattern, atStart, beforeVowel, elsewhere])
      (hempty : unquote pattern = []) :
      Faulty line .emptyPattern

/-- A line that is a folding. -/
def IsFolding (line : Text) : Prop :=
  ∃ left right, HasSides line left right ∧ (Text.trim left).length = 1 ∧
    (Text.trim right).length = 1

/-- A line that is a rule. -/
def IsRule (line : Text) : Prop :=
  foldingSign ∉ line ∧ ∃ pattern atStart beforeVowel elsewhere,
    Text.words line = [pattern, atStart, beforeVowel, elsewhere] ∧ unquote pattern ≠ []

/-- The lines that write a statement are the foldings and the rules. -/
theorem exists_writes_iff {line : Text} :
    (∃ statement, Writes line statement) ↔ IsFolding line ∨ IsRule line := by
  constructor
  · rintro ⟨statement, hwrites⟩
    cases hwrites with
    | folding hsides hletter hfolded =>
      exact Or.inl ⟨_, _, hsides, by rw [hletter]; rfl, by rw [hfolded]; rfl⟩
    | rule hsign hfields hbuilt =>
      refine Or.inr ⟨hsign, _, _, _, _, hfields, ?_⟩
      intro hempty
      rw [Rule.ofFields?_eq_none_iff.mpr hempty] at hbuilt
      cases hbuilt
  · rintro (⟨left, right, hsides, hleft, hright⟩ | ⟨hsign, pattern, _, _, _, hfields, hne⟩)
    · obtain ⟨letter, hletter⟩ := List.length_eq_one_iff.mp hleft
      obtain ⟨folded, hfolded⟩ := List.length_eq_one_iff.mp hright
      exact ⟨_, .folding hsides hletter hfolded⟩
    · obtain ⟨built, hbuilt⟩ := Option.ne_none_iff_exists'.mp (mt Rule.ofFields?_eq_none_iff.mp hne)
      exact ⟨_, .rule hsign hfields hbuilt⟩

/-! ## Lines with an equals sign -/

theorem HasSides.mem {line left right : Text} (h : HasSides line left right) :
    foldingSign ∈ line := by
  rw [h.line_eq]
  exact List.mem_append_right _ List.mem_cons_self

/-- A line is cut in two exactly if it has one equals sign. -/
theorem split_eq_pair_iff {line left right : Text} :
    Text.split foldingSign line = [left, right] ↔ HasSides line left right := by
  constructor
  · intro h
    have hfree : ∀ side ∈ [left, right], foldingSign ∉ side := by
      intro side hside
      exact Text.not_mem_of_mem_split (h ▸ hside)
    refine ⟨?_, hfree left List.mem_cons_self, hfree right (by simp)⟩
    have hjoin := Text.join_split foldingSign line
    rw [h] at hjoin
    exact hjoin.symm
  · rintro ⟨rfl, hleft, hright⟩
    rw [Text.split_append_cons hleft, Text.split_eq_singleton hright]

/-- A line with an equals sign has one, with its two sides, or more than one. -/
theorem hasSides_or_one_lt_count {line : Text} (h : foldingSign ∈ line) :
    (∃ left right, HasSides line left right) ∨ 1 < line.count foldingSign := by
  have hlength := Text.length_split foldingSign line
  have hpos : 0 < line.count foldingSign := List.count_pos_iff.mpr h
  by_cases hone : line.count foldingSign = 1
  · rw [hone] at hlength
    obtain ⟨left, right, hpair⟩ := List.length_eq_two.mp hlength
    exact Or.inl ⟨left, right, split_eq_pair_iff.mp hpair⟩
  · exact Or.inr (by omega)

/-! ## Reading -/

theorem ofText_of_writes {line : Text} {statement : Statement} (h : Writes line statement) :
    ofText line = .ok statement := by
  cases h with
  | folding hsides hletter hfolded =>
    rw [ofText, if_pos hsides.mem, foldingOfText, split_eq_pair_iff.mpr hsides]
    simp only [hletter, hfolded]
  | rule hsign hfields hbuilt =>
    rw [ofText, if_neg hsign, ruleOfText, hfields]
    simp only [hbuilt]

theorem ofText_of_faulty {line : Text} {fault : Fault} (h : Faulty line fault) :
    ofText line = .error fault := by
  cases h with
  | malformedFolding hsigns =>
    have hmem : foldingSign ∈ line := List.count_pos_iff.mp (by omega)
    have hlength := Text.length_split foldingSign line
    rw [ofText, if_pos hmem, foldingOfText]
    split
    · next hpair =>
      rw [hpair] at hlength
      simp only [List.length_cons, List.length_nil] at hlength
      omega
    · rw [hlength]
  | sideNotSingle hsides hlength =>
    rw [ofText, if_pos hsides.mem, foldingOfText, split_eq_pair_iff.mpr hsides]
    dsimp only
    split
    · next hletter hfolded =>
      rw [hletter, hfolded] at hlength
      simp at hlength
    · rfl
  | malformedRule hsign hlength =>
    rw [ofText, if_neg hsign, ruleOfText]
    split
    · next hfields =>
      rw [hfields] at hlength
      exact absurd rfl hlength
    · rfl
  | emptyPattern hsign hfields hempty =>
    rw [ofText, if_neg hsign, ruleOfText, hfields]
    simp only [Rule.ofFields?_eq_none_iff.mpr hempty]

/-- Every line writes a statement or is faulty. -/
theorem exists_writes_or_exists_faulty (line : Text) :
    (∃ statement, Writes line statement) ∨ ∃ fault, Faulty line fault := by
  by_cases hsign : foldingSign ∈ line
  · rcases hasSides_or_one_lt_count hsign with ⟨left, right, hsides⟩ | hsigns
    · by_cases hsingle : (Text.trim left).length = 1 ∧ (Text.trim right).length = 1
      · exact Or.inl (exists_writes_iff.mpr (Or.inl ⟨left, right, hsides, hsingle⟩))
      · exact Or.inr ⟨_, .sideNotSingle hsides (not_and_or.mp hsingle)⟩
    · exact Or.inr ⟨_, .malformedFolding hsigns⟩
  · by_cases hfour : (Text.words line).length = 4
    · obtain ⟨pattern, atStart, beforeVowel, elsewhere, hfields⟩ := List.length_eq_four.mp hfour
      by_cases hempty : unquote pattern = []
      · exact Or.inr ⟨_, .emptyPattern hsign hfields hempty⟩
      · exact Or.inl (exists_writes_iff.mpr (Or.inr ⟨hsign, _, _, _, _, hfields, hempty⟩))
    · exact Or.inr ⟨_, .malformedRule hsign hfour⟩

/-- A line is read as the statement that it writes, and as no other. -/
theorem ofText_eq_ok_iff {line : Text} {statement : Statement} :
    ofText line = .ok statement ↔ Writes line statement := by
  constructor
  · intro h
    rcases exists_writes_or_exists_faulty line with ⟨written, hwrites⟩ | ⟨fault, hfaulty⟩
    · rw [ofText_of_writes hwrites] at h
      exact Except.ok.inj h ▸ hwrites
    · rw [ofText_of_faulty hfaulty] at h
      cases h
  · exact ofText_of_writes

/-- What is reported of a line is what is wrong with it. -/
theorem ofText_eq_error_iff {line : Text} {fault : Fault} :
    ofText line = .error fault ↔ Faulty line fault := by
  constructor
  · intro h
    rcases exists_writes_or_exists_faulty line with ⟨written, hwrites⟩ | ⟨found, hfaulty⟩
    · rw [ofText_of_writes hwrites] at h
      cases h
    · rw [ofText_of_faulty hfaulty] at h
      exact Except.error.inj h ▸ hfaulty
  · exact ofText_of_faulty

/-! ## Rules and foldings among statements -/

theorem mem_filterMap_rule?_iff {stated : List Statement} {built : Rule} :
    built ∈ stated.filterMap rule? ↔ .rule built ∈ stated := by
  rw [List.mem_filterMap]
  constructor
  · rintro ⟨statement, hmem, hgives⟩
    cases statement with
    | rule given => exact Option.some.inj hgives ▸ hmem
    | folding letter folded => cases hgives
  · intro hmem
    exact ⟨_, hmem, rfl⟩

theorem mem_filterMap_folding?_iff {stated : List Statement} {letter folded : Char} :
    (letter, folded) ∈ stated.filterMap folding? ↔ .folding letter folded ∈ stated := by
  rw [List.mem_filterMap]
  constructor
  · rintro ⟨statement, hmem, hgives⟩
    cases statement with
    | rule given => cases hgives
    | folding given stands =>
      obtain ⟨rfl, rfl⟩ := Prod.mk.inj (Option.some.inj hgives)
      exact hmem
  · intro hmem
    exact ⟨_, hmem, rfl⟩

end Soundalike.Statement
