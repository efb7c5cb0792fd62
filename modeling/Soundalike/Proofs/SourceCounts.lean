import Mathlib.Data.Set.Card
import Soundalike.Proofs.Agreement
import Soundalike.Proofs.SourceGrammar

set_option autoImplicit false

/-!
# Counting what a source states

The numbers of a rule set are numbers of its source: that of the lines that are rules, that of the
letters with which their patterns start, in lower case, and that of the letters on the left sides of
its foldings (`table_size_of_parse`, `table_groupCount_of_parse`, `folding_size_of_parse`).
-/

namespace Soundalike

/-! ## What is counted -/

namespace Statement

/-- The pattern of a rule starts with a letter, once it is in lower case. -/
def StartsPattern (line : Text) (letter : Char) : Prop :=
  foldingSign ∉ line ∧ ∃ pattern atStart beforeVowel elsewhere initial rest,
    Text.words line = [pattern, atStart, beforeVowel, elsewhere] ∧
      unquote pattern = initial :: rest ∧ letter = Letter.lower initial

/-- A folding has a letter on its left side. -/
def HasLeftSide (line : Text) (letter : Char) : Prop :=
  ∃ left right, HasSides line left right ∧ Text.trim left = [letter] ∧
    (Text.trim right).length = 1

theorem exists_writes_rule_iff {line : Text} {letter : Char} :
    (∃ rule : Rule, Writes line (.rule rule) ∧ rule.first = letter) ↔
      StartsPattern line letter := by
  constructor
  · rintro ⟨rule, hwrites, rfl⟩
    cases hwrites with
    | @rule pattern atStart beforeVowel elsewhere _ hsign hfields hbuilt =>
      cases hpattern : unquote pattern with
      | nil =>
        rw [Rule.ofFields?_eq_none_iff.mpr hpattern] at hbuilt
        cases hbuilt
      | cons initial rest =>
        have hlower := (Rule.ofFields?_eq_some_iff.mp hbuilt).left
        refine ⟨hsign, pattern, atStart, beforeVowel, elsewhere, initial, rest, hfields,
          hpattern, ?_⟩
        simp only [Rule.first, hlower, hpattern, List.map_cons, List.head_cons]
  · rintro ⟨hsign, pattern, atStart, beforeVowel, elsewhere, initial, rest, hfields, hpattern, rfl⟩
    refine ⟨_, .rule hsign hfields (dif_neg ?_), ?_⟩
    · rw [hpattern]
      exact List.cons_ne_nil _ _
    · simp [Rule.first, hpattern]

theorem exists_writes_folding_iff {line : Text} {letter : Char} :
    (∃ folded, Writes line (.folding letter folded)) ↔ HasLeftSide line letter := by
  constructor
  · rintro ⟨folded, hwrites⟩
    cases hwrites with
    | folding hsides hletter hfolded => exact ⟨_, _, hsides, hletter, by rw [hfolded]; rfl⟩
  · rintro ⟨left, right, hsides, hletter, hlength⟩
    obtain ⟨folded, hfolded⟩ := List.length_eq_one_iff.mp hlength
    exact ⟨folded, .folding hsides hletter hfolded⟩

end Statement

namespace Source

/-- The live lines of a source that are rules. -/
def ruleLines (source : Text) : Set SourceLine :=
  {line | IsLive (Text.textLines source) line ∧ Statement.IsRule line.statement}

/-- The letters with which the patterns of a source start. -/
def patternLetters (source : Text) : Set Char :=
  {letter | ∃ line, IsLive (Text.textLines source) line ∧
    Statement.StartsPattern line.statement letter}

/-- The letters for which a source has a folding. -/
def foldedLetters (source : Text) : Set Char :=
  {letter | ∃ line, IsLive (Text.textLines source) line ∧
    Statement.HasLeftSide line.statement letter}

variable {source : Text} {stated : List Statement} {letter : Char}

theorem mem_patternLetters_iff (h : statements source = .ok stated) :
    letter ∈ patternLetters source ↔ ∃ rule, .rule rule ∈ stated ∧ rule.first = letter := by
  simp only [mem_iff_of_statements h, ← exists_and_right]
  rw [exists_comm]
  simp only [and_assoc, exists_and_left, Statement.exists_writes_rule_iff]
  rfl

theorem mem_foldedLetters_iff (h : statements source = .ok stated) :
    letter ∈ foldedLetters source ↔ ∃ folded, .folding letter folded ∈ stated := by
  simp only [mem_iff_of_statements h]
  rw [exists_comm]
  simp only [exists_and_left, Statement.exists_writes_folding_iff]
  rfl

/-! ## Counting -/

/-- A set has as many elements as a list that holds each of them once. -/
theorem ncard_eq_length {α : Type} {members : Set α} {xs : List α} (hnodup : xs.Nodup)
    (h : ∀ x, x ∈ members ↔ x ∈ xs) : members.ncard = xs.length := by
  classical
  have hset : members = ↑xs.toFinset := by
    ext x
    rw [h, Finset.mem_coe, List.mem_toFinset]
  rw [hset, Set.ncard_coe_finset, List.toFinset_card_of_nodup hnodup]

/-- As many lines have no equals sign as rules are written. -/
theorem length_filterMap_rule? {lines : List SourceLine} {stated : List Statement}
    (h : List.Forall₂ (fun line statement => Statement.Writes line.statement statement)
      lines stated) :
    (stated.filterMap Statement.rule?).length =
      (lines.filter (Statement.foldingSign ∉ ·.statement)).length := by
  induction h with
  | nil => rfl
  | cons hwrites _ ih =>
    cases hwrites with
    | folding hsides hletter hfolded =>
      rw [List.filterMap_cons_none rfl, List.filter_cons_of_neg (by simpa using hsides.mem), ih]
    | rule hsign hfields hbuilt =>
      rw [List.filterMap_cons_some (f := Statement.rule?) rfl,
        List.filter_cons_of_pos (by simpa using hsign), List.length_cons, List.length_cons, ih]

end Source

section

variable {source : Text} {rules : RuleSet}

/-- A rule set has one rule for each line that is a rule. -/
theorem RuleSet.table_size_of_parse (h : parse source = .ok rules) :
    rules.table.size = (Source.ruleLines source).ncard := by
  obtain ⟨stated, hread, rfl⟩ := parse_eq_ok_iff_statements.mp h
  obtain ⟨live, hordered, hlive, hwrites⟩ := Source.statements_eq_ok_iff.mp hread
  have hnodup : live.Nodup :=
    hordered.imp fun hless heq => Nat.ne_of_lt hless (congrArg SourceLine.number heq)
  have hgrammar := Source.exists_statements_iff.mp ⟨stated, hread⟩
  have hmem : ∀ line, line ∈ Source.ruleLines source ↔
      line ∈ live.filter (Statement.foldingSign ∉ ·.statement) := by
    intro line
    rw [List.mem_filter, hlive, decide_eq_true_iff]
    refine and_congr_right fun hline => ⟨fun hrule => hrule.left, fun hsign => ?_⟩
    rcases hgrammar line hline with ⟨left, right, hsides, -⟩ | hrule
    · exact absurd hsides.mem hsign
    · exact hrule
  rw [Source.ncard_eq_length (hnodup.filter _) hmem]
  exact Source.length_filterMap_rule? hwrites

/-- It has one group for each letter with which a pattern starts. -/
theorem RuleSet.table_groupCount_of_parse (h : parse source = .ok rules) :
    rules.table.groupCount = (Source.patternLetters source).ncard := by
  obtain ⟨stated, hread, rfl⟩ := parse_eq_ok_iff_statements.mp h
  have hmem : ∀ letter, letter ∈ Source.patternLetters source ↔
      letter ∈ distinct ((stated.filterMap Statement.rule?).map Rule.first) := by
    intro letter
    rw [mem_distinct, List.mem_map, Source.mem_patternLetters_iff hread]
    simp only [Statement.mem_filterMap_rule?_iff]
  rw [Source.ncard_eq_length (nodup_distinct _) hmem]
  exact List.length_map _

/-- It has one folding for each letter on the left side of a folding. -/
theorem RuleSet.folding_size_of_parse (h : parse source = .ok rules) :
    rules.folding.size = (Source.foldedLetters source).ncard := by
  obtain ⟨stated, hread, rfl⟩ := parse_eq_ok_iff_statements.mp h
  have hmem : ∀ letter, letter ∈ Source.foldedLetters source ↔
      letter ∈ distinct ((stated.filterMap Statement.folding?).reverse.map Prod.fst) := by
    intro letter
    rw [mem_distinct, List.map_reverse, List.mem_reverse, List.mem_map,
      Source.mem_foldedLetters_iff hread]
    simp only [Statement.mem_filterMap_folding?_iff, Prod.exists, exists_and_right, exists_eq_right]
  rw [Source.ncard_eq_length (nodup_distinct _) hmem, ← map_distinctBy, List.length_map]
  rfl

end

end Soundalike
