import Soundalike.Proofs.Precedence
import Soundalike.Proofs.Respelling
import Soundalike.Proofs.RuleCharacters
import Soundalike.Proofs.Turns

set_option autoImplicit false

/-!
# Names that are the pattern of a rule

A rule source and a name are put into lower case separately, character by character and alike.  So
without folding a name that is written like the pattern of a rule is cleaned to that pattern, and no
longer rule is in the way: of the rules for the pattern the first one of the source applies, and the
name is used up (`run_of_whole_pattern`).
-/

namespace Soundalike

/-! ## The pattern of a rule line -/

/-- The pattern of a line that is a rule, as it is written but without its quotes. -/
def Statement.patternField? (line : Text) : Option Text := (Text.words line).head?.map unquote

/-- A rule has the pattern of its line in lower case. -/
theorem Statement.Writes.pattern_eq {line field : Text} {stated : Rule}
    (h : Writes line (.rule stated)) (hfield : patternField? line = some field) :
    stated.pattern = field.map Letter.lower := by
  cases h with
  | rule hsign hfields hbuilt =>
    rw [patternField?, hfields, List.head?_cons, Option.map_some, Option.some_inj] at hfield
    rw [hfield] at hbuilt
    exact (Rule.ofFields?_eq_some_iff.mp hbuilt).left

/-! ## Whole patterns -/

/-- Letters alone are all kept, in lower case. -/
theorem cleanup_none_of_isLetter {letters : Text} (h : ∀ c ∈ letters, Letter.isLetter c = true) :
    cleanup none letters = letters.map Letter.lower := by
  have hkept : letters.filter isKept = letters :=
    List.filter_eq_self.mpr fun c hc => isKept_iff.mpr (h c hc)
  rw [cleanup, hkept]
  rfl

/-- Where nothing but a pattern is ahead, no rule that matches is longer. -/
theorem RuleTable.find?_of_firstFor? {table : RuleTable} {pattern : Text} {rule : Rule}
    (h : Rule.firstFor? table.rules pattern = some rule) : table.find? pattern = some rule := by
  obtain rfl := Rule.pattern_of_firstFor? h
  rw [find?_eq_some_iff]
  refine ⟨List.prefix_refl _, h, fun longer hlonger hlt => ?_⟩
  exact absurd hlonger.length_le (Nat.not_le_of_lt hlt)

/-- The application of a rule at the start of a word. -/
def Rule.opening (rule : Rule) : Step where
  position := 0
  rule := rule
  alternatives := rule.atStart
  force := false

theorem RuleTable.pieces_of_firstFor? {table : RuleTable} {pattern : Text} {rule : Rule}
    (h : Rule.firstFor? table.rules pattern = some rule) :
    table.pieces pattern = [.matched rule.opening] := by
  have hfind := find?_of_firstFor? h
  obtain rfl := Rule.pattern_of_firstFor? h
  obtain ⟨letter, rest, hpattern⟩ := List.exists_cons_of_ne_nil rule.pattern_ne_nil
  -- the rule is as long as what is ahead
  have hrest : rest.drop (rule.length - 1) = [] := by
    rw [← drop_length_cons rule letter, ← hpattern]
    exact List.drop_length
  rw [hpattern] at hfind
  rw [pieces, hpattern, piecesFrom_of_some hfind, hrest, piecesFrom_nil]
  rfl

/-- A line with a rule for a pattern makes one of the lines with such rules the first. -/
theorem Source.Gives.exists_firstRule {source : Text} {parsed : RuleSet}
    (hparse : RuleSet.parse source = .ok parsed) {line : SourceLine} {stated : Rule}
    (h : Gives source line (.rule stated)) : ∃ rule, FirstRule source stated.pattern rule := by
  have hmem : stated ∈ parsed.table.rules := (RuleSet.mem_rules_iff_of_parse hparse).mpr ⟨line, h⟩
  cases hfirst : Rule.firstFor? parsed.table.rules stated.pattern with
  | none => exact absurd rfl (Rule.firstFor?_eq_none_iff.mp hfirst stated hmem)
  | some rule => exact ⟨rule, (RuleSet.firstFor?_table_eq_some_iff hparse).mp hfirst⟩

namespace Encoder

variable {encoder : Encoder} {source field : Text} {line : SourceLine} {stated : Rule}

/-- Without folding, the pattern of a rule line that is made of letters is cleaned to the pattern of
the rule, and so is every respelling of it, such as one with other characters between the letters.
A run over it is one turn at the start, which applies the first rule of the source for the pattern,
uses up all letters and leads to the codes. -/
theorem run_of_whole_pattern (hparse : RuleSet.parse source = .ok encoder.rules)
    (hfolding : encoder.folding = false) (hgives : Source.Gives source line (.rule stated))
    (hfield : Statement.patternField? line.statement = some field)
    (hletters : ∀ c ∈ field, Letter.isLetter c = true) :
    stated.pattern = field.map Letter.lower ∧
    ∃ rule, Source.FirstRule source stated.pattern rule ∧
      ∀ name, Respelled none field name →
        encoder.cleanup name = stated.pattern ∧
        encoder.turns name = [⟨0, .matched rule.opening⟩] ∧
        ∀ choice, encoder.run choice name =
          distinct ((rule.opening.advance choice [.empty]).map (·.finish.code)) := by
  have hpattern := hgives.2.pattern_eq hfield
  obtain ⟨rule, hfirst⟩ := hgives.exists_firstRule hparse
  refine ⟨hpattern, rule, hfirst, fun name hname => ?_⟩
  have hnone : encoder.foldingTable = none := by
    rw [foldingTable, if_neg (ne_true_of_eq_false hfolding)]
  have hcleanup : encoder.cleanup name = stated.pattern := by
    rw [cleanup, hnone,
      cleanup_of_respelled (fun _ hmem => absurd hmem (Option.not_mem_none _)) hname,
      cleanup_none_of_isLetter hletters, hpattern]
  have hpieces : encoder.pieces name = [.matched rule.opening] := by
    rw [pieces, hcleanup]
    exact RuleTable.pieces_of_firstFor? ((RuleSet.firstFor?_table_eq_some_iff hparse).mpr hfirst)
  refine ⟨hcleanup, ?_, fun choice => ?_⟩
  · rw [turns, hpieces]
    rfl
  · have hsteps : encoder.steps name = [rule.opening] := congrArg Piece.steps hpieces
    rw [run, hsteps]
    rfl

/-- The second line has the pattern of the first in capitals, of which `İ` becomes `i`; neither it
nor the longer rule applies. -/
theorem run_of_whole_pattern_sich :
    ∃ encoder : Encoder,
      RuleSet.parse "sich 4 4 4\n\"SİCH\" 5|6 5 5\nsichs 7 7 7".toList = .ok encoder.rules ∧
      encoder.cleanup "S-İ-CH".toList = "sich".toList ∧
      encoder.codes "S-İ-CH".toList = ["400000".toList] := by
  let source := "sich 4 4 4\n\"SİCH\" 5|6 5 5\nsichs 7 7 7".toList
  let encoder : Encoder := ⟨.ofStatements (Source.stated source), false⟩
  have hparse : RuleSet.parse source = .ok encoder.rules :=
    RuleSet.parse_eq_ok_iff.mpr ⟨by decide +kernel, rfl⟩
  let line : SourceLine := ⟨2, "\"SİCH\" 5|6 5 5".toList, "\"SİCH\" 5|6 5 5".toList⟩
  let first := (Source.rules source).get ⟨0, by decide +kernel⟩
  let stated := (Source.rules source).get ⟨1, by decide +kernel⟩
  have hgives : Source.Gives source line (.rule stated) :=
    ⟨Source.mem_statementLines_iff_isLive.mp (by decide +kernel),
      Statement.ofText_eq_ok_iff.mp (by decide +kernel)⟩
  have hfield : Statement.patternField? line.statement = some "SİCH".toList := by decide +kernel
  have hmark : Letter.isLetter '-' = false := by decide +kernel
  have hmarked : Respelled none "SİCH".toList "S-İ-CH".toList :=
    .head (.insert ['S'] ['İ', 'C', 'H'] hmark) (.single (.insert ['S', '-', 'İ'] ['C', 'H'] hmark))
  have hletters : ∀ c ∈ "SİCH".toList, Letter.isLetter c = true :=
    List.all_eq_true.mp (by decide +kernel)
  obtain ⟨hpattern, rule, hfirst, hrun⟩ := run_of_whole_pattern hparse rfl hgives hfield hletters
  obtain ⟨hcleanup, -, hcodes⟩ := hrun _ hmarked
  have hrule : some first = some rule := by
    rw [← (RuleSet.firstFor?_table_eq_some_iff hparse).mpr hfirst]
    decide +kernel
  obtain rfl := Option.some.inj hrule
  refine ⟨encoder, hparse, hcleanup.trans ?_, (hcodes .every).trans ?_⟩
  · decide +kernel
  · decide +kernel

end Encoder

end Soundalike
