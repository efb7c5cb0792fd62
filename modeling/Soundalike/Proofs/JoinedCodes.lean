import Soundalike.File.Rules
import Soundalike.Proofs.BundledSource
import Soundalike.Proofs.CodeShape
import Soundalike.Proofs.Pieces
import Soundalike.Proofs.RuleCharacters

set_option autoImplicit false

/-!
# Joined codes

A joined text is what its codes are joined to again.  The other way round, codes that are written
with bars between them are read back with each of them cut at its own bars, and the single empty
code reads like none (`Code.split_join_eq_flatMap`).  So they are read back entry by entry unless
one of them holds a bar or they are the single empty code (`Code.join_split_inverse`).  Neither can
happen to the codes of a name: no alternative holds a bar, the filler is none, and a code has six
characters (`Encoder.split_soundex`).

Nor does white space get into a code.  The fields of a rule stand between white space, so none of it
gets into an alternative: the rules of every source that is read are solid
(`RuleTable.isSolid_of_parse`), the Daitch-Mokotoff rules among them.  Over solid rules there is no
white space in the codes of a name with bars between them (`Encoder.isSolid_soundex`).
-/

namespace Soundalike

namespace Code

/-- Only no code at all and the single empty code are written as the empty text. -/
theorem join_eq_nil_iff {codes : List Code} : join codes = [] ↔ codes = [] ∨ codes = [[]] := by
  cases codes with
  | nil => simp [join, Text.join]
  | cons code rest =>
    cases rest with
    | nil => simp [join, Text.join]
    | cons next rest => simp [join, Text.join]

/-- Codes other than the single empty one are read back, each of them cut at its bars. -/
theorem split_join_eq_flatMap {codes : List Code} (hempty : codes ≠ [[]]) :
    split (join codes) = codes.flatMap (Text.split bar) := by
  by_cases hnil : codes = []
  · rw [hnil]
    rfl
  · have hjoin : join codes ≠ [] := fun h => (join_eq_nil_iff.mp h).elim hnil hempty
    rw [split, if_neg hjoin]
    exact Text.split_join_eq_flatMap hnil

theorem split_join_eq_self_iff {codes : List Code} :
    split (join codes) = codes ↔ (∀ code ∈ codes, bar ∉ code) ∧ codes ≠ [[]] := by
  by_cases hempty : codes = [[]]
  · rw [hempty]
    -- it is written as the empty text, which holds no code
    exact iff_of_false (List.cons_ne_nil _ _).symm fun h => h.right rfl
  · rw [split_join_eq_flatMap hempty, Text.flatMap_split_eq_self_iff, and_iff_left hempty]

theorem split_join {codes : List Code} (hbar : ∀ code ∈ codes, bar ∉ code)
    (hempty : codes ≠ [[]]) : split (join codes) = codes :=
  split_join_eq_self_iff.mpr ⟨hbar, hempty⟩

/-- A text is joined again from the codes that are read from it, whatever it is.  Codes are read
again from the text to which they are joined exactly if none of them holds a bar and they are not
the single empty code. -/
theorem join_split_inverse :
    (∀ joined, join (split joined) = joined) ∧
      ∀ codes, split (join codes) = codes ↔ (∀ code ∈ codes, bar ∉ code) ∧ codes ≠ [[]] :=
  ⟨join_split, fun _ => split_join_eq_self_iff⟩

end Code

namespace Encoder

variable (encoder : Encoder) (name : Text)

/-- No code of a name holds a bar. -/
theorem bar_not_mem_of_mem_run {choice : Choice} {code : Code}
    (h : code ∈ encoder.run choice name) : Code.bar ∉ code := by
  have hfields : ∀ step ∈ encoder.steps name, ∀ replacement ∈ step.alternatives.toList,
      ∀ c ∈ replacement, c ≠ Code.bar := by
    rintro step _ replacement hreplacement c hc rfl
    exact step.alternatives.bar_not_mem replacement hreplacement hc
  intro hbar
  exact encoder.forall_mem_run name hfields (by decide) code h Code.bar hbar rfl

/-- No code of a name is empty, so they are never the single empty code. -/
theorem ne_nil_of_mem_run {choice : Choice} {code : Code}
    (h : code ∈ encoder.run choice name) : code ≠ [] := by
  rintro rfl
  have hlength := encoder.length_of_mem_run name h
  cases hlength

theorem split_join_run (choice : Choice) :
    Code.split (Code.join (encoder.run choice name)) = encoder.run choice name := by
  refine Code.split_join (fun code hcode => encoder.bar_not_mem_of_mem_run name hcode) ?_
  intro hempty
  have hmem : [] ∈ encoder.run choice name := hempty ▸ List.mem_cons_self
  exact encoder.ne_nil_of_mem_run name hmem rfl

/-- Whatever the rules are, the joined codes of a name are split into its codes again, one by one
and in their order. -/
theorem split_soundex : Code.split (encoder.soundex name) = encoder.codes name :=
  encoder.split_join_run name .every

end Encoder

/-! ## Rules without white space -/

/-- Text without white space. -/
def Text.IsSolid (text : Text) : Prop := ∀ c ∈ text, isWhiteSpace c = false

/-- Every alternative of a rule is without white space. -/
def Rule.IsSolid (rule : Rule) : Prop :=
  ∀ field ∈ rule.fields, ∀ replacement ∈ field.toList, Text.IsSolid replacement

/-- The rule that a line writes is solid. -/
theorem Statement.Writes.isSolid {line : Text} {rule : Rule} (h : Writes line (.rule rule)) :
    rule.IsSolid := by
  intro field hfield replacement hreplacement c hc
  obtain ⟨word, hword, hmem⟩ := h.exists_word ⟨field, hfield, replacement, hreplacement, hc⟩
  exact (Text.of_mem_words hword).right c hmem

/-! ## Rule sets without white space -/

namespace RuleTable

/-- Every alternative of every rule is without white space. -/
def IsSolid (table : RuleTable) : Prop := ∀ rule ∈ table.rules, rule.IsSolid

theorem IsSolid.isWhiteSpace_of_uses {table : RuleTable} (h : table.IsSolid) {c : Char}
    (hc : table.Uses c) : Text.isWhiteSpace c = false := by
  obtain ⟨rule, hrule, field, hfield, replacement, hreplacement, hmem⟩ := hc
  exact h rule hrule field hfield replacement hreplacement c hmem

/-- Whatever source is read, its rules are solid. -/
theorem isSolid_of_parse {source : Text} {parsed : RuleSet}
    (h : RuleSet.parse source = .ok parsed) : parsed.table.IsSolid := by
  intro rule hrule
  obtain ⟨line, -, hwrites⟩ := (RuleSet.mem_rules_iff_of_parse h).mp hrule
  exact hwrites.isSolid

end RuleTable

/-- Whatever rules are loaded, some source gives them: that of a file, or the bundled one. -/
theorem File.exists_source_of_loadEncoder {reader : Reader} {path : Option Text} {folding : Bool}
    {encoder : Encoder} {log : List Log.Event}
    (h : loadEncoder reader path folding = .ok (encoder, log)) :
    ∃ source, RuleSet.parse source = .ok encoder.rules := by
  obtain ⟨-, ⟨-, hbundled, -⟩ | ⟨path, -, hread, -⟩⟩ := loadEncoder_eq_ok_iff.mp h
  · exact ⟨Bundled.source.toList, hbundled ▸ Bundled.parse_source⟩
  · obtain ⟨source, -, hparse⟩ := readRules_eq_ok_iff.mp hread
    exact ⟨source, hparse⟩

theorem File.isSolid_of_loadEncoder {reader : Reader} {path : Option Text} {folding : Bool}
    {encoder : Encoder} {log : List Log.Event}
    (h : loadEncoder reader path folding = .ok (encoder, log)) :
    encoder.rules.table.IsSolid := by
  obtain ⟨source, hparse⟩ := exists_source_of_loadEncoder h
  exact RuleTable.isSolid_of_parse hparse

/-! ## Codes without white space -/

namespace Encoder

variable {encoder : Encoder} {name : Text}

/-- Over solid rules there is no white space in the codes of a name with bars between them. -/
theorem isSolid_soundex (hsolid : encoder.rules.table.IsSolid) (name : Text) :
    Text.IsSolid (encoder.soundex name) := by
  intro c hc
  rcases uses_of_mem_soundex hc with huses | rfl | rfl
  · exact hsolid.isWhiteSpace_of_uses huses
  · rfl
  · rfl

end Encoder

end Soundalike
