import Soundalike.Proofs.Agreement
import Soundalike.Proofs.CodeShape
import Soundalike.Proofs.Pieces
import Soundalike.Proofs.SourceGrammar

set_option autoImplicit false

/-!
# Where the characters of codes come from

A rule takes its alternatives from words of its line (`Statement.Writes.exists_word`), and a line is
part of its source.  So a table uses no character that its source does not have
(`RuleSet.mem_source_of_uses`), and codes have none beside those of the table, the filler, and the
bar where they are joined (`Encoder.uses_of_mem_run`, `Encoder.uses_of_mem_soundex`).
-/

namespace Soundalike

/-- A number is written with digits. -/
theorem Text.not_mem_toString {c : Char} (h : c.isDigit = false) (number : Nat) :
    c ∉ (toString number).toList := by
  rw [Nat.toString_eq_ofList_toDigits, String.toList_ofList]
  intro hmem
  rw [Nat.isDigit_of_mem_toDigits (by decide) (by decide) hmem] at h
  cases h

/-! ## Rules -/

theorem Statement.mem_of_mem_unquote {field : Text} {c : Char} (h : c ∈ unquote field) :
    c ∈ field := by
  rcases unquote_cases field with hquoted | hopened | hclosed | hbare
  · rw [hquoted]
    exact List.mem_append_left _ (List.mem_cons_of_mem _ h)
  · rw [hopened]
    exact List.mem_cons_of_mem _ h
  · rw [hclosed]
    exact List.mem_append_left _ h
  · rw [hbare]
    exact h

/-- A rule uses a character if one of its alternatives is written with it. -/
def Rule.Uses (rule : Rule) (c : Char) : Prop :=
  ∃ field ∈ rule.fields, ∃ replacement ∈ field.toList, c ∈ replacement

/-- A rule that is built of fields uses their characters only. -/
theorem Rule.mem_of_uses_of_ofFields? {pattern atStart beforeVowel elsewhere : Text} {rule : Rule}
    (h : ofFields? pattern atStart beforeVowel elsewhere = some rule) {c : Char}
    (hc : rule.Uses c) : c ∈ atStart ∨ c ∈ beforeVowel ∨ c ∈ elsewhere := by
  obtain ⟨-, hstart, hvowel, helse⟩ := ofFields?_eq_some_iff.mp h
  obtain ⟨field, hfield, replacement, hmem, hin⟩ := hc
  simp only [fields, hstart, hvowel, helse, List.mem_cons, List.not_mem_nil, or_false] at hfield
  rcases hfield with rfl | rfl | rfl
  · exact Or.inl (Text.mem_of_mem_split hmem hin)
  · exact Or.inr (Or.inl (Text.mem_of_mem_split hmem hin))
  · exact Or.inr (Or.inr (Text.mem_of_mem_split hmem hin))

/-- The characters that a rule uses stand in words of its line. -/
theorem Statement.Writes.exists_word {line : Text} {rule : Rule} (h : Writes line (.rule rule))
    {c : Char} (hc : rule.Uses c) : ∃ word ∈ Text.words line, c ∈ word := by
  cases h with
  | rule hsign hfields hbuilt =>
    rw [hfields]
    rcases Rule.mem_of_uses_of_ofFields? hbuilt hc with hstart | hvowel | helse
    · exact ⟨_, by simp, mem_of_mem_unquote hstart⟩
    · exact ⟨_, by simp, mem_of_mem_unquote hvowel⟩
    · exact ⟨_, by simp, mem_of_mem_unquote helse⟩

/-! ## Sources -/

namespace Source

theorem IsLive.written_mem {lines : List Text} {line : SourceLine} (h : IsLive lines line) :
    line.written ∈ lines := by
  obtain ⟨hlines, -, -, -⟩ := h
  rw [hlines]
  exact List.mem_append_right _ List.mem_cons_self

theorem IsLive.mem_written {lines : List Text} {line : SourceLine} (h : IsLive lines line)
    {c : Char} (hc : c ∈ line.statement) : c ∈ line.written := by
  obtain ⟨-, -, hkept, -⟩ := h
  have hmem := Text.mem_of_mem_trim hc
  rcases hkept with ⟨-, rfl⟩ | ⟨comment, hwritten, -⟩
  · exact hmem
  · rw [hwritten]
    exact List.mem_append_left _ hmem

variable {source : Text} {c : Char}

theorem mem_of_mem_written {line : SourceLine} (h : IsLive (Text.textLines source) line)
    (hc : c ∈ line.written) : c ∈ source :=
  Text.mem_of_mem_lines h.written_mem hc

/-- The line that an error shows is a line of the source. -/
theorem mem_of_mem_error {error : SourceError} (h : statements source = .error error)
    (hc : c ∈ error.written) : c ∈ source := by
  obtain ⟨line, hlive, -, hwritten, -, -⟩ := statements_eq_error_iff.mp h
  exact mem_of_mem_written hlive (hwritten ▸ hc)

end Source

/-! ## Tables -/

/-- A table uses a character if one of its rules does. -/
def RuleTable.Uses (table : RuleTable) (c : Char) : Prop := ∃ rule ∈ table.rules, rule.Uses c

/-- The rules of a parsed source are those that its live lines write. -/
theorem RuleSet.mem_rules_iff_of_parse {source : Text} {parsed : RuleSet}
    (h : parse source = .ok parsed) {rule : Rule} :
    rule ∈ parsed.table.rules ↔ ∃ line, Source.IsLive (Text.textLines source) line ∧
      Statement.Writes line.statement (.rule rule) := by
  obtain ⟨stated, hread, rfl⟩ := parse_eq_ok_iff_statements.mp h
  have hrules : (ofStatements stated).table.rules = stated.filterMap Statement.rule? := rfl
  rw [hrules, Statement.mem_filterMap_rule?_iff, Source.mem_iff_of_statements hread]

/-- What a table uses, its source has. -/
theorem RuleSet.mem_source_of_uses {source : Text} {parsed : RuleSet}
    (h : parse source = .ok parsed) {c : Char} (hc : parsed.table.Uses c) : c ∈ source := by
  obtain ⟨rule, hrule, huses⟩ := hc
  obtain ⟨line, hlive, hwrites⟩ := (mem_rules_iff_of_parse h).mp hrule
  obtain ⟨word, hword, hmem⟩ := hwrites.exists_word huses
  exact Source.mem_of_mem_written hlive (hlive.mem_written (Text.mem_of_mem_words hword hmem))

theorem RuleTable.IsNumeric.isDigit_of_uses {table : RuleTable} (h : table.IsNumeric) {c : Char}
    (hc : table.Uses c) : c.isDigit = true := by
  obtain ⟨rule, hrule, field, hfield, replacement, hreplacement, hmem⟩ := hc
  exact List.all_eq_true.mp (h rule hrule field hfield replacement hreplacement) c hmem

/-! ## Codes -/

namespace Encoder

variable {encoder : Encoder} {name : Text} {c : Char}

theorem uses_of_mem_run {choice : Choice} {code : Code} (hcode : code ∈ encoder.run choice name)
    (hc : c ∈ code) : encoder.rules.table.Uses c ∨ c = Code.filler := by
  have hfields : ∀ step ∈ encoder.steps name, ∀ replacement ∈ step.alternatives.toList,
      ∀ c ∈ replacement, encoder.rules.table.Uses c ∨ c = Code.filler := by
    intro step hstep replacement hreplacement c hc
    obtain ⟨hrule, hfield⟩ := RuleTable.applies_of_mem_steps hstep
    exact Or.inl ⟨step.rule, hrule, step.alternatives, hfield, replacement, hreplacement, hc⟩
  exact encoder.forall_mem_run name hfields (Or.inr rfl) code hcode c hc

theorem uses_of_mem_soundex (hc : c ∈ encoder.soundex name) :
    encoder.rules.table.Uses c ∨ c = Code.filler ∨ c = Code.bar := by
  rcases Text.mem_join hc with hbar | ⟨code, hcode, hmem⟩
  · exact Or.inr (Or.inr hbar)
  · exact (uses_of_mem_run hcode hmem).imp_right Or.inl

end Encoder

end Soundalike
