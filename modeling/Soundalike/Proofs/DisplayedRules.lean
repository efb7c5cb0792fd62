import Soundalike.Proofs.JoinedCodes
import Soundalike.Proofs.LowerLetters

set_option autoImplicit false

/-!
# Displayed rules

A rule is displayed with signs around its pattern and its fields that a field may hold as well:
commas and brackets.  Still no two rules that are read from sources are displayed alike
(`Source.eq_of_display_eq`), since the display has two marks that are none of theirs.  No equals
sign gets into a pattern, and none comes about when it is put into lower case; no blank gets into a
field (`Statement.Writes.isDelimited`).
-/

namespace Soundalike

theorem Alternatives.field_injective : Function.Injective Alternatives.field :=
  Function.LeftInverse.injective Alternatives.ofField_field

namespace Rule

/-- A rule whose display shows where its pattern and its fields end. -/
structure IsDelimited (rule : Rule) : Prop where
  sign_not_mem : Statement.foldingSign ∉ rule.pattern
  blank_not_mem : ∀ field ∈ rule.fields, ' ' ∉ field.field

/-! ## Taking a display apart -/

theorem display_eq (rule : Rule) :
    rule.display = rule.pattern ++ Statement.foldingSign :: '(' ::
      (rule.atStart.field ++ ',' :: ' ' :: (rule.beforeVowel.field ++ ',' :: ' ' ::
        (rule.elsewhere.field ++ [')']))) := by
  simp [display, Statement.foldingSign]

/-- A field without a blank ends where a comma and a blank follow, whatever commas it holds. -/
theorem append_comma_inj {first second rest others : Text} (hfirst : ' ' ∉ first)
    (hsecond : ' ' ∉ second) (h : first ++ ',' :: ' ' :: rest = second ++ ',' :: ' ' :: others) :
    first = second ∧ rest = others := by
  have hcomma : ∀ {field : Text}, ' ' ∉ field → ' ' ∉ field ++ [','] := by
    intro field hfield
    simp [hfield]
  have hcut : (first ++ [',']) ++ ' ' :: rest = (second ++ [',']) ++ ' ' :: others := by
    simpa using h
  obtain ⟨hfields, hrest⟩ := (Text.append_cons_inj (hcomma hfirst) (hcomma hsecond)).mp hcut
  exact ⟨List.append_cancel_right hfields, hrest⟩

theorem IsDelimited.display_inj {first second : Rule} (hfirst : first.IsDelimited)
    (hsecond : second.IsDelimited) (h : first.display = second.display) : first = second := by
  rw [display_eq, display_eq,
    Text.append_cons_inj hfirst.sign_not_mem hsecond.sign_not_mem] at h
  obtain ⟨hpattern, hfields⟩ := h
  obtain ⟨hstart, hfields⟩ := append_comma_inj (hfirst.blank_not_mem _ (by simp [fields]))
    (hsecond.blank_not_mem _ (by simp [fields])) (List.tail_eq_of_cons_eq hfields)
  obtain ⟨hvowel, helse⟩ := append_comma_inj (hfirst.blank_not_mem _ (by simp [fields]))
    (hsecond.blank_not_mem _ (by simp [fields])) hfields
  cases first
  cases second
  rw [Rule.mk.injEq]
  exact ⟨hpattern, Alternatives.field_injective hstart, Alternatives.field_injective hvowel,
    Alternatives.field_injective (List.append_cancel_right helse)⟩

/-- With blanks in their fields, rules may be displayed alike. -/
example :
    ofFields? ['x'] "1, 2".toList ['3'] ['4'] ≠ ofFields? ['x'] ['1'] "2, 3".toList ['4'] ∧
      (ofFields? ['x'] "1, 2".toList ['3'] ['4']).map display =
        (ofFields? ['x'] ['1'] "2, 3".toList ['4']).map display := by
  decide +kernel

end Rule

/-! ## Rules of a source -/

theorem Letter.isLetter_foldingSign : isLetter Statement.foldingSign = false := by
  decide +kernel

theorem Statement.Writes.sign_not_mem_pattern {line : Text} {rule : Rule}
    (h : Writes line (.rule rule)) : foldingSign ∉ rule.pattern := by
  cases h with
  | @rule pattern _ _ _ _ hsign hfields hbuilt =>
    rw [(Rule.ofFields?_eq_some_iff.mp hbuilt).left]
    intro hmem
    obtain ⟨c, hc, hlower⟩ := List.mem_map.mp hmem
    obtain rfl := Letter.eq_of_lower_eq Letter.isLetter_foldingSign hlower
    have hword : pattern ∈ Text.words line := hfields ▸ List.mem_cons_self
    exact hsign (Text.mem_of_mem_words hword (mem_of_mem_unquote hc))

/-- A rule that a line writes keeps equals signs out of its pattern and blanks out of its fields. -/
theorem Statement.Writes.isDelimited {line : Text} {rule : Rule} (h : Writes line (.rule rule)) :
    rule.IsDelimited where
  sign_not_mem := h.sign_not_mem_pattern
  blank_not_mem field hfield hblank := by
    rcases Text.mem_join hblank with hbar | ⟨replacement, hreplacement, hmem⟩
    · cases hbar
    · have hsolid := h.isSolid field hfield replacement hreplacement ' ' hmem
      cases hsolid

namespace Source

theorem isDelimited_of_mem {source : Text} {stated : List Statement}
    (h : statements source = .ok stated) {rule : Rule} (hrule : .rule rule ∈ stated) :
    rule.IsDelimited := by
  obtain ⟨line, -, hwrites⟩ := (mem_iff_of_statements h).mp hrule
  exact hwrites.isDelimited

/-- Rules that are read from one source or from two are equal if they are displayed alike: they have
the same pattern and, field by field, the same alternatives, of which some may be empty. -/
theorem eq_of_display_eq {firstSource secondSource : Text}
    {firstStated secondStated : List Statement} (hfirst : statements firstSource = .ok firstStated)
    (hsecond : statements secondSource = .ok secondStated) {first second : Rule}
    (hfirstRule : .rule first ∈ firstStated) (hsecondRule : .rule second ∈ secondStated)
    (h : first.display = second.display) : first = second :=
  (isDelimited_of_mem hfirst hfirstRule).display_inj
    (isDelimited_of_mem hsecond hsecondRule) h

/-- The pattern in capitals and in quotes, before fields that hold what a display puts around them:
an empty alternative, an empty field, and one with a comma and brackets. -/
theorem eq_of_display_eq_sch :
    ∃ firstStated secondStated first second,
      statements "SCH 4| \"\" (5,)".toList = .ok firstStated ∧
      statements "ß=s\n\"sch\"\t\"4|\"  \"\" \"(5,)\" // again".toList = .ok secondStated ∧
      .rule first ∈ firstStated ∧ .rule second ∈ secondStated ∧
      first.display = "sch=(4|, , (5,))".toList ∧ second.display = "sch=(4|, , (5,))".toList ∧
      first = second := by
  let firstSource := "SCH 4| \"\" (5,)".toList
  let secondSource := "ß=s\n\"sch\"\t\"4|\"  \"\" \"(5,)\" // again".toList
  let first := (rules firstSource).get ⟨0, by decide +kernel⟩
  let second := (rules secondSource).get ⟨0, by decide +kernel⟩
  have hfirst : statements firstSource = .ok (stated firstSource) := by decide +kernel
  have hsecond : statements secondSource = .ok (stated secondSource) := by decide +kernel
  have hfirstRule : .rule first ∈ stated firstSource := by decide +kernel
  have hsecondRule : .rule second ∈ stated secondSource := by decide +kernel
  have hshown : first.display = "sch=(4|, , (5,))".toList := by decide +kernel
  have hshownAgain : second.display = "sch=(4|, , (5,))".toList := by decide +kernel
  exact ⟨_, _, first, second, hfirst, hsecond, hfirstRule, hsecondRule, hshown, hshownAgain,
    eq_of_display_eq hfirst hsecond hfirstRule hsecondRule (hshown.trans hshownAgain.symm)⟩

end Source

end Soundalike
