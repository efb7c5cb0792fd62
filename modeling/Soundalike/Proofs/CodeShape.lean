import Soundalike.Proofs.LiveBranches
import Soundalike.Proofs.LongestMatch
import Soundalike.Text.Utf8

set_option autoImplicit false

/-!
# The shape of codes

Whatever the rules and the name, a name has at least one code, no code twice, and each is six
characters long.  Nothing but the alternatives of the steps and the filler is ever written into a
code (`forall_mem_run`), so rules of digits give codes of digits, and the Daitch-Mokotoff rules are
such rules.
-/

namespace Soundalike

/-! ## The characters of codes -/

theorem Branch.mem_code_apply {branch : Branch} {replacement : Replacement} {force : Bool}
    {c : Char} (h : c ∈ (branch.apply replacement force).code) :
    c ∈ branch.code ∨ c ∈ replacement := by
  cases hadds : branch.adds replacement force with
  | true =>
    rw [code_apply_of_adds hadds] at h
    exact List.mem_append.mp (List.mem_of_mem_take h)
  | false =>
    rw [code_apply_of_not_adds hadds] at h
    exact Or.inl h

/-- Live codes are written with characters of the alternatives. -/
theorem forall_mem_code_liveAfter {p : Char → Prop} {choice : Choice} {steps : List Step}
    (hfields : ∀ step ∈ steps, ∀ replacement ∈ step.alternatives.toList, ∀ c ∈ replacement, p c)
    {live : List Branch} (hlive : ∀ branch ∈ live, ∀ c ∈ branch.code, p c) :
    ∀ branch ∈ liveAfter choice steps live, ∀ c ∈ branch.code, p c := by
  refine forall_liveAfter (P := fun branch => ∀ c ∈ branch.code, p c) ?_ hlive
  intro step hstep branch hbranch replacement hreplacement c hc
  rcases Branch.mem_code_apply hc with hold | hnew
  · exact hbranch c hold
  · exact hfields step hstep replacement hreplacement c hnew

namespace Encoder

variable (encoder : Encoder) (name : Text)

theorem forall_mem_run {p : Char → Prop} {choice : Choice}
    (hfields : ∀ step ∈ encoder.steps name, ∀ replacement ∈ step.alternatives.toList,
      ∀ c ∈ replacement, p c)
    (hfiller : p Code.filler) : ∀ code ∈ encoder.run choice name, ∀ c ∈ code, p c := by
  intro code hcode c hc
  obtain ⟨branch, hbranch, rfl⟩ := (encoder.mem_run_iff name).mp hcode
  rw [Branch.code_finish] at hc
  rcases List.mem_append.mp hc with hwritten | hfilled
  · have hstart : ∀ branch ∈ [Branch.empty], ∀ c ∈ branch.code, p c := by
      intro start hmem c hc
      rw [List.mem_singleton.mp hmem] at hc
      cases hc
    exact forall_mem_code_liveAfter hfields hstart branch hbranch c hwritten
  · rw [List.eq_of_mem_replicate hfilled]
    exact hfiller

/-! ## The length of codes -/

theorem length_of_mem_run {choice : Choice} {code : Code}
    (h : code ∈ encoder.run choice name) : code.length = Code.size := by
  obtain ⟨branch, _, rfl⟩ := (encoder.mem_run_iff name).mp h
  exact branch.length_code_finish

/-- The default for a run without codes is never needed. -/
theorem encode_mem_run : encoder.encode name ∈ encoder.run .first name := by
  rw [encode]
  cases hrun : encoder.run .first name with
  | nil => exact absurd hrun (encoder.run_ne_nil .first name)
  | cons code rest => exact List.mem_cons_self

end Encoder

/-! ## Codes of digits -/

/-- Every alternative of every rule is written with digits. -/
def RuleTable.IsNumeric (table : RuleTable) : Prop :=
  ∀ rule ∈ table.rules, ∀ field ∈ rule.fields, ∀ replacement ∈ field.toList,
    replacement.all Char.isDigit = true

instance (table : RuleTable) : Decidable table.IsNumeric :=
  inferInstanceAs (Decidable (∀ rule ∈ table.rules, ∀ field ∈ rule.fields,
    ∀ replacement ∈ field.toList, replacement.all Char.isDigit = true))

theorem Bundled.isNumeric_ruleSet : Bundled.ruleSet.table.IsNumeric := by decide +kernel

/-- A finished code has as many bytes as characters. -/
theorem Code.length_toUtf8_of_isFinished {code : Code} (h : code.isFinished = true) :
    (Text.toUtf8 code).length = Code.size := by
  rw [isFinished, Bool.and_eq_true, beq_iff_eq, List.all_eq_true] at h
  obtain ⟨hlength, hdigits⟩ := h
  have hbyte : ∀ c ∈ code, (String.utf8EncodeChar c).length = 1 := by
    intro c hc
    have hdigit := hdigits c hc
    rw [String.length_utf8EncodeChar, Char.utf8Size_eq_one_iff]
    simp only [Char.isDigit, Bool.and_eq_true, decide_eq_true_eq] at hdigit
    exact UInt32.le_trans hdigit.right (by decide)
  rw [Text.toUtf8, List.length_flatMap, List.map_congr_left hbyte, List.map_const',
    List.sum_replicate_nat, hlength, Nat.mul_one]

namespace Encoder

variable (encoder : Encoder) (name : Text)

theorem isFinished_of_mem_run (hnumeric : encoder.rules.table.IsNumeric) {choice : Choice}
    {code : Code} (h : code ∈ encoder.run choice name) : code.isFinished = true := by
  have hfields : ∀ step ∈ encoder.steps name, ∀ replacement ∈ step.alternatives.toList,
      ∀ c ∈ replacement, c.isDigit = true := by
    intro step hstep replacement hreplacement
    obtain ⟨hrule, hfield⟩ := RuleTable.applies_of_mem_steps hstep
    exact List.all_eq_true.mp (hnumeric step.rule hrule step.alternatives hfield _ hreplacement)
  have hdigits := encoder.forall_mem_run name hfields (by decide) code h
  rw [Code.isFinished, Bool.and_eq_true, beq_iff_eq, List.all_eq_true]
  exact ⟨encoder.length_of_mem_run name h, hdigits⟩

/-- A name has at least one code and no code twice; a code has six characters, and over rules of
digits, as the Daitch-Mokotoff rules are, it is finished and has six bytes. -/
theorem codes_shape :
    encoder.codes name ≠ [] ∧ (encoder.codes name).Nodup ∧
      (∀ code ∈ encoder.encode name :: encoder.codes name, code.length = Code.size) ∧
      (encoder.rules.table.IsNumeric →
        ∀ code ∈ encoder.encode name :: encoder.codes name,
          code.isFinished = true ∧ (Text.toUtf8 code).length = Code.size) ∧
      Bundled.ruleSet.table.IsNumeric := by
  have hrun : ∀ code ∈ encoder.encode name :: encoder.codes name,
      ∃ choice, code ∈ encoder.run choice name := by
    intro code hcode
    rcases List.mem_cons.mp hcode with rfl | hmem
    · exact ⟨.first, encoder.encode_mem_run name⟩
    · exact ⟨.every, hmem⟩
  refine ⟨encoder.run_ne_nil .every name, nodup_distinct _, ?_, ?_, Bundled.isNumeric_ruleSet⟩
  · intro code hcode
    obtain ⟨choice, hmem⟩ := hrun code hcode
    exact encoder.length_of_mem_run name hmem
  · intro hnumeric code hcode
    obtain ⟨choice, hmem⟩ := hrun code hcode
    have hfinished := encoder.isFinished_of_mem_run name hnumeric hmem
    exact ⟨hfinished, Code.length_toUtf8_of_isFinished hfinished⟩

/-- The single code of `Straßburg` over the Daitch-Mokotoff rules is finished. -/
theorem codes_shape_strassburg :
    standard.rules.table.IsNumeric ∧
      "294795".toList ∈ standard.encode "Straßburg".toList :: standard.codes "Straßburg".toList ∧
      Code.isFinished "294795".toList = true := by
  have hmem : "294795".toList ∈
      standard.encode "Straßburg".toList :: standard.codes "Straßburg".toList := by
    decide +kernel
  obtain ⟨-, -, -, hfinished, hnumeric⟩ := standard.codes_shape "Straßburg".toList
  exact ⟨hnumeric, hmem, (hfinished hnumeric _ hmem).left⟩

end Encoder

end Soundalike
