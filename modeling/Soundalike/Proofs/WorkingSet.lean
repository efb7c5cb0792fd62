import Mathlib.Algebra.Order.BigOperators.Group.Finset
import Mathlib.Data.Fintype.BigOperators
import Soundalike.Proofs.CodeShape
import Soundalike.Proofs.Moments

set_option autoImplicit false

/-!
# The live branches stay few

Each step may fork every live branch, so without merging their number could double with every letter
that has two sounds.  Merging leaves one branch for a code, and a live code is a word of at most six
characters of the alphabet in which the alternatives are written, of which there are finitely many.
So the number of live branches has a bound that does not depend on the name (`length_liveAt_le`).
-/

namespace Soundalike

/-! ## Words over an alphabet -/

/-- The words of one length over an alphabet. -/
def wordsOfLength (alphabet : Finset Char) (length : Nat) : Finset Text :=
  (Fintype.piFinset fun _ : Fin length => alphabet).image List.ofFn

theorem mem_wordsOfLength {alphabet : Finset Char} {word : Text} (h : ∀ c ∈ word, c ∈ alphabet) :
    word ∈ wordsOfLength alphabet word.length := by
  rw [wordsOfLength, Finset.mem_image]
  refine ⟨word.get, ?_, List.ofFn_get word⟩
  rw [Fintype.mem_piFinset]
  exact fun i => h _ (List.get_mem word i)

theorem card_wordsOfLength_le (alphabet : Finset Char) (length : Nat) :
    (wordsOfLength alphabet length).card ≤ alphabet.card ^ length := by
  have hcard := Fintype.card_piFinset_const alphabet length
  exact Finset.card_image_le.trans_eq hcard

/-- Different words over an alphabet, none longer than `size`, are not more than there are such
words. -/
theorem length_le_sum_pow {alphabet : Finset Char} {size : Nat} {words : List Text}
    (hnodup : words.Nodup)
    (hwords : ∀ word ∈ words, word.length ≤ size ∧ ∀ c ∈ word, c ∈ alphabet) :
    words.length ≤ ∑ length ∈ Finset.range (size + 1), alphabet.card ^ length := by
  have hsubset : words.toFinset ⊆ (Finset.range (size + 1)).biUnion (wordsOfLength alphabet) := by
    intro word hword
    obtain ⟨hlength, hletters⟩ := hwords word (List.mem_toFinset.mp hword)
    exact Finset.mem_biUnion.mpr ⟨word.length, Finset.mem_range_succ_iff.mpr hlength,
      mem_wordsOfLength hletters⟩
  calc words.length = words.toFinset.card := (List.toFinset_card_of_nodup hnodup).symm
    _ ≤ ((Finset.range (size + 1)).biUnion (wordsOfLength alphabet)).card :=
      Finset.card_le_card hsubset
    _ ≤ ∑ length ∈ Finset.range (size + 1), (wordsOfLength alphabet length).card :=
      Finset.card_biUnion_le
    _ ≤ ∑ length ∈ Finset.range (size + 1), alphabet.card ^ length :=
      Finset.sum_le_sum fun length _ => card_wordsOfLength_le alphabet length

/-! ## Live branches -/

/-- Every alternative of every rule is written in an alphabet. -/
def RuleTable.IsWrittenIn (table : RuleTable) (alphabet : Finset Char) : Prop :=
  ∀ rule ∈ table.rules, ∀ field ∈ rule.fields, ∀ replacement ∈ field.toList,
    ∀ c ∈ replacement, c ∈ alphabet

instance (table : RuleTable) (alphabet : Finset Char) : Decidable (table.IsWrittenIn alphabet) :=
  decidable_of_iff (∀ rule ∈ table.rules, ∀ field ∈ rule.fields, ∀ replacement ∈ field.toList,
    replacement.all (· ∈ alphabet) = true) <| by
    simp only [RuleTable.IsWrittenIn, List.all_eq_true, decide_eq_true_eq]

/-- After a step every live branch has an alternative of the step as its last replacement. -/
theorem last_of_mem_advance {choice : Choice} {step : Step} {live : List Branch} {branch : Branch}
    (h : branch ∈ step.advance choice live) :
    ∃ replacement ∈ step.alternatives.toList, branch.last = some replacement := by
  obtain ⟨before, -, replacement, hreplacement, rfl⟩ := exists_of_mem_advance h
  exact ⟨replacement, hreplacement, Branch.last_apply ..⟩

namespace Encoder

variable (encoder : Encoder) (name : Text)

/-- No code is live twice. -/
theorem nodup_liveCodes (count : Nat) : (encoder.liveCodes name count).Nodup := by
  have hstart : ([Branch.empty].map Branch.code).Nodup := List.nodup_singleton _
  refine forall_liveAt (P := fun live => (live.map Branch.code).Nodup) hstart ?_ count
  intro step _ live _
  exact nodup_map_distinctBy Branch.code _

/-- No two live branches stand for one candidate. -/
theorem pairwise_not_sameCode_liveAt (count : Nat) :
    (encoder.liveAt .every name count).Pairwise fun first second =>
      first.sameCode second = false := by
  have hnodup := List.pairwise_map.mp (encoder.nodup_liveCodes name count)
  refine hnodup.imp fun hne => ?_
  rw [← Bool.not_eq_true, Branch.sameCode_iff]
  exact hne
/-- Live codes are words over the alphabet of the alternatives, not longer than a finished code. -/
theorem word_of_mem_liveCodes {alphabet : Finset Char}
    (halphabet : encoder.rules.table.IsWrittenIn alphabet) {count : Nat} {code : Code}
    (h : code ∈ encoder.liveCodes name count) :
    code.length ≤ Code.size ∧ ∀ c ∈ code, c ∈ alphabet := by
  obtain ⟨branch, hbranch, rfl⟩ := List.mem_map.mp h
  have hstart : ∀ branch ∈ [Branch.empty], ∀ c ∈ branch.code, c ∈ alphabet :=
    List.forall_mem_singleton.mpr (List.forall_mem_nil _)
  have hfields : ∀ step ∈ Piece.steps ((encoder.pieces name).take count),
      ∀ replacement ∈ step.alternatives.toList, ∀ c ∈ replacement, c ∈ alphabet := by
    intro step hstep
    have hmem : step ∈ encoder.steps name := by
      rw [encoder.steps_eq_append name count]
      exact List.mem_append_left _ hstep
    obtain ⟨hrule, hfield⟩ := RuleTable.applies_of_mem_steps hmem
    exact halphabet step.rule hrule step.alternatives hfield
  exact ⟨branch.length_code_le, forall_mem_code_liveAfter hfields hstart branch hbranch⟩

/-- There are at most as many live branches as words, however long the name is. -/
theorem length_liveAt_le {alphabet : Finset Char}
    (halphabet : encoder.rules.table.IsWrittenIn alphabet) (count : Nat) :
    (encoder.liveAt .every name count).length ≤
      ∑ length ∈ Finset.range (Code.size + 1), alphabet.card ^ length := by
  have hlength := length_le_sum_pow (encoder.nodup_liveCodes name count)
    fun _ => encoder.word_of_mem_liveCodes name halphabet
  rw [liveCodes, List.length_map] at hlength
  exact hlength

/-- At every moment the live codes are different words of at most six characters over the alphabet
of the alternatives, so the number of live branches is bounded by the number of such words; and
after a step every live branch has one of its alternatives as its last replacement. -/
theorem liveAt_bounded {alphabet : Finset Char}
    (halphabet : encoder.rules.table.IsWrittenIn alphabet) (count : Nat) :
    (encoder.liveCodes name count).Nodup ∧
      (∀ code ∈ encoder.liveCodes name count,
        code.length ≤ Code.size ∧ ∀ c ∈ code, c ∈ alphabet) ∧
      (encoder.liveAt .every name count).length ≤
        ∑ length ∈ Finset.range (Code.size + 1), alphabet.card ^ length ∧
      ∀ step, (encoder.pieces name)[count]? = some (.matched step) →
        ∀ branch ∈ encoder.liveAt .every name (count + 1),
          ∃ replacement ∈ step.alternatives.toList, branch.last = some replacement := by
  refine ⟨encoder.nodup_liveCodes name count,
    fun _ => encoder.word_of_mem_liveCodes name halphabet,
    encoder.length_liveAt_le name halphabet count, ?_⟩
  intro step hstep branch hbranch
  rw [liveAt_succ_of_matched hstep] at hbranch
  exact last_of_mem_advance hbranch

/-- The last letter of `Rosochowaciec` has two sounds, and 1111111 is the number of words of at most
six digits. -/
theorem liveAt_bounded_rosochowaciec :
    standard.rules.table.IsWrittenIn "0123456789".toList.toFinset ∧
      (standard.liveCodes "Rosochowaciec".toList 10).Nodup ∧
      (standard.liveAt .every "Rosochowaciec".toList 10).length ≤ 1111111 ∧
      ∀ branch ∈ standard.liveAt .every "Rosochowaciec".toList 11,
        branch.last = some ['4'] ∨ branch.last = some ['5'] := by
  have halphabet : standard.rules.table.IsWrittenIn "0123456789".toList.toFinset := by
    decide +kernel
  obtain ⟨hnodup, -, hlength, hlast⟩ :=
    standard.liveAt_bounded "Rosochowaciec".toList halphabet 10
  have hcard : "0123456789".toList.toFinset.card = 10 := by decide +kernel
  have hbound : ∑ length ∈ Finset.range (Code.size + 1),
      "0123456789".toList.toFinset.card ^ length = 1111111 := by
    rw [hcard, Code.size]
    simp only [Finset.sum_range_succ, Finset.sum_range_zero]
    rfl
  let step := ((standard.pieces "Rosochowaciec".toList)[10]?.bind Piece.step?).get
    (by decide +kernel)
  have hpiece : (standard.pieces "Rosochowaciec".toList)[10]? = some (.matched step) := by
    decide +kernel
  have hsounds : step.alternatives.toList = [['4'], ['5']] := by decide +kernel
  refine ⟨halphabet, hnodup, hlength.trans_eq hbound, ?_⟩
  intro branch hbranch
  obtain ⟨replacement, hreplacement, heq⟩ := hlast step hpiece branch hbranch
  rw [hsounds] at hreplacement
  rw [heq, Option.some.injEq, Option.some.injEq]
  simpa using hreplacement

end Encoder

end Soundalike
