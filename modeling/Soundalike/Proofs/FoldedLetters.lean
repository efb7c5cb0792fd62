import Soundalike.Proofs.Moments
import Soundalike.Proofs.Precedence
import Soundalike.Proofs.Respelling

set_option autoImplicit false

/-!
# What foldings do to a name

A letter is put into lower case before its folding is looked up, and what the folding leads to is
taken as it is written.  So the last folding for a small letter takes effect wherever the letter
stands, while one for a capital is never looked up (`folding_takes_effect_iff`).  And the characters
of a cleaned name are small letters, but for those to which a folding leads
(`cleanup_small_or_folded`).
-/

namespace Soundalike

/-- A small letter: one that lower-casing leaves as it is. -/
def Letter.IsSmall (c : Char) : Prop := isLetter c = true ∧ lower c = c

instance (c : Char) : Decidable (Letter.IsSmall c) := inferInstanceAs (Decidable (_ ∧ _))

theorem Letter.isSmall_lower {c : Char} (h : isLetter c = true) : IsSmall (lower c) :=
  ⟨isLetter_lower h, lower_lower c⟩

namespace Encoder

variable {encoder : Encoder} {source : Text} {letter target folded : Char}

/-! ## The place of a letter -/

/-- Cleaning any name puts `target` into every place of `letter`. -/
def Replaces (encoder : Encoder) (letter target : Char) : Prop :=
  ∀ before after, encoder.cleanup (before ++ letter :: after) =
    encoder.cleanup before ++ target :: encoder.cleanup after

/-- There is one thing only that a letter is replaced by. -/
theorem replaces_iff (h : Letter.isLetter letter = true) :
    encoder.Replaces letter target ↔ normalize encoder.foldingTable letter = target := by
  have hplace : encoder.Replaces letter (normalize encoder.foldingTable letter) := by
    intro before after
    rw [cleanup, cleanup_append, cleanup_cons_of_isLetter h]
    rfl
  constructor
  · intro htarget
    have hsame := (hplace [] []).symm.trans (htarget [] [])
    exact (List.cons.inj hsame).1
  · rintro rfl
    exact hplace

theorem normalize_of_folding (h : encoder.folding = true) (letter : Char) :
    normalize encoder.foldingTable letter = encoder.rules.folding.fold (Letter.lower letter) := by
  rw [foldingTable, if_pos h, normalize]

theorem normalize_of_not_folding (h : encoder.folding = false) (letter : Char) :
    normalize encoder.foldingTable letter = Letter.lower letter := by
  rw [foldingTable, if_neg (ne_true_of_eq_false h), normalize]

/-- With folding, what replaces a letter is what its lower-case form is folded to. -/
theorem replaces_iff_of_parse (hparse : RuleSet.parse source = .ok encoder.rules)
    (hfolding : encoder.folding = true) (hletter : Letter.isLetter letter = true)
    (target : Char) :
    encoder.Replaces letter target ↔
      Source.LastFolding source (Letter.lower letter) target ∨
        Letter.lower letter = target ∧ ¬ Source.HasFolding source (Letter.lower letter) := by
  rw [replaces_iff hletter, normalize_of_folding hfolding, RuleSet.fold_folding_eq_iff hparse]

/-- The last folding for a small letter takes effect in every place of the letter.  One for a
capital takes effect only if the capital would become the same without it, from the foldings for its
lower-case form or for want of any: the capital is replaced by whatever replaces its lower-case
form. -/
theorem folding_takes_effect_iff (hparse : RuleSet.parse source = .ok encoder.rules)
    (hfolding : encoder.folding = true) (hletter : Letter.isLetter letter = true)
    (hlast : Source.LastFolding source letter folded) :
    (Letter.lower letter = letter → encoder.Replaces letter folded) ∧
    (encoder.Replaces letter folded ↔
      Source.LastFolding source (Letter.lower letter) folded ∨
        Letter.lower letter = folded ∧ ¬ Source.HasFolding source (Letter.lower letter)) ∧
    ∀ target, encoder.Replaces letter target ↔ encoder.Replaces (Letter.lower letter) target := by
  have hreplaces := replaces_iff_of_parse hparse hfolding hletter folded
  refine ⟨fun hsmall => ?_, hreplaces, fun target => ?_⟩
  · rw [hreplaces, hsmall]
    exact Or.inl hlast
  · rw [replaces_iff_of_parse hparse hfolding hletter,
      replaces_iff_of_parse hparse hfolding (Letter.isLetter_lower hletter), Letter.lower_lower]

/-- Of two foldings for `ä` the last one takes effect, and the one for `Ä` does not. -/
theorem folding_takes_effect_iff_umlaut :
    ∃ encoder : Encoder, RuleSet.parse "ä=e\nä=a\nÄ=o".toList = .ok encoder.rules ∧
      encoder.Replaces 'ä' 'a' ∧ ¬ encoder.Replaces 'Ä' 'o' := by
  let source := "ä=e\nä=a\nÄ=o".toList
  let encoder : Encoder := ⟨.ofStatements (Source.stated source), true⟩
  have hparse : RuleSet.parse source = .ok encoder.rules :=
    RuleSet.parse_eq_ok_iff.mpr ⟨by decide +kernel, rfl⟩
  have hsmall : Source.LastFolding source 'ä' 'a' :=
    (RuleSet.find?_folding_eq_some_iff hparse).mp (by decide +kernel)
  have hcapital : Source.LastFolding source 'Ä' 'o' :=
    (RuleSet.find?_folding_eq_some_iff hparse).mp (by decide +kernel)
  have hlower : Letter.lower 'Ä' = 'ä' := by decide +kernel
  obtain ⟨heffect, -, -⟩ := folding_takes_effect_iff hparse rfl (by decide +kernel) hsmall
  obtain ⟨-, hiff, -⟩ := folding_takes_effect_iff hparse rfl (by decide +kernel) hcapital
  refine ⟨encoder, hparse, heffect (by decide +kernel), ?_⟩
  rw [hiff, hlower, ← RuleSet.fold_folding_eq_iff hparse]
  decide +kernel

/-- A folding for a capital is lost, though it is the only one and leads to a small letter. -/
theorem not_forall_folding_takes_effect :
    ¬ ∀ (source : Text) (encoder : Encoder) (letter folded : Char),
      RuleSet.parse source = .ok encoder.rules → encoder.folding = true →
      Letter.isLetter letter = true → Source.LastFolding source letter folded →
      Letter.IsSmall folded → encoder.Replaces letter folded := by
  intro h
  let source := "Ä=a\na 1 1 1".toList
  let encoder : Encoder := ⟨.ofStatements (Source.stated source), true⟩
  have hparse : RuleSet.parse source = .ok encoder.rules :=
    RuleSet.parse_eq_ok_iff.mpr ⟨by decide +kernel, rfl⟩
  have hlast : Source.LastFolding source 'Ä' 'a' :=
    (RuleSet.find?_folding_eq_some_iff hparse).mp (by decide +kernel)
  have hletter : Letter.isLetter 'Ä' = true := by decide +kernel
  have hreplaces := h source encoder 'Ä' 'a' hparse rfl hletter hlast (by decide +kernel)
  rw [replaces_iff hletter] at hreplaces
  revert hreplaces
  decide +kernel

/-! ## The characters of a cleaned name -/

theorem mem_cleanup_iff {name : Text} {c : Char} :
    c ∈ encoder.cleanup name ↔
      ∃ letter ∈ name, Letter.isLetter letter = true ∧
        normalize encoder.foldingTable letter = c := by
  simp only [cleanup, Soundalike.cleanup, List.mem_map, List.mem_filter, isKept_iff, and_assoc]

/-- What the last folding for a small letter leads to is in every cleaned name with the letter. -/
theorem mem_cleanup_of_lastFolding (hparse : RuleSet.parse source = .ok encoder.rules)
    (hfolding : encoder.folding = true) (hsmall : Letter.IsSmall letter)
    (hlast : Source.LastFolding source letter folded) {name : Text} (hmem : letter ∈ name) :
    folded ∈ encoder.cleanup name := by
  obtain ⟨hletter, hlower⟩ := hsmall
  refine mem_cleanup_iff.mpr ⟨letter, hmem, hletter, ?_⟩
  rw [normalize_of_folding hfolding, hlower, RuleSet.fold_folding_eq_iff hparse]
  exact Or.inl hlast

/-- A character of a cleaned name is a small letter, or the folding of a small letter leads to
it. -/
theorem small_or_folded_of_mem_cleanup (hparse : RuleSet.parse source = .ok encoder.rules)
    {name : Text} {c : Char} (hc : c ∈ encoder.cleanup name) :
    Letter.IsSmall c ∨ encoder.folding = true ∧
      ∃ letter, Letter.IsSmall letter ∧ Source.LastFolding source letter c := by
  obtain ⟨letter, -, hletter, hnormal⟩ := mem_cleanup_iff.mp hc
  have hsmall := Letter.isSmall_lower hletter
  cases hfolding : encoder.folding with
  | false =>
    rw [normalize_of_not_folding hfolding] at hnormal
    exact Or.inl (hnormal ▸ hsmall)
  | true =>
    rw [normalize_of_folding hfolding, RuleSet.fold_folding_eq_iff hparse] at hnormal
    rcases hnormal with hlast | ⟨hself, -⟩
    · exact Or.inr ⟨rfl, _, hsmall, hlast⟩
    · exact Or.inl (hself ▸ hsmall)

/-- What a rule is looked up among are the characters of the cleaned name.  They are small letters,
but for those to which the last folding for a small letter leads while folding is on.  Only letters
are ever among them exactly if these foldings lead to letters only. -/
theorem cleanup_small_or_folded (hparse : RuleSet.parse source = .ok encoder.rules) :
    (∀ name, (encoder.pieces name).flatMap Piece.letters = encoder.cleanup name ∧
      ∀ c ∈ encoder.cleanup name, Letter.IsSmall c ∨ encoder.folding = true ∧
        ∃ letter, Letter.IsSmall letter ∧ Source.LastFolding source letter c) ∧
    ((∀ name, ∀ c ∈ encoder.cleanup name, Letter.isLetter c = true) ↔
      (encoder.folding = true → ∀ letter folded, Letter.IsSmall letter →
        Source.LastFolding source letter folded → Letter.isLetter folded = true)) := by
  refine ⟨fun name => ⟨?_, fun c => small_or_folded_of_mem_cleanup hparse⟩, ?_, ?_⟩
  · exact RuleTable.flatMap_letters_piecesFrom _ _ _ _
  · intro hletters hfolding letter folded hsmall hlast
    exact hletters [letter] folded
      (mem_cleanup_of_lastFolding hparse hfolding hsmall hlast List.mem_cons_self)
  · intro hletters name c hc
    rcases small_or_folded_of_mem_cleanup hparse hc with hsmall | ⟨hfolding, letter, hsmall, hlast⟩
    · exact hsmall.1
    · exact hletters hfolding letter c hsmall hlast

/-- A folding to a digit: without folding nothing but small letters is left, with it the digit comes
in. -/
theorem cleanup_small_or_folded_digit :
    ∃ rules, RuleSet.parse "ß=2\n2 4 4 4".toList = .ok rules ∧
      (∀ name, ∀ c ∈ (Encoder.mk rules false).cleanup name, Letter.IsSmall c) ∧
      ¬ ∀ name, ∀ c ∈ (Encoder.mk rules true).cleanup name, Letter.isLetter c = true := by
  let source := "ß=2\n2 4 4 4".toList
  let rules := RuleSet.ofStatements (Source.stated source)
  have hparse : RuleSet.parse source = .ok rules :=
    RuleSet.parse_eq_ok_iff.mpr ⟨by decide +kernel, rfl⟩
  have hlast : Source.LastFolding source 'ß' '2' :=
    (RuleSet.find?_folding_eq_some_iff hparse).mp (by decide +kernel)
  refine ⟨rules, hparse, ?_, ?_⟩
  · intro name c hc
    have hplain : RuleSet.parse source = .ok (Encoder.mk rules false).rules := hparse
    obtain ⟨hcharacters, -⟩ := cleanup_small_or_folded hplain
    rcases (hcharacters name).2 c hc with hsmall | ⟨hfolding, -⟩
    · exact hsmall
    · cases hfolding
  · have hfolded : RuleSet.parse source = .ok (Encoder.mk rules true).rules := hparse
    obtain ⟨-, hletters⟩ := cleanup_small_or_folded hfolded
    intro hall
    have hdigit := hletters.mp hall rfl 'ß' '2' (by decide +kernel) hlast
    revert hdigit
    decide +kernel

/-- A folding to a digit brings the digit into a cleaned name. -/
theorem not_forall_cleanup_small :
    ¬ ∀ (source : Text) (encoder : Encoder) (name : Text),
      RuleSet.parse source = .ok encoder.rules →
        ∀ c ∈ encoder.cleanup name, Letter.IsSmall c := by
  intro h
  let source := "ß=2\n2 4 4 4".toList
  let encoder : Encoder := ⟨.ofStatements (Source.stated source), true⟩
  have hparse : RuleSet.parse source = .ok encoder.rules :=
    RuleSet.parse_eq_ok_iff.mpr ⟨by decide +kernel, rfl⟩
  have hlast : Source.LastFolding source 'ß' '2' :=
    (RuleSet.find?_folding_eq_some_iff hparse).mp (by decide +kernel)
  have hmem : '2' ∈ encoder.cleanup "Groß".toList :=
    mem_cleanup_of_lastFolding hparse rfl (by decide +kernel) hlast (by decide)
  obtain ⟨hletter, -⟩ := h source encoder "Groß".toList hparse '2' hmem
  revert hletter
  decide +kernel

end Encoder

end Soundalike
