import Mathlib.Logic.Relation
import Soundalike.Encoder
import Soundalike.Proofs.Agreement
import Soundalike.Proofs.LowerLetters

set_option autoImplicit false

/-!
# Spellings that make no difference

Marks that are no letters may come and go in a name, and letters may be given in the form in which
they are compared with rules, without a change of the codes (`alike_of_respelled`); cleaning equates
no other names than such changes do (`cleanup_eq_iff`).  What carries this is that cleaning a letter
reaches its end in one pass (`normalize_normalize`), which lower-casing always does and folding does
where it leads to lower-case letters that are not folded further (`FoldingTable.IsSettled`).
-/

namespace Soundalike

/-! ## Settled folding tables -/

namespace FoldingTable

/-- Folding leads to lower-case letters that are not folded further. -/
def IsSettled (table : FoldingTable) : Prop :=
  ∀ entry ∈ table.entries, Letter.isLetter entry.2 = true ∧ Letter.lower entry.2 = entry.2 ∧
    entry.2 ∉ table.entries.map Prod.fst

instance (table : FoldingTable) : Decidable table.IsSettled :=
  inferInstanceAs (Decidable (∀ entry ∈ table.entries, _))

theorem isSettled_bundled : Bundled.ruleSet.folding.IsSettled := by decide +kernel

theorem mem_entries_of_find? {table : FoldingTable} {letter target : Char}
    (h : table.find? letter = some target) : (letter, target) ∈ table.entries := by
  obtain ⟨before, after, hentries, -⟩ := List.lookup_eq_some_iff.mp h
  rw [hentries]
  exact List.mem_append_right before List.mem_cons_self

/-- A letter stays, or an entry of the table leads to its folded form. -/
theorem fold_cases (table : FoldingTable) (letter : Char) :
    table.fold letter = letter ∨ (letter, table.fold letter) ∈ table.entries := by
  cases h : table.find? letter with
  | none =>
    refine Or.inl ?_
    rw [fold, h, Option.getD_none]
  | some target =>
    refine Or.inr ?_
    rw [fold, h, Option.getD_some]
    exact mem_entries_of_find? h

theorem fold_of_not_mem_keys {table : FoldingTable} {letter : Char}
    (h : letter ∉ table.entries.map Prod.fst) : table.fold letter = letter := by
  rcases fold_cases table letter with hself | hentry
  · exact hself
  · exact absurd (List.mem_map_of_mem hentry) h

end FoldingTable

/-! ## Letters in their cleaned form -/

theorem isKept_iff {c : Char} : isKept c = true ↔ Letter.isLetter c = true := by
  rw [isKept, Bool.and_eq_true]
  constructor
  · exact And.right
  · intro h
    exact ⟨by rw [Letter.isBlank_eq_false_of_isLetter h]; rfl, h⟩

variable {folding : Option FoldingTable}

/-- A letter is cleaned to a letter. -/
theorem isLetter_normalize (hsettled : ∀ table ∈ folding, table.IsSettled) {c : Char}
    (h : Letter.isLetter c = true) : Letter.isLetter (normalize folding c) = true := by
  have hlower := Letter.isLetter_lower h
  cases folding with
  | none => exact hlower
  | some table =>
    rw [normalize]
    rcases table.fold_cases (Letter.lower c) with hself | hentry
    · rw [hself]
      exact hlower
    · obtain ⟨hletter, -, -⟩ := hsettled table rfl _ hentry
      exact hletter

/-- Cleaning a letter reaches its end in one pass. -/
theorem normalize_normalize (hsettled : ∀ table ∈ folding, table.IsSettled) (c : Char) :
    normalize folding (normalize folding c) = normalize folding c := by
  cases folding with
  | none => exact Letter.lower_lower c
  | some table =>
    simp only [normalize]
    rcases table.fold_cases (Letter.lower c) with hself | hentry
    · rw [hself, Letter.lower_lower, hself]
    · obtain ⟨-, hlower, hkey⟩ := hsettled table rfl _ hentry
      rw [hlower, FoldingTable.fold_of_not_mem_keys hkey]

/-! ## Respellings -/

/-- One change of the spelling of a name. -/
inductive Respelling (folding : Option FoldingTable) : Text → Text → Prop
  /-- a character that is no letter is inserted -/
  | insert (before after : Text) {mark : Char} (h : Letter.isLetter mark = false) :
      Respelling folding (before ++ after) (before ++ mark :: after)
  /-- a character that is no letter is deleted -/
  | delete (before after : Text) {mark : Char} (h : Letter.isLetter mark = false) :
      Respelling folding (before ++ mark :: after) (before ++ after)
  /-- a letter is replaced by its cleaned form -/
  | clean (before after : Text) {letter : Char} (h : Letter.isLetter letter = true) :
      Respelling folding (before ++ letter :: after) (before ++ normalize folding letter :: after)

/-- A name comes from another by any number of changes of its spelling. -/
abbrev Respelled (folding : Option FoldingTable) : Text → Text → Prop :=
  Relation.ReflTransGen (Respelling folding)

theorem cleanup_cons_of_not_isLetter {mark : Char} (h : Letter.isLetter mark = false)
    (name : Text) : cleanup folding (mark :: name) = cleanup folding name := by
  have hkept : ¬ isKept mark = true := by
    rw [isKept_iff, h]
    exact Bool.false_ne_true
  rw [cleanup_cons, if_neg hkept]

theorem cleanup_cons_of_isLetter {letter : Char} (h : Letter.isLetter letter = true)
    (name : Text) :
    cleanup folding (letter :: name) = normalize folding letter :: cleanup folding name := by
  rw [cleanup_cons, if_pos (isKept_iff.mpr h)]

/-- One change of the spelling leaves the letters of a name as they are compared with rules. -/
theorem cleanup_of_respelling (hsettled : ∀ table ∈ folding, table.IsSettled)
    {name respelled : Text} (h : Respelling folding name respelled) :
    cleanup folding respelled = cleanup folding name := by
  cases h with
  | insert before after hmark =>
    rw [cleanup_append, cleanup_append, cleanup_cons_of_not_isLetter hmark]
  | delete before after hmark =>
    rw [cleanup_append, cleanup_append, cleanup_cons_of_not_isLetter hmark]
  | clean before after hletter =>
    rw [cleanup_append, cleanup_append, cleanup_cons_of_isLetter hletter,
      cleanup_cons_of_isLetter (isLetter_normalize hsettled hletter), normalize_normalize hsettled]

theorem cleanup_of_respelled (hsettled : ∀ table ∈ folding, table.IsSettled)
    {name respelled : Text} (h : Respelled folding name respelled) :
    cleanup folding respelled = cleanup folding name := by
  induction h with
  | refl => rfl
  | tail _ hlast ih => rw [cleanup_of_respelling hsettled hlast, ih]

theorem Respelling.cons (c : Char) {name respelled : Text} (h : Respelling folding name respelled) :
    Respelling folding (c :: name) (c :: respelled) := by
  cases h with
  | insert before after hmark => exact .insert (c :: before) after hmark
  | delete before after hmark => exact .delete (c :: before) after hmark
  | clean before after hletter => exact .clean (c :: before) after hletter

theorem Respelled.cons (c : Char) {name respelled : Text} (h : Respelled folding name respelled) :
    Respelled folding (c :: name) (c :: respelled) :=
  h.lift (c :: ·) fun _ _ hstep => hstep.cons c

/-- The folded spelling of a name: its letters in their cleaned form, among the other characters. -/
def foldedSpelling (folding : Option FoldingTable) (name : Text) : Text :=
  name.map fun c => if Letter.isLetter c then normalize folding c else c

/-- The folded spelling is a respelling. -/
theorem respelled_foldedSpelling (folding : Option FoldingTable) (name : Text) :
    Respelled folding name (foldedSpelling folding name) := by
  induction name with
  | nil => exact .refl
  | cons c rest ih =>
    rw [foldedSpelling, List.map_cons, ← foldedSpelling]
    split
    case isTrue hletter => exact .head (.clean [] rest hletter) (ih.cons _)
    case isFalse => exact ih.cons c

/-- So are the letters alone, as they are compared with rules. -/
theorem respelled_cleanup (folding : Option FoldingTable) (name : Text) :
    Respelled folding name (cleanup folding name) := by
  induction name with
  | nil => exact .refl
  | cons c rest ih =>
    cases hletter : Letter.isLetter c with
    | false =>
      rw [cleanup_cons_of_not_isLetter hletter]
      exact .head (.delete [] rest hletter) ih
    | true =>
      rw [cleanup_cons_of_isLetter hletter]
      exact .head (.clean [] rest hletter) (ih.cons _)

/-- Names are cleaned to the same letters exactly if they have a respelling in common. -/
theorem cleanup_eq_iff (hsettled : ∀ table ∈ folding, table.IsSettled) {first second : Text} :
    cleanup folding first = cleanup folding second ↔
      ∃ common, Respelled folding first common ∧ Respelled folding second common := by
  constructor
  · intro h
    refine ⟨cleanup folding first, respelled_cleanup folding first, ?_⟩
    rw [h]
    exact respelled_cleanup folding second
  · rintro ⟨common, hfirst, hsecond⟩
    rw [← cleanup_of_respelled hsettled hfirst, cleanup_of_respelled hsettled hsecond]

/-! ## Names with the same codes -/

namespace Encoder

/-- An encoder gives the same answers on two names. -/
structure Alike (encoder : Encoder) (first second : Text) : Prop where
  cleanup_eq : encoder.cleanup first = encoder.cleanup second
  encode_eq : encoder.encode first = encoder.encode second
  soundex_eq : encoder.soundex first = encoder.soundex second
  codes_eq : encoder.codes first = encoder.codes second

/-- Nothing but the letters of a name, as they are compared with rules, has a part in the
answers. -/
theorem alike_of_cleanup_eq {encoder : Encoder} {first second : Text}
    (h : encoder.cleanup first = encoder.cleanup second) : encoder.Alike first second := by
  have hsteps : encoder.steps first = encoder.steps second := by rw [steps, steps, h]
  have hcodes : encoder.codes first = encoder.codes second := run_congr hsteps .every
  constructor
  case cleanup_eq => exact h
  case encode_eq => rw [encode, encode, run_congr hsteps .first]
  case soundex_eq => rw [soundex, soundex, hcodes]
  case codes_eq => exact hcodes

/-- Over the Daitch-Mokotoff rules, and over all rules with a settled folding table, an encoder
gives the same answers on a name and on every respelling of it; so cleaning a name reaches its end
in one pass, and a name with accents has the codes of its folded spelling. -/
theorem alike_of_respelled {encoder : Encoder}
    (hrules : encoder.rules = Bundled.ruleSet ∨ encoder.rules.folding.IsSettled) (name : Text) :
    (∀ respelled, Respelled encoder.foldingTable name respelled → encoder.Alike name respelled) ∧
      encoder.cleanup (encoder.cleanup name) = encoder.cleanup name ∧
      encoder.Alike name (foldedSpelling encoder.foldingTable name) := by
  have htable : encoder.rules.folding.IsSettled := by
    rcases hrules with hbundled | hsettled
    · rw [hbundled]
      exact FoldingTable.isSettled_bundled
    · exact hsettled
  have hsettled : ∀ table ∈ encoder.foldingTable, table.IsSettled := by
    intro table hmem
    rw [foldingTable, Option.mem_ite_none_right] at hmem
    obtain ⟨-, hsome⟩ := hmem
    rwa [← Option.some_inj.mp hsome]
  have halike : ∀ respelled, Respelled encoder.foldingTable name respelled →
      encoder.Alike name respelled := by
    intro respelled h
    exact alike_of_cleanup_eq ((cleanup_eq_iff hsettled).mpr ⟨respelled, h, .refl⟩)
  refine ⟨halike, ?_, halike _ (respelled_foldedSpelling _ name)⟩
  exact cleanup_of_respelled hsettled (respelled_cleanup _ name)

/-- `Łódź` in small letters, with some of its accents and a stray hyphen. -/
theorem alike_of_respelled_lodz :
    Respelled standard.foldingTable ['Ł', 'ó', 'd', 'ź'] ['l', 'ó', '-', 'd', 'z'] ∧
      standard.Alike ['Ł', 'ó', 'd', 'ź'] ['l', 'ó', '-', 'd', 'z'] := by
  have hl : normalize standard.foldingTable 'Ł' = 'l' := by decide +kernel
  have hz : normalize standard.foldingTable 'ź' = 'z' := by decide +kernel
  have hfirst : Respelling standard.foldingTable ['Ł', 'ó', 'd', 'ź'] ['l', 'ó', 'd', 'ź'] := by
    rw [← hl]
    exact .clean [] ['ó', 'd', 'ź'] (by decide +kernel)
  have hlast : Respelling standard.foldingTable ['l', 'ó', 'd', 'ź'] ['l', 'ó', 'd', 'z'] := by
    rw [← hz]
    exact .clean ['l', 'ó', 'd'] [] (by decide +kernel)
  have hmark : Respelling standard.foldingTable ['l', 'ó', 'd', 'z'] ['l', 'ó', '-', 'd', 'z'] :=
    .insert ['l', 'ó'] ['d', 'z'] (by decide +kernel)
  have hrespelled := ((Relation.ReflTransGen.single hfirst).tail hlast).tail hmark
  have hrules : standard.rules = Bundled.ruleSet ∨ standard.rules.folding.IsSettled := Or.inl rfl
  obtain ⟨halike, -⟩ := alike_of_respelled hrules ['Ł', 'ó', 'd', 'ź']
  exact ⟨hrespelled, halike _ hrespelled⟩

end Encoder

end Soundalike
