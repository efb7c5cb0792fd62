import Mathlib.Data.List.Infix
import Mathlib.Data.List.Nodup
import Mathlib.Logic.Relation
import Soundalike.Encoder
import Soundalike.Proofs.LongestMatch

set_option autoImplicit false

/-!
# What the codes of a name depend on

Of a rule source, a name meets those rules only whose patterns occur among its letters, and of the
rules for one pattern only the first.  Rules that agree in that much cut the name into the same
pieces (`piecesFrom_congr`), and from there on nothing is looked up any more.  So it does not matter
where in a source a rule stands, whether its pattern is given again later on, and what is stated for
letters that the name does not have (`Edit`).
-/

namespace Soundalike

namespace Source

/-- The statements of a source; a source with a line that is no statement has none. -/
def stated (source : Text) : List Statement := (statements source).toOption.getD []

/-- The rules that a source states, in the order in which they are written. -/
def rules (source : Text) : List Rule := (stated source).filterMap Statement.rule?

end Source

theorem RuleSet.parse_eq_ok_iff_statements {source : Text} {rules : RuleSet} :
    parse source = .ok rules ↔
      ∃ stated, Source.statements source = .ok stated ∧ ofStatements stated = rules := by
  rw [parse]
  cases Source.statements source with
  | error error =>
    constructor
    · intro h
      cases h
    · rintro ⟨stated, h, -⟩
      cases h
  | ok stated =>
    constructor
    · intro h
      exact ⟨stated, rfl, Except.ok.inj h⟩
    · rintro ⟨_, ⟨⟩, rfl⟩
      rfl

theorem RuleSet.statements_of_parse_error {source : Text} {error : SourceError}
    (h : parse source = .error error) : Source.statements source = .error error := by
  rw [parse] at h
  cases hread : Source.statements source with
  | ok stated =>
    rw [hread] at h
    cases h
  | error found =>
    rw [hread] at h
    exact congrArg Except.error (Except.error.inj h)

theorem RuleSet.parse_eq_ok_iff {source : Text} {parsed : RuleSet} :
    parse source = .ok parsed ↔
      (Source.statements source).toBool = true ∧ parsed = .ofStatements (Source.stated source) := by
  rw [parse, Source.stated]
  cases Source.statements source with
  | error error =>
    constructor
    · intro h
      cases h
    · rintro ⟨h, -⟩
      cases h
  | ok statements =>
    constructor
    · rintro ⟨⟩
      exact ⟨rfl, rfl⟩
    · rintro ⟨-, rfl⟩
      rfl

theorem Source.table_rules_of_parse {source : Text} {parsed : RuleSet}
    (h : RuleSet.parse source = .ok parsed) : parsed.table.rules = Source.rules source := by
  obtain ⟨-, rfl⟩ := RuleSet.parse_eq_ok_iff.mp h
  rfl

namespace Rule

/-! ## Agreement on letters -/

/-- Two lists of rules agree on letters if for every pattern that occurs among the letters the same
rule comes first in both, or none has it in either. -/
def AgreeOn (letters : Text) (first second : List Rule) : Prop :=
  ∀ pattern, pattern ≠ [] → pattern <:+: letters →
    firstFor? first pattern = firstFor? second pattern

/-- The patterns that occur among letters are the beginnings of their ends. -/
instance (letters : Text) (first second : List Rule) : Decidable (AgreeOn letters first second) :=
  decidable_of_iff
    (∀ tail ∈ letters.tails, ∀ pattern ∈ tail.inits,
      pattern ≠ [] → firstFor? first pattern = firstFor? second pattern) <| by
    simp only [List.mem_tails, List.mem_inits, AgreeOn, List.infix_iff_prefix_suffix]
    constructor
    · rintro h pattern hne ⟨tail, hpattern, htail⟩
      exact h tail htail pattern hpattern hne
    · intro h tail htail pattern hpattern hne
      exact h pattern hne ⟨tail, hpattern, htail⟩

theorem AgreeOn.refl (letters : Text) (rules : List Rule) : AgreeOn letters rules rules :=
  fun _ _ _ => rfl

theorem AgreeOn.symm {letters : Text} {first second : List Rule}
    (h : AgreeOn letters first second) : AgreeOn letters second first :=
  fun pattern hne hoccurs => (h pattern hne hoccurs).symm

theorem AgreeOn.trans {letters : Text} {first second third : List Rule}
    (h : AgreeOn letters first second) (h' : AgreeOn letters second third) :
    AgreeOn letters first third :=
  fun pattern hne hoccurs => (h pattern hne hoccurs).trans (h' pattern hne hoccurs)

/-! ## Changes that keep the agreement -/

theorem firstFor?_append (first second : List Rule) (pattern : Text) :
    firstFor? (first ++ second) pattern =
      (firstFor? first pattern).or (firstFor? second pattern) :=
  List.find?_append

/-- Where no pattern is given twice, the rule for a pattern is the one that has it. -/
theorem firstFor?_eq_some_iff_of_nodup {rules : List Rule} (h : (rules.map pattern).Nodup)
    {letters : Text} {rule : Rule} :
    firstFor? rules letters = some rule ↔ rule ∈ rules ∧ rule.pattern = letters := by
  constructor
  · intro hfirst
    exact ⟨mem_of_firstFor? hfirst, pattern_of_firstFor? hfirst⟩
  · rintro ⟨hmem, hpattern⟩
    cases hfirst : firstFor? rules letters with
    | none => exact absurd hpattern (firstFor?_eq_none_iff.mp hfirst rule hmem)
    | some found =>
      have hsame : found.pattern = rule.pattern := (pattern_of_firstFor? hfirst).trans hpattern.symm
      rw [List.inj_on_of_nodup_map h (mem_of_firstFor? hfirst) hmem hsame]

theorem firstFor?_perm {first second : List Rule} (hperm : first.Perm second)
    (hnodup : (first.map pattern).Nodup) (letters : Text) :
    firstFor? first letters = firstFor? second letters := by
  apply Option.ext
  intro rule
  have hnodup' : (second.map pattern).Nodup := (hperm.map pattern).nodup_iff.mp hnodup
  rw [firstFor?_eq_some_iff_of_nodup hnodup, firstFor?_eq_some_iff_of_nodup hnodup', hperm.mem_iff]

/-- One change of a list of rules that these letters do not notice. -/
inductive Edit (letters : Text) : List Rule → List Rule → Prop
  /-- rules with different patterns, next to one another, are put in another order -/
  | reorder (before after : List Rule) {block reordered : List Rule} (hperm : block.Perm reordered)
      (hnodup : (block.map pattern).Nodup) :
      Edit letters (before ++ block ++ after) (before ++ reordered ++ after)
  /-- a pattern is given again, after a rule that has it -/
  | again (before after : List Rule) (rule : Rule)
      (h : ∃ earlier ∈ before, earlier.pattern = rule.pattern) :
      Edit letters (before ++ after) (before ++ rule :: after)
  /-- a rule is added whose pattern does not occur among the letters -/
  | absent (before after : List Rule) (rule : Rule) (h : ¬ rule.pattern <:+: letters) :
      Edit letters (before ++ after) (before ++ rule :: after)

theorem agreeOn_of_edit {letters : Text} {first second : List Rule}
    (h : Edit letters first second) : AgreeOn letters first second := by
  intro pattern _ hoccurs
  cases h with
  | reorder before after hperm hnodup =>
    rw [firstFor?_append, firstFor?_append, firstFor?_append, firstFor?_append,
      firstFor?_perm hperm hnodup]
  | again before after rule hearlier =>
    rw [firstFor?_append, firstFor?_append]
    by_cases hrule : rule.pattern = pattern
    · obtain ⟨earlier, hmem, hpattern⟩ := hearlier
      cases hfirst : firstFor? before pattern with
      | none => exact absurd (hpattern.trans hrule) (firstFor?_eq_none_iff.mp hfirst earlier hmem)
      | some found => rfl
    · rw [firstFor?_cons_of_ne hrule]
  | absent before after rule habsent =>
    have hrule : rule.pattern ≠ pattern := by
      rintro rfl
      exact habsent hoccurs
    rw [firstFor?_append, firstFor?_append, firstFor?_cons_of_ne hrule]

/-- Any number of changes, each made or taken back, keeps the agreement. -/
theorem agreeOn_of_eqvGen_edit {letters : Text} {first second : List Rule}
    (h : Relation.EqvGen (Edit letters) first second) : AgreeOn letters first second := by
  induction h with
  | rel first second hedit => exact agreeOn_of_edit hedit
  | refl rules => exact AgreeOn.refl letters rules
  | symm first second _ ih => exact ih.symm
  | trans first second third _ _ ih ih' => exact ih.trans ih'

end Rule

/-! ## The pieces of a name -/

namespace RuleTable

variable {first second : RuleTable}

theorem find?_congr {ahead : Text}
    (h : ∀ pattern, pattern ≠ [] → pattern <+: ahead →
      Rule.firstFor? first.rules pattern = Rule.firstFor? second.rules pattern) :
    first.find? ahead = second.find? ahead := by
  apply Option.ext
  intro rule
  rw [find?_eq_some_iff, find?_eq_some_iff, Rule.isLongestMatch_congr h]

/-- Tables that find the same rules at all places cut a name into the same pieces. -/
theorem piecesFrom_congr {position : Nat} {previous : Option Char} {ahead : Text}
    (h : ∀ rest, rest <:+ ahead → first.find? rest = second.find? rest) :
    first.piecesFrom position previous ahead = second.piecesFrom position previous ahead := by
  fun_induction piecesFrom first position previous ahead with
  | case1 => rw [piecesFrom_nil]
  | case2 position previous letter rest hnone ih =>
    have hsecond : second.find? (letter :: rest) = none := by
      rw [← h _ (List.suffix_refl _), hnone]
    have hrest : ∀ later, later <:+ rest → first.find? later = second.find? later := by
      intro later hlater
      exact h later (hlater.trans (List.suffix_cons letter rest))
    rw [ih hrest, piecesFrom_of_none hsecond]
  | case3 position previous letter rest rule hsome ih =>
    have hsecond : second.find? (letter :: rest) = some rule := by
      rw [← h _ (List.suffix_refl _), hsome]
    have hrest : ∀ later, later <:+ rest.drop (rule.length - 1) →
        first.find? later = second.find? later := by
      intro later hlater
      exact h later ((hlater.trans (List.drop_suffix _ rest)).trans (List.suffix_cons letter rest))
    rw [ih hrest, piecesFrom_of_some hsecond]

theorem steps_congr {letters : Text} (h : Rule.AgreeOn letters first.rules second.rules) :
    first.steps letters = second.steps letters := by
  have hfind : ∀ rest, rest <:+ letters → first.find? rest = second.find? rest := by
    intro rest hrest
    apply find?_congr
    intro pattern hne hpattern
    exact h pattern hne (hpattern.isInfix.trans hrest.isInfix)
  rw [steps, steps, pieces, pieces, piecesFrom_congr hfind]

end RuleTable

/-! ## The codes of a name -/

namespace Encoder

/-- After the scan nothing is looked up any more. -/
theorem run_congr {first second : Encoder} {firstName secondName : Text}
    (h : first.steps firstName = second.steps secondName) (choice : Choice) :
    first.run choice firstName = second.run choice secondName := by
  rw [run, run, h]

/-- Over sources whose rules agree on the letters of a name, the name has the same code and the same
codes; so it has over sources that differ by changes that its letters do not notice. -/
theorem codes_eq_of_agreeOn {first second : Encoder} {firstSource secondSource : Text}
    (hfirst : RuleSet.parse firstSource = .ok first.rules)
    (hsecond : RuleSet.parse secondSource = .ok second.rules) {firstName secondName : Text}
    (hletters : first.cleanup firstName = second.cleanup secondName) :
    (Rule.AgreeOn (first.cleanup firstName) (Source.rules firstSource)
        (Source.rules secondSource) →
      first.encode firstName = second.encode secondName ∧
        first.codes firstName = second.codes secondName) ∧
    (Relation.EqvGen (Rule.Edit (first.cleanup firstName)) (Source.rules firstSource)
        (Source.rules secondSource) →
      first.encode firstName = second.encode secondName ∧
        first.codes firstName = second.codes secondName) := by
  have hagree : Rule.AgreeOn (first.cleanup firstName) (Source.rules firstSource)
        (Source.rules secondSource) →
      first.encode firstName = second.encode secondName ∧
        first.codes firstName = second.codes secondName := by
    intro h
    rw [← Source.table_rules_of_parse hfirst, ← Source.table_rules_of_parse hsecond] at h
    have hsteps : first.steps firstName = second.steps secondName := by
      rw [steps, steps, ← hletters, RuleTable.steps_congr h]
    refine ⟨?_, run_congr hsteps .every⟩
    rw [encode, encode, run_congr hsteps .first]
  exact ⟨hagree, fun h => hagree (Rule.agreeOn_of_eqvGen_edit h)⟩

/-- The second source has the rules of the first in another order, and then another one for `sch`,
which does not count, neither for `Schuß`, folded, nor for `schus`. -/
theorem codes_eq_of_agreeOn_schuss :
    ∃ first second : Encoder,
      RuleSet.parse "s 4 4 4\nsch 4|5 4 4\nu 0 1 2\nß=s".toList = .ok first.rules ∧
      RuleSet.parse "u 0 1 2\nsch 4|5 4 4\ns 4 4 4\nsch 6 6 6".toList = .ok second.rules ∧
      first.encode "Schuß".toList = second.encode "schus".toList ∧
      first.codes "Schuß".toList = second.codes "schus".toList := by
  let firstSource := "s 4 4 4\nsch 4|5 4 4\nu 0 1 2\nß=s".toList
  let secondSource := "u 0 1 2\nsch 4|5 4 4\ns 4 4 4\nsch 6 6 6".toList
  let first : Encoder := ⟨.ofStatements (Source.stated firstSource), true⟩
  let second : Encoder := ⟨.ofStatements (Source.stated secondSource), false⟩
  have hfirst : RuleSet.parse firstSource = .ok first.rules :=
    RuleSet.parse_eq_ok_iff.mpr ⟨by decide +kernel, rfl⟩
  have hsecond : RuleSet.parse secondSource = .ok second.rules :=
    RuleSet.parse_eq_ok_iff.mpr ⟨by decide +kernel, rfl⟩
  have hletters : first.cleanup "Schuß".toList = second.cleanup "schus".toList := by
    decide +kernel
  obtain ⟨hagree, hedit⟩ := codes_eq_of_agreeOn hfirst hsecond hletters
  obtain ⟨-, hcodes⟩ := hagree (by decide +kernel)
  let reordered := (Source.rules secondSource).take 3
  let again := (Source.rules secondSource).getLast (by decide +kernel)
  have hsplit : Source.rules secondSource = reordered ++ [again] := by decide +kernel
  have hreorder : Rule.Edit (first.cleanup "Schuß".toList)
      ([] ++ Source.rules firstSource ++ []) ([] ++ reordered ++ []) :=
    .reorder [] [] (by decide +kernel) (by decide +kernel)
  have hagain : Rule.Edit (first.cleanup "Schuß".toList) (reordered ++ []) (reordered ++ [again]) :=
    .again reordered [] again (by decide +kernel)
  simp only [List.nil_append, List.append_nil] at hreorder hagain
  rw [← hsplit] at hagain
  obtain ⟨hcode, -⟩ := hedit (.trans _ _ _ (.rel _ _ hreorder) (.rel _ _ hagain))
  exact ⟨first, second, hfirst, hsecond, hcode, hcodes⟩

end Encoder

end Soundalike
