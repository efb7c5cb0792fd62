import Mathlib.Data.List.Basic
import Soundalike.Scan

set_option autoImplicit false

/-!
# The rule of the longest pattern

Grouping and ordering rules moves them about and changes none: whatever a table finds is one of the
rules it was made of (`mem_rules_of_find?`), and every step of a scan applies such a rule by one of
its three fields (`applies_of_mem_steps`).  So what holds of every field of every rule holds of all
the alternatives that a name meets.

A table looks for a rule among those of one first letter only, in an order of its own.  What it
finds depends on neither.  Ordering rules by length is stable (`filter_length_longestFirst`), so for
each pattern the rule that was given first stays the first, and the rule that is found is that of
the longest pattern with which the letters ahead begin (`find?_eq_some_iff`).  Nor does the table
miss a rule: it finds one wherever one matches (`find?_eq_none_iff`).
-/

namespace Soundalike

namespace Rule

/-- The three fields of a rule. -/
def fields (rule : Rule) : List Alternatives := [rule.atStart, rule.beforeVowel, rule.elsewhere]

theorem alternatives_mem_fields (rule : Rule) (ahead : Text) (atWordStart : Bool) :
    rule.alternatives ahead atWordStart ∈ rule.fields := by
  unfold alternatives
  split
  · exact List.mem_cons_self
  · split
    · exact List.mem_cons_of_mem _ List.mem_cons_self
    · exact List.mem_cons_of_mem _ (List.mem_cons_of_mem _ List.mem_cons_self)

/-- The first of some rules that has a given pattern. -/
def firstFor? (rules : List Rule) (pattern : Text) : Option Rule :=
  rules.find? (·.pattern = pattern)

theorem pattern_of_firstFor? {rules : List Rule} {pattern : Text} {rule : Rule}
    (h : firstFor? rules pattern = some rule) : rule.pattern = pattern := by
  simpa using List.find?_some h

theorem mem_of_firstFor? {rules : List Rule} {pattern : Text} {rule : Rule}
    (h : firstFor? rules pattern = some rule) : rule ∈ rules :=
  List.mem_of_find?_eq_some h

theorem firstFor?_eq_none_iff {rules : List Rule} {pattern : Text} :
    firstFor? rules pattern = none ↔ ∀ rule ∈ rules, rule.pattern ≠ pattern := by
  simp [firstFor?]

/-- The first rule for a pattern is one that has it, behind rules that have others. -/
theorem firstFor?_eq_some_iff_append {rules : List Rule} {pattern : Text} {rule : Rule} :
    firstFor? rules pattern = some rule ↔
      rule.pattern = pattern ∧ ∃ before after, rules = before ++ rule :: after ∧
        ∀ earlier ∈ before, earlier.pattern ≠ pattern := by
  simp only [firstFor?, List.find?_eq_some_iff_append, decide_eq_true_eq, Bool.not_eq_true',
    decide_eq_false_iff_not]

theorem firstFor?_cons_of_eq (rule : Rule) (rules : List Rule) :
    firstFor? (rule :: rules) rule.pattern = some rule := by
  simp [firstFor?]

theorem firstFor?_cons_of_ne {rule : Rule} {pattern : Text} (h : rule.pattern ≠ pattern)
    (rules : List Rule) : firstFor? (rule :: rules) pattern = firstFor? rules pattern := by
  simp [firstFor?, h]

/-- Leaving out rules with other patterns changes nothing. -/
theorem firstFor?_filter {rules : List Rule} {pattern : Text} {p : Rule → Bool}
    (h : ∀ rule : Rule, rule.pattern = pattern → p rule = true) :
    firstFor? (rules.filter p) pattern = firstFor? rules pattern := by
  rw [firstFor?, firstFor?, List.find?_filter]
  congr 1
  funext rule
  by_cases hpattern : rule.pattern = pattern
  · simp [hpattern, h rule hpattern]
  · simp [hpattern]

/-- A rule that matches starts with the first of the letters ahead. -/
theorem first_eq_of_prefix {rule : Rule} {letter : Char} {rest : Text}
    (h : rule.pattern <+: letter :: rest) : rule.first = letter :=
  List.IsPrefix.head h rule.pattern_ne_nil

/-! ## Ordering by length -/

theorem insertByLength_perm (rule : Rule) (rules : List Rule) :
    (rule.insertByLength rules).Perm (rule :: rules) := by
  induction rules with
  | nil => exact List.Perm.refl _
  | cons next rest ih =>
    rw [insertByLength]
    split
    · exact List.Perm.refl _
    · exact (ih.cons next).trans (List.Perm.swap rule next rest)

theorem longestFirst_perm (rules : List Rule) : (longestFirst rules).Perm rules := by
  induction rules with
  | nil => exact List.Perm.refl _
  | cons rule rest ih =>
    have hrest : (rule :: longestFirst rest).Perm (rule :: rest) := ih.cons rule
    exact (insertByLength_perm rule (longestFirst rest)).trans hrest

/-- No rule stands before a longer one. -/
def IsLongestFirst (rules : List Rule) : Prop :=
  rules.Pairwise fun before after => after.length ≤ before.length

theorem isLongestFirst_insertByLength {rule : Rule} {rules : List Rule}
    (h : IsLongestFirst rules) : IsLongestFirst (rule.insertByLength rules) := by
  induction rules with
  | nil => exact List.pairwise_singleton _ _
  | cons next rest ih =>
    obtain ⟨hnext, hrest⟩ := List.pairwise_cons.mp h
    rw [insertByLength]
    split
    · next hle =>
      refine List.pairwise_cons.mpr ⟨?_, h⟩
      intro after hafter
      rcases List.mem_cons.mp hafter with rfl | hmem
      · exact hle
      · exact Nat.le_trans (hnext after hmem) hle
    · next hlt =>
      refine List.pairwise_cons.mpr ⟨?_, ih hrest⟩
      intro after hafter
      rcases List.mem_cons.mp ((insertByLength_perm rule rest).mem_iff.mp hafter) with rfl | hmem
      · exact Nat.le_of_not_le hlt
      · exact hnext after hmem

theorem isLongestFirst_longestFirst (rules : List Rule) : IsLongestFirst (longestFirst rules) := by
  induction rules with
  | nil => exact List.Pairwise.nil
  | cons rule rest ih => exact isLongestFirst_insertByLength ih

/-- Where no rule stands before a longer one, the first is one of the longest. -/
theorem IsLongestFirst.length_le_of_mem {rule other : Rule} {rules : List Rule}
    (h : IsLongestFirst (rule :: rules)) (hother : other ∈ rule :: rules) :
    other.length ≤ rule.length := by
  rcases List.mem_cons.mp hother with rfl | hmem
  · exact Nat.le_refl _
  · exact (List.pairwise_cons.mp h).left other hmem

/-- A rule is put behind rules of other lengths only. -/
theorem filter_length_insertByLength (rule : Rule) (rules : List Rule) (size : Nat) :
    (rule.insertByLength rules).filter (·.length = size) =
      (rule :: rules).filter (·.length = size) := by
  induction rules with
  | nil => rfl
  | cons next rest ih =>
    rw [insertByLength]
    split
    · rfl
    · next hlt =>
      rw [List.filter_cons, ih]
      -- the two differ in length, so at most one of them passes the filter
      by_cases hnext : next.length = size
      · have hrule : rule.length ≠ size := by omega
        simp [hnext, hrule]
      · simp [List.filter_cons, hnext]

/-- Rules of one length keep their order. -/
theorem filter_length_longestFirst (rules : List Rule) (size : Nat) :
    (longestFirst rules).filter (·.length = size) = rules.filter (·.length = size) := by
  induction rules with
  | nil => rfl
  | cons rule rest ih =>
    have hinsert := filter_length_insertByLength rule (longestFirst rest) size
    rw [List.filter_cons, ih] at hinsert
    rw [List.filter_cons]
    exact hinsert

theorem firstFor?_longestFirst (rules : List Rule) (pattern : Text) :
    firstFor? (longestFirst rules) pattern = firstFor? rules pattern := by
  have hlength : ∀ rule : Rule, rule.pattern = pattern →
      decide (rule.length = pattern.length) = true := by
    rintro rule rfl
    exact decide_eq_true rfl
  rw [← firstFor?_filter hlength, filter_length_longestFirst, firstFor?_filter hlength]

/-! ## The longest match -/

/-- The rule is the first for its pattern, and its pattern is the longest with a rule of those with
which the letters ahead begin. -/
structure IsLongestMatch (rules : List Rule) (ahead : Text) (rule : Rule) : Prop where
  matches_ahead : rule.pattern <+: ahead
  first_for_pattern : firstFor? rules rule.pattern = some rule
  none_longer : ∀ longer, longer <+: ahead → rule.length < longer.length →
    firstFor? rules longer = none

/-- The longest match depends on the rules for the beginnings of the letters ahead only. -/
theorem IsLongestMatch.congr {first second : List Rule} {ahead : Text} {rule : Rule}
    (hsame : ∀ pattern, pattern ≠ [] → pattern <+: ahead →
      firstFor? first pattern = firstFor? second pattern)
    (h : IsLongestMatch first ahead rule) : IsLongestMatch second ahead rule where
  matches_ahead := h.matches_ahead
  first_for_pattern := by
    rw [← hsame _ rule.pattern_ne_nil h.matches_ahead]
    exact h.first_for_pattern
  none_longer longer hlonger hlt := by
    have hne : longer ≠ [] := List.ne_nil_of_length_pos (Nat.zero_lt_of_lt hlt)
    rw [← hsame _ hne hlonger]
    exact h.none_longer longer hlonger hlt

theorem isLongestMatch_congr {first second : List Rule} {ahead : Text} {rule : Rule}
    (hsame : ∀ pattern, pattern ≠ [] → pattern <+: ahead →
      firstFor? first pattern = firstFor? second pattern) :
    IsLongestMatch first ahead rule ↔ IsLongestMatch second ahead rule :=
  ⟨.congr hsame, .congr fun pattern hne hahead => (hsame pattern hne hahead).symm⟩

/-- Of the rules that match somewhere, those of one length have one pattern. -/
theorem pattern_eq_of_length_eq {first second : Rule} {ahead : Text}
    (hfirst : first.pattern <+: ahead) (hsecond : second.pattern <+: ahead)
    (h : first.length = second.length) : first.pattern = second.pattern :=
  (List.prefix_of_prefix_length_le hfirst hsecond (Nat.le_of_eq h)).eq_of_length h

/-- The longest match is the earliest of the longest rules that match. -/
theorem isLongestMatch_iff_append {rules : List Rule} {ahead : Text} {rule : Rule} :
    IsLongestMatch rules ahead rule ↔
      ∃ before after, rules = before ++ rule :: after ∧ rule.pattern <+: ahead ∧
        (∀ other ∈ rules, other.pattern <+: ahead → other.length ≤ rule.length) ∧
        ∀ earlier ∈ before, earlier.pattern <+: ahead → earlier.length ≠ rule.length := by
  constructor
  · rintro ⟨hmatch, hfirst, hlonger⟩
    obtain ⟨-, before, after, hrules, hbefore⟩ := firstFor?_eq_some_iff_append.mp hfirst
    refine ⟨before, after, hrules, hmatch, ?_, ?_⟩
    · intro other hother hahead
      by_contra hlt
      exact firstFor?_eq_none_iff.mp (hlonger _ hahead (Nat.lt_of_not_le hlt)) other hother rfl
    · intro earlier hearlier hahead hlength
      exact hbefore earlier hearlier (pattern_eq_of_length_eq hahead hmatch hlength)
  · rintro ⟨before, after, hrules, hmatch, hlongest, hbefore⟩
    refine ⟨hmatch, firstFor?_eq_some_iff_append.mpr ⟨rfl, before, after, hrules, ?_⟩, ?_⟩
    · intro earlier hearlier hpattern
      exact hbefore earlier hearlier (hpattern ▸ hmatch) (congrArg List.length hpattern)
    · intro longer hahead hlt
      rw [firstFor?_eq_none_iff]
      rintro other hother rfl
      exact absurd (hlongest other hother hahead) (Nat.not_le_of_lt hlt)

/-- A rule with which the letters ahead begin is the longest match where it stands first and no
rule is longer. -/
theorem isLongestMatch_cons_iff {next rule : Rule} {rest : List Rule} {ahead : Text}
    (hlongest : ∀ other ∈ next :: rest, other.length ≤ next.length)
    (hmatch : next.pattern <+: ahead) :
    IsLongestMatch (next :: rest) ahead rule ↔ next = rule := by
  constructor
  · intro h
    have hle : rule.length ≤ next.length := hlongest rule (mem_of_firstFor? h.first_for_pattern)
    have hlength : rule.length = next.length := by
      rcases Nat.lt_or_eq_of_le hle with hlt | heq
      · have hnone := h.none_longer next.pattern hmatch hlt
        rw [firstFor?_cons_of_eq] at hnone
        cases hnone
      · exact heq
    have hpattern : rule.pattern = next.pattern :=
      pattern_eq_of_length_eq h.matches_ahead hmatch hlength
    have hfirst := h.first_for_pattern
    rw [hpattern, firstFor?_cons_of_eq] at hfirst
    exact Option.some.inj hfirst
  · rintro rfl
    refine ⟨hmatch, firstFor?_cons_of_eq next rest, ?_⟩
    intro longer _ hlt
    rw [firstFor?_eq_none_iff]
    rintro other hother rfl
    exact absurd (hlongest other hother) (Nat.not_le_of_lt hlt)

/-- Where no rule stands before a longer one, the first rule that matches is the longest match. -/
theorem find?_matchesAt_eq_some_iff {rules : List Rule} (hsorted : IsLongestFirst rules)
    {ahead : Text} {rule : Rule} :
    rules.find? (fun candidate => candidate.matchesAt ahead) = some rule ↔
      IsLongestMatch rules ahead rule := by
  induction rules with
  | nil =>
    constructor
    · intro h
      cases h
    · intro h
      cases h.first_for_pattern
  | cons next rest ih =>
    cases hmatch : next.matchesAt ahead with
    | true =>
      have hlongest : ∀ other ∈ next :: rest, other.length ≤ next.length :=
        fun _ => hsorted.length_le_of_mem
      rw [List.find?_cons, hmatch, isLongestMatch_cons_iff hlongest (matchesAt_iff.mp hmatch),
        Option.some.injEq]
    | false =>
      have hskip : ∀ pattern, pattern ≠ [] → pattern <+: ahead →
          firstFor? rest pattern = firstFor? (next :: rest) pattern := by
        intro pattern _ hahead
        rw [firstFor?_cons_of_ne]
        rintro rfl
        rw [matchesAt_iff.mpr hahead] at hmatch
        cases hmatch
      rw [List.find?_cons, hmatch, ih (List.pairwise_cons.mp hsorted).right,
        isLongestMatch_congr hskip]

end Rule

namespace RuleTable

variable {table : RuleTable}

/-! ## The rules that a scan applies -/

theorem mem_rules_of_mem_candidates {letter : Char} {rule : Rule}
    (h : rule ∈ table.candidates letter) : rule ∈ table.rules := by
  unfold candidates at h
  cases hgroup : table.groups.lookup letter with
  | none =>
    rw [hgroup] at h
    cases h
  | some group =>
    rw [hgroup, Option.getD_some] at h
    obtain ⟨before, after, hgroups, -⟩ := List.lookup_eq_some_iff.mp hgroup
    have hmem : (letter, group) ∈ Rule.groups table.rules := by
      rw [← table.groups_eq, hgroups]
      exact List.mem_append_right _ List.mem_cons_self
    obtain ⟨first, _, hfirst⟩ := List.mem_map.mp hmem
    obtain ⟨-, rfl⟩ := Prod.mk.inj hfirst
    exact (List.mem_filter.mp ((Rule.longestFirst_perm _).mem_iff.mp h)).left

/-- A rule that is found is a rule of the table. -/
theorem mem_rules_of_find? {ahead : Text} {rule : Rule} (h : table.find? ahead = some rule) :
    rule ∈ table.rules := by
  cases ahead with
  | nil => cases h
  | cons letter rest =>
    rw [find?] at h
    exact mem_rules_of_mem_candidates (List.mem_of_find?_eq_some h)

/-- A step applies a rule of the table by one of its fields. -/
def Applies (table : RuleTable) (step : Step) : Prop :=
  step.rule ∈ table.rules ∧ step.alternatives ∈ step.rule.fields

theorem applies_of_mem_piecesFrom {position : Nat} {previous : Option Char} {ahead : Text}
    {step : Step} (h : .matched step ∈ table.piecesFrom position previous ahead) :
    table.Applies step := by
  fun_induction piecesFrom table position previous ahead with
  | case1 => cases h
  | case2 position previous letter rest hnone ih =>
    rcases List.mem_cons.mp h with heq | hmem
    · cases heq
    · exact ih hmem
  | case3 position previous letter rest rule hsome ih =>
    rcases List.mem_cons.mp h with heq | hmem
    · obtain rfl := Piece.matched.inj heq
      exact ⟨mem_rules_of_find? hsome, rule.alternatives_mem_fields _ _⟩
    · exact ih hmem

theorem applies_of_mem_steps {letters : Text} {step : Step} (h : step ∈ table.steps letters) :
    table.Applies step := by
  obtain ⟨piece, hpiece, hstep⟩ := List.mem_filterMap.mp h
  cases piece with
  | skipped letter => cases hstep
  | matched other =>
    obtain rfl := Option.some.inj hstep
    exact applies_of_mem_piecesFrom hpiece

/-! ## Looking up -/

theorem lookup_graph_of_not_mem {α : Type} {f : Char → α} {letter : Char} {letters : List Char}
    (h : letter ∉ letters) : (letters.map fun key => (key, f key)).lookup letter = none := by
  rw [List.lookup_eq_none_iff]
  intro entry hentry
  obtain ⟨key, hkey, rfl⟩ := List.mem_map.mp hentry
  exact bne_iff_ne.mpr fun heq => h (heq ▸ hkey)

/-- The candidates for a letter are the rules that start with it. -/
theorem candidates_eq_longestFirst (letter : Char) :
    table.candidates letter = Rule.longestFirst (table.rules.filter (·.first = letter)) := by
  rw [candidates, table.groups_eq, Rule.groups]
  by_cases hletter : letter ∈ distinct (table.rules.map Rule.first)
  · rw [List.lookup_graph _ hletter]
    rfl
  · have hempty : table.rules.filter (·.first = letter) = [] := by
      rw [List.filter_eq_nil_iff]
      intro rule hrule hfirst
      apply hletter
      rw [mem_distinct, ← of_decide_eq_true hfirst]
      exact List.mem_map_of_mem hrule
    rw [lookup_graph_of_not_mem hletter, hempty]
    rfl

theorem firstFor?_candidates (letter : Char) (rest : Text) :
    Rule.firstFor? (table.candidates letter) (letter :: rest) =
      Rule.firstFor? table.rules (letter :: rest) := by
  have hfirst : ∀ rule : Rule, rule.pattern = letter :: rest →
      decide (rule.first = letter) = true := by
    intro rule hpattern
    simp [Rule.first, hpattern]
  rw [candidates_eq_longestFirst, Rule.firstFor?_longestFirst, Rule.firstFor?_filter hfirst]

/-- The rule that is found is the longest match among all rules of the table. -/
theorem find?_eq_some_iff {ahead : Text} {rule : Rule} :
    table.find? ahead = some rule ↔ Rule.IsLongestMatch table.rules ahead rule := by
  cases ahead with
  | nil =>
    constructor
    · intro h
      cases h
    · intro h
      exact absurd (List.prefix_nil.mp h.matches_ahead) rule.pattern_ne_nil
  | cons letter rest =>
    have hsorted : Rule.IsLongestFirst (table.candidates letter) := by
      rw [candidates_eq_longestFirst]
      exact Rule.isLongestFirst_longestFirst _
    have hcandidates : ∀ pattern, pattern ≠ [] → pattern <+: letter :: rest →
        Rule.firstFor? (table.candidates letter) pattern =
          Rule.firstFor? table.rules pattern := by
      intro pattern hne hahead
      cases pattern with
      | nil => exact absurd rfl hne
      | cons first others =>
        obtain ⟨rfl, -⟩ := List.cons_prefix_cons.mp hahead
        exact firstFor?_candidates first others
    rw [find?, Rule.find?_matchesAt_eq_some_iff hsorted, Rule.isLongestMatch_congr hcandidates]

theorem mem_candidates_iff {letter : Char} {rule : Rule} :
    rule ∈ table.candidates letter ↔ rule ∈ table.rules ∧ rule.first = letter := by
  rw [candidates_eq_longestFirst, (Rule.longestFirst_perm _).mem_iff, List.mem_filter,
    decide_eq_true_eq]

/-- No rule is found exactly where none matches. -/
theorem find?_eq_none_iff {ahead : Text} :
    table.find? ahead = none ↔ ∀ rule ∈ table.rules, ¬ rule.pattern <+: ahead := by
  cases ahead with
  | nil =>
    have hnever : ∀ rule ∈ table.rules, ¬ rule.pattern <+: [] := by
      intro rule _ hahead
      exact rule.pattern_ne_nil (List.prefix_nil.mp hahead)
    exact ⟨fun _ => hnever, fun _ => rfl⟩
  | cons letter rest =>
    rw [find?, List.find?_eq_none]
    constructor
    · intro hnone rule hrule hahead
      have hfirst : rule.first = letter := Rule.first_eq_of_prefix hahead
      exact hnone rule (mem_candidates_iff.mpr ⟨hrule, hfirst⟩) (Rule.matchesAt_iff.mpr hahead)
    · intro hnever rule hcandidate hmatch
      exact hnever rule (mem_candidates_iff.mp hcandidate).left (Rule.matchesAt_iff.mp hmatch)

/-- A table finds a rule where one of its rules matches.  The rule that is found is the earliest
of the longest that match: none that matches is longer, and none of its length that matches was
given before it. -/
theorem find?_longest_earliest (rules : List Rule) (ahead : Text) :
    ((ofList rules).find? ahead = none ↔ ∀ rule ∈ rules, ¬ rule.pattern <+: ahead) ∧
      ∀ rule, (ofList rules).find? ahead = some rule ↔
        ∃ before after, rules = before ++ rule :: after ∧ rule.pattern <+: ahead ∧
          (∀ other ∈ rules, other.pattern <+: ahead → other.length ≤ rule.length) ∧
          ∀ earlier ∈ before, earlier.pattern <+: ahead → earlier.length ≠ rule.length := by
  refine ⟨find?_eq_none_iff, ?_⟩
  intro rule
  rw [find?_eq_some_iff, rules_ofList, Rule.isLongestMatch_iff_append]

end RuleTable

end Soundalike
