import Mathlib.Data.List.Forall2
import Soundalike.Proofs.Agreement
import Soundalike.Proofs.SourceGrammar

set_option autoImplicit false

/-!
# Which of several statements counts

A source may have several rules for one pattern and several foldings for one letter.  Of the rules
the one on the first line counts, and of the foldings the one on the last line
(`firstFor?_table_eq_some_iff`, `find?_folding_eq_some_iff`).  Both are read off the live lines with
their statements, which the numbers of the lines put into the order of the source
(`exists_entries`).
-/

namespace Soundalike

/-! ## The first of a kind in an ordered list -/

/-- In an ordered list the first element for which there is a result is the one before which no
other such element stands. -/
theorem findSome?_eq_some_iff_of_pairwise {α β : Type} {precedes : α → α → Prop}
    (hasymm : ∀ x y, precedes x y → ¬ precedes y x) {xs : List α} (hordered : xs.Pairwise precedes)
    {f : α → Option β} {b : β} :
    xs.findSome? f = some b ↔
      ∃ x ∈ xs, f x = some b ∧ ∀ y ∈ xs, ∀ c, f y = some c → ¬ precedes y x := by
  rw [List.findSome?_eq_some_iff]
  constructor
  · rintro ⟨before, x, after, rfl, hx, hbefore⟩
    obtain ⟨-, hrest, -⟩ := List.pairwise_append.mp hordered
    obtain ⟨hafter, -⟩ := List.pairwise_cons.mp hrest
    refine ⟨x, List.mem_append_right _ List.mem_cons_self, hx, fun y hy c hfound => ?_⟩
    rcases List.mem_append.mp hy with hearlier | hlater
    · rw [hbefore y hearlier] at hfound
      cases hfound
    · rcases List.mem_cons.mp hlater with rfl | hmem
      · exact fun hself => hasymm y y hself hself
      · exact hasymm x y (hafter y hmem)
  · rintro ⟨x, hmem, hx, hfirst⟩
    obtain ⟨before, after, rfl⟩ := List.append_of_mem hmem
    obtain ⟨-, -, hbefore⟩ := List.pairwise_append.mp hordered
    refine ⟨before, x, after, rfl, hx, fun y hy => Option.eq_none_iff_forall_ne_some.mpr ?_⟩
    intro c hfound
    exact hfirst y (List.mem_append_left _ hy) c hfound (hbefore y hy x List.mem_cons_self)

namespace Source

/-! ## Lines and their statements -/

/-- A live line of a source, and the statement that it writes. -/
def Gives (source : Text) (line : SourceLine) (statement : Statement) : Prop :=
  IsLive (Text.textLines source) line ∧ Statement.Writes line.statement statement

/-- The first line with a rule for a pattern gives `rule`. -/
def FirstRule (source pattern : Text) (rule : Rule) : Prop :=
  ∃ line, Gives source line (.rule rule) ∧ rule.pattern = pattern ∧
    ∀ other found, Gives source other (.rule found) → found.pattern = pattern →
      line.number ≤ other.number

/-- Some line has a folding for a letter. -/
def HasFolding (source : Text) (letter : Char) : Prop :=
  ∃ line folded, Gives source line (.folding letter folded)

/-- The last line with a folding for a letter folds it to `folded`. -/
def LastFolding (source : Text) (letter folded : Char) : Prop :=
  ∃ line, Gives source line (.folding letter folded) ∧
    ∀ other found, Gives source other (.folding letter found) → other.number ≤ line.number

variable {source : Text} {stated : List Statement}

/-- The statements of a source in their order, each with its line. -/
theorem exists_entries (h : statements source = .ok stated) :
    ∃ entries : List (SourceLine × Statement), entries.map Prod.snd = stated ∧
      entries.Pairwise (fun earlier later => earlier.1.number < later.1.number) ∧
      ∀ line statement, (line, statement) ∈ entries ↔ Gives source line statement := by
  obtain ⟨live, hordered, hlive, hwrites⟩ := statements_eq_ok_iff.mp h
  obtain ⟨hlength, hzip⟩ := List.forall₂_iff_zip.mp hwrites
  have hlines : (live.zip stated).map Prod.fst = live := List.map_fst_zip (Nat.le_of_eq hlength)
  refine ⟨live.zip stated, List.map_snd_zip (Nat.le_of_eq hlength.symm), ?_, ?_⟩
  · rw [← hlines, List.pairwise_map] at hordered
    exact hordered
  · intro line statement
    constructor
    · intro hmem
      exact ⟨(hlive line).mp (List.of_mem_zip hmem).1, hzip hmem⟩
    · rintro ⟨hline, hstatement⟩
      rw [← hlive, ← hlines] at hline
      obtain ⟨⟨_, written⟩, hmem, rfl⟩ := List.mem_map.mp hline
      -- a line writes one statement only
      have hwritten := Statement.ofText_of_writes (hzip hmem)
      rw [Statement.ofText_of_writes hstatement] at hwritten
      exact Except.ok.inj hwritten ▸ hmem

variable {β : Type} {f : Statement → Option β} {b : β}

/-- What the first statement of a kind gives, told by the numbers of lines. -/
theorem findSome?_eq_some_iff_gives (h : statements source = .ok stated) :
    stated.findSome? f = some b ↔
      ∃ line statement, Gives source line statement ∧ f statement = some b ∧
        ∀ other found, Gives source other found → ∀ c, f found = some c →
          line.number ≤ other.number := by
  obtain ⟨entries, rfl, hordered, hmem⟩ := exists_entries h
  rw [List.findSome?_map, findSome?_eq_some_iff_of_pairwise (fun _ _ => Nat.lt_asymm) hordered]
  simp only [Prod.exists, Prod.forall, hmem, Function.comp_apply, Nat.not_lt]

/-- What the last statement of a kind gives, told by the numbers of lines. -/
theorem findSome?_reverse_eq_some_iff_gives (h : statements source = .ok stated) :
    stated.reverse.findSome? f = some b ↔
      ∃ line statement, Gives source line statement ∧ f statement = some b ∧
        ∀ other found, Gives source other found → ∀ c, f found = some c →
          other.number ≤ line.number := by
  obtain ⟨entries, rfl, hordered, hmem⟩ := exists_entries h
  rw [← List.map_reverse, List.findSome?_map,
    findSome?_eq_some_iff_of_pairwise (fun _ _ => Nat.lt_asymm)
      (List.pairwise_reverse.mpr hordered)]
  simp only [Prod.exists, Prod.forall, List.mem_reverse, hmem, Function.comp_apply, Nat.not_lt]

end Source

/-! ## Rules for one pattern -/

/-- The rule that a statement gives, if it is one for a pattern. -/
def Statement.ruleFor? (pattern : Text) : Statement → Option Rule
  | .rule stated => if stated.pattern = pattern then some stated else none
  | .folding _ _ => none

theorem Statement.ruleFor?_eq_some_iff {pattern : Text} {statement : Statement} {rule : Rule} :
    statement.ruleFor? pattern = some rule ↔ statement = .rule rule ∧ rule.pattern = pattern := by
  cases statement with
  | folding letter folded => simp [ruleFor?]
  | rule stated =>
    rw [ruleFor?, Option.ite_none_right_eq_some, Option.some_inj, Statement.rule.injEq]
    constructor
    · rintro ⟨hpattern, rfl⟩
      exact ⟨rfl, hpattern⟩
    · rintro ⟨rfl, hpattern⟩
      exact ⟨hpattern, rfl⟩

theorem Rule.firstFor?_filterMap_rule? (stated : List Statement) (pattern : Text) :
    firstFor? (stated.filterMap Statement.rule?) pattern =
      stated.findSome? (Statement.ruleFor? pattern) := by
  induction stated with
  | nil => rfl
  | cons statement rest ih =>
    cases statement with
    | folding letter folded => exact ih
    | rule stated =>
      rw [List.filterMap_cons_some (f := Statement.rule?) rfl, List.findSome?_cons,
        Statement.ruleFor?]
      by_cases hpattern : stated.pattern = pattern
      · subst hpattern
        rw [firstFor?_cons_of_eq, if_pos rfl]
      · rw [firstFor?_cons_of_ne hpattern, if_neg hpattern, ih]

/-- Of the rules for a pattern the table has that of the first line first. -/
theorem RuleSet.firstFor?_table_eq_some_iff {source : Text} {parsed : RuleSet}
    (h : parse source = .ok parsed) {pattern : Text} {rule : Rule} :
    Rule.firstFor? parsed.table.rules pattern = some rule ↔
      Source.FirstRule source pattern rule := by
  obtain ⟨stated, hread, rfl⟩ := parse_eq_ok_iff_statements.mp h
  have hrules : (ofStatements stated).table.rules = stated.filterMap Statement.rule? := rfl
  rw [hrules, Rule.firstFor?_filterMap_rule?, Source.findSome?_eq_some_iff_gives hread,
    Source.FirstRule]
  simp only [Statement.ruleFor?_eq_some_iff, and_imp]
  constructor
  · rintro ⟨line, statement, hgives, ⟨rfl, hpattern⟩, hfirst⟩
    exact ⟨line, hgives, hpattern, fun other found hother => hfirst other _ hother found rfl⟩
  · rintro ⟨line, hgives, hpattern, hfirst⟩
    refine ⟨line, _, hgives, ⟨rfl, hpattern⟩, ?_⟩
    rintro other found hother rule rfl
    exact hfirst other rule hother

/-! ## Foldings for one letter -/

/-- What a statement folds a letter to, if it is a folding for it. -/
def Statement.target? (letter : Char) : Statement → Option Char
  | .rule _ => none
  | .folding given folded => if given = letter then some folded else none

theorem Statement.target?_eq_some_iff {letter folded : Char} {statement : Statement} :
    statement.target? letter = some folded ↔ statement = .folding letter folded := by
  cases statement with
  | rule stated => simp [target?]
  | folding given target =>
    rw [target?, Option.ite_none_right_eq_some, Option.some_inj, Statement.folding.injEq]

theorem lookup_filterMap_folding? (stated : List Statement) (letter : Char) :
    (stated.filterMap Statement.folding?).lookup letter =
      stated.findSome? (Statement.target? letter) := by
  induction stated with
  | nil => rfl
  | cons statement rest ih =>
    cases statement with
    | rule stated => exact ih
    | folding given folded =>
      rw [List.filterMap_cons_some (f := Statement.folding?) rfl, List.lookup_cons,
        List.findSome?_cons, Statement.target?, ih]
      by_cases hgiven : given = letter
      · rw [if_pos hgiven, beq_iff_eq.mpr hgiven.symm]
      · rw [if_neg hgiven, beq_eq_false_iff_ne.mpr (Ne.symm hgiven)]

theorem RuleSet.find?_folding_ofStatements (stated : List Statement) (letter : Char) :
    (ofStatements stated).folding.find? letter =
      stated.reverse.findSome? (Statement.target? letter) := by
  rw [← lookup_filterMap_folding?, List.filterMap_reverse, ← lookup_distinctBy_fst]
  rfl

variable {source : Text} {parsed : RuleSet} {letter folded : Char}

/-- Of the foldings for a letter the table has that of the last line. -/
theorem RuleSet.find?_folding_eq_some_iff (h : parse source = .ok parsed) :
    parsed.folding.find? letter = some folded ↔ Source.LastFolding source letter folded := by
  obtain ⟨stated, hread, rfl⟩ := parse_eq_ok_iff_statements.mp h
  rw [find?_folding_ofStatements, Source.findSome?_reverse_eq_some_iff_gives hread,
    Source.LastFolding]
  simp only [Statement.target?_eq_some_iff]
  constructor
  · rintro ⟨line, statement, hgives, rfl, hlast⟩
    exact ⟨line, hgives, fun other found hother => hlast other _ hother found rfl⟩
  · rintro ⟨line, hgives, hlast⟩
    refine ⟨line, _, hgives, rfl, ?_⟩
    rintro other found hother target rfl
    exact hlast other target hother

theorem RuleSet.find?_folding_eq_none_iff (h : parse source = .ok parsed) :
    parsed.folding.find? letter = none ↔ ¬ Source.HasFolding source letter := by
  obtain ⟨stated, hread, rfl⟩ := parse_eq_ok_iff_statements.mp h
  rw [find?_folding_ofStatements, List.findSome?_eq_none_iff]
  simp only [List.mem_reverse, Source.mem_iff_of_statements hread]
  constructor
  · rintro hnone ⟨line, target, hgives⟩
    have hfound := hnone _ ⟨line, hgives⟩
    rw [Statement.target?_eq_some_iff.mpr rfl] at hfound
    cases hfound
  · rintro hnever statement ⟨line, hgives⟩
    refine Option.eq_none_iff_forall_ne_some.mpr fun target hfound => hnever ⟨line, target, ?_⟩
    exact Statement.target?_eq_some_iff.mp hfound ▸ hgives

/-- A letter is folded as the last line with a folding for it says, and stays if there is none. -/
theorem RuleSet.fold_folding_eq_iff (h : parse source = .ok parsed) :
    parsed.folding.fold letter = folded ↔
      Source.LastFolding source letter folded ∨
        letter = folded ∧ ¬ Source.HasFolding source letter := by
  rw [← find?_folding_eq_some_iff h, ← find?_folding_eq_none_iff h, FoldingTable.fold]
  cases parsed.folding.find? letter with
  | none => simp
  | some target => simp

end Soundalike
