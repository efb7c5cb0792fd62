import Soundalike.Distinct
import Soundalike.Rule.Basic
import Soundalike.Rule.Source

set_option autoImplicit false

/-!
# Rule tables, folding tables and rule sets

A rule table groups rules by the first letter of their pattern.  Within a group longer patterns come
first and rules of one length keep the order in which they were given, so the first rule of a group
that matches is the longest match, and the earliest among those of its length.

A folding table lets one character stand for another, such as a plain letter for an accented one.
Where a character is given several times the last time counts.

A rule set is what a rule source gives: the table of its rules and the table of its foldings.
-/

namespace Soundalike

/-! ## Rule tables -/

namespace Rule

/-- Puts a rule before the first one that is not longer. -/
def insertByLength (rule : Rule) : List Rule → List Rule
  | [] => [rule]
  | next :: rest =>
    if next.length ≤ rule.length then rule :: next :: rest else next :: insertByLength rule rest

/-- Orders rules by length, the longest first; rules of one length keep their order. -/
def longestFirst (rules : List Rule) : List Rule := rules.foldr insertByLength []

/-- The rules of each first letter, the letters in order of their first occurrence. -/
def groups (rules : List Rule) : List (Char × List Rule) :=
  (distinct (rules.map first)).map fun letter =>
    (letter, longestFirst (rules.filter (·.first = letter)))

end Rule

/-- Rules in the order in which they were given, with their groups. -/
structure RuleTable where
  rules : List Rule
  groups : List (Char × List Rule)
  groups_eq : groups = Rule.groups rules

namespace RuleTable

/-- The table of a list of rules. -/
def ofList (rules : List Rule) : RuleTable := ⟨rules, Rule.groups rules, rfl⟩

instance : EmptyCollection RuleTable := ⟨ofList []⟩

instance : Inhabited RuleTable := ⟨∅⟩

/-- The rules whose pattern starts with a letter, the longest first. -/
def candidates (table : RuleTable) (letter : Char) : List Rule :=
  (table.groups.lookup letter).getD []

/-- The rule that applies to the letters ahead: the longest whose pattern they begin with. -/
def find? (table : RuleTable) (ahead : Text) : Option Rule :=
  match ahead with
  | [] => none
  | letter :: _ => (table.candidates letter).find? (·.matchesAt ahead)

/-- The number of rules. -/
def size (table : RuleTable) : Nat := table.rules.length

/-- Whether the table has no rule. -/
def isEmpty (table : RuleTable) : Bool := table.rules.isEmpty

/-- The number of distinct first letters. -/
def groupCount (table : RuleTable) : Nat := table.groups.length

@[simp] theorem rules_ofList (rules : List Rule) : (ofList rules).rules = rules := rfl

/-- A rule that is found matches. -/
theorem matchesAt_of_find? {table : RuleTable} {ahead : Text} {rule : Rule}
    (h : table.find? ahead = some rule) : rule.matchesAt ahead = true := by
  cases ahead with
  | nil => simp [find?] at h
  | cons letter rest =>
    rw [find?] at h
    exact List.find?_some (p := fun candidate : Rule => candidate.matchesAt (letter :: rest)) h

end RuleTable

/-! ## Folding tables -/

/-- A finite map from characters to the characters that stand for them. -/
structure FoldingTable where
  entries : List (Char × Char)
  nodup_keys : (entries.map Prod.fst).Nodup

namespace FoldingTable

/-- The table of a list of pairs, of which the last with a given first character counts. -/
def ofPairs (pairs : List (Char × Char)) : FoldingTable :=
  ⟨distinctBy Prod.fst pairs.reverse, nodup_map_distinctBy _ _⟩

instance : EmptyCollection FoldingTable := ⟨ofPairs []⟩

instance : Inhabited FoldingTable := ⟨∅⟩

/-- The character that stands for `letter`, if the table has it. -/
def find? (table : FoldingTable) (letter : Char) : Option Char := table.entries.lookup letter

/-- A letter after folding; letters without an entry stay. -/
def fold (table : FoldingTable) (letter : Char) : Char := (table.find? letter).getD letter

/-- The number of characters that the table folds. -/
def size (table : FoldingTable) : Nat := table.entries.length

/-- Whether the table folds no character. -/
def isEmpty (table : FoldingTable) : Bool := table.entries.isEmpty

end FoldingTable

/-! ## Rule sets -/

/-- All that an encoder looks up. -/
structure RuleSet where
  table : RuleTable
  folding : FoldingTable

namespace RuleSet

instance : Inhabited RuleSet := ⟨∅, ∅⟩

/-- The rule set of a list of statements. -/
def ofStatements (statements : List Statement) : RuleSet where
  table := .ofList (statements.filterMap Statement.rule?)
  folding := .ofPairs (statements.filterMap Statement.folding?)

/-- Reads a rule source. -/
def parse (source : Text) : Except SourceError RuleSet :=
  (Source.statements source).map ofStatements

/-- The number of rules. -/
def size (rules : RuleSet) : Nat := rules.table.size

end RuleSet

end Soundalike
