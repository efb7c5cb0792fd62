import Soundalike.Letter
import Soundalike.Text.Basic

set_option autoImplicit false

/-!
# Rules

A rule says what a group of letters contributes to a code.  Its pattern is compared literally with
the letters ahead, and which of its three fields applies depends on where the pattern stands: at the
start of the word, before a vowel, or elsewhere.  A field holds one replacement or several
alternatives with bars between them, and never none.
-/

namespace Soundalike

/-! ## Alternatives -/

/-- What a rule adds to a code. -/
abbrev Replacement := Text

/-- The alternatives of one field of a rule, in the order in which they are written. -/
structure Alternatives where
  toList : List Replacement
  toList_ne_nil : toList ≠ []
  bar_not_mem : ∀ replacement ∈ toList, '|' ∉ replacement
  deriving DecidableEq

namespace Alternatives

/-- Reads a field, in which bars stand between the alternatives. -/
def ofField (field : Text) : Alternatives where
  toList := Text.split '|' field
  toList_ne_nil := Text.split_ne_nil '|' field
  bar_not_mem _ h := Text.not_mem_of_mem_split h

/-- Writes the alternatives as a field. -/
def field (alternatives : Alternatives) : Text := Text.join '|' alternatives.toList

/-- The alternative that is followed when only one is. -/
def first (alternatives : Alternatives) : Replacement :=
  alternatives.toList.head alternatives.toList_ne_nil

/-- Reading a field and writing it gives the field back. -/
@[simp] theorem field_ofField (text : Text) : (ofField text).field = text :=
  Text.join_split '|' text

/-- Alternatives are determined by their field. -/
@[simp] theorem ofField_field (alternatives : Alternatives) :
    ofField alternatives.field = alternatives := by
  obtain ⟨list, hne, hbar⟩ := alternatives
  simp [ofField, field, Text.split_join hne hbar]

theorem head?_toList (alternatives : Alternatives) :
    alternatives.toList.head? = some alternatives.first :=
  List.head?_eq_some_head alternatives.toList_ne_nil

theorem first_mem (alternatives : Alternatives) : alternatives.first ∈ alternatives.toList :=
  List.head_mem alternatives.toList_ne_nil

end Alternatives

/-! ## Rules -/

/-- One rule of a rule table. -/
structure Rule where
  /-- The letters to which the rule applies, in lower case. -/
  pattern : Text
  /-- The alternatives at the start of a word. -/
  atStart : Alternatives
  /-- The alternatives before a vowel. -/
  beforeVowel : Alternatives
  /-- The alternatives everywhere else. -/
  elsewhere : Alternatives
  pattern_ne_nil : pattern ≠ []
  deriving DecidableEq

namespace Rule

/-- Builds a rule from its four fields as written; a rule without a pattern is none. -/
def ofFields? (pattern atStart beforeVowel elsewhere : Text) : Option Rule :=
  if h : pattern = [] then none
  else some {
    pattern := pattern.map Letter.lower
    atStart := .ofField atStart
    beforeVowel := .ofField beforeVowel
    elsewhere := .ofField elsewhere
    pattern_ne_nil := by simpa using h }

/-- The number of letters that the rule consumes. -/
def length (rule : Rule) : Nat := rule.pattern.length

/-- The first letter of the pattern, by which rules are grouped. -/
def first (rule : Rule) : Char := rule.pattern.head rule.pattern_ne_nil

/-- Whether the letters ahead begin with the pattern. -/
def matchesAt (rule : Rule) (ahead : Text) : Bool := rule.pattern.isPrefixOf ahead

/-- The alternatives that apply where `ahead` are the letters ahead, the pattern's own included. -/
def alternatives (rule : Rule) (ahead : Text) (atWordStart : Bool) : Alternatives :=
  if atWordStart then rule.atStart
  else if (ahead[rule.length]?).any Letter.isVowel then rule.beforeVowel
  else rule.elsewhere

/-- The rule as it is shown in messages. -/
def display (rule : Rule) : Text :=
  rule.pattern ++ ['=', '('] ++ rule.atStart.field ++ [',', ' '] ++ rule.beforeVowel.field ++
    [',', ' '] ++ rule.elsewhere.field ++ [')']

theorem length_pos (rule : Rule) : 0 < rule.length :=
  List.length_pos_iff.2 rule.pattern_ne_nil

theorem matchesAt_iff {rule : Rule} {ahead : Text} :
    rule.matchesAt ahead = true ↔ rule.pattern <+: ahead := by
  simp [matchesAt]

/-- Only an empty pattern is refused. -/
theorem ofFields?_eq_none_iff {pattern atStart beforeVowel elsewhere : Text} :
    ofFields? pattern atStart beforeVowel elsewhere = none ↔ pattern = [] := by
  unfold ofFields?
  split <;> simp_all

/-- A rule is built of its fields: its pattern in lower case, and the alternatives of the others. -/
theorem ofFields?_eq_some_iff {pattern atStart beforeVowel elsewhere : Text} {rule : Rule} :
    ofFields? pattern atStart beforeVowel elsewhere = some rule ↔
      rule.pattern = pattern.map Letter.lower ∧ rule.atStart = .ofField atStart ∧
        rule.beforeVowel = .ofField beforeVowel ∧ rule.elsewhere = .ofField elsewhere := by
  constructor
  · intro h
    unfold ofFields? at h
    split at h
    · cases h
    · obtain rfl := Option.some.inj h
      exact ⟨rfl, rfl, rfl, rfl⟩
  · intro h
    have hne : pattern ≠ [] := by
      rintro rfl
      exact rule.pattern_ne_nil h.left
    obtain ⟨_, _, _, _, _⟩ := rule
    obtain ⟨rfl, rfl, rfl, rfl⟩ := h
    exact dif_neg hne

/-- A rule is shown with its fields as they were written. -/
theorem display_eq_of_ofFields? {pattern atStart beforeVowel elsewhere : Text} {rule : Rule}
    (h : ofFields? pattern atStart beforeVowel elsewhere = some rule) :
    rule.display = pattern.map Letter.lower ++ ['=', '('] ++ atStart ++ [',', ' '] ++
      beforeVowel ++ [',', ' '] ++ elsewhere ++ [')'] := by
  obtain ⟨hpattern, hstart, hvowel, helse⟩ := ofFields?_eq_some_iff.mp h
  rw [display, hpattern, hstart, hvowel, helse, Alternatives.field_ofField,
    Alternatives.field_ofField, Alternatives.field_ofField]

end Rule

end Soundalike
