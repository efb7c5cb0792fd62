import Soundalike.Letter
import Soundalike.Rule.Tables
import Soundalike.Text.Basic

set_option autoImplicit false

/-!
# From a name to its steps

Before rules are applied a name is reduced to its letters: blanks and everything that is no letter
are dropped, and the letters are written in lower case and then folded, if there is a folding table.
A name without letters leaves nothing.

A scan cuts the letters of a name into pieces, from left to right: where a rule matches, the piece
is the longest matching pattern; where none does, it is one letter, which is skipped.  What is done
with the codes plays no part in it, so following one alternative and following all of them go
through the same steps.
-/

namespace Soundalike

/-! ## Cleaning a name -/

/-- The form in which a letter is compared with rules. -/
def normalize (folding : Option FoldingTable) (c : Char) : Char :=
  match folding with
  | none => Letter.lower c
  | some table => table.fold (Letter.lower c)

/-- Whether a character of a name is kept. -/
def isKept (c : Char) : Bool := !Letter.isBlank c && Letter.isLetter c

/-- The letters of a name, as they are compared with rules. -/
def cleanup (folding : Option FoldingTable) (name : Text) : Text :=
  (name.filter isKept).map (normalize folding)

@[simp] theorem cleanup_append (folding : Option FoldingTable) (first second : Text) :
    cleanup folding (first ++ second) = cleanup folding first ++ cleanup folding second := by
  simp [cleanup]

theorem cleanup_cons (folding : Option FoldingTable) (c : Char) (name : Text) :
    cleanup folding (c :: name) =
      if isKept c then normalize folding c :: cleanup folding name else cleanup folding name := by
  by_cases h : isKept c <;> simp [cleanup, h]

/-! ## Scanning letters -/

/-- The application of a rule at a place of a name. -/
structure Step where
  /-- the number of letters before the place -/
  position : Nat
  /-- the rule that applies -/
  rule : Rule
  /-- the alternatives of the field that applies -/
  alternatives : Alternatives
  /-- whether the replacement is added even after one that ends with it -/
  force : Bool
  deriving DecidableEq

/-- A piece of a name. -/
inductive Piece where
  /-- a letter at which no rule matches -/
  | skipped (letter : Char)
  /-- the letters of the pattern of a rule -/
  | matched (step : Step)
  deriving DecidableEq

namespace Piece

/-- The letters of a piece. -/
def letters : Piece → Text
  | .skipped letter => [letter]
  | .matched step => step.rule.pattern

/-- The step of a piece at which a rule matches. -/
def step? : Piece → Option Step
  | .skipped _ => none
  | .matched step => some step

end Piece

/-- Whether a replacement is added even after one that ends with it: `m` and `n` are two sounds
where one follows the other.  `previous` is the first letter of the piece before. -/
def isForced (previous : Option Char) (letter : Char) : Bool :=
  (previous == some 'm' && letter == 'n') || (previous == some 'n' && letter == 'm')

namespace RuleTable

/-- The pieces of the letters ahead, of which the first stands at `position`; `previous` is the
first letter of the piece before it, and there is none at the start of a word. -/
def piecesFrom (table : RuleTable) (position : Nat) (previous : Option Char) (ahead : Text) :
    List Piece :=
  match ahead with
  | [] => []
  | letter :: rest =>
    match table.find? (letter :: rest) with
    | none => .skipped letter :: table.piecesFrom (position + 1) (some letter) rest
    | some rule =>
      .matched {
        position := position
        rule := rule
        alternatives := rule.alternatives (letter :: rest) previous.isNone
        force := isForced previous letter } ::
      table.piecesFrom (position + rule.length) (some letter) (rest.drop (rule.length - 1))
termination_by ahead.length

/-- The pieces of a name, given by its letters. -/
def pieces (table : RuleTable) (letters : Text) : List Piece := table.piecesFrom 0 none letters

/-- The rules that apply in a name, from left to right. -/
def steps (table : RuleTable) (letters : Text) : List Step :=
  (table.pieces letters).filterMap Piece.step?

@[simp] theorem piecesFrom_nil (table : RuleTable) (position : Nat) (previous : Option Char) :
    table.piecesFrom position previous [] = [] := by
  rw [piecesFrom]

/-- Where no rule matches, a letter is skipped. -/
theorem piecesFrom_of_none {table : RuleTable} {letter : Char} {rest : Text}
    (h : table.find? (letter :: rest) = none) (position : Nat) (previous : Option Char) :
    table.piecesFrom position previous (letter :: rest) =
      .skipped letter :: table.piecesFrom (position + 1) (some letter) rest := by
  rw [piecesFrom, h]

/-- Where a rule matches, it is applied and the scan goes on behind its pattern. -/
theorem piecesFrom_of_some {table : RuleTable} {letter : Char} {rest : Text} {rule : Rule}
    (h : table.find? (letter :: rest) = some rule) (position : Nat) (previous : Option Char) :
    table.piecesFrom position previous (letter :: rest) =
      .matched ⟨position, rule, rule.alternatives (letter :: rest) previous.isNone,
        isForced previous letter⟩ ::
      table.piecesFrom (position + rule.length) (some letter) (rest.drop (rule.length - 1)) := by
  rw [piecesFrom, h]

/-- Behind the pattern of a rule, counted from the first letter ahead and from the one after it. -/
theorem drop_length_cons (rule : Rule) (letter : Char) (rest : Text) :
    (letter :: rest).drop rule.length = rest.drop (rule.length - 1) := by
  obtain ⟨size, hsize⟩ := Nat.exists_eq_add_one.mpr rule.length_pos
  rw [hsize, List.drop_succ_cons, Nat.add_sub_cancel]

/-- The pieces make up the name, without gap or overlap. -/
theorem flatMap_letters_piecesFrom (table : RuleTable) (position : Nat) (previous : Option Char)
    (ahead : Text) :
    (table.piecesFrom position previous ahead).flatMap Piece.letters = ahead := by
  fun_induction piecesFrom table position previous ahead with
  | case1 => rfl
  | case2 position previous letter rest h ih => simp [Piece.letters, ih]
  | case3 position previous letter rest rule h ih =>
    obtain ⟨tail, htail⟩ := Rule.matchesAt_iff.1 (matchesAt_of_find? h)
    rw [List.flatMap_cons, ih, ← drop_length_cons, ← htail]
    simp [Piece.letters, Rule.length]

end RuleTable

end Soundalike
