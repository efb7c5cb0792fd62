import Soundalike.Rule.Basic
import Soundalike.Text.Basic

set_option autoImplicit false

/-!
# Rule sources

A rule source is made of statements, one on a line.  A line with an equals sign is a folding, `x=y`,
which lets the character `y` stand for `x`; any other line is a rule of four fields between white
space.  Fields may stand in double quotes, which is the only way to write an empty one.

A source is read line by line.  A block comment opens at a line that starts with `/*` and ends with
the first line that ends with `*/`, which may be the opening line itself; all its lines are skipped
whole.  Of every other line, what follows `//` is a comment, and what remains is a statement unless
it is blank.  The first line that is no statement decides the error.
-/

namespace Soundalike

/-! ## Statements -/

/-- What one line of a rule source states. -/
inductive Statement where
  /-- a rule for a group of letters -/
  | rule (stated : Rule)
  /-- the character `folded` stands for `letter` -/
  | folding (letter folded : Char)
  deriving DecidableEq

/-- What is wrong with a line that is no statement. -/
inductive Fault where
  /-- a line without an equals sign has another number of fields than four -/
  | malformedRule (parts : Nat)
  /-- a line has more than one equals sign -/
  | malformedFolding (parts : Nat)
  /-- a side of a folding is not a single character -/
  | sideNotSingle
  /-- the pattern of a rule is empty -/
  | emptyPattern
  deriving DecidableEq, Repr

namespace Statement

/-- The character that stands between the two sides of a folding. -/
def foldingSign : Char := '='

/-- Removes one double quote from each end of a field, where there is one. -/
def unquote (field : Text) : Text :=
  let opened := if field.head? = some '"' then field.tail else field
  if opened.getLast? = some '"' then opened.dropLast else opened

/-- The reading of a field that stands in double quotes. -/
@[simp] theorem unquote_quoted (field : Text) : unquote ('"' :: field ++ ['"']) = field := by
  simp [unquote]

/-- A double quote that only opens a field is removed too. -/
theorem unquote_opened {field : Text} (h : field.getLast? ≠ some '"') :
    unquote ('"' :: field) = field := by
  simp [unquote, h]

/-- So is one that only closes it. -/
theorem unquote_closed {field : Text} (h : field.head? ≠ some '"') :
    unquote (field ++ ['"']) = field := by
  cases field with
  | nil => rfl
  | cons c rest =>
    have hfirst : (c :: rest ++ ['"']).head? ≠ some '"' := h
    simp only [unquote, if_neg hfirst, List.getLast?_concat, List.dropLast_concat, if_true]

/-- A bare field stays as it is. -/
theorem unquote_bare {field : Text} (hfirst : field.head? ≠ some '"')
    (hlast : field.getLast? ≠ some '"') : unquote field = field := by
  simp [unquote, hfirst, hlast]

/-- A field is what is read of it, with a double quote at both ends, at one end or at none. -/
theorem unquote_cases (field : Text) :
    field = '"' :: unquote field ++ ['"'] ∨ field = '"' :: unquote field ∨
      field = unquote field ++ ['"'] ∨ field = unquote field := by
  by_cases hfirst : field.head? = some '"'
  · obtain ⟨rest, rfl⟩ := List.head?_eq_some_iff.mp hfirst
    by_cases hlast : rest.getLast? = some '"'
    · obtain ⟨inner, rfl⟩ := List.getLast?_eq_some_iff.mp hlast
      exact Or.inl (by rw [← List.cons_append, unquote_quoted])
    · exact Or.inr (Or.inl (by rw [unquote_opened hlast]))
  · by_cases hlast : field.getLast? = some '"'
    · obtain ⟨inner, rfl⟩ := List.getLast?_eq_some_iff.mp hlast
      have hinner : inner.head? ≠ some '"' := by
        intro h
        obtain ⟨rest, rfl⟩ := List.head?_eq_some_iff.mp h
        exact hfirst rfl
      exact Or.inr (Or.inr (Or.inl (by rw [unquote_closed hinner])))
    · exact Or.inr (Or.inr (Or.inr (unquote_bare hfirst hlast).symm))

/-- Reads `x=y`; white space around either character is skipped. -/
def foldingOfText (line : Text) : Except Fault Statement :=
  match Text.split foldingSign line with
  | [left, right] =>
    match Text.trim left, Text.trim right with
    | [letter], [folded] => .ok (.folding letter folded)
    | _, _ => .error .sideNotSingle
  | parts => .error (.malformedFolding parts.length)

/-- Reads the four fields of a rule. -/
def ruleOfText (line : Text) : Except Fault Statement :=
  match Text.words line with
  | [pattern, atStart, beforeVowel, elsewhere] =>
    match Rule.ofFields? (unquote pattern) (unquote atStart) (unquote beforeVowel)
        (unquote elsewhere) with
    | some built => .ok (.rule built)
    | none => .error .emptyPattern
  | fields => .error (.malformedRule fields.length)

/-- Reads a line from which comment and surrounding white space are gone. -/
def ofText (line : Text) : Except Fault Statement :=
  if foldingSign ∈ line then foldingOfText line else ruleOfText line

/-- The rule that a statement gives. -/
def rule? : Statement → Option Rule
  | .rule stated => some stated
  | .folding _ _ => none

/-- The pair of characters that a statement gives. -/
def folding? : Statement → Option (Char × Char)
  | .rule _ => none
  | .folding letter folded => some (letter, folded)

end Statement

/-! ## Lines -/

/-- A line of a source that has to be a statement. -/
structure SourceLine where
  /-- its number among all lines, from 1 -/
  number : Nat
  /-- the line as written, without its ending -/
  written : Text
  /-- the line without comment and without white space at its ends -/
  statement : Text
  deriving DecidableEq

/-- A line of a source that is no statement. -/
structure SourceError where
  /-- the number of the line among all lines, from 1 -/
  number : Nat
  /-- the line as written, without its ending -/
  written : Text
  /-- what is wrong with it -/
  fault : Fault
  deriving DecidableEq

namespace SourceError

/-- The wording of an error. -/
def message (error : SourceError) : String :=
  let number := toString error.number
  let written := String.ofList error.written
  match error.fault with
  | .malformedRule parts =>
    s!"line {number}: malformed rule statement split into {parts} parts: {written}"
  | .malformedFolding parts =>
    s!"line {number}: malformed folding statement split into {parts} parts: {written}"
  | .sideNotSingle =>
    s!"line {number}: folding statement sides are not single characters: {written}"
  | .emptyPattern => s!"line {number}: rule pattern is empty: {written}"

end SourceError

namespace Source

/-! ## Comments -/

/-- What stands before the first `//`. -/
def beforeComment : Text → Text
  | '/' :: '/' :: _ => []
  | c :: rest => c :: beforeComment rest
  | [] => []

/-- Whether a trimmed line opens a block comment. -/
def opensBlock (trimmed : Text) : Bool := ['/', '*'].isPrefixOf trimmed

/-- Whether a trimmed line, or what follows the opening on its line, ends a block comment. -/
def closesBlock (trimmed : Text) : Bool := ['*', '/'].isSuffixOf trimmed

/-- The lines that have to be statements; `number` is the number of the first line, and `inBlock`
says whether a block comment is open before it. -/
def statementLines (number : Nat) (inBlock : Bool) : List Text → List SourceLine
  | [] => []
  | written :: rest =>
    let trimmed := Text.trim written
    if inBlock then statementLines (number + 1) (!closesBlock trimmed) rest
    else if opensBlock trimmed then
      statementLines (number + 1) (!closesBlock (trimmed.drop 2)) rest
    else
      let statement := Text.trim (beforeComment trimmed)
      if statement = [] then statementLines (number + 1) false rest
      else ⟨number, written, statement⟩ :: statementLines (number + 1) false rest

/-! ## Reading a source -/

/-- Reads the statement of a line. -/
def readLine (line : SourceLine) : Except SourceError Statement :=
  (Statement.ofText line.statement).mapError (⟨line.number, line.written, ·⟩)

/-- Reads lines in order, up to the first that is no statement. -/
def readLines : List SourceLine → Except SourceError (List Statement)
  | [] => .ok []
  | line :: rest =>
    match readLine line with
    | .error error => .error error
    | .ok statement => (readLines rest).map (statement :: ·)

/-- The statements of a source, in the order in which they are written. -/
def statements (source : Text) : Except SourceError (List Statement) :=
  readLines (statementLines 1 false (Text.textLines source))

end Source

end Soundalike
