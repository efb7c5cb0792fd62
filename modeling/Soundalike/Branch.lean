import Soundalike.Rule.Basic
import Soundalike.Text.Basic

set_option autoImplicit false

/-!
# Codes and branches

A code under construction is a text; a finished one has six characters.  Several codes of one name
are written together with a bar between neighbours.  `Code.join_split` says that cutting a joined
text and joining it again changes nothing; the empty text stands for no code at all.

A branch is one candidate code under construction, together with the replacement that was applied to
it last.  A replacement is left out if the one before it ends with it, so that a sound spelled twice
is coded once, unless the caller asks for it to be added anyway.  The code never grows past the
length of a finished code.
-/

namespace Soundalike

/-! ## Codes -/

/-- A code, finished or not. -/
abbrev Code := Text

namespace Code

/-- The number of characters of a finished code. -/
def size : Nat := 6

/-- The character that fills a short code. -/
def filler : Char := '0'

/-- The character between two codes of one name. -/
def bar : Char := '|'

/-- Writes codes with a bar between neighbours. -/
def join (codes : List Code) : Text := Text.join bar codes

/-- Reads codes written with bars between them; the empty text holds none. -/
def split (joined : Text) : List Code := if joined = [] then [] else Text.split bar joined

/-- A finished code is six decimal digits. -/
def isFinished (code : Code) : Bool := code.length == size && code.all Char.isDigit

theorem join_split (joined : Text) : join (split joined) = joined := by
  unfold join split
  split
  · next h => simp [h, Text.join]
  · exact Text.join_split bar joined

end Code

/-! ## Branches -/

/-- A candidate code under construction. -/
structure Branch where
  /-- the code so far -/
  code : Code
  /-- the replacement applied last, whether or not it was added -/
  last : Option Replacement
  length_code_le : code.length ≤ Code.size
  deriving DecidableEq

namespace Branch

/-- The branch from which every run starts. -/
def empty : Branch := ⟨[], none, Nat.zero_le _⟩

instance : Inhabited Branch := ⟨empty⟩

/-- Whether a replacement is to be added: it is left out only if it is not forced and the one
before it ends with it. -/
def adds (branch : Branch) (replacement : Replacement) (force : Bool) : Bool :=
  force || !branch.last.any (replacement.isSuffixOf ·)

/-- Applies a replacement: adds it, as far as there is room, and remembers it. -/
def apply (branch : Branch) (replacement : Replacement) (force : Bool) : Branch :=
  if branch.adds replacement force then
    ⟨(branch.code ++ replacement).take Code.size, some replacement, List.length_take_le _ _⟩
  else { branch with last := some replacement }

/-- Fills the code up to the length of a finished code. -/
def finish (branch : Branch) : Branch where
  code := branch.code ++ List.replicate (Code.size - branch.code.length) Code.filler
  last := branch.last
  length_code_le := by
    have := branch.length_code_le
    simp
    omega

/-- Whether two branches stand for the same candidate, whatever was applied to them last. -/
def sameCode (first second : Branch) : Bool := first.code == second.code

theorem sameCode_iff {first second : Branch} :
    first.sameCode second = true ↔ first.code = second.code := beq_iff_eq

/-! ## Codes of branches -/

@[simp] theorem last_apply (branch : Branch) (replacement : Replacement) (force : Bool) :
    (branch.apply replacement force).last = some replacement := by
  unfold apply
  split <;> rfl

/-- A replacement is left out only after one that ends with it. -/
theorem adds_eq_false_iff {branch : Branch} {replacement : Replacement} {force : Bool} :
    branch.adds replacement force = false ↔
      force = false ∧ ∃ last, branch.last = some last ∧ replacement <:+ last := by
  cases h : branch.last <;> simp [adds, h]

theorem code_apply_of_adds {branch : Branch} {replacement : Replacement} {force : Bool}
    (h : branch.adds replacement force = true) :
    (branch.apply replacement force).code = (branch.code ++ replacement).take Code.size := by
  rw [apply, if_pos h]

theorem code_apply_of_not_adds {branch : Branch} {replacement : Replacement} {force : Bool}
    (h : branch.adds replacement force = false) :
    (branch.apply replacement force).code = branch.code := by
  rw [apply, if_neg (by simp [h])]

theorem code_finish (branch : Branch) :
    branch.finish.code =
      branch.code ++ List.replicate (Code.size - branch.code.length) Code.filler := rfl

/-- A finished branch has a code of full length. -/
@[simp] theorem length_code_finish (branch : Branch) : branch.finish.code.length = Code.size := by
  have := branch.length_code_le
  simp [finish]
  omega

/-- A code of full length is not changed any more. -/
theorem code_apply_of_full {branch : Branch} (h : branch.code.length = Code.size)
    (replacement : Replacement) (force : Bool) :
    (branch.apply replacement force).code = branch.code := by
  unfold apply
  split
  · simp [← h]
  · rfl

theorem code_finish_of_full {branch : Branch} (h : branch.code.length = Code.size) :
    branch.finish.code = branch.code := by
  rw [code_finish, h, Nat.sub_self, List.replicate_zero, List.append_nil]

end Branch

end Soundalike
