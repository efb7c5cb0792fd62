import Soundalike.Proofs.Agreement
import Soundalike.Proofs.Turns

set_option autoImplicit false

/-!
# Forced replacements

A replacement is forced after `m` if the letter is `n`, and after `n` if it is `m`.  What counts as
the letter before is the one that the cursor remembers (`Cursor.Moves.force_iff`), the first letter
of the piece before.  It is the neighbour if that piece is one letter long.  After a longer piece it
is not: in `mnn` the piece `mn` has an `m` in front, so the `n` behind it is forced, although its
neighbour is an `n`.
-/

namespace Soundalike

/-- Of two letters one is an `m` and the other an `n`. -/
def AreNasals (first second : Option Char) : Prop :=
  first = some 'm' ∧ second = some 'n' ∨ first = some 'n' ∧ second = some 'm'

instance (first second : Option Char) : Decidable (AreNasals first second) :=
  inferInstanceAs (Decidable (_ ∧ _ ∨ _ ∧ _))

theorem isForced_iff {previous : Option Char} {letter : Char} :
    isForced previous letter = true ↔ AreNasals previous (some letter) := by
  simp only [isForced, AreNasals, Bool.or_eq_true, Bool.and_eq_true, beq_iff_eq, Option.some.injEq]

theorem not_areNasals_none (second : Option Char) : ¬ AreNasals none second := by
  rintro (⟨h, -⟩ | ⟨h, -⟩) <;> cases h

/-! ## The letter that is remembered -/

namespace Cursor

variable {table : RuleTable} {choice : Choice} {letters : Text} {cursor last : Cursor}

/-- A step is forced by the letter that the cursor remembers and the one at the cursor. -/
theorem Moves.force_iff {position : Nat} {step : Step}
    (h : Moves table choice letters cursor ⟨position, .matched step⟩ last) :
    step.force = true ↔ AreNasals cursor.previous letters[position]? := by
  cases h with
  | apply hahead hsome hstep =>
    rw [getElem?_of_drop hahead, hstep, isForced_iff]

/-- The last of some turns is one to the cursor that they lead to. -/
theorem Reaches.exists_last_move {before : List Turn} {turn : Turn}
    (h : Reaches table choice letters cursor (before ++ [turn]) last) :
    ∃ middle, Moves table choice letters middle turn last := by
  obtain ⟨middle, -, hlast⟩ := h.split
  cases hlast with
  | cons first rest =>
    cases rest
    exact ⟨middle, first⟩

end Cursor

/-! ## The steps of a name -/

namespace Encoder

variable (encoder : Encoder) {name : Text}

/-- A step is forced exactly if a piece comes before it, and the first letter of that piece and the
one at the step are `m` and `n` or `n` and `m`.  At the start of the name, and where the piece
before is one letter long, this says that the letter right before the step and the one at it are. -/
theorem force_iff_of_turns {before after : List Turn} {position : Nat} {step : Step}
    (h : encoder.turns name = before ++ ⟨position, .matched step⟩ :: after) :
    (step.force = true ↔ ∃ turn ∈ before.getLast?,
      AreNasals (encoder.cleanup name)[turn.position]? (encoder.cleanup name)[position]?) ∧
    ((∀ turn ∈ before.getLast?, turn.piece.letters.length = 1) →
      (step.force = true ↔ 0 < position ∧
        AreNasals (encoder.cleanup name)[position - 1]? (encoder.cleanup name)[position]?)) := by
  obtain ⟨last, hreaches, -⟩ := encoder.reaches_turns name .every
  rw [h] at hreaches
  obtain ⟨middle, next, hbefore, hmove⟩ := hreaches.exists_moves
  have hposition : position = middle.position := hmove.turn_position
  have hforce := hmove.force_iff
  rcases List.eq_nil_or_concat' before with rfl | ⟨earlier, turn, rfl⟩
  · -- the cursor is at the start and remembers no letter
    cases hbefore
    have hfree : step.force ≠ true := mt hforce.mp (not_areNasals_none _)
    refine ⟨iff_of_false hfree (by simp), fun _ => iff_of_false hfree ?_⟩
    exact fun hpast => absurd hposition (Nat.ne_of_gt hpast.left)
  · obtain ⟨_, hlast⟩ := hbefore.exists_last_move
    rw [hlast.next_previous] at hforce
    simp only [List.getLast?_concat, Option.mem_some_iff, exists_eq_left', forall_eq']
    refine ⟨hforce, ?_⟩
    intro hone
    have hnext : position = turn.position + 1 := by
      rw [hposition, hlast.next_position, hone, hlast.turn_position]
    rw [hforce, hnext, Nat.add_sub_cancel]
    exact (and_iff_right (Nat.succ_pos _)).symm

/-- In `mnn` the last letter is forced by the first one of the pattern `mn` before it; where `m` and
`n` are patterns of their own, the `n` of `mn` is forced by its neighbour. -/
theorem force_iff_of_turns_mnn :
    (∃ before step, standard.turns "mnn".toList = before ++ ⟨2, .matched step⟩ :: [] ∧
      step.force = true) ∧
    ∃ encoder : Encoder, RuleSet.parse "m 6 6 6\nn 6 6 6".toList = .ok encoder.rules ∧
      ∃ before step, encoder.turns "mn".toList = before ++ ⟨1, .matched step⟩ :: [] ∧
        step.force = true := by
  constructor
  · let before := (standard.turns "mnn".toList).take 1
    let step := ((standard.turns "mnn".toList)[1]?.bind (·.piece.step?)).get (by decide +kernel)
    have hturns : standard.turns "mnn".toList = before ++ ⟨2, .matched step⟩ :: [] := by
      decide +kernel
    obtain ⟨hforce, -⟩ := standard.force_iff_of_turns hturns
    exact ⟨before, step, hturns, hforce.mpr (by decide +kernel)⟩
  · let source := "m 6 6 6\nn 6 6 6".toList
    let encoder : Encoder := ⟨.ofStatements (Source.stated source), true⟩
    have hparse : RuleSet.parse source = .ok encoder.rules :=
      RuleSet.parse_eq_ok_iff.mpr ⟨by decide +kernel, rfl⟩
    let before := (encoder.turns "mn".toList).take 1
    let step := ((encoder.turns "mn".toList)[1]?.bind (·.piece.step?)).get (by decide +kernel)
    have hturns : encoder.turns "mn".toList = before ++ ⟨1, .matched step⟩ :: [] := by
      decide +kernel
    obtain ⟨-, hneighbour⟩ := encoder.force_iff_of_turns hturns
    have hforce := hneighbour (by decide +kernel)
    exact ⟨encoder, hparse, before, step, hturns, hforce.mpr (by decide +kernel)⟩

/-- In `mnn` the last letter is forced by the first one, though its neighbour is an `n` like
itself. -/
theorem mnn_is_forced_from_afar :
    ¬ ∀ step ∈ standard.steps "mnn".toList, step.force = true ↔
      0 < step.position ∧ AreNasals (standard.cleanup "mnn".toList)[step.position - 1]?
        (standard.cleanup "mnn".toList)[step.position]? := by
  decide +kernel

end Encoder

end Soundalike
