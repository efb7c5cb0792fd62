import Soundalike.Proofs.LiveBranches

set_option autoImplicit false

/-!
# Moments of a run

A run reads a name piece by piece, and between two pieces certain branches are live.  A skipped
letter leaves them as they are (`liveAt_succ_of_skipped`), a matched one puts those after the step
in their place (`liveAt_succ_of_matched`).  What holds at the start and is kept by every step holds
at every moment (`forall_liveAt`), and the codes of a name are those that any of its moments leads
to (`run_eq_liveAfter_liveAt`).

Merging drops branches, and the branch that carries a code on may descend from another one than
the branch that had it first.  Yet no code is given up: what a step makes of the live codes
continues them (`continues_advance`), every live code as a beginning of a later one and every later
one as an extension of a live one.  The relation is transitive, so it holds between any moment of a
run and its end.
-/

namespace Soundalike

/-- The steps among pieces. -/
def Piece.steps (pieces : List Piece) : List Step := pieces.filterMap Piece.step?

theorem liveAfter_append (choice : Choice) (first second : List Step) (live : List Branch) :
    liveAfter choice (first ++ second) live =
      liveAfter choice second (liveAfter choice first live) :=
  List.foldl_append

namespace Encoder

variable (encoder : Encoder) (choice : Choice) (name : Text)

/-- The pieces of a name. -/
def pieces : List Piece := encoder.rules.table.pieces (encoder.cleanup name)

/-- The branches that are live when a number of pieces are read. -/
def liveAt (count : Nat) : List Branch :=
  liveAfter choice (Piece.steps ((encoder.pieces name).take count)) [.empty]

/-- The codes that are live when a number of pieces are read and every alternative is followed. -/
def liveCodes (count : Nat) : List Code := (encoder.liveAt .every name count).map Branch.code

/-- The steps of the pieces that are not read yet. -/
def stepsFrom (count : Nat) : List Step := Piece.steps ((encoder.pieces name).drop count)

/-! ## One piece -/

theorem liveAt_succ (count : Nat) :
    encoder.liveAt choice name (count + 1) =
      liveAfter choice (Piece.steps (encoder.pieces name)[count]?.toList)
        (encoder.liveAt choice name count) := by
  rw [liveAt, List.take_add_one, Piece.steps, List.filterMap_append, liveAfter_append]
  rfl

variable {encoder choice name}

theorem liveAt_succ_of_matched {count : Nat} {step : Step}
    (h : (encoder.pieces name)[count]? = some (.matched step)) :
    encoder.liveAt choice name (count + 1) =
      step.advance choice (encoder.liveAt choice name count) := by
  rw [liveAt_succ, h]
  rfl

theorem liveAt_succ_of_skipped {count : Nat} {letter : Char}
    (h : (encoder.pieces name)[count]? = some (.skipped letter)) :
    encoder.liveAt choice name (count + 1) = encoder.liveAt choice name count := by
  rw [liveAt_succ, h]
  rfl

/-- From one moment to the next the live branches stay, or a step of the name is taken. -/
theorem liveAt_succ_cases (count : Nat) :
    encoder.liveAt choice name (count + 1) = encoder.liveAt choice name count ∨
      ∃ step ∈ encoder.steps name, (encoder.pieces name)[count]? = some (.matched step) ∧
        encoder.liveAt choice name (count + 1) =
          step.advance choice (encoder.liveAt choice name count) := by
  cases hpiece : (encoder.pieces name)[count]? with
  | none =>
    left
    rw [liveAt_succ, hpiece]
    rfl
  | some piece =>
    cases piece with
    | skipped letter => exact Or.inl (liveAt_succ_of_skipped hpiece)
    | matched step =>
      have hstep : step ∈ encoder.steps name :=
        List.mem_filterMap.mpr ⟨.matched step, List.mem_of_getElem? hpiece, rfl⟩
      exact Or.inr ⟨step, hstep, rfl, liveAt_succ_of_matched hpiece⟩

/-- What is live at a moment depends on the pieces that are read by then only. -/
theorem liveAt_congr {other : Encoder} {otherName : Text} {count : Nat}
    (h : (other.pieces otherName).take count = (encoder.pieces name).take count) :
    other.liveAt choice otherName count = encoder.liveAt choice name count := by
  rw [liveAt, liveAt, h]

/-! ## All moments -/

/-- What holds at the start and is kept by every step of a name holds at every moment. -/
theorem forall_liveAt {P : List Branch → Prop} (hstart : P [.empty])
    (hstep : ∀ step ∈ encoder.steps name, ∀ live, P live → P (step.advance choice live))
    (count : Nat) : P (encoder.liveAt choice name count) := by
  induction count with
  | zero => exact hstart
  | succ count ih =>
    rcases liveAt_succ_cases count with hsame | ⟨step, hmem, -, hnext⟩
    · exact hsame ▸ ih
    · exact hnext ▸ hstep step hmem _ ih

variable (encoder choice name)

theorem steps_eq_append (count : Nat) :
    encoder.steps name =
      Piece.steps ((encoder.pieces name).take count) ++ encoder.stepsFrom name count := by
  rw [stepsFrom, Piece.steps, Piece.steps, ← List.filterMap_append, List.take_append_drop]
  rfl

/-- The codes of a name are those that the live branches of a moment come to. -/
theorem run_eq_liveAfter_liveAt (count : Nat) :
    encoder.run choice name =
      distinct ((liveAfter choice (encoder.stepsFrom name count)
        (encoder.liveAt choice name count)).map (·.finish.code)) := by
  rw [run, encoder.steps_eq_append name count, liveAfter_append]
  rfl

end Encoder

/-! ## Live codes are carried on -/

/-- Codes continue earlier ones if each of the earlier ones is a beginning of one of them, and each
of them extends one of the earlier ones. -/
structure Continues (earlier later : List Code) : Prop where
  carried_on : ∀ code ∈ earlier, ∃ next ∈ later, code <+: next
  descended : ∀ next ∈ later, ∃ code ∈ earlier, code <+: next

theorem Continues.refl (codes : List Code) : Continues codes codes where
  carried_on code hcode := ⟨code, hcode, List.prefix_rfl⟩
  descended code hcode := ⟨code, hcode, List.prefix_rfl⟩

theorem Continues.trans {earlier later last : List Code} (h : Continues earlier later)
    (h' : Continues later last) : Continues earlier last where
  carried_on code hcode := by
    obtain ⟨next, hnext, hextends⟩ := h.carried_on code hcode
    obtain ⟨final, hfinal, hextends'⟩ := h'.carried_on next hnext
    exact ⟨final, hfinal, hextends.trans hextends'⟩
  descended final hfinal := by
    obtain ⟨next, hnext, hextends'⟩ := h'.descended final hfinal
    obtain ⟨code, hcode, hextends⟩ := h.descended next hnext
    exact ⟨code, hcode, hextends.trans hextends'⟩

/-! ## One branch -/

namespace Branch

theorem code_prefix_code_apply (branch : Branch) (replacement : Replacement) (force : Bool) :
    branch.code <+: (branch.apply replacement force).code := by
  cases hadds : branch.adds replacement force with
  | true =>
    rw [code_apply_of_adds hadds, List.prefix_take_iff]
    exact ⟨List.prefix_append _ _, branch.length_code_le⟩
  | false =>
    have hsame := code_apply_of_not_adds hadds
    exact hsame ▸ List.prefix_rfl

theorem code_prefix_code_finish (branch : Branch) : branch.code <+: branch.finish.code := by
  rw [code_finish]
  exact List.prefix_append _ _

end Branch

/-! ## A run -/

/-- The codes after a step continue those before it. -/
theorem continues_advance (step : Step) (live : List Branch) :
    Continues (live.map Branch.code) ((step.advance .every live).map Branch.code) where
  carried_on code hcode := by
    obtain ⟨branch, hbranch, rfl⟩ := List.mem_map.mp hcode
    obtain ⟨next, hnext, hsame⟩ := exists_mem_advance_every hbranch step.alternatives.first_mem
    refine ⟨next.code, List.mem_map_of_mem hnext, ?_⟩
    rw [hsame]
    exact branch.code_prefix_code_apply _ _
  descended code hcode := by
    obtain ⟨next, hnext, rfl⟩ := List.mem_map.mp hcode
    obtain ⟨branch, hbranch, replacement, -, rfl⟩ := exists_of_mem_advance hnext
    exact ⟨branch.code, List.mem_map_of_mem hbranch, branch.code_prefix_code_apply _ _⟩

theorem continues_liveAfter (steps : List Step) (live : List Branch) :
    Continues (live.map Branch.code) ((liveAfter .every steps live).map Branch.code) := by
  induction steps generalizing live with
  | nil => exact Continues.refl _
  | cons step rest ih => exact (continues_advance step live).trans (ih _)

/-- Filling codes up continues them. -/
theorem continues_finish (live : List Branch) :
    Continues (live.map Branch.code) (distinct (live.map (·.finish.code))) where
  carried_on code hcode := by
    obtain ⟨branch, hbranch, rfl⟩ := List.mem_map.mp hcode
    exact ⟨branch.finish.code, mem_distinct.mpr (List.mem_map_of_mem hbranch),
      branch.code_prefix_code_finish⟩
  descended code hcode := by
    obtain ⟨branch, hbranch, rfl⟩ := List.mem_map.mp (mem_distinct.mp hcode)
    exact ⟨branch.code, List.mem_map_of_mem hbranch, branch.code_prefix_code_finish⟩

namespace Encoder

variable (encoder : Encoder) (name : Text)

theorem continues_liveCodes_succ (count : Nat) :
    Continues (encoder.liveCodes name count) (encoder.liveCodes name (count + 1)) := by
  rw [liveCodes, liveCodes, liveAt_succ]
  exact continues_liveAfter _ _

theorem continues_liveCodes_codes (count : Nat) :
    Continues (encoder.liveCodes name count) (encoder.codes name) := by
  rw [codes, run_eq_liveAfter_liveAt encoder .every name count]
  exact (continues_liveAfter _ _).trans (continues_finish _)

/-- From one moment to the next, and from any moment to the end, the codes of a name continue those
that are live. -/
theorem codes_continue_liveCodes (count : Nat) :
    Continues (encoder.liveCodes name count) (encoder.liveCodes name (count + 1)) ∧
      Continues (encoder.liveCodes name count) (encoder.codes name) :=
  ⟨encoder.continues_liveCodes_succ name count, encoder.continues_liveCodes_codes name count⟩

end Encoder

end Soundalike
