import Mathlib.Data.List.Basic
import Soundalike.Proofs.Moments

set_option autoImplicit false

/-!
# Stopping early

A code of six characters is final: later steps still fork the branch that has it, change what was
applied last and merge branches, but they change neither the codes nor their order
(`distinct_codes_advance_of_allFull`).  So a scan may stop as soon as all live branches have such
codes, and need not look at the rest of the name.  `liveUntilFull` is the scan that does.
-/

namespace Soundalike

/-- Whether the codes of all live branches have their full length. -/
def allFull (live : List Branch) : Bool := live.all (·.code.length = Code.size)

/-- The live branches when a scan stops, at the end of the letters ahead or as soon as all codes
have their full length; the first letter ahead stands at `position`, and `previous` is the first
letter of the piece before it. -/
def RuleTable.liveUntilFull (table : RuleTable) (choice : Choice) (position : Nat)
    (previous : Option Char) (ahead : Text) (live : List Branch) : List Branch :=
  if allFull live then live
  else
    match ahead with
    | [] => live
    | letter :: rest =>
      match table.find? (letter :: rest) with
      | none => table.liveUntilFull choice (position + 1) (some letter) rest live
      | some rule =>
        let step : Step := {
          position := position
          rule := rule
          alternatives := rule.alternatives (letter :: rest) previous.isNone
          force := isForced previous letter }
        table.liveUntilFull choice (position + rule.length) (some letter)
          (rest.drop (rule.length - 1)) (step.advance choice live)
termination_by ahead.length

/-- The finished codes of a name, from a scan that stops as soon as all codes have their full
length. -/
def Encoder.runUntilFull (encoder : Encoder) (choice : Choice) (name : Text) : List Code :=
  distinct <| (encoder.rules.table.liveUntilFull choice 0 none (encoder.cleanup name)
    [.empty]).map (·.finish.code)

/-! ## Full codes -/

theorem allFull_iff {live : List Branch} :
    allFull live = true ↔ ∀ branch ∈ live, branch.code.length = Code.size := by
  simp only [allFull, List.all_eq_true, decide_eq_true_eq]

theorem map_code_finish_of_allFull {live : List Branch} (h : allFull live = true) :
    live.map (·.finish.code) = live.map Branch.code := by
  apply List.map_congr_left
  intro branch hbranch
  exact Branch.code_finish_of_full (allFull_iff.mp h branch hbranch)

/-! ## Steps after all codes are full -/

theorem allFull_advance {choice : Choice} {step : Step} {live : List Branch}
    (h : allFull live = true) : allFull (step.advance choice live) = true := by
  rw [allFull_iff] at h ⊢
  refine forall_advance ?_ h
  intro branch hfull replacement _
  rw [Branch.code_apply_of_full hfull, hfull]

/-- A step after all codes are full changes neither which codes there are nor their order. -/
theorem distinct_codes_advance_of_allFull {choice : Choice} {step : Step} {live : List Branch}
    (h : allFull live = true) :
    distinct ((step.advance choice live).map Branch.code) = distinct (live.map Branch.code) := by
  have hcode : ∀ branch ∈ live, ∀ replacement,
      (branch.apply replacement step.force).code = branch.code := by
    intro branch hbranch replacement
    exact Branch.code_apply_of_full (allFull_iff.mp h branch hbranch) replacement step.force
  cases choice with
  | first =>
    have hsame : live.map (Branch.code ∘ (·.apply step.alternatives.first step.force)) =
        live.map Branch.code :=
      List.map_congr_left fun branch hbranch => hcode branch hbranch step.alternatives.first
    rw [Step.advance, List.map_map, hsame]
  | every =>
    -- every code is said once for each alternative, in a row, and merging takes that back
    have hforked : (live.flatMap fun branch => step.alternatives.toList.map
          (branch.apply · step.force)).map Branch.code =
        (live.map Branch.code).flatMap (List.replicate step.alternatives.toList.length) := by
      rw [List.map_flatMap, List.flatMap_map]
      apply List.flatMap_congr
      intro branch hbranch
      rw [List.map_map, List.map_eq_replicate_iff]
      exact fun replacement _ => hcode branch hbranch replacement
    have hforks : step.alternatives.toList.length ≠ 0 :=
      mt List.length_eq_zero_iff.mp step.alternatives.toList_ne_nil
    rw [Step.advance, map_distinctBy, distinct_distinct, hforked,
      distinct_flatMap_replicate hforks]

theorem distinct_codes_liveAfter_of_allFull {choice : Choice} (steps : List Step)
    {live : List Branch} (h : allFull live = true) :
    distinct ((liveAfter choice steps live).map (·.finish.code)) =
      distinct (live.map Branch.code) := by
  induction steps generalizing live with
  | nil => rw [liveAfter, List.foldl_nil, map_code_finish_of_allFull h]
  | cons step rest ih =>
    rw [liveAfter_cons, ih (allFull_advance h), distinct_codes_advance_of_allFull h]

/-! ## Stopping -/

/-- A scan that stops early comes to the same finished codes as one that reads to the end. -/
theorem RuleTable.distinct_codes_liveUntilFull (table : RuleTable) (choice : Choice)
    (position : Nat) (previous : Option Char) (ahead : Text) (live : List Branch) :
    distinct ((table.liveUntilFull choice position previous ahead live).map (·.finish.code)) =
      distinct ((liveAfter choice (Piece.steps (table.piecesFrom position previous ahead))
        live).map (·.finish.code)) := by
  fun_induction liveUntilFull table choice position previous ahead live with
  | case1 position previous ahead live hfull =>
    rw [distinct_codes_liveAfter_of_allFull _ hfull, map_code_finish_of_allFull hfull]
  | case2 position previous live hroom =>
    rw [piecesFrom_nil]
    rfl
  | case3 position previous live hroom letter rest hnone ih =>
    rw [ih, piecesFrom_of_none hnone]
    rfl
  | case4 position previous live hroom letter rest rule hsome step ih =>
    rw [ih, piecesFrom_of_some hsome]
    rfl

namespace Encoder

variable (encoder : Encoder) (name : Text)

/-- Once all codes are full they are the codes of the name. -/
theorem run_of_allFull {choice : Choice} {count : Nat}
    (h : allFull (encoder.liveAt choice name count) = true) :
    encoder.run choice name = distinct ((encoder.liveAt choice name count).map Branch.code) := by
  rw [run_eq_liveAfter_liveAt encoder choice name count, distinct_codes_liveAfter_of_allFull _ h]

theorem runUntilFull_eq_run (choice : Choice) :
    encoder.runUntilFull choice name = encoder.run choice name :=
  encoder.rules.table.distinct_codes_liveUntilFull choice 0 none (encoder.cleanup name) [.empty]

/-- A scan that stops as soon as all codes are full gives the codes of the name in their order,
whichever alternatives are followed; for once all codes are full they are the codes of every name
that begins with the pieces read so far, whatever comes after them. -/
theorem full_codes_are_final (choice : Choice) :
    encoder.runUntilFull choice name = encoder.run choice name ∧
      ∀ count, allFull (encoder.liveAt choice name count) = true →
        ∀ (other : Encoder) (otherName : Text),
          (other.pieces otherName).take count = (encoder.pieces name).take count →
            other.run choice otherName =
              distinct ((encoder.liveAt choice name count).map Branch.code) := by
  refine ⟨encoder.runUntilFull_eq_run name choice, ?_⟩
  intro count hfull other otherName hpieces
  have hlive : other.liveAt choice otherName count = encoder.liveAt choice name count :=
    liveAt_congr hpieces
  rw [← hlive] at hfull ⊢
  exact other.run_of_allFull otherName hfull

/-- The eight codes of `Rosochowaciec` are full at its end, so a second name after it changes none
of them. -/
theorem full_codes_are_final_rosochowaciec :
    allFull (standard.liveAt .every "Rosochowaciec".toList 11) = true ∧
      standard.codes "Rosochowaciec-Jackson".toList = standard.codes "Rosochowaciec".toList := by
  have hfull : allFull (standard.liveAt .every "Rosochowaciec".toList 11) = true := by
    decide +kernel
  have hpieces : (standard.pieces "Rosochowaciec-Jackson".toList).take 11 =
      (standard.pieces "Rosochowaciec".toList).take 11 := by
    decide +kernel
  obtain ⟨-, hfinal⟩ := standard.full_codes_are_final "Rosochowaciec".toList .every
  have hlonger := hfinal 11 hfull standard "Rosochowaciec-Jackson".toList hpieces
  have hown := hfinal 11 hfull standard "Rosochowaciec".toList rfl
  exact ⟨hfull, hlonger.trans hown.symm⟩

end Encoder

end Soundalike
