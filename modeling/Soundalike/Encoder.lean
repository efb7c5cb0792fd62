import Soundalike.Branch
import Soundalike.Distinct
import Soundalike.Rule.Bundled
import Soundalike.Scan

set_option autoImplicit false

/-!
# The encoder

An encoder reduces a name to its letters, scans them with its rules, and lets the replacements of
each step act on the live branches, of which there is one at the start.  It either follows the first
alternative of every step, which gives one code, or all of them, which gives every code that the
spelling allows, in the order in which the alternatives are written.  Branches that have reached the
same code are one candidate, and the first of them stays.
-/

namespace Soundalike

/-- Which alternatives of a step are followed. -/
inductive Choice where
  /-- the first alternative only -/
  | first
  /-- every alternative -/
  | every
  deriving DecidableEq, Repr

/-- The live branches after a step. -/
def Step.advance (choice : Choice) (step : Step) (live : List Branch) : List Branch :=
  match choice with
  | .first => live.map (·.apply step.alternatives.first step.force)
  | .every =>
    distinctBy Branch.code <| live.flatMap fun branch =>
      step.alternatives.toList.map (branch.apply · step.force)

/-- The live branches after steps, of which the first acts on `live`. -/
def liveAfter (choice : Choice) (steps : List Step) (live : List Branch) : List Branch :=
  steps.foldl (fun now step => step.advance choice now) live

/-- Each step with the live branches after it. -/
def liveAfterEach (choice : Choice) (live : List Branch) : List Step → List (Step × List Branch)
  | [] => []
  | step :: rest =>
    let next := step.advance choice live
    (step, next) :: liveAfterEach choice next rest

/-- Rules, and whether letters are folded. -/
structure Encoder where
  /-- the rules -/
  rules : RuleSet := Bundled.ruleSet
  /-- whether letters are folded before rules are applied -/
  folding : Bool := true

namespace Encoder

/-- The encoder over the Daitch-Mokotoff rules, with folding. -/
def standard : Encoder := {}

instance : Inhabited Encoder := ⟨standard⟩

/-- The version of the encoder. -/
def version : String := "0.1.0"

/-- Reads the rules of an encoder from a rule source. -/
def ofSource (source : Text) (folding : Bool) : Except SourceError Encoder :=
  (RuleSet.parse source).map (⟨·, folding⟩)

/-- The wording of an error in the rule source of an encoder. -/
def sourceErrorMessage (error : SourceError) : String :=
  let cause := error.message
  s!"failed to load rule table: {cause}"

/-- The folding table that is used, if letters are folded. -/
def foldingTable (encoder : Encoder) : Option FoldingTable :=
  if encoder.folding then some encoder.rules.folding else none

/-- The letters of a name, as they are compared with rules. -/
def cleanup (encoder : Encoder) (name : Text) : Text := Soundalike.cleanup encoder.foldingTable name

/-- The steps of a name. -/
def steps (encoder : Encoder) (name : Text) : List Step :=
  encoder.rules.table.steps (encoder.cleanup name)

/-- The finished codes of a name: those of the branches that are live at its end, each once. -/
def run (encoder : Encoder) (choice : Choice) (name : Text) : List Code :=
  distinct <| (liveAfter choice (encoder.steps name) [.empty]).map (·.finish.code)

/-- The code of a name that follows the first alternative everywhere. -/
def encode (encoder : Encoder) (name : Text) : Code := (encoder.run .first name).headD []

/-- All codes of a name, each once, in the order of the alternatives. -/
def codes (encoder : Encoder) (name : Text) : List Code := encoder.run .every name

/-- All codes of a name, with bars between them. -/
def soundex (encoder : Encoder) (name : Text) : Text := Code.join (encoder.codes name)

/-! ## Live branches -/

/-- There is always a live branch. -/
theorem advance_ne_nil {choice : Choice} {step : Step} {live : List Branch} (h : live ≠ []) :
    step.advance choice live ≠ [] := by
  obtain ⟨branch, hbranch⟩ := List.exists_mem_of_ne_nil live h
  cases choice with
  | first => simpa [Step.advance] using h
  | every =>
    intro hnil
    simp only [Step.advance, distinctBy_eq_nil_iff, List.flatMap_eq_nil_iff, List.map_eq_nil_iff]
      at hnil
    exact step.alternatives.toList_ne_nil (hnil branch hbranch)

theorem liveAfter_ne_nil {choice : Choice} (steps : List Step) {live : List Branch}
    (h : live ≠ []) : liveAfter choice steps live ≠ [] := by
  induction steps generalizing live with
  | nil => exact h
  | cons step rest ih => exact ih (advance_ne_nil h)

/-- A run that follows the first alternative only keeps the number of its live branches. -/
theorem length_liveAfter_first (steps : List Step) (live : List Branch) :
    (liveAfter .first steps live).length = live.length := by
  induction steps generalizing live with
  | nil => rfl
  | cons step rest ih => exact (ih _).trans (List.length_map _)

/-- Beside a step stand the branches that are live after the steps up to it. -/
theorem getElem?_liveAfterEach (choice : Choice) (steps : List Step) (live : List Branch)
    (place : Nat) :
    (liveAfterEach choice live steps)[place]? =
      steps[place]?.map fun step => (step, liveAfter choice (steps.take (place + 1)) live) := by
  induction steps generalizing live place with
  | nil => rfl
  | cons step rest ih =>
    cases place with
    | zero => rfl
    | succ place => exact ih _ place

theorem length_liveAfterEach (choice : Choice) (steps : List Step) (live : List Branch) :
    (liveAfterEach choice live steps).length = steps.length := by
  induction steps generalizing live with
  | nil => rfl
  | cons step rest ih => exact congrArg Nat.succ (ih _)

/-- A name has at least one code. -/
theorem run_ne_nil (encoder : Encoder) (choice : Choice) (name : Text) :
    encoder.run choice name ≠ [] := by
  have live : liveAfter choice (encoder.steps name) [.empty] ≠ [] :=
    liveAfter_ne_nil (encoder.steps name) (List.cons_ne_nil _ _)
  simpa [run, distinct] using live

end Encoder

end Soundalike
