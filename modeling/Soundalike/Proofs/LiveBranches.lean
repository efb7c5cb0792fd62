import Mathlib.Data.List.Flatten
import Mathlib.Data.List.Forall2
import Soundalike.Encoder

set_option autoImplicit false

/-!
# Choices and live branches

A choice takes one alternative of every step of a name.  Followed on its own, from the empty branch
and without regard to any other choice, it gives one finished code; the codes of all choices are
what the encoder would give if it never dropped a branch.  `choices` lists all choices.  They stand
in the lexicographic order of the places that the alternatives have in their fields
(`choices_eq_map_placings`, `pairwise_lt_placings`), so two choices are compared at the first step
at which they take alternatives from different places.

What one step does to the live branches decides what a whole run does.  Every branch after a step
comes from one before it by one alternative of the step (`exists_of_mem_advance`), so whatever each
application keeps holds of all branches at the end (`forall_liveAfter`).  Dropping branches with
equal codes loses no code of the step at hand (`exists_mem_advance_every`) and never touches the
first branch, which takes the first alternative everywhere (`head?_liveAfter`).
-/

namespace Soundalike

/-- A choice for steps: one alternative of each. -/
def IsChoice (steps : List Step) (chosen : List Replacement) : Prop :=
  List.Forall₂ (fun step replacement => replacement ∈ step.alternatives.toList) steps chosen

instance (steps : List Step) (chosen : List Replacement) : Decidable (IsChoice steps chosen) :=
  inferInstanceAs (Decidable (List.Forall₂ _ _ _))

/-- All choices for steps, in order. -/
def choices : List Step → List (List Replacement)
  | [] => [[]]
  | step :: rest =>
    step.alternatives.toList.flatMap fun replacement => (choices rest).map (replacement :: ·)

/-- The choice of the first alternative everywhere. -/
def firstChoice (steps : List Step) : List Replacement := steps.map (·.alternatives.first)

/-- A branch after the replacements that are chosen for steps. -/
def Branch.follow (branch : Branch) : List Step → List Replacement → Branch
  | step :: steps, replacement :: chosen =>
    (branch.apply replacement step.force).follow steps chosen
  | _, _ => branch

/-- The finished code of a choice for the steps of a name. -/
def Encoder.chosenCode (encoder : Encoder) (name : Text) (chosen : List Replacement) : Code :=
  (Branch.empty.follow (encoder.steps name) chosen).finish.code

/-! ## Which choices there are -/

theorem isChoice_cons_iff {step : Step} {steps : List Step} {chosen : List Replacement} :
    IsChoice (step :: steps) chosen ↔
      ∃ replacement ∈ step.alternatives.toList, ∃ rest, IsChoice steps rest ∧
        chosen = replacement :: rest := by
  constructor
  · intro h
    cases h with
    | cons hreplacement hrest => exact ⟨_, hreplacement, _, hrest, rfl⟩
  · rintro ⟨replacement, hreplacement, rest, hrest, rfl⟩
    exact .cons hreplacement hrest

@[simp] theorem Branch.follow_nil (branch : Branch) (chosen : List Replacement) :
    branch.follow [] chosen = branch := by
  cases chosen <;> rfl

/-! ## The order of choices -/

/-- Places in the fields of steps: one place of each. -/
def IsPlacing (steps : List Step) (places : List Nat) : Prop :=
  List.Forall₂ (fun step place => place < step.alternatives.toList.length) steps places

/-- All places in the fields of steps, in order. -/
def placings : List Step → List (List Nat)
  | [] => [[]]
  | step :: rest =>
    (List.range step.alternatives.toList.length).flatMap fun place =>
      (placings rest).map (place :: ·)

/-- The alternatives that stand at places in the fields of steps. -/
def chosenAt (steps : List Step) (places : List Nat) : List Replacement :=
  List.zipWith (fun step place => step.alternatives.toList.getD place []) steps places

theorem mem_placings_iff {steps : List Step} {places : List Nat} :
    places ∈ placings steps ↔ IsPlacing steps places := by
  induction steps generalizing places with
  | nil => simp [placings, IsPlacing]
  | cons step rest ih =>
    rw [placings, List.mem_flatMap]
    constructor
    · rintro ⟨place, hplace, hmem⟩
      obtain ⟨tail, htail, rfl⟩ := List.mem_map.mp hmem
      exact .cons (List.mem_range.mp hplace) (ih.mp htail)
    · intro h
      cases h with
      | cons hplace htail =>
        exact ⟨_, List.mem_range.mpr hplace, List.mem_map.mpr ⟨_, ih.mpr htail, rfl⟩⟩

/-- Places are listed in lexicographic order, each once. -/
theorem pairwise_lt_placings (steps : List Step) : (placings steps).Pairwise (· < ·) := by
  induction steps with
  | nil => exact List.pairwise_singleton _ _
  | cons step rest ih =>
    rw [placings, List.pairwise_flatMap]
    constructor
    · intro place _
      rw [List.pairwise_map]
      exact ih.imp fun h => List.cons_lt_cons_iff.mpr (Or.inr ⟨rfl, h⟩)
    · refine List.pairwise_lt_range.imp ?_
      intro first second hlt left hleft right hright
      obtain ⟨leftRest, _, rfl⟩ := List.mem_map.mp hleft
      obtain ⟨rightRest, _, rfl⟩ := List.mem_map.mp hright
      exact List.cons_lt_cons_iff.mpr (Or.inl hlt)

theorem map_getD_range {α : Type} (xs : List α) (default : α) :
    (List.range xs.length).map (xs.getD · default) = xs := by
  apply List.ext_getElem
  · simp
  · intro i hi _
    simp_all

/-- Choices are listed in the order of their places. -/
theorem choices_eq_map_placings (steps : List Step) :
    choices steps = (placings steps).map (chosenAt steps) := by
  induction steps with
  | nil => rfl
  | cons step rest ih =>
    have hfield := map_getD_range step.alternatives.toList []
    rw [choices, ← hfield, List.flatMap_map, ih, placings, List.map_flatMap]
    simp [chosenAt, Function.comp_def]

/-! ## One step -/

/-- A branch is live after a step only if an alternative of the step, applied to a branch that was
live before, gives it. -/
theorem exists_of_mem_advance {choice : Choice} {step : Step} {live : List Branch}
    {next : Branch} (h : next ∈ step.advance choice live) :
    ∃ branch ∈ live, ∃ replacement ∈ step.alternatives.toList,
      next = branch.apply replacement step.force := by
  cases choice with
  | first =>
    rw [Step.advance, List.mem_map] at h
    obtain ⟨branch, hbranch, rfl⟩ := h
    exact ⟨branch, hbranch, _, step.alternatives.first_mem, rfl⟩
  | every =>
    have hmem := (distinctBy_sublist _ _).subset h
    obtain ⟨branch, hbranch, hnext⟩ := List.mem_flatMap.mp hmem
    obtain ⟨replacement, hreplacement, rfl⟩ := List.mem_map.mp hnext
    exact ⟨branch, hbranch, replacement, hreplacement, rfl⟩

/-- Of every application of an alternative the code stays, if not the branch. -/
theorem exists_mem_advance_every {step : Step} {live : List Branch} {branch : Branch}
    {replacement : Replacement} (hbranch : branch ∈ live)
    (hreplacement : replacement ∈ step.alternatives.toList) :
    ∃ next ∈ step.advance .every live,
      next.code = (branch.apply replacement step.force).code := by
  apply exists_mem_distinctBy
  exact List.mem_flatMap.mpr ⟨branch, hbranch, List.mem_map.mpr ⟨replacement, hreplacement, rfl⟩⟩

/-- Of all branches that a step gives and that stand for one candidate the first stays. -/
theorem find?_sameCode_advance_every (step : Step) (live : List Branch) (branch : Branch) :
    (step.advance .every live).find? (·.sameCode branch) =
      (live.flatMap fun before =>
        step.alternatives.toList.map (before.apply · step.force)).find? (·.sameCode branch) := by
  have hsame : (fun other : Branch => other.sameCode branch) =
      fun other : Branch => decide (other.code = branch.code) := by
    funext other
    rw [Bool.eq_iff_iff, Branch.sameCode_iff, decide_eq_true_eq]
  rw [hsame]
  exact find?_distinctBy Branch.code branch.code _

/-- What every application of an alternative keeps, a step keeps of all live branches. -/
theorem forall_advance {P : Branch → Prop} {choice : Choice} {step : Step} {live : List Branch}
    (hstep : ∀ branch, P branch → ∀ replacement ∈ step.alternatives.toList,
      P (branch.apply replacement step.force))
    (hlive : ∀ branch ∈ live, P branch) : ∀ branch ∈ step.advance choice live, P branch := by
  intro next hnext
  obtain ⟨branch, hbranch, replacement, hreplacement, rfl⟩ := exists_of_mem_advance hnext
  exact hstep branch (hlive branch hbranch) replacement hreplacement

/-- Whichever alternatives are followed, the first branch takes the first of them. -/
theorem head?_advance (choice : Choice) (step : Step) (live : List Branch) :
    (step.advance choice live).head? =
      live.head?.map (·.apply step.alternatives.first step.force) := by
  cases choice with
  | first => rw [Step.advance, List.head?_map]
  | every =>
    cases live with
    | nil => rfl
    | cons branch rest =>
      rw [Step.advance, head?_distinctBy, List.flatMap_cons, List.head?_append, List.head?_map,
        step.alternatives.head?_toList]
      rfl

/-! ## A run -/

theorem liveAfter_cons (choice : Choice) (step : Step) (steps : List Step)
    (live : List Branch) :
    liveAfter choice (step :: steps) live =
      liveAfter choice steps (step.advance choice live) := rfl

/-- What holds at the start and is kept by every application of an alternative holds of every live
branch. -/
theorem forall_liveAfter {P : Branch → Prop} {choice : Choice} {steps : List Step}
    {live : List Branch}
    (hstep : ∀ step ∈ steps, ∀ branch, P branch → ∀ replacement ∈ step.alternatives.toList,
      P (branch.apply replacement step.force))
    (hlive : ∀ branch ∈ live, P branch) :
    ∀ branch ∈ liveAfter choice steps live, P branch := by
  induction steps generalizing live with
  | nil => exact hlive
  | cons step rest ih =>
    rw [liveAfter_cons]
    refine ih ?_ (forall_advance (hstep step List.mem_cons_self) hlive)
    intro later hlater
    exact hstep later (List.mem_cons_of_mem step hlater)

/-- The first branch of a run is the first one of its start after the choice of first alternatives,
whichever alternatives are followed. -/
theorem head?_liveAfter (choice : Choice) (steps : List Step) (live : List Branch) :
    (liveAfter choice steps live).head? = live.head?.map (·.follow steps (firstChoice steps)) := by
  induction steps generalizing live with
  | nil => simp [liveAfter]
  | cons step rest ih =>
    rw [liveAfter_cons, ih, head?_advance, Option.map_map]
    rfl

/-- One step and then all choices for the rest, from every branch after it, are all choices for
both. -/
theorem flatMap_follow_choices (branch : Branch) (step : Step) (steps : List Step) :
    ((step.alternatives.toList.map (branch.apply · step.force)).flatMap fun next =>
        (choices steps).map (next.follow steps)) =
      (choices (step :: steps)).map (branch.follow (step :: steps)) := by
  rw [List.flatMap_map, choices, List.map_flatMap]
  congr 1
  funext replacement
  rw [List.map_map]
  rfl

/-- The branches of a run are branches of choices, in the order of choices. -/
theorem liveAfter_every_sublist (steps : List Step) (live : List Branch) :
    (liveAfter .every steps live).Sublist
      (live.flatMap fun branch => (choices steps).map (branch.follow steps)) := by
  induction steps generalizing live with
  | nil => simp [liveAfter, choices]
  | cons step rest ih =>
    rw [liveAfter_cons]
    -- a step drops branches only, so it is enough to enumerate what it started from
    refine (ih _).trans ?_
    have hkept : (step.advance .every live).Sublist (live.flatMap fun branch =>
        step.alternatives.toList.map (branch.apply · step.force)) := distinctBy_sublist _ _
    refine (hkept.flatMap _).trans ?_
    rw [List.flatMap_assoc]
    simp only [flatMap_follow_choices, List.Sublist.refl]

namespace Encoder

variable (encoder : Encoder) (name : Text)

/-- The codes of a run are the finished codes of its live branches. -/
theorem mem_run_iff {choice : Choice} {code : Code} :
    code ∈ encoder.run choice name ↔
      ∃ branch ∈ liveAfter choice (encoder.steps name) [.empty], branch.finish.code = code := by
  rw [run, mem_distinct, List.mem_map]

/-! ## All codes -/

/-- The codes of a name are codes of choices, in the order of choices. -/
theorem codes_sublist_choices :
    (encoder.codes name).Sublist
      ((choices (encoder.steps name)).map (encoder.chosenCode name)) := by
  have hlive := liveAfter_every_sublist (encoder.steps name) [.empty]
  rw [List.flatMap_singleton] at hlive
  have hcodes := hlive.map fun branch => branch.finish.code
  rw [List.map_map] at hcodes
  exact (distinctBy_sublist id _).trans hcodes

/-- The codes of a name are a part of the codes of all choices, listed in the lexicographic order
of the places of their alternatives. -/
theorem codes_sublist_enumeration :
    ∃ enumeration : List (List Nat),
      enumeration.Pairwise (· < ·) ∧
      (∀ places, places ∈ enumeration ↔ IsPlacing (encoder.steps name) places) ∧
      (encoder.codes name).Sublist (enumeration.map fun places =>
        encoder.chosenCode name (chosenAt (encoder.steps name) places)) := by
  refine ⟨placings (encoder.steps name), pairwise_lt_placings _, fun _ => mem_placings_iff, ?_⟩
  have hcodes := encoder.codes_sublist_choices name
  rw [choices_eq_map_placings, List.map_map] at hcodes
  exact hcodes

/-! ## The first code -/

/-- The first code of a run is that of the choice of first alternatives. -/
theorem head?_run (choice : Choice) :
    (encoder.run choice name).head? =
      some (encoder.chosenCode name (firstChoice (encoder.steps name))) := by
  rw [run, distinct, head?_distinctBy, List.head?_map, head?_liveAfter]
  rfl

/-- The code that follows the first alternative everywhere is the first of all codes. -/
theorem head?_codes : (encoder.codes name).head? = some (encoder.encode name) := by
  have hfirst := encoder.head?_run name .first
  have hevery := encoder.head?_run name .every
  rw [codes, hevery, encode, List.headD_eq_head?_getD, hfirst]
  rfl

end Encoder

end Soundalike
