import Mathlib.Data.List.Basic
import Mathlib.Data.List.Induction
import Mathlib.Data.List.OfFn
import Soundalike.Branch

set_option autoImplicit false

/-!
# What a branch has heard

A branch cuts its code after every replacement and adds nothing once the code is full, but which
replacements it leaves out depends on the replacements alone, on those that were cut off as well.
So the code is what is left of one text by one cut (`code_ofApplications`): the replacements that
are heard, one after the other.  A replacement is heard if it comes first, is forced, or does not
stand at the end of the one before it.
-/

namespace Soundalike

/-- The application of a replacement to a branch. -/
structure Application where
  /-- the replacement -/
  replacement : Replacement
  /-- whether it is added even after one that ends with it -/
  force : Bool
  deriving DecidableEq

namespace Application

/-- Whether the replacement at a place is heard: it comes first, it is forced, or the one before it
does not end with it. -/
def IsHeard (applications : List Application) (place : Fin applications.length) : Prop :=
  place.val = 0 ∨ applications[place].force = true ∨
    ¬ applications[place].replacement <:+ applications[place.val - 1].replacement

instance (applications : List Application) (place : Fin applications.length) :
    Decidable (IsHeard applications place) :=
  inferInstanceAs (Decidable (_ ∨ _ ∨ ¬ _))

/-- What is heard of the replacement at a place: all of it or nothing. -/
def heardAt (applications : List Application) (place : Fin applications.length) : Text :=
  if IsHeard applications place then applications[place].replacement else []

/-- The replacements that are heard, one after the other. -/
def heard (applications : List Application) : Text :=
  (List.ofFn (heardAt applications)).flatten

/-! ## One more replacement -/

/-- Whether a replacement is heard when it comes after others. -/
def IsHeardAfter (before : List Application) (own : Application) : Prop :=
  own.force = true ∨ ∀ last ∈ before.getLast?, ¬ own.replacement <:+ last.replacement

instance (before : List Application) (own : Application) : Decidable (IsHeardAfter before own) :=
  inferInstanceAs (Decidable (_ ∨ ∀ last ∈ before.getLast?, ¬ _))

/-- What comes later does not change what is heard. -/
theorem isHeard_concat_iff {before : List Application} {own : Application}
    (place : Fin before.length) (h : place.val < (before ++ [own]).length) :
    IsHeard (before ++ [own]) ⟨place, h⟩ ↔ IsHeard before place := by
  have hprevious : place.val - 1 < before.length := Nat.lt_of_le_of_lt (Nat.sub_le _ _) place.isLt
  simp only [IsHeard, Fin.getElem_fin, List.getElem_append_left place.isLt,
    List.getElem_append_left hprevious]

theorem heardAt_concat {before : List Application} {own : Application} (place : Fin before.length)
    (h : place.val < (before ++ [own]).length) :
    heardAt (before ++ [own]) ⟨place, h⟩ = heardAt before place := by
  simp only [heardAt, isHeard_concat_iff, Fin.getElem_fin, List.getElem_append_left place.isLt]

theorem isHeard_last_iff {before : List Application} {own : Application}
    (h : before.length < (before ++ [own]).length) :
    IsHeard (before ++ [own]) ⟨before.length, h⟩ ↔ IsHeardAfter before own := by
  rcases List.eq_nil_or_concat' before with rfl | ⟨earlier, last, rfl⟩
  · simp [IsHeard, IsHeardAfter]
  · simp [IsHeard, IsHeardAfter]

theorem heardAt_last {before : List Application} {own : Application}
    (h : before.length < (before ++ [own]).length) :
    heardAt (before ++ [own]) ⟨before.length, h⟩ =
      if IsHeardAfter before own then own.replacement else [] := by
  have hown : (before ++ [own])[before.length] = own := List.getElem_concat_length rfl h
  exact if_congr (isHeard_last_iff h) (congrArg replacement hown) rfl

theorem heard_concat (before : List Application) (own : Application) :
    heard (before ++ [own]) =
      heard before ++ if IsHeardAfter before own then own.replacement else [] := by
  have hlength : (before ++ [own]).length = before.length + 1 := List.length_append
  have hbefore : (fun place : Fin before.length =>
      heardAt (before ++ [own]) (Fin.cast hlength.symm place.castSucc)) = heardAt before := by
    funext place
    exact heardAt_concat place _
  have hlast : before.length < (before ++ [own]).length := hlength ▸ Nat.lt_succ_self _
  rw [heard, List.ofFn_congr hlength, List.ofFn_succ_last, List.flatten_concat, hbefore, heard,
    ← heardAt_last hlast]
  rfl

end Application

/-! ## The branch -/

/-- Only the last cut counts. -/
theorem take_take_append {α : Type} (size : Nat) (first second : List α) :
    (first.take size ++ second).take size = (first ++ second).take size := by
  have hroom : size - min size first.length = size - first.length := by omega
  rw [List.take_append, List.take_append, List.take_take, Nat.min_self, List.length_take, hroom]

namespace Branch

/-- The branch that comes of the empty one by applications, one after the other. -/
def ofApplications (applications : List Application) : Branch :=
  applications.foldl (fun branch own => branch.apply own.replacement own.force) .empty

/-- What may be done to a branch. -/
inductive Operation where
  /-- a replacement is applied -/
  | apply (own : Application)
  /-- the code is filled up -/
  | finish
  deriving DecidableEq

/-- The branch after an operation. -/
def perform (branch : Branch) : Operation → Branch
  | .apply own => branch.apply own.replacement own.force
  | .finish => branch.finish

theorem ofApplications_concat (before : List Application) (own : Application) :
    ofApplications (before ++ [own]) =
      (ofApplications before).apply own.replacement own.force :=
  List.foldl_append

theorem last_ofApplications (applications : List Application) :
    (ofApplications applications).last = applications.getLast?.map (·.replacement) := by
  rcases List.eq_nil_or_concat' applications with rfl | ⟨before, own, rfl⟩
  · rfl
  · rw [ofApplications_concat, last_apply, List.getLast?_concat, Option.map_some]

/-- A branch adds what is heard, even where nothing of it is left after the cut. -/
theorem adds_ofApplications_iff {before : List Application} {own : Application} :
    (ofApplications before).adds own.replacement own.force = true ↔
      Application.IsHeardAfter before own := by
  rw [adds, last_ofApplications, Application.IsHeardAfter]
  cases before.getLast? with
  | none => simp
  | some last => simp [← List.isSuffixOf_iff_suffix]

/-- The code is what is heard of the applications, cut once. -/
theorem code_ofApplications (applications : List Application) :
    (ofApplications applications).code = (Application.heard applications).take Code.size := by
  induction applications using List.reverseRecOn with
  | nil => rfl
  | append_singleton before own ih =>
    rw [ofApplications_concat, Application.heard_concat]
    cases hadds : (ofApplications before).adds own.replacement own.force with
    | true =>
      rw [code_apply_of_adds hadds, ih, take_take_append, if_pos (adds_ofApplications_iff.mp hadds)]
    | false =>
      have hunheard : ¬ Application.IsHeardAfter before own := by
        rw [← adds_ofApplications_iff, hadds]
        exact Bool.false_ne_true
      rw [code_apply_of_not_adds hadds, ih, if_neg hunheard, List.append_nil]

/-- After `54` the `4` is not heard, though it is remembered, so that the next `54` is. -/
example : Application.heard [⟨"0".toList, false⟩, ⟨"54".toList, false⟩, ⟨"4".toList, false⟩,
    ⟨"54".toList, false⟩] = "05454".toList := by
  decide

/-- Whatever is done to a full branch, it keeps its code. -/
theorem code_perform_of_full {branch : Branch} (h : branch.code.length = Code.size)
    (operation : Operation) : (branch.perform operation).code = branch.code := by
  cases operation with
  | apply own => exact code_apply_of_full h own.replacement own.force
  | finish => exact code_finish_of_full h

theorem code_foldl_perform_of_full {branch : Branch} (h : branch.code.length = Code.size)
    (operations : List Operation) : (operations.foldl perform branch).code = branch.code := by
  induction operations generalizing branch with
  | nil => rfl
  | cons operation rest ih =>
    have hcode := code_perform_of_full h operation
    rw [List.foldl_cons, ih (hcode ▸ h), hcode]

/-- The code that comes of any applications is the first six characters of the replacements that
are heard, and the last replacement is the last one applied, whether heard or not.  Finishing fills
the code up to six characters, and whatever is done to the branch then leaves it as it is. -/
theorem closed_form (applications : List Application) :
    (ofApplications applications).code = (Application.heard applications).take Code.size ∧
      (ofApplications applications).last = applications.getLast?.map (·.replacement) ∧
      (ofApplications applications).finish.code =
        ((Application.heard applications).take Code.size).rightpad Code.size Code.filler ∧
      (ofApplications applications).finish.code.length = Code.size ∧
      ∀ operations : List Operation,
        (operations.foldl perform (ofApplications applications).finish).code =
          (ofApplications applications).finish.code := by
  refine ⟨code_ofApplications applications, last_ofApplications applications, ?_,
    length_code_finish _, code_foldl_perform_of_full (length_code_finish _)⟩
  rw [code_finish, code_ofApplications, List.rightpad]

end Branch

end Soundalike
