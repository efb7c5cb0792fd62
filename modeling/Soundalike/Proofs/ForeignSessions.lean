import Mathlib.Data.List.Basic
import Mathlib.Data.List.Forall2
import Mathlib.Data.List.TakeWhile
import Soundalike.Foreign.Call
import Soundalike.Text.Utf8

set_option autoImplicit false

/-!
# Strings and handles

A pointer holds a text if the bytes before its first zero are the UTF-8 form of the text (`Holds`),
so no text that a caller passes has U+0000.  A text without U+0000 is given back as it is
(`shows_writeText`), and an array of such texts is seen to its end (`forall₂_shows_walk`).

Calls on other handles do not change which encoder a handle has.  As long as a handle is neither
freed nor set again it keeps its rules, and its folding is that of the latest call that turned it
(`get?_after_of_some`); a handle without an encoder stays without one (`get?_after_of_none`).
-/

namespace Soundalike.Foreign

section

/-- The character that no string can hold. -/
def zero : Char := '\x00'

variable {pointer : Pointer} {text : Text}

theorem zero_mem_toUtf8_iff : 0 ∈ Text.toUtf8 text ↔ zero ∈ text :=
  Text.mem_toUtf8_iff (by decide) (by decide) text

/-! ## What callers pass -/

/-- A pointer holds a text. -/
def Holds (pointer : Pointer) (text : Text) : Prop :=
  ∃ bytes, pointer = some bytes ∧ bytes.takeWhile (· ≠ 0) = Text.toUtf8 text

theorem readText_eq_some_iff : readText pointer = some text ↔ Holds pointer text := by
  cases pointer with
  | none =>
    constructor
    · intro h
      cases h
    · rintro ⟨bytes, h, -⟩
      cases h
  | some bytes =>
    rw [readText, Option.bind_some, Text.ofUtf8?_eq_some_iff, eq_comm]
    constructor
    · intro h
      exact ⟨bytes, rfl, h⟩
    · rintro ⟨_, ⟨⟩, h⟩
      exact h

theorem readText_eq_none_iff : readText pointer = none ↔ ∀ text, ¬ Holds pointer text := by
  simp only [← readText_eq_some_iff, Option.eq_none_iff_forall_ne_some, ne_eq]

theorem Holds.zero_not_mem (h : Holds pointer text) : zero ∉ text := by
  obtain ⟨bytes, -, hbytes⟩ := h
  rw [← zero_mem_toUtf8_iff, ← hbytes]
  intro hmem
  simpa using List.mem_takeWhile_imp hmem

/-! ## What is given back -/

/-- A pointer shows a text: its UTF-8 form, which has no zero, and the zero that ends it. -/
def Shows (pointer : Pointer) (text : Text) : Prop :=
  0 ∉ Text.toUtf8 text ∧ pointer = some (Text.toUtf8 text ++ [0])

theorem shows_writeText (h : zero ∉ text) : Shows (writeText text) text := by
  have hbytes : 0 ∉ Text.toUtf8 text := mt zero_mem_toUtf8_iff.mp h
  exact ⟨hbytes, congrArg some (if_neg hbytes)⟩

theorem walk_writeTexts (texts : List Text) : walk (writeTexts texts) = texts.map writeText := by
  have hsome : ∀ pointer ∈ texts.map writeText, pointer.isSome = true := by
    intro pointer hmem
    obtain ⟨text, -, rfl⟩ := List.mem_map.mp hmem
    rfl
  rw [walk, writeTexts, List.takeWhile_append_of_pos hsome, List.takeWhile_cons_of_neg (by decide),
    List.append_nil]

/-- Walking an array shows its texts, one by one and no other. -/
theorem forall₂_shows_walk {texts : List Text} (h : ∀ text ∈ texts, zero ∉ text) :
    List.Forall₂ Shows (walk (writeTexts texts)) texts := by
  rw [walk_writeTexts, List.forall₂_map_left_iff, List.forall₂_same]
  exact fun text hmem => shows_writeText (h text hmem)

end

/-! ## Looking up other handles -/

namespace Session

variable {session : Session} {handle other : Int}

theorem get?_free_of_ne (h : other ≠ handle) :
    (session.free handle).get? other = session.get? other := by
  rw [get?, get?, free, Option.bind_some, Option.bind_some]
  exact lookup_filter_ne h

theorem get?_set_of_ne (h : other ≠ handle) (encoder : Encoder) :
    (session.set handle encoder).get? other = session.get? other := by
  have hother : (other == handle) = false := beq_eq_false_iff_ne.mpr h
  refine Eq.trans ?_ (get?_free_of_ne h)
  rw [set, get?, get?, Option.bind_some, Option.bind_some, List.lookup_cons, hother]

theorem get?_createFrom_of_ne (h : other ≠ handle) (rules : Pointer) (folding : Int) :
    (session.createFrom handle rules folding).1.get? other = session.get? other := by
  rw [createFrom]
  cases encoderOf rules folding with
  | ok encoder => exact get?_set_of_ne h encoder
  | error error => exact get?_free_of_ne h

theorem get?_setFolding_of_ne (h : other ≠ handle) (folding : Int) :
    (session.setFolding handle folding).get? other = session.get? other := by
  rw [setFolding]
  cases session.get? handle with
  | none => rfl
  | some encoder => exact get?_set_of_ne h _

theorem get?_setFolding (session : Session) (handle folding : Int) :
    (session.setFolding handle folding).get? handle =
      (session.get? handle).map fun encoder => { encoder with folding := folding ≠ 0 } := by
  rw [setFolding]
  cases hget : session.get? handle with
  | none => exact hget
  | some encoder => exact get?_set ..

end Session

/-! ## One call -/

namespace Call

/-- A call spares a handle if it neither frees it nor sets it to another encoder. -/
def Spares (handle : Int) : Call → Prop
  | .create other _ => other ≠ handle
  | .createFrom other _ _ _ => other ≠ handle
  | .free other => other ≠ some handle
  | _ => True

/-- The folding value that a call gives to a handle. -/
def folding? (handle : Int) : Call → Option Int
  | .setFolding other folding => if other = some handle then some folding else none
  | _ => none

/-- The encoder of a handle after a call that spares it. -/
def refold (handle : Int) (call : Call) (encoder : Encoder) : Encoder :=
  match call.folding? handle with
  | none => encoder
  | some folding => { encoder with folding := folding ≠ 0 }

theorem refold_of_folding?_eq_none {handle : Int} {call : Call}
    (h : call.folding? handle = none) : call.refold handle = id := by
  funext encoder
  rw [refold, h]
  rfl

end Call

namespace Session

/-- A call that spares a handle leaves its encoder to it, and at most turns the folding. -/
theorem get?_perform_of_spares {handle : Int} {call : Call} (h : call.Spares handle)
    (session : Session) :
    (session.perform call).1.get? handle = (session.get? handle).map (call.refold handle) := by
  have hsame : call.folding? handle = none →
      (session.get? handle).map (call.refold handle) = session.get? handle := by
    intro hnone
    rw [Call.refold_of_folding?_eq_none hnone, Option.map_id]
    rfl
  cases call with
  | create other folding => rw [hsame rfl, perform, create, get?_set_of_ne (Ne.symm h)]
  | createFrom other rules folding wantsError =>
    rw [hsame rfl]
    exact get?_createFrom_of_ne (Ne.symm h) rules folding
  | free other =>
    rw [hsame rfl]
    cases other with
    | none => rfl
    | some number => exact get?_free_of_ne fun heq => h (congrArg some heq.symm)
  | setFolding other folding =>
    cases other with
    | none => exact (hsame rfl).symm
    | some number =>
      by_cases hnumber : number = handle
      · subst hnumber
        have hrefold : (Call.setFolding (some number) folding).refold number =
            fun encoder => { encoder with folding := folding ≠ 0 } := by
          funext encoder
          rw [Call.refold, Call.folding?, if_pos rfl]
        rw [hrefold]
        exact get?_setFolding session number folding
      · rw [hsame (if_neg (by simpa using hnumber))]
        exact get?_setFolding_of_ne (Ne.symm hnumber) folding
  | encode other text => exact (hsame rfl).symm
  | soundex other text => exact (hsame rfl).symm
  | codes other text => exact (hsame rfl).symm
  | version => exact (hsame rfl).symm

end Session

/-! ## Calls in a row -/

/-- The latest folding value of a handle after calls. -/
def latestFolding (handle initial : Int) (calls : List Call) : Int :=
  (calls.filterMap (Call.folding? handle)).getLast?.getD initial

theorem latestFolding_cons (handle initial : Int) (call : Call) (calls : List Call) :
    latestFolding handle initial (call :: calls) =
      latestFolding handle ((call.folding? handle).getD initial) calls := by
  rw [latestFolding, latestFolding]
  cases hfolding : call.folding? handle with
  | none => rw [List.filterMap_cons_none hfolding, Option.getD_none]
  | some folding =>
    rw [List.filterMap_cons_some hfolding, List.getLast?_cons, Option.getD_some, Option.getD_some]

namespace Session

variable {session : Session} {handle : Int} {calls : List Call}

theorem get?_after_of_some (hspares : ∀ call ∈ calls, call.Spares handle) {rules : RuleSet}
    {initial : Int} (hget : session.get? handle = some ⟨rules, decide (initial ≠ 0)⟩) :
    (session.after calls).get? handle =
      some ⟨rules, decide (latestFolding handle initial calls ≠ 0)⟩ := by
  induction calls generalizing session initial with
  | nil => exact hget
  | cons call calls ih =>
    obtain ⟨hcall, hcalls⟩ := List.forall_mem_cons.mp hspares
    rw [latestFolding_cons]
    refine ih hcalls ?_
    rw [get?_perform_of_spares hcall, hget, Option.map_some, Call.refold]
    cases call.folding? handle with
    | none => rfl
    | some folding => rfl

theorem get?_after_of_none (hspares : ∀ call ∈ calls, call.Spares handle)
    (hget : session.get? handle = none) : (session.after calls).get? handle = none := by
  induction calls generalizing session with
  | nil => exact hget
  | cons call calls ih =>
    obtain ⟨hcall, hcalls⟩ := List.forall_mem_cons.mp hspares
    refine ih hcalls ?_
    rw [get?_perform_of_spares hcall, hget, Option.map_none]

end Session

end Soundalike.Foreign
