import Soundalike.Encoder
import Soundalike.Text.Quoted

set_option autoImplicit false

/-!
# What is logged

The events that are worth a record while rules are loaded and names are encoded, with their levels
and their wording.  All levels are below those of warnings and errors, so a record is shown only
where a filter asks for its level.  The records of a name follow the steps of its scan and show how
many branches are live after each.
-/

namespace Soundalike.Log

/-- How much a record matters. -/
inductive Level where
  | trace
  | debug
  | info
  deriving DecidableEq, Repr

/-- The name of a level. -/
def Level.name : Level → String
  | .trace => "TRACE"
  | .debug => "DEBUG"
  | .info => "INFO"

/-- A level can be told from its name. -/
theorem Level.eq_of_name_eq {first second : Level} (h : first.name = second.name) :
    first = second := by
  cases first <;> cases second <;> simp_all [name]

/-- What a record is about. -/
inductive Event where
  /-- rules are about to be read from a file -/
  | loading (path : Text)
  /-- the Daitch-Mokotoff rules are used -/
  | bundled
  /-- a rule source was read -/
  | loaded (rules groups foldings : Nat)
  /-- a step of a name was taken, after which `live` branches are live -/
  | applied (name : Text) (step : Step) (live : Nat)
  deriving DecidableEq

namespace Event

/-- How much an event matters. -/
def level : Event → Level
  | .loading _ => .info
  | .bundled => .debug
  | .loaded .. => .debug
  | .applied .. => .trace

/-- The wording of an event. -/
def message : Event → String
  | .loading path =>
    let path := String.ofList path
    s!"loading rules from {path}"
  | .bundled => "using bundled rules"
  | .loaded rules groups foldings =>
    s!"loaded {rules} rules in {groups} groups, {foldings} foldings"
  | .applied name step live =>
    let name := String.ofList (Text.quoted name)
    let position := step.position
    let rule := String.ofList step.rule.display
    s!"{name} @{position}: {rule} -> {live} branch(es)"

/-- The record of a step shows the name in quotes, and then the step. -/
theorem message_applied (name : Text) (step : Step) (live : Nat) :
    (applied name step live).message =
      String.ofList (Text.quoted name) ++ " @" ++ toString step.position ++ ": " ++
        String.ofList step.rule.display ++ " -> " ++ toString live ++ " branch(es)" := rfl

/-- The record of a rule set that was read. -/
def ofRuleSet (rules : RuleSet) : Event :=
  .loaded rules.table.size rules.table.groupCount rules.folding.size

end Event

/-- The records of encoding a name, one for each step. -/
def ofName (encoder : Encoder) (choice : Choice) (name : Text) : List Event :=
  (liveAfterEach choice [.empty] (encoder.steps name)).map fun (step, live) =>
    .applied name step live.length

/-! ## The records of a name -/

variable {encoder : Encoder} {choice : Choice} {name : Text}

/-- A record is about the step at its place, and counts the branches that are live after it. -/
theorem getElem?_ofName (place : Nat) :
    (ofName encoder choice name)[place]? =
      (encoder.steps name)[place]?.map fun step =>
        .applied name step
          (liveAfter choice ((encoder.steps name).take (place + 1)) [.empty]).length := by
  rw [ofName, List.getElem?_map, Encoder.getElem?_liveAfterEach, Option.map_map]
  rfl

/-- A name has one record for each of its steps. -/
theorem length_ofName : (ofName encoder choice name).length = (encoder.steps name).length := by
  rw [ofName, List.length_map, Encoder.length_liveAfterEach]

theorem exists_of_mem_ofName {event : Event} (h : event ∈ ofName encoder choice name) :
    ∃ step ∈ encoder.steps name, ∃ place,
      event = .applied name step
        (liveAfter choice ((encoder.steps name).take (place + 1)) [.empty]).length := by
  obtain ⟨place, hplace⟩ := List.mem_iff_getElem?.mp h
  rw [getElem?_ofName, Option.map_eq_some_iff] at hplace
  obtain ⟨step, hstep, rfl⟩ := hplace
  exact ⟨step, List.mem_of_getElem? hstep, place, rfl⟩

end Soundalike.Log
