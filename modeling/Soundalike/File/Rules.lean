import Soundalike.File.Tree
import Soundalike.Log

set_option autoImplicit false

/-!
# Rule files

A rule file is read and parsed as a whole.  An encoder takes its rules from the file that is named
for it, or else from the one that the surroundings name; where neither is named, or the name that
counts is empty, it takes the Daitch-Mokotoff rules.

A rule file is loaded exactly if its path gives the UTF-8 form of a source that can be parsed, and
then with the rule set of that source (`readRules_eq_ok_iff`).
-/

namespace Soundalike.File

/-- Why a rule file gives no rule set. -/
inductive RulesError where
  /-- the file cannot be read -/
  | unreadable (path : Text) (cause : ReadError)
  /-- a line of it is no statement -/
  | malformed (error : SourceError)
  deriving DecidableEq

/-- The wording of an error. -/
def RulesError.message : RulesError → String
  | .unreadable path cause =>
    let path := String.ofList path
    let cause := cause.message
    s!"failed to read rule source {path}: {cause}"
  | .malformed error => error.message

/-- Reads the rule set of a file. -/
def readRules (reader : Reader) (path : Text) : Except RulesError RuleSet :=
  match readText reader path with
  | .error cause => .error (.unreadable path cause)
  | .ok source => (RuleSet.parse source).mapError .malformed

/-- The wording of an error for the reader of a terminal, which names the file. -/
def RulesError.report (path : Text) (error : RulesError) : String :=
  let path := String.ofList path
  let message := error.message
  s!"{path}: {message}"

/-- The rule file that counts: the one named outright, or else the one that the surroundings name.
An empty name stands for no file. -/
def chosenPath (named surrounding : Option Text) : Option Text :=
  (named.or surrounding).filter (· ≠ [])

/-- An encoder over the rules that were chosen, with the records of loading them; an error comes
with the path of the file. -/
def loadEncoder (reader : Reader) (path : Option Text) (folding : Bool) :
    Except (Text × RulesError) (Encoder × List Log.Event) :=
  match path with
  | none => .ok ({ folding }, [.bundled])
  | some path =>
    match readRules reader path with
    | .error error => .error (path, error)
    | .ok rules => .ok ({ rules, folding }, [.loading path, .ofRuleSet rules])

/-! ## Which rule files are loaded -/

section

variable {reader : Reader} {path : Text}

theorem readText_eq_ok_iff {text : Text} :
    readText reader path = .ok text ↔ reader path = .ok (Text.toUtf8 text) := by
  rw [readText]
  cases reader path with
  | error error =>
    constructor
    · intro h
      cases h
    · intro h
      cases h
  | ok bytes =>
    rw [Except.ok.injEq, eq_comm (a := bytes), ← Text.ofUtf8?_eq_some_iff]
    dsimp only
    cases Text.ofUtf8? bytes with
    | none =>
      constructor
      · intro h
        cases h
      · intro h
        cases h
    | some found => rw [Except.ok.injEq, Option.some.injEq]

theorem readRules_of_readText {source : Text} (h : readText reader path = .ok source) :
    readRules reader path = (RuleSet.parse source).mapError .malformed := by
  rw [readRules, h]

/-- A rule file is loaded exactly if it holds a source that can be parsed. -/
theorem readRules_eq_ok_iff {rules : RuleSet} :
    readRules reader path = .ok rules ↔
      ∃ source, reader path = .ok (Text.toUtf8 source) ∧ RuleSet.parse source = .ok rules := by
  constructor
  · intro h
    cases hread : readText reader path with
    | error error =>
      rw [readRules, hread] at h
      cases h
    | ok source =>
      refine ⟨source, readText_eq_ok_iff.mp hread, ?_⟩
      rw [readRules_of_readText hread] at h
      cases hparse : RuleSet.parse source with
      | error error =>
        rw [hparse] at h
        cases h
      | ok parsed =>
        rw [hparse] at h
        obtain rfl : parsed = rules := Except.ok.inj h
        rfl
  · rintro ⟨source, hsource, hparse⟩
    rw [readRules_of_readText (readText_eq_ok_iff.mpr hsource), hparse]
    rfl

/-- An encoder is loaded where no file is named, over the Daitch-Mokotoff rules, or where the file
that is named can be loaded, over its rules; there is one record of it, or two. -/
theorem loadEncoder_eq_ok_iff {named : Option Text} {folding : Bool} {encoder : Encoder}
    {events : List Log.Event} :
    loadEncoder reader named folding = .ok (encoder, events) ↔
      encoder.folding = folding ∧
        (named = none ∧ encoder.rules = Bundled.ruleSet ∧ events = [.bundled] ∨
          ∃ path, named = some path ∧ readRules reader path = .ok encoder.rules ∧
            events = [.loading path, .ofRuleSet encoder.rules]) := by
  constructor
  · intro h
    cases named with
    | none =>
      cases h
      exact ⟨rfl, Or.inl ⟨rfl, rfl, rfl⟩⟩
    | some path =>
      cases hread : readRules reader path with
      | error error =>
        rw [loadEncoder, hread] at h
        cases h
      | ok rules =>
        rw [loadEncoder, hread] at h
        cases h
        exact ⟨rfl, Or.inr ⟨path, rfl, hread, rfl⟩⟩
  · obtain ⟨rules, letters⟩ := encoder
    rintro ⟨rfl, ⟨rfl, rfl, rfl⟩ | ⟨path, rfl, hread, rfl⟩⟩
    · rfl
    · rw [loadEncoder, hread]

end

end Soundalike.File
