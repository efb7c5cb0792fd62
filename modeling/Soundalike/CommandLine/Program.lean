import Soundalike.CommandLine.Arguments
import Soundalike.CommandLine.Encoding
import Soundalike.File.Rules

set_option autoImplicit false

/-!
# The programs

The program that checks rule files takes every argument for one.  For each file that can be read a
line with its numbers goes to standard output, for each other one a line with its error goes to
standard error, and the exit code says whether there was such a file.

It and the two encoding programs are functions from arguments and surroundings to an outcome.  What
each of them needs from its surroundings is said beside them: which files it may read, and whether
it reads standard input.
-/

namespace Soundalike.CommandLine

/-! ## Checking rule files -/

/-- The numbers of a rule set, under its name. -/
def report (name : Text) (rules : RuleSet) : Text :=
  let name := String.ofList name
  let size := rules.table.size
  let groups := rules.table.groupCount
  let foldings := rules.folding.size
  (s!"{name}: {size} rules, {groups} pattern groups, {foldings} foldings").toList

/-- The help of the program. -/
def rulesCheckHelp : List Text :=
  ["dms-rules-check: Validate Daitch-Mokotoff rule files.",
    "",
    "Usage: dms-rules-check [FILE...]",
    "",
    "Without FILE arguments the bundled rules are checked."].map String.toList

/-- Checks rule files one after the other; an error does not end the run. -/
def checkFiles (reader : File.Reader) : List Text → Outcome
  | [] => .printing []
  | path :: paths =>
    let later := checkFiles reader paths
    match File.readRules reader path with
    | .ok rules => { later with output := report path rules :: later.output }
    | .error error =>
      { later with
        errors := Outcome.errorLine (error.report path) :: later.errors
        exitCode := 1 }

/-- The program that checks rule files; without any it reports on the Daitch-Mokotoff rules. -/
def runRulesCheck (arguments : List Text) (reader : File.Reader) : Outcome :=
  if wantsHelp arguments then .printing rulesCheckHelp
  else if arguments = [] then .printing [report "<bundled>".toList Bundled.ruleSet]
  else checkFiles reader arguments

/-! ## The three programs -/

/-- A program of the command line. -/
inductive Program where
  /-- prints one code for each name -/
  | encode
  /-- prints every code of each name -/
  | soundex
  /-- checks rule files -/
  | rulesCheck
  deriving DecidableEq, Repr

namespace Program

/-- The name under which a program is called. -/
def name : Program → String
  | .encode => "dms-encode"
  | .soundex => "dms-soundex"
  | .rulesCheck => "dms-rules-check"

/-- The program of a name. -/
def ofName? (called : String) : Option Program :=
  [encode, soundex, rulesCheck].find? (·.name == called)

/-- The environment variable that names a rule file for the encoding programs. -/
def rulesPathVariable : String := "DMS_RULES_PATH"

/-- Runs a program. -/
def run (program : Program) (arguments : List Text) (around : Surroundings) : Outcome :=
  match program with
  | .encode => runEncode arguments around
  | .soundex => runSoundex arguments around
  | .rulesCheck => runRulesCheck arguments around.reader

/-- The files that a run may read, given the rule file that the environment names. -/
def paths (program : Program) (arguments : List Text) (surrounding : Option Text) : List Text :=
  match program with
  | .rulesCheck => arguments
  | _ =>
    match Arguments.scan arguments with
    | .error _ => []
    | .ok ⟨named, _⟩ => (File.chosenPath named surrounding).toList

/-- Whether a run may read standard input. -/
def readsInput (program : Program) (arguments : List Text) : Bool :=
  match program with
  | .rulesCheck => false
  | _ =>
    match Arguments.scan arguments with
    | .error _ => false
    | .ok ⟨_, remaining⟩ => !wantsHelp remaining && (names remaining).isEmpty

end Program

end Soundalike.CommandLine
