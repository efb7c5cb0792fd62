import Soundalike.CommandLine.Arguments
import Soundalike.File.Rules
import Soundalike.Text.Basic

set_option autoImplicit false

/-!
# The encoding programs

Two programs print names with their codes: one prints the code that follows the first alternatives,
the other all codes, on one line or on a line each.  Both take the names from their arguments, or
from standard input if the arguments hold none.  Programs write whole lines, so the outcome of a run
is two lists of lines and an exit code.

What is logged is not among these lines.  A log shows warnings and errors, and more only where the
surroundings ask for it with a filter.  No event of `Log` is a warning or an error, and it is
assumed throughout that no filter is set, so no record reaches standard error.
-/

namespace Soundalike.CommandLine

/-! ## What a run leaves -/

/-- The lines that a run writes, and its exit code. -/
structure Outcome where
  /-- the lines on standard output -/
  output : List Text
  /-- the lines on standard error -/
  errors : List Text
  /-- the exit code -/
  exitCode : Nat
  deriving DecidableEq

namespace Outcome

/-- All that a run writes on standard output. -/
def stdout (outcome : Outcome) : Text := Text.unlines outcome.output

/-- All that a run writes on standard error. -/
def stderr (outcome : Outcome) : Text := Text.unlines outcome.errors

/-- A run that only writes lines. -/
def printing (output : List Text) : Outcome := ⟨output, [], 0⟩

/-- The line that reports an error. -/
def errorLine (message : String) : Text := ("error: " ++ message).toList

/-- A run that ends at an error before it has written anything. -/
def failing (message : String) : Outcome := ⟨[], [errorLine message], 1⟩

end Outcome

/-! ## A run -/

/-- What a program finds around it.  A log filter is no part of it: none is set. -/
structure Surroundings where
  /-- the rule file that the environment names -/
  rulesPath : Option Text
  /-- the files -/
  reader : File.Reader
  /-- standard input -/
  input : List UInt8

/-- How the codes of a name are printed. -/
inductive Layout where
  /-- the code that follows the first alternatives -/
  | single
  /-- all codes on one line -/
  | joined
  /-- all codes on lines of their own -/
  | split
  deriving DecidableEq, Repr

/-- A line with a name and what belongs to it. -/
def row (name field : Text) : Text := name ++ '\t' :: field

/-- The lines of a name. -/
def Layout.rows (layout : Layout) (encoder : Encoder) (name : Text) : List Text :=
  match layout with
  | .single => [row name (encoder.encode name)]
  | .joined => [row name (encoder.soundex name)]
  | .split => (encoder.codes name).map (row name)

/-- Prints names; an input that cannot be read to its end is complained about. -/
def printNames (layout : Layout) (encoder : Encoder) (list : NameList) : Outcome where
  output := list.names.flatMap (layout.rows encoder)
  errors := if list.complete then [] else [NameList.complaint.toList]
  exitCode := 0

/-- The names that are to be printed: those among the arguments, or else those of the input. -/
def chosenNames (remaining : List Text) (input : List UInt8) : NameList :=
  match names remaining with
  | [] => .ofInput input
  | given => ⟨given, true⟩

/-- A run of an encoding program, given by its help and by the layout that its arguments ask for.
The records of loading the rules are dropped, as no filter asks for them. -/
def runEncoding (help : List Text) (layout : List Text → Layout) (arguments : List Text)
    (around : Surroundings) : Outcome :=
  match Arguments.scan arguments with
  | .error error => .failing error.message
  | .ok ⟨path, remaining⟩ =>
    if wantsHelp remaining then .printing help
    else
      match File.loadEncoder around.reader (File.chosenPath path around.rulesPath)
          (wantsFolding remaining) with
      | .error (path, error) => .failing (error.report path)
      | .ok (encoder, _) =>
        printNames (layout remaining) encoder (chosenNames remaining around.input)

/-! ## The two programs -/

/-- The help of the program that prints one code for each name. -/
def encodeHelp : List Text :=
  ["dms-encode: Print one Daitch-Mokotoff code per name.",
    "",
    "Usage: dms-encode [-r RULES] [OPTIONS] [NAME...]",
    "",
    "If NAME arguments are given, encodes each name.",
    "Otherwise reads names from stdin (one per line).",
    "",
    "Options:",
    "  -r, --rules PATH   Rule file replacing the bundled rules",
    "                     (default: $DMS_RULES_PATH, then bundled rules)",
    "  --no-folding       Do not fold accented characters",
    "  -h, --help         Print this help"].map String.toList

/-- The help of the program that prints every code of each name. -/
def soundexHelp : List Text :=
  ["dms-soundex: Print every Daitch-Mokotoff code of each name.",
    "",
    "Usage: dms-soundex [-r RULES] [OPTIONS] [NAME...]",
    "",
    "If NAME arguments are given, encodes each name.",
    "Otherwise reads names from stdin (one per line).",
    "",
    "Options:",
    "  -r, --rules PATH   Rule file replacing the bundled rules",
    "                     (default: $DMS_RULES_PATH, then bundled rules)",
    "  --no-folding       Do not fold accented characters",
    "  --split            Print each code on its own line",
    "  -h, --help         Print this help"].map String.toList

/-- The program that prints one code for each name. -/
def runEncode (arguments : List Text) (around : Surroundings) : Outcome :=
  runEncoding encodeHelp (fun _ => .single) arguments around

/-- The program that prints every code of each name. -/
def runSoundex (arguments : List Text) (around : Surroundings) : Outcome :=
  runEncoding soundexHelp (fun remaining => if wantsSplit remaining then .split else .joined)
    arguments around

end Soundalike.CommandLine
