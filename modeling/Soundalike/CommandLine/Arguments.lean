import Soundalike.Text.Basic
import Soundalike.Text.Utf8

set_option autoImplicit false

/-!
# Arguments and names

The encoding programs share their arguments.  A rule file is named by `--rules=PATH`, or by
`--rules` or `-r` with the path as the next argument, whatever that looks like; the last one named
counts.  These arguments are taken out first.  Of the others those that start with a hyphen are
flags, and all the rest are names.

Without names among the arguments, names are read from standard input, one from a line, without the
white space around them; blank lines are passed over.  Reading ends at the first line that is not
UTF-8, and the names before it still count.
-/

namespace Soundalike.CommandLine

/-! ## The rule file -/

/-- A flag that needs a value stands last. -/
structure MissingValue where
  flag : Text
  deriving DecidableEq

/-- The wording of the error. -/
def MissingValue.message (error : MissingValue) : String :=
  let flag := String.ofList error.flag
  s!"{flag} requires a value"

/-- Arguments after the rule file was taken out. -/
structure Arguments where
  /-- the rule file that was named last -/
  rulesPath : Option Text
  /-- the other arguments, in order -/
  remaining : List Text
  deriving DecidableEq

/-- The path of an argument `--rules=PATH`. -/
def inlinePath? (argument : Text) : Option Text :=
  if "--rules=".toList.isPrefixOf argument then some (argument.drop "--rules=".length) else none

/-- Whether the next argument names a rule file. -/
def isRulesFlag (argument : Text) : Bool := argument = "--rules".toList || argument = "-r".toList

namespace Arguments

/-- Arguments before which a rule file was named. -/
def namedBefore (arguments : Arguments) (path : Text) : Arguments :=
  { arguments with rulesPath := arguments.rulesPath.or (some path) }

/-- Arguments before which another argument stood. -/
def after (arguments : Arguments) (argument : Text) : Arguments :=
  { arguments with remaining := argument :: arguments.remaining }

/-- Takes the rule file out of a list of arguments. -/
def scan : List Text → Except MissingValue Arguments
  | [] => .ok ⟨none, []⟩
  | argument :: rest =>
    match inlinePath? argument with
    | some path => (scan rest).map (·.namedBefore path)
    | none =>
      if isRulesFlag argument then
        match rest with
        | [] => .error ⟨argument⟩
        | path :: rest => (scan rest).map (·.namedBefore path)
      else (scan rest).map (·.after argument)

end Arguments

/-! ## Flags and names -/

/-- Whether help is asked for. -/
def wantsHelp (arguments : List Text) : Bool :=
  arguments.any fun argument => argument = "--help".toList || argument = "-h".toList

/-- Whether letters are to be folded. -/
def wantsFolding (arguments : List Text) : Bool :=
  !arguments.any fun argument => argument = "--no-folding".toList

/-- Whether each code is to stand on a line of its own. -/
def wantsSplit (arguments : List Text) : Bool :=
  arguments.any fun argument => argument = "--split".toList

/-- The names among the arguments. -/
def names (arguments : List Text) : List Text :=
  arguments.filter fun argument => argument.head? ≠ some '-'

/-! ## Names on standard input -/

/-- What was read from standard input. -/
structure NameList where
  /-- the names, in order -/
  names : List Text
  /-- whether all lines could be read -/
  complete : Bool
  deriving DecidableEq

namespace NameList

/-- Reads the names of lines that are still bytes. -/
def ofLines : List (List UInt8) → NameList
  | [] => ⟨[], true⟩
  | bytes :: rest =>
    match Text.ofUtf8? bytes with
    | none => ⟨[], false⟩
    | some line =>
      let later := ofLines rest
      let name := Text.trim line
      if name = [] then later else ⟨name :: later.names, later.complete⟩

/-- Reads the names of an input; a line ends at the byte of a newline. -/
def ofInput (bytes : List UInt8) : NameList := ofLines (Text.lines 10 13 bytes)

/-- The complaint about a line that cannot be read. -/
def complaint : String := "error reading stdin: stream did not contain valid UTF-8"

end NameList

end Soundalike.CommandLine
