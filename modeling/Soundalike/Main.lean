import Soundalike.CommandLine.Program

set_option autoImplicit false

/-!
# The command line

Gathers what a program needs, runs it, and writes what it leaves.  The first argument says which of
the programs is meant.
-/

namespace Soundalike.CommandLine

/-- The reason why a path cannot be read, as the system gives it. -/
def readErrorOf : IO.Error → File.ReadError
  | .noFileOrDirectory .. => .notFound
  | .inappropriateType _ code _ => if code = 21 then .isDirectory else .notDirectory
  | error => .other (toString error)

/-- Reads the file of a path. -/
def readFile (path : Text) : IO (Except File.ReadError (List UInt8)) := do
  if '\x00' ∈ path then return .error .zeroInPath
  try
    let bytes ← IO.FS.readBinFile (String.ofList path)
    return .ok bytes.toList
  catch error => return .error (readErrorOf error)

/-- Gathers what is around a program and runs it. -/
def start (program : Program) (arguments : List Text) : IO Outcome := do
  let named ← IO.getEnv Program.rulesPathVariable
  let rulesPath := named.map String.toList
  let mut files : List (Text × Except File.ReadError (List UInt8)) := []
  for path in program.paths arguments rulesPath do
    files := (path, ← readFile path) :: files
  let found := files
  let input ← if program.readsInput arguments then (← IO.getStdin).readBinToEnd
    else pure ByteArray.empty
  return program.run arguments {
    rulesPath := rulesPath
    reader := fun path => (found.lookup path).getD (.error .notFound)
    input := input.toList }

end Soundalike.CommandLine

open Soundalike.CommandLine in
/-- Runs the program that the first argument names. -/
def main (arguments : List String) : IO UInt32 := do
  match arguments with
  | called :: rest =>
    match Program.ofName? called with
    | some program =>
      let outcome ← start program (rest.map String.toList)
      IO.print (String.ofList outcome.stdout)
      IO.eprint (String.ofList outcome.stderr)
      return UInt32.ofNat outcome.exitCode
    | none =>
      IO.eprintln "error: no such program"
      return 1
  | [] =>
    IO.eprintln "usage: dms-encode | dms-soundex | dms-rules-check, followed by arguments"
    return 1
