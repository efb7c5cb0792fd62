import Soundalike.Text.Basic
import Soundalike.Text.Utf8

set_option autoImplicit false

/-!
# Files

How a program sees the files around it: a path either gives bytes or a reason why it does not.

The files of a working directory are one such reader, as a value.  A path is followed part by part:
an empty part and `.` stay where they are, `..` goes back, and any part below a plain file fails.
Paths that leave the working directory find directories but no files.
-/

namespace Soundalike.File

/-! ## Reading -/

/-- Why a path gives no text. -/
inductive ReadError where
  /-- nothing is there -/
  | notFound
  /-- the path names a directory -/
  | isDirectory
  /-- the path goes on below a plain file -/
  | notDirectory
  /-- the path holds U+0000 -/
  | zeroInPath
  /-- the bytes are not UTF-8 -/
  | notUtf8
  /-- any other reason, in the words of the system -/
  | other (reason : String)
  deriving DecidableEq, Repr

/-- The wording of an error. -/
def ReadError.message : ReadError → String
  | .notFound => "No such file or directory (os error 2)"
  | .isDirectory => "Is a directory (os error 21)"
  | .notDirectory => "Not a directory (os error 20)"
  | .zeroInPath => "file name contained an unexpected NUL byte"
  | .notUtf8 => "stream did not contain valid UTF-8"
  | .other reason => reason

/-- What is behind each path. -/
abbrev Reader := Text → Except ReadError (List UInt8)

/-- Reads the text behind a path. -/
def readText (reader : Reader) (path : Text) : Except ReadError Text :=
  match reader path with
  | .error error => .error error
  | .ok bytes =>
    match Text.ofUtf8? bytes with
    | none => .error .notUtf8
    | some text => .ok text

/-! ## A tree of files -/

/-- What has a name in a directory. -/
inductive Entry where
  | file (bytes : List UInt8)
  | directory
  deriving DecidableEq

/-- The files and directories of a working directory, each with the parts of its name. -/
structure Tree where
  entries : List (List Text × Entry)

namespace Tree

/-- The tree of files that are given by name. -/
def ofList (files : List (Text × Entry)) : Tree :=
  ⟨files.map fun (name, entry) => (Text.split '/' name, entry)⟩

/-- What is at a place; the directories above an entry are there too. -/
def entry? (tree : Tree) (place : List Text) : Option Entry :=
  if place = [] then some .directory
  else
    match tree.entries.lookup place with
    | some entry => some entry
    | none =>
      if tree.entries.any fun (parts, _) => place.isPrefixOf parts then some .directory else none

/-- A part of a path that leads to no other name. -/
def isDots (part : Text) : Bool := part = [] || part = ['.'] || part = ['.', '.']

/-- Reads outside the working directory, where nothing has a name. -/
def readOutside (parts : List Text) : Except ReadError (List UInt8) :=
  if parts.all isDots then .error .isDirectory else .error .notFound

/-- Reads what the remaining parts of a path lead to from a place. -/
def readFrom (tree : Tree) (place : List Text) : List Text → Except ReadError (List UInt8)
  | [] =>
    match tree.entry? place with
    | none => .error .notFound
    | some .directory => .error .isDirectory
    | some (.file bytes) => .ok bytes
  | part :: rest =>
    match tree.entry? place with
    | none => .error .notFound
    | some (.file _) => .error .notDirectory
    | some .directory =>
      if part = [] || part = ['.'] then tree.readFrom place rest
      else if part = ['.', '.'] then
        if place = [] then readOutside rest else tree.readFrom place.dropLast rest
      else tree.readFrom (place ++ [part]) rest

/-- Reads the file that a path names. -/
def read (tree : Tree) : Reader := fun path =>
  if '\x00' ∈ path then .error .zeroInPath
  else
    match path with
    | [] => .error .notFound
    | '/' :: rest => readOutside (Text.split '/' rest)
    | _ => tree.readFrom [] (Text.split '/' path)

end Tree

end Soundalike.File
