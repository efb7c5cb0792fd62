import Soundalike.Encoder
import Soundalike.Text.Utf8

set_option autoImplicit false

/-!
# Calls from other languages

Callers in other languages pass text as a pointer to bytes that end at the first zero byte, or as a
null pointer.  A text that itself holds U+0000 has no such form and is given back as the empty
string.  A list of texts is given back as an array of pointers that ends at the first null pointer.

They keep encoders in variables of their own, each of which is known here by a number, its handle.
A session says which handles have an encoder, and which one.  A handle has none if its variable
holds the null pointer: because it was never set, because the encoder that was to be put there was
refused, or because the one that was there was freed, after which a caller has to let go of the
pointer.  Every question to such a handle has a null answer.  A variable is not set anew before what
it held is freed.

What callers can ask for are the steps of a session: a call may change which encoder a handle has,
and it has an answer.  A call that creates an encoder names the variable that its result is put
into, and the place that it is given for an error text holds the null pointer before.
-/

namespace Soundalike.Foreign

/-! ## Zero-terminated byte strings -/

/-- What a pointer to bytes shows: nothing if it is null, else the bytes from there on. -/
abbrev Pointer := Option (List UInt8)

/-- The bytes of a string, which ends before the first zero byte. -/
def content (bytes : List UInt8) : List UInt8 := bytes.takeWhile (· ≠ 0)

/-- The text that a caller passed; a null pointer and bytes that are not UTF-8 are none. -/
def readText (pointer : Pointer) : Option Text :=
  pointer.bind fun bytes => Text.ofUtf8? (content bytes)

/-- A text as it is given back, with its terminating zero. -/
def writeText (text : Text) : Pointer :=
  let bytes := Text.toUtf8 text
  some (if 0 ∈ bytes then [0] else bytes ++ [0])

/-- Texts as they are given back, with the null pointer that ends the array. -/
def writeTexts (texts : List Text) : List Pointer := texts.map writeText ++ [none]

/-- What a caller sees who walks an array up to its first null pointer. -/
def walk (array : List Pointer) : List Pointer := array.takeWhile Option.isSome

/-! ## Encoders behind handles -/

/-- The variables of a caller that hold an encoder, by their handles. -/
structure Session where
  encoders : List (Int × Encoder) := []

namespace Session

instance : EmptyCollection Session := ⟨{}⟩

/-- The encoder of a handle; the null pointer, passed as it is, has none. -/
def get? (session : Session) (handle : Option Int) : Option Encoder :=
  handle.bind fun number => session.encoders.lookup number

/-- Frees the encoder of a handle, and lets go of it. -/
def free (session : Session) (handle : Int) : Session :=
  ⟨session.encoders.filter (·.1 ≠ handle)⟩

/-- Puts an encoder into the variable of a handle. -/
def set (session : Session) (handle : Int) (encoder : Encoder) : Session :=
  ⟨(handle, encoder) :: (session.free handle).encoders⟩

/-- Sets a handle to a new encoder over the Daitch-Mokotoff rules; any number but zero turns folding
on. -/
def create (session : Session) (handle folding : Int) : Session :=
  session.set handle { folding := folding ≠ 0 }

/-- Why an encoder is not created from a rule source. -/
inductive CreateError where
  /-- the source is a null pointer or not UTF-8 -/
  | notText
  /-- a line of the source is no statement -/
  | malformed (error : SourceError)
  deriving DecidableEq

/-- The wording of an error. -/
def CreateError.message : CreateError → String
  | .notText => "rules is null or not valid UTF-8"
  | .malformed error => Encoder.sourceErrorMessage error

/-- The encoder over a rule source that a caller passed. -/
def encoderOf (source : Pointer) (folding : Int) : Except CreateError Encoder :=
  match readText source with
  | none => .error .notText
  | some text => (Encoder.ofSource text (folding ≠ 0)).mapError .malformed

/-- Sets a handle to a new encoder over a rule source.  If the source is refused, a null pointer is
put there, so the handle has no encoder, and the error is reported. -/
def createFrom (session : Session) (handle : Int) (source : Pointer) (folding : Int) :
    Session × Option CreateError :=
  match encoderOf source folding with
  | .ok encoder => (session.set handle encoder, none)
  | .error error => (session.free handle, some error)

/-- Turns the folding of an encoder on or off. -/
def setFolding (session : Session) (handle : Int) (folding : Int) : Session :=
  match session.get? handle with
  | none => session
  | some encoder => session.set handle { encoder with folding := folding ≠ 0 }

/-- Asks an encoder about a text; a null answer means that there is no encoder or no text. -/
def ask {α : Type} (session : Session) (handle : Option Int) (text : Pointer)
    (answer : Encoder → Text → α) : Option α :=
  match session.get? handle, readText text with
  | some encoder, some name => some (answer encoder name)
  | _, _ => none

/-- The code that follows the first alternatives. -/
def encode (session : Session) (handle : Option Int) (text : Pointer) : Pointer :=
  (session.ask handle text Encoder.encode).bind writeText

/-- All codes, with bars between them. -/
def soundex (session : Session) (handle : Option Int) (text : Pointer) : Pointer :=
  (session.ask handle text Encoder.soundex).bind writeText

/-- All codes, as an array. -/
def codes (session : Session) (handle : Option Int) (text : Pointer) : Option (List Pointer) :=
  (session.ask handle text Encoder.codes).map writeTexts

/-- The version of the encoder. -/
def version : Pointer := writeText Encoder.version.toList

/-! ## Handles -/

theorem get?_set (session : Session) (handle : Int) (encoder : Encoder) :
    (session.set handle encoder).get? handle = some encoder := by
  simp [get?, set]

theorem get?_free (session : Session) (handle : Int) :
    (session.free handle).get? handle = none := by
  simp only [get?, free, Option.bind_some, List.lookup_eq_none_iff]
  intro entry h
  have hne : entry.1 ≠ handle := by simpa using (List.mem_filter.1 h).2
  simpa using fun e => hne e.symm

end Session

/-! ## Calls -/

/-- A call of one of the functions. -/
inductive Call where
  /-- asks for an encoder over the Daitch-Mokotoff rules -/
  | create (handle folding : Int)
  /-- asks for an encoder over a rule source; an error text is only wanted if there is a place for
  it -/
  | createFrom (handle : Int) (rules : Pointer) (folding : Int) (wantsError : Bool)
  /-- frees an encoder -/
  | free (handle : Option Int)
  /-- turns the folding of an encoder on or off -/
  | setFolding (handle : Option Int) (folding : Int)
  /-- asks for the code of a text -/
  | encode (handle : Option Int) (text : Pointer)
  /-- asks for all codes of a text, with bars between them -/
  | soundex (handle : Option Int) (text : Pointer)
  /-- asks for all codes of a text, as an array -/
  | codes (handle : Option Int) (text : Pointer)
  /-- asks for the version of the encoder -/
  | version
  deriving DecidableEq

/-- What a call gives back. -/
inductive Answer where
  /-- nothing -/
  | nothing
  /-- a pointer to an encoder, which may be null, and what is in the place for an error text -/
  | created (isNull : Bool) (error : Pointer)
  /-- a string -/
  | string (pointer : Pointer)
  /-- an array of strings -/
  | array (pointers : Option (List Pointer))
  deriving DecidableEq

namespace Session

/-- What is in the place for an error text after a call, if there is such a place: it was null, and
only an error sets it. -/
def errorOut (wantsError : Bool) (error : Option CreateError) : Pointer :=
  if wantsError then error.bind fun found => writeText found.message.toList else none

/-- The session after a call, and the answer to it; calls on the null handle change nothing. -/
def perform (session : Session) : Call → Session × Answer
  | .create handle folding => (session.create handle folding, .created false none)
  | .createFrom handle rules folding wantsError =>
    let (later, error) := session.createFrom handle rules folding
    (later, .created error.isSome (errorOut wantsError error))
  | .free handle => (handle.elim session session.free, .nothing)
  | .setFolding handle folding => (handle.elim session (session.setFolding · folding), .nothing)
  | .encode handle text => (session, .string (session.encode handle text))
  | .soundex handle text => (session, .string (session.soundex handle text))
  | .codes handle text => (session, .array (session.codes handle text))
  | .version => (session, .string version)

/-- The session after calls. -/
def after (session : Session) (calls : List Call) : Session :=
  calls.foldl (fun now call => (now.perform call).1) session

end Session

end Soundalike.Foreign
