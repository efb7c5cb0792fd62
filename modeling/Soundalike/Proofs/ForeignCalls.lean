import Soundalike.Proofs.ForeignSessions
import Soundalike.Proofs.RuleCharacters

set_option autoImplicit false

/-!
# Answers across the interface

No encoder of a session writes U+0000: the Daitch-Mokotoff rules do not, and a source that a caller
passes has none (`IsZeroFree.after`).  So every code is given back as it is, and so is every error
text.  After any calls a handle answers as its encoder does, the encoder over the source it was
created from with the folding that was set last (`answers_are_faithful`).
-/

namespace Soundalike.Foreign

/-! ## Error texts -/

theorem zero_not_mem_toString (number : Nat) : zero ∉ (toString number).toList :=
  Text.not_mem_toString (by decide) number

/-- Beside the line that it shows, the wording of an error has no U+0000. -/
theorem zero_not_mem_message {error : SourceError} (h : zero ∉ error.written) :
    zero ∉ error.message.toList := by
  obtain ⟨number, written, fault⟩ := error
  have hnumber := zero_not_mem_toString number
  have hwritten : zero ∉ (String.ofList written).toList := by rwa [String.toList_ofList]
  cases fault with
  | malformedRule parts =>
    simp only [SourceError.message, String.toList_append, List.mem_append, not_or]
    exact ⟨⟨⟨⟨⟨by decide, hnumber⟩, by decide⟩, zero_not_mem_toString parts⟩, by decide⟩, hwritten⟩
  | malformedFolding parts =>
    simp only [SourceError.message, String.toList_append, List.mem_append, not_or]
    exact ⟨⟨⟨⟨⟨by decide, hnumber⟩, by decide⟩, zero_not_mem_toString parts⟩, by decide⟩, hwritten⟩
  | sideNotSingle =>
    simp only [SourceError.message, String.toList_append, List.mem_append, not_or]
    exact ⟨⟨⟨by decide, hnumber⟩, by decide⟩, hwritten⟩
  | emptyPattern =>
    simp only [SourceError.message, String.toList_append, List.mem_append, not_or]
    exact ⟨⟨⟨by decide, hnumber⟩, by decide⟩, hwritten⟩

namespace Session

variable {session : Session} {handle folding : Int} {rules text : Pointer} {encoder : Encoder}

/-! ## Creating an encoder -/

section

variable {source : Text}

theorem encoderOf_of_parse {ruleSet : RuleSet} (hsource : Holds rules source)
    (hparse : RuleSet.parse source = .ok ruleSet) (folding : Int) :
    encoderOf rules folding = .ok ⟨ruleSet, decide (folding ≠ 0)⟩ := by
  rw [encoderOf, readText_eq_some_iff.mpr hsource]
  dsimp only
  rw [Encoder.ofSource, hparse]
  rfl

theorem encoderOf_of_error {error : SourceError} (hsource : Holds rules source)
    (hparse : RuleSet.parse source = .error error) (folding : Int) :
    encoderOf rules folding = .error (.malformed error) := by
  rw [encoderOf, readText_eq_some_iff.mpr hsource]
  dsimp only
  rw [Encoder.ofSource, hparse]
  rfl

theorem encoderOf_of_notText (h : ∀ source, ¬ Holds rules source) (folding : Int) :
    encoderOf rules folding = .error .notText := by
  rw [encoderOf, readText_eq_none_iff.mpr h]

theorem createFrom_of_ok (h : encoderOf rules folding = .ok encoder) :
    session.createFrom handle rules folding = (session.set handle encoder, none) := by
  rw [createFrom, h]

theorem createFrom_of_error {error : CreateError} (h : encoderOf rules folding = .error error) :
    session.createFrom handle rules folding = (session.free handle, some error) := by
  rw [createFrom, h]

/-- A source that can be parsed gives an encoder, and no error text. -/
theorem perform_createFrom_of_parse {ruleSet : RuleSet} (hsource : Holds rules source)
    (hparse : RuleSet.parse source = .ok ruleSet) (session : Session) (handle folding : Int)
    (wantsError : Bool) :
    session.perform (.createFrom handle rules folding wantsError) =
      (session.set handle ⟨ruleSet, decide (folding ≠ 0)⟩, .created false none) := by
  rw [perform, createFrom_of_ok (encoderOf_of_parse hsource hparse folding)]
  cases wantsError with
  | false => rfl
  | true => rfl

end

/-! ## Sessions without U+0000 -/

/-- No encoder of a session uses U+0000. -/
def IsZeroFree (session : Session) : Prop :=
  ∀ (handle : Int) (encoder : Encoder), session.get? handle = some encoder →
    ¬ encoder.rules.table.Uses zero

theorem isZeroFree_empty : IsZeroFree ∅ := by
  intro handle encoder h
  cases h

theorem IsZeroFree.free (h : session.IsZeroFree) (handle : Int) :
    (session.free handle).IsZeroFree := by
  intro other encoder hget
  by_cases hother : other = handle
  · rw [hother, get?_free] at hget
    cases hget
  · exact h other encoder (get?_free_of_ne hother ▸ hget)

theorem IsZeroFree.set (h : session.IsZeroFree) (handle : Int)
    (hencoder : ¬ encoder.rules.table.Uses zero) : (session.set handle encoder).IsZeroFree := by
  intro other found hget
  by_cases hother : other = handle
  · rw [hother, get?_set] at hget
    exact Option.some.inj hget ▸ hencoder
  · exact h other found (get?_set_of_ne hother encoder ▸ hget)

theorem IsZeroFree.setFolding (h : session.IsZeroFree) (handle folding : Int) :
    (session.setFolding handle folding).IsZeroFree := by
  rw [Session.setFolding]
  cases hget : session.get? handle with
  | none => exact h
  | some encoder => exact h.set handle (h handle encoder hget)

theorem not_uses_zero_bundled : ¬ Bundled.ruleSet.table.Uses zero :=
  fun huses => absurd (Bundled.isNumeric_ruleSet.isDigit_of_uses huses) (by decide)

theorem not_uses_zero_of_encoderOf (h : encoderOf rules folding = .ok encoder) :
    ¬ encoder.rules.table.Uses zero := by
  cases hread : readText rules with
  | none =>
    rw [encoderOf, hread] at h
    cases h
  | some source =>
    have hsource : Holds rules source := readText_eq_some_iff.mp hread
    cases hparse : RuleSet.parse source with
    | error error =>
      rw [encoderOf_of_error hsource hparse folding] at h
      cases h
    | ok ruleSet =>
      rw [encoderOf_of_parse hsource hparse folding] at h
      obtain rfl := Except.ok.inj h
      exact fun huses => hsource.zero_not_mem (RuleSet.mem_source_of_uses hparse huses)

theorem IsZeroFree.createFrom (h : session.IsZeroFree) (handle : Int) (rules : Pointer)
    (folding : Int) : (session.createFrom handle rules folding).1.IsZeroFree := by
  cases hencoder : encoderOf rules folding with
  | ok encoder =>
    rw [createFrom_of_ok hencoder]
    exact h.set handle (not_uses_zero_of_encoderOf hencoder)
  | error error =>
    rw [createFrom_of_error hencoder]
    exact h.free handle

/-- A call keeps a session free of U+0000. -/
theorem IsZeroFree.perform (h : session.IsZeroFree) (call : Call) :
    (session.perform call).1.IsZeroFree := by
  cases call with
  | create handle folding => exact h.set handle not_uses_zero_bundled
  | createFrom handle rules folding wantsError => exact h.createFrom handle rules folding
  | free handle =>
    cases handle with
    | none => exact h
    | some number => exact h.free number
  | setFolding handle folding =>
    cases handle with
    | none => exact h
    | some number => exact h.setFolding number folding
  | encode handle text => exact h
  | soundex handle text => exact h
  | codes handle text => exact h
  | version => exact h

theorem IsZeroFree.after (h : session.IsZeroFree) (calls : List Call) :
    (session.after calls).IsZeroFree := by
  induction calls generalizing session with
  | nil => exact h
  | cons call calls ih => exact ih (h.perform call)

/-! ## Answers -/

theorem zero_not_mem_of_mem_run (hzero : ¬ encoder.rules.table.Uses zero) {choice : Choice}
    {name : Text} {code : Code} (hcode : code ∈ encoder.run choice name) : zero ∉ code := by
  intro hmem
  rcases Encoder.uses_of_mem_run hcode hmem with huses | hfiller
  · exact hzero huses
  · exact absurd hfiller (by decide)

theorem zero_not_mem_soundex (hzero : ¬ encoder.rules.table.Uses zero) (name : Text) :
    zero ∉ encoder.soundex name := by
  intro hmem
  rcases Encoder.uses_of_mem_soundex hmem with huses | hfiller | hbar
  · exact hzero huses
  · exact absurd hfiller (by decide)
  · exact absurd hbar (by decide)

/-- A handle answers as an encoder does: about a text with its code, with its joined codes, and with
an array that shows just the codes that were joined, and with null about a pointer that holds no
text. -/
structure AnswersAs (session : Session) (handle : Option Int) (encoder : Encoder) : Prop where
  encode {text : Pointer} {name : Text} (h : Holds text name) :
    Shows (session.encode handle text) (encoder.encode name)
  soundex {text : Pointer} {name : Text} (h : Holds text name) :
    Shows (session.soundex handle text) (encoder.soundex name)
  codes {text : Pointer} {name : Text} (h : Holds text name) :
    ∃ array, session.codes handle text = some array ∧
      List.Forall₂ Shows (walk array) (encoder.codes name) ∧
      Shows (session.soundex handle text) (Code.join (encoder.codes name))
  null {text : Pointer} (h : ∀ name, ¬ Holds text name) :
    session.encode handle text = none ∧ session.soundex handle text = none ∧
      session.codes handle text = none

/-- A handle has only null answers. -/
def AnswersNull (session : Session) (handle : Option Int) : Prop :=
  ∀ text, session.encode handle text = none ∧ session.soundex handle text = none ∧
    session.codes handle text = none

theorem ask_eq_none_of_get? {α : Type} {handle : Option Int} (h : session.get? handle = none)
    (text : Pointer) (answer : Encoder → Text → α) : session.ask handle text answer = none := by
  rw [ask, h]

theorem ask_eq_none_of_readText {α : Type} (h : readText text = none) (session : Session)
    (handle : Option Int) (answer : Encoder → Text → α) :
    session.ask handle text answer = none := by
  rw [ask, h]
  cases session.get? handle with
  | none => rfl
  | some encoder => rfl

theorem ask_eq_some {α : Type} {handle : Option Int} {name : Text}
    (hget : session.get? handle = some encoder) (hname : Holds text name)
    (answer : Encoder → Text → α) :
    session.ask handle text answer = some (answer encoder name) := by
  rw [ask, hget, readText_eq_some_iff.mpr hname]

theorem answersNull_of_get? {handle : Option Int} (h : session.get? handle = none) :
    session.AnswersNull handle := by
  intro text
  refine ⟨?_, ?_, ?_⟩
  · rw [Session.encode, ask_eq_none_of_get? h, Option.bind_none]
  · rw [Session.soundex, ask_eq_none_of_get? h, Option.bind_none]
  · rw [Session.codes, ask_eq_none_of_get? h, Option.map_none]

/-- Where no alternative has U+0000, a handle answers as its encoder does. -/
theorem answersAs_of_get? {handle : Option Int} (hget : session.get? handle = some encoder)
    (hzero : ¬ encoder.rules.table.Uses zero) : session.AnswersAs handle encoder where
  encode {text name} h := by
    rw [Session.encode, ask_eq_some hget h]
    exact shows_writeText (zero_not_mem_of_mem_run hzero (encoder.encode_mem_run name))
  soundex {text name} h := by
    rw [Session.soundex, ask_eq_some hget h]
    exact shows_writeText (zero_not_mem_soundex hzero name)
  codes {text name} h := by
    rw [Session.codes, Session.soundex, ask_eq_some hget h, ask_eq_some hget h]
    refine ⟨_, rfl, forall₂_shows_walk fun code hcode => zero_not_mem_of_mem_run hzero hcode, ?_⟩
    exact shows_writeText (zero_not_mem_soundex hzero name)
  null {text} h := by
    have hread : readText text = none := readText_eq_none_iff.mpr h
    refine ⟨?_, ?_, ?_⟩
    · rw [Session.encode, ask_eq_none_of_readText hread, Option.bind_none]
    · rw [Session.soundex, ask_eq_none_of_readText hread, Option.bind_none]
    · rw [Session.codes, ask_eq_none_of_readText hread, Option.map_none]

/-! ## Refusals -/

/-- A source is refused: the handle is null, and where an error text is wanted it is shown. -/
def IsRefusal (wantsError : Bool) (message : String) (answer : Answer) : Prop :=
  ∃ error, answer = .created true error ∧
    if wantsError then Shows error message.toList else error = none

theorem isRefusal_of_error {wantsError : Bool} {error : CreateError}
    (herror : encoderOf rules folding = .error error) (hzero : zero ∉ error.message.toList) :
    IsRefusal wantsError error.message
      (session.perform (.createFrom handle rules folding wantsError)).2 := by
  rw [perform, createFrom_of_error herror]
  refine ⟨_, rfl, ?_⟩
  cases wantsError with
  | false => rfl
  | true => exact shows_writeText hzero

/-- A handle whose source was refused has null answers as long as calls spare it. -/
theorem answersNull_of_error {wantsError : Bool} {error : CreateError} {calls : List Call}
    (herror : encoderOf rules folding = .error error)
    (hspares : ∀ call ∈ calls, call.Spares handle) :
    ((session.perform (.createFrom handle rules folding wantsError)).1.after calls).AnswersNull
      handle := by
  refine answersNull_of_get? (get?_after_of_none hspares ?_)
  rw [perform, createFrom_of_error herror]
  exact get?_free session handle

theorem message_notText : CreateError.notText.message = "rules is null or not valid UTF-8" := rfl

theorem message_malformed (error : SourceError) :
    (CreateError.malformed error).message = "failed to load rule table: " ++ error.message := rfl

theorem zero_not_mem_message_malformed {source : Text} {error : SourceError}
    (hsource : Holds rules source) (hparse : RuleSet.parse source = .error error) :
    zero ∉ (CreateError.malformed error).message.toList := by
  have hread := RuleSet.statements_of_parse_error hparse
  have hwritten : zero ∉ error.written :=
    fun hmem => hsource.zero_not_mem (Source.mem_of_mem_error hread hmem)
  rw [message_malformed, String.toList_append, List.mem_append, not_or]
  exact ⟨by decide, zero_not_mem_message hwritten⟩

/-! ## Histories -/

/-- After any calls every handle in use answers as its encoder does.  A call that creates an encoder
from a rule source succeeds exactly if the source is a text that can be parsed, and otherwise shows
what is wrong.  From then on, whatever is asked and whatever becomes of other handles, the handle
answers as the encoder over this source with the folding value that was set last, or with null if
there is no such encoder. -/
theorem answers_are_faithful (before : List Call) (handle : Int) (rules : Pointer) (folding : Int)
    (wantsError : Bool) {calls : List Call} (hspares : ∀ call ∈ calls, call.Spares handle) :
    let session := Session.after ∅ before
    let created := session.perform (.createFrom handle rules folding wantsError)
    let later := created.1.after calls
    (∀ other encoder, session.get? other = some encoder → session.AnswersAs other encoder) ∧
      session.AnswersNull none ∧
      (∀ source ruleSet, Holds rules source → RuleSet.parse source = .ok ruleSet →
        created.2 = .created false none ∧
          later.AnswersAs handle ⟨ruleSet, decide (latestFolding handle folding calls ≠ 0)⟩) ∧
      (∀ source error, Holds rules source → RuleSet.parse source = .error error →
        IsRefusal wantsError ("failed to load rule table: " ++ error.message) created.2 ∧
          later.AnswersNull handle) ∧
      ((∀ source, ¬ Holds rules source) →
        IsRefusal wantsError "rules is null or not valid UTF-8" created.2 ∧
          later.AnswersNull handle) := by
  intro session created later
  have hsession : session.IsZeroFree := isZeroFree_empty.after before
  have hlater : later.IsZeroFree := (hsession.perform _).after calls
  refine ⟨?_, answersNull_of_get? rfl, ?_, ?_, ?_⟩
  · intro other encoder hget
    cases other with
    | none => cases hget
    | some number => exact answersAs_of_get? hget (hsession number encoder hget)
  · intro source ruleSet hsource hparse
    have hperform := perform_createFrom_of_parse hsource hparse session handle folding wantsError
    refine ⟨congrArg Prod.snd hperform, ?_⟩
    have hcreated : created.1.get? handle = some ⟨ruleSet, decide (folding ≠ 0)⟩ := by
      rw [congrArg Prod.fst hperform]
      exact get?_set session handle _
    have hget := get?_after_of_some hspares hcreated
    exact answersAs_of_get? hget (hlater handle _ hget)
  · intro source error hsource hparse
    have hencoder := encoderOf_of_error hsource hparse folding
    have hzero := zero_not_mem_message_malformed hsource hparse
    rw [← message_malformed]
    exact ⟨isRefusal_of_error hencoder hzero, answersNull_of_error hencoder hspares⟩
  · intro hnot
    have hencoder := encoderOf_of_notText hnot folding
    rw [← message_notText]
    exact ⟨isRefusal_of_error hencoder (by decide), answersNull_of_error hencoder hspares⟩

/-- A source before bytes that are no part of it, and a handle whose folding is turned off and on
while another handle is created again and freed. -/
theorem answers_are_faithful_two_handles :
    let rules : Pointer := some (Text.toUtf8 "s 4|6 4 4\nß=s".toList ++ [0, 0xFF])
    let text : Pointer := some (Text.toUtf8 "ßI".toList ++ [0])
    let calls : List Call := [.encode (some 0) text, .setFolding (some 0) 0, .create 1 1,
      .setFolding (some 1) 0, .codes none text, .setFolding (some 0) 7, .free (some 1)]
    let created := (Session.after ∅ [.create 1 0]).perform (.createFrom 0 rules 0 true)
    created.2 = .created false none ∧
      Shows ((created.1.after calls).encode (some 0) text) "400000".toList ∧
      Shows ((created.1.after calls).soundex (some 0) text) "400000|600000".toList := by
  intro rules text calls created
  let source := "s 4|6 4 4\nß=s".toList
  let encoder : Encoder := ⟨.ofStatements (Source.stated source), true⟩
  have hrules : Holds rules source := ⟨_, rfl, by decide +kernel⟩
  have htext : Holds text "ßI".toList := ⟨_, rfl, by decide +kernel⟩
  have hparse : RuleSet.parse source = .ok encoder.rules :=
    RuleSet.parse_eq_ok_iff.mpr ⟨by decide +kernel, rfl⟩
  have hspares : ∀ call ∈ calls, call.Spares 0 := by simp [calls, Call.Spares]
  obtain ⟨-, -, hcreate, -, -⟩ := answers_are_faithful [.create 1 0] 0 rules 0 true hspares
  obtain ⟨hanswer, hanswers⟩ := hcreate source encoder.rules hrules hparse
  have hencode : encoder.encode "ßI".toList = "400000".toList := by decide +kernel
  have hcodes : encoder.soundex "ßI".toList = "400000|600000".toList := by decide +kernel
  have hfolding : decide (latestFolding 0 0 calls ≠ 0) = true := by decide +kernel
  rw [hfolding] at hanswers
  have hcode := hanswers.encode htext
  have hjoined := hanswers.soundex htext
  rw [hencode] at hcode
  rw [hcodes] at hjoined
  exact ⟨hanswer, hcode, hjoined⟩

end Session

end Soundalike.Foreign
