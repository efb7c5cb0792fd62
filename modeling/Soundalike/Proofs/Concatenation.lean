import Soundalike.Proofs.SourceGrammar
import Soundalike.Proofs.WrittenLines

set_option autoImplicit false

/-!
# Sources one after another

A source that stands after whole lines is read as if it stood alone, as long as no block comment is
open before it: what the lines before it state comes first, and an error is the same error further
down (`statements_append`).  A scan carries two things from line to line, the number of the line and
whether a block comment is open; `statementLines_append` says which values it hands over, and
`statementLines_add` that the number is only written down.
-/

namespace Soundalike

/-- The same line, further down in a source. -/
def SourceLine.movedBy (count : Nat) (line : SourceLine) : SourceLine :=
  { line with number := line.number + count }

/-- The same error in a line further down in a source. -/
def SourceError.movedBy (count : Nat) (error : SourceError) : SourceError :=
  { error with number := error.number + count }

namespace Source

/-! ## Scanning -/

/-- A scan goes on after some lines with their number and with what they leave open. -/
theorem statementLines_append (number : Nat) (inBlock : Bool) (first second : List Text) :
    statementLines number inBlock (first ++ second) =
      statementLines number inBlock first ++
        statementLines (number + first.length) (openAfter inBlock first) second := by
  induction first generalizing number inBlock with
  | nil => rfl
  | cons written first ih =>
    have hnumber : number + (written :: first).length = number + 1 + first.length := by
      simp only [List.length_cons]
      omega
    rw [List.cons_append, statementLines_cons, statementLines_cons number, ih, hnumber,
      List.append_assoc]
    rfl

theorem lineOf?_add (number count : Nat) (written : Text) :
    lineOf? (number + count) written = (lineOf? number written).map (·.movedBy count) := by
  unfold lineOf?
  dsimp only
  split <;> rfl

/-- Where a scan starts to count decides about the numbers of lines only. -/
theorem statementLines_add (number count : Nat) (inBlock : Bool) (lines : List Text) :
    statementLines (number + count) inBlock lines =
      (statementLines number inBlock lines).map (·.movedBy count) := by
  induction lines generalizing number inBlock with
  | nil => rfl
  | cons written lines ih =>
    have hnumber : number + count + 1 = number + 1 + count := by omega
    rw [statementLines_cons, statementLines_cons number, List.map_append, hnumber, ih, lineOf?_add]
    cases inBlock with
    | true => rfl
    | false => cases lineOf? number written <;> rfl

/-! ## Reading -/

theorem readLine_movedBy (count : Nat) (line : SourceLine) :
    readLine (line.movedBy count) = (readLine line).mapError (·.movedBy count) := by
  unfold readLine SourceLine.movedBy
  cases Statement.ofText line.statement <;> rfl

theorem readLines_map_movedBy (count : Nat) (lines : List SourceLine) :
    readLines (lines.map (·.movedBy count)) = (readLines lines).mapError (·.movedBy count) := by
  induction lines with
  | nil => rfl
  | cons line rest ih =>
    have hline := readLine_movedBy count line
    rw [List.map_cons]
    cases hread : readLine line with
    | error error =>
      rw [hread] at hline
      rw [readLines_cons_of_error hread, readLines_cons_of_error hline]
      rfl
    | ok statement =>
      rw [hread] at hline
      rw [readLines_cons_of_ok hread, readLines_cons_of_ok hline, ih]
      cases readLines rest <;> rfl

variable {first second : List SourceLine}

theorem readLines_append_of_error {error : SourceError} (h : readLines first = .error error)
    (second : List SourceLine) : readLines (first ++ second) = .error error := by
  obtain ⟨before, line, after, rfl, hbefore, hline⟩ := readLines_eq_error_iff.mp h
  exact readLines_eq_error_iff.mpr ⟨before, line, after ++ second, by simp, hbefore, hline⟩

theorem readLines_append_of_ok {stated : List Statement} (h : readLines first = .ok stated)
    (second : List SourceLine) :
    readLines (first ++ second) = (readLines second).map (stated ++ ·) := by
  induction first generalizing stated with
  | nil =>
    obtain rfl : [] = stated := Except.ok.inj h
    rw [List.nil_append]
    cases readLines second <;> rfl
  | cons line rest ih =>
    cases hline : readLine line with
    | error error =>
      rw [readLines_cons_of_error hline] at h
      cases h
    | ok statement =>
      rw [readLines_cons_of_ok hline] at h
      cases hrest : readLines rest with
      | error error =>
        rw [hrest] at h
        cases h
      | ok others =>
        rw [hrest] at h
        obtain rfl : statement :: others = stated := Except.ok.inj h
        rw [List.cons_append, readLines_cons_of_ok hline, ih hrest]
        cases readLines second <;> rfl

/-! ## Sources -/

variable {source following : Text}

/-- The lines of a source that follows whole lines are scanned as they are alone, if no block
comment is open before them. -/
theorem statementLines_textLines_append (hwhole : Text.WholeLines source)
    (hclosed : ¬ LeavesOpen (Text.textLines source)) (following : Text) :
    statementLines 1 false (Text.textLines (source ++ following)) =
      statementLines 1 false (Text.textLines source) ++
        (statementLines 1 false (Text.textLines following)).map
          (·.movedBy (Text.textLines source).length) := by
  rw [Text.textLines_append hwhole, statementLines_append, openAfter_eq_false_iff.mpr hclosed,
    statementLines_add]

theorem statements_append_of_error (hwhole : Text.WholeLines source) {error : SourceError}
    (h : statements source = .error error) (following : Text) :
    statements (source ++ following) = .error error := by
  unfold statements
  rw [Text.textLines_append hwhole, statementLines_append]
  exact readLines_append_of_error h _

theorem statements_append_of_ok (hwhole : Text.WholeLines source) {stated : List Statement}
    (h : statements source = .ok stated) (hclosed : ¬ LeavesOpen (Text.textLines source))
    (following : Text) :
    statements (source ++ following) =
      ((statements following).mapError (·.movedBy (Text.textLines source).length)).map
        (stated ++ ·) := by
  unfold statements
  rw [statementLines_textLines_append hwhole hclosed, readLines_append_of_ok h,
    readLines_map_movedBy]

/-- Reading goes through whole lines and what follows them one after the other.  An error in the
whole lines is the error of both.  If they are read and leave no block comment open, both are read
exactly if what follows is, and state what the whole lines state and then what follows states, the
rules as well as the foldings; and an error in what follows is reported with the number of whole
lines added to that of its line, and nothing else changed. -/
theorem statements_append (hwhole : Text.WholeLines source) (following : Text) :
    (∀ error, statements source = .error error →
      statements (source ++ following) = .error error) ∧
    ∀ stated, statements source = .ok stated → ¬ LeavesOpen (Text.textLines source) →
      (∀ all, statements (source ++ following) = .ok all ↔
        ∃ later, statements following = .ok later ∧ all = stated ++ later ∧
          all.filterMap Statement.rule? =
            stated.filterMap Statement.rule? ++ later.filterMap Statement.rule? ∧
          all.filterMap Statement.folding? =
            stated.filterMap Statement.folding? ++ later.filterMap Statement.folding?) ∧
      ∀ error, statements (source ++ following) = .error error ↔
        ∃ found, statements following = .error found ∧
          error = { found with number := found.number + (Text.textLines source).length } := by
  refine ⟨fun error h => statements_append_of_error hwhole h following, ?_⟩
  intro stated h hclosed
  rw [statements_append_of_ok hwhole h hclosed]
  cases statements following with
  | ok later =>
    refine ⟨fun all => ?_, fun error => ?_⟩
    · constructor
      · rintro ⟨⟩
        exact ⟨later, rfl, rfl, List.filterMap_append, List.filterMap_append⟩
      · rintro ⟨_, ⟨⟩, rfl, -⟩
        rfl
    · constructor
      · rintro ⟨⟩
      · rintro ⟨_, ⟨⟩, -⟩
  | error found =>
    refine ⟨fun all => ?_, fun error => ?_⟩
    · constructor
      · rintro ⟨⟩
      · rintro ⟨_, ⟨⟩, -⟩
    · constructor
      · rintro ⟨⟩
        exact ⟨found, rfl, rfl⟩
      · rintro ⟨_, ⟨⟩, rfl⟩
        rfl

/-- A folding and a block comment of two lines, before a rule with a field too few: its number is
moved by the three lines before it. -/
theorem statements_append_three_lines :
    let source := "ä=a\r\n/* one\ntwo */\n".toList
    let following := "b 7 7".toList
    Text.WholeLines source ∧ statements source = .ok [.folding 'ä' 'a'] ∧
      ¬ LeavesOpen (Text.textLines source) ∧
      statements following = .error ⟨1, following, .malformedRule 3⟩ ∧
      statements (source ++ following) = .error ⟨4, following, .malformedRule 3⟩ ∧
      statements (following ++ '\n' :: source) = .error ⟨1, following, .malformedRule 3⟩ := by
  intro source following
  have hwhole : Text.WholeLines source := Or.inr (by decide)
  have hstated : statements source = .ok [.folding 'ä' 'a'] := by decide +kernel
  have hclosed : ¬ LeavesOpen (Text.textLines source) :=
    openAfter_eq_false_iff.mp (by decide +kernel)
  have herror : statements following = .error ⟨1, following, .malformedRule 3⟩ := by
    decide +kernel
  have hbefore : Text.WholeLines (following ++ ['\n']) := Or.inr (by decide)
  have hfails : statements (following ++ ['\n']) = .error ⟨1, following, .malformedRule 3⟩ := by
    decide +kernel
  refine ⟨hwhole, hstated, hclosed, herror, ?_, ?_⟩
  · exact (((statements_append hwhole following).right _ hstated hclosed).right _).mpr
      ⟨_, herror, rfl⟩
  · rw [← List.singleton_append, ← List.append_assoc]
    exact (statements_append hbefore source).left _ hfails

end Source

end Soundalike
