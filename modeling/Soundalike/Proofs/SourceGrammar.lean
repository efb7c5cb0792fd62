import Mathlib.Data.List.Forall2
import Mathlib.Data.List.Sort
import Soundalike.Proofs.LiveLines
import Soundalike.Proofs.StatementGrammar

set_option autoImplicit false

/-!
# The grammar of a rule source

A source is read exactly if all its live lines are statements, and gives one statement for each in
their order; otherwise the first live line that is none decides the error (`statements_iff`).
-/

namespace Soundalike.Source

/-! ## Reading -/

theorem readLine_eq_ok_iff {line : SourceLine} {statement : Statement} :
    readLine line = .ok statement ↔ Statement.Writes line.statement statement := by
  rw [← Statement.ofText_eq_ok_iff, readLine]
  cases Statement.ofText line.statement with
  | ok written =>
    constructor
    · rintro ⟨⟩
      rfl
    · rintro ⟨⟩
      rfl
  | error fault =>
    constructor
    · intro h
      cases h
    · intro h
      cases h

theorem readLine_eq_error_iff {line : SourceLine} {error : SourceError} :
    readLine line = .error error ↔
      error.number = line.number ∧ error.written = line.written ∧
        Statement.Faulty line.statement error.fault := by
  rw [← Statement.ofText_eq_error_iff, readLine]
  cases Statement.ofText line.statement with
  | ok written =>
    constructor
    · intro h
      cases h
    · rintro ⟨-, -, h⟩
      cases h
  | error fault =>
    constructor
    · rintro ⟨⟩
      exact ⟨rfl, rfl, rfl⟩
    · obtain ⟨number, written, found⟩ := error
      rintro ⟨rfl, rfl, ⟨⟩⟩
      rfl

theorem readLines_cons_of_ok {line : SourceLine} {statement : Statement}
    (h : readLine line = .ok statement) (rest : List SourceLine) :
    readLines (line :: rest) = (readLines rest).map (statement :: ·) := by
  rw [readLines, h]

theorem readLines_cons_of_error {line : SourceLine} {error : SourceError}
    (h : readLine line = .error error) (rest : List SourceLine) :
    readLines (line :: rest) = .error error := by
  rw [readLines, h]

/-- Lines are read exactly if each of them is, and give one statement each. -/
theorem readLines_eq_ok_iff {lines : List SourceLine} {stated : List Statement} :
    readLines lines = .ok stated ↔
      List.Forall₂ (fun line statement => readLine line = .ok statement) lines stated := by
  constructor
  · intro h
    induction lines generalizing stated with
    | nil =>
      obtain rfl : [] = stated := Except.ok.inj h
      exact .nil
    | cons line rest ih =>
      cases hline : readLine line with
      | error error =>
        rw [readLines_cons_of_error hline] at h
        cases h
      | ok statement =>
        rw [readLines_cons_of_ok hline] at h
        cases hrest : readLines rest with
        | error error =>
          rw [hrest] at h
          cases h
        | ok later =>
          rw [hrest] at h
          obtain rfl : statement :: later = stated := Except.ok.inj h
          exact .cons hline (ih hrest)
  · intro h
    induction h with
    | nil => rfl
    | cons hline _ ih =>
      rw [readLines_cons_of_ok hline, ih]
      rfl

/-- The statements that lines give are what is read from each of them. -/
theorem mem_iff_of_readLines {lines : List SourceLine} {stated : List Statement}
    (h : readLines lines = .ok stated) {statement : Statement} :
    statement ∈ stated ↔ ∃ line ∈ lines, readLine line = .ok statement := by
  have hread : lines.map readLine = stated.map Except.ok := by
    rw [← List.forall₂_eq_eq_eq, List.forall₂_map_left_iff, List.forall₂_map_right_iff]
    exact readLines_eq_ok_iff.mp h
  have hinjective : Function.Injective (Except.ok (ε := SourceError) (α := Statement)) :=
    fun _ _ => Except.ok.inj
  rw [← List.mem_map_of_injective hinjective, ← hread, List.mem_map]

/-- The first line that cannot be read decides the error. -/
theorem readLines_eq_error_iff {lines : List SourceLine} {error : SourceError} :
    readLines lines = .error error ↔
      ∃ before line after, lines = before ++ line :: after ∧
        (∀ earlier ∈ before, ∃ statement, readLine earlier = .ok statement) ∧
        readLine line = .error error := by
  constructor
  · intro h
    induction lines with
    | nil => cases h
    | cons line rest ih =>
      cases hline : readLine line with
      | error found =>
        rw [readLines_cons_of_error hline] at h
        obtain rfl : found = error := Except.error.inj h
        exact ⟨[], line, rest, rfl, List.forall_mem_nil _, hline⟩
      | ok statement =>
        rw [readLines_cons_of_ok hline] at h
        cases hrest : readLines rest with
        | ok later =>
          rw [hrest] at h
          cases h
        | error found =>
          rw [hrest] at h
          obtain rfl : found = error := Except.error.inj h
          obtain ⟨before, bad, after, rfl, hbefore, hbad⟩ := ih hrest
          exact ⟨line :: before, bad, after, rfl,
            List.forall_mem_cons.mpr ⟨⟨statement, hline⟩, hbefore⟩, hbad⟩
  · rintro ⟨before, line, after, rfl, hbefore, hline⟩
    induction before with
    | nil => exact readLines_cons_of_error hline after
    | cons first before ih =>
      obtain ⟨⟨statement, hfirst⟩, hbefore⟩ := List.forall_mem_cons.mp hbefore
      rw [List.cons_append, readLines_cons_of_ok hfirst, ih hbefore]
      rfl

theorem exists_readLines_iff {lines : List SourceLine} :
    (∃ stated, readLines lines = .ok stated) ↔
      ∀ line ∈ lines, ∃ statement, readLine line = .ok statement := by
  constructor
  · rintro ⟨stated, h⟩
    have hall := readLines_eq_ok_iff.mp h
    clear h
    induction hall with
    | nil => exact List.forall_mem_nil _
    | cons hline _ ih => exact List.forall_mem_cons.mpr ⟨⟨_, hline⟩, ih⟩
  · intro h
    cases hread : readLines lines with
    | ok stated => exact ⟨stated, rfl⟩
    | error error =>
      obtain ⟨before, line, after, rfl, -, hbad⟩ := readLines_eq_error_iff.mp hread
      obtain ⟨statement, hline⟩ := h line (List.mem_append_right _ List.mem_cons_self)
      rw [hbad] at hline
      cases hline

/-! ## The statements of a source -/

theorem exists_readLine_iff {line : SourceLine} :
    (∃ statement, readLine line = .ok statement) ↔
      Statement.IsFolding line.statement ∨ Statement.IsRule line.statement := by
  rw [← Statement.exists_writes_iff]
  exact exists_congr fun _ => readLine_eq_ok_iff

theorem exists_statements_iff {source : Text} :
    (∃ stated, statements source = .ok stated) ↔
      ∀ line, IsLive (Text.textLines source) line →
        Statement.IsFolding line.statement ∨ Statement.IsRule line.statement := by
  rw [statements, exists_readLines_iff]
  refine forall_congr' fun line => ?_
  rw [mem_statementLines_iff_isLive, exists_readLine_iff]

theorem statements_eq_ok_iff {source : Text} {stated : List Statement} :
    statements source = .ok stated ↔
      ∃ live : List SourceLine, live.Pairwise (·.number < ·.number) ∧
        (∀ line, line ∈ live ↔ IsLive (Text.textLines source) line) ∧
        List.Forall₂ (fun line statement => Statement.Writes line.statement statement)
          live stated := by
  have hordered := pairwise_number_statementLines 1 false (Text.textLines source)
  rw [statements, readLines_eq_ok_iff]
  simp only [readLine_eq_ok_iff]
  constructor
  · intro hall
    exact ⟨_, hordered, fun _ => mem_statementLines_iff_isLive, hall⟩
  · rintro ⟨live, hlive, hmem, hall⟩
    -- numbers put the live lines into one order only
    have : Std.Irrefl fun first second : SourceLine => first.number < second.number :=
      ⟨fun line => Nat.lt_irrefl line.number⟩
    have : Std.Antisymm fun first second : SourceLine => first.number < second.number :=
      ⟨fun first second hless hgreater => absurd hgreater (Nat.lt_asymm hless)⟩
    have hsame : live = statementLines 1 false (Text.textLines source) := by
      refine hlive.eq_of_mem_iff hordered fun line => ?_
      rw [hmem, mem_statementLines_iff_isLive]
    exact hsame ▸ hall

/-- The statements of a source are what its live lines write. -/
theorem mem_iff_of_statements {source : Text} {stated : List Statement}
    (h : statements source = .ok stated) {statement : Statement} :
    statement ∈ stated ↔ ∃ line, IsLive (Text.textLines source) line ∧
      Statement.Writes line.statement statement := by
  rw [mem_iff_of_readLines h]
  simp only [mem_statementLines_iff_isLive, readLine_eq_ok_iff]

/-- What stands before a line in a list ordered by numbers is what has a smaller number. -/
theorem mem_before_iff {before after : List SourceLine} {line earlier : SourceLine}
    (h : (before ++ line :: after).Pairwise (·.number < ·.number)) :
    earlier ∈ before ↔ earlier ∈ before ++ line :: after ∧ earlier.number < line.number := by
  obtain ⟨-, hrest, hbefore⟩ := List.pairwise_append.mp h
  constructor
  · intro hmem
    exact ⟨List.mem_append_left _ hmem, hbefore earlier hmem line List.mem_cons_self⟩
  · rintro ⟨hmem, hless⟩
    rcases List.mem_append.mp hmem with hbefore | hlater
    · exact hbefore
    · rcases List.mem_cons.mp hlater with rfl | hafter
      · exact absurd hless (Nat.lt_irrefl _)
      · have hgreater := (List.pairwise_cons.mp hrest).1 earlier hafter
        omega

theorem statements_eq_error_iff {source : Text} {error : SourceError} :
    statements source = .error error ↔
      ∃ line, IsLive (Text.textLines source) line ∧ error.number = line.number ∧
        error.written = line.written ∧ Statement.Faulty line.statement error.fault ∧
        ∀ earlier, IsLive (Text.textLines source) earlier → earlier.number < line.number →
          Statement.IsFolding earlier.statement ∨ Statement.IsRule earlier.statement := by
  have hordered := pairwise_number_statementLines 1 false (Text.textLines source)
  simp only [← mem_statementLines_iff_isLive, ← exists_readLine_iff]
  rw [statements]
  generalize statementLines 1 false (Text.textLines source) = live at hordered
  rw [readLines_eq_error_iff]
  constructor
  · rintro ⟨before, line, after, rfl, hbefore, hline⟩
    obtain ⟨hnumber, hwritten, hfaulty⟩ := readLine_eq_error_iff.mp hline
    refine ⟨line, List.mem_append_right _ List.mem_cons_self, hnumber, hwritten, hfaulty, ?_⟩
    intro earlier hmem hless
    exact hbefore earlier ((mem_before_iff hordered).mpr ⟨hmem, hless⟩)
  · rintro ⟨line, hline, hnumber, hwritten, hfaulty, hbefore⟩
    obtain ⟨before, after, rfl⟩ := List.append_of_mem hline
    refine ⟨before, line, after, rfl, ?_, readLine_eq_error_iff.mpr ⟨hnumber, hwritten, hfaulty⟩⟩
    intro earlier hpart
    obtain ⟨hmem, hless⟩ := (mem_before_iff hordered).mp hpart
    exact hbefore earlier hmem hless

/-- A source is read exactly if each of its live lines is a folding or a rule.  It then gives what
the live lines write, one statement for each and in their order.  Otherwise the error is that of the
first live line that writes nothing: its number among all lines, the line as written, and what is
wrong with it. -/
theorem statements_iff (source : Text) :
    ((∃ stated, statements source = .ok stated) ↔
      ∀ line, IsLive (Text.textLines source) line →
        Statement.IsFolding line.statement ∨ Statement.IsRule line.statement) ∧
    (∀ stated, statements source = .ok stated ↔
      ∃ live : List SourceLine, live.Pairwise (·.number < ·.number) ∧
        (∀ line, line ∈ live ↔ IsLive (Text.textLines source) line) ∧
        List.Forall₂ (fun line statement => Statement.Writes line.statement statement)
          live stated) ∧
    ∀ error, statements source = .error error ↔
      ∃ line, IsLive (Text.textLines source) line ∧ error.number = line.number ∧
        error.written = line.written ∧ Statement.Faulty line.statement error.fault ∧
        ∀ earlier, IsLive (Text.textLines source) earlier → earlier.number < line.number →
          Statement.IsFolding earlier.statement ∨ Statement.IsRule earlier.statement :=
  ⟨exists_statements_iff, fun _ => statements_eq_ok_iff, fun _ => statements_eq_error_iff⟩

end Soundalike.Source
