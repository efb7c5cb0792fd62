import Soundalike.Proofs.LineReadings

set_option autoImplicit false

/-!
# The layout of a rule source

Line endings, white space around lines, comments behind them and whole lines of comments or of white
space carry no meaning.  `LayoutEdit` says what one change of layout makes of a source and where it
puts the line with a number, and `Relaid` joins any number of them.  A source is read as before,
with an error in the line to which the faulty line has come (`statements_of_relaid`).  The proof
goes through the lines that have to be statements: each has its counterpart in the changed source
(`Corresponds`), and reading sees no more of them than that.
-/

namespace Soundalike.Source

/-! ## Changes of layout -/

/-- The lines that can be put between two lines outside block comments: a blank line, a line
comment, and a block comment on one line or on several. -/
inductive IsRemark : List Text → Prop
  | blank {written : Text} (hblank : Text.IsBlank written) : IsRemark [written]
  | comment (comment : Text) : IsRemark ['/' :: '/' :: comment]
  | closed (comment : Text) : IsRemark ['/' :: '*' :: comment ++ ['*', '/']]
  | block {opening closing : Text} {inner : List Text} (hopening : OpensAcross opening)
      (hinner : ∀ written ∈ inner, ¬ Closes written) (hclosing : Closes closing) :
      IsRemark (opening :: inner ++ [closing])

/-- Where the line with a number comes when lines are put in after a count of lines. -/
def placeAfter (count inserted number : Nat) : Nat :=
  if number ≤ count then number else number + inserted

/-- One change of layout, and where it puts the line with a number. -/
inductive LayoutEdit : Text → Text → (Nat → Nat) → Prop
  /-- a line gets another ending -/
  | ending {before line old new after : Text} (hold : Text.IsLineAt before line old after)
      (hnew : Text.IsLineAt before line new after) :
      LayoutEdit (before ++ line ++ old ++ after) (before ++ line ++ new ++ after) id
  /-- a line gets white space at its ends -/
  | margins {before line ending after left right : Text}
      (hline : Text.IsLineAt before line ending after) (hleft : Text.IsMargin left)
      (hright : Text.IsMargin right) :
      LayoutEdit (before ++ line ++ ending ++ after)
        (before ++ (left ++ line ++ right) ++ ending ++ after) id
  /-- a line that is part of no block comment gets a comment behind it -/
  | comment {before line ending after comment : Text} {blank : Char}
      (hline : Text.IsLineAt before line ending after)
      (houtside : ¬ InComment (Text.textLines before) line)
      (hblank : Text.isWhiteSpace blank = true) (hnewline : '\n' ∉ blank :: comment) :
      LayoutEdit (before ++ line ++ ending ++ after)
        (before ++ (line ++ blank :: '/' :: '/' :: comment) ++ ending ++ after) id
  /-- a remark is put between lines where no block comment is open -/
  | remark {before remark after : Text} (hbefore : Text.WholeLines before)
      (houtside : ¬ LeavesOpen (Text.textLines before))
      (hwhole : Text.WholeLines remark ∨ after = []) (hremark : IsRemark (Text.textLines remark)) :
      LayoutEdit (before ++ after) (before ++ remark ++ after)
        (placeAfter (Text.textLines before).length (Text.textLines remark).length)

/-- Any number of changes of layout, one after another. -/
inductive Relaid (source : Text) : Text → (Nat → Nat) → Prop
  | refl : Relaid source source id
  | step {middle edited : Text} {place next : Nat → Nat} (hbefore : Relaid source middle place)
      (hedit : LayoutEdit middle edited next) : Relaid source edited (next ∘ place)

/-! ## Counterparts -/

/-- The line to which another one has come, with the same text to be read. -/
structure Corresponds (place : Nat → Nat) (line moved : SourceLine) : Prop where
  number_eq : moved.number = place line.number
  statement_eq : moved.statement = line.statement

/-- What is read before changes of layout and after them. -/
inductive ReadAlike {α : Type} (place : Nat → Nat) :
    Except SourceError α → Except SourceError α → Prop
  | ok (read : α) : ReadAlike place (.ok read) (.ok read)
  | error {error found : SourceError} (hnumber : found.number = place error.number)
      (hfault : found.fault = error.fault) : ReadAlike place (.error error) (.error found)

section

variable {α β : Type} {place next : Nat → Nat}

theorem ReadAlike.refl (read : Except SourceError α) : ReadAlike id read read := by
  cases read with
  | ok read => exact .ok read
  | error error => exact .error rfl rfl

theorem ReadAlike.trans {first second third : Except SourceError α}
    (hfirst : ReadAlike place first second) (hsecond : ReadAlike next second third) :
    ReadAlike (next ∘ place) first third := by
  cases hfirst with
  | ok read =>
    cases hsecond
    exact .ok read
  | error hnumber hfault =>
    cases hsecond with
    | error hagain hsame =>
      exact .error (by rw [hagain, hnumber, Function.comp_apply]) (hsame.trans hfault)

theorem ReadAlike.map {first second : Except SourceError α} (h : ReadAlike place first second)
    (f : α → β) : ReadAlike place (first.map f) (second.map f) := by
  cases h with
  | ok read => exact .ok (f read)
  | error hnumber hfault => exact .error hnumber hfault

end

theorem readAlike_readLine {place : Nat → Nat} {line moved : SourceLine}
    (h : Corresponds place line moved) : ReadAlike place (readLine line) (readLine moved) := by
  rw [readLine, readLine, h.statement_eq]
  cases Statement.ofText line.statement with
  | ok statement => exact .ok statement
  | error fault => exact .error h.number_eq rfl

/-- Lines are read like their counterparts. -/
theorem readAlike_readLines {place : Nat → Nat} {lines moved : List SourceLine}
    (h : List.Forall₂ (Corresponds place) lines moved) :
    ReadAlike place (readLines lines) (readLines moved) := by
  induction h with
  | nil => exact .ok []
  | @cons line counterpart lines moved hline _ ih =>
    have hread := readAlike_readLine hline
    generalize hfirst : readLine line = first at hread
    generalize hsecond : readLine counterpart = second at hread
    cases hread with
    | ok statement =>
      rw [readLines_cons_of_ok hfirst, readLines_cons_of_ok hsecond]
      exact ih.map _
    | error hnumber hfault =>
      rw [readLines_cons_of_error hfirst, readLines_cons_of_error hsecond]
      exact .error hnumber hfault

/-! ## One line for another -/

/-- Two lines from which a scan takes the same. -/
structure ScanAlike (inBlock : Bool) (written other : Text) : Prop where
  openAfterLine_eq : openAfterLine inBlock written = openAfterLine inBlock other
  opens_iff : inBlock = false → (Opens written ↔ Opens other)
  trim_eq : inBlock = false →
    Text.trim (beforeComment written) = Text.trim (beforeComment other)

theorem ScanAlike.of_trim_eq {written other : Text} (h : Text.trim written = Text.trim other)
    (inBlock : Bool) : ScanAlike inBlock written other :=
  ⟨openAfterLine_congr h inBlock, fun _ => opens_congr h, fun _ => trim_beforeComment_congr h⟩

theorem forall₂_corresponds_lineOf? {written other : Text} (h : ScanAlike false written other)
    (number : Nat) :
    List.Forall₂ (Corresponds id) (lineOf? number written).toList
      (lineOf? number other).toList := by
  have hopens := h.opens_iff rfl
  rw [Opens, Opens, ← opensBlock_iff, ← opensBlock_iff] at hopens
  rw [lineOf?, lineOf?, h.trim_eq rfl]
  simp only [hopens]
  split
  · exact .nil
  · exact .cons ⟨rfl, rfl⟩ .nil

theorem forall₂_corresponds_refl (lines : List SourceLine) :
    List.Forall₂ (Corresponds id) lines lines :=
  List.forall₂_same.mpr fun _ _ => ⟨rfl, rfl⟩

/-- In place of a line stands another one from which a scan takes the same. -/
theorem forall₂_corresponds_at {before after : List Text} {written other : Text}
    (h : ScanAlike (openAfter false before) written other) :
    List.Forall₂ (Corresponds id) (statementLines 1 false (before ++ written :: after))
      (statementLines 1 false (before ++ other :: after)) := by
  rw [statementLines_at, statementLines_at, h.openAfterLine_eq]
  refine List.rel_append (forall₂_corresponds_refl _)
    (List.rel_append ?_ (forall₂_corresponds_refl _))
  cases hopen : openAfter false before with
  | true => exact .nil
  | false =>
    rw [hopen] at h
    exact forall₂_corresponds_lineOf? h _

/-- A source in which a line is changed, its ending included, is read alike if a scan takes the same
from the two lines. -/
theorem readAlike_of_scanAlike {before line other ending next after : Text}
    (hline : Text.IsLineAt before line ending after)
    (hother : Text.IsLineAt before other next after)
    (hscan : ∀ written changed, Text.trim written = Text.trim line →
      Text.trim changed = Text.trim other →
      ScanAlike (openAfter false (Text.textLines before)) written changed) :
    ReadAlike id (statements (before ++ line ++ ending ++ after))
      (statements (before ++ other ++ next ++ after)) := by
  obtain ⟨written, hwritten, hlines⟩ := exists_statementLines_at hline
  obtain ⟨changed, hchanged, hchangedLines⟩ := exists_statementLines_at hother
  rw [statements, statements, hlines, hchangedLines]
  exact readAlike_readLines (forall₂_corresponds_at (hscan _ _ hwritten hchanged))

/-! ## A comment behind a line -/

/-- A comment behind a line does not make it start a block comment. -/
theorem not_opens_append_comment {line comment : Text} {blank : Char} (hopens : ¬ Opens line)
    (hblank : Text.isWhiteSpace blank = true) :
    ¬ Opens (line ++ blank :: '/' :: '/' :: comment) := by
  rw [opens_iff_isPrefix_trimStart] at hopens ⊢
  have hstart : Text.trimStart (line ++ blank :: '/' :: '/' :: comment) =
      if (Text.trimStart line).isEmpty then Text.trimStart (blank :: '/' :: '/' :: comment)
      else Text.trimStart line ++ blank :: '/' :: '/' :: comment := List.dropWhile_append
  rw [hstart]
  split
  · have hcomment : Text.trimStart (blank :: '/' :: '/' :: comment) = '/' :: '/' :: comment := by
      have hslash : Text.isWhiteSpace '/' = false := by decide
      simp [Text.trimStart, hblank, hslash]
    rw [hcomment]
    simp [List.cons_prefix_cons]
  · next hne =>
    exact not_isPrefix_append (by simpa using hne) hopens (by simpa using hblank)

/-- A comment behind a line does not change what the line states. -/
theorem trim_beforeComment_append_comment {line comment : Text} {blank : Char}
    (hblank : Text.isWhiteSpace blank = true) :
    Text.trim (beforeComment (line ++ blank :: '/' :: '/' :: comment)) =
      Text.trim (beforeComment line) := by
  by_cases hcomment : ['/', '/'] <:+: line
  · rw [beforeComment_append_of_isInfix hcomment]
  · have hslash : blank ≠ '/' := Text.ne_of_isWhiteSpace hblank rfl
    have hcut : beforeComment ('/' :: '/' :: comment) = [] := rfl
    rw [beforeComment_append_cons hcomment hslash, hcut, beforeComment_eq_self_iff.mpr hcomment]
    exact Text.trim_append_blanks (List.forall_mem_singleton.mpr hblank) line

theorem ScanAlike.of_comment {line comment written changed : Text} {blank : Char}
    (hopens : ¬ Opens line) (hblank : Text.isWhiteSpace blank = true)
    (hwritten : Text.trim written = Text.trim line)
    (hchanged : Text.trim changed = Text.trim (line ++ blank :: '/' :: '/' :: comment)) :
    ScanAlike false written changed := by
  have hwrittenOpens : ¬ Opens written := (opens_congr hwritten).not.mpr hopens
  have hchangedOpens : ¬ Opens changed :=
    (opens_congr hchanged).not.mpr (not_opens_append_comment hopens hblank)
  refine ⟨?_, fun _ => iff_of_false hwrittenOpens hchangedOpens, fun _ => ?_⟩
  · rw [openAfterLine_of_not_opens hwrittenOpens, openAfterLine_of_not_opens hchangedOpens]
  · rw [trim_beforeComment_congr hwritten, trim_beforeComment_congr hchanged,
      trim_beforeComment_append_comment hblank]

/-! ## Remarks between lines -/

theorem trim_closed (comment : Text) :
    Text.trim ('/' :: '*' :: comment ++ ['*', '/']) = '/' :: '*' :: (comment ++ ['*', '/']) := by
  have hslash : Text.isWhiteSpace '/' = false := by decide
  refine Text.trim_eq_self ?_ ?_
  · simpa using hslash
  · have hlast : ('/' :: '*' :: comment ++ ['*', '/']).getLast? = some '/' := by
      rw [List.getLast?_append_of_ne_nil _ (List.cons_ne_nil _ _)]
      rfl
    intro c hc
    rw [hlast, Option.mem_some_iff] at hc
    exact hc ▸ hslash

/-- What a scan takes from a remark: it states nothing and leaves no block comment open. -/
theorem IsRemark.scan {lines : List Text} (h : IsRemark lines) :
    (∀ number, statementLines number false lines = []) ∧ openAfter false lines = false := by
  cases h with
  | @blank written hblank =>
    have htrim := Text.trim_of_isBlank hblank
    exact ⟨fun number => statementLines_of_trim_eq_nil htrim number [],
      openAfterLine_of_not_opens (not_opens_of_trim_eq_nil htrim)⟩
  | comment comment =>
    have hstart : Text.trimStart ('/' :: '/' :: comment) = '/' :: '/' :: comment :=
      List.dropWhile_cons_of_neg (by decide)
    have hopens : ¬ Opens ('/' :: '/' :: comment) := by
      rw [opens_iff_isPrefix_trimStart, hstart]
      simp [List.cons_prefix_cons]
    refine ⟨fun number => ?_, openAfterLine_of_not_opens hopens⟩
    have hcut : Text.trim (beforeComment ('/' :: '/' :: comment)) = [] := rfl
    have hnone : lineOf? number ('/' :: '/' :: comment) = none := by simp [lineOf?, hcut]
    rw [statementLines_cons, hnone]
    rfl
  | closed comment =>
    have htrim := trim_closed comment
    exact ⟨fun number => statementLines_of_opens ⟨_, htrim.symm⟩ number [],
      (openAfterLine_of_trim htrim).mpr (List.suffix_append comment ['*', '/'])⟩
  | @block opening closing inner hopening hinner hclosing =>
    obtain ⟨rest, hrest, -⟩ := id hopening
    have hopen : openAfterLine false opening = true := openAfterLine_false_iff.mpr hopening
    have hinside : openAfter true inner = true := openAfter_true_of_forall_not_closes hinner
    constructor
    · intro number
      rw [List.cons_append, statementLines_of_opens ⟨rest, hrest.symm⟩, hopen,
        statementLines_append, statementLines_of_forall_not_closes hinner, hinside]
      rfl
    · rw [openAfter_snoc, openAfter_comment hopening hinner]
      exact openAfterLine_of_closes hclosing

/-- A scan numbers lines from the number of the first one. -/
theorem number_of_mem_statementLines {number : Nat} {inBlock : Bool} {lines : List Text}
    {line : SourceLine} (h : line ∈ statementLines number inBlock lines) :
    number ≤ line.number ∧ line.number < number + lines.length := by
  obtain ⟨before, written, after, rfl, -, hline⟩ := mem_statementLines_iff.mp h
  rw [number_of_lineOf? hline]
  simp only [List.length_append, List.length_cons]
  omega

/-- Around a remark lines keep their statements, and those behind it their order. -/
theorem forall₂_corresponds_remark {before remark : List Text} (hremark : IsRemark remark)
    (houtside : openAfter false before = false) (after : List Text) :
    List.Forall₂ (Corresponds (placeAfter before.length remark.length))
      (statementLines 1 false (before ++ after))
      (statementLines 1 false (before ++ (remark ++ after))) := by
  obtain ⟨hnone, hopen⟩ := hremark.scan
  rw [statementLines_append, statementLines_append, statementLines_append, houtside, hnone, hopen,
    List.nil_append, statementLines_add (1 + before.length)]
  refine List.rel_append (List.forall₂_same.mpr ?_)
    (List.forall₂_map_right_iff.mpr (List.forall₂_same.mpr ?_))
  · intro line hline
    have hnumber := (number_of_mem_statementLines hline).right
    exact ⟨(if_pos (by omega)).symm, rfl⟩
  · intro line hline
    have hnumber := (number_of_mem_statementLines hline).left
    exact ⟨(if_neg (by omega)).symm, rfl⟩

/-! ## Sources -/

/-- One change of layout does not change what is read. -/
theorem LayoutEdit.readAlike {source edited : Text} {place : Nat → Nat}
    (h : LayoutEdit source edited place) :
    ReadAlike place (statements source) (statements edited) := by
  cases h with
  | ending hold hnew =>
    exact readAlike_of_scanAlike hold hnew fun _ _ hwritten hchanged =>
      .of_trim_eq (hwritten.trans hchanged.symm) _
  | @margins before line ending after left right hline hleft hright =>
    have hchangedLine : Text.IsLineAt before (left ++ line ++ right) ending after :=
      ⟨hline.wholeLines_before, Text.newline_not_mem_margins hleft hline.newline_not_mem hright,
        hline.ends⟩
    have htrim := Text.trim_margins hleft hright line
    exact readAlike_of_scanAlike hline hchangedLine fun _ _ hwritten hchanged =>
      .of_trim_eq (hwritten.trans (hchanged.trans htrim).symm) _
  | @comment before line ending after comment blank hline houtside hblank hnewline =>
    obtain ⟨hclosed, hopens⟩ := not_inComment_iff.mp houtside
    have hchangedLine :
        Text.IsLineAt before (line ++ blank :: '/' :: '/' :: comment) ending after := by
      refine ⟨hline.wholeLines_before, ?_, hline.ends⟩
      simpa [hline.newline_not_mem] using hnewline
    refine readAlike_of_scanAlike hline hchangedLine fun written changed hwritten hchanged => ?_
    rw [hclosed]
    exact .of_comment hopens hblank hwritten hchanged
  | @remark before remark after hbefore houtside hwhole hremark =>
    have hlines : Text.textLines (remark ++ after) =
        Text.textLines remark ++ Text.textLines after := by
      rcases hwhole with hwhole | rfl
      · exact Text.textLines_append hwhole after
      · simp
    rw [List.append_assoc, statements, statements, Text.textLines_append hbefore,
      Text.textLines_append hbefore, hlines]
    exact readAlike_readLines
      (forall₂_corresponds_remark hremark (openAfter_eq_false_iff.mpr houtside) _)

/-- The line that an error shows is the one with its number. -/
theorem getElem?_of_error {source : Text} {error : SourceError}
    (h : statements source = .error error) :
    (Text.textLines source)[error.number - 1]? = some error.written := by
  obtain ⟨line, hlive, hnumber, hwritten, -⟩ := statements_eq_error_iff.mp h
  obtain ⟨hlines, -, -, -⟩ := hlive
  rw [hnumber, hwritten, hlines]
  simp

theorem Relaid.readAlike {source edited : Text} {place : Nat → Nat}
    (h : Relaid source edited place) :
    ReadAlike place (statements source) (statements edited) := by
  induction h with
  | refl => exact .refl _
  | step _ hedit ih => exact ih.trans hedit.readAlike

/-- However often the layout of a source is changed, it is read as before: it gives the same
statements, or the same fault in the line to which the faulty line has come. -/
theorem statements_of_relaid {source edited : Text} {place : Nat → Nat}
    (h : Relaid source edited place) :
    (∀ stated, statements source = .ok stated ↔ statements edited = .ok stated) ∧
    ∀ error, statements source = .error error →
      ∃ found, statements edited = .error found ∧ found.fault = error.fault ∧
        found.number = place error.number ∧
        (Text.textLines edited)[place error.number - 1]? = some found.written := by
  have hread := h.readAlike
  generalize hsource : statements source = first at hread
  generalize hedited : statements edited = second at hread
  cases hread with
  | ok stated =>
    refine ⟨fun _ => Iff.rfl, ?_⟩
    rintro error ⟨⟩
  | @error error found hnumber hfault =>
    refine ⟨fun stated => iff_of_false nofun nofun, ?_⟩
    rintro _ ⟨⟩
    exact ⟨found, rfl, hfault, hnumber, hnumber ▸ getElem?_of_error hedited⟩

/-- A line gets another ending, the faulty line a comment behind it, and a block comment comes
between the two, of which the second line is moved to the right: the fault is found two lines
further down. -/
theorem statements_of_relaid_three_fields :
    let source := "ä=a\nb 7 7".toList
    let edited := "ä=a\r\n/* one\n  two */\nb 7 7\t// three".toList
    ∃ place, Relaid source edited place ∧ place 2 = 4 ∧
      statements source = .error ⟨2, "b 7 7".toList, .malformedRule 3⟩ ∧
      ∃ found, statements edited = .error found ∧ found.fault = .malformedRule 3 ∧
        found.number = 4 := by
  intro source edited
  let folding := "ä=a".toList
  let rule := "b 7 7".toList
  let remark := "/* one\ntwo */\n".toList
  let start := folding ++ ['\r', '\n']
  have hstart : Text.WholeLines start := Or.inr (by decide)
  have hending : LayoutEdit source (start ++ rule) id := by
    have hold : Text.IsLineAt [] folding ['\n'] rule := ⟨Or.inl rfl, by decide, Or.inl .newline⟩
    exact .ending hold ⟨Or.inl rfl, by decide, Or.inl .returnNewline⟩
  have hcomment : LayoutEdit (start ++ rule) (start ++ "b 7 7\t// three".toList) id := by
    have hline : Text.IsLineAt start rule [] [] := ⟨hstart, by decide, Or.inr ⟨rfl, rfl⟩⟩
    have houtside : ¬ InComment (Text.textLines start) rule := by
      rw [not_inComment_iff, Opens]
      decide +kernel
    have htab : Text.isWhiteSpace '\t' = true := rfl
    have hnewline : '\n' ∉ '\t' :: " three".toList := by decide
    exact .comment hline houtside htab hnewline
  have hremark : LayoutEdit (start ++ "b 7 7\t// three".toList)
      (start ++ remark ++ "b 7 7\t// three".toList) (placeAfter 1 2) := by
    have houtside : ¬ LeavesOpen (Text.textLines start) :=
      openAfter_eq_false_iff.mp (by decide +kernel)
    have hblock : IsRemark (Text.textLines remark) := by
      have hopening : OpensAcross "/* one".toList := ⟨" one".toList, by decide +kernel, by decide⟩
      have hclosing : Closes "two */".toList := by
        rw [Closes]
        decide +kernel
      exact .block hopening (List.forall_mem_nil _) hclosing
    exact .remark hstart houtside (Or.inl (Or.inr (by decide))) hblock
  have hmargins : LayoutEdit (start ++ remark ++ "b 7 7\t// three".toList) edited id := by
    have hline : Text.IsLineAt (start ++ "/* one\n".toList) "two */".toList ['\n']
        "b 7 7\t// three".toList := ⟨Or.inr (by decide), by decide, Or.inl .newline⟩
    have hleft : Text.IsMargin "  ".toList :=
      ⟨List.forall_mem_cons.mpr ⟨rfl, List.forall_mem_singleton.mpr rfl⟩, by decide⟩
    exact .margins hline hleft .nil
  have hrelaid := (((@Relaid.refl source).step hending).step hcomment).step hremark
  have herror : statements source = .error ⟨2, "b 7 7".toList, .malformedRule 3⟩ := by
    decide +kernel
  obtain ⟨found, hfound, hfault, hnumber, -⟩ :=
    (statements_of_relaid (hrelaid.step hmargins)).right _ herror
  exact ⟨_, hrelaid.step hmargins, rfl, herror, found, hfound, hfault, hnumber⟩

end Soundalike.Source
