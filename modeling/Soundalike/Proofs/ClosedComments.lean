import Soundalike.Proofs.LineReadings

set_option autoImplicit false

/-!
# Block comments that close where they open

A block comment is closed on its opening line only if the line ends with `*/`; such a line is read
like an empty one.  Where anything else stands behind the `*/`, the comment goes on to the next line
that ends with `*/`, or to the end of the source (`statements_comment_line`,
`not_forall_comment_line_is_blank`).
-/

namespace Soundalike.Source

variable {before line ending after rest inner closing next : Text}

/-! ## Scanning from a line on -/

/-- Behind a line that opens a comment, or is blank, the scan goes on with what it leaves open. -/
theorem statementLines_at_silent (hline : Text.IsLineAt before line ending after)
    (houtside : ¬ LeavesOpen (Text.textLines before))
    (hsilent : Opens line ∨ Text.trim line = []) :
    statementLines 1 false (Text.textLines (before ++ line ++ ending ++ after)) =
      statementLines 1 false (Text.textLines before) ++
        statementLines (1 + (Text.textLines before).length + 1) (openAfterLine false line)
          (Text.textLines after) := by
  obtain ⟨written, htrim, hlines⟩ := exists_statementLines_at hline
  have hnone : lineOf? (1 + (Text.textLines before).length) written = none := by
    rcases hsilent with hopens | hblank
    · exact lineOf?_of_opens ((opens_congr htrim).mpr hopens) _
    · exact lineOf?_of_trim_eq_nil (htrim.trans hblank) _
  rw [hlines, statementLines_at, openAfter_eq_false_iff.mpr houtside, hnone,
    openAfterLine_congr htrim]
  rfl

/-- Empty lines are only counted. -/
theorem statementLines_at_newlines (hbefore : Text.WholeLines before)
    (houtside : ¬ LeavesOpen (Text.textLines before)) (count : Nat) (after : Text) :
    statementLines 1 false (Text.textLines (before ++ List.replicate count '\n' ++ after)) =
      statementLines 1 false (Text.textLines before) ++
        statementLines (1 + (Text.textLines before).length + count) false
          (Text.textLines after) := by
  rw [List.append_assoc, Text.textLines_append hbefore, statementLines_append,
    openAfter_eq_false_iff.mpr houtside, Text.textLines_newlines_append,
    statementLines_replicate_nil]

/-- A scan that starts in a comment goes on behind the first line that closes it. -/
theorem statementLines_at_closes (hline : Text.IsLineAt inner closing next after)
    (hinner : ∀ written ∈ Text.textLines inner, ¬ Closes written) (hcloses : Closes closing)
    (number : Nat) :
    statementLines number true (Text.textLines (inner ++ closing ++ next ++ after)) =
      statementLines (number + (Text.textLines inner).length + 1) false
        (Text.textLines after) := by
  obtain ⟨written, htrim, hlines⟩ := exists_statementLines_at hline
  have hclosed : openAfterLine true written = false :=
    (openAfterLine_congr htrim true).trans (openAfterLine_of_closes hcloses)
  rw [hlines, statementLines_append, statementLines_of_forall_not_closes hinner,
    openAfter_true_of_forall_not_closes hinner, statementLines_cons, hclosed]
  rfl

/-! ## Sources -/

/-- A line outside comments that starts with `/*` is read like an empty line if it ends with `*/`.
If it does not, wherever else `*/` stands in it, the comment that it opens goes on.  Nothing after
the line is read if no later line ends with `*/`; otherwise the lines to the first such line, which
is the last one of the comment, are read like empty ones. -/
theorem statements_comment_line (hline : Text.IsLineAt before line ending after)
    (houtside : ¬ LeavesOpen (Text.textLines before))
    (hopens : Text.trim line = '/' :: '*' :: rest) :
    (['*', '/'] <:+ rest →
      statements (before ++ line ++ ending ++ after) = statements (before ++ ending ++ after)) ∧
    (¬ ['*', '/'] <:+ rest →
      ((∀ later ∈ Text.textLines after, ¬ Closes later) →
        statements (before ++ line ++ ending ++ after) = statements before) ∧
      ∀ inner closing next following, after = inner ++ closing ++ next ++ following →
        Text.IsLineAt inner closing next following →
        (∀ later ∈ Text.textLines inner, ¬ Closes later) → Closes closing →
        statements (before ++ line ++ ending ++ after) =
          statements (before ++ List.replicate ((Text.textLines inner).length + 2) '\n' ++
            following)) := by
  have hscan := statementLines_at_silent hline houtside (Or.inl ⟨rest, hopens.symm⟩)
  constructor
  · intro hends
    have hempty : Text.IsLineAt before [] ending after :=
      ⟨hline.wholeLines_before, List.not_mem_nil, hline.ends⟩
    have hblank := statementLines_at_silent hempty houtside (Or.inr rfl)
    rw [List.append_nil] at hblank
    rw [statements, statements, hscan, hblank, (openAfterLine_of_trim hopens).mpr hends]
    rfl
  · intro hends
    rw [← openAfterLine_of_trim hopens, Bool.not_eq_false] at hends
    rw [hends] at hscan
    refine ⟨fun hlater => ?_, ?_⟩
    · rw [statements, hscan, statementLines_of_forall_not_closes hlater, List.append_nil]
      rfl
    · rintro inner closing next following rfl hclosing hinner hcloses
      have hnumber : 1 + (Text.textLines before).length + 1 + (Text.textLines inner).length + 1 =
          1 + (Text.textLines before).length + ((Text.textLines inner).length + 2) := by omega
      rw [statements, statements, hscan, statementLines_at_closes hclosing hinner hcloses,
        statementLines_at_newlines hline.wholeLines_before houtside, hnumber]

/-- A comment line closed at its end, one that goes on to the end of the source, and one that goes
on to the third line. -/
theorem statements_comment_line_either_way :
    let rule := "b 7 7 7".toList
    statements ("/* one */\n".toList ++ rule) = statements ('\n' :: rule) ∧
      statements ("ä=a\n".toList ++ "/* one */ // two\r\n".toList ++ rule) =
        statements "ä=a\n".toList ∧
      statements ("/* one */ // two\nc 4\nthree */\n".toList ++ rule) =
        statements ("\n\n\n".toList ++ rule) := by
  intro rule
  have houtside : ∀ before : Text, openAfter false (Text.textLines before) = false →
      ¬ LeavesOpen (Text.textLines before) := fun _ => openAfter_eq_false_iff.mp
  have hopens : Text.trim "/* one */ // two".toList = '/' :: '*' :: " one */ // two".toList := by
    decide +kernel
  have hends : ¬ ['*', '/'] <:+ " one */ // two".toList := by decide
  refine ⟨?_, ?_, ?_⟩
  · have hline : Text.IsLineAt [] "/* one */".toList ['\n'] rule :=
      ⟨Or.inl rfl, by decide, Or.inl .newline⟩
    have hclosed : Text.trim "/* one */".toList = '/' :: '*' :: " one */".toList := by
      decide +kernel
    exact (statements_comment_line hline (houtside _ rfl) hclosed).left (by decide)
  · have hline : Text.IsLineAt "ä=a\n".toList "/* one */ // two".toList ['\r', '\n'] rule :=
      ⟨Or.inr (by decide), by decide, Or.inl .returnNewline⟩
    have hlater : ∀ later ∈ Text.textLines rule, ¬ Closes later := by
      have hlines : Text.textLines rule = [rule] := by decide +kernel
      rw [hlines, List.forall_mem_singleton, Closes]
      decide +kernel
    exact ((statements_comment_line hline (houtside _ (by decide +kernel)) hopens).right
      hends).left hlater
  · have hline : Text.IsLineAt [] "/* one */ // two".toList ['\n']
        ("c 4\nthree */\n".toList ++ rule) := ⟨Or.inl rfl, by decide, Or.inl .newline⟩
    have hclosing : Text.IsLineAt "c 4\n".toList "three */".toList ['\n'] rule :=
      ⟨Or.inr (by decide), by decide, Or.inl .newline⟩
    have hinner : ∀ later ∈ Text.textLines "c 4\n".toList, ¬ Closes later := by
      have hlines : Text.textLines "c 4\n".toList = ["c 4".toList] := by decide +kernel
      rw [hlines, List.forall_mem_singleton, Closes]
      decide +kernel
    have hcloses : Closes "three */".toList := by
      rw [Closes]
      decide +kernel
    exact ((statements_comment_line hline (houtside _ rfl) hopens).right hends).right
      _ _ _ _ rfl hclosing hinner hcloses

/-- A remark behind a block comment that is closed on its line keeps the comment open: the rule on
the next line is lost. -/
theorem not_forall_comment_line_is_blank :
    ¬ ∀ before line ending after inner rest : Text, Text.IsLineAt before line ending after →
      ¬ LeavesOpen (Text.textLines before) →
      Text.trim line = '/' :: '*' :: inner ++ '*' :: '/' :: rest →
      statements (before ++ line ++ ending ++ after) = statements (before ++ ending ++ after) := by
  intro h
  have hline : Text.IsLineAt [] "/* one */ // two".toList ['\n'] "b 7 7 7".toList :=
    ⟨Or.inl rfl, by decide, Or.inl .newline⟩
  have houtside : ¬ LeavesOpen (Text.textLines []) := openAfter_eq_false_iff.mp rfl
  have hsame := h _ _ _ _ " one ".toList " // two".toList hline houtside (by decide +kernel)
  revert hsame
  decide +kernel

end Soundalike.Source
